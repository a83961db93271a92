import LoopRepair.Proofs.Exchange

/-!
# Where a swap begins to act

A run under a swap and the plain run of the same program go the same way until they
arrive at the swapped position. From there on they may have nothing in common.
`swap_acts_from_first_arrival` states both halves of what this means for their
outcomes: a run that never arrives at a jump or no-op to be exchanged is the plain run,
and one that does has made the moves of the plain run before.

The second half compares two runs with histories of their own. They are followed at
once, step for step, while their histories are still the same (`RunsTo.agree_before`).
-/

namespace LoopRepair

namespace Program

/-- `Idle prog out p`: a swap at `p` finds nothing to exchange on the run that ended with
`out`, since the run does not visit `p`, or since an accumulation stands there, or since
`p` lies outside the program. -/
inductive Idle (prog : Program) (out : Outcome) (p : Int) : Prop
  | unvisited : (∀ pos ∈ out.positions, p ≠ (pos : Int)) → Idle prog out p
  | accumulation {pos : Nat} {d : Int} :
      p = (pos : Int) → prog[pos]? = some ⟨.acc, d⟩ → Idle prog out p
  | outside : p < 0 ∨ (prog.length : Int) ≤ p → Idle prog out p

variable {prog : Program} {swap : Swap} {visited : List Nat} {s : State} {out out' : Outcome}

/-! ## Runs that are not touched -/

/-- What a run under an idle swap finds at the swapped position, if it comes there. -/
theorem Idle.exists_acc {p : Int} (idle : Idle prog out p) (runs : RunsTo prog swap visited s out)
    (pos : Nat) (visits : pos ∈ out.positions) (here : p = (pos : Int)) :
    ∃ d, prog[pos]? = some ⟨.acc, d⟩ := by
  cases idle with
  | unvisited elsewhere => exact absurd here (elsewhere pos visits)
  | @accumulation pos' d same holds =>
    have same := Int.ofNat_inj.mp (same.symm.trans here)
    exact ⟨d, same ▸ holds⟩
  | outside beyond =>
    have inside := runs.pos_lt visits
    omega

/-! ## Runs that part -/

/-- A run with a swap at `pos` makes the moves that the plain run makes before it arrives
at `pos`, and arrives there next. -/
theorem RunsTo.agree_before {k pos next : Nat} (runs : RunsTo prog none visited s out)
    (runs' : RunsTo prog (some (pos : Int)) visited s out')
    (arrives : out.moves[k]? = some (pos, next)) :
    out'.moves.take k = out.moves.take k ∧ ∃ next', out'.moves[k]? = some (pos, next') := by
  induction runs generalizing k out' with
  | loop _ | halt _ _ => simp at arrives
  | @move visited s t out new step rest ih =>
    -- Where the plain run moves, the other one neither halts nor closes a cycle.
    cases runs' with
    | loop again => exact absurd again new
    | halt _ outside => exact absurd outside (Nat.not_le.mpr step.pos_lt)
    | @move _ _ t' out' _ step' rest' =>
      cases k with
      | zero =>
        cases arrives
        exact ⟨rfl, t'.pos, rfl⟩
      | succ k =>
        have later : (pos, next) ∈ out.moves := List.mem_of_getElem? arrives
        have away : pos ≠ s.pos := by
          rintro rfl
          exact rest.fresh (List.mem_map_of_mem later) List.mem_cons_self
        have same : t' = t := by
          have elsewhere : (pos : Int) ≠ s.pos := fun here => away (Int.ofNat_inj.mp here)
          have shared : Step prog (some (pos : Int)) s t := step.of_swap (by simp [elsewhere])
          rw [shared.eq_next, step'.eq_next]
        subst same
        obtain ⟨before, next', arrives'⟩ := ih rest' arrives
        refine ⟨?_, next', arrives'⟩
        rw [Outcome.moves_after, Outcome.moves_after, List.take_succ_cons, List.take_succ_cons,
          before]

/-! ## Executions -/

/-- A swap acts from the first arrival at its position on. If there is nothing to exchange
on the plain run, the execution under the swap returns what the plain one does. If the
plain one arrives at the position with its move of index `k`, the one under the swap makes
the same `k` moves before, and its own move of index `k` leaves the position as the
exchanged instruction says. So a program that loops cannot be stopped by a swap at a
position which it never visits. -/
theorem swap_acts_from_first_arrival (known : prog.Known) (p : Int) :
    ∃ plain swapped, (prog.execute none).result = .ok plain ∧
      (prog.execute (some p)).result = .ok swapped ∧
      (Idle prog plain p → swapped = plain) ∧
      (∀ k pos next : Nat, plain.moves[k]? = some (pos, next) → p = (pos : Int) →
        swapped.moves.take k = plain.moves.take k ∧
        ∃ next', swapped.moves[k]? = some (pos, next') ∧ prog.Leads (some p) pos next') ∧
      ((∃ entry, plain.ending = .looped entry) → (∀ pos ∈ plain.positions, p ≠ (pos : Int)) →
        swapped.ending ≠ .halted) := by
  obtain ⟨plain, returned, runs⟩ := known.exists_execute none
  obtain ⟨swapped, returned', runs'⟩ := known.exists_execute (some p)
  have unchanged (idle : Idle prog plain p) : swapped = plain :=
    runs'.unique (runs.swap_idle (idle.exists_acc runs))
  refine ⟨plain, swapped, returned, returned', unchanged, ?_, ?_⟩
  · rintro k pos next arrives rfl
    obtain ⟨before, next', arrives'⟩ := runs.agree_before runs' arrives
    exact ⟨before, next', arrives', runs'.leads (List.mem_of_getElem? arrives')⟩
  · rintro ⟨entry, looped⟩ unvisited
    rw [unchanged (.unvisited unvisited), looped]
    exact Ending.noConfusion

/-- `exSample` does not visit 5 and holds an accumulation at 6, so a swap there does nothing.
It arrives at 7 with its fifth move, and goes on from there in its own way if 7 is swapped. -/
theorem exSample_parts :
    exSample.Known ∧
    (exSample.execute (some 5)).result = (exSample.execute none).result ∧
    (exSample.execute (some 6)).result = (exSample.execute none).result ∧
    ∃ plain swapped, (exSample.execute none).result = .ok plain ∧
      (exSample.execute (some 7)).result = .ok swapped ∧ plain.moves[4]? = some (7, 3) ∧
      swapped.moves.take 4 = plain.moves.take 4 ∧
      ∃ next, swapped.moves[4]? = some (7, next) ∧ exSample.Leads (some 7) 7 next := by
  have known : exSample.Known := by decide
  have loops : (exSample.execute none).result =
      .ok ⟨.looped 1, 5, [(0, 1), (1, 2), (2, 6), (6, 7), (7, 3), (3, 4), (4, 1)]⟩ := by cbv
  refine ⟨known, ?_, ?_, ?_⟩
  · obtain ⟨plain, swapped, returned, returned', idle, _⟩ := swap_acts_from_first_arrival known 5
    rw [loops] at returned
    cases returned
    rw [returned', idle (.unvisited (by decide)), loops]
  · obtain ⟨plain, swapped, returned, returned', idle, _⟩ := swap_acts_from_first_arrival known 6
    rw [loops] at returned
    cases returned
    have holds : exSample[6]? = some ⟨.acc, 1⟩ := rfl
    rw [returned', idle (.accumulation rfl holds), loops]
  · obtain ⟨plain, swapped, returned, returned', _, parts, _⟩ :=
      swap_acts_from_first_arrival known 7
    rw [loops] at returned
    cases returned
    exact ⟨_, swapped, loops, returned', rfl, parts 4 7 3 rfl rfl⟩

end Program

end LoopRepair
