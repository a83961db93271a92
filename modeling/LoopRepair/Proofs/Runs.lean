import LoopRepair.Run
import LoopRepair.Proofs.Cycles
import LoopRepair.Proofs.Steps

/-!
# Runs as derivations

A run takes steps of the machine until it stands at a position it has visited or
at the end. `RunsTo` states this as a relation, with one rule for each ending and
one for a move, so that a fact about runs is proved by induction on how the run
went.

Results:
1. `runFrom_eq_ok_iff`: the relation holds of what a run returns, and of nothing
   else; `Known.exists_runFrom`: a program of known opcodes always returns.
2. `RunsTo.fresh`, `RunsTo.once`, `RunsTo.leads`: a run visits a position once, and
   every move it records goes where the machine goes; `RunsTo.acc_eq`: what it adds
   is the tally of the positions it visits.
3. `RunsTo.linked`, `RunsTo.entry_mem`: the moves of a looping run lead from its
   start to its entry, which it visited before. `RunsTo.walk`: so the cycle can
   be read off the moves. `Step.mem_keys`: such moves cannot be left.
4. `RunsTo.transfer`: two programs of one length that take the same steps at the
   positions of a run share that run.
-/

namespace LoopRepair

/-! ## Outcomes -/

namespace Outcome

/-- The positions a run visited, in order. -/
def positions (out : Outcome) : List Nat :=
  out.moves.map Prod.fst

/-- The positions a run visited before it came to `entry`. -/
def leadIn (out : Outcome) (entry : Nat) : List Nat :=
  out.positions.takeWhile (· ≠ entry)

/-- The positions a run visited from `entry` on. -/
def cycle (out : Outcome) (entry : Nat) : List Nat :=
  out.positions.dropWhile (· ≠ entry)

variable (pos next : Nat) (out : Outcome)

theorem leadIn_append_cycle (entry : Nat) : out.leadIn entry ++ out.cycle entry = out.positions :=
  List.takeWhile_append_dropWhile

@[simp] theorem positions_after : (out.after pos next).positions = pos :: out.positions := rfl

end Outcome

namespace Program

/-! ## Derivations -/

/-- `RunsTo prog swap visited s out`: the run from `s`, with `visited` behind it,
ends with `out`. A position met again is noticed before anything else. -/
inductive RunsTo (prog : Program) (swap : Swap) : List Nat → State → Outcome → Prop
  | loop {visited : List Nat} {s : State} :
      s.pos ∈ visited → RunsTo prog swap visited s ⟨.looped s.pos, s.acc, []⟩
  | halt {visited : List Nat} {s : State} :
      s.pos ∉ visited → prog.length ≤ s.pos → RunsTo prog swap visited s ⟨.halted, s.acc, []⟩
  | move {visited : List Nat} {s t : State} {out : Outcome} :
      s.pos ∉ visited → Step prog swap s t → RunsTo prog swap (s.pos :: visited) t out →
      RunsTo prog swap visited s (out.after s.pos t.pos)

variable {prog : Program} {swap : Swap} {visited : List Nat} {s : State} {out : Outcome}

theorem RunsTo.of_runFrom (returned : prog.runFrom swap visited s = .ok out) :
    RunsTo prog swap visited s out := by
  fun_induction runFrom prog swap visited s generalizing out with
  | case1 visited s again =>
    cases returned
    exact .loop again
  | case2 visited s new outside =>
    cases returned
    exact .halt new (fetch_eq_none_iff.mp outside)
  | case3 => cases returned
  | case4 visited s new ins fetched t applied ih =>
    -- The whole run returned, so what is left after this move did.
    cases rest : prog.runFrom swap (s.pos :: visited) t with
    | error fault => simp [rest, Except.map] at returned
    | ok out' =>
      simp only [rest, Except.map, Except.ok.injEq] at returned
      subst returned
      exact .move new (step_iff.mpr ⟨ins, fetched, applied⟩) (ih rest)

theorem RunsTo.runFrom_eq (runs : RunsTo prog swap visited s out) :
    prog.runFrom swap visited s = .ok out := by
  induction runs with
  | loop again => rw [Program.runFrom_eq, if_pos again]
  | halt new outside => rw [Program.runFrom_eq, if_neg new, fetch_eq_none_iff.mpr outside]
  | move new step _ ih =>
    obtain ⟨ins, fetched, applied⟩ := step_iff.mp step
    rw [Program.runFrom_eq, if_neg new, fetched]
    simp only [applied, ih, Except.map]

theorem runFrom_eq_ok_iff :
    prog.runFrom swap visited s = .ok out ↔ RunsTo prog swap visited s out :=
  ⟨.of_runFrom, RunsTo.runFrom_eq⟩

theorem RunsTo.unique {out' : Outcome} (runs : RunsTo prog swap visited s out)
    (runs' : RunsTo prog swap visited s out') : out = out' := by
  have returned := runs.runFrom_eq
  rw [runs'.runFrom_eq] at returned
  cases returned
  rfl

/-- Every run of a program of known opcodes returns an outcome. -/
theorem Known.exists_runFrom (known : prog.Known) (swap : Swap) (visited : List Nat) (s : State) :
    ∃ out, prog.runFrom swap visited s = .ok out := by
  fun_induction runFrom prog swap visited s with
  | case1 | case2 => exact ⟨_, rfl⟩
  | case3 visited s new ins fetched stuck =>
    obtain ⟨t, step⟩ := known.exists_step swap (lt_length_of_fetch fetched)
    obtain ⟨ins', fetched', applied⟩ := step_iff.mp step
    rw [fetched] at fetched'
    cases fetched'
    rw [stuck] at applied
    cases applied
  | case4 visited s new ins fetched t applied ih =>
    obtain ⟨out, rest⟩ := ih
    exact ⟨_, by rw [rest]; rfl⟩

/-! ## What a run records -/

/-- A run visits no position that lies behind it. -/
theorem RunsTo.fresh (runs : RunsTo prog swap visited s out) {pos : Nat}
    (visits : pos ∈ out.positions) : pos ∉ visited := by
  induction runs with
  | loop _ | halt _ _ => cases visits
  | move new _ _ ih =>
    rcases List.mem_cons.mp visits with rfl | later
    · exact new
    · exact fun old => ih later (List.mem_cons_of_mem _ old)

theorem RunsTo.once (runs : RunsTo prog swap visited s out) : out.positions.Nodup := by
  induction runs with
  | loop _ | halt _ _ => exact List.nodup_nil
  | move _ _ rest ih => exact List.nodup_cons.mpr ⟨fun again => rest.fresh again (by simp), ih⟩

/-- Every recorded move is where the instruction in force leads. -/
theorem RunsTo.leads (runs : RunsTo prog swap visited s out) {pos next : Nat}
    (made : (pos, next) ∈ out.moves) : prog.Leads swap pos next := by
  induction runs with
  | loop _ | halt _ _ => cases made
  | move _ step _ ih =>
    rcases List.mem_cons.mp made with first | later
    · cases first
      exact step.leads
    · exact ih later

theorem RunsTo.pos_lt (runs : RunsTo prog swap visited s out) {pos : Nat}
    (visits : pos ∈ out.positions) : pos < prog.length := by
  obtain ⟨⟨_, next⟩, made, rfl⟩ := List.mem_map.mp visits
  exact (runs.leads made 0).pos_lt

/-- The accumulator is what it was before the run and what the run added. -/
theorem RunsTo.acc_eq (runs : RunsTo prog swap visited s out) :
    out.acc = s.acc + prog.tally out.positions := by
  induction runs with
  | loop _ | halt _ _ => simp [Outcome.positions]
  | move _ step _ ih =>
    rw [Outcome.acc_after, Outcome.positions_after, ih, step.acc_eq, tally_cons, Int.add_assoc]

/-- Moves that can be made may be put before a run, if the run takes place with
their positions behind it. -/
theorem RunsTo.along {moves : List (Nat × Nat)} {p q : Nat} {a : Int}
    (linked : Cycle.Linked p moves q) (leads : ∀ move ∈ moves, prog.Leads swap move.1 move.2)
    (once : (moves.map Prod.fst).Nodup) (fresh : ∀ pos ∈ moves.map Prod.fst, pos ∉ visited)
    (runs : RunsTo prog swap ((moves.map Prod.fst).reverse ++ visited)
      ⟨q, a + prog.tally (moves.map Prod.fst)⟩ out) :
    RunsTo prog swap visited ⟨p, a⟩ { out with moves := moves ++ out.moves } := by
  induction linked generalizing visited a with
  | nil => simpa using runs
  | @cons p next q moves _ ih =>
    rw [List.map_cons, List.nodup_cons] at once
    have freshRest : ∀ pos ∈ moves.map Prod.fst, pos ∉ p :: visited := by
      intro pos later
      rw [List.mem_cons, not_or]
      refine ⟨?_, fresh pos (List.mem_cons_of_mem _ later)⟩
      rintro rfl
      exact once.1 later
    have rest := ih (fun move later => leads move (List.mem_cons_of_mem _ later)) once.2 freshRest
      (a := a + prog.addend p) (by simpa [Int.add_assoc] using runs)
    exact .move (fresh p (by simp)) (leads (p, next) (by simp) a) rest

/-! ## Where a run leads -/

theorem RunsTo.linked (runs : RunsTo prog swap visited s out) {entry : Nat}
    (looped : out.ending = .looped entry) : Cycle.Linked s.pos out.moves entry := by
  induction runs with
  | loop _ =>
    cases looped
    exact .nil
  | halt _ _ => cases looped
  | move _ _ _ ih => exact (ih looped).cons

/-- A halting run that starts inside the program or at its end leads to the end. -/
theorem RunsTo.linked_of_halted (runs : RunsTo prog swap visited s out)
    (halted : out.ending = .halted) (inside : s.pos ≤ prog.length) :
    Cycle.Linked s.pos out.moves prog.length := by
  induction runs with
  | loop _ => cases halted
  | halt _ outside =>
    rw [Nat.le_antisymm inside outside]
    exact .nil
  | move _ step _ ih => exact (ih halted step.target_le).cons

theorem RunsTo.entry_mem (runs : RunsTo prog swap visited s out) {entry : Nat}
    (looped : out.ending = .looped entry) : entry ∈ visited ∨ entry ∈ out.positions := by
  induction runs with
  | loop again =>
    cases looped
    exact .inl again
  | halt _ _ => cases looped
  | move _ _ _ ih =>
    rcases ih looped with old | later
    · exact (List.mem_cons.mp old).elim (fun here => .inr (by simp [here])) .inl
    · exact .inr (List.mem_cons_of_mem _ later)

theorem RunsTo.entry_mem_positions (runs : RunsTo prog swap [] s out) {entry : Nat}
    (looped : out.ending = .looped entry) : entry ∈ out.positions :=
  (runs.entry_mem looped).resolve_left List.not_mem_nil

/-- The cycle of a looping run can be read off its moves. -/
theorem RunsTo.walk (runs : RunsTo prog swap [] s out) {entry : Nat}
    (looped : out.ending = .looped entry) :
    Cycle.walk out.moves entry = .ok (out.cycle entry) :=
  Cycle.walk_of_linked runs.once (runs.linked looped) (runs.entry_mem_positions looped)

/-- The lead-in and the cycle share no position. -/
theorem RunsTo.not_mem_leadIn (runs : RunsTo prog swap visited s out) {entry pos : Nat}
    (onCycle : pos ∈ out.cycle entry) : pos ∉ out.leadIn entry := by
  have once := runs.once
  rw [← out.leadIn_append_cycle entry, List.nodup_append] at once
  exact fun before => once.2.2 pos before pos onCycle rfl

/-- Moves that end where one of them starts cannot be left: a step from a position
of theirs leads to another one. -/
theorem Step.mem_keys {t : State} {moves : List (Nat × Nat)} {p q : Nat}
    (step : Step prog swap s t) (linked : Cycle.Linked p moves q)
    (leads : ∀ move ∈ moves, prog.Leads swap move.1 move.2) (closes : q ∈ moves.map Prod.fst)
    (here : s.pos ∈ moves.map Prod.fst) : t.pos ∈ moves.map Prod.fst := by
  obtain ⟨⟨pos, next⟩, made, same⟩ := List.mem_map.mp here
  -- The move was made with another accumulator, and went the same way.
  have goes : t.pos = next := (leads _ made s.acc).pos_eq step same.symm
  rw [goes]
  exact (linked.target_mem_keys_or_eq made).elim id (fun ends => ends ▸ closes)

/-! ## Runs that two programs share -/

/-- Programs of one length that take the same steps at the positions a run visits
have that run in common. What they do elsewhere does not matter. -/
theorem RunsTo.transfer {prog' : Program} {swap' : Swap} (runs : RunsTo prog swap visited s out)
    (size : prog'.length = prog.length)
    (agree : ∀ u t, u.pos ∈ out.positions → Step prog swap u t → Step prog' swap' u t) :
    RunsTo prog' swap' visited s out := by
  induction runs with
  | loop again => exact .loop again
  | halt new outside => exact .halt new (size ▸ outside)
  | move new step _ ih =>
    refine .move new (agree _ _ (by simp) step) (ih ?_)
    intro u t visits
    exact agree u t (List.mem_cons_of_mem _ visits)

end Program

end LoopRepair
