import LoopRepair.Proofs.Halting

/-!
# Swapping and editing

A swap exchanges jump and no-op at one position for the length of a run, and
leaves the program alone. `execute_swap_eq_execute_flip` says that editing the
program in the same place has the same effect, for the whole of the outcome.

A swap at a position that a run does not visit, or at which it finds an accumulation,
has no effect on that run (`RunsTo.swap_idle`).
-/

namespace LoopRepair

namespace Program

/-! ## The edited program -/

/-- `FlippedAt prog p flipped`: in `flipped` jump and no-op are exchanged at `p`,
under the same operand, and all else is as in `prog`. If `p` lies outside the
program or holds an accumulation, nothing is exchanged. -/
structure FlippedAt (prog : Program) (p : Int) (flipped : Program) : Prop where
  length_eq : flipped.length = prog.length
  elsewhere : ∀ pos : Nat, p ≠ (pos : Int) → flipped[pos]? = prog[pos]?
  jump : ∀ (pos : Nat) (d : Int), p = (pos : Int) →
    prog[pos]? = some ⟨.jmp, d⟩ → flipped[pos]? = some ⟨.nop, d⟩
  pass : ∀ (pos : Nat) (d : Int), p = (pos : Int) →
    prog[pos]? = some ⟨.nop, d⟩ → flipped[pos]? = some ⟨.jmp, d⟩
  add : ∀ (pos : Nat) (d : Int), p = (pos : Int) →
    prog[pos]? = some ⟨.acc, d⟩ → flipped[pos]? = some ⟨.acc, d⟩

theorem getElem?_flipAt (prog : Program) (p : Int) (pos : Nat) :
    (prog.flipAt p)[pos]? = if p = (pos : Int) then prog[pos]?.map Instr.flip else prog[pos]? := by
  -- Without a swap, what is fetched is what stands there.
  have fetched := fetch_flipAt prog p pos
  simp only [fetch, reduceCtorEq, if_false, Option.map_id', Option.some.injEq] at fetched
  rw [fetched]
  split <;> simp

theorem flippedAt_flipAt (prog : Program) (p : Int) : prog.FlippedAt p (prog.flipAt p) where
  length_eq := length_flipAt prog p
  elsewhere pos away := by rw [getElem?_flipAt, if_neg away]
  jump pos d here stands := by
    rw [getElem?_flipAt, if_pos here, stands]
    rfl
  pass pos d here stands := by
    rw [getElem?_flipAt, if_pos here, stands]
    rfl
  add pos d here stands := by
    rw [getElem?_flipAt, if_pos here, stands]
    rfl

variable {prog : Program} {swap : Swap} {visited : List Nat} {s t : State} {out : Outcome}

/-! ## Simulation -/

/-- The edited program takes the steps of the program under the swap. -/
theorem step_flipAt_iff {p : Int} :
    Step (prog.flipAt p) none s t ↔ Step prog (some p) s t := by
  rw [step_iff, step_iff, fetch_flipAt, length_flipAt]

theorem RunsTo.flipAt {p : Int} (runs : RunsTo prog (some p) visited s out) :
    RunsTo (prog.flipAt p) none visited s out :=
  runs.transfer (length_flipAt prog p) fun _ _ _ => step_flipAt_iff.mpr

/-- Exchanging jump and no-op for one run, or in the program itself, comes to the
same: both executions return, and return the same ending, accumulator and moves. -/
theorem execute_swap_eq_execute_flip (known : prog.Known) (p : Int) :
    prog.FlippedAt p (prog.flipAt p) ∧
    ∃ out, (prog.execute (some p)).result = .ok out ∧
      ((prog.flipAt p).execute none).result = .ok out := by
  obtain ⟨out, returned, runs⟩ := known.exists_execute (some p)
  exact ⟨flippedAt_flipAt prog p, out, returned, execute_eq_ok_iff.mpr runs.flipAt⟩

/-- A program that closes a cycle at position 1. Of the jumps on the cycle the
one at 7 is all that keeps it from the end. -/
def exSample : Program :=
  [⟨.nop, 0⟩, ⟨.acc, 1⟩, ⟨.jmp, 4⟩, ⟨.acc, 3⟩, ⟨.jmp, -3⟩, ⟨.acc, -99⟩, ⟨.acc, 1⟩, ⟨.jmp, -4⟩,
    ⟨.acc, 6⟩]

/-- With the jump at 7 turned into a no-op for good, it halts. -/
theorem exSample_flipped :
    exSample.Known ∧ ∃ out, (exSample.execute (some 7)).result = .ok out ∧
      ((exSample.flipAt 7).execute none).result = .ok out ∧
      out.ending = .halted ∧ out.acc = 8 := by
  have known : exSample.Known := by decide
  have swapped : (exSample.execute (some 7)).result =
      .ok ⟨.halted, 8, [(0, 1), (1, 2), (2, 6), (6, 7), (7, 8), (8, 9)]⟩ := by cbv
  obtain ⟨_, out, returned, flipped⟩ := execute_swap_eq_execute_flip known 7
  rw [swapped] at returned
  cases returned
  exact ⟨known, _, swapped, flipped, rfl, rfl⟩

/-! ## Swaps off the run -/

/-- Steps are the same under swaps that agree on whether they name the position. -/
theorem Step.of_swap {swap' : Swap} (step : Step prog swap s t)
    (agree : swap = some (s.pos : Int) ↔ swap' = some (s.pos : Int)) : Step prog swap' s t := by
  obtain ⟨ins, fetched, applied⟩ := step_iff.mp step
  refine step_iff.mpr ⟨ins, ?_, applied⟩
  rw [← fetched]
  simp only [fetch, agree]

/-- An accumulation takes no notice of a swap. -/
theorem Step.of_acc {swap' : Swap} {d : Int} (step : Step prog swap s t)
    (holds : prog[s.pos]? = some ⟨.acc, d⟩) : Step prog swap' s t := by
  cases step with
  | add here => exact .add here
  | jump here _ _ | pass here _ | swappedJump here _ | swappedPass here _ _ =>
    rw [here] at holds
    cases holds

/-- A swap changes nothing if the plain run finds at most an accumulation there. -/
theorem RunsTo.swap_idle {p : Int} (runs : RunsTo prog none visited s out)
    (idle : ∀ pos ∈ out.positions, p = (pos : Int) → ∃ d, prog[pos]? = some ⟨.acc, d⟩) :
    RunsTo prog (some p) visited s out := by
  refine runs.transfer rfl fun u t visits step => ?_
  by_cases here : p = (u.pos : Int)
  · obtain ⟨d, holds⟩ := idle u.pos visits here
    exact step.of_acc holds
  · exact step.of_swap (by simp [here])

/-- A swap at a position that the plain run does not visit changes nothing. -/
theorem RunsTo.swap_unvisited {p : Nat} (runs : RunsTo prog none visited s out)
    (unvisited : p ∉ out.positions) : RunsTo prog (some (p : Int)) visited s out := by
  refine runs.swap_idle fun pos visits same => ?_
  exact absurd (Int.ofNat_inj.mp same ▸ visits) unvisited

end Program

end LoopRepair
