import Mathlib.Data.List.Perm.Subperm
import LoopRepair.Proofs.Halting

/-!
# Moves as a history

The moves an execution reports are the history of its run: linked from the first
position on, no position left twice, each move the one its instruction asks for.
`History` collects these conditions, and the two ways in which the last move may
end the list. They leave no choice: an outcome that meets them is the outcome of
the execution.

`execute_records_history` states both halves. One is an invariant of the run, read
off its derivation. For the other, the moves are laid end to end before the move
that the run refuses to make (`RunsTo.along`).
-/

namespace LoopRepair

namespace Program

/-- The outcome is the history of a run of the program under the swap.

* `first`, `linked`: the moves start at the first position, and each goes on from
  where the one before it led.
* `once`, `inside`, `count`: no position is left twice, all lie in the program, so
  there are at most as many moves as instructions.
* `moved`: each move stays within the program and its end, and goes where the
  instruction in force leads.
* `added`: the accumulator is the sum of the accumulations passed.
* `halted`: a run that left the program moved to its very end, or there was no
  instruction to begin with.
* `looped`: a run that closed a cycle has moved, last of all to its entry, which
  it had left before. -/
structure History (prog : Program) (swap : Swap) (out : Outcome) : Prop where
  first : ∀ move ∈ out.moves.head?, move.1 = 0
  linked : out.moves.IsChain fun move later => move.2 = later.1
  once : out.positions.Nodup
  inside : ∀ pos ∈ out.positions, pos < prog.length
  count : out.moves.length ≤ prog.length
  moved : ∀ move ∈ out.moves, move.2 ≤ prog.length ∧ prog.Leads swap move.1 move.2
  added : out.acc = prog.tally out.positions
  halted : out.ending = .halted →
    (out.moves = [] ↔ prog.length = 0) ∧ ∀ move ∈ out.moves.getLast?, move.2 = prog.length
  looped : ∀ entry, out.ending = .looped entry →
    out.moves ≠ [] ∧ (∀ move ∈ out.moves.getLast?, move.2 = entry) ∧ entry ∈ out.positions

variable {prog : Program} {swap : Swap} {out : Outcome}

/-! ## A run leaves a history -/

theorem RunsTo.length_moves_le (runs : RunsTo prog swap [] .start out) :
    out.moves.length ≤ prog.length := by
  have subset : out.positions ⊆ List.range prog.length := by
    intro pos visits
    exact List.mem_range.mpr (runs.pos_lt visits)
  simpa [Outcome.positions] using (runs.once.subperm subset).length_le

theorem RunsTo.moves_eq_nil_iff (runs : RunsTo prog swap [] .start out)
    (halted : out.ending = .halted) : out.moves = [] ↔ prog.length = 0 := by
  have linked := runs.linked_of_halted halted (Nat.zero_le _)
  constructor
  · intro unmoved
    have ends := linked.mem_keys_or_eq
    rw [unmoved] at ends
    exact (ends.resolve_left List.not_mem_nil).symm
  · intro empty
    apply List.eq_nil_of_length_eq_zero
    exact Nat.le_zero.mp (empty ▸ runs.length_moves_le)

theorem RunsTo.history (runs : RunsTo prog swap [] .start out) : History prog swap out := by
  have links : ∃ stop, Cycle.Linked 0 out.moves stop := by
    cases ended : out.ending with
    | halted => exact ⟨_, runs.linked_of_halted ended (Nat.zero_le _)⟩
    | looped entry => exact ⟨_, runs.linked ended⟩
  obtain ⟨stop, linked⟩ := links
  refine
    { first := linked.first
      linked := linked.isChain
      once := runs.once
      inside := fun _ => runs.pos_lt
      count := runs.length_moves_le
      moved := ?_
      added := by simpa [State.start] using runs.acc_eq
      halted := ?_
      looped := ?_ }
  · intro move made
    have leads := runs.leads made
    exact ⟨(leads 0).target_le, leads⟩
  · intro halted
    exact ⟨runs.moves_eq_nil_iff halted, (runs.linked_of_halted halted (Nat.zero_le _)).last⟩
  · intro entry looped
    have visits := runs.entry_mem_positions looped
    refine ⟨?_, (runs.linked looped).last, visits⟩
    intro empty
    simp [Outcome.positions, empty] at visits

/-! ## A history comes from a run -/

theorem History.linked_to (history : History prog swap out) {stop : Nat}
    (empty : out.moves = [] → stop = 0) (last : ∀ move ∈ out.moves.getLast?, move.2 = stop) :
    Cycle.Linked 0 out.moves stop := by
  cases made : out.moves with
  | nil =>
    rw [empty made]
    exact .nil
  | cons move moves =>
    have chain := history.linked
    rw [made] at chain last
    have ends := List.getLast?_eq_some_getLast (List.cons_ne_nil move moves)
    have starts : move.1 = 0 := history.first move (by simp [made])
    rw [← starts, ← last _ ends]
    exact Cycle.linked_of_isChain chain ends

theorem History.runsTo (history : History prog swap out) : RunsTo prog swap [] .start out := by
  have leads : ∀ move ∈ out.moves, prog.Leads swap move.1 move.2 := by
    intro move made
    exact (history.moved move made).2
  obtain ⟨ending, acc, moves⟩ := out
  have added : acc = prog.tally (moves.map Prod.fst) := history.added
  subst added
  have behind : ∀ pos, pos ∈ (moves.map Prod.fst).reverse ++ [] ↔ pos ∈ moves.map Prod.fst := by
    simp
  show RunsTo prog swap [] ⟨0, 0⟩ _
  -- What is left of the run after its moves is that it makes no other.
  cases ending with
  | halted =>
    obtain ⟨empty, last⟩ := history.halted rfl
    have outside : prog.length ∉ (moves.map Prod.fst).reverse ++ [] := by
      intro visits
      exact Nat.lt_irrefl _ (history.inside _ ((behind _).mp visits))
    have runs := RunsTo.along (a := 0) (history.linked_to empty.mp last) leads history.once
      (fun _ _ => List.not_mem_nil) (.halt outside (Nat.le_refl _))
    simpa using runs
  | looped entry =>
    obtain ⟨nonempty, last, visits⟩ := history.looped entry rfl
    have linked := history.linked_to (fun empty => absurd empty nonempty) last
    have runs := RunsTo.along (a := 0) linked leads history.once
      (fun _ _ => List.not_mem_nil) (.loop ((behind _).mpr visits))
    simpa using runs

/-! ## Executions -/

/-- An execution returns, and what it returns is the history of its run: every
condition of `History` holds of it, and of nothing else. -/
theorem execute_records_history (known : prog.Known) (swap : Swap) :
    (∃ out, (prog.execute swap).result = .ok out ∧ History prog swap out) ∧
    ∀ out, History prog swap out → (prog.execute swap).result = .ok out := by
  constructor
  · obtain ⟨out, returned, runs⟩ := known.exists_execute swap
    exact ⟨out, returned, runs.history⟩
  · intro out history
    exact execute_eq_ok_iff.mpr history.runsTo

/-- A jump back to the start after one accumulation, with an accumulation beyond
it. Plain, it goes round; if the jump acts as a no-op, it runs through. -/
def exRound : Program :=
  [⟨.acc, 2⟩, ⟨.jmp, -5⟩, ⟨.acc, 40⟩]

/-- The two histories of one program. The jump leads before the start, so it is
clamped to it. -/
theorem exRound_histories :
    exRound.Known ∧
    History exRound none ⟨.looped 0, 2, [(0, 1), (1, 0)]⟩ ∧
    History exRound (some 1) ⟨.halted, 42, [(0, 1), (1, 2), (2, 3)]⟩ := by
  have known : exRound.Known := by decide
  refine ⟨known, ?_, ?_⟩
  · obtain ⟨⟨out, returned, history⟩, _⟩ := execute_records_history known none
    have plain : (exRound.execute none).result =
        .ok ⟨.looped 0, 2, [(0, 1), (1, 0)]⟩ := by cbv
    rw [plain] at returned
    cases returned
    exact history
  · obtain ⟨⟨out, returned, history⟩, _⟩ := execute_records_history known (some 1)
    have swapped : (exRound.execute (some 1)).result =
        .ok ⟨.halted, 42, [(0, 1), (1, 2), (2, 3)]⟩ := by cbv
    rw [swapped] at returned
    cases returned
    exact history

end Program

end LoopRepair
