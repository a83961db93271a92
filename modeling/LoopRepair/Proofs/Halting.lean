import LoopRepair.Repair
import LoopRepair.Proofs.Runs

/-!
# A run decides whether the machine halts

A run stops at the first position it meets again, after at most as many moves as
the program has instructions. The machine itself has no memory and may go on for
ever. `execute_decides_halting` says that the bounded answer is right: a run that
halts has found the state in which the machine halts, and a run that loops belongs
to a machine that is never seen outside the program.

The second half is about infinitely many steps. Its reason is that the positions
of a looping run are closed under stepping: every recorded move leads to a
recorded position, and where a step leads is a matter of the position alone.
-/

namespace LoopRepair

namespace Program

variable {prog : Program} {swap : Swap} {visited : List Nat} {s : State} {out : Outcome}

/-! ## Executions and runs -/

theorem execute_eq_ok_iff :
    (prog.execute swap).result = .ok out ↔ RunsTo prog swap [] .start out := by
  rw [← runFrom_eq_ok_iff, ← run, execute_def]
  cases prog.run swap <;> simp

theorem Known.exists_execute (known : prog.Known) (swap : Swap) :
    ∃ out, (prog.execute swap).result = .ok out ∧ RunsTo prog swap [] .start out := by
  obtain ⟨out, returned⟩ := known.exists_runFrom swap [] .start
  have runs := RunsTo.of_runFrom returned
  exact ⟨out, execute_eq_ok_iff.mpr runs, runs⟩

/-! ## A run that halts -/

/-- A halting run has followed the machine to its end. -/
theorem RunsTo.reaches_halted (runs : RunsTo prog swap visited s out) {n : Nat}
    (reaches : ReachesIn prog swap n s) (halted : out.ending = .halted) :
    ∃ m t, ReachesIn prog swap m t ∧ prog.length ≤ t.pos ∧ t.acc = out.acc := by
  induction runs generalizing n with
  | loop _ => cases halted
  | halt _ outside => exact ⟨n, _, reaches, outside, rfl⟩
  | move _ step _ ih => exact ih (reaches.step step) halted

/-! ## A run that loops -/

/-- After any number of steps, the machine of a looping run stands at a position
that the run visited. -/
theorem RunsTo.mem_positions_of_reachesIn (runs : RunsTo prog swap [] .start out) {entry n : Nat}
    (looped : out.ending = .looped entry) (reaches : ReachesIn prog swap n s) :
    s.pos ∈ out.positions := by
  have linked := runs.linked looped
  have visits := runs.entry_mem_positions looped
  induction reaches with
  | start => exact linked.mem_keys_or_eq.elim id (fun same => same ▸ visits)
  | step _ step ih => exact step.mem_keys linked (fun _ => runs.leads) visits ih

/-- The machine of a looping run never leaves the program. -/
theorem RunsTo.runs_forever (runs : RunsTo prog swap [] .start out) (known : prog.Known)
    {entry : Nat} (looped : out.ending = .looped entry) (n : Nat) :
    ∃ s, ReachesIn prog swap n s ∧ s.pos < prog.length := by
  have inside {m : Nat} {t : State} (reaches : ReachesIn prog swap m t) : t.pos < prog.length :=
    runs.pos_lt (runs.mem_positions_of_reachesIn looped reaches)
  induction n with
  | zero => exact ⟨_, .start, inside .start⟩
  | succ n ih =>
    obtain ⟨s, reaches, lt⟩ := ih
    obtain ⟨t, step⟩ := known.exists_step swap lt
    exact ⟨t, reaches.step step, inside (reaches.step step)⟩

/-! ## The decision -/

theorem RunsTo.halted_iff (runs : RunsTo prog swap [] .start out) (a : Int) :
    (out.ending = .halted ∧ out.acc = a) ↔
      ∃ n s, ReachesIn prog swap n s ∧ prog.length ≤ s.pos ∧ s.acc = a := by
  constructor
  · rintro ⟨halted, rfl⟩
    exact runs.reaches_halted .start halted
  · rintro ⟨n, s, reaches, outside, rfl⟩
    cases ended : out.ending with
    | looped entry =>
      -- The machine of a looping run is never outside.
      have inside := runs.pos_lt (runs.mem_positions_of_reachesIn ended reaches)
      exact absurd outside (Nat.not_le.mpr inside)
    | halted =>
      obtain ⟨m, t, reaches', outside', acc_eq⟩ := runs.reaches_halted .start ended
      rw [reachesIn_halted_unique reaches outside reaches' outside']
      exact ⟨rfl, acc_eq.symm⟩

theorem RunsTo.looped_iff (runs : RunsTo prog swap [] .start out) (known : prog.Known) :
    (∃ entry, out.ending = .looped entry) ↔
      ∀ n, ∃ s, ReachesIn prog swap n s ∧ s.pos < prog.length := by
  constructor
  · rintro ⟨entry, looped⟩
    exact runs.runs_forever known looped
  · intro forever
    cases ended : out.ending with
    | looped entry => exact ⟨entry, rfl⟩
    | halted =>
      -- The machine is outside after the steps of a halting run.
      obtain ⟨n, t, reaches, outside, _⟩ := runs.reaches_halted .start ended
      obtain ⟨s, reaches', inside⟩ := forever n
      rw [reaches'.eq_stateAfter, ← reaches.eq_stateAfter] at inside
      exact absurd outside (Nat.not_le.mpr inside)

/-- An execution returns, and decides halting: it reports an end with accumulator
`a` exactly if the machine reaches a halted state with accumulator `a`, and a loop
exactly if the machine is inside the program after every number of steps. -/
theorem execute_decides_halting (known : prog.Known) (swap : Swap) :
    ∃ out, (prog.execute swap).result = .ok out ∧
      (∀ a, (out.ending = .halted ∧ out.acc = a) ↔
        ∃ n s, ReachesIn prog swap n s ∧ prog.length ≤ s.pos ∧ s.acc = a) ∧
      ((∃ entry, out.ending = .looped entry) ↔
        ∀ n, ∃ s, ReachesIn prog swap n s ∧ s.pos < prog.length) := by
  obtain ⟨out, returned, runs⟩ := known.exists_execute swap
  exact ⟨out, returned, runs.halted_iff, runs.looped_iff known⟩

/-- A no-op in front of two jumps to themselves. Plain, it runs into the first
jump and stays there; if the no-op acts as a jump, it goes straight to the end. -/
def exDetour : Program :=
  [⟨.nop, 3⟩, ⟨.jmp, 0⟩, ⟨.jmp, 0⟩]

/-- One program, decided both ways. -/
theorem exDetour_decided :
    exDetour.Known ∧
    (∀ n, ∃ s, ReachesIn exDetour none n s ∧ s.pos < exDetour.length) ∧
    ∃ n s, ReachesIn exDetour (some 0) n s ∧ exDetour.length ≤ s.pos ∧ s.acc = 0 := by
  have known : exDetour.Known := by decide
  refine ⟨known, ?_, ?_⟩
  · obtain ⟨out, returned, _, looped⟩ := execute_decides_halting known none
    have plain : (exDetour.execute none).result = .ok ⟨.looped 1, 0, [(0, 1), (1, 1)]⟩ := by cbv
    rw [plain] at returned
    cases returned
    exact looped.mp ⟨1, rfl⟩
  · obtain ⟨out, returned, halted, _⟩ := execute_decides_halting known (some 0)
    have swapped : (exDetour.execute (some 0)).result = .ok ⟨.halted, 0, [(0, 3)]⟩ := by cbv
    rw [swapped] at returned
    cases returned
    exact (halted 0).mp ⟨rfl, rfl⟩

end Program

end LoopRepair
