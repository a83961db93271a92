import LoopRepair.Proofs.Exchange

/-!
# The cycle of a looping run

A looping run reports its moves and the entry at which it closed a cycle, and
nothing about the machine beyond that moment. The cycle is then recovered from the
moves alone, by a walk. `walk_recovers_recurrent_positions` says what the walk has
found: of all positions of the program, those at which the machine will stand
again and again.

One half follows the machine round the cycle, lap after lap. The other one is that
the cycle cannot be left: once the machine is at its entry, every later step stays
on it, so a position off the cycle is never met again.
-/

namespace LoopRepair

/-- The moves a run made from `entry` on. -/
def Outcome.lap (out : Outcome) (entry : Nat) : List (Nat × Nat) :=
  out.moves.dropWhile (·.1 ≠ entry)

theorem Outcome.keys_lap (out : Outcome) (entry : Nat) :
    (out.lap entry).map Prod.fst = out.cycle entry := by
  rw [cycle, positions, List.dropWhile_map]
  rfl

namespace Program

/-- The machine comes to the position again and again: however many steps it has
made, it will stand there after more. -/
def Recurrent (prog : Program) (swap : Swap) (pos : Nat) : Prop :=
  ∀ n, ∃ m s, n ≤ m ∧ ReachesIn prog swap m s ∧ s.pos = pos

variable {prog : Program} {swap : Swap} {s t : State} {out : Outcome}

/-! ## Following moves -/

/-- The machine follows moves that lead on from where it stands. -/
theorem ReachesIn.along {n : Nat} {moves : List (Nat × Nat)} {p q : Nat}
    (reaches : ReachesIn prog swap n s) (here : s.pos = p) (linked : Cycle.Linked p moves q)
    (leads : ∀ move ∈ moves, prog.Leads swap move.1 move.2) :
    ∃ t, ReachesIn prog swap (n + moves.length) t ∧ t.pos = q := by
  induction linked generalizing n s with
  | nil => exact ⟨s, reaches, here⟩
  | @cons p next q moves _ ih =>
    subst here
    have step := leads (s.pos, next) (by simp) s.acc
    obtain ⟨t, arrives, there⟩ := ih (reaches.step step) rfl
      (fun move later => leads move (List.mem_cons_of_mem _ later))
    refine ⟨t, ?_, there⟩
    rwa [List.length_cons, Nat.add_comm moves.length, ← Nat.add_assoc]

/-- On its way it stands at every position that one of the moves starts from. -/
theorem ReachesIn.passes {n : Nat} {moves : List (Nat × Nat)} {p q : Nat}
    (reaches : ReachesIn prog swap n s) (here : s.pos = p) (linked : Cycle.Linked p moves q)
    (leads : ∀ move ∈ moves, prog.Leads swap move.1 move.2) {pos : Nat}
    (passed : pos ∈ moves.map Prod.fst) :
    ∃ m t, n ≤ m ∧ ReachesIn prog swap m t ∧ t.pos = pos := by
  induction linked generalizing n s with
  | nil => cases passed
  | @cons p next q moves _ ih =>
    subst here
    rcases List.mem_cons.mp passed with first | later
    · exact ⟨n, s, Nat.le_refl n, reaches, first.symm⟩
    · have step := leads (s.pos, next) (by simp) s.acc
      obtain ⟨m, t, after, arrives, there⟩ := ih (reaches.step step) rfl
        (fun move made => leads move (List.mem_cons_of_mem _ made)) later
      exact ⟨m, t, Nat.le_of_succ_le after, arrives, there⟩

/-! ## The lap -/

section Looping

variable {entry : Nat} (runs : RunsTo prog swap [] .start out)
  (looped : out.ending = .looped entry)

include runs looped

theorem RunsTo.linked_lap : Cycle.Linked entry (out.lap entry) entry :=
  (runs.linked looped).dropWhile (runs.entry_mem_positions looped)

theorem RunsTo.entry_mem_cycle : entry ∈ out.cycle entry := by
  have visits := runs.entry_mem_positions looped
  rw [← out.leadIn_append_cycle entry, List.mem_append] at visits
  refine visits.resolve_left ?_
  intro before
  simpa using List.mem_takeWhile_imp before

theorem RunsTo.head?_cycle : (out.cycle entry).head? = some entry := by
  have linked := runs.linked_lap looped
  have nonempty := runs.entry_mem_cycle looped
  rw [← out.keys_lap] at nonempty ⊢
  generalize out.lap entry = lap at linked nonempty
  cases linked with
  | nil => cases nonempty
  | cons _ => rfl

omit looped in
theorem RunsTo.leads_lap : ∀ move ∈ out.lap entry, prog.Leads swap move.1 move.2 := by
  intro move made
  exact runs.leads ((List.dropWhile_sublist _).subset made)

/-- The machine comes to the entry at the end of the run, and again after each lap. -/
theorem RunsTo.recurrent_entry : Recurrent prog swap entry := by
  intro n
  induction n with
  | zero =>
    obtain ⟨t, arrives, there⟩ := ReachesIn.start.along rfl (runs.linked looped)
      (fun _ => runs.leads)
    exact ⟨_, t, Nat.zero_le _, arrives, there⟩
  | succ n ih =>
    obtain ⟨m, s, later, reaches, here⟩ := ih
    obtain ⟨t, arrives, there⟩ := reaches.along here (runs.linked_lap looped) runs.leads_lap
    have moves : 0 < (out.lap entry).length := by
      rw [← List.length_map Prod.fst, out.keys_lap]
      exact List.length_pos_of_mem (runs.entry_mem_cycle looped)
    exact ⟨_, t, by omega, arrives, there⟩

theorem RunsTo.recurrent_of_mem_cycle {pos : Nat} (onCycle : pos ∈ out.cycle entry) :
    Recurrent prog swap pos := by
  intro n
  obtain ⟨m, s, later, reaches, here⟩ := runs.recurrent_entry looped n
  rw [← out.keys_lap] at onCycle
  obtain ⟨m', t, after, arrives, there⟩ :=
    reaches.passes here (runs.linked_lap looped) runs.leads_lap onCycle
  exact ⟨m', t, Nat.le_trans later after, arrives, there⟩

/-- From the entry on, the machine stays on the cycle. -/
theorem RunsTo.mem_cycle_of_reachesIn {n m : Nat} (reaches : ReachesIn prog swap n s)
    (here : s.pos = entry) (arrives : ReachesIn prog swap m t) (later : n ≤ m) :
    t.pos ∈ out.cycle entry := by
  have closes := runs.entry_mem_cycle looped
  rw [← out.keys_lap] at closes ⊢
  -- Induction on the steps made since the machine was at the entry.
  induction later generalizing t with
  | refl =>
    rw [← reaches.unique arrives, here]
    exact closes
  | step _ ih =>
    cases arrives with
    | step before step =>
      exact step.mem_keys (runs.linked_lap looped) runs.leads_lap closes (ih before)

theorem RunsTo.mem_cycle_iff {pos : Nat} : pos ∈ out.cycle entry ↔ Recurrent prog swap pos := by
  constructor
  · exact runs.recurrent_of_mem_cycle looped
  · intro recurrent
    obtain ⟨n, s, _, reaches, here⟩ := runs.recurrent_entry looped 0
    obtain ⟨m, t, later, arrives, there⟩ := recurrent n
    rw [← there]
    exact runs.mem_cycle_of_reachesIn looped reaches here arrives later

end Looping

/-! ## The walk -/

/-- The walk along the moves of a looping execution, from the entry it reports,
does not fail. It returns the positions left from the entry on, in the order in
which they were left, each once: those at which the machine stands infinitely
often. -/
theorem walk_recovers_recurrent_positions {entry : Nat}
    (returned : (prog.execute swap).result = .ok out) (looped : out.ending = .looped entry) :
    ∃ path, Cycle.walk out.moves entry = .ok path ∧
      path <:+ out.positions ∧ path.head? = some entry ∧ path.Nodup ∧
      ∀ pos, pos ∈ path ↔ Recurrent prog swap pos := by
  have runs := execute_eq_ok_iff.mp returned
  have suffix : out.cycle entry <:+ out.positions := List.dropWhile_suffix _
  refine ⟨out.cycle entry, runs.walk looped, suffix, runs.head?_cycle looped, ?_, ?_⟩
  · exact runs.once.sublist suffix.sublist
  · intro pos
    exact runs.mem_cycle_iff looped

/-- In `exSample` the machine comes back to 3 for ever, by way of 7, but not to the
first position. -/
theorem exSample_recurrent :
    (exSample.execute none).result =
      .ok ⟨.looped 1, 5, [(0, 1), (1, 2), (2, 6), (6, 7), (7, 3), (3, 4), (4, 1)]⟩ ∧
    Cycle.walk [(0, 1), (1, 2), (2, 6), (6, 7), (7, 3), (3, 4), (4, 1)] 1 =
      .ok [1, 2, 6, 7, 3, 4] ∧
    Recurrent exSample none 3 ∧ ¬ Recurrent exSample none 0 := by
  have loops : (exSample.execute none).result =
      .ok ⟨.looped 1, 5, [(0, 1), (1, 2), (2, 6), (6, 7), (7, 3), (3, 4), (4, 1)]⟩ := by cbv
  have walked : Cycle.walk [(0, 1), (1, 2), (2, 6), (6, 7), (7, 3), (3, 4), (4, 1)] 1 =
      .ok [1, 2, 6, 7, 3, 4] := by cbv
  obtain ⟨path, found, _, _, _, recurrent⟩ := walk_recovers_recurrent_positions loops rfl
  rw [walked] at found
  cases found
  refine ⟨loops, walked, (recurrent 3).mp (by decide), ?_⟩
  intro again
  exact absurd ((recurrent 0).mpr again) (by decide)

end Program

end LoopRepair
