import LoopRepair.Text.Decimal

/-!
# Cycles in recorded moves

Moves are pairs of a position and its successor. A walk follows them from a
start until it comes back to it, and returns the positions it passed. Moves
recorded by a looping run always allow this from the run's entry; moves from
elsewhere may lack the start, break off, or run into a cycle that does not hold
the start. Each of these is an error of its own.

The walk ends because every step uses up a recorded position.
-/

namespace LoopRepair

/-- Why a walk does not come back to its start. -/
inductive WalkError (α : Type) where
  /-- The start has no recorded successor. -/
  | startMissing (pos : α)
  /-- The walk reached a later position that has no recorded successor. -/
  | broken (pos : α)
  /-- The walk met a position other than the start for the second time. -/
  | notClosed (pos : α)
deriving DecidableEq, Repr

namespace WalkError

/-- The position at which the walk failed. -/
def pos {α : Type} : WalkError α → α
  | startMissing p | broken p | notClosed p => p

/-- The same error under a renaming of positions. -/
def map {α β : Type} (f : α → β) : WalkError α → WalkError β
  | startMissing p => startMissing (f p)
  | broken p => broken (f p)
  | notClosed p => notClosed (f p)

/-- The code by which an error is known. -/
def code {α : Type} : WalkError α → String
  | startMissing _ => "E_LOOP_START_MISSING"
  | broken _ => "E_LOOP_BROKEN"
  | notClosed _ => "E_LOOP_NOT_CLOSED"

/-- What went wrong, in words. -/
def description : WalkError Int → String
  | startMissing p => "start " ++ Decimal.write p ++ " was never visited"
  | broken p => "position " ++ Decimal.write p ++ " has no recorded successor"
  | notClosed p => "walk revisited " ++ Decimal.write p ++ " before closing"

/-- The message of an error: its code, then the description. -/
def message (e : WalkError Int) : String :=
  e.code ++ ": " ++ e.description

end WalkError

namespace Cycle

variable {α : Type} [DecidableEq α]

/-- The recorded successor of a position. If a position was recorded more than
once, the last record counts. -/
def successor : List (α × α) → α → Option α
  | [], _ => none
  | (key, value) :: moves, pos =>
    (successor moves pos).or (if key = pos then some value else none)

/-- The recorded positions that a walk has not passed yet. -/
def unseen (moves : List (α × α)) (seen : List α) : List α :=
  (moves.map Prod.fst).filter (· ∉ seen)

theorem mem_keys_of_successor {moves : List (α × α)} {pos next : α}
    (h : successor moves pos = some next) : pos ∈ moves.map Prod.fst := by
  induction moves with
  | nil => simp [successor] at h
  | cons move moves ih =>
    obtain ⟨key, value⟩ := move
    rw [successor, Option.or_eq_some_iff] at h
    rcases h with h | ⟨_, h⟩
    · exact List.mem_cons_of_mem _ (ih h)
    · split at h
      · next heq => simp [heq]
      · cases h

theorem length_unseen_cons_lt {moves : List (α × α)} {seen : List α} {pos : α}
    (recorded : pos ∈ moves.map Prod.fst) (fresh : pos ∉ seen) :
    (unseen moves (pos :: seen)).length < (unseen moves seen).length := by
  have shrink : unseen moves (pos :: seen) = (unseen moves seen).filter (· ≠ pos) := by
    simp [unseen, List.filter_filter, List.mem_cons, not_or]
  rw [shrink]
  apply List.length_filter_lt_length_iff_exists.mpr
  refine ⟨pos, ?_, by simp⟩
  simp only [unseen, List.mem_filter]
  exact ⟨recorded, by simpa using fresh⟩

/-- The walk from `pos` back to `start`, given the positions passed before. -/
def walkFrom (moves : List (α × α)) (start : α) (seen : List α) (pos : α) :
    Except (WalkError α) (List α) :=
  if pos ∈ seen then
    .error (.notClosed pos)
  else
    match _h : successor moves pos with
    | none => .error (if pos = start then .startMissing pos else .broken pos)
    | some next =>
      if next = start then .ok [pos]
      else (walkFrom moves start (pos :: seen) next).map (pos :: ·)
termination_by (unseen moves seen).length
decreasing_by
  exact length_unseen_cons_lt (mem_keys_of_successor _h) (by assumption)

/-- One step of a walk, without the evidence that it ends. -/
theorem walkFrom_eq (moves : List (α × α)) (start : α) (seen : List α) (pos : α) :
    walkFrom moves start seen pos =
      if pos ∈ seen then .error (.notClosed pos)
      else
        match successor moves pos with
        | none => .error (if pos = start then .startMissing pos else .broken pos)
        | some next =>
          if next = start then .ok [pos]
          else (walkFrom moves start (pos :: seen) next).map (pos :: ·) := by
  rw [walkFrom]
  split
  · rfl
  · split <;> simp_all

/-- The positions of the cycle through `start`, in the order of the moves and
`start` first. -/
def walk (moves : List (α × α)) (start : α) : Except (WalkError α) (List α) :=
  walkFrom moves start [] start

end Cycle

end LoopRepair
