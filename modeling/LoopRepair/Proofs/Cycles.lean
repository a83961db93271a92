import Mathlib.Data.List.Chain
import Mathlib.Data.List.TakeWhile
import LoopRepair.Cycle

/-!
# Walks along linked moves

The moves of one run are linked: each starts where the one before it led. A walk
along such moves, each position recorded once, cannot fail if the last move leads
to a recorded position. `walk_of_linked` says where it goes: from that position
on, it repeats the moves in the order in which they were recorded.
-/

namespace LoopRepair.Cycle

variable {α : Type}

/-- `Linked p moves q`: the moves lead from `p` to `q`, one after the other. -/
inductive Linked : α → List (α × α) → α → Prop
  | nil {p : α} : Linked p [] p
  | cons {p q r : α} {moves : List (α × α)} : Linked q moves r → Linked p ((p, q) :: moves) r

/-! ## Linked moves -/

theorem Linked.mem_keys_or_eq {p q : α} {moves : List (α × α)} (linked : Linked p moves q) :
    p ∈ moves.map Prod.fst ∨ p = q := by
  cases linked with
  | nil => exact .inr rfl
  | cons _ => exact .inl (by simp)

/-- Every move leads to the start of another one, or to where they all lead. -/
theorem Linked.target_mem_keys_or_eq {p q : α} {moves : List (α × α)} (linked : Linked p moves q)
    {key target : α} (recorded : (key, target) ∈ moves) :
    target ∈ moves.map Prod.fst ∨ target = q := by
  induction linked with
  | nil => cases recorded
  | @cons p next q moves rest ih =>
    have later : target ∈ moves.map Prod.fst ∨ target = q := by
      rcases List.mem_cons.mp recorded with first | recorded
      · cases first
        exact rest.mem_keys_or_eq
      · exact ih recorded
    exact later.imp_left (List.mem_cons_of_mem _)

/-! ### Linked moves as chains -/

theorem Linked.isChain {p q : α} {moves : List (α × α)} (linked : Linked p moves q) :
    moves.IsChain fun move later => move.2 = later.1 := by
  induction linked with
  | nil => exact .nil
  | cons rest ih =>
    cases rest with
    | nil => exact .singleton _
    | cons _ => exact .cons_cons rfl ih

theorem Linked.first {p q : α} {moves : List (α × α)} (linked : Linked p moves q) :
    ∀ move ∈ moves.head?, move.1 = p := by
  cases linked with
  | nil => simp
  | cons _ => simp

theorem Linked.last {p q : α} {moves : List (α × α)} (linked : Linked p moves q) :
    ∀ move ∈ moves.getLast?, move.2 = q := by
  induction linked with
  | nil => simp
  | cons rest ih =>
    cases rest with
    | nil => simp
    | cons _ => simpa using ih

theorem linked_of_isChain {moves : List (α × α)} {move last : α × α}
    (chain : (move :: moves).IsChain fun move later => move.2 = later.1)
    (ends : (move :: moves).getLast? = some last) : Linked move.1 (move :: moves) last.2 := by
  induction moves generalizing move with
  | nil =>
    cases ends
    exact Linked.nil.cons
  | cons next moves ih =>
    obtain ⟨follows, chain⟩ := List.isChain_cons_cons.mp chain
    have rest := ih chain (by simpa using ends)
    rw [← follows] at rest
    exact rest.cons

variable [DecidableEq α]

/-- Linked moves may be entered at any recorded position. -/
theorem Linked.dropWhile {p q entry : α} {moves : List (α × α)} (linked : Linked p moves q)
    (recorded : entry ∈ moves.map Prod.fst) :
    Linked entry (moves.dropWhile (·.1 ≠ entry)) q := by
  induction linked with
  | nil => cases recorded
  | @cons p next q moves rest ih =>
    by_cases here : p = entry
    · subst here
      simpa using rest.cons
    · have later : entry ∈ moves.map Prod.fst := by
        simpa [Ne.symm here] using recorded
      simpa [here] using ih later

/-- Where each position is recorded once, every record counts. -/
theorem successor_eq_some_of_mem {moves : List (α × α)} (once : (moves.map Prod.fst).Nodup)
    {key target : α} (recorded : (key, target) ∈ moves) : successor moves key = some target := by
  induction moves with
  | nil => cases recorded
  | cons move moves ih =>
    rw [List.map_cons, List.nodup_cons] at once
    rcases List.mem_cons.mp recorded with rfl | recorded
    · have unrecorded : successor moves key = none := by
        rw [Option.eq_none_iff_forall_ne_some]
        intro next found
        exact once.1 (mem_keys_of_successor found)
      simp [successor, unrecorded]
    · simp [successor, ih once.2 recorded]

/-! ## The walk -/

/-- The walk from `pos` takes the linked moves that are left, none of which it
has taken before. The start of the walk is among the positions it has passed. -/
theorem walkFrom_of_linked {moves left : List (α × α)} {start pos : α} {seen : List α}
    (recorded : ∀ move ∈ left, successor moves move.1 = some move.2)
    (linked : Linked pos left start) (nonempty : left ≠ [])
    (once : (left.map Prod.fst).Nodup) (fresh : ∀ key ∈ left.map Prod.fst, key ∉ seen)
    (passed : start ∈ pos :: seen) :
    walkFrom moves start seen pos = .ok (left.map Prod.fst) := by
  induction left generalizing pos seen with
  | nil => exact absurd rfl nonempty
  | cons move left ih =>
    cases linked with
    | @cons _ next _ _ linked =>
      rw [List.map_cons, List.nodup_cons] at once
      have unseen : pos ∉ seen := fresh pos (by simp)
      have found : successor moves pos = some next := recorded (pos, next) (by simp)
      have freshLeft : ∀ key ∈ left.map Prod.fst, key ∉ pos :: seen := by
        intro key later
        rw [List.mem_cons, not_or]
        refine ⟨?_, fresh key (List.mem_cons_of_mem _ later)⟩
        rintro rfl
        exact once.1 later
      rw [walkFrom_eq, if_neg unseen, found]
      by_cases closes : next = start
      · -- A move left over would start at `start`, which the walk has passed.
        have last : left = [] := by
          cases linked with
          | nil => rfl
          | cons _ => exact absurd passed (closes ▸ freshLeft next (by simp))
        simp [closes, last]
      · have more : left ≠ [] := by
          rintro rfl
          cases linked
          exact closes rfl
        have rest := ih (fun move later => recorded move (List.mem_cons_of_mem _ later)) linked
          more once.2 freshLeft (List.mem_cons_of_mem _ passed)
        simp [closes, rest, Except.map]

/-- A walk along linked moves comes back to the position they lead to, if that
was recorded, and passes the positions recorded from there on. -/
theorem walk_of_linked {moves : List (α × α)} {p start : α} (once : (moves.map Prod.fst).Nodup)
    (linked : Linked p moves start) (recorded : start ∈ moves.map Prod.fst) :
    walk moves start = .ok ((moves.map Prod.fst).dropWhile (· ≠ start)) := by
  have sublist : (moves.dropWhile (·.1 ≠ start)).Sublist moves := List.dropWhile_sublist _
  have nonempty : moves.dropWhile (·.1 ≠ start) ≠ [] := by
    intro empty
    obtain ⟨move, there, rfl⟩ := List.mem_map.mp recorded
    have skipped := List.dropWhile_eq_nil_iff.mp empty move there
    simp at skipped
  rw [walk, List.dropWhile_map]
  apply walkFrom_of_linked
  · intro move later
    exact successor_eq_some_of_mem once (sublist.subset later)
  · exact linked.dropWhile recorded
  · exact nonempty
  · exact once.sublist (sublist.map Prod.fst)
  · simp
  · simp

end LoopRepair.Cycle
