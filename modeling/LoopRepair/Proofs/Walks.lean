import Mathlib.Data.List.Nodup
import LoopRepair.Cycle

/-!
# Walks along arbitrary moves

The moves of a looping run always lead back to its entry. Moves that come from
elsewhere need not: the start may be missing, the walk may break off, or it may run
into a cycle that does not hold the start. This module takes any finite list of moves
and says which of the four it is, in terms of the positions `w₀, w₁, …` that following
the moves leads to (`WalksTo`), for as long as there are any.

Results:
1. `successor_eq_some_iff`: what is looked up for a position is its last record.
2. `WalksTo.before_of_repeat`: once a position is met again, nothing new is met. This
   is what makes a bounded walk an answer about an unbounded one.
3. `Trail.verdict`: every walk ends with one of the four verdicts; `Verdict.unique`:
   and no other one holds.
4. `walk_exact`: each answer of a walk, with the code and the position of an error, is
   given exactly where it is due.
-/

namespace LoopRepair.Cycle

variable {α : Type}

/-! ## Following moves -/

/-- `Records moves p q`: the last record of `p` among the moves has `q` next. -/
def Records (moves : List (α × α)) (p q : α) : Prop :=
  ∃ before after, moves = before ++ (p, q) :: after ∧ p ∉ after.map Prod.fst

/-- `WalksTo moves start n p`: following the moves from `start`, one stands at `p` after
`n` steps. It holds for no `p` if the moves break off earlier. -/
inductive WalksTo (moves : List (α × α)) (start : α) : Nat → α → Prop
  | start : WalksTo moves start 0 start
  | step {n : Nat} {p q : α} :
      WalksTo moves start n p → Records moves p q → WalksTo moves start (n + 1) q

/-! ## Verdicts -/

/-- The walk comes back to its start along `path`.

* `along`: the path has the positions of the walk, from the start on.
* `recorded`: each of them has a recorded successor.
* `returns`, `first`: after the last one the walk is back, and not before. -/
structure Closes (moves : List (α × α)) (start : α) (path : List α) : Prop where
  nonempty : path ≠ []
  along : ∀ n p, path[n]? = some p → WalksTo moves start n p
  recorded : ∀ p ∈ path, p ∈ moves.map Prod.fst
  returns : WalksTo moves start path.length start
  first : ∀ n, 0 < n → n < path.length → ¬ WalksTo moves start n start

/-- The walk starts, and the first position without a recorded successor is `q`. -/
structure BreaksOff (moves : List (α × α)) (start q : α) : Prop where
  starts : start ∈ moves.map Prod.fst
  elsewhere : q ≠ start
  unrecorded : q ∉ moves.map Prod.fst
  first : ∃ n, WalksTo moves start n q ∧
    ∀ m p, m < n → WalksTo moves start m p → p ∈ moves.map Prod.fst

/-- The walk goes on for ever and never comes back to its start; the first position that
it visits twice is `q`. -/
structure Strays (moves : List (α × α)) (start q : α) : Prop where
  endless : ∀ n, ∃ p, WalksTo moves start n p ∧ p ∈ moves.map Prod.fst
  away : ∀ n, 0 < n → ¬ WalksTo moves start n start
  twice : ∃ m n, m < n ∧ WalksTo moves start m q ∧ WalksTo moves start n q ∧
    ∀ i j p, i < j → j < n → WalksTo moves start i p → ¬ WalksTo moves start j p

/-- What is to be said of a walk. -/
inductive Verdict (moves : List (α × α)) (start : α) : Except (WalkError α) (List α) → Prop
  | closes {path : List α} : Closes moves start path → Verdict moves start (.ok path)
  | startMissing : start ∉ moves.map Prod.fst → Verdict moves start (.error (.startMissing start))
  | breaksOff {q : α} : BreaksOff moves start q → Verdict moves start (.error (.broken q))
  | strays {q : α} : Strays moves start q → Verdict moves start (.error (.notClosed q))

/-! ## Records -/

section Records

variable [DecidableEq α] {moves : List (α × α)} {p q r : α}

theorem successor_eq_none_iff : successor moves p = none ↔ p ∉ moves.map Prod.fst := by
  induction moves with
  | nil => simp [successor]
  | cons move moves ih =>
    obtain ⟨key, value⟩ := move
    rw [successor, Option.or_eq_none_iff, ih, List.map_cons, List.mem_cons, not_or, and_comm]
    simp [eq_comm]

/-- Of several records of a position, the last one is found. -/
theorem successor_eq_some_iff : successor moves p = some q ↔ Records moves p q := by
  induction moves with
  | nil => simp [successor, Records]
  | cons move moves ih =>
    obtain ⟨key, value⟩ := move
    rw [successor, Option.or_eq_some_iff, ih, successor_eq_none_iff]
    constructor
    · rintro (⟨before, after, rfl, last⟩ | ⟨last, found⟩)
      · exact ⟨(key, value) :: before, after, rfl, last⟩
      · split at found
        · next same =>
          cases found
          exact ⟨[], moves, by rw [same]; rfl, last⟩
        · cases found
    · rintro ⟨before, after, split, last⟩
      cases before with
      | nil =>
        cases split
        exact .inr ⟨last, if_pos rfl⟩
      | cons _ before =>
        cases split
        exact .inl ⟨before, after, rfl, last⟩

theorem Records.mem_keys (records : Records moves p q) : p ∈ moves.map Prod.fst :=
  mem_keys_of_successor (successor_eq_some_iff.mpr records)

theorem exists_records (recorded : p ∈ moves.map Prod.fst) : ∃ q, Records moves p q := by
  cases found : successor moves p with
  | none => exact absurd recorded (successor_eq_none_iff.mp found)
  | some q => exact ⟨q, successor_eq_some_iff.mp found⟩

theorem Records.unique (records : Records moves p q) (records' : Records moves p r) : q = r := by
  have found := successor_eq_some_iff.mpr records
  rw [successor_eq_some_iff.mpr records'] at found
  cases found
  rfl

end Records

/-! ## Walks -/

section Walks

variable [DecidableEq α] {moves : List (α × α)} {start p q r : α} {m n : Nat}

theorem WalksTo.unique (walks : WalksTo moves start n p) (walks' : WalksTo moves start n q) :
    p = q := by
  induction walks generalizing q with
  | start =>
    cases walks'
    rfl
  | step _ records ih =>
    cases walks' with
    | step before records' =>
      rw [ih before] at records
      exact records.unique records'

/-- A position that the walk leaves has a recorded successor. -/
theorem WalksTo.mem_keys_of_lt (walks : WalksTo moves start n q) (before : WalksTo moves start m p)
    (earlier : m < n) : p ∈ moves.map Prod.fst := by
  induction walks with
  | start => exact absurd earlier (Nat.not_lt_zero m)
  | @step n' _ _ walks records ih =>
    rcases Nat.lt_succ_iff_lt_or_eq.mp earlier with earlier | rfl
    · exact ih earlier
    · rw [before.unique walks]
      exact records.mem_keys

/-- Once the walk stands at a position for the second time, it stays among the positions
that it passed before. -/
theorem WalksTo.before_of_repeat {k : Nat} (early : WalksTo moves start k r)
    (late : WalksTo moves start n r) (earlier : k < n) (walks : WalksTo moves start m p) :
    ∃ j, j < n ∧ WalksTo moves start j p := by
  induction walks with
  | start => exact ⟨0, Nat.zero_lt_of_lt earlier, .start⟩
  | step _ records ih =>
    obtain ⟨j, before, walks⟩ := ih
    have next := walks.step records
    rcases Nat.lt_or_eq_of_le (Nat.succ_le_of_lt before) with inside | round
    · exact ⟨j + 1, inside, next⟩
    · -- The step leads to the position that was met before, so the earlier visit counts.
      rw [← round] at late
      rw [next.unique late]
      exact ⟨k, earlier, early⟩

theorem WalksTo.mem_keys_of_repeat {k : Nat} (early : WalksTo moves start k r)
    (late : WalksTo moves start n r) (earlier : k < n) (walks : WalksTo moves start m p) :
    p ∈ moves.map Prod.fst := by
  obtain ⟨j, before, there⟩ := early.before_of_repeat late earlier walks
  exact late.mem_keys_of_lt there before

theorem exists_walksTo_of_repeat {k : Nat} (early : WalksTo moves start k r)
    (late : WalksTo moves start n r) (earlier : k < n) (m : Nat) :
    ∃ p, WalksTo moves start m p := by
  induction m with
  | zero => exact ⟨start, .start⟩
  | succ m ih =>
    obtain ⟨p, walks⟩ := ih
    obtain ⟨q, records⟩ := exists_records (early.mem_keys_of_repeat late earlier walks)
    exact ⟨q, walks.step records⟩

end Walks

/-! ## Every walk has a verdict -/

/-- What holds of a walk that stands at `pos` with `seen` behind it, the last position
first.

* `here`, `along`: it has followed the moves.
* `once`: it has met no position twice.
* `away`: it has not come back to its start. -/
structure Trail (moves : List (α × α)) (start : α) (seen : List α) (pos : α) : Prop where
  here : WalksTo moves start seen.length pos
  along : ∀ n p, seen.reverse[n]? = some p → WalksTo moves start n p
  once : seen.Nodup
  away : ∀ n, 0 < n → n ≤ seen.length → ¬ WalksTo moves start n start

theorem trail_start (moves : List (α × α)) (start : α) : Trail moves start [] start where
  here := .start
  along _ _ none := by simp at none
  once := List.nodup_nil
  away _ positive none := absurd none (Nat.not_le.mpr positive)

namespace Trail

variable {moves : List (α × α)} {start pos next : α} {seen : List α}

/-- With the position it stands at, the walk has still followed the moves. -/
theorem along_cons (trail : Trail moves start seen pos) {n : Nat} {p : α}
    (found : (pos :: seen).reverse[n]? = some p) : WalksTo moves start n p := by
  rw [List.reverse_cons, List.getElem?_append, List.length_reverse, List.getElem?_singleton]
    at found
  split at found
  · exact trail.along n p found
  · next behind =>
    split at found
    · next last =>
      cases found
      rw [Nat.le_antisymm (Nat.sub_eq_zero_iff_le.mp last) (Nat.le_of_not_lt behind)]
      exact trail.here
    · cases found

theorem exists_earlier (trail : Trail moves start seen pos) {p : α} (behind : p ∈ seen) :
    ∃ n, n < seen.length ∧ WalksTo moves start n p := by
  obtain ⟨n, found⟩ := List.mem_iff_getElem?.mp (List.mem_reverse.mpr behind)
  have inside := (List.getElem?_eq_some_iff.mp found).1
  rw [List.length_reverse] at inside
  exact ⟨n, inside, trail.along n p found⟩

variable [DecidableEq α]

/-- One more step keeps the trail, unless it leads back to the start. -/
theorem step (trail : Trail moves start seen pos) (new : pos ∉ seen)
    (records : Records moves pos next) (unclosed : next ≠ start) :
    Trail moves start (pos :: seen) next where
  here := trail.here.step records
  along _ _ := trail.along_cons
  once := List.nodup_cons.mpr ⟨new, trail.once⟩
  away n positive within back := by
    rcases Nat.lt_or_eq_of_le within with earlier | rfl
    · exact trail.away n positive (Nat.le_of_lt_succ earlier) back
    · exact unclosed ((trail.here.step records).unique back)

/-! ### The four ends -/

theorem closes (trail : Trail moves start seen pos) (records : Records moves pos start) :
    Closes moves start (pos :: seen).reverse := by
  have returns := trail.here.step records
  have size : (pos :: seen).reverse.length = seen.length + 1 := by simp
  refine
    { nonempty := by simp
      along := fun _ _ => trail.along_cons
      recorded := ?_
      returns := by rwa [size]
      first := ?_ }
  · intro p member
    obtain ⟨n, found⟩ := List.mem_iff_getElem?.mp member
    have inside := (List.getElem?_eq_some_iff.mp found).1
    exact returns.mem_keys_of_lt (trail.along_cons found) (size ▸ inside)
  · intro n positive within
    rw [size] at within
    exact trail.away n positive (Nat.le_of_lt_succ within)

theorem breaksOff (trail : Trail moves start seen pos) (elsewhere : pos ≠ start)
    (unrecorded : pos ∉ moves.map Prod.fst) : BreaksOff moves start pos := by
  have moved : 0 < seen.length := by
    rw [Nat.pos_iff_ne_zero]
    intro none
    have here := trail.here
    rw [none] at here
    exact elsewhere (here.unique .start)
  exact
    { starts := trail.here.mem_keys_of_lt .start moved
      elsewhere := elsewhere
      unrecorded := unrecorded
      first := ⟨_, trail.here, fun _ _ earlier before => trail.here.mem_keys_of_lt before earlier⟩ }

/-- A walk that has met no position twice was nowhere twice. -/
theorem apart (trail : Trail moves start seen pos) {i j : Nat} {p : α} (before : i < j)
    (behind : j < seen.length) (walks : WalksTo moves start i p) :
    ¬ WalksTo moves start j p := by
  intro again
  have found {n : Nat} (inside : n < seen.length) (there : WalksTo moves start n p) :
      seen.reverse[n]? = some p := by
    obtain ⟨q, some⟩ : ∃ q, seen.reverse[n]? = some q := by
      simpa [List.getElem?_eq_some_iff] using inside
    rw [some, there.unique (trail.along n q some)]
  have distinct := List.nodup_iff_getElem?_ne_getElem?.mp (List.nodup_reverse.mpr trail.once)
  refine distinct i j before (by simpa using behind) ?_
  rw [found (Nat.lt_trans before behind) walks, found behind again]

theorem strays (trail : Trail moves start seen pos) (again : pos ∈ seen) :
    Strays moves start pos := by
  obtain ⟨k, earlier, early⟩ := trail.exists_earlier again
  refine
    { endless := ?_
      away := ?_
      twice := ⟨k, _, earlier, early, trail.here, fun _ _ _ => trail.apart⟩ }
  · intro n
    obtain ⟨p, walks⟩ := exists_walksTo_of_repeat early trail.here earlier n
    exact ⟨p, walks, early.mem_keys_of_repeat trail.here earlier walks⟩
  · intro n positive back
    -- The step back to the start is one that the walk has taken before.
    cases back with
    | start => exact absurd positive (Nat.lt_irrefl 0)
    | step before records =>
      obtain ⟨j, behind, walks⟩ := early.before_of_repeat trail.here earlier before
      exact trail.away (j + 1) (Nat.succ_pos j) behind (walks.step records)

/-- Whatever lies ahead of a trail, the walk comes to a verdict. -/
theorem verdict (trail : Trail moves start seen pos) :
    Verdict moves start ((walkFrom moves start seen pos).map (seen.reverse ++ ·)) := by
  fun_induction walkFrom moves start seen pos with
  | case1 seen pos again => exact .strays (trail.strays again)
  | case2 seen pos new none =>
    have unrecorded := successor_eq_none_iff.mp none
    split
    · next same =>
      subst same
      exact .startMissing unrecorded
    · next elsewhere => exact .breaksOff (trail.breaksOff elsewhere unrecorded)
  | case3 seen pos new found =>
    have closes := trail.closes (successor_eq_some_iff.mp found)
    rw [List.reverse_cons] at closes
    exact .closes closes
  | case4 seen pos new next found unclosed ih =>
    have rest := ih (trail.step new (successor_eq_some_iff.mp found) unclosed)
    have joined : ((walkFrom moves start (pos :: seen) next).map (pos :: ·)).map (seen.reverse ++ ·)
        = (walkFrom moves start (pos :: seen) next).map ((pos :: seen).reverse ++ ·) := by
      cases walkFrom moves start (pos :: seen) next <;> simp [Except.map]
    rw [joined]
    exact rest

end Trail

/-- Every walk ends with a verdict. -/
theorem verdict_walk [DecidableEq α] (moves : List (α × α)) (start : α) :
    Verdict moves start (walk moves start) := by
  have whole : (walk moves start).map ([].reverse ++ ·) = walk moves start := by
    cases walk moves start <;> rfl
  rw [← whole]
  exact (trail_start moves start).verdict

/-! ## No walk has two verdicts -/

section Exclusion

variable {moves : List (α × α)} {start q r : α} {path path' : List α}

theorem Closes.positive (closes : Closes moves start path) : 0 < path.length :=
  List.length_pos_of_ne_nil closes.nonempty

theorem Strays.starts (strays : Strays moves start q) : start ∈ moves.map Prod.fst := by
  obtain ⟨p, walks, recorded⟩ := strays.endless 0
  cases walks
  exact recorded

theorem Closes.not_strays (closes : Closes moves start path) : ¬ Strays moves start q :=
  fun strays => strays.away path.length closes.positive closes.returns

variable [DecidableEq α]

theorem Closes.starts (closes : Closes moves start path) : start ∈ moves.map Prod.fst :=
  closes.returns.mem_keys_of_lt .start closes.positive

theorem Closes.not_breaksOff (closes : Closes moves start path) : ¬ BreaksOff moves start q := by
  intro breaks
  obtain ⟨n, walks, _⟩ := breaks.first
  exact breaks.unrecorded
    (WalksTo.start.mem_keys_of_repeat closes.returns closes.positive walks)

theorem BreaksOff.not_strays (breaks : BreaksOff moves start q) : ¬ Strays moves start r := by
  intro strays
  obtain ⟨n, walks, _⟩ := breaks.first
  obtain ⟨p, walks', recorded⟩ := strays.endless n
  rw [walks'.unique walks] at recorded
  exact breaks.unrecorded recorded

theorem Closes.unique (closes : Closes moves start path) (closes' : Closes moves start path') :
    path = path' := by
  -- Neither comes back before the other, and where both have a position it is the same.
  have size : path.length = path'.length := by
    rcases Nat.lt_trichotomy path.length path'.length with shorter | same | longer
    · exact absurd closes.returns (closes'.first _ closes.positive shorter)
    · exact same
    · exact absurd closes'.returns (closes.first _ closes'.positive longer)
  apply List.ext_getElem size
  intro n inside inside'
  exact (closes.along n _ (List.getElem?_eq_getElem inside)).unique
    (closes'.along n _ (List.getElem?_eq_getElem inside'))

theorem BreaksOff.unique (breaks : BreaksOff moves start q) (breaks' : BreaksOff moves start r) :
    q = r := by
  obtain ⟨m, walks, before⟩ := breaks.first
  obtain ⟨n, walks', before'⟩ := breaks'.first
  rcases Nat.lt_trichotomy m n with earlier | rfl | later
  · exact absurd (before' m q earlier walks) breaks.unrecorded
  · exact walks.unique walks'
  · exact absurd (before n r later walks') breaks'.unrecorded

theorem Strays.unique (strays : Strays moves start q) (strays' : Strays moves start r) :
    q = r := by
  obtain ⟨i, m, before, walks, again, apart⟩ := strays.twice
  obtain ⟨j, n, before', walks', again', apart'⟩ := strays'.twice
  rcases Nat.lt_trichotomy m n with earlier | rfl | later
  · exact absurd again (apart' i m q before earlier walks)
  · exact again.unique again'
  · exact absurd again' (apart j n r before' later walks')

theorem Verdict.unique {result result' : Except (WalkError α) (List α)}
    (verdict : Verdict moves start result) (verdict' : Verdict moves start result') :
    result = result' := by
  cases verdict with
  | closes closes =>
    cases verdict' with
    | closes closes' => rw [closes.unique closes']
    | startMissing missing => exact absurd closes.starts missing
    | breaksOff breaks => exact absurd breaks closes.not_breaksOff
    | strays strays => exact absurd strays closes.not_strays
  | startMissing missing =>
    cases verdict' with
    | closes closes => exact absurd closes.starts missing
    | startMissing _ => rfl
    | breaksOff breaks => exact absurd breaks.starts missing
    | strays strays => exact absurd strays.starts missing
  | breaksOff breaks =>
    cases verdict' with
    | closes closes => exact absurd breaks closes.not_breaksOff
    | startMissing missing => exact absurd breaks.starts missing
    | breaksOff breaks' => rw [breaks.unique breaks']
    | strays strays => exact absurd strays breaks.not_strays
  | strays strays =>
    cases verdict' with
    | closes closes => exact absurd strays closes.not_strays
    | startMissing missing => exact absurd strays.starts missing
    | breaksOff breaks => exact absurd strays breaks.not_strays
    | strays strays' => rw [strays.unique strays']

theorem walk_eq_iff {result : Except (WalkError α) (List α)} :
    walk moves start = result ↔ Verdict moves start result := by
  constructor
  · rintro rfl
    exact verdict_walk moves start
  · exact (verdict_walk moves start).unique

end Exclusion

/-! ## Exactness -/

section Exactness

variable [DecidableEq α] {moves : List (α × α)} {start q r : α} {path : List α}

/-- What comes after a position does not depend on when it is met. -/
theorem WalksTo.shift {i j k : Nat} {p : α} (early : WalksTo moves start i r)
    (late : WalksTo moves start j r) (walks : WalksTo moves start (j + k) p) :
    WalksTo moves start (i + k) p := by
  induction k generalizing p with
  | zero =>
    rw [walks.unique late]
    exact early
  | succ k ih =>
    cases walks with
    | step before records => exact (ih before).step records

/-- A walk that met a position twice would be back as much earlier, too. -/
theorem Closes.nodup (closes : Closes moves start path) : path.Nodup := by
  rw [List.nodup_iff_getElem?_ne_getElem?]
  intro i j before inside same
  have found := List.getElem?_eq_getElem inside
  have early := closes.along i _ (same.trans found)
  have late := closes.along j _ found
  have back : WalksTo moves start (j + (path.length - j)) start := by
    rw [Nat.add_sub_cancel' (Nat.le_of_lt inside)]
    exact closes.returns
  exact closes.first _ (by omega) (by omega) (early.shift late back)

/-- `FailsAt moves start code q`: the walk ends with the error of this code at `q`. -/
def FailsAt (moves : List (α × α)) (start : α) (code : String) (q : α) : Prop :=
  ∃ error, walk moves start = .error error ∧ error.code = code ∧ error.pos = q

theorem failsAt_startMissing_iff :
    FailsAt moves start "E_LOOP_START_MISSING" q ↔ q = start ∧ start ∉ moves.map Prod.fst := by
  constructor
  · rintro ⟨error, failed, code, rfl⟩
    cases walk_eq_iff.mp failed with
    | startMissing missing => exact ⟨rfl, missing⟩
    | breaksOff _ | strays _ => simp [WalkError.code] at code
  · rintro ⟨rfl, missing⟩
    exact ⟨.startMissing q, walk_eq_iff.mpr (.startMissing missing), rfl, rfl⟩

theorem failsAt_broken_iff :
    FailsAt moves start "E_LOOP_BROKEN" q ↔ BreaksOff moves start q := by
  constructor
  · rintro ⟨error, failed, code, rfl⟩
    cases walk_eq_iff.mp failed with
    | breaksOff breaks => exact breaks
    | startMissing _ | strays _ => simp [WalkError.code] at code
  · intro breaks
    exact ⟨.broken q, walk_eq_iff.mpr (.breaksOff breaks), rfl, rfl⟩

theorem failsAt_notClosed_iff :
    FailsAt moves start "E_LOOP_NOT_CLOSED" q ↔ Strays moves start q := by
  constructor
  · rintro ⟨error, failed, code, rfl⟩
    cases walk_eq_iff.mp failed with
    | strays strays => exact strays
    | startMissing _ | breaksOff _ => simp [WalkError.code] at code
  · intro strays
    exact ⟨.notClosed q, walk_eq_iff.mpr (.strays strays), rfl, rfl⟩

/-- A walk along any moves returns the positions from the start on until the walk is back,
none of them twice, exactly if it comes back; it says that the start is missing exactly if
that is not recorded; that it broke off at `q` exactly if `q` is the first position with
no record; and that it did not close at `q` exactly if it goes on for ever without coming
back, and `q` is the first position it visits twice. One of these holds, and only one. -/
theorem walk_exact (moves : List (α × α)) (start : α) :
    (∀ path, walk moves start = .ok path ↔ Closes moves start path) ∧
    (∀ path, Closes moves start path → path.Nodup) ∧
    (∀ q, FailsAt moves start "E_LOOP_START_MISSING" q ↔ q = start ∧ start ∉ moves.map Prod.fst) ∧
    (∀ q, FailsAt moves start "E_LOOP_BROKEN" q ↔ BreaksOff moves start q) ∧
    (∀ q, FailsAt moves start "E_LOOP_NOT_CLOSED" q ↔ Strays moves start q) ∧
    ∃! result, Verdict moves start result := by
  refine ⟨?_, fun _ => Closes.nodup, fun _ => failsAt_startMissing_iff, fun _ => failsAt_broken_iff,
    fun _ => failsAt_notClosed_iff, walk moves start, verdict_walk moves start, ?_⟩
  · intro path
    rw [walk_eq_iff]
    exact ⟨fun | .closes closes => closes, .closes⟩
  · intro result verdict
    exact verdict.unique (verdict_walk moves start)

/-- A tail from 5 into a cycle of 2 and 9, which also leads to 5 by a record that does not
count. -/
def exTail : List (Int × Int) :=
  [(5, -1), (-1, 2), (2, 9), (9, 5), (9, 2)]

/-- From 5 the walk runs into the cycle, and is at 2 when it meets a position again; it
never comes back to 5. From 2 it does come back. -/
theorem exTail_walks :
    FailsAt exTail 5 "E_LOOP_NOT_CLOSED" 2 ∧ (∀ n, 0 < n → ¬ WalksTo exTail 5 n 5) ∧
    walk exTail 2 = .ok [2, 9] ∧ Closes exTail 2 [2, 9] ∧ [(2 : Int), 9].Nodup := by
  obtain ⟨_, _, _, _, strayed, _⟩ := walk_exact exTail 5
  obtain ⟨closed, once, _⟩ := walk_exact exTail 2
  have fails : FailsAt exTail 5 "E_LOOP_NOT_CLOSED" 2 := ⟨.notClosed 2, by cbv, rfl, rfl⟩
  have walked : walk exTail 2 = .ok [2, 9] := by cbv
  have closes := (closed [2, 9]).mp walked
  exact ⟨fails, ((strayed 2).mp fails).away, walked, closes, once _ closes⟩

end Exactness

end LoopRepair.Cycle
