import LoopRepair.Proofs.Untraced

/-!
# Exit codes and streams

A call ends with code 0 or 1, and whoever looks at the code alone learns what whoever
looks at the streams alone does: something was written on the output stream exactly if
the code is 0. For the two commands `Concludes` says more, line by line: what they show
is the warnings of the listing and then one line, the result or the error.

Results:
1. `repairFile_concludes`, `loopFile_concludes`: a command always returns, whatever the
   file holds, and shows the lines that go with its code.
2. `Exit.stdout_ne_empty_iff`: something is on the output stream if a line was written
   there, and not otherwise.
3. `exit_code_agrees_with_streams`: both, for every call.
-/

namespace LoopRepair

/-! ## Lines -/

/-- The codes of failures. -/
def failureCodes : List String :=
  ["E_INPUT_UNREADABLE", "E_PARSE_WARNINGS", "E_NO_REPAIR"]

/-- A line that tells of a failure: the word for an error, the code of the failure, and
an explanation. -/
def IsErrorLine (line : String) : Prop :=
  ∃ code ∈ failureCodes, ∃ explanation, line = "error: " ++ code ++ ": " ++ explanation

/-- The lines for the warnings of a listing, in order. -/
def warningLines (text : String) : List Event :=
  (Listing.read text).warnings.map fun w => .err (warningLine w)

/-- `Concludes source path code lines`: a command on a file may end with this code and
these lines.

* `success`: the warnings of the listing, then one line on the output stream.
* `refused`: the program was not even loaded, and nothing is shown but the error.
* `failure`: the warnings of the listing, then the error. -/
inductive Concludes (source : Source) (path : String) : Nat → List Event → Prop
  | success {text line : String} :
      source.text path = .ok text →
      Concludes source path 0 (warningLines text ++ [.out line])
  | refused {line : String} : IsErrorLine line → Concludes source path 1 [.err line]
  | failure {text line : String} :
      source.text path = .ok text → IsErrorLine line →
      Concludes source path 1 (warningLines text ++ [.err line])

theorem Failure.isErrorLine_message (failure : Failure) : IsErrorLine failure.message := by
  have code : failure.code ∈ failureCodes := by
    cases failure <;> simp [Failure.code, failureCodes]
  refine ⟨failure.code, code, failure.explain, ?_⟩
  simp only [message, report, FailureReport.text, String.append_assoc]

/-- What a line starts with does not depend on what is put after it. -/
theorem head?_toList_append {start : String} {c : Char} (starts : start.toList.head? = some c)
    (rest : String) : (start ++ rest).toList.head? = some c := by
  rw [String.toList_append, List.head?_append, starts]
  rfl

/-- A warning is not mistaken for an error. -/
theorem Warning.not_isErrorLine_message (w : Warning) : ¬ IsErrorLine w.message := by
  rintro ⟨code, _, explanation, same⟩
  have warning : w.message.toList.head? = some 'w' := by
    unfold message
    iterate 5 apply head?_toList_append
    rfl
  have error : w.message.toList.head? = some 'e' := by
    rw [same]
    iterate 3 apply head?_toList_append
    rfl
  rw [warning] at error
  exact absurd error (by decide)

theorem Listing.line_of_warningOf {line : List Char} {number : Nat} {w : Warning}
    (left : warningOf line number = some w) : w.line = number := by
  obtain ⟨doubt, _, rfl⟩ := Option.map_eq_some_iff.mp left
  rfl

/-- The warnings of a listing stand in the order of their lines. -/
theorem Listing.pairwise_line_warnings (text : String) :
    (Listing.read text).warnings.Pairwise fun w w' => w.line < w'.line := by
  have numbered : ((Text.lines text.toList).zipIdx 1).Pairwise fun l l' => l.2 < l'.2 := by
    rw [← List.pairwise_map, List.zipIdx_map_snd]
    exact List.pairwise_lt_range'
  apply List.pairwise_filterMap.mpr
  refine numbered.imp fun before w left w' left' => ?_
  rw [line_of_warningOf left, line_of_warningOf left']
  exact before

theorem Event.filter_isLine_map_tag (tags : List Tag) :
    (tags.map Event.tag).filter Event.isLine = [] := by
  rw [List.filter_eq_nil_iff]
  rintro event member
  obtain ⟨tag, _, rfl⟩ := List.mem_map.mp member
  exact Bool.false_ne_true

theorem filter_isLine_warningLines (text : String) :
    (warningLines text).filter Event.isLine = warningLines text := by
  rw [List.filter_eq_self]
  rintro event member
  obtain ⟨w, _, rfl⟩ := List.mem_map.mp member
  rfl

/-! ## Commands -/

variable {source : Source} {path : String} {strict : Bool} {events : List Event}

theorem Loads.lines_of_failed {failure : Failure}
    (loads : Loads source path strict (.error failure) events) :
    events.filter Event.isLine = [] := by
  cases loads with
  | unreadable _ => rfl
  | rejected _ _ _ => exact Event.filter_isLine_map_tag _

theorem Loads.lines_of_loaded {prog : Program}
    (loads : Loads source path strict (.ok prog) events) :
    ∃ text, source.text path = .ok text ∧ events.filter Event.isLine = warningLines text := by
  cases loads with
  | @accepted text read _ =>
    refine ⟨text, read, ?_⟩
    rw [List.filter_append, Event.filter_isLine_map_tag]
    exact filter_isLine_warningLines text

/-- The code of a command is 0 exactly if it shows a line on the output stream. -/
theorem Concludes.code_eq_zero_iff {code : Nat} {lines : List Event}
    (concludes : Concludes source path code lines) :
    (code = 0 ∨ code = 1) ∧ (code = 0 ↔ ∃ line, .out line ∈ lines) := by
  cases concludes with
  | @success _ line _ =>
    have shown : Event.out line ∈ [Event.out line] := List.mem_cons_self
    exact ⟨.inl rfl, iff_of_true rfl ⟨line, List.mem_append_right _ shown⟩⟩
  | refused _ => exact ⟨.inr rfl, by simp⟩
  | failure _ _ => exact ⟨.inr rfl, by simp [warningLines]⟩

theorem Loads.concludes_of_failed {failure : Failure}
    (loads : Loads source path strict (.error failure) events) :
    Concludes source path 1 ((events ++ [Event.err failure.message]).filter Event.isLine) := by
  rw [List.filter_append, loads.lines_of_failed]
  exact .refused failure.isErrorLine_message

/-- A command that loaded a program traces its work, and then shows one line. -/
theorem Loads.lines_of_command {prog : Program}
    (loads : Loads source path strict (.ok prog) events) (tags : List Tag) (last : Event)
    (shown : last.isLine = true) :
    ∃ text, source.text path = .ok text ∧
      (events ++ (tags.map Event.tag ++ [last])).filter Event.isLine =
        warningLines text ++ [last] := by
  obtain ⟨text, read, lines⟩ := loads.lines_of_loaded
  refine ⟨text, read, ?_⟩
  rw [List.filter_append, lines, List.filter_append, Event.filter_isLine_map_tag,
    List.filter_cons_of_pos shown]
  rfl

theorem Loads.concludes_of_success {prog : Program}
    (loads : Loads source path strict (.ok prog) events) (tags : List Tag) (line : String) :
    Concludes source path 0
      ((events ++ (tags.map Event.tag ++ [Event.out line])).filter Event.isLine) := by
  obtain ⟨text, read, lines⟩ := loads.lines_of_command tags (.out line) rfl
  rw [lines]
  exact .success read

theorem Loads.concludes_of_failure {prog : Program}
    (loads : Loads source path strict (.ok prog) events) (tags : List Tag) (failure : Failure) :
    Concludes source path 1
      ((events ++ (tags.map Event.tag ++ [Event.err failure.message])).filter Event.isLine) := by
  obtain ⟨text, read, lines⟩ := loads.lines_of_command tags (.err failure.message) rfl
  rw [lines]
  exact .failure read failure.isErrorLine_message

theorem repairFile_concludes (source : Source) (path : String) (options : RepairOptions) :
    ∃ code, (repairFile source path options).result = .ok code ∧
      Concludes source path code ((repairFile source path options).log.filter Event.isLine) := by
  obtain ⟨loaded, events, returned, loads⟩ := loadFile_loads source path options.strict
  cases loaded with
  | error failure =>
    rw [repairFile_of_failed returned]
    exact ⟨1, rfl, loads.concludes_of_failed⟩
  | ok prog =>
    -- What a listing gives has known opcodes only, so neither the runs nor the walk of
    -- the cycle end in a fault.
    obtain ⟨answer, right⟩ := loads.known.exists_repairAnswer
    have command := repairFile_of_loaded returned (right.repair_eq loads.known)
    cases answer with
    | error trouble =>
      rw [command]
      exact ⟨1, rfl, loads.concludes_of_failure prog.repair.log (.noRepair trouble)⟩
    | ok report =>
      rw [command]
      exact ⟨0, rfl, loads.concludes_of_success prog.repair.log _⟩

theorem loopFile_concludes (source : Source) (path : String) (strict : Bool) :
    ∃ code, (loopFile source path strict).result = .ok code ∧
      Concludes source path code ((loopFile source path strict).log.filter Event.isLine) := by
  obtain ⟨loaded, events, returned, loads⟩ := loadFile_loads source path strict
  cases loaded with
  | error failure =>
    rw [loopFile_of_failed returned]
    exact ⟨1, rfl, loads.concludes_of_failed⟩
  | ok prog =>
    obtain ⟨out, executed, _⟩ := loads.known.exists_execute none
    cases ended : out.ending with
    | halted =>
      rw [loopFile_of_halted returned executed ended]
      exact ⟨0, rfl, loads.concludes_of_success [out.tag none, out.tag none] _⟩
    | looped entry =>
      rw [loopFile_of_looped returned executed ended]
      exact ⟨0, rfl, loads.concludes_of_success [out.tag none] _⟩

/-! ## Calls -/

namespace CommandLine

theorem Order.run_concludes (order : Order) (env : Environment) (source : Source) :
    ∃ code, (order.run env source).result = .ok code ∧
      Concludes source (order.path env) code ((order.run env source).log.filter Event.isLine) := by
  unfold Order.run Order.work
  split
  · exact repairFile_concludes source (order.path env) _
  · exact loopFile_concludes source (order.path env) _

theorem Order.exit_concludes (order : Order) (env : Environment) (source : Source) :
    Concludes source (order.path env) (order.exit env source).code
      ((order.exit env source).events.filter Event.isLine) := by
  obtain ⟨code, returned, concludes⟩ := order.run_concludes env source
  simpa only [Order.exit_eq, returned, Recorder.filter_isLine_seen] using concludes

/-- Something is on the output stream exactly if a line was written there. -/
theorem Exit.stdout_ne_empty_iff (exit : Exit) :
    exit.stdout ≠ "" ↔ ∃ line, .out line ∈ exit.events := by
  obtain ⟨code, events⟩ := exit
  unfold stdout
  induction events with
  | nil => simp
  | cons event events ih =>
    rw [List.map_cons, String.join_cons, ne_eq, String.append_eq_empty_iff, not_and_or, ← ne_eq,
      ← ne_eq, ih]
    cases event with
    | out line =>
      have written : line ++ "\n" ≠ "" := by simp
      exact iff_of_true (.inl written) ⟨line, List.mem_cons_self⟩
    | err line | tag tag => simp [Event.outText]

theorem helpOn_ne_nil (topic : Option Verb) : helpOn topic ≠ [] := by
  cases topic with
  | none => exact List.cons_ne_nil _ _
  | some verb => exact List.append_ne_nil_of_right_ne_nil _ (List.cons_ne_nil _ _)

/-- Help is shown on the output stream, and every other word about the use of the program
on the error stream. -/
theorem Call.code_eq_zero_iff (call : Call) (env : Environment) (source : Source) :
    ((call.exit env source).code = 0 ∨ (call.exit env source).code = 1) ∧
    ((call.exit env source).code = 0 ↔ ∃ line, .out line ∈ (call.exit env source).events) := by
  cases call with
  | order order =>
    obtain ⟨code, written⟩ := (order.exit_concludes env source).code_eq_zero_iff
    refine ⟨code, written.trans (exists_congr fun line => ?_)⟩
    rw [List.mem_filter]
    exact and_iff_left rfl
  | help topic =>
    obtain ⟨line, member⟩ := List.exists_mem_of_ne_nil _ (helpOn_ne_nil topic)
    exact ⟨.inl rfl, iff_of_true rfl ⟨line, List.mem_map_of_mem member⟩⟩
  | usage | unknownCommand _ | unknownOption _ _ => exact ⟨.inr rfl, by simp [Call.exit]⟩

/-- A call ends with code 0 or 1, and with 0 exactly if something was written on the output
stream. If it runs a command, what was written besides the records of a trace is the
warnings of the file, if they are shown, and then one line: on the output stream if the
code is 0, and an error if it is 1. No fault escapes a command, whatever the file. The
warnings stand in the order of their lines, and none of them looks like an error. -/
theorem exit_code_agrees_with_streams (source : Source) :
    (∀ (args : List String) (env : Environment),
      let exit := run args env source
      (exit.code = 0 ∨ exit.code = 1) ∧ (exit.code = 0 ↔ exit.stdout ≠ "") ∧
      ∀ order, Call.ofArguments args = .order order →
        Concludes source (order.path env) exit.code (exit.events.filter Event.isLine)) ∧
    (∀ (path : String) (options : RepairOptions),
      ∃ code, (repairFile source path options).result = .ok code ∧
        Concludes source path code ((repairFile source path options).log.filter Event.isLine)) ∧
    (∀ (path : String) (strict : Bool),
      ∃ code, (loopFile source path strict).result = .ok code ∧
        Concludes source path code ((loopFile source path strict).log.filter Event.isLine)) ∧
    (∀ text, (Listing.read text).warnings.Pairwise fun w w' => w.line < w'.line) ∧
    ∀ w : Warning, ¬ IsErrorLine w.message := by
  refine ⟨?_, repairFile_concludes source, loopFile_concludes source,
    Listing.pairwise_line_warnings, Warning.not_isErrorLine_message⟩
  intro args env exit
  obtain ⟨code, written⟩ := (Call.ofArguments args).code_eq_zero_iff env source
  refine ⟨code, written.trans exit.stdout_ne_empty_iff.symm, ?_⟩
  intro order called
  have ordered : exit = order.exit env source := by
    show (Call.ofArguments args).exit env source = _
    rw [called]
    rfl
  rw [ordered]
  exact order.exit_concludes env source

/-- In strict mode `exFile` is refused for its warning; otherwise the warning is shown, and
then the accumulator. -/
theorem exFile_exits :
    let strict := run ["loop", "boot", "--strict"] .empty Session.exFile
    let lenient := run ["loop", "boot"] .empty Session.exFile
    Call.ofArguments ["loop", "boot", "--strict"] = .order ⟨.loop, [.strict], some "boot"⟩ ∧
    Concludes Session.exFile "boot" 1 (strict.events.filter Event.isLine) ∧
    strict.stdout = "" ∧
    Call.ofArguments ["loop", "boot"] = .order ⟨.loop, [], some "boot"⟩ ∧
    Concludes Session.exFile "boot" 0 (lenient.events.filter Event.isLine) ∧
    lenient.stdout ≠ "" := by
  intro strict lenient
  obtain ⟨calls, _⟩ := exit_code_agrees_with_streams Session.exFile
  have refuses : Call.ofArguments ["loop", "boot", "--strict"] =
      .order ⟨.loop, [.strict], some "boot"⟩ := by decide +kernel
  have accepts : Call.ofArguments ["loop", "boot"] = .order ⟨.loop, [], some "boot"⟩ := by
    decide +kernel
  have one : strict.code = 1 := by decide +kernel
  have zero : lenient.code = 0 := by decide +kernel
  obtain ⟨_, silent, concludes⟩ := calls ["loop", "boot", "--strict"] .empty
  obtain ⟨_, shown, succeeds⟩ := calls ["loop", "boot"] .empty
  refine ⟨refuses, one ▸ concludes _ refuses, ?_, accepts, zero ▸ succeeds _ accepts, ?_⟩
  · by_contra written
    exact absurd (one.symm.trans (silent.mpr written)) (by decide)
  · exact shown.mp zero

end CommandLine

end LoopRepair
