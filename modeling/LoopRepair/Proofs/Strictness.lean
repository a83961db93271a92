import LoopRepair.Proofs.Encodings
import LoopRepair.Proofs.Exits
import LoopRepair.Proofs.Layouts

/-!
# Strict and lenient commands

In strict mode a doubtful line stops a command before it starts. In lenient mode the
warnings are shown, and the command goes on with what was read. This module compares the
two modes, command by command and file by file. Where there is nothing to warn of, they
are the same. Where there is, the strict command says so and does nothing else, and the
lenient one does, after the warnings, what it would do on a tidy file: the listing of the
program that was read.

All commands load a file first, and after that see nothing of it but its program
(`FileCommand.exists_work`). So commands are compared by what they load.

Results:
1. `loadFile_of_read`: what is loaded, by the two things that decide it.
2. `FileCommand.run_of_loaded`: two files with one program differ only in what was said
   when they were loaded.
3. `strictness_is_all_or_nothing`: the comparison of the two modes.
-/

namespace LoopRepair

/-! ## Commands in general -/

/-- A command on a file, with the options of its own. -/
inductive FileCommand where
  | repair (json : Bool)
  | loop
deriving DecidableEq, Repr

/-- Runs a command on a file, strictly or not. -/
def FileCommand.run (command : FileCommand) (source : Source) (path : String) (strict : Bool) :
    Logged Event Nat :=
  match command with
  | repair json => repairFile source path ⟨strict, json⟩
  | loop => loopFile source path strict

/-- `Refused path warnings ran`: a command on the file was refused for these warnings. It
shows one line, which counts them, and leaves nothing but their tags. -/
structure Refused (path : String) (warnings : List Warning) (ran : Logged Event Nat) : Prop where
  code : ran.result = .ok 1
  lines : ran.log.filter Event.isLine = [.err (refusalLine path warnings.length)]
  tags : ran.log.filterMap Event.tag? = warnings.map warningTag

/-- `Resumes warnings ran tidy`: a command shows these warnings, and then what the tidy one
shows. Both end with the same code. -/
structure Resumes (warnings : List Warning) (ran tidy : Logged Event Nat) : Prop where
  code : ∃ code, ran.result = .ok code ∧ tidy.result = .ok code
  lines : ran.log.filter Event.isLine =
    (warnings.map fun w => .err (warningLine w)) ++ tidy.log.filter Event.isLine

variable {source source' : Source} {path path' text : String} {strict strict' : Bool}

/-! ## Loading -/

theorem loadFile_of_unreadable {error : ReadError} (unread : source.text path = .error error)
    (strict : Bool) :
    loadFile source path strict = ⟨.ok (.error (.unreadable path error)), []⟩ := by
  rw [loadFile_def, readText, unread]

/-- A file that can be read is loaded, unless its warnings are to count. -/
theorem loadFile_of_read (read : source.text path = .ok text) (strict : Bool) :
    loadFile source path strict =
      if strict = true ∧ (Listing.read text).warnings ≠ [] then
        ⟨.ok (.error (.doubtful path (Listing.read text).warnings)),
          (Listing.read text).tags.map .tag⟩
      else
        ⟨.ok (.ok (Listing.read text).program),
          (Listing.read text).tags.map .tag ++ warningLines text⟩ := by
  obtain ⟨loaded, events, returned, loads⟩ := loadFile_loads source path strict
  rw [returned]
  cases loads with
  | unreadable unread => cases unread.symm.trans read
  | rejected read' isStrict doubtful =>
    cases read'.symm.trans read
    rw [if_pos ⟨isStrict, doubtful⟩]
  | accepted read' accepts =>
    cases read'.symm.trans read
    rw [if_neg accepts]
    rfl

/-- Without a warning, strictness has nothing to say. -/
theorem loadFile_of_clean (read : source.text path = .ok text)
    (clean : (Listing.read text).warnings = []) (strict : Bool) :
    loadFile source path strict = ⟨.ok (.ok (Listing.read text).program), []⟩ := by
  have accepts : ¬ (strict = true ∧ (Listing.read text).warnings ≠ []) :=
    fun rejects => rejects.2 clean
  rw [loadFile_of_read read, if_neg accepts, Listing.tags, warningLines, clean]
  rfl

theorem loadFile_of_lenient (read : source.text path = .ok text) :
    loadFile source path false = ⟨.ok (.ok (Listing.read text).program),
      (Listing.read text).tags.map .tag ++ warningLines text⟩ := by
  rw [loadFile_of_read read, if_neg (by simp)]

theorem loadFile_of_strict (read : source.text path = .ok text)
    (doubtful : (Listing.read text).warnings ≠ []) :
    loadFile source path true = ⟨.ok (.error (.doubtful path (Listing.read text).warnings)),
      (Listing.read text).tags.map .tag⟩ := by
  rw [loadFile_of_read read, if_pos ⟨rfl, doubtful⟩]

/-- A file that holds the listing of a program is read as that program. -/
theorem Source.text_of_listing {prog : Program}
    (holds : source path = .ok (Utf8.encode prog.listing)) :
    source.text path = .ok prog.listing := by
  rw [Source.text, holds, Except.map, Utf8.decode_encode, String.ofList_toList]

/-! ## Running -/

namespace FileCommand

/-- Whatever a command does, it loads the file first, and all that it gets is a failure or a
program. -/
theorem exists_work (command : FileCommand) :
    ∃ work : Program → Logged Event Nat, ∀ source path strict,
      command.run source path strict = (loadFile source path strict).andThen fun
        | .error failure => fail failure
        | .ok prog => work prog := by
  cases command with
  | repair json =>
    -- The options carry the strictness along. After the loading only the other one is read.
    exact ⟨_, fun source path strict => by
      simp only [run, repairFile_def]
      rfl⟩
  | loop => exact ⟨_, loopFile_def⟩

theorem run_of_failed (command : FileCommand) {failure : Failure} {events : List Event}
    (failed : loadFile source path strict = ⟨.ok (.error failure), events⟩) :
    command.run source path strict = ⟨.ok 1, events ++ [.err failure.message]⟩ := by
  obtain ⟨work, loads⟩ := command.exists_work
  rw [loads, failed]
  rfl

theorem exists_code (command : FileCommand) (source : Source) (path : String) (strict : Bool) :
    ∃ code, (command.run source path strict).result = .ok code := by
  cases command with
  | repair json =>
    obtain ⟨code, returned, _⟩ := repairFile_concludes source path ⟨strict, json⟩
    exact ⟨code, returned⟩
  | loop =>
    obtain ⟨code, returned, _⟩ := loopFile_concludes source path strict
    exact ⟨code, returned⟩

/-- Once a program is loaded, it does not matter from which file. -/
theorem run_of_loaded (command : FileCommand) {prog : Program} {events events' : List Event}
    (loaded : loadFile source path strict = ⟨.ok (.ok prog), events⟩)
    (loaded' : loadFile source' path' strict' = ⟨.ok (.ok prog), events'⟩) :
    ∃ code rest, command.run source path strict = ⟨.ok code, events ++ rest⟩ ∧
      command.run source' path' strict' = ⟨.ok code, events' ++ rest⟩ := by
  obtain ⟨work, loads⟩ := command.exists_work
  obtain ⟨code, returned⟩ := command.exists_code source path strict
  rw [loads, loaded] at returned
  have worked : (work prog).result = .ok code := returned
  refine ⟨code, (work prog).log, ?_, ?_⟩
  · rw [loads, loaded, Logged.andThen_mk_ok, worked]
  · rw [loads, loaded', Logged.andThen_mk_ok, worked]

end FileCommand

/-! ## The two modes -/

/-- A strict command refuses a file for its warnings. -/
theorem FileCommand.refused (command : FileCommand) (read : source.text path = .ok text)
    (doubtful : (Listing.read text).warnings ≠ []) :
    Refused path (Listing.read text).warnings (command.run source path true) := by
  rw [command.run_of_failed (loadFile_of_strict read doubtful), Failure.message_eq]
  refine ⟨rfl, ?_, ?_⟩
  · rw [List.filter_append, Event.filter_isLine_map_tag]
    rfl
  · rw [Event.filterMap_tag?_concat _ rfl, Listing.tags_eq]

/-- A lenient command does what it would do on the listing of the program that was read. -/
theorem FileCommand.resumes (command : FileCommand) (read : source.text path = .ok text)
    (tidy : source' path' = .ok (Utf8.encode (Listing.read text).program.listing))
    (strict' : Bool) :
    Resumes (Listing.read text).warnings (command.run source path false)
      (command.run source' path' strict') := by
  have again := Listing.read_listing (Listing.known_read text)
  have loaded := loadFile_of_clean (Source.text_of_listing tidy) (by rw [again]) strict'
  rw [again] at loaded
  obtain ⟨code, rest, lenient, clean⟩ := command.run_of_loaded (loadFile_of_lenient read) loaded
  rw [lenient, clean]
  refine ⟨⟨code, rfl, rfl⟩, ?_⟩
  rw [List.filter_append, List.filter_append, Event.filter_isLine_map_tag,
    filter_isLine_warningLines]
  rfl

/-- Strict mode is all or nothing. If a file cannot be read, or is read without a warning, a
command ends in strict mode as in lenient mode, with the same code and the same events, lines
and tags in order. If there are warnings, the strict command is refused, and the failure to
load the file has them, and nothing else, for details. The lenient command shows the warnings,
in the order of their lines, and then what the command shows on a file with the listing of the
program that was read, and ends with the same code. -/
theorem strictness_is_all_or_nothing (command : FileCommand) (source : Source) (path : String) :
    (((∃ error, source.text path = .error error) ∨
        ∃ text, source.text path = .ok text ∧ (Listing.read text).warnings = []) →
      ∃ code events, command.run source path true = ⟨.ok code, events⟩ ∧
        command.run source path false = ⟨.ok code, events⟩) ∧
    ∀ text, source.text path = .ok text → (Listing.read text).warnings ≠ [] →
      Refused path (Listing.read text).warnings (command.run source path true) ∧
      (∃ failure, (loadFile source path true).result = .ok (.error failure) ∧
        failure = .doubtful path (Listing.read text).warnings ∧
        failure.code = "E_PARSE_WARNINGS" ∧
        failure.details =
          .obj [("warnings", .arr ((Listing.read text).warnings.map Warning.toJson))] ∧
        Json.read failure.details.line =
          some (.obj [("warnings", .arr ((Listing.read text).warnings.map Warning.said))])) ∧
      ((Listing.read text).warnings.Pairwise fun w w' => w.line < w'.line) ∧
      ∀ (source' : Source) (path' : String) (strict' : Bool),
        source' path' = .ok (Utf8.encode (Listing.read text).program.listing) →
        Resumes (Listing.read text).warnings (command.run source path false)
          (command.run source' path' strict') := by
  constructor
  · rintro (⟨error, unread⟩ | ⟨text, read, clean⟩)
    · have same := loadFile_of_unreadable unread
      exact ⟨_, _, command.run_of_failed (same true), command.run_of_failed (same false)⟩
    · have same := loadFile_of_clean read clean
      obtain ⟨code, rest, strict, lenient⟩ := command.run_of_loaded (same true) (same false)
      exact ⟨code, _, strict, lenient⟩
  · intro text read doubtful
    have refused := loadFile_of_strict read doubtful
    refine ⟨command.refused read doubtful,
      ⟨_, by rw [refused], rfl, rfl, rfl, Json.read_doubtful path _⟩,
      Listing.pairwise_line_warnings text, ?_⟩
    intro source' path' strict' tidy
    exact command.resumes read tidy strict'

/-- `exFile` without the line that is no instruction. -/
def exTidy : Source := fun _ => .ok (Utf8.encode "nop +1")

/-- Strictly, `exFile` is refused; leniently it is run as `exTidy` is, after its warning. To
`exTidy` itself strictness makes no difference. -/
theorem exTidy_resumed :
    let warnings : List Warning := [⟨.lineSkipped, 2, "oops"⟩]
    Session.exFile.text "boot" = .ok "nop +1\noops" ∧
    Listing.read "nop +1\noops" = ⟨[⟨.nop, 1⟩], warnings⟩ ∧
    Refused "boot" warnings (FileCommand.loop.run Session.exFile "boot" true) ∧
    (∃ failure, (loadFile Session.exFile "boot" true).result = .ok (.error failure) ∧
      Json.read failure.details.line = some (.obj [("warnings", .arr [.obj
        [("code", .str "W_LINE_SKIPPED"), ("line", .number 2), ("text", .str "oops")]])])) ∧
    Resumes warnings (FileCommand.loop.run Session.exFile "boot" false)
      (FileCommand.loop.run exTidy "tidy" true) ∧
    ∃ code events, FileCommand.loop.run exTidy "tidy" true = ⟨.ok code, events⟩ ∧
      FileCommand.loop.run exTidy "tidy" false = ⟨.ok code, events⟩ := by
  intro warnings
  have text : Session.exFile.text "boot" = .ok "nop +1\noops" := rfl
  have listing : Listing.read "nop +1\noops" = ⟨[⟨.nop, 1⟩], warnings⟩ := by decide +kernel
  have written : Program.listing [⟨.nop, 1⟩] = "nop +1" := by decide +kernel
  have tidy : exTidy "tidy" = .ok (Utf8.encode (Program.listing [⟨.nop, 1⟩])) := by
    rw [written]
    rfl
  have doubtful : (Listing.read "nop +1\noops").warnings ≠ [] := by
    rw [listing]
    exact List.cons_ne_nil _ _
  have clean : (Listing.read (Program.listing [⟨.nop, 1⟩])).warnings = [] := by decide +kernel
  obtain ⟨_, rejects⟩ := strictness_is_all_or_nothing .loop Session.exFile "boot"
  obtain ⟨same, _⟩ := strictness_is_all_or_nothing .loop exTidy "tidy"
  obtain ⟨refused, ⟨failure, failed, _, _, _, details⟩, _, resumes⟩ := rejects _ text doubtful
  rw [listing] at refused details resumes
  exact ⟨text, listing, refused, ⟨failure, failed, details⟩, resumes exTidy "tidy" true tidy,
    same (.inr ⟨_, Source.text_of_listing tidy, clean⟩)⟩

end LoopRepair
