import LoopRepair.Proofs.Repairs
import LoopRepair.Proofs.Translations
import LoopRepair.Proofs.Wordings

/-!
# What the commands do

A command on a file loads it, computes, and shows one line. This module says of each
command what it returns and everything it does on the way, as one equation for each
way it can go, so that what follows about exit codes, lines or tags need not look
into the commands again.

Results:
1. `loadFile_loads`: loading a file always comes to one of three ends, which `Loads`
   lists; `Loads.known`: a program that was loaded has known opcodes only.
2. `repairFile_of_failed`, `repairFile_of_loaded`, and likewise for `loopFile`: a
   file that does not load ends the command, any other lets it do its work.
-/

namespace LoopRepair

theorem Logged.andThen_mk_ok {ε α β : Type} (a : α) (log : List ε) (f : α → Logged ε β) :
    (⟨.ok a, log⟩ : Logged ε α).andThen f = ⟨(f a).result, log ++ (f a).log⟩ := rfl

theorem Logged.events_of_ok {α : Type} {x : Logged Tag α} {a : α} (returned : x.result = .ok a) :
    x.events = ⟨.ok a, x.log.map .tag⟩ := by
  rw [← returned]
  rfl

/-! ## Executions -/

namespace Program

variable {prog : Program} {swap : Swap} {out : Outcome}

theorem execute_eq (returned : (prog.execute swap).result = .ok out) :
    prog.execute swap = ⟨.ok out, [out.tag swap]⟩ := by
  rw [execute_def] at returned ⊢
  split at returned
  · cases returned; rfl
  · cases returned

/-- To look for the first cycle, a program is executed once. -/
theorem log_firstLoop (returned : (prog.execute none).result = .ok out) :
    prog.firstLoop.log = [out.tag none] := by
  rw [firstLoop_def, execute_eq returned, Logged.andThen_mk_ok]
  cases ended : out.ending with
  | halted => rfl
  | looped entry =>
    simp only [loopReport_of_looped returned ended]
    rfl

end Program

/-! ## Loading -/

/-- `Loads source path strict loaded events`: how loading a file may end. A file that
cannot be read leaves no event at all; one that can leaves the tags of its warnings,
and their lines unless the warnings were to count as errors. -/
inductive Loads (source : Source) (path : String) (strict : Bool) :
    Except Failure Program → List Event → Prop
  | unreadable {error : ReadError} :
      source.text path = .error error →
      Loads source path strict (.error (.unreadable path error)) []
  | rejected {text : String} :
      source.text path = .ok text → strict = true → (Listing.read text).warnings ≠ [] →
      Loads source path strict (.error (.doubtful path (Listing.read text).warnings))
        ((Listing.read text).tags.map .tag)
  | accepted {text : String} :
      source.text path = .ok text → ¬ (strict = true ∧ (Listing.read text).warnings ≠ []) →
      Loads source path strict (.ok (Listing.read text).program)
        ((Listing.read text).tags.map .tag ++
          (Listing.read text).warnings.map fun w => .err (warningLine w))

variable {source : Source} {path : String} {strict : Bool} {events : List Event}

theorem loadFile_loads (source : Source) (path : String) (strict : Bool) :
    ∃ loaded events, loadFile source path strict = ⟨.ok loaded, events⟩ ∧
      Loads source path strict loaded events := by
  rw [loadFile_def, readText]
  cases text : source.text path with
  | error error => exact ⟨_, _, rfl, .unreadable text⟩
  | ok text' =>
    by_cases doubtful : strict = true ∧ (Listing.read text').warnings ≠ []
    · refine ⟨_, _, ?_, .rejected text doubtful.1 doubtful.2⟩
      simp [doubtful]
    · refine ⟨_, _, ?_, .accepted text doubtful⟩
      have accepts : (strict && !(Listing.read text').warnings.isEmpty) = false := by
        simpa [Bool.and_eq_false_iff, or_iff_not_imp_left] using doubtful
      simp [accepts, Warning.message_eq]

/-- A program that was loaded has known opcodes only. -/
theorem Loads.known {prog : Program} (loads : Loads source path strict (.ok prog) events) :
    prog.Known := by
  cases loads with
  | accepted _ _ => exact Listing.known_read _

/-! ## The commands -/

variable {failure : Failure} {prog : Program} {options : RepairOptions} {out : Outcome}
  {entry : Nat}

theorem repairFile_of_failed
    (loaded : loadFile source path options.strict = ⟨.ok (.error failure), events⟩) :
    repairFile source path options = ⟨.ok 1, events ++ [.err failure.message]⟩ := by
  rw [repairFile_def, loaded]
  rfl

theorem repairFile_of_loaded {answer : Except NoRepair RepairReport}
    (loaded : loadFile source path options.strict = ⟨.ok (.ok prog), events⟩) :
    prog.repair.result = .ok answer →
    repairFile source path options = match answer with
      | .error trouble =>
        ⟨.ok 1, events ++ (prog.repair.log.map .tag ++ [.err (Failure.noRepair trouble).message])⟩
      | .ok report =>
        ⟨.ok 0, events ++
          (prog.repair.log.map .tag ++ [.out (repairLine prog options.json report)])⟩ := by
  intro repaired
  rw [repairFile_def, loaded, Logged.andThen_mk_ok]
  simp only [Logged.events_of_ok repaired]
  cases answer <;> rfl

theorem loopFile_of_failed (loaded : loadFile source path strict = ⟨.ok (.error failure), events⟩) :
    loopFile source path strict = ⟨.ok 1, events ++ [.err failure.message]⟩ := by
  rw [loopFile_def, loaded]
  rfl

theorem loopFile_of_halted (loaded : loadFile source path strict = ⟨.ok (.ok prog), events⟩)
    (returned : (prog.execute none).result = .ok out) (halted : out.ending = .halted) :
    loopFile source path strict = ⟨.ok 0, events ++ [.tag (out.tag none), .tag (out.tag none),
      .out ("terminated with accumulator " ++ Decimal.write out.acc)]⟩ := by
  rw [loopFile_def, loaded, Logged.andThen_mk_ok]
  simp only [Logged.events_of_ok (Program.firstLoop_of_halted returned halted),
    Program.log_firstLoop returned, Program.execute_eq returned]
  rfl

theorem loopFile_of_looped (loaded : loadFile source path strict = ⟨.ok (.ok prog), events⟩)
    (returned : (prog.execute none).result = .ok out) (looped : out.ending = .looped entry) :
    loopFile source path strict = ⟨.ok 0, events ++ [.tag (out.tag none),
      .out (loopLine ⟨entry, out.acc, out.cycle entry⟩)]⟩ := by
  rw [loopFile_def, loaded, Logged.andThen_mk_ok]
  simp only [Logged.events_of_ok (Program.firstLoop_of_looped returned looped),
    Program.log_firstLoop returned]
  rfl

end LoopRepair
