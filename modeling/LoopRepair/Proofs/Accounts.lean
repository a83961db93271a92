import LoopRepair.Proofs.Commands
import LoopRepair.Proofs.Layouts

/-!
# Three accounts of one program

The loop command, the repair command and its JSON form each load the file, run the
program and print a line, and none of them knows of the others. This module compares
the lines. `Story` lists the three ways in which the accounts fit together.

Results:
1. `Prints.unique`, `Reports.unique`: what a command prints and what it reports is one line
   and one report, so two accounts of it agree.
2. `read_text`: an instruction as it is printed is read back as that instruction.
3. `Loads.story`: a file that loads has its story.
4. `commands_tell_one_story`: what can be told from one account about another one.
-/

namespace LoopRepair

open Json (Data)

/-! ## What a command tells -/

/-- `Prints ran line`: a command succeeds, and prints this line and no other one. -/
def Prints (ran : Logged Event Nat) (line : String) : Prop :=
  ran.result = .ok 0 ∧ ran.log.filterMap Event.outLine? = [line]

instance (ran : Logged Event Nat) (line : String) : Decidable (Prints ran line) :=
  inferInstanceAs (Decidable (_ ∧ _))

/-- `FailsWith ran line`: a command prints nothing and exits with code 1, and this is its
last word on the error stream. -/
def FailsWith (ran : Logged Event Nat) (line : String) : Prop :=
  ran.result = .ok 1 ∧ ran.log.filterMap Event.outLine? = [] ∧
    (ran.log.filterMap Event.errLine?).getLast? = some line

/-- `Reports ran acc swappedAt loop`: a command prints one line, and read as JSON it is a
report of this accumulator, this position of a swap and this cycle, and of some positions
that were tried. -/
def Reports (ran : Logged Event Nat) (acc : Int) (swappedAt loop : Data) : Prop :=
  ∃ (line : String) (tried : List Nat), Prints ran line ∧
    Json.read line = some (.obj [("acc", .str (Decimal.write acc)), ("swappedAt", swappedAt),
      ("loop", loop), ("candidates", .arr (tried.map fun pos : Nat => .number pos))])

variable {ran : Logged Event Nat} {line line' : String}

theorem Prints.unique (prints : Prints ran line) (prints' : Prints ran line') : line = line' := by
  have same := prints.2.symm.trans prints'.2
  exact List.singleton_inj.mp same

theorem FailsWith.not_prints (fails : FailsWith ran line) : ¬ Prints ran line' := by
  intro prints
  exact absurd (fails.1.symm.trans prints.1) (by decide)

theorem FailsWith.not_reports {acc : Int} {swappedAt loop : Data} (fails : FailsWith ran line) :
    ¬ Reports ran acc swappedAt loop := by
  rintro ⟨_, _, prints, _⟩
  exact fails.not_prints prints

/-- A report is read in one way. -/
theorem Reports.unique {acc acc' : Int} {swappedAt swappedAt' loop loop' : Data}
    (reports : Reports ran acc swappedAt loop) (reports' : Reports ran acc' swappedAt' loop') :
    acc = acc' ∧ swappedAt = swappedAt' ∧ loop = loop' := by
  obtain ⟨line, tried, prints, read⟩ := reports
  obtain ⟨line', tried', prints', read'⟩ := reports'
  rw [prints.unique prints', read'] at read
  simp only [Option.some.injEq, Data.obj.injEq, List.cons.injEq, Prod.mk.injEq, true_and,
    Data.str.injEq] at read
  obtain ⟨acc, swapped, loop, _⟩ := read
  exact ⟨(Decimal.write_injective (congrArg String.toList acc)).symm, swapped.symm, loop.symm⟩

theorem Prints.reports {report : RepairReport} (prints : Prints ran report.toJson.line) :
    Reports ran report.acc (saidPosition (report.swappedAt.map Int.ofNat))
      ((report.loop.map LoopReport.said).getD .null) :=
  ⟨_, report.candidates, prints, Json.read_report report⟩

/-! ## Lines -/

/-- An instruction as it is printed is a listing of that one instruction. -/
theorem read_text {ins : Instr} (known : ins.op = .acc ∨ ins.op = .jmp ∨ ins.op = .nop) :
    Listing.read ins.text = ⟨[ins], []⟩ := by
  have single : Program.Known [ins] := by
    intro ins' member
    rwa [List.mem_singleton.mp member]
  have listing : Program.listing [ins] = ins.text := String.intercalate_singleton
  rw [← listing]
  exact Listing.read_listing single

theorem haltLine_injective {a b : Int} (same : haltLine a = haltLine b) : a = b := by
  have texts := congrArg String.toList same
  unfold haltLine at texts
  rw [String.toList_append, String.toList_append] at texts
  exact Decimal.write_injective (List.append_cancel_left texts)

theorem plainLine_injective {a b : Int} (same : plainLine a = plainLine b) : a = b := by
  have texts := congrArg String.toList same
  unfold plainLine at texts
  rw [String.toList_append, String.toList_append] at texts
  exact Decimal.write_injective (List.append_cancel_left texts)

theorem haltLine_ne_cycleLine (acc : Int) (cycle : LoopReport) :
    haltLine acc ≠ cycleLine cycle := by
  have halts : (haltLine acc).toList.head? = some 't' := by
    unfold haltLine
    rw [String.toList_append]
    rfl
  have loops : (cycleLine cycle).toList.head? = some 'l' := by
    unfold cycleLine
    simp only [String.append_assoc]
    rw [String.toList_append]
    rfl
  intro same
  rw [same, loops] at halts
  exact absurd halts (by decide)

/-- After the accumulator, one line ends and the other goes on with a blank. -/
theorem plainLine_ne_swapLine (acc acc' : Int) (text : String) (pos : Nat) :
    plainLine acc ≠ swapLine acc' text pos := by
  intro same
  have texts := congrArg String.toList same
  unfold plainLine swapLine at texts
  simp only [String.toList_append, List.append_assoc,
    List.append_cancel_left_eq] at texts
  have ends : ∀ c ∈ ([] : List Char).head?, Decimal.isNumeralChar c = false := by simp
  have goesOn (rest : List Char) :
      ∀ c ∈ (" (swapped ".toList ++ rest).head?, Decimal.isNumeralChar c = false := by
    rintro _ ⟨⟩
    decide
  rw [← List.append_nil (Decimal.write acc).toList] at texts
  obtain ⟨_, nothing⟩ := Decimal.write_append_inj ends (goesOn _) texts
  cases nothing

/-! ## The plain line of the repair command -/

theorem repairLine_unneeded (prog : Program) (acc : Int) :
    repairLine prog false ⟨acc, none, none, []⟩ = plainLine acc :=
  String.append_empty

theorem repairLine_swapped {prog : Program} {pos : Nat} {ins : Instr}
    (here : prog[pos]? = some ins) (acc : Int) (cycle : LoopReport) (tried : List Nat) :
    repairLine prog false ⟨acc, some pos, some cycle, tried⟩ = swapLine acc ins.text pos := by
  unfold swapLine
  simp [repairLine, here, String.append_assoc]

/-! ## Commands -/

theorem Event.filterMap_outLine?_map_tag (tags : List Tag) :
    (tags.map Event.tag).filterMap Event.outLine? = [] := by
  simp [List.filterMap_map, Function.comp_def, Event.outLine?]

/-- `Story prog loop plain json`: the three accounts of a program, by the loop command and by
the repair command in both forms.

* `halts`: the program halts by itself, and all of them give its accumulator.
* `hopeless`: the loop command shows a cycle, and the repair command fails for that cycle.
* `repaired`: the loop command shows a cycle, and the repair command reports the same one,
  with the swap of a jump or no-op on it. -/
inductive Story (prog : Program) (loop plain json : Logged Event Nat) : Prop
  | halts {acc : Int} :
      Prints loop (haltLine acc) → Prints plain (plainLine acc) → Reports json acc .null .null →
      Story prog loop plain json
  | hopeless {cycle : LoopReport} :
      Prints loop (cycleLine cycle) → FailsWith plain (hopelessLine cycle.entry) →
      FailsWith json (hopelessLine cycle.entry) → Story prog loop plain json
  | repaired {cycle : LoopReport} {acc : Int} {pos : Nat} {ins : Instr} :
      Prints loop (cycleLine cycle) → pos ∈ cycle.path →
      prog[pos]? = some ins → ins.op = .jmp ∨ ins.op = .nop →
      Prints plain (swapLine acc ins.text pos) → Reports json acc (.number pos) cycle.said →
      Story prog loop plain json

section Commands

variable {source : Source} {path : String} {strict : Bool} {events : List Event}
  {loaded : Except Failure Program} {prog : Program}

/-- Loading a file prints nothing. -/
theorem Loads.outLines (loads : Loads source path strict loaded events) :
    events.filterMap Event.outLine? = [] := by
  cases loads with
  | unreadable _ => rfl
  | rejected _ _ _ => exact Event.filterMap_outLine?_map_tag _
  | accepted _ _ =>
    rw [List.filterMap_append, Event.filterMap_outLine?_map_tag]
    simp [List.filterMap_map, Function.comp_def, Event.outLine?]

theorem Loads.prints (loads : Loads source path strict loaded events) (tags : List Tag)
    (line : String) : Prints ⟨.ok 0, events ++ (tags.map .tag ++ [.out line])⟩ line := by
  refine ⟨rfl, ?_⟩
  rw [List.filterMap_append, List.filterMap_append, loads.outLines,
    Event.filterMap_outLine?_map_tag]
  rfl

theorem Loads.failsWith (loads : Loads source path strict loaded events) (tags : List Tag)
    (line : String) : FailsWith ⟨.ok 1, events ++ (tags.map .tag ++ [.err line])⟩ line := by
  refine ⟨rfl, ?_, ?_⟩
  · rw [List.filterMap_append, List.filterMap_append, loads.outLines,
      Event.filterMap_outLine?_map_tag]
    rfl
  · simp [Event.errLine?]

theorem Program.exists_of_exchangeable {pos : Nat} (candidate : prog.exchangeable pos = true) :
    ∃ ins, prog[pos]? = some ins ∧ (ins.op = .jmp ∨ ins.op = .nop) := by
  unfold Program.exchangeable at candidate
  split at candidate
  · next ins here => exact ⟨ins, here, by simpa using candidate⟩
  · cases candidate

/-- The loop command shows the cycle that the search for a repair starts from. -/
theorem Loads.prints_cycleLine (loads : Loads source path strict (.ok prog) events)
    (returned : loadFile source path strict = ⟨.ok (.ok prog), events⟩) {cycle : LoopReport}
    (found : prog.firstLoop.result = .ok (some cycle)) :
    Prints (loopFile source path strict) (cycleLine cycle) := by
  obtain ⟨out, entry, executed, looped, rfl⟩ := loads.known.looped_of_firstLoop found
  rw [loopFile_of_looped returned executed looped, loopLine_eq]
  exact loads.prints [out.tag none] _

theorem Loads.prints_repairLine (loads : Loads source path strict (.ok prog) events)
    (returned : loadFile source path strict = ⟨.ok (.ok prog), events⟩) {report : RepairReport}
    (repaired : prog.repair.result = .ok (.ok report)) (json : Bool) :
    Prints (repairFile source path ⟨strict, json⟩) (repairLine prog json report) := by
  have loaded : loadFile source path (RepairOptions.mk strict json).strict =
      ⟨.ok (.ok prog), events⟩ := returned
  rw [repairFile_of_loaded loaded repaired]
  exact loads.prints _ _

theorem Loads.failsWith_hopelessLine (loads : Loads source path strict (.ok prog) events)
    (returned : loadFile source path strict = ⟨.ok (.ok prog), events⟩) {trouble : NoRepair}
    (failed : prog.repair.result = .ok (.error trouble)) (json : Bool) :
    FailsWith (repairFile source path ⟨strict, json⟩) (hopelessLine trouble.loop.entry) := by
  have loaded : loadFile source path (RepairOptions.mk strict json).strict =
      ⟨.ok (.ok prog), events⟩ := returned
  have said : (Failure.noRepair trouble).message = hopelessLine trouble.loop.entry :=
    Failure.message_eq _
  rw [repairFile_of_loaded loaded failed, ← said]
  exact loads.failsWith _ _

theorem Loads.story (loads : Loads source path strict (.ok prog) events)
    (returned : loadFile source path strict = ⟨.ok (.ok prog), events⟩) :
    Story prog (loopFile source path strict) (repairFile source path ⟨strict, false⟩)
      (repairFile source path ⟨strict, true⟩) := by
  obtain ⟨answer, right⟩ := loads.known.exists_repairAnswer
  have repaired := right.repair_eq loads.known
  cases right with
  | @unneeded out executed halted =>
    have prints := loads.prints_repairLine returned repaired
    refine .halts ?_ (repairLine_unneeded prog out.acc ▸ prints false) (prints true).reports
    rw [loopFile_of_halted returned executed halted]
    exact loads.prints [_, _] _
  | @fixed cycle out tried p _ found split _ _ _ =>
    have candidate : p ∈ cycle.path.filter prog.exchangeable := by simp [split]
    obtain ⟨onCycle, exchanged⟩ := List.mem_filter.mp candidate
    obtain ⟨ins, here, op⟩ := Program.exists_of_exchangeable exchanged
    have prints := loads.prints_repairLine returned repaired
    exact .repaired (loads.prints_cycleLine returned found) onCycle here op
      (repairLine_swapped here _ _ _ ▸ prints false) (prints true).reports
  | hopeless found _ =>
    have fails := loads.failsWith_hopelessLine returned repaired
    exact .hopeless (loads.prints_cycleLine returned found) (fails false) (fails true)

end Commands

/-- `ReportsSwap prog cycle plain json`: both forms of the repair command report the swap of
one jump or no-op of the cycle. The JSON report holds the cycle, and the plain line gives the
accumulator and the position of that report, and the instruction there as a listing has it. -/
def ReportsSwap (prog : Program) (cycle : LoopReport) (plain json : Logged Event Nat) : Prop :=
  ∃ (acc : Int) (pos : Nat) (ins : Instr) (text : String),
    Reports json acc (.number pos) (.obj [("at", .number cycle.entry),
      ("acc", .str (Decimal.write cycle.acc)),
      ("path", .arr (cycle.path.map fun pos : Nat => .number pos))]) ∧
    Prints plain ("accumulator: " ++ Decimal.write acc ++ " (swapped " ++ text ++ " at "
      ++ Decimal.write pos ++ ")") ∧
    pos ∈ cycle.path ∧ prog[pos]? = some ins ∧ (ins.op = .jmp ∨ ins.op = .nop) ∧
    Listing.read text = ⟨[ins], []⟩

namespace Story

variable {prog : Program} {loop plain json : Logged Event Nat}

theorem halts_iff_plain (story : Story prog loop plain json) {acc : Int} :
    Prints loop (haltLine acc) ↔ Prints plain (plainLine acc) := by
  cases story with
  | halts halts reports _ =>
    constructor
    · intro halts'
      rwa [haltLine_injective (halts'.unique halts)]
    · intro reports'
      rwa [plainLine_injective (reports'.unique reports)]
  | hopeless loops fails _ =>
    exact iff_of_false (fun halts => haltLine_ne_cycleLine _ _ (halts.unique loops))
      fails.not_prints
  | repaired loops _ _ _ swaps _ =>
    exact iff_of_false (fun halts => haltLine_ne_cycleLine _ _ (halts.unique loops))
      fun prints => plainLine_ne_swapLine _ _ _ _ (prints.unique swaps)

theorem halts_iff_json (story : Story prog loop plain json) {acc : Int} :
    Prints loop (haltLine acc) ↔ Reports json acc .null .null := by
  cases story with
  | halts halts _ reports =>
    constructor
    · intro halts'
      rwa [haltLine_injective (halts'.unique halts)]
    · intro reports'
      rwa [(reports'.unique reports).1]
  | hopeless loops _ fails =>
    exact iff_of_false (fun halts => haltLine_ne_cycleLine _ _ (halts.unique loops))
      fails.not_reports
  | repaired loops _ _ _ _ swaps =>
    refine iff_of_false (fun halts => haltLine_ne_cycleLine _ _ (halts.unique loops)) ?_
    intro reports
    cases (reports.unique swaps).2.1

theorem halts_or_loops (story : Story prog loop plain json) :
    (∃ acc, Prints loop (haltLine acc)) ∨
      ∃ cycle, Prints loop (cycleLine cycle) ∧
        ((FailsWith plain (hopelessLine cycle.entry) ∧ FailsWith json (hopelessLine cycle.entry)) ∨
          ReportsSwap prog cycle plain json) := by
  cases story with
  | halts halts _ _ => exact .inl ⟨_, halts⟩
  | hopeless loops fails fails' => exact .inr ⟨_, loops, .inl ⟨fails, fails'⟩⟩
  | @repaired cycle acc pos ins loops onCycle here op swaps reports =>
    exact .inr ⟨cycle, loops, .inr ⟨acc, pos, ins, ins.text, reports, swaps, onCycle, here, op,
      read_text (.inr op)⟩⟩

end Story

/-- The loop command and both forms of the repair command agree on every file. If it loads,
they agree on whether the program halts, and with which accumulator. If it does not halt,
the loop command shows a cycle, and either both forms of the repair command fail for the
position of that cycle, or both report the same swap on it. A file that does not load ends
all three in the same way. -/
theorem commands_tell_one_story (source : Source) (path : String) (strict : Bool) :
    let loop := loopFile source path strict
    let plain := repairFile source path ⟨strict, false⟩
    let json := repairFile source path ⟨strict, true⟩
    (∃ loaded, (loadFile source path strict).result = .ok loaded) ∧
    (∀ prog, (loadFile source path strict).result = .ok (.ok prog) →
      (∀ acc : Int,
        (Prints loop ("terminated with accumulator " ++ Decimal.write acc) ↔
          Prints plain ("accumulator: " ++ Decimal.write acc)) ∧
        (Prints loop ("terminated with accumulator " ++ Decimal.write acc) ↔
          Reports json acc .null .null)) ∧
      ((∃ acc : Int, Prints loop ("terminated with accumulator " ++ Decimal.write acc)) ∨
        ∃ cycle : LoopReport,
          Prints loop ("loop at " ++ Decimal.write cycle.entry ++ " with accumulator "
            ++ Decimal.write cycle.acc ++ " (path "
            ++ " -> ".intercalate (cycle.path.map fun pos : Nat => Decimal.write pos) ++ ")") ∧
          ((FailsWith plain (hopelessLine cycle.entry) ∧
              FailsWith json (hopelessLine cycle.entry)) ∨
            ReportsSwap prog cycle plain json))) ∧
    ∀ failure, (loadFile source path strict).result = .ok (.error failure) →
      FailsWith loop (failureLine failure) ∧ plain = loop ∧ json = loop := by
  intro loop plain json
  obtain ⟨loaded, events, returned, loads⟩ := loadFile_loads source path strict
  rw [returned]
  refine ⟨⟨loaded, rfl⟩, ?_, ?_⟩
  · rintro prog ⟨⟩
    have story := loads.story returned
    exact ⟨fun acc => ⟨story.halts_iff_plain, story.halts_iff_json⟩, story.halts_or_loops⟩
  · rintro failure ⟨⟩
    have loops : loop = _ := loopFile_of_failed returned
    refine ⟨?_, ?_, ?_⟩
    · rw [loops, Failure.message_eq]
      exact loads.failsWith [] (failureLine failure)
    · exact (repairFile_of_failed returned).trans loops.symm
    · exact (repairFile_of_failed returned).trans loops.symm

/-- Two files: `acc -3`, and the same before a jump back, `jmp -1`. -/
def exFiles : Source := fun path =>
  if path = "on" then .ok [97, 99, 99, 32, 45, 51]
  else if path = "back" then .ok [97, 99, 99, 32, 45, 51, 10, 106, 109, 112, 32, 45, 49]
  else .error .missing

/-- The first file halts with a negative accumulator, the second runs in circles and is
repaired, and no other file can be read. -/
theorem exFiles_told :
    (loadFile exFiles "on" true).result = .ok (.ok [⟨.acc, -3⟩]) ∧
    Prints (repairFile exFiles "on" ⟨true, false⟩) ("accumulator: " ++ Decimal.write (-3)) ∧
    Reports (repairFile exFiles "on" ⟨true, true⟩) (-3) .null .null ∧
    (loadFile exFiles "back" true).result = .ok (.ok [⟨.acc, -3⟩, ⟨.jmp, -1⟩]) ∧
    Prints (loopFile exFiles "back" true) "loop at 0 with accumulator -3 (path 0 -> 1)" ∧
    (∃ cycle, cycleLine cycle = "loop at 0 with accumulator -3 (path 0 -> 1)" ∧
      ReportsSwap [⟨.acc, -3⟩, ⟨.jmp, -1⟩] cycle
        (repairFile exFiles "back" ⟨true, false⟩) (repairFile exFiles "back" ⟨true, true⟩)) ∧
    (loadFile exFiles "up" true).result = .ok (.error (.unreadable "up" .missing)) ∧
    FailsWith (loopFile exFiles "up" true)
      "error: E_INPUT_UNREADABLE: cannot read program from up" ∧
    repairFile exFiles "up" ⟨true, true⟩ = loopFile exFiles "up" true := by
  obtain ⟨_, ofHalting, _⟩ := commands_tell_one_story exFiles "on" true
  obtain ⟨_, ofLooping, _⟩ := commands_tell_one_story exFiles "back" true
  obtain ⟨_, _, ofMissing⟩ := commands_tell_one_story exFiles "up" true
  have on : (loadFile exFiles "on" true).result = .ok (.ok [⟨.acc, -3⟩]) := rfl
  have back : (loadFile exFiles "back" true).result =
      .ok (.ok [⟨.acc, -3⟩, ⟨.jmp, -1⟩]) := rfl
  have up : (loadFile exFiles "up" true).result = .ok (.error (.unreadable "up" .missing)) :=
    rfl
  have halts : Prints (loopFile exFiles "on" true)
      ("terminated with accumulator " ++ Decimal.write (-3)) := by decide +kernel
  have loops : Prints (loopFile exFiles "back" true)
      "loop at 0 with accumulator -3 (path 0 -> 1)" := by decide +kernel
  have written : cycleLine ⟨0, -3, [0, 1]⟩ = "loop at 0 with accumulator -3 (path 0 -> 1)" := by
    decide +kernel
  have repaired : (repairFile exFiles "back" ⟨true, false⟩).result = .ok 0 := by
    decide +kernel
  obtain ⟨plain, json⟩ := (ofHalting _ on).1 (-3)
  obtain ⟨fails, _, same⟩ := ofMissing _ up
  refine ⟨on, plain.mp halts, json.mp halts, back, loops, ?_, up, fails, same⟩
  rcases (ofLooping _ back).2 with ⟨acc, halts'⟩ | ⟨cycle, shown, ⟨fails', _⟩ | swap⟩
  · rw [← written] at loops
    exact absurd (halts'.unique loops) (haltLine_ne_cycleLine acc _)
  · rw [fails'.1] at repaired
    cases repaired
  · exact ⟨cycle, shown.unique loops, swap⟩

end LoopRepair
