import LoopRepair.Proofs.JsonLines

/-!
# Wordings

What the commands show, word by word: every line with its fixed words and its holes, and every
report with its keys. What is proved about the commands is said in these words, not in terms
of the functions that write the lines. Here the two are found to agree.
-/

namespace LoopRepair

open Json (Data)

/-! ## Lines and tags -/

namespace Event

/-- The line that an event writes on the output stream. -/
def outLine? : Event → Option String
  | out line => some line
  | _ => none

/-- The line that an event writes on the error stream, if it is no trace record. -/
def errLine? : Event → Option String
  | err line => some line
  | _ => none

end Event

/-- The line for a doubtful line. -/
def warningLine : Warning → String
  | ⟨.operandDefaulted, number, text⟩ =>
    "warning: line " ++ Decimal.write number ++ ": W_OPERAND_DEFAULTED: " ++ text
  | ⟨.lineSkipped, number, text⟩ =>
    "warning: line " ++ Decimal.write number ++ ": W_LINE_SKIPPED: " ++ text

/-- The tag of a doubtful line. -/
def warningTag : Warning → Tag
  | ⟨.operandDefaulted, number, _⟩ => .warning "W_OPERAND_DEFAULTED" number
  | ⟨.lineSkipped, number, _⟩ => .warning "W_LINE_SKIPPED" number

/-- The line of the loop command for a program that halts. -/
def haltLine (acc : Int) : String :=
  "terminated with accumulator " ++ Decimal.write acc

/-- The line of the loop command for a program that runs into a cycle. -/
def cycleLine (cycle : LoopReport) : String :=
  "loop at " ++ Decimal.write cycle.entry ++ " with accumulator " ++ Decimal.write cycle.acc
    ++ " (path " ++ " -> ".intercalate (cycle.path.map fun pos : Nat => Decimal.write pos) ++ ")"

/-- The line of the repair command for a program that halts by itself. -/
def plainLine (acc : Int) : String :=
  "accumulator: " ++ Decimal.write acc

/-- The line of the repair command for a program that halts with a swap, of an instruction
that a listing has as `text`. -/
def swapLine (acc : Int) (text : String) (pos : Nat) : String :=
  "accumulator: " ++ Decimal.write acc ++ " (swapped " ++ text ++ " at " ++ Decimal.write pos
    ++ ")"

/-- The line that refuses a file for a number of doubtful lines. -/
def refusalLine (path : String) (count : Nat) : String :=
  "error: E_PARSE_WARNINGS: " ++ Decimal.write count ++ " line(s) of " ++ path
    ++ " did not parse cleanly"

/-- The line of the repair command for a program that cannot be repaired. -/
def hopelessLine (entry : Nat) : String :=
  "error: E_NO_REPAIR: no single JMP/NOP swap on the loop at position " ++ Decimal.write entry
    ++ " lets the program terminate"

/-- The line for a failure. -/
def failureLine : Failure → String
  | .unreadable path _ => "error: E_INPUT_UNREADABLE: cannot read program from " ++ path
  | .doubtful path warnings => refusalLine path warnings.length
  | .noRepair trouble => hopelessLine trouble.loop.entry

theorem Warning.message_eq (w : Warning) : w.message = warningLine w := by
  obtain ⟨_ | _, number, text⟩ := w
  · show "warning: line " ++ Decimal.write number ++ ": " ++ "W_OPERAND_DEFAULTED" ++ ": " ++ text =
      "warning: line " ++ Decimal.write number ++ (": " ++ "W_OPERAND_DEFAULTED" ++ ": ") ++ text
    simp only [String.append_assoc]
  · show "warning: line " ++ Decimal.write number ++ ": " ++ "W_LINE_SKIPPED" ++ ": " ++ text =
      "warning: line " ++ Decimal.write number ++ (": " ++ "W_LINE_SKIPPED" ++ ": ") ++ text
    simp only [String.append_assoc]

theorem Warning.tag_eq (w : Warning) : w.tag = warningTag w := by
  obtain ⟨_ | _, number, text⟩ := w <;> rfl

theorem Listing.tags_eq (listing : Listing) : listing.tags = listing.warnings.map warningTag :=
  List.map_congr_left fun w _ => w.tag_eq

theorem loopLine_eq (cycle : LoopReport) : loopLine cycle = cycleLine cycle :=
  rfl

theorem Failure.message_eq (failure : Failure) : failure.message = failureLine failure := by
  cases failure with
  | unreadable path error =>
    show "error: " ++ ("E_INPUT_UNREADABLE" ++ ": " ++ ("cannot read program from " ++ path)) =
      "error: " ++ "E_INPUT_UNREADABLE" ++ ": " ++ "cannot read program from " ++ path
    simp only [String.append_assoc]
  | doubtful path warnings =>
    show "error: " ++ ("E_PARSE_WARNINGS" ++ ": " ++ (Decimal.write warnings.length ++
        " line(s) of " ++ path ++ " did not parse cleanly")) =
      "error: " ++ "E_PARSE_WARNINGS" ++ ": " ++ Decimal.write warnings.length ++
        " line(s) of " ++ path ++ " did not parse cleanly"
    simp only [String.append_assoc]
  | noRepair trouble =>
    show "error: " ++ ("E_NO_REPAIR" ++ ": " ++ ("no single JMP/NOP swap on the loop at position "
        ++ Decimal.write trouble.loop.entry ++ " lets the program terminate")) =
      "error: " ++ "E_NO_REPAIR" ++ ": " ++ "no single JMP/NOP swap on the loop at position "
        ++ Decimal.write trouble.loop.entry ++ " lets the program terminate"
    simp only [String.append_assoc]

/-! ## Reports -/

/-- A list of positions, as a report says it. -/
def saidPositions (positions : List Nat) : Data :=
  .arr (positions.map fun pos : Nat => .number pos)

/-- A cycle, as a report says it. -/
def LoopReport.said (cycle : LoopReport) : Data :=
  .obj [("at", .number cycle.entry), ("acc", .str (Decimal.write cycle.acc)),
    ("path", saidPositions cycle.path)]

/-- A warning, as the details of a failure say it. -/
def Warning.said : Warning → Data
  | ⟨.operandDefaulted, number, text⟩ =>
    .obj [("code", .str "W_OPERAND_DEFAULTED"), ("line", .number number), ("text", .str text)]
  | ⟨.lineSkipped, number, text⟩ =>
    .obj [("code", .str "W_LINE_SKIPPED"), ("line", .number number), ("text", .str text)]

namespace Json

theorem dataOfElements_map {α : Type} (f : α → Json) (xs : List α) :
    dataOfElements (xs.map f) = xs.map fun x => (f x).data := by
  induction xs with
  | nil => rfl
  | cons x xs ih => rw [List.map_cons, List.map_cons, dataOfElements, ih]

theorem data_ofPositions (positions : List Nat) :
    (ofPositions positions).data = saidPositions positions := by
  rw [ofPositions, data, dataOfElements_map]
  simp only [saidPositions, data, Rat.intCast_natCast]

theorem data_cycle (cycle : LoopReport) : cycle.toJson.data = cycle.said := by
  have path : ofPositions cycle.path ≠ absent := Json.noConfusion
  rw [LoopReport.toJson, data, dataOfFields_cons _ Json.noConfusion,
    dataOfFields_cons _ Json.noConfusion, dataOfFields_cons _ path, data_ofPositions, data, data,
    Rat.intCast_natCast, dataOfFields_nil, LoopReport.said]

theorem data_warning (w : Warning) : w.toJson.data = w.said := by
  rw [Warning.toJson, data, dataOfFields_cons _ Json.noConfusion,
    dataOfFields_cons _ Json.noConfusion, dataOfFields_cons _ Json.noConfusion, data, data, data,
    Rat.intCast_natCast, dataOfFields_nil]
  obtain ⟨_ | _, number, text⟩ := w <;> rfl

theorem read_doubtful (path : String) (warnings : List Warning) :
    read (Failure.doubtful path warnings).details.line =
      some (.obj [("warnings", .arr (warnings.map Warning.said))]) := by
  have said : (fun w : Warning => w.toJson.data) = Warning.said := funext data_warning
  rw [read_line, Failure.details, data, dataOfFields_cons _ Json.noConfusion, data,
    dataOfElements_map, said, dataOfFields_nil]

theorem read_noRepair (trouble : NoRepair) :
    read (Failure.noRepair trouble).details.line =
      some (.obj [("loop", trouble.loop.said),
        ("candidates", saidPositions trouble.candidates)]) := by
  have tried : ofPositions trouble.candidates ≠ absent := Json.noConfusion
  rw [read_line, Failure.details, data, dataOfFields_cons _ Json.noConfusion,
    dataOfFields_cons _ tried, data_cycle, data_ofPositions, dataOfFields_nil]

theorem read_report (report : RepairReport) :
    read report.toJson.line = some (.obj [("acc", .str (Decimal.write report.acc)),
      ("swappedAt", saidPosition (report.swappedAt.map Int.ofNat)),
      ("loop", (report.loop.map LoopReport.said).getD .null),
      ("candidates", saidPositions report.candidates)]) := by
  have position := ofPosition?_ne_absent (report.swappedAt.map Int.ofNat)
  have tried : ofPositions report.candidates ≠ absent := Json.noConfusion
  have loop : (report.loop.map LoopReport.toJson).getD .null ≠ absent := by
    cases report.loop <;> exact Json.noConfusion
  have said : ((report.loop.map LoopReport.toJson).getD .null).data =
      (report.loop.map LoopReport.said).getD .null := by
    cases report.loop with
    | none => rfl
    | some cycle => exact data_cycle cycle
  rw [read_line, RepairReport.toJson, data, dataOfFields_cons _ Json.noConfusion,
    dataOfFields_cons _ position, dataOfFields_cons _ loop, dataOfFields_cons _ tried,
    data_ofPosition?, said, data_ofPositions, data, dataOfFields_nil]

end Json

end LoopRepair
