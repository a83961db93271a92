import LoopRepair.CommandLine
import LoopRepair.Proofs.JsonTexts

/-!
# Nothing is lost on a line

A value is written on one line of JSON. Two kinds of value are not JSON's own, and some
are left out, so what the line says is not quite the value: `data` is the value with these
replaced. `line_loses_nothing` says that this is all that changes. The line is a text of
JSON, it says what the value is after the replacement, and it tells values apart that differ
after it.

The proof follows the reader through the text of a value, whatever is open around it and
whatever follows it (`run_chars`). That the text depends on nothing else is shown by writing
it from the data alone (`Data.chars`).
-/

namespace LoopRepair.Json

/-! ## What a value says -/

mutual

/-- A value after the replacement: a big integer is the string of its decimal form, an absent
element of an array is `null`, and an absent field is left out. -/
def data : Json → Data
  | null => .null
  | absent => .null
  | bool b => .bool b
  | int n => .number n
  | big n => .str (Decimal.write n)
  | str s => .str s
  | arr elements => .arr (dataOfElements elements)
  | obj fields => .obj (dataOfFields fields)

def dataOfElements : List Json → List Data
  | [] => []
  | v :: vs => data v :: dataOfElements vs

def dataOfFields : List (String × Json) → List (String × Data)
  | [] => []
  | (_, absent) :: fields => dataOfFields fields
  | (key, v) :: fields => (key, data v) :: dataOfFields fields

end

@[simp] theorem dataOfFields_nil : dataOfFields [] = [] := rfl

theorem dataOfFields_cons (key : String) {v : Json} (present : v ≠ absent)
    (fields : List (String × Json)) :
    dataOfFields ((key, v) :: fields) = (key, data v) :: dataOfFields fields := by
  rw [dataOfFields]
  exact present

/-! ## The text of what is said -/

namespace Data

mutual

/-- The characters of data, as a value that says it is written. The numbers of a value are
whole, so the numerator is all that there is to write. -/
def chars : Data → List Char
  | null => "null".toList
  | bool b => (if b then "true" else "false").toList
  | number q => (Decimal.write q.num).toList
  | str s => quote s
  | arr elements => '[' :: commaJoin (charsOfElements elements) ++ [']']
  | obj fields => '\x7b' :: commaJoin (charsOfFields fields) ++ ['\x7d']

def charsOfElements : List Data → List (List Char)
  | [] => []
  | v :: vs => chars v :: charsOfElements vs

def charsOfFields : List (String × Data) → List (List Char)
  | [] => []
  | (key, v) :: fields => (quote key ++ ':' :: chars v) :: charsOfFields fields

end

end Data

mutual

/-- A value is written by what it says, and by nothing else. -/
theorem chars_data (v : Json) : v.data.chars = v.chars := by
  cases v with
  | null | absent | big n | str s => rw [data, Data.chars, chars]
  | int n => rw [data, Data.chars, chars, Rat.num_intCast]
  | bool b => cases b <;> simp [data, Data.chars, chars]
  | arr elements => rw [data, Data.chars, chars, charsOfElements_data]
  | obj fields => rw [data, Data.chars, chars, charsOfFields_data]

theorem charsOfElements_data (elements : List Json) :
    Data.charsOfElements (dataOfElements elements) = charsOfElements elements := by
  cases elements with
  | nil => rfl
  | cons v vs =>
    rw [dataOfElements, Data.charsOfElements, charsOfElements, chars_data, charsOfElements_data]

theorem charsOfFields_data (fields : List (String × Json)) :
    Data.charsOfFields (dataOfFields fields) = charsOfFields fields := by
  cases fields with
  | nil => rfl
  | cons field fields =>
    obtain ⟨key, v⟩ := field
    by_cases missing : v = absent
    · rw [missing, dataOfFields, charsOfFields, charsOfFields_data]
    · rw [dataOfFields_cons key missing, Data.charsOfFields, charsOfFields_cons key missing,
        chars_data, charsOfFields_data]

end

/-- Fields of which nothing is written say nothing. -/
theorem dataOfFields_eq_nil {fields : List (String × Json)} (none : charsOfFields fields = []) :
    dataOfFields fields = [] := by
  rw [← charsOfFields_data] at none
  cases said : dataOfFields fields with
  | nil => rfl
  | cons field rest =>
    rw [said, Data.charsOfFields] at none
    cases none

/-! ## Parts with commas between them -/

theorem commaJoin_singleton (part : List Char) : commaJoin [part] = part :=
  List.intercalate_singleton

theorem commaJoin_cons (part : List Char) {parts : List (List Char)} (more : parts ≠ []) :
    commaJoin (part :: parts) = part ++ ',' :: commaJoin parts := by
  obtain ⟨next, later, rfl⟩ := List.exists_cons_of_ne_nil more
  rw [commaJoin, List.intercalate_cons_cons, List.append_assoc]
  rfl

/-! ## Reading a value -/

namespace Reader

variable {stack : List Frame} {first : Bool} {rest : List Char}

/-- What is open awaits a value and not a key. -/
def AwaitsValue : List Frame → Prop
  | .obj _ :: _ => False
  | _ => True

theorem afterString_of_awaitsValue (awaits : AwaitsValue stack) (s : String) :
    afterString stack s = ⟨.done (.str s), stack⟩ := by
  unfold afterString
  split
  · exact awaits.elim
  · rfl

theorem isBareChar_of_isNumeralChar {c : Char} (numeral : Decimal.isNumeralChar c = true) :
    isBareChar c = true := by
  have minus : isBareChar '-' = true := by decide
  simp only [Decimal.isNumeralChar, Bool.or_eq_true, decide_eq_true_eq] at numeral
  rcases numeral with rfl | digit
  · exact minus
  · obtain ⟨d, small, rfl⟩ := Decimal.exists_digitChar_of_isDigit digit
    revert small d
    decide

theorem run_literal (word : String) {v : Data} (reads : readBare word.toList = some v)
    (bare : word.toList.all isBareChar = true) (nonempty : word.toList ≠ []) (ends : Ends rest) :
    run ⟨.value first, stack⟩ (word.toList ++ rest) = run ⟨.done v, stack⟩ rest :=
  run_bare reads nonempty (List.all_eq_true.mp bare) ends

theorem ends_cons {c : Char} (ends : endsBare c = true) (rest : List Char) : Ends (c :: rest) := by
  rintro _ ⟨⟩
  exact ends

-- The induction is on the value, and with it on its elements and fields. It leaves open what
-- is around the value and what follows, since both change on the way down.
mutual

/-- The text of a value is read as what the value says, wherever a value may stand. -/
theorem run_chars (v : Json) (first : Bool) (stack : List Frame) (rest : List Char)
    (awaits : AwaitsValue stack) (ends : Ends rest) :
    run ⟨.value first, stack⟩ (chars v ++ rest) = run ⟨.done v.data, stack⟩ rest := by
  cases v with
  | null | absent => exact run_literal "null" rfl rfl (by decide) ends
  | bool b =>
    cases b with
    | true => exact run_literal "true" rfl rfl (by decide) ends
    | false => exact run_literal "false" rfl rfl (by decide) ends
  | int n =>
    exact run_bare (readBare_write n) (Decimal.write_ne_nil n)
      (fun c member => isBareChar_of_isNumeralChar (Decimal.isNumeralChar_of_mem_write member)) ends
  | big n => rw [chars, run_value_quote, afterString_of_awaitsValue awaits, data]
  | str s => rw [chars, run_value_quote, afterString_of_awaitsValue awaits, data]
  | arr elements =>
    have opens : step ⟨.value first, stack⟩ '[' = some ⟨.value true, .arr [] :: stack⟩ := rfl
    rw [chars, data, List.cons_append, List.cons_append, run_cons opens, List.append_assoc,
      List.singleton_append, run_elements elements true [] stack rest fun _ => ⟨rfl, rfl⟩]
    rfl
  | obj fields =>
    have opens : step ⟨.value first, stack⟩ '\x7b' = some ⟨.key true, .obj [] :: stack⟩ := rfl
    rw [chars, data, List.cons_append, List.cons_append, run_cons opens, List.append_assoc,
      List.singleton_append, run_fields fields true [] stack rest fun _ => ⟨rfl, rfl⟩]
    rfl

/-- The elements of an array are read one after the other, to its end. There may be none of
them only if none has been read before. -/
theorem run_elements (elements : List Json) (first : Bool) (before : List Data)
    (stack : List Frame) (rest : List Char)
    (proper : elements = [] → first = true ∧ before = []) :
    run ⟨.value first, .arr before :: stack⟩
        (commaJoin (charsOfElements elements) ++ ']' :: rest) =
      run ⟨.done (.arr (before ++ dataOfElements elements)), stack⟩ rest := by
  cases elements with
  | nil =>
    obtain ⟨rfl, rfl⟩ := proper rfl
    rfl
  | cons v vs =>
    rw [charsOfElements, dataOfElements]
    cases vs with
    | nil =>
      have closes : step ⟨.done v.data, .arr before :: stack⟩ ']' =
          some ⟨.done (.arr (before ++ [v.data])), stack⟩ := rfl
      rw [charsOfElements, commaJoin_singleton,
        run_chars v first (.arr before :: stack) _ trivial (ends_cons rfl rest), run_cons closes]
      rfl
    | cons w ws =>
      have comma : step ⟨.done v.data, .arr before :: stack⟩ ',' =
          some ⟨.value false, .arr (before ++ [v.data]) :: stack⟩ := rfl
      have more : charsOfElements (w :: ws) ≠ [] := by
        rw [charsOfElements]
        exact List.cons_ne_nil _ _
      rw [commaJoin_cons _ more, List.append_assoc, List.cons_append,
        run_chars v first (.arr before :: stack) _ trivial (ends_cons rfl _), run_cons comma,
        run_elements (w :: ws) false (before ++ [v.data]) stack rest (fun none => nomatch none),
        List.append_assoc]
      rfl

/-- The fields of an object are read one after the other, to its end. There may be none of
them only if none has been read before. -/
theorem run_fields (fields : List (String × Json)) (first : Bool) (before : List (String × Data))
    (stack : List Frame) (rest : List Char)
    (proper : charsOfFields fields = [] → first = true ∧ before = []) :
    run ⟨.key first, .obj before :: stack⟩
        (commaJoin (charsOfFields fields) ++ '\x7d' :: rest) =
      run ⟨.done (.obj (before ++ dataOfFields fields)), stack⟩ rest := by
  cases fields with
  | nil =>
    obtain ⟨rfl, rfl⟩ := proper rfl
    rfl
  | cons field fields =>
    obtain ⟨key, v⟩ := field
    by_cases missing : v = .absent
    · subst missing
      rw [charsOfFields] at proper ⊢
      rw [dataOfFields]
      exact run_fields fields first before stack rest proper
    · have colon : step ⟨.colon, .field before key :: stack⟩ ':' =
          some ⟨.value false, .field before key :: stack⟩ := rfl
      -- The key, the colon and the value are read in the same way, whatever follows.
      have read (after : List Char) (ends : Ends after) :
          run ⟨.key first, .obj before :: stack⟩ (quote key ++ ':' :: chars v ++ after) =
            run ⟨.done v.data, .field before key :: stack⟩ after := by
        rw [List.append_assoc, List.cons_append, run_key_quote]
        show run ⟨.colon, .field before key :: stack⟩ _ = _
        rw [run_cons colon, run_chars v false (.field before key :: stack) _ trivial ends]
      rw [charsOfFields_cons key missing, dataOfFields_cons key missing]
      by_cases last : charsOfFields fields = []
      · have closes : step ⟨.done v.data, .field before key :: stack⟩ '\x7d' =
            some ⟨.done (.obj (before ++ [(key, v.data)])), stack⟩ := rfl
        rw [last, commaJoin_singleton, read _ (ends_cons rfl rest), run_cons closes,
          dataOfFields_eq_nil last]
      · have comma : step ⟨.done v.data, .field before key :: stack⟩ ',' =
            some ⟨.key false, .obj (before ++ [(key, v.data)]) :: stack⟩ := rfl
        rw [commaJoin_cons _ last, List.append_assoc, List.cons_append, read _ (ends_cons rfl _),
          run_cons comma, run_fields fields false (before ++ [(key, v.data)]) stack rest
            (fun none => absurd none last), List.append_assoc]
        rfl

end

end Reader

/-! ## One line -/

/-- No character is a control, so the text stays on its line. -/
def Inline (cs : List Char) : Prop :=
  ∀ c ∈ cs, 0x20 ≤ c.toNat

instance (cs : List Char) : Decidable (Inline cs) :=
  List.decidableBAll _ cs

theorem Inline.append {cs ds : List Char} (inline : Inline cs) (inline' : Inline ds) :
    Inline (cs ++ ds) :=
  List.forall_mem_append.mpr ⟨inline, inline'⟩

theorem Inline.cons {c : Char} {cs : List Char} (printable : 0x20 ≤ c.toNat)
    (inline : Inline cs) : Inline (c :: cs) :=
  List.forall_mem_cons.mpr ⟨printable, inline⟩

theorem inline_nil : Inline [] :=
  fun _ member => absurd member List.not_mem_nil

theorem inline_escape (c : Char) : Inline (escape c) := by
  rcases escape_cases c with ⟨letter, written, short⟩ | ⟨written, control⟩ | ⟨written, _, _, large⟩
  · rw [written]
    exact .cons (by decide) (.cons (shortEscape_bounds short).1 inline_nil)
  · obtain ⟨_, _, high⟩ := hexDigit_plain (show c.toNat / 16 < 16 by omega)
    obtain ⟨_, _, low⟩ := hexDigit_plain (show c.toNat % 16 < 16 by omega)
    have marks : Inline ['\\', 'u', '0', '0'] := by decide
    rw [written]
    exact marks.append (.cons high (.cons low inline_nil))
  · rw [written]
    exact .cons large inline_nil

theorem inline_quote (s : String) : Inline (quote s) := by
  have inside : Inline (s.toList.flatMap escape) := by
    intro c member
    obtain ⟨x, _, written⟩ := List.mem_flatMap.mp member
    exact inline_escape x c written
  exact (Inline.cons (by decide) inside).append (.cons (by decide) inline_nil)

theorem inline_write (n : Int) : Inline (Decimal.write n).toList := by
  intro c member
  have numeral := Decimal.isNumeralChar_of_mem_write member
  simp only [Decimal.isNumeralChar, Bool.or_eq_true, decide_eq_true_eq, Char.isDigit_iff_toNat,
    Char.reduceToNat] at numeral
  rcases numeral with rfl | digit
  · decide
  · omega

theorem inline_commaJoin {parts : List (List Char)} (inline : ∀ part ∈ parts, Inline part) :
    Inline (commaJoin parts) := by
  induction parts with
  | nil => exact inline_nil
  | cons part parts ih =>
    have here := inline part List.mem_cons_self
    have later := ih fun part member => inline part (List.mem_cons_of_mem _ member)
    by_cases last : parts = []
    · rw [last, commaJoin_singleton]
      exact here
    · rw [commaJoin_cons part last]
      exact here.append (.cons (by decide) later)

mutual

theorem inline_chars (v : Json) : Inline v.chars := by
  cases v with
  | null | absent =>
    rw [chars]
    decide
  | bool b =>
    cases b <;>
      · rw [chars]
        decide
  | int n =>
    rw [chars]
    exact inline_write n
  | big n =>
    rw [chars]
    exact inline_quote _
  | str s =>
    rw [chars]
    exact inline_quote s
  | arr elements =>
    rw [chars]
    exact (Inline.cons (by decide) (inline_commaJoin (inline_elements elements))).append
      (.cons (by decide) inline_nil)
  | obj fields =>
    rw [chars]
    exact (Inline.cons (by decide) (inline_commaJoin (inline_fields fields))).append
      (.cons (by decide) inline_nil)

theorem inline_elements (elements : List Json) :
    ∀ part ∈ charsOfElements elements, Inline part := by
  cases elements with
  | nil => exact fun _ member => absurd member List.not_mem_nil
  | cons v vs =>
    rw [charsOfElements]
    exact List.forall_mem_cons.mpr ⟨inline_chars v, inline_elements vs⟩

theorem inline_fields (fields : List (String × Json)) :
    ∀ part ∈ charsOfFields fields, Inline part := by
  cases fields with
  | nil => exact fun _ member => absurd member List.not_mem_nil
  | cons field fields =>
    obtain ⟨key, v⟩ := field
    by_cases missing : v = absent
    · rw [missing, charsOfFields]
      exact inline_fields fields
    · rw [charsOfFields_cons key missing]
      have written : Inline (quote key ++ ':' :: v.chars) :=
        (inline_quote key).append (Inline.cons (by decide) (inline_chars v))
      exact List.forall_mem_cons.mpr ⟨written, inline_fields fields⟩

end

/-! ## Lines -/

variable {v w : Json}

theorem line?_of_ne_absent (present : v ≠ absent) : v.line? = some v.line := by
  cases v with
  | absent => exact absurd rfl present
  | null | bool _ | int _ | big _ | str _ | arr _ | obj _ => rfl

theorem toList_line (v : Json) : v.line.toList = v.chars :=
  String.toList_ofList

/-- The line of a value is read as what the value says. -/
theorem read_line (v : Json) : read v.line = some v.data := by
  have read := Reader.run_chars v false [] [] trivial (fun _ none => nomatch none)
  rw [List.append_nil] at read
  rw [Json.read, toList_line, read]
  rfl

theorem line_eq_iff : v.line = w.line ↔ v.data = w.data := by
  constructor
  · intro same
    have read := read_line v
    rw [same, read_line w] at read
    exact (Option.some.inj read).symm
  · intro same
    rw [line, line, ← chars_data v, same, chars_data w]

theorem toJson_ne_absent (tag : Tag) : tag.toJson ≠ absent := by
  cases tag <;> exact Json.noConfusion

/-! ## Records -/

end Json

open Json (Data)

/-- A position that may be missing, as a record says it. -/
def saidPosition : Option Int → Data
  | none => .null
  | some n => .number n

/-- An opcode, as a record says it. -/
def Opcode.said : Opcode → String
  | acc => "ACC"
  | jmp => "JMP"
  | nop => "NOP"
  | other name => name

/-- A value of a noted entry, as a record says it. -/
def Scalar.said : Scalar → Data
  | null => .null
  | bool b => .bool b
  | int n => .number n
  | big n => .str (Decimal.write n)
  | str s => .str s

namespace Tag

/-- What a record says of each kind of tag: a name for the kind, then its fields. A noted entry
says the fields it was given. -/
def said : Tag → List (String × Data)
  | loop entry acc swap =>
    [("kind", .str "Loop"), ("at", .number entry), ("acc", .str (Decimal.write acc)),
      ("swapAt", saidPosition swap)]
  | halt acc swap =>
    [("kind", .str "Halt"), ("acc", .str (Decimal.write acc)), ("swapAt", saidPosition swap)]
  | candidate pos op .terminated =>
    [("kind", .str "Candidate"), ("at", .number pos), ("op", .str op.said),
      ("outcome", .str "terminated")]
  | candidate pos op .looped =>
    [("kind", .str "Candidate"), ("at", .number pos), ("op", .str op.said),
      ("outcome", .str "looped")]
  | repair pos acc =>
    [("kind", .str "Repair"), ("at", saidPosition pos), ("acc", .str (Decimal.write acc))]
  | warning code line =>
    [("kind", .str "Warning"), ("code", .str code), ("line", .number line)]
  | noted fields => fields.map fun field => (field.1, field.2.said)

/-- The positions and line numbers of a tag, and the numbers of a noted entry. -/
def numbers : Tag → List Int
  | loop entry _ swap => entry :: swap.toList
  | halt _ swap => swap.toList
  | candidate pos _ _ => [pos]
  | repair pos _ => pos.toList
  | warning _ line => [line]
  | noted fields => fields.filterMap fun
    | (_, .int n) => some n
    | _ => none

end Tag

namespace Json

theorem data_ofPosition? (pos : Option Int) : (ofPosition? pos).data = saidPosition pos := by
  cases pos <;> simp [ofPosition?, saidPosition, data]

theorem ofPosition?_ne_absent (pos : Option Int) : ofPosition? pos ≠ absent := by
  cases pos <;> exact Json.noConfusion

theorem data_scalar (value : Scalar) : value.toJson.data = value.said := by
  cases value <;> simp [Scalar.toJson, Scalar.said, data]

theorem scalar_ne_absent (value : Scalar) : value.toJson ≠ absent := by
  cases value <;> exact Json.noConfusion

theorem dataOfFields_noted (fields : List (String × Scalar)) :
    dataOfFields (fields.map fun field => (field.1, field.2.toJson)) =
      fields.map fun field => (field.1, field.2.said) := by
  induction fields with
  | nil => rfl
  | cons field fields ih =>
    rw [List.map_cons, List.map_cons, dataOfFields_cons _ (scalar_ne_absent _), ih, data_scalar]

theorem name_eq_said (op : Opcode) : op.name = op.said := by
  cases op <;> rfl

theorem data_tag (tag : Tag) : tag.toJson.data = .obj tag.said := by
  cases tag with
  | loop entry acc swap | halt acc swap | repair swap acc =>
    simp [Tag.toJson, Tag.said, data, dataOfFields_cons, ofPosition?_ne_absent, data_ofPosition?]
  | candidate pos op status =>
    cases status <;> simp [Tag.toJson, Tag.said, data, dataOfFields_cons, name_eq_said, Status.name]
  | warning code line => simp [Tag.toJson, Tag.said, data, dataOfFields_cons]
  | noted fields => rw [Tag.toJson, Tag.said, data, dataOfFields_noted]

theorem read_record (time : Int) (tag : Tag) :
    read (tag.record time) = some (.obj [("ts", .number time), ("tag", .obj tag.said)]) := by
  rw [Tag.record, read_line, data, dataOfFields_cons "ts" Json.noConfusion,
    dataOfFields_cons "tag" (toJson_ne_absent tag), data_tag, data]
  rfl

/-- Nothing is lost on a line. A value that is not absent, and whose numbers are such as are
kept exact, has a line. It holds no control, and read as JSON it gives the value with every big
integer replaced by the string of its decimal form, every absent element by `null`, and every
absent field left out, in the order of the value. So two values have the same line exactly if
they are the same after the replacement. What a trace record writes is such a line with a line
feed after it, and gives the time and the tag: its kind and its fields. -/
theorem line_loses_nothing :
    (∀ v : Json, v ≠ .absent → v.isExact = true → ∃ text, v.line? = some text ∧
      (∀ c ∈ text.toList, 0x20 ≤ c.toNat) ∧ read text = some v.data) ∧
    (∀ v w : Json, v ≠ .absent → w ≠ .absent → v.isExact = true → w.isExact = true →
      (v.line? = w.line? ↔ v.data = w.data)) ∧
    ∀ (time : Int) (tag : Tag), (∀ n ∈ time :: tag.numbers, isExactInt n = true) →
      ∃ text, (Event.tag tag).errText time = text ++ "\n" ∧
        (∀ c ∈ text.toList, 0x20 ≤ c.toNat) ∧
        read text = some (.obj [("ts", .number time), ("tag", .obj tag.said)]) := by
  have inline (v : Json) : ∀ c ∈ v.line.toList, 0x20 ≤ c.toNat := by
    rw [toList_line]
    exact inline_chars v
  refine ⟨fun v present _ => ?_, fun v w present present' _ _ => ?_, fun time tag _ => ?_⟩
  · exact ⟨v.line, line?_of_ne_absent present, inline v, read_line v⟩
  · rw [line?_of_ne_absent present, line?_of_ne_absent present', Option.some.injEq, line_eq_iff]
  · exact ⟨tag.record time, rfl, inline _, read_record time tag⟩

/-- A value in which everything is replaced that may be, with a key and a string that need
escapes. -/
def exMixed : Json :=
  .obj [("a\"\n", .arr [.absent, .big (-12), .int (-7), .arr []]), ("gone", .absent),
    ("😀", .str "\u0001\\")]

/-- What `exMixed` says, as a value of its own. -/
def exReplaced : Json :=
  .obj [("a\"\n", .arr [.null, .str "-12", .int (-7), .arr []]), ("😀", .str "\u0001\\")]

theorem exMixed_read :
    (∃ text, exMixed.line? = some text ∧ (∀ c ∈ text.toList, 0x20 ≤ c.toNat) ∧
      read text = some (.obj [("a\"\n", .arr [.null, .str "-12", .number (-7), .arr []]),
        ("😀", .str "\u0001\\")])) ∧
    exMixed.line? = exReplaced.line? ∧ exMixed.line? ≠ (Json.obj []).line? ∧
    ∃ text, (Event.tag (.candidate 7 .jmp .terminated)).errText 1700000000000 = text ++ "\n" ∧
      (∀ c ∈ text.toList, 0x20 ≤ c.toNat) ∧
      read text = some (.obj [("ts", .number 1700000000000),
        ("tag", .obj [("kind", .str "Candidate"), ("at", .number 7), ("op", .str "JMP"),
          ("outcome", .str "terminated")])]) := by
  obtain ⟨reads, same, records⟩ := line_loses_nothing
  have nonabsent : exMixed ≠ .absent := Json.noConfusion
  refine ⟨reads exMixed nonabsent rfl, (same _ _ nonabsent Json.noConfusion rfl rfl).mpr rfl,
    fun equal => ?_, records _ _ (by decide)⟩
  exact nomatch (same _ _ nonabsent Json.noConfusion rfl rfl).mp equal

end LoopRepair.Json
