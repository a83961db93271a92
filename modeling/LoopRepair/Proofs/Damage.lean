import LoopRepair.Proofs.Concatenation
import LoopRepair.Proofs.Strictness

/-!
# Damaged files

A file may hold any bytes. Where they are not UTF-8, replacement characters take their place,
and the question is how far the damage goes. It stays on its line: a line feed is read as a
line feed whatever stands before it, be it the start of a character that never ends, and
nothing else is read as one. So bytes without a line feed are one line, and the lines around
them are read as if they were not there.

Both facts are about the decoder in the middle of a character, of which `Pending.Begun` is the
invariant: a line feed does not continue the character, and the character will not be one.

Results:
1. `Utf8.decode_append_feed`, `Utf8.count_decode`: a decoded text has a line feed where its
   bytes have one, and nowhere else.
2. `Listing.ofBytes_cut`: so bytes between line feeds are read by themselves.
3. `damage_stays_on_its_line`: the same of loading a file.
-/

namespace LoopRepair

/-! ## Line feeds in bytes -/

namespace Utf8

/-- What holds of a character that has begun: what continues it is beyond ASCII, and whatever
that is, the number of the character will be greater than that of a line feed. -/
structure Pending.Begun (p : Pending) : Prop where
  beyond : 0x80 ≤ p.least
  greater : 0x0A < p.bits * 64 + (p.least - 0x80)

theorem begun_mk {more least greatest bits : Nat} (beyond : 0x80 ≤ least)
    (greater : 0x0A < bits * 64 + (least - 0x80)) : Pending.Begun ⟨more, least, greatest, bits⟩ :=
  ⟨beyond, greater⟩

theorem ofNat_ne_feed {n : Nat} (other : n ≠ 0x0A) : Char.ofNat n ≠ '\n' := by
  by_cases valid : n.isValidChar
  · rw [Char.ofNat, dif_pos valid]
    exact fun feed => other (congrArg Char.toNat feed)
  · rw [Char.ofNat, dif_neg valid]
    decide

theorem feed_not_mem {n : Nat} (other : n ≠ 0x0A) : '\n' ∉ [Char.ofNat n] :=
  fun member => ofNat_ne_feed other (List.mem_singleton.mp member).symm

/-- `Begins b read`: what the byte `b` may be read as where a character begins.

* `whole`: a byte of ASCII is a character.
* `lead`: the first byte of a longer character leaves it begun.
* `stray`: any other byte is replaced. -/
inductive Begins (b : Nat) : List Char × Option Pending → Prop
  | whole : b < 0x80 → Begins b ([Char.ofNat b], none)
  | lead {p : Pending} : 0x80 ≤ b → p.Begun → Begins b ([], some p)
  | stray : 0x80 ≤ b → Begins b ([replacement], none)

theorem begins_begin (b : Nat) : Begins b (begin b) := by
  unfold begin
  split
  · next small => exact .whole small
  have large : 0x80 ≤ b := by omega
  -- Seven ranges begin a character, each with bits and bounds of its own.
  iterate 7
    split
    · exact .lead large (begun_mk (by decide) (by omega))
  exact .stray large

/-- A byte in the middle of a character ends it, goes on with it, or breaks it off. -/
theorem proceed_cases {p : Pending} (begun : p.Begun) (b : Nat) :
    (0x80 ≤ b ∧ ∃ v, 0x0A < v ∧ proceed p b = ([Char.ofNat v], none)) ∨
    (0x80 ≤ b ∧ ∃ p' : Pending, p'.Begun ∧ proceed p b = ([], some p')) ∨
    proceed p b = (replacement :: (begin b).1, (begin b).2) := by
  obtain ⟨more, least, greatest, bits⟩ := p
  obtain ⟨beyond, greater⟩ := begun
  simp only at beyond greater
  unfold proceed
  split
  · next range =>
    simp only at range
    have value : 0x0A < bits * 64 + (b - 0x80) := by omega
    cases more with
    | zero => exact .inl ⟨by omega, _, value, rfl⟩
    | succ more =>
      have begun : Pending.Begun ⟨more, 0x80, 0xBF, bits * 64 + (b - 0x80)⟩ :=
        begun_mk (by decide) (by omega)
      exact .inr (.inl ⟨by omega, _, begun, rfl⟩)
  · exact .inr (.inr rfl)

variable {pending : Option Pending} {bytes : List UInt8}

/-- The decoder is in the middle of no character, or of one that has begun. -/
def Proper (pending : Option Pending) : Prop :=
  ∀ p ∈ pending, p.Begun

theorem proper_none : Proper none :=
  fun _ none => nomatch none

theorem proper_some {p : Pending} (begun : p.Begun) : Proper (some p) := by
  rintro _ ⟨⟩
  exact begun

theorem proper_begin (b : Nat) : Proper (begin b).2 := by
  have begins := begins_begin b
  generalize begin b = read at begins ⊢
  cases begins with
  | whole _ | stray _ => exact proper_none
  | lead _ begun => exact proper_some begun

theorem count_begin (b : Nat) : (begin b).1.count '\n' = if b = 0x0A then 1 else 0 := by
  have begins := begins_begin b
  generalize begin b = read at begins ⊢
  cases begins with
  | whole _ =>
    split
    · next feed =>
      rw [feed]
      rfl
    · next other => exact List.count_eq_zero.mpr (feed_not_mem other)
  | lead large _ | stray large =>
    rw [if_neg (by omega)]
    rfl

/-- A step keeps the decoder proper. It gives a line feed if the byte is one, and else none. -/
theorem step_proper (proper : Proper pending) (b : Nat) :
    Proper (step pending b).2 ∧ (step pending b).1.count '\n' = if b = 0x0A then 1 else 0 := by
  cases pending with
  | none => exact ⟨proper_begin b, count_begin b⟩
  | some p =>
    rcases proceed_cases (proper p rfl) b with
      ⟨large, v, greater, read⟩ | ⟨large, p', begun, read⟩ | read
    · rw [step, read, if_neg (by omega)]
      exact ⟨proper_none, List.count_eq_zero.mpr (feed_not_mem (by omega))⟩
    · rw [step, read, if_neg (by omega)]
      exact ⟨proper_some begun, rfl⟩
    · rw [step, read]
      refine ⟨proper_begin b, ?_⟩
      show (replacement :: (begin b).1).count '\n' = _
      rw [List.count_cons_of_ne (by decide), count_begin]

/-- A decoded text has as many line feeds as its bytes. -/
theorem count_decodeFrom (proper : Proper pending) (bytes : List UInt8) :
    (decodeFrom pending bytes).count '\n' = bytes.count 0x0A := by
  induction bytes generalizing pending with
  | nil => cases pending <;> rfl
  | cons byte bytes ih =>
    obtain ⟨proper', counts⟩ := step_proper proper byte.toNat
    rw [decodeFrom, List.count_append, counts, ih proper', List.count_cons, Nat.add_comm]
    simp [← UInt8.toNat_inj]

/-- A line feed ends whatever the decoder is in the middle of. -/
theorem step_feed (proper : Proper pending) :
    step pending 0x0A = (decodeFrom pending [] ++ ['\n'], none) := by
  cases pending with
  | none => rfl
  | some p =>
    have breaks : ¬ (p.least ≤ 0x0A ∧ 0x0A ≤ p.greatest) := by
      have beyond := (proper p rfl).beyond
      omega
    rw [step, proceed, if_neg breaks]
    rfl

/-- What stands after a line feed is decoded by itself. -/
theorem decodeFrom_append_feed (proper : Proper pending) (bytes rest : List UInt8) :
    decodeFrom pending (bytes ++ 0x0A :: rest) =
      decodeFrom pending bytes ++ '\n' :: decode rest := by
  induction bytes generalizing pending with
  | nil =>
    show (step pending 0x0A).1 ++ decodeFrom (step pending 0x0A).2 rest = _
    rw [step_feed proper, List.append_assoc]
    rfl
  | cons byte bytes ih =>
    rw [List.cons_append, decodeFrom, decodeFrom, ih (step_proper proper _).1, List.append_assoc]

theorem decode_append_feed (bytes rest : List UInt8) :
    decode (bytes ++ 0x0A :: rest) = decode bytes ++ '\n' :: decode rest :=
  decodeFrom_append_feed proper_none bytes rest

theorem count_decode (bytes : List UInt8) : (decode bytes).count '\n' = bytes.count 0x0A :=
  count_decodeFrom proper_none bytes

theorem feed_not_mem_decode (inline : 0x0A ∉ bytes) : '\n' ∉ decode bytes := by
  rw [← List.count_eq_zero, count_decode]
  exact List.count_eq_zero.mpr inline

end Utf8

/-! ## Lines of a file -/

namespace Listing

/-- One listing after another. -/
instance : Append Listing :=
  ⟨fun listing listing' =>
    ⟨listing.program ++ listing'.program, listing.warnings ++ listing'.warnings⟩⟩

/-- Reads bytes, whose first line has a given number. -/
def ofBytes (bytes : List UInt8) (number : Nat) : Listing :=
  ofLines (Text.lines (Utf8.decode bytes)) number

/-- `OfLine listing number`: the listing is what the line of that number may say. -/
structure OfLine (listing : Listing) (number : Nat) : Prop where
  program : listing.program.length ≤ 1
  warnings : listing.warnings.length ≤ 1
  numbered : ∀ w ∈ listing.warnings, w.line = number

variable {x : List UInt8} {number : Nat}

theorem length_lines_decode (bytes : List UInt8) :
    (Text.lines (Utf8.decode bytes)).length = bytes.count 0x0A + 1 := by
  rw [Text.length_lines, Utf8.count_decode]

theorem ofLines_append_eq (lines lines' : List (List Char)) (number : Nat) :
    ofLines (lines ++ lines') number =
      ofLines lines number ++ ofLines lines' (number + lines.length) :=
  ofLines_append lines lines' number

theorem ofBytes_eq (bytes : List UInt8) (number : Nat) :
    ofBytes bytes number = ofLines ((Utf8.decode bytes).splitOn '\n') number :=
  ofLines_lines (Utf8.decode bytes) number

/-- Bytes on both sides of a line feed are read one after the other. -/
theorem ofBytes_append_feed (bytes rest : List UInt8) (number : Nat) :
    ofBytes (bytes ++ 0x0A :: rest) number =
      ofBytes bytes number ++ ofBytes rest (number + (bytes.count 0x0A + 1)) := by
  rw [ofBytes_eq, ofBytes_eq, ofBytes_eq, Utf8.decode_append_feed, List.splitOn_append_cons_self,
    ofLines_append_eq, Text.length_splitOn, Utf8.count_decode]

/-- Bytes that stand between line feeds are read by themselves, as the line they are. -/
theorem ofBytes_cut (inline : 0x0A ∉ x) (before after : List UInt8) (number : Nat) :
    ofBytes (before ++ 0x0A :: x ++ 0x0A :: after) number =
      ofBytes before number ++ ofBytes x (number + (before.count 0x0A + 1)) ++
        ofBytes after (number + (before.count 0x0A + 1) + 1) := by
  have count : (before ++ 0x0A :: x).count 0x0A = before.count 0x0A + 1 := by
    rw [List.count_append, List.count_cons_self, List.count_eq_zero.mpr inline]
  rw [ofBytes_append_feed, ofBytes_append_feed, count, Nat.add_assoc number]

/-- A warning has the number of one of the lines. -/
theorem line_bounds {lines : List (List Char)} {w : Warning}
    (member : w ∈ (ofLines lines number).warnings) :
    number ≤ w.line ∧ w.line < number + lines.length := by
  obtain ⟨⟨line, position⟩, stands, left⟩ := List.mem_filterMap.mp member
  rw [line_of_warningOf left]
  obtain ⟨above, below, _⟩ := List.mem_zipIdx stands
  exact ⟨above, below⟩

theorem ofBytes_ofLine (inline : 0x0A ∉ x) (number : Nat) : (ofBytes x number).OfLine number := by
  -- Bytes without a line feed are one line.
  rw [ofBytes_eq, List.splitOn_eq_singleton (Utf8.feed_not_mem_decode inline)]
  refine ⟨List.length_filterMap_le _ _, List.length_filterMap_le _ _, fun w member => ?_⟩
  obtain ⟨above, below⟩ := line_bounds member
  exact Nat.le_antisymm (Nat.le_of_lt_succ below) above

/-- What loading a file comes to that holds this listing, when its warnings do not count as
errors. -/
def loaded (listing : Listing) : Logged Event (Except Failure Program) :=
  ⟨.ok (.ok listing.program),
    (listing.warnings.map fun w => .tag (warningTag w)) ++
      listing.warnings.map fun w => .err (warningLine w)⟩

end Listing

/-! ## Loading -/

variable {source : Source} {path : String}

theorem loadFile_of_bytes {bytes : List UInt8} (holds : source path = .ok bytes) :
    loadFile source path false = (Listing.ofBytes bytes 1).loaded := by
  have read : source.text path = .ok (String.ofList (Utf8.decode bytes)) := by
    rw [Source.text, holds]
    rfl
  have tags : (Listing.read (String.ofList (Utf8.decode bytes))).tags.map Event.tag =
      (Listing.read (String.ofList (Utf8.decode bytes))).warnings.map
        fun w => .tag (warningTag w) := by
    rw [Listing.tags_eq, List.map_map]
    rfl
  rw [loadFile_of_lenient read, tags]
  unfold warningLines
  rw [Listing.read, String.toList_ofList]
  rfl

theorem loadFile_of_encoded {text : String} (holds : source path = .ok (Utf8.encode text)) :
    loadFile source path false = (Listing.read text).loaded := by
  rw [loadFile_of_bytes holds, Listing.ofBytes, Utf8.decode_encode]
  rfl

/-- Damage to a file stays on its line. Put any bytes in the place of a line, without a line
feed among them: of all the other lines, what is loaded is the same, in the same order and under
the same line numbers, and the line itself gives at most one instruction and one warning. A
file without damage, which holds a text in UTF-8, is loaded as that text is read. -/
theorem damage_stays_on_its_line :
    (∀ before x y after : List UInt8, 0x0A ∉ x → 0x0A ∉ y →
      ∀ (source source' : Source) (path path' : String),
        source path = .ok (before ++ 0x0A :: x ++ 0x0A :: after) →
        source' path' = .ok (before ++ 0x0A :: y ++ 0x0A :: after) →
        let number := before.count 0x0A + 2
        let above := Listing.ofBytes before 1
        let below := Listing.ofBytes after (number + 1)
        loadFile source path false = (above ++ .ofBytes x number ++ below).loaded ∧
        loadFile source' path' false = (above ++ .ofBytes y number ++ below).loaded ∧
        (Listing.ofBytes x number).OfLine number ∧ (Listing.ofBytes y number).OfLine number ∧
        (∀ w ∈ above.warnings, w.line < number) ∧ ∀ w ∈ below.warnings, number < w.line) ∧
    ∀ (text : String) (source : Source) (path : String), source path = .ok (Utf8.encode text) →
      loadFile source path false = (Listing.read text).loaded := by
  refine ⟨?_, fun _ _ _ => loadFile_of_encoded⟩
  intro before x y after inline inline' source source' path path' holds holds' number above below
  have position : 1 + (before.count 0x0A + 1) = number := Nat.add_comm _ _
  have loads := loadFile_of_bytes holds
  have loads' := loadFile_of_bytes holds'
  rw [Listing.ofBytes_cut inline, position] at loads
  rw [Listing.ofBytes_cut inline', position] at loads'
  refine ⟨loads, loads', Listing.ofBytes_ofLine inline number,
    Listing.ofBytes_ofLine inline' number, fun w member => ?_, fun w member => ?_⟩
  · have bounds := Listing.line_bounds member
    rw [Listing.length_lines_decode, position] at bounds
    exact bounds.2
  · exact (Listing.line_bounds member).1

/-- A file with these bytes on its second line. -/
def exDamaged (line : List UInt8) : Source := fun _ =>
  .ok (Utf8.encode "acc +1" ++ 0x0A :: line ++ 0x0A :: Utf8.encode "jmp")

/-- The damaged line breaks off in a character of four bytes, which a line feed does not
complete. -/
theorem exDamaged_loaded :
    loadFile (exDamaged [0xF0, 0x9F]) "boot" false = Listing.loaded
      ⟨[⟨.acc, 1⟩], [⟨.lineSkipped, 2, "\uFFFD"⟩, ⟨.lineSkipped, 3, "jmp"⟩]⟩ ∧
    loadFile (exDamaged (Utf8.encode "nop +0")) "boot" false = Listing.loaded
      ⟨[⟨.acc, 1⟩, ⟨.nop, 0⟩], [⟨.lineSkipped, 3, "jmp"⟩]⟩ ∧
    loadFile (fun _ => .ok (Utf8.encode "\uFEFFjmp +1")) "boot" false = Listing.loaded
      ⟨[⟨.jmp, 1⟩], []⟩ := by
  obtain ⟨damage, whole⟩ := damage_stays_on_its_line
  have feedless : 0x0A ∉ Utf8.encode "nop +0" := by decide +kernel
  obtain ⟨damaged, tidy, _⟩ := damage (Utf8.encode "acc +1") [0xF0, 0x9F] (Utf8.encode "nop +0")
    (Utf8.encode "jmp") (by decide) feedless (exDamaged _) (exDamaged _) "boot" "boot" rfl rfl
  refine ⟨damaged.trans (congrArg Listing.loaded ?_), tidy.trans (congrArg Listing.loaded ?_),
    (whole _ _ "boot" rfl).trans (congrArg Listing.loaded ?_)⟩ <;>
    decide +kernel

end LoopRepair
