import AxeVoice.Contacts.Backup
import AxeVoice.Foundation.AsciiText

/-!
# The backup round trip

What the encoder writes for a book, the parser reads back: scalar values through
UTF-8 and the escapes, then strings, contacts and the document, each from the one
before.
-/

namespace AxeVoice.Contacts

open AxeVoice.Foundation

variable {width : WCharWidth}

theorem continuationByte : ∀ six < 64, (UInt8.ofNat (0x80 ||| six)).toNat = 0x80 + six ∧
    (0x80 + six) &&& 0xc0 = 0x80 ∧ (0x80 + six) &&& 63 = six := by decide

theorem leadByteTwo : ∀ five < 32, (UInt8.ofNat (0xc0 ||| five)).toNat = 0xc0 + five ∧
    (0xc0 + five) &&& 31 = five := by decide

theorem leadByteThree : ∀ four < 16, (UInt8.ofNat (0xe0 ||| four)).toNat = 0xe0 + four ∧
    (0xe0 + four) &&& 15 = four := by decide

theorem leadByteFour : ∀ three < 8, (UInt8.ofNat (0xf0 ||| three)).toNat = 0xf0 + three ∧
    (0xf0 + three) &&& 7 = three := by decide

theorem and_63 (value : Nat) : value &&& 63 = value % 64 :=
  Nat.and_two_pow_sub_one_eq_mod value 6

namespace Parser

/-- One more continuation byte: six more bits. -/
theorem continuation_step (count cp : Nat) {six : Nat} (small : six < 64) (rest : Bytes) :
    continuation (count + 1) cp (UInt8.ofNat (0x80 ||| six) :: rest) =
      continuation count (cp * 64 + six) rest := by
  obtain ⟨value, tag, payload⟩ := continuationByte six small
  have joined : (cp <<< 6) ||| six = cp * 64 + six := by
    rw [← Nat.shiftLeft_add_eq_or_of_lt small, Nat.shiftLeft_eq]
  rw [continuation, value, tag, payload, joined, if_neg (by simp)]

theorem longCodepoint_of {count start minimum cp : Nat} {input rest : Bytes} (scalar : IsScalar cp)
    (least : minimum ≤ cp) (read : continuation count start input = some (cp, rest)) :
    longCodepoint count start minimum input = some (cp, rest) := by
  obtain ⟨bound, outside⟩ := isScalar_iff.mp scalar
  unfold longCodepoint
  rw [read]
  have passes : (decide (cp ≥ minimum) && decide (cp ≤ 0x10ffff) &&
      !(decide (0xd800 ≤ cp) && decide (cp ≤ 0xdfff))) = true := by
    simp only [Bool.and_eq_true, decide_eq_true_eq, Bool.not_eq_true', Bool.and_eq_false_iff,
      decide_eq_false_iff_not]
    omega
  simp only [passes, if_true]

theorem codepoint_ascii {cp : Nat} (small : cp < 0x80) (rest : Bytes) :
    codepoint (utf8 cp ++ rest) = some (cp, rest) := by
  have value : (UInt8.ofNat cp).toNat = cp := by
    rw [UInt8.toNat_ofNat']
    omega
  rw [utf8, if_pos small, List.singleton_append, codepoint, value]
  exact if_pos small

/-- Behind a lead byte the parser reads the code point from the continuation bytes. -/
theorem codepoint_lead {b : UInt8} {first count start minimum : Nat} {rest : Bytes}
    (value : b.toNat = first)
    (lead : 0xc2 ≤ first ∧ first ≤ 0xdf ∧ count = 1 ∧ start = first &&& 31 ∧ minimum = 0x80 ∨
      0xe0 ≤ first ∧ first ≤ 0xef ∧ count = 2 ∧ start = first &&& 15 ∧ minimum = 0x800 ∨
      0xf0 ≤ first ∧ first ≤ 0xf4 ∧ count = 3 ∧ start = first &&& 7 ∧ minimum = 0x10000) :
    codepoint (b :: rest) = longCodepoint count start minimum rest := by
  subst value
  rw [codepoint]
  simp only [Bool.and_eq_true, decide_eq_true_eq]
  rcases lead with ⟨low, high, rfl, rfl, rfl⟩ | ⟨low, high, rfl, rfl, rfl⟩ | ⟨low, high, rfl, rfl, rfl⟩
  · rw [if_neg (by omega), if_pos ⟨low, high⟩]
  · rw [if_neg (by omega), if_neg (by omega), if_pos ⟨low, high⟩]
  · rw [if_neg (by omega), if_neg (by omega), if_neg (by omega), if_pos ⟨low, high⟩]

/-- The parser reads every scalar value back from its UTF-8. -/
theorem codepoint_utf8 {cp : Nat} (isScalar : IsScalar cp) (rest : Bytes) :
    codepoint (utf8 cp ++ rest) = some (cp, rest) := by
  have bound := isScalar.bound
  by_cases one : cp < 0x80
  · exact codepoint_ascii one rest
  have low : cp % 64 < 64 := Nat.mod_lt _ (by decide)
  have middle : cp / 64 % 64 < 64 := Nat.mod_lt _ (by decide)
  have high : cp / 4096 % 64 < 64 := Nat.mod_lt _ (by decide)
  unfold utf8
  simp only [if_neg one, and_63, Nat.shiftRight_eq_div_pow, Nat.reducePow]
  by_cases two : cp < 0x800
  · obtain ⟨value, payload⟩ := leadByteTwo (cp / 64) (by omega)
    rw [if_pos two, List.cons_append,
      codepoint_lead value (.inl ⟨by omega, by omega, rfl, payload.symm, rfl⟩)]
    apply longCodepoint_of isScalar (Nat.not_lt.mp one)
    rw [List.singleton_append, continuation_step _ _ low, continuation]
    congr 2
    omega
  rw [if_neg two]
  by_cases three : cp < 0x10000
  · obtain ⟨value, payload⟩ := leadByteThree (cp / 4096) (by omega)
    rw [if_pos three, List.cons_append,
      codepoint_lead value (.inr (.inl ⟨by omega, by omega, rfl, payload.symm, rfl⟩))]
    apply longCodepoint_of isScalar (Nat.not_lt.mp two)
    rw [List.cons_append, List.singleton_append, continuation_step _ _ middle,
      continuation_step _ _ low, continuation]
    congr 2
    omega
  · obtain ⟨value, payload⟩ := leadByteFour (cp / 262144) (by omega)
    rw [if_neg three, List.cons_append,
      codepoint_lead value (.inr (.inr ⟨by omega, by omega, rfl, payload.symm, rfl⟩))]
    apply longCodepoint_of isScalar (Nat.not_lt.mp three)
    rw [List.cons_append, List.cons_append, List.singleton_append, continuation_step _ _ high,
      continuation_step _ _ middle, continuation_step _ _ low, continuation]
    congr 2
    omega

/-- The first byte of a code point's UTF-8: the code point itself, or no ASCII at all. -/
theorem utf8_head {cp : Nat} (bound : cp ≤ 0x10ffff) :
    ∃ b rest, utf8 cp = b :: rest ∧ (b.toNat = cp ∨ 0x80 ≤ b.toNat) := by
  unfold utf8
  simp only [Nat.shiftRight_eq_div_pow, Nat.reducePow]
  by_cases one : cp < 0x80
  · rw [if_pos one]
    refine ⟨_, _, rfl, .inl ?_⟩
    rw [UInt8.toNat_ofNat']
    omega
  rw [if_neg one]
  by_cases two : cp < 0x800
  · rw [if_pos two]
    refine ⟨_, _, rfl, .inr ?_⟩
    rw [(leadByteTwo (cp / 64) (by omega)).1]
    omega
  rw [if_neg two]
  by_cases three : cp < 0x10000
  · rw [if_pos three]
    refine ⟨_, _, rfl, .inr ?_⟩
    rw [(leadByteThree (cp / 4096) (by omega)).1]
    omega
  · rw [if_neg three]
    refine ⟨_, _, rfl, .inr ?_⟩
    rw [(leadByteFour (cp / 262144) (by omega)).1]
    omega

/-- The first byte that the encoder writes for a code point is no closing quote, and reading from it
gives the code point. -/
theorem scalar_quotedScalar {cp : Nat} (isScalar : IsScalar cp) (rest : Bytes) :
    ∃ b behind, quotedScalar cp ++ rest = b :: behind ∧ b ≠ asciiByte '"' ∧
      scalar (b :: behind) = some (cp, rest) := by
  unfold quotedScalar
  by_cases escaped : (decide (cp = '"'.toNat) || decide (cp = '\\'.toNat)) = true
  · rw [if_pos escaped]
    simp only [Bool.or_eq_true, decide_eq_true_eq] at escaped
    refine ⟨asciiByte '\\', utf8 cp ++ rest, rfl, by decide, ?_⟩
    rw [scalar, if_pos rfl]
    rcases escaped with rfl | rfl <;> rfl
  rw [if_neg escaped]
  simp only [Bool.or_eq_true, decide_eq_true_eq, not_or] at escaped
  obtain ⟨b, behind, spelled, head⟩ := utf8_head isScalar.bound
  have read := codepoint_utf8 isScalar rest
  rw [spelled, List.cons_append] at read ⊢
  have apart {character : Char} (small : character.toNat < 0x80) (other : cp ≠ character.toNat) :
      b ≠ asciiByte character := by
    rintro rfl
    rw [asciiByte_toNat small] at head
    omega
  refine ⟨b, behind ++ rest, rfl, apart (by decide) escaped.1, ?_⟩
  rw [scalar, if_neg (apart (by decide) escaped.2)]
  exact read

/-- The loop over a string reads scalar values back as long as their units fit. -/
theorem stringFrom_scalars {limit : Nat} {ascii : Bool} {scalars : List Nat}
    (spelled : ∀ cp ∈ scalars, IsScalar cp ∧ refused ascii cp = false) (rest : Bytes) {units : Nat}
    {out : WString width} (fits : units + (scalars.map utf16Length).sum ≤ limit) :
    stringFrom width limit ascii (scalars.flatMap quotedScalar ++ asciiByte '"' :: rest) units out =
      some (out ++ scalars.flatMap (scalarUnits width), rest) := by
  induction scalars generalizing units out with
  | nil =>
      rw [List.flatMap_nil, List.nil_append, stringFrom_quote, List.flatMap_nil, List.append_nil]
  | cons cp later ih =>
      obtain ⟨isScalar, allowed⟩ := spelled cp List.mem_cons_self
      rw [List.map_cons, List.sum_cons, ← Nat.add_assoc] at fits
      rw [List.flatMap_cons, List.append_assoc]
      obtain ⟨b, behind, written, inside, read⟩ := scalar_quotedScalar isScalar
        (later.flatMap quotedScalar ++ asciiByte '"' :: rest)
      have turn : stringFrom width limit ascii (b :: behind) units out = _ :=
        stringFrom_scalar inside read
      have within : ¬ units + utf16Length cp > limit := by omega
      rw [written, turn, if_neg (by simp [allowed]), if_neg within,
        ih (fun other member => spelled other (List.mem_cons_of_mem _ member)) fits,
        List.flatMap_cons, List.append_assoc]

end Parser

/-- The encoder's loop over the units of scalar values writes one after the other. -/
theorem quotedFrom_append {cp : Nat} (isScalar : IsScalar cp) (rest : WString width) :
    quotedFrom (scalarUnits width cp ++ rest) = quotedScalar cp ++ quotedFrom rest := by
  by_cases pair : width = .utf16 ∧ cp > 0xffff
  · obtain ⟨rfl, large⟩ := pair
    obtain ⟨high, low, units, isHigh, _, joined⟩ := scalarUnits_pair isScalar.bound large
    have begins : beginsPair high = true := by simp [beginsPair, isHigh]
    rw [units, List.cons_append, List.singleton_append, quotedFrom, if_pos begins, joined]
  · obtain ⟨unit, units, value, single⟩ := scalarUnits_single isScalar
      fun narrow => Nat.not_lt.mp fun large => pair ⟨narrow, large⟩
    rw [units, List.singleton_append]
    cases rest with
    | nil =>
        have alone : quotedFrom [unit] = quotedScalar unit.toNat := by
          rw [quotedFrom, if_neg (by simp [single])]
        rw [alone, value, quotedFrom, List.append_nil]
    | cons low later => rw [quotedFrom, if_neg (by simp [single]), value]

theorem quotedFrom_scalars {scalars : List Nat} (spelled : ∀ cp ∈ scalars, IsScalar cp) :
    quotedFrom (scalars.flatMap (scalarUnits width)) = scalars.flatMap quotedScalar := by
  induction scalars with
  | nil => rfl
  | cons cp later ih =>
      rw [List.flatMap_cons, quotedFrom_append (spelled cp List.mem_cons_self),
        ih fun other member => spelled other (List.mem_cons_of_mem _ member), List.flatMap_cons]

/-- The text spells scalar values that a string of the parser may hold. -/
def SpelledText (ascii : Bool) (limit : Nat) (text : WString width) : Prop :=
  ∃ scalars : List Nat, text = scalars.flatMap (scalarUnits width) ∧
    (∀ cp ∈ scalars, IsScalar cp ∧ Parser.refused ascii cp = false) ∧
    (scalars.map utf16Length).sum ≤ limit

theorem take_quote (rest : Bytes) : Parser.take '"' (asciiByte '"' :: rest) = some rest := rfl

/-- A quoted text is read back. -/
theorem string_quoted {ascii : Bool} {limit : Nat} {text : WString width}
    (spelled : SpelledText ascii limit text) (rest : Bytes) :
    Parser.string width limit ascii (quoted text ++ rest) = some (text, rest) := by
  obtain ⟨scalars, rfl, allowed, fits⟩ := spelled
  have units : 0 + (scalars.map utf16Length).sum ≤ limit := by rwa [Nat.zero_add]
  unfold quoted Parser.string
  rw [quotedFrom_scalars fun cp member => (allowed cp member).1, List.cons_append,
    List.append_assoc, take_quote, List.singleton_append]
  exact Parser.stringFrom_scalars allowed rest units

theorem spelledText_name {name : WString width} (spelled : SpelledName name 0) :
    SpelledText false 64 name := by
  obtain ⟨scalars, text, names, bound⟩ := spelled
  refine ⟨scalars, text, ?_, by rwa [Nat.zero_add] at bound⟩
  intro cp member
  obtain ⟨scalar, allowed⟩ := names cp member
  refine ⟨scalar, ?_⟩
  simp only [forbiddenInName, Bool.or_eq_false_iff] at allowed
  simp [Parser.refused, allowed]

theorem printable_bounds {unit : WChar width} (printable : printableUnit unit = true) :
    32 < unit.toNat ∧ unit.toNat < 127 := by
  simp only [printableUnit, Bool.not_eq_true', Bool.or_eq_false_iff, decide_eq_false_iff_not] at printable
  omega

theorem scalarUnits_printable {unit : WChar width} (printable : printableUnit unit = true) :
    scalarUnits width unit.toNat = [unit] :=
  scalarUnits_toNat fun _ => by
    have bounds := printable_bounds printable
    omega

theorem flatMap_printable {destination : WString width}
    (printable : ∀ unit ∈ destination, printableUnit unit = true) :
    (destination.map BitVec.toNat).flatMap (scalarUnits width) = destination := by
  rw [List.flatMap_map]
  have each : ∀ unit ∈ destination, scalarUnits width unit.toNat = [unit] :=
    fun unit member => scalarUnits_printable (printable unit member)
  rw [List.flatMap_congr each, List.flatMap_singleton']

theorem sum_utf16Length {scalars : List Nat} (small : ∀ cp ∈ scalars, cp ≤ 0xffff) :
    (scalars.map utf16Length).sum = scalars.length := by
  induction scalars with
  | nil => rfl
  | cons cp later ih =>
      have single : utf16Length cp = 1 := if_neg (Nat.not_lt.mpr (small cp List.mem_cons_self))
      rw [List.map_cons, List.sum_cons, single,
        ih fun other member => small other (List.mem_cons_of_mem _ member), List.length_cons,
        Nat.add_comm]

theorem spelledText_printable {text : WString width} {limit : Nat}
    (printable : ∀ unit ∈ text, printableUnit unit = true) (fits : text.length ≤ limit) :
    SpelledText true limit text := by
  have bounds : ∀ cp ∈ text.map BitVec.toNat, 32 < cp ∧ cp < 127 := by
    intro cp member
    obtain ⟨unit, found, rfl⟩ := List.mem_map.mp member
    exact printable_bounds (printable unit found)
  refine ⟨text.map BitVec.toNat, (flatMap_printable printable).symm, ?_, ?_⟩
  · intro cp member
    obtain ⟨low, high⟩ := bounds cp member
    refine ⟨isScalar_iff.mpr (by omega), ?_⟩
    simp only [Parser.refused, Bool.or_eq_false_iff, Bool.and_eq_false_iff, decide_eq_false_iff_not]
    omega
  · rw [sum_utf16Length, List.length_map]
    · exact fits
    · intro cp member
      obtain ⟨low, high⟩ := bounds cp member
      omega

theorem quotedScalar_ascii {cp : Nat} (small : cp < 0x80) (noQuote : cp ≠ '"'.toNat)
    (noBackslash : cp ≠ '\\'.toNat) : quotedScalar cp = [UInt8.ofNat cp] := by
  have plain : ¬ (decide (cp = '"'.toNat) || decide (cp = '\\'.toNat)) = true := by
    rw [Bool.or_eq_true, decide_eq_true_eq, decide_eq_true_eq]
    exact not_or.mpr ⟨noQuote, noBackslash⟩
  rw [quotedScalar, if_neg plain, utf8, if_pos small]

/-- A printable text without quotes and backslashes is written byte by byte. -/
theorem quotedFrom_plain {text : WString width}
    (printable : ∀ unit ∈ text, printableUnit unit = true) (plain : ∀ unit ∈ text, plainUnit unit) :
    quotedFrom text = text.map fun unit => UInt8.ofNat unit.toNat := by
  have wide_of_toNat {unit : WChar width} {character : Char} (same : unit.toNat = character.toNat) :
      unit = wide width character := by
    rw [wide, ← same, BitVec.ofNat_toNat, BitVec.setWidth_eq]
  have each : ∀ unit ∈ text, quotedScalar unit.toNat = [UInt8.ofNat unit.toNat] := by
    intro unit member
    have bounds := printable_bounds (printable unit member)
    exact quotedScalar_ascii (by omega) (fun same => (plain unit member).1 (wide_of_toNat same))
      fun same => (plain unit member).2 (wide_of_toNat same)
  have scalars : ∀ cp ∈ text.map BitVec.toNat, IsScalar cp := by
    intro cp member
    obtain ⟨unit, found, rfl⟩ := List.mem_map.mp member
    have bounds := printable_bounds (printable unit found)
    exact isScalar_iff.mpr (by omega)
  calc quotedFrom text
      = quotedFrom ((text.map BitVec.toNat).flatMap (scalarUnits width)) := by
        rw [flatMap_printable printable]
    _ = (text.map BitVec.toNat).flatMap quotedScalar := quotedFrom_scalars scalars
    _ = text.flatMap fun unit => [UInt8.ofNat unit.toNat] := by
        rw [List.flatMap_map]
        exact List.flatMap_congr each
    _ = text.map fun unit => UInt8.ofNat unit.toNat := List.map_eq_flatMap.symm

/-- The text is printable ASCII without quotes and backslashes. -/
def plainKey (text : String) : Bool :=
  text.toList.all fun character => 32 < character.toNat && character.toNat < 127 &&
    character ≠ '"' && character ≠ '\\'

/-- A key of the document is read back. -/
theorem string_key {limit : Nat} {text : String} (plain : plainKey text = true)
    (fits : text.toList.length ≤ limit) (rest : Bytes) :
    Parser.string width limit true (asciiByte '"' :: (asciiBytes text ++ asciiByte '"' :: rest)) =
      some (wideText width text, rest) := by
  simp only [plainKey, List.all_eq_true, Bool.and_eq_true, decide_eq_true_eq] at plain
  have printable : ∀ unit ∈ wideText width text, printableUnit unit = true := by
    intro unit member
    obtain ⟨character, found, rfl⟩ := List.mem_map.mp member
    obtain ⟨⟨⟨low, high⟩, _⟩, _⟩ := plain character found
    have value : (wide width character).toNat = character.toNat :=
      wide_toNat width (Nat.lt_succ_of_lt high)
    simp only [printableUnit, value, Bool.not_eq_true', Bool.or_eq_false_iff,
      decide_eq_false_iff_not]
    omega
  have units : ∀ unit ∈ wideText width text, plainUnit unit := by
    intro unit member
    obtain ⟨character, found, rfl⟩ := List.mem_map.mp member
    obtain ⟨⟨⟨low, high⟩, noQuote⟩, noBackslash⟩ := plain character found
    have small : character.toNat < 128 := Nat.lt_succ_of_lt high
    exact ⟨wide_ne ⟨small, by decide⟩ fun same => noQuote (Char.toNat_inj.mp same),
      wide_ne ⟨small, by decide⟩ fun same => noBackslash (Char.toNat_inj.mp same)⟩
  have written : quoted (wideText width text) = asciiByte '"' :: (asciiBytes text ++ [asciiByte '"']) := by
    rw [quoted, quotedFrom_plain printable units, wideText, List.map_map, asciiBytes]
    congr 2
    apply List.map_congr_left
    intro character found
    have value : (wide width character).toNat = character.toNat :=
      wide_toNat width (Nat.lt_succ_of_lt (plain character found).1.1.2)
    rw [Function.comp_apply, value]
  have read := string_quoted (spelledText_printable printable (by simpa [wideText] using fits)) rest
  rw [written] at read
  simpa using read

theorem quotedScalar_length_le (cp : Nat) : (quotedScalar cp).length ≤ 3 * utf16Length cp := by
  unfold quotedScalar utf16Length
  by_cases escaped : (decide (cp = '"'.toNat) || decide (cp = '\\'.toNat)) = true
  · rw [if_pos escaped]
    simp only [Bool.or_eq_true, decide_eq_true_eq] at escaped
    rcases escaped with rfl | rfl <;> decide
  rw [if_neg escaped]
  unfold utf8
  split
  · simp only [List.length_cons, List.length_nil]
    split <;> omega
  split
  · simp only [List.length_cons, List.length_nil]
    split <;> omega
  split
  · simp only [List.length_cons, List.length_nil]
    split <;> omega
  · simp only [List.length_cons, List.length_nil]
    rw [if_pos (by omega)]
    omega

theorem flatMap_quotedScalar_length_le (scalars : List Nat) :
    (scalars.flatMap quotedScalar).length ≤ 3 * (scalars.map utf16Length).sum := by
  induction scalars with
  | nil => exact Nat.le_refl _
  | cons cp later ih =>
      have head := quotedScalar_length_le cp
      rw [List.flatMap_cons, List.length_append, List.map_cons, List.sum_cons]
      omega

theorem quoted_name_length {name : WString width} (spelled : SpelledName name 0) :
    (quoted name).length ≤ 194 := by
  obtain ⟨scalars, rfl, names, bound⟩ := spelled
  have written := flatMap_quotedScalar_length_le scalars
  rw [quoted, quotedFrom_scalars fun cp member => (names cp member).1, List.length_cons,
    List.length_append, List.length_singleton]
  omega

theorem quoted_destination_length {destination : WString width}
    (spelled : SpelledDestination destination) : (quoted destination).length ≤ 130 := by
  have length := spelled.length
  rw [quoted, quotedFrom_plain spelled.printable spelled.plain, List.length_cons,
    List.length_append, List.length_map, List.length_singleton]
  omega

/-- A contact takes at most so many bytes, the comma before it included. -/
def contactLengthBound : Nat := 368

theorem encodedContact_length {ctype : WideCtype width} {contact : Contact width}
    (valid : validDraft ctype contact.draft = true) :
    (encodedContact contact).length < contactLengthBound := by
  obtain ⟨name, destination⟩ := spelled_of_validDraft valid
  have nameLength := quoted_name_length name
  have destinationLength := quoted_destination_length destination
  have favorite : (asciiBytes (if contact.favorite then ",\"favorite\":true\x7d"
      else ",\"favorite\":false\x7d")).length ≤ 18 := by
    split <;> decide
  have openLength : (asciiBytes "\x7b\"name\":").length = 8 := by decide
  have middleLength : (asciiBytes ",\"destination\":").length = 15 := by decide
  change (quoted contact.name).length ≤ 194 at nameLength
  change (quoted contact.destination).length ≤ 130 at destinationLength
  unfold encodedContact contactLengthBound
  rw [List.length_append, List.length_append, List.length_append, List.length_append, openLength,
    middleLength]
  omega

namespace Parser

/-- A member of an object: its key, a colon, and its value. -/
def member (key : String) (value : Bytes) : Bytes :=
  asciiByte '"' :: (asciiBytes key ++ asciiByte '"' :: asciiByte ':' :: value)

theorem contactField_member {state : DraftFields width} {key : String} {bit fields : Nat}
    {value rest : Bytes} {draft : ContactDraft width} (plain : plainKey key = true)
    (fits : key.toList.length ≤ 11) (known : contactBit (wideText width key) = bit)
    (fresh : bit ≠ 0 ∧ state.fields &&& bit = 0 ∧ state.fields ||| bit = fields)
    (read : contactValue bit state.draft value = some (draft, rest)) :
    contactField state (member key value) = some (⟨fields, draft⟩, rest) := by
  have colon : take ':' (asciiByte ':' :: value) = some value := rfl
  unfold contactField member
  rw [string_key plain fits]
  simp only [colon, known]
  rw [if_neg (by simp [fresh.1, fresh.2.1]), read, fresh.2.2]

theorem contactBit_name : contactBit (wideText width "name") = 1 := if_pos rfl

theorem contactBit_destination : contactBit (wideText width "destination") = 2 := by
  cases width <;> rfl

theorem contactBit_favorite : contactBit (wideText width "favorite") = 4 := by
  cases width <;> rfl

theorem encodedContact_members (contact : Contact width) (rest : Bytes) :
    encodedContact contact ++ rest =
      asciiByte '{' :: member "name" (quoted contact.name ++
        asciiByte ',' :: member "destination" (quoted contact.destination ++
          asciiByte ',' :: member "favorite"
            (asciiBytes (if contact.favorite then "true" else "false") ++ asciiByte '}' :: rest))) := by
  have opening : asciiBytes "\x7b\"name\":" =
      asciiByte '{' :: asciiByte '"' :: (asciiBytes "name" ++ [asciiByte '"', asciiByte ':']) := rfl
  have middle : asciiBytes ",\"destination\":" =
      asciiByte ',' :: asciiByte '"' :: (asciiBytes "destination" ++ [asciiByte '"', asciiByte ':']) := rfl
  have closing : asciiBytes (if contact.favorite then ",\"favorite\":true\x7d"
        else ",\"favorite\":false\x7d") =
      asciiByte ',' :: asciiByte '"' :: (asciiBytes "favorite" ++ asciiByte '"' :: asciiByte ':' ::
        (asciiBytes (if contact.favorite then "true" else "false") ++ [asciiByte '}'])) := by
    cases contact.favorite <;> rfl
  unfold encodedContact member
  rw [opening, middle, closing]
  simp only [List.append_assoc, List.cons_append, List.nil_append]

theorem contactValue_name {draft : ContactDraft width} {name : WString width}
    (spelled : SpelledText false 64 name) (rest : Bytes) :
    contactValue 1 draft (quoted name ++ rest) = some ({ draft with name := name }, rest) := by
  rw [contactValue, if_pos rfl, string_quoted spelled]

theorem contactValue_destination {draft : ContactDraft width} {destination : WString width}
    (spelled : SpelledText true 128 destination) (rest : Bytes) :
    contactValue 2 draft (quoted destination ++ rest) =
      some ({ draft with destination := destination }, rest) := by
  rw [contactValue, if_neg (by decide), if_pos rfl, string_quoted spelled]

theorem contactValue_favorite {draft : ContactDraft width} (favorite : Bool) (rest : Bytes) :
    contactValue 4 draft (asciiBytes (if favorite then "true" else "false") ++ rest) =
      some ({ draft with favorite := favorite }, rest) := by
  rw [contactValue, if_neg (by decide), if_neg (by decide)]
  cases favorite <;> rfl

/-- A contact is read back as its draft. -/
theorem contact_encoded {ctype : WideCtype width} {saved : Contact width}
    (valid : validDraft ctype saved.draft = true) (rest : Bytes) :
    contact ctype (encodedContact saved ++ rest) = some (saved.draft, rest) := by
  obtain ⟨name, destination⟩ := spelled_of_validDraft valid
  have nameText : SpelledText false 64 saved.name := spelledText_name name
  have destinationText : SpelledText true 128 saved.destination :=
    spelledText_printable destination.printable destination.length
  have comma (input : Bytes) : take ',' (asciiByte ',' :: input) = some input := rfl
  -- the three turns of the loop over the fields
  have first (behind : Bytes) : contactField {} (member "name" (quoted saved.name ++ behind)) =
      some (⟨1, ⟨saved.name, [], false⟩⟩, behind) :=
    contactField_member rfl (by decide) contactBit_name
      ⟨by decide, (rfl : 0 &&& 1 = 0), (rfl : 0 ||| 1 = 1)⟩ (contactValue_name nameText behind)
  have second (behind : Bytes) : contactField ⟨1, ⟨saved.name, [], false⟩⟩
        (member "destination" (quoted saved.destination ++ behind)) =
      some (⟨3, ⟨saved.name, saved.destination, false⟩⟩, behind) :=
    contactField_member rfl (by decide) contactBit_destination
      ⟨by decide, (rfl : 1 &&& 2 = 0), (rfl : 1 ||| 2 = 3)⟩
      (contactValue_destination destinationText behind)
  have third (behind : Bytes) : contactField ⟨3, ⟨saved.name, saved.destination, false⟩⟩
        (member "favorite" (asciiBytes (if saved.favorite then "true" else "false") ++ behind)) =
      some (⟨7, saved.draft⟩, behind) :=
    contactField_member rfl (by decide) contactBit_favorite
      ⟨by decide, (rfl : 3 &&& 4 = 0), (rfl : 3 ||| 4 = 7)⟩
      (contactValue_favorite saved.favorite behind)
  have fields : contactFrom {} _ = some (⟨7, saved.draft⟩, asciiByte '}' :: rest) :=
    (whileComma_more (first _) (comma _)).trans <|
      (whileComma_more (second _) (comma _)).trans (whileComma_last (third _) rfl)
  have opened (input : Bytes) : take '{' (asciiByte '{' :: input) = some input := rfl
  have closed : take '}' (asciiByte '}' :: rest) = some rest := rfl
  unfold contact
  rw [encodedContact_members, opened]
  simp only [fields, closed]
  exact if_pos (by simp [valid])

/-! ## The list of contacts -/

/-- The contacts with a comma before each but the first. -/
def encodedContacts : List (Contact width) → Bool → Bytes
  | [], _ => []
  | saved :: rest, first =>
      (if first then [] else asciiBytes ",") ++ encodedContact saved ++ encodedContacts rest false

theorem nextContact_encoded {ctype : WideCtype width} {saved : Contact width}
    {out : List (ContactDraft width)} (valid : validDraft ctype saved.draft = true)
    (room : out.length < ContactBook.capacity)
    (fresh : ∀ existing ∈ out, existing.destination ≠ saved.destination) (rest : Bytes) :
    nextContact ctype out (encodedContact saved ++ rest) = some (out ++ [saved.draft], rest) := by
  have unseen : ¬ (out.any fun existing => existing.destination = saved.draft.destination) = true := by
    simp only [List.any_eq_true, decide_eq_true_eq, not_exists, not_and]
    exact fresh
  rw [nextContact, if_neg (Nat.ne_of_lt room), contact_encoded valid]
  exact if_neg unseen

/-- The loop reads the contacts back, one after the other. -/
theorem contactsFrom_encoded {ctype : WideCtype width} (saved : Contact width)
    (items : List (Contact width)) (out : List (ContactDraft width)) (rest : Bytes)
    (valid : ∀ contact ∈ saved :: items, validDraft ctype contact.draft = true)
    (room : out.length + (saved :: items).length ≤ ContactBook.capacity)
    (fresh : ∀ existing ∈ out, ∀ contact ∈ saved :: items,
      existing.destination ≠ contact.destination)
    (distinct : (saved :: items).Pairwise fun older newer => older.destination ≠ newer.destination) :
    contactsFrom ctype out
        (encodedContact saved ++ encodedContacts items false ++ asciiByte ']' :: rest) =
      some (out ++ (saved :: items).map Contact.draft, asciiByte ']' :: rest) := by
  induction items generalizing saved out with
  | nil =>
      have read := nextContact_encoded (valid saved List.mem_cons_self) room
        (fun existing member => fresh existing member saved List.mem_cons_self) (asciiByte ']' :: rest)
      unfold contactsFrom
      rw [encodedContacts, List.append_nil]
      exact whileComma_last read rfl
  | cons next later ih =>
      obtain ⟨apart, laterDistinct⟩ := List.pairwise_cons.mp distinct
      have read := nextContact_encoded (valid saved List.mem_cons_self)
        (by simp only [List.length_cons] at room; omega)
        (fun existing member => fresh existing member saved List.mem_cons_self)
        (asciiByte ',' :: (encodedContact next ++ encodedContacts later false ++ asciiByte ']' :: rest))
      have remaining := ih next (out ++ [saved.draft])
        (fun contact member => valid contact (List.mem_cons_of_mem _ member))
        (by simp only [List.length_append, List.length_cons, List.length_nil] at room ⊢; omega)
        (by
          intro existing member contact found
          rcases List.mem_append.mp member with older | newest
          · exact fresh existing older contact (List.mem_cons_of_mem _ found)
          · rw [List.mem_singleton.mp newest]
            exact apart contact found)
        laterDistinct
      have split : encodedContact saved ++ encodedContacts (next :: later) false ++ asciiByte ']' :: rest =
          encodedContact saved ++ asciiByte ',' ::
            (encodedContact next ++ encodedContacts later false ++ asciiByte ']' :: rest) := by
        simp only [encodedContacts, Bool.false_eq_true, if_false, List.append_assoc]
        rfl
      have joined : out ++ (saved :: next :: later).map Contact.draft =
          out ++ [saved.draft] ++ (next :: later).map Contact.draft := by simp
      rw [split, joined]
      exact (whileComma_more read rfl).trans remaining

theorem contacts_encoded {ctype : WideCtype width} {items : List (Contact width)}
    (valid : ∀ contact ∈ items, validDraft ctype contact.draft = true)
    (room : items.length ≤ ContactBook.capacity)
    (distinct : items.Pairwise fun older newer => older.destination ≠ newer.destination)
    (rest : Bytes) :
    contacts ctype [] (asciiByte '[' :: (encodedContacts items true ++ asciiByte ']' :: rest)) =
      some (items.map Contact.draft, rest) := by
  have opened (input : Bytes) : take '[' (asciiByte '[' :: input) = some input := rfl
  have closed : take ']' (asciiByte ']' :: rest) = some rest := rfl
  unfold contacts
  rw [opened]
  cases items with
  | nil => rfl
  | cons saved later =>
      have read := contactsFrom_encoded saved later [] rest valid (by simpa using room) (by simp)
        distinct
      have written : encodedContacts (saved :: later) true ++ asciiByte ']' :: rest =
          encodedContact saved ++ encodedContacts later false ++ asciiByte ']' :: rest := rfl
      have more : take ']' (encodedContacts (saved :: later) true ++ asciiByte ']' :: rest) = none := by
        rw [written, List.append_assoc, encodedContact_members]
        rfl
      simp only [more]
      rw [written, read]
      simp only [closed]
      rfl

theorem documentBit_version : documentBit (wideText width "version") = 1 := if_pos rfl

theorem documentBit_contacts : documentBit (wideText width "contacts") = 2 := by
  cases width <;> rfl

theorem documentField_version {ctype : WideCtype width} (rest : Bytes) :
    documentField ctype {} (member "version" (asciiBytes "1" ++ rest)) = some (⟨1, []⟩, rest) := by
  have colon (input : Bytes) : take ':' (asciiByte ':' :: input) = some input := rfl
  have version : literal "1" (asciiBytes "1" ++ rest) = some rest := rfl
  unfold documentField member
  rw [string_key rfl (by decide)]
  simp only [colon, documentBit_version, version]
  rfl

theorem documentField_contacts {ctype : WideCtype width} {drafts : List (ContactDraft width)}
    {value rest : Bytes} (read : contacts ctype [] value = some (drafts, rest)) :
    documentField ctype ⟨1, []⟩ (member "contacts" value) = some (⟨3, drafts⟩, rest) := by
  have colon (input : Bytes) : take ':' (asciiByte ':' :: input) = some input := rfl
  unfold documentField member
  rw [string_key rfl (by decide)]
  simp only [colon, documentBit_contacts, read]
  rfl

/-- The document is read back as the drafts of its contacts. -/
theorem parse_encoded {ctype : WideCtype width} {items : List (Contact width)}
    (valid : ∀ contact ∈ items, validDraft ctype contact.draft = true)
    (room : items.length ≤ ContactBook.capacity)
    (distinct : items.Pairwise fun older newer => older.destination ≠ newer.destination) :
    parse ctype (asciiBytes "\x7b\"version\":1,\"contacts\":[" ++ encodedContacts items true ++
        asciiBytes "]\x7d") = some (items.map Contact.draft) := by
  have written : asciiBytes "\x7b\"version\":1,\"contacts\":[" ++ encodedContacts items true ++
        asciiBytes "]\x7d" =
      asciiByte '{' :: member "version" (asciiBytes "1" ++ asciiByte ',' :: member "contacts"
        (asciiByte '[' :: (encodedContacts items true ++ asciiByte ']' :: [asciiByte '}']))) := by
    rw [List.append_assoc]
    rfl
  have opened (input : Bytes) : take '{' (asciiByte '{' :: input) = some input := rfl
  have comma (input : Bytes) : take ',' (asciiByte ',' :: input) = some input := rfl
  have closed : take '}' [asciiByte '}'] = some [] := rfl
  have fields : documentFrom ctype {} _ = some (⟨3, items.map Contact.draft⟩, [asciiByte '}']) :=
    (whileComma_more (documentField_version _) (comma _)).trans
      (whileComma_last (documentField_contacts (contacts_encoded valid room distinct [asciiByte '}'])) rfl)
  unfold parse
  rw [written, opened]
  simp only [fields, closed]
  rfl

end Parser

/-- The encoder's loop stays below the limit of the file for as many contacts as a book holds. -/
theorem encodeContacts_eq {ctype : WideCtype width} {items : List (Contact width)} (first : Bool)
    (out : Bytes) (valid : ∀ contact ∈ items, validDraft ctype contact.draft = true)
    (size : out.length + contactLengthBound * items.length ≤ contactBackupLimit) :
    encodeContacts ctype items first out = some (out ++ Parser.encodedContacts items first) := by
  induction items generalizing first out with
  | nil => rw [encodeContacts, Parser.encodedContacts, List.append_nil]
  | cons contact later ih =>
      have headValid := valid contact List.mem_cons_self
      have head := encodedContact_length headValid
      have separated : ((if first then out else out ++ asciiBytes ",") ++
          encodedContact contact).length ≤ out.length + contactLengthBound := by
        have comma : (asciiBytes ",").length = 1 := rfl
        cases first <;> simp only [List.length_append, Bool.false_eq_true, if_false, if_true, comma] <;>
          omega
      rw [List.length_cons, Nat.mul_succ] at size
      have within : ¬ ((if first then out else out ++ asciiBytes ",") ++
          encodedContact contact).length > contactBackupLimit := by omega
      rw [encodeContacts, if_neg (by simp [headValid])]
      dsimp only
      rw [if_neg within, ih false _ (fun other member => valid other (List.mem_cons_of_mem _ member))
        (by omega)]
      cases first <;> simp [Parser.encodedContacts, List.append_assoc]

section Books

variable {ctype : WideCtype width} {book : ContactBook width}

theorem encodedContacts_length {items : List (Contact width)} (first : Bool)
    (valid : ∀ contact ∈ items, validDraft ctype contact.draft = true) :
    (Parser.encodedContacts items first).length ≤ contactLengthBound * items.length := by
  induction items generalizing first with
  | nil => exact Nat.zero_le _
  | cons contact later ih =>
      have head := encodedContact_length (valid contact List.mem_cons_self)
      have behind := ih false fun other member => valid other (List.mem_cons_of_mem _ member)
      have comma : (if first then [] else asciiBytes ",").length ≤ 1 := by cases first <;> decide
      rw [Parser.encodedContacts, List.length_append, List.length_append, List.length_cons,
        Nat.mul_succ]
      omega

/-- A full book of contacts of the greatest length fits in the file. -/
theorem fits_backup {count : Nat} (room : count ≤ ContactBook.capacity) :
    (25 + contactLengthBound * count) + 2 ≤ contactBackupLimit := by
  have full : (25 + contactLengthBound * ContactBook.capacity) + 2 ≤ contactBackupLimit := by decide
  have scaled : contactLengthBound * count ≤ contactLengthBound * ContactBook.capacity :=
    Nat.mul_le_mul_left _ room
  exact Nat.le_trans (Nat.add_le_add_right (Nat.add_le_add_left scaled _) _) full

/-- What the encoder writes for a book, within the limit of the file. -/
theorem ContactBook.WellFormed.encode (wellFormed : book.WellFormed ctype) :
    encodeContactBackup ctype book =
      some (asciiBytes "\x7b\"version\":1,\"contacts\":[" ++
        Parser.encodedContacts book.items true ++ asciiBytes "]\x7d") ∧
    (asciiBytes "\x7b\"version\":1,\"contacts\":[" ++
        Parser.encodedContacts book.items true ++ asciiBytes "]\x7d").length ≤
      contactBackupLimit := by
  have opening : (asciiBytes "\x7b\"version\":1,\"contacts\":[").length = 25 := by decide
  have closing : (asciiBytes "]\x7d").length = 2 := by decide
  have fits := fits_backup wellFormed.capacity
  have size : (asciiBytes "\x7b\"version\":1,\"contacts\":[" ++
      Parser.encodedContacts book.items true ++ asciiBytes "]\x7d").length ≤ contactBackupLimit := by
    rw [List.length_append, List.length_append, opening, closing]
    exact Nat.le_trans (Nat.add_le_add_right
      (Nat.add_le_add_left (encodedContacts_length true wellFormed.valid) _) _) fits
  have unclosed : (asciiBytes "\x7b\"version\":1,\"contacts\":[").length +
      contactLengthBound * book.items.length ≤ contactBackupLimit := by
    rw [opening]
    exact Nat.le_trans (Nat.le_add_right _ 2) fits
  have written := encodeContacts_eq true (asciiBytes "\x7b\"version\":1,\"contacts\":[")
    wellFormed.valid unclosed
  constructor
  · unfold encodeContactBackup
    rw [if_neg (Nat.not_lt.mpr wellFormed.capacity), written]
    exact if_neg (Nat.not_lt.mpr size)
  · exact size

/-- The encoder and the decoder are inverse on well-formed books. -/
theorem ContactBook.WellFormed.decode (wellFormed : book.WellFormed ctype) :
    ∃ bytes, encodeContactBackup ctype book = some bytes ∧ bytes.length ≤ contactBackupLimit ∧
      decodeContactBackup ctype bytes = some (book.items.map Contact.draft) := by
  obtain ⟨written, size⟩ := wellFormed.encode
  refine ⟨_, written, size, ?_⟩
  rw [decodeContactBackup, if_neg (Nat.not_lt.mpr size)]
  exact Parser.parse_encoded wellFormed.valid wellFormed.capacity
    (wellFormed.distinct.imp fun distinct => distinct.2)

/-- One draft added to a book. -/
def addStep (ctype : WideCtype width) (book : ContactBook width) (draft : ContactDraft width) :
    ContactResult × ContactBook width :=
  book.add ctype draft

theorem add_fresh {draft : ContactDraft width} (valid : validDraft ctype draft = true)
    (fresh : ∀ contact ∈ book.items, contact.destination ≠ draft.destination)
    (room : book.items.length < ContactBook.capacity) (issuable : book.nextId ≠ 0) :
    book.add ctype draft =
      (.ok, ⟨book.items ++ [draft.toContact book.nextId], book.nextId + 1⟩) := by
  have unseen : ¬ (book.items.any fun contact => contact.destination = draft.destination) = true := by
    simp only [List.any_eq_true, decide_eq_true_eq, not_exists, not_and]
    exact fresh
  rw [ContactBook.add, if_neg (by simp [valid]), if_neg unseen, if_neg (Nat.not_le.mpr room),
    if_neg issuable]

/-- Valid drafts with new and different destinations are all added, as long as there is room. -/
theorem adds_ok {drafts : List (ContactDraft width)} (book : ContactBook width)
    (valid : ∀ draft ∈ drafts, validDraft ctype draft = true)
    (distinct : drafts.Pairwise fun older newer => older.destination ≠ newer.destination)
    (fresh : ∀ draft ∈ drafts, ∀ contact ∈ book.items, contact.destination ≠ draft.destination)
    (room : book.items.length + drafts.length ≤ ContactBook.capacity)
    (issued : book.nextId.toNat = book.items.length + 1) :
    outputs (addStep ctype) book drafts = drafts.map (fun _ => .ok) ∧
      (finalState (addStep ctype) book drafts).items.map Contact.draft =
        book.items.map Contact.draft ++ drafts := by
  induction drafts generalizing book with
  | nil => exact ⟨rfl, (List.append_nil _).symm⟩
  | cons draft later ih =>
      obtain ⟨apart, laterDistinct⟩ := List.pairwise_cons.mp distinct
      have bound : book.items.length + (later.length + 1) ≤ 500 := room
      have issuable : book.nextId ≠ 0 := by
        intro zero
        rw [zero] at issued
        simp at issued
      have added := add_fresh (valid draft List.mem_cons_self) (fresh draft List.mem_cons_self)
        (show book.items.length < 500 by omega) issuable
      have next : (book.nextId + 1).toNat = (book.items ++ [draft.toContact book.nextId]).length + 1 := by
        rw [List.length_append, List.length_singleton, ← issued, UInt64.toNat_add]
        exact Nat.mod_eq_of_lt (by have : (1 : UInt64).toNat = 1 := rfl; omega)
      obtain ⟨answers, contents⟩ := ih ⟨book.items ++ [draft.toContact book.nextId], book.nextId + 1⟩
        (fun other member => valid other (List.mem_cons_of_mem _ member)) laterDistinct
        (by
          intro other member contact found
          rcases List.mem_append.mp found with older | newest
          · exact fresh other (List.mem_cons_of_mem _ member) contact older
          · rw [List.mem_singleton.mp newest]
            exact apart other member)
        (by simp only [List.length_append, List.length_singleton]; change _ ≤ 500; omega) next
      have step : addStep ctype book draft = _ := added
      constructor
      · simp only [outputs, stages_cons, List.map_cons, stageOf, step] at answers ⊢
        rw [answers]
      · rw [finalState_cons, step, contents]
        simp [ContactDraft.toContact, Contact.draft]

theorem ContactBook.WellFormed.readded (wellFormed : book.WellFormed ctype) :
    outputs (addStep ctype) {} (book.items.map Contact.draft) =
        book.items.map (fun _ => .ok) ∧
      (finalState (addStep ctype) {} (book.items.map Contact.draft)).items.map Contact.draft =
        book.items.map Contact.draft := by
  have valid : ∀ draft ∈ book.items.map Contact.draft, validDraft ctype draft = true := by
    intro draft member
    obtain ⟨contact, found, rfl⟩ := List.mem_map.mp member
    exact wellFormed.valid contact found
  obtain ⟨answers, contents⟩ := adds_ok {} valid
    (List.pairwise_map.mpr (wellFormed.distinct.imp fun distinct => distinct.2)) (by simp)
    (by simpa using wellFormed.capacity) rfl
  constructor
  · rw [answers, List.map_map]
    rfl
  · exact contents

end Books

/--
Every book in use is encoded, for either width of `wchar_t`; the decoder reads the
drafts of its contacts back in their order; and an empty book takes each of them.
-/
theorem backup_round_trip (ctype : WideCtype width) (calls : List (BookCall width)) (index : Nat) :
    let book := finalState (bookStep ctype) (fun _ => {}) calls index
    ∃ bytes, encodeContactBackup ctype book = some bytes ∧
      decodeContactBackup ctype bytes = some (book.items.map Contact.draft) ∧
      outputs (addStep ctype) {} (book.items.map Contact.draft) =
        book.items.map fun _ => .ok := by
  intro book
  have wellFormed : book.WellFormed ctype := reachable_wellFormed ctype calls index
  obtain ⟨bytes, encoded, _, decoded⟩ := wellFormed.decode
  exact ⟨bytes, encoded, decoded, wellFormed.readded.1⟩

end AxeVoice.Contacts
