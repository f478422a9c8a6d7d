import AxeVoice.Foundation.ByteText
import Mathlib.Data.List.TakeWhile

/-!
# The grammar of JSON texts

A JSON text over bytes, as a relation between the input, what it spells and the
input behind it.  Tokens are kept as they are written; what the token of a
string denotes is a relation of its own, so that a text can be asked both what
it says and how it says it.
-/

namespace AxeVoice.Foundation

/-- The white space of JSON. -/
def JsonBlank (byte : UInt8) : Prop :=
  byte = asciiByte ' ' ∨ byte = asciiByte '\t' ∨ byte = asciiByte '\r' ∨ byte = asciiByte '\n'

instance (byte : UInt8) : Decidable (JsonBlank byte) := inferInstanceAs (Decidable (_ ∨ _))

/-- The input and the rest differ by blanks in front. -/
def Blanks (input rest : Bytes) : Prop :=
  ∃ blanks, input = blanks ++ rest ∧ ∀ byte ∈ blanks, JsonBlank byte

theorem Blanks.refl (input : Bytes) : Blanks input input :=
  ⟨[], rfl, fun _ member => absurd member List.not_mem_nil⟩

theorem Blanks.cons {byte : UInt8} {input rest : Bytes} (blank : JsonBlank byte)
    (blanks : Blanks input rest) : Blanks (byte :: input) rest := by
  obtain ⟨front, rfl, each⟩ := blanks
  refine ⟨byte :: front, rfl, ?_⟩
  intro other member
  rcases List.mem_cons.mp member with rfl | later
  · exact blank
  · exact each other later

theorem Blanks.trans {input middle rest : Bytes} (first : Blanks input middle)
    (second : Blanks middle rest) : Blanks input rest := by
  obtain ⟨front, rfl, each⟩ := first
  obtain ⟨back, rfl, others⟩ := second
  refine ⟨front ++ back, (List.append_assoc ..).symm, ?_⟩
  intro byte member
  rcases List.mem_append.mp member with earlier | later
  · exact each byte earlier
  · exact others byte later

theorem Blanks.extend {input rest : Bytes} (blanks : Blanks input rest) (more : Bytes) :
    Blanks (input ++ more) (rest ++ more) := by
  obtain ⟨front, rfl, each⟩ := blanks
  exact ⟨front, List.append_assoc .., each⟩

/-- Where the input begins with something else there are no blanks to skip. -/
theorem Blanks.eq_of_solid {byte : UInt8} {input rest : Bytes} (solid : ¬ JsonBlank byte)
    (blanks : Blanks (byte :: input) rest) : rest = byte :: input := by
  obtain ⟨front, split, each⟩ := blanks
  cases front with
  | nil => exact split.symm
  | cons head tail =>
      obtain ⟨rfl, -⟩ := List.cons_eq_cons.mp split
      exact absurd (each byte List.mem_cons_self) solid

/-- Skipping blanks as a loop does it stops at the first byte that is none. -/
theorem dropWhile_blanks {blank : UInt8 → Bool} (blank_iff : ∀ byte, blank byte = true ↔ JsonBlank byte)
    (input : Bytes) : Blanks input (input.dropWhile blank) := by
  induction input with
  | nil => exact .refl []
  | cons byte rest ih =>
      rw [List.dropWhile_cons]
      split
      · next here => exact .cons ((blank_iff byte).mp here) ih
      · exact .refl _

theorem dropWhile_blanks_iff {blank : UInt8 → Bool}
    (blank_iff : ∀ byte, blank byte = true ↔ JsonBlank byte) {byte : UInt8}
    (solid : ¬ JsonBlank byte) {input rest : Bytes} :
    input.dropWhile blank = byte :: rest ↔ Blanks input (byte :: rest) := by
  constructor
  · intro skipped
    exact skipped ▸ dropWhile_blanks blank_iff input
  · intro blanks
    induction input with
    | nil =>
        obtain ⟨front, split, -⟩ := blanks
        cases front <;> cases split
    | cons head tail ih =>
        by_cases here : JsonBlank head
        · rw [List.dropWhile_cons_of_pos ((blank_iff head).mpr here)]
          apply ih
          obtain ⟨front, split, each⟩ := blanks
          cases front with
          | nil =>
              obtain ⟨rfl, -⟩ := List.cons_eq_cons.mp split
              exact absurd here solid
          | cons first others =>
              obtain ⟨-, rfl⟩ := List.cons_eq_cons.mp split
              exact ⟨others, rfl, fun other member => each other (List.mem_cons_of_mem _ member)⟩
        · have stays : ¬ blank head = true := fun found => here ((blank_iff head).mp found)
          rw [List.dropWhile_cons_of_neg stays, blanks.eq_of_solid here]

/-- What comes behind the blanks is determined. -/
theorem Blanks.unique {first second : UInt8} (solid : ¬ JsonBlank first) (other : ¬ JsonBlank second)
    {input rest behind : Bytes} (one : Blanks input (first :: rest))
    (two : Blanks input (second :: behind)) : first = second ∧ rest = behind := by
  have blank_iff (byte : UInt8) : decide (JsonBlank byte) = true ↔ JsonBlank byte :=
    decide_eq_true_iff
  have same := ((dropWhile_blanks_iff blank_iff solid).mpr one).symm.trans
    ((dropWhile_blanks_iff blank_iff other).mpr two)
  exact List.cons_eq_cons.mp same

/-- Only blanks are left. -/
theorem dropWhile_blanks_nil_iff {blank : UInt8 → Bool}
    (blank_iff : ∀ byte, blank byte = true ↔ JsonBlank byte) {input : Bytes} :
    input.dropWhile blank = [] ↔ Blanks input [] := by
  rw [List.dropWhile_eq_nil_iff]
  constructor
  · intro all
    exact ⟨input, (List.append_nil input).symm, fun byte member => (blank_iff byte).mp (all byte member)⟩
  · rintro ⟨front, rfl, each⟩ byte member
    rw [List.append_nil] at member
    exact (blank_iff byte).mpr (each byte member)

/-- The value of a hexadecimal digit, of either case. -/
def jsonHexDigit (byte : UInt8) : Option Nat :=
  if asciiByte '0' ≤ byte ∧ byte ≤ asciiByte '9' then some (byte.toNat - '0'.toNat)
  else if asciiByte 'a' ≤ byte ∧ byte ≤ asciiByte 'f' then some (byte.toNat - 'a'.toNat + 10)
  else if asciiByte 'A' ≤ byte ∧ byte ≤ asciiByte 'F' then some (byte.toNat - 'A'.toNat + 10)
  else none

/-- Four hexadecimal digits with their value. -/
def HexUnit (digits : Bytes) (value : Nat) : Prop :=
  ∃ a b c d : Nat, digits.map jsonHexDigit = [some a, some b, some c, some d] ∧
    value = ((a * 16 + b) * 16 + c) * 16 + d

/-- The escapes of one letter. -/
def jsonEscapes : List (Char × Char) :=
  [('"', '"'), ('\\', '\\'), ('/', '/'), ('b', '\x08'), ('f', '\x0c'), ('n', '\n'), ('r', '\r'),
    ('t', '\t')]

/-- A character of a string as it is written there. -/
inductive JsonChar : Char → Bytes → Prop
  | plain {c : Char} (printable : 0x20 ≤ c.toNat) (noQuote : c ≠ '"') (noBackslash : c ≠ '\\') :
      JsonChar c (String.utf8EncodeChar c)
  | escaped {letter c : Char} (named : (letter, c) ∈ jsonEscapes) :
      JsonChar c [asciiByte '\\', asciiByte letter]
  | unicode {digits : Bytes} {c : Char} (unit : HexUnit digits c.toNat) :
      JsonChar c (asciiByte '\\' :: asciiByte 'u' :: digits)
  | pair {first second : Bytes} {high low : Nat} {c : Char} (firstUnit : HexUnit first high)
      (secondUnit : HexUnit second low) (isHigh : isHighSurrogate high = true)
      (isLow : isLowSurrogate low = true) (joined : c.toNat = joinSurrogates high low) :
      JsonChar c (asciiByte '\\' :: asciiByte 'u' :: first ++
        asciiByte '\\' :: asciiByte 'u' :: second)

/-- What stands between the quotes of a string, with the text that it denotes. -/
inductive JsonString : List Char → Bytes → Prop
  | nil : JsonString [] []
  | cons {c : Char} {text : List Char} {front rest : Bytes} (head : JsonChar c front)
      (tail : JsonString text rest) : JsonString (c :: text) (front ++ rest)

theorem JsonString.append {first second : List Char} {front rest : Bytes}
    (before : JsonString first front) (behind : JsonString second rest) :
    JsonString (first ++ second) (front ++ rest) := by
  induction before with
  | nil => exact behind
  | cons head tail ih =>
      rw [List.cons_append, List.append_assoc]
      exact .cons head ih

/-- The token of a string. -/
def JsonToken (token : Bytes) : Prop := ∃ text, JsonString text token

def JsonDigits (digits : Bytes) : Prop :=
  digits ≠ [] ∧ ∀ byte ∈ digits, asciiByte '0' ≤ byte ∧ byte ≤ asciiByte '9'

/-- A sign, a number without leading zeros, a fraction and an exponent. -/
def JsonNumber (text : Bytes) : Prop :=
  ∃ sign whole fraction exponent, text = sign ++ whole ++ fraction ++ exponent ∧
    (sign = [] ∨ sign = [asciiByte '-']) ∧
    (JsonDigits whole ∧ (whole.head? = some (asciiByte '0') → whole.length = 1)) ∧
    (fraction = [] ∨ ∃ digits, JsonDigits digits ∧ fraction = asciiByte '.' :: digits) ∧
    (exponent = [] ∨ ∃ letter mark digits, JsonDigits digits ∧
      exponent = letter :: mark ++ digits ∧ (letter = asciiByte 'e' ∨ letter = asciiByte 'E') ∧
      (mark = [] ∨ mark = [asciiByte '+'] ∨ mark = [asciiByte '-']))

/-- The tokens that are neither strings nor brackets. -/
inductive JsonWord : Bytes → Prop
  | null : JsonWord (asciiBytes "null")
  | true : JsonWord (asciiBytes "true")
  | false : JsonWord (asciiBytes "false")
  | number {text : Bytes} (number : JsonNumber text) : JsonWord text

/-- A value with its tokens as they are written. -/
inductive JsonTree where
  | word (text : Bytes)
  | string (token : Bytes)
  | array (items : List JsonTree)
  | object (members : List (Bytes × JsonTree))

/-- What a part of a text spells. -/
inductive JsonPhrase where
  | value (tree : JsonTree)
  | member (name : Bytes) (tree : JsonTree)
  /-- The items behind an opening bracket, with the closing one. -/
  | items (trees : List JsonTree)
  /-- The members behind an opening brace, with the closing one. -/
  | members (members : List (Bytes × JsonTree))

/-- The input spells a phrase, and the rest stands behind it. -/
inductive Spells : JsonPhrase → Bytes → Bytes → Prop
  | word {text rest : Bytes} (known : JsonWord text) : Spells (.value (.word text)) (text ++ rest) rest
  | string {token rest : Bytes} (formed : JsonToken token) :
      Spells (.value (.string token)) (asciiByte '"' :: (token ++ asciiByte '"' :: rest)) rest
  | emptyArray {input rest : Bytes} (blanks : Blanks input (asciiByte ']' :: rest)) :
      Spells (.value (.array [])) (asciiByte '[' :: input) rest
  | array {trees : List JsonTree} {input rest : Bytes} (items : Spells (.items trees) input rest) :
      Spells (.value (.array trees)) (asciiByte '[' :: input) rest
  | emptyObject {input rest : Bytes} (blanks : Blanks input (asciiByte '\x7d' :: rest)) :
      Spells (.value (.object [])) (asciiByte '\x7b' :: input) rest
  | object {members : List (Bytes × JsonTree)} {input rest : Bytes}
      (listed : Spells (.members members) input rest) :
      Spells (.value (.object members)) (asciiByte '\x7b' :: input) rest
  | member {name behind start input rest : Bytes} {tree : JsonTree} (formed : JsonToken name)
      (colon : Blanks input (asciiByte ':' :: behind)) (blanks : Blanks behind start)
      (value : Spells (.value tree) start rest) :
      Spells (.member name tree) (asciiByte '"' :: (name ++ asciiByte '"' :: input)) rest
  | lastItem {tree : JsonTree} {input start behind rest : Bytes} (blanks : Blanks input start)
      (item : Spells (.value tree) start behind) (closed : Blanks behind (asciiByte ']' :: rest)) :
      Spells (.items [tree]) input rest
  | nextItem {tree : JsonTree} {trees : List JsonTree} {input start behind more rest : Bytes}
      (blanks : Blanks input start) (item : Spells (.value tree) start behind)
      (comma : Blanks behind (asciiByte ',' :: more)) (others : Spells (.items trees) more rest) :
      Spells (.items (tree :: trees)) input rest
  | lastMember {name : Bytes} {tree : JsonTree} {input start behind rest : Bytes}
      (blanks : Blanks input start) (member : Spells (.member name tree) start behind)
      (closed : Blanks behind (asciiByte '\x7d' :: rest)) :
      Spells (.members [(name, tree)]) input rest
  | nextMember {name : Bytes} {tree : JsonTree} {members : List (Bytes × JsonTree)}
      {input start behind more rest : Bytes} (blanks : Blanks input start)
      (member : Spells (.member name tree) start behind)
      (comma : Blanks behind (asciiByte ',' :: more)) (others : Spells (.members members) more rest) :
      Spells (.members ((name, tree) :: members)) input rest

/-- The whole input is the text of one value. -/
def JsonText (tree : JsonTree) (input : Bytes) : Prop :=
  ∃ start behind, Blanks input start ∧ Spells (.value tree) start behind ∧ Blanks behind []

/-- The bytes are the UTF-8 of a text. -/
def IsUtf8 (bytes : Bytes) : Prop := ∃ text : List Char, bytes = text.flatMap String.utf8EncodeChar

theorem IsUtf8.nil : IsUtf8 [] := ⟨[], rfl⟩

theorem IsUtf8.append {front rest : Bytes} (first : IsUtf8 front) (second : IsUtf8 rest) :
    IsUtf8 (front ++ rest) := by
  obtain ⟨text, rfl⟩ := first
  obtain ⟨others, rfl⟩ := second
  exact ⟨text ++ others, List.flatMap_append.symm⟩

theorem isUtf8_char (c : Char) : IsUtf8 (String.utf8EncodeChar c) :=
  ⟨[c], (List.flatMap_singleton ..).symm⟩

theorem utf8EncodeChar_ascii {c : Char} (small : c.toNat < 0x80) :
    String.utf8EncodeChar c = [asciiByte c] := by
  have bound : c.val.toNat ≤ 0x7f := by
    have same : c.val.toNat = c.toNat := rfl
    omega
  rw [String.utf8EncodeChar, if_pos bound]
  rfl

/-- Outside ASCII every byte is. -/
theorem utf8EncodeChar_high {c : Char} (large : 0x80 ≤ c.toNat) :
    ∀ byte ∈ String.utf8EncodeChar c, 0x80 ≤ byte.toNat := by
  have same : c.val.toNat = c.toNat := rfl
  intro byte member
  rw [String.utf8EncodeChar, if_neg (by omega)] at member
  split at member
  · simp only [List.mem_cons, List.not_mem_nil, or_false] at member
    rcases member with rfl | rfl <;> rw [UInt8.toNat_ofNat'] <;> omega
  split at member
  · simp only [List.mem_cons, List.not_mem_nil, or_false] at member
    rcases member with rfl | rfl | rfl <;> rw [UInt8.toNat_ofNat'] <;> omega
  · simp only [List.mem_cons, List.not_mem_nil, or_false] at member
    rcases member with rfl | rfl | rfl | rfl <;> rw [UInt8.toNat_ofNat'] <;> omega

theorem asciiByte_ne {c d : Char} (small : c.toNat < 0x80) (other : d.toNat < 0x80) (apart : c ≠ d) :
    asciiByte c ≠ asciiByte d := by
  intro same
  apply apart
  have values := congrArg UInt8.toNat same
  rw [asciiByte_toNat small, asciiByte_toNat other] at values
  exact Char.toNat_inj.mp values

/-- A character of ASCII is spelled in the bytes of no other one. -/
theorem asciiByte_not_mem {c d : Char} (small : d.toNat < 0x80) (apart : c ≠ d) :
    asciiByte d ∉ String.utf8EncodeChar c := by
  intro member
  by_cases ascii : c.toNat < 0x80
  · rw [utf8EncodeChar_ascii ascii] at member
    exact asciiByte_ne small ascii (Ne.symm apart) (List.mem_singleton.mp member)
  · have high := utf8EncodeChar_high (Nat.not_lt.mp ascii) _ member
    rw [asciiByte_toNat small] at high
    omega

/-- A token without escapes has no quote inside. -/
theorem JsonString.noQuote {text : List Char} {token : Bytes} (spelled : JsonString text token)
    (escapeFree : asciiByte '\\' ∉ token) : asciiByte '"' ∉ token := by
  induction spelled with
  | nil => exact List.not_mem_nil
  | cons head tail ih =>
      rw [List.mem_append, not_or] at escapeFree ⊢
      refine ⟨?_, ih escapeFree.2⟩
      cases head with
      | plain _ noQuote _ => exact asciiByte_not_mem (by decide) noQuote
      | escaped | unicode | pair => exact absurd List.mem_cons_self escapeFree.1

theorem toNat_charOf {cp : Nat} (valid : cp.isValidChar) : (Char.ofNat cp).toNat = cp := by
  rw [Char.ofNat, dif_pos valid]
  rfl

theorem isUtf8_ascii {bytes : Bytes} (small : ∀ byte ∈ bytes, byte.toNat < 0x80) : IsUtf8 bytes := by
  induction bytes with
  | nil => exact .nil
  | cons byte rest ih =>
      have here := small byte List.mem_cons_self
      have later := ih fun other member => small other (List.mem_cons_of_mem _ member)
      have valid : byte.toNat.isValidChar := .inl (by omega)
      have value := toNat_charOf valid
      have single : IsUtf8 [byte] := by
        have char := isUtf8_char (Char.ofNat byte.toNat)
        rw [utf8EncodeChar_ascii (by omega), asciiByte, value, UInt8.ofNat_toNat] at char
        exact char
      exact single.append later

theorem IsUtf8.cons {byte : UInt8} {rest : Bytes} (small : byte.toNat < 0x80) (later : IsUtf8 rest) :
    IsUtf8 (byte :: rest) := by
  have single : IsUtf8 [byte] := isUtf8_ascii fun _ member => List.mem_singleton.mp member ▸ small
  exact single.append later

/-- What stands between the input and the rest is UTF-8. -/
def Utf8Until (input rest : Bytes) : Prop := ∃ front, input = front ++ rest ∧ IsUtf8 front

theorem Utf8Until.refl (input : Bytes) : Utf8Until input input := ⟨[], rfl, .nil⟩

theorem Utf8Until.trans {input middle rest : Bytes} (first : Utf8Until input middle)
    (second : Utf8Until middle rest) : Utf8Until input rest := by
  obtain ⟨front, rfl, valid⟩ := first
  obtain ⟨back, rfl, others⟩ := second
  exact ⟨front ++ back, (List.append_assoc ..).symm, valid.append others⟩

theorem Utf8Until.cons {byte : UInt8} {input rest : Bytes} (small : byte.toNat < 0x80)
    (later : Utf8Until input rest) : Utf8Until (byte :: input) rest := by
  obtain ⟨front, rfl, valid⟩ := later
  exact ⟨byte :: front, rfl, .cons small valid⟩

theorem Utf8Until.front {front : Bytes} (valid : IsUtf8 front) (rest : Bytes) :
    Utf8Until (front ++ rest) rest := ⟨front, rfl, valid⟩

theorem Blanks.utf8 {input rest : Bytes} (blanks : Blanks input rest) : Utf8Until input rest := by
  obtain ⟨front, rfl, each⟩ := blanks
  refine .front (isUtf8_ascii fun byte member => ?_) rest
  rcases each byte member with rfl | rfl | rfl | rfl <;> decide

/-- The blanks before a byte of ASCII, and the byte. -/
theorem Blanks.utf8_cons {byte : UInt8} {input rest : Bytes} (small : byte.toNat < 0x80)
    (blanks : Blanks input (byte :: rest)) : Utf8Until input rest :=
  blanks.utf8.trans (.cons small (.refl rest))

theorem jsonHexDigit_ascii {byte : UInt8} {digit : Nat} (hex : jsonHexDigit byte = some digit) :
    byte.toNat < 0x80 := by
  have bounds (high : Char) (small : high.toNat < 0x80) (below : byte ≤ asciiByte high) :
      byte.toNat < 0x80 := by
    have value : (asciiByte high).toNat = high.toNat := by
      rw [asciiByte, UInt8.toNat_ofNat']
      omega
    have bound := UInt8.le_iff_toNat_le.mp below
    omega
  simp only [jsonHexDigit] at hex
  split at hex
  · next within => exact bounds '9' (by decide) within.2
  split at hex
  · next within => exact bounds 'f' (by decide) within.2
  split at hex
  · next within => exact bounds 'F' (by decide) within.2
  · cases hex

theorem HexUnit.ascii {digits : Bytes} {value : Nat} (unit : HexUnit digits value) :
    ∀ byte ∈ digits, byte.toNat < 0x80 := by
  obtain ⟨a, b, c, d, values, -⟩ := unit
  intro byte member
  have digit := List.mem_map_of_mem (f := jsonHexDigit) member
  rw [values] at digit
  simp only [List.mem_cons, List.not_mem_nil, or_false] at digit
  rcases digit with hex | hex | hex | hex <;> exact jsonHexDigit_ascii hex

theorem JsonChar.utf8 {c : Char} {bytes : Bytes} (written : JsonChar c bytes) : IsUtf8 bytes := by
  cases written with
  | plain => exact isUtf8_char c
  | escaped named =>
      apply isUtf8_ascii
      simp only [jsonEscapes, List.mem_cons, Prod.mk.injEq, List.not_mem_nil, or_false] at named
      rcases named with ⟨rfl, -⟩ | ⟨rfl, -⟩ | ⟨rfl, -⟩ | ⟨rfl, -⟩ | ⟨rfl, -⟩ | ⟨rfl, -⟩ | ⟨rfl, -⟩ |
        ⟨rfl, -⟩ <;> decide +kernel
  | unicode unit => exact .cons (by decide) (.cons (by decide) (isUtf8_ascii unit.ascii))
  | pair firstUnit secondUnit =>
      exact .cons (by decide) (.cons (by decide) ((isUtf8_ascii firstUnit.ascii).append
        (.cons (by decide) (.cons (by decide) (isUtf8_ascii secondUnit.ascii)))))

theorem JsonString.utf8 {text : List Char} {token : Bytes} (spelled : JsonString text token) :
    IsUtf8 token := by
  induction spelled with
  | nil => exact .nil
  | cons head tail ih => exact head.utf8.append ih

theorem JsonDigits.ascii {digits : Bytes} (formed : JsonDigits digits) :
    ∀ byte ∈ digits, byte.toNat < 0x80 := by
  intro byte member
  have below := UInt8.le_iff_toNat_le.mp (formed.2 byte member).2
  have nine : (asciiByte '9').toNat = 57 := rfl
  omega

theorem JsonNumber.utf8 {text : Bytes} (number : JsonNumber text) : IsUtf8 text := by
  obtain ⟨sign, whole, fraction, exponent, rfl, signed, digits, fractional, exponential⟩ := number
  refine IsUtf8.append (IsUtf8.append (IsUtf8.append ?_ (isUtf8_ascii digits.1.ascii)) ?_) ?_
  · rcases signed with rfl | rfl
    · exact .nil
    · exact .cons (by decide) .nil
  · rcases fractional with rfl | ⟨after, formed, rfl⟩
    · exact .nil
    · exact .cons (by decide) (isUtf8_ascii formed.ascii)
  · rcases exponential with rfl | ⟨letter, mark, after, formed, rfl, letters, marks⟩
    · exact .nil
    refine .cons ?_ (.append ?_ (isUtf8_ascii formed.ascii))
    · rcases letters with rfl | rfl <;> decide
    · rcases marks with rfl | rfl | rfl
      · exact .nil
      · exact .cons (by decide) .nil
      · exact .cons (by decide) .nil

theorem JsonWord.utf8 {text : Bytes} (word : JsonWord text) : IsUtf8 text := by
  cases word with
  | null | true | false => exact isUtf8_ascii (by decide +kernel)
  | number number => exact number.utf8

/-- Whatever a text spells, it is UTF-8. -/
theorem Spells.utf8 {phrase : JsonPhrase} {input rest : Bytes} (spells : Spells phrase input rest) :
    Utf8Until input rest := by
  induction spells with
  | word known => exact .front known.utf8 _
  | string formed =>
      obtain ⟨text, spelled⟩ := formed
      exact .cons (by decide) ((Utf8Until.front spelled.utf8 _).trans (.cons (by decide) (.refl _)))
  | emptyArray blanks | emptyObject blanks => exact .cons (by decide) (blanks.utf8_cons (by decide))
  | array items ih | object listed ih => exact .cons (by decide) ih
  | member formed colon blanks value ih =>
      obtain ⟨text, spelled⟩ := formed
      exact .cons (by decide) ((Utf8Until.front spelled.utf8 _).trans
        (.cons (by decide) ((colon.utf8_cons (by decide)).trans (blanks.utf8.trans ih))))
  | lastItem blanks item closed ih | lastMember blanks member closed ih =>
      exact blanks.utf8.trans (ih.trans (closed.utf8_cons (by decide)))
  | nextItem blanks item comma others here later | nextMember blanks member comma others here later =>
      exact blanks.utf8.trans (here.trans ((comma.utf8_cons (by decide)).trans later))

theorem JsonText.utf8 {tree : JsonTree} {input : Bytes} (text : JsonText tree input) :
    IsUtf8 input := by
  obtain ⟨start, behind, before, spells, after⟩ := text
  obtain ⟨front, split, valid⟩ := before.utf8.trans (spells.utf8.trans after.utf8)
  rw [split, List.append_nil]
  exact valid

end AxeVoice.Foundation
