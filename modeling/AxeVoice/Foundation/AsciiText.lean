import AxeVoice.Foundation.Unicode
import Mathlib.Data.Nat.Digits.Lemmas

/-!
# ASCII in wide and narrow strings

Wide strings of printable ASCII and their narrow copies, the classes of the C
locale where every locale agrees on them, and decimal numerals.
-/

namespace AxeVoice.Foundation

variable {width : WCharWidth}

theorem wide_toNat (width : WCharWidth) {character : Char} (small : character.toNat < 128) :
    (wide width character).toNat = character.toNat := by
  have bits : 2 ^ 7 ≤ 2 ^ width.bits := by cases width <;> decide
  exact toNat_unit (Nat.lt_of_lt_of_le small bits)

theorem eq_wide_iff {unit : WChar width} {character : Char} (small : character.toNat < 128) :
    unit = wide width character ↔ unit.toNat = character.toNat := by
  rw [← wide_toNat width small]
  exact BitVec.toNat_inj.symm

theorem within_iff {unit : WChar width} {low high : Char} :
    unit.within low high = true ↔ low.toNat ≤ unit.toNat ∧ unit.toNat ≤ high.toNat := by
  simp [WChar.within]

/-- The classes of a C locale: on ASCII they are those of the "C" locale. -/
structure LocaleCtype (width : WCharWidth) extends WideCtype width where
  space : ∀ unit : WChar width, unit.toNat < 128 →
    iswspace unit = (WideCtype.ascii width).iswspace unit
  control : ∀ unit : WChar width, unit.toNat < 128 →
    iswcntrl unit = (WideCtype.ascii width).iswcntrl unit
  digit : ∀ unit : WChar width, unit.toNat < 128 →
    iswdigit unit = (WideCtype.ascii width).iswdigit unit

/-- A locale finds neither blanks nor controls in ASCII that prints. -/
theorem LocaleCtype.blankFree (locale : LocaleCtype width) {unit : WChar width}
    (printable : 33 ≤ unit.toNat ∧ unit.toNat ≤ 126) :
    locale.iswspace unit = false ∧ locale.iswcntrl unit = false := by
  rw [locale.space unit (by omega), locale.control unit (by omega)]
  simp only [WideCtype.ascii, Bool.or_eq_false_iff, Bool.and_eq_false_iff, decide_eq_false_iff_not]
  omega

/-- Printable ASCII, the blank included. -/
def IsPrintable (unit : WChar width) : Prop := 32 ≤ unit.toNat ∧ unit.toNat ≤ 126

def narrowUnit (unit : WChar width) : UInt8 := UInt8.ofNat unit.toNat

def widenByte (width : WCharWidth) (byte : UInt8) : WChar width := BitVec.ofNat width.bits byte.toNat

def narrow (text : WString width) : Bytes := text.map narrowUnit

def widen (width : WCharWidth) (bytes : Bytes) : WString width := bytes.map (widenByte width)

@[simp] theorem narrow_nil : narrow ([] : WString width) = [] := rfl

@[simp] theorem narrow_append (front rest : WString width) :
    narrow (front ++ rest) = narrow front ++ narrow rest := List.map_append

@[simp] theorem narrow_cons (unit : WChar width) (rest : WString width) :
    narrow (unit :: rest) = narrowUnit unit :: narrow rest := rfl

@[simp] theorem narrow_length (text : WString width) : (narrow text).length = text.length :=
  List.length_map _

theorem narrowUnit_toNat {unit : WChar width} (printable : IsPrintable unit) :
    (narrowUnit unit).toNat = unit.toNat :=
  UInt8.toNat_ofNat_of_lt (Nat.lt_of_le_of_lt printable.2 (by decide))

theorem widenByte_toNat (byte : UInt8) : (widenByte width byte).toNat = byte.toNat := by
  have bits : 2 ^ 8 ≤ 2 ^ width.bits := by cases width <;> decide
  exact toNat_unit (Nat.lt_of_lt_of_le byte.toNat_lt bits)

theorem widen_narrow {text : WString width} (printable : ∀ unit ∈ text, IsPrintable unit) :
    widen width (narrow text) = text := by
  induction text with
  | nil => rfl
  | cons unit rest ih =>
      have head : widenByte width (narrowUnit unit) = unit := by
        apply BitVec.eq_of_toNat_eq
        rw [widenByte_toNat, narrowUnit_toNat (printable unit List.mem_cons_self)]
      have tail := ih fun other member => printable other (List.mem_cons_of_mem _ member)
      rw [narrow_cons]
      exact List.cons_eq_cons.mpr ⟨head, tail⟩

theorem narrow_wideText (text : String) (ascii : ∀ letter ∈ text.toList, letter.toNat < 128) :
    narrow (wideText width text) = asciiBytes text := by
  unfold narrow wideText asciiBytes
  rw [List.map_map]
  apply List.map_congr_left
  intro letter member
  change UInt8.ofNat (wide width letter).toNat = _
  rw [wide_toNat width (ascii letter member)]

def digitByte (digit : Nat) : UInt8 := UInt8.ofNat ('0'.toNat + digit)

/-- The numeral of a number, without leading zeros. -/
def decimal (number : Nat) : Bytes :=
  if number = 0 then [digitByte 0] else (Nat.digits 10 number).reverse.map digitByte

theorem decimal_length {number bound : Nat} (small : number < 10 ^ bound) (positive : 0 < bound) :
    (decimal number).length ≤ bound := by
  unfold decimal
  split
  · exact positive
  · rw [List.length_map, List.length_reverse]
    exact (Nat.digits_length_le_iff (by decide) number).mpr small

theorem digitByte_toNat {digit : Nat} (small : digit < 10) :
    (digitByte digit).toNat = 48 + digit := by
  apply UInt8.toNat_ofNat_of_lt
  change 48 + digit < 256
  omega

theorem decimal_digit {number : ℕ} {byte : UInt8} (member : byte ∈ decimal number) :
    48 ≤ byte.toNat ∧ byte.toNat ≤ 57 := by
  have digit {value : ℕ} (small : value < 10) :
      48 ≤ (digitByte value).toNat ∧ (digitByte value).toNat ≤ 57 := by
    rw [digitByte_toNat small]
    omega
  unfold decimal at member
  split at member
  · rw [List.mem_singleton.mp member]
    exact digit (by decide)
  · obtain ⟨value, found, rfl⟩ := List.mem_map.mp member
    exact digit (Nat.digits_lt_base (by decide) (List.mem_reverse.mp found))

/-- A numeral gives its number back. -/
theorem decimal_value (number : ℕ) :
    Nat.ofDigits 10 ((decimal number).reverse.map fun byte => byte.toNat - 48) = number := by
  unfold decimal
  split
  · next zero =>
      rw [zero]
      rfl
  · have back : ∀ digit ∈ Nat.digits 10 number, (digitByte digit).toNat - 48 = digit := by
      intro digit member
      rw [digitByte_toNat (Nat.digits_lt_base (by decide) member)]
      exact Nat.add_sub_cancel_left 48 digit
    have digits : ((Nat.digits 10 number).map digitByte).map (fun byte => byte.toNat - 48) =
        Nat.digits 10 number := by
      rw [List.map_map]
      exact (List.map_congr_left back).trans (List.map_id _)
    rw [← List.map_reverse, List.reverse_reverse, digits]
    exact Nat.ofDigits_digits 10 number

theorem decimal_inj {first second : ℕ} (same : decimal first = decimal second) : first = second := by
  rw [← decimal_value first, same, decimal_value]

end AxeVoice.Foundation
