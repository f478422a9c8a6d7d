import AxeVoice.Foundation.WideString
import Mathlib.Data.Nat.Bitwise

/-!
# Scalar values in wide strings and in UTF-8

A Unicode scalar value is spelled by one wide unit, or by a surrogate pair where
the wide units have sixteen bits, and by one to four bytes in UTF-8.  Reading
either spelling back gives the scalar value.
-/

namespace AxeVoice.Foundation

abbrev Bytes := List UInt8

/-- The bytes of an ASCII text. -/
def asciiBytes (text : String) : Bytes :=
  text.toList.map fun character => UInt8.ofNat character.toNat

def isHighSurrogate (cp : Nat) : Bool := 0xd800 ≤ cp && cp ≤ 0xdbff

def isLowSurrogate (cp : Nat) : Bool := 0xdc00 ≤ cp && cp ≤ 0xdfff

/-- A code point that is no surrogate. -/
structure IsScalar (cp : Nat) : Prop where
  bound : cp ≤ 0x10ffff
  notHigh : isHighSurrogate cp = false
  notLow : isLowSurrogate cp = false

theorem isScalar_iff {cp : Nat} :
    IsScalar cp ↔ cp ≤ 0x10ffff ∧ ¬ (0xd800 ≤ cp ∧ cp ≤ 0xdfff) := by
  constructor
  · rintro ⟨bound, notHigh, notLow⟩
    simp only [isHighSurrogate, isLowSurrogate, Bool.and_eq_false_iff, decide_eq_false_iff_not]
      at notHigh notLow
    omega
  · rintro ⟨bound, outside⟩
    refine ⟨bound, ?_, ?_⟩
    · simp only [isHighSurrogate, Bool.and_eq_false_iff, decide_eq_false_iff_not]
      omega
    · simp only [isLowSurrogate, Bool.and_eq_false_iff, decide_eq_false_iff_not]
      omega

def joinSurrogates (high low : Nat) : Nat := 0x10000 + ((high - 0xd800) <<< 10) + low - 0xdc00

/-- The number of UTF-16 units of a scalar value. -/
def utf16Length (cp : Nat) : Nat := if cp > 0xffff then 2 else 1

theorem utf16Length_pos (cp : Nat) : 0 < utf16Length cp := by
  unfold utf16Length
  split <;> decide

variable {width : WCharWidth}

/-- The wide units of a scalar value. -/
def scalarUnits (width : WCharWidth) (cp : Nat) : WString width :=
  if width = .utf16 ∧ cp > 0xffff then
    [BitVec.ofNat _ (0xd800 + ((cp - 0x10000) >>> 10)),
      BitVec.ofNat _ (0xdc00 + ((cp - 0x10000) &&& 1023))]
  else [BitVec.ofNat _ cp]

/-- The high surrogate that a wide string of sixteen-bit units may hold. -/
def beginsPair (unit : WChar width) : Bool := width = .utf16 && isHighSurrogate unit.toNat

theorem and_1023 (value : Nat) : value &&& 1023 = value % 1024 :=
  Nat.and_two_pow_sub_one_eq_mod value 10

theorem joinSurrogates_eq (high low : Nat) :
    joinSurrogates high low = 0x10000 + (high - 0xd800) * 1024 + low - 0xdc00 := by
  have power : 2 ^ 10 = 1024 := by decide
  unfold joinSurrogates
  rw [Nat.shiftLeft_eq, power]

theorem toNat_unit {value : Nat} (fits : value < 2 ^ width.bits) :
    (BitVec.ofNat width.bits value).toNat = value :=
  (BitVec.toNat_ofNat value width.bits).trans (Nat.mod_eq_of_lt fits)

/-- The pair of a supplementary scalar value: two surrogates that join to it. -/
theorem scalarUnits_pair {cp : Nat} (bound : cp ≤ 0x10ffff) (large : cp > 0xffff) :
    ∃ high low : WChar .utf16, scalarUnits .utf16 cp = [high, low] ∧
      isHighSurrogate high.toNat = true ∧ isLowSurrogate low.toNat = true ∧
      joinSurrogates high.toNat low.toNat = cp := by
  refine ⟨_, _, if_pos ⟨rfl, large⟩, ?_⟩
  rw [Nat.shiftRight_eq_div_pow, and_1023]
  have high : 0xd800 + (cp - 0x10000) / 2 ^ 10 < 2 ^ 16 := by omega
  have low : 0xdc00 + (cp - 0x10000) % 1024 < 2 ^ 16 := by omega
  rw [toNat_unit high, toNat_unit low, joinSurrogates_eq]
  refine ⟨?_, ?_, ?_⟩
  · simp only [isHighSurrogate, Bool.and_eq_true, decide_eq_true_eq]
    omega
  · simp only [isLowSurrogate, Bool.and_eq_true, decide_eq_true_eq]
    omega
  · omega

/-- A scalar value that takes one unit is that unit. -/
theorem scalarUnits_single {cp : Nat} (scalar : IsScalar cp) (single : width = .utf16 → cp ≤ 0xffff) :
    ∃ unit : WChar width, scalarUnits width cp = [unit] ∧ unit.toNat = cp ∧
      beginsPair unit = false := by
  have fits : cp < 2 ^ width.bits := by
    have bound := scalar.bound
    cases width with
    | utf16 =>
        have small := single rfl
        change cp < 65536
        omega
    | utf32 =>
        change cp < 4294967296
        omega
  have value := toNat_unit fits
  refine ⟨BitVec.ofNat width.bits cp, if_neg ?_, value, ?_⟩
  · rintro ⟨narrow, large⟩
    exact absurd (single narrow) (Nat.not_le.mpr large)
  · rw [beginsPair, value, scalar.notHigh, Bool.and_false]

/-- A pair of surrogates spells the scalar value that it joins to. -/
theorem scalarUnits_join {high low : WChar .utf16} (isHigh : isHighSurrogate high.toNat = true)
    (isLow : isLowSurrogate low.toNat = true) :
    IsScalar (joinSurrogates high.toNat low.toNat) ∧
      scalarUnits .utf16 (joinSurrogates high.toNat low.toNat) = [high, low] ∧
      joinSurrogates high.toNat low.toNat > 0xffff := by
  simp only [isHighSurrogate, isLowSurrogate, Bool.and_eq_true, decide_eq_true_eq] at isHigh isLow
  rw [joinSurrogates_eq]
  have large : 0x10000 + (high.toNat - 0xd800) * 1024 + low.toNat - 0xdc00 > 0xffff := by omega
  refine ⟨isScalar_iff.mpr ⟨by omega, by omega⟩, ?_, large⟩
  rw [scalarUnits, if_pos ⟨rfl, large⟩, Nat.shiftRight_eq_div_pow, and_1023]
  have first : 0xd800 + (0x10000 + (high.toNat - 0xd800) * 1024 + low.toNat - 0xdc00 - 0x10000) /
      2 ^ 10 = high.toNat := by omega
  have second : 0xdc00 + (0x10000 + (high.toNat - 0xd800) * 1024 + low.toNat - 0xdc00 - 0x10000) %
      1024 = low.toNat := by omega
  rw [first, second, BitVec.ofNat_toNat, BitVec.ofNat_toNat, BitVec.setWidth_eq, BitVec.setWidth_eq]

/-- A unit that is a scalar value spells itself. -/
theorem scalarUnits_toNat {unit : WChar width} (single : width = .utf16 → unit.toNat ≤ 0xffff) :
    scalarUnits width unit.toNat = [unit] := by
  rw [scalarUnits, if_neg, BitVec.ofNat_toNat, BitVec.setWidth_eq]
  rintro ⟨narrow, large⟩
  exact absurd (single narrow) (Nat.not_le.mpr large)

end AxeVoice.Foundation
