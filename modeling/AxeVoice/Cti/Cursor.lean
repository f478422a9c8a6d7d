import AxeVoice.Cti.Http

/-!
# Event cursors

A cursor is a decimal numeral of at most twenty digits.  The parser computes it
in 64 bits and refuses a numeral at the first digit that would not fit, so that
it accepts exactly the numerals of 64-bit numbers.
-/

namespace AxeVoice.Cti

open Foundation

/-- The number of which a text of digits is the rest, behind those of a start. -/
def numeralFrom (start : ℕ) (text : Bytes) : ℕ :=
  text.foldl (fun number digit => number * 10 + (digit.toNat - '0'.toNat)) start

/-- The integer value of a text of digits. -/
def numeral (text : Bytes) : ℕ := numeralFrom 0 text

theorem numeralFrom_append (start : ℕ) (front rest : Bytes) :
    numeralFrom start (front ++ rest) = numeralFrom (numeralFrom start front) rest :=
  List.foldl_append

/-- More digits make no number smaller. -/
theorem start_le_numeralFrom (start : ℕ) (text : Bytes) : start ≤ numeralFrom start text := by
  induction text generalizing start with
  | nil => exact Nat.le_refl _
  | cons digit rest ih =>
      have grown : start ≤ start * 10 + (digit.toNat - '0'.toNat) := by omega
      exact Nat.le_trans grown (ih _)

def DecimalDigits (text : Bytes) : Prop := ∀ digit ∈ text, byteWithin digit '0' '9' = true

theorem byteWithin_digit {digit : UInt8} (decimal : byteWithin digit '0' '9' = true) :
    48 ≤ digit.toNat ∧ digit.toNat ≤ 57 := by
  simp only [byteWithin, Bool.and_eq_true, decide_eq_true_eq, UInt8.le_iff_toNat_le] at decimal
  exact decimal

theorem digit_toNat {digit : UInt8} (decimal : byteWithin digit '0' '9' = true) :
    (digit.toUInt64 - 48).toNat = digit.toNat - '0'.toNat := by
  obtain ⟨low, -⟩ := byteWithin_digit decimal
  rw [UInt64.toNat_sub_of_le, UInt8.toNat_toUInt64]
  · rfl
  · rw [UInt64.le_iff_toNat_le, UInt8.toNat_toUInt64]
    exact low

/-- The test before a digit is taken is whether the number would leave the 64 bits. -/
theorem digit_overflows_iff {value : UInt64} {digit : UInt8}
    (decimal : byteWithin digit '0' '9' = true) :
    value > (0xFFFFFFFFFFFFFFFF - (digit.toUInt64 - 48)) / 10 ↔
      2 ^ 64 ≤ value.toNat * 10 + (digit.toNat - '0'.toNat) := by
  obtain ⟨-, high⟩ := byteWithin_digit decimal
  have taken := digit_toNat decimal
  have zero : '0'.toNat = 48 := rfl
  rw [zero] at taken ⊢
  have below : digit.toUInt64 - 48 ≤ 0xFFFFFFFFFFFFFFFF := by
    rw [UInt64.le_iff_toNat_le, taken]
    exact Nat.le_trans (Nat.sub_le _ _) (Nat.le_trans high (by decide))
  rw [gt_iff_lt, UInt64.lt_iff_toNat_lt, UInt64.toNat_div, UInt64.toNat_sub_of_le _ _ below, taken]
  change (18446744073709551615 - (digit.toNat - 48)) / 10 < value.toNat ↔ _
  omega

/-- What the loop computes with a digit that it takes. -/
structure Unwrapped (value : UInt64) (digit : UInt8) : Prop where
  difference : (digit.toUInt64 - 48).toNat = digit.toNat - '0'.toNat
  product : (value * 10).toNat = value.toNat * 10
  sum : (value * 10 + (digit.toUInt64 - 48)).toNat =
    value.toNat * 10 + (digit.toNat - '0'.toNat)

theorem digit_unwrapped {value : UInt64} {digit : UInt8}
    (decimal : byteWithin digit '0' '9' = true)
    (room : ¬ value > (0xFFFFFFFFFFFFFFFF - (digit.toUInt64 - 48)) / 10) : Unwrapped value digit := by
  have taken := digit_toNat decimal
  have small : value.toNat * 10 + (digit.toNat - '0'.toNat) < 2 ^ 64 :=
    Nat.lt_of_not_le fun large => room ((digit_overflows_iff decimal).mpr large)
  have product : (value * 10).toNat = value.toNat * 10 := by
    rw [UInt64.toNat_mul]
    exact Nat.mod_eq_of_lt (Nat.lt_of_le_of_lt (Nat.le_add_right _ _) small)
  refine ⟨taken, product, ?_⟩
  rw [UInt64.toNat_add, product, taken]
  exact Nat.mod_eq_of_lt small

/-- The loop returns the number of its digits, and nothing where that leaves the 64 bits. -/
theorem cursorFrom_some_iff {value result : UInt64} {text : Bytes} :
    cursorFrom value text = some result ↔
      DecimalDigits text ∧ numeralFrom value.toNat text = result.toNat := by
  induction text generalizing value with
  | nil =>
      rw [cursorFrom, Option.some_inj]
      constructor
      · rintro rfl
        exact ⟨nofun, rfl⟩
      · rintro ⟨-, same⟩
        exact UInt64.toNat_inj.mp same
  | cons digit rest ih =>
      have split_ : DecimalDigits (digit :: rest) ↔
          byteWithin digit '0' '9' = true ∧ DecimalDigits rest := List.forall_mem_cons
      have grown : numeralFrom value.toNat (digit :: rest) =
          numeralFrom (value.toNat * 10 + (digit.toNat - '0'.toNat)) rest := rfl
      rw [cursorFrom, split_, grown]
      by_cases decimal : byteWithin digit '0' '9' = true
      · rw [decimal, Bool.not_true, if_neg Bool.false_ne_true]
        dsimp only
        by_cases overflows : value > (0xFFFFFFFFFFFFFFFF - (digit.toUInt64 - 48)) / 10
        · rw [if_pos overflows]
          have large := (digit_overflows_iff decimal).mp overflows
          have still := start_le_numeralFrom (value.toNat * 10 + (digit.toNat - '0'.toNat)) rest
          constructor
          · exact nofun
          · rintro ⟨-, same⟩
            have bounded := result.toNat_lt
            omega
        · rw [if_neg overflows, ih, (digit_unwrapped decimal overflows).sum]
          exact ⟨fun ⟨digits, same⟩ => ⟨⟨rfl, digits⟩, same⟩,
            fun ⟨⟨_, digits⟩, same⟩ => ⟨digits, same⟩⟩
      · rw [if_pos (by simpa using decimal)]
        exact ⟨nofun, fun ⟨⟨digit_, _⟩, _⟩ => absurd digit_ decimal⟩

/-- The loop comes to a digit with what it has computed so far. -/
def LoopComes (text : Bytes) (value : UInt64) (digit : UInt8) : Prop :=
  ∃ front rest, text = front ++ digit :: rest ∧ cursorFrom 0 front = some value

theorem parseCtiEventCursor_some_iff {text : Bytes} {value : UInt64} :
    parseCtiEventCursor text = some value ↔
      (1 ≤ text.length ∧ text.length ≤ 20) ∧ DecimalDigits text ∧ numeral text = value.toNat := by
  unfold parseCtiEventCursor
  have sizes : (text.isEmpty || decide (text.length > 20)) = true ↔
      ¬ (1 ≤ text.length ∧ text.length ≤ 20) := by
    rw [Bool.or_eq_true, decide_eq_true_iff, List.isEmpty_iff, ← List.length_eq_zero_iff]
    omega
  split
  · next refused => exact ⟨nofun, fun ⟨fits, _⟩ => absurd fits (sizes.mp refused)⟩
  · next accepted =>
      have fits := not_not.mp fun outside => accepted (sizes.mpr outside)
      rw [cursorFrom_some_iff]
      exact ⟨fun known => ⟨fits, known⟩, And.right⟩

/-- `parse_cti_event_cursor` with its reference: what it returns, and what stands there then. -/
def parseCtiEventCursorInto (text : Bytes) (out : UInt64) : Bool × UInt64 :=
  match parseCtiEventCursor text with
  | none => (false, out)
  | some value => (true, value)

theorem parseCtiEventCursorInto_true_iff {text : Bytes} {out value : UInt64} :
    parseCtiEventCursorInto text out = (true, value) ↔ parseCtiEventCursor text = some value := by
  unfold parseCtiEventCursorInto
  cases parseCtiEventCursor text with
  | none => exact ⟨nofun, nofun⟩
  | some other => exact ⟨fun same => congrArg some (Prod.mk.inj same).2, fun same => by cases same; rfl⟩

theorem asciiBytes_jsonNumber (value : UInt64) :
    asciiBytes (jsonNumber value) =
      (Nat.toDigits 10 value.toNat).map fun character => UInt8.ofNat character.toNat := by
  unfold asciiBytes jsonNumber
  rw [Nat.toString_eq_repr, Nat.toList_repr]

theorem digitChar_toNat {digit : ℕ} (small : digit < 10) : (Nat.digitChar digit).toNat = 48 + digit := by
  interval_cases digit <;> rfl

/-- A written number is its digits. -/
theorem numeral_toDigits (number : ℕ) :
    numeral ((Nat.toDigits 10 number).map fun character => UInt8.ofNat character.toNat) = number := by
  have single {digit : ℕ} (start : ℕ) (small : digit < 10) :
      numeralFrom start [UInt8.ofNat (Nat.digitChar digit).toNat] = start * 10 + digit := by
    have written : (UInt8.ofNat (48 + digit)).toNat = 48 + digit :=
      UInt8.toNat_ofNat_of_lt (by change 48 + digit < 256; omega)
    rw [digitChar_toNat small]
    change start * 10 + ((UInt8.ofNat (48 + digit)).toNat - 48) = _
    rw [written, Nat.add_sub_cancel_left]
  induction number using Nat.strongRecOn with
  | ind number ih =>
      by_cases small : number < 10
      · rw [Nat.toDigits_of_lt_base small]
        exact (single 0 small).trans (by omega)
      · have shorter : number / 10 < number := Nat.div_lt_self (by omega) (by decide)
        rw [Nat.toDigits_of_base_le (by decide) (by omega), List.map_append, numeral,
          numeralFrom_append]
        change numeralFrom (numeral _) _ = _
        rw [ih _ shorter]
        exact (single _ (Nat.mod_lt _ (by decide))).trans (by omega)

theorem digit_of_toDigits {number : ℕ} {character : Char}
    (written : character ∈ Nat.toDigits 10 number) :
    byteWithin (UInt8.ofNat character.toNat) '0' '9' = true := by
  have decimal := Nat.isDigit_of_mem_toDigits (by decide) (by decide) written
  simp only [Char.isDigit, Bool.and_eq_true, decide_eq_true_eq, ge_iff_le,
    UInt32.le_iff_toNat_le] at decimal
  obtain ⟨low, high⟩ := decimal
  have byte : (UInt8.ofNat character.toNat).toNat = character.toNat :=
    UInt8.toNat_ofNat_of_lt (Nat.lt_of_le_of_lt high (by decide))
  simp only [byteWithin, Bool.and_eq_true, decide_eq_true_eq, UInt8.le_iff_toNat_le, byte]
  exact ⟨low, high⟩

/-- The cursors that the server writes are read back. -/
theorem parseCtiEventCursor_jsonNumber (value : UInt64) :
    parseCtiEventCursor (asciiBytes (jsonNumber value)) = some value := by
  rw [parseCtiEventCursor_some_iff, asciiBytes_jsonNumber]
  refine ⟨?_, ?_, numeral_toDigits value.toNat⟩
  · have fits : value.toNat < 10 ^ 20 := Nat.lt_trans value.toNat_lt (by decide)
    rw [List.length_map]
    exact ⟨Nat.length_toDigits_pos, (Nat.length_toDigits_le_iff (by decide) (by decide)).mpr fits⟩
  · intro digit member
    obtain ⟨character, written, rfl⟩ := List.mem_map.mp member
    exact digit_of_toDigits written

/-- The parser is exact up to the largest number of 64 bits. -/
structure ExactCursors : Prop where
  accepts : ∀ text out, (parseCtiEventCursorInto text out).1 = true ↔
    (1 ≤ text.length ∧ text.length ≤ 20) ∧ DecimalDigits text ∧ numeral text < 2 ^ 64
  value : ∀ text out, (parseCtiEventCursorInto text out).1 = true →
    (parseCtiEventCursorInto text out).2.toNat = numeral text
  unchanged : ∀ text out, (parseCtiEventCursorInto text out).1 = false →
    (parseCtiEventCursorInto text out).2 = out
  /-- `std::to_string` is undone. -/
  inverse : ∀ value out,
    parseCtiEventCursorInto (asciiBytes (jsonNumber value)) out = (true, value)
  /-- A digit that the loop takes is one that it computes with exactly. -/
  unwrapped : ∀ text value digit, LoopComes text value digit →
    byteWithin digit '0' '9' = true →
      ¬ value > (0xFFFFFFFFFFFFFFFF - (digit.toUInt64 - 48)) / 10 → Unwrapped value digit
  /-- The number computed so far is that of the digits read so far. -/
  prefixes : ∀ front value, cursorFrom 0 front = some value → value.toNat = numeral front

theorem cursors_exact : ExactCursors where
  accepts text out := by
    constructor
    · intro accepted
      have known : parseCtiEventCursor text = some (parseCtiEventCursorInto text out).2 :=
        parseCtiEventCursorInto_true_iff.mp (Prod.ext accepted rfl)
      obtain ⟨fits, digits, same⟩ := parseCtiEventCursor_some_iff.mp known
      refine ⟨fits, digits, ?_⟩
      rw [same]
      exact UInt64.toNat_lt _
    · rintro ⟨fits, digits, small⟩
      have same : (UInt64.ofNat (numeral text)).toNat = numeral text := UInt64.toNat_ofNat_of_lt' small
      have known := parseCtiEventCursor_some_iff.mpr ⟨fits, digits, same.symm⟩
      rw [parseCtiEventCursorInto_true_iff.mpr known]
  value text out := by
    intro accepted
    have known := parseCtiEventCursorInto_true_iff.mp (Prod.ext accepted rfl)
    exact (parseCtiEventCursor_some_iff.mp known).2.2.symm
  unchanged text out := by
    unfold parseCtiEventCursorInto
    cases parseCtiEventCursor text with
    | none => exact fun _ => rfl
    | some value => exact nofun
  inverse value out := parseCtiEventCursorInto_true_iff.mpr (parseCtiEventCursor_jsonNumber value)
  unwrapped _ _ _ _ decimal room := digit_unwrapped decimal room
  prefixes _ _ known := (cursorFrom_some_iff.mp known).2.symm

end AxeVoice.Cti
