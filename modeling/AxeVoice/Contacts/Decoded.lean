import AxeVoice.Contacts.RoundTrip
import AxeVoice.Foundation.Json

/-!
# What a decoded backup says

The parser of the backup is sound for JSON: whatever bytes it accepts are the text
of one object with a version and a list of contacts, and the drafts that it returns
are the contacts of that list.  Each function of the parser gets one lemma about the
part of the input that it took.
-/

namespace AxeVoice.Contacts

open AxeVoice.Foundation

variable {width : WCharWidth}

namespace Parser

theorem blank_iff (b : UInt8) :
    (b = asciiByte ' ' || b = asciiByte '\r' || b = asciiByte '\n' || b = asciiByte '\t') = true ↔
      JsonBlank b := by
  simp only [Bool.or_eq_true, decide_eq_true_eq, JsonBlank]
  constructor
  · rintro (((blank | blank) | blank) | blank)
    · exact .inl blank
    · exact .inr (.inr (.inl blank))
    · exact .inr (.inr (.inr blank))
    · exact .inr (.inl blank)
  · rintro (blank | blank | blank | blank)
    · exact .inl (.inl (.inl blank))
    · exact .inr blank
    · exact .inl (.inl (.inr blank))
    · exact .inl (.inr blank)

theorem space_blanks (input : Bytes) : Blanks input (space input) :=
  dropWhile_blanks blank_iff input

theorem space_nil {input : Bytes} (skipped : (space input).isEmpty = true) : Blanks input [] := by
  have left := space_blanks input
  rwa [List.isEmpty_iff.mp skipped] at left

theorem take_read {character : Char} {input rest : Bytes}
    (taken : take character input = some rest) : Blanks input (asciiByte character :: rest) := by
  have skipped := space_blanks input
  rw [take] at taken
  split at taken
  · cases taken
  next b behind found =>
  split at taken
  · next same =>
      cases taken
      rw [found, same] at skipped
      exact skipped
  · cases taken

theorem literal_read {text : String} {input rest : Bytes} (read : literal text input = some rest) :
    Blanks input (asciiBytes text ++ rest) := by
  have skipped := space_blanks input
  rw [literal] at read
  split at read
  · next begins =>
      cases read
      obtain ⟨behind, split⟩ := List.isPrefixOf_iff_prefix.mp begins
      rw [← split] at skipped ⊢
      rwa [List.drop_left]
  · cases read

theorem hexDigit_read {b : UInt8} {digit : Nat} (read : hexDigit b = some digit) :
    jsonHexDigit b = some digit ∧ digit < 16 := by
  have codes : '0'.toNat = 48 ∧ '9'.toNat = 57 ∧ 'a'.toNat = 97 ∧ 'f'.toNat = 102 ∧
      'A'.toNat = 65 ∧ 'F'.toNat = 70 := by decide
  simp only [hexDigit, Bool.and_eq_true, decide_eq_true_eq] at read
  simp only [jsonHexDigit, UInt8.le_iff_toNat_le, asciiByte_toNat (show '0'.toNat < 0x80 by decide),
    asciiByte_toNat (show '9'.toNat < 0x80 by decide), asciiByte_toNat (show 'a'.toNat < 0x80 by decide),
    asciiByte_toNat (show 'f'.toNat < 0x80 by decide), asciiByte_toNat (show 'A'.toNat < 0x80 by decide),
    asciiByte_toNat (show 'F'.toNat < 0x80 by decide), codes]
  split at read
  · next within =>
      cases read
      rw [if_pos within]
      exact ⟨rfl, by omega⟩
  next noDecimal =>
  rw [if_neg noDecimal]
  split at read
  · next within =>
      cases read
      rw [if_pos within]
      exact ⟨rfl, by omega⟩
  next noLower =>
  rw [if_neg noLower]
  split at read
  · next within =>
      cases read
      rw [if_pos within]
      exact ⟨rfl, by omega⟩
  · cases read

/-- The digits that the loop of an escape takes. -/
theorem hexFrom_read {n cp value : Nat} {input rest : Bytes}
    (read : hexFrom n cp input = some (value, rest)) :
    ∃ (digits : Bytes) (values : List Nat), input = digits ++ rest ∧ values.length = n ∧
      (∀ digit ∈ values, digit < 16) ∧ digits.map jsonHexDigit = values.map some ∧
      value = values.foldl (fun cp digit => cp * 16 + digit) cp := by
  induction n generalizing cp input with
  | zero =>
      cases read
      exact ⟨[], [], rfl, rfl, fun _ member => absurd member List.not_mem_nil, rfl, rfl⟩
  | succ n ih =>
      cases input with
      | nil => cases read
      | cons b behind =>
          rw [hexFrom] at read
          split at read
          · cases read
          next digit found =>
          obtain ⟨known, small⟩ := hexDigit_read found
          obtain ⟨digits, values, rfl, count, each, spelled, total⟩ := ih read
          have joined : (cp <<< 4) ||| digit = cp * 16 + digit := by
            rw [← Nat.shiftLeft_add_eq_or_of_lt small, Nat.shiftLeft_eq]
          refine ⟨b :: digits, digit :: values, rfl, ?_, ?_, ?_, ?_⟩
          · rw [List.length_cons, count]
          · intro other member
            rcases List.mem_cons.mp member with rfl | later
            · exact small
            · exact each other later
          · rw [List.map_cons, known, spelled, List.map_cons]
          · rw [total, joined, List.foldl_cons]

theorem hex_read {value : Nat} {input rest : Bytes} (read : hex input = some (value, rest)) :
    ∃ digits, input = digits ++ rest ∧ HexUnit digits value ∧ value < 0x10000 := by
  obtain ⟨digits, values, split, count, each, spelled, total⟩ := hexFrom_read read
  obtain ⟨a, b, c, d, rfl⟩ : ∃ a b c d, values = [a, b, c, d] := by
    match values, count with
    | [a, b, c, d], _ => exact ⟨a, b, c, d, rfl⟩
  simp only [List.foldl_cons, List.foldl_nil, Nat.zero_mul, Nat.zero_add] at total
  simp only [List.mem_cons, List.not_mem_nil, or_false, forall_eq_or_imp, forall_eq] at each
  exact ⟨digits, split, ⟨a, b, c, d, spelled, total⟩, by omega⟩

/-- A continuation byte is one of the 64 that carry six bits. -/
theorem continuation_byte {b : UInt8} (tagged : b.toNat &&& 0xc0 = 0x80) :
    b.toNat = 0x80 + b.toNat % 64 ∧ b.toNat &&& 63 = b.toNat % 64 := by
  have bits : ∀ n < 256, n &&& 0xc0 = 0x80 → n = 0x80 + n % 64 := by decide +kernel
  exact ⟨bits _ b.toNat_lt tagged, and_63 _⟩

/-- The bytes that the loop of a code point takes, six bits each. -/
theorem continuation_read {count cp value : Nat} {input rest : Bytes}
    (read : continuation count cp input = some (value, rest)) :
    ∃ sixes : List Nat, sixes.length = count ∧ (∀ six ∈ sixes, six < 64) ∧
      input = sixes.map (fun six => UInt8.ofNat (six + 0x80)) ++ rest ∧
      value = sixes.foldl (fun cp six => cp * 64 + six) cp := by
  induction count generalizing cp input with
  | zero =>
      cases read
      exact ⟨[], rfl, fun _ member => absurd member List.not_mem_nil, rfl, rfl⟩
  | succ count ih =>
      cases input with
      | nil => cases read
      | cons b behind =>
          rw [continuation] at read
          split at read
          · cases read
          next tagged =>
          obtain ⟨code, payload⟩ := continuation_byte (not_not.mp tagged)
          have small : b.toNat % 64 < 64 := Nat.mod_lt _ (by decide)
          obtain ⟨sixes, length, each, rfl, total⟩ := ih read
          have joined : (cp <<< 6) ||| (b.toNat &&& 63) = cp * 64 + b.toNat % 64 := by
            rw [payload, ← Nat.shiftLeft_add_eq_or_of_lt small, Nat.shiftLeft_eq]
          have same : b = UInt8.ofNat (b.toNat % 64 + 0x80) := by
            rw [Nat.add_comm, ← code, UInt8.ofNat_toNat]
          refine ⟨b.toNat % 64 :: sixes, ?_, ?_, ?_, ?_⟩
          · rw [List.length_cons, length]
          · intro six member
            rcases List.mem_cons.mp member with rfl | later
            · exact small
            · exact each six later
          · rw [List.map_cons, ← same, List.cons_append]
          · rw [total, joined, List.foldl_cons]

theorem longCodepoint_read {count cp minimum value : Nat} {input rest : Bytes}
    (read : longCodepoint count cp minimum input = some (value, rest)) :
    continuation count cp input = some (value, rest) ∧ minimum ≤ value ∧ value ≤ 0x10ffff ∧
      value.isValidChar := by
  rw [longCodepoint] at read
  split at read
  · cases read
  next code behind continued =>
  split at read
  · next passes =>
      cases read
      simp only [Bool.and_eq_true, decide_eq_true_eq, Bool.not_eq_true', Bool.and_eq_false_iff,
        decide_eq_false_iff_not] at passes
      refine ⟨continued, passes.1.1, passes.1.2, ?_⟩
      rw [Nat.isValidChar]
      omega
  · cases read

/-- The code points that the parser reads are the characters of UTF-8. -/
theorem codepoint_read {value : Nat} {input rest : Bytes}
    (read : codepoint input = some (value, rest)) :
    ∃ c : Char, c.toNat = value ∧ input = String.utf8EncodeChar c ++ rest := by
  cases input with
  | nil => cases read
  | cons b behind =>
      have bound := b.toNat_lt
      have lead (n : Nat) (same : n = b.toNat) : b = UInt8.ofNat n := by
        rw [same, UInt8.ofNat_toNat]
      simp only [codepoint, Bool.and_eq_true, decide_eq_true_eq] at read
      split at read
      · next small =>
          cases read
          have code : (Char.ofNat b.toNat).toNat = b.toNat := toNat_charOf (.inl (by omega))
          refine ⟨Char.ofNat b.toNat, code, ?_⟩
          rw [utf8EncodeChar_ascii (by omega), asciiByte, code, UInt8.ofNat_toNat]
          rfl
      split at read
      · next within =>
          obtain ⟨continued, least, -, valid⟩ := longCodepoint_read read
          obtain ⟨sixes, length, each, split, total⟩ := continuation_read continued
          obtain ⟨one, rfl⟩ : ∃ one, sixes = [one] := List.length_eq_one_iff.mp length
          have small := each one List.mem_cons_self
          have code := toNat_charOf valid
          have five : b.toNat &&& 31 = b.toNat % 32 := Nat.and_two_pow_sub_one_eq_mod _ 5
          simp only [List.foldl_cons, List.foldl_nil, five] at total
          refine ⟨Char.ofNat value, code, ?_⟩
          have point : (Char.ofNat value).val.toNat = value := code
          rw [String.utf8EncodeChar, point, if_neg (by omega), if_pos (by omega), split,
            lead (value / 64 % 32 + 0xc0) (by omega)]
          have low : value % 64 = one := by omega
          rw [low]
          rfl
      split at read
      · next within =>
          obtain ⟨continued, least, -, valid⟩ := longCodepoint_read read
          obtain ⟨sixes, length, each, split, total⟩ := continuation_read continued
          obtain ⟨one, two, rfl⟩ : ∃ one two, sixes = [one, two] := List.length_eq_two.mp length
          have small := each one List.mem_cons_self
          have small' := each two (List.mem_cons_of_mem _ List.mem_cons_self)
          have code := toNat_charOf valid
          have four : b.toNat &&& 15 = b.toNat % 16 := Nat.and_two_pow_sub_one_eq_mod _ 4
          simp only [List.foldl_cons, List.foldl_nil, four] at total
          refine ⟨Char.ofNat value, code, ?_⟩
          have point : (Char.ofNat value).val.toNat = value := code
          rw [String.utf8EncodeChar, point, if_neg (by omega), if_neg (by omega), if_pos (by omega),
            split, lead (value / 4096 % 16 + 0xe0) (by omega)]
          have middle : value / 64 % 64 = one := by omega
          have low : value % 64 = two := by omega
          rw [middle, low]
          rfl
      split at read
      · next within =>
          obtain ⟨continued, least, most, valid⟩ := longCodepoint_read read
          obtain ⟨sixes, length, each, split, total⟩ := continuation_read continued
          obtain ⟨one, two, three, rfl⟩ : ∃ one two three, sixes = [one, two, three] :=
            List.length_eq_three.mp length
          have small := each one List.mem_cons_self
          have small' := each two (List.mem_cons_of_mem _ List.mem_cons_self)
          have small'' := each three
            (List.mem_cons_of_mem _ (List.mem_cons_of_mem _ List.mem_cons_self))
          have code := toNat_charOf valid
          have bits : b.toNat &&& 7 = b.toNat % 8 := Nat.and_two_pow_sub_one_eq_mod _ 3
          simp only [List.foldl_cons, List.foldl_nil, bits] at total
          refine ⟨Char.ofNat value, code, ?_⟩
          have point : (Char.ofNat value).val.toNat = value := code
          rw [String.utf8EncodeChar, point, if_neg (by omega), if_neg (by omega), if_neg (by omega),
            split, lead (value / 262144 % 8 + 0xf0) (by omega)]
          have high : value / 4096 % 64 = one := by omega
          have middle : value / 64 % 64 = two := by omega
          have low : value % 64 = three := by omega
          rw [high, middle, low]
          rfl
      · cases read

theorem joinSurrogates_valid {high low : Nat} (isHigh : isHighSurrogate high = true)
    (isLow : isLowSurrogate low = true) : (joinSurrogates high low).isValidChar := by
  simp only [isHighSurrogate, isLowSurrogate, Bool.and_eq_true, decide_eq_true_eq] at isHigh isLow
  rw [joinSurrogates_eq, Nat.isValidChar]
  omega

/-- What follows the `u` of an escape: four digits, or a pair of surrogates in four digits each. -/
theorem unicodeEscape_read {value : Nat} {input rest : Bytes}
    (read : unicodeEscape input = some (value, rest)) :
    ∃ (c : Char) (front : Bytes), c.toNat = value ∧ input = front ++ rest ∧
      JsonChar c (asciiByte '\\' :: asciiByte 'u' :: front) := by
  rw [unicodeEscape] at read
  split at read
  · cases read
  next first behind firstRead =>
  obtain ⟨digits, split, unit, small⟩ := hex_read firstRead
  split at read
  · next isHigh =>
      split at read
      · cases read
      next again =>
      split at read
      · cases read
      next low left secondRead =>
      obtain ⟨others, split', unit', -⟩ := hex_read secondRead
      split at read
      · cases read
      next isLow =>
      obtain ⟨rfl, rfl⟩ := Prod.mk.inj (Option.some.inj read)
      have isLow : isLowSurrogate low = true := by simpa using isLow
      have code := toNat_charOf (joinSurrogates_valid isHigh isLow)
      have marked : behind = asciiByte '\\' :: asciiByte 'u' :: (others ++ left) := by
        rw [← List.take_append_drop 2 behind, not_not.mp again, split']
        rfl
      refine ⟨_, digits ++ asciiByte '\\' :: asciiByte 'u' :: others, code, ?_,
        .pair unit unit' isHigh isLow code⟩
      rw [split, marked, List.append_assoc]
      rfl
  next notHigh =>
  split at read
  · cases read
  next notLow =>
  cases read
  have valid : value.isValidChar := by
    simp only [isHighSurrogate, isLowSurrogate, Bool.and_eq_true, decide_eq_true_eq] at notHigh notLow
    rw [Nat.isValidChar]
    omega
  have code := toNat_charOf valid
  exact ⟨_, digits, code, split, .unicode (code.symm ▸ unit)⟩

theorem scalar_read {b : UInt8} {value : Nat} {input rest : Bytes} (inside : b ≠ asciiByte '"')
    (printable : 0x20 ≤ value) (read : scalar (b :: input) = some (value, rest)) :
    ∃ (c : Char) (front : Bytes), c.toNat = value ∧ b :: input = front ++ rest ∧
      JsonChar c front := by
  rw [scalar] at read
  split at read
  · next backslash =>
      subst backslash
      cases input with
      | nil => cases read
      | cons letter behind =>
          rw [escape] at read
          split at read
          · next named =>
              cases read
              simp only [Bool.or_eq_true, decide_eq_true_eq] at named
              rcases named with (rfl | rfl) | rfl
              · exact ⟨'"', [asciiByte '\\', asciiByte '"'], rfl, rfl, .escaped (by decide)⟩
              · exact ⟨'\\', [asciiByte '\\', asciiByte '\\'], rfl, rfl, .escaped (by decide)⟩
              · exact ⟨'/', [asciiByte '\\', asciiByte '/'], rfl, rfl, .escaped (by decide)⟩
          split at read
          · next isUnicode =>
              subst isUnicode
              obtain ⟨c, front, code, split, written⟩ := unicodeEscape_read read
              exact ⟨c, _, code, by rw [split]; rfl, written⟩
          · cases read
  · next noBackslash =>
      obtain ⟨c, code, split⟩ := codepoint_read read
      -- a character that is a quote or a backslash would be spelled by that byte
      have apart {d : Char} (small : d.toNat < 0x80) (other : b ≠ asciiByte d) : c ≠ d := by
        rintro rfl
        rw [utf8EncodeChar_ascii small] at split
        exact other (List.cons_eq_cons.mp split).1
      exact ⟨c, _, code, split, .plain (code.symm ▸ printable) (apart (by decide) inside)
        (apart (by decide) noBackslash)⟩

end Parser

/-- The wide units of a text. -/
def textUnits (width : WCharWidth) (text : List Char) : WString width :=
  text.flatMap fun c => scalarUnits width c.toNat

/-- The token denotes the wide string. -/
def Denotes (token : Bytes) (value : WString width) : Prop :=
  ∃ text, JsonString text token ∧ value = textUnits width text

namespace Parser

theorem stringFrom_read {limit units : Nat} {ascii : Bool} {input rest : Bytes}
    {out value : WString width}
    (read : stringFrom width limit ascii input units out = some (value, rest)) :
    ∃ text token, JsonString text token ∧ input = token ++ asciiByte '"' :: rest ∧
      value = out ++ textUnits width text ∧ (ascii = true → ∀ c ∈ text, c.toNat < 0x7f) := by
  induction input, units, out using stringFrom.induct width limit ascii with
  | case1 =>
      rw [stringFrom] at read
      cases read
  | case2 =>
      rw [stringFrom_quote] at read
      cases read
      exact ⟨[], [], .nil, rfl, (List.append_nil _).symm, fun _ _ member => absurd member List.not_mem_nil⟩
  | case3 units out b behind inside stuck =>
      rw [stringFrom_stuck inside stuck] at read
      cases read
  | case4 units out b behind inside cp left scanned forbidden =>
      rw [stringFrom_scalar inside scanned, if_pos forbidden] at read
      cases read
  | case5 units out b behind inside cp left scanned allowed long =>
      rw [stringFrom_scalar inside scanned, if_neg allowed, if_pos long] at read
      cases read
  | case6 units out b behind inside cp left scanned allowed fits ih =>
      rw [stringFrom_scalar inside scanned, if_neg allowed, if_neg fits] at read
      obtain ⟨text, token, spelled, rfl, total, small⟩ := ih read
      simp only [refused, Bool.or_eq_true, Bool.and_eq_true, decide_eq_true_eq, not_or] at allowed
      obtain ⟨c, front, rfl, split, written⟩ :=
        scalar_read inside (Nat.not_lt.mp allowed.1.1) scanned
      refine ⟨c :: text, front ++ token, .cons written spelled, ?_, ?_, ?_⟩
      · rw [split, List.append_assoc]
      · rw [total, textUnits, textUnits, List.flatMap_cons, List.append_assoc]
      · intro isAscii other member
        rcases List.mem_cons.mp member with rfl | later
        · exact Nat.lt_of_not_le fun large => allowed.2 ⟨isAscii, large⟩
        · exact small isAscii other later

theorem string_read {limit : Nat} {ascii : Bool} {input rest : Bytes} {value : WString width}
    (read : string width limit ascii input = some (value, rest)) :
    ∃ text token, Blanks input (asciiByte '"' :: (token ++ asciiByte '"' :: rest)) ∧
      JsonString text token ∧ value = textUnits width text ∧
      (ascii = true → ∀ c ∈ text, c.toNat < 0x7f) := by
  rw [string] at read
  split at read
  · cases read
  next behind opened =>
  obtain ⟨text, token, spelled, rfl, total, small⟩ := stringFrom_read read
  exact ⟨text, token, take_read opened, spelled, total, small⟩

/-- The value of a member, a string. -/
theorem string_value {limit : Nat} {ascii : Bool} {input rest : Bytes} {value : WString width}
    (read : string width limit ascii input = some (value, rest)) :
    ∃ start token, Blanks input start ∧ Spells (.value (.string token)) start rest ∧
      Denotes token value := by
  obtain ⟨text, token, opened, spelled, total, -⟩ := string_read read
  exact ⟨_, token, opened, .string ⟨text, spelled⟩, text, spelled, total⟩

/-- A key that the parser takes for a literal of the source spells that literal. -/
theorem textUnits_key {text : List Char} {key : String} (small : ∀ c ∈ text, c.toNat < 0x7f)
    (ascii : ∀ c ∈ key.toList, c.toNat < 128) (same : textUnits width text = wideText width key) :
    text = key.toList := by
  have single : ∀ c ∈ text, scalarUnits width c.toNat = [wide width c] := by
    intro c member
    have bound := small c member
    rw [scalarUnits, if_neg (by omega)]
    rfl
  have back (letters : List Char) (small : ∀ c ∈ letters, c.toNat < 128) :
      (letters.map (wide width)).map (fun unit => Char.ofNat unit.toNat) = letters := by
    rw [List.map_map]
    refine (List.map_congr_left fun c member => ?_).trans (List.map_id letters)
    change Char.ofNat (wide width c).toNat = c
    rw [wide_toNat width (small c member), Char.ofNat_toNat]
  rw [textUnits, List.flatMap_congr single, ← List.map_eq_flatMap, wideText] at same
  rw [← back text fun c member => Nat.lt_succ_of_lt (small c member), same, back _ ascii]

theorem string_keyed {limit : Nat} {input rest : Bytes} {key : String}
    (ascii : ∀ c ∈ key.toList, c.toNat < 128)
    (read : string width limit true input = some (wideText width key, rest)) :
    ∃ token, Blanks input (asciiByte '"' :: (token ++ asciiByte '"' :: rest)) ∧
      JsonString key.toList token := by
  obtain ⟨text, token, opened, spelled, total, small⟩ := string_read read
  rw [textUnits_key (small rfl) ascii total.symm] at spelled
  exact ⟨token, opened, spelled⟩

section Loops

variable {σ α : Type}

/-- The turns of a loop that goes on behind a comma, with what each of them read. -/
inductive Listed (Turn : σ → α → σ → Bytes → Bytes → Prop) : σ → List α → σ → Bytes → Bytes → Prop
  | last {state after : σ} {x : α} {input rest : Bytes} (turn : Turn state x after input rest) :
      Listed Turn state [x] after input rest
  | next {state middle after : σ} {x : α} {xs : List α} {input behind more rest : Bytes}
      (turn : Turn state x middle input behind) (comma : Blanks behind (asciiByte ',' :: more))
      (others : Listed Turn middle xs after more rest) : Listed Turn state (x :: xs) after input rest

variable {Turn : σ → α → σ → Bytes → Bytes → Prop} {state after : σ} {xs : List α}
  {input rest : Bytes}

theorem whileComma_read {turn : σ → Bytes → Parsed σ} {shorter : Shortens turn}
    (sound : ∀ state input after rest, turn state input = some (after, rest) →
      ∃ x, Turn state x after input rest)
    (read : whileComma turn shorter state input = some (after, rest)) :
    ∃ xs, Listed Turn state xs after input rest := by
  induction state, input using whileComma.induct turn shorter with
  | case1 state input stuck =>
      rw [whileComma_stuck stuck] at read
      cases read
  | case2 state input next behind found last =>
      rw [whileComma_last found last] at read
      cases read
      obtain ⟨x, turned⟩ := sound _ _ _ _ found
      exact ⟨[x], .last turned⟩
  | case3 state input next behind found left more ih =>
      rw [whileComma_more found more] at read
      obtain ⟨x, turned⟩ := sound _ _ _ _ found
      obtain ⟨xs, others⟩ := ih read
      exact ⟨x :: xs, .next turned (take_read more) others⟩

/-- What one turn keeps, the loop keeps. -/
theorem Listed.kept (Keeps : σ → List α → Prop)
    (step : ∀ state x after input rest read, Turn state x after input rest → Keeps state read →
      Keeps after (read ++ [x]))
    (listed : Listed Turn state xs after input rest) {read : List α} (start : Keeps state read) :
    Keeps after (read ++ xs) := by
  induction listed generalizing read with
  | last turn => exact step _ _ _ _ _ _ turn start
  | next turn comma others ih =>
      have later := ih (step _ _ _ _ _ _ turn start)
      rwa [List.append_assoc] at later

theorem Listed.items (tree : α → JsonTree)
    (spells : ∀ state x after input rest, Turn state x after input rest →
      ∃ start, Blanks input start ∧ Spells (.value (tree x)) start rest)
    (listed : Listed Turn state xs after input rest) {behind : Bytes}
    (closed : Blanks rest (asciiByte ']' :: behind)) : Spells (.items (xs.map tree)) input behind := by
  induction listed with
  | last turn =>
      obtain ⟨start, blanks, item⟩ := spells _ _ _ _ _ turn
      exact .lastItem blanks item closed
  | next turn comma others ih =>
      obtain ⟨start, blanks, item⟩ := spells _ _ _ _ _ turn
      exact .nextItem blanks item comma (ih closed)

theorem Listed.members (entry : α → Bytes × JsonTree)
    (spells : ∀ state x after input rest, Turn state x after input rest →
      ∃ start, Blanks input start ∧ Spells (.member (entry x).1 (entry x).2) start rest)
    (listed : Listed Turn state xs after input rest) {behind : Bytes}
    (closed : Blanks rest (asciiByte '\x7d' :: behind)) :
    Spells (.members (xs.map entry)) input behind := by
  induction listed with
  | last turn =>
      obtain ⟨start, blanks, member⟩ := spells _ _ _ _ _ turn
      exact .lastMember blanks member closed
  | next turn comma others ih =>
      obtain ⟨start, blanks, member⟩ := spells _ _ _ _ _ turn
      exact .nextMember blanks member comma (ih closed)

end Loops

end Parser

/-! ## Keys that are read once -/

/-- The keys of an object, each with its text and a bit of its own. -/
class MemberKey (κ : Type) where
  text : κ → String
  bit : κ → Nat
  ascii : ∀ key, ∀ c ∈ (text key).toList, c.toNat < 128
  nonzero : ∀ key, bit key ≠ 0
  apart : ∀ key other, key ≠ other → bit key &&& bit other = 0

theorem ascii_of_all {text : String} (small : (text.toList.all fun c => c.toNat < 128) = true) :
    ∀ c ∈ text.toList, c.toNat < 128 := by
  intro c member
  exact of_decide_eq_true (List.all_eq_true.mp small c member)

namespace Parser

section Keys

variable {κ : Type} [MemberKey κ]

/-- The mask of the keys that were read. -/
def fieldBits (keys : List κ) : Nat := keys.foldl (fun fields key => fields ||| MemberKey.bit key) 0

theorem fieldBits_append (keys : List κ) (key : κ) :
    fieldBits (keys ++ [key]) = fieldBits keys ||| MemberKey.bit key := by
  rw [fieldBits, List.foldl_append]
  rfl

/-- The mask tells which keys were read. -/
theorem fieldBits_and [DecidableEq κ] (keys : List κ) (key : κ) :
    fieldBits keys &&& MemberKey.bit key = if key ∈ keys then MemberKey.bit key else 0 := by
  induction keys using List.reverseRecOn with
  | nil =>
      rw [if_neg List.not_mem_nil]
      exact Nat.zero_and _
  | append_singleton keys other ih =>
      rw [fieldBits_append, Nat.and_or_distrib_right, ih]
      by_cases same : other = key
      · subst same
        rw [Nat.and_self, if_pos (List.mem_append_right _ (List.mem_singleton_self _))]
        split
        · exact Nat.or_self _
        · exact Nat.zero_or _
      · rw [MemberKey.apart other key same, Nat.or_zero]
        simp only [List.mem_append, List.mem_singleton, Ne.symm same, or_false]

/-- A member as one turn of a loop read it. -/
structure Entry (κ : Type) where
  key : κ
  token : Bytes
  tree : JsonTree

/-- The pair that the member is in the text. -/
def Entry.row (entry : Entry κ) : Bytes × JsonTree := (entry.token, entry.tree)

/-- One turn of a loop over members: a key whose bit was not set, then its value. -/
structure KeyTurn (fields : Nat) (entry : Entry κ) (after : Nat) (input rest : Bytes) : Prop where
  spelled : ∃ start, Blanks input start ∧ Spells (.member entry.row.1 entry.row.2) start rest
  keyed : JsonString (MemberKey.text entry.key).toList entry.token
  fresh : fields &&& MemberKey.bit entry.key = 0
  marked : after = fields ||| MemberKey.bit entry.key

/-- The members that were read have different keys, which the mask holds. -/
structure KeysRead (fields : Nat) (entries : List (Entry κ)) : Prop where
  once : (entries.map Entry.key).Nodup
  marked : fields = fieldBits (entries.map Entry.key)
  keyed : ∀ entry ∈ entries, JsonString (MemberKey.text entry.key).toList entry.token

variable {fields after : Nat} {entry : Entry κ} {entries : List (Entry κ)} {input rest : Bytes}

theorem KeysRead.nil : KeysRead 0 ([] : List (Entry κ)) :=
  ⟨List.nodup_nil, rfl, fun _ member => absurd member List.not_mem_nil⟩

/-- A turn reads a key that no earlier one read. -/
theorem KeysRead.new [DecidableEq κ] (read : KeysRead fields entries)
    (turn : KeyTurn fields entry after input rest) : entry.key ∉ entries.map Entry.key := by
  intro member
  have fresh := turn.fresh
  rw [read.marked, fieldBits_and, if_pos member] at fresh
  exact MemberKey.nonzero entry.key fresh

theorem KeysRead.turn [DecidableEq κ] (read : KeysRead fields entries)
    (turn : KeyTurn fields entry after input rest) : KeysRead after (entries ++ [entry]) := by
  constructor
  · rw [List.map_append, List.nodup_append]
    refine ⟨read.once, List.nodup_singleton _, ?_⟩
    rintro key member other last rfl
    exact read.new turn (List.mem_singleton.mp last ▸ member)
  · rw [turn.marked, read.marked, List.map_append]
    exact (fieldBits_append _ _).symm
  · intro other member
    rcases List.mem_append.mp member with earlier | last
    · exact read.keyed other earlier
    · exact List.mem_singleton.mp last ▸ turn.keyed

omit [MemberKey κ] in
/-- Entries can be sorted as their keys can. -/
theorem perm_of_keys {keys : List κ} {entries : List (Entry κ)}
    (once : (entries.map Entry.key).Perm keys) :
    ∃ sorted, entries.Perm sorted ∧ sorted.map Entry.key = keys := by
  induction keys generalizing entries with
  | nil => exact ⟨entries, .refl _, once.eq_nil⟩
  | cons key keys ih =>
      obtain ⟨entry, member, rfl⟩ := List.mem_map.mp (once.mem_iff.mpr List.mem_cons_self)
      obtain ⟨front, rest, rfl⟩ := List.append_of_mem member
      have outside : (front ++ entry :: rest).Perm (entry :: (front ++ rest)) := List.perm_middle
      have others := (outside.map Entry.key).symm.trans once
      obtain ⟨sorted, order, same⟩ := ih ((List.perm_cons entry.key).mp others)
      exact ⟨entry :: sorted, outside.trans (order.cons entry), by rw [List.map_cons, same]⟩

/-- With all bits set every key was read. -/
theorem KeysRead.sorted [DecidableEq κ] (read : KeysRead fields entries) (all : List κ)
    (distinct : all.Nodup) (every : ∀ key, key ∈ all)
    (full : ∀ key : κ, fields &&& MemberKey.bit key ≠ 0) :
    ∃ sorted, entries.Perm sorted ∧ sorted.map Entry.key = all := by
  apply perm_of_keys
  rw [List.perm_ext_iff_of_nodup read.once distinct]
  intro key
  refine iff_of_true ?_ (every key)
  by_contra missing
  apply full key
  rw [read.marked, fieldBits_and, if_neg missing]

end Keys

end Parser

/-- The object lists the three members of a contact, in any order. -/
inductive ContactTree (draft : ContactDraft width) : JsonTree → Prop
  | object {members : List (Bytes × JsonTree)}
      {nameKey name destinationKey destination favoriteKey : Bytes}
      (listed : members.Perm [(nameKey, .string name), (destinationKey, .string destination),
        (favoriteKey, .word (asciiBytes (if draft.favorite then "true" else "false")))])
      (isName : JsonString "name".toList nameKey)
      (isDestination : JsonString "destination".toList destinationKey)
      (isFavorite : JsonString "favorite".toList favoriteKey)
      (named : Denotes name draft.name) (destined : Denotes destination draft.destination) :
      ContactTree draft (.object members)

/-- A list of drafts that a book takes. -/
structure Importable (ctype : WideCtype width) (drafts : List (ContactDraft width)) : Prop where
  few : drafts.length ≤ ContactBook.capacity
  valid : ∀ draft ∈ drafts, validDraft ctype draft = true
  distinct : drafts.Pairwise fun older newer => older.destination ≠ newer.destination

theorem Importable.nil (ctype : WideCtype width) : Importable ctype [] :=
  ⟨Nat.zero_le _, fun _ member => absurd member List.not_mem_nil, .nil⟩

/-- The keys of a contact. -/
inductive ContactKey where
  | name
  | destination
  | favorite
  deriving DecidableEq

instance : MemberKey ContactKey where
  text
    | .name => "name"
    | .destination => "destination"
    | .favorite => "favorite"
  bit
    | .name => 1
    | .destination => 2
    | .favorite => 4
  ascii key := ascii_of_all (by cases key <;> rfl)
  nonzero := by intro key; cases key <;> decide
  apart := by
    intro key other different
    cases key <;> cases other <;> first | rfl | exact absurd rfl different

/-- What the value of a member tells of a draft. -/
def ContactKey.Tells (draft : ContactDraft width) : ContactKey → JsonTree → Prop
  | .name, tree => ∃ token, tree = .string token ∧ Denotes token draft.name
  | .destination, tree => ∃ token, tree = .string token ∧ Denotes token draft.destination
  | .favorite, tree => tree = .word (asciiBytes (if draft.favorite then "true" else "false"))

/-- The drafts agree in what another key than this one tells. -/
def ContactKey.Frames (key : ContactKey) (draft after : ContactDraft width) : Prop :=
  ∀ other tree, other ≠ key → other.Tells draft tree → other.Tells after tree

namespace Parser

theorem contactBit_key {units : WString width} (known : contactBit units ≠ 0) :
    ∃ key : ContactKey, units = wideText width (MemberKey.text key) ∧
      contactBit units = MemberKey.bit key := by
  rw [contactBit] at known ⊢
  split at known
  · next isName => exact ⟨.name, isName, if_pos isName⟩
  next noName =>
  rw [if_neg noName]
  split at known
  · next isDestination => exact ⟨.destination, isDestination, if_pos isDestination⟩
  next noDestination =>
  rw [if_neg noDestination]
  split at known
  · next isFavorite => exact ⟨.favorite, isFavorite, if_pos isFavorite⟩
  · exact absurd rfl known

theorem literal_value {text : String} {input rest : Bytes} (known : JsonWord (asciiBytes text))
    (read : literal text input = some rest) :
    ∃ start, Blanks input start ∧ Spells (.value (.word (asciiBytes text))) start rest :=
  ⟨_, literal_read read, .word known⟩

theorem contactValue_read {key : ContactKey} {draft after : ContactDraft width} {input rest : Bytes}
    (read : contactValue (MemberKey.bit key) draft input = some (after, rest)) :
    ∃ start tree, Blanks input start ∧ Spells (.value tree) start rest ∧ key.Tells after tree ∧
      key.Frames draft after := by
  rw [contactValue] at read
  cases key with
  | name =>
      have here : MemberKey.bit ContactKey.name = 1 := rfl
      rw [if_pos here] at read
      split at read
      · cases read
      next found =>
      cases read
      obtain ⟨start, token, blanks, spelled, denotes⟩ := string_value found
      refine ⟨start, .string token, blanks, spelled, ⟨token, rfl, denotes⟩, ?_⟩
      intro other tree different told
      cases other with
      | name => exact absurd rfl different
      | destination | favorite => exact told
  | destination =>
      have here : MemberKey.bit ContactKey.destination = 2 := rfl
      rw [if_neg (by decide), if_pos here] at read
      split at read
      · cases read
      next found =>
      cases read
      obtain ⟨start, token, blanks, spelled, denotes⟩ := string_value found
      refine ⟨start, .string token, blanks, spelled, ⟨token, rfl, denotes⟩, ?_⟩
      intro other tree different told
      cases other with
      | destination => exact absurd rfl different
      | name | favorite => exact told
  | favorite =>
      have frames (flag : Bool) :
          ContactKey.favorite.Frames draft { draft with favorite := flag } := by
        intro other tree different told
        cases other with
        | favorite => exact absurd rfl different
        | name | destination => exact told
      rw [if_neg (by decide), if_neg (by decide)] at read
      split at read
      · next found =>
          cases read
          obtain ⟨start, blanks, spelled⟩ := literal_value .true found
          exact ⟨start, _, blanks, spelled, rfl, frames true⟩
      split at read
      · next found =>
          cases read
          obtain ⟨start, blanks, spelled⟩ := literal_value .false found
          exact ⟨start, _, blanks, spelled, rfl, frames false⟩
      · cases read

/-- One turn of the loop over the fields of a contact. -/
structure ContactTurn (state : DraftFields width) (entry : Entry ContactKey)
    (after : DraftFields width) (input rest : Bytes) : Prop where
  turn : KeyTurn state.fields entry after.fields input rest
  told : entry.key.Tells after.draft entry.tree
  frames : entry.key.Frames state.draft after.draft

theorem contactField_read {state after : DraftFields width} {input rest : Bytes}
    (read : contactField state input = some (after, rest)) :
    ∃ entry, ContactTurn state entry after input rest := by
  rw [contactField] at read
  split at read
  · cases read
  next units behind keyRead =>
  split at read
  · cases read
  next colon taken =>
  dsimp only at read
  split at read
  · cases read
  next allowed =>
  simp only [Bool.or_eq_true, decide_eq_true_eq, not_or, ne_eq, not_not] at allowed
  obtain ⟨key, rfl, marked⟩ := contactBit_key allowed.1
  rw [marked] at read allowed
  split at read
  · cases read
  next draft left valueRead =>
  cases read
  obtain ⟨token, opened, keyed⟩ := string_keyed (MemberKey.ascii key) keyRead
  obtain ⟨start, tree, blanks, spelled, told, frames⟩ := contactValue_read valueRead
  have turn : KeyTurn state.fields ⟨key, token, tree⟩ (state.fields ||| MemberKey.bit key) input rest :=
    ⟨⟨_, opened, .member ⟨_, keyed⟩ (take_read taken) blanks spelled⟩, keyed, allowed.2, rfl⟩
  exact ⟨⟨key, token, tree⟩, turn, told, frames⟩

/-- What the loop over the fields of a contact has read. -/
structure ContactRead (state : DraftFields width) (entries : List (Entry ContactKey)) : Prop where
  keys : KeysRead state.fields entries
  told : ∀ entry ∈ entries, entry.key.Tells state.draft entry.tree

theorem ContactRead.turn {state after : DraftFields width} {entries : List (Entry ContactKey)}
    {entry : Entry ContactKey} {input rest : Bytes} (turn : ContactTurn state entry after input rest)
    (read : ContactRead state entries) : ContactRead after (entries ++ [entry]) := by
  refine ⟨read.keys.turn turn.turn, ?_⟩
  intro other member
  rcases List.mem_append.mp member with earlier | last
  · apply turn.frames other.key other.tree _ (read.told other earlier)
    intro same
    exact read.keys.new turn.turn (same ▸ List.mem_map_of_mem earlier)
  · exact List.mem_singleton.mp last ▸ turn.told

/-- With all three fields read, the members are those of the contact. -/
theorem ContactRead.tree {state : DraftFields width} {entries : List (Entry ContactKey)}
    (read : ContactRead state entries) (complete : state.fields = 7) :
    ContactTree state.draft (.object (entries.map Entry.row)) := by
  have full : ∀ key : ContactKey, state.fields &&& MemberKey.bit key ≠ 0 := by
    rw [complete]
    intro key
    cases key <;> decide
  obtain ⟨sorted, order, keys⟩ := read.keys.sorted [.name, .destination, .favorite] (by decide)
    (by intro key; cases key <;> decide) full
  obtain ⟨name, destination, favorite, rfl⟩ : ∃ a b c, sorted = [a, b, c] :=
    List.length_eq_three.mp (by rw [← List.length_map Entry.key, keys]; rfl)
  obtain ⟨isName, isDestination, isFavorite, -⟩ : name.key = .name ∧
      destination.key = .destination ∧ favorite.key = .favorite ∧ True := by simpa using keys
  have among (entry : Entry ContactKey) (member : entry ∈ [name, destination, favorite]) :
      JsonString (MemberKey.text entry.key).toList entry.token ∧
        entry.key.Tells state.draft entry.tree :=
    ⟨read.keys.keyed entry (order.mem_iff.mpr member), read.told entry (order.mem_iff.mpr member)⟩
  obtain ⟨nameKeyed, nameTold⟩ := among name (by simp)
  obtain ⟨destinationKeyed, destinationTold⟩ := among destination (by simp)
  obtain ⟨favoriteKeyed, favoriteTold⟩ := among favorite (by simp)
  rw [isName] at nameKeyed nameTold
  rw [isDestination] at destinationKeyed destinationTold
  rw [isFavorite] at favoriteKeyed favoriteTold
  obtain ⟨nameToken, nameTree, named⟩ := nameTold
  obtain ⟨destinationToken, destinationTree, destined⟩ := destinationTold
  have favoriteTree : favorite.tree = _ := favoriteTold
  have rows := order.map Entry.row
  simp only [List.map_cons, List.map_nil, Entry.row, nameTree, destinationTree, favoriteTree] at rows
  exact .object rows nameKeyed destinationKeyed favoriteKeyed named destined

theorem contact_read {ctype : WideCtype width} {draft : ContactDraft width} {input rest : Bytes}
    (read : contact ctype input = some (draft, rest)) :
    ∃ start tree, Blanks input start ∧ Spells (.value tree) start rest ∧ ContactTree draft tree ∧
      validDraft ctype draft = true := by
  rw [contact] at read
  split at read
  · cases read
  next inner opened =>
  split at read
  · cases read
  next state behind fieldsRead =>
  split at read
  · cases read
  next left closed =>
  split at read
  · next checked =>
      cases read
      rw [Bool.and_eq_true, decide_eq_true_eq] at checked
      obtain ⟨complete, valid⟩ := checked
      obtain ⟨entries, listed⟩ := whileComma_read (fun _ _ _ _ => contactField_read) fieldsRead
      have start : ContactRead ({} : DraftFields width) [] :=
        ⟨.nil, fun _ member => absurd member List.not_mem_nil⟩
      have all := listed.kept ContactRead (fun _ _ _ _ _ _ turn => ContactRead.turn turn) start
      have members := listed.members Entry.row (fun _ _ _ _ _ turn => turn.turn.spelled)
        (take_read closed)
      exact ⟨_, _, take_read opened, .object members, all.tree complete, valid⟩
  · cases read

/-- One turn of the loop over the contacts. -/
structure NextTurn (ctype : WideCtype width) (out : List (ContactDraft width))
    (item : ContactDraft width × JsonTree) (after : List (ContactDraft width)) (input rest : Bytes) :
    Prop where
  spelled : ∃ start, Blanks input start ∧ Spells (.value item.2) start rest
  tree : ContactTree item.1 item.2
  appended : after = out ++ [item.1]
  keeps : Importable ctype out → Importable ctype after

theorem nextContact_read {ctype : WideCtype width} {out after : List (ContactDraft width)}
    {input rest : Bytes} (read : nextContact ctype out input = some (after, rest)) :
    ∃ item, NextTurn ctype out item after input rest := by
  rw [nextContact] at read
  split at read
  · cases read
  next room =>
  split at read
  · cases read
  next draft behind contactRead =>
  split at read
  · cases read
  next fresh =>
  cases read
  obtain ⟨start, tree, blanks, spelled, tells, valid⟩ := contact_read contactRead
  simp only [List.any_eq_true, decide_eq_true_eq, not_exists, not_and] at fresh
  refine ⟨(draft, tree), ⟨start, blanks, spelled⟩, tells, rfl, ?_⟩
  intro before
  refine ⟨?_, ?_, ?_⟩
  · rw [List.length_append, List.length_singleton]
    exact Nat.lt_of_le_of_ne before.few room
  · intro other member
    rcases List.mem_append.mp member with earlier | last
    · exact before.valid other earlier
    · exact List.mem_singleton.mp last ▸ valid
  · rw [List.pairwise_append]
    refine ⟨before.distinct, List.pairwise_singleton _ _, ?_⟩
    intro older earlier newer last
    exact List.mem_singleton.mp last ▸ fresh older earlier

/-- What the loop over the contacts has read from a list of drafts on. -/
structure NextRead (ctype : WideCtype width) (out after : List (ContactDraft width))
    (items : List (ContactDraft width × JsonTree)) : Prop where
  trees : ∀ item ∈ items, ContactTree item.1 item.2
  appended : after = out ++ items.map Prod.fst
  keeps : Importable ctype out → Importable ctype after

theorem contacts_read {ctype : WideCtype width} {out after : List (ContactDraft width)}
    {input rest : Bytes} (read : contacts ctype out input = some (after, rest)) :
    ∃ start items, Blanks input start ∧
      Spells (.value (.array (items.map Prod.snd))) start rest ∧ NextRead ctype out after items := by
  rw [contacts] at read
  split at read
  · cases read
  next inner opened =>
  split at read
  · next closed =>
      cases read
      exact ⟨_, [], take_read opened, .emptyArray (take_read closed),
        fun _ member => absurd member List.not_mem_nil, (List.append_nil _).symm, id⟩
  split at read
  · cases read
  next listRead =>
  split at read
  · cases read
  next left closed =>
  cases read
  obtain ⟨items, listed⟩ := whileComma_read (fun _ _ _ _ => nextContact_read) listRead
  have start : NextRead ctype out out [] :=
    ⟨fun _ member => absurd member List.not_mem_nil, (List.append_nil _).symm, id⟩
  have all : NextRead ctype out after ([] ++ items) := by
    apply listed.kept (NextRead ctype out) _ start
    intro state item next input rest read turn before
    refine ⟨?_, ?_, fun good => turn.keeps (before.keeps good)⟩
    · intro other member
      rcases List.mem_append.mp member with earlier | last
      · exact before.trees other earlier
      · exact List.mem_singleton.mp last ▸ turn.tree
    · rw [turn.appended, before.appended, List.map_append, List.append_assoc]
      rfl
  exact ⟨_, items, take_read opened,
    .array (listed.items Prod.snd (fun _ _ _ _ _ turn => turn.spelled) (take_read closed)), all⟩

end Parser

/-! ## Documents -/

/-- The object lists a version and the contacts, in any order, and the contacts are the drafts. -/
inductive BackupTree (drafts : List (ContactDraft width)) : JsonTree → Prop
  | object {members : List (Bytes × JsonTree)} {versionKey contactsKey : Bytes}
      {items : List JsonTree}
      (listed : members.Perm [(versionKey, .word (asciiBytes "1")), (contactsKey, .array items)])
      (isVersion : JsonString "version".toList versionKey)
      (isContacts : JsonString "contacts".toList contactsKey)
      (contacts : List.Forall₂ ContactTree drafts items) : BackupTree drafts (.object members)

/-- The keys of a document. -/
inductive DocumentKey where
  | version
  | contacts
  deriving DecidableEq

instance : MemberKey DocumentKey where
  text
    | .version => "version"
    | .contacts => "contacts"
  bit
    | .version => 1
    | .contacts => 2
  ascii key := ascii_of_all (by cases key <;> rfl)
  nonzero := by intro key; cases key <;> decide
  apart := by
    intro key other different
    cases key <;> cases other <;> first | rfl | exact absurd rfl different

/-- What the value of a member tells of the contacts. -/
def DocumentKey.Tells (drafts : List (ContactDraft width)) : DocumentKey → JsonTree → Prop
  | .version, tree => tree = .word (asciiBytes "1")
  | .contacts, tree => ∃ items, tree = .array items ∧ List.Forall₂ ContactTree drafts items

namespace Parser

theorem documentBit_key {units : WString width} (known : documentBit units ≠ 0) :
    ∃ key : DocumentKey, units = wideText width (MemberKey.text key) ∧
      documentBit units = MemberKey.bit key := by
  rw [documentBit] at known ⊢
  split at known
  · next isVersion => exact ⟨.version, isVersion, if_pos isVersion⟩
  next noVersion =>
  rw [if_neg noVersion]
  split at known
  · next isContacts => exact ⟨.contacts, isContacts, if_pos isContacts⟩
  · exact absurd rfl known

theorem jsonNumber_one : JsonNumber (asciiBytes "1") := by
  have digits : JsonDigits (asciiBytes "1") := ⟨by decide, by decide +kernel⟩
  exact ⟨[], asciiBytes "1", [], [], rfl, .inl rfl, ⟨digits, by decide⟩, .inl rfl, .inl rfl⟩

/-- One turn of the loop over the fields of the document. -/
structure DocumentTurn (ctype : WideCtype width) (state : DocumentFields width)
    (entry : Entry DocumentKey) (after : DocumentFields width) (input rest : Bytes) : Prop where
  turn : KeyTurn state.fields entry after.fields input rest
  version : entry.key = .version → after.out = state.out
  told : (entry.key = .contacts → state.out = []) → entry.key.Tells after.out entry.tree
  keeps : Importable ctype state.out → Importable ctype after.out

theorem NextRead.forall₂ {ctype : WideCtype width} {out after : List (ContactDraft width)}
    {items : List (ContactDraft width × JsonTree)} (read : NextRead ctype out after items)
    (first : out = []) : List.Forall₂ ContactTree after (items.map Prod.snd) := by
  rw [read.appended, first, List.nil_append, List.forall₂_map_left_iff, List.forall₂_map_right_iff,
    List.forall₂_same]
  exact read.trees

theorem documentField_read {ctype : WideCtype width} {state after : DocumentFields width}
    {input rest : Bytes} (read : documentField ctype state input = some (after, rest)) :
    ∃ entry, DocumentTurn ctype state entry after input rest := by
  rw [documentField] at read
  split at read
  · cases read
  next units behind keyRead =>
  split at read
  · cases read
  next colon taken =>
  dsimp only at read
  split at read
  · cases read
  next allowed =>
  simp only [Bool.or_eq_true, decide_eq_true_eq, not_or, ne_eq, not_not] at allowed
  obtain ⟨key, rfl, marked⟩ := documentBit_key allowed.1
  rw [marked] at read allowed
  obtain ⟨token, opened, keyed⟩ := string_keyed (MemberKey.ascii key) keyRead
  have turn {start : Bytes} {tree : JsonTree} (blanks : Blanks colon start)
      (spelled : Spells (.value tree) start rest) :
      KeyTurn state.fields ⟨key, token, tree⟩ (state.fields ||| MemberKey.bit key) input rest :=
    ⟨⟨_, opened, .member ⟨_, keyed⟩ (take_read taken) blanks spelled⟩, keyed, allowed.2, rfl⟩
  split at read
  · next isVersion =>
      split at read
      · cases read
      next left valueRead =>
      cases read
      obtain ⟨start, blanks, spelled⟩ := literal_value (.number jsonNumber_one) valueRead
      refine ⟨⟨key, token, _⟩, turn blanks spelled, fun _ => rfl, ?_, id⟩
      intro _
      cases key with
      | version => rfl
      | contacts => cases isVersion
  · next noVersion =>
      split at read
      · cases read
      next out left valueRead =>
      cases read
      obtain ⟨start, items, blanks, spelled, next⟩ := contacts_read valueRead
      refine ⟨⟨key, token, _⟩, turn blanks spelled, ?_, ?_, next.keeps⟩
      · rintro rfl
        exact absurd rfl noVersion
      · intro first
        cases key with
        | version => exact absurd rfl noVersion
        | contacts => exact ⟨_, rfl, next.forall₂ (first rfl)⟩

/-- What the loop over the fields of the document has read. -/
structure DocumentRead (ctype : WideCtype width) (state : DocumentFields width)
    (entries : List (Entry DocumentKey)) : Prop where
  keys : KeysRead state.fields entries
  told : ∀ entry ∈ entries, entry.key.Tells state.out entry.tree
  unread : .contacts ∉ entries.map Entry.key → state.out = []
  importable : Importable ctype state.out

theorem DocumentRead.turn {ctype : WideCtype width} {state after : DocumentFields width}
    {entries : List (Entry DocumentKey)} {entry : Entry DocumentKey} {input rest : Bytes}
    (turn : DocumentTurn ctype state entry after input rest)
    (read : DocumentRead ctype state entries) : DocumentRead ctype after (entries ++ [entry]) := by
  have new := read.keys.new turn.turn
  refine ⟨read.keys.turn turn.turn, ?_, ?_, turn.keeps read.importable⟩
  · intro other member
    rcases List.mem_append.mp member with earlier | last
    · have before := read.told other earlier
      have different : other.key ≠ entry.key := fun same => new (same ▸ List.mem_map_of_mem earlier)
      cases key : other.key with
      | version =>
          rw [key] at before
          exact before
      | contacts =>
          -- the one turn that reads contacts was this earlier one
          have isVersion : entry.key = .version := by
            cases mine : entry.key with
            | version => rfl
            | contacts => exact absurd (key.trans mine.symm) different
          rw [turn.version isVersion, ← key]
          exact before
    · rw [List.mem_singleton.mp last]
      exact turn.told fun isContacts => read.unread (isContacts ▸ new)
  · intro unread
    rw [List.map_append, List.mem_append, not_or] at unread
    have isVersion : entry.key = .version := by
      cases mine : entry.key with
      | version => rfl
      | contacts =>
          rw [List.map_singleton, mine] at unread
          exact absurd (List.mem_singleton_self _) unread.2
    rw [turn.version isVersion]
    exact read.unread unread.1

/-- With both fields read, the members are those of the document. -/
theorem DocumentRead.tree {ctype : WideCtype width} {state : DocumentFields width}
    {entries : List (Entry DocumentKey)} (read : DocumentRead ctype state entries)
    (complete : state.fields = 3) : BackupTree state.out (.object (entries.map Entry.row)) := by
  have full : ∀ key : DocumentKey, state.fields &&& MemberKey.bit key ≠ 0 := by
    rw [complete]
    intro key
    cases key <;> decide
  obtain ⟨sorted, order, keys⟩ := read.keys.sorted [.version, .contacts] (by decide)
    (by intro key; cases key <;> decide) full
  obtain ⟨version, contacts, rfl⟩ : ∃ a b, sorted = [a, b] :=
    List.length_eq_two.mp (by rw [← List.length_map Entry.key, keys]; rfl)
  obtain ⟨isVersion, isContacts, -⟩ : version.key = .version ∧ contacts.key = .contacts ∧ True := by
    simpa using keys
  have among (entry : Entry DocumentKey) (member : entry ∈ [version, contacts]) :
      JsonString (MemberKey.text entry.key).toList entry.token ∧
        entry.key.Tells state.out entry.tree :=
    ⟨read.keys.keyed entry (order.mem_iff.mpr member), read.told entry (order.mem_iff.mpr member)⟩
  obtain ⟨versionKeyed, versionTold⟩ := among version (by simp)
  obtain ⟨contactsKeyed, contactsTold⟩ := among contacts (by simp)
  rw [isVersion] at versionKeyed versionTold
  rw [isContacts] at contactsKeyed contactsTold
  have versionTree : version.tree = _ := versionTold
  obtain ⟨items, contactsTree, listedContacts⟩ := contactsTold
  have rows := order.map Entry.row
  simp only [List.map_cons, List.map_nil, Entry.row, versionTree, contactsTree] at rows
  exact .object rows versionKeyed contactsKeyed listedContacts

theorem parse_read {ctype : WideCtype width} {input : Bytes} {drafts : List (ContactDraft width)}
    (read : parse ctype input = some drafts) :
    ∃ tree, JsonText tree input ∧ BackupTree drafts tree ∧ Importable ctype drafts := by
  rw [parse] at read
  split at read
  · cases read
  next inner opened =>
  split at read
  · cases read
  next state behind fieldsRead =>
  split at read
  · cases read
  next left closed =>
  split at read
  · cases read
  next complete =>
  split at read
  · next done =>
      cases read
      obtain ⟨entries, listed⟩ := whileComma_read (fun _ _ _ _ => documentField_read) fieldsRead
      have start : DocumentRead ctype ({} : DocumentFields width) [] :=
        ⟨.nil, fun _ member => absurd member List.not_mem_nil, fun _ => rfl, .nil ctype⟩
      have all := listed.kept (DocumentRead ctype) (fun _ _ _ _ _ _ turn => DocumentRead.turn turn) start
      have members := listed.members Entry.row (fun _ _ _ _ _ turn => turn.turn.spelled)
        (take_read closed)
      exact ⟨_, ⟨_, _, take_read opened, .object members, space_nil done⟩,
        all.tree (not_not.mp complete), all.importable⟩
  · cases read

end Parser

/-- What a backup has to be for the decoder to return these drafts. -/
structure BackupOf (ctype : WideCtype width) (bytes : Bytes) (drafts : List (ContactDraft width)) :
    Prop where
  small : bytes.length ≤ contactBackupLimit
  utf8 : IsUtf8 bytes
  text : ∃ tree, JsonText tree bytes ∧ BackupTree drafts tree
  importable : Importable ctype drafts

theorem decode_backupOf {ctype : WideCtype width} {bytes : Bytes}
    {drafts : List (ContactDraft width)} (decoded : decodeContactBackup ctype bytes = some drafts) :
    BackupOf ctype bytes drafts := by
  rw [decodeContactBackup] at decoded
  split at decoded
  · cases decoded
  next small =>
  obtain ⟨tree, text, backup, importable⟩ := Parser.parse_read decoded
  exact ⟨Nat.not_lt.mp small, text.utf8, ⟨tree, text, backup⟩, importable⟩

theorem added_wellFormed (ctype : WideCtype width) {book : ContactBook width}
    (wellFormed : book.WellFormed ctype) (drafts : List (ContactDraft width)) :
    (finalState (addStep ctype) book drafts).WellFormed ctype := by
  induction drafts generalizing book with
  | nil => exact wellFormed
  | cons draft later ih =>
      rw [finalState_cons]
      exact ih (wellFormed.add draft)

/-- Importable drafts are all added to an empty book, which is backed up as these drafts. -/
theorem Importable.imported {ctype : WideCtype width} {drafts : List (ContactDraft width)}
    (importable : Importable ctype drafts) :
    outputs (addStep ctype) {} drafts = drafts.map (fun _ => .ok) ∧
      ∃ encoded, encodeContactBackup ctype (finalState (addStep ctype) {} drafts) = some encoded ∧
        decodeContactBackup ctype encoded = some drafts := by
  obtain ⟨answers, contents⟩ := adds_ok {} importable.valid importable.distinct
    (fun _ _ _ member => absurd member List.not_mem_nil)
    (by rw [List.length_nil, Nat.zero_add]; exact importable.few) rfl
  refine ⟨answers, ?_⟩
  obtain ⟨encoded, written, -, decoded⟩ :=
    (added_wellFormed ctype ContactBook.wellFormed_empty drafts).decode
  rw [contents, List.map_nil, List.nil_append] at decoded
  exact ⟨encoded, written, decoded⟩

/--
Drafts come out of bytes only if these are the JSON text of a backup of them that
a book can import as a whole; and the book that imported them is backed up as them.
-/
theorem decoded_backup_importable (ctype : WideCtype width) {bytes : Bytes}
    {drafts : List (ContactDraft width)} (decoded : decodeContactBackup ctype bytes = some drafts) :
    BackupOf ctype bytes drafts ∧
      outputs (addStep ctype) {} drafts = drafts.map (fun _ => .ok) ∧
      ∃ encoded, encodeContactBackup ctype (finalState (addStep ctype) {} drafts) = some encoded ∧
        decodeContactBackup ctype encoded = some drafts := by
  have backup := decode_backupOf decoded
  exact ⟨backup, backup.importable.imported⟩

/-- A backup of one contact, with escapes in its name. -/
def oneContactBackup : Bytes :=
  asciiBytes ("\x7b\"version\":1,\"contacts\":[\x7b\"name\":\"Ada \\\"A\\\"\"," ++
    "\"destination\":\"1001\",\"favorite\":true\x7d]\x7d")

def oneContact : Contact .utf16 := ⟨1, wideText .utf16 "Ada \"A\"", wideText .utf16 "1001", true⟩

theorem oneContactBackup_decoded :
    decodeContactBackup (.ascii .utf16) oneContactBackup = some [oneContact.draft] := by
  have valid : ∀ contact ∈ [oneContact], validDraft (.ascii .utf16) contact.draft = true := by
    decide
  have written : oneContactBackup = asciiBytes "\x7b\"version\":1,\"contacts\":[" ++
      Parser.encodedContacts [oneContact] true ++ asciiBytes "]\x7d" := by
    decide
  have small : ¬ oneContactBackup.length > contactBackupLimit := by decide
  rw [decodeContactBackup, if_neg small, written]
  exact Parser.parse_encoded valid (by decide) (List.pairwise_singleton ..)

theorem decoded_backup_importable_oneContact :
    BackupOf (.ascii .utf16) oneContactBackup [oneContact.draft] ∧
      outputs (addStep (.ascii .utf16)) {} [oneContact.draft] = [.ok] ∧
      ∃ encoded,
        encodeContactBackup (.ascii .utf16) (finalState (addStep (.ascii .utf16)) {}
          [oneContact.draft]) = some encoded ∧
        decodeContactBackup (.ascii .utf16) encoded = some [oneContact.draft] :=
  decoded_backup_importable (.ascii .utf16) oneContactBackup_decoded

end AxeVoice.Contacts
