import AxeVoice.Cti.CallBody

/-!
# The click-to-call link

A browser link asks for a call with the destination percent-encoded in its query.
However much of the destination is encoded, the link asks for the call that the
body with the destination in plain asks for.
-/

namespace AxeVoice.Cti

open Foundation Sip

variable {width : WCharWidth}

def clickToCallPrefix (width : WCharWidth) : WString width :=
  wideText width "axvoice://call?destination="

/-- `hex`: the value of a digit; `none` is its -1. -/
def hexValue (unit : WChar width) : Option Nat :=
  if unit.within '0' '9' then some (unit.toNat - '0'.toNat)
  else if unit.within 'a' 'f' then some (unit.toNat - 'a'.toNat + 10)
  else if unit.within 'A' 'F' then some (unit.toNat - 'A'.toNat + 10)
  else none

/-- The characters that the query may hold in encoded form only. -/
def forbiddenRaw (unit : WChar width) : Bool :=
  unit = wide width '?' || unit = wide width '&' || unit = wide width '#' || unit = wide width '\\'

/-- The check on a character, encoded or not, before it is taken. -/
def admitted (value : WString width) (unit : WChar width) : Bool :=
  !(unit.toNat < 0x21 || unit.toNat > 0x7e || unit = wide width '\\' || value.length ≥ 128)

/-- The loop over the query. -/
def decodeFrom (value : WString width) : WString width → Option (WString width)
  | [] => some value
  | unit :: rest =>
      if unit = wide width '%' then
        match rest with
        | high :: low :: rest =>
            match hexValue high, hexValue low with
            | some hi, some lo =>
                let decoded : WChar width := BitVec.ofNat width.bits ((hi <<< 4) ||| lo)
                if admitted value decoded then decodeFrom (value ++ [decoded]) rest else none
            | _, _ => none
        | _ => none
      else if forbiddenRaw unit then none
      else if admitted value unit then decodeFrom (value ++ [unit]) rest
      else none

def parseAxvoiceClickToCallUri (ctype : WideCtype width) (uri : WString width) :
    Option (WString width) :=
  if uri.length ≤ (clickToCallPrefix width).length || uri.length > 512 ||
      uri.take (clickToCallPrefix width).length ≠ clickToCallPrefix width then
    none
  else do
    let value ← decodeFrom [] (uri.drop (clickToCallPrefix width).length)
    normalizedDestination ctype value

/-- A text with some of its characters percent-encoded, those among them that have to be. -/
inductive PercentEncoded : WString width → WString width → Prop
  | nil : PercentEncoded [] []
  | raw {unit : WChar width} {text encoded : WString width} (allowed : forbiddenRaw unit = false)
      (noPercent : unit ≠ wide width '%') (rest : PercentEncoded text encoded) :
      PercentEncoded (unit :: text) (unit :: encoded)
  | escaped {unit high low : WChar width} {hi lo : Nat} {text encoded : WString width}
      (highDigit : hexValue high = some hi) (lowDigit : hexValue low = some lo)
      (code : unit.toNat = hi * 16 + lo) (rest : PercentEncoded text encoded) :
      PercentEncoded (unit :: text) (wide width '%' :: high :: low :: encoded)

/-- The characters of a destination that both entries may be given in plain. -/
structure PlainDestination (destination : Bytes) : Prop where
  short : destination.length ≤ 128
  each : ∀ byte ∈ destination, DestinationByte byte

theorem hexValue_lt {unit : WChar width} {value : Nat} (digit : hexValue unit = some value) :
    value < 16 := by
  simp only [hexValue] at digit
  split at digit
  · next within =>
      cases digit
      have bounds := within_iff.mp within
      have zero : '0'.toNat = 48 := rfl
      have nine : '9'.toNat = 57 := rfl
      omega
  split at digit
  · next within =>
      cases digit
      have bounds := within_iff.mp within
      have first : 'a'.toNat = 97 := rfl
      have last : 'f'.toNat = 102 := rfl
      omega
  split at digit
  · next within =>
      cases digit
      have bounds := within_iff.mp within
      have first : 'A'.toNat = 65 := rfl
      have last : 'F'.toNat = 70 := rfl
      omega
  · cases digit

/-- The character whose code the two digits spell. -/
theorem decoded_unit {unit : WChar width} {hi lo : Nat} (small : lo < 16)
    (code : unit.toNat = hi * 16 + lo) : BitVec.ofNat width.bits ((hi <<< 4) ||| lo) = unit := by
  have joined : (hi <<< 4) ||| lo = hi * 16 + lo := by
    rw [← Nat.shiftLeft_add_eq_or_of_lt small, Nat.shiftLeft_eq]
  rw [joined, ← code, BitVec.ofNat_toNat, BitVec.setWidth_eq]

theorem admitted_widen {byte : UInt8} (inside : DestinationByte byte) {value : WString width}
    (room : value.length < 128) : admitted value (widenByte width byte) = true := by
  have code : (widenByte width byte).toNat = byte.toNat := widenByte_toNat byte
  have backslash : widenByte width byte ≠ wide width '\\' := by
    rw [Ne, eq_wide_iff (by decide), code]
    intro same
    apply inside.noBackslash
    apply UInt8.toNat_inj.mp
    rw [same, asciiByte_toNat (by decide)]
  have low := inside.printable.1
  have high := inside.printable.2
  simp only [admitted, code, backslash, decide_false, Bool.or_false, Bool.not_eq_true',
    Bool.or_eq_false_iff, decide_eq_false_iff_not]
  omega

theorem decodeFrom_raw {unit : WChar width} (noPercent : unit ≠ wide width '%')
    (value rest : WString width) :
    decodeFrom value (unit :: rest) =
      if forbiddenRaw unit then none
      else if admitted value unit then decodeFrom (value ++ [unit]) rest
      else none := by
  rw [decodeFrom.eq_def]
  exact if_neg noPercent

/-- Behind what it has decoded the loop decodes any encoding of a destination. -/
theorem decodeFrom_encoded {destination : Bytes} {encoded value : WString width}
    (each : ∀ byte ∈ destination, DestinationByte byte)
    (encodes : PercentEncoded (widen width destination) encoded)
    (room : value.length + destination.length ≤ 128) :
    decodeFrom value encoded = some (value ++ widen width destination) := by
  induction destination generalizing encoded value with
  | nil =>
      cases encodes
      rw [decodeFrom, widen, List.map_nil, List.append_nil]
  | cons byte rest ih =>
      have here := each byte List.mem_cons_self
      rw [List.length_cons] at room
      have taken : admitted value (widenByte width byte) = true := admitted_widen here (by omega)
      have later {encoded : WString width} (tail : PercentEncoded (widen width rest) encoded) :
          decodeFrom (value ++ [widenByte width byte]) encoded =
            some (value ++ widen width (byte :: rest)) := by
        have longer : (value ++ [widenByte width byte]).length = value.length + 1 := by simp
        rw [ih (fun other member => each other (List.mem_cons_of_mem _ member)) tail (by omega)]
        simp [widen]
      cases encodes with
      | raw allowed noPercent tail =>
          rw [decodeFrom_raw noPercent, if_neg (by rw [allowed]; exact Bool.false_ne_true),
            if_pos taken]
          exact later tail
      | escaped highDigit lowDigit code tail =>
          have decoded := decoded_unit (hexValue_lt lowDigit) code
          rw [decodeFrom, if_pos rfl]
          simp only [highDigit, lowDigit, decoded]
          rw [if_pos taken]
          exact later tail

/-- The body with a destination in plain. -/
def plainBody (destination : Bytes) : Bytes :=
  asciiBytes "\x7b\"destination\":\"" ++ destination ++ asciiBytes "\"\x7d"

theorem parse_plainBody (ctype : WideCtype width) {destination : Bytes}
    (plain : PlainDestination destination) :
    parseCtiCallJson ctype (plainBody destination) =
      normalizedDestination ctype (widen width destination) := by
  have fits : (plainBody destination).length ≤ 512 := by
    have short := plain.short
    have front : (asciiBytes "\x7b\"destination\":\"").length = 16 := by decide
    have back : (asciiBytes "\"\x7d").length = 2 := by decide
    rw [plainBody, List.length_append, List.length_append, front, back]
    omega
  have spaced : SpacedBody [] destination (plainBody destination) := by
    refine ⟨fun _ member => absurd member List.not_mem_nil, _, _, _, _, asciiBytes "\x7d", [],
      .refl _, .refl _, .refl _, .refl _, rfl, .refl _, .refl _⟩
  exact parseCtiCallJson_spaced ctype fits spaced plain.short plain.each

theorem PercentEncoded.nil_iff {text encoded : WString width}
    (encodes : PercentEncoded text encoded) : encoded = [] ↔ text = [] := by
  cases encodes <;> simp

theorem parse_link (ctype : WideCtype width) {destination : Bytes} {encoded : WString width}
    (plain : PlainDestination destination)
    (encodes : PercentEncoded (widen width destination) encoded)
    (fits : (clickToCallPrefix width ++ encoded).length ≤ 512) :
    parseAxvoiceClickToCallUri ctype (clickToCallPrefix width ++ encoded) =
      normalizedDestination ctype (widen width destination) := by
  have begins : (clickToCallPrefix width ++ encoded).take (clickToCallPrefix width).length =
      clickToCallPrefix width := List.take_left
  have behind : (clickToCallPrefix width ++ encoded).drop (clickToCallPrefix width).length =
      encoded := List.drop_left
  by_cases empty : encoded = []
  · -- nothing is asked for: the link is too short, and there is no empty address
    have nothing := encodes.nil_iff.mp empty
    rw [nothing, empty, List.append_nil, parseAxvoiceClickToCallUri, if_pos (by simp)]
    rfl
  · have filled := List.length_pos_iff.mpr empty
    have guards : ¬ ((clickToCallPrefix width ++ encoded).length ≤ (clickToCallPrefix width).length ||
        (clickToCallPrefix width ++ encoded).length > 512 ||
        (clickToCallPrefix width ++ encoded).take (clickToCallPrefix width).length ≠
          clickToCallPrefix width) = true := by
      rw [begins]
      simp only [List.length_append] at fits ⊢
      simp only [ne_eq, not_true_eq_false, decide_false, Bool.or_false, Bool.or_eq_true,
        decide_eq_true_eq, not_or]
      omega
    have room : ([] : WString width).length + destination.length ≤ 128 := by
      simpa using plain.short
    rw [parseAxvoiceClickToCallUri, if_neg guards, behind,
      decodeFrom_encoded plain.each encodes room]
    rfl

/--
The link with a destination encoded in any way, and the body with it in plain,
ask for the same call, or are both refused.
-/
theorem link_agrees_with_body (ctype : WideCtype width) {destination : Bytes}
    {encoded : WString width} (plain : PlainDestination destination)
    (encodes : PercentEncoded (widen width destination) encoded)
    (fits : (clickToCallPrefix width ++ encoded).length ≤ 512) :
    parseAxvoiceClickToCallUri ctype (clickToCallPrefix width ++ encoded) =
      parseCtiCallJson ctype (plainBody destination) := by
  rw [parse_link ctype plain encodes fits, parse_plainBody ctype plain]

theorem link_agrees_with_body_hashEncoded :
    parseAxvoiceClickToCallUri (.ascii .utf16)
        (wideText .utf16 "axvoice://call?destination=1001%23") =
      parseCtiCallJson (.ascii .utf16) (asciiBytes "\x7b\"destination\":\"1001#\"\x7d") := by
  have plain : PlainDestination (asciiBytes "1001#") := by
    refine ⟨by decide, fun byte member => ?_⟩
    have bytes : ∀ byte ∈ asciiBytes "1001#", (0x21 ≤ byte.toNat ∧ byte.toNat ≤ 0x7e) ∧
        byte ≠ asciiByte '"' ∧ byte ≠ asciiByte '\\' := by decide +kernel
    exact ⟨(bytes byte member).1, (bytes byte member).2.1, (bytes byte member).2.2⟩
  have hash : PercentEncoded (widen .utf16 (asciiBytes "#")) (wideText .utf16 "%23") := by
    have high : hexValue (wide .utf16 '2') = some 2 := by decide
    have low : hexValue (wide .utf16 '3') = some 3 := by decide
    exact .escaped high low (by decide) .nil
  have encodes : PercentEncoded (widen .utf16 (asciiBytes "1001#")) (wideText .utf16 "1001%23") :=
    .raw (by decide) (by decide) (.raw (by decide) (by decide) (.raw (by decide) (by decide)
      (.raw (by decide) (by decide) hash)))
  exact link_agrees_with_body (.ascii .utf16) plain encodes (by decide)

end AxeVoice.Cti
