import AxeVoice.Cti.Contract
import AxeVoice.Foundation.Json

/-!
# The JSON form of a call request

The body of a call request is the JSON text of an object with the destination as
its only member.  The parser reads the tokens of such a text, except that it also
skips blanks between the member's name and the quote that ends it: exactly the
bodies with blanks put there are accepted beyond the JSON form.
-/

namespace AxeVoice.Cti

open Foundation Sip

variable {width : WCharWidth}

/-- The token of a destination that may be called, with the destination as it is dialed. -/
structure CallableToken (ctype : WideCtype width) (token : Bytes) (value : WString width) : Prop where
  short : token.length ≤ 128
  printable : ∀ byte ∈ token, 0x21 ≤ byte.toNat ∧ byte.toNat ≤ 0x7e
  escapeFree : asciiByte '\\' ∉ token
  accepted : (validateAddress ctype (widen width token)).valid = true
  fits : (validateAddress ctype (widen width token)).normalized.length ≤ 128
  normalized : value = (validateAddress ctype (widen width token)).normalized

/-- An object whose only member is named `destination` and has a callable string as its value. -/
def CallBody (ctype : WideCtype width) (body : Bytes) (value : WString width) : Prop :=
  ∃ token, JsonText (.object [(destinationKey, .string token)]) body ∧
    CallableToken ctype token value

/-- What an object is opened with whose first member's name begins with `destination`. -/
def NameOpening (opening : Bytes) : Prop :=
  ∃ inner, Blanks opening (asciiByte '\x7b' :: inner) ∧
    Blanks inner (asciiByte '"' :: destinationKey)

/-- A body of the form, with blanks put between its member's name and the closing quote. -/
def GappedBody (ctype : WideCtype width) (body : Bytes) : Prop :=
  ∃ opening gap rest value, body = opening ++ gap ++ rest ∧ NameOpening opening ∧ gap ≠ [] ∧
    (∀ byte ∈ gap, JsonBlank byte) ∧ CallBody ctype (opening ++ rest) value

theorem skip_blank_iff (byte : UInt8) :
    (byte = asciiByte ' ' || byte = asciiByte '\t' || byte = asciiByte '\r' ||
      byte = asciiByte '\n') = true ↔ JsonBlank byte := by
  simp only [JsonBlank, Bool.or_eq_true, decide_eq_true_eq, or_assoc]

theorem consume_iff {character : Char} (solid : ¬ JsonBlank (asciiByte character))
    {input rest : Bytes} :
    consume character input = some rest ↔ Blanks input (asciiByte character :: rest) := by
  rw [← dropWhile_blanks_iff skip_blank_iff solid]
  change consume character input = some rest ↔ skip input = asciiByte character :: rest
  rw [consume]
  cases skip input with
  | nil =>
      constructor
      · intro found
        cases found
      · intro same
        cases same
  | cons byte behind =>
      by_cases same : byte = asciiByte character
      · simp [same]
      · simp [same]

theorem skip_isEmpty_iff {input : Bytes} : (skip input).isEmpty = true ↔ Blanks input [] := by
  rw [List.isEmpty_iff, ← dropWhile_blanks_nil_iff skip_blank_iff]
  rfl

/-- The bytes that the loop over the destination takes. -/
structure DestinationByte (byte : UInt8) : Prop where
  printable : 0x21 ≤ byte.toNat ∧ byte.toNat ≤ 0x7e
  noQuote : byte ≠ asciiByte '"'
  noBackslash : byte ≠ asciiByte '\\'

theorem destinationByte_iff {byte : UInt8} (inside : byte ≠ asciiByte '"') :
    (byte ≤ 0x20 || byte ≥ 0x7f || byte = asciiByte '\\') = false ↔ DestinationByte byte := by
  have low : (0x20 : UInt8).toNat = 0x20 := rfl
  have high : (0x7f : UInt8).toNat = 0x7f := rfl
  simp only [Bool.or_eq_false_iff, decide_eq_false_iff_not, UInt8.le_iff_toNat_le, ge_iff_le, low,
    high]
  constructor
  · rintro ⟨⟨above, below⟩, plain⟩
    exact ⟨by omega, inside, plain⟩
  · rintro ⟨printable, -, plain⟩
    exact ⟨⟨by omega, by omega⟩, plain⟩

/-- Where the input does not begin with a quote, the token takes its first byte. -/
theorem token_takes {byte : UInt8} {behind token rest : Bytes} (inside : byte ≠ asciiByte '"')
    (split : byte :: behind = token ++ rest)
    (ends : rest = [] ∨ rest.head? = some (asciiByte '"')) :
    ∃ tail, token = byte :: tail ∧ behind = tail ++ rest := by
  cases token with
  | nil =>
      rw [List.nil_append] at split
      rw [← split] at ends
      rcases ends with empty | head
      · cases empty
      · exact absurd (Option.some.inj head) inside
  | cons head tail =>
      obtain ⟨rfl, rfl⟩ := List.cons_eq_cons.mp split
      exact ⟨tail, rfl, rfl⟩

/-- The loop takes a token of such bytes, up to a quote or the end. -/
theorem destinationFrom_iff {start destination : WString width} {input rest : Bytes}
    (room : start.length ≤ 128) :
    destinationFrom start input = some (destination, rest) ↔
      ∃ token, input = token ++ rest ∧ (rest = [] ∨ rest.head? = some (asciiByte '"')) ∧
        (∀ byte ∈ token, DestinationByte byte) ∧ start.length + token.length ≤ 128 ∧
        destination = start ++ widen width token := by
  induction input generalizing start with
  | nil =>
      rw [destinationFrom]
      constructor
      · rintro ⟨⟩
        exact ⟨[], rfl, .inl rfl, fun _ member => absurd member List.not_mem_nil, room,
          (List.append_nil _).symm⟩
      · rintro ⟨token, split, -, -, -, rfl⟩
        obtain ⟨rfl, rfl⟩ := List.append_eq_nil_iff.mp split.symm
        rw [widen, List.map_nil, List.append_nil]
  | cons byte behind ih =>
      rw [destinationFrom]
      by_cases quote : byte = asciiByte '"'
      · rw [if_pos quote]
        constructor
        · rintro ⟨⟩
          exact ⟨[], rfl, .inr (congrArg some quote), fun _ member => absurd member List.not_mem_nil,
            room, (List.append_nil _).symm⟩
        · rintro ⟨token, split, -, each, -, rfl⟩
          cases token with
          | nil =>
              rw [widen, List.map_nil, List.append_nil, split]
              rfl
          | cons head tail =>
              obtain ⟨rfl, -⟩ := List.cons_eq_cons.mp split
              exact absurd quote (each byte List.mem_cons_self).noQuote
      · rw [if_neg quote]
        by_cases taken : DestinationByte byte ∧ start.length < 128
        · have goes : ¬ (byte ≤ 0x20 || byte ≥ 0x7f || byte = asciiByte '\\' ||
              start.length ≥ 128) = true := by
            rw [Bool.not_eq_true, Bool.or_eq_false_iff, destinationByte_iff quote]
            exact ⟨taken.1, decide_eq_false (Nat.not_le.mpr taken.2)⟩
          have longer : (start ++ [widenByte width byte]).length = start.length + 1 := by simp
          rw [if_neg goes, ih (by omega), longer]
          constructor
          · rintro ⟨token, rfl, ends, each, fits, rfl⟩
            refine ⟨byte :: token, rfl, ends, ?_, by rw [List.length_cons]; omega, by simp [widen]⟩
            intro other member
            rcases List.mem_cons.mp member with rfl | later
            · exact taken.1
            · exact each other later
          · rintro ⟨token, split, ends, each, fits, rfl⟩
            obtain ⟨tail, rfl, rfl⟩ := token_takes quote split ends
            rw [List.length_cons] at fits
            exact ⟨tail, rfl, ends, fun other member => each other (List.mem_cons_of_mem _ member),
              by omega, by simp [widen]⟩
        · have stops : (byte ≤ 0x20 || byte ≥ 0x7f || byte = asciiByte '\\' ||
              start.length ≥ 128) = true := by
            by_contra goes
            rw [Bool.not_eq_true, Bool.or_eq_false_iff, destinationByte_iff quote,
              decide_eq_false_iff_not] at goes
            exact taken ⟨goes.1, Nat.not_le.mp goes.2⟩
          rw [if_pos stops]
          constructor
          · exact nofun
          · rintro ⟨token, split, ends, each, fits, rfl⟩
            obtain ⟨tail, rfl, -⟩ := token_takes quote split ends
            rw [List.length_cons] at fits
            exact absurd ⟨each byte List.mem_cons_self, by omega⟩ taken

/-- The tokens of a body, with what stands between the member's name and its quote. -/
structure SpacedBody (gap token body : Bytes) : Prop where
  blank : ∀ byte ∈ gap, JsonBlank byte
  parts : ∃ inner colon behind value closing rest, Blanks body (asciiByte '\x7b' :: inner) ∧
    Blanks inner (asciiByte '"' :: (destinationKey ++ (gap ++ asciiByte '"' :: colon))) ∧
    Blanks colon (asciiByte ':' :: behind) ∧
    Blanks behind (asciiByte '"' :: value) ∧ value = token ++ asciiByte '"' :: closing ∧
    Blanks closing (asciiByte '\x7d' :: rest) ∧ Blanks rest []

theorem normalizedDestination_iff {ctype : WideCtype width} {token : Bytes} {value : WString width}
    (short : token.length ≤ 128) (each : ∀ byte ∈ token, DestinationByte byte) :
    normalizedDestination ctype (widen width token) = some value ↔
      CallableToken ctype token value := by
  rw [normalizedDestination]
  constructor
  · intro found
    split at found
    · cases found
    next passed =>
    cases found
    simp only [Bool.or_eq_true, Bool.not_eq_true', Bool.not_eq_false, decide_eq_true_eq, not_or,
      Nat.not_lt] at passed
    exact ⟨short, fun byte member => (each byte member).printable,
      fun member => (each _ member).noBackslash rfl, passed.1, passed.2, rfl⟩
  · rintro ⟨-, -, -, accepted, fits, rfl⟩
    rw [if_neg]
    simp only [accepted, Bool.not_true, Bool.false_or, decide_eq_true_eq, Nat.not_lt]
    exact fits

/-- What the parser makes of a body with any blanks behind its member's name. -/
theorem parseCtiCallJson_spaced (ctype : WideCtype width) {gap token body : Bytes}
    (fits : body.length ≤ 512) (spaced : SpacedBody gap token body) (short : token.length ≤ 128)
    (each : ∀ byte ∈ token, DestinationByte byte) :
    parseCtiCallJson ctype body = normalizedDestination ctype (widen width token) := by
  obtain ⟨blank, inner, colon, behind, value, closing, rest, opened, named, separated, begins, rfl,
    closed, ends⟩ := spaced
  have nonempty : ¬ (body.isEmpty || decide (body.length > 512)) = true := by
    obtain ⟨front, rfl, -⟩ := opened
    simp only [Bool.or_eq_true, List.isEmpty_iff, decide_eq_true_eq, not_or, Nat.not_lt]
    exact ⟨by simp, fits⟩
  have key : (destinationKey ++ (gap ++ asciiByte '"' :: colon)).take destinationKey.length =
      destinationKey := List.take_left
  have afterKey : (destinationKey ++ (gap ++ asciiByte '"' :: colon)).drop destinationKey.length =
      gap ++ asciiByte '"' :: colon := List.drop_left
  have gapped : consume '"' (gap ++ asciiByte '"' :: colon) = some colon :=
    (consume_iff (by decide)).mpr ⟨gap, rfl, blank⟩
  have looped : destinationFrom ([] : WString width) (token ++ asciiByte '"' :: closing) =
      some (widen width token, asciiByte '"' :: closing) :=
    (destinationFrom_iff (Nat.zero_le _)).mpr ⟨token, rfl, .inr rfl, each, by simpa using short, rfl⟩
  have quoted : consume '"' (asciiByte '"' :: closing) = some closing :=
    (consume_iff (by decide)).mpr (.refl _)
  rw [parseCtiCallJson, if_neg nonempty, (consume_iff (by decide)).mpr opened]
  simp only [Option.bind_eq_bind, Option.bind_some, (consume_iff (by decide)).mpr named, key,
    ne_eq, not_true_eq_false, if_false, afterKey, gapped, (consume_iff (by decide)).mpr separated,
    (consume_iff (by decide)).mpr begins, looped, quoted, (consume_iff (by decide)).mpr closed,
    skip_isEmpty_iff.mpr ends, Bool.not_true, Bool.false_eq_true]

/-- The parser accepts the bodies whose name is followed by any blanks. -/
theorem parseCtiCallJson_iff (ctype : WideCtype width) {body : Bytes} (fits : body.length ≤ 512)
    (value : WString width) :
    parseCtiCallJson ctype body = some value ↔
      ∃ gap token, SpacedBody gap token body ∧ (∀ byte ∈ token, DestinationByte byte) ∧
        CallableToken ctype token value := by
  constructor
  · intro parsed
    rw [parseCtiCallJson] at parsed
    split at parsed
    · cases parsed
    simp only [Option.bind_eq_bind, Option.bind_eq_some_iff] at parsed
    obtain ⟨inner, opened, named, quoted, parsed⟩ := parsed
    split at parsed
    · cases parsed
    next key =>
    simp only [Option.bind_eq_some_iff] at parsed
    obtain ⟨colon, closes, behind, separated, start, begins, ⟨destination, ended⟩, looped, closing,
      unquoted, rest, closed, parsed⟩ := parsed
    split at parsed
    · cases parsed
    next blank =>
    obtain ⟨gap, split, blanks⟩ := (consume_iff (by decide)).mp closes
    obtain ⟨token, rfl, ends, each, short, rfl⟩ := (destinationFrom_iff (Nat.zero_le _)).mp looped
    have quote : ended = asciiByte '"' :: closing := by
      have found := (consume_iff (by decide)).mp unquoted
      rcases ends with rfl | head
      · obtain ⟨front, empty, -⟩ := found
        cases front <;> cases empty
      · cases ended with
        | nil => cases head
        | cons first others =>
            cases head
            exact (found.eq_of_solid (by decide)).symm
    simp only [List.length_nil, Nat.zero_add] at short
    rw [List.nil_append] at parsed
    refine ⟨gap, token, ⟨blanks, ?_⟩, each, (normalizedDestination_iff short each).mp parsed⟩
    refine ⟨inner, colon, behind, _, closing, rest, (consume_iff (by decide)).mp opened, ?_,
      (consume_iff (by decide)).mp separated, (consume_iff (by decide)).mp begins, by rw [quote],
      (consume_iff (by decide)).mp closed, ?_⟩
    · have name := (consume_iff (by decide)).mp quoted
      have whole := List.take_append_drop destinationKey.length named
      rw [not_not.mp key, split] at whole
      rw [whole]
      exact name
    · simpa using! skip_isEmpty_iff.mp (by simpa using blank)
  · rintro ⟨gap, token, spaced, each, callable⟩
    rw [parseCtiCallJson_spaced ctype fits spaced callable.short each]
    exact (normalizedDestination_iff callable.short each).mpr callable

theorem destinationByte_char {byte : UInt8} (inside : DestinationByte byte) :
    ∃ c, JsonChar c [byte] := by
  obtain ⟨⟨low, high⟩, noQuote, noBackslash⟩ := inside
  have valid : byte.toNat.isValidChar := .inl (by omega)
  have value := toNat_charOf valid
  have same : asciiByte (Char.ofNat byte.toNat) = byte := by
    rw [asciiByte, value, UInt8.ofNat_toNat]
  have other {c : Char} (different : byte ≠ asciiByte c) : Char.ofNat byte.toNat ≠ c := by
    rintro eq
    exact different (same.symm.trans (congrArg asciiByte eq))
  have plain := JsonChar.plain (c := Char.ofNat byte.toNat) (by omega) (other noQuote)
    (other noBackslash)
  rw [utf8EncodeChar_ascii (by omega), same] at plain
  exact ⟨_, plain⟩

theorem destinationBytes_token {token : Bytes} (each : ∀ byte ∈ token, DestinationByte byte) :
    JsonToken token := by
  induction token with
  | nil => exact ⟨[], .nil⟩
  | cons byte rest ih =>
      obtain ⟨c, written⟩ := destinationByte_char (each byte List.mem_cons_self)
      obtain ⟨text, spelled⟩ := ih fun other member => each other (List.mem_cons_of_mem _ member)
      exact ⟨c :: text, .cons written spelled⟩

theorem CallableToken.each {ctype : WideCtype width} {token : Bytes} {value : WString width}
    (callable : CallableToken ctype token value) (formed : JsonToken token) :
    ∀ byte ∈ token, DestinationByte byte := by
  obtain ⟨text, spelled⟩ := formed
  have noQuote := spelled.noQuote callable.escapeFree
  intro byte member
  refine ⟨callable.printable byte member, ?_, ?_⟩
  · rintro rfl
    exact noQuote member
  · rintro rfl
    exact callable.escapeFree member

/-- The JSON text of the object has its tokens without a gap. -/
theorem jsonText_iff {token body : Bytes} :
    JsonText (.object [(destinationKey, .string token)]) body ↔
      JsonToken token ∧ SpacedBody [] token body := by
  have key : JsonToken destinationKey := destinationBytes_token (by
    have bytes : ∀ byte ∈ destinationKey, (0x21 ≤ byte.toNat ∧ byte.toNat ≤ 0x7e) ∧
        byte ≠ asciiByte '"' ∧ byte ≠ asciiByte '\\' := by decide +kernel
    intro byte member
    obtain ⟨printable, noQuote, noBackslash⟩ := bytes byte member
    exact ⟨printable, noQuote, noBackslash⟩)
  constructor
  · rintro ⟨start, rest, before, spells, after⟩
    cases spells with
    | object listed =>
        cases listed with
        | lastMember blanks member closed =>
            cases member with
            | member named colon separated value =>
                cases value with
                | string formed =>
                    exact ⟨formed, fun _ member => absurd member List.not_mem_nil, _, _, _, _, _, _,
                      before, blanks, colon, separated, rfl, closed, after⟩
        | nextMember blanks member comma others => cases others
  · rintro ⟨formed, -, inner, colon, behind, value, closing, rest, opened, named, separated, begins,
      rfl, closed, ends⟩
    exact ⟨_, rest, opened, .object (.lastMember named (.member key separated begins (.string formed))
      closed), ends⟩

theorem callBody_iff {ctype : WideCtype width} {body : Bytes} {value : WString width} :
    CallBody ctype body value ↔
      ∃ token, SpacedBody [] token body ∧ (∀ byte ∈ token, DestinationByte byte) ∧
        CallableToken ctype token value := by
  constructor
  · rintro ⟨token, text, callable⟩
    obtain ⟨formed, spaced⟩ := jsonText_iff.mp text
    exact ⟨token, spaced, callable.each formed, callable⟩
  · rintro ⟨token, spaced, each, callable⟩
    exact ⟨token, jsonText_iff.mpr ⟨destinationBytes_token each, spaced⟩, callable⟩

/-- The gap of a body is determined. -/
theorem SpacedBody.gap_eq {gap gap' token token' body : Bytes} (spaced : SpacedBody gap token body)
    (other : SpacedBody gap' token' body) : gap = gap' := by
  obtain ⟨blank, inner, colon, -, -, -, -, opened, named, -⟩ := spaced
  obtain ⟨blank', inner', colon', -, -, -, -, opened', named', -⟩ := other
  obtain ⟨-, rfl⟩ := opened.unique (by decide) (by decide) opened'
  obtain ⟨-, same⟩ := named.unique (by decide) (by decide) named'
  have quoted := List.append_cancel_left same
  have first : Blanks (gap ++ asciiByte '"' :: colon) (asciiByte '"' :: colon) := ⟨gap, rfl, blank⟩
  have second : Blanks (gap ++ asciiByte '"' :: colon) (asciiByte '"' :: colon') :=
    ⟨gap', quoted, blank'⟩
  obtain ⟨-, rfl⟩ := first.unique (by decide) (by decide) second
  exact List.append_cancel_right quoted

/-- What stands behind the opening of a body is its gap and the quote. -/
theorem SpacedBody.behind_opening {opening gap token rest : Bytes} (opens : NameOpening opening)
    (spaced : SpacedBody gap token (opening ++ rest)) :
    ∃ colon, rest = gap ++ asciiByte '"' :: colon := by
  obtain ⟨inner, first, second⟩ := opens
  obtain ⟨-, inner', colon, -, -, -, -, opened, named, -⟩ := spaced
  obtain ⟨-, rfl⟩ := (first.extend rest).unique (by decide) (by decide) opened
  obtain ⟨-, same⟩ := (second.extend rest).unique (by decide) (by decide) named
  exact ⟨colon, List.append_cancel_left same⟩

/-- The gap of a body may be widened and narrowed behind its opening. -/
theorem SpacedBody.regap {opening gap other token colon : Bytes} (opens : NameOpening opening)
    (blank : ∀ byte ∈ other, JsonBlank byte)
    (spaced : SpacedBody gap token (opening ++ (gap ++ asciiByte '"' :: colon))) :
    SpacedBody other token (opening ++ (other ++ asciiByte '"' :: colon)) := by
  obtain ⟨inner, first, second⟩ := opens
  obtain ⟨-, inner', colon', behind, value, closing, rest, opened, named, parts⟩ := spaced
  obtain ⟨-, rfl⟩ := (first.extend _).unique (by decide) (by decide) opened
  obtain ⟨-, same⟩ := (second.extend _).unique (by decide) (by decide) named
  have quoted := List.append_cancel_left (List.append_cancel_left same)
  obtain ⟨-, rfl⟩ := List.cons_eq_cons.mp quoted
  exact ⟨blank, inner ++ (other ++ asciiByte '"' :: colon), colon, behind, value, closing, rest,
    first.extend _, second.extend _, parts⟩

theorem SpacedBody.opening {gap token body : Bytes} (spaced : SpacedBody gap token body) :
    ∃ opening colon, NameOpening opening ∧ body = opening ++ (gap ++ asciiByte '"' :: colon) := by
  obtain ⟨-, inner, colon, -, -, -, -, ⟨outer, rfl, blank⟩, ⟨within, rfl, blank'⟩, -⟩ := spaced
  refine ⟨outer ++ asciiByte '\x7b' :: (within ++ asciiByte '"' :: destinationKey), colon,
    ⟨within ++ asciiByte '"' :: destinationKey, ⟨outer, rfl, blank⟩, ⟨within, rfl, blank'⟩⟩, ?_⟩
  simp

theorem gappedBody_iff {ctype : WideCtype width} {body : Bytes} :
    GappedBody ctype body ↔ ∃ gap token value, gap ≠ [] ∧ SpacedBody gap token body ∧
      (∀ byte ∈ token, DestinationByte byte) ∧ CallableToken ctype token value := by
  constructor
  · rintro ⟨opening, gap, rest, value, rfl, opens, filled, blank, form⟩
    obtain ⟨token, spaced, each, callable⟩ := callBody_iff.mp form
    obtain ⟨colon, rfl⟩ := spaced.behind_opening opens
    rw [List.append_assoc]
    exact ⟨gap, token, value, filled, spaced.regap opens blank, each, callable⟩
  · rintro ⟨gap, token, value, filled, spaced, each, callable⟩
    have blank := spaced.blank
    obtain ⟨opening, colon, opens, rfl⟩ := spaced.opening
    refine ⟨opening, gap, asciiByte '"' :: colon, value, by simp, opens, filled, blank, ?_⟩
    have narrowed : SpacedBody [] token (opening ++ asciiByte '"' :: colon) :=
      spaced.regap opens fun _ member => absurd member List.not_mem_nil
    exact callBody_iff.mpr ⟨token, narrowed, each, callable⟩

/--
The parser accepts exactly the JSON form, with its normalized destination, at
every body that is not one of the form with a gap behind its member's name.
-/
theorem parser_accepts_form_iff (ctype : WideCtype width) (body : Bytes) (fits : body.length ≤ 512) :
    (∀ value, parseCtiCallJson ctype body = some value ↔ CallBody ctype body value) ↔
      ¬ GappedBody ctype body := by
  constructor
  · intro exact_ gapped
    obtain ⟨gap, token, value, filled, spaced, each, callable⟩ := gappedBody_iff.mp gapped
    have parsed := (parseCtiCallJson_iff ctype fits value).mpr ⟨gap, token, spaced, each, callable⟩
    obtain ⟨other, gapless, -⟩ := callBody_iff.mp ((exact_ value).mp parsed)
    exact filled (spaced.gap_eq gapless)
  · intro gapless value
    rw [parseCtiCallJson_iff ctype fits, callBody_iff]
    constructor
    · rintro ⟨gap, token, spaced, each, callable⟩
      by_cases filled : gap = []
      · subst filled
        exact ⟨token, spaced, each, callable⟩
      · exact absurd (gappedBody_iff.mpr ⟨gap, token, value, filled, spaced, each, callable⟩) gapless
    · rintro ⟨token, spaced, each, callable⟩
      exact ⟨[], token, spaced, each, callable⟩

def blankInName : Bytes := asciiBytes "\x7b\"destination \":\"1001\"\x7d"

theorem parser_accepts_form_iff_blankInName :
    blankInName.length ≤ 512 ∧
      ((∀ value, parseCtiCallJson (.ascii .utf16) blankInName = some value ↔
          CallBody (.ascii .utf16) blankInName value) ↔
        ¬ GappedBody (.ascii .utf16) blankInName) :=
  ⟨by decide, parser_accepts_form_iff (.ascii .utf16) blankInName (by decide)⟩

/-- The body is accepted, and is no JSON object with a member named `destination`. -/
theorem blankInName_accepted :
    parseCtiCallJson (.ascii .utf16) blankInName = some (wideText .utf16 "1001") ∧
      ¬ ∃ token, JsonText (.object [(destinationKey, .string token)]) blankInName := by
  refine ⟨by decide, ?_⟩
  rintro ⟨token, text⟩
  obtain ⟨-, spaced⟩ := jsonText_iff.mp text
  have opens : NameOpening (asciiBytes "\x7b\"destination") :=
    ⟨asciiBytes "\"destination", .refl _, .refl _⟩
  have split : blankInName = asciiBytes "\x7b\"destination" ++ asciiBytes " \":\"1001\"\x7d" := by
    decide
  rw [split] at spaced
  obtain ⟨colon, quote⟩ := spaced.behind_opening opens
  cases quote

end AxeVoice.Cti
