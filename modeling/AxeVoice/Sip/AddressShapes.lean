import AxeVoice.Sip.AddressForm

/-!
# What may be routed

The shapes of a normalized destination, with a port as the number that it spells,
and the texts that the check accepts.  A destination may leave out its `sip:`
unless it names a port.
-/

namespace AxeVoice.Sip

open Foundation

variable {width : WCharWidth}

/-- The number that a decimal text spells. -/
def decimalNumber (digits : WString width) : Nat :=
  digits.foldl (fun number unit => number * 10 + (unit.toNat - '0'.toNat)) 0

/-- One to five digits of a number that a port may have. -/
structure PortText (port : WString width) : Prop where
  filled : 1 ≤ port.length
  short : port.length ≤ 5
  digits : ∀ unit ∈ port, unit.within '0' '9' = true
  positive : 1 ≤ decimalNumber port
  inRange : decimalNumber port ≤ 65535

theorem portNumberFrom_some_iff {port : WString width} {number total : Nat} :
    portNumberFrom port number = some total ↔
      (∀ unit ∈ port, unit.within '0' '9' = true) ∧
        port.foldl (fun number unit => number * 10 + (unit.toNat - '0'.toNat)) number = total := by
  induction port generalizing number with
  | nil => simp [portNumberFrom]
  | cons unit rest ih =>
      rw [portNumberFrom]
      split
      · next digit => simp only [ih, List.forall_mem_cons, digit, true_and, List.foldl_cons]
      · next other =>
          constructor
          · intro found
            cases found
          · rintro ⟨digits, -⟩
            exact absurd (digits unit List.mem_cons_self) other

theorem validPort_iff {port : WString width} : validPort port = true ↔ PortText port := by
  constructor
  · intro valid
    rw [validPort] at valid
    split at valid
    · cases valid
    next bounds =>
    simp only [Bool.or_eq_true, decide_eq_true_eq, not_or, Nat.not_lt, List.isEmpty_iff] at bounds
    split at valid
    · cases valid
    next number read =>
    obtain ⟨digits, same⟩ := portNumberFrom_some_iff.mp read
    simp only [Bool.not_eq_true', Bool.or_eq_false_iff, decide_eq_false_iff_not, Nat.not_lt] at valid
    have value : decimalNumber port = number := same
    exact ⟨List.length_pos_iff.mpr bounds.1, bounds.2, digits, by omega, by omega⟩
  · rintro ⟨filled, short, digits, positive, inRange⟩
    have read : portNumberFrom port 0 = some (decimalNumber port) :=
      portNumberFrom_some_iff.mpr ⟨digits, rfl⟩
    have bounds : ¬ (port.isEmpty || decide (port.length > 5)) = true := by
      simp only [Bool.or_eq_true, List.isEmpty_iff, decide_eq_true_eq, not_or, Nat.not_lt]
      exact ⟨List.length_pos_iff.mp filled, short⟩
    rw [validPort, if_neg bounds, read]
    simp only [Bool.not_eq_true', Bool.or_eq_false_iff, decide_eq_false_iff_not, Nat.not_lt]
    omega

/-- A host, or a host with a port. -/
inductive HostPort : WString width → Prop
  | host {host : WString width} (valid : validSipHost host = true) : HostPort host
  | port {host port : WString width} (valid : validSipHost host = true) (named : PortText port) :
      HostPort (host ++ wide width ':' :: port)

theorem validHost_noColon {host : WString width} (valid : validSipHost host = true) :
    wide width ':' ∉ host := by
  intro found
  obtain ⟨-, -, units⟩ := hostUnits_of_validSipHost valid
  exact (units _ found).2 (wide_toNat width (by decide))

theorem validateHostPort_iff {text : WString width} :
    validateHostPort text = .none ↔ HostPort text := by
  constructor
  · intro valid
    rw [validateHostPort] at valid
    split at valid
    · cases valid
    next known =>
    split at valid
    · next absent =>
        rw [absent, Option.getD_none, List.take_length] at known
        exact .host (by simpa using known)
    · next position found =>
        split at valid
        · next port =>
            obtain ⟨-, split, -⟩ := WString.find_some found
            rw [found, Option.getD_some] at known
            rw [split]
            exact .port (by simpa using known) (validPort_iff.mp port)
        · cases valid
  · intro shape
    cases shape with
    | host valid =>
        rw [validateHostPort, WString.find_none.mpr (validHost_noColon valid)]
        rw [Option.getD_none, List.take_length, valid]
        rfl
    | port valid named => exact validateHostPort_of_valid valid (validPort_iff.mpr named)

theorem HostPort.filled {text : WString width} (shape : HostPort text) : text ≠ [] := by
  cases shape with
  | host valid => exact (hostUnits_of_validSipHost valid).1
  | port valid => simp

theorem HostPort.clean {text : WString width} (shape : HostPort text) : CleanText text :=
  fun unit member => (hostUnits_of_validateHostPort (validateHostPort_iff.mpr shape) unit member).clean

/-- Neither white space nor a control, and none of the characters that no part may hold. -/
structure AllowedUnit (ctype : WideCtype width) (unit : WChar width) : Prop where
  space : ctype.iswspace unit = false
  control : ctype.iswcntrl unit = false
  plain : ∀ character ∈ "<>\\\"?;".toList, unit ≠ wide width character

def AllowedText (ctype : WideCtype width) (text : WString width) : Prop :=
  ∀ unit ∈ text, AllowedUnit ctype unit

theorem allowedText_iff {ctype : WideCtype width} {text : WString width} :
    AllowedText ctype text ↔ BlankFree ctype text ∧ PlainText text := by
  have plain : PlainText text ↔
      ∀ unit ∈ text, ∀ character ∈ "<>\\\"?;".toList, unit ≠ wide width character := by
    rw [PlainText, WString.findFirstOf, List.any_eq_false]
    simp only [List.any_eq_true, beq_iff_eq, not_exists, not_and, ne_eq]
  rw [plain]
  constructor
  · intro allowed
    exact ⟨fun unit member => ⟨(allowed unit member).space, (allowed unit member).control⟩,
      fun unit member => (allowed unit member).plain⟩
  · rintro ⟨blankFree, plain⟩ unit member
    exact ⟨(blankFree unit member).1, (blankFree unit member).2, plain unit member⟩

theorem AllowedText.append_iff {ctype : WideCtype width} {front rest : WString width} :
    AllowedText ctype (front ++ rest) ↔ AllowedText ctype front ∧ AllowedText ctype rest :=
  List.forall_mem_append

/-- The shapes of a normalized destination. -/
inductive RoutableShape (ctype : WideCtype width) : WString width → Prop
  | dial (scheme : AddressScheme) {value : WString width} (filled : value ≠ [])
      (dials : ∀ unit ∈ value, dialUnit ctype unit = true) :
      RoutableShape ctype (scheme.text width ++ value)
  | uri (scheme : AddressScheme) (named : scheme ≠ .none) {user host : WString width}
      (filled : user ≠ []) (noAt : wide width '@' ∉ user) (hostPort : HostPort host) :
      RoutableShape ctype (scheme.text width ++ (user ++ wide width '@' :: host))

/-- The shapes that are accepted: those of a normalized destination, and a user at a host. -/
inductive AcceptedShape (ctype : WideCtype width) : WString width → Prop
  | routable {text : WString width} (shape : RoutableShape ctype text) : AcceptedShape ctype text
  | bare {user host : WString width} (filled : user ≠ []) (noAt : wide width '@' ∉ user)
      (noColon : wide width ':' ∉ user) (valid : validSipHost host = true) :
      AcceptedShape ctype (user ++ wide width '@' :: host)

variable {locale : LocaleCtype width}

theorem CleanText.allowed {text : WString width} (clean : CleanText text) :
    AllowedText locale.toWideCtype text :=
  allowedText_iff.mpr ⟨fun unit member => locale.blankFree (clean unit member).printable, clean.plain⟩

theorem scheme_clean (scheme : AddressScheme) : CleanText (scheme.text width) := by
  have letters : ∀ character ∈ "sips:".toList, character.toNat ∈ [115, 105, 112, 58] := by simp
  have clean : ∀ character ∈ "sips:".toList, CleanUnit (wide width character) := by
    intro character member
    have code := letters character member
    simp only [List.mem_cons, List.not_mem_nil, or_false] at code
    apply cleanUnit_of_code
    · rw [wide_toNat width (by omega)]
      omega
    · rw [wide_toNat width (by omega)]
      simp only [List.mem_cons, List.not_mem_nil, or_false]
      omega
  cases scheme with
  | none => exact fun _ member => absurd member List.not_mem_nil
  | sip =>
      intro unit member
      obtain ⟨character, listed, rfl⟩ := List.mem_map.mp member
      refine clean character ?_
      have within : ∀ character ∈ "sip:".toList, character ∈ "sips:".toList := by simp
      exact within character listed
  | sips =>
      intro unit member
      obtain ⟨character, listed, rfl⟩ := List.mem_map.mp member
      exact clean character listed

theorem colon_ne_at : wide width ':' ≠ wide width '@' := by
  intro same
  have codes := congrArg BitVec.toNat same
  rw [wide_toNat width (by decide), wide_toNat width (by decide)] at codes
  cases codes

/-- Neither of the characters that divide a URI dials. -/
theorem not_dials {character : Char} (listed : character = ':' ∨ character = '@') :
    dialUnit locale.toWideCtype (wide width character) = false := by
  have code : (wide width character).toNat = 58 ∨ (wide width character).toNat = 64 := by
    rcases listed with rfl | rfl
    · exact .inl (wide_toNat width (by decide))
    · exact .inr (wide_toNat width (by decide))
  have digit : locale.iswdigit (wide width character) = false := by
    rw [locale.digit _ (by omega)]
    simp only [WideCtype.ascii, Bool.and_eq_false_iff, decide_eq_false_iff_not]
    omega
  have other {symbol : Char} (small : symbol.toNat < 128) (apart : symbol.toNat < 58) :
      wide width character ≠ wide width symbol := by
    intro same
    rw [same, wide_toNat width small] at code
    omega
  simp only [dialUnit, digit, Bool.false_or, Bool.or_eq_false_iff, decide_eq_false_iff_not]
  exact ⟨⟨other (by decide) (by decide), other (by decide) (by decide)⟩,
    other (by decide) (by decide)⟩

theorem dials_without {value : WString width}
    (dials : ∀ unit ∈ value, dialUnit locale.toWideCtype unit = true) {character : Char}
    (listed : character = ':' ∨ character = '@') : wide width character ∉ value := by
  intro found
  cases (not_dials listed).symm.trans (dials _ found)

theorem explicit_named (scheme : AddressScheme) : scheme.explicit ≠ .none := by
  cases scheme <;> exact nofun

theorem explicit_idem (scheme : AddressScheme) : scheme.explicit.explicit = scheme.explicit := by
  cases scheme <;> rfl

/-- The part behind the scheme of a URI, in its shape. -/
theorem addressValue_uri_iff {ctype : WideCtype width} {value : WString width} :
    AddressValue ctype value true ↔
      PlainText value ∧ ∃ user host, value = user ++ wide width '@' :: host ∧ user ≠ [] ∧
        wide width '@' ∉ user ∧ HostPort host := by
  constructor
  · intro form
    cases form with
    | @uri user host userFilled hostFilled userPlain hostPlain userNoAt hostNoAt hostValid =>
        have plain : PlainText (user ++ wide width '@' :: host) :=
          (PlainText.append_iff _ _).mpr ⟨userPlain, PlainText.cons_iff.mpr ⟨plain_at, hostPlain⟩⟩
        exact ⟨plain, user, host, rfl, userFilled, userNoAt, validateHostPort_iff.mp hostValid⟩
  · rintro ⟨plain, user, host, rfl, filled, noAt, hostPort⟩
    have clean := hostPort.clean
    exact .uri filled hostPort.filled ((PlainText.append_iff _ _).mp plain).1 clean.plain noAt
      clean.noAt (validateHostPort_iff.mpr hostPort)

/-- What the check accepts, and what it makes of it. -/
structure AddressLanguage (locale : LocaleCtype width) : Prop where
  idempotent : ∀ text normalized, validateAddress locale.toWideCtype text = ⟨.none, normalized⟩ →
    validateAddress locale.toWideCtype normalized = ⟨.none, normalized⟩
  extended : ∀ text normalized, validateAddress locale.toWideCtype text = ⟨.none, normalized⟩ →
    normalized = text ∨ normalized = wideText width "sip:" ++ text
  allowed : ∀ text normalized, validateAddress locale.toWideCtype text = ⟨.none, normalized⟩ →
    AllowedText locale.toWideCtype normalized
  routable : ∀ text normalized, validateAddress locale.toWideCtype text = ⟨.none, normalized⟩ →
    RoutableShape locale.toWideCtype normalized
  accepted : ∀ text, AllowedText locale.toWideCtype text → AcceptedShape locale.toWideCtype text →
    (validateAddress locale.toWideCtype text).valid = true

theorem form_allowed {text normalized : WString width}
    (blankFree : BlankFree locale.toWideCtype text)
    (form : AddressForm locale.toWideCtype text normalized) :
    AllowedText locale.toWideCtype normalized := by
  have behind {front value : WString width} (blankFree : BlankFree locale.toWideCtype (front ++ value)) :
      BlankFree locale.toWideCtype value :=
    fun unit member => blankFree unit (List.mem_append_right _ member)
  cases form with
  | dial scheme form =>
      cases form with
      | dial filled plain =>
          exact AllowedText.append_iff.mpr
            ⟨(scheme_clean scheme).allowed, allowedText_iff.mpr ⟨behind blankFree, plain⟩⟩
  | uri scheme form =>
      obtain ⟨plain, -⟩ := addressValue_uri_iff.mp form
      exact AllowedText.append_iff.mpr
        ⟨(scheme_clean _).allowed, allowedText_iff.mpr ⟨behind blankFree, plain⟩⟩

theorem form_routable {text normalized : WString width}
    (form : AddressForm locale.toWideCtype text normalized) :
    RoutableShape locale.toWideCtype normalized := by
  cases form with
  | dial scheme form =>
      cases form with
      | dial filled plain noAt dials => exact .dial scheme filled (List.all_eq_true.mp dials)
  | uri scheme form =>
      obtain ⟨-, user, host, rfl, filled, noAt, hostPort⟩ := addressValue_uri_iff.mp form
      exact .uri _ (explicit_named scheme) filled noAt hostPort

/-- An accepted shape without forbidden characters has a normal form. -/
theorem form_of_accepted {text : WString width} (allowed : AllowedText locale.toWideCtype text)
    (shape : AcceptedShape locale.toWideCtype text) :
    ∃ normalized, AddressForm locale.toWideCtype text normalized := by
  obtain ⟨-, plain⟩ := allowedText_iff.mp allowed
  cases shape with
  | routable shape =>
      cases shape with
      | dial scheme filled dials =>
          have value : AddressValue locale.toWideCtype _ false :=
            .dial filled ((PlainText.append_iff _ _).mp plain).2 (dials_without dials (.inr rfl))
              (List.all_eq_true.mpr dials)
          exact ⟨_, .dial scheme value fun _ => dials_without dials (.inl rfl)⟩
      | @uri scheme named user host filled noAt hostPort =>
          have value : AddressValue locale.toWideCtype (user ++ wide width '@' :: host) true :=
            addressValue_uri_iff.mpr
              ⟨((PlainText.append_iff _ _).mp plain).2, user, host, rfl, filled, noAt, hostPort⟩
          exact ⟨_, .uri scheme value fun none => absurd none named⟩
  | @bare user host filled noAt noColon valid =>
      have value : AddressValue locale.toWideCtype (user ++ wide width '@' :: host) true :=
        addressValue_uri_iff.mpr ⟨plain, user, host, rfl, filled, noAt, .host valid⟩
      refine ⟨_, .uri .none value fun _ found => ?_⟩
      rcases List.mem_append.mp found with inside | behind
      · exact noColon inside
      rcases List.mem_cons.mp behind with same | host
      · exact colon_ne_at same
      · exact validHost_noColon valid host

theorem address_language (locale : LocaleCtype width) : AddressLanguage locale := by
  constructor
  · intro text normalized valid
    obtain ⟨blankFree, form⟩ := validateAddress_iff.mp valid
    obtain ⟨blankFree, -⟩ := allowedText_iff.mp (form_allowed blankFree form)
    refine validateAddress_iff.mpr ⟨blankFree, ?_⟩
    cases form with
    | dial scheme form colonless => exact .dial scheme form colonless
    | uri scheme form =>
        have again := AddressForm.uri scheme.explicit form fun none =>
          absurd none (explicit_named scheme)
        rw [explicit_idem] at again
        exact again
  · intro text normalized valid
    obtain ⟨-, form⟩ := validateAddress_iff.mp valid
    cases form with
    | dial scheme form => exact .inl rfl
    | uri scheme form =>
        cases scheme with
        | none => exact .inr rfl
        | sip | sips => exact .inl rfl
  · intro text normalized valid
    obtain ⟨blankFree, form⟩ := validateAddress_iff.mp valid
    exact form_allowed blankFree form
  · intro text normalized valid
    exact form_routable (validateAddress_iff.mp valid).2
  · intro text allowed shape
    obtain ⟨normalized, form⟩ := form_of_accepted allowed shape
    rw [validateAddress_iff.mpr ⟨(allowedText_iff.mp allowed).1, form⟩]
    rfl

/-- Both checks fail, or both succeed with one normal form. -/
def SameVerdict (one other : AddressResult width) : Prop :=
  (one.valid = false ∧ other.valid = false) ∨
    ∃ normalized, one = ⟨.none, normalized⟩ ∧ other = ⟨.none, normalized⟩

/-- A text and the same text behind `sip:` are one destination. -/
def ImpliesScheme (locale : LocaleCtype width) (text : WString width) : Prop :=
  SameVerdict (validateAddress locale.toWideCtype text)
    (validateAddress locale.toWideCtype (wideText width "sip:" ++ text))

/-- The scheme may be left out of every text that has an `@` and no colon before it. -/
def SchemeTransparent (locale : LocaleCtype width) : Prop :=
  ∀ user rest, wide width '@' ∉ user → wide width ':' ∉ user →
    ImpliesScheme locale (user ++ wide width '@' :: rest)

/-- A user at a host that names a port. -/
structure NamesPort (ctype : WideCtype width) (user rest : WString width) : Prop where
  filled : user ≠ []
  allowed : AllowedText ctype user
  hostPort : ∃ host port, rest = host ++ wide width ':' :: port ∧ validSipHost host = true ∧
    PortText port

theorem valid_iff {result : AddressResult width} :
    result.valid = true ↔ ∃ normalized, result = ⟨.none, normalized⟩ := by
  obtain ⟨error, normalized⟩ := result
  rw [AddressResult.valid, decide_eq_true_eq]
  constructor
  · rintro rfl
    exact ⟨normalized, rfl⟩
  · rintro ⟨_, same⟩
    exact congrArg AddressResult.error same

theorem sip_named : AddressScheme.sip ≠ .none := nofun

/-- A text with a scheme in front of it is accepted where the part behind the scheme is. -/
theorem validate_sip_iff {value normalized : WString width} :
    validateAddress locale.toWideCtype (wideText width "sip:" ++ value) = ⟨.none, normalized⟩ ↔
      normalized = wideText width "sip:" ++ value ∧ BlankFree locale.toWideCtype value ∧
        ∃ uri, AddressValue locale.toWideCtype value uri := by
  have whole (free : BlankFree locale.toWideCtype value) :
      BlankFree locale.toWideCtype (AddressScheme.sip.text width ++ value) := by
    intro unit member
    rcases List.mem_append.mp member with inside | behind
    · exact locale.blankFree (scheme_clean .sip unit inside).printable
    · exact free unit behind
  constructor
  · intro valid
    have free := (validateAddress_iff.mp valid).1
    have named : validateAddress locale.toWideCtype (wideText width "sip:" ++ value) =
        validateSchemeless locale.toWideCtype (wideText width "sip:" ++ value) value :=
      validateAddress_named sip_named free
    rw [named] at valid
    obtain ⟨uri, form, rfl⟩ := form_of_validateSchemeless valid
    have colon : wide width ':' ∈ AddressScheme.sip.text width ++ value :=
      List.mem_append_left _ (colon_mem_scheme sip_named)
    exact ⟨normalForm_named colon, fun unit member => free unit (List.mem_append_right _ member),
      uri, form⟩
  · rintro ⟨rfl, free, uri, form⟩
    exact validateAddress_explicit sip_named form (whole free)

theorem AddressValue.noAt {ctype : WideCtype width} {value : WString width}
    (form : AddressValue ctype value false) : wide width '@' ∉ value := by
  cases form with
  | dial filled plain noAt dials => exact noAt

theorem user_value_iff {user rest : WString width} {uri : Bool} (noAt : wide width '@' ∉ user) :
    AddressValue locale.toWideCtype (user ++ wide width '@' :: rest) uri ↔
      uri = true ∧ PlainText user ∧ user ≠ [] ∧ HostPort rest := by
  have at_member : wide width '@' ∈ user ++ wide width '@' :: rest :=
    List.mem_append_right _ List.mem_cons_self
  cases uri with
  | false =>
      constructor
      · intro form
        exact absurd at_member form.noAt
      · rintro ⟨none, -⟩
        cases none
  | true =>
      rw [addressValue_uri_iff]
      constructor
      · rintro ⟨plain, front, host, same, filled, absent, hostPort⟩
        have lengths : WString.find (user ++ wide width '@' :: rest) '@' = some user.length :=
          WString.find_append noAt
        rw [same, WString.find_append absent] at lengths
        obtain ⟨rfl, behind⟩ := List.append_inj same (Option.some.inj lengths).symm
        obtain ⟨-, rfl⟩ := List.cons.inj behind
        exact ⟨rfl, ((PlainText.append_iff _ _).mp plain).1, filled, hostPort⟩
      · rintro ⟨-, plain, filled, hostPort⟩
        have whole := (PlainText.append_iff _ _).mpr
          ⟨plain, PlainText.cons_iff.mpr ⟨plain_at, hostPort.clean.plain⟩⟩
        exact ⟨whole, user, rest, rfl, filled, noAt, hostPort⟩

/-- The scheme of an accepted text and the part behind it. -/
theorem AddressForm.parts {ctype : WideCtype width} {text normalized : WString width}
    (form : AddressForm ctype text normalized) :
    ∃ scheme value uri, text = AddressScheme.text width scheme ++ value ∧
      AddressValue ctype value uri ∧ (scheme = .none → wide width ':' ∉ value) := by
  cases form with
  | dial scheme form colonless => exact ⟨scheme, _, false, rfl, form, colonless⟩
  | uri scheme form colonless => exact ⟨scheme, _, true, rfl, form, colonless⟩

/-- No scheme ends in front of the `@`. -/
theorem scheme_behind_at {user rest value : WString width} {scheme : AddressScheme}
    (noColon : wide width ':' ∉ user) (named : scheme ≠ .none) :
    user ++ wide width '@' :: rest ≠ scheme.text width ++ value := by
  intro same
  rcases List.append_eq_append_iff.mp same with ⟨between, split, behind⟩ | ⟨between, split, -⟩
  · cases between with
    | nil =>
        rw [List.append_nil] at split
        exact noColon (split ▸ colon_mem_scheme named)
    | cons unit between =>
        obtain ⟨rfl, -⟩ := List.cons.inj behind
        exact (scheme_clean scheme).noAt (split ▸ List.mem_append_right _ List.mem_cons_self)
  · exact noColon (split ▸ List.mem_append_left _ (colon_mem_scheme named))

/-- A colon behind the `@` is taken for the end of a scheme, which the user is not. -/
theorem refused_of_colon {user rest : WString width} (noColon : wide width ':' ∉ user)
    (colon : wide width ':' ∈ rest) :
    (validateAddress locale.toWideCtype (user ++ wide width '@' :: rest)).valid = false := by
  rw [Bool.eq_false_iff, ne_eq, valid_iff]
  rintro ⟨normalized, valid⟩
  obtain ⟨-, form⟩ := validateAddress_iff.mp valid
  obtain ⟨scheme, value, -, split, -, colonless⟩ := form.parts
  rcases eq_or_ne scheme .none with rfl | named
  · refine colonless rfl ?_
    have whole : user ++ wide width '@' :: rest = value := split
    rw [← whole]
    exact List.mem_append_right _ (List.mem_cons_of_mem _ colon)
  · exact scheme_behind_at noColon named split

/-- Without a colon the check sees the same parts with and without the scheme. -/
theorem implied_of_colonless {text : WString width} (noColon : wide width ':' ∉ text)
    (atSign : wide width '@' ∈ text) : ImpliesScheme locale text := by
  by_cases accepted : BlankFree locale.toWideCtype text ∧ AddressValue locale.toWideCtype text true
  · obtain ⟨free, form⟩ := accepted
    refine .inr ⟨wideText width "sip:" ++ text, ?_, validate_sip_iff.mpr ⟨rfl, free, true, form⟩⟩
    exact validateAddress_iff.mpr ⟨free, .uri .none form fun _ => noColon⟩
  · have asUri {uri : Bool} (form : AddressValue locale.toWideCtype text uri) :
        AddressValue locale.toWideCtype text true := by
      cases uri with
      | false => exact absurd atSign form.noAt
      | true => exact form
    refine .inl ⟨?_, ?_⟩
    · rw [Bool.eq_false_iff, ne_eq, valid_iff]
      rintro ⟨normalized, valid⟩
      obtain ⟨free, form⟩ := validateAddress_iff.mp valid
      obtain ⟨scheme, value, uri, rfl, value_form, -⟩ := form.parts
      rcases eq_or_ne scheme .none with rfl | named
      · exact accepted ⟨free, asUri value_form⟩
      · exact noColon (List.mem_append_left _ (colon_mem_scheme named))
    · rw [Bool.eq_false_iff, ne_eq, valid_iff]
      rintro ⟨normalized, valid⟩
      obtain ⟨-, free, uri, form⟩ := validate_sip_iff.mp valid
      exact accepted ⟨free, asUri form⟩

/-- A user at a host with a port is accepted behind `sip:`. -/
theorem NamesPort.accepted {user rest : WString width} (noAt : wide width '@' ∉ user)
    (named : NamesPort locale.toWideCtype user rest) :
    (validateAddress locale.toWideCtype
      (wideText width "sip:" ++ (user ++ wide width '@' :: rest))).valid = true := by
  obtain ⟨filled, allowed, host, port, rfl, valid, number⟩ := named
  obtain ⟨free, plain⟩ := allowedText_iff.mp allowed
  have hostPort : HostPort (host ++ wide width ':' :: port) := .port valid number
  have form : AddressValue locale.toWideCtype
      (user ++ wide width '@' :: (host ++ wide width ':' :: port)) true :=
    (user_value_iff noAt).mpr ⟨rfl, plain, filled, hostPort⟩
  refine valid_iff.mpr ⟨_, validate_sip_iff.mpr ⟨rfl, fun unit member => ?_, true, form⟩⟩
  rcases List.mem_append.mp member with inside | behind
  · exact free unit inside
  rcases List.mem_cons.mp behind with rfl | hosted
  · exact locale.blankFree (by rw [wide_toNat width (by decide)]; decide)
  · exact locale.blankFree (hostPort.clean unit hosted).printable

/-- The scheme may be left out unless a port is named. -/
theorem implied_scheme_iff (locale : LocaleCtype width) {user rest : WString width}
    (noAt : wide width '@' ∉ user) (noColon : wide width ':' ∉ user) :
    ImpliesScheme locale (user ++ wide width '@' :: rest) ↔
      ¬ NamesPort locale.toWideCtype user rest := by
  constructor
  · intro implied named
    obtain ⟨host, port, rfl, -⟩ := named.hostPort
    have refused : (validateAddress locale.toWideCtype
        (user ++ wide width '@' :: (host ++ wide width ':' :: port))).valid = false :=
      refused_of_colon noColon (List.mem_append_right _ List.mem_cons_self)
    rcases implied with ⟨-, also⟩ | ⟨normalized, same, -⟩
    · exact Bool.false_ne_true (also.symm.trans (named.accepted noAt))
    · rw [same] at refused
      cases refused
  · intro unnamed
    by_cases colon : wide width ':' ∈ rest
    · refine .inl ⟨refused_of_colon noColon colon, ?_⟩
      rw [Bool.eq_false_iff, ne_eq, valid_iff]
      rintro ⟨normalized, valid⟩
      obtain ⟨-, free, uri, form⟩ := validate_sip_iff.mp valid
      obtain ⟨-, plain, filled, hostPort⟩ := (user_value_iff noAt).mp form
      have allowed : AllowedText locale.toWideCtype user :=
        allowedText_iff.mpr ⟨fun unit member => free unit (List.mem_append_left _ member), plain⟩
      cases hostPort with
      | host known => exact validHost_noColon known colon
      | port known number => exact unnamed ⟨filled, allowed, _, _, rfl, known, number⟩
    · refine implied_of_colonless ?_ (List.mem_append_right _ List.mem_cons_self)
      intro found
      rcases List.mem_append.mp found with inside | behind
      · exact noColon inside
      rcases List.mem_cons.mp behind with same | hosted
      · exact colon_ne_at same
      · exact colon hosted

/-- The classes of the "C" locale are those of a locale. -/
def cLocale (width : WCharWidth) : LocaleCtype width where
  toWideCtype := .ascii width
  space _ _ := rfl
  control _ _ := rfl
  digit _ _ := rfl

theorem alice_implied :
    ImpliesScheme (cLocale .utf16) (wideText .utf16 "alice" ++ wide .utf16 '@' ::
      wideText .utf16 "example.com") := by
  refine (implied_scheme_iff _ (by decide) (by decide)).mpr ?_
  rintro ⟨-, -, host, port, same, -⟩
  have none : wide .utf16 ':' ∉ wideText .utf16 "example.com" := by decide
  exact none (same ▸ List.mem_append_right _ List.mem_cons_self)

theorem alice_with_port : ¬ SchemeTransparent (cLocale .utf16) := by
  intro transparent
  have implied := transparent (wideText .utf16 "alice") (wideText .utf16 "example.com:5061")
    (by decide) (by decide)
  rcases implied with ⟨-, accepted⟩ | ⟨normalized, same, -⟩
  · exact absurd accepted (by decide)
  · have refused : (validateAddress (WideCtype.ascii .utf16) (wideText .utf16 "alice" ++
        wide .utf16 '@' :: wideText .utf16 "example.com:5061")).error = .invalidScheme := by decide
    cases refused.symm.trans (congrArg AddressResult.error same)

end AxeVoice.Sip
