import AxeVoice.Foundation.AsciiText
import AxeVoice.Sip.Address

/-!
# The shape of valid destinations

What the syntax check accepts, as a grammar: an optional scheme in front of a
dial string, or of a user and a host.  The check accepts a text exactly where it
has one of these shapes, and answers with the shape's normal form.
-/

namespace AxeVoice.Sip

open Foundation

variable {width : WCharWidth}

inductive AddressScheme where
  | none
  | sip
  | sips
  deriving DecidableEq, Repr

/-- The scheme as it is typed. -/
def AddressScheme.text (width : WCharWidth) : AddressScheme → WString width
  | .none => []
  | .sip => wideText width "sip:"
  | .sips => wideText width "sips:"

/-- The scheme of the normal form of a URI. -/
def AddressScheme.explicit : AddressScheme → AddressScheme
  | .none => .sip
  | scheme => scheme

/-- None of the characters that no part may hold. -/
def PlainText (text : WString width) : Prop := text.findFirstOf "<>\\\"?;" = false

theorem PlainText.append_iff (front rest : WString width) :
    PlainText (front ++ rest) ↔ PlainText front ∧ PlainText rest := by
  unfold PlainText WString.findFirstOf
  rw [List.any_append, Bool.or_eq_false_iff]

theorem PlainText.cons_iff {unit : WChar width} {rest : WString width} :
    PlainText (unit :: rest) ↔ PlainText [unit] ∧ PlainText rest :=
  PlainText.append_iff [unit] rest

/-- The part behind the scheme, with whether it is a URI. -/
inductive AddressValue (ctype : WideCtype width) : WString width → Bool → Prop
  | dial {value : WString width} (filled : value ≠ []) (plain : PlainText value)
      (noAt : wide width '@' ∉ value) (dials : value.all (dialUnit ctype) = true) :
      AddressValue ctype value false
  | uri {user host : WString width} (userFilled : user ≠ []) (hostFilled : host ≠ [])
      (userPlain : PlainText user) (hostPlain : PlainText host) (userNoAt : wide width '@' ∉ user)
      (hostNoAt : wide width '@' ∉ host) (hostValid : validateHostPort host = .none) :
      AddressValue ctype (user ++ wide width '@' :: host) true

theorem AddressValue.filled {ctype : WideCtype width} {value : WString width} {uri : Bool}
    (form : AddressValue ctype value uri) : value ≠ [] := by
  cases form with
  | dial filled => exact filled
  | uri => simp

/-- A valid destination with its normal form. -/
inductive AddressForm (ctype : WideCtype width) : WString width → WString width → Prop
  | dial (scheme : AddressScheme) {value : WString width} (form : AddressValue ctype value false)
      (colonless : scheme = .none → wide width ':' ∉ value) :
      AddressForm ctype (scheme.text width ++ value) (scheme.text width ++ value)
  | uri (scheme : AddressScheme) {value : WString width} (form : AddressValue ctype value true)
      (colonless : scheme = .none → wide width ':' ∉ value) :
      AddressForm ctype (scheme.text width ++ value) (scheme.explicit.text width ++ value)

theorem contains_iff {text : WString width} {character : Char} :
    text.contains character = true ↔ wide width character ∈ text := by
  unfold WString.contains
  simp

/-- The normal form that the check of the part behind the scheme gives. -/
def normalForm (input value : WString width) (uri : Bool) : WString width :=
  if input.contains ':' then input else if uri then wideText width "sip:" ++ value else value

theorem plain_at : PlainText [wide width '@'] := by
  unfold PlainText
  cases width <;> decide

theorem validateSchemeless_of_form {ctype : WideCtype width} {input value : WString width}
    {uri : Bool} (form : AddressValue ctype value uri) :
    validateSchemeless ctype input value = ⟨.none, normalForm input value uri⟩ := by
  cases form with
  | dial filled plain noAt dials =>
      unfold validateSchemeless
      rw [if_neg (by simpa using filled), if_neg (by rw [plain]; exact nofun),
        WString.find_none.mpr noAt]
      dsimp only
      rw [if_pos dials]
      rfl
  | @uri user host userFilled hostFilled userPlain hostPlain userNoAt hostNoAt hostValid =>
      have plain : PlainText (user ++ wide width '@' :: host) :=
        (PlainText.append_iff _ _).mpr ⟨userPlain, PlainText.cons_iff.mpr ⟨plain_at, hostPlain⟩⟩
      have behind : (user ++ wide width '@' :: host).drop (user.length + 1) = host := by simp
      have one : ¬ (user.length = 0 || user.length = (user ++ wide width '@' :: host).length - 1 ||
          WString.contains host '@') = true := by
        have userLength := List.length_pos_iff.mpr userFilled
        have hostLength := List.length_pos_iff.mpr hostFilled
        have none : ¬ WString.contains host '@' = true := fun found => hostNoAt (contains_iff.mp found)
        simp only [Bool.or_eq_true, decide_eq_true_eq, List.length_append, List.length_cons, not_or]
        exact ⟨⟨by omega, by omega⟩, none⟩
      unfold validateSchemeless
      rw [if_neg (by simp), if_neg (by rw [plain]; exact nofun), WString.find_append userNoAt]
      dsimp only
      rw [behind, if_neg one, hostValid]
      rfl

theorem form_of_validateSchemeless {ctype : WideCtype width} {input value normalized : WString width}
    (valid : validateSchemeless ctype input value = ⟨.none, normalized⟩) :
    ∃ uri, AddressValue ctype value uri ∧ normalized = normalForm input value uri := by
  unfold validateSchemeless at valid
  split at valid
  · cases valid
  next filled =>
  split at valid
  · cases valid
  next plain =>
  have plainValue : PlainText value := Bool.eq_false_iff.mpr plain
  split at valid
  · next absent =>
      split at valid
      · next dials =>
          cases valid
          exact ⟨false, .dial (by simpa using filled) plainValue (WString.find_none.mp absent) dials,
            rfl⟩
      · cases valid
  · next position found =>
      split at valid
      · cases valid
      next around =>
      split at valid
      · next hostValid =>
          cases valid
          obtain ⟨inside, split, noAt⟩ := WString.find_some found
          simp only [Bool.or_eq_true, decide_eq_true_eq, not_or] at around
          refine ⟨true, ?_, rfl⟩
          rw [split] at plainValue ⊢
          obtain ⟨userPlain, behind⟩ := (PlainText.append_iff _ _).mp plainValue
          refine .uri ?_ ?_ userPlain (PlainText.cons_iff.mp behind).2 noAt ?_ hostValid
          · intro empty
            have := congrArg List.length empty
            rw [List.length_take, List.length_nil] at this
            omega
          · intro empty
            have := congrArg List.length empty
            rw [List.length_drop, List.length_nil] at this
            omega
          · exact fun found => around.2 (contains_iff.mpr found)
      · next refused => exact absurd (congrArg AddressResult.error valid) refused

/-- A unit that no destination may hold. -/
def BlankFree (ctype : WideCtype width) (text : WString width) : Prop :=
  ∀ unit ∈ text, ctype.iswspace unit = false ∧ ctype.iswcntrl unit = false

theorem colon_mem_scheme {scheme : AddressScheme} (named : scheme ≠ .none) :
    wide width ':' ∈ scheme.text width := by
  cases scheme with
  | none => exact absurd rfl named
  | sip => cases width <;> decide
  | sips => cases width <;> decide

/-- A named scheme is the name in front of a colon. -/
theorem named_scheme {name : WString width}
    (named : name = wideText width "sip" ∨ name = wideText width "sips") :
    ∃ scheme : AddressScheme, scheme ≠ .none ∧ scheme.text width = name ++ [wide width ':'] := by
  rcases named with rfl | rfl
  · exact ⟨.sip, nofun, rfl⟩
  · exact ⟨.sips, nofun, rfl⟩

theorem blankFree_iff {ctype : WideCtype width} {input : WString width} :
    BlankFree ctype input ↔
      ¬ (input.any fun unit => ctype.iswspace unit || ctype.iswcntrl unit) = true := by
  simp only [BlankFree, List.any_eq_true, Bool.or_eq_true, not_exists, not_and, not_or,
    Bool.not_eq_true]

/-- Behind a named scheme the check goes on with the rest. -/
theorem validateAddress_named {ctype : WideCtype width} {scheme : AddressScheme}
    (named : scheme ≠ .none) {value : WString width}
    (blankFree : BlankFree ctype (scheme.text width ++ value)) :
    validateAddress ctype (scheme.text width ++ value) =
      validateSchemeless ctype (scheme.text width ++ value) value := by
  have noColon : ∀ name, name = wideText width "sip" ∨ name = wideText width "sips" →
      wide width ':' ∉ name := by
    rintro name (rfl | rfl)
    · cases width <;> decide
    · cases width <;> decide
  have split : ∃ name, (name = wideText width "sip" ∨ name = wideText width "sips") ∧
      scheme.text width ++ value = name ++ wide width ':' :: value := by
    cases scheme with
    | none => exact absurd rfl named
    | sip => exact ⟨wideText width "sip", .inl rfl, rfl⟩
    | sips => exact ⟨wideText width "sips", .inr rfl, rfl⟩
  obtain ⟨name, known, split⟩ := split
  rw [split] at blankFree ⊢
  unfold validateAddress
  rw [if_neg (by simp), if_neg (blankFree_iff.mp blankFree), WString.find_append (noColon name known)]
  dsimp only
  rw [List.take_left, if_neg]
  · have behind : (name ++ wide width ':' :: value).drop (name.length + 1) = value := by simp
    rw [behind]
  · rcases known with rfl | rfl
    · simp
    · simp

/-- Without a colon the check looks at the whole text. -/
theorem validateAddress_unnamed {ctype : WideCtype width} {value : WString width}
    (filled : value ≠ []) (blankFree : BlankFree ctype value) (noColon : wide width ':' ∉ value) :
    validateAddress ctype value = validateSchemeless ctype value value := by
  unfold validateAddress
  rw [if_neg (by simpa using filled), if_neg (blankFree_iff.mp blankFree),
    WString.find_none.mpr noColon]

theorem normalForm_named {input value : WString width} {uri : Bool}
    (named : wide width ':' ∈ input) : normalForm input value uri = input :=
  if_pos (contains_iff.mpr named)

theorem normalForm_unnamed {input value : WString width} {uri : Bool}
    (unnamed : wide width ':' ∉ input) :
    normalForm input value uri = if uri then wideText width "sip:" ++ value else value :=
  if_neg fun found => unnamed (contains_iff.mp found)

/-- A destination that names its scheme is its own normal form. -/
theorem validateAddress_explicit {ctype : WideCtype width} {scheme : AddressScheme}
    {value : WString width} {uri : Bool} (named : scheme ≠ .none)
    (form : AddressValue ctype value uri) (blankFree : BlankFree ctype (scheme.text width ++ value)) :
    validateAddress ctype (scheme.text width ++ value) = ⟨.none, scheme.text width ++ value⟩ := by
  rw [validateAddress_named named blankFree, validateSchemeless_of_form form,
    normalForm_named (List.mem_append_left _ (colon_mem_scheme named))]

/-- The check accepts a text exactly where it is free of blanks and has one of the shapes. -/
theorem validateAddress_iff {ctype : WideCtype width} {input normalized : WString width} :
    validateAddress ctype input = ⟨.none, normalized⟩ ↔
      BlankFree ctype input ∧ AddressForm ctype input normalized := by
  constructor
  · intro valid
    unfold validateAddress at valid
    split at valid
    · cases valid
    split at valid
    · cases valid
    next free =>
    refine ⟨blankFree_iff.mpr free, ?_⟩
    split at valid
    · next absent =>
        have noColon := WString.find_none.mp absent
        obtain ⟨uri, form, rfl⟩ := form_of_validateSchemeless valid
        rw [normalForm_unnamed noColon]
        cases uri with
        | false => exact .dial .none form fun _ => noColon
        | true => exact .uri .none form fun _ => noColon
    · next colon found =>
        dsimp only at valid
        split at valid
        · cases valid
        next known =>
        simp only [Bool.and_eq_true, decide_eq_true_eq, not_and_or, not_not, ne_eq] at known
        obtain ⟨scheme, named, text⟩ := named_scheme known
        obtain ⟨_, split, _⟩ := WString.find_some found
        have around : input = scheme.text width ++ input.drop (colon + 1) := by
          rw [text, List.append_assoc]
          exact split
        obtain ⟨uri, form, rfl⟩ := form_of_validateSchemeless valid
        rw [normalForm_named (split ▸ List.mem_append_right _ List.mem_cons_self), around]
        have explicit : scheme.explicit = scheme := by
          cases scheme with
          | none => exact absurd rfl named
          | sip | sips => rfl
        cases uri with
        | false => exact .dial scheme form fun none => absurd none named
        | true =>
            have shape := AddressForm.uri scheme form fun none => absurd none named
            rw [explicit] at shape
            exact shape
  · rintro ⟨blankFree, form⟩
    cases form with
    | dial scheme form colonless =>
        cases scheme with
        | none =>
            rw [AddressScheme.text, List.nil_append] at blankFree ⊢
            rw [validateAddress_unnamed form.filled blankFree (colonless rfl),
              validateSchemeless_of_form form, normalForm_unnamed (colonless rfl)]
            rfl
        | sip | sips => exact validateAddress_explicit nofun form blankFree
    | uri scheme form colonless =>
        cases scheme with
        | none =>
            rw [AddressScheme.text, List.nil_append] at blankFree ⊢
            rw [validateAddress_unnamed form.filled blankFree (colonless rfl),
              validateSchemeless_of_form form, normalForm_unnamed (colonless rfl)]
            rfl
        | sip | sips => exact validateAddress_explicit nofun form blankFree

/-- Printable, and none of the characters that divide a URI or that no part of it may hold. -/
structure CleanUnit (unit : WChar width) : Prop where
  printable : 33 ≤ unit.toNat ∧ unit.toNat ≤ 126
  plain : ∀ character ∈ ['<', '>', '\\', '"', '?', ';', '@', '%'], unit.toNat ≠ character.toNat

/-- The codes of the characters that are not clean. -/
theorem cleanUnit_of_code {unit : WChar width} (printable : 33 ≤ unit.toNat ∧ unit.toNat ≤ 126)
    (other : unit.toNat ∉ [60, 62, 92, 34, 63, 59, 64, 37]) : CleanUnit unit := by
  refine ⟨printable, fun character listed same => other ?_⟩
  have codes : ∀ character ∈ ['<', '>', '\\', '"', '?', ';', '@', '%'],
      character.toNat ∈ [60, 62, 92, 34, 63, 59, 64, 37] := by simp
  rw [same]
  exact codes character listed

def CleanText (text : WString width) : Prop := ∀ unit ∈ text, CleanUnit unit

theorem CleanText.append {front rest : WString width} (first : CleanText front)
    (second : CleanText rest) : CleanText (front ++ rest) := by
  intro unit member
  rcases List.mem_append.mp member with inside | behind
  · exact first unit inside
  · exact second unit behind

theorem CleanUnit.ne_wide {unit : WChar width} (clean : CleanUnit unit) {character : Char}
    (listed : character ∈ ['<', '>', '\\', '"', '?', ';', '@', '%']) :
    unit ≠ wide width character := by
  have small : ∀ character ∈ ['<', '>', '\\', '"', '?', ';', '@', '%'], character.toNat < 128 := by
    simp
  rw [ne_eq, eq_wide_iff (small character listed)]
  exact clean.plain character listed

theorem CleanText.plain {text : WString width} (clean : CleanText text) : PlainText text := by
  have within : ∀ character ∈ "<>\\\"?;".toList,
      character ∈ ['<', '>', '\\', '"', '?', ';', '@', '%'] := by simp
  apply Bool.eq_false_iff.mpr
  intro found
  obtain ⟨unit, member, found⟩ := List.any_eq_true.mp found
  obtain ⟨character, listed, same⟩ := List.any_eq_true.mp found
  exact (clean unit member).ne_wide (within character listed) (beq_iff_eq.mp same)

theorem CleanText.noAt {text : WString width} (clean : CleanText text) : wide width '@' ∉ text :=
  fun found => (clean _ found).ne_wide (by simp) rfl

theorem hostAlnum_iff {unit : WChar width} : hostAlnum unit = true ↔
    (97 ≤ unit.toNat ∧ unit.toNat ≤ 122) ∨ (65 ≤ unit.toNat ∧ unit.toNat ≤ 90) ∨
      (48 ≤ unit.toNat ∧ unit.toNat ≤ 57) := by
  simp only [hostAlnum, Bool.or_eq_true, within_iff, or_assoc]
  rfl

/-- Letters, digits, dots, hyphens and colons. -/
def HostUnit (unit : WChar width) : Prop :=
  hostAlnum unit = true ∨ unit.toNat = 45 ∨ unit.toNat = 46 ∨ unit.toNat = 58

theorem HostUnit.clean {unit : WChar width} (host : HostUnit unit) : CleanUnit unit := by
  rw [HostUnit, hostAlnum_iff] at host
  apply cleanUnit_of_code
  · omega
  · intro code
    simp only [List.mem_cons, List.not_mem_nil, or_false] at code
    omega

theorem hostUnits_of_validSipHostFrom {host : WString width} {label : Nat} {lastAlnum : Bool}
    (valid : validSipHostFrom host label lastAlnum = true) :
    ∀ unit ∈ host, HostUnit unit ∧ unit.toNat ≠ 58 := by
  induction host generalizing label lastAlnum with
  | nil => exact nofun
  | cons unit rest ih =>
      have dash : unit = wide width '-' ↔ unit.toNat = 45 := eq_wide_iff (by decide)
      have dot : unit = wide width '.' ↔ unit.toNat = 46 := eq_wide_iff (by decide)
      have head : (HostUnit unit ∧ unit.toNat ≠ 58) ∧
          ∃ label lastAlnum, validSipHostFrom rest label lastAlnum = true := by
        rw [validSipHostFrom] at valid
        split at valid
        · next isDot =>
            split at valid
            · cases valid
            · exact ⟨⟨.inr (.inr (.inl (dot.mp isDot))), by rw [dot.mp isDot]; decide⟩, _, _, valid⟩
        split at valid
        · cases valid
        next known =>
        split at valid
        · cases valid
        · refine ⟨?_, _, _, valid⟩
          simp only [Bool.and_eq_true, Bool.not_eq_true', Bool.or_eq_true, decide_eq_true_eq, not_and,
            not_or, ne_eq, not_not] at known
          cases alnum : hostAlnum unit with
          | true =>
              have range := hostAlnum_iff.mp alnum
              exact ⟨.inl alnum, by omega⟩
          | false =>
              have isDash := dash.mp (known alnum).1
              exact ⟨.inr (.inl isDash), by omega⟩
      obtain ⟨first, label, lastAlnum, later⟩ := head
      intro other member
      rcases List.mem_cons.mp member with rfl | behind
      · exact first
      · exact ih later other behind

theorem hostUnits_of_validSipHost {host : WString width} (valid : validSipHost host = true) :
    host ≠ [] ∧ host.length ≤ 253 ∧ ∀ unit ∈ host, HostUnit unit ∧ unit.toNat ≠ 58 := by
  unfold validSipHost at valid
  split at valid
  · cases valid
  next bounds =>
  simp only [Bool.or_eq_true, decide_eq_true_eq, not_or, Nat.not_lt, List.isEmpty_iff] at bounds
  exact ⟨bounds.1, bounds.2, hostUnits_of_validSipHostFrom valid⟩

theorem digits_of_portNumberFrom {port : WString width} {number total : Nat}
    (read : portNumberFrom port number = some total) :
    ∀ unit ∈ port, unit.within '0' '9' = true := by
  induction port generalizing number with
  | nil => exact nofun
  | cons unit rest ih =>
      rw [portNumberFrom] at read
      split at read
      · next digit =>
          intro other member
          rcases List.mem_cons.mp member with rfl | behind
          · exact digit
          · exact ih read other behind
      · cases read

/-- What follows the `@` of a valid URI holds letters, digits, dots, hyphens and colons only. -/
theorem hostUnits_of_validateHostPort {host : WString width}
    (valid : validateHostPort host = .none) : ∀ unit ∈ host, HostUnit unit := by
  unfold validateHostPort at valid
  dsimp only at valid
  split at valid
  · cases valid
  next known =>
  have front := (hostUnits_of_validSipHost (by simpa using known)).2.2
  split at valid
  · next absent =>
      rw [absent, Option.getD_none, List.take_length] at front
      exact fun unit member => (front unit member).1
  · next position found =>
      split at valid
      · next port =>
          rw [found, Option.getD_some] at front
          obtain ⟨_, split, _⟩ := WString.find_some found
          intro unit member
          rw [split] at member
          rcases List.mem_append.mp member with inside | behind
          · exact (front unit inside).1
          rcases List.mem_cons.mp behind with rfl | digit
          · exact .inr (.inr (.inr (wide_toNat width (by decide))))
          · unfold validPort at port
            split at port
            · cases port
            split at port
            · cases port
            next number read =>
            have range := within_iff.mp (digits_of_portNumberFrom read unit digit)
            exact .inl (hostAlnum_iff.mpr (.inr (.inr range)))
      · cases valid

/-- A valid host with a valid port. -/
theorem validateHostPort_of_valid {host port : WString width} (hostValid : validSipHost host = true)
    (portValid : validPort port = true) :
    validateHostPort (host ++ wide width ':' :: port) = .none := by
  have colonless : wide width ':' ∉ host := fun found =>
    ((hostUnits_of_validSipHost hostValid).2.2 _ found).2 (wide_toNat width (by decide))
  have behind : (host ++ wide width ':' :: port).drop (host.length + 1) = port := by simp
  unfold validateHostPort
  rw [WString.find_append colonless]
  dsimp only
  rw [Option.getD_some, List.take_left, hostValid, behind, portValid]
  rfl

end AxeVoice.Sip
