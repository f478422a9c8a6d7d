import AxeVoice.Contacts.Book
import AxeVoice.Native.Destinations
import AxeVoice.Sip.AddressShapes
import AxeVoice.Sip.RecentDestinations

/-!
# One language of destinations

The book of contacts, the recent destinations and the native call accept the same
destinations: a valid address whose user is made of the characters that a native
URI may hold.
-/

namespace AxeVoice.Native

open Foundation Sip
open RecentDestinations (userUnit)

variable {width : WCharWidth}

def PrintableText (text : WString width) : Prop := ∀ unit ∈ text, IsPrintable unit

theorem PrintableText.append {front rest : WString width} (first : PrintableText front)
    (second : PrintableText rest) : PrintableText (front ++ rest) := by
  intro unit member
  rcases List.mem_append.mp member with inside | behind
  · exact first unit inside
  · exact second unit behind

theorem PrintableText.cons {unit : WChar width} {rest : WString width} (first : IsPrintable unit)
    (second : PrintableText rest) : PrintableText (unit :: rest) := by
  intro other member
  rcases List.mem_cons.mp member with rfl | behind
  · exact first
  · exact second other behind

theorem isByte_narrow {unit : WChar width} (printable : IsPrintable unit) {character : Char}
    (small : character.toNat < 128) :
    isByte (narrowUnit unit) character = decide (unit = wide width character) := by
  unfold isByte
  rw [narrowUnit_toNat printable]
  exact decide_eq_decide.mpr (eq_wide_iff small).symm

theorem withinByte_narrow {unit : WChar width} (printable : IsPrintable unit) (low high : Char) :
    withinByte (narrowUnit unit) low high = unit.within low high := by
  unfold withinByte WChar.within
  rw [narrowUnit_toNat printable]

theorem byteFind_narrow {text : WString width} (printable : PrintableText text) {character : Char}
    (small : character.toNat < 128) : byteFind (narrow text) character = text.find character := by
  induction text with
  | nil => rfl
  | cons unit rest ih =>
      have tail := ih fun other member => printable other (List.mem_cons_of_mem _ member)
      have head := isByte_narrow (printable unit List.mem_cons_self) small
      unfold byteFind at tail ⊢
      unfold WString.find List.idxOf? at tail ⊢
      rw [narrow_cons, List.findIdx?_cons, List.findIdx?_cons, head, tail]
      rfl

theorem byteStarts_narrow {text : WString width} (printable : PrintableText text) {literal : String}
    (ascii : ∀ letter ∈ literal.toList, letter.toNat < 128) :
    byteStarts (narrow text) literal = text.startsWith literal := by
  unfold byteStarts WString.startsWith asciiBytes wideText
  generalize literal.toList = letters at ascii ⊢
  induction letters generalizing text with
  | nil => cases text <;> rfl
  | cons letter letters ih =>
      cases text with
      | nil => rfl
      | cons unit rest =>
          have small := ascii letter List.mem_cons_self
          have tail := ih (fun other member => printable other (List.mem_cons_of_mem _ member))
            fun other member => ascii other (List.mem_cons_of_mem _ member)
          have head : (UInt8.ofNat letter.toNat == narrowUnit unit) = (wide width letter == unit) := by
            have same := isByte_narrow (printable unit List.mem_cons_self) small
            have code : (UInt8.ofNat letter.toNat).toNat = letter.toNat :=
              UInt8.toNat_ofNat_of_lt (Nat.lt_of_lt_of_le small (by decide))
            unfold isByte at same
            rw [← code] at same
            rw [Bool.eq_iff_iff] at same ⊢
            simp only [decide_eq_true_eq, beq_iff_eq, UInt8.toNat_inj] at same ⊢
            exact ⟨fun equal => (same.mp equal.symm).symm, fun equal => (same.mpr equal.symm).symm⟩
          rw [List.map_cons, List.map_cons, narrow_cons, List.isPrefixOf_cons_cons,
            List.isPrefixOf_cons_cons, head, tail]

theorem nativeUserByte_narrow {unit : WChar width} (printable : IsPrintable unit) :
    nativeUserByte (narrowUnit unit) = userUnit unit := by
  unfold nativeUserByte userUnit
  rw [withinByte_narrow printable, withinByte_narrow printable, withinByte_narrow printable,
    isByte_narrow printable (by decide), isByte_narrow printable (by decide),
    isByte_narrow printable (by decide), isByte_narrow printable (by decide),
    isByte_narrow printable (by decide), isByte_narrow printable (by decide)]

theorem nativeUserBytes_narrow {text : WString width} (printable : PrintableText text) :
    (narrow text).all nativeUserByte = text.all userUnit := by
  induction text with
  | nil => rfl
  | cons unit rest ih =>
      rw [narrow_cons, List.all_cons, List.all_cons,
        nativeUserByte_narrow (printable unit List.mem_cons_self),
        ih fun other member => printable other (List.mem_cons_of_mem _ member)]

theorem nativeAscii_printable {text : WString width} (printable : PrintableText text) :
    nativeAscii text = narrow text := by
  apply if_neg
  simp only [List.any_eq_true, Bool.or_eq_true, decide_eq_true_eq, not_exists, not_and, not_or,
    Nat.not_lt]
  exact printable

theorem nativeAscii_filled {text : WString width} (filled : nativeAscii text ≠ []) :
    PrintableText text := by
  unfold nativeAscii at filled
  split at filled
  · exact absurd rfl filled
  next printable =>
  simp only [List.any_eq_true, Bool.or_eq_true, decide_eq_true_eq, not_exists, not_and, not_or,
    Nat.not_lt] at printable
  exact printable

theorem userUnit_iff {unit : WChar width} : userUnit unit = true ↔
    (97 ≤ unit.toNat ∧ unit.toNat ≤ 122) ∨ (65 ≤ unit.toNat ∧ unit.toNat ≤ 90) ∨
      (48 ≤ unit.toNat ∧ unit.toNat ≤ 57) ∨ unit.toNat = 95 ∨ unit.toNat = 46 ∨ unit.toNat = 45 ∨
      unit.toNat = 43 ∨ unit.toNat = 42 ∨ unit.toNat = 35 := by
  have code (character : Char) (small : character.toNat < 128) :
      unit = wide width character ↔ unit.toNat = character.toNat := eq_wide_iff small
  simp only [userUnit, Bool.or_eq_true, decide_eq_true_eq, within_iff, or_assoc,
    code '_' (by decide), code '.' (by decide), code '-' (by decide), code '+' (by decide),
    code '*' (by decide), code '#' (by decide)]
  rfl

theorem userUnit_clean {unit : WChar width} (user : userUnit unit = true) :
    CleanUnit unit ∧ unit.toNat ≠ 58 := by
  rw [userUnit_iff] at user
  refine ⟨cleanUnit_of_code (by omega) fun code => ?_, by omega⟩
  simp only [List.mem_cons, List.not_mem_nil, or_false] at code
  omega

theorem cleanText_of_user {user : WString width} (all : user.all userUnit = true) :
    CleanText user := by
  intro unit member
  exact (userUnit_clean (List.all_eq_true.mp all unit member)).1

theorem printable_of_clean {text : WString width} (clean : CleanText text) :
    PrintableText text := by
  intro unit member
  have range := (clean unit member).printable
  exact ⟨by omega, range.2⟩

theorem wideText_printable {text : String}
    (ascii : ∀ letter ∈ text.toList, 32 ≤ letter.toNat ∧ letter.toNat ≤ 126) :
    PrintableText (wideText width text) := by
  intro unit member
  obtain ⟨letter, found, rfl⟩ := List.mem_map.mp member
  have range := ascii letter found
  unfold IsPrintable
  rw [wide_toNat width (by omega)]
  exact range

theorem scheme_printable (scheme : AddressScheme) : PrintableText (scheme.text width) := by
  cases scheme with
  | none => exact nofun
  | sip => exact wideText_printable (by simp)
  | sips => exact wideText_printable (by simp)

theorem scheme_noAt (scheme : AddressScheme) : wide width '@' ∉ scheme.text width := by
  have absent : (scheme.text width).contains '@' = false := by
    cases scheme <;> cases width <;> rfl
  exact fun found => absurd (absent.symm.trans (contains_iff.mpr found)) nofun

theorem sips_named : AddressScheme.sips ≠ .none := nofun

theorem starts_sips (scheme : AddressScheme) (named : scheme ≠ .none) (rest : WString width) :
    WString.startsWith (scheme.text width ++ rest) "sips:" = decide (scheme = .sips) := by
  have apart : (wide width 's' == wide width ':') = false := by cases width <;> decide
  cases scheme with
  | none => exact absurd rfl named
  | sip | sips => simp [WString.startsWith, AddressScheme.text, wideText, List.isPrefixOf_cons_cons, apart]

theorem starts_sip (scheme : AddressScheme) (named : scheme ≠ .none) (rest : WString width) :
    WString.startsWith (scheme.text width ++ rest) "sip:" = decide (scheme = .sip) := by
  have apart : (wide width ':' == wide width 's') = false := by cases width <;> decide
  cases scheme with
  | none => exact absurd rfl named
  | sip | sips => simp [WString.startsWith, AddressScheme.text, wideText, List.isPrefixOf_cons_cons, apart]

/-- A valid destination whose user is made of the characters of a native URI. -/
inductive Supported (ctype : WideCtype width) : WString width → Prop
  | dial (scheme : AddressScheme) {value : WString width} (filled : value ≠ [])
      (dials : value.all (dialUnit ctype) = true) (users : value.all userUnit = true) :
      Supported ctype (scheme.text width ++ value)
  | uri (scheme : AddressScheme) {user host : WString width} (userFilled : user ≠ [])
      (hostFilled : host ≠ []) (users : user.all userUnit = true)
      (hostValid : validateHostPort host = .none)
      (colonless : scheme = .none → wide width ':' ∉ host) :
      Supported ctype (scheme.text width ++ (user ++ wide width '@' :: host))

theorem user_noColon {user : WString width} (users : user.all userUnit = true) :
    wide width ':' ∉ user := by
  intro found
  exact (userUnit_clean (List.all_eq_true.mp users _ found)).2 (wide_toNat width (by decide))

theorem host_clean {host : WString width} (valid : validateHostPort host = .none) :
    CleanText host := fun unit member => (hostUnits_of_validateHostPort valid unit member).clean

/-- What a supported destination is made of: no blanks, no other scripts, and a valid shape. -/
theorem Supported.form {ctype : WideCtype width} {destination : WString width}
    (supported : Supported ctype destination) :
    (∀ unit ∈ destination, 33 ≤ unit.toNat ∧ unit.toNat ≤ 126) ∧
      ∃ normalized, AddressForm ctype destination normalized := by
  cases supported with
  | @dial scheme value filled dials users =>
      have clean := cleanText_of_user users
      constructor
      · exact fun unit member => ((scheme_clean scheme).append clean unit member).printable
      · exact ⟨_, .dial scheme (.dial filled clean.plain clean.noAt dials) fun _ => user_noColon users⟩
  | @uri scheme user host userFilled hostFilled users hostValid colonless =>
      have clean := cleanText_of_user users
      have hostClean := host_clean hostValid
      constructor
      · intro unit member
        rcases List.mem_append.mp member with named | behind
        · exact (scheme_clean scheme unit named).printable
        rcases List.mem_append.mp behind with inUser | rest
        · exact (clean unit inUser).printable
        rcases List.mem_cons.mp rest with rfl | inHost
        · rw [wide_toNat width (by decide)]
          decide
        · exact (hostClean unit inHost).printable
      · refine ⟨_, .uri scheme (.uri userFilled hostFilled clean.plain hostClean.plain clean.noAt
          hostClean.noAt hostValid) fun none => ?_⟩
        have apart : wide width ':' ≠ wide width '@' := by cases width <;> decide
        simp only [List.mem_append, List.mem_cons, not_or]
        exact ⟨user_noColon users, apart, colonless none⟩

variable {locale : LocaleCtype width}

theorem Supported.valid {destination : WString width}
    (supported : Supported locale.toWideCtype destination) :
    ∃ normalized, AddressForm locale.toWideCtype destination normalized ∧
      validateAddress locale.toWideCtype destination = ⟨.none, normalized⟩ := by
  obtain ⟨printable, normalized, form⟩ := supported.form
  refine ⟨normalized, form, validateAddress_iff.mpr ⟨?_, form⟩⟩
  exact fun unit member => locale.blankFree (printable unit member)

/-- The dial characters of a locale that are ASCII. -/
theorem userUnit_of_dialUnit {unit : WChar width} (printable : unit.toNat < 128)
    (dials : dialUnit locale.toWideCtype unit = true) : userUnit unit = true := by
  have code (character : Char) (small : character.toNat < 128) :
      unit = wide width character ↔ unit.toNat = character.toNat := eq_wide_iff small
  have digit := locale.digit unit printable
  unfold dialUnit at dials
  simp only [digit, WideCtype.ascii, Bool.or_eq_true, Bool.and_eq_true, decide_eq_true_eq,
    code '+' (by decide), code '*' (by decide), code '#' (by decide)] at dials
  rw [userUnit_iff]
  change ((48 ≤ unit.toNat ∧ unit.toNat ≤ 57 ∨ unit.toNat = 43) ∨ unit.toNat = 42) ∨
    unit.toNat = 35 at dials
  omega

/-- A valid ASCII destination is supported if its user is. -/
theorem supported_of_form {destination normalized : WString width}
    (printable : ∀ unit ∈ destination, unit.toNat < 128)
    (form : AddressForm locale.toWideCtype destination normalized)
    (users : ∀ scheme user host, destination = AddressScheme.text width scheme ++
      (user ++ wide width '@' :: host) → wide width '@' ∉ user →
      (scheme = .none → wide width ':' ∉ user ++ wide width '@' :: host) →
      user.all userUnit = true) :
    Supported locale.toWideCtype destination := by
  cases form with
  | dial scheme form colonless =>
      cases form with
      | dial filled plain noAt dials =>
          refine .dial scheme filled dials (List.all_eq_true.mpr fun unit member => ?_)
          exact userUnit_of_dialUnit (printable unit (List.mem_append_right _ member))
            (List.all_eq_true.mp dials unit member)
  | uri scheme form colonless =>
      cases form with
      | @uri user host userFilled hostFilled _ _ userNoAt _ hostValid =>
          refine .uri scheme userFilled hostFilled ?_ hostValid fun none found => ?_
          · exact users scheme user host rfl userNoAt colonless
          · exact colonless none (List.mem_append_right _ (List.mem_cons_of_mem _ found))

theorem startsWith_iff (text : WString width) (literal : String) :
    text.startsWith literal = true ↔
      text.take (wideText width literal).length = wideText width literal := by
  unfold WString.startsWith
  rw [List.isPrefixOf_iff_prefix, List.prefix_iff_eq_take]
  exact eq_comm

/-- A text without a colon begins with no scheme. -/
theorem unnamed_of_noColon {text : WString width} (noColon : wide width ':' ∉ text) :
    text.startsWith "sips:" = false ∧ text.startsWith "sip:" = false := by
  have begins (scheme : AddressScheme) (named : scheme ≠ .none) {literal : String}
      (same : wideText width literal = scheme.text width) : text.startsWith literal = false := by
    rw [Bool.eq_false_iff]
    intro found
    apply noColon
    have front := (startsWith_iff text literal).mp found
    rw [same] at front
    exact List.mem_of_mem_take (front ▸ colon_mem_scheme named)
  exact ⟨begins .sips sips_named rfl, begins .sip sip_named rfl⟩

theorem schemeLength_form {scheme : AddressScheme} {rest : WString width}
    (colonless : scheme = .none → wide width ':' ∉ rest) :
    Contacts.schemeLength (scheme.text width ++ rest) = (scheme.text width).length := by
  unfold Contacts.schemeLength
  cases scheme with
  | none =>
      obtain ⟨notSips, notSip⟩ := unnamed_of_noColon (colonless rfl)
      rw [AddressScheme.text, List.nil_append, notSips, notSip]
      rfl
  | sip => rw [starts_sips .sip sip_named, starts_sip .sip sip_named]; rfl
  | sips => rw [starts_sips .sips sips_named]; rfl

theorem withoutScheme_form {scheme : AddressScheme} {rest : WString width}
    (colonless : scheme = .none → wide width ':' ∉ rest) :
    RecentDestinations.withoutScheme (scheme.text width ++ rest) = rest := by
  have sips (text : WString width) :
      text.take 5 = wideText width "sips:" ↔ text.startsWith "sips:" = true :=
    (startsWith_iff text "sips:").symm
  have sip (text : WString width) :
      text.take 4 = wideText width "sip:" ↔ text.startsWith "sip:" = true :=
    (startsWith_iff text "sip:").symm
  unfold RecentDestinations.withoutScheme
  simp only [sips, sip]
  cases scheme with
  | none =>
      obtain ⟨notSips, notSip⟩ := unnamed_of_noColon (colonless rfl)
      rw [AddressScheme.text, List.nil_append, notSips, notSip]
      rfl
  | sip => rw [starts_sips .sip sip_named, starts_sip .sip sip_named]; rfl
  | sips => rw [starts_sips .sips sips_named]; rfl

theorem uri_find {scheme : AddressScheme} {user rest : WString width}
    (noAt : wide width '@' ∉ user) :
    WString.find (scheme.text width ++ (user ++ wide width '@' :: rest)) '@' =
      some ((scheme.text width).length + user.length) := by
  rw [← List.append_assoc, WString.find_append, List.length_append]
  simp only [List.mem_append, not_or]
  exact ⟨scheme_noAt scheme, noAt⟩

/-- The user of a URI, cut out by positions. -/
theorem uri_user {scheme : AddressScheme} {user rest : WString width} :
    ((scheme.text width ++ (user ++ wide width '@' :: rest)).take
      ((scheme.text width).length + user.length)).drop (scheme.text width).length = user := by
  rw [← List.append_assoc, ← List.length_append, List.take_left, List.drop_left]

theorem printableUnit_iff {unit : WChar width} :
    Contacts.printableUnit unit = true ↔ 33 ≤ unit.toNat ∧ unit.toNat ≤ 126 := by
  simp only [Contacts.printableUnit, Bool.not_eq_true', Bool.or_eq_false_iff,
    decide_eq_false_iff_not]
  omega

theorem Supported.filled {ctype : WideCtype width} {destination : WString width}
    (supported : Supported ctype destination) : destination ≠ [] := by
  cases supported with
  | dial scheme filled => exact fun empty => filled (List.append_eq_nil_iff.mp empty).2
  | uri => simp

/-- The colons of a supported URI are behind its scheme's or in its host. -/
theorem uri_colonless {scheme : AddressScheme} {user host : WString width}
    (users : user.all userUnit = true) (colonless : scheme = .none → wide width ':' ∉ host) :
    scheme = .none → wide width ':' ∉ user ++ wide width '@' :: host := by
  intro none
  have apart : wide width ':' ≠ wide width '@' := by cases width <;> decide
  simp only [List.mem_append, List.mem_cons, not_or]
  exact ⟨user_noColon users, apart, colonless none⟩

theorem dial_find {scheme : AddressScheme} {value : WString width}
    (users : value.all userUnit = true) :
    WString.find (scheme.text width ++ value) '@' = none := by
  rw [WString.find_none, List.mem_append, not_or]
  exact ⟨scheme_noAt scheme, (cleanText_of_user users).noAt⟩

/-- The last loop of the book's check. -/
def contactUserPart (destination : WString width) : Bool :=
  match destination.find '@' with
  | none => true
  | some position =>
      ((destination.take position).drop (Contacts.schemeLength destination)).all
        Contacts.contactUserUnit

theorem contactUserPart_uri {scheme : AddressScheme} {user host : WString width}
    (noAt : wide width '@' ∉ user)
    (colonless : scheme = .none → wide width ':' ∉ user ++ wide width '@' :: host) :
    contactUserPart (scheme.text width ++ (user ++ wide width '@' :: host)) =
      user.all userUnit := by
  unfold contactUserPart
  rw [uri_find noAt]
  dsimp only
  rw [schemeLength_form colonless, uri_user]
  rfl

/-- The last loop of the check of the recent destinations. -/
def recentUserPart (destination : WString width) : Bool :=
  let user := RecentDestinations.withoutScheme destination
  (user.take ((user.find '@').getD user.length)).all userUnit

theorem recentUserPart_uri {scheme : AddressScheme} {user host : WString width}
    (noAt : wide width '@' ∉ user)
    (colonless : scheme = .none → wide width ':' ∉ user ++ wide width '@' :: host) :
    recentUserPart (scheme.text width ++ (user ++ wide width '@' :: host)) = user.all userUnit := by
  unfold recentUserPart
  dsimp only
  rw [withoutScheme_form colonless, WString.find_append noAt, Option.getD_some, List.take_left]

/-- Both loops accept the user of a supported destination. -/
theorem Supported.userParts {ctype : WideCtype width} {destination : WString width}
    (supported : Supported ctype destination) :
    contactUserPart destination = true ∧ recentUserPart destination = true := by
  cases supported with
  | @dial scheme value filled dials users =>
      constructor
      · unfold contactUserPart
        rw [dial_find users]
      · unfold recentUserPart
        dsimp only
        rw [withoutScheme_form fun _ => user_noColon users,
          WString.find_none.mpr (cleanText_of_user users).noAt, Option.getD_none, List.take_length]
        exact users
  | uri scheme userFilled hostFilled users hostValid colonless =>
      have noAt := (cleanText_of_user users).noAt
      have unnamed := uri_colonless users colonless
      constructor
      · rw [contactUserPart_uri noAt unnamed]
        exact users
      · rw [recentUserPart_uri noAt unnamed]
        exact users

/-- The book accepts a destination exactly if it is supported and not too long. -/
theorem validDraft_iff {draft : Contacts.ContactDraft width}
    (named : Contacts.validName draft.name = true) :
    Contacts.validDraft locale.toWideCtype draft = true ↔
      draft.destination.length ≤ 128 ∧ Supported locale.toWideCtype draft.destination := by
  constructor
  · intro valid
    unfold Contacts.validDraft at valid
    split at valid
    · cases valid
    next first =>
    split at valid
    · cases valid
    next printable =>
    split at valid
    · cases valid
    next address =>
    change contactUserPart draft.destination = true at valid
    simp only [Bool.or_eq_true, Bool.not_eq_true', not_or, Bool.not_eq_false, decide_eq_true_eq,
      Nat.not_lt, List.all_eq_true, printableUnit_iff] at first printable address
    refine ⟨first.2, ?_⟩
    have accepted : validateAddress locale.toWideCtype draft.destination =
        ⟨.none, (validateAddress locale.toWideCtype draft.destination).normalized⟩ := by
      rw [← of_decide_eq_true address]
    apply supported_of_form _ (validateAddress_iff.mp accepted).2
    · rintro scheme user host split noAt colonless
      rw [split, contactUserPart_uri noAt colonless] at valid
      exact valid
    · intro unit member
      have range := printable unit member
      omega
  · rintro ⟨short, supported⟩
    obtain ⟨printable, _⟩ := supported.form
    obtain ⟨normalized, _, accepted⟩ := supported.valid
    have first : ¬ (!Contacts.validName draft.name || draft.destination.isEmpty ||
        decide (draft.destination.length > 128)) = true := by
      simp [named, supported.filled, short]
    have second : ¬ (!draft.destination.all Contacts.printableUnit) = true := by
      simp only [Bool.not_eq_true', Bool.not_eq_false, List.all_eq_true, printableUnit_iff]
      exact printable
    unfold Contacts.validDraft
    rw [if_neg first, if_neg second, accepted, if_neg (by simp [AddressResult.valid])]
    exact supported.userParts.1

/-- The recent destinations support the same texts. -/
theorem recentSupported_iff {destination : WString width} :
    RecentDestinations.supported locale.toWideCtype destination = true ↔
      Supported locale.toWideCtype destination := by
  constructor
  · intro valid
    unfold RecentDestinations.supported at valid
    split at valid
    · cases valid
    next printable =>
    split at valid
    · cases valid
    next address =>
    change recentUserPart destination = true at valid
    simp only [List.any_eq_true, Bool.or_eq_true, decide_eq_true_eq, not_exists, not_and, not_or,
      Nat.not_le, Bool.not_eq_true', Bool.not_eq_false, ge_iff_le] at printable address
    have accepted : validateAddress locale.toWideCtype destination =
        ⟨.none, (validateAddress locale.toWideCtype destination).normalized⟩ := by
      rw [← of_decide_eq_true address]
    apply supported_of_form _ (validateAddress_iff.mp accepted).2
    · rintro scheme user host split noAt colonless
      rw [split, recentUserPart_uri noAt colonless] at valid
      exact valid
    · intro unit member
      have range := printable unit member
      omega
  · intro supported
    obtain ⟨printable, _⟩ := supported.form
    obtain ⟨normalized, _, accepted⟩ := supported.valid
    have first : ¬ (destination.any fun unit =>
        decide (unit.toNat ≤ 32) || decide (unit.toNat ≥ 127)) = true := by
      simp only [List.any_eq_true, Bool.or_eq_true, decide_eq_true_eq, not_exists, not_and, not_or,
        Nat.not_le, ge_iff_le]
      intro unit member
      have range := printable unit member
      omega
    unfold RecentDestinations.supported
    rw [if_neg first, accepted, if_neg (by simp [AddressResult.valid])]
    exact supported.userParts.2

/-- A URI with this scheme, user and rest. -/
def uriText (scheme : AddressScheme) (user rest : WString width) : WString width :=
  scheme.text width ++ (user ++ wide width '@' :: rest)

theorem uriStart_narrow {scheme : AddressScheme} (named : scheme ≠ .none) {rest : WString width}
    (printable : PrintableText (scheme.text width ++ rest)) :
    uriStart (narrow (scheme.text width ++ rest)) = (scheme.text width).length := by
  unfold uriStart
  rw [byteStarts_narrow printable (by simp), starts_sips scheme named]
  cases scheme with
  | none => exact absurd rfl named
  | sip | sips => rfl

theorem narrow_part (text : WString width) (first last : Nat) :
    ((narrow text).take last).drop first = narrow ((text.take last).drop first) := by
  unfold narrow
  rw [List.map_drop, List.map_take]

/-- The last checks depend on the length and on the user only. -/
theorem checkedUri_text {scheme : AddressScheme} (named : scheme ≠ .none)
    {user rest : WString width} (filled : user ≠ []) (noAt : wide width '@' ∉ user)
    (printable : PrintableText (uriText scheme user rest)) :
    checkedUri (narrow (uriText scheme user rest)) =
      if (uriText scheme user rest).length > 512 then ⟨.tooLong, []⟩
      else if user.all userUnit then ⟨.none, narrow (uriText scheme user rest)⟩
      else ⟨.unsupportedCharacters, []⟩ := by
  have length := List.length_pos_iff.mpr filled
  have userPrintable : PrintableText user := fun unit member =>
    printable unit (List.mem_append_right _ (List.mem_append_left _ member))
  have behind : ¬ (scheme.text width).length + user.length ≤ (scheme.text width).length := by omega
  unfold checkedUri
  rw [narrow_length]
  split
  · rfl
  rw [byteFind_narrow printable (by decide)]
  unfold uriText at printable ⊢
  rw [uri_find noAt]
  dsimp only
  rw [uriStart_narrow named printable, if_neg behind, narrow_part, uri_user,
    nativeUserBytes_narrow userPrintable]
  cases user.all userUnit with
  | false => rfl
  | true => rfl

theorem digitUnit_toNat (width : WCharWidth) {digit : Nat} (small : digit < 10) :
    (widenByte width (digitByte digit)).toNat = 48 + digit := by
  rw [widenByte_toNat, digitByte_toNat small]

theorem portNumberFrom_digits {digits : List Nat} (small : ∀ digit ∈ digits, digit < 10)
    (number : Nat) :
    portNumberFrom (widen width (digits.map digitByte)) number =
      some (digits.foldl (fun total digit => total * 10 + digit) number) := by
  induction digits generalizing number with
  | nil => rfl
  | cons digit rest ih =>
      have value := digitUnit_toNat width (small digit List.mem_cons_self)
      have inside : (widenByte width (digitByte digit)).within '0' '9' = true := by
        rw [within_iff, value]
        have bound := small digit List.mem_cons_self
        change 48 ≤ _ ∧ _ ≤ 57
        omega
      have digitValue : (widenByte width (digitByte digit)).toNat - '0'.toNat = digit := by
        rw [value]
        exact Nat.add_sub_cancel_left _ _
      change portNumberFrom (widenByte width (digitByte digit) :: widen width (rest.map digitByte))
        number = _
      rw [portNumberFrom, if_pos inside, digitValue,
        ih fun other member => small other (List.mem_cons_of_mem _ member)]
      rfl

theorem foldl_digits (number : Nat) :
    (Nat.digits 10 number).reverse.foldl (fun total digit => total * 10 + digit) 0 = number := by
  have value := Nat.ofDigits_digits 10 number
  rw [Nat.ofDigits_eq_foldr] at value
  rw [List.foldl_reverse]
  calc (Nat.digits 10 number).foldr (fun digit total => total * 10 + digit) 0
      = (Nat.digits 10 number).foldr (fun digit total => digit + 10 * total) 0 := by
        congr 1
        funext digit total
        omega
    _ = number := by simpa using value

/-- The numeral of a port is a valid port. -/
theorem validPort_decimal {port : UInt16} (nonzero : port ≠ 0) :
    validPort (widen width (decimal port.toNat)) = true := by
  have bound : port.toNat < 65536 := port.toNat_lt
  have positive : port.toNat ≠ 0 := fun zero => nonzero (UInt16.toNat_inj.mp zero)
  have read : portNumberFrom (widen width (decimal port.toNat)) 0 = some port.toNat := by
    unfold decimal
    rw [if_neg positive, portNumberFrom_digits, foldl_digits]
    intro digit member
    exact Nat.digits_lt_base (by decide) (List.mem_reverse.mp member)
  have short : (widen width (decimal port.toNat)).length ≤ 5 := by
    rw [widen, List.length_map]
    exact decimal_length (by omega) (by decide)
  have filled : widen width (decimal port.toNat) ≠ [] := by
    intro empty
    rw [empty] at read
    exact positive (Option.some.inj read).symm
  unfold validPort
  rw [if_neg, read]
  · simp only [Bool.not_eq_true', Bool.or_eq_false_iff, decide_eq_false_iff_not]
    omega
  · simp only [Bool.or_eq_true, List.isEmpty_iff, decide_eq_true_eq, not_or, Nat.not_lt]
    exact ⟨filled, short⟩

/-! ## Transfers -/

theorem at_printable : IsPrintable (wide width '@') := by
  unfold IsPrintable
  rw [wide_toNat width (by decide)]
  decide

theorem uriText_printable (scheme : AddressScheme) {user rest : WString width}
    (userPrintable : PrintableText user) (restPrintable : PrintableText rest) :
    PrintableText (uriText scheme user rest) :=
  (scheme_printable scheme).append (userPrintable.append (.cons at_printable restPrintable))

/-- The part of a URI in front of its parameters passes the checks of a transfer. -/
theorem transferBase_text (locale : LocaleCtype width) {scheme : AddressScheme} (named : scheme ≠ .none)
    {user host : WString width} (filled : user ≠ []) (users : user.all userUnit = true)
    (hostFilled : host ≠ []) (hostValid : validateHostPort host = .none) :
    transferBase locale.toWideCtype (decide (scheme = .sips)) (narrow (uriText scheme user host)) =
      true := by
  have clean := cleanText_of_user users
  have printable : PrintableText (uriText scheme user host) :=
    uriText_printable scheme (printable_of_clean clean) (printable_of_clean (host_clean hostValid))
  have length := List.length_pos_iff.mpr filled
  have start : (if decide (scheme = .sips) = true then 5 else 4) = (scheme.text width).length := by
    cases scheme with
    | none => exact absurd rfl named
    | sip | sips => rfl
  have behind : ¬ (scheme.text width).length + user.length ≤ (scheme.text width).length := by omega
  have supported : Supported locale.toWideCtype (uriText scheme user host) :=
    .uri scheme filled hostFilled users hostValid fun none => absurd none named
  have accepted : validateAddress locale.toWideCtype (uriText scheme user host) =
      ⟨.none, uriText scheme user host⟩ := by
    obtain ⟨inside, _⟩ := supported.form
    apply validateAddress_explicit named
    · exact .uri filled hostFilled clean.plain (host_clean hostValid).plain clean.noAt
        (host_clean hostValid).noAt hostValid
    · exact fun unit member => locale.blankFree (inside unit member)
  unfold transferBase
  have found : WString.find (uriText scheme user host) '@' =
      some ((scheme.text width).length + user.length) := uri_find clean.noAt
  have cut : ((uriText scheme user host).take ((scheme.text width).length + user.length)).drop
      (scheme.text width).length = user := uri_user
  rw [byteFind_narrow printable (by decide), found]
  dsimp only
  rw [start, if_neg behind, narrow_part, cut, nativeUserBytes_narrow (printable_of_clean clean),
    users, widen_narrow printable, accepted]
  simp [AddressResult.valid]

/-- The parameter with the transport, or none. -/
inductive TransportSuffix (width : WCharWidth) (scheme : AddressScheme) : WString width → Prop
  | none : TransportSuffix width scheme []
  | tls : TransportSuffix width scheme (wideText width ";transport=tls")
  | udp (plain : scheme = .sip) : TransportSuffix width scheme (wideText width ";transport=udp")

/-- A printable unit that a transfer does not forbid. -/
def TransferUnit (unit : WChar width) : Prop :=
  33 ≤ unit.toNat ∧ unit.toNat ≤ 126 ∧ unit.toNat ∉ [37, 63, 34, 92, 60, 62]

theorem transferUnit_of_clean {unit : WChar width} (clean : CleanUnit unit) :
    TransferUnit unit := by
  refine ⟨clean.printable.1, clean.printable.2, fun excluded => ?_⟩
  have apart (character : Char) (listed : character ∈ ['<', '>', '\\', '"', '?', ';', '@', '%']) :=
    clean.plain character listed
  have percent := apart '%' (by simp)
  have question := apart '?' (by simp)
  have quote := apart '"' (by simp)
  have backslash := apart '\\' (by simp)
  have less := apart '<' (by simp)
  have greater := apart '>' (by simp)
  simp only [List.mem_cons, List.not_mem_nil, or_false] at excluded
  rcases excluded with same | same | same | same | same | same
  · exact percent same
  · exact question same
  · exact quote same
  · exact backslash same
  · exact less same
  · exact greater same

theorem transferUnit_of_wide {text : String}
    (ascii : ∀ letter ∈ text.toList, 33 ≤ letter.toNat ∧ letter.toNat ≤ 126 ∧
      letter.toNat ∉ [37, 63, 34, 92, 60, 62]) :
    ∀ unit ∈ wideText width text, TransferUnit unit := by
  intro unit member
  obtain ⟨letter, found, rfl⟩ := List.mem_map.mp member
  have range := ascii letter found
  unfold TransferUnit
  rw [wide_toNat width (by omega)]
  exact range

theorem TransferUnit.allowed {unit : WChar width} (unit_ : TransferUnit unit) :
    forbiddenInTransfer (narrowUnit unit) = false := by
  obtain ⟨low, high, other⟩ := unit_
  have value : (narrowUnit unit).toNat = unit.toNat := narrowUnit_toNat ⟨by omega, high⟩
  simp only [List.mem_cons, List.not_mem_nil, or_false, not_or] at other
  simp only [forbiddenInTransfer, isByte, value, Bool.or_eq_false_iff, decide_eq_false_iff_not]
  simp only [Nat.not_le]
  refine ⟨⟨⟨⟨⟨⟨⟨?_, ?_⟩, ?_⟩, ?_⟩, ?_⟩, ?_⟩, ?_⟩, ?_⟩
  · omega
  · omega
  · exact other.1
  · exact other.2.1
  · exact other.2.2.1
  · exact other.2.2.2.1
  · exact other.2.2.2.2.1
  · exact other.2.2.2.2.2

theorem TransportSuffix.units {scheme : AddressScheme} {suffix : WString width}
    (form : TransportSuffix width scheme suffix) : ∀ unit ∈ suffix, TransferUnit unit := by
  cases form with
  | none => exact nofun
  | tls => exact transferUnit_of_wide (by simp)
  | udp => exact transferUnit_of_wide (by simp)

section Transfers

variable {scheme : AddressScheme} {user host suffix : WString width}

/-- The units of a URI with its parameter are those that a transfer allows. -/
theorem transferUnits_text (users : user.all userUnit = true)
    (hostValid : validateHostPort host = .none) (form : TransportSuffix width scheme suffix) :
    ∀ unit ∈ uriText scheme user host ++ suffix, TransferUnit unit := by
  intro unit member
  rcases List.mem_append.mp member with inside | behind
  · rcases List.mem_append.mp inside with inScheme | rest
    · exact transferUnit_of_clean (scheme_clean scheme unit inScheme)
    rcases List.mem_append.mp rest with inUser | rest
    · exact transferUnit_of_clean (cleanText_of_user users unit inUser)
    rcases List.mem_cons.mp rest with rfl | inHost
    · unfold TransferUnit
      rw [wide_toNat width (by decide)]
      decide
    · exact transferUnit_of_clean (host_clean hostValid unit inHost)
  · exact form.units unit behind

/-- No parameter begins within the URI itself. -/
theorem uriText_noSemicolon (users : user.all userUnit = true)
    (hostValid : validateHostPort host = .none) : wide width ';' ∉ uriText scheme user host := by
  have apart : wide width ';' ≠ wide width '@' := by cases width <;> decide
  simp only [uriText, List.mem_append, List.mem_cons, not_or]
  exact ⟨fun found => (scheme_clean scheme _ found).ne_wide (by simp) rfl,
    fun found => (cleanText_of_user users _ found).ne_wide (by simp) rfl, apart,
    fun found => (host_clean hostValid _ found).ne_wide (by simp) rfl⟩

theorem narrow_take_append (front rest : WString width) :
    (narrow (front ++ rest)).take front.length = narrow front := by
  rw [narrow_append, ← narrow_length front, List.take_left]

theorem narrow_drop_append (front rest : WString width) :
    (narrow (front ++ rest)).drop front.length = narrow rest := by
  rw [narrow_append, ← narrow_length front, List.drop_left]

/-- What `validNativeTransferUri` does behind its checks of the scheme. -/
def transferParts (ctype : WideCtype width) (secure : Bool) (uri : Bytes) : Option ℕ → Bool
  | none => transferBase ctype secure uri
  | some split =>
      if !suffixAccepted secure (uri.drop split) then false
      else transferBase ctype secure (uri.take split)

/-- The parameter of the transport is split off at its semicolon. -/
theorem transferParts_text (named : scheme ≠ .none) (filled : user ≠ [])
    (users : user.all userUnit = true) (hostFilled : host ≠ [])
    (hostValid : validateHostPort host = .none) (form : TransportSuffix width scheme suffix) :
    transferParts locale.toWideCtype (decide (scheme = .sips))
      (narrow (uriText scheme user host ++ suffix))
      (WString.find (uriText scheme user host ++ suffix) ';') = true := by
  have base := transferBase_text locale named filled users hostFilled hostValid
  have noSemicolon : wide width ';' ∉ uriText scheme user host :=
    uriText_noSemicolon users hostValid
  have parameter (tail : WString width) (same : suffix = wide width ';' :: tail)
      (accepted : suffixAccepted (decide (scheme = .sips)) (narrow suffix) = true) :
      transferParts locale.toWideCtype (decide (scheme = .sips))
        (narrow (uriText scheme user host ++ suffix))
        (WString.find (uriText scheme user host ++ suffix) ';') = true := by
    have position : WString.find (uriText scheme user host ++ suffix) ';' =
        some (uriText scheme user host).length := by
      rw [same]
      exact WString.find_append noSemicolon
    rw [position, transferParts, narrow_drop_append, narrow_take_append, accepted]
    exact base
  cases form with
  | none =>
      rw [List.append_nil, WString.find_none.mpr noSemicolon]
      exact base
  | tls =>
      apply parameter (wideText width "transport=tls") rfl
      rw [narrow_wideText _ (by simp)]
      cases scheme <;> decide
  | udp plain =>
      apply parameter (wideText width "transport=udp") rfl
      rw [narrow_wideText _ (by simp), plain]
      decide

/-- A URI with a supported user, a valid host and the parameter of its transport is fit for a
transfer. -/
theorem validNativeTransferUri_text (named : scheme ≠ .none)
    (filled : user ≠ []) (users : user.all userUnit = true)
    (hostFilled : host ≠ []) (hostValid : validateHostPort host = .none)
    (form : TransportSuffix width scheme suffix)
    (short : (uriText scheme user (host ++ suffix)).length ≤ 512) :
    validNativeTransferUri locale.toWideCtype (narrow (uriText scheme user (host ++ suffix))) =
      true := by
  have split : uriText scheme user (host ++ suffix) = uriText scheme user host ++ suffix := by
    simp [uriText]
  have units := transferUnits_text users hostValid form
  have printable : PrintableText (uriText scheme user host ++ suffix) := by
    intro unit member
    obtain ⟨low, high, _⟩ := units unit member
    exact ⟨by omega, high⟩
  have allowed : ¬ (narrow (uriText scheme user host ++ suffix)).any forbiddenInTransfer = true := by
    rw [List.any_eq_true]
    rintro ⟨byte, member, forbidden⟩
    obtain ⟨unit, found, rfl⟩ := List.mem_map.mp member
    exact absurd ((units unit found).allowed.symm.trans forbidden) nofun
  have sips : byteStarts (narrow (uriText scheme user host ++ suffix)) "sips:" =
      decide (scheme = .sips) := by
    rw [byteStarts_narrow printable (by simp), uriText, List.append_assoc, starts_sips scheme named]
  have sip : byteStarts (narrow (uriText scheme user host ++ suffix)) "sip:" =
      decide (scheme = .sip) := by
    rw [byteStarts_narrow printable (by simp), uriText, List.append_assoc, starts_sip scheme named]
  have known : ¬ (!decide (scheme = .sips) && !decide (scheme = .sip)) = true := by
    cases scheme with
    | none => exact absurd rfl named
    | sip | sips => decide
  have bounds : ¬ ((narrow (uriText scheme user host ++ suffix)).isEmpty ||
      decide ((narrow (uriText scheme user host ++ suffix)).length > 512)) = true := by
    rw [split] at short
    simp only [Bool.or_eq_true, List.isEmpty_iff, decide_eq_true_eq, narrow_length, not_or,
      Nat.not_lt]
    refine ⟨fun empty => ?_, short⟩
    have none := congrArg List.length empty
    rw [narrow_length] at none
    simp [uriText] at none
  have parts := @transferParts_text _ locale _ _ _ _ named filled users hostFilled hostValid form
  rw [split]
  unfold validNativeTransferUri
  rw [if_neg bounds, if_neg allowed]
  dsimp only
  rw [sips, sip, if_neg known, byteFind_narrow printable (by decide)]
  revert parts
  cases WString.find (uriText scheme user host ++ suffix) ';' <;> exact id

end Transfers

/-- The account is valid where its configuration is. -/
theorem account_of_config {account : SipAccount width} {ca : WString width}
    {audio : NativeAudioRoute width} (valid : (nativeAccountConfig account ca audio).valid = true) :
    validSipHost account.server = true ∧ account.port ≠ 0 := by
  unfold nativeAccountConfig at valid
  split at valid
  · cases valid
  split at valid
  · cases valid
  next known =>
  simp only [Bool.or_eq_true, decide_eq_true_eq, not_or, ne_eq, not_not] at known
  have accepted := known.1.1
  unfold validateAccount at accepted
  split at accepted
  · cases accepted
  split at accepted
  · cases accepted
  split at accepted
  · cases accepted
  next port =>
  split at accepted
  · cases accepted
  next host =>
  exact ⟨by simpa using host, port⟩

/-- Without TLS nobody asks which certificates are trusted. -/
theorem config_udp {account : SipAccount width} (udp : account.useTls = false)
    (ca other : WString width) (audio : NativeAudioRoute width) :
    (nativeAccountConfig account ca audio).valid = (nativeAccountConfig account other audio).valid := by
  unfold nativeAccountConfig
  rw [udp]
  split
  · rfl
  split
  · rfl
  dsimp only
  split
  · rfl
  split
  · rfl
  · rfl

theorem narrow_widen (width : WCharWidth) (bytes : Bytes) : narrow (widen width bytes) = bytes := by
  induction bytes with
  | nil => rfl
  | cons byte rest ih =>
      have head : narrowUnit (widenByte width byte) = byte := by
        unfold narrowUnit
        rw [widenByte_toNat]
        exact UInt8.ofNat_toNat
      change narrowUnit (widenByte width byte) :: narrow (widen width rest) = _
      rw [head, ih]

/-- The scheme of the account's transport. -/
def accountScheme (account : SipAccount width) : AddressScheme :=
  if account.useTls then .sips else .sip

/-- The host and the port of the account's server. -/
def serverText (account : SipAccount width) : WString width :=
  account.server ++ wide width ':' :: widen width (decimal account.port.toNat)

/-- The parameter of the account's transport. -/
def accountSuffix (account : SipAccount width) : WString width :=
  wideText width (if account.useTls then ";transport=tls" else ";transport=udp")

theorem accountSuffix_form (account : SipAccount width) :
    TransportSuffix width (accountScheme account) (accountSuffix account) := by
  unfold accountScheme accountSuffix
  cases account.useTls with
  | true => exact .tls
  | false => exact .udp rfl

theorem accountScheme_named (account : SipAccount width) : accountScheme account ≠ .none := by
  unfold accountScheme
  split <;> exact nofun

theorem serverText_valid {account : SipAccount width} (host : validSipHost account.server = true)
    (port : account.port ≠ 0) : validateHostPort (serverText account) = .none :=
  validateHostPort_of_valid host (validPort_decimal port)

theorem serverText_length {account : SipAccount width} (host : validSipHost account.server = true) :
    (serverText account).length ≤ 259 := by
  have server := (hostUnits_of_validSipHost host).2.1
  have port : (decimal account.port.toNat).length ≤ 5 :=
    decimal_length (by have := account.port.toNat_lt; omega) (by decide)
  rw [serverText, List.length_append, List.length_cons, widen, List.length_map]
  omega

/-- A dial string on the account's route. -/
theorem routedUri_text {account : SipAccount width} (host : validSipHost account.server = true)
    {scheme : AddressScheme} {value : WString width}
    (printable : PrintableText (scheme.text width ++ value))
    (colonless : scheme = .none → wide width ':' ∉ value) :
    routedUri (narrow (scheme.text width ++ value)) account =
      narrow (uriText (accountScheme account) value (serverText account ++ accountSuffix account)) := by
  have server : PrintableText account.server := fun unit member =>
    printable_of_clean (fun _ inside => ((hostUnits_of_validSipHost host).2.2 _ inside).1.clean)
      unit member
  have bare : (if byteStarts (narrow (scheme.text width ++ value)) "sips:" then
        (narrow (scheme.text width ++ value)).drop 5
      else if byteStarts (narrow (scheme.text width ++ value)) "sip:" then
        (narrow (scheme.text width ++ value)).drop 4
      else narrow (scheme.text width ++ value)) = narrow value := by
    rw [byteStarts_narrow printable (by simp), byteStarts_narrow printable (by simp)]
    cases scheme with
    | none =>
        obtain ⟨notSips, notSip⟩ := unnamed_of_noColon (colonless rfl)
        rw [AddressScheme.text, List.nil_append, notSips, notSip]
        rfl
    | sip => rw [starts_sips .sip sip_named, starts_sip .sip sip_named]; rfl
    | sips => rw [starts_sips .sips sips_named]; rfl
  have front : asciiBytes (if account.useTls then "sips:" else "sip:") =
      narrow ((accountScheme account).text width) := by
    unfold accountScheme
    cases account.useTls with
    | true => exact (narrow_wideText "sips:" (by simp)).symm
    | false => exact (narrow_wideText "sip:" (by simp)).symm
  have rest : asciiBytes (if account.useTls then ";transport=tls" else ";transport=udp") =
      narrow (accountSuffix account) := by
    unfold accountSuffix
    cases account.useTls with
    | true => exact (narrow_wideText _ (by simp)).symm
    | false => exact (narrow_wideText _ (by simp)).symm
  have single (character : Char) (small : character.toNat < 128) :
      narrow [wide width character] = [UInt8.ofNat character.toNat] := by
    change [UInt8.ofNat (wide width character).toNat] = _
    rw [wide_toNat width small]
  have atSign : asciiBytes "@" = narrow [wide width '@'] := (single '@' (by decide)).symm
  have colon : asciiBytes ":" = narrow [wide width ':'] := (single ':' (by decide)).symm
  unfold routedUri
  dsimp only
  rw [bare, front, rest, atSign, colon, nativeAscii_printable server,
    ← narrow_widen width (decimal account.port.toNat)]
  simp only [← narrow_append, uriText, serverText, List.append_assoc, List.cons_append,
    List.nil_append]

/-- A call behind the check of the address. -/
def normalizedResult (account : SipAccount width) (normalized : WString width) :
    NativeDestinationResult :=
  let uri := nativeAscii normalized
  if uri.isEmpty then ⟨.unsupportedCharacters, []⟩
  else
    let secure := byteStarts uri "sips:"
    let plain := byteStarts uri "sip:"
    if (secure && !account.useTls) || (plain && account.useTls) then ⟨.transportMismatch, []⟩
    else if (byteFind uri '@').isNone then
      let trust := if account.useTls then wideText width "validated-ca" else []
      if !(nativeAccountConfig account trust {}).valid then ⟨.invalidAccount, []⟩
      else checkedUri (routedUri uri account)
    else checkedUri uri

theorem call_of_accepted {ctype : WideCtype width} {typed normalized : WString width}
    (accepted : validateAddress ctype typed = ⟨.none, normalized⟩) (account : SipAccount width) :
    nativeCallDestinationResult ctype typed account =
      if typed.length > 512 then ⟨.tooLong, []⟩ else normalizedResult account normalized := by
  unfold nativeCallDestinationResult
  rw [accepted]
  rfl

/-- The account's transport is that of an explicit scheme. -/
def Carries (account : SipAccount width) (scheme : AddressScheme) : Prop :=
  (scheme = .sips → account.useTls = true) ∧ (scheme = .sip → account.useTls = false)

/-- The URI of a text that names its scheme. -/
theorem normalizedResult_uri {account : SipAccount width} {scheme : AddressScheme}
    (named : scheme ≠ .none) {user host : WString width} (noAt : wide width '@' ∉ user)
    (printable : PrintableText (uriText scheme user host))
    (carried : Carries account scheme) :
    normalizedResult account (uriText scheme user host) =
      checkedUri (narrow (uriText scheme user host)) := by
  have present : ¬ (narrow (uriText scheme user host)).isEmpty = true := by
    rw [List.isEmpty_iff]
    intro empty
    have none := congrArg List.length empty
    rw [narrow_length] at none
    simp [uriText] at none
  have sips : byteStarts (narrow (uriText scheme user host)) "sips:" = decide (scheme = .sips) := by
    rw [byteStarts_narrow printable (by simp), uriText, starts_sips scheme named]
  have sip : byteStarts (narrow (uriText scheme user host)) "sip:" = decide (scheme = .sip) := by
    rw [byteStarts_narrow printable (by simp), uriText, starts_sip scheme named]
  have matched : ¬ (decide (scheme = .sips) && !account.useTls ||
      decide (scheme = .sip) && account.useTls) = true := by
    cases scheme with
    | none => exact absurd rfl named
    | sip => simp [carried.2 rfl]
    | sips => simp [carried.1 rfl]
  have found : byteFind (narrow (uriText scheme user host)) '@' =
      some ((scheme.text width).length + user.length) := by
    rw [byteFind_narrow printable (by decide)]
    exact uri_find noAt
  unfold normalizedResult
  rw [nativeAscii_printable printable]
  dsimp only
  rw [if_neg present, sips, sip, if_neg matched, found]
  rfl

/-- A dial string, which goes to the account's server. -/
theorem normalizedResult_dial {account : SipAccount width} {scheme : AddressScheme}
    {value : WString width} (filled : value ≠ []) (noAt : wide width '@' ∉ value)
    (colonless : scheme = .none → wide width ':' ∉ value)
    (printable : PrintableText (scheme.text width ++ value)) (carried : Carries account scheme) :
    normalizedResult account (scheme.text width ++ value) =
      if !(nativeAccountConfig account (if account.useTls then wideText width "validated-ca" else [])
        {}).valid then ⟨.invalidAccount, []⟩
      else checkedUri (routedUri (narrow (scheme.text width ++ value)) account) := by
  have present : ¬ (narrow (scheme.text width ++ value)).isEmpty = true := by
    rw [List.isEmpty_iff]
    intro empty
    have none := congrArg List.length empty
    rw [narrow_length, List.length_append] at none
    exact filled (List.length_eq_zero_iff.mp (Nat.eq_zero_of_add_eq_zero none).2)
  have matched : ¬ (byteStarts (narrow (scheme.text width ++ value)) "sips:" && !account.useTls ||
      byteStarts (narrow (scheme.text width ++ value)) "sip:" && account.useTls) = true := by
    rw [byteStarts_narrow printable (by simp), byteStarts_narrow printable (by simp)]
    cases scheme with
    | none =>
        obtain ⟨notSips, notSip⟩ := unnamed_of_noColon (colonless rfl)
        rw [AddressScheme.text, List.nil_append, notSips, notSip]
        simp
    | sip =>
        rw [starts_sips .sip sip_named, starts_sip .sip sip_named, carried.2 rfl]
        decide
    | sips =>
        rw [starts_sips .sips sips_named, starts_sip .sips sips_named, carried.1 rfl]
        decide
  have absent : byteFind (narrow (scheme.text width ++ value)) '@' = none := by
    rw [byteFind_narrow printable (by decide), WString.find_none, List.mem_append, not_or]
    exact ⟨scheme_noAt scheme, noAt⟩
  unfold normalizedResult
  rw [nativeAscii_printable printable]
  dsimp only
  rw [if_neg present, if_neg matched, absent]
  rfl

/-- A result without an error comes from printable text on the transport of the account. -/
theorem normalizedResult_succeeds {account : SipAccount width} {normalized : WString width}
    (succeeds : (normalizedResult account normalized).error = .none) :
    PrintableText normalized ∧
      (normalized.startsWith "sips:" = true → account.useTls = true) ∧
      (normalized.startsWith "sip:" = true → account.useTls = false) := by
  unfold normalizedResult at succeeds
  dsimp only at succeeds
  split at succeeds
  · cases succeeds
  next present =>
  have printable : PrintableText normalized := nativeAscii_filled (by simpa using present)
  refine ⟨printable, ?_⟩
  rw [nativeAscii_printable printable, byteStarts_narrow printable (by simp),
    byteStarts_narrow printable (by simp)] at succeeds
  split at succeeds
  · cases succeeds
  next matched =>
  simp only [Bool.or_eq_true, Bool.and_eq_true, Bool.not_eq_true', not_or, not_and,
    Bool.not_eq_false, Bool.not_eq_true] at matched
  exact matched

/-- What a call without an error has made of a normalized destination. -/
inductive CallCase (account : SipAccount width) (normalized : WString width) :
    NativeDestinationResult → Prop
  | failed {error : NativeDestinationError} (refused : error ≠ .none) :
      CallCase account normalized ⟨error, []⟩
  | done {scheme : AddressScheme} {user host suffix : WString width} (named : scheme ≠ .none)
      (filled : user ≠ []) (users : user.all userUnit = true) (hostFilled : host ≠ [])
      (hostValid : validateHostPort host = .none) (form : TransportSuffix width scheme suffix)
      (short : (uriText scheme user (host ++ suffix)).length ≤ 512) :
      CallCase account normalized ⟨.none, narrow (uriText scheme user (host ++ suffix))⟩

theorem checkedUri_cases {account : SipAccount width} {normalized : WString width}
    {scheme : AddressScheme} (named : scheme ≠ .none) {user host suffix : WString width}
    (filled : user ≠ []) (noAt : wide width '@' ∉ user)
    (printable : PrintableText (uriText scheme user (host ++ suffix))) (hostFilled : host ≠ [])
    (hostValid : validateHostPort host = .none) (form : TransportSuffix width scheme suffix) :
    CallCase account normalized (checkedUri (narrow (uriText scheme user (host ++ suffix)))) := by
  rw [checkedUri_text named filled noAt printable]
  split
  · exact .failed nofun
  next short =>
  split
  · next users => exact .done named filled users hostFilled hostValid form (Nat.not_lt.mp short)
  · exact .failed nofun

/-- The transport that a result without an error asks of the account. -/
theorem carries_of_succeeds {account : SipAccount width} {scheme : AddressScheme}
    {rest : WString width}
    (succeeds : (normalizedResult account (scheme.text width ++ rest)).error = .none) :
    Carries account scheme := by
  obtain ⟨_, secure, plain⟩ := normalizedResult_succeeds succeeds
  constructor
  · rintro rfl
    apply secure
    rw [starts_sips .sips sips_named]
    rfl
  · rintro rfl
    apply plain
    rw [starts_sip .sip sip_named]
    rfl

/-- A result with an error carries no URI. -/
def NativeDestinationResult.Silent (result : NativeDestinationResult) : Prop :=
  result.error ≠ .none → result.uri = []

theorem checkedUri_silent (uri : Bytes) : (checkedUri uri).Silent := by
  unfold checkedUri
  split
  · exact fun _ => rfl
  split
  · exact fun _ => rfl
  split
  · exact fun _ => rfl
  split
  · exact fun _ => rfl
  · exact fun failed => absurd rfl failed

theorem normalizedResult_silent (account : SipAccount width) (normalized : WString width) :
    (normalizedResult account normalized).Silent := by
  unfold normalizedResult
  dsimp only
  generalize (nativeAccountConfig account
    (if account.useTls then wideText width "validated-ca" else []) {}).valid = valid
  split
  · exact fun _ => rfl
  split
  · exact fun _ => rfl
  split
  · split
    · exact fun _ => rfl
    · exact checkedUri_silent _
  · exact checkedUri_silent _

/-- What a call makes of a valid destination. -/
theorem normalizedResult_cases {typed normalized : WString width}
    (form : AddressForm locale.toWideCtype typed normalized) (account : SipAccount width) :
    CallCase account normalized (normalizedResult account normalized) := by
  by_cases succeeds : (normalizedResult account normalized).error = .none
  · obtain ⟨printable, _⟩ := normalizedResult_succeeds succeeds
    cases form with
    | dial scheme form colonless =>
        cases form with
        | dial filled _ noAt _ =>
            rw [normalizedResult_dial filled noAt colonless printable (carries_of_succeeds succeeds)]
            generalize configured : (nativeAccountConfig account
              (if account.useTls then wideText width "validated-ca" else []) {}).valid = valid
            split
            · exact .failed nofun
            next ready =>
            have valid : valid = true := by simpa using ready
            rw [valid] at configured
            obtain ⟨host, port⟩ := account_of_config configured
            have server := serverText_valid host port
            have valuePrintable : PrintableText _ := fun unit member =>
              printable unit (List.mem_append_right _ member)
            have rest : PrintableText (serverText account ++ accountSuffix account) := by
              apply (printable_of_clean (host_clean server)).append
              intro unit member
              obtain ⟨low, high, _⟩ := (accountSuffix_form account).units unit member
              exact ⟨by omega, high⟩
            rw [routedUri_text host printable colonless]
            exact checkedUri_cases (accountScheme_named account) filled noAt
              (uriText_printable _ valuePrintable rest) (by simp [serverText]) server
              (accountSuffix_form account)
    | uri scheme form colonless =>
        cases form with
        | @uri user host filled hostFilled _ _ noAt _ hostValid =>
            have named := explicit_named scheme
            have result := normalizedResult_uri named noAt printable
              (carries_of_succeeds succeeds)
            unfold uriText at result
            rw [result]
            have whole : PrintableText (uriText scheme.explicit user (host ++ [])) := by
              rw [List.append_nil]
              exact printable
            have made : CallCase account (uriText scheme.explicit user host)
                (checkedUri (narrow (uriText scheme.explicit user (host ++ [])))) :=
              checkedUri_cases named filled noAt whole hostFilled hostValid .none
            rw [List.append_nil] at made
            exact made
  · have failed : CallCase account normalized ⟨(normalizedResult account normalized).error, []⟩ :=
      .failed succeeds
    rw [← normalizedResult_silent account normalized succeeds] at failed
    exact failed

/-! ## The equivalences -/

theorem accepted_of_valid {ctype : WideCtype width} {typed : WString width}
    (valid : (validateAddress ctype typed).valid = true) :
    validateAddress ctype typed = ⟨.none, (validateAddress ctype typed).normalized⟩ := by
  rw [← of_decide_eq_true valid]

theorem succeeds_iff {result : NativeDestinationResult} :
    result.succeeds = true ↔ result.error = .none ∧ result.uri ≠ [] := by
  simp [NativeDestinationResult.succeeds]

/-- A call without an error comes from a valid destination. -/
theorem accepted_of_succeeds {ctype : WideCtype width} {typed : WString width}
    {account : SipAccount width}
    (succeeds : (nativeCallDestinationResult ctype typed account).error = .none) :
    (validateAddress ctype typed).valid = true ∧
      (normalizedResult account (validateAddress ctype typed).normalized).error = .none := by
  have result := succeeds
  unfold nativeCallDestinationResult at succeeds
  split at succeeds
  · cases succeeds
  next short =>
  dsimp only at succeeds
  split at succeeds
  · cases succeeds
  next valid =>
  have known : (validateAddress ctype typed).valid = true := by simpa using valid
  rw [call_of_accepted (accepted_of_valid known), if_neg short] at result
  exact ⟨known, result⟩

/-- A transfer goes to the same URI as a call. -/
theorem transfer_eq_call (locale : LocaleCtype width) (typed : WString width)
    (account : SipAccount width) :
    nativeTransferDestinationResult locale.toWideCtype typed account =
      nativeCallDestinationResult locale.toWideCtype typed account := by
  apply if_pos
  simp only [Bool.or_eq_true, Bool.not_eq_true']
  cases succeeds : (nativeCallDestinationResult locale.toWideCtype typed account).succeeds with
  | false => exact .inl rfl
  | true =>
      right
      have error := (succeeds_iff.mp succeeds).1
      obtain ⟨valid, result⟩ := accepted_of_succeeds error
      have accepted := accepted_of_valid valid
      have short : ¬ typed.length > 512 := by
        intro long
        rw [call_of_accepted accepted, if_pos long] at error
        cases error
      have made := normalizedResult_cases (validateAddress_iff.mp accepted).2 account
      rw [call_of_accepted accepted, if_neg short]
      generalize normalizedResult account _ = outcome at result made ⊢
      cases made with
      | failed refused => exact absurd result refused
      | done named filled users hostFilled hostValid form short =>
          exact validNativeTransferUri_text named filled users hostFilled hostValid form short

/-- A normal form is its own normal form, and no shorter than what was typed. -/
theorem validateAddress_normalized {typed normalized : WString width}
    (accepted : validateAddress locale.toWideCtype typed = ⟨.none, normalized⟩) :
    validateAddress locale.toWideCtype normalized = ⟨.none, normalized⟩ ∧
      typed.length ≤ normalized.length := by
  obtain ⟨blankFree, form⟩ := validateAddress_iff.mp accepted
  cases form with
  | dial => exact ⟨accepted, Nat.le_refl _⟩
  | uri scheme form colonless =>
      have longer : (scheme.text width).length ≤ (scheme.explicit.text width).length := by
        cases scheme with
        | none => exact Nat.zero_le _
        | sip | sips => exact Nat.le_refl _
      constructor
      · apply validateAddress_explicit (explicit_named scheme) form
        intro unit member
        rcases List.mem_append.mp member with named | behind
        · exact locale.blankFree (scheme_clean scheme.explicit unit named).printable
        · exact blankFree unit (List.mem_append_right _ behind)
      · rw [List.length_append, List.length_append]
        omega

/-- Where the normal form is longer than what was typed, it is the URI of the call. -/
theorem normalizedResult_short {typed normalized : WString width} {account : SipAccount width}
    (form : AddressForm locale.toWideCtype typed normalized)
    (longer : typed.length < normalized.length)
    (succeeds : (normalizedResult account normalized).error = .none) : normalized.length ≤ 512 := by
  obtain ⟨printable, _⟩ := normalizedResult_succeeds succeeds
  cases form with
  | dial => exact absurd longer (Nat.lt_irrefl _)
  | uri scheme form colonless =>
      cases form with
      | @uri user host filled hostFilled _ _ noAt _ hostValid =>
          have named := explicit_named scheme
          have result := normalizedResult_uri named noAt printable (carries_of_succeeds succeeds)
          rw [checkedUri_text named filled noAt printable] at result
          unfold uriText at result
          rw [result] at succeeds
          split at succeeds
          · cases succeeds
          · next short => exact Nat.not_lt.mp short

/-- Both results fail, or both have the same URI. -/
def SameResult (first second : NativeDestinationResult) : Prop :=
  (first.succeeds = false ∧ second.succeeds = false) ∨
    (first.succeeds = true ∧ second.succeeds = true ∧ first.uri = second.uri)

theorem SameResult.refl (result : NativeDestinationResult) : SameResult result result := by
  cases known : result.succeeds with
  | false => exact .inl ⟨known, known⟩
  | true => exact .inr ⟨known, known, rfl⟩

theorem normalizing_keeps {typed normalized : WString width}
    (accepted : validateAddress locale.toWideCtype typed = ⟨.none, normalized⟩)
    (account : SipAccount width) :
    SameResult (nativeCallDestinationResult locale.toWideCtype normalized account)
      (nativeCallDestinationResult locale.toWideCtype typed account) := by
  obtain ⟨again, longer⟩ := validateAddress_normalized accepted
  rw [call_of_accepted again, call_of_accepted accepted]
  by_cases long : normalized.length > 512
  · rw [if_pos long]
    by_cases typedLong : typed.length > 512
    · rw [if_pos typedLong]
      exact .refl _
    · rw [if_neg typedLong]
      refine .inl ⟨rfl, Bool.eq_false_iff.mpr fun succeeds => ?_⟩
      have short := normalizedResult_short (validateAddress_iff.mp accepted).2 (by omega)
        (succeeds_iff.mp succeeds).1
      omega
  · rw [if_neg long, if_neg (by omega)]
    exact .refl _

/-- The account's transport matches what the destination asks for: TLS for an explicit `sips:`, UDP
for an explicit `sip:` or a user at a host, and either one for a bare dial string. -/
def TransportMatches (destination : WString width) (account : SipAccount width) : Prop :=
  if destination.startsWith "sips:" then account.useTls = true
  else if destination.startsWith "sip:" || destination.contains '@' then account.useTls = false
  else True

theorem carries_of_matches {account : SipAccount width} {scheme : AddressScheme}
    {rest : WString width} (matched : TransportMatches (scheme.text width ++ rest) account) :
    Carries account scheme := by
  unfold TransportMatches at matched
  constructor
  · rintro rfl
    rw [starts_sips .sips sips_named] at matched
    exact matched
  · rintro rfl
    rw [starts_sips .sip sip_named, starts_sip .sip sip_named] at matched
    exact matched

/-- A user at a host is called over the transport of its normal form. -/
theorem carries_explicit {account : SipAccount width} {scheme : AddressScheme}
    {user host : WString width} (unnamed : scheme = .none →
      wide width ':' ∉ user ++ wide width '@' :: host)
    (matched : TransportMatches (uriText scheme user host) account) :
    Carries account scheme.explicit := by
  cases scheme with
  | sip | sips => exact carries_of_matches matched
  | none =>
      obtain ⟨notSips, _⟩ := unnamed_of_noColon (unnamed rfl)
      have atSign : WString.contains (user ++ wide width '@' :: host) '@' = true :=
        contains_iff.mpr (List.mem_append_right _ List.mem_cons_self)
      unfold TransportMatches uriText at matched
      rw [AddressScheme.text, List.nil_append, notSips, atSign, Bool.or_true] at matched
      refine ⟨fun other => ?_, fun _ => matched⟩
      cases other

/-- An account with a valid configuration succeeds with every supported destination that its
transport matches. -/
theorem native_of_supported {destination : WString width}
    (supported : Supported locale.toWideCtype destination) (short : destination.length ≤ 128)
    {account : SipAccount width}
    (configured : (nativeAccountConfig account (wideText width "validated-ca") {}).valid = true)
    (matched : TransportMatches destination account) :
    (nativeCallDestinationResult locale.toWideCtype destination account).succeeds = true := by
  have filled (scheme : AddressScheme) (user rest : WString width) :
      narrow (uriText scheme user rest) ≠ [] := by
    intro empty
    have none := congrArg List.length empty
    rw [narrow_length] at none
    simp [uriText] at none
  obtain ⟨normalized, form, accepted⟩ := supported.valid
  obtain ⟨host, port⟩ := account_of_config configured
  rw [call_of_accepted accepted, if_neg (by omega), succeeds_iff]
  have schemeShort (scheme : AddressScheme) : (scheme.text width).length ≤ 5 := by
    cases scheme with
    | none => exact Nat.zero_le _
    | sip | sips => cases width <;> decide
  cases supported with
  | @dial scheme value valueFilled dials users =>
      have clean := cleanText_of_user users
      have printable := printable_of_clean ((scheme_clean scheme).append clean)
      have colonless : scheme = .none → wide width ':' ∉ value := fun _ => user_noColon users
      have normal : normalized = scheme.text width ++ value := by
        have dialForm : AddressForm locale.toWideCtype (scheme.text width ++ value)
            (scheme.text width ++ value) :=
          .dial scheme (.dial valueFilled clean.plain clean.noAt dials) colonless
        have again := validateAddress_iff.mpr ⟨(validateAddress_iff.mp accepted).1, dialForm⟩
        exact congrArg AddressResult.normalized (accepted.symm.trans again)
      have trusted : (nativeAccountConfig account
          (if account.useTls then wideText width "validated-ca" else []) {}).valid = true := by
        cases tls : account.useTls with
        | true => exact configured
        | false =>
            rw [if_neg Bool.false_ne_true, config_udp tls [] (wideText width "validated-ca") {}]
            exact configured
      have server := serverText_valid host port
      have rest : PrintableText (serverText account ++ accountSuffix account) := by
        apply (printable_of_clean (host_clean server)).append
        intro unit member
        obtain ⟨low, high, _⟩ := (accountSuffix_form account).units unit member
        exact ⟨by omega, high⟩
      have whole := uriText_printable (accountScheme account) (printable_of_clean clean) rest
      have length : ¬ (uriText (accountScheme account) value
          (serverText account ++ accountSuffix account)).length > 512 := by
        have suffix : (accountSuffix account).length = 14 := by
          unfold accountSuffix
          cases account.useTls <;> rfl
        have serverShort := serverText_length host
        have front := schemeShort (accountScheme account)
        rw [List.length_append] at short
        simp only [uriText, List.length_append, List.length_cons]
        omega
      rw [normal, normalizedResult_dial valueFilled clean.noAt colonless printable
        (carries_of_matches matched), trusted, routedUri_text host printable colonless,
        checkedUri_text (accountScheme_named account) valueFilled clean.noAt whole, if_neg length,
        if_pos users]
      exact ⟨rfl, filled _ _ _⟩
  | @uri scheme user hostPort userFilled hostFilled users hostValid colonless =>
      have clean := cleanText_of_user users
      have hostClean := host_clean hostValid
      have unnamed := uri_colonless users colonless
      have named := explicit_named scheme
      have normal : normalized = uriText scheme.explicit user hostPort := by
        have uriForm : AddressForm locale.toWideCtype
            (scheme.text width ++ (user ++ wide width '@' :: hostPort))
            (scheme.explicit.text width ++ (user ++ wide width '@' :: hostPort)) :=
          .uri scheme (.uri userFilled hostFilled clean.plain hostClean.plain clean.noAt
            hostClean.noAt hostValid) unnamed
        have again := validateAddress_iff.mpr ⟨(validateAddress_iff.mp accepted).1, uriForm⟩
        exact congrArg AddressResult.normalized (accepted.symm.trans again)
      have whole := uriText_printable scheme.explicit (printable_of_clean clean)
        (printable_of_clean hostClean)
      have length : ¬ (uriText scheme.explicit user hostPort).length > 512 := by
        have front := schemeShort scheme.explicit
        rw [List.length_append] at short
        unfold uriText
        rw [List.length_append]
        omega
      rw [normal, normalizedResult_uri named clean.noAt whole (carries_explicit unnamed matched),
        checkedUri_text named userFilled clean.noAt whole, if_neg length, if_pos users]
      exact ⟨rfl, filled _ _ _⟩

/-- What a call accepts is supported. -/
theorem supported_of_native {destination : WString width} {account : SipAccount width}
    (succeeds : (nativeCallDestinationResult locale.toWideCtype destination account).succeeds =
      true) : Supported locale.toWideCtype destination := by
  obtain ⟨valid, result⟩ := accepted_of_succeeds (succeeds_iff.mp succeeds).1
  obtain ⟨_, form⟩ := validateAddress_iff.mp (accepted_of_valid valid)
  generalize (validateAddress locale.toWideCtype destination).normalized = normalized at result form
  obtain ⟨printable, _⟩ := normalizedResult_succeeds result
  cases form with
  | dial scheme form colonless =>
      cases form with
      | dial filled _ _ dials =>
          refine .dial scheme filled dials (List.all_eq_true.mpr fun unit member => ?_)
          have range := printable unit (List.mem_append_right _ member)
          exact userUnit_of_dialUnit (Nat.lt_of_le_of_lt range.2 (by decide))
            (List.all_eq_true.mp dials unit member)
  | uri scheme form colonless =>
      cases form with
      | @uri user host userFilled hostFilled _ _ noAt _ hostValid =>
          refine .uri scheme userFilled hostFilled ?_ hostValid fun none found =>
            colonless none (List.mem_append_right _ (List.mem_cons_of_mem _ found))
          have named := explicit_named scheme
          have made := normalizedResult_uri named noAt printable (carries_of_succeeds result)
          rw [checkedUri_text named userFilled noAt printable] at made
          unfold uriText at made
          rw [made] at result
          split at result
          · cases result
          split at result
          · next users => exact users
          · cases result

/-- An account for either transport. -/
def sampleAccount (width : WCharWidth) (tls : Bool) : SipAccount width :=
  { server := wideText width "a", username := wideText width "a", useTls := tls }

theorem sampleAccount_valid (tls : Bool) :
    (nativeAccountConfig (sampleAccount width tls) (wideText width "validated-ca") {}).valid =
      true := by
  cases width <;> cases tls <;> decide

theorem sampleAccount_matches (destination : WString width) :
    ∃ tls, TransportMatches destination (sampleAccount width tls) := by
  unfold TransportMatches
  cases secure : destination.startsWith "sips:" with
  | true => exact ⟨true, rfl⟩
  | false =>
      refine ⟨false, ?_⟩
      rw [if_neg Bool.false_ne_true]
      split
      · rfl
      · trivial

/-- What is promised of the checks of a destination. -/
structure DestinationsAgree (locale : LocaleCtype width) : Prop where
  /-- The book, with a valid name, and the recent destinations accept the same ones. -/
  contactRecent : ∀ destination : WString width, 1 ≤ destination.length →
    destination.length ≤ 128 → ∀ (book : Contacts.ContactBook width) name favorite,
    Contacts.validName name = true → ∀ (recent : RecentDestinations width) observed,
    RecentDestinations.Idle observed → recent.nextToken ≠ uint64Max →
    ((book.add locale.toWideCtype ⟨name, destination, favorite⟩).1 ≠ .invalid ↔
      (recent.remember locale.toWideCtype observed destination true).1 = true)
  /-- So does a call on every account that is valid and has the transport. -/
  recentNative : ∀ destination : WString width, 1 ≤ destination.length →
    destination.length ≤ 128 → ∀ (recent : RecentDestinations width) observed,
    RecentDestinations.Idle observed → recent.nextToken ≠ uint64Max →
    ((recent.remember locale.toWideCtype observed destination true).1 = true ↔
      ∀ account : SipAccount width,
        (nativeAccountConfig account (wideText width "validated-ca") {}).valid = true →
        TransportMatches destination account →
        (nativeCallDestinationResult locale.toWideCtype destination account).succeeds = true)
  /-- A transfer has the result of a call. -/
  transfer : ∀ (typed : WString width) account,
    nativeTransferDestinationResult locale.toWideCtype typed account =
      nativeCallDestinationResult locale.toWideCtype typed account
  /-- Normalizing a valid destination first changes nothing. -/
  normalizing : ∀ (typed : WString width) account,
    (validateAddress locale.toWideCtype typed).valid = true →
    SameResult
      (nativeCallDestinationResult locale.toWideCtype
        (validateAddress locale.toWideCtype typed).normalized account)
      (nativeCallDestinationResult locale.toWideCtype typed account)

theorem add_invalid_iff {ctype : WideCtype width} (book : Contacts.ContactBook width)
    (draft : Contacts.ContactDraft width) :
    (book.add ctype draft).1 ≠ .invalid ↔ Contacts.validDraft ctype draft = true := by
  unfold Contacts.ContactBook.add
  cases valid : Contacts.validDraft ctype draft with
  | false => simp
  | true =>
      rw [Bool.not_true, if_neg Bool.false_ne_true]
      refine ⟨fun _ => rfl, fun _ => ?_⟩
      split
      · exact nofun
      split
      · exact nofun
      split <;> exact nofun

/-- In every locale of C the checks of a destination agree. -/
theorem destinations_agree (locale : LocaleCtype width) : DestinationsAgree locale := by
  constructor
  · intro destination filled short book name favorite named recent observed context tokens
    rw [add_invalid_iff, validDraft_iff named, RecentDestinations.remember_iff context tokens,
      recentSupported_iff]
    exact ⟨fun known => ⟨known.2.filled, known⟩, fun known => known.2⟩
  · intro destination filled short recent observed context tokens
    rw [RecentDestinations.remember_iff context tokens, recentSupported_iff]
    constructor
    · rintro ⟨_, _, supported⟩ account configured matched
      exact native_of_supported supported short configured matched
    · intro every
      obtain ⟨tls, matched⟩ := sampleAccount_matches destination
      have supported := supported_of_native (every _ (sampleAccount_valid tls) matched)
      exact ⟨supported.filled, short, supported⟩
  · exact transfer_eq_call locale
  · intro typed account valid
    exact normalizing_keeps (accepted_of_valid valid) account

end AxeVoice.Native
