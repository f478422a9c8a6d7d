import AxeVoice.Desktop.AccountForm
import AxeVoice.Native.ConfigLanguage
import Mathlib.Data.List.TakeWhile

/-!
# Whose password is used

A password is handed to the engine only for the server and the user for which it was
entered, or under which another program has put it into the vault.  The vault and the
registry are written for the account of the form alone, and a remembered password
outlives the program.
-/

namespace AxeVoice.Desktop

open Foundation Native Sip

variable {width : WCharWidth}

theorem cString_idem (text : WString width) : cString (cString text) = cString text :=
  List.takeWhile_idem

theorem cString_fieldText (limit : ℕ) (text : WString width) :
    cString (fieldText limit text) = fieldText limit text := by
  refine List.takeWhile_eq_self_iff.mpr fun unit member => ?_
  have kept : unit ∈ cString text := List.mem_of_mem_take member
  exact @List.mem_takeWhile_imp _ (fun unit => decide (unit ≠ 0)) _ _ kept

theorem cString_length_le (text : WString width) : (cString text).length ≤ text.length :=
  (List.takeWhile_sublist _).length_le

theorem fieldText_length_le (limit : ℕ) (text : WString width) :
    (fieldText limit text).length ≤ limit :=
  List.length_take_le _ _

theorem prefEditText_of_le {text : WString width} (short : text.length ≤ 4096) :
    prefEditText text = text :=
  if_neg (Nat.not_lt.mpr short)

/-- The identity tells the server from the user, where the server is one line. -/
theorem sipCredentialIdentity_inj {one other : AccountForm width}
    (oneLine : wide width '\n' ∉ prefEditText one.server)
    (otherLine : wide width '\n' ∉ prefEditText other.server)
    (same : sipCredentialIdentity one = sipCredentialIdentity other) :
    prefEditText one.server = prefEditText other.server ∧
      prefEditText one.user = prefEditText other.user :=
  append_delimiter_inj oneLine otherLine same

/-- The user has entered the secret for an account. -/
inductive Entered (identity secret : WString width) (stage : AccountStage width) : Prop where
  | typed {text : WString width} {read : Bool} (input : stage.input = .edit .password text read)
      (form : stage.before.identity = identity) (same : fieldText 256 text = secret)
  | preferred {accepted : AccountPreferences width} {server user : FieldAnswer}
      {vault : VaultAnswers} {registry : RegistryAnswers}
      (input : stage.input = .preferences accepted server user vault registry)
      (form : stage.after.identity = identity) (same : fieldText 256 accepted.password = secret)

/-- Another program has put the secret into the vault. -/
def Planted (identity secret : WString width) (stage : AccountStage width) : Prop :=
  ∃ credential registry, stage.input = .elsewhere (some credential) registry ∧
    credential.userName = some identity ∧ cString credential.blob = secret

def Sourced (history : List (AccountStage width)) (identity secret : WString width) : Prop :=
  ∃ stage ∈ history, Entered identity secret stage ∨ Planted identity secret stage

namespace AccountDesk

/-- A step that leaves the account of the form and its password alone. -/
structure SameAccount (before after : AccountDesk width) : Prop where
  server : after.form.server = before.form.server
  user : after.form.user = before.form.user
  password : after.form.password = before.form.password

theorem identity_congr {before after : AccountDesk width}
    (server : after.form.server = before.form.server) (user : after.form.user = before.form.user) :
    after.identity = before.identity := by
  rw [identity, identity, sipCredentialIdentity, sipCredentialIdentity, server, user]

theorem SameAccount.identity {before after : AccountDesk width} (same : SameAccount before after) :
    after.identity = before.identity :=
  identity_congr same.server same.user

/-- A step that changes nothing of the form but its box. -/
def Boxed (before after : AccountDesk width) : Prop :=
  ∃ remember, after.form = { before.form with remember := remember }

theorem boxed_of_form {before after : AccountDesk width} (form : after.form = before.form)
    (remember : Bool) : Boxed before (after.withRemember remember) :=
  ⟨remember, congrArg (fun form => { form with remember := remember }) form⟩

theorem Boxed.same {before after : AccountDesk width} (boxed : Boxed before after) :
    SameAccount before after := by
  obtain ⟨remember, form⟩ := boxed
  constructor <;> rw [form]

/-- The field of the password is emptied, or its account stays. -/
def Emptied (before after : AccountDesk width) : Prop :=
  after.form.password = [] ∨ SameAccount before after

theorem Emptied.trans {first second third : AccountDesk width} (one : Emptied first second)
    (other : Emptied second third) : Emptied first third := by
  rcases other with empty | later
  · exact .inl empty
  · rcases one with empty | earlier
    · exact .inl (later.password.trans empty)
    · exact .inr ⟨later.server.trans earlier.server, later.user.trans earlier.user,
        later.password.trans earlier.password⟩

/-- A field that reports a change empties the field of the password. -/
theorem report_emptied {desk filled : AccountDesk width} {report : Prop} [Decidable report]
    (read : Bool) (silent : ¬report → SameAccount desk filled) :
    Emptied desk (if report then filled.identityChanged read else filled) := by
  split
  · exact .inl rfl
  · next quiet => exact .inr (silent quiet)

theorem setServer_emptied (desk : AccountDesk width) (text : WString width) (answer : FieldAnswer) :
    Emptied desk (desk.setServer text answer) := by
  refine report_emptied answer.read fun quiet => ?_
  have held : text = desk.form.server := by
    by_contra other
    exact quiet (.inl other)
  exact ⟨held, rfl, rfl⟩

theorem setUser_emptied (desk : AccountDesk width) (text : WString width) (answer : FieldAnswer) :
    Emptied desk (desk.setUser text answer) := by
  refine report_emptied answer.read fun quiet => ?_
  have held : text = desk.form.user := by
    by_contra other
    exact quiet (.inl other)
  exact ⟨rfl, held, rfl⟩

end AccountDesk

/-- What is in the form and in the vault comes from a source. -/
structure Keeps (Source : WString width → WString width → Prop) (desk : AccountDesk width) :
    Prop where
  password : desk.form.password ≠ [] → Source desk.identity desk.form.password
  short : desk.form.password.length ≤ 256
  ended : cString desk.form.password = desk.form.password
  vault : ∀ credential identity, desk.vault = some credential →
    credential.userName = some identity → Source identity (cString credential.blob)

namespace Keeps

variable {Source Wider : WString width → WString width → Prop} {desk after : AccountDesk width}

theorem mono (kept : Keeps Source desk)
    (wider : ∀ identity secret, Source identity secret → Wider identity secret) :
    Keeps Wider desk where
  password entered := wider _ _ (kept.password entered)
  short := kept.short
  ended := kept.ended
  vault credential identity held name := wider _ _ (kept.vault credential identity held name)

/-- A step that leaves the password, its account and the vault alone. -/
theorem same (kept : Keeps Source desk) (account : desk.SameAccount after)
    (vault : after.vault = desk.vault) : Keeps Source after where
  password := by
    rw [account.identity, account.password]
    exact kept.password
  short := account.password ▸ kept.short
  ended := by
    rw [account.password]
    exact kept.ended
  vault := by
    rw [vault]
    exact kept.vault

/-- A step that leaves no password in the form. -/
theorem emptied (kept : Keeps Source desk) (password : after.form.password = [])
    (vault : after.vault = desk.vault) : Keeps Source after where
  password entered := absurd password entered
  short := by simp [password]
  ended := by
    rw [password]
    rfl
  vault := by
    rw [vault]
    exact kept.vault

/-- A step that empties the field of the password, or leaves its account alone. -/
theorem guarded (kept : Keeps Source desk) (emptied : desk.Emptied after)
    (vault : after.vault = desk.vault) : Keeps Source after := by
  rcases emptied with empty | account
  · exact kept.emptied empty vault
  · exact kept.same account vault

theorem withPassword (kept : Keeps Source desk) {text : WString width}
    (source : cString text ≠ [] → Source desk.identity (cString text)) (short : text.length ≤ 256) :
    Keeps Source (desk.withPassword text) where
  password := source
  short := (cString_length_le text).trans short
  ended := cString_idem text
  vault := kept.vault

end Keeps

/-- The vault holds a credential of the account. -/
def Holds (vault : Option (Credential width)) (identity : WString width) : Prop :=
  ∃ credential, vault = some credential ∧ credential.userName = some identity

/-- What a handler may do with the vault.  There is one credential: a save replaces the one before,
whichever account that was of. -/
inductive VaultStep (before : Option (Credential width)) (after : AccountDesk width) : Prop where
  | kept (vault : after.vault = before)
  | forgotten (own : Holds before after.identity) (vault : after.vault = none)
      (box : after.form.remember = false)
  | saved {secret : WString width} (entered : secret ≠ [])
      (vault : after.vault = some { userName := some after.identity, blob := secret })
      (box : after.form.remember = true)

/-- What a handler may do with a value of the registry. -/
inductive ValueStep (before value : Option (WString width)) (text : WString width)
    (after : AccountDesk width) : Prop where
  | kept (same : value = before)
  | cleared (gone : value = none) (box : after.form.remember = false)
  | saved (written : value = some (prefEditText text)) (box : after.form.remember = true)
      (own : Holds after.vault after.identity)

namespace ValueStep

variable {before : Option (WString width)} {text : WString width} {after : AccountDesk width}

theorem saved_if (written : Bool) (box : after.form.remember = true)
    (own : Holds after.vault after.identity) :
    ValueStep before (if written then some (prefEditText text) else before) text after := by
  split
  · exact .saved rfl box own
  · exact .kept rfl

theorem cleared_if (deleted : Bool) (box : after.form.remember = false) :
    ValueStep before (if deleted then none else before) text after := by
  split
  · exact .cleared rfl box
  · exact .kept rfl

end ValueStep

structure RegistryStep (before : AccountRegistry width) (after : AccountDesk width) : Prop where
  server : ValueStep before.sipServer after.registry.sipServer after.form.server after
  user : ValueStep before.sipUser after.registry.sipUser after.form.user after
  port : ValueStep before.sipPort after.registry.sipPort after.form.port after

theorem RegistryStep.unchanged {before : AccountRegistry width} {after : AccountDesk width}
    (same : after.registry = before) : RegistryStep before after :=
  ⟨.kept (same ▸ rfl), .kept (same ▸ rfl), .kept (same ▸ rfl)⟩

/-- What a handler leaves behind. -/
structure Handled (Source : WString width → WString width → Prop)
    (vault : Option (Credential width)) (registry : AccountRegistry width)
    (after : AccountDesk width) : Prop where
  keeps : Keeps Source after
  vault : VaultStep vault after
  registry : RegistryStep registry after

namespace AccountDesk

variable {desk : AccountDesk width} {Source : WString width → WString width → Prop}
  {vault : Option (Credential width)} {registry : AccountRegistry width}

theorem holds_of_exists {read : Bool} (found : desk.sipCredentialExists read = true) :
    Holds desk.vault desk.identity := by
  simp only [sipCredentialExists, Bool.and_eq_true, Option.any_eq_true, decide_eq_true_eq] at found
  exact found.2

theorem saveSipAccountIdentifiers_same (desk : AccountDesk width) (answers : RegistryAnswers) :
    (desk.saveSipAccountIdentifiers answers).2.form = desk.form ∧
      (desk.saveSipAccountIdentifiers answers).2.vault = desk.vault := by
  unfold saveSipAccountIdentifiers
  dsimp only
  split <;> exact ⟨rfl, rfl⟩

theorem clearSipAccountIdentifiers_same (desk : AccountDesk width) (answers : RegistryAnswers) :
    (desk.clearSipAccountIdentifiers answers).form = desk.form ∧
      (desk.clearSipAccountIdentifiers answers).vault = desk.vault := by
  unfold clearSipAccountIdentifiers
  split <;> exact ⟨rfl, rfl⟩

/-- The account is written while the vault holds its credential. -/
theorem saveSipAccountIdentifiers_registry (answers : RegistryAnswers)
    (own : Holds desk.vault desk.identity) :
    RegistryStep desk.registry ((desk.saveSipAccountIdentifiers answers).2.withRemember true) := by
  unfold saveSipAccountIdentifiers
  dsimp only
  split
  · exact .unchanged rfl
  · exact ⟨.saved_if _ rfl own, .saved_if _ rfl own, .saved_if _ rfl own⟩

theorem clearSipAccountIdentifiers_registry (desk : AccountDesk width) (answers : RegistryAnswers) :
    RegistryStep desk.registry ((desk.clearSipAccountIdentifiers answers).withRemember false) := by
  unfold clearSipAccountIdentifiers
  split
  · exact .unchanged rfl
  · exact ⟨.cleared_if _ rfl, .cleared_if _ rfl, .cleared_if _ rfl⟩

/-- Only the form's own credential is deleted. -/
theorem forgetSipCredential_cases (desk : AccountDesk width) (answers : VaultAnswers) :
    (desk.forgetSipCredential answers).2 = desk ∨
      desk.forgetSipCredential answers = (true, { desk with vault := none }) ∧
        Holds desk.vault desk.identity := by
  unfold forgetSipCredential
  split
  · exact .inl rfl
  · next found =>
      split
      · exact .inl rfl
      · exact .inr ⟨rfl, holds_of_exists (by simpa using found)⟩

theorem saveSipCredential_cases (desk : AccountDesk width) {secret : WString width}
    (written : Bool) :
    desk.saveSipCredential secret written = (false, desk) ∨
      desk.saveSipCredential secret written =
        (true, { desk with vault := some { userName := some desk.identity, blob := secret } }) ∧
        secret ≠ [] := by
  unfold saveSipCredential
  split
  · exact .inl rfl
  · next given =>
      split
      · exact .inl rfl
      · split
        · exact .inl rfl
        · refine .inr ⟨rfl, ?_⟩
          rintro rfl
          exact given rfl

theorem clearSipAccountIdentifiers_keeps (kept : Keeps Source desk) (answers : RegistryAnswers) :
    Keeps Source ((desk.clearSipAccountIdentifiers answers).withRemember false) := by
  obtain ⟨form, vault⟩ := desk.clearSipAccountIdentifiers_same answers
  exact kept.same (boxed_of_form form false).same vault

theorem saveSipAccountIdentifiers_keeps (kept : Keeps Source desk) (answers : RegistryAnswers) :
    Keeps Source ((desk.saveSipAccountIdentifiers answers).2.withRemember true) := by
  obtain ⟨form, vault⟩ := desk.saveSipAccountIdentifiers_same answers
  exact kept.same (boxed_of_form form true).same vault

theorem forget_eq (desk : AccountDesk width) (vault : VaultAnswers) (registry : RegistryAnswers) :
    desk.forget vault registry =
      if (desk.forgetSipCredential vault).1 then
        ((desk.forgetSipCredential vault).2.clearSipAccountIdentifiers registry).withRemember false
      else (desk.forgetSipCredential vault).2.withRemember true :=
  rfl

theorem forget_handled (kept : Keeps Source desk) (vault : VaultAnswers)
    (registry : RegistryAnswers) :
    Handled Source desk.vault desk.registry (desk.forget vault registry) := by
  have untouched : Handled Source desk.vault desk.registry
      ((desk.clearSipAccountIdentifiers registry).withRemember false) :=
    ⟨clearSipAccountIdentifiers_keeps kept registry,
      .kept (desk.clearSipAccountIdentifiers_same registry).2,
      desk.clearSipAccountIdentifiers_registry registry⟩
  have ticked : Handled Source desk.vault desk.registry (desk.withRemember true) :=
    ⟨kept.same ⟨rfl, rfl, rfl⟩ rfl, .kept rfl, .unchanged rfl⟩
  rw [forget_eq]
  rcases desk.forgetSipCredential_cases vault with unchanged | ⟨forgotten, own⟩
  · rw [unchanged]
    split
    · exact untouched
    · exact ticked
  · have bare : Keeps Source { desk with vault := none } := by
      refine ⟨kept.password, kept.short, kept.ended, ?_⟩
      intro credential identity held
      cases held
    rw [forgotten, if_pos rfl]
    obtain ⟨form, gone⟩ := clearSipAccountIdentifiers_same { desk with vault := none } registry
    refine ⟨clearSipAccountIdentifiers_keeps bare registry, .forgotten ?_ gone rfl,
      clearSipAccountIdentifiers_registry { desk with vault := none } registry⟩
    have identity : (clearSipAccountIdentifiers { desk with vault := none } registry).identity =
        desk.identity := congrArg sipCredentialIdentity form
    show Holds desk.vault (clearSipAccountIdentifiers { desk with vault := none } registry).identity
    rw [identity]
    exact own

theorem save_handled (kept : Keeps Source desk) {secret : WString width}
    (source : secret ≠ [] → Source desk.identity secret) (ended : cString secret = secret)
    (vault : VaultAnswers) (registry : RegistryAnswers) :
    Handled Source desk.vault desk.registry (desk.save secret vault registry) := by
  unfold save
  rcases desk.saveSipCredential_cases vault.written with refused | ⟨saved, entered⟩
  · rw [refused]
    exact ⟨kept.same ⟨rfl, rfl, rfl⟩ rfl, .kept rfl, .unchanged rfl⟩
  · rw [saved]
    generalize held : ({ desk with
      vault := some { userName := some desk.identity, blob := secret } } : AccountDesk width) = after
    have keeps : Keeps Source after := by
      subst held
      refine ⟨kept.password, kept.short, kept.ended, ?_⟩
      rintro credential identity same name
      cases same
      cases name
      rw [ended]
      exact source entered
    have own : Holds after.vault after.identity := by
      subst held
      exact ⟨_, rfl, rfl⟩
    obtain ⟨form, vault_⟩ := after.saveSipAccountIdentifiers_same registry
    refine ⟨saveSipAccountIdentifiers_keeps keeps registry, .saved entered ?_ rfl, ?_⟩
    · show (after.saveSipAccountIdentifiers registry).2.vault = some
        { userName := some (after.saveSipAccountIdentifiers registry).2.identity, blob := secret }
      rw [vault_, identity, form]
      subst held
      rfl
    · have written := saveSipAccountIdentifiers_registry registry own
      subst held
      exact written

theorem rememberClicked_handled (kept : Keeps Source desk) (vault : VaultAnswers)
    (registry : RegistryAnswers) :
    Handled Source desk.vault desk.registry (desk.rememberClicked vault registry) := by
  unfold rememberClicked
  split
  · exact forget_handled kept vault registry
  · rw [prefEditText_of_le (kept.short.trans (by decide))]
    dsimp only
    split
    · exact ⟨kept.same ⟨rfl, rfl, rfl⟩ rfl, .kept rfl, .unchanged rfl⟩
    · exact save_handled kept kept.password kept.ended vault registry

/-- A loaded password was in the vault under the account of the form. -/
theorem loadSipCredential_source (kept : Keeps Source desk) (read : Bool) :
    (cString (desk.loadSipCredential read) ≠ [] →
      Source desk.identity (cString (desk.loadSipCredential read))) ∧
      (desk.loadSipCredential read).length ≤ 256 := by
  unfold loadSipCredential
  split
  · next credential held =>
      split
      · next fits =>
          simp only [Bool.and_eq_true, decide_eq_true_eq] at fits
          obtain ⟨⟨⟨⟨-, name⟩, -⟩, short⟩, -⟩ := fits
          exact ⟨fun _ => kept.vault credential _ held name, short⟩
      · exact ⟨fun entered => absurd rfl entered, Nat.zero_le _⟩
  · exact ⟨fun entered => absurd rfl entered, Nat.zero_le _⟩

theorem beforeStart_handled (kept : Keeps Source desk) (vault : VaultAnswers)
    (registry : RegistryAnswers) :
    Handled Source desk.vault desk.registry (desk.beforeStart vault registry) := by
  have alone : Handled Source desk.vault desk.registry desk := ⟨kept, .kept rfl, .unchanged rfl⟩
  unfold beforeStart
  split
  · exact alone
  · rw [prefEditText_of_le (kept.short.trans (by decide))]
    dsimp only
    split
    · split
      · exact alone
      · obtain ⟨source, short⟩ := loadSipCredential_source kept vault.read
        exact ⟨kept.withPassword source short, .kept rfl, .unchanged rfl⟩
    · exact save_handled kept kept.password kept.ended vault registry

/-! ## The preferences -/

/-- The fields of an account as the preferences fill them in. -/
def named (desk : AccountDesk width) (accepted : AccountPreferences width)
    (server user : FieldAnswer) : AccountDesk width :=
  ((desk.setServer (fieldText 512 accepted.server) server).setUser
    (fieldText 512 accepted.user) user).setPort (fieldText 512 accepted.port)

def filled (desk : AccountDesk width) (accepted : AccountPreferences width)
    (server user : FieldAnswer) : AccountDesk width :=
  if (fieldText 256 accepted.password).isEmpty then desk.named accepted server user
  else (desk.named accepted server user).withPassword (fieldText 256 accepted.password)

theorem setServer_vault (desk : AccountDesk width) (text : WString width) (answer : FieldAnswer) :
    (desk.setServer text answer).vault = desk.vault ∧
      (desk.setServer text answer).registry = desk.registry := by
  unfold setServer
  split <;> exact ⟨rfl, rfl⟩

theorem setUser_vault (desk : AccountDesk width) (text : WString width) (answer : FieldAnswer) :
    (desk.setUser text answer).vault = desk.vault ∧
      (desk.setUser text answer).registry = desk.registry := by
  unfold setUser
  split <;> exact ⟨rfl, rfl⟩

theorem named_emptied (desk : AccountDesk width) (accepted : AccountPreferences width)
    (server user : FieldAnswer) : Emptied desk (desk.named accepted server user) :=
  ((desk.setServer_emptied _ server).trans (setUser_emptied _ _ user)).trans (.inr ⟨rfl, rfl, rfl⟩)

theorem named_vault (desk : AccountDesk width) (accepted : AccountPreferences width)
    (server user : FieldAnswer) :
    (desk.named accepted server user).vault = desk.vault ∧
      (desk.named accepted server user).registry = desk.registry := by
  obtain ⟨first, second⟩ := desk.setServer_vault (fieldText 512 accepted.server) server
  obtain ⟨third, fourth⟩ := setUser_vault (desk.setServer (fieldText 512 accepted.server) server)
    (fieldText 512 accepted.user) user
  exact ⟨third.trans first, fourth.trans second⟩

theorem named_keeps (kept : Keeps Source desk) (accepted : AccountPreferences width)
    (server user : FieldAnswer) : Keeps Source (desk.named accepted server user) :=
  kept.guarded (desk.named_emptied accepted server user) (desk.named_vault accepted server user).1

theorem filled_same (desk : AccountDesk width) (accepted : AccountPreferences width)
    (server user : FieldAnswer) :
    (desk.filled accepted server user).identity = (desk.named accepted server user).identity ∧
      (desk.filled accepted server user).vault = desk.vault ∧
      (desk.filled accepted server user).registry = desk.registry := by
  obtain ⟨vault, registry⟩ := desk.named_vault accepted server user
  unfold filled
  split
  · exact ⟨rfl, vault, registry⟩
  · exact ⟨rfl, vault, registry⟩

theorem filled_emptied (desk : AccountDesk width) (accepted : AccountPreferences width)
    (server user : FieldAnswer) :
    Emptied desk (desk.filled accepted server user) ∨
      (desk.filled accepted server user).form.password = fieldText 256 accepted.password := by
  unfold filled
  split
  · exact .inl (desk.named_emptied accepted server user)
  · exact .inr (cString_fieldText _ _)

theorem filled_keeps (kept : Keeps Source desk) (accepted : AccountPreferences width)
    (server user : FieldAnswer)
    (source : Source (desk.named accepted server user).identity (fieldText 256 accepted.password)) :
    Keeps Source (desk.filled accepted server user) := by
  unfold filled
  split
  · exact named_keeps kept accepted server user
  · refine (named_keeps kept accepted server user).withPassword (fun _ => ?_)
      (fieldText_length_le _ _)
    rw [cString_fieldText]
    exact source

theorem acceptPreferences_eq (desk : AccountDesk width) (accepted : AccountPreferences width)
    (server user : FieldAnswer) (vault : VaultAnswers) (registry : RegistryAnswers) :
    desk.acceptPreferences accepted server user vault registry =
      if !accepted.remember then (desk.filled accepted server user).forget vault registry
      else if !(fieldText 256 accepted.password).isEmpty then
        (desk.filled accepted server user).save (fieldText 256 accepted.password) vault registry
      else if (desk.filled accepted server user).sipCredentialExists vault.read then
        ((desk.filled accepted server user).saveSipAccountIdentifiers registry).2.withRemember true
      else (desk.filled accepted server user).withRemember true :=
  rfl

theorem acceptPreferences_handled (kept : Keeps Source desk) (accepted : AccountPreferences width)
    (server user : FieldAnswer) (vault : VaultAnswers) (registry : RegistryAnswers)
    (source : Source (desk.named accepted server user).identity (fieldText 256 accepted.password)) :
    Handled Source desk.vault desk.registry
      (desk.acceptPreferences accepted server user vault registry) := by
  have keeps := filled_keeps kept accepted server user source
  obtain ⟨identity, sameVault, sameRegistry⟩ := desk.filled_same accepted server user
  rw [acceptPreferences_eq, ← sameVault, ← sameRegistry]
  split
  · exact forget_handled keeps vault registry
  · split
    · refine save_handled keeps (fun _ => ?_) (cString_fieldText _ _) vault registry
      rw [identity]
      exact source
    · split
      · next found =>
          exact ⟨saveSipAccountIdentifiers_keeps keeps registry,
            .kept (saveSipAccountIdentifiers_same _ registry).2,
            saveSipAccountIdentifiers_registry registry (holds_of_exists found)⟩
      · exact ⟨keeps.same ⟨rfl, rfl, rfl⟩ rfl, .kept rfl, .unchanged rfl⟩

theorem forget_boxed (desk : AccountDesk width) (vault : VaultAnswers)
    (registry : RegistryAnswers) : Boxed desk (desk.forget vault registry) := by
  have form : (desk.forgetSipCredential vault).2.form = desk.form := by
    rcases desk.forgetSipCredential_cases vault with unchanged | ⟨forgotten, -⟩
    · rw [unchanged]
    · rw [forgotten]
  have cleared := ((desk.forgetSipCredential vault).2.clearSipAccountIdentifiers_same registry).1
  rw [forget_eq]
  split
  · exact boxed_of_form (cleared.trans form) false
  · exact boxed_of_form form true

theorem save_boxed (desk : AccountDesk width) (secret : WString width) (vault : VaultAnswers)
    (registry : RegistryAnswers) : Boxed desk (desk.save secret vault registry) := by
  unfold save
  rcases @saveSipCredential_cases _ desk secret vault.written with refused | ⟨saved, -⟩
  · rw [refused]
    exact ⟨false, rfl⟩
  · rw [saved]
    have form := (saveSipAccountIdentifiers_same
      { desk with vault := some { userName := some desk.identity, blob := secret } } registry).1
    exact boxed_of_form form true

theorem rememberClicked_boxed (desk : AccountDesk width) (vault : VaultAnswers)
    (registry : RegistryAnswers) : Boxed desk (desk.rememberClicked vault registry) := by
  unfold rememberClicked
  split
  · exact desk.forget_boxed vault registry
  · dsimp only
    split
    · exact ⟨true, rfl⟩
    · exact desk.save_boxed _ vault registry

theorem beforeStart_account (desk : AccountDesk width) (vault : VaultAnswers)
    (registry : RegistryAnswers) :
    (desk.beforeStart vault registry).form.server = desk.form.server ∧
      (desk.beforeStart vault registry).form.user = desk.form.user := by
  unfold beforeStart
  split
  · exact ⟨rfl, rfl⟩
  · dsimp only
    split
    · split <;> exact ⟨rfl, rfl⟩
    · have account := (desk.save_boxed (prefEditText desk.form.password) vault registry).same
      exact ⟨account.server, account.user⟩

theorem acceptPreferences_boxed (desk : AccountDesk width) (accepted : AccountPreferences width)
    (server user : FieldAnswer) (vault : VaultAnswers) (registry : RegistryAnswers) :
    Boxed (desk.filled accepted server user)
      (desk.acceptPreferences accepted server user vault registry) := by
  rw [acceptPreferences_eq]
  split
  · exact forget_boxed _ vault registry
  · split
    · exact save_boxed _ _ vault registry
    · split
      · exact boxed_of_form
          ((desk.filled accepted server user).saveSipAccountIdentifiers_same registry).1 true
      · exact ⟨true, rfl⟩

theorem registerNativeAccountUi_cases (desk : AccountDesk width) (utf8 : WideToUtf8 width)
    (fields : RegistrationFields width) (prepared : Bool) :
    (desk.registerNativeAccountUi utf8 fields prepared).2 = desk ∨
      (desk.registerNativeAccountUi utf8 fields prepared).2 = desk.withPassword [] := by
  unfold registerNativeAccountUi
  dsimp only
  split
  · exact .inr rfl
  · split
    · exact .inl rfl
    · split
      · exact .inr rfl
      · split <;> exact .inr rfl

/-- The engine is asked for the account and with the password of the form. -/
theorem registerNativeAccountUi_handed {utf8 : WideToUtf8 width}
    {fields : RegistrationFields width} {prepared : Bool} {request : ConfigureRequest width}
    (handed : (desk.registerNativeAccountUi utf8 fields prepared).1 = .handed request) :
    utf8.convert (desk.form.password.take 256) = some request.password ∧ request.password ≠ [] ∧
      request.account.server = desk.form.server.take 255 ∧
      request.account.username = desk.form.user.take 128 ∧
      (desk.registerNativeAccountUi utf8 fields prepared).2.form.password = [] := by
  unfold registerNativeAccountUi at handed ⊢
  dsimp only at handed ⊢
  split at handed
  · cases handed
  · next unprepared =>
      rw [if_neg unprepared]
      split at handed
      · cases handed
      · next valid =>
          rw [if_neg valid]
          cases converted : utf8.convert (desk.form.password.take 256) with
          | none =>
              rw [converted] at handed
              cases handed
          | some password =>
              rw [converted] at handed
              dsimp only at handed ⊢
              split at handed
              · cases handed
              · next entered =>
                  rw [if_neg entered]
                  cases handed
                  exact ⟨rfl, fun empty => entered (List.isEmpty_iff.mpr empty), rfl, rfl, rfl⟩

theorem registerNativeAccountUi_handled (handled : Handled Source vault registry desk)
    (utf8 : WideToUtf8 width) (fields : RegistrationFields width) (prepared : Bool) :
    Handled Source vault registry (desk.registerNativeAccountUi utf8 fields prepared).2 := by
  rcases desk.registerNativeAccountUi_cases utf8 fields prepared with same | emptied
  · rw [same]
    exact handled
  · rw [emptied]
    refine ⟨handled.keeps.emptied rfl rfl, ?_, ?_⟩
    · cases handled.vault with
      | kept same => exact .kept same
      | forgotten own gone box => exact .forgotten own gone box
      | saved entered same box => exact .saved entered same box
    · have value {before value : Option (WString width)} {text : WString width}
          (step : ValueStep before value text desk) :
          ValueStep before value text (desk.withPassword []) := by
        cases step with
        | kept same => exact .kept same
        | cleared gone box => exact .cleared gone box
        | saved written box own => exact .saved written box own
      exact ⟨value handled.registry.server, value handled.registry.user,
        value handled.registry.port⟩

theorem edit_vault (desk : AccountDesk width) (field : AccountField) (text : WString width)
    (read : Bool) :
    (desk.edit field text read).vault = desk.vault ∧
      (desk.edit field text read).registry = desk.registry := by
  cases field with
  | server => exact desk.setServer_vault _ _
  | user => exact desk.setUser_vault _ _
  | port => exact ⟨rfl, rfl⟩
  | password => exact ⟨rfl, rfl⟩

end AccountDesk

theorem Sourced.concat {history : List (AccountStage width)} {identity secret : WString width}
    (known : Sourced history identity secret) (last : AccountStage width) :
    Sourced (history ++ [last]) identity secret := by
  obtain ⟨stage, member, source⟩ := known
  exact ⟨stage, List.mem_append_left _ member, source⟩

theorem Sourced.last {history : List (AccountStage width)} {identity secret : WString width}
    {last : AccountStage width}
    (source : Entered identity secret last ∨ Planted identity secret last) :
    Sourced (history ++ [last]) identity secret :=
  ⟨last, List.mem_append_right _ (List.mem_singleton_self _), source⟩

theorem keeps_initial : Keeps (Sourced []) ({} : AccountDesk width) where
  password entered := absurd rfl entered
  short := Nat.zero_le _
  ended := rfl
  vault credential identity held := by cases held

/-- Every handler but those of other programs. -/
theorem accountStep_handled {utf8 : WideToUtf8 width} {history : List (AccountStage width)}
    {desk : AccountDesk width} (kept : Keeps (Sourced history) desk) (move : AccountMove width)
    (own : ∀ vault registry, move ≠ .elsewhere vault registry) :
    Handled (Sourced (history ++ [stageOf (accountStep utf8) desk move])) desk.vault desk.registry
      (accountStep utf8 desk move).2 := by
  have wider : Keeps (Sourced (history ++ [stageOf (accountStep utf8) desk move])) desk :=
    kept.mono fun _ _ known => known.concat _
  cases move with
  | edit field text read =>
      obtain ⟨vault, registry⟩ := desk.edit_vault field text read
      refine ⟨?_, .kept vault, .unchanged registry⟩
      cases field with
      | server => exact wider.guarded (desk.setServer_emptied _ _) vault
      | user => exact wider.guarded (desk.setUser_emptied _ _) vault
      | port => exact wider.same ⟨rfl, rfl, rfl⟩ vault
      | password =>
          refine wider.withPassword (fun _ => ?_) (fieldText_length_le _ _)
          rw [cString_fieldText]
          exact .last (.inl (.typed rfl rfl rfl))
  | remember vault registry => exact AccountDesk.rememberClicked_handled wider vault registry
  | start fields prepared vault registry =>
      exact AccountDesk.registerNativeAccountUi_handled
        (AccountDesk.beforeStart_handled wider vault registry) utf8 fields prepared
  | preferences accepted server user vault registry =>
      refine AccountDesk.acceptPreferences_handled wider accepted server user vault registry ?_
      have account := (desk.acceptPreferences_boxed accepted server user vault registry).same
      refine .last (.inl (.preferred rfl ?_ rfl))
      exact account.identity.trans (desk.filled_same accepted server user).1
  | launch read registry => exact ⟨wider.emptied rfl rfl, .kept rfl, .unchanged rfl⟩
  | elsewhere vault registry => exact absurd rfl (own vault registry)

theorem accountStep_keeps {utf8 : WideToUtf8 width} {history : List (AccountStage width)}
    {desk : AccountDesk width} (kept : Keeps (Sourced history) desk) (move : AccountMove width) :
    Keeps (Sourced (history ++ [stageOf (accountStep utf8) desk move]))
      (accountStep utf8 desk move).2 := by
  by_cases own : ∀ vault registry, move ≠ .elsewhere vault registry
  · exact (accountStep_handled kept move own).keeps
  · obtain ⟨vault, others⟩ := not_forall.mp own
    obtain ⟨registry, same⟩ := not_forall_not.mp others
    subst same
    refine ⟨fun entered => (kept.password entered).concat _, kept.short, kept.ended, ?_⟩
    intro credential identity held name
    refine .last (.inr ⟨credential, registry, ?_, name, rfl⟩)
    exact congrArg (AccountMove.elsewhere · registry) held

theorem keeps_run (utf8 : WideToUtf8 width) (moves : List (AccountMove width)) :
    Keeps (Sourced (stages (accountStep utf8) {} moves))
      (finalState (accountStep utf8) {} moves) := by
  have known := @history_invariant _ _ _ (accountStep utf8)
    (fun history desk => Keeps (Sourced history) desk) (fun _ => True)
    (fun _ _ move kept _ => accountStep_keeps kept move) [] ({} : AccountDesk width) keeps_initial
    moves fun _ _ => trivial
  rwa [List.nil_append] at known

/-- No step takes a password over to another account. -/
theorem accountStep_emptied {utf8 : WideToUtf8 width} (desk : AccountDesk width)
    (move : AccountMove width)
    (other : (accountStep utf8 desk move).2.identity ≠ desk.identity) :
    (accountStep utf8 desk move).2.form.password = [] ∨
      Entered (accountStep utf8 desk move).2.identity (accountStep utf8 desk move).2.form.password
        (stageOf (accountStep utf8) desk move) := by
  cases move with
  | edit field text read =>
      cases field with
      | server =>
          exact (desk.setServer_emptied _ _).imp id fun account => absurd account.identity other
      | user => exact (desk.setUser_emptied _ _).imp id fun account => absurd account.identity other
      | port => exact absurd rfl other
      | password => exact absurd rfl other
  | remember vault registry =>
      exact absurd (desk.rememberClicked_boxed vault registry).same.identity other
  | start fields prepared vault registry =>
      obtain ⟨server, user⟩ := desk.beforeStart_account vault registry
      have before := AccountDesk.identity_congr server user
      rcases (desk.beforeStart vault registry).registerNativeAccountUi_cases utf8 fields prepared
        with same | emptied
      · exact absurd ((congrArg AccountDesk.identity same).trans before) other
      · exact .inl (congrArg (fun after => AccountForm.password (AccountDesk.form after)) emptied)
  | preferences accepted server user vault registry =>
      have account := (desk.acceptPreferences_boxed accepted server user vault registry).same
      rcases desk.filled_emptied accepted server user with (empty | same) | entered
      · exact .inl (account.password.trans empty)
      · exact absurd (account.identity.trans same.identity) other
      · exact .inr (.preferred rfl rfl (account.password.trans entered).symm)
  | launch read registry => exact .inl rfl
  | elsewhere vault registry => exact absurd rfl other

/-- Whose passwords are used, and what is kept of them, along a run. -/
structure PasswordsKept (utf8 : WideToUtf8 width) (run : List (AccountStage width)) : Prop where
  /-- A password is used for the account for which it was entered, or planted. -/
  handed : ∀ before stage after request, run = before ++ stage :: after →
    stage.output = .handed request → ∃ secret, Sourced before stage.before.identity secret ∧
      utf8.convert secret = some request.password ∧
      request.account.server = stage.before.form.server.take 255 ∧
      request.account.username = stage.before.form.user.take 128 ∧ stage.after.form.password = []
  /-- A password in the form does not pass to another account. -/
  guarded : ∀ stage ∈ run, stage.after.identity ≠ stage.before.identity →
    stage.after.form.password = [] ∨
      Entered stage.after.identity stage.after.form.password stage
  /-- Only the form's own credential is deleted; one that was entered replaces what was stored. -/
  vault : ∀ before stage after, run = before ++ stage :: after →
    (∀ vault registry, stage.input ≠ .elsewhere vault registry) →
      VaultStep stage.before.vault stage.after ∧
        ∀ credential, stage.after.vault = some credential → ∀ identity,
          credential.userName = some identity →
            Sourced (before ++ [stage]) identity (cString credential.blob)
  /-- The registry is written while the vault holds the credential of the form. -/
  registry : ∀ stage ∈ run, (∀ vault registry, stage.input ≠ .elsewhere vault registry) →
    RegistryStep stage.before.registry stage.after
  /-- Two accounts have two identities, where the servers are one line. -/
  legible : ∀ one other : AccountForm width, wide width '\n' ∉ prefEditText one.server →
    wide width '\n' ∉ prefEditText other.server →
    sipCredentialIdentity one = sipCredentialIdentity other →
      prefEditText one.server = prefEditText other.server ∧
        prefEditText one.user = prefEditText other.user

theorem passwords_kept (utf8 : WideToUtf8 width) (moves : List (AccountMove width)) :
    PasswordsKept utf8 (stages (accountStep utf8) {} moves) := by
  refine ⟨?_, ?_, ?_, ?_, fun _ _ => sipCredentialIdentity_inj⟩
  · intro before stage after request split handed
    obtain ⟨first, move, rest, rfl, rfl, rfl, -⟩ := stages_split split
    have kept := keeps_run utf8 first
    generalize finalState (accountStep utf8) {} first = desk at kept handed ⊢
    cases move with
    | start fields prepared vault registry =>
        have keeps := (AccountDesk.beforeStart_handled kept vault registry).keeps
        obtain ⟨server, user⟩ := desk.beforeStart_account vault registry
        obtain ⟨converted, entered, hosted, named, emptied⟩ :=
          AccountDesk.registerNativeAccountUi_handed handed
        rw [List.take_of_length_le keeps.short] at converted
        have filled : (desk.beforeStart vault registry).form.password ≠ [] := by
          intro empty
          rw [empty, utf8.convert_nil, Option.some.injEq] at converted
          exact entered converted.symm
        refine ⟨_, ?_, converted, server ▸ hosted, user ▸ named, emptied⟩
        have source := keeps.password filled
        rwa [AccountDesk.identity_congr server user] at source
    | edit | remember | preferences | launch | elsewhere => cases handed
  · exact stages_forall_of_step _ (fun desk move => accountStep_emptied desk move) {} moves
  · intro before stage after split own
    obtain ⟨first, move, rest, rfl, rfl, rfl, -⟩ := stages_split split
    have handled := @accountStep_handled _ utf8 _ _ (keeps_run utf8 first) move own
    refine ⟨handled.vault, fun credential held identity => ?_⟩
    exact handled.keeps.vault credential identity held
  · intro stage member own
    obtain ⟨before, after, split⟩ := List.append_of_mem member
    obtain ⟨first, move, rest, rfl, rfl, rfl, -⟩ := stages_split split
    exact (accountStep_handled (keeps_run utf8 first) move own).registry

/-! ## Over a restart -/

/-- The texts of the form have no zeros. -/
structure Clean (desk : AccountDesk width) : Prop where
  server : cString desk.form.server = desk.form.server
  user : cString desk.form.user = desk.form.user
  port : cString desk.form.port = desk.form.port

namespace Clean

variable {desk after : AccountDesk width}

theorem boxed (clean : Clean desk) (boxed : desk.Boxed after) : Clean after := by
  obtain ⟨remember, form⟩ := boxed
  constructor
  · rw [form]
    exact clean.server
  · rw [form]
    exact clean.user
  · rw [form]
    exact clean.port

theorem setServer (clean : Clean desk) {text : WString width} (whole : cString text = text)
    (answer : FieldAnswer) : Clean (desk.setServer text answer) := by
  unfold AccountDesk.setServer
  split <;> exact ⟨whole, clean.user, clean.port⟩

theorem setUser (clean : Clean desk) {text : WString width} (whole : cString text = text)
    (answer : FieldAnswer) : Clean (desk.setUser text answer) := by
  unfold AccountDesk.setUser
  split <;> exact ⟨clean.server, whole, clean.port⟩

theorem setPort (clean : Clean desk) {text : WString width} (whole : cString text = text) :
    Clean (desk.setPort text) :=
  ⟨clean.server, clean.user, whole⟩

theorem withPassword (clean : Clean desk) (text : WString width) :
    Clean (desk.withPassword text) :=
  ⟨clean.server, clean.user, clean.port⟩

end Clean

theorem cString_port : cString (wideText width "5060") = wideText width "5060" := by
  cases width <;> decide

theorem cString_restored {value : Option (WString width)} {read : Bool} {limit : ℕ}
    {initial : WString width} (whole : cString initial = initial) :
    cString (AccountDesk.restored value read limit initial) =
      AccountDesk.restored value read limit initial := by
  unfold AccountDesk.restored
  split
  · split
    · exact cString_idem _
    · exact whole
  · exact whole

theorem clean_step (utf8 : WideToUtf8 width) (desk : AccountDesk width) (move : AccountMove width)
    (clean : Clean desk) : Clean (accountStep utf8 desk move).2 := by
  cases move with
  | edit field text read =>
      cases field with
      | server => exact clean.setServer (cString_fieldText _ _) _
      | user => exact clean.setUser (cString_fieldText _ _) _
      | port => exact clean.setPort (cString_fieldText _ _)
      | password => exact clean.withPassword _
  | remember vault registry => exact clean.boxed (desk.rememberClicked_boxed vault registry)
  | start fields prepared vault registry =>
      have before : Clean (desk.beforeStart vault registry) := by
        unfold AccountDesk.beforeStart
        split
        · exact clean
        · dsimp only
          split
          · split
            · exact clean
            · exact clean.withPassword _
          · exact clean.boxed (desk.save_boxed _ vault registry)
      rcases (desk.beforeStart vault registry).registerNativeAccountUi_cases utf8 fields prepared
        with same | emptied
      · rw [accountStep, same]
        exact before
      · rw [accountStep, emptied]
        exact before.withPassword _
  | preferences accepted server user vault registry =>
      have named : Clean (desk.named accepted server user) :=
        ((clean.setServer (cString_fieldText _ _) server).setUser
          (cString_fieldText _ _) user).setPort (cString_fieldText _ _)
      have filled : Clean (desk.filled accepted server user) := by
        unfold AccountDesk.filled
        split
        · exact named
        · exact named.withPassword _
      exact filled.boxed (desk.acceptPreferences_boxed accepted server user vault registry)
  | launch read registry =>
      exact ⟨cString_restored rfl, cString_restored rfl, cString_restored cString_port⟩
  | elsewhere vault registry => exact ⟨clean.server, clean.user, clean.port⟩

theorem clean_run (utf8 : WideToUtf8 width) (moves : List (AccountMove width)) :
    Clean (finalState (accountStep utf8) {} moves) :=
  @finalState_invariant _ _ _ _ Clean (clean_step utf8) _ ⟨rfl, rfl, cString_port⟩ moves

theorem validateAccount_server {account : SipAccount width}
    (accepted : validateAccount account = .none) : account.server.length ≤ 253 := by
  have host := (validateAccount_none accepted).1
  by_contra long
  have refused : validSipHost account.server = false := by
    refine if_pos ?_
    simp only [Bool.or_eq_true, decide_eq_true_eq]
    exact .inr (Nat.not_le.mp long)
  cases host.symm.trans refused

theorem evaluateAccountForm_valid {server user port : WString width}
    (valid : (evaluateAccountForm server user port).valid = true) :
    server ≠ [] ∧ user ≠ [] ∧ port ≠ [] ∧ server.length ≤ 253 := by
  simp only [AccountFormFeedback.valid, decide_eq_true_eq] at valid
  unfold evaluateAccountForm at valid
  split at valid
  · cases valid
  · next hosted =>
      split at valid
      · cases valid
      · next named =>
          split at valid
          · cases valid
          · next ported =>
              refine ⟨fun empty => hosted (List.isEmpty_iff.mpr empty),
                fun empty => named (List.isEmpty_iff.mpr empty),
                fun empty => ported (List.isEmpty_iff.mpr empty), ?_⟩
              split at valid
              · cases valid
              · cases valid
              · next number _ =>
                  split at valid
                  · cases valid
                  · split at valid
                    · cases valid
                    · split at valid
                      · next accepted => exact validateAccount_server accepted
                      · cases valid
                      · cases valid
                      · cases valid

namespace AccountDesk

variable {desk : AccountDesk width}

/-- The account is written as it stands in the form. -/
theorem saveSipAccountIdentifiers_registers (server : desk.form.server ≠ [])
    (user : desk.form.user ≠ []) (port : desk.form.port ≠ [])
    (short : desk.form.server.length ≤ 4096 ∧ desk.form.user.length ≤ 4096 ∧
      desk.form.port.length ≤ 4096) :
    (desk.saveSipAccountIdentifiers ⟨true, true, true, true⟩).2.registry =
      ⟨some desk.form.server, some desk.form.user, some desk.form.port⟩ := by
  simp [saveSipAccountIdentifiers, prefEditText_of_le short.1, prefEditText_of_le short.2.1,
    prefEditText_of_le short.2.2, server, user, port]

/-- A box that stays ticked tells that the password was saved. -/
theorem save_stays {secret : WString width} {vault : VaultAnswers} {registry : RegistryAnswers}
    (stays : (desk.save secret vault registry).form.remember = true) :
    desk.save secret vault registry =
      (({ desk with vault := some { userName := some desk.identity, blob := secret } } :
        AccountDesk width).saveSipAccountIdentifiers registry).2.withRemember true := by
  unfold save at stays ⊢
  rcases @saveSipCredential_cases _ desk secret vault.written with refused | ⟨saved, -⟩
  · rw [refused] at stays
    cases stays
  · rw [saved]
    rfl

theorem restored_of_le {text initial : WString width} {limit : ℕ} (short : text.length ≤ limit)
    (whole : cString text = text) : restored (some text) true limit initial = text := by
  simp [restored, short, whole]

/-- What the vault holds for the form is loaded when the registration starts. -/
theorem beforeStart_loads {secret : WString width} {vault : VaultAnswers}
    {registry : RegistryAnswers} (ticked : desk.form.remember = true)
    (empty : desk.form.password = []) (read : vault.read = true) (entered : secret ≠ [])
    (short : secret.length ≤ 256)
    (held : desk.vault = some { userName := some desk.identity, blob := secret }) :
    desk.beforeStart vault registry = desk.withPassword secret := by
  have loaded : desk.loadSipCredential vault.read = secret := by
    simp [loadSipCredential, held, read, entered, short]
  simp [beforeStart, ticked, empty, prefEditText, loaded, entered]

end AccountDesk

/-- What is handed to the engine for a form and a password. -/
def AccountDesk.requested (desk : AccountDesk width) (fields : RegistrationFields width)
    (password : Bytes) : ConfigureRequest width where
  account := {
    server := desk.form.server
    username := desk.form.user
    port := (evaluateAccountForm desk.form.server desk.form.user desk.form.port).port
    useTls := fields.useTls
    codecMode := fields.codecMode }
  ca := fields.ca.take 259
  password := password
  audio := fields.audio

namespace AccountDesk

variable {desk kept : AccountDesk width}

/-- The form of a new window, where the registry and the vault have the account of a form. -/
theorem launch_form (clean : Clean desk)
    (fits : desk.form.server.length ≤ 255 ∧ desk.form.user.length ≤ 128 ∧
      desk.form.port.length ≤ 20) {secret : WString width}
    (held : kept.vault = some { userName := some desk.identity, blob := secret })
    (registered : kept.registry =
      ⟨some desk.form.server, some desk.form.user, some desk.form.port⟩) :
    (kept.launch true ⟨true, true, true, true⟩).form =
        { server := desk.form.server, user := desk.form.user, port := desk.form.port
          password := [], remember := true } ∧
      (kept.launch true ⟨true, true, true, true⟩).vault = kept.vault := by
  refine ⟨?_, rfl⟩
  have server := @restored_of_le _ _ ([] : WString width) _ fits.1 clean.server
  have user := @restored_of_le _ _ ([] : WString width) _ fits.2.1 clean.user
  have port := @restored_of_le _ _ (wideText width "5060") _ fits.2.2 clean.port
  have found (registry : AccountRegistry width) :
      ({ form := { server := desk.form.server, user := desk.form.user, port := desk.form.port }
         vault := kept.vault, registry := registry } : AccountDesk width).sipCredentialExists true =
        true := by
    rw [sipCredentialExists, held, Bool.true_and, Option.any_some, decide_eq_true_eq]
    exact congrArg some (identity_congr rfl rfl)
  simp only [launch, registered, server, user, port, withRemember]
  rw [found]

/-- The registration of a form that is as it should be. -/
theorem registerNativeAccountUi_hands {utf8 : WideToUtf8 width} {fields : RegistrationFields width}
    {password : Bytes}
    (valid : (evaluateAccountForm desk.form.server desk.form.user desk.form.port).valid = true)
    (codec : validNativeCodecMode fields.codecMode = true)
    (fits : desk.form.server.length ≤ 255 ∧ desk.form.user.length ≤ 128 ∧
      desk.form.port.length ≤ 128 ∧ desk.form.password.length ≤ 256)
    (converts : utf8.convert desk.form.password = some password) (given : password ≠ []) :
    (desk.registerNativeAccountUi utf8 fields true).1 =
      .handed (desk.requested fields password) := by
  obtain ⟨server, user, port, secret⟩ := fits
  simp only [registerNativeAccountUi, List.take_of_length_le server, List.take_of_length_le user,
    List.take_of_length_le port, List.take_of_length_le secret, converts, valid, codec]
  rw [if_neg (by decide), if_neg (by decide), if_neg (by simpa using given)]
  rfl

end AccountDesk

/--
A password that the box has saved is used after a restart, whatever has happened in
between, if the vault and the registry are as they were and the system answers.
-/
theorem password_outlives_program (utf8 : WideToUtf8 width)
    (before : List (AccountMove width)) (fields : RegistrationFields width)
    (vault later : VaultAnswers) (registry : RegistryAnswers) (password : Bytes)
    {desk saved kept : AccountDesk width} (reached : desk = finalState (accountStep utf8) {} before)
    (clicked : saved = (accountStep utf8 desk (.remember vault ⟨true, true, true, true⟩)).2)
    (untouched : kept.vault = saved.vault ∧ kept.registry = saved.registry)
    (unticked : desk.form.remember = false) (stays : saved.form.remember = true)
    (entered : desk.form.password ≠ [])
    (valid : (evaluateAccountForm desk.form.server desk.form.user desk.form.port).valid = true)
    (fits : desk.form.user.length ≤ 128 ∧ desk.form.port.length ≤ 20)
    (codec : validNativeCodecMode fields.codecMode = true) (read : later.read = true)
    (converts : utf8.convert desk.form.password = some password) (given : password ≠ []) :
    outputs (accountStep utf8) kept
        [.launch true ⟨true, true, true, true⟩, .start fields true later registry] =
      [.nothing, .handed (desk.requested fields password)] := by
  have keeps := keeps_run utf8 before
  have clean := clean_run utf8 before
  rw [← reached] at keeps clean
  obtain ⟨hosted, named, ported, short⟩ := evaluateAccountForm_valid valid
  have wide : desk.form.server.length ≤ 255 ∧ desk.form.user.length ≤ 128 ∧
      desk.form.port.length ≤ 20 := ⟨short.trans (by decide), fits.1, fits.2⟩
  have saves : saved = desk.save desk.form.password vault ⟨true, true, true, true⟩ := by
    rw [clicked]
    simp [accountStep, AccountDesk.rememberClicked, unticked,
      prefEditText_of_le (keeps.short.trans (by decide)), entered]
  rw [saves] at stays
  rw [saves, AccountDesk.save_stays stays] at untouched
  generalize written : ({ desk with
    vault := some { userName := some desk.identity, blob := desk.form.password } } :
      AccountDesk width) = after at untouched
  have held : kept.vault = some { userName := some desk.identity, blob := desk.form.password } := by
    have same := (after.saveSipAccountIdentifiers_same ⟨true, true, true, true⟩).2
    rw [untouched.1, AccountDesk.withRemember, same, ← written]
  have registered : kept.registry =
      ⟨some desk.form.server, some desk.form.user, some desk.form.port⟩ := by
    rw [untouched.2, AccountDesk.withRemember]
    have same := @AccountDesk.saveSipAccountIdentifiers_registers _ after
    rw [← written] at same ⊢
    exact same hosted named ported ⟨wide.1.trans (by decide), wide.2.1.trans (by decide),
      wide.2.2.trans (by decide)⟩
  obtain ⟨form, vaultKept⟩ := AccountDesk.launch_form clean wide held registered
  have identity : (kept.launch true ⟨true, true, true, true⟩).identity = desk.identity :=
    AccountDesk.identity_congr (form ▸ rfl) (form ▸ rfl)
  have loads : (kept.launch true ⟨true, true, true, true⟩).beforeStart later registry =
      (kept.launch true ⟨true, true, true, true⟩).withPassword desk.form.password := by
    refine AccountDesk.beforeStart_loads (form ▸ rfl) (form ▸ rfl) read entered keeps.short ?_
    rw [vaultKept, held, identity]
  have ready : ((kept.launch true ⟨true, true, true, true⟩).withPassword desk.form.password).form =
      { desk.form with remember := true } := by
    rw [AccountDesk.withPassword, form, keeps.ended]
  have hands := @AccountDesk.registerNativeAccountUi_hands _
    ((kept.launch true ⟨true, true, true, true⟩).withPassword desk.form.password) utf8 fields
    password
  rw [ready] at hands
  have handed := hands valid codec ⟨wide.1, wide.2.1, wide.2.2.trans (by decide), keeps.short⟩
    converts given
  have asked : ((kept.launch true ⟨true, true, true, true⟩).withPassword
      desk.form.password).requested fields password = desk.requested fields password := by
    rw [AccountDesk.requested, ready]
    rfl
  rw [asked, ← loads] at handed
  exact congrArg (fun observed => [AccountObserved.nothing, observed]) handed

/-- The conversion of an ASCII text. -/
def asciiToUtf8 : WideToUtf8 .utf16 where
  convert text :=
    if text.all fun unit => unit.toNat < 128 then some (text.map fun unit => UInt8.ofNat unit.toNat)
    else none
  convert_nil := rfl

/-- The user fills in an account. -/
def filledIn : List (AccountMove .utf16) :=
  [.edit .server (wideText .utf16 "pbx") true, .edit .user (wideText .utf16 "ana") true,
    .edit .password (wideText .utf16 "pw") true]

def filledForm : AccountDesk .utf16 := finalState (accountStep asciiToUtf8) {} filledIn

def plainFields : RegistrationFields .utf16 where
  ca := []
  useTls := false
  codecMode := .automatic
  audio := {}

theorem filledIn_outlives :
    let saved := (accountStep asciiToUtf8 filledForm
      (.remember ⟨true, true, .deleted⟩ ⟨true, true, true, true⟩)).2
    outputs (accountStep asciiToUtf8) { saved with form := {} }
        [.launch true ⟨true, true, true, true⟩,
          .start plainFields true ⟨true, true, .deleted⟩ ⟨true, true, true, true⟩] =
      [.nothing, .handed (filledForm.requested plainFields (asciiBytes "pw"))] :=
  password_outlives_program asciiToUtf8 filledIn plainFields ⟨true, true, .deleted⟩
    ⟨true, true, .deleted⟩ ⟨true, true, true, true⟩ (asciiBytes "pw") rfl rfl ⟨rfl, rfl⟩ rfl rfl
    (by decide) rfl ⟨by decide, by decide⟩ rfl rfl (by decide) (by decide)

end AxeVoice.Desktop
