import AxeVoice.Foundation.Delimited
import AxeVoice.Native.EngineAccount

/-!
# The form of the account

The user may have the password of the account remembered.  It is kept in the
credential vault of the system under the server and the user of the form, while
the registry keeps the server, the user and the port.  What the system answers to
a call is an argument; other programs may change the vault and the registry between
two messages of the form.
-/

namespace AxeVoice.Desktop

open Foundation Native Sip

variable {width : WCharWidth}

inductive AccountFeedbackKind where
  | incomplete
  | invalid
  | valid
  deriving DecidableEq, Repr

structure AccountFormFeedback where
  kind : AccountFeedbackKind
  error : AccountError
  port : UInt16
  message : String

def AccountFormFeedback.valid (feedback : AccountFormFeedback) : Bool := feedback.kind = .valid

inductive PortReading where
  | noDigits
  | outOfRange
  | number (port : ℕ)
  deriving DecidableEq, Repr

/-- The loop over the digits of the port. -/
def readAccountPort (parsed : ℕ) : WString width → PortReading
  | [] => .number parsed
  | digit :: rest =>
      if !digit.within '0' '9' then .noDigits
      else if parsed * 10 + (digit.toNat - '0'.toNat) > 65535 then .outOfRange
      else readAccountPort (parsed * 10 + (digit.toNat - '0'.toNat)) rest

def evaluateAccountForm (server username portText : WString width) : AccountFormFeedback :=
  if server.isEmpty then
    ⟨.incomplete, .missingServer, 0, "Informe o servidor SIP (validacao local, sem registro)."⟩
  else if username.isEmpty then
    ⟨.incomplete, .missingUser, 0, "Informe o usuario SIP (validacao local, sem registro)."⟩
  else if portText.isEmpty then
    ⟨.incomplete, .invalidPort, 0, "Informe a porta SIP (1 a 65535)."⟩
  else
    match readAccountPort 0 portText with
    | .noDigits => ⟨.invalid, .invalidPort, 0, "Porta SIP invalida: use apenas numeros."⟩
    | .outOfRange => ⟨.invalid, .invalidPort, 0, "Porta SIP fora do intervalo 1 a 65535."⟩
    | .number port =>
        if port = 0 then ⟨.invalid, .invalidPort, 0, "Porta SIP invalida: use 1 a 65535."⟩
        else if wideText width "://" <:+: server ∨ WString.contains server '/' then
          ⟨.invalid, .invalidServer, 0,
            "Servidor SIP: informe somente o host DNS/IP, sem https://, http:// ou barras."⟩
        else
          match validateAccount { server, username, port := UInt16.ofNat port } with
          | .none =>
              ⟨.valid, .none, UInt16.ofNat port,
                "Dados validos localmente. Registro SIP nao realizado."⟩
          | .invalidServer =>
              ⟨.invalid, .invalidServer, 0,
                "Servidor SIP invalido: use nome DNS ou IP, sem espacos."⟩
          | .invalidUser =>
              ⟨.invalid, .invalidUser, 0,
                "Usuario SIP invalido: use letras ASCII, numeros e _ . - +."⟩
          | error =>
              ⟨.invalid, error, 0, "Conta SIP invalida; revise servidor, usuario e porta."⟩

/-- What a zero ends. -/
def cString (text : WString width) : WString width := text.takeWhile (· ≠ 0)

/-- What a field holds that the user has filled in. -/
def fieldText (limit : ℕ) (text : WString width) : WString width := (cString text).take limit

/-- A text that is too long for a field counts as none. -/
def prefEditText (text : WString width) : WString width :=
  if text.length > 4096 then [] else text

structure AccountForm (width : WCharWidth) where
  server : WString width := []
  user : WString width := []
  port : WString width := wideText width "5060"
  password : WString width := []
  /-- The box is ticked. -/
  remember : Bool := false

def sipCredentialIdentity (form : AccountForm width) : WString width :=
  prefEditText form.server ++ wide width '\n' :: prefEditText form.user

structure Credential (width : WCharWidth) where
  userName : Option (WString width)
  blob : WString width
  /-- The blob ends within a unit. -/
  ragged : Bool := false

structure AccountRegistry (width : WCharWidth) where
  sipServer : Option (WString width) := none
  sipUser : Option (WString width) := none
  sipPort : Option (WString width) := none

structure AccountDesk (width : WCharWidth) where
  form : AccountForm width := {}
  /-- The credential of the program; there is one at most. -/
  vault : Option (Credential width) := none
  registry : AccountRegistry width := {}

inductive DeleteAnswer where
  | deleted
  | notFound
  | failed
  deriving DecidableEq, Repr

structure VaultAnswers where
  read : Bool
  written : Bool
  deleted : DeleteAnswer

structure RegistryAnswers where
  opened : Bool
  server : Bool
  user : Bool
  port : Bool

/-- What is in the dialog of the preferences when it closes. -/
structure AccountPreferences (width : WCharWidth) where
  server : WString width
  user : WString width
  port : WString width
  password : WString width
  remember : Bool

/-- How a field takes a text: whether it reports one that it held before, and the vault's answer. -/
structure FieldAnswer where
  echoes : Bool
  read : Bool

/-- The conversion of the system, which may refuse a text. -/
structure WideToUtf8 (width : WCharWidth) where
  convert : WString width → Option Bytes
  convert_nil : convert [] = some []

/-- The other fields of a registration. -/
structure RegistrationFields (width : WCharWidth) where
  ca : WString width
  useTls : Bool
  codecMode : NativeCodecMode
  audio : NativeAudioRoute width

inductive AccountField where
  | server
  | user
  | port
  | password
  deriving DecidableEq, Repr

inductive AccountMove (width : WCharWidth) where
  /-- The user changes the text of a field. -/
  | edit (field : AccountField) (text : WString width) (read : Bool)
  /-- The box is clicked. -/
  | remember (vault : VaultAnswers) (registry : RegistryAnswers)
  /-- The start button; `prepared` where nothing is thrown. -/
  | start (fields : RegistrationFields width) (prepared : Bool) (vault : VaultAnswers)
      (registry : RegistryAnswers)
  /-- The preferences are accepted. -/
  | preferences (accepted : AccountPreferences width) (server user : FieldAnswer)
      (vault : VaultAnswers) (registry : RegistryAnswers)
  /-- The program is started again. -/
  | launch (read : Bool) (registry : RegistryAnswers)
  /-- Another program has changed the vault and the registry. -/
  | elsewhere (vault : Option (Credential width)) (registry : AccountRegistry width)

inductive AccountObserved (width : WCharWidth) where
  | nothing
  | invalidAccount
  | preparationFailed
  | refused
  /-- The engine is asked to register. -/
  | handed (request : ConfigureRequest width)

namespace AccountDesk

variable (desk : AccountDesk width)

def identity : WString width := sipCredentialIdentity desk.form

def withRemember (remember : Bool) : AccountDesk width :=
  { desk with form := { desk.form with remember := remember } }

def withPassword (text : WString width) : AccountDesk width :=
  { desk with form := { desk.form with password := cString text } }

def sipCredentialExists (read : Bool) : Bool :=
  read && desk.vault.any fun credential => credential.userName = some desk.identity

/-- Never another account's credential; a missing one counts as forgotten. -/
def forgetSipCredential (answers : VaultAnswers) : Bool × AccountDesk width :=
  if !desk.sipCredentialExists answers.read then (true, desk)
  else if answers.deleted = .failed then (false, desk)
  else (true, { desk with vault := none })

def saveSipCredential (secret : WString width) (written : Bool) : Bool × AccountDesk width :=
  if secret.isEmpty || secret.length > 256 then (false, desk)
  else if desk.identity.length < 3 || desk.identity.head? = some (wide width '\n') ||
      desk.identity.getLast? = some (wide width '\n') then (false, desk)
  else if !written then (false, desk)
  else (true, { desk with vault := some { userName := some desk.identity, blob := secret } })

def loadSipCredential (read : Bool) : WString width :=
  match desk.vault with
  | some credential =>
      if read && credential.userName = some desk.identity && !credential.blob.isEmpty &&
          credential.blob.length ≤ 256 && !credential.ragged then credential.blob
      else []
  | none => []

def saveSipAccountIdentifiers (answers : RegistryAnswers) : Bool × AccountDesk width :=
  let server := prefEditText desk.form.server
  let user := prefEditText desk.form.user
  let port := prefEditText desk.form.port
  if server.isEmpty || user.isEmpty || port.isEmpty || !answers.opened then (false, desk)
  else
    -- the first value that cannot be written ends it
    let written := answers.server && answers.user
    (written && answers.port,
      { desk with registry := {
          sipServer := if answers.server then some server else desk.registry.sipServer
          sipUser := if written then some user else desk.registry.sipUser
          sipPort := if written && answers.port then some port else desk.registry.sipPort } })

def clearSipAccountIdentifiers (answers : RegistryAnswers) : AccountDesk width :=
  if !answers.opened then desk
  else
    { desk with registry := {
        sipServer := if answers.server then none else desk.registry.sipServer
        sipUser := if answers.user then none else desk.registry.sipUser
        sipPort := if answers.port then none else desk.registry.sipPort } }

/-- A value that is there, is read and fits the buffer replaces the text of a field. -/
def restored (value : Option (WString width)) (read : Bool) (limit : ℕ) (initial : WString width) :
    WString width :=
  match value with
  | some text => if read && text.length ≤ limit then cString text else initial
  | none => initial

/-- The form of a new window. -/
def launch (read : Bool) (answers : RegistryAnswers) : AccountDesk width :=
  let fresh : AccountForm width := {}
  let restored := { desk with form := { fresh with
    server := restored desk.registry.sipServer answers.server 255 fresh.server
    user := restored desk.registry.sipUser answers.user 128 fresh.user
    port := restored desk.registry.sipPort answers.port 20 fresh.port } }
  restored.withRemember (restored.sipCredentialExists read)

/-- The handler of `EN_CHANGE` for the server and the user. -/
def identityChanged (read : Bool) : AccountDesk width :=
  (desk.withPassword []).withRemember (desk.sipCredentialExists read)

def setServer (text : WString width) (answer : FieldAnswer) : AccountDesk width :=
  let filled := { desk with form := { desk.form with server := text } }
  if text ≠ desk.form.server ∨ answer.echoes then filled.identityChanged answer.read else filled

def setUser (text : WString width) (answer : FieldAnswer) : AccountDesk width :=
  let filled := { desk with form := { desk.form with user := text } }
  if text ≠ desk.form.user ∨ answer.echoes then filled.identityChanged answer.read else filled

def setPort (text : WString width) : AccountDesk width :=
  { desk with form := { desk.form with port := text } }

/-- A field takes no more than 128 units; what it has got otherwise it keeps. -/
def edit (field : AccountField) (text : WString width) (read : Bool) : AccountDesk width :=
  match field with
  | .server => desk.setServer (fieldText (max 128 desk.form.server.length) text) ⟨true, read⟩
  | .user => desk.setUser (fieldText (max 128 desk.form.user.length) text) ⟨true, read⟩
  | .port => desk.setPort (fieldText (max 128 desk.form.port.length) text)
  | .password => desk.withPassword (fieldText 256 text)

/-- The password is forgotten, and with it the account; else the box is ticked again. -/
def forget (vault : VaultAnswers) (registry : RegistryAnswers) : AccountDesk width :=
  let (forgotten, after) := desk.forgetSipCredential vault
  if forgotten then (after.clearSipAccountIdentifiers registry).withRemember false
  else after.withRemember true

/-- The password is saved, and then the account; else the box is no longer ticked. -/
def save (secret : WString width) (vault : VaultAnswers) (registry : RegistryAnswers) :
    AccountDesk width :=
  let (saved, after) := desk.saveSipCredential secret vault.written
  if !saved then after.withRemember false
  else (after.saveSipAccountIdentifiers registry).2.withRemember true

def rememberClicked (vault : VaultAnswers) (registry : RegistryAnswers) : AccountDesk width :=
  if desk.form.remember then desk.forget vault registry
  else
    let secret := prefEditText desk.form.password
    if secret.isEmpty then desk.withRemember true else desk.save secret vault registry

def acceptPreferences (accepted : AccountPreferences width) (server user : FieldAnswer)
    (vault : VaultAnswers) (registry : RegistryAnswers) : AccountDesk width :=
  let password := fieldText 256 accepted.password
  let named := ((desk.setServer (fieldText 512 accepted.server) server).setUser
    (fieldText 512 accepted.user) user).setPort (fieldText 512 accepted.port)
  let filled := if password.isEmpty then named else named.withPassword password
  if !accepted.remember then filled.forget vault registry
  else if !password.isEmpty then filled.save password vault registry
  else if filled.sipCredentialExists vault.read then
    (filled.saveSipAccountIdentifiers registry).2.withRemember true
  else filled.withRemember true

def registerNativeAccountUi (utf8 : WideToUtf8 width) (fields : RegistrationFields width)
    (prepared : Bool) : AccountObserved width × AccountDesk width :=
  let server := desk.form.server.take 255
  let user := desk.form.user.take 128
  let feedback := evaluateAccountForm server user (desk.form.port.take 128)
  let emptied := desk.withPassword []
  if !prepared then (.preparationFailed, emptied)
  else if !feedback.valid || !validNativeCodecMode fields.codecMode then (.invalidAccount, desk)
  else
    match utf8.convert (desk.form.password.take 256) with
    | none => (.refused, emptied)
    | some password =>
        if password.isEmpty then (.refused, emptied)
        else
          (.handed {
            account := {
              server := server
              username := user
              port := feedback.port
              useTls := fields.useTls
              codecMode := fields.codecMode }
            ca := fields.ca.take 259
            password := password
            audio := fields.audio }, emptied)

/-- What the start button makes of the form before it registers. -/
def beforeStart (vault : VaultAnswers) (registry : RegistryAnswers) : AccountDesk width :=
  if !desk.form.remember then desk
  else
    let secret := prefEditText desk.form.password
    if secret.isEmpty then
      let loaded := desk.loadSipCredential vault.read
      if loaded.isEmpty then desk else desk.withPassword loaded
    else desk.save secret vault registry

end AccountDesk

def accountStep (utf8 : WideToUtf8 width) (desk : AccountDesk width) :
    AccountMove width → AccountObserved width × AccountDesk width
  | .edit field text read => (.nothing, desk.edit field text read)
  | .remember vault registry => (.nothing, desk.rememberClicked vault registry)
  | .start fields prepared vault registry =>
      (desk.beforeStart vault registry).registerNativeAccountUi utf8 fields prepared
  | .preferences accepted server user vault registry =>
      (.nothing, desk.acceptPreferences accepted server user vault registry)
  | .launch read registry => (.nothing, desk.launch read registry)
  | .elsewhere vault registry => (.nothing, { desk with vault := vault, registry := registry })

abbrev AccountStage (width : WCharWidth) :=
  Stage (AccountDesk width) (AccountMove width) (AccountObserved width)

end AxeVoice.Desktop
