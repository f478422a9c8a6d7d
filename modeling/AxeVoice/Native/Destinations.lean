import AxeVoice.Foundation.AsciiText
import AxeVoice.Sip.AddressForm

/-!
# Native destinations

The account as the native engine is configured with it, and the URI that a typed
destination becomes, for a call and for a transfer.
-/

namespace AxeVoice.Native

open Foundation Sip

variable {width : WCharWidth}

inductive NativeCodecMode where
  | automatic
  | pcma
  | pcmu
  | other (value : Int)
  deriving DecidableEq, Repr

def validNativeCodecMode : NativeCodecMode → Bool
  | .automatic | .pcma | .pcmu => true
  | .other _ => false

def nativeAudioCodecList : NativeCodecMode → Bytes
  | .automatic => asciiBytes "PCMU/8000/1,PCMA/8000/1"
  | .pcma => asciiBytes "PCMA/8000/1"
  | .pcmu => asciiBytes "PCMU/8000/1"
  | .other _ => []

structure SipAccount (width : WCharWidth) where
  server : WString width
  username : WString width
  port : UInt16 := 5060
  useTls : Bool := false
  codecMode : NativeCodecMode := .automatic

inductive AccountError where
  | none
  | missingServer
  | invalidServer
  | missingUser
  | invalidUser
  | invalidPort
  deriving DecidableEq, Repr

/-- The characters of a user name. -/
def accountUserUnit (unit : WChar width) : Bool :=
  unit.within 'a' 'z' || unit.within 'A' 'Z' || unit.within '0' '9' || unit = wide width '_' ||
    unit = wide width '.' || unit = wide width '-' || unit = wide width '+'

def validateAccount (account : SipAccount width) : AccountError :=
  if account.server.isEmpty then .missingServer
  else if account.username.isEmpty then .missingUser
  else if account.port = 0 then .invalidPort
  else if !validSipHost account.server then .invalidServer
  else if !account.username.all accountUserUnit then .invalidUser
  else .none

structure NativeAudioRoute (width : WCharWidth) where
  captureId : WString width := []
  playbackId : WString width := []

/-- An ASCII capital as its small letter. -/
def lowerUnit (unit : WChar width) : WChar width :=
  if unit.within 'A' 'Z' then unit + BitVec.ofNat width.bits ('a'.toNat - 'A'.toNat) else unit

def validNativeAudioId (id : WString width) : Bool :=
  if id.length > 127 then false
  else if id.map lowerUnit = wideText width "default" then false
  else
    !id.any fun unit => unit.toNat ≤ 32 || unit.toNat ≥ 127 || unit = wide width ',' ||
      unit = wide width '"' || unit = wide width '#' || unit = wide width ';' ||
      unit = wide width '\\' || unit = wide width '\''

def validNativeAudioRoute (route : NativeAudioRoute width) : Bool :=
  validNativeAudioId route.captureId && validNativeAudioId route.playbackId

/-- The narrow copy of a printable text; nothing for any other text. -/
def nativeAscii (value : WString width) : Bytes :=
  if value.any fun unit => unit.toNat < 32 || unit.toNat > 126 then [] else narrow value

structure NativeAccountConfig where
  valid : Bool := false
  aor : Bytes := []
  config : Bytes := []

def withinByte (byte : UInt8) (low high : Char) : Bool :=
  low.toNat ≤ byte.toNat && byte.toNat ≤ high.toNat

def isByte (byte : UInt8) (character : Char) : Bool := byte.toNat = character.toNat

def accountUserByte (byte : UInt8) : Bool :=
  withinByte byte 'a' 'z' || withinByte byte 'A' 'Z' || withinByte byte '0' '9' ||
    isByte byte '_' || isByte byte '.' || isByte byte '-' || isByte byte '+'

/-- The file of certificates that a TLS account trusts. -/
def trustAccepted (trust : Bytes) : Bool :=
  !(trust.isEmpty || trust.length > 240 || trust.any (isByte · '"') ||
    trust.head?.any (isByte · '#'))

def nativeAccountConfig (account : SipAccount width) (ca : WString width)
    (audio : NativeAudioRoute width) : NativeAccountConfig :=
  if !validNativeAudioRoute audio || !validNativeCodecMode account.codecMode then {}
  else if validateAccount account ≠ .none || account.server.length > 253 ||
      account.username.length > 128 then {}
  else
    let host := nativeAscii account.server
    let user := nativeAscii account.username
    let trust := nativeAscii ca
    if host.isEmpty || user.isEmpty then {}
    else if !user.all accountUserByte then {}
    else if account.useTls && !trustAccepted trust then {}
    else
      let transport := asciiBytes (if account.useTls then "tls" else "udp")
      let aor := asciiBytes "<sip:" ++ user ++ asciiBytes "@" ++ host ++ asciiBytes ":" ++
        decimal account.port.toNat ++ asciiBytes ";transport=" ++ transport ++
        asciiBytes ">;regint=0;dtmfmode=info;audio_codecs=" ++
        nativeAudioCodecList account.codecMode
      let capture :=
        if audio.captureId.isEmpty then asciiBytes "default" else nativeAscii audio.captureId
      let playback :=
        if audio.playbackId.isEmpty then asciiBytes "default" else nativeAscii audio.playbackId
      let base := asciiBytes "poll_method select\nsip_transports " ++ transport ++
        asciiBytes "\nsip_verify_server yes\naudio_player wasapi," ++ playback ++
        asciiBytes "\naudio_source wasapi," ++ capture ++
        asciiBytes "\naudio_alert wasapi,default\ncall_max_calls 1\n"
      let loopback :=
        if account.server = wideText width "127.0.0.1" then asciiBytes "net_interface 127.0.0.1\n"
        else []
      let trusted :=
        if account.useTls then asciiBytes "sip_cafile " ++ trust ++ asciiBytes "\n" else []
      { valid := true, aor := aor, config := base ++ loopback ++ trusted }

inductive NativeDestinationError where
  | none
  | invalidAddress
  | transportMismatch
  | unsupportedCharacters
  | tooLong
  | invalidAccount
  deriving DecidableEq, Repr

structure NativeDestinationResult where
  error : NativeDestinationError := .invalidAddress
  uri : Bytes := []
  deriving DecidableEq, Repr

def NativeDestinationResult.succeeds (result : NativeDestinationResult) : Bool :=
  result.error = .none && !result.uri.isEmpty

/-- A narrow text begins with a literal. -/
def byteStarts (text : Bytes) (literal : String) : Bool := (asciiBytes literal).isPrefixOf text

/-- The position of the first occurrence of a character in a narrow text. -/
def byteFind (text : Bytes) (character : Char) : Option Nat :=
  text.findIdx? (isByte · character)

/-- The characters of a user that a native URI may hold. -/
def nativeUserByte (byte : UInt8) : Bool :=
  withinByte byte 'a' 'z' || withinByte byte 'A' 'Z' || withinByte byte '0' '9' ||
    isByte byte '_' || isByte byte '.' || isByte byte '-' || isByte byte '+' || isByte byte '*' ||
    isByte byte '#'

/-- The length of the scheme in front of a native URI. -/
def uriStart (uri : Bytes) : Nat := if byteStarts uri "sips:" then 5 else 4

/-- The last checks on a URI, on its length and its user. -/
def checkedUri (uri : Bytes) : NativeDestinationResult :=
  if uri.length > 512 then ⟨.tooLong, []⟩
  else
    match byteFind uri '@' with
    | none => ⟨.invalidAddress, []⟩
    | some position =>
        if position ≤ uriStart uri then ⟨.invalidAddress, []⟩
        else if !((uri.take position).drop (uriStart uri)).all nativeUserByte then
          ⟨.unsupportedCharacters, []⟩
        else ⟨.none, uri⟩

/-- A dial string on the route of the account. -/
def routedUri (uri : Bytes) (account : SipAccount width) : Bytes :=
  let bare :=
    if byteStarts uri "sips:" then uri.drop 5 else if byteStarts uri "sip:" then uri.drop 4 else uri
  asciiBytes (if account.useTls then "sips:" else "sip:") ++ bare ++ asciiBytes "@" ++
    nativeAscii account.server ++ asciiBytes ":" ++ decimal account.port.toNat ++
    asciiBytes (if account.useTls then ";transport=tls" else ";transport=udp")

def nativeCallDestinationResult (ctype : WideCtype width) (typed : WString width)
    (account : SipAccount width) : NativeDestinationResult :=
  if typed.length > 512 then ⟨.tooLong, []⟩
  else
    let parsed := validateAddress ctype typed
    if !parsed.valid then ⟨.invalidAddress, []⟩
    else
      let uri := nativeAscii parsed.normalized
      if uri.isEmpty then ⟨.unsupportedCharacters, []⟩
      else
        let secure := byteStarts uri "sips:"
        let plain := byteStarts uri "sip:"
        if (secure && !account.useTls) || (plain && account.useTls) then ⟨.transportMismatch, []⟩
        else if (byteFind uri '@').isNone then
          let trust := if account.useTls then wideText width "validated-ca" else []
          if !(nativeAccountConfig account trust {}).valid then ⟨.invalidAccount, []⟩
          else checkedUri (routedUri uri account)
        else checkedUri uri

def forbiddenInTransfer (byte : UInt8) : Bool :=
  byte.toNat ≤ 32 || byte.toNat ≥ 127 || isByte byte '%' || isByte byte '?' || isByte byte '"' ||
    isByte byte '\\' || isByte byte '<' || isByte byte '>'

/-- What may follow the first semicolon of a URI. -/
def suffixAccepted (secure : Bool) (suffix : Bytes) : Bool :=
  if suffix ≠ asciiBytes ";transport=tls" && suffix ≠ asciiBytes ";transport=udp" then false
  else !(secure && suffix ≠ asciiBytes ";transport=tls")

/-- The checks on a URI without its parameters. -/
def transferBase (ctype : WideCtype width) (secure : Bool) (base : Bytes) : Bool :=
  match byteFind base '@' with
  | none => false
  | some position =>
      let start := if secure then 5 else 4
      if position ≤ start then false
      else if !((base.take position).drop start).all nativeUserByte then false
      else
        let parsed := validateAddress ctype (widen width base)
        parsed.valid && parsed.normalized = widen width base

def validNativeTransferUri (ctype : WideCtype width) (uri : Bytes) : Bool :=
  if uri.isEmpty || uri.length > 512 then false
  else if uri.any forbiddenInTransfer then false
  else
    let secure := byteStarts uri "sips:"
    if !secure && !byteStarts uri "sip:" then false
    else
      match byteFind uri ';' with
      | none => transferBase ctype secure uri
      | some split =>
          if !suffixAccepted secure (uri.drop split) then false
          else transferBase ctype secure (uri.take split)

def nativeTransferDestinationResult (ctype : WideCtype width) (typed : WString width)
    (account : SipAccount width) : NativeDestinationResult :=
  let result := nativeCallDestinationResult ctype typed account
  if !result.succeeds || validNativeTransferUri ctype result.uri then result
  else ⟨.invalidAddress, []⟩

end AxeVoice.Native
