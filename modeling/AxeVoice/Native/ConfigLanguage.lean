import AxeVoice.Foundation.ByteText
import AxeVoice.Foundation.Delimited
import AxeVoice.Native.DestinationLanguage

/-!
# The native configuration of an account

What the native engine reads of an account: the address of record and the lines
of the configuration.  The texts of the input stay inside the values that they
were put into, so that the two together give the input back.
-/

namespace AxeVoice.Native

open Foundation Sip

variable {width : WCharWidth}

def newline : UInt8 := asciiByte '\n'

/-- A line of the configuration. -/
structure ConfigDirective where
  name : String
  value : Bytes
  deriving DecidableEq

def ConfigDirective.line (directive : ConfigDirective) : Bytes :=
  asciiBytes directive.name ++ asciiByte ' ' :: directive.value

def transportText (account : SipAccount width) : Bytes :=
  asciiBytes (if account.useTls then "tls" else "udp")

/-- The device of an audio route, the default one where none is named. -/
def audioDevice (id : WString width) : Bytes :=
  asciiBytes "wasapi," ++ if id.isEmpty then asciiBytes "default" else narrow id

def configDirectives (account : SipAccount width) (ca : WString width)
    (audio : NativeAudioRoute width) : List ConfigDirective :=
  [⟨"poll_method", asciiBytes "select"⟩, ⟨"sip_transports", transportText account⟩,
    ⟨"sip_verify_server", asciiBytes "yes"⟩, ⟨"audio_player", audioDevice audio.playbackId⟩,
    ⟨"audio_source", audioDevice audio.captureId⟩, ⟨"audio_alert", asciiBytes "wasapi,default"⟩,
    ⟨"call_max_calls", asciiBytes "1"⟩] ++
  (if account.server = wideText width "127.0.0.1" then
    [⟨"net_interface", asciiBytes "127.0.0.1"⟩] else []) ++
  if account.useTls then [⟨"sip_cafile", narrow ca⟩] else []

def addressOfRecord (account : SipAccount width) : Bytes :=
  asciiBytes "<sip:" ++ narrow account.username ++ asciiBytes "@" ++ narrow account.server ++
    asciiBytes ":" ++ decimal account.port.toNat ++ asciiBytes ";transport=" ++
    transportText account ++ asciiBytes ">;regint=0;dtmfmode=info;audio_codecs=" ++
    nativeAudioCodecList account.codecMode

/-- The inputs that become a configuration. -/
structure ConfigAccepted (account : SipAccount width) (ca : WString width)
    (audio : NativeAudioRoute width) : Prop where
  playback : validNativeAudioId audio.playbackId = true
  capture : validNativeAudioId audio.captureId = true
  codecs : validNativeCodecMode account.codecMode = true
  host : validSipHost account.server = true
  user : account.username.all accountUserUnit = true
  trust : account.useTls = true → PrintableText ca

theorem validateAccount_none {account : SipAccount width}
    (accepted : validateAccount account = .none) :
    validSipHost account.server = true ∧ account.username.all accountUserUnit = true := by
  unfold validateAccount at accepted
  split at accepted
  · cases accepted
  split at accepted
  · cases accepted
  split at accepted
  · cases accepted
  split at accepted
  · cases accepted
  next host =>
  split at accepted
  · cases accepted
  next user =>
  exact ⟨by simpa using host, by simpa using user⟩

theorem audioId_printable {id : WString width} (valid : validNativeAudioId id = true) :
    ∀ unit ∈ id, 33 ≤ unit.toNat ∧ unit.toNat ≤ 126 := by
  unfold validNativeAudioId at valid
  split at valid
  · cases valid
  split at valid
  · cases valid
  intro unit member
  rw [Bool.not_eq_true', List.any_eq_false] at valid
  have bounds := valid unit member
  simp only [Bool.or_eq_true, decide_eq_true_eq, not_or] at bounds
  omega

/-- No identifier stands for the default device but the empty one. -/
theorem audioId_named {id : WString width} (valid : validNativeAudioId id = true) :
    id ≠ wideText width "default" := by
  rintro rfl
  have lower : (wideText width "default").map lowerUnit = wideText width "default" := by
    cases width <;> decide
  unfold validNativeAudioId at valid
  rw [if_pos lower] at valid
  split at valid <;> cases valid

theorem accountUser_clean {text : WString width} (user : text.all accountUserUnit = true) :
    CleanText text := by
  apply cleanText_of_user
  rw [List.all_eq_true] at user ⊢
  intro unit member
  have known := user unit member
  unfold accountUserUnit at known
  unfold RecentDestinations.userUnit
  rw [known]
  rfl

theorem server_clean {text : WString width} (valid : validSipHost text = true) : CleanText text :=
  fun unit member => ((hostUnits_of_validSipHost valid).2.2 unit member).1.clean

theorem printable_of_audioId {id : WString width} (valid : validNativeAudioId id = true) :
    PrintableText id := by
  intro unit member
  have bounds := audioId_printable valid unit member
  exact ⟨by omega, bounds.2⟩

/-- The lines that every configuration has. -/
theorem commonLines_text (transport playback capture : Bytes) :
    asciiBytes "poll_method select\nsip_transports " ++ transport ++
        asciiBytes "\nsip_verify_server yes\naudio_player wasapi," ++ playback ++
        asciiBytes "\naudio_source wasapi," ++ capture ++
        asciiBytes "\naudio_alert wasapi,default\ncall_max_calls 1\n" =
      terminated newline ([⟨"poll_method", asciiBytes "select"⟩, ⟨"sip_transports", transport⟩,
        ⟨"sip_verify_server", asciiBytes "yes"⟩,
        ⟨"audio_player", asciiBytes "wasapi," ++ playback⟩,
        ⟨"audio_source", asciiBytes "wasapi," ++ capture⟩,
        ⟨"audio_alert", asciiBytes "wasapi,default"⟩,
        ⟨"call_max_calls", asciiBytes "1"⟩].map ConfigDirective.line) := by
  simp [asciiBytes, ConfigDirective.line, newline, asciiByte]

theorem loopbackLine_text :
    asciiBytes "net_interface 127.0.0.1\n" = terminated newline
      ([⟨"net_interface", asciiBytes "127.0.0.1"⟩].map ConfigDirective.line) := by
  decide

theorem trustLine_text (trust : Bytes) :
    asciiBytes "sip_cafile " ++ trust ++ asciiBytes "\n" =
      terminated newline ([⟨"sip_cafile", trust⟩].map ConfigDirective.line) := by
  simp [asciiBytes, ConfigDirective.line, newline, asciiByte]

theorem terminated_ite {claim : Prop} [Decidable claim] (lines : List ConfigDirective) :
    terminated newline ((if claim then lines else []).map ConfigDirective.line) =
      if claim then terminated newline (lines.map ConfigDirective.line) else [] := by
  split <;> rfl

/-- What the lines of a configuration are put together to. -/
theorem configDirectives_text {account : SipAccount width} {ca : WString width}
    {audio : NativeAudioRoute width} {playback capture trust : Bytes}
    (playback_ : audioDevice audio.playbackId = asciiBytes "wasapi," ++ playback)
    (capture_ : audioDevice audio.captureId = asciiBytes "wasapi," ++ capture)
    (trust_ : account.useTls = true → narrow ca = trust) :
    terminated newline ((configDirectives account ca audio).map ConfigDirective.line) =
      asciiBytes "poll_method select\nsip_transports " ++ transportText account ++
        asciiBytes "\nsip_verify_server yes\naudio_player wasapi," ++ playback ++
        asciiBytes "\naudio_source wasapi," ++ capture ++
        asciiBytes "\naudio_alert wasapi,default\ncall_max_calls 1\n" ++
        (if account.server = wideText width "127.0.0.1" then
          asciiBytes "net_interface 127.0.0.1\n" else []) ++
        if account.useTls then asciiBytes "sip_cafile " ++ trust ++ asciiBytes "\n" else [] := by
  rw [configDirectives, List.map_append, List.map_append, terminated_append, terminated_append,
    terminated_ite, terminated_ite, playback_, capture_, commonLines_text, ← loopbackLine_text]
  cases tls : account.useTls with
  | false => rfl
  | true => rw [trust_ tls, if_pos rfl, if_pos rfl, trustLine_text]

theorem nativeAccountConfig_valid {account : SipAccount width} {ca : WString width}
    {audio : NativeAudioRoute width} (valid : (nativeAccountConfig account ca audio).valid = true) :
    ConfigAccepted account ca audio ∧ nativeAccountConfig account ca audio =
      { valid := true
        aor := addressOfRecord account
        config := terminated newline ((configDirectives account ca audio).map ConfigDirective.line) }
    := by
  unfold nativeAccountConfig at valid ⊢
  split at valid
  · cases valid
  next routed =>
  split at valid
  · cases valid
  next known =>
  dsimp only at valid
  split at valid
  · cases valid
  next named =>
  split at valid
  · cases valid
  next userBytes =>
  split at valid
  · cases valid
  next trusted =>
  rw [if_neg routed, if_neg known]
  dsimp only
  rw [if_neg named, if_neg userBytes, if_neg trusted]
  simp only [Bool.or_eq_true, Bool.not_eq_true', decide_eq_true_eq, not_or, ne_eq, not_not,
    Bool.not_eq_false, validNativeAudioRoute, Bool.and_eq_true] at routed known
  obtain ⟨⟨capture, playback⟩, codecs⟩ := routed
  obtain ⟨host, user⟩ := validateAccount_none known.1.1
  have trust : account.useTls = true → PrintableText ca := by
    intro tls
    apply nativeAscii_filled
    intro empty
    simp [tls, empty, trustAccepted] at trusted
  have device {id : WString width} (printable : validNativeAudioId id = true) :
      audioDevice id = asciiBytes "wasapi," ++
        if id.isEmpty then asciiBytes "default" else nativeAscii id := by
    rw [audioDevice, nativeAscii_printable (printable_of_audioId printable)]
  refine ⟨⟨playback, capture, codecs, host, user, trust⟩, ?_⟩
  rw [configDirectives_text (device playback) (device capture) fun tls =>
      (nativeAscii_printable (trust tls)).symm,
    addressOfRecord, nativeAscii_printable (printable_of_clean (server_clean host)),
    nativeAscii_printable (printable_of_clean (accountUser_clean user))]
  rfl

theorem printable_newline {text : WString width} (printable : PrintableText text) :
    newline ∉ narrow text := by
  intro found
  obtain ⟨unit, member, same⟩ := List.mem_map.mp found
  have bounds := printable unit member
  have code := congrArg UInt8.toNat same
  rw [narrowUnit_toNat bounds] at code
  have ten : newline.toNat = 10 := rfl
  unfold IsPrintable at bounds
  omega

theorem audioDevice_newline {id : WString width} (valid : validNativeAudioId id = true) :
    newline ∉ audioDevice id := by
  rw [audioDevice, List.mem_append, not_or]
  refine ⟨by decide, ?_⟩
  split
  · decide
  · exact printable_newline (printable_of_audioId valid)

/-- No directive goes on behind the end of its line. -/
theorem ConfigAccepted.lines {account : SipAccount width} {ca : WString width}
    {audio : NativeAudioRoute width} (accepted : ConfigAccepted account ca audio) :
    ∀ line ∈ (configDirectives account ca audio).map ConfigDirective.line, newline ∉ line := by
  have line {name : String} {value : Bytes} (named : newline ∉ asciiBytes name)
      (valued : newline ∉ value) : newline ∉ ConfigDirective.line ⟨name, value⟩ := by
    have apart : newline ≠ asciiByte ' ' := by decide
    simp [ConfigDirective.line, named, apart, valued]
  have transport : newline ∉ transportText account := by
    rw [transportText]
    split <;> decide
  rw [List.forall_mem_map, configDirectives]
  intro directive member
  simp only [List.mem_append, List.mem_cons, List.not_mem_nil, or_false] at member
  rcases member with (common | loopback) | trusted
  · rcases common with rfl | rfl | rfl | rfl | rfl | rfl | rfl
    · exact line (by decide) (by decide)
    · exact line (by decide) transport
    · exact line (by decide) (by decide)
    · exact line (by decide) (audioDevice_newline accepted.playback)
    · exact line (by decide) (audioDevice_newline accepted.capture)
    · exact line (by decide) (by decide)
    · exact line (by decide) (by decide)
  · split at loopback
    · rw [List.mem_singleton.mp loopback]
      exact line (by decide) (by decide)
    · cases loopback
  · split at trusted
    · next tls =>
        rw [List.mem_singleton.mp trusted]
        exact line (by decide) (printable_newline (accepted.trust tls))
    · cases trusted

/-- The bytes that divide an address of record, white space and what is not printed. -/
def dividesRecord (byte : UInt8) : Bool :=
  byte.toNat ≤ 32 || byte.toNat ≥ 127 || isByte byte '<' || isByte byte '>' || isByte byte ';' ||
    isByte byte '@'

def PlainBytes (text : Bytes) : Prop := ∀ byte ∈ text, dividesRecord byte = false

theorem plainBytes_of_clean {text : WString width} (clean : CleanText text) :
    PlainBytes (narrow text) := by
  intro byte found
  obtain ⟨unit, member, rfl⟩ := List.mem_map.mp found
  have known := clean unit member
  have printable : IsPrintable unit := printable_of_clean clean unit member
  have apart (character : Char) (listed : character ∈ ['<', '>', '\\', '"', '?', ';', '@', '%'])
      (small : character.toNat < 128) : isByte (narrowUnit unit) character = false := by
    rw [isByte_narrow printable small]
    exact decide_eq_false (known.ne_wide listed)
  rw [dividesRecord, apart '<' (by simp) (by decide), apart '>' (by simp) (by decide),
    apart ';' (by simp) (by decide), apart '@' (by simp) (by decide), narrowUnit_toNat printable]
  have bounds := known.printable
  simp only [Bool.or_false, Bool.or_eq_false_iff, decide_eq_false_iff_not]
  omega

theorem decimal_plain (number : ℕ) : PlainBytes (decimal number) := by
  intro byte member
  have bounds := decimal_digit member
  simp only [dividesRecord, isByte, Bool.or_eq_false_iff, decide_eq_false_iff_not]
  have codes : '<'.toNat = 60 ∧ '>'.toNat = 62 ∧ ';'.toNat = 59 ∧ '@'.toNat = 64 := by decide
  omega

theorem PlainBytes.notMem {text : Bytes} (plain : PlainBytes text) {byte : UInt8}
    (divides : dividesRecord byte = true) : byte ∉ text := by
  intro found
  cases (plain byte found).symm.trans divides

theorem PlainBytes.filter {text : Bytes} (plain : PlainBytes text) :
    text.filter dividesRecord = [] :=
  List.filter_eq_nil_iff.mpr fun byte member => by simp [plain byte member]

/-- The delimiters of an address of record are those of its fixed text. -/
theorem ConfigAccepted.delimiters {account : SipAccount width} {ca : WString width}
    {audio : NativeAudioRoute width} (accepted : ConfigAccepted account ca audio) :
    (addressOfRecord account).filter dividesRecord = asciiBytes "<@;>;;;" := by
  have user := (plainBytes_of_clean (accountUser_clean accepted.user)).filter
  have host := (plainBytes_of_clean (server_clean accepted.host)).filter
  have port := (decimal_plain account.port.toNat).filter
  have transport : (transportText account).filter dividesRecord = [] := by
    rw [transportText]
    split <;> decide
  have codecs : (nativeAudioCodecList account.codecMode).filter dividesRecord = [] := by
    cases account.codecMode with
    | other => rfl
    | _ => decide
  simp only [addressOfRecord, List.filter_append, user, host, port, transport, codecs]
  decide

theorem narrow_inj {first second : WString width} (firstPrintable : PrintableText first)
    (secondPrintable : PrintableText second) (same : narrow first = narrow second) :
    first = second := by
  rw [← widen_narrow firstPrintable, same, widen_narrow secondPrintable]

theorem audioDevice_inj {first second : WString width} (firstValid : validNativeAudioId first = true)
    (secondValid : validNativeAudioId second = true)
    (same : audioDevice first = audioDevice second) : first = second := by
  have named {id : WString width} (valid : validNativeAudioId id = true) :
      asciiBytes "default" ≠ narrow id := by
    intro same
    rw [← narrow_wideText "default" (by simp)] at same
    have printable : PrintableText (wideText width "default") := wideText_printable (by simp)
    exact audioId_named valid (narrow_inj printable (printable_of_audioId valid) same).symm
  have values := List.append_cancel_left same
  cases first with
  | nil =>
      cases second with
      | nil => rfl
      | cons unit units => exact absurd values (named secondValid)
  | cons unit units =>
      cases second with
      | nil => exact absurd values.symm (named firstValid)
      | cons other others =>
          exact narrow_inj (printable_of_audioId firstValid) (printable_of_audioId secondValid) values

/-- The address of record, read from its front. -/
theorem addressOfRecord_front (account : SipAccount width) :
    addressOfRecord account = asciiBytes "<sip:" ++ (narrow account.username ++ asciiByte '@' ::
      (narrow account.server ++ asciiByte ':' :: (decimal account.port.toNat ++ asciiByte ';' ::
        (asciiBytes "transport=" ++ (transportText account ++ asciiByte '>' ::
          (asciiBytes ";regint=0;dtmfmode=info;audio_codecs=" ++
            nativeAudioCodecList account.codecMode)))))) := by
  simp [addressOfRecord, asciiBytes, asciiByte]

theorem transportText_inj {first second : SipAccount width}
    (same : transportText first = transportText second) : first.useTls = second.useTls := by
  unfold transportText at same
  cases tls : first.useTls <;> cases tls' : second.useTls <;> simp_all [asciiBytes]

theorem codecList_inj {first second : NativeCodecMode} (firstValid : validNativeCodecMode first = true)
    (secondValid : validNativeCodecMode second = true)
    (same : nativeAudioCodecList first = nativeAudioCodecList second) : first = second := by
  cases first with
  | other value => cases firstValid
  | automatic | pcma | pcmu =>
      cases second with
      | other value => cases secondValid
      | automatic | pcma | pcmu => first | rfl | exact absurd same (by decide)

/-- The address of record tells the account. -/
theorem addressOfRecord_inj {first second : SipAccount width} {ca other : WString width}
    {audio route : NativeAudioRoute width} (firstAccepted : ConfigAccepted first ca audio)
    (secondAccepted : ConfigAccepted second other route)
    (same : addressOfRecord first = addressOfRecord second) : first = second := by
  have unnamed {account : SipAccount width} {ca : WString width} {audio : NativeAudioRoute width}
      (accepted : ConfigAccepted account ca audio) : asciiByte '@' ∉ narrow account.username :=
    (plainBytes_of_clean (accountUser_clean accepted.user)).notMem (by decide)
  have portless {account : SipAccount width} {ca : WString width} {audio : NativeAudioRoute width}
      (accepted : ConfigAccepted account ca audio) : asciiByte ':' ∉ narrow account.server := by
    intro found
    obtain ⟨unit, member, same⟩ := List.mem_map.mp found
    have printable := printable_of_clean (server_clean accepted.host) unit member
    have code := congrArg UInt8.toNat same
    rw [narrowUnit_toNat printable] at code
    exact ((hostUnits_of_validSipHost accepted.host).2.2 unit member).2 code
  have numeral (number : ℕ) : asciiByte ';' ∉ decimal number :=
    (decimal_plain number).notMem (by decide)
  have plainTransport (account : SipAccount width) : asciiByte '>' ∉ transportText account := by
    rw [transportText]
    split <;> decide
  rw [addressOfRecord_front, addressOfRecord_front] at same
  obtain ⟨user, behindUser⟩ := append_delimiter_inj (unnamed firstAccepted) (unnamed secondAccepted)
    (List.append_cancel_left same)
  obtain ⟨host, behindHost⟩ :=
    append_delimiter_inj (portless firstAccepted) (portless secondAccepted) behindUser
  obtain ⟨port, behindPort⟩ := append_delimiter_inj (numeral _) (numeral _) behindHost
  obtain ⟨transport, behindTransport⟩ := append_delimiter_inj (plainTransport first)
    (plainTransport second) (List.append_cancel_left behindPort)
  have server := narrow_inj (printable_of_clean (server_clean firstAccepted.host))
    (printable_of_clean (server_clean secondAccepted.host)) host
  have username := narrow_inj (printable_of_clean (accountUser_clean firstAccepted.user))
    (printable_of_clean (accountUser_clean secondAccepted.user)) user
  have portNumber := UInt16.toNat_inj.mp (decimal_inj port)
  have useTls := transportText_inj transport
  have codecs := codecList_inj firstAccepted.codecs secondAccepted.codecs
    (List.append_cancel_left behindTransport)
  cases first
  cases second
  simp only at server username portNumber useTls codecs
  rw [server, username, portNumber, useTls, codecs]

/-- The configuration of an account tells the route and, where there is TLS, what is trusted. -/
theorem configDirectives_inj {account : SipAccount width} {ca other : WString width}
    {audio route : NativeAudioRoute width} (firstAccepted : ConfigAccepted account ca audio)
    (secondAccepted : ConfigAccepted account other route)
    (same : (configDirectives account ca audio).map ConfigDirective.line =
      (configDirectives account other route).map ConfigDirective.line) :
    audio = route ∧ (account.useTls = true → ca = other) := by
  have value {name : String} {first second : Bytes}
      (same : ConfigDirective.line ⟨name, first⟩ = ConfigDirective.line ⟨name, second⟩) :
      first = second := (List.cons.inj (List.append_cancel_left same)).2
  simp only [configDirectives, List.map_append, List.map_cons, List.cons_append, List.nil_append,
    List.cons.injEq, true_and, List.append_cancel_left_eq] at same
  obtain ⟨player, source, trusted⟩ := same
  have playback := audioDevice_inj firstAccepted.playback secondAccepted.playback (value player)
  have capture := audioDevice_inj firstAccepted.capture secondAccepted.capture (value source)
  refine ⟨?_, fun tls => ?_⟩
  · cases audio
    cases route
    simp only at playback capture
    rw [playback, capture]
  · rw [if_pos tls, if_pos tls] at trusted
    have names := value (List.cons.inj trusted).1
    exact narrow_inj (firstAccepted.trust tls) (secondAccepted.trust tls) names

/-- What a configuration looks like that was made for these inputs. -/
structure ConfigShape (account : SipAccount width) (ca : WString width)
    (audio : NativeAudioRoute width) (built : NativeAccountConfig) : Prop where
  lines : built.config.splitOn newline =
    (configDirectives account ca audio).map ConfigDirective.line ++ [[]]
  aor : built.aor = addressOfRecord account
  /-- Nothing that comes from the input divides the record. -/
  user : PlainBytes (narrow account.username)
  host : PlainBytes (narrow account.server)
  port : PlainBytes (decimal account.port.toNat)
  delimiters : built.aor.filter dividesRecord = asciiBytes "<@;>;;;"

/-- No input can inject a directive or a parameter. -/
structure ConfigLanguage (width : WCharWidth) : Prop where
  shape : ∀ (account : SipAccount width) (ca : WString width) (audio : NativeAudioRoute width),
    (nativeAccountConfig account ca audio).valid = true →
      ConfigShape account ca audio (nativeAccountConfig account ca audio)
  injective : ∀ (first second : SipAccount width) (ca other : WString width)
    (audio route : NativeAudioRoute width),
    (nativeAccountConfig first ca audio).valid = true →
      (nativeAccountConfig second other route).valid = true →
        (nativeAccountConfig first ca audio).aor = (nativeAccountConfig second other route).aor →
          (nativeAccountConfig first ca audio).config =
            (nativeAccountConfig second other route).config →
              first = second ∧ audio = route ∧ (first.useTls = true → ca = other)

theorem native_config_language (width : WCharWidth) : ConfigLanguage width := by
  constructor
  · intro account ca audio valid
    obtain ⟨accepted, built⟩ := nativeAccountConfig_valid valid
    rw [built]
    exact ⟨splitOn_terminated accepted.lines, rfl,
      plainBytes_of_clean (accountUser_clean accepted.user),
      plainBytes_of_clean (server_clean accepted.host), decimal_plain _, accepted.delimiters⟩
  · intro first second ca other audio route firstValid secondValid aor config
    obtain ⟨firstAccepted, firstBuilt⟩ := nativeAccountConfig_valid firstValid
    obtain ⟨secondAccepted, secondBuilt⟩ := nativeAccountConfig_valid secondValid
    rw [firstBuilt, secondBuilt] at aor config
    have account := addressOfRecord_inj firstAccepted secondAccepted aor
    subst account
    have lines := terminated_inj firstAccepted.lines secondAccepted.lines config
    exact ⟨rfl, configDirectives_inj firstAccepted secondAccepted lines⟩

/-- A reserved word for a device is no way to the default one. -/
example :
    let account : SipAccount .utf16 :=
      { server := wideText .utf16 "127.0.0.1", username := wideText .utf16 "alice", useTls := true }
    let ca := wideText .utf16 "C:\\ca bundle.pem"
    let built := nativeAccountConfig account ca {}
    built.config.splitOn newline = ["poll_method select", "sip_transports tls",
      "sip_verify_server yes", "audio_player wasapi,default", "audio_source wasapi,default",
      "audio_alert wasapi,default", "call_max_calls 1", "net_interface 127.0.0.1",
      "sip_cafile C:\\ca bundle.pem", ""].map asciiBytes ∧
      (nativeAccountConfig account ca { captureId := wideText .utf16 "DEFAULT" }).valid = false := by
  decide +kernel

end AxeVoice.Native
