import AxeVoice.Foundation.Socket
import AxeVoice.Cti.Contract
import AxeVoice.Cti.Journal
import Mathlib.Data.List.DropRight

/-!
# The HTTP handler of the CTI server

One request is read from a connection, checked, and answered.  What the handler
makes of the bytes is a decision that knows nothing of the server but its token;
a decision to serve a call is the only one that lets it touch the readiness, the
journal or the request queue.
-/

namespace AxeVoice.Cti

open Foundation Sip

variable {width : WCharWidth}

/-- `std::tolower` in the "C" locale, which the program never leaves. -/
def lowerByte (byte : UInt8) : UInt8 := if byteWithin byte 'A' 'Z' then byte + 32 else byte

def lower (value : Bytes) : Bytes := value.map lowerByte

def blankByte (byte : UInt8) : Bool := byte = asciiByte ' ' || byte = asciiByte '\t'

def trim (value : Bytes) : Bytes := (value.dropWhile blankByte).rdropWhile blankByte

/-- The loop over both texts, the shorter one filled up with zeros. -/
def secureDiff : Bytes → Bytes → UInt32 → UInt32
  | [], [], diff => diff
  | a :: left, [], diff => secureDiff left [] (diff ||| a.toUInt32)
  | [], b :: right, diff => secureDiff [] right (diff ||| b.toUInt32)
  | a :: left, b :: right, diff => secureDiff left right (diff ||| (a ^^^ b).toUInt32)

/-- The lengths are compared by their low 32 bits. -/
def secureEqual (left right : Bytes) : Bool :=
  secureDiff left right (UInt32.ofNat (left.length ^^^ right.length)) = 0

structure Reply where
  code : ℕ
  reason : String
  body : String
  deriving DecidableEq, Repr

/-- The text that `reply` sends. -/
def Reply.text (reply : Reply) : String :=
  "HTTP/1.1 " ++ toString reply.code ++ " " ++ reply.reason ++ "\r\n" ++
  "Content-Type: application/json\r\n" ++
  "Cache-Control: no-store\r\n" ++
  "X-Content-Type-Options: nosniff\r\n" ++
  "Connection: close\r\n" ++
  "Content-Length: " ++ toString reply.body.utf8ByteSize ++ "\r\n\r\n" ++ reply.body

namespace Reply

def error (code : ℕ) (reason kind : String) : Reply :=
  ⟨code, reason, "\x7b\"error\":\"" ++ kind ++ "\"\x7d"⟩

def ok (body : String) : Reply := ⟨200, "OK", body⟩

def badRequest (kind : String) : Reply := error 400 "Bad Request" kind

def unauthorized : Reply := error 401 "Unauthorized" "unauthorized"

def forbidden : Reply := error 403 "Forbidden" "forbidden"

def notFound (kind : String) : Reply := error 404 "Not Found" kind

def conflict (kind : String) : Reply := error 409 "Conflict" kind

def lengthRequired : Reply := error 411 "Length Required" "content_length"

def tooLarge : Reply := error 413 "Content Too Large" "content_length"

def unsupportedType : Reply := error 415 "Unsupported Media Type" "content_type"

def invalidDestination : Reply := error 422 "Unprocessable Entity" "invalid_destination"

def busy : Reply := error 429 "Too Many Requests" "busy"

end Reply

def jsonBool (value : Bool) : String := if value then "true" else "false"

def jsonNumber (value : UInt64) : String := toString value.toNat

def ctiPhaseName : CtiPhase → String
  | .offline => "offline"
  | .unverified => "unverified"
  | .registering => "registering"
  | .registered => "registered"
  | .dialing => "dialing"
  | .ringing => "ringing"
  | .inCall => "in_call"
  | .failed => "failed"

def ctiRequestStateName : CtiRequestState → String
  | .queued => "queued"
  | .dispatching => "dispatching"
  | .submitted => "submitted"
  | .rejected => "rejected"
  | .cancelled => "cancelled"

def ctiSnapshotJson (state : CtiPublicSnapshot) : String :=
  "\x7b\"phase\":\"" ++ ctiPhaseName state.phase ++ "\",\"registered\":" ++
    jsonBool state.registered ++ ",\"active_call\":" ++ jsonBool state.activeCall ++
    ",\"sequence\":" ++ jsonNumber state.sequence ++ "\x7d"

/-- The head that both kinds of event pages share. -/
def pageJson (latest oldest : UInt64) (gap : Bool) (events : List String) : String :=
  "\x7b\"latest_sequence\":" ++ jsonNumber latest ++ ",\"oldest_sequence\":" ++
    jsonNumber oldest ++ ",\"gap\":" ++ jsonBool gap ++ ",\"events\":[" ++
    ",".intercalate events ++ "]\x7d"

def ctiEventsJson (page : CtiEventsPage) : String :=
  pageJson page.latestSequence page.oldestSequence page.gap (page.events.map fun event =>
    "\x7b\"sequence\":" ++ jsonNumber event.sequence ++ ",\"phase\":\"" ++
      ctiPhaseName event.phase ++ "\"\x7d")

def ctiRequestEventsJson (page : CtiRequestEventsPage) : String :=
  pageJson page.latestSequence page.oldestSequence page.gap (page.events.map fun event =>
    "\x7b\"sequence\":" ++ jsonNumber event.sequence ++ ",\"request_id\":" ++
      jsonNumber event.requestId ++ ",\"status\":\"" ++ ctiRequestStateName event.state ++
      "\"\x7d")

def ctiRequestJson (id : UInt64) (state : CtiRequestState) : String :=
  "\x7b\"request_id\":" ++ jsonNumber id ++ ",\"status\":\"" ++ ctiRequestStateName state ++
    "\"\x7d"

/-- The answer to a repeated request: that to the first one, with a mark before its brace. -/
def replayedJson (id : UInt64) (state : CtiRequestState) : String :=
  String.ofList (ctiRequestJson id state).toList.dropLast ++ ",\"replayed\":true\x7d"

def localCtiCapabilitiesJson : String :=
  "\x7b\"api_version\":\"1\",\"transport\":\"http_loopback_ipv4\"," ++
  "\"requires_bearer_token\":true,\"cors\":false,\"features\":\x7b\"click_to_call\":true," ++
  "\"request_tracking\":true,\"request_events\":true,\"scoped_request_events\":true," ++
  "\"cancel_queued_request\":true,\"idempotency_key\":true," ++
  "\"idempotency_key_destination_bound\":true,\"readiness_loss_rejects_queued\":true," ++
  "\"sip_request_correlation\":false,\"call_completion_confirmation\":false," ++
  "\"remote_webhooks\":false,\"sip_call_control_api\":false\x7d,\"limits\":\x7b" ++
  "\"inflight_requests\":1,\"request_history\":" ++ toString CtiRequestQueue.capacity ++
  ",\"request_event_history\":" ++ toString CtiRequestQueue.eventCapacity ++
  ",\"sip_event_history\":" ++ toString CtiEventJournal.capacity ++
  ",\"idempotency_key_min_length\":16,\"idempotency_key_max_length\":64\x7d,\"semantics\":\x7b" ++
  "\"submitted\":\"engine_accepted_not_connected\"," ++
  "\"request_ids\":\"ephemeral_process_local\"," ++
  "\"event_cursors\":\"ephemeral_process_local\"\x7d\x7d"

/-- The loop over the digits of a cursor. -/
def cursorFrom (value : UInt64) : Bytes → Option UInt64
  | [] => some value
  | digit :: rest =>
      if !byteWithin digit '0' '9' then none
      else
        let d := digit.toUInt64 - 48
        if value > (0xFFFFFFFFFFFFFFFF - d) / 10 then none else cursorFrom (value * 10 + d) rest

def parseCtiEventCursor (text : Bytes) : Option UInt64 :=
  if text.isEmpty || text.length > 20 then none else cursorFrom 0 text

def requestPrefix : Bytes := asciiBytes "GET /v1/requests/"

def cancelPrefix : Bytes := asciiBytes "DELETE /v1/requests/"

def eventPrefix : Bytes := asciiBytes "GET /v1/events?after="

def requestEventsPrefix : Bytes := asciiBytes "GET /v1/request-events?after="

def httpSuffix : Bytes := asciiBytes " HTTP/1.1"

def scopedQuery : Bytes := asciiBytes "/events?after="

/-- The request and the cursor of a scoped poll, by the two parts of its path. -/
def scopedRequest (text tail : Bytes) : Except Reply (UInt64 × UInt64) :=
  match parseCtiEventCursor text with
  | none => .error (.badRequest "invalid_request_id")
  | some id =>
      if id = 0 then .error (.badRequest "invalid_request_id")
      else if tail = asciiBytes "/events" then .ok (id, 0)
      else
        match parseCtiEventCursor (tail.drop scopedQuery.length) with
        | none => .error (.badRequest "invalid_cursor")
        | some cursor => .ok (id, cursor)

/-- A poll for one known request, where the line is one. -/
def scopedRoute (line : Bytes) : Except Reply (Option (UInt64 × UInt64)) :=
  if !line.brackets requestPrefix httpSuffix then .ok none
  else
    let path := line.between requestPrefix httpSuffix
    match path.find (asciiBytes "/") with
    | none => .ok none
    | some slash =>
        let tail := path.drop slash
        if tail = asciiBytes "/events" || scopedQuery.isPrefixOf tail then
          (scopedRequest (path.take slash) tail).map some
        else .ok none

/-- The cursor of a feed, zero where the line asks for all of it. -/
def feedRoute (all opening line : Bytes) : Except Reply (Option UInt64) :=
  if line = all then .ok (some 0)
  else if !line.brackets opening httpSuffix then .ok none
  else
    match parseCtiEventCursor (line.between opening httpSuffix) with
    | none => .error (.badRequest "invalid_cursor")
    | some cursor => .ok (some cursor)

def eventsRoute (line : Bytes) : Except Reply (Option UInt64) :=
  feedRoute (asciiBytes "GET /v1/events HTTP/1.1") eventPrefix line

def requestEventsRoute (line : Bytes) : Except Reply (Option UInt64) :=
  feedRoute (asciiBytes "GET /v1/request-events HTTP/1.1") requestEventsPrefix line

/-- The predicates that the handler takes of a request line; several may hold. -/
structure Routes where
  status : Bool
  capabilities : Bool
  call : Bool
  currentCall : Bool
  requestResult : Bool
  cancelRequest : Bool
  /-- The identifier and the cursor of a scoped poll. -/
  scopedRequestEvents : Option (UInt64 × UInt64)
  /-- The cursor of the journal's feed. -/
  events : Option UInt64
  /-- The cursor of the requests' feed. -/
  requestEvents : Option UInt64
  deriving DecidableEq, Repr

def Routes.of (line : Bytes) : Except Reply Routes := do
  let scopedRequestEvents ← scopedRoute line
  let events ← eventsRoute line
  let requestEvents ← requestEventsRoute line
  return {
    status := line = asciiBytes "GET /v1/status HTTP/1.1"
    capabilities := line = asciiBytes "GET /v1/capabilities HTTP/1.1"
    call := line = asciiBytes "POST /v1/calls HTTP/1.1"
    currentCall := line = asciiBytes "GET /v1/calls/current HTTP/1.1"
    requestResult := line.brackets requestPrefix httpSuffix
    cancelRequest := line.brackets cancelPrefix httpSuffix
    scopedRequestEvents := scopedRequestEvents
    events := events
    requestEvents := requestEvents }

/-- The routes without a body. -/
def Routes.bodiless (routes : Routes) : Bool :=
  routes.status || routes.capabilities || routes.currentCall || routes.events.isSome ||
    routes.requestEvents.isSome || routes.scopedRequestEvents.isSome || routes.requestResult ||
    routes.cancelRequest

def Routes.supported (routes : Routes) : Bool := routes.call || routes.bodiless

abbrev Fields := List (Bytes × Bytes)

def Fields.find (fields : Fields) (name : String) : Option Bytes := fields.lookup (asciiBytes name)

/-- `fields[name]`, the empty text where there is none. -/
def Fields.value (fields : Fields) (name : String) : Bytes := (fields.find name).getD []

def addField (fields : Fields) (line : Bytes) : Except Reply Fields :=
  match line.find (asciiBytes ":") with
  | none => .error (.badRequest "bad_request")
  | some colon =>
      if colon = 0 then .error (.badRequest "bad_request")
      else
        let name := lower (line.take colon)
        let value := trim (line.drop (colon + 1))
        if (fields.lookup name).isSome then .error (.badRequest "duplicate_header")
        else .ok ((name, value) :: fields)

/-- The loop over the lines of the header that are left. -/
def readFields (rest : Bytes) (fields : Fields) : Except Reply Fields :=
  if rest.isEmpty then .ok fields
  else
    match _found : rest.find crlf with
    | none => addField fields rest
    | some position =>
        match addField fields (rest.take position) with
        | .error reply => .error reply
        | .ok fields => readFields (rest.drop (position + crlf.length)) fields
termination_by rest.length
decreasing_by exact (Bytes.find_some _found).shortens

/-- No client of the API: a browser, a framing the handler does not read, or another host. -/
def Fields.forbidden (fields : Fields) : Bool :=
  (fields.find "origin").isSome || (fields.find "referer").isSome ||
    (fields.find "transfer-encoding").isSome ||
    fields.value "host" ≠ asciiBytes "127.0.0.1:27652"

def bearer : Bytes := asciiBytes "Bearer "

def Fields.authorized (fields : Fields) (token : Bytes) : Bool :=
  match fields.find "authorization" with
  | none => false
  | some value => bearer.isPrefixOf value && secureEqual (value.drop bearer.length) token

/-- How the loop over the header block ends. -/
inductive HeaderBlock where
  /-- The connection ended first. -/
  | lost (socket : Socket)
  /-- What has been received, and where the delimiter was found in it. -/
  | read (delimiter : Option ℕ) (packet : Bytes) (socket : Socket)

def headerEnd : Bytes := asciiBytes "\r\n\r\n"

def readHeader (socket : Socket) (packet : Bytes) : HeaderBlock :=
  if packet.length > 8192 then .read none packet socket
  else
    match _received : socket.recv 2048 with
    | none => .lost socket
    | some (data, socket) =>
        match Bytes.find (packet ++ data) headerEnd with
        | some delimiter => .read (some delimiter) (packet ++ data) socket
        | none => readHeader socket (packet ++ data)
termination_by socket.incoming.length
decreasing_by exact (Socket.recv_some _received).shortens

/-- The loop over the body: what has been received up to its end, none where it is lost. -/
def readBody (socket : Socket) (packet : Bytes) (target : ℕ) : Option Bytes × Socket :=
  if packet.length < target then
    match _received : socket.recv (min (target - packet.length) 512) with
    | none => (none, socket)
    | some (data, socket) => readBody socket (packet ++ data) target
  else (some packet, socket)
termination_by socket.incoming.length
decreasing_by exact (Socket.recv_some _received).shortens

/-- What the checks before the authorization leave of a header. -/
structure Examined where
  line : Bytes
  routes : Routes
  fields : Fields

def examine (header : Bytes) : Except Reply Examined :=
  match header.find crlf with
  | none => .error (.badRequest "bad_request")
  | some firstLine =>
      match Routes.of (header.take firstLine) with
      | .error reply => .error reply
      | .ok routes =>
          if !routes.supported then .error (.notFound "not_found")
          else
            match readFields (header.drop (firstLine + crlf.length)) [] with
            | .error reply => .error reply
            | .ok fields =>
                if fields.forbidden then .error .forbidden
                else .ok ⟨header.take firstLine, routes, fields⟩

/-- The loop over the digits of the content length. -/
def lengthFrom (length : ℕ) : Bytes → Option ℕ
  | [] => some length
  | digit :: rest =>
      if !byteWithin digit '0' '9' then none
      else lengthFrom (length * 10 + (digit.toNat - 48)) rest

def contentLength (fields : Fields) : Except Reply ℕ :=
  match fields.find "content-length" with
  | none => .error .lengthRequired
  | some text =>
      if text.isEmpty || text.length > 4 then .error .lengthRequired
      else
        match lengthFrom 0 text with
        | none => .error (.badRequest "content_length")
        | some length => if length = 0 || length > 512 then .error .tooLarge else .ok length

/-- The calls of the handler on the server. -/
inductive ApiCall (width : WCharWidth) where
  | status
  | currentCall
  | events (cursor : UInt64)
  | requestEvents (cursor : UInt64)
  | scopedRequestEvents (id cursor : UInt64)
  | requestResult (id : UInt64)
  | cancelRequest (id : UInt64)
  | call (destination : WString width) (key : IdempotencyKey)
  deriving DecidableEq, Repr

/-- What the handler makes of the bytes it has received. -/
inductive Decision (width : WCharWidth) where
  | silent
  | reply (reply : Reply)
  | serve (call : ApiCall width)
  deriving DecidableEq, Repr

/-- The routes of one request: its result, or its cancellation. -/
def decideRecord (line : Bytes) (cancelRequest : Bool) : Decision width :=
  let usedPrefix := if cancelRequest then cancelPrefix else requestPrefix
  match parseCtiEventCursor (line.between usedPrefix httpSuffix) with
  | none => .reply (.badRequest "invalid_request_id")
  | some id =>
      if id = 0 then .reply (.badRequest "invalid_request_id")
      else if cancelRequest then .serve (.cancelRequest id)
      else .serve (.requestResult id)

/-- The routes without a body, in the order in which the handler tries them. -/
def decideQuery (line : Bytes) (routes : Routes) : Decision width :=
  if routes.status then .serve .status
  else if routes.capabilities then .reply (.ok localCtiCapabilitiesJson)
  else if routes.currentCall then .serve .currentCall
  else
    match routes.events, routes.requestEvents, routes.scopedRequestEvents with
    | some cursor, _, _ => .serve (.events cursor)
    | none, some cursor, _ => .serve (.requestEvents cursor)
    | none, none, some (id, cursor) => .serve (.scopedRequestEvents id cursor)
    | none, none, none => decideRecord line routes.cancelRequest

/-- A call request whose body has been received. -/
def decideCall (ctype : WideCtype width) (fields : Fields) (body : Bytes) : Decision width :=
  match parseCtiCallJson ctype body with
  | none => .reply .invalidDestination
  | some destination =>
      match fields.find "idempotency-key" with
      | none => .serve (.call destination [])
      | some key =>
          if !validCtiIdempotencyKey key then .reply (.badRequest "invalid_idempotency_key")
          else .serve (.call destination key)

/-- A call request: the checks on its header, its body, and the checks on that. -/
def receiveCall (ctype : WideCtype width) (fields : Fields) (bodyBegin : ℕ) (packet : Bytes)
    (socket : Socket) : Decision width × Socket :=
  if fields.value "content-type" ≠ asciiBytes "application/json" &&
      !validCtiJsonType (lower (fields.value "content-type")) then
    (.reply .unsupportedType, socket)
  else
    match contentLength fields with
    | .error reply => (.reply reply, socket)
    | .ok length =>
        if packet.length > bodyBegin + length then (.reply (.badRequest "extra_bytes"), socket)
        else
          match readBody socket packet (bodyBegin + length) with
          | (none, socket) => (.silent, socket)
          | (some packet, socket) =>
              (decideCall ctype fields ((packet.drop bodyBegin).take length), socket)

/-- The checks after the delimiter is found, the authorization the last that all requests share. -/
def decideRequest (ctype : WideCtype width) (token : Bytes) (delimiter : ℕ) (packet : Bytes)
    (socket : Socket) : Decision width × Socket :=
  match examine (packet.take delimiter) with
  | .error reply => (.reply reply, socket)
  | .ok ⟨line, routes, fields⟩ =>
      if !fields.authorized token then (.reply .unauthorized, socket)
      else if routes.bodiless then
        if packet.length ≠ delimiter + headerEnd.length || (fields.find "content-length").isSome then
          (.reply (.badRequest "bad_request"), socket)
        else (decideQuery line routes, socket)
      else receiveCall ctype fields (delimiter + headerEnd.length) packet socket

def decideClient (ctype : WideCtype width) (token : Bytes) (socket : Socket) :
    Decision width × Socket :=
  match readHeader socket [] with
  | .lost socket => (.silent, socket)
  | .read none _ socket => (.reply (.badRequest "bad_request"), socket)
  | .read (some delimiter) packet socket =>
      if delimiter > 4096 then (.reply (.badRequest "bad_request"), socket)
      else decideRequest ctype token delimiter packet socket

/-- What the handler finds at the server. -/
structure ServerState (width : WCharWidth) where
  token : ApiToken
  ready : Bool := false
  journal : CtiEventJournal := {}
  requests : CtiRequestQueue width := {}
  notificationWindow : UInt64 := 0
  notificationMessage : UInt32 := 0

/-- The message posted to the window that waits for requests. -/
structure Notification where
  window : UInt64
  message : UInt32
  deriving DecidableEq, Repr

/-- What came of a connection: the answer, the message posted, and what is left. -/
structure Handled (width : WCharWidth) where
  reply : Option Reply
  posted : Option Notification := none
  server : ServerState width
  socket : Socket

namespace ServerState

def notification (server : ServerState width) : Option Notification :=
  if server.notificationWindow ≠ 0 && server.notificationMessage ≠ 0 then
    some ⟨server.notificationWindow, server.notificationMessage⟩
  else none

def cancelReply (id : UInt64) : CtiCancelOutcome → Reply
  | .notFound => .notFound "unknown_request"
  | .tooLate => .conflict "already_dispatching"
  | .cancelled => .ok (ctiRequestJson id .cancelled)

def submitReply (submitted : CtiSubmitResult) : Reply :=
  match submitted.outcome with
  | .notReady => .conflict "sip_not_ready"
  | .busy => .busy
  -- do not reveal the original destination or which SIP state it reached
  | .keyConflict => .conflict "idempotency_key_conflict"
  | .replayed => .ok (replayedJson submitted.id submitted.state)
  | .created => ⟨202, "Accepted", ctiRequestJson submitted.id .queued⟩

/-- A call on the server: the answer, the message posted, and the requests left. -/
def serve (server : ServerState width) :
    ApiCall width → Reply × Option Notification × CtiRequestQueue width
  | .status => (.ok ("\x7b\"ready\":" ++ jsonBool server.ready ++ "\x7d"), none, server.requests)
  | .currentCall => (.ok (ctiSnapshotJson server.journal.snapshot), none, server.requests)
  | .events cursor => (.ok (ctiEventsJson (server.journal.after cursor)), none, server.requests)
  | .requestEvents cursor =>
      (.ok (ctiRequestEventsJson (server.requests.eventsAfter cursor)), none, server.requests)
  | .scopedRequestEvents id cursor =>
      match server.requests.eventsAfterForRequest id cursor with
      | none => (.notFound "unknown_request", none, server.requests)
      | some page => (.ok (ctiRequestEventsJson page), none, server.requests)
  | .requestResult id =>
      match server.requests.get id with
      | none => (.notFound "unknown_request", none, server.requests)
      | some record => (.ok (ctiRequestJson record.id record.state), none, server.requests)
  | .cancelRequest id =>
      let (outcome, requests) := server.requests.cancel id
      (cancelReply id outcome, none, requests)
  | .call destination key =>
      let (submitted, requests) := server.requests.submitIdempotent destination key server.ready
      (submitReply submitted, if submitted.outcome = .created then server.notification else none,
        requests)

end ServerState

def handleClient (ctype : WideCtype width) (server : ServerState width) (socket : Socket) :
    Handled width :=
  match decideClient ctype server.token.bytes socket with
  | (.silent, socket) => { reply := none, server := server, socket := socket }
  | (.reply reply, socket) => { reply := some reply, server := server, socket := socket }
  | (.serve call, socket) =>
      let (reply, posted, requests) := server.serve call
      { reply := some reply, posted := posted, server := { server with requests := requests },
        socket := socket }

end AxeVoice.Cti
