import AxeVoice.Cti.Http
import AxeVoice.Cti.Server

/-!
# Only authenticated requests reach the CTI state

What a request must be by its bytes before the handler serves a call: one of the
routes, header fields with names of their own, the loopback host and the token.
Every other stream of bytes is refused by an answer that the bytes alone decide,
however the network cuts them.
-/

namespace AxeVoice.Cti

open Foundation

variable {width : WCharWidth}

theorem secureDiff_eq_zero_iff (left right : Bytes) (diff : UInt32)
    (same : left.length = right.length) :
    secureDiff left right diff = 0 ↔ diff = 0 ∧ left = right := by
  induction left generalizing right diff with
  | nil =>
      cases right with
      | nil => simp [secureDiff]
      | cons b right => simp at same
  | cons a left ih =>
      cases right with
      | nil => simp at same
      | cons b right =>
          have rest : left.length = right.length := by simpa using same
          have byte : diff ||| (a ^^^ b).toUInt32 = 0 ↔ diff = 0 ∧ a = b := by
            rw [UInt32.or_eq_zero_iff]
            apply and_congr_right
            intro _
            rw [← UInt8.xor_eq_zero_iff]
            constructor
            · intro zero
              exact UInt8.toNat_inj.mp (by simpa using congrArg UInt32.toNat zero)
            · rintro equal
              rw [equal]
              rfl
          rw [secureDiff, ih right _ rest, byte, List.cons_eq_cons, and_assoc]

/-- A difference once found is never lost. -/
theorem secureDiff_start {left right : Bytes} {diff : UInt32}
    (none_ : secureDiff left right diff = 0) : diff = 0 := by
  fun_induction secureDiff left right diff with
  | case1 diff => exact none_
  | case2 diff a left ih => exact (UInt32.or_eq_zero_iff.mp (ih none_)).1
  | case3 diff b right ih => exact (UInt32.or_eq_zero_iff.mp (ih none_)).1
  | case4 diff a left b right ih => exact (UInt32.or_eq_zero_iff.mp (ih none_)).1

/-- The comparison of texts shorter than 2^32 bytes is equality. -/
theorem secureEqual_iff {left right : Bytes} (left_short : left.length < 2 ^ 32)
    (right_short : right.length < 2 ^ 32) : secureEqual left right = true ↔ left = right := by
  have lengths : UInt32.ofNat (left.length ^^^ right.length) = 0 ↔ left.length = right.length := by
    rw [← UInt32.toNat_inj, UInt32.toNat_ofNat_of_lt' (Nat.xor_lt_two_pow left_short right_short)]
    exact Nat.xor_eq_zero_iff
  unfold secureEqual
  rw [decide_eq_true_iff]
  constructor
  · intro none_
    have same := lengths.mp (secureDiff_start none_)
    exact ((secureDiff_eq_zero_iff left right _ same).mp none_).2
  · intro equal
    have same := congrArg List.length equal
    exact (secureDiff_eq_zero_iff left right _ same).mpr ⟨lengths.mpr same, equal⟩

/-- How the loop over the header block ends, by the bytes alone. -/
inductive HeaderRead (bytes : Bytes) : HeaderBlock → Prop
  | lost {socket : Socket} (missing : bytes.find headerEnd = none) (short : bytes.length ≤ 8192) :
      HeaderRead bytes (.lost socket)
  | unended {packet : Bytes} {socket : Socket}
      (missing : bytes.find headerEnd = none → 8192 < bytes.length)
      (far : ∀ delimiter, bytes.find headerEnd = some delimiter → 4096 < delimiter) :
      HeaderRead bytes (.read none packet socket)
  | ended {delimiter : ℕ} {packet : Bytes} {socket : Socket}
      (received : packet.find headerEnd = some delimiter)
      (split : bytes = packet ++ socket.incoming) :
      HeaderRead bytes (.read (some delimiter) packet socket)

theorem readHeader_read (socket : Socket) (packet : Bytes)
    (missing : packet.find headerEnd = none) :
    HeaderRead (packet ++ socket.incoming) (readHeader socket packet) := by
  fun_induction readHeader socket packet with
  | case1 socket packet long =>
      apply HeaderRead.unended
      · intro _
        rw [List.length_append]
        omega
      · intro delimiter found
        have behind := Bytes.find_append_behind missing found
        have size : headerEnd.length = 4 := by decide
        omega
  | case2 socket packet short ended =>
      have ended_ := Socket.recv_none (by decide) ended
      rw [ended_, List.append_nil]
      exact .lost missing (by omega)
  | case3 socket packet short data rest received delimiter found =>
      have split := (Socket.recv_some received).split
      apply HeaderRead.ended found
      rw [split, List.append_assoc]
  | case4 socket packet short data rest received still ih =>
      have split := (Socket.recv_some received).split
      rw [split, ← List.append_assoc]
      exact ih still

/-- Where the name of a header line ends. -/
def nameEnd (line : Bytes) : ℕ := (line.find (asciiBytes ":")).getD line.length

/-- The text before the first colon, in lower case. -/
def headerName (line : Bytes) : Bytes := lower (line.take (nameEnd line))

/-- The text behind the first colon, without the blanks around it. -/
def headerValue (line : Bytes) : Bytes := trim (line.drop (nameEnd line + 1))

/-- A header line gives a field its value. -/
def HeaderGives (headers : List Bytes) (name : String) (value : Bytes) : Prop :=
  ∃ header ∈ headers, headerName header = asciiBytes name ∧ headerValue header = value

/-- The fields of header lines that all have a name, and each one of its own. -/
structure FieldsOf (headers : List Bytes) (fields : Fields) : Prop where
  entries : fields = (headers.map fun header => (headerName header, headerValue header)).reverse
  named : ∀ header ∈ headers, ∃ colon, 0 < colon ∧ header.find (asciiBytes ":") = some colon
  distinct : (headers.map headerName).Nodup

theorem fieldsOf_nil : FieldsOf [] [] :=
  ⟨rfl, nofun, List.nodup_nil⟩

theorem FieldsOf.lookup_some {headers : List Bytes} {fields : Fields} {name : String}
    {value : Bytes} (known : FieldsOf headers fields) (found : fields.find name = some value) :
    HeaderGives headers name value := by
  obtain ⟨front, rest, split, -⟩ := List.lookup_eq_some_iff.mp found
  have member : (asciiBytes name, value) ∈ fields := by
    rw [split]
    simp
  rw [known.entries, List.mem_reverse] at member
  obtain ⟨header, inside, same⟩ := List.mem_map.mp member
  exact ⟨header, inside, congrArg Prod.fst same, congrArg Prod.snd same⟩

theorem FieldsOf.lookup_none {headers : List Bytes} {fields : Fields} {name : Bytes}
    (known : FieldsOf headers fields) (missing : fields.lookup name = none) :
    ∀ header ∈ headers, headerName header ≠ name := by
  intro header inside same
  have member : (headerName header, headerValue header) ∈ fields := by
    rw [known.entries, List.mem_reverse]
    exact List.mem_map.mpr ⟨header, inside, rfl⟩
  have other := List.lookup_eq_none_iff.mp missing _ member
  simp [same] at other

theorem addField_fieldsOf {headers : List Bytes} {fields added : Fields} {line : Bytes}
    (known : FieldsOf headers fields) (accepted : addField fields line = .ok added) :
    FieldsOf (headers ++ [line]) added := by
  unfold addField at accepted
  split at accepted
  · cases accepted
  · next colon found =>
      have ends : nameEnd line = colon := by rw [nameEnd, found, Option.getD_some]
      rw [← ends] at accepted
      split at accepted
      · cases accepted
      · next positive =>
          simp only [] at accepted
          split at accepted
          · cases accepted
          · next fresh =>
              have missing := Option.not_isSome_iff_eq_none.mp fresh
              cases accepted
              constructor
              · rw [List.map_append, List.reverse_append, ← known.entries]
                rfl
              · intro header inside
                rcases List.mem_append.mp inside with earlier | here
                · exact known.named header earlier
                · rw [List.mem_singleton.mp here]
                  exact ⟨colon, by omega, found⟩
              · rw [List.map_append]
                apply List.nodup_append.mpr
                refine ⟨known.distinct, List.nodup_singleton _, ?_⟩
                intro name earlier other here same
                obtain ⟨header, inside, rfl⟩ := List.mem_map.mp earlier
                rw [List.map_singleton, List.mem_singleton] at here
                exact known.lookup_none missing header inside (same.trans here)

theorem readFields_fieldsOf {headers : List Bytes} {rest : Bytes} {fields result : Fields}
    (known : FieldsOf headers fields) (nonempty : rest ≠ []) (unended : ¬ crlf <:+ rest)
    (accepted : readFields rest fields = .ok result) : FieldsOf (headers ++ lines rest) result := by
  fun_induction readFields rest fields generalizing headers with
  | case1 rest fields empty => exact absurd (List.isEmpty_iff.mp empty) nonempty
  | case2 rest fields _ missing =>
      rw [lines_none missing]
      exact addField_fieldsOf known accepted
  | case3 rest fields _ position found reply refused => cases accepted
  | case4 rest fields _ position found added line ih =>
      have more := (Bytes.find_some found).more unended
      have still : ¬ crlf <:+ rest.drop (position + crlf.length) :=
        fun ends => unended (ends.trans (List.drop_suffix _ _))
      rw [lines_some found, List.append_cons]
      exact ih (addField_fieldsOf known line) more still accepted

/-- The header before the first empty line does not end a line itself. -/
theorem header_unended {bytes : Bytes} {delimiter : ℕ} (first : FirstAt bytes headerEnd delimiter) :
    ¬ crlf <:+ bytes.take delimiter := by
  rintro ⟨front, split⟩
  have inside := first.inside
  have size : front.length + 2 = delimiter := by
    have lengths := congrArg List.length split
    rw [List.length_append, List.length_take_of_le inside] at lengths
    exact lengths
  apply first.first front.length (by omega)
  obtain ⟨rest, behind⟩ := first.occurs
  have whole : bytes = front ++ (crlf ++ (headerEnd ++ rest)) := by
    rw [behind, ← List.append_assoc, split, List.take_append_drop]
  rw [whole, List.drop_left]
  exact ⟨crlf ++ rest, rfl⟩

/-- The line of a feed, and the cursor it asks for. -/
inductive FeedLine (all opening line : Bytes) : UInt64 → Prop
  | all (same : line = all) : FeedLine all opening line 0
  | after {text : Bytes} {cursor : UInt64} (same : line = opening ++ (text ++ httpSuffix))
      (known : parseCtiEventCursor text = some cursor) : FeedLine all opening line cursor

theorem feedRoute_line {all opening line : Bytes} {cursor : UInt64}
    (routed : feedRoute all opening line = .ok (some cursor)) :
    FeedLine all opening line cursor := by
  unfold feedRoute at routed
  split at routed
  · next same =>
      cases routed
      exact .all same
  · split at routed
    · cases routed
    · next bracketed =>
        have shape := (Bytes.brackets_iff.mp (by simpa using bracketed)).2
        split at routed
        · cases routed
        · next known =>
            cases routed
            exact .after shape known

/-- The path of a scoped poll, with the request and the cursor it asks for. -/
inductive ScopedPath (text tail : Bytes) (id : UInt64) : UInt64 → Prop
  | all (same : tail = asciiBytes "/events") : ScopedPath text tail id 0
  | after {rest : Bytes} {cursor : UInt64} (same : tail = scopedQuery ++ rest)
      (known : parseCtiEventCursor rest = some cursor) : ScopedPath text tail id cursor

theorem scopedRequest_path {text tail : Bytes} {id cursor : UInt64}
    (form : tail = asciiBytes "/events" ∨ scopedQuery <+: tail)
    (parsed : scopedRequest text tail = .ok (id, cursor)) :
    parseCtiEventCursor text = some id ∧ id ≠ 0 ∧ ScopedPath text tail id cursor := by
  unfold scopedRequest at parsed
  cases known : parseCtiEventCursor text with
  | none =>
      rw [known] at parsed
      cases parsed
  | some number =>
      simp only [known] at parsed
      split at parsed
      · cases parsed
      · next issued =>
          split at parsed
          · next whole =>
              cases parsed
              exact ⟨rfl, issued, .all whole⟩
          · next query =>
              obtain ⟨rest, split_⟩ := form.resolve_left query
              split at parsed
              · cases parsed
              · next cursor_known =>
                  cases parsed
                  rw [← split_, List.drop_left] at cursor_known
                  exact ⟨rfl, issued, .after split_.symm cursor_known⟩

/-- The line of a scoped poll. -/
def ScopedLine (line : Bytes) (id cursor : UInt64) : Prop :=
  ∃ text tail, line = requestPrefix ++ (text ++ tail ++ httpSuffix) ∧
    parseCtiEventCursor text = some id ∧ id ≠ 0 ∧ ScopedPath text tail id cursor

theorem scopedRoute_line {line : Bytes} {id cursor : UInt64}
    (routed : scopedRoute line = .ok (some (id, cursor))) : ScopedLine line id cursor := by
  unfold scopedRoute at routed
  split at routed
  · cases routed
  · next bracketed =>
      have shape := (Bytes.brackets_iff.mp (by simpa using bracketed)).2
      simp only [] at routed
      generalize line.between requestPrefix httpSuffix = path at routed shape
      split at routed
      · cases routed
      · next slash found =>
          split at routed
          · next form =>
              rw [Bool.or_eq_true, decide_eq_true_iff, List.isPrefixOf_iff_prefix] at form
              cases parsed : scopedRequest (path.take slash) (path.drop slash) with
              | error reply =>
                  rw [parsed] at routed
                  cases routed
              | ok target =>
                  rw [parsed] at routed
                  cases routed
                  have named := scopedRequest_path form parsed
                  refine ⟨path.take slash, path.drop slash, ?_, named⟩
                  rw [List.take_append_drop]
                  exact shape
          · cases routed

def EventsLine : Bytes → UInt64 → Prop :=
  FeedLine (asciiBytes "GET /v1/events HTTP/1.1") eventPrefix

def RequestEventsLine : Bytes → UInt64 → Prop :=
  FeedLine (asciiBytes "GET /v1/request-events HTTP/1.1") requestEventsPrefix

/-- The request lines that the server knows. -/
inductive SupportedLine (line : Bytes) : Prop
  | status (same : line = asciiBytes "GET /v1/status HTTP/1.1")
  | capabilities (same : line = asciiBytes "GET /v1/capabilities HTTP/1.1")
  | call (same : line = asciiBytes "POST /v1/calls HTTP/1.1")
  | currentCall (same : line = asciiBytes "GET /v1/calls/current HTTP/1.1")
  | events {cursor : UInt64} (feed : EventsLine line cursor)
  | requestEvents {cursor : UInt64} (feed : RequestEventsLine line cursor)
  | request {text : Bytes} (some_ : text ≠ []) (same : line = requestPrefix ++ (text ++ httpSuffix))
  | cancel {text : Bytes} (some_ : text ≠ []) (same : line = cancelPrefix ++ (text ++ httpSuffix))

/-- The request line that asks for a call on the server. -/
inductive Asks (line : Bytes) : ApiCall width → Prop
  | status (same : line = asciiBytes "GET /v1/status HTTP/1.1") : Asks line .status
  | currentCall (same : line = asciiBytes "GET /v1/calls/current HTTP/1.1") :
      Asks line .currentCall
  | events {cursor : UInt64} (feed : EventsLine line cursor) : Asks line (.events cursor)
  | requestEvents {cursor : UInt64} (feed : RequestEventsLine line cursor) :
      Asks line (.requestEvents cursor)
  | scopedRequestEvents {id cursor : UInt64} (poll : ScopedLine line id cursor) :
      Asks line (.scopedRequestEvents id cursor)
  | requestResult {text : Bytes} {id : UInt64} (same : line = requestPrefix ++ (text ++ httpSuffix))
      (known : parseCtiEventCursor text = some id) (issued : id ≠ 0) : Asks line (.requestResult id)
  | cancelRequest {text : Bytes} {id : UInt64} (same : line = cancelPrefix ++ (text ++ httpSuffix))
      (known : parseCtiEventCursor text = some id) (issued : id ≠ 0) : Asks line (.cancelRequest id)
  | call (same : line = asciiBytes "POST /v1/calls HTTP/1.1") (destination : WString width)
      (key : IdempotencyKey) : Asks line (.call destination key)

/-- What the predicates of a request line say of it. -/
structure RoutesOf (line : Bytes) (routes : Routes) : Prop where
  status : routes.status = true → line = asciiBytes "GET /v1/status HTTP/1.1"
  capabilities : routes.capabilities = true → line = asciiBytes "GET /v1/capabilities HTTP/1.1"
  call : routes.call = true → line = asciiBytes "POST /v1/calls HTTP/1.1"
  currentCall : routes.currentCall = true → line = asciiBytes "GET /v1/calls/current HTTP/1.1"
  requestResult : routes.requestResult = line.brackets requestPrefix httpSuffix
  cancelRequest : routes.cancelRequest = line.brackets cancelPrefix httpSuffix
  scopedRequestEvents : ∀ id cursor, routes.scopedRequestEvents = some (id, cursor) →
    ScopedLine line id cursor
  events : ∀ cursor, routes.events = some cursor → EventsLine line cursor
  requestEvents : ∀ cursor, routes.requestEvents = some cursor → RequestEventsLine line cursor

theorem Routes.of_routesOf {line : Bytes} {routes : Routes} (parsed : Routes.of line = .ok routes) :
    RoutesOf line routes := by
  unfold Routes.of at parsed
  cases poll : scopedRoute line with
  | error reply =>
      rw [poll] at parsed
      cases parsed
  | ok scopedRequestEvents =>
      cases feed : eventsRoute line with
      | error reply =>
          rw [poll, feed] at parsed
          cases parsed
      | ok events =>
          cases requests : requestEventsRoute line with
          | error reply =>
              rw [poll, feed, requests] at parsed
              cases parsed
          | ok requestEvents =>
              rw [poll, feed, requests] at parsed
              cases parsed
              constructor
              · exact of_decide_eq_true
              · exact of_decide_eq_true
              · exact of_decide_eq_true
              · exact of_decide_eq_true
              · rfl
              · rfl
              · rintro id cursor rfl
                exact scopedRoute_line poll
              · rintro cursor rfl
                exact feedRoute_line feed
              · rintro cursor rfl
                exact feedRoute_line requests

theorem RoutesOf.request {line : Bytes} {routes : Routes} (known : RoutesOf line routes)
    (result : routes.requestResult = true) :
    line.between requestPrefix httpSuffix ≠ [] ∧
      line = requestPrefix ++ (line.between requestPrefix httpSuffix ++ httpSuffix) :=
  Bytes.brackets_iff.mp (known.requestResult.symm.trans result)

theorem RoutesOf.cancel {line : Bytes} {routes : Routes} (known : RoutesOf line routes)
    (cancelled : routes.cancelRequest = true) :
    line.between cancelPrefix httpSuffix ≠ [] ∧
      line = cancelPrefix ++ (line.between cancelPrefix httpSuffix ++ httpSuffix) :=
  Bytes.brackets_iff.mp (known.cancelRequest.symm.trans cancelled)

/-- A scoped poll is the poll of a request whose text is longer. -/
theorem ScopedLine.request {line : Bytes} {id cursor : UInt64} (poll : ScopedLine line id cursor) :
    ∃ text, text ≠ [] ∧ line = requestPrefix ++ (text ++ httpSuffix) := by
  obtain ⟨text, tail, same, known, -, -⟩ := poll
  refine ⟨text ++ tail, ?_, same⟩
  intro empty
  rw [(List.append_eq_nil_iff.mp empty).1] at known
  cases known

theorem RoutesOf.supported_line {line : Bytes} {routes : Routes} (known : RoutesOf line routes)
    (supported : routes.supported = true) : SupportedLine line := by
  simp only [Routes.supported, Routes.bodiless, Bool.or_eq_true] at supported
  rcases supported with call | ((((((status | capabilities) | current) | events) | requests) |
    poll) | result) | cancelled
  · exact .call (known.call call)
  · exact .status (known.status status)
  · exact .capabilities (known.capabilities capabilities)
  · exact .currentCall (known.currentCall current)
  · obtain ⟨cursor, feed⟩ := Option.isSome_iff_exists.mp events
    exact .events (known.events cursor feed)
  · obtain ⟨cursor, feed⟩ := Option.isSome_iff_exists.mp requests
    exact .requestEvents (known.requestEvents cursor feed)
  · obtain ⟨⟨id, cursor⟩, target⟩ := Option.isSome_iff_exists.mp poll
    obtain ⟨text, some_, same⟩ := (known.scopedRequestEvents id cursor target).request
    exact .request some_ same
  · exact .request (known.request result).1 (known.request result).2
  · exact .cancel (known.cancel cancelled).1 (known.cancel cancelled).2

theorem decideRecord_asks {line : Bytes} {routes : Routes} {call : ApiCall width}
    (known : RoutesOf line routes)
    (record : routes.requestResult = true ∨ routes.cancelRequest = true)
    (served : decideRecord line routes.cancelRequest = .serve call) : Asks line call := by
  unfold decideRecord at served
  simp only [] at served
  split at served
  · cases served
  · next id parsed =>
      split at served
      · cases served
      · next issued =>
          split at served
          · next cancelled =>
              cases served
              rw [if_pos cancelled] at parsed
              exact .cancelRequest (known.cancel cancelled).2 parsed issued
          · next uncancelled =>
              cases served
              rw [if_neg uncancelled] at parsed
              exact .requestResult (known.request (record.resolve_right uncancelled)).2 parsed issued

/-- A route without a body serves the call that its line asks for. -/
theorem decideQuery_asks {line : Bytes} {routes : Routes} {call : ApiCall width}
    (known : RoutesOf line routes) (bodiless : routes.bodiless = true)
    (served : decideQuery line routes = .serve call) : Asks line call := by
  simp only [Routes.bodiless, Bool.or_eq_true] at bodiless
  unfold decideQuery at served
  split at served
  · next status =>
      cases served
      exact .status (known.status status)
  · next notStatus =>
      split at served
      · cases served
      · next notCapabilities =>
          split at served
          · next current =>
              cases served
              exact .currentCall (known.currentCall current)
          · next notCurrent =>
              split at served
              · next feed =>
                  cases served
                  exact .events (known.events _ feed)
              · next feed =>
                  cases served
                  exact .requestEvents (known.requestEvents _ feed)
              · next poll =>
                  cases served
                  exact .scopedRequestEvents (known.scopedRequestEvents _ _ poll)
              · next noEvents noRequests noPoll =>
                  have record : routes.requestResult = true ∨ routes.cancelRequest = true := by
                    simpa [notStatus, notCapabilities, notCurrent, noEvents, noRequests, noPoll]
                      using bodiless
                  exact decideRecord_asks known record served

/-! ## Authentication -/

/-- What a stream of bytes must be before anything is served. -/
structure Authenticated (bytes token line : Bytes) (headers : List Bytes) : Prop where
  header : ∃ delimiter ≤ 4096, bytes.find headerEnd = some delimiter ∧
    lines (bytes.take delimiter) = line :: headers
  supported : SupportedLine line
  named : ∀ header ∈ headers, ∃ colon, 0 < colon ∧ header.find (asciiBytes ":") = some colon
  distinct : (headers.map headerName).Nodup
  direct : ∀ header ∈ headers, headerName header ≠ asciiBytes "origin" ∧
    headerName header ≠ asciiBytes "referer" ∧ headerName header ≠ asciiBytes "transfer-encoding"
  host : HeaderGives headers "host" (asciiBytes "127.0.0.1:27652")
  authorization : HeaderGives headers "authorization" (bearer ++ token)

/-- What the checks before the authorization find in a header. -/
structure ExaminedOf (header : Bytes) (headers : List Bytes) (examined : Examined) : Prop where
  lines : lines header = examined.line :: headers
  routes : RoutesOf examined.line examined.routes
  supported : examined.routes.supported = true
  fields : FieldsOf headers examined.fields
  allowed : examined.fields.forbidden = false

theorem examine_examinedOf {header : Bytes} {examined : Examined} (unended : ¬ crlf <:+ header)
    (accepted : examine header = .ok examined) :
    ∃ headers, ExaminedOf header headers examined := by
  unfold examine at accepted
  split at accepted
  · cases accepted
  · next firstLine found =>
      split at accepted
      · cases accepted
      · next routes routed =>
          split at accepted
          · cases accepted
          · next supported =>
              split at accepted
              · cases accepted
              · next fields read =>
                  split at accepted
                  · cases accepted
                  · next allowed =>
                      cases accepted
                      have first := Bytes.find_some found
                      have still : ¬ crlf <:+ header.drop (firstLine + crlf.length) :=
                        fun ends => unended (ends.trans (List.drop_suffix _ _))
                      have fieldsOf := readFields_fieldsOf fieldsOf_nil (first.more unended) still read
                      refine ⟨_, lines_some found, Routes.of_routesOf routed, ?_, fieldsOf, ?_⟩
                      · simpa using supported
                      · simpa using allowed

theorem Fields.forbidden_eq_false {fields : Fields} (allowed : fields.forbidden = false) :
    fields.find "origin" = none ∧ fields.find "referer" = none ∧
      fields.find "transfer-encoding" = none ∧
      fields.find "host" = some (asciiBytes "127.0.0.1:27652") := by
  simp only [Fields.forbidden, Bool.or_eq_false_iff, Option.isSome_eq_false_iff,
    Option.isNone_iff_eq_none, decide_eq_false_iff_not, not_not] at allowed
  obtain ⟨⟨⟨origin, referer⟩, transfer⟩, host⟩ := allowed
  refine ⟨origin, referer, transfer, ?_⟩
  unfold Fields.value at host
  cases found : fields.find "host" with
  | none =>
      rw [found] at host
      cases host
  | some value =>
      rw [found] at host
      exact congrArg some host

theorem headerValue_length_le (line : Bytes) : (headerValue line).length ≤ line.length := by
  unfold headerValue trim
  calc (((line.drop (nameEnd line + 1)).dropWhile blankByte).rdropWhile blankByte).length
      ≤ ((line.drop (nameEnd line + 1)).dropWhile blankByte).length :=
        (List.rdropWhile_prefix _ _).length_le
    _ ≤ (line.drop (nameEnd line + 1)).length := (List.dropWhile_suffix _).length_le
    _ ≤ line.length := (List.drop_suffix _ _).length_le

theorem Fields.authorized_value {fields : Fields} {token : Bytes}
    (authorized : fields.authorized token = true) (token_short : token.length < 2 ^ 32)
    (short : ∀ value, fields.find "authorization" = some value → value.length < 2 ^ 32) :
    fields.find "authorization" = some (bearer ++ token) := by
  unfold Fields.authorized at authorized
  split at authorized
  · cases authorized
  · next value found =>
      rw [Bool.and_eq_true, List.isPrefixOf_iff_prefix] at authorized
      obtain ⟨⟨rest, rfl⟩, equal⟩ := authorized
      rw [List.drop_left] at equal
      have whole := short _ found
      rw [List.length_append] at whole
      rw [found, (secureEqual_iff (by omega) token_short).mp equal]

/-- A header that passes every check, the token's included. -/
theorem authenticated_of_examined {bytes : Bytes} {delimiter : ℕ} {token : ApiToken}
    {headers : List Bytes} {examined : Examined} (near : delimiter ≤ 4096)
    (found : bytes.find headerEnd = some delimiter)
    (known : ExaminedOf (bytes.take delimiter) headers examined)
    (authorized : examined.fields.authorized token.bytes = true) :
    Authenticated bytes token.bytes examined.line headers := by
  obtain ⟨origin, referer, transfer, host⟩ := Fields.forbidden_eq_false known.allowed
  have token_short := token.length_le
  have short : ∀ value, examined.fields.find "authorization" = some value →
      value.length < 2 ^ 32 := by
    intro value given
    obtain ⟨header, inside, -, rfl⟩ := known.fields.lookup_some given
    have member : header ∈ lines (bytes.take delimiter) := by
      rw [known.lines]
      exact List.mem_cons_of_mem _ inside
    have line := length_le_of_mem_lines member
    have taken := List.length_take_le delimiter bytes
    have value := headerValue_length_le header
    omega
  have authorization := Fields.authorized_value authorized (by omega) short
  constructor
  · exact ⟨delimiter, near, found, known.lines⟩
  · exact known.routes.supported_line known.supported
  · exact known.fields.named
  · exact known.fields.distinct
  · intro header inside
    exact ⟨known.fields.lookup_none origin header inside,
      known.fields.lookup_none referer header inside,
      known.fields.lookup_none transfer header inside⟩
  · exact known.fields.lookup_some host
  · exact known.fields.lookup_some authorization

/-- The answer to bytes that are not authenticated, none where the connection ends first. -/
def refusal (bytes : Bytes) : Option Reply :=
  match bytes.find headerEnd with
  | none => if bytes.length > 8192 then some (.badRequest "bad_request") else none
  | some delimiter =>
      if delimiter > 4096 then some (.badRequest "bad_request")
      else
        match examine (bytes.take delimiter) with
        | .error reply => some reply
        | .ok _ => some .unauthorized

/-- What the handler has found where it goes on behind the authorization. -/
structure Passed (bytes : Bytes) (token : ApiToken) (packet : Bytes) (socket : Socket)
    (delimiter : ℕ) (headers : List Bytes) (examined : Examined) : Prop where
  received : packet.find headerEnd = some delimiter
  split : bytes = packet ++ socket.incoming
  known : ExaminedOf (bytes.take delimiter) headers examined
  authenticated : Authenticated bytes token.bytes examined.line headers

/-- A decision refuses by the bytes alone, or comes behind the authorization. -/
inductive Decided (ctype : WideCtype width) (bytes : Bytes) (token : ApiToken) :
    Decision width → Socket → Prop
  | silent (socket : Socket) (refused : refusal bytes = none) : Decided ctype bytes token .silent socket
  | refused (socket : Socket) {reply : Reply} (refused : refusal bytes = some reply) :
      Decided ctype bytes token (.reply reply) socket
  | query {packet : Bytes} {socket : Socket} {delimiter : ℕ} {headers : List Bytes}
      {examined : Examined} (passed : Passed bytes token packet socket delimiter headers examined)
      (bodiless : examined.routes.bodiless = true) :
      Decided ctype bytes token (decideQuery examined.line examined.routes) socket
  | extra {packet : Bytes} {socket : Socket} {delimiter : ℕ} {headers : List Bytes}
      {examined : Examined} (passed : Passed bytes token packet socket delimiter headers examined) :
      Decided ctype bytes token (.reply (.badRequest "bad_request")) socket
  | call {packet : Bytes} {socket : Socket} {delimiter : ℕ} {headers : List Bytes}
      {examined : Examined} (passed : Passed bytes token packet socket delimiter headers examined)
      (call : examined.routes.call = true) :
      Decided ctype bytes token
        (receiveCall ctype examined.fields (delimiter + headerEnd.length) packet socket).1
        (receiveCall ctype examined.fields (delimiter + headerEnd.length) packet socket).2

theorem decideRequest_decided (ctype : WideCtype width) {bytes packet : Bytes} {delimiter : ℕ}
    {socket : Socket} (token : ApiToken) (near : delimiter ≤ 4096)
    (received : packet.find headerEnd = some delimiter) (split : bytes = packet ++ socket.incoming) :
    Decided ctype bytes token
      (decideRequest ctype token.bytes delimiter packet socket).1
      (decideRequest ctype token.bytes delimiter packet socket).2 := by
  have found : bytes.find headerEnd = some delimiter := by
    rw [split]
    exact Bytes.find_append _ received
  have header : packet.take delimiter = bytes.take delimiter := by
    rw [split, List.take_append_of_le_length (Bytes.find_some received).inside]
  have refused : refusal bytes = match examine (bytes.take delimiter) with
      | .error reply => some reply
      | .ok _ => some .unauthorized := by
    unfold refusal
    rw [found]
    exact if_neg (by omega)
  unfold decideRequest
  rw [header]
  cases examination : examine (bytes.take delimiter) with
  | error reply =>
      rw [examination] at refused
      exact .refused socket refused
  | ok examined =>
      rw [examination] at refused
      obtain ⟨headers, known⟩ :=
        examine_examinedOf (header_unended (Bytes.find_some found)) examination
      dsimp only
      split
      · exact .refused socket refused
      · next authorized =>
          have passed : Passed bytes token packet socket delimiter headers examined :=
            ⟨received, split, known,
              authenticated_of_examined near found known (by simpa using authorized)⟩
          split
          · next bodiless =>
              split
              · exact .extra passed
              · exact .query passed bodiless
          · next body =>
              have call := known.supported
              rw [Routes.supported, Bool.eq_false_iff.mpr body, Bool.or_false] at call
              exact .call passed call

theorem decideClient_decided (ctype : WideCtype width) (token : ApiToken) (socket : Socket) :
    Decided ctype socket.incoming token
      (decideClient ctype token.bytes socket).1 (decideClient ctype token.bytes socket).2 := by
  have header := readHeader_read socket [] rfl
  rw [List.nil_append] at header
  unfold decideClient
  generalize readHeader socket [] = block at header ⊢
  cases header with
  | lost missing short =>
      apply Decided.silent
      unfold refusal
      rw [missing]
      exact if_neg (by omega)
  | unended missing far =>
      apply Decided.refused
      unfold refusal
      cases found : socket.incoming.find headerEnd with
      | none => exact if_pos (missing found)
      | some delimiter => exact if_pos (far delimiter found)
  | @ended delimiter packet rest received split =>
      dsimp only
      split
      · next far =>
          apply Decided.refused
          unfold refusal
          rw [split, Bytes.find_append _ received]
          exact if_pos far
      · next near => exact decideRequest_decided ctype token (by omega) received split

/-! ## Call requests -/

/-- A text of decimal digits spells a number. -/
def DecimalOf (text : Bytes) (number : ℕ) : Prop :=
  (∀ digit ∈ text, byteWithin digit '0' '9' = true) ∧
    text.foldl (fun number digit => number * 10 + (digit.toNat - '0'.toNat)) 0 = number

theorem lengthFrom_eq {start number : ℕ} {text : Bytes} (read : lengthFrom start text = some number) :
    (∀ digit ∈ text, byteWithin digit '0' '9' = true) ∧
      text.foldl (fun number digit => number * 10 + (digit.toNat - '0'.toNat)) start = number := by
  induction text generalizing start with
  | nil =>
      cases read
      exact ⟨nofun, rfl⟩
  | cons digit rest ih =>
      rw [lengthFrom] at read
      split at read
      · cases read
      · next decimal =>
          obtain ⟨digits, value⟩ := ih read
          refine ⟨?_, value⟩
          intro other member
          rcases List.mem_cons.mp member with rfl | later
          · simpa using decimal
          · exact digits other later

theorem contentLength_ok {fields : Fields} {length : ℕ} (accepted : contentLength fields = .ok length) :
    ∃ text, fields.find "content-length" = some text ∧ DecimalOf text length ∧
      1 ≤ length ∧ length ≤ 512 := by
  unfold contentLength at accepted
  split at accepted
  · cases accepted
  · next text found =>
      split at accepted
      · cases accepted
      · split at accepted
        · cases accepted
        · next number read =>
            split at accepted
            · cases accepted
            · next bounded =>
                cases accepted
                simp only [Bool.or_eq_true, decide_eq_true_eq, not_or] at bounded
                exact ⟨text, found, lengthFrom_eq read, by omega, by omega⟩

/-- The loop over the body takes off the stream what is missing of it, and no more. -/
theorem readBody_some {socket rest : Socket} {packet whole : Bytes} {target : ℕ}
    (fits : packet.length ≤ target) (read : readBody socket packet target = (some whole, rest)) :
    whole.length = target ∧ packet ++ socket.incoming = whole ++ rest.incoming ∧
      packet <+: whole := by
  fun_induction readBody socket packet target with
  | case1 socket packet missing ended => cases read
  | case2 socket packet missing data next received ih =>
      have taken := Socket.recv_some received
      have size := taken.fits
      have room : (packet ++ data).length ≤ target := by
        rw [List.length_append]
        omega
      obtain ⟨length, split, begins⟩ := ih room read
      refine ⟨length, ?_, (List.prefix_append _ _).trans begins⟩
      rw [taken.split, ← List.append_assoc]
      exact split
  | case3 socket packet full =>
      cases read
      exact ⟨by omega, rfl, List.prefix_refl _⟩

/-- The body of a call request: all the bytes its header announces, in the form of the contract. -/
structure PostedBody (ctype : WideCtype width) (bytes unread : Bytes) (headers : List Bytes)
    (body : Bytes) (destination : WString width) : Prop where
  framed : ∃ delimiter, bytes.find headerEnd = some delimiter ∧
    bytes = bytes.take delimiter ++ (headerEnd ++ (body ++ unread))
  announced : ∃ text, HeaderGives headers "content-length" text ∧ DecimalOf text body.length
  bounded : 1 ≤ body.length ∧ body.length ≤ 512
  accepted : parseCtiCallJson ctype body = some destination

theorem decideCall_serve {ctype : WideCtype width} {fields : Fields} {body : Bytes}
    {call : ApiCall width} (served : decideCall ctype fields body = .serve call) :
    ∃ destination key, call = .call destination key ∧
      parseCtiCallJson ctype body = some destination := by
  unfold decideCall at served
  split at served
  · cases served
  · next destination parsed =>
      split at served
      · cases served
        exact ⟨destination, [], rfl, parsed⟩
      · next key found =>
          split at served
          · cases served
          · cases served
            exact ⟨destination, key, rfl, parsed⟩

theorem receiveCall_posted {ctype : WideCtype width} {bytes packet : Bytes} {token : ApiToken}
    {socket rest : Socket} {delimiter : ℕ} {headers : List Bytes} {examined : Examined}
    {call : ApiCall width} (passed : Passed bytes token packet socket delimiter headers examined)
    (served : receiveCall ctype examined.fields (delimiter + headerEnd.length) packet socket =
      (.serve call, rest)) :
    ∃ body destination key, call = .call destination key ∧
      PostedBody ctype bytes rest.incoming headers body destination := by
  unfold receiveCall at served
  split at served
  · cases served
  · split at served
    · cases served
    · next length accepted =>
        obtain ⟨text, found, spelled, positive, small⟩ := contentLength_ok accepted
        split at served
        · cases served
        · next fits =>
            split at served
            · cases served
            · next whole after read =>
                obtain ⟨size, same, begins⟩ := readBody_some (by omega) read
                obtain ⟨decision, rfl⟩ := Prod.mk.inj served
                obtain ⟨destination, key, rfl, parsed⟩ := decideCall_serve decision
                have bodyLength : (whole.drop (delimiter + headerEnd.length)).length = length := by
                  rw [List.length_drop]
                  omega
                have all := List.take_of_length_le (Nat.le_of_eq bodyLength)
                rw [all] at parsed
                have first : FirstAt bytes headerEnd delimiter := by
                  apply Bytes.find_some
                  rw [passed.split]
                  exact Bytes.find_append _ passed.received
                have behind : bytes.drop (delimiter + headerEnd.length) =
                    whole.drop (delimiter + headerEnd.length) ++ after.incoming := by
                  rw [passed.split, same, List.drop_append_of_le_length (by omega)]
                refine ⟨_, destination, key, rfl, ⟨delimiter, Bytes.find_of_firstAt first, ?_⟩, ?_, ?_,
                  parsed⟩
                · rw [← behind]
                  exact first.split
                · rw [bodyLength]
                  exact ⟨text, passed.known.fields.lookup_some found, spelled⟩
                · omega

theorem decideRecord_ne_call (line : Bytes) (cancelRequest : Bool) (destination : WString width)
    (key : IdempotencyKey) :
    decideRecord line cancelRequest ≠ .serve (.call destination key) := by
  unfold decideRecord
  dsimp only
  split
  · exact nofun
  · split
    · exact nofun
    · split <;> exact nofun

theorem decideQuery_ne_call (line : Bytes) (routes : Routes) (destination : WString width)
    (key : IdempotencyKey) : decideQuery line routes ≠ .serve (.call destination key) := by
  unfold decideQuery
  split
  · exact nofun
  · split
    · exact nofun
    · split
      · exact nofun
      · split
        · exact nofun
        · exact nofun
        · exact nofun
        · exact decideRecord_ne_call line routes.cancelRequest destination key

/-- What a decision to serve a call rests on. -/
structure Served (ctype : WideCtype width) (bytes unread : Bytes) (token : ApiToken)
    (call : ApiCall width) (line : Bytes) (headers : List Bytes) : Prop where
  authenticated : Authenticated bytes token.bytes line headers
  asks : Asks line call
  posted : ∀ destination key, call = .call destination key →
    ∃ body, PostedBody ctype bytes unread headers body destination

theorem Decided.served {ctype : WideCtype width} {bytes : Bytes} {token : ApiToken}
    {decision : Decision width} {socket : Socket} {call : ApiCall width}
    (decided : Decided ctype bytes token decision socket) (serves : decision = .serve call) :
    ∃ line headers, Served ctype bytes socket.incoming token call line headers := by
  cases decided with
  | silent | refused => cases serves
  | extra passed => cases serves
  | query passed bodiless =>
      refine ⟨_, _, passed.authenticated, decideQuery_asks passed.known.routes bodiless serves, ?_⟩
      rintro destination key rfl
      exact absurd serves (decideQuery_ne_call _ _ destination key)
  | call passed called =>
      obtain ⟨body, destination, key, rfl, posted⟩ :=
        receiveCall_posted passed (Prod.ext serves rfl)
      refine ⟨_, _, passed.authenticated, .call (passed.known.routes.call called) destination key, ?_⟩
      rintro other otherKey same
      cases same
      exact ⟨body, posted⟩

theorem Decided.unserved {ctype : WideCtype width} {bytes : Bytes} {token : ApiToken}
    {decision : Decision width} {socket : Socket}
    (decided : Decided ctype bytes token decision socket)
    (stranger : ∀ line headers, ¬ Authenticated bytes token.bytes line headers) :
    decision = match refusal bytes with
      | none => .silent
      | some reply => .reply reply := by
  cases decided with
  | silent _ none_ => rw [none_]
  | refused _ answered => rw [answered]
  | extra passed | query passed | call passed => exact absurd passed.authenticated (stranger _ _)

/-- A cancellation leaves a pending request where it is, or removes it. -/
theorem cancel_pending {queue : CtiRequestQueue width} {id : UInt64}
    {request : CtiPendingRequest width} (pending : (queue.cancel id).2.pending = some request) :
    queue.pending = some request := by
  unfold CtiRequestQueue.cancel at pending
  split at pending
  · exact pending
  · split at pending
    · exact pending
    · split at pending
      · rw [appendEvent_pending] at pending
        cases pending
      · exact pending

/-- A submission leaves the pending request where it is, or is the pending request. -/
theorem submitIdempotent_pending {queue : CtiRequestQueue width} {destination : WString width}
    {key : IdempotencyKey} {ready : Bool} {request : CtiPendingRequest width}
    (pending : (queue.submitIdempotent destination key ready).2.pending = some request) :
    queue.pending = some request ∨ request.destination = destination := by
  have operated := submitIdempotent_operated queue destination key ready
  generalize (queue.submitIdempotent destination key ready).1 = result at operated
  generalize (queue.submitIdempotent destination key ready).2 = after at operated pending
  cases operated with
  | refused => exact .inl pending
  | created destination key free unknown =>
      rw [CtiRequestQueue.create, appendEvent_pending] at pending
      cases pending
      exact .inr rfl

/-- The readiness and the queue, as the network worker shares them with the interface. -/
def ServerState.shared (server : ServerState width) : LocalCtiServer width :=
  { ready := server.ready, requests := server.requests }

/-- A cancellation is one step of the worker. -/
theorem serve_cancelRequest (server : ServerState width) (id : UInt64) :
    (server.shared.workerStep (.cancel id)).2 =
      { server with requests := (server.serve (.cancelRequest id)).2.2 }.shared := rfl

/-- A call request is two steps of the worker that nothing comes between. -/
theorem serve_call (server : ServerState width) (destination : WString width)
    (key : IdempotencyKey) (next : WorkerRequest width) :
    ((server.shared.workerStep (.post destination key)).2.workerStep next).2 =
      { server with requests := (server.serve (.call destination key)).2.2 }.shared := rfl

/-- Only authenticated requests reach the state of the server. -/
structure OnlyAuthenticated (ctype : WideCtype width) : Prop where
  /-- A decision to serve is the only one by which the handler reads or changes the state. -/
  served : ∀ (token : ApiToken) (socket rest : Socket) (call : ApiCall width),
    decideClient ctype token.bytes socket = (.serve call, rest) →
      ∃ line headers, Authenticated socket.incoming token.bytes line headers ∧ Asks line call
  /-- All other bytes are answered by what they are, and leave the server as it is. -/
  refused : ∃ refusal : Bytes → Option Reply, ∀ (server : ServerState width) (socket : Socket),
    (∀ line headers, ¬ Authenticated socket.incoming server.token.bytes line headers) →
      (handleClient ctype server socket).reply = refusal socket.incoming ∧
        (handleClient ctype server socket).server = server ∧
        (handleClient ctype server socket).posted = none
  /-- A request that is pending afterwards has been, or has just been posted. -/
  enqueued : ∀ (server : ServerState width) (socket : Socket) (request : CtiPendingRequest width),
    (handleClient ctype server socket).server.requests.pending = some request →
      server.requests.pending = some request ∨
        ∃ line headers body, Authenticated socket.incoming server.token.bytes line headers ∧
          line = asciiBytes "POST /v1/calls HTTP/1.1" ∧
          PostedBody ctype socket.incoming (handleClient ctype server socket).socket.incoming
            headers body request.destination

theorem serve_pending {server : ServerState width} {call : ApiCall width}
    {request : CtiPendingRequest width} (pending : (server.serve call).2.2.pending = some request) :
    server.requests.pending = some request ∨ ∃ key, call = .call request.destination key := by
  cases call with
  | status | currentCall | events cursor | requestEvents cursor => exact .inl pending
  | scopedRequestEvents id cursor =>
      unfold ServerState.serve at pending
      simp only [] at pending
      split at pending <;> exact .inl pending
  | requestResult id =>
      unfold ServerState.serve at pending
      simp only [] at pending
      split at pending <;> exact .inl pending
  | cancelRequest id => exact .inl (cancel_pending pending)
  | call destination key =>
      rcases submitIdempotent_pending pending with before | rfl
      · exact .inl before
      · exact .inr ⟨key, rfl⟩

/-- Only authenticated requests reach the state of the server, whatever the bytes sent to it. -/
theorem only_authenticated (ctype : WideCtype width) : OnlyAuthenticated ctype where
  served token socket rest call served := by
    have decided := decideClient_decided ctype token socket
    rw [served] at decided
    obtain ⟨line, headers, rests⟩ := decided.served rfl
    exact ⟨line, headers, rests.authenticated, rests.asks⟩
  refused := by
    refine ⟨refusal, fun server socket stranger => ?_⟩
    have decision := (decideClient_decided ctype server.token socket).unserved stranger
    unfold handleClient
    generalize decideClient ctype server.token.bytes socket = decided at decision ⊢
    obtain ⟨made, rest⟩ := decided
    cases answer : refusal socket.incoming with
    | none =>
        rw [answer] at decision
        cases decision
        exact ⟨rfl, rfl, rfl⟩
    | some reply =>
        rw [answer] at decision
        cases decision
        exact ⟨rfl, rfl, rfl⟩
  enqueued server socket request := by
    intro pending
    have decided := decideClient_decided ctype server.token socket
    unfold handleClient at pending ⊢
    generalize decideClient ctype server.token.bytes socket = outcome at decided pending ⊢
    obtain ⟨made, rest⟩ := outcome
    cases made with
    | silent | reply => exact .inl pending
    | serve call =>
        rcases serve_pending pending with before | ⟨key, rfl⟩
        · exact .inl before
        · obtain ⟨line, headers, rests⟩ := decided.served rfl
          obtain ⟨body, posted⟩ := rests.posted request.destination key rfl
          have asks := rests.asks
          cases asks with
          | call same => exact .inr ⟨line, headers, body, rests.authenticated, same, posted⟩

end AxeVoice.Cti
