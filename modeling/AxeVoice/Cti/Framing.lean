import AxeVoice.Cti.HttpGate

/-!
# One request, however it is cut

A stream that holds one complete request and nothing else is answered by its
bytes alone.  The loop over the header may take the beginning of the body with
it; the loop over the body takes what is left, and neither waits for more.
-/

namespace AxeVoice.Cti

open Foundation

variable {width : WCharWidth}

/-- The length of what has to follow the header, none where it announces nothing acceptable. -/
def Examined.announced (examined : Examined) : Option ℕ :=
  if examined.routes.bodiless then some 0 else (contentLength examined.fields).toOption

/-- A header block with its end, and behind it exactly what an accepted header announces. -/
structure OneRequest (bytes : Bytes) (delimiter : ℕ) : Prop where
  ended : bytes.find headerEnd = some delimiter
  near : delimiter ≤ 4096
  exact_ : ∀ examined, examine (bytes.take delimiter) = .ok examined →
    ∀ length, examined.announced = some length →
      bytes.length = delimiter + headerEnd.length + length

/-- The decision over all the bytes at once. -/
def decideWhole (ctype : WideCtype width) (token bytes : Bytes) (delimiter : ℕ) : Decision width :=
  (decideRequest ctype token delimiter bytes { incoming := [] }).1

/-- The loop over the header of a request stops behind its end, wherever the stream is cut. -/
theorem OneRequest.readHeader {bytes : Bytes} {delimiter : ℕ} (one : OneRequest bytes delimiter)
    {socket : Socket} (sent : socket.incoming = bytes) :
    ∃ packet rest, readHeader socket [] = .read (some delimiter) packet rest ∧
      bytes = packet ++ rest.incoming ∧ delimiter + headerEnd.length ≤ packet.length := by
  have read := readHeader_read socket [] rfl
  rw [List.nil_append, sent] at read
  cases block : Cti.readHeader socket [] with
  | lost rest =>
      rw [block] at read
      cases read with
      | lost missing short => cases one.ended.symm.trans missing
  | read found packet rest =>
      rw [block] at read
      cases read with
      | unended missing far => exact absurd (far delimiter one.ended) (Nat.not_lt.mpr one.near)
      | @ended position _ _ received split =>
          have whole := Bytes.find_append rest.incoming received
          rw [← split, one.ended] at whole
          cases whole
          exact ⟨packet, rest, rfl, split, (Bytes.find_some received).ends⟩

/-- The loop over a body that is all there reads it to its end. -/
theorem readBody_complete {socket : Socket} {packet : Bytes} {target : ℕ}
    (whole : (packet ++ socket.incoming).length = target) :
    (readBody socket packet target).1 = some (packet ++ socket.incoming) := by
  fun_induction readBody socket packet target with
  | case1 socket packet missing ended =>
      have none_ := Socket.recv_none (by omega) ended
      rw [none_, List.append_nil] at whole
      omega
  | case2 socket packet missing data rest received ih =>
      have split := (Socket.recv_some received).split
      rw [split, ← List.append_assoc] at whole ⊢
      exact ih whole
  | case3 socket packet full =>
      rw [List.length_append] at whole
      have none_ : socket.incoming = [] := List.eq_nil_of_length_eq_zero (by omega)
      rw [none_, List.append_nil]

theorem receiveCall_cut (ctype : WideCtype width) {fields : Fields} {bodyBegin : ℕ}
    {packet : Bytes} {socket : Socket}
    (exact_ : ∀ length, contentLength fields = .ok length →
      (packet ++ socket.incoming).length = bodyBegin + length) :
    (receiveCall ctype fields bodyBegin packet socket).1 =
      (receiveCall ctype fields bodyBegin (packet ++ socket.incoming) { incoming := [] }).1 := by
  unfold receiveCall
  split
  · rfl
  · cases announced : contentLength fields with
    | error reply => rfl
    | ok length =>
        have size := exact_ length announced
        have room : ¬ packet.length > bodyBegin + length := by
          rw [List.length_append] at size
          omega
        have none_ : ¬ (packet ++ socket.incoming).length > bodyBegin + length := by omega
        have cut := readBody_complete size
        have once : (readBody { incoming := [] } (packet ++ socket.incoming) (bodyBegin + length)).1 =
            some (packet ++ socket.incoming) := by
          have all : (packet ++ socket.incoming ++ []).length = bodyBegin + length := by
            rw [List.append_nil]
            exact size
          exact (readBody_complete all).trans (congrArg some (List.append_nil _))
        dsimp only
        rw [if_neg room, if_neg none_]
        generalize readBody socket packet (bodyBegin + length) = first at cut
        generalize readBody { incoming := [] } (packet ++ socket.incoming) (bodyBegin + length) =
          second at once
        obtain ⟨received, rest⟩ := first
        obtain ⟨taken, behind⟩ := second
        cases cut
        cases once
        rfl

/-- What the handler decides of a request does not depend on the cuts. -/
theorem OneRequest.decideClient {bytes : Bytes} {delimiter : ℕ} (one : OneRequest bytes delimiter)
    (ctype : WideCtype width) (token : Bytes) {socket : Socket} (sent : socket.incoming = bytes) :
    (decideClient ctype token socket).1 = decideWhole ctype token bytes delimiter := by
  obtain ⟨packet, rest, read, split, inside⟩ := one.readHeader sent
  have header : packet.take delimiter = bytes.take delimiter := by
    rw [split, List.take_append_of_le_length (by omega)]
  have exact_ := one.exact_
  unfold Cti.decideClient decideWhole decideRequest
  rw [read]
  dsimp only
  rw [if_neg (Nat.not_lt.mpr one.near), header]
  cases examined : examine (bytes.take delimiter) with
  | error reply => rfl
  | ok found =>
      obtain ⟨line, routes, fields⟩ := found
      have announced := exact_ _ examined
      dsimp only
      split
      · rfl
      · unfold Examined.announced at announced
        by_cases bodiless : routes.bodiless = true
        · rw [if_pos bodiless, if_pos bodiless]
          have size := announced 0 (if_pos bodiless)
          have none_ : rest.incoming = [] := by
            rw [split, List.length_append] at size
            exact List.eq_nil_of_length_eq_zero (by omega)
          have whole : packet = bytes := by rw [split, none_, List.append_nil]
          rw [whole]
          split <;> rfl
        · rw [if_neg bodiless, if_neg bodiless]
          rw [split]
          apply receiveCall_cut ctype
          intro length known
          rw [← split]
          apply announced
          rw [if_neg bodiless, known]
          rfl

theorem decideRecord_ne_silent (line : Bytes) (cancelRequest : Bool) :
    (decideRecord line cancelRequest : Decision width) ≠ .silent := by
  unfold decideRecord
  dsimp only
  split
  · exact nofun
  · split
    · exact nofun
    · split <;> exact nofun

theorem decideQuery_ne_silent (line : Bytes) (routes : Routes) :
    (decideQuery line routes : Decision width) ≠ .silent := by
  unfold decideQuery
  split
  · exact nofun
  · split
    · exact nofun
    · split
      · exact nofun
      · split
        · exact nofun
        · exact nofun
        · exact nofun
        · exact decideRecord_ne_silent line routes.cancelRequest

theorem decideCall_ne_silent (ctype : WideCtype width) (fields : Fields) (body : Bytes) :
    decideCall ctype fields body ≠ .silent := by
  unfold decideCall
  split
  · exact nofun
  · split
    · exact nofun
    · split <;> exact nofun

/-- A body that has arrived is not waited for. -/
theorem receiveCall_ne_silent (ctype : WideCtype width) {fields : Fields} {bodyBegin : ℕ}
    {packet : Bytes} {socket : Socket}
    (exact_ : ∀ length, contentLength fields = .ok length → packet.length = bodyBegin + length) :
    (receiveCall ctype fields bodyBegin packet socket).1 ≠ .silent := by
  unfold receiveCall
  split
  · exact nofun
  · cases announced : contentLength fields with
    | error reply => exact nofun
    | ok length =>
        dsimp only
        split
        · exact nofun
        · rw [readBody, if_neg (Nat.not_lt.mpr (Nat.le_of_eq (exact_ length announced).symm))]
          exact decideCall_ne_silent ctype fields _

theorem OneRequest.answered {bytes : Bytes} {delimiter : ℕ} (one : OneRequest bytes delimiter)
    (ctype : WideCtype width) (token : Bytes) :
    decideWhole ctype token bytes delimiter ≠ .silent := by
  have exact_ := one.exact_
  unfold decideWhole decideRequest
  cases examined : examine (bytes.take delimiter) with
  | error reply => exact nofun
  | ok found =>
      obtain ⟨line, routes, fields⟩ := found
      have announced := exact_ _ examined
      unfold Examined.announced at announced
      dsimp only at announced ⊢
      split
      · exact nofun
      · split
        · split
          · exact nofun
          · exact decideQuery_ne_silent line routes
        · next called =>
            apply receiveCall_ne_silent
            intro length known
            apply announced
            rw [if_neg called, known]
            rfl

/-- One complete request gets one answer, however the network cuts it. -/
structure OneAnswer (ctype : WideCtype width) : Prop where
  /-- The answer, the message posted and the server left are those of the bytes. -/
  settled : ∀ (server : ServerState width) (bytes : Bytes) (delimiter : ℕ),
    OneRequest bytes delimiter → ∃ reply posted after, ∀ socket : Socket, socket.incoming = bytes →
      (handleClient ctype server socket).reply = some reply ∧
        (handleClient ctype server socket).posted = posted ∧
        (handleClient ctype server socket).server = after

theorem one_answer (ctype : WideCtype width) : OneAnswer ctype where
  settled server bytes delimiter one := by
    have decided (socket : Socket) (sent : socket.incoming = bytes) :=
      one.decideClient ctype server.token.bytes sent
    have answered := one.answered ctype server.token.bytes
    cases whole : decideWhole ctype server.token.bytes bytes delimiter with
    | silent => exact absurd whole answered
    | reply reply =>
        refine ⟨reply, none, server, fun socket sent => ?_⟩
        have decision := (decided socket sent).trans whole
        unfold handleClient
        generalize decideClient ctype server.token.bytes socket = outcome at decision
        obtain ⟨made, rest⟩ := outcome
        cases decision
        exact ⟨rfl, rfl, rfl⟩
    | serve call =>
        refine ⟨(server.serve call).1, (server.serve call).2.1,
          { server with requests := (server.serve call).2.2 }, fun socket sent => ?_⟩
        have decision := (decided socket sent).trans whole
        unfold handleClient
        generalize decideClient ctype server.token.bytes socket = outcome at decision
        obtain ⟨made, rest⟩ := outcome
        cases decision
        exact ⟨rfl, rfl, rfl⟩

end AxeVoice.Cti
