import AxeVoice.Foundation.Unicode

/-!
# A stream socket

The bytes a peer sends before it closes the connection or falls silent, and how
the network cuts them: each `recv` takes at least one of the bytes left, and no
more than its buffer holds.
-/

namespace AxeVoice.Foundation

structure Socket where
  incoming : Bytes
  /-- How many bytes have arrived at each `recv`, beyond the first one. -/
  arrivals : List ℕ := []
  deriving DecidableEq, Repr

namespace Socket

/-- How many bytes a `recv` takes, if there are as many. -/
def amount (socket : Socket) (size : ℕ) : ℕ :=
  match socket.arrivals with
  | [] => size
  | arrival :: _ => min size (arrival + 1)

/-- `recv`, where none stands for the end of the connection and for its timeout. -/
def recv (socket : Socket) (size : ℕ) : Option (Bytes × Socket) :=
  if socket.incoming.isEmpty || size = 0 then none
  else
    some (socket.incoming.take (socket.amount size),
      ⟨socket.incoming.drop (socket.amount size), socket.arrivals.tail⟩)

/-- What a `recv` took off the stream. -/
structure Received (socket : Socket) (size : ℕ) (data : Bytes) (rest : Socket) : Prop where
  split : socket.incoming = data ++ rest.incoming
  nonempty : data ≠ []
  fits : data.length ≤ size

theorem recv_some {socket rest : Socket} {size : ℕ} {data : Bytes}
    (received : socket.recv size = some (data, rest)) : Received socket size data rest := by
  unfold recv at received
  split at received
  · cases received
  · next available =>
      simp only [Bool.or_eq_true, decide_eq_true_eq, not_or, List.isEmpty_iff] at available
      obtain ⟨left, room⟩ := available
      have some_ : 0 < socket.amount size ∧ socket.amount size ≤ size := by
        unfold amount
        split <;> omega
      cases received
      constructor
      · exact (List.take_append_drop _ _).symm
      · intro empty
        rcases List.take_eq_nil_iff.mp empty with none_ | none_
        · omega
        · exact left none_
      · exact Nat.le_trans (List.length_take_le _ _) some_.2

theorem recv_none {socket : Socket} {size : ℕ} (room : 0 < size)
    (ended : socket.recv size = none) : socket.incoming = [] := by
  unfold recv at ended
  split at ended
  · next ended_ =>
      simp only [Bool.or_eq_true, decide_eq_true_eq, List.isEmpty_iff] at ended_
      exact ended_.resolve_right (by omega)
  · cases ended

/-- A `recv` shortens the stream. -/
theorem Received.shortens {socket rest : Socket} {size : ℕ} {data : Bytes}
    (received : Received socket size data rest) :
    rest.incoming.length < socket.incoming.length := by
  have some_ := List.length_pos_iff.mpr received.nonempty
  rw [received.split, List.length_append]
  omega

end Socket

end AxeVoice.Foundation
