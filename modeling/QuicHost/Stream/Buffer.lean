import QuicHost.Bytes
import QuicHost.Credit

/-!
# Stream buffers

The packet engine delivers the bytes of a stream in order, so a receive buffer
is a queue of chunks: what arrives is put at the back, less the bytes that were
delivered before, and the application takes from the front. Its contents, the
chunks joined, are one contiguous piece of the stream.

The engine takes the bytes of a write at once and keeps them, so the sending
side has only to count.
-/

namespace QuicHost

/-! ## Receiving -/

/-- Bytes received on a stream and not read yet. -/
structure RecvBuffer where
  /-- the unread bytes, oldest chunk first -/
  chunks : List Bytes := []
  /-- number of unread bytes -/
  buffered : Nat := 0
  /-- offset of the next byte the engine has to deliver -/
  nextOffset : Nat := 0
  /-- total length of the stream, once its end is known -/
  finalSize : Option Nat := none
deriving DecidableEq, Repr

namespace RecvBuffer

instance : EmptyCollection RecvBuffer := ⟨{}⟩

/-- The unread bytes. -/
def contents (b : RecvBuffer) : Bytes := b.chunks.flatten

/-- Whether nothing is left to read. -/
def isEmpty (b : RecvBuffer) : Bool := b.buffered == 0

/-- Whether data that ends at `stop` contradicts the known length of the stream:
it runs past the length, or claims to be the end somewhere else. -/
def movesFinalSize (b : RecvBuffer) (stop : Nat) (fin : Bool) : Bool :=
  b.finalSize.any fun size => size < stop || (fin && stop != size)

/-- Puts data that starts at `offset` into the buffer and answers how many bytes
of it are new.

An end that contradicts the known one, or that no offset can express, is a
final-size violation. The engine delivers in order, so a gap is a failure of the
engine. -/
def insert (b : RecvBuffer) (offset : Nat) (data : Bytes) (fin : Bool) :
    Except TransportError (Nat × RecvBuffer) :=
  let stop := offset + data.length
  if maxWord < stop || b.movesFinalSize stop fin then
    .error (.violation .finalSizeError)
  else if b.nextOffset < offset then
    .error (.violation .internalError)
  else
    let b := if fin then { b with finalSize := some stop } else b
    if stop ≤ b.nextOffset then .ok (0, b)
    else
      let fresh := data.drop (b.nextOffset - offset)
      .ok (fresh.length, { b with
        chunks := b.chunks ++ [fresh]
        buffered := b.buffered + fresh.length
        nextOffset := stop })

/-- Splits the first `want` bytes off a queue of chunks. A chunk that is taken
in part stays at the front with the rest of its bytes. -/
def splitChunks : (want : Nat) → List Bytes → Bytes × List Bytes
  | _, [] => ([], [])
  | want, chunk :: rest =>
    if want < chunk.length then (chunk.take want, chunk.drop want :: rest)
    else
      let (out, left) := splitChunks (want - chunk.length) rest
      (chunk ++ out, left)

/-- Takes up to `maxLen` bytes from the front. If the first chunk has enough of
them it is cut, and nothing has to be joined. -/
def read (b : RecvBuffer) (maxLen : Nat) : Bytes × RecvBuffer :=
  let want := min maxLen b.buffered
  if want = 0 then ([], b)
  else match b.chunks with
    | [] => ([], b)
    | front :: rest =>
      if want < front.length then
        (front.take want, { b with
          chunks := front.drop want :: rest
          buffered := b.buffered - want })
      else if want = front.length then
        (front, { b with chunks := rest, buffered := b.buffered - want })
      else
        let (out, left) := splitChunks want b.chunks
        (out, { b with chunks := left, buffered := b.buffered - out.length })

/-- Drops all unread bytes. -/
def discard (b : RecvBuffer) : RecvBuffer :=
  { b with chunks := [], buffered := 0 }

/-- Splitting loses nothing and reorders nothing. -/
theorem splitChunks_append (want : Nat) (chunks : List Bytes) :
    (splitChunks want chunks).1 ++ (splitChunks want chunks).2.flatten = chunks.flatten := by
  induction chunks generalizing want with
  | nil => rfl
  | cons chunk rest ih =>
    unfold splitChunks
    split
    · simp [← List.append_assoc]
    · simp [List.append_assoc, ih]

/-- Splitting takes as many bytes as it was asked for, as far as there are any. -/
theorem length_splitChunks (want : Nat) (chunks : List Bytes) :
    (splitChunks want chunks).1.length = min want chunks.flatten.length := by
  induction chunks generalizing want with
  | nil => simp [splitChunks]
  | cons chunk rest ih =>
    unfold splitChunks
    split
    · simp; omega
    · simp [ih]; omega

end RecvBuffer

/-! ## Sending -/

/-- How much was accepted on a stream and how much of it the peer has
acknowledged. -/
structure SendBuffer where
  /-- bytes accepted from the application -/
  accepted : Nat := 0
  /-- bytes acknowledged by the peer -/
  acked : Nat := 0
  /-- whether the end was accepted -/
  fin : Bool := false
deriving DecidableEq, Repr

namespace SendBuffer

instance : EmptyCollection SendBuffer := ⟨{}⟩

/-- Counts `n` more accepted bytes. -/
def append (b : SendBuffer) (n : Nat) : SendBuffer := { b with accepted := b.accepted + n }

/-- Marks the end as accepted. -/
def finish (b : SendBuffer) : SendBuffer := { b with fin := true }

/-- Counts `n` more acknowledged bytes, never more than were accepted. The sum is cut
to a word before it is limited. -/
def acknowledge (b : SendBuffer) (n : Nat) : SendBuffer :=
  { b with acked := min (wrap (b.acked + n)) b.accepted }

/-- Gives up on the bytes that are not acknowledged. -/
def abandon (b : SendBuffer) : SendBuffer := { b with acked := b.accepted }

/-- The bytes that wait for acknowledgement. -/
def unacked (b : SendBuffer) : Nat := b.accepted - b.acked

/-- Whether the end was accepted and nothing waits for acknowledgement. -/
def isFullyAcked (b : SendBuffer) : Bool := b.fin && b.acked == b.accepted

end SendBuffer

end QuicHost
