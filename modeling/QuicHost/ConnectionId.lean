import QuicHost.Bytes

/-!
# Connection identifiers

A connection identifier is an opaque byte string of at most twenty bytes. The
bound is part of the type, so an identifier that is too long does not exist. The
empty identifier is valid.
-/

namespace QuicHost

/-- The largest number of bytes in an identifier. -/
def ConnectionId.maxLength : Nat := 20

/-- An identifier chosen by an endpoint for packets sent to it. -/
structure ConnectionId where
  /-- the bytes that appear in packet headers -/
  bytes : Bytes
  /-- identifiers are short enough for every packet header -/
  length_le : bytes.length ≤ ConnectionId.maxLength
deriving DecidableEq

namespace ConnectionId

/-- The identifier with the given bytes, or `none` if there are too many. -/
def ofBytes? (b : Bytes) : Option ConnectionId :=
  if h : b.length ≤ maxLength then some ⟨b, h⟩ else none

/-- The identifier without bytes. -/
def empty : ConnectionId := ⟨[], by decide⟩

instance : Inhabited ConnectionId := ⟨empty⟩

/-- The number of bytes. -/
def length (id : ConnectionId) : Nat := id.bytes.length

/-- Whether the identifier has no bytes. -/
def isEmpty (id : ConnectionId) : Bool := id.bytes.isEmpty

instance : ToString ConnectionId where
  toString id := id.bytes.toHex

/-- The text shown in diagnostics: the bytes as a list of hexadecimal pairs. -/
def debugText (id : ConnectionId) : String :=
  "ConnectionId([" ++
    ", ".intercalate (id.bytes.map fun b => String.ofList (Bytes.hexPair b)) ++ "])"

theorem ofBytes?_eq_some_iff {b : Bytes} {id : ConnectionId} :
    ofBytes? b = some id ↔ id.bytes = b := by
  obtain ⟨bytes, hlen⟩ := id
  simp only [ofBytes?]
  constructor
  · intro h
    split at h
    · simpa [eq_comm] using h
    · simp at h
  · rintro rfl
    simp [hlen]

end ConnectionId

end QuicHost
