import QuicHost.Stream.Basic

/-!
# What a receive buffer holds

A buffer that counts its bytes rightly is, for everybody outside, its contents:
reading takes from their front and inserting appends to them what was not
delivered before. How the contents are cut into chunks does not matter.

So nobody outside looks at chunks: `read_eq`, `insert_eq_ok` and `take_eq` say what the
three operations do to contents, next offset and final size, for every way of cutting,
the short cut of a read that ends with a chunk included.
-/

namespace QuicHost

namespace RecvBuffer

/-- Whether the count of unread bytes is right. -/
def Counts (b : RecvBuffer) : Prop := b.buffered = b.contents.length

/-- Splitting cuts the contents in two. -/
theorem splitChunks_eq (want : Nat) (chunks : List Bytes) :
    (splitChunks want chunks).1 = chunks.flatten.take want ∧
      (splitChunks want chunks).2.flatten = chunks.flatten.drop want := by
  have happend := splitChunks_append want chunks
  have hlength := length_splitChunks want chunks
  by_cases h : want ≤ chunks.flatten.length
  · rw [Nat.min_eq_left h] at hlength
    exact List.append_inj (happend.trans (List.take_append_drop want _).symm)
      (by rw [hlength, List.length_take, Nat.min_eq_left h])
  · rw [Nat.min_eq_right (by omega)] at hlength
    rw [List.take_of_length_le (by omega), List.drop_eq_nil_of_le (by omega)]
    exact List.append_inj (happend.trans (List.append_nil _).symm) hlength

/-- Reading takes the front of the contents, on the short way and on the long
one. -/
theorem read_eq {b : RecvBuffer} (h : b.Counts) (n : Nat) :
    (b.read n).1 = b.contents.take n ∧ (b.read n).2.contents = b.contents.drop n ∧
      (b.read n).2.Counts ∧
      (b.read n).2.nextOffset = b.nextOffset ∧ (b.read n).2.finalSize = b.finalSize := by
  have htake : b.contents.take n =
    b.contents.take (min n b.buffered) := by rw [h, ← List.take_eq_take_min]
  have hdrop : b.contents.drop n =
    b.contents.drop (min n b.buffered) := by rw [h, ← List.drop_eq_drop_min]
  have hmin : min n b.buffered ≤ b.contents.length := by rw [← h]; exact Nat.min_le_right _ _
  rw [htake, hdrop, read]
  -- the loop is entered with what can be read at all, and from here on only that it is
  -- there matters
  generalize min n b.buffered = want at hmin
  simp only
  split
  · next hwant =>
    rw [hwant]
    exact ⟨rfl, rfl, h, rfl, rfl⟩
  split
  · next hchunks =>
    have hnil : b.contents = [] := by rw [contents, hchunks]; rfl
    rw [hnil, List.take_nil, List.drop_nil]
    exact ⟨rfl, rfl, h, rfl, rfl⟩
  next front rest hchunks =>
  have hcontents : b.contents = front ++ rest.flatten := by rw [contents, hchunks]; rfl
  have hbuffered : b.buffered = front.length + rest.flatten.length := by
    rw [h, hcontents, List.length_append]
  split
  · next hlt =>
    rw [hcontents, List.take_append_of_le_length (Nat.le_of_lt hlt),
      List.drop_append_of_le_length (Nat.le_of_lt hlt)]
    refine ⟨rfl, rfl, ?_, rfl, rfl⟩
    simp only [Counts, contents, List.flatten_cons, List.length_append, List.length_drop, hbuffered]
    omega
  -- the whole first chunk, without cutting it
  split
  · next heq =>
    rw [hcontents, heq, List.take_left, List.drop_left]
    refine ⟨rfl, rfl, ?_, rfl, rfl⟩
    simp only [Counts, contents, hbuffered]
    omega
  · obtain ⟨hout, hleft⟩ := splitChunks_eq want b.chunks
    refine ⟨hout, hleft, ?_, rfl, rfl⟩
    simp only [Counts, contents, hout, hleft, List.length_take, List.length_drop] at h hmin ⊢
    omega

/-- Reading does not touch what is known of the end. -/
theorem finalSize_read (b : RecvBuffer) (n : Nat) : (b.read n).2.finalSize = b.finalSize := by
  rw [read]
  dsimp only
  split
  · rfl
  split
  · rfl
  split
  · rfl
  split <;> rfl

/-- Reading does not change which byte is expected next. -/
theorem nextOffset_read (b : RecvBuffer) (n : Nat) : (b.read n).2.nextOffset = b.nextOffset := by
  rw [read]
  dsimp only
  split
  · rfl
  split
  · rfl
  split
  · rfl
  split <;> rfl

/-- Nothing is new of data that ends before the next offset. -/
theorem added_eq_zero_of_insert {b b' : RecvBuffer} {offset added : Nat} {data : Bytes}
    {fin : Bool} (h : b.insert offset data fin = .ok (added, b'))
    (hle : offset + data.length ≤ b.nextOffset) : added = 0 := by
  simp only [insert] at h
  split at h
  · cases h
  split at h
  · cases h
  have hsame : (if fin then { b with finalSize := some (offset + data.length) } else b).nextOffset =
      b.nextOffset := by
    split <;> rfl
  rw [hsame, if_pos hle] at h
  exact (Prod.mk.inj (Except.ok.inj h)).1.symm

/-- Data that is taken in begins no later than at the next offset, and what is
new of it is appended. -/
theorem insert_eq_ok {b b' : RecvBuffer} {offset added : Nat} {data : Bytes} {fin : Bool}
    (h : b.insert offset data fin = .ok (added, b')) :
    offset ≤ b.nextOffset ∧ b.movesFinalSize (offset + data.length) fin = false ∧
      b'.contents = b.contents ++ data.drop (b.nextOffset - offset) ∧
      b'.buffered = b.buffered + (data.drop (b.nextOffset - offset)).length ∧
      b'.nextOffset = max b.nextOffset (offset + data.length) ∧
      b'.finalSize = if fin then some (offset + data.length) else b.finalSize := by
  simp only [insert] at h
  split at h
  · cases h
  next hsize =>
  split at h
  · cases h
  next hgap =>
  have hmoves : b.movesFinalSize (offset + data.length) fin = false := by
    rw [Bool.or_eq_true, not_or] at hsize
    exact Bool.eq_false_iff.2 hsize.2
  refine ⟨Nat.not_lt.1 hgap, hmoves, ?_⟩
  generalize hknown : (if fin then { b with finalSize := some (offset + data.length) } else b) =
    known at h
  -- whether the end became known does not touch what the buffer holds
  have hsame : known.chunks = b.chunks ∧ known.buffered = b.buffered ∧
    known.nextOffset = b.nextOffset ∧
      known.finalSize = if fin then some (offset + data.length) else b.finalSize := by
    subst hknown
    cases fin <;> exact ⟨rfl, rfl, rfl, rfl⟩
  obtain ⟨hchunks, hbuffered, hnext, hfinal⟩ := hsame
  split at h
  · next hold =>
    obtain ⟨-, rfl⟩ := Prod.mk.inj (Except.ok.inj h)
    rw [hnext] at hold
    have hnone : data.drop (b.nextOffset - offset) = [] := List.drop_eq_nil_of_le (by omega)
    rw [hnone, List.append_nil, hbuffered, hnext, hfinal, contents, hchunks]
    exact ⟨rfl, rfl, by omega, rfl⟩
  · next hnew =>
    obtain ⟨-, rfl⟩ := Prod.mk.inj (Except.ok.inj h)
    rw [hnext] at hnew
    simp only [contents, hchunks, hbuffered, hnext, hfinal, List.flatten_append,
      List.flatten_singleton]
    exact ⟨trivial, trivial, by omega, trivial⟩

/-- The reasons to refuse data. -/
theorem insert_eq_error {b : RecvBuffer} {offset : Nat} {data : Bytes} {fin : Bool}
    {e : TransportError} (h : b.insert offset data fin = .error e) :
    (e = .violation .finalSizeError ∧
      (maxWord < offset + data.length ∨ b.movesFinalSize (offset + data.length) fin = true)) ∨
    (e = .violation .internalError ∧ b.nextOffset < offset) := by
  simp only [insert] at h
  split at h
  · next hsize =>
    rw [Bool.or_eq_true, decide_eq_true_eq] at hsize
    exact .inl ⟨(Except.error.inj h).symm, hsize⟩
  split at h
  · next hgap => exact .inr ⟨(Except.error.inj h).symm, hgap⟩
  · generalize (if fin then { b with finalSize := some (offset + data.length) } else b) = known at h
    split at h <;> cases h

end RecvBuffer

namespace RecvHalf

/-- A read takes the front of the contents and leaves the rest; it may end the
half. -/
theorem take_eq {h : RecvHalf} (hcounts : h.buffer.Counts) (n : Nat) :
    (h.take n).1.data = h.buffer.contents.take n ∧
      (h.take n).2.buffer.contents = h.buffer.contents.drop n ∧ (h.take n).2.buffer.Counts ∧
      (h.take n).2.buffer.nextOffset = h.buffer.nextOffset ∧
      (h.take n).2.buffer.finalSize = h.buffer.finalSize ∧ (h.take n).2.window = h.window ∧
      (h.take n).2.stopped = h.stopped ∧
      ((h.take n).2.state = h.state ∨ h.state = .sizeKnown ∧ (h.take n).2.state = .dataRecvd) := by
  obtain ⟨hdata, hcontents, hcounts', hnext, hfinal⟩ := RecvBuffer.read_eq hcounts n
  refine ⟨hdata, hcontents, hcounts', hnext, hfinal, rfl, rfl, ?_⟩
  simp only [take]
  split
  · next hfin =>
    rw [Bool.and_eq_true, beq_iff_eq] at hfin
    exact .inr ⟨hfin.1, rfl⟩
  · exact .inl rfl

end RecvHalf

end QuicHost
