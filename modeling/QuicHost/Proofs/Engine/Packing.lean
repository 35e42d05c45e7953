import QuicHost.Engine.Adapter
import QuicHost.Engine.Scripted
import QuicHost.Proofs.Engine.Codec
import QuicHost.Proofs.Engine.Tape

/-!
# Packing

What waits to be sent is packed into datagrams: data is cut where a datagram
ends, and data that says nothing is skipped. `Frame.Retells` relates frames that
say the same on every stream, however they are cut. Packing changes nothing
about what is said: the frames of the datagrams, and behind them what is left,
say what waited before (`pull_outcome`), and when no datagram is handed out,
nothing waits any more.

In which order frames may be said is the same question for all ways to cut them:
a frame forbids frames that come later (`Frame.Forbids`), and frames that keep to
this are lawful.
-/

namespace QuicHost

namespace Frame

/-- Whether frames announce that the sending half of a stream is abandoned. -/
def Abandoned (id : StreamId) (fs : List Frame) : Prop := ∃ errorCode, resetStream id errorCode ∈ fs

theorem abandoned_append {id : StreamId} {fs gs : List Frame} :
    Abandoned id (fs ++ gs) ↔ Abandoned id fs ∨ Abandoned id gs := by
  simp only [Abandoned, List.mem_append, exists_or]

/-- A stream is abandoned by a reset of it. -/
theorem abandoned_cons_reset {id id' : StreamId} {errorCode : Nat} {fs : List Frame} :
    Abandoned id' (resetStream id errorCode :: fs) ↔ id = id' ∨ Abandoned id' fs := by
  simp only [Abandoned, List.mem_cons, resetStream.injEq]
  constructor
  · rintro ⟨code, ⟨rfl, -⟩ | hmem⟩
    · exact .inl rfl
    · exact .inr ⟨code, hmem⟩
  · rintro (rfl | ⟨code, hmem⟩)
    · exact ⟨errorCode, .inl ⟨rfl, rfl⟩⟩
    · exact ⟨code, .inr hmem⟩

/-- Whether the frame may wait to be sent, which the closing never does. It
names its stream by an identifier that fits a word. -/
def Queued : Frame → Prop
  | stream id _ _ => id.Fits
  | resetStream id _ => id.Fits
  | stopSending id _ => id.Fits
  | connectionClose _ _ => False

/-! ## What may come later

Which frames may not follow which. It is a relation between two frames, so that a list is
lawful if all its pairs are. -/

/-- Which frames a frame forbids from then on. -/
inductive Forbids : Frame → Frame → Prop where
  /-- nothing of a stream comes behind its end -/
  | ended (id : StreamId) (data data' : Bytes) (fin : Bool) :
    Forbids (stream id data true) (stream id data' fin)
  /-- nothing of a stream comes behind its being abandoned -/
  | abandoned (id : StreamId) (errorCode : Nat) (data : Bytes) (fin : Bool) :
    Forbids (resetStream id errorCode) (stream id data fin)
  /-- a stream is abandoned once -/
  | reset (id : StreamId) (errorCode errorCode' : Nat) :
    Forbids (resetStream id errorCode) (resetStream id errorCode')
  /-- the peer is asked once to stop sending on a stream -/
  | stopped (id : StreamId) (errorCode errorCode' : Nat) :
    Forbids (stopSending id errorCode) (stopSending id errorCode')
  /-- nothing comes behind the closing -/
  | closed (errorCode : Nat) (reason : Bytes) (f : Frame) :
    Forbids (connectionClose errorCode reason) f

/-- Whether no frame is forbidden by one that came earlier. -/
def Lawful (fs : List Frame) : Prop := fs.Pairwise fun f g => ¬ f.Forbids g

/-- Whatever forbids data of a stream forbids all data of it. -/
theorem Forbids.stream_iff {f : Frame} {id : StreamId} {data data' : Bytes} {fin fin' : Bool} :
    f.Forbids (stream id data fin) ↔ f.Forbids (stream id data' fin') := by
  constructor <;>
  · rintro (_ | _ | _ | _ | _)
    · exact .ended _ _ _ _
    · exact .abandoned _ _ _ _
    · exact .closed _ _ _

/-- Frames that can stand for a frame: they agree among themselves, and what
forbids them or is forbidden by them is so with the frame. -/
structure Replaces (f : Frame) (gs : List Frame) : Prop where
  /-- among themselves -/
  lawful : Lawful gs
  /-- what forbids one of them forbids the frame -/
  forbidden : ∀ g ∈ gs, ∀ h : Frame, h.Forbids g → h.Forbids f
  /-- what one of them forbids, the frame forbids -/
  forbids : ∀ g ∈ gs, ∀ h : Frame, g.Forbids h → f.Forbids h

/-- A frame may be replaced by those that say the same. -/
theorem Replaces.lawful_append {f : Frame} {gs : List Frame} (h : f.Replaces gs)
    {before after : List Frame} (hlawful : Lawful (before ++ f :: after)) :
    Lawful (before ++ (gs ++ after)) := by
  rw [Lawful, List.pairwise_append, List.pairwise_cons] at hlawful
  obtain ⟨hbefore, ⟨hlater, hafter⟩, hacross⟩ := hlawful
  rw [Lawful, List.pairwise_append, List.pairwise_append]
  refine ⟨hbefore, ⟨h.lawful, hafter, fun g hg h' hh' hforbids => ?_⟩,
    fun f' hf' g hg hforbids => ?_⟩
  · exact hlater h' hh' (h.forbids g hg h' hforbids)
  · rcases List.mem_append.1 hg with hg | hg
    · exact hacross f' hf' f List.mem_cons_self (h.forbidden g hg f' hforbids)
    · exact hacross f' hf' g (List.mem_cons_of_mem f hg) hforbids

/-- Data that is cut in two stands for the whole. -/
theorem replaces_cut (id : StreamId) (data : Bytes) (fin : Bool) (n : Nat) :
    (stream id data fin).Replaces
      [stream id (data.take n) false, stream id (data.drop n) fin] where
  lawful := by
    rw [Lawful, List.pairwise_pair]
    rintro ⟨⟩
  forbidden g hg h hforbids := by
    rcases List.mem_pair.1 hg with rfl | rfl <;> exact Forbids.stream_iff.1 hforbids
  forbids g hg h hforbids := by
    rcases List.mem_pair.1 hg with rfl | rfl
    · cases hforbids
    · cases hforbids with
      | ended _ _ _ _ => exact .ended _ _ _ _

/-- A frame that reads back stands for what was written. -/
theorem replaces_wire {f : Frame} (hq : f.Queued) : f.Replaces [f.wire] where
  lawful := List.pairwise_singleton _ _
  forbidden g hg h hforbids := by
    obtain rfl := List.mem_singleton.1 hg
    cases f with
    | connectionClose errorCode reason => exact hq.elim
    | _ =>
      rw [wire, word_of_fits hq] at hforbids
      cases hforbids <;> constructor
  forbids g hg h hforbids := by
    obtain rfl := List.mem_singleton.1 hg
    cases f with
    | connectionClose errorCode reason => exact hq.elim
    | _ =>
      rw [wire, word_of_fits hq] at hforbids
      cases hforbids <;> constructor

/-! ## Saying the same

Frames say the same if every stream gets the same bytes and the same end, and the same is
abandoned. Cutting data and dropping empty frames keeps this. -/

/-- The frames `gs` say what the frames `fs` say, cut in another way; whatever is
said before and after them, they break no law that those kept. -/
structure Retells (fs gs : List Frame) : Prop where
  /-- the same data with the same end, on every stream -/
  tape : ∀ id, tape id gs = tape id fs
  /-- the same streams abandoned -/
  abandoned : ∀ id, Abandoned id gs ↔ Abandoned id fs
  /-- nothing that may not be queued -/
  queued : (∀ f ∈ fs, f.Queued) → ∀ f ∈ gs, f.Queued
  /-- no law is broken that was kept -/
  lawful : ∀ {before after : List Frame}, Lawful (before ++ (fs ++ after)) →
    Lawful (before ++ (gs ++ after))

namespace Retells

variable {fs gs hs : List Frame}

theorem refl (fs : List Frame) : Retells fs fs := ⟨fun _ => rfl, fun _ => Iff.rfl, id, id⟩

theorem trans (h : Retells fs gs) (h' : Retells gs hs) : Retells fs hs :=
  ⟨fun id => (h'.tape id).trans (h.tape id), fun id => (h'.abandoned id).trans (h.abandoned id),
    fun hq => h'.queued (h.queued hq), fun hlawful => h'.lawful (h.lawful hlawful)⟩

/-- The same said in front of the same. -/
theorem append_right (h : Retells fs gs) (es : List Frame) : Retells (fs ++ es) (gs ++ es) where
  tape id := by rw [tape_append, tape_append, h.tape id]
  abandoned id := by rw [abandoned_append, abandoned_append, h.abandoned id]
  queued hq := by
    rw [List.forall_mem_append] at hq ⊢
    exact ⟨h.queued hq.1, hq.2⟩
  lawful hlawful := by
    rw [List.append_assoc] at hlawful ⊢
    exact h.lawful hlawful

/-- The same said behind the same. -/
theorem append (es : List Frame) (h : Retells fs gs) : Retells (es ++ fs) (es ++ gs) where
  tape id := by rw [tape_append, tape_append, h.tape id]
  abandoned id := by rw [abandoned_append, abandoned_append, h.abandoned id]
  queued hq := by
    rw [List.forall_mem_append] at hq ⊢
    exact ⟨hq.1, h.queued hq.2⟩
  lawful hlawful := by
    rw [List.append_assoc, ← List.append_assoc _ es] at hlawful ⊢
    exact h.lawful hlawful

/-- Data that says nothing can be skipped. -/
theorem skip (id : StreamId) (fs : List Frame) : Retells (stream id [] false :: fs) fs where
  tape id' := by
    rw [tape_cons, tape_stream]
    split <;> rfl
  abandoned id' := by simp [Abandoned]
  queued hq := (List.forall_mem_cons.1 hq).2
  lawful hlawful := hlawful.sublist ((List.sublist_cons_self _ _).append_left _)

/-- Data can be cut anywhere. -/
theorem cut (id : StreamId) (data : Bytes) (fin : Bool) (n : Nat) (fs : List Frame) :
    Retells (stream id data fin :: fs)
      (stream id (data.take n) false :: stream id (data.drop n) fin :: fs) where
  tape id' := by
    rw [tape_cons, tape_cons id' (stream id (data.drop n) fin),
      tape_cons id' (stream id data fin), tape_stream,
      tape_stream, tape_stream, ← List.append_assoc]
    split
    · rw [← Tape.ofData_append, List.take_append_drop]
    · rfl
  abandoned id' := by simp [Abandoned]
  queued hq := by
    rw [List.forall_mem_cons] at hq
    exact List.forall_mem_cons.2 ⟨hq.1, List.forall_mem_cons.2 hq⟩
  lawful hlawful := (replaces_cut id data fin n).lawful_append hlawful

/-- Frames that read back say what was written. -/
theorem wire (hq : ∀ f ∈ fs, f.Queued) : Retells fs (fs.map wire) := by
  induction fs with
  | nil => exact .refl []
  | cons f fs ih =>
    rw [List.forall_mem_cons] at hq
    have htail : Retells (f :: fs) (f :: fs.map Frame.wire) := (ih hq.2).append [f]
    refine htail.trans ?_
    rw [List.map_cons]
    refine ⟨fun id' => ?_, fun id' => ?_, fun h => ?_, (replaces_wire hq.1).lawful_append⟩
    · cases f with
      | stream id data fin => rw [Frame.wire, word_of_fits hq.1]
      | _ => rfl
    · cases f with
      | resetStream id errorCode =>
        rw [Frame.wire, word_of_fits hq.1, abandoned_cons_reset, abandoned_cons_reset]
      | _ => simp [Abandoned, Frame.wire]
    · refine List.forall_mem_cons.2 ⟨?_, (List.forall_mem_cons.1 h).2⟩
      cases f with
      | connectionClose errorCode reason => exact hq.1.elim
      | _ =>
        rw [Frame.wire, word_of_fits hq.1]
        exact hq.1

end Retells

/-- What is written says as much as what was queued. -/
theorem not_blank_wire {f : Frame} (h : ¬ f.Blank) : ¬ f.wire.Blank := by
  rintro ⟨id, heq⟩
  cases f with
  | stream id' data fin =>
    obtain ⟨-, rfl, rfl⟩ := Frame.stream.inj heq
    exact h ⟨id', rfl⟩
  | _ => cases heq

/-- How often a frame can be cut. -/
def weight : Frame → Nat
  | stream _ data _ => data.length + 1
  | _ => 1

/-- How many frames can be made of frames, at most. -/
def burden (fs : List Frame) : Nat := (fs.map weight).sum

@[simp] theorem burden_cons (f : Frame) (fs : List Frame) :
    burden (f :: fs) = f.weight + burden fs :=
  rfl

/-- Every frame weighs something, so that packing comes to an end. -/
theorem weight_pos (f : Frame) : 0 < f.weight := by
  cases f <;> simp [weight]

theorem length_encode_stream (id : StreamId) (data : Bytes) (fin : Bool) :
    (stream id data fin).encode.length = streamHeaderLength + data.length := by
  simp [encode, lengthPrefixed, streamHeaderLength]
  omega

theorem encode_ne_nil (f : Frame) : f.encode ≠ [] := by
  cases f <;> simp [encode]

end Frame

namespace ScriptedEngine

open QuicHost.Frame

/-! ## Giving up

Abandoning a stream drops the data that waits for it and queues a reset. -/

/-- When a stream is abandoned, nothing is left of it and everything of the
others. -/
theorem tape_shutdownWrite (e : ScriptedEngine) (id id' : StreamId) (errorCode : Nat) :
    tape id' (e.shutdownWrite id errorCode).outbound =
      if id = id' then [] else tape id' e.outbound := by
  have hreset : tape id' [resetStream id errorCode] = [] := rfl
  rw [shutdownWrite, tape_append, hreset, List.append_nil, tape, carried, List.filterMap_filter]
  split
  · next heq =>
    have hnone : (fun f => if (!isDataOf id f) = true then dataOf? id' f else none) =
        fun _ => none := by
      funext f
      cases f <;> simp [isDataOf, dataOf?, heq]
    rw [hnone]
    simp
  · next hne =>
    have hall : (fun f => if (!isDataOf id f) = true then dataOf? id' f else none) =
        dataOf? id' := by
      funext f
      cases f with
      | stream id'' data fin =>
        by_cases h : id'' = id <;> simp [isDataOf, dataOf?, h, hne]
      | _ => rfl
    rw [hall]
    rfl

/-- To shut down a stream is to queue its reset. -/
theorem abandoned_shutdownWrite (e : ScriptedEngine) (id id' : StreamId) (errorCode : Nat) :
    Abandoned id' (e.shutdownWrite id errorCode).outbound ↔ id = id' ∨
      Abandoned id' e.outbound := by
  simp only [Abandoned, shutdownWrite, List.mem_append, List.mem_filter, List.mem_singleton]
  constructor
  · rintro ⟨code, ⟨hmem, -⟩ | heq⟩
    · exact .inr ⟨code, hmem⟩
    · exact .inl (Frame.resetStream.inj heq).1.symm
  · rintro (rfl | ⟨code, hmem⟩)
    · exact ⟨errorCode, .inr rfl⟩
    · exact ⟨code, .inl ⟨hmem, rfl⟩⟩

/-- What waits still names streams by identifiers that fit. -/
theorem queued_shutdownWrite {e : ScriptedEngine} (hq : ∀ f ∈ e.outbound, f.Queued)
    {id : StreamId} (hid : id.Fits) (errorCode : Nat) :
    ∀ f ∈ (e.shutdownWrite id errorCode).outbound, f.Queued := by
  intro f hf
  rcases List.mem_append.1 hf with hf | hf
  · exact hq f (List.mem_of_mem_filter hf)
  · obtain rfl := List.mem_singleton.1 hf
    exact hid

/-! ## One datagram

What goes into one datagram, what is left, and how long it is. The frame that does not fit
is cut if it carries data, and left if not. -/

/-- The bytes of a datagram are those of the frames `ws`, which fit the room;
with what is left they say what waited. -/
structure Packed (room : Nat) (q : List Frame) (packed : Bytes) (ws left : List Frame) : Prop where
  /-- the frames, one after the other -/
  bytes : packed = ws.flatMap encode
  /-- no more than there is room for -/
  length : packed.length ≤ room
  /-- together with what is left, what waited -/
  retells : Retells q (ws ++ left)
  /-- they fit the wire -/
  short : ∀ f ∈ ws, f.Short
  /-- and none of them is empty -/
  plain : ∀ f ∈ ws, ¬ f.Blank
  /-- what is left weighs less by a unit for each of them -/
  burden : Frame.burden left + ws.length ≤ Frame.burden q

namespace Packed

variable {room : Nat} {q left ws : List Frame} {packed : Bytes}

theorem nothing (room : Nat) (q : List Frame) : Packed room q [] [] q :=
  ⟨rfl, Nat.zero_le _, .refl q, nofun, nofun, Nat.le_refl _⟩

theorem skip (id : StreamId) (h : Packed room q packed ws left) :
    Packed room (stream id [] false :: q) packed ws left :=
  ⟨h.bytes, h.length, (Retells.skip id q).trans h.retells, h.short, h.plain,
    Nat.le_trans h.burden (Nat.le_add_left _ _)⟩

/-- A frame that fits is packed whole. -/
theorem cons {f : Frame} (hroom : f.encode.length ≤ room) (hshort : f.Short) (hplain : ¬ f.Blank)
    (h : Packed (room - f.encode.length) q packed ws left) :
    Packed room (f :: q) (f.encode ++ packed) (f :: ws) left where
  bytes := by rw [h.bytes, List.flatMap_cons]
  length := by
    have := h.length
    rw [List.length_append]
    omega
  retells := h.retells.append [f]
  short := List.forall_mem_cons.2 ⟨hshort, h.short⟩
  plain := List.forall_mem_cons.2 ⟨hplain, h.plain⟩
  burden := by
    have := h.burden
    have := f.weight_pos
    rw [burden_cons, List.length_cons]
    omega

/-- A frame of data that does not fit is cut, and what is left of it waits. -/
theorem cut {id : StreamId} {data : Bytes} {n : Nat} (fin : Bool) (q : List Frame) (hpos : 0 < n)
    (hn : n < data.length) (hroom : streamHeaderLength + n ≤ room) (hmax : n ≤ maxPayload) :
    Packed room (stream id data fin :: q) (stream id (data.take n) false).encode
      [stream id (data.take n) false] (stream id (data.drop n) fin :: q) where
  bytes := by simp
  length := by
    rw [length_encode_stream, List.length_take]
    omega
  retells := .cut id data fin n q
  short := by
    rw [List.forall_mem_singleton]
    exact Nat.le_trans (List.length_take_le n data) hmax
  plain := by
    rw [List.forall_mem_singleton]
    rintro ⟨id', heq⟩
    have hnil : data.take n = [] := (Frame.stream.inj heq).2.1
    have := congrArg List.length hnil
    rw [List.length_take, List.length_nil] at this
    omega
  burden := by
    rw [burden_cons, burden_cons, weight, weight, List.length_drop, List.length_singleton]
    omega

end Packed

/-- Packing makes one datagram. -/
theorem exists_packed (room : Nat) {q : List Frame} (hq : ∀ f ∈ q, f.Queued) :
    ∃ ws, Packed room q (pack room q).1 ws (pack room q).2 := by
  induction q generalizing room with
  | nil => exact ⟨[], .nothing room []⟩
  | cons f rest ih =>
    rw [List.forall_mem_cons] at hq
    -- only data is left out when it says nothing, or cut when it does not fit
    by_cases hstream : ∃ id data fin, f = stream id data fin
    · obtain ⟨id, data, fin, rfl⟩ := hstream
      rw [pack]
      split
      · next hblank =>
        obtain ⟨ws, h⟩ := ih room hq.2
        simp only [Bool.and_eq_true, List.isEmpty_iff, Bool.not_eq_true'] at hblank
        obtain ⟨rfl, rfl⟩ := hblank
        exact ⟨ws, h.skip id⟩
      next hblank =>
      split
      · exact ⟨[], .nothing room _⟩
      next hroom =>
      rw [not_or, Nat.not_lt, not_and_or, not_not] at hroom
      dsimp only
      split
      · next hsize =>
        have hspare : room ≠ streamHeaderLength :=
          hroom.2.resolve_right fun hnil => by simp [hnil] at hsize
        have hroom := hroom.1
        refine ⟨_, .cut fin rest ?_ hsize ?_ ?_⟩ <;> simp only [maxPayload] at * <;> omega
      · next hsize =>
        obtain ⟨ws, h⟩ := ih (room - (stream id data fin).encode.length) hq.2
        obtain ⟨hfits, hshort⟩ := Nat.le_min.1 (Nat.le_min.1 (Nat.not_lt.1 hsize)).2
        refine ⟨_, h.cons ?_ hshort ?_⟩
        · rw [length_encode_stream]
          omega
        · rintro ⟨id', heq⟩
          obtain ⟨-, rfl, rfl⟩ := Frame.stream.inj heq
          exact hblank rfl
    · have hother : pack room (f :: rest) =
          if room < f.encode.length then ([], f :: rest)
          else (f.encode ++ (pack (room - f.encode.length) rest).1,
            (pack (room - f.encode.length) rest).2) := by
        cases f with
        | stream id data fin => exact absurd ⟨id, data, fin, rfl⟩ hstream
        | _ => rfl
      rw [hother]
      split
      · exact ⟨[], .nothing room _⟩
      next hroom =>
      obtain ⟨ws, h⟩ := ih (room - f.encode.length) hq.2
      refine ⟨f :: ws, h.cons (Nat.le_of_not_lt hroom) ?_ ?_⟩
      · cases f with
        | stream id data fin => exact absurd ⟨id, data, fin, rfl⟩ hstream
        | connectionClose errorCode reason => exact hq.1.elim
        | _ => trivial
      · rintro ⟨id, rfl⟩
        exact hstream ⟨id, [], false, rfl⟩

/-- The length of a frame without data or reason. -/
def controlFrameLength : Nat := 17

/-- A datagram is empty only if nothing is left. -/
theorem pack_left_eq_nil {room : Nat} (hroom : controlFrameLength ≤ room) {q : List Frame}
    (hq : ∀ f ∈ q, f.Queued) (h : (pack room q).1 = []) : (pack room q).2 = [] := by
  have hroom : 17 ≤ room := hroom
  induction q with
  | nil => rfl
  | cons f rest ih =>
    rw [List.forall_mem_cons] at hq
    -- every frame but a blank one puts bytes into an empty datagram, as the room is enough
    -- for the longest of them
    cases f with
    | stream id data fin =>
      rw [pack] at h ⊢
      split
      · next hblank =>
        rw [if_pos hblank] at h
        exact ih hq.2 h
      next hblank =>
      rw [if_neg hblank] at h
      split
      · next hfull =>
        simp only [streamHeaderLength] at hfull
        omega
      next hfull =>
      rw [if_neg hfull] at h
      dsimp only at h
      split at h
      · dsimp only at h
        exact absurd h (encode_ne_nil _)
      · exact absurd (List.append_eq_nil_iff.1 h).1 (encode_ne_nil _)
    | resetStream id errorCode =>
      rw [pack, if_neg (by simp [encode]; omega)] at h
      · exact absurd (List.append_eq_nil_iff.1 h).1 (encode_ne_nil _)
      · rintro _ _ _ ⟨⟩
    | stopSending id errorCode =>
      rw [pack, if_neg (by simp [encode]; omega)] at h
      · exact absurd (List.append_eq_nil_iff.1 h).1 (encode_ne_nil _)
      · rintro _ _ _ ⟨⟩
    | connectionClose errorCode reason => exact hq.1.elim

/-! ## Datagrams

A poll packs one datagram after the other. What is handed out and what is left say
together what waited before. -/

/-- The datagrams consist of frames and say, with what is left, what waited
before. -/
structure Handed (q : List Frame) (datagrams : List Bytes) (left : List Frame) : Prop where
  /-- together with what is left, what waited -/
  retells : Retells q (datagrams.flatMap decodeAll ++ left)
  /-- no frame is empty -/
  plain : ∀ f ∈ datagrams.flatMap decodeAll, ¬ f.Blank
  /-- what is left weighs less by a unit for each datagram -/
  burden : Frame.burden left + datagrams.length ≤ Frame.burden q
  /-- every datagram reads back with nothing left over -/
  whole : ∀ d ∈ datagrams, Whole d

namespace Handed

variable {room : Nat} {q mid left ws : List Frame} {packed : Bytes} {datagrams : List Bytes}

theorem nothing (q : List Frame) : Handed q [] q := ⟨.refl q, nofun, Nat.le_refl _, nofun⟩

/-- An empty datagram is not handed out, and none of what says something was
packed. -/
theorem skip (h : Packed room q [] ws left) : Handed q [] left := by
  have hnone : ws = [] := by
    refine List.eq_nil_iff_forall_not_mem.2 fun f hf => encode_ne_nil f ?_
    exact List.flatMap_eq_nil_iff.1 h.bytes.symm f hf
  refine ⟨?_, nofun, Nat.le_trans (Nat.le_add_right _ _) h.burden, nofun⟩
  have hretells := h.retells
  rwa [hnone] at hretells

/-- One more datagram is handed out, packed from what waits. -/
theorem cons (hq : ∀ f ∈ q, f.Queued) (hpacked : packed ≠ []) (h : Packed room q packed ws mid)
    (hrest : Handed mid datagrams left) : Handed q (packed :: datagrams) left := by
  have hread : decodeAll packed = ws.map wire := by
    rw [h.bytes]
    exact decodeAll_flatMap_encode h.short
  have hws : ∀ f ∈ ws, f.Queued := (List.forall_mem_append.1 (h.retells.queued hq)).1
  refine ⟨?_, ?_, ?_, List.forall_mem_cons.2 ⟨?_, hrest.whole⟩⟩
  · rw [List.flatMap_cons, hread, List.append_assoc]
    exact (h.retells.trans (hrest.retells.append ws)).trans ((Retells.wire hws).append_right _)
  · rw [List.flatMap_cons, hread, List.forall_mem_append]
    refine ⟨fun f hf => ?_, hrest.plain⟩
    obtain ⟨f, hmem, rfl⟩ := List.mem_map.1 hf
    exact not_blank_wire (h.plain f hmem)
  · have hpos : 0 < ws.length := by
      refine List.length_pos_iff.2 fun hnil => hpacked ?_
      rw [h.bytes, hnil]
      rfl
    have := h.burden
    have := hrest.burden
    rw [List.length_cons]
    omega
  · rw [h.bytes]
    exact whole_flatMap_encode h.short

end Handed

/-- The engine hands out what waits. -/
theorem writeDatagram_eq {e : ScriptedEngine} (hframe : e.closeFrame = none)
    (hfailure : e.writeFailure = none) (maxLen : Nat) :
    e.writeDatagram maxLen =
      (.ok ⟨(pack maxLen e.outbound).1, (pack maxLen e.outbound).1.length⟩,
        { e with outbound := (pack maxLen e.outbound).2 }) := by
  rw [writeDatagram, hfailure, hframe]

/-- An engine that is not closing and does not fail hands out datagrams that say
what waited. If it is asked and hands out none, nothing is left. -/
theorem pull_outcome {maxLen : Nat} (hmax : controlFrameLength ≤ maxLen) (now : Instant)
    (count : Nat) {e : ScriptedEngine} (hframe : e.closeFrame = none)
    (hfailure : e.writeFailure = none) (hq : ∀ f ∈ e.outbound, f.Queued) :
    ∃ datagrams left, EngineAdapter.pull maxLen now count e =
      (.ok datagrams, { e with outbound := left }) ∧
      Handed e.outbound datagrams left ∧ (0 < count → datagrams = [] → left = []) := by
  induction count generalizing e with
  | zero => exact ⟨[], e.outbound, rfl, .nothing _, fun h => absurd h (Nat.lt_irrefl 0)⟩
  | succ count ih =>
    obtain ⟨ws, hpacked⟩ := exists_packed maxLen hq
    have hwrite : PacketEngine.writeDatagram e maxLen now = _ :=
      writeDatagram_eq hframe hfailure maxLen
    have hleft := pack_left_eq_nil hmax hq
    generalize (pack maxLen e.outbound).1 = packed at hpacked hwrite hleft
    generalize (pack maxLen e.outbound).2 = mid at hpacked hwrite hleft
    rw [EngineAdapter.pull, hwrite]
    dsimp only
    split
    · next hnone =>
      obtain rfl := List.length_eq_zero_iff.1 hnone
      exact ⟨[], mid, rfl, .skip hpacked, fun _ _ => hleft rfl⟩
    next hsome =>
    have hreported : EngineAdapter.overreports maxLen ⟨packed, packed.length⟩ = false := by
      have := hpacked.length
      simp [EngineAdapter.overreports]
      omega
    rw [if_neg (Bool.eq_false_iff.1 hreported)]
    -- the engine goes on with what the first datagram left
    have hmid : ∀ f ∈ mid, f.Queued := (List.forall_mem_append.1 (hpacked.retells.queued hq)).2
    obtain ⟨datagrams, left, hrest, hhanded, -⟩ :=
      ih (e := { e with outbound := mid }) hframe hfailure hmid
    rw [hrest]
    dsimp only
    rw [List.take_length]
    have hne : packed ≠ [] := fun hnil => hsome (List.length_eq_zero_iff.2 hnil)
    exact ⟨packed :: datagrams, left, rfl, hhanded.cons hq hne hpacked, fun _ => nofun⟩

/-- An engine that fails to write hands out nothing, and is then as it was before
it was made to fail. -/
theorem pull_of_writeFailure (maxLen : Nat) (now : Instant) (count : Nat) {e : ScriptedEngine}
    {error : EngineError} (hfailure : e.writeFailure = some error) :
    EngineAdapter.pull maxLen now count e =
      if count = 0 then (.ok [], e)
      else (.error error.toTransport, { e with writeFailure := none }) := by
  cases count with
  | zero => rfl
  | succ count =>
    have hwrite : PacketEngine.writeDatagram e maxLen now =
        (.error error, { e with writeFailure := none }) := by
      change e.writeDatagram maxLen = _
      rw [writeDatagram, hfailure]
    rw [EngineAdapter.pull, hwrite]
    rfl

/-- What an engine that closes answers: nothing, or the closing if it was not
sent. -/
theorem writeDatagram_of_closeFrame {e : ScriptedEngine} {frame : Frame} {w : Written}
    {maxLen : Nat} (hframe : e.closeFrame = some frame) (h : (e.writeDatagram maxLen).1 = .ok w) :
    w.reported = 0 ∨ e.closeSent = false ∧ w = ⟨frame.encode, frame.encode.length⟩ ∧
      (e.writeDatagram maxLen).2 = { e with closeSent := true } := by
  rw [writeDatagram] at h ⊢
  split at h
  · cases h
  rw [hframe] at h ⊢
  dsimp only at h ⊢
  split at h
  · obtain rfl := Except.ok.inj h
    exact .inl rfl
  · next hsent =>
    obtain rfl := Except.ok.inj h
    rw [Bool.or_eq_true, not_or, Bool.not_eq_true] at hsent
    rw [if_neg (by rw [Bool.or_eq_true, not_or, Bool.not_eq_true]; exact hsent)]
    exact .inr ⟨hsent.1, rfl, rfl⟩

/-- All that an engine hands out when it closes is the closing, once. -/
theorem pull_of_closeFrame {maxLen : Nat} (now : Instant) (count : Nat) {e : ScriptedEngine}
    {frame : Frame} (hframe : e.closeFrame = some frame) {datagrams : List Bytes}
    (h : (EngineAdapter.pull maxLen now count e).1 = .ok datagrams) :
    datagrams = [] ∨ e.closeSent = false ∧ datagrams = [frame.encode] := by
  induction count generalizing e datagrams with
  | zero => exact .inl (Except.ok.inj h).symm
  | succ count ih =>
    rw [EngineAdapter.pull] at h
    have hwrite : ∀ w, (PacketEngine.writeDatagram e maxLen now).1 = .ok w →
        w.reported = 0 ∨ e.closeSent = false ∧ w = ⟨frame.encode, frame.encode.length⟩ ∧
          (PacketEngine.writeDatagram e maxLen now).2 = { e with closeSent := true } :=
      fun _ => writeDatagram_of_closeFrame hframe
    generalize PacketEngine.writeDatagram e maxLen now = written at h hwrite
    rcases written with ⟨error | w, e'⟩
    · cases h
    dsimp only at h
    split at h
    · exact .inl (Except.ok.inj h).symm
    next hsome =>
    obtain ⟨hsent, rfl, rfl⟩ := (hwrite w rfl).resolve_left hsome
    split at h
    · cases h
    -- what follows finds the closing sent
    have hrest (datagrams : List Bytes)
        (hr : (EngineAdapter.pull maxLen now count { e with closeSent := true }).1 =
          .ok datagrams) : datagrams = [] := by
      refine (ih (e := { e with closeSent := true }) hframe hr).resolve_right ?_
      rintro ⟨hfirst, -⟩
      cases hfirst
    dsimp only at h
    generalize EngineAdapter.pull maxLen now count { e with closeSent := true } = pulled at h hrest
    rcases pulled with ⟨error | datagrams', e''⟩
    · cases h
    obtain rfl := Except.ok.inj h
    obtain rfl := hrest datagrams' rfl
    rw [List.take_length]
    exact .inr ⟨hsent, rfl⟩

end ScriptedEngine

/-- No datagram is longer than it was allowed to be, whatever the engine. -/
theorem EngineAdapter.length_le_of_pull {ε : Type} [PacketEngine ε] {maxLen : Nat} {now : Instant}
    {count : Nat} {e : ε} {datagrams : List Bytes}
    (h : (pull maxLen now count e).1 = .ok datagrams) : ∀ d ∈ datagrams, d.length ≤ maxLen := by
  induction count generalizing e datagrams with
  | zero =>
    obtain rfl := Except.ok.inj h
    exact List.forall_mem_nil _
  | succ count ih =>
    rw [pull] at h
    generalize PacketEngine.writeDatagram e maxLen now = written at h
    rcases written with ⟨error | w, e'⟩
    · cases h
    dsimp only at h
    split at h
    · obtain rfl := Except.ok.inj h
      exact List.forall_mem_nil _
    split at h
    · cases h
    -- the engine reports no more than there is room for, and the datagram is cut at what it
    -- reported
    next hreported =>
    rw [overreports, Bool.or_eq_true, not_or, decide_eq_true_eq, Nat.not_lt] at hreported
    have hrest (rest : List Bytes) (hr : (pull maxLen now count e').1 = .ok rest) :
        ∀ d ∈ rest, d.length ≤ maxLen := ih hr
    generalize pull maxLen now count e' = pulled at h hrest
    rcases pulled with ⟨error | rest, e''⟩
    · cases h
    obtain rfl := Except.ok.inj h
    refine List.forall_mem_cons.2 ⟨?_, hrest rest rfl⟩
    exact Nat.le_trans (List.length_take_le _ _) hreported.1

end QuicHost
