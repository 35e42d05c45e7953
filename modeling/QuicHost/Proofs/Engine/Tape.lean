import Mathlib.Data.List.ReduceOption
import QuicHost.Engine.Frame

/-!
# Tapes

A stream cut into frames can be cut in many ways. Its tape is what all of them
have in common: the bytes one after the other, and behind them the end of the
stream where it was announced. Cutting data somewhere else does not change the
tape, and frames whose tape is that of some bytes with an end carry these bytes
and announce the end once, in the last frame (`carried_eq_of_tape`).
-/

namespace QuicHost

/-- What is said on a stream: bytes, and `none` for its end. -/
abbrev Tape := List (Option UInt8)

namespace Tape

/-- Bytes, with the end behind them if `fin`. -/
def ofData (data : Bytes) (fin : Bool) : Tape := data.map some ++ if fin then [none] else []

@[simp] theorem ofData_nil_false : ofData [] false = [] := rfl

theorem ofData_append (front rest : Bytes) (fin : Bool) :
    ofData (front ++ rest) fin = ofData front false ++ ofData rest fin := by
  simp [ofData]

@[simp] theorem reduceOption_ofData (data : Bytes) (fin : Bool) :
    (ofData data fin).reduceOption = data := by
  cases fin <;> simp [ofData, List.reduceOption]

/-- Data stands in front of a tape of data: either the end follows it and
nothing else, or the rest of the data does. -/
theorem ofData_append_eq {front all : Bytes} {fin fin' : Bool} {rest : Tape}
    (h : ofData front fin ++ rest = ofData all fin') :
    (fin = true ∧ fin' = true ∧ rest = []) ∨ (fin = false ∧ ∃ more, rest = ofData more fin') := by
  induction front generalizing all with
  | nil =>
    cases fin with
    | false => exact .inr ⟨rfl, all, h⟩
    | true =>
      -- an end stands in front, so there are no bytes
      cases all with
      | cons byte all => simp [ofData] at h
      | nil =>
        cases fin' with
        | false => simp [ofData] at h
        | true => exact .inl ⟨rfl, rfl, by simpa [ofData] using h⟩
  | cons byte front ih =>
    cases all with
    | nil => cases fin' <;> simp [ofData] at h
    | cons byte' all =>
      simp only [ofData, List.map_cons, List.cons_append, List.cons.injEq] at h
      exact ih h.2

/-- The end is not among data without an end. -/
theorem none_not_mem_ofData (data : Bytes) : none ∉ ofData data false := by
  simp [ofData]

end Tape

namespace Frame

/-- What a frame carries of a stream: data, and whether the stream ends behind
it. -/
def dataOf? (id : StreamId) : Frame → Option (Bytes × Bool)
  | stream id' data fin => if id' = id then some (data, fin) else none
  | _ => none

/-- What frames carry of a stream. -/
def carried (id : StreamId) (fs : List Frame) : List (Bytes × Bool) := fs.filterMap (dataOf? id)

/-- The bytes that frames carry of a stream. -/
def payload (id : StreamId) (fs : List Frame) : Bytes := (carried id fs).flatMap Prod.fst

/-- The tape of a stream in frames. -/
def tape (id : StreamId) (fs : List Frame) : Tape :=
  (carried id fs).flatMap fun part => Tape.ofData part.1 part.2

@[simp] theorem carried_append (id : StreamId) (fs gs : List Frame) :
    carried id (fs ++ gs) = carried id fs ++ carried id gs := List.filterMap_append

@[simp] theorem tape_nil (id : StreamId) : tape id [] = [] := rfl

@[simp] theorem tape_append (id : StreamId) (fs gs : List Frame) :
    tape id (fs ++ gs) = tape id fs ++ tape id gs := by
  rw [tape, carried_append, List.flatMap_append]
  rfl

theorem tape_cons (id : StreamId) (f : Frame) (fs : List Frame) :
    tape id (f :: fs) = tape id [f] ++ tape id fs :=
  tape_append id [f] fs

theorem tape_stream (id id' : StreamId) (data : Bytes) (fin : Bool) :
    tape id [stream id' data fin] = if id' = id then Tape.ofData data fin else [] := by
  by_cases h : id' = id <;> simp [tape, carried, dataOf?, h]

/-- The bytes on the tape are the bytes that are carried. -/
theorem reduceOption_tape (id : StreamId) (fs : List Frame) :
    (tape id fs).reduceOption = payload id fs := by
  rw [tape, payload]
  induction carried id fs with
  | nil => rfl
  | cons part rest ih =>
    rw [List.flatMap_cons, List.flatMap_cons, List.reduceOption_append, ih,
      Tape.reduceOption_ofData]

theorem payload_of_tape {id : StreamId} {fs : List Frame} {data : Bytes} {fin : Bool}
    (h : tape id fs = Tape.ofData data fin) : payload id fs = data := by
  rw [← reduceOption_tape, h, Tape.reduceOption_ofData]

theorem payload_prefix_of_tape {id : StreamId} {fs : List Frame} {data : Bytes} {fin : Bool}
    (h : tape id fs <+: Tape.ofData data fin) : payload id fs <+: data := by
  have hbytes : (tape id fs).reduceOption <+: (Tape.ofData data fin).reduceOption := h.filterMap _
  rwa [reduceOption_tape, Tape.reduceOption_ofData] at hbytes

/-- Data of a stream that says nothing. -/
def Blank (f : Frame) : Prop := ∃ id, f = stream id [] false

/-- What frames carry of a stream whose tape is `data` without an end: no frame
announces the end. -/
theorem carried_of_tape_eq {id : StreamId} {fs : List Frame} {data : Bytes}
    (h : tape id fs = Tape.ofData data false) : ∀ part ∈ carried id fs, part.2 = false := by
  intro part hpart
  by_contra hfin
  have hend : none ∈ Tape.ofData part.1 part.2 := by
    rw [eq_true_of_ne_false hfin]
    simp [Tape.ofData]
  have hmem : none ∈ tape id fs := List.mem_flatMap.2 ⟨part, hpart, hend⟩
  rw [h] at hmem
  exact Tape.none_not_mem_ofData data hmem

/-- The end is on the last of the parts, once, if none of them is empty. -/
theorem parts_eq_of_tape {parts : List (Bytes × Bool)}
    (hblank : ∀ part ∈ parts, part ≠ ([], false)) {data : Bytes}
    (h : (parts.flatMap fun part => Tape.ofData part.1 part.2) = Tape.ofData data true) :
    ∃ before last, parts = before ++ [(last, true)] ∧ ∀ part ∈ before, part.2 = false := by
  induction parts generalizing data with
  | nil => simp [Tape.ofData] at h
  | cons part rest ih =>
    rw [List.flatMap_cons] at h
    rw [List.forall_mem_cons] at hblank
    rcases Tape.ofData_append_eq h with ⟨hfin, -, hrest⟩ | ⟨hfin, more, hrest⟩
    · -- the end was announced, and only blank frames could follow
      have hnone : rest = [] := by
        refine List.eq_nil_iff_forall_not_mem.2 fun part' hpart' => hblank.2 part' hpart' ?_
        have hempty := List.flatMap_eq_nil_iff.1 hrest part' hpart'
        obtain ⟨data', fin'⟩ := part'
        cases fin' <;> simp_all [Tape.ofData]
      obtain ⟨last, fin⟩ := part
      obtain rfl : fin = true := hfin
      exact ⟨[], last, by rw [hnone]; rfl, nofun⟩
    · obtain ⟨before, last, hparts, hbefore⟩ := ih hblank.2 hrest
      exact ⟨part :: before, last, by rw [hparts]; rfl, List.forall_mem_cons.2 ⟨hfin, hbefore⟩⟩

/-- What frames carry of a stream whose tape is `data` with an end: the last
frame announces the end, and no other does. -/
theorem carried_eq_of_tape {id : StreamId} {fs : List Frame} (hblank : ∀ f ∈ fs, ¬ f.Blank)
    {data : Bytes} (h : tape id fs = Tape.ofData data true) :
    ∃ before last, carried id fs = before ++ [(last, true)] ∧ ∀ part ∈ before, part.2 = false := by
  refine parts_eq_of_tape (fun part hpart => ?_) h
  obtain ⟨f, hf, hdata⟩ := List.mem_filterMap.1 hpart
  rintro rfl
  cases f with
  | stream id' data' fin' =>
    rw [dataOf?] at hdata
    split at hdata
    · simp only [Option.some.injEq, Prod.mk.injEq] at hdata
      obtain ⟨rfl, rfl⟩ := hdata
      exact hblank _ hf ⟨id', rfl⟩
    · cases hdata
  | _ => cases hdata

end Frame

end QuicHost
