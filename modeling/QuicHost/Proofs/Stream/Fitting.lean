import QuicHost.Proofs.Stream.Measures
import QuicHost.Stream.Figures

/-!
# Figures that fit a word

Of the sums and differences that the streams of a connection make, three may leave
the range of a word. Acknowledged bytes are added up before the sum is limited to
what was sent. A limit for receiving is what was read with a window on top of it. And
what the peer sent is added to what it sent before, ahead of the question whether it
may.

The first is in the hands of the engine. The others fit as long as the connection
could be granted one more window of a stream (`HasRoom`), and all the rest fit
anyhow (`areWords_figures`).
-/

namespace QuicHost

theorem isWord_natCast {n : Nat} (h : n ≤ maxWord) : IsWord n :=
  ⟨Int.natCast_nonneg n, Int.ofNat_le.2 h⟩

/-- A sum fits if it is no more than a word holds. -/
theorem isWord_add {m n : Nat} (h : m + n ≤ maxWord) : IsWord ((m : Int) + n) :=
  isWord_natCast h

/-- A difference fits if nothing is missing. -/
theorem isWord_sub {m n : Nat} (hle : n ≤ m) (h : m ≤ maxWord) : IsWord ((m : Int) - n) := by
  rw [← Int.ofNat_sub hle]
  exact isWord_natCast (Nat.le_trans (Nat.sub_le m n) h)

/-- Whether all figures fit a word. -/
def AreWords (figures : List Int) : Prop := ∀ x ∈ figures, IsWord x

instance (figures : List Int) : Decidable (AreWords figures) :=
  inferInstanceAs (Decidable (∀ x ∈ figures, IsWord x))

section

variable {x : Int} {xs ys : List Int}

@[simp] theorem areWords_nil : AreWords [] := List.forall_mem_nil _

@[simp] theorem areWords_cons : AreWords (x :: xs) ↔ IsWord x ∧ AreWords xs := List.forall_mem_cons

@[simp] theorem areWords_append : AreWords (xs ++ ys) ↔ AreWords xs ∧ AreWords ys :=
  List.forall_mem_append

end

/-! ## Windows

The figures of the windows themselves. Credit is a difference and never more than the
limit; what is reserved is never more than the credit. -/

namespace SendWindow

variable {w : SendWindow} (hwithin : w.consumed ≤ w.limit) (hlimit : w.limit ≤ maxWord)

include hwithin hlimit

theorem areWords_credit : AreWords w.creditFigures :=
  areWords_cons.2 ⟨isWord_sub hwithin hlimit, areWords_nil⟩

theorem areWords_reserve (want : Nat) : AreWords (w.reserveFigures want) := by
  have hgranted : w.consumed + w.granted want ≤ w.limit := by
    rw [granted, credit]
    omega
  exact areWords_append.2 ⟨areWords_credit hwithin hlimit,
    areWords_cons.2 ⟨isWord_add (Nat.le_trans hgranted hlimit), areWords_nil⟩⟩

end SendWindow

/-- If the limit is the window beyond what was read, reading raises it by as much. -/
theorem RecvWindow.areWords_read {w : RecvWindow} (hlimit : w.limit = w.window + w.consumed)
    {n : Nat} (hroom : w.limit + n ≤ maxWord) : AreWords (w.readFigures n) := by
  have hconsumed : wrap (w.consumed + n) = w.consumed + n := wrap_of_le (by omega)
  have hsum : wrap (w.consumed + n + w.window) = w.consumed + n + w.window :=
    wrap_of_le (by omega)
  rw [readFigures, hconsumed, hsum, areWords_append, areWords_cons, areWords_cons]
  refine ⟨⟨isWord_add (by omega), isWord_add (m := w.consumed + n) (by omega), areWords_nil⟩, ?_⟩
  split
  · next hgrows =>
    refine areWords_cons.2 ⟨isWord_sub (m := w.consumed + n + w.window) ?_ ?_, areWords_nil⟩
    · exact Nat.le_of_lt hgrows
    · omega
  · exact areWords_nil

/-! ## Buffers

The figures of reading, and of cutting a write into chunks. Both run over bytes that are
there, so that they are bounded by how many there are. -/

namespace RecvBuffer

variable {b : RecvBuffer}

/-- What waits is added up to no more than the end of the data. -/
theorem areWords_insert (hnext : b.buffered ≤ b.nextOffset) (hword : b.nextOffset ≤ maxWord)
    {offset : Nat} {data : Bytes} (hstop : offset + data.length ≤ maxWord) (fin : Bool) :
    AreWords (b.insertFigures offset data fin) := by
  rw [insertFigures]
  split
  · exact areWords_nil
  next hinsert =>
  obtain ⟨hoffset, -⟩ := insert_eq_ok hinsert
  split
  · exact areWords_nil
  · refine areWords_cons.2 ⟨isWord_sub hoffset hword,
      areWords_cons.2 ⟨isWord_add ?_, areWords_nil⟩⟩
    rw [List.length_drop]
    omega

/-- The offsets at which a write is cut lie below its length. -/
theorem areWords_split {want : Nat} (hwant : want ≤ maxWord) (taken : Nat) (chunks : List Bytes) :
    AreWords (splitFigures want taken chunks) := by
  induction chunks generalizing taken with
  | nil => exact areWords_nil
  | cons chunk rest ih =>
    rw [splitFigures]
    split
    · next hmissing =>
      exact areWords_cons.2 ⟨isWord_sub (Nat.le_of_lt hmissing) hwant, ih _⟩
    · exact areWords_nil

/-- What is read was buffered, and the buffer has counted no more than a word. -/
theorem areWords_read (hcounts : b.Counts) (hword : b.buffered ≤ maxWord) (maxLen : Nat) :
    AreWords (b.readFigures maxLen) := by
  have hwant : min maxLen b.buffered ≤ maxWord := Nat.le_trans (Nat.min_le_right _ _) hword
  have hread : (b.read maxLen).1.length ≤ b.buffered := by
    rw [(read_eq hcounts maxLen).1, List.length_take, hcounts]
    exact Nat.min_le_right _ _
  rw [readFigures]
  split
  · exact areWords_nil
  refine areWords_append.2 ⟨?_, areWords_cons.2 ⟨isWord_sub hread hword, areWords_nil⟩⟩
  split
  · exact areWords_nil
  · split
    · exact areWords_nil
    · exact areWords_split hwant 0 _

end RecvBuffer

namespace StreamSet

/-! ## What the streams measure

Bounds on the quantities of a measured set of streams, each as it is needed below: what
was sent, what arrived, what waits and how many streams there are. -/

section

variable {s : StreamSet} {id : StreamId} (hs : s.Orderly) (hsolvent : s.view.Solvent)
  (hcapped : s.view.Capped)

include hs hsolvent hcapped

/-- A sending half has not overdrawn its credit, which fits a word, and has sent no
more than the connection. -/
theorem sendHalf_capped {h : SendHalf} (hsend : s.sendHalf? id = some h) :
    h.Solvent ∧ h.window.limit ≤ maxWord ∧ h.window.consumed ≤ s.sendWindow.consumed := by
  obtain ⟨st, hget, hhalf⟩ := sendHalf?_eq_some hsend
  have hview := view_send_of_send hs hget hhalf
  obtain ⟨hwithin, haccepted, hacked⟩ := hsolvent.half hview
  have hle := hcapped.half hview
  exact ⟨⟨hwithin, haccepted, hacked⟩, hle⟩

/-- Waking looks at the credit of the connection and of those that wait. -/
theorem areWords_wake : AreWords s.wakeFigures := by
  rw [wakeFigures]
  refine areWords_append.2
    ⟨SendWindow.areWords_credit hsolvent.within hcapped.connection, ?_⟩
  split
  · exact areWords_nil
  intro x hx
  obtain ⟨id, -, hx⟩ := List.mem_flatMap.1 hx
  rcases hsend : s.sendHalf? id with _ | h
  · rw [hsend] at hx
    cases hx
  · rw [hsend] at hx
    obtain ⟨hsolvent', hlimit, -⟩ := sendHalf_capped hs hsolvent hcapped hsend
    exact SendWindow.areWords_credit hsolvent'.within hlimit x hx

end

section

variable {s s' : StreamSet} {id : StreamId} (hs : s.Measured)

include hs

/-- A live half has overdrawn nothing and sent no more than the connection. -/
theorem Measured.send {h : SendHalf} (hsend : s.sendHalf? id = some h) :
    h.Solvent ∧ h.window.limit ≤ maxWord ∧ h.window.consumed ≤ s.sendWindow.consumed :=
  sendHalf_capped hs.windows.orderly hs.windows.solvent hs.capped hsend

theorem Measured.view_recv {h : RecvHalf} (hrecv : s.recvHalf? id = some h) :
    s.view.recv id = some h := by
  obtain ⟨st, hget, hhalf⟩ := Option.bind_eq_some_iff.1 hrecv
  exact view_recv_of_recv hs.windows.orderly hget hhalf

/-- With room, a receiving half is measured, the peer has not overdrawn its credit, and
the limit leaves room for another window. -/
theorem Measured.half (hroom : s.HasRoom) {h : RecvHalf} (hrecv : s.recvHalf? id = some h) :
    h.Measured (recvWindowFor s.side s.localParams id) ∧
      h.window.consumed ≤ s.recvWindow.consumed ∧ h.window.received ≤ h.window.limit ∧
        h.window.limit + recvWindowFor s.side s.localParams id ≤ maxWord :=
  (hs.recv hroom).half_room hs.windows.bounded hroom (hs.view_recv hrecv)

theorem Measured.credit : AreWords s.sendWindow.creditFigures :=
  SendWindow.areWords_credit hs.windows.solvent.within hs.capped.connection

theorem Measured.halfCredit {h : SendHalf} (hsend : s.sendHalf? id = some h) :
    AreWords h.window.creditFigures := by
  obtain ⟨hsolvent, hlimit, -⟩ := hs.send hsend
  exact SendWindow.areWords_credit hsolvent.within hlimit

/-- No more live streams are counted than were opened. -/
theorem Measured.live_le (d : Direction) :
    s.liveLocal.get d ≤ s.nextLocal.get d ∧ s.liveRemote.get d ≤ s.nextRemote.get d := by
  have hcard (side : Side) (n : Nat)
      (hnext : ∀ id, id.initiator = side → id.direction = d → s.nextIndex id = n) :
      s.liveCount side d ≤ n := by
    rw [hs.census side d, ← Finset.card_range n]
    refine Finset.card_le_card_of_injOn StreamId.index (fun id hid => ?_)
      fun id hid id' hid' heq => ?_
    · obtain ⟨⟨st, hget⟩, hside, hdir⟩ := mem_living_iff.1 hid
      have hused := hs.windows.orderly.used hget
      rw [Used, hnext id hside hdir] at hused
      exact Finset.mem_coe.2 (Finset.mem_range.2 hused)
    · obtain ⟨-, hside, hdir⟩ := mem_living_iff.1 hid
      obtain ⟨-, hside', hdir'⟩ := mem_living_iff.1 hid'
      exact StreamId.ext_parts (hside.trans hside'.symm) (hdir.trans hdir'.symm) heq
  constructor
  · have hlocal := hcard s.side (s.nextLocal.get d) fun id hside hdir => by
      have hlocal : id.IsLocal s.side := hside
      rw [nextIndex, if_pos hlocal, hdir]
    rwa [liveCount, if_pos rfl] at hlocal
  · have hremote := hcard s.side.opposite (s.nextRemote.get d) fun id hside hdir => by
      have hlocal : ¬ id.IsLocal s.side := fun h => s.side.opposite_ne (hside.symm.trans h)
      rw [nextIndex, if_neg hlocal, hdir]
    rwa [liveCount, if_neg s.side.opposite_ne] at hremote

/-! ## Calls

The figures of what the application does. None of it depends on what the peer says. -/

/-- Counting a stream that is opened: there are far fewer identifiers than words. -/
theorem areWords_open (d : Direction) : AreWords (s.openFigures d) := by
  have hnext := hs.windows.orderly.nextLocal_le d
  have hlive := (hs.live_le d).1
  rw [openFigures]
  split
  · exact areWords_nil
  · have hword : s.nextLocal.get d + 1 ≤ maxWord := by
      simp only [maxWord]
      omega
    have hword' := Nat.le_trans (Nat.add_le_add_right hlive 1) hword
    exact areWords_cons.2 ⟨isWord_add hword, areWords_cons.2 ⟨isWord_add hword', areWords_nil⟩⟩

/-- The figures of asking how much can be written. -/
theorem areWords_capacity (id : StreamId) : AreWords (s.capacityFigures id) := by
  rw [capacityFigures]
  split
  · exact areWords_nil
  · next h hwritable =>
    obtain ⟨-, st, hget, hsend⟩ := writableHalf_eq_ok hwritable
    rw [← sendHalf?_of_get? hget] at hsend
    exact areWords_append.2 ⟨hs.halfCredit hsend, hs.credit⟩

/-- What is granted is within the credit of the stream. -/
theorem areWords_write (id : StreamId) (data : Bytes) : AreWords (s.writeFigures id data) := by
  rw [writeFigures]
  split
  · exact areWords_nil
  refine areWords_append.2 ⟨hs.credit, ?_⟩
  split
  · exact areWords_nil
  next h hwritable =>
  obtain ⟨-, st, hget, hsend⟩ := writableHalf_eq_ok hwritable
  rw [← sendHalf?_of_get? hget] at hsend
  obtain ⟨hsolvent, hlimit, -⟩ := hs.send hsend
  have hwithin := hsolvent.within
  have haccepted := hsolvent.accepted
  refine areWords_append.2 ⟨hs.halfCredit hsend, ?_⟩
  split
  · exact areWords_nil
  refine areWords_append.2 ⟨areWords_append.2 ⟨?_, ?_⟩,
    areWords_cons.2 ⟨isWord_add ?_, areWords_nil⟩⟩
  · exact SendWindow.areWords_reserve hwithin hlimit _
  · exact SendWindow.areWords_reserve hs.windows.solvent.within hs.capped.connection _
  · rw [← haccepted, creditFor, SendWindow.credit]
    omega

/-- What waits on a stream is no wider than its window. -/
theorem Measured.waiting_le (hroom : s.HasRoom) {h : RecvHalf}
    (hrecv : s.recvHalf? id = some h) :
    h.buffer.buffered ≤ recvWindowFor s.side s.localParams id := by
  obtain ⟨hmeasured, -, hreceived, -⟩ := hs.half hroom hrecv
  have hwaiting := hmeasured.waiting
  have hlimit := hmeasured.limit
  omega

/-- Giving back up to a window of the stream fits, on the stream and on the
connection. -/
theorem Measured.giveBack (hroom : s.HasRoom) {h : RecvHalf} (hrecv : s.recvHalf? id = some h)
    {n : Nat} (hn : n ≤ recvWindowFor s.side s.localParams id) :
    AreWords (h.window.readFigures n) ∧ AreWords (s.recvWindow.readFigures n) := by
  obtain ⟨hmeasured, -, -, hfits⟩ := hs.half hroom hrecv
  have hall := hs.recv hroom
  have hroom' : s.recvWindow.limit + _ ≤ maxWord := hroom.room id
  have hconnection : s.recvWindow.limit = s.recvWindow.window + s.recvWindow.consumed :=
    hall.limit.trans (by rw [← hall.window]; rfl)
  exact ⟨RecvWindow.areWords_read (by rw [hmeasured.limit, hmeasured.window]) (by omega),
    RecvWindow.areWords_read hconnection (by omega)⟩

/-- The figures of a read. What is granted back is at most one window beyond what was
received, which there is room for. -/
theorem areWords_read (hroom : s.HasRoom) (id : StreamId) (maxLen : Nat) :
    AreWords (s.readFigures id maxLen) := by
  rw [readFigures]
  split
  · exact areWords_nil
  next h hrecv =>
  have hwaiting := hs.waiting_le hroom hrecv
  obtain ⟨hmeasured, -, -, hfits⟩ := hs.half hroom hrecv
  have hword : h.buffer.buffered ≤ maxWord := by omega
  have hcounts := hmeasured.counts
  have hbuffer := RecvBuffer.areWords_read hcounts hword maxLen
  split
  · exact areWords_nil
  split
  · exact hbuffer
  split
  · exact areWords_nil
  · have htaken := h.buffered_take hcounts maxLen
    obtain ⟨hstream, hconnection⟩ := hs.giveBack hroom hrecv
      (n := (h.take maxLen).1.data.length) (by omega)
    exact areWords_append.2 ⟨areWords_append.2 ⟨hbuffer, hstream⟩, hconnection⟩

/-- The figures of stopping, as for a read of all there is. -/
theorem areWords_stop (hroom : s.HasRoom) (id : StreamId) : AreWords (s.stopFigures id) := by
  rw [stopFigures]
  split
  · exact areWords_nil
  next h hrecv =>
  split
  · exact areWords_nil
  · exact areWords_append.2 (hs.giveBack hroom hrecv (hs.waiting_le hroom hrecv))

/-- The figures of asking whether all that was written is acknowledged. -/
theorem areWords_unacked : AreWords s.unackedFigures := by
  intro x hx
  rw [unackedFigures, List.mem_flatMap] at hx
  obtain ⟨st, hst, hx⟩ := hx
  obtain ⟨id, hget⟩ := Table.mem_values_iff.1 hst
  rcases hsend : st.send with _ | h
  · rw [hsend] at hx
    cases hx
  · rw [hsend] at hx
    have hhalf : s.sendHalf? id = some h := by rw [sendHalf?_of_get? hget, hsend]
    obtain ⟨hsolvent, hlimit, -⟩ := hs.send hhalf
    have hwithin := hsolvent.within
    have haccepted := hsolvent.accepted
    revert x
    change AreWords (if h.state = .resetSent then [] else h.buffer.unackedFigures)
    split
    · exact areWords_nil
    · exact areWords_cons.2 ⟨isWord_sub hsolvent.acked (by omega), areWords_nil⟩

/-! ## Reports

The figures of what the peer reports, in the order in which they are worked out. Where the
code checks a sum before it uses it, the check itself is no figure, and what comes after
it is bounded by the check. -/

/-- The figures of opening the peer's streams up to one: indices of identifiers that fit. -/
theorem areWords_ensureOpen (hid : id.Fits) : AreWords (s.ensureOpenFigures id) := by
  have hindex := StreamId.index_lt_of_fits hid
  have hlive := (hs.live_le id.direction).2
  have hword : id.index + 1 ≤ maxWord := by
    simp only [maxWord]
    omega
  rw [ensureOpenFigures]
  dsimp only
  split
  · exact areWords_nil
  next hnew =>
  simp only [Bool.or_eq_true, decide_eq_true_eq, not_or, Nat.not_lt] at hnew
  have hle := hnew.2
  have hcount : ((id.index : Int) - s.nextRemote.get id.direction + 1) =
      (id.index - s.nextRemote.get id.direction + 1 : Nat) := by omega
  have hlive' : IsWord ((s.liveRemote.get id.direction : Int) +
      (id.index - s.nextRemote.get id.direction + 1 : Nat)) := isWord_add (by omega)
  refine areWords_append.2 ⟨areWords_cons.2 ⟨isWord_sub hle (by omega), areWords_cons.2 ⟨?_,
    areWords_cons.2 ⟨hlive', areWords_nil⟩⟩⟩, ?_⟩
  · rw [hcount]
    exact isWord_natCast (by omega)
  · split
    · exact areWords_nil
    · exact areWords_cons.2 ⟨isWord_add hword, areWords_cons.2 ⟨hlive', areWords_nil⟩⟩

/-- A stream grows by no more than its window. -/
theorem Measured.grown_le (hroom : s.HasRoom) {h : RecvHalf} (hrecv : s.recvHalf? id = some h)
    {upTo : Nat} (hle : upTo ≤ h.window.limit) :
    upTo - h.window.consumed ≤ recvWindowFor s.side s.localParams id ∧
      upTo - h.window.received ≤ recvWindowFor s.side s.localParams id := by
  obtain ⟨hmeasured, -⟩ := hs.half hroom hrecv
  have hwaiting := hmeasured.waiting
  have hlimit := hmeasured.limit
  omega

/-- With one more window, what the peer sent fits although it may exceed the limit. -/
theorem Measured.received_add_le (hroom : s.HasRoom) {n : Nat}
    (hn : n ≤ recvWindowFor s.side s.localParams id) : s.recvWindow.received + n ≤ maxWord := by
  have hroom' : s.recvWindow.limit + _ ≤ maxWord := hroom.room id
  have hwithin : s.recvWindow.received ≤ s.recvWindow.limit := hs.windows.bounded.within
  omega

/-- The figures of counting what arrives. Where a limit is exceeded the sum is not made. -/
theorem areWords_count (hroom : s.HasRoom) {h : RecvHalf} (hrecv : s.recvHalf? id = some h)
    (upTo : Nat) : AreWords (s.countFigures h upTo) := by
  obtain ⟨-, -, -, hfits⟩ := hs.half hroom hrecv
  rw [countFigures]
  split
  · exact areWords_nil
  next hgrows =>
  rw [not_or, Nat.not_lt, Nat.not_le] at hgrows
  have hgrown := (hs.grown_le hroom hrecv hgrows.1).2
  exact areWords_cons.2 ⟨isWord_sub (Nat.le_of_lt hgrows.2) (by omega),
    areWords_cons.2 ⟨isWord_add (hs.received_add_le hroom hgrown), areWords_nil⟩⟩

/-- The figures of counting on a stopped stream: what is counted is granted back, which
there is room for. -/
theorem areWords_settle (hroom : s.HasRoom) {h : RecvHalf} (hrecv : s.recvHalf? id = some h)
    (upTo : Nat) : AreWords (s.settleFigures h upTo) := by
  rw [settleFigures]
  split
  · exact areWords_nil
  next hgrows =>
  rw [not_or, Nat.not_lt, Nat.not_le] at hgrows
  have hgrown := (hs.grown_le hroom hrecv hgrows.1).2
  refine areWords_cons.2 ⟨isWord_add (hs.received_add_le hroom hgrown), ?_⟩
  split
  · exact areWords_nil
  · exact areWords_append.2 (hs.giveBack hroom hrecv hgrown)

/-- Opening what the peer has named changes none of the quantities. -/
theorem Measured.named (hid : id.Fits) (hopen : s.ensureOpen id = .ok (some s')) :
    s'.Measured ∧ (s.HasRoom → s'.HasRoom) := by
  have horderly := hs.windows.orderly
  have hopens := opens_of_ensureOpen horderly hid hopen
  have hview := hopens.view
  have hroom' : s'.HasRoom ↔ s.HasRoom := by
    rw [HasRoom, HasRoom, hview, hopens.side, hopens.localParams]
  refine ⟨⟨⟨hopens.orderly, ?_, ?_⟩, hs.census.ensureOpen horderly hid hopen, ?_, fun hroom => ?_⟩,
    hroom'.2⟩
  · rw [hview]
    exact hs.windows.solvent
  · rw [hview]
    exact hs.windows.bounded
  · rw [hview]
    exact hs.capped
  · rw [hview, hopens.side, hopens.localParams]
    exact hs.recv (hroom'.1 hroom)

/-- The figures of a report are those of naming its stream, and those that the live
stream makes of the report. Naming a stream takes no room away. -/
theorem areWords_named (hid : id.Fits) {figures : StreamSet → RecvHalf → List Int}
    (hfigures : ∀ {s' : StreamSet} {h}, s'.Measured → (s.HasRoom → s'.HasRoom) →
      s'.recvHalf? id = some h → AreWords (figures s' h)) :
    AreWords (s.namedFigures id figures) := by
  rw [namedFigures]
  split
  · exact areWords_nil
  refine areWords_append.2 ⟨areWords_ensureOpen hs hid, ?_⟩
  split
  · exact areWords_nil
  · exact areWords_nil
  next s' hopen =>
  obtain ⟨hs', hroom'⟩ := hs.named hid hopen
  rcases hrecv : s'.recvHalf? id with _ | h
  · exact areWords_nil
  · exact hfigures hs' hroom' hrecv

/-- The figures of data for a live stream. -/
theorem areWords_takeData (hroom : s.HasRoom) {h : RecvHalf} (hrecv : s.recvHalf? id = some h)
    (offset : Nat) (data : Bytes) (fin : Bool) :
    AreWords (s.takeDataFigures id offset data fin h) := by
  rw [takeDataFigures]
  split
  · exact areWords_nil
  next hsize =>
  split
  · exact areWords_settle hs hroom hrecv _
  split
  · exact areWords_nil
  next hlive =>
  refine areWords_append.2 ⟨areWords_count hs hroom hrecv _, ?_⟩
  rcases hcount : s.countReceived id h (offset + data.length) with ⟨e | counted, s'⟩
  · exact areWords_nil
  obtain rfl := eq_reach_of_countReceived hcount
  obtain ⟨hmeasured, -, hreceived, hfits⟩ := hs.half hroom hrecv
  have hwaiting := hmeasured.live (Bool.eq_false_iff.2 hlive)
  have hnext := hmeasured.next
  exact RecvBuffer.areWords_insert (Nat.le_trans (Nat.le_add_left _ _) hwaiting) (by omega)
    (Nat.not_lt.1 hsize) fin

/-- The figures of the end of the peer's half: what the peer did not send is granted back as
if it were read. -/
theorem areWords_takeReset (hroom : s.HasRoom) {h : RecvHalf} (hrecv : s.recvHalf? id = some h)
    (finalSize : Nat) : AreWords (s.takeResetFigures id finalSize h) := by
  rw [takeResetFigures]
  split
  · exact areWords_settle hs hroom hrecv _
  split
  · exact areWords_nil
  split
  · exact areWords_nil
  next hplaced =>
  rw [not_or, Nat.not_lt] at hplaced
  obtain ⟨hmeasured, -, -, hfits⟩ := hs.half hroom hrecv
  obtain ⟨st, hget, -⟩ := Option.bind_eq_some_iff.1 hrecv
  obtain ⟨-, hcount, -⟩ := countReceived_outcome hs.windows.orderly hget h finalSize
  refine areWords_append.2 ⟨areWords_count hs hroom hrecv _, ?_⟩
  split
  · exact areWords_nil
  next counted s' heq =>
  rw [heq] at hcount
  obtain rfl := hcount.eq_reach
  have hwindow : s'.recvWindow = s.recvWindow.arrive (finalSize - h.window.received) :=
    hcount.recvWindow_eq
  have hle : finalSize ≤ h.window.limit := hcount.le_limit
  have hwaiting := hmeasured.waiting
  -- the figures of reading do not ask how much was received
  have hback := hs.giveBack hroom hrecv (hs.grown_le hroom hrecv hle).1
  refine areWords_cons.2 ⟨isWord_sub ?_ (by omega), areWords_append.2 ⟨hback.1, ?_⟩⟩
  · exact Nat.le_trans (Nat.le_trans (Nat.le_add_right _ _) hwaiting) hplaced.1
  · rw [hwindow]
    exact hback.2

theorem areWords_data (hroom : s.HasRoom) (hid : id.Fits) (offset : Nat) (data : Bytes)
    (fin : Bool) : AreWords (s.dataFigures id offset data fin) :=
  areWords_named hs hid fun hs' hroom' hrecv =>
    areWords_takeData hs' (hroom' hroom) hrecv offset data fin

/-- The figures of a reset by the peer, opening its stream included. -/
theorem areWords_reset (hroom : s.HasRoom) (hid : id.Fits) (finalSize : Nat) :
    AreWords (s.resetFigures id finalSize) :=
  areWords_named hs hid fun hs' hroom' hrecv =>
    areWords_takeReset hs' (hroom' hroom) hrecv finalSize

/-- The figures of a limit for one stream. -/
theorem areWords_maxStreamData (id : StreamId) {limit : Nat} (hlimit : limit ≤ maxWord) :
    AreWords (s.maxStreamDataFigures id limit) := by
  rw [maxStreamDataFigures]
  split
  · exact areWords_nil
  refine areWords_append.2 ⟨hs.credit, ?_⟩
  split
  · exact areWords_nil
  next h hsend =>
  obtain ⟨hsolvent, hle, -⟩ := hs.send hsend
  split
  · exact areWords_nil
  · exact SendWindow.areWords_credit (Nat.le_trans hsolvent.within (Nat.le_max_left _ _))
      (Nat.max_le.2 ⟨hle, hlimit⟩)

/-- The figures of an acknowledgement. This is the one sum that needs a bound on what the
report says. -/
theorem areWords_acked (id : StreamId) {n : Nat} (hn : n + s.sendWindow.consumed ≤ maxWord) :
    AreWords (s.ackedFigures id n) := by
  rw [ackedFigures]
  split
  · exact areWords_nil
  rcases hsend : s.sendHalf? id with _ | h
  · exact areWords_nil
  · obtain ⟨hsolvent, -, hsent⟩ := hs.send hsend
    have haccepted := hsolvent.accepted
    have hacked := hsolvent.acked
    exact areWords_cons.2 ⟨isWord_add (by omega), areWords_nil⟩

/-- The figures of a request to stop are those of opening its stream. -/
theorem areWords_peerStop (hid : id.Fits) : AreWords (s.peerStopFigures id) :=
  areWords_named hs hid fun _ _ _ => areWords_nil

/-- The figures of a limit for the connection: each parked stream is asked for its credit. -/
theorem areWords_maxData {limit : Nat} (hlimit : limit ≤ maxWord) :
    AreWords (s.maxDataFigures limit) := by
  have hop : (Operation.maxData limit).Fits := trivial
  have hraised : (s.onMaxData limit).Measured := measured_perform hs hop hlimit
  rw [maxDataFigures]
  split
  · exact areWords_nil
  next hnew =>
  -- waking marks halves, which the view does not show
  have hview := view_wakeParked { s with sendWindow := s.sendWindow.extend limit }
  rw [onMaxData, if_neg hnew] at hraised
  have horderly := (keeps_sendWindow s (s.sendWindow.extend limit)).orderly hs.windows.orderly
  have hsolvent := hraised.windows.solvent
  have hcapped := hraised.capped
  rw [hview] at hsolvent hcapped
  exact areWords_wake horderly hsolvent hcapped

/-- The figures of the completed handshake. -/
theorem areWords_handshake {peer : TransportParameters} (hpeer : peer.LimitsFit) :
    AreWords (s.handshakeFigures peer) := by
  have hop : (Operation.handshakeCompleted peer).Fits := trivial
  have hraised : (s.onHandshakeCompleted peer).Measured := measured_perform hs hop hpeer
  rw [handshakeFigures]
  split
  · exact areWords_nil
  next hfrozen =>
  obtain ⟨-, hview⟩ := keeps_onHandshakeCompleted (Bool.eq_false_iff.2 hfrozen) peer
  have hsolvent := hraised.windows.solvent
  have hcapped := hraised.capped
  rw [hview] at hsolvent hcapped
  exact areWords_wake (orderly_raise hs.windows.orderly peer) hsolvent hcapped

end

/-! ## All operations

One case for each operation, with the assumption that it needs: room where something is
granted, and a bound on acknowledgements. -/

/-- The figures of an operation. When everything stops, it is asked whether all that was
written is acknowledged. -/
def Operation.figures (s : StreamSet) : Operation → List Int
  | .openStream d => s.openFigures d
  | .write id data _ => s.writeFigures id data
  | .read id maxLen => s.readFigures id maxLen
  | .stopSending id => s.stopFigures id
  | .handshakeCompleted peer => s.handshakeFigures peer
  | .streamData id offset data fin => s.dataFigures id offset data fin
  | .streamReset id _ finalSize => s.resetFigures id finalSize
  | .peerStop id _ => s.peerStopFigures id
  | .maxStreamData id limit => s.maxStreamDataFigures id limit
  | .maxData limit => s.maxDataFigures limit
  | .streamAcked id n => s.ackedFigures id n
  | .freeze => s.unackedFigures
  | .resetStream _ => []
  | .maxStreams _ _ => []
  | .takeEvents => []

/-- Every figure of an operation fits a word, if the connection has room for what
alters an offer, and what is said to be acknowledged fits on top of all that was sent. -/
theorem areWords_figures {s : StreamSet} (hs : s.Measured) {op : Operation} (hop : op.Fits)
    (hlimits : op.LimitsFit) (hroom : op.spares = false → s.HasRoom)
    (hacked : ∀ id n, op = .streamAcked id n → n + s.sendWindow.consumed ≤ maxWord) :
    AreWords (op.figures s) := by
  cases op with
  | openStream d => exact areWords_open hs d
  | write id data fin => exact areWords_write hs id data
  | read id maxLen => exact areWords_read hs (hroom rfl) id maxLen
  | resetStream id => exact areWords_nil
  | stopSending id => exact areWords_stop hs (hroom rfl) id
  | handshakeCompleted peer => exact areWords_handshake hs hlimits
  | streamData id offset data fin => exact areWords_data hs (hroom rfl) hop offset data fin
  | streamReset id errorCode finalSize => exact areWords_reset hs (hroom rfl) hop finalSize
  | peerStop id errorCode => exact areWords_peerStop hs hop
  | maxStreamData id limit => exact areWords_maxStreamData hs id hlimits
  | maxData limit => exact areWords_maxData hs hlimits
  | maxStreams d n => exact areWords_nil
  | streamAcked id n => exact areWords_acked hs id (hacked id n rfl)
  | takeEvents => exact areWords_nil
  | freeze => exact areWords_unacked hs

end StreamSet

end QuicHost
