import Wiznet.RxStream
import Wiznet.TxStream
import Wiznet.RingEnds

/-! # A connection from end to end

The application reads and writes on a TCP handle a step at a time, while the
interrupts service the driver, the peer sends and closes, frames fail, and the
other handles are used. No byte is lost, repeated or moved on either way. -/

namespace Wiznet
open Resumption Resumption.Code SpscRing LiveChip

variable {w L size : Nat} {P : Type} {i : Fin 8}

/-! ## The two ends -/

section Ends

variable {r r' : SpscRing w}

/-- Bytes that were read are no longer in the ring. -/
theorem bytesRead_fin {done : List (Finished (SpscRing w) ConsumerCall (List UInt8))}
    {f : Finished (SpscRing w) ConsumerCall (List UInt8)} (he : Even r)
    (hfin : consumer.fin f.request f.start f.answer r r') :
    Even r' ∧ bytesRead (done ++ [f]) ++ contents r' = bytesRead done ++ contents r ∧
      r.room ≤ r'.room := by
  obtain ⟨request, start, bs⟩ := f
  obtain ⟨rfl, hbs, -⟩ := hfin
  cases request with
  | peek n =>
    refine ⟨he, ?_, le_rfl⟩
    simp [bytesRead, ConsumerCall.after]
  | read n =>
    have hlen := hbs.length_le
    dsimp only at hlen
    rw [length_contents] at hlen
    have hfront : bs ++ (contents r).drop bs.length = contents r := by
      obtain ⟨rest, hrest⟩ := hbs
      dsimp only at hrest
      rw [← hrest, List.drop_left]
    refine ⟨he.popped hlen, ?_, ?_⟩
    · have hmore : bytesRead (done ++ [⟨.read n, start, bs⟩]) = bytesRead done ++ bs := by
        simp [bytesRead]
      rw [ConsumerCall.after, contents_popped he.sound hlen, hmore, List.append_assoc, hfront]
    · simp only [ConsumerCall.after, room, popped]
      rw [toNat_sub_advance hlen]
      exact Nat.sub_le_sub_left (Nat.sub_le ..) _

/-- Bytes that were written are in the ring. -/
theorem bytesWritten_fin {done : List (Finished (SpscRing w) (List UInt8) Nat)}
    {f : Finished (SpscRing w) (List UInt8) Nat} (he : Even r)
    (hfin : producer.fin f.request f.start f.answer r r') :
    Even r' ∧ bytesWritten (done ++ [f]) = bytesWritten done ++ f.request.take f.answer ∧
      contents r' = contents r ++ f.request.take f.answer := by
  obtain ⟨rfl, hcells, hroom, -⟩ := hfin
  obtain ⟨hgrown, heven⟩ := contents_published he hcells hroom
  exact ⟨heven, by simp [bytesWritten], hgrown⟩

theorem LiveChip.TxOut.append {acc queue : List UInt8} {c : LiveChip size} (h : TxOut i acc queue c)
    (bs : List UInt8) : TxOut i (acc ++ bs) (queue ++ bs) c := by
  obtain ⟨left, rfl, hleft⟩ := h
  exact ⟨left, List.append_assoc .., hleft⟩

theorem LiveChip.TxFlight.append {acc queue : List UInt8} {kind : BulkKind} {pointer : UInt16}
    {len : Nat} {txn : Transaction L (LiveChip size)} (h : TxFlight i acc queue kind pointer len txn)
    (bs : List UInt8) : TxFlight i (acc ++ bs) (queue ++ bs) kind pointer len txn := by
  cases kind with
  | transmit =>
    obtain ⟨left, payload, rfl, hlen, hsure⟩ := h
    exact ⟨left, payload, List.append_assoc .., hlen, hsure⟩
  | receive => exact TxOut.append h bs
  | receiveDatagram => exact TxOut.append h bs

theorem LiveChip.RxFlight.room {off : List UInt8} {n m : Nat} {kind : BulkKind} {pointer : UInt16}
    {len : Nat} {txn : Transaction L (LiveChip size)} (h : RxFlight i off n kind pointer len txn)
    (hroom : n ≤ m) : RxFlight i off m kind pointer len txn := by
  cases kind with
  | receive => exact ⟨h.1, h.2.trans hroom⟩
  | receiveDatagram => exact h.elim
  | transmit => exact h

/-- The application reads; `base` was received before. -/
def rxEnd (hs : FifoSize size) (hL : 67 ≤ L) (i : Fin 8) (base : List UInt8) :
    RingEnd w L size i ConsumerCall (List UInt8) (List UInt8) where
  ring := SocketRings.rxLens
  code := ConsumerCall.run
  protocol := .tcp
  sound := Even
  calls ret t r := ret = base ++ bytesRead t.done ∧ Even r ∧ consumer.Kept t r
  rely r ret r' ret' := ret' = ret ∧ consumer.rely r r'
  rest _ ret r := RxRest i (ret ++ contents r)
  flight _ ret op r := RxFlight i (ret ++ contents r) r.room op.kind op.pointer op.len
  lane ret _ he := rxTcp hs hL i ret he
  lane_protocol _ _ _ := rfl
  lane_rest _ _ _ _ _ _ := ⟨fun h => ⟨_, ⟨rfl, h.1⟩, h.2⟩, fun ⟨_, ⟨rfl, h⟩, h'⟩ => ⟨h, h'⟩⟩
  lane_flight _ _ _ _ _ _ _ := ⟨fun h => ⟨_, ⟨rfl, h.1⟩, h.2⟩, fun ⟨_, ⟨rfl, h⟩, h'⟩ => ⟨h, h'⟩⟩
  steady _ := ⟨fun _ _ _ h => h, fun _ _ _ _ h => h⟩
  rely_refl r _ := ⟨rfl, consumer.rely_refl r⟩
  kept h := h.2.1
  relied := by
    rintro ret _ t r r' ⟨hret, he, hkept⟩ ⟨rfl, hrely⟩
    exact ⟨hret, hrely.2.2.2 he, hkept.relied hrely⟩
  begun := by
    rintro ret t r ⟨hret, he, -⟩ - request
    exact ⟨hret, he, .begin (by rw [ConsumerCall.run_eq]; exact ⟨_, _, rfl⟩) (consumer_run he request)⟩
  stepped := by
    rintro ret t r ⟨hret, he, hkept⟩
    rcases hkept.step with heq | ⟨hmid, ⟨a, ha⟩, hkept'⟩ | ⟨f, hfin, hend⟩
    · rw [heq]
      exact ⟨ret, ⟨hret, he, hkept⟩, fun _ _ h => h, fun _ _ _ h => h⟩
    · have hsame : (t.step r).2 = r := hmid
      rw [hsame] at hkept' ⊢
      rw [ha] at hkept' ⊢
      exact ⟨ret, ⟨hret, he, hkept'⟩, fun _ _ h => h, fun _ _ _ h => h⟩
    · obtain ⟨heven, hsame, hroom⟩ := bytesRead_fin he hfin
      have hpast : base ++ bytesRead (t.done ++ [f]) ++ contents (t.step r).2 = ret ++ contents r := by
        rw [hret, List.append_assoc, hsame, ← List.append_assoc]
      rw [hend]
      refine ⟨_, ⟨rfl, heven, .idle rfl⟩, fun _ c h => ?_, fun _ op txn h => ?_⟩ <;>
        dsimp only <;> rw [hpast]
      · exact h
      · exact h.room hroom

/-- The application writes; `base` was sent before. -/
def txEnd (hs : FifoSize size) (hL : 67 ≤ L) (i : Fin 8) (base : List UInt8) :
    RingEnd w L size i (List UInt8) Nat (List UInt8) where
  ring := SocketRings.txLens
  code := SpscRing.write
  protocol := .tcp
  sound := Even
  calls acc t r := acc = base ++ bytesWritten t.done ∧ Even r ∧ producer.Kept t r
  rely r acc r' acc' := acc' = acc ∧ producer.rely r r'
  rest _ acc r := TxOut i acc (contents r)
  flight _ acc op r := TxFlight i acc (contents r) op.kind op.pointer op.len
  lane acc _ he := txTcp hs hL i acc he
  lane_protocol _ _ _ := rfl
  lane_rest _ _ _ _ _ _ := ⟨fun h => ⟨_, ⟨rfl, h.1⟩, h.2⟩, fun ⟨_, ⟨rfl, h⟩, h'⟩ => ⟨h, h'⟩⟩
  lane_flight _ _ _ _ _ _ _ := ⟨fun h => ⟨_, ⟨rfl, h.1⟩, h.2⟩, fun ⟨_, ⟨rfl, h⟩, h'⟩ => ⟨h, h'⟩⟩
  steady _ := ⟨fun _ _ _ h => h, fun _ _ _ _ h => h⟩
  rely_refl r _ := ⟨rfl, producer.rely_refl r⟩
  kept h := h.2.1
  relied := by
    rintro acc _ t r _ ⟨hacc, he, hkept⟩ ⟨rfl, hrely⟩
    have hkept' := hkept.relied hrely
    obtain ⟨n, hn, rfl⟩ := hrely
    exact ⟨hacc, he.popped hn, hkept'⟩
  begun := by
    rintro acc t r ⟨hacc, he, -⟩ - src
    exact ⟨hacc, he, .begin ⟨_, _, rfl⟩ (producer_write he src)⟩
  stepped := by
    rintro acc t r ⟨hacc, he, hkept⟩
    rcases hkept.step with heq | ⟨⟨cells, hmid, hcells⟩, ⟨a, ha⟩, hkept'⟩ | ⟨f, hfin, hend⟩
    · rw [heq]
      exact ⟨acc, ⟨hacc, he, hkept⟩, fun _ _ h => h, fun _ _ _ h => h⟩
    · rw [hmid] at hkept' ⊢
      rw [ha] at hkept' ⊢
      rw [contents_copied he hcells]
      exact ⟨acc, ⟨hacc, ⟨he.dvd, he.room⟩, hkept'⟩, fun _ _ h => h, fun _ _ _ h => h⟩
    · obtain ⟨heven, hmore, hgrown⟩ := bytesWritten_fin he hfin
      rw [hend, hgrown]
      refine ⟨acc ++ f.request.take f.answer, ⟨?_, heven, .idle rfl⟩, fun _ c h => h.append _,
        fun _ op txn h => h.append _⟩
      rw [hacc, hmore, List.append_assoc]

end Ends

/-! ## Runs -/

namespace W6100

variable [OutputPin P]

/-- An open of a TCP socket in slot `i`, where the chip's buffers of the socket are
empty. -/
structure OpensStream (i : Fin 8) (s : W6100 w L (LiveChip size) P) (c : Call)
    (c₀ : LiveChip size) : Prop extends OpensSocket i .tcp s c c₀ where
  rx : (c₀.chip.sockets i).rx.used = 0
  tx : (c₀.chip.sockets i).tx.used = 0

/-- Runs from where a TCP socket was opened in slot `i`, the chip standing at
`c₀`, to where it is re-armed or dropped. A `peek` may stand where a `read` does. -/
abbrev StreamRun (i : Fin 8) (c₀ : LiveChip size) : W6100 w L (LiveChip size) P →
    Thread (SpscRing w) ConsumerCall (List UInt8) → Thread (SpscRing w) (List UInt8) Nat → Prop :=
  SocketRun i ConsumerCall.run SpscRing.write fun s' => ∃ s c, OpensStream i s c c₀ ∧ s' = s.apply c

variable {c₀ : LiveChip size} {s : W6100 w L (LiveChip size) P}
  {reader : Thread (SpscRing w) ConsumerCall (List UInt8)}
  {writer : Thread (SpscRing w) (List UInt8) Nat}

theorem StreamRun.opened {c : Call} (h : OpensStream i s c c₀) :
    StreamRun i c₀ (s.apply c) .idle .idle := SocketRun.opened ⟨_, _, h, rfl⟩

theorem settled_of_opensStream (s' : W6100 w L (LiveChip size) P)
    (h : ∃ s c, OpensStream i s c c₀ ∧ s' = s.apply c) : Settled s' := by
  obtain ⟨s, c, hopens, rfl⟩ := h
  exact hopens.settled

/-- The reads of a run. -/
theorem StreamRun.reads (hs : FifoSize size) (hL : 67 ≤ L) (h : StreamRun i c₀ s reader writer)
    (hsure : Sure (MovesRx i) c₀) : (rxEnd hs hL i (c₀.received i)).Holds s reader := by
  refine SocketRun.reads h hL settled_of_opensStream _ rfl rfl ?_
  rintro _ ⟨s, c, hopens, rfl⟩
  refine hopens.toOpensSocket.holds (.inl rfl) (c₀.received i) fun r _ heven hnil _ => ?_
  refine ⟨⟨(List.append_nil _).symm, heven, .idle rfl⟩, fun _ _ _ _ => ?_⟩
  have hunread : c₀.unread i = [] := by
    refine List.eq_nil_of_length_eq_zero (unread_length.trans ?_)
    rw [hopens.rx]
    rfl
  refine ⟨_, hsure, rfl, ?_, ?_, List.nil_prefix⟩
  · rw [hopens.rx]
    exact Nat.zero_le _
  · rw [hunread, hnil]
    simp

/-- The writes of a run. -/
theorem StreamRun.writes (hs : FifoSize size) (hL : 67 ≤ L) (h : StreamRun i c₀ s reader writer)
    (hsure : Sure (MovesTx i) c₀) : (txEnd hs hL i (c₀.chip.sent i)).Holds s writer := by
  refine SocketRun.writes h hL settled_of_opensStream _ rfl rfl ?_
  rintro _ ⟨s, c, hopens, rfl⟩
  refine hopens.toOpensSocket.holds (.inr rfl) (c₀.chip.sent i) fun r _ heven hnil _ => ?_
  refine ⟨⟨(List.append_nil _).symm, heven, .idle rfl⟩, fun _ _ _ _ => ?_⟩
  have hstored : (c₀.chip.sockets i).tx.stored size = [] := by
    refine List.eq_nil_of_length_eq_zero ((ChipBuffer.stored_length ..).trans ?_)
    rw [hopens.tx]
    rfl
  refine ⟨c₀.chip.sent i, ?_, _, hsure, ?_, ?_, rfl, rfl⟩
  · rw [hnil, List.append_nil]
  · rw [hstored, List.append_nil]
  · rw [hopens.tx]
    exact Nat.zero_le _

/-- What a lane says that looks at no ring. -/
theorem StreamRun.holds {l : Lane w L size i} (hL : 67 ≤ L) (h : StreamRun i c₀ s reader writer)
    (hp : l.protocol = .tcp) (hl : l.Steady)
    (hopen : ∀ (s : W6100 w L (LiveChip size) P) (c : Call), OpensStream i s c c₀ →
      ∀ state rings, l.rest state rings c₀)
    (hrest : ∀ st x x' c, l.rest st x c → l.rest st x' c)
    (hflight : ∀ st op x x' txn, l.flight st op x txn → l.flight st op x' txn) :
    l.Holds s.bulk.value s.view := by
  have hrings {s : W6100 w L (LiveChip size) P} (h : l.Holds s.bulk.value s.view)
      (x : SocketRings w) : l.Holds ((ringsLens i).set x s).bulk.value
        ((ringsLens i).set x s).view := by
    rw [view_setRings]
    exact h.setRings rfl (fun c => hrest _ _ _ c) fun op => hflight _ op _ _
  induction h with
  | opened h =>
    obtain ⟨s, c, hopens, rfl⟩ := h
    obtain ⟨live, hrun⟩ := hopens.reached
    obtain ⟨state, rx, tx, hclaim, -⟩ := hopens.rings
    exact Lane.Holds.opened hrun hclaim (hp ▸ hopens.opened) hopens.chip (hopen _ _ hopens _ _)
  | beside h hb ih => exact ih.beside hl hL (h.settled settled_of_opensStream) hb
  | beginRead _ _ _ ih | beginWrite _ _ _ ih => exact ih
  | stepRead _ ih | stepWrite _ ih => exact hrings ih _

/-- Nothing that has gone out comes back. -/
theorem StreamRun.sent_grown (hL : 67 ≤ L) (h : StreamRun i c₀ s reader writer)
    {c : LiveChip size} (hdev : s.device.value.transport.dev? = some c) :
    ∃ sent, c.chip.sent i = c₀.chip.sent i ++ sent := by
  have hgrown : (Lane.passing (L := L) (passive_sentGrown i (c₀.chip.sent i)) hL i).Holds
      s.bulk.value s.view :=
    h.holds hL rfl (fun _ _ _ => ⟨fun _ _ h => h, fun _ _ _ h => h⟩)
      (fun _ _ _ _ _ => List.prefix_rfl) (fun _ _ _ _ h => h) fun _ _ _ _ _ h => h
  obtain ⟨c', hdev', hc'⟩ := hgrown.onChip
  obtain rfl : c = c' := Option.some.inj (hdev.symm.trans hdev')
  obtain ⟨sent, hsent⟩ : c₀.chip.sent i <+: c.chip.sent i := by
    rcases hc' with ⟨hrest, -⟩ | ⟨op, txn, -, -, rfl, hrest⟩ <;> exact hrest
  exact ⟨sent, hsent.symm⟩

/-! ## What they come to -/

omit [OutputPin P] in
/-- Where the bytes are that came in. -/
theorem received_of_reads {hs : FifoSize size} {hL : 67 ≤ L} {base : List UInt8}
    (h : (rxEnd hs hL i base).Holds s reader) :
    ∃ c, s.device.value.transport.dev? = some c ∧
      c.received i = base ++ bytesRead reader.done ++ contents ((readRing i).get s) ++
        c.unread i := by
  obtain ⟨c, ret, hdev, ⟨hret, -⟩, hc⟩ := h.onChip
  refine ⟨c, hdev, ?_⟩
  rw [← hret]
  rcases hc with ⟨⟨rd, hlane⟩, -⟩ | ⟨op, txn, -, -, rfl, hflight⟩
  · exact hlane.2.received
  · change RxFlight i _ _ op.kind op.pointer op.len txn at hflight
    cases hkind : op.kind with
    | receive =>
      rw [hkind] at hflight
      exact hflight.1.2.received
    | receiveDatagram =>
      rw [hkind] at hflight
      exact hflight.elim
    | transmit =>
      rw [hkind] at hflight
      obtain ⟨rd, hlane⟩ := hflight
      exact hlane.2.received

omit [OutputPin P] in
/-- Where the bytes are that were accepted. -/
theorem accepted_of_writes {hs : FifoSize size} {hL : 67 ≤ L} {base : List UInt8}
    (h : (txEnd hs hL i base).Holds s writer) :
    ∃ c n, s.device.value.transport.dev? = some c ∧
      base ++ bytesWritten writer.done = c.chip.sent i ++
        (c.chip.sockets i).tx.stored size ++ (c.chip.sockets i).tx.staged size n ++
        contents ((writeRing i).get s) ∧
      ((∀ op, s.bulk.value = some op → op.idx ≠ i) → n = 0) := by
  obtain ⟨c, acc, hdev, ⟨hacc, -⟩, hc⟩ := h.onChip
  rw [← hacc]
  have hout (h : TxOut i acc (contents ((writeRing i).get s)) c) : acc =
      c.chip.sent i ++ (c.chip.sockets i).tx.stored size ++
        (c.chip.sockets i).tx.staged size 0 ++ contents ((writeRing i).get s) := by
    obtain ⟨left, hacc, ptr, -, hlane⟩ := h
    rw [hacc, hlane.left]
    simp [ChipBuffer.staged, Cyclic.window]
  rcases hc with ⟨hrest, -⟩ | ⟨op, txn, hbulk, hi, rfl, hflight⟩
  · exact ⟨c, 0, hdev, hout hrest, fun _ => rfl⟩
  · change TxFlight i _ _ op.kind op.pointer op.len txn at hflight
    cases hkind : op.kind with
    | receive | receiveDatagram =>
      rw [hkind] at hflight
      exact ⟨txn.dev, 0, hdev, hout hflight, fun _ => rfl⟩
    | transmit =>
      rw [hkind] at hflight
      obtain ⟨left, payload, hacc, hlen, -, hlane⟩ := hflight
      refine ⟨txn.dev, payload.length, hdev, ?_, fun hnone => absurd hi (hnone op hbulk)⟩
      rw [hlane.staged, ← hlane.left]
      exact hacc

/-- In every run on a chip that takes every move of `Sn_RX_RD`, whatever other
frames fail, the bytes that came into the RX buffer of the socket are those the
reads returned, those in the rx ring and those still in the buffer, in this order. -/
theorem stream_received (hs : FifoSize size) (hL : 67 ≤ L) (h : StreamRun i c₀ s reader writer)
    (hsure : Sure (MovesRx i) c₀) :
    ∃ c, s.device.value.transport.dev? = some c ∧
      c.received i = c₀.received i ++ bytesRead reader.done ++ contents ((readRing i).get s) ++
        c.unread i :=
  received_of_reads (h.reads hs hL hsure)

/-- In every run on a chip that takes every burst into the TX buffer of the socket
and every move of `Sn_TX_WR`, whatever other frames fail, the bytes the writes
accepted are those on the wire, those stored in the buffer, those a transfer has
staged behind them and those in the tx ring, in this order. -/
theorem stream_sent (hs : FifoSize size) (hL : 67 ≤ L) (h : StreamRun i c₀ s reader writer)
    (hsure : Sure (MovesTx i) c₀) :
    ∃ c n, s.device.value.transport.dev? = some c ∧
      c₀.chip.sent i ++ bytesWritten writer.done = c.chip.sent i ++
        (c.chip.sockets i).tx.stored size ++ (c.chip.sockets i).tx.staged size n ++
        contents ((writeRing i).get s) ∧
      ((∀ op, s.bulk.value = some op → op.idx ≠ i) → n = 0) :=
  accepted_of_writes (h.writes hs hL hsure)

/-- The reads return a prefix of what came in since the open. -/
theorem StreamRun.received_prefix (hs : FifoSize size) (hL : 67 ≤ L)
    (h : StreamRun i c₀ s reader writer) (hsure : Sure (MovesRx i) c₀) :
    ∃ c received, s.device.value.transport.dev? = some c ∧
      c.received i = c₀.received i ++ received ∧ bytesRead reader.done <+: received := by
  obtain ⟨c, hdev, hreceived⟩ := received_of_reads (h.reads hs hL hsure)
  rw [List.append_assoc, List.append_assoc] at hreceived
  exact ⟨c, _, hdev, hreceived, List.prefix_append _ _⟩

/-- What went out since the open is a prefix of what the writes accepted. -/
theorem StreamRun.sent_prefix (hs : FifoSize size) (hL : 67 ≤ L)
    (h : StreamRun i c₀ s reader writer) (hsure : Sure (MovesTx i) c₀) :
    ∃ c sent, s.device.value.transport.dev? = some c ∧
      c.chip.sent i = c₀.chip.sent i ++ sent ∧ sent <+: bytesWritten writer.done := by
  obtain ⟨c, n, hdev, haccepted, -⟩ := accepted_of_writes (h.writes hs hL hsure)
  obtain ⟨sent, hsent⟩ := h.sent_grown hL hdev
  refine ⟨c, sent, hdev, hsent, ?_⟩
  rw [hsent, List.append_assoc, List.append_assoc, List.append_assoc] at haccepted
  rw [List.append_cancel_left haccepted]
  exact List.prefix_append _ _

/-- At every point of a run on which no move of data of the socket fails, the reads
have returned a prefix of what the chip has received since the open, and the chip
has sent a prefix of what the writes have accepted. -/
theorem streams_intact (hs : FifoSize size) (hL : 67 ≤ L) (h : StreamRun i c₀ s reader writer)
    (hrx : Sure (MovesRx i) c₀) (htx : Sure (MovesTx i) c₀) :
    ∃ c received sent, s.device.value.transport.dev? = some c ∧
      c.received i = c₀.received i ++ received ∧ bytesRead reader.done <+: received ∧
      c.chip.sent i = c₀.chip.sent i ++ sent ∧ sent <+: bytesWritten writer.done := by
  obtain ⟨c, received, hdev, hreceived, hread⟩ := h.received_prefix hs hL hrx
  obtain ⟨c', sent, hdev', hsent, hwritten⟩ := h.sent_prefix hs hL htx
  obtain rfl : c = c' := Option.some.inj (hdev.symm.trans hdev')
  exact ⟨c, received, sent, hdev, hreceived, hread, hsent, hwritten⟩

/-! ## A conversation -/

/-- A peer connects, sends three bytes later on, and hangs up. -/
def answering : W6100 8 67 (LiveChip 16) Unit :=
  peered fun n =>
    if n = 40 then [(0, .connect)]
    else if n = 50 then [(0, .send [1, 2, 3])]
    else if n = 60 then [(0, .close)]
    else []

theorem answering_opens : ∃ c₀,
    OpensStream 0 answering (.openTcpListen 7 [0, 0, 0, 0] [0, 0, 0, 0]) c₀ ∧
      ∀ n mosi, c₀.fails n mosi = false := by
  obtain ⟨c₀, hc₀⟩ : ∃ c₀, answering.device.value.transport.dev? = some c₀ :=
    Option.isSome_iff_exists.mp (by decide +kernel)
  have hempty : (c₀.chip.sockets 0).rx.used = 0 ∧ (c₀.chip.sockets 0).tx.used = 0 := by
    have hmap : answering.device.value.transport.dev?.map (fun c =>
        ((c.chip.sockets 0).rx.used, (c.chip.sockets 0).tx.used)) = some (0, 0) := by decide +kernel
    rw [hc₀] at hmap
    exact Prod.mk.inj (Option.some.inj hmap)
  refine ⟨c₀, ⟨⟨⟨_, .new _ _ _ _⟩, by decide +kernel, ⟨_, _, _, rfl, ⟨2, rfl⟩, ⟨2, rfl⟩, by decide,
    by decide⟩, hc₀⟩, hempty.1, hempty.2⟩, fun n mosi => ?_⟩
  have hmap : answering.device.value.transport.dev?.map (·.fails n mosi) = some false := rfl
  rw [hc₀] at hmap
  exact Option.some.inj hmap

/-- Two bytes go out, three come in, and the application reads two of them. -/
theorem conversed : ∃ (c₀ : LiveChip 16) (s : W6100 8 67 (LiveChip 16) Unit),
    ∃ reader writer, StreamRun 0 c₀ s reader writer ∧
      (∀ n mosi, c₀.fails n mosi = false) ∧ bytesRead reader.done = [1, 2] ∧
      bytesWritten writer.done = [9, 8] ∧ contents ((readRing 0).get s) = [3] := by
  obtain ⟨c₀, hopens, hsure⟩ := answering_opens
  have hwritten := ((StreamRun.opened hopens).beginWrite rfl [9, 8]).stepWrites 6
  have hmoved := hwritten.round (by decide +kernel) |>.round (by decide +kernel)
    |>.round (by decide +kernel) |>.round (by decide +kernel) |>.round (by decide +kernel)
  have hread := (hmoved.beginRead rfl (.read 2)).stepReads 6
  exact ⟨c₀, _, _, _, hread, hsure, by decide +kernel, by decide +kernel, by decide +kernel⟩

theorem stream_received_conversed :
    ∃ (c₀ c : LiveChip 16) (s : W6100 8 67 (LiveChip 16) Unit), ∃ reader writer,
    StreamRun 0 c₀ s reader writer ∧
      bytesRead reader.done = [1, 2] ∧ s.device.value.transport.dev? = some c ∧
      c.received 0 = c₀.received 0 ++ [1, 2] ++ [3] ++ c.unread 0 := by
  obtain ⟨c₀, s, reader, writer, hrun, hsure, hread, -, hring⟩ := conversed
  obtain ⟨c, hdev, hc⟩ := stream_received ⟨by decide, by decide⟩ (by decide) hrun
    fun n mosi _ => hsure n mosi
  exact ⟨c₀, c, s, reader, writer, hrun, hread, hdev, by rw [hc, hread, hring]⟩

theorem streams_intact_conversed :
    ∃ (c₀ c : LiveChip 16) (s : W6100 8 67 (LiveChip 16) Unit), ∃ reader writer received sent,
    StreamRun 0 c₀ s reader writer ∧ s.device.value.transport.dev? = some c ∧
      c.received 0 = c₀.received 0 ++ received ∧ [1, 2] <+: received ∧
      c.chip.sent 0 = c₀.chip.sent 0 ++ sent ∧ sent <+: [9, 8] := by
  obtain ⟨c₀, s, reader, writer, hrun, hsure, hread, hwritten, -⟩ := conversed
  obtain ⟨c, received, sent, hdev, hreceived, hprefix, hsent, hprefix'⟩ :=
    streams_intact ⟨by decide, by decide⟩ (by decide) hrun (fun n mosi _ => hsure n mosi)
      fun n mosi _ => hsure n mosi
  rw [hread] at hprefix
  rw [hwritten] at hprefix'
  exact ⟨c₀, c, s, reader, writer, received, sent, hrun, hdev, hreceived, hprefix, hsent, hprefix'⟩

theorem stream_sent_conversed :
    ∃ (c₀ c : LiveChip 16) (s : W6100 8 67 (LiveChip 16) Unit), ∃ reader writer n,
    StreamRun 0 c₀ s reader writer ∧
      s.device.value.transport.dev? = some c ∧
      c₀.chip.sent 0 ++ [9, 8] = c.chip.sent 0 ++ (c.chip.sockets 0).tx.stored 16 ++
        (c.chip.sockets 0).tx.staged 16 n ++ contents ((writeRing 0).get s) := by
  obtain ⟨c₀, s, reader, writer, hrun, hsure, -, hwritten, -⟩ := conversed
  obtain ⟨c, n, hdev, hc, -⟩ := stream_sent ⟨by decide, by decide⟩ (by decide) hrun
    fun n mosi _ => hsure n mosi
  rw [hwritten] at hc
  exact ⟨c₀, c, s, reader, writer, n, hrun, hdev, hc⟩

end W6100

end Wiznet
