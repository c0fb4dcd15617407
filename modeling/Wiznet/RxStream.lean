import Wiznet.Lanes
import Wiznet.RingThreads

/-! # What a connection receives

The bytes that have come into the RX buffer of a socket are those that were
taken off the chip, followed by those that are still there. A tick announces the
front of the latter and the completion moves it into the rx ring, so as long as
no move of `Sn_RX_RD` fails every byte is moved once. -/

namespace Wiznet
open Resumption Resumption.Code Tick SpscRing

variable {w L size : Nat} {P : Type} {i : Fin 8}

/-! ## The RX buffer under other accesses -/

namespace ChipState

variable {j : Fin 8} {chip : ChipState size}

theorem send_rx : ((chip.send j).sockets i).rx = (chip.sockets i).rx := by
  rw [send_sockets]
  exact modifySocket_proj SocketModel.rx (by intro; rfl) _ _

theorem runCommand_rx (cmd : UInt8) :
    ((chip.runCommand j cmd).sockets i).rx = (chip.sockets i).rx := by
  unfold runCommand
  dsimp only
  split
  · exact modifySocket_proj SocketModel.rx (by intro; rfl) _ _
  split
  · exact modifySocket_proj SocketModel.rx (by intro; rfl) _ _
  split
  · exact modifySocket_proj SocketModel.rx (by intro; rfl) _ _
  split
  · exact send_rx
  · rfl

/-- Only a write to `Sn_RX_RD` moves the read pointer. -/
theorem writeReg_rx {addr : UInt16} (h : j = i → addr ≠ SN_RX_RD0) (data : List UInt8) :
    ((chip.writeReg j addr data).sockets i).rx = (chip.sockets i).rx := by
  unfold writeReg
  dsimp only
  split
  · exact modifySocket_proj SocketModel.rx (by intro; rfl) _ _
  split
  · exact runCommand_rx _
  split
  · exact modifySocket_proj SocketModel.rx (by intro; rfl) _ _
  split
  · exact modifySocket_proj SocketModel.rx (by intro; rfl) _ _
  split
  · exact modifySocket_proj SocketModel.rx (by intro; rfl) _ _
  split
  · exact modifySocket_proj SocketModel.rx (by intro; rfl) _ _
  split
  · next haddr =>
    have hj : i ≠ j := fun hij => h hij.symm haddr
    rw [modifySocket_other hj]
  · rfl

theorem writeReg_rxRd (ptr : UInt16) :
    ((chip.writeReg i SN_RX_RD0 (BigEndian.encode 2 ptr.toNat)).sockets i).rx =
      { (chip.sockets i).rx with readPtr := ptr } := by
  have hreg : chip.writeReg i SN_RX_RD0 (BigEndian.encode 2 ptr.toNat) =
      chip.modifySocket i fun s =>
        let v := UInt16.ofNat (BigEndian.decode (BigEndian.encode 2 ptr.toNat))
        { s with rx := { s.rx with readPtr := v } } := rfl
  rw [hreg, BigEndian.decode_encode_of_lt (UInt16.toNat_lt ptr), UInt16.ofNat_toNat]
  simp [modifySocket]

end ChipState

namespace SocketModel

variable {s : SocketModel}

/-- No more arrives than there is room for. -/
theorem arriving_fits (hs : FifoSize size) (h : s.rx.used.toNat ≤ size) (e : PeerEvent) :
    s.rx.used.toNat + (s.arriving size e).length ≤ size := by
  have hfree := ChipBuffer.toNat_free hs h
  cases e with
  | send data =>
    rw [arriving]
    split
    · rw [List.length_take]
      omega
    · exact h
  | sendUdp peer data =>
    rw [arriving]
    split
    next htakes =>
      simp only [takesUdp, Bool.and_eq_true, decide_eq_true_eq] at htakes
      have hroom := htakes.2
      rw [hfree, PACKINFO] at hroom
      simp only [packinfo, List.length_append, BigEndian.encode_length]
      omega
    · exact h
  | connect | close | reset | timeout => exact h

end SocketModel

namespace LiveChip

variable {off seen : List UInt8} {rd : UInt16} {c : LiveChip size}

/-- What is still in the RX buffer of socket `i`. -/
def unread (i : Fin 8) (c : LiveChip size) : List UInt8 := (c.chip.sockets i).rx.stored size

theorem unread_length : (c.unread i).length = (c.chip.sockets i).rx.used.toNat :=
  ChipBuffer.stored_length ..

/-- `off` has been taken off the chip, the read pointer stands at `rd`, and
`seen` is the front of what comes next. -/
structure RxLane (i : Fin 8) (off seen : List UInt8) (rd : UInt16) (c : LiveChip size) : Prop where
  readPtr : (c.chip.sockets i).rx.readPtr = rd
  room : (c.chip.sockets i).rx.used.toNat ≤ size
  received : c.received i = off ++ c.unread i
  seen : seen <+: c.unread i

theorem RxLane.look (h : RxLane i off seen rd c) : RxLane i off (c.unread i) rd c :=
  { h with seen := List.prefix_rfl }

theorem RxLane.forget (h : RxLane i off seen rd c) : RxLane i off [] rd c :=
  { h with seen := List.nil_prefix }

/-- Only a write to `Sn_RX_RD` of socket `i` matters. -/
def SparesRx (i : Fin 8) (addr : Address) (_ : List UInt8) : Prop :=
  ¬ (addr.block = .socketRegister i ∧ addr.address = SN_RX_RD0)

theorem written_rx {addr : Address} {data : List UInt8} (h : SparesRx i addr data) :
    ((c.written addr data).chip.sockets i).rx = (c.chip.sockets i).rx := by
  obtain ⟨a, block⟩ := addr
  cases block with
  | commonRegister => rw [written, ChipState.serve_common]
  | socketRxBuffer j => rw [written, ChipState.serve_writeRx]
  | socketTxBuffer j =>
    have hpoke : (c.written ⟨a, .socketTxBuffer j⟩ data).chip = c.chip.pokeTx j a data :=
      ChipState.serve_pokeTx ..
    rw [hpoke]
    exact ChipState.modifySocket_proj SocketModel.rx (by intro; rfl) _ _
  | socketRegister j =>
    rw [written, ChipState.serve_writeReg]
    exact ChipState.writeReg_rx (fun hj ha => h ⟨congrArg _ hj, ha⟩) data

/-- What arrives comes behind what is there. -/
theorem RxLane.happen (hs : FifoSize size) (h : RxLane i off seen rd c) (e : Fin 8 × PeerEvent) :
    RxLane i off seen rd (c.happen e) := by
  obtain ⟨j, e⟩ := e
  by_cases hj : i = j
  · subst hj
    have hfits := SocketModel.arriving_fits hs h.room e
    have hsock : (c.happen (i, e)).chip.sockets i = (c.chip.sockets i).happen size e :=
      Function.update_self ..
    have hunread : (c.happen (i, e)).unread i =
        c.unread i ++ (c.chip.sockets i).arriving size e := by
      rw [unread, hsock]
      exact ChipBuffer.stored_push hs hfits
    refine ⟨?_, ?_, ?_, ?_⟩
    · rw [hsock]
      exact h.readPtr
    · rw [hsock]
      have hlt := hs.lt
      exact (ChipBuffer.used_push (by omega)).trans_le hfits
    · rw [hunread, ← List.append_assoc, ← h.received]
      exact Function.update_self ..
    · rw [hunread]
      exact h.seen.trans (List.prefix_append ..)
  · have hsock : (c.happen (j, e)).chip.sockets i = c.chip.sockets i := Function.update_of_ne hj ..
    have hreceived : (c.happen (j, e)).received i = c.received i := Function.update_of_ne hj ..
    have hunread : (c.happen (j, e)).unread i = c.unread i := by rw [unread, hsock, unread]
    refine ⟨by rw [hsock]; exact h.readPtr, by rw [hsock]; exact h.room, ?_, ?_⟩
    · rw [hreceived, hunread]
      exact h.received
    · rw [hunread]
      exact h.seen

theorem passive_rxLane (hs : FifoSize size) (i : Fin 8) (off seen : List UInt8) (rd : UInt16) :
    Passive (SparesRx i) (RxLane i off seen rd : LiveChip size → Prop) where
  pass := pass_of_happen (fun _ _ _ h => ⟨h.readPtr, h.room, h.received, h.seen⟩) fun _ e h =>
    h.happen hs e
  write c addr data hW h := by
    have hrx := written_rx (c := c) hW
    have hunread : (c.written addr data).unread i = c.unread i := by rw [unread, hrx, unread]
    refine ⟨by rw [hrx]; exact h.readPtr, by rw [hrx]; exact h.room, ?_, ?_⟩
    · rw [hunread]
      exact h.received
    · rw [hunread]
      exact h.seen

/-- The read pointer moves past what was seen. -/
theorem RxLane.commit (hs : FifoSize size) (h : RxLane i off seen rd c) :
    RxLane i (off ++ seen) [] (rd + UInt16.ofNat seen.length)
      (c.written ⟨SN_RX_RD0, .socketRegister i⟩
        (BigEndian.encode 2 (rd + UInt16.ofNat seen.length).toNat)) := by
  have hlen : seen.length ≤ (c.chip.sockets i).rx.used.toNat := by
    have hle := h.seen.length_le
    rwa [unread_length] at hle
  have hrx : ((c.written ⟨SN_RX_RD0, .socketRegister i⟩
      (BigEndian.encode 2 (rd + UInt16.ofNat seen.length).toNat)).chip.sockets i).rx =
      (c.chip.sockets i).rx.drop seen.length := by
    rw [written, ChipState.serve_writeReg, ChipState.writeReg_rxRd, ChipBuffer.drop, h.readPtr]
  have hsplit : seen ++ (c.unread i).drop seen.length = c.unread i := by
    obtain ⟨rest, hrest⟩ := h.seen
    rw [← hrest, List.drop_left]
  refine ⟨by rw [hrx, ← h.readPtr]; rfl, ?_, ?_, List.nil_prefix⟩
  · rw [hrx, ChipBuffer.used_drop hlen]
    exact (Nat.sub_le ..).trans h.room
  · rw [unread, hrx, ChipBuffer.stored_drop hs hlen, List.append_assoc]
    change c.received i = off ++ (seen ++ (c.unread i).drop seen.length)
    rw [hsplit]
    exact h.received

/-- The frames that move `Sn_RX_RD` of socket `i`. -/
def MovesRx (i : Fin 8) (mosi : List UInt8) : Prop :=
  ∃ data, mosi = createHeader ⟨SN_RX_RD0, .socketRegister i⟩ true ++ data

/-- `RxLane`, on a chip that takes every move of `Sn_RX_RD`. -/
def RxSure (i : Fin 8) (off seen : List UInt8) (rd : UInt16) (c : LiveChip size) : Prop :=
  Sure (MovesRx i) c ∧ RxLane i off seen rd c

/-- `off` has been taken off the chip. -/
def RxRest (i : Fin 8) (off : List UInt8) (c : LiveChip size) : Prop := ∃ rd, RxSure i off [] rd c

theorem passive_rxSure (hs : FifoSize size) (i : Fin 8) (off seen : List UInt8) (rd : UInt16) :
    Passive (SparesRx i) (RxSure i off seen rd : LiveChip size → Prop) :=
  (passive_sure _ _).and (passive_rxLane hs i off seen rd)

theorem passive_rxRest (hs : FifoSize size) (i : Fin 8) (off : List UInt8) :
    Passive (SparesRx i) (RxRest i off : LiveChip size → Prop) :=
  Passive.any fun rd => passive_rxSure hs i off [] rd

theorem RxSure.rest (h : RxSure i off seen rd c) : RxRest i off c := ⟨rd, h.1, h.2.forget⟩

/-- What a transfer in flight makes of it: a receive of at most `room` bytes has
captured what comes next. -/
def RxFlight (i : Fin 8) (off : List UInt8) (room : Nat) (kind : BulkKind) (pointer : UInt16)
    (len : Nat) (txn : Transaction L (LiveChip size)) : Prop :=
  match kind with
  | .receive => RxSure i off (txn.buffers.rxWindow HEADER len) pointer txn.dev ∧ len ≤ room
  | .receiveDatagram _ _ => False
  | .transmit => RxRest i off txn.dev

end LiveChip

/-- The bytes a ring still has room for. -/
def SpscRing.room (r : SpscRing w) : Nat := r.cap.toNat - (r.tail - r.head).toNat

/-! ## The tick -/

namespace TcpSocketState

open LiveChip

variable {off : List UInt8} {r : SpscRing w}

/-- The bus of a tick that leaves the rx ring at `r`. -/
def RxIdle (i : Fin 8) (off : List UInt8) (r : SpscRing w) (io : Io w L (LiveChip size)) : Prop :=
  io.rings.rx = r ∧ IdleOn (RxRest i off) io.trans

def RxStarted (i : Fin 8) (off : List UInt8) (r : SpscRing w) (kind : BulkKind) (pointer : UInt16)
    (len : Nat) (io : Io w L (LiveChip size)) : Prop :=
  io.rings.rx = r ∧ ∃ txn, io.trans = .inFlight txn ∧
    RxFlight i off r.room kind pointer len txn

/-- `receive` starts a burst over what comes next, as far as there is room. -/
theorem triple_rx_receive (hs : FifoSize size) (hL : 67 ≤ L) (he : Even r) :
    Triple (fun s : Tick TcpSocketState w L (LiveChip size) => RxIdle i off r s.2)
      (receive (socketBlock i))
      (fun a s => Reports (fun x : Io w L (LiveChip size) × Unit => RxIdle i off r x.1)
        (fun kind pointer len x => RxStarted i off r kind pointer len x.1) a (s.2, ()))
      fun _ s => RxIdle i off r s.2 := by
  have hread : HEADER + 2 ≤ L := by rw [HEADER]; omega
  rintro ⟨t, cell, rx, tx⟩ ⟨hrx, c, scratch, hcell, rd, hc⟩
  obtain rfl : rx = r := hrx
  obtain rfl : cell = .idle c scratch := hcell
  have hidle {seen : List UInt8} {cell : Transceiver L (LiveChip size)}
      (h : IdleOn (RxSure i off seen rd) cell) : IdleOn (RxRest i off) cell := by
    obtain ⟨dev, scratch, hdev, h⟩ := h
    exact ⟨dev, scratch, hdev, h.rest⟩
  unfold receive
  rw [wp_onBus_bind]
  refine wp_mono (wp_readU16 (passive_rxSure hs i off [] rd).pass i SN_RX_RSR0 hread
    ⟨c, scratch, rfl, hc⟩) ?_ fun _ _ h => ⟨rfl, hidle h⟩
  rintro available _ ⟨c₁, scratch₁, rfl, hc₁, hsize⟩
  -- what is there now is still in front when the burst is clocked
  have havailable : available.toNat = (c₁.unread i).length := by
    rw [unread_length, hsize]
    exact congrArg UInt16.toNat (UInt16.toUInt16_toUInt32 _)
  have hlook : RxSure i off (c₁.unread i) rd c₁ := ⟨hc₁.1, hc₁.2.look⟩
  have hp := passive_rxSure hs i off (c₁.unread i) rd
  split
  · exact ⟨rfl, c₁, scratch₁, rfl, hlook.rest⟩
  rw [wp_onRx_bind, run_free, toNat_sub_le he.room]
  dsimp only
  split
  · exact ⟨rfl, c₁, scratch₁, rfl, hlook.rest⟩
  rw [wp_onBus_bind]
  refine wp_mono (wp_readU16 hp.pass i SN_RX_RD0 hread ⟨c₁, scratch₁, rfl, hlook⟩) ?_
    fun _ _ h => ⟨rfl, hidle h⟩
  rintro pointer _ ⟨c₂, scratch₂, rfl, hc₂, hpointer⟩
  obtain rfl : pointer = rd := by
    rw [hpointer, ← hc₂.2.readPtr]
    exact UInt16.toUInt16_toUInt32 _
  rw [wp_onBus_bind]
  refine wp_mono (LiveChip.wp_startRead hp.pass i pointer _ ⟨c₂, scratch₂, rfl, hc₂⟩) ?_
    fun _ _ h => ⟨rfl, hidle h⟩
  rintro _ _ ⟨txn, rfl, htxn, hwindow⟩
  generalize hn : min available.toNat (rx.cap.toNat - (rx.tail - rx.head).toNat) = n at hwindow ⊢
  refine ⟨rfl, txn, rfl, ⟨htxn.1, { htxn.2 with seen := ?_ }⟩, by rw [room]; omega⟩
  have hle := htxn.2.seen.length_le
  rw [unread_length (c := txn.dev)] at hle
  rw [hwindow, ← htxn.2.readPtr, ChipBuffer.peek_stored (by omega)]
  exact List.take_prefix ..

/-- What goes the other way does not matter. -/
theorem drains_rx (hs : FifoSize size) (hL : 67 ≤ L) :
    Drains (w := w) (L := L) .blind (socketBlock i)
      (fun x : Io w L (LiveChip size) × Unit => RxIdle i off r x.1)
      fun kind pointer len x => RxStarted i off r kind pointer len x.1 where
  quiet rings := by
    have hp : Passive (SparesRx i) (RxRest i off : LiveChip size → Prop) := passive_rxRest hs i off
    exact (hp.quiet hL fun _ _ hc h => hc.rxPointer h.2).beside (rings.rx = r)
  drained _ _ _ h := h
  write rings addr data ha hn := by
    have hspares : SparesRx i addr data := by
      rintro ⟨hb, hrd⟩
      rcases ha with ha | rfl | rfl
      · rw [hb] at ha
        cases ha
      · exact absurd hrd (show SN_TX_WR0 ≠ SN_RX_RD0 by decide)
      · exact absurd hrd (show SN_CR ≠ SN_RX_RD0 by decide)
    have hp : Passive (SparesRx i) (RxRest i off : LiveChip size → Prop) := passive_rxRest hs i off
    have hkeeps := hp.keeps_write (L := L) hspares (by rw [HEADER]; omega)
    exact fun x hx => wp_mono (hkeeps.watch x hx.2) (fun _ _ h => ⟨hx.1, h⟩) fun _ _ h => ⟨hx.1, h⟩
  startWrite pointer len := by
    let Idle (s : Tick TcpSocketState w L (LiveChip size)) : Prop := RxIdle i off r s.2
    let Started (s : Tick TcpSocketState w L (LiveChip size)) : Prop :=
      RxStarted i off r .transmit pointer len s.2
    refine Triple.watch (P := Idle) (Q := fun _ => Started) (E := fun _ => Idle) ?_
    rintro ⟨t, cell, rx, tx⟩ ⟨hrx, hc⟩
    have hp : Passive (SparesRx i) (RxRest i off : LiveChip size → Prop) := passive_rxRest hs i off
    refine wp_mono (LiveChip.wp_startWrite hp.pass bus ⟨pointer, .socketTxBuffer i⟩ len drain hc)
      ?_ ?_
    · rintro _ _ ⟨buf, txn, c, payload, -, hrest, rfl, hdev, -⟩
      obtain ⟨tx', got, hrun⟩ : ∃ tx', ∃ got, (drain buf).run (t, ⟨.pending, rx, tx⟩) =
          (got, (t, ⟨.pending, rx, tx'⟩)) := run_drain_frame buf
      rw [show bus.set .pending (t, ⟨cell, rx, tx⟩) = (t, ⟨.pending, rx, tx⟩) from rfl, hrun]
      refine ⟨hrx, txn, rfl, ?_⟩
      rw [RxFlight, hdev]
      exact hp.write c _ payload (by rintro ⟨⟨⟩, -⟩) hrest
    · rintro _ _ (⟨rfl, -⟩ | ⟨buf, idle, c, payload, -, hidle, rfl, -⟩)
      · exact ⟨hrx, hc⟩
      · obtain ⟨tx', got, hrun⟩ : ∃ tx', ∃ got, (drain buf).run (t, ⟨.pending, rx, tx⟩) =
            (got, (t, ⟨.pending, rx, tx'⟩)) := run_drain_frame buf
        rw [show bus.set .pending (t, ⟨cell, rx, tx⟩) = (t, ⟨.pending, rx, tx⟩) from rfl, hrun]
        exact ⟨hrx, hidle⟩

theorem conducts_rx (hs : FifoSize size) (hL : 67 ≤ L) (he : Even r) :
    Conducts (w := w) (L := L) .blind (socketBlock i)
      (fun x : Io w L (LiveChip size) × Unit => RxIdle i off r x.1)
      fun kind pointer len x => RxStarted i off r kind pointer len x.1 where
  quiet := (drains_rx hs hL).quiet
  flush := (drains_rx hs hL).keeps_flushSync
  receive := (triple_rx_receive hs hL he).watch
  transmit := (drains_rx hs hL).moves_transmit

end TcpSocketState

/-! ## The completion -/

namespace LiveChip

variable {off seen : List UInt8} {rd : UInt16}

/-- The epilogue of a receive moves the read pointer past what was captured. -/
theorem wp_rx_commitReceive (hs : FifoSize size) (hL : 67 ≤ L) {op : BulkOp}
    (hblock : op.block = socketBlock i) (hlen : seen.length = op.len)
    {cell : Transceiver L (LiveChip size)} (hc : IdleOn (RxSure i off seen op.pointer) cell) :
    wp (W6100.commitReceive op) (fun _ => IdleOn (RxRest i (off ++ seen)))
      (fun _ => IdleOn (RxRest i (off ++ seen))) cell := by
  have hp : Passive (SparesRx i) (RxRest i (off ++ seen) : LiveChip size → Prop) :=
    passive_rxRest hs i (off ++ seen)
  have hrest {address : UInt16} {v : Nat} (ha : address ≠ SN_RX_RD0) :
      Keeps (IdleOn (L := L) (RxRest i (off ++ seen) : LiveChip size → Prop))
        (Wiznet.write ⟨address, (socketBlock i).reg⟩ (BigEndian.encode 1 v)) :=
    hp.keeps_write (fun h => ha h.2) (by rw [BigEndian.encode_length, HEADER]; omega)
  rw [W6100.commitReceive, hblock, ← hlen, wp_bind]
  refine wp_mono (wp_write (passive_rxSure hs i off seen op.pointer).pass
    ⟨SN_RX_RD0, .socketRegister i⟩ (by rw [BigEndian.encode_length, HEADER]; omega) hc) ?_ ?_
  · rintro _ _ ⟨c, scratch, rfl, hsure, hlane⟩
    refine Keeps.bind (hrest (by decide)) (fun _ => hrest (by decide)) _ ?_
    exact ⟨_, _, rfl, _, hsure, hlane.commit hs⟩
  · rintro _ _ ⟨-, c, ⟨hsure, -⟩, hfails⟩
    rw [hsure 0 _ ⟨_, rfl⟩] at hfails
    cases hfails

end LiveChip

/-! ## The lane -/

section Lane

open LiveChip

variable {ret : List UInt8} {r₀ : SpscRing w}

/-- The completion of a transfer of the slot delivers what was captured. -/
theorem rxTcp_finish (hs : FifoSize size) (hL : 67 ≤ L) (he : Even r₀) {op : BulkOp}
    {txn : Transaction L (LiveChip size)} {io : Io w L (LiveChip size)} (hi : op.idx = i)
    (hop : Describes op txn) (hbus : io.trans = .inFlight txn)
    (hrely : consumer.rely r₀ io.rings.rx)
    (hf : RxFlight i (ret ++ contents io.rings.rx) io.rings.rx.room op.kind op.pointer op.len txn) :
    let Delivered (io : Io w L (LiveChip size)) : Prop :=
      consumer.rely r₀ io.rings.rx ∧ IdleOn (RxRest i (ret ++ contents io.rings.rx)) io.trans
    wp (W6100.finishBulk op) (fun _ => Delivered) (fun _ => Delivered) io := by
  have hblock := hop.block
  rw [hi] at hblock
  obtain ⟨cell, rx, tx⟩ := io
  refine (W6100.wp_finishBulk_iff hbus).mpr ?_
  dsimp only at hrely hf ⊢
  have he' := hrely.2.2.2 he
  cases hkind : op.kind with
  | receiveDatagram =>
    rw [hkind] at hf
    exact hf.elim
  | transmit =>
    rw [hkind] at hf
    have hepilogue : Keeps (IdleOn (RxRest i (ret ++ contents rx))) (W6100.epilogue op) :=
      (passive_rxRest hs i (ret ++ contents rx)).keeps_epilogue hL
        fun addr data _ _ hrd h => hrd h.2 hkind
    have hstay : op.deliver (txn.buffers.rxWindow HEADER op.len) rx = rx := by
      rw [BulkOp.deliver, hkind]
    rw [hstay]
    exact wp_mono (hepilogue _ ⟨_, _, rfl, hf⟩) (fun _ _ h => ⟨hrely, h⟩) fun _ _ h => ⟨hrely, h⟩
  | receive =>
    rw [hkind] at hf
    obtain ⟨hlane, hroom⟩ := hf
    have hlen := hop.frame.rxWindow_length
    generalize txn.buffers.rxWindow HEADER op.len = payload at hlane hlen ⊢
    have hle := he'.room
    have hfits : (rx.tail - rx.head).toNat + payload.length ≤ rx.cap.toNat := by
      rw [room] at hroom
      omega
    have hdeliver : op.deliver payload rx = pushed payload rx := by
      rw [BulkOp.deliver, hkind, run_write_fits he'.sound payload hfits]
    have hgrown := contents_pushed he'.sound hfits
    have hrely' : consumer.rely r₀ (pushed payload rx) := by
      refine consumer.rely_trans hrely ⟨rfl, rfl, ?_, fun _ => ?_⟩
      · rw [hgrown]
        exact List.prefix_append ..
      · exact ⟨he'.dvd, (he'.sound.pushed hfits (.inl he'.dvd)).room⟩
    rw [hdeliver, hgrown, ← List.append_assoc, W6100.epilogue, hkind]
    exact wp_mono (wp_rx_commitReceive hs hL hblock hlen ⟨_, _, rfl, hlane⟩)
      (fun _ _ h => ⟨hrely', h⟩) fun _ _ h => ⟨hrely', h⟩

/-- What a TCP socket receives: `ret` has been returned to the application, what
the rx ring holds comes behind, and since it stood at `r₀` it has only grown. -/
def rxTcp (hs : FifoSize size) (hL : 67 ≤ L) (i : Fin 8) (ret : List UInt8) (he : Even r₀) :
    Lane w L size i where
  protocol := .tcp
  spares := SparesRx i
  rest _ rings c := consumer.rely r₀ rings.rx ∧ RxRest i (ret ++ contents rings.rx) c
  flight _ op rings txn := consumer.rely r₀ rings.rx ∧
    RxFlight i (ret ++ contents rings.rx) rings.rx.room op.kind op.pointer op.len txn
  spared _ _ h _ hb := h hb.1
  passive _ _ := (passive_rxRest hs i _).beside _
  stalled _ := ⟨fun _ _ h => h, fun _ _ _ h => h⟩
  tick b io hp hr hblock hidle := by
    obtain ⟨dev, scratch, hdev, hrely, hrest⟩ := hidle
    have hconducts : TcpSocketState.Conducts (w := w) (L := L) .blind (socketBlock i)
        (fun x : Io w L (LiveChip size) × Unit =>
          TcpSocketState.RxIdle i (ret ++ contents io.rings.rx) io.rings.rx x.1)
        _ := TcpSocketState.conducts_rx hs hL (hrely.2.2.2 he)
    rw [← hblock] at hconducts
    have htick := SocketBackend.run_conducts hp hr hconducts ⟨rfl, dev, scratch, hdev, hrest⟩
    rcases hb : b.run.run io with ⟨⟨result, b'⟩, io'⟩
    rw [hb] at htick
    obtain ⟨hslot, hresult⟩ := htick
    refine ⟨hslot, ?_⟩
    rcases result with e | (_ | ⟨kind, pointer, len⟩)
    · obtain ⟨hrx, dev', scratch', hdev', hrest'⟩ := hresult
      exact ⟨dev', scratch', hdev', by rwa [hrx], by rwa [hrx]⟩
    · obtain ⟨hrx, dev', scratch', hdev', hrest'⟩ := hresult
      exact ⟨dev', scratch', hdev', by rwa [hrx], by rwa [hrx]⟩
    · obtain ⟨hrx, txn, htxn, hflight⟩ := hresult
      exact ⟨txn, htxn, by rwa [hrx], by rwa [hrx]⟩
  finish _ op txn io hi hop hbus hf := by
    refine wp_mono (rxTcp_finish hs hL he hi hop hbus hf.1 hf.2) ?_ ?_
    · rintro _ io' ⟨hrely, dev, scratch, hdev, hrest⟩
      exact ⟨dev, scratch, hdev, hrely, hrest⟩
    · rintro _ io' ⟨hrely, dev, scratch, hdev, hrest⟩
      exact ⟨dev, scratch, hdev, hrely, hrest⟩

end Lane

end Wiznet
