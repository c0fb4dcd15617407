import Wiznet.TxStream
import Wiznet.UdpSending
import Wiznet.UdpTicks

/-! # What a UDP socket sends

The frames that have left the tx ring of a UDP socket are datagrams on the wire,
or the one frame that a burst has staged. A tick takes the header of the front
frame out of the ring before it programs the destination, so as long as none of
the frames behind that point fails every datagram goes out once, to where it was
addressed. -/

namespace Wiznet
open Resumption Resumption.Code Tick SpscRing

variable {w L size : Nat} {i : Fin 8}

/-- A datagram on the wire. -/
def Frame.wire (f : Frame) : UInt32 × UInt16 × List UInt8 := (f.dst.ip, f.dst.port, f.payload)

/-! ## The ring -/

namespace SpscRing

variable {f : Frame} {gs : List Frame} {r : SpscRing w}

/-- `frames()` tells whether there is one. -/
theorem Queued.some (h : Queued gs r) (hsome : r.framesIn - r.framesOut ≠ 0) :
    ∃ f rest, gs = f :: rest := by
  obtain ⟨part, h⟩ := h
  cases gs with
  | nil => exact absurd h.between hsome
  | cons f rest => exact ⟨f, rest, rfl⟩

/-- The front frame is there as a whole. -/
theorem Queued.front (h : Queued (f :: gs) r) : f.bytes <+: contents r := by
  obtain ⟨part, h⟩ := h
  rw [h.bytes, List.flatMap_cons, List.append_assoc]
  exact List.prefix_append ..

theorem Queued.bytes_le (h : Queued (f :: gs) r) :
    FRAME_HEADER + f.payload.length ≤ (r.tail - r.head).toNat := by
  have hle := h.front.length_le
  rwa [length_contents, Frame.bytes, stagedBytes_length] at hle

/-- What `transmit` reads of its header. -/
theorem Queued.header (h : Queued (f :: gs) r) :
    parseFrameHeader (fillHeader ((peek FRAME_HEADER).run r).1) = (f.payload.length, f.dst) := by
  have hheader := frameHeader_length (UInt16.ofNat f.payload.length) f.dst
  obtain ⟨rest, hrest⟩ := h.front
  rw [run_peek, run_read_contents h.even.sound, ← hrest, Frame.bytes, stagedBytes,
    List.append_assoc, List.take_left' hheader, fillHeader_eq hheader, parse_frameHeader,
    UInt16.toNat_ofNat_of_lt' f.fits]

theorem Queued.read_header (h : Queued (f :: gs) r) :
    ((read FRAME_HEADER).run r).2 = popped FRAME_HEADER r := by
  have hle := h.bytes_le
  rw [run_read_contents h.even.sound, length_contents, Nat.min_eq_left (by omega)]

/-- Behind the header the payload is in front. -/
theorem Queued.payload (h : Queued (f :: gs) r) :
    (contents (popped FRAME_HEADER r)).take f.payload.length = f.payload := by
  have hle := h.bytes_le
  have hheader := frameHeader_length (UInt16.ofNat f.payload.length) f.dst
  obtain ⟨rest, hrest⟩ := h.front
  rw [contents_popped h.even.sound (by omega), ← hrest, Frame.bytes, stagedBytes,
    List.append_assoc, List.drop_left' hheader, List.take_left]

/-- Header and payload read, and the frame released. -/
theorem Queued.released (h : Queued (f :: gs) r) :
    Retires r (f :: gs) { popped f.payload.length (popped FRAME_HEADER r) with
      framesOut := r.framesOut + 1 } gs := by
  have hlen : ([f].flatMap Frame.bytes).length = FRAME_HEADER + f.payload.length := by
    rw [List.flatMap_singleton, Frame.bytes, stagedBytes_length]
  refine ⟨[f], rfl, by rw [hlen]; exact h.bytes_le, ?_⟩
  rw [popped_popped, retired, hlen]
  rfl

end SpscRing

/-! ## The wire -/

namespace ChipState

variable {j : Fin 8} {chip : ChipState size}

/-- Socket `i` sends datagrams, and the next one to `dst`. -/
structure Aimed (i : Fin 8) (dst : SocketAddr) (chip : ChipState size) : Prop where
  mode : InUdpMode i chip
  ip : (chip.sockets i).dstIp = dst.ip
  port : (chip.sockets i).dstPort = dst.port

theorem send_sentDgrams (hm : InUdpMode i chip) : (chip.send i).sentDgrams i =
    chip.sentDgrams i ++
      [((chip.sockets i).dstIp, (chip.sockets i).dstPort, (chip.sockets i).tx.stored size)] := by
  simp only [send]
  rw [if_pos (show (chip.sockets i).mr &&& 0x0F = 0x02 from hm)]
  exact Function.update_self ..

theorem send_sentDgrams_other (hj : i ≠ j) :
    (chip.send j).sentDgrams i = chip.sentDgrams i := by
  simp only [send]
  split
  · exact Function.update_of_ne hj ..
  · rfl

/-- Towards the wire socket `i` is as it was. -/
def StillSends (i : Fin 8) (chip chip' : ChipState size) : Prop :=
  (chip'.sockets i).tx = (chip.sockets i).tx ∧ chip'.sentDgrams i = chip.sentDgrams i

theorem stillSends_modifySocket {f : SocketModel → SocketModel} (h : ∀ s, (f s).tx = s.tx)
    (chip : ChipState size) : StillSends i chip (chip.modifySocket j f) :=
  ⟨modifySocket_proj SocketModel.tx h chip j, rfl⟩

theorem stillSends_runCommand {cmd : UInt8} (h : j = i → cmd ≠ SocketCommand.send.bits)
    (chip : ChipState size) : StillSends i chip (chip.runCommand j cmd) := by
  unfold runCommand
  dsimp only
  split
  · exact stillSends_modifySocket (by intro; rfl) { chip with commands := _ }
  split
  · exact stillSends_modifySocket (by intro; rfl) { chip with commands := _ }
  split
  · exact stillSends_modifySocket (by intro; rfl) { chip with commands := _ }
  split
  next hcmd =>
    have hj : i ≠ j := fun hij => h hij.symm hcmd
    exact ⟨by rw [send_sockets, modifySocket_other hj], send_sentDgrams_other hj⟩
  · exact ⟨rfl, rfl⟩

/-- A socket sends when it is told to, what stands before its write pointer. -/
theorem stillSends_writeReg {addr : UInt16} {data : List UInt8}
    (h : j = i → addr ≠ SN_TX_WR0 ∧
      (addr = SN_CR → UInt8.ofNat (BigEndian.decode data) ≠ SocketCommand.send.bits))
    (chip : ChipState size) : StillSends i chip (chip.writeReg j addr data) := by
  unfold writeReg
  dsimp only
  split
  · exact stillSends_modifySocket (by intro; rfl) _
  split
  next haddr => exact stillSends_runCommand (fun hj => (h hj).2 haddr) _
  split
  · exact stillSends_modifySocket (by intro; rfl) _
  split
  · exact stillSends_modifySocket (by intro; rfl) _
  split
  · exact stillSends_modifySocket (by intro; rfl) _
  split
  next haddr =>
    have hj : i ≠ j := fun hij => (h hij.symm).1 haddr
    exact ⟨by rw [modifySocket_other hj], rfl⟩
  split
  · exact stillSends_modifySocket (by intro; rfl) _
  · exact ⟨rfl, rfl⟩

/-- What a write to the socket's registers leaves of its destination. -/
theorem writeReg_dst {β : Type} (g : SocketModel → β) {addr : UInt16} (data : List UInt8)
    (hg : ∀ s : SocketModel, ∀ mr sr ir rx tx, g { s with mr, sr, ir, rx, tx } = g s)
    (hip : addr = SN_DIPR0 → ∀ s v, g { s with dstIp := v } = g s)
    (hport : addr = SN_DPORTR0 → ∀ s v, g { s with dstPort := v } = g s) :
    g ((chip.writeReg j addr data).sockets i) = g (chip.sockets i) := by
  by_cases hcr : addr = SN_CR
  · subst hcr
    change g ((chip.runCommand j _).sockets i) = _
    unfold runCommand
    dsimp only
    split
    · exact modifySocket_proj g (fun s => hg s s.mr _ s.ir s.rx s.tx) _ _
    split
    · exact modifySocket_proj g (fun s => hg s s.mr _ s.ir s.rx s.tx) _ _
    split
    · exact modifySocket_proj g (fun s => hg s s.mr _ s.ir s.rx s.tx) _ _
    split
    · rw [send_sockets]
      exact modifySocket_proj g (fun s => hg s s.mr s.sr s.ir s.rx _) _ _
    · rfl
  · exact writeReg_proj g data hcr (fun s _ => hg s s.mr s.sr _ s.rx s.tx)
      (fun _ s _ => hg s _ s.sr s.ir s.rx s.tx) hip hport
      (fun _ s _ => hg s s.mr s.sr s.ir s.rx _) fun _ s _ => hg s s.mr s.sr s.ir _ s.tx

end ChipState

namespace LiveChip

variable {base : List (UInt32 × UInt16 × List UInt8)} {acc left : List Frame}
  {stored payload bytes : List UInt8} {ptr : UInt16} {dst : SocketAddr} {f : Frame}
  {c : LiveChip size}

/-- The frames that put a datagram of socket `i` on the wire once its header has
left the tx ring; the read of `Sn_TX_WR` is one of them. -/
def SendsUdp (i : Fin 8) (mosi : List UInt8) : Prop :=
  ∃ addr write data, mosi = createHeader addr write ++ data ∧
    (addr.block = .socketTxBuffer i ∨ addr.block = .socketRegister i ∧
      (addr.address = SN_DIPR0 ∨ addr.address = SN_DPORTR0 ∨ addr.address = SN_TX_WR0 ∨
        addr.address = SN_CR ∧ data = BigEndian.encode 1 SocketCommand.send.bits.toNat))

/-- Behind `base` the frames `left` are on the wire. `stored` stands before the
write pointer `ptr`, and `payload` is staged behind it. -/
structure UdpTxLane (i : Fin 8) (base : List (UInt32 × UInt16 × List UInt8)) (left : List Frame)
    (stored payload : List UInt8) (ptr : UInt16) (c : LiveChip size) : Prop where
  sure : Sure (SendsUdp i) c
  sent : c.chip.sentDgrams i = base ++ left.map Frame.wire
  lane : ChipBuffer.TxLane size stored payload ptr [] (c.chip.sockets i).tx

/-- Behind `base` the frames `left` are on the wire, and nothing is under way. -/
def UdpTxRest (i : Fin 8) (base : List (UInt32 × UInt16 × List UInt8)) (left : List Frame)
    (c : LiveChip size) : Prop := ∃ ptr, UdpTxLane i base left [] [] ptr c

/-- The writes that neither fill the TX buffer nor move its write pointer nor send. -/
def SparesUdpTx (i : Fin 8) (addr : Address) (data : List UInt8) : Prop :=
  addr.block ≠ .socketTxBuffer i ∧ (addr.block = .socketRegister i →
    addr.address ≠ SN_TX_WR0 ∧ (addr.address = SN_CR →
      ∃ c : SocketCommand, c ≠ .send ∧ data = BigEndian.encode 1 c.bits.toNat))

theorem Calm.sparesUdpTx {addr : Address} {data : List UInt8} (h : Calm i addr data) :
    SparesUdpTx i addr data := by
  refine ⟨h.1, fun hb => ?_⟩
  rcases h.2 hb with hcalm | ⟨hcr, command, hc, hdata⟩
  · refine ⟨?_, fun hcr => ?_⟩
    · rcases hcalm with h | h | h <;> rw [h] <;> decide
    · rw [hcr] at hcalm
      exact absurd hcalm (by decide)
  · refine ⟨by rw [hcr]; decide, fun _ => ⟨command, ?_, hdata⟩⟩
    rintro rfl
    exact absurd hc (by decide)

theorem written_udpTx {addr : Address} {data : List UInt8} (h : SparesUdpTx i addr data) :
    ChipState.StillSends i c.chip (c.written addr data).chip := by
  obtain ⟨a, block⟩ := addr
  cases block with
  | commonRegister =>
    rw [written, ChipState.serve_common]
    exact ⟨rfl, rfl⟩
  | socketRxBuffer j =>
    rw [written, ChipState.serve_writeRx]
    exact ⟨rfl, rfl⟩
  | socketTxBuffer j =>
    have hj : i ≠ j := fun hij => h.1 (congrArg _ hij.symm)
    rw [written, ChipState.serve_pokeTx]
    exact ⟨by rw [ChipState.pokeTx, ChipState.modifySocket_other hj], rfl⟩
  | socketRegister j =>
    rw [written, ChipState.serve_writeReg]
    refine ChipState.stillSends_writeReg (fun hj => ?_) _
    obtain ⟨hwr, hcr⟩ := h.2 (congrArg _ hj)
    refine ⟨hwr, fun ha => ?_⟩
    obtain ⟨command, hc, rfl⟩ := hcr ha
    rw [decode_command]
    cases command <;> first | exact absurd rfl hc | decide

theorem pass_sentDgrams (c : LiveChip size) : c.pass.chip.sentDgrams i = c.chip.sentDgrams i :=
  pass_of_happen (J := fun c' => c'.chip.sentDgrams i = c.chip.sentDgrams i) (fun _ _ _ h => h)
    (fun _ _ h => h) c rfl

theorem passive_udpTxLane (i : Fin 8) (base : List (UInt32 × UInt16 × List UInt8))
    (left : List Frame) (stored payload : List UInt8) (ptr : UInt16) : Passive (SparesUdpTx i)
      (UdpTxLane i base left stored payload ptr : LiveChip size → Prop) where
  pass c h := by
    refine ⟨(passive_sure (SparesUdpTx i) _).pass c h.sure, ?_, ?_⟩
    · rw [pass_sentDgrams]
      exact h.sent
    · rw [(pass_tx c).1]
      exact h.lane
  write c addr data hW h := by
    obtain ⟨htx, hsent⟩ := written_udpTx (c := c) hW
    exact ⟨h.sure, by rw [hsent]; exact h.sent, by rw [htx]; exact h.lane⟩

theorem passive_udpTxRest (i : Fin 8) (base : List (UInt32 × UInt16 × List UInt8))
    (left : List Frame) :
    Passive (SparesUdpTx i) (UdpTxRest i base left : LiveChip size → Prop) :=
  Passive.any fun ptr => passive_udpTxLane i base left [] [] ptr

/-- The writes that leave the destination of a socket alone. -/
def SparesDst (i : Fin 8) (addr : Address) (_ : List UInt8) : Prop :=
  addr.block = .socketRegister i →
    addr.address ≠ SN_MR ∧ addr.address ≠ SN_DIPR0 ∧ addr.address ≠ SN_DPORTR0

/-- A register of the destination is only changed by a write to it. -/
theorem passive_dst {β : Type} (g : SocketModel → β) (v : β) {a : UInt16}
    (hg : ∀ s : SocketModel, ∀ mr sr ir rx tx, g { s with mr, sr, ir, rx, tx } = g s)
    (hip : a ≠ SN_DIPR0 → ∀ s v, g { s with dstIp := v } = g s)
    (hport : a ≠ SN_DPORTR0 → ∀ s v, g { s with dstPort := v } = g s) :
    Passive (fun addr _ => addr ≠ ⟨a, .socketRegister i⟩)
      fun c : LiveChip size => g (c.chip.sockets i) = v where
  pass := pass_of_happen (fun _ _ _ h => h) fun c e h => by
    have hsame := ChipState.modifySocket_proj (i := i) g
      (fun s => hg s s.mr _ _ _ s.tx : ∀ s : SocketModel, g (s.happen size e.2) = g s) c.chip e.1
    exact hsame.trans h
  write c addr data hW h := by
    obtain ⟨b, block⟩ := addr
    cases block with
    | commonRegister => rwa [written, ChipState.serve_common]
    | socketRxBuffer j => rwa [written, ChipState.serve_writeRx]
    | socketTxBuffer j =>
      rw [written, ChipState.serve_pokeTx, ChipState.pokeTx,
        ChipState.modifySocket_proj g fun s => hg s s.mr s.sr s.ir s.rx _]
      exact h
    | socketRegister j =>
      rw [written, ChipState.serve_writeReg]
      by_cases hj : i = j
      · subst hj
        have ha {reg : UInt16} (hb : b = reg) : a ≠ reg := by
          rintro rfl
          exact hW (by rw [hb])
        exact (ChipState.writeReg_dst g data hg (fun hb => hip (ha hb)) fun hb =>
          hport (ha hb)).trans h
      · rwa [ChipState.writeReg_other hj]

theorem passive_dstIp (i : Fin 8) (ip : UInt32) :
    Passive (fun addr _ => addr ≠ ⟨SN_DIPR0, .socketRegister i⟩)
      fun c : LiveChip size => (c.chip.sockets i).dstIp = ip :=
  passive_dst SocketModel.dstIp ip (fun _ _ _ _ _ _ => rfl) (fun h => absurd rfl h)
    fun _ _ _ => rfl

theorem passive_dstPort (i : Fin 8) (port : UInt16) :
    Passive (fun addr _ => addr ≠ ⟨SN_DPORTR0, .socketRegister i⟩)
      fun c : LiveChip size => (c.chip.sockets i).dstPort = port :=
  passive_dst SocketModel.dstPort port (fun _ _ _ _ _ _ => rfl) (fun _ _ _ => rfl)
    fun h => absurd rfl h

theorem passive_aimed (i : Fin 8) (dst : SocketAddr) :
    Passive (SparesDst i) fun c : LiveChip size => ChipState.Aimed i dst c.chip where
  pass c h := ⟨(passive_inUdpMode i).pass c h.mode, (passive_dstIp i _).pass c h.ip,
    (passive_dstPort i _).pass c h.port⟩
  write c addr data hW h := by
    refine ⟨(passive_inUdpMode i).write c addr data ?_ h.mode,
      (passive_dstIp i _).write c addr data ?_ h.ip,
      (passive_dstPort i _).write c addr data ?_ h.port⟩ <;> rintro rfl
    · exact (hW rfl).1 rfl
    · exact (hW rfl).2.1 rfl
    · exact (hW rfl).2.2 rfl

theorem written_dstIp (ip : UInt32) (c : LiveChip size) :
    ((c.written ⟨SN_DIPR0, .socketRegister i⟩ (BigEndian.encode 4 ip.toNat)).chip.sockets i).dstIp =
      ip := by
  rw [written, ChipState.serve_writeReg]
  change ((c.chip.modifySocket i fun s => { s with dstIp := UInt32.ofNat _ }).sockets i).dstIp = ip
  simp only [ChipState.modifySocket, Function.update_self]
  rw [BigEndian.decode_encode_of_lt (UInt32.toNat_lt ip), UInt32.ofNat_toNat]

theorem written_dstPort (port : UInt16) (c : LiveChip size) :
    ((c.written ⟨SN_DPORTR0, .socketRegister i⟩
      (BigEndian.encode 2 port.toNat)).chip.sockets i).dstPort = port := by
  rw [written, ChipState.serve_writeReg]
  change ((c.chip.modifySocket i fun s =>
    { s with dstPort := UInt16.ofNat _ }).sockets i).dstPort = port
  simp only [ChipState.modifySocket, Function.update_self]
  rw [BigEndian.decode_encode_of_lt (UInt16.toNat_lt port), UInt16.ofNat_toNat]

/-- A payload staged in an empty buffer. -/
theorem UdpTxLane.poke (hs : FifoSize size) (h : UdpTxLane i base left [] [] ptr c)
    (hfits : bytes.length ≤ size) :
    UdpTxLane i base left [] bytes ptr (c.written ⟨ptr, .socketTxBuffer i⟩ bytes) := by
  have hnone : (c.chip.sockets i).tx.used.toNat = 0 := by
    have hstored := congrArg List.length h.lane.left
    rw [List.nil_append, ChipBuffer.stored_length] at hstored
    exact hstored.symm
  have hpoke := h.lane.poke hs (show _ + ([] : List UInt8).length + bytes.length ≤ size by
    rw [hnone, List.length_nil]
    omega)
  rw [List.nil_append, List.length_nil, show ptr + UInt16.ofNat 0 = ptr from UInt16.add_zero _]
    at hpoke
  refine ⟨h.sure, ?_, ?_⟩ <;> rw [written, ChipState.serve_pokeTx]
  · exact h.sent
  · simp only [ChipState.pokeTx, ChipState.modifySocket, Function.update_self]
    exact hpoke

/-- The write pointer moves behind what is staged. -/
theorem UdpTxLane.advance (hs : FifoSize size) (h : UdpTxLane i base left [] payload ptr c) :
    UdpTxLane i base left payload [] (ptr + UInt16.ofNat payload.length)
      (c.written ⟨SN_TX_WR0, .socketRegister i⟩
        (BigEndian.encode 2 (ptr + UInt16.ofNat payload.length).toNat)) := by
  have hlane := h.lane.advance hs
  rw [ChipBuffer.advance, h.lane.writePtr, List.nil_append] at hlane
  refine ⟨h.sure, ?_, ?_⟩ <;> rw [written, ChipState.serve_writeReg, ChipState.writeReg_txWr]
  · exact h.sent
  · simp only [ChipState.modifySocket, Function.update_self]
    exact hlane

/-- `SEND` makes a datagram of what is stored. -/
theorem UdpTxLane.send (h : UdpTxLane i base left f.payload [] ptr c)
    (ha : ChipState.Aimed i f.dst c.chip) : UdpTxRest i base (left ++ [f])
      (c.written ⟨SN_CR, .socketRegister i⟩
        (BigEndian.encode 1 SocketCommand.send.bits.toNat)) := by
  let chip : ChipState size :=
    { c.chip with commands := c.chip.commands ++ [(i, SocketCommand.send.bits)] }
  have hsend : (c.written ⟨SN_CR, .socketRegister i⟩
      (BigEndian.encode 1 SocketCommand.send.bits.toNat)).chip = ChipState.send i chip := by
    rw [written, ChipState.serve_writeReg, ChipState.writeReg_send]
  have hstored : (c.chip.sockets i).tx.stored size = f.payload := h.lane.left.symm
  have hused : (c.chip.sockets i).tx.flushed.used.toNat = 0 := by
    rw [ChipBuffer.used_flushed]
    rfl
  refine ⟨ptr, h.sure, ?_, ?_, ?_, rfl, ?_⟩ <;> rw [hsend]
  · rw [ChipState.send_sentDgrams (show ChipState.InUdpMode i chip from ha.mode)]
    change c.chip.sentDgrams i ++ [((c.chip.sockets i).dstIp, (c.chip.sockets i).dstPort,
      (c.chip.sockets i).tx.stored size)] = _
    rw [h.sent, ha.ip, ha.port, hstored, List.map_append, List.append_assoc]
    rfl
  · rw [ChipState.send_tx]
    exact (List.eq_nil_of_length_eq_zero ((ChipBuffer.stored_length ..).trans hused)).symm
  · rw [ChipState.send_tx]
    change (c.chip.sockets i).tx.flushed.used.toNat + 0 ≤ size
    omega
  · rw [ChipState.send_tx]
    exact h.lane.writePtr

/-! ## The ring and the wire -/

/-- Of the frames `acc` those before `gs` have left the tx ring. It was `t₀` when
`gs₀` were in it, and they have left it from the front. -/
structure Waiting (acc : List Frame) (t₀ : SpscRing w) (gs₀ : List Frame) (tx : SpscRing w)
    (left gs : List Frame) : Prop where
  all : acc = left ++ gs
  leaves : Retires t₀ gs₀ tx gs
  queued : Queued gs tx

/-- What stands of the frames that have left the ring. -/
def Away (acc : List Frame) (t₀ : SpscRing w) (gs₀ : List Frame) (tx : SpscRing w)
    (X : List Frame → Prop) : Prop := ∃ left gs, Waiting acc t₀ gs₀ tx left gs ∧ X left

/-- `left` are on the wire, of a socket that will send datagrams. -/
def UdpTxOpen (i : Fin 8) (base : List (UInt32 × UInt16 × List UInt8)) (left : List Frame)
    (c : LiveChip size) : Prop := UdpTxRest i base left c ∧ ChipState.InUdpMode i c.chip

/-- The same of a machine that may not have opened its socket yet. -/
def UdpTxAt (i : Fin 8) (base : List (UInt32 × UInt16 × List UInt8)) (left : List Frame)
    (st : SocketStatus) (c : LiveChip size) : Prop :=
  UdpTxRest i base left c ∧ (st = .opening ∨ st = .established → ChipState.InUdpMode i c.chip)

/-- While a transfer is in flight: a transmit has staged the payload of the last of
the frames. -/
def UdpTxHeld (i : Fin 8) (base : List (UInt32 × UInt16 × List UInt8)) (left : List Frame)
    (kind : BulkKind) (pointer : UInt16) (len : Nat) (txn : Transaction L (LiveChip size)) : Prop :=
  match kind with
  | .transmit => ∃ front f, left = front ++ [f] ∧ f.payload.length = len ∧
    UdpTxLane i base front [] f.payload pointer txn.dev ∧ ChipState.Aimed i f.dst txn.dev.chip
  | _ => UdpTxOpen i base left txn.dev

/-- The frames are on the wire, but for the one that a transmit has staged. -/
theorem UdpTxHeld.split {kind : BulkKind} {pointer : UInt16} {len : Nat}
    {txn : Transaction L (LiveChip size)} (h : UdpTxHeld i base left kind pointer len txn) :
    ∃ front flying, left = front ++ flying ∧ flying.length ≤ 1 ∧
      (kind ≠ .transmit → flying = []) ∧
      txn.dev.chip.sentDgrams i = base ++ front.map Frame.wire := by
  cases kind with
  | receive | receiveDatagram =>
    obtain ⟨⟨ptr, hlane⟩, -⟩ := h
    exact ⟨left, [], (List.append_nil _).symm, Nat.zero_le _, fun _ => rfl, hlane.sent⟩
  | transmit =>
    obtain ⟨front, f, rfl, -, hlane, -⟩ := h
    exact ⟨front, [f], rfl, le_rfl, fun h => absurd rfl h, hlane.sent⟩

variable {t₀ tx : SpscRing w} {gs₀ gs : List Frame}

/-- The front frame leaves. -/
theorem Waiting.next (h : Waiting acc t₀ gs₀ tx left (f :: gs)) :
    Waiting acc t₀ gs₀ { popped f.payload.length (popped FRAME_HEADER tx) with
      framesOut := tx.framesOut + 1 } (left ++ [f]) gs where
  all := by rw [h.all, List.append_assoc]; rfl
  leaves := h.leaves.trans h.queued.released
  queued := h.queued.leaves h.queued.released

theorem Away.imp {X X' : List Frame → Prop} (h : Away acc t₀ gs₀ tx X)
    (hX : ∀ left, X left → X' left) : Away acc t₀ gs₀ tx X' := by
  obtain ⟨left, gs, hw, h⟩ := h
  exact ⟨left, gs, hw, hX left h⟩

theorem passive_away {W : Address → List UInt8 → Prop} {X : List Frame → LiveChip size → Prop}
    (h : ∀ left, Passive W (X left)) (acc : List Frame) (t₀ : SpscRing w) (gs₀ : List Frame)
    (tx : SpscRing w) : Passive W fun c => Away acc t₀ gs₀ tx fun left => X left c :=
  Passive.any fun left => Passive.any fun gs => (h left).beside (Waiting acc t₀ gs₀ tx left gs)

theorem UdpTxOpen.at (h : UdpTxOpen i base left c) (st : SocketStatus) :
    UdpTxAt i base left st c := ⟨h.1, fun _ => h.2⟩

/-- The writes that leave both what a socket sends and its mode alone. -/
def SparesSending (i : Fin 8) (addr : Address) (data : List UInt8) : Prop :=
  SparesUdpTx i addr data ∧ addr ≠ ⟨SN_MR, .socketRegister i⟩

theorem Calm.sparesSending {addr : Address} {data : List UInt8} (h : Calm i addr data) :
    SparesSending i addr data := by
  refine ⟨h.sparesUdpTx, ?_⟩
  rintro rfl
  rcases h.2 rfl with hcalm | ⟨hcr, -⟩
  · exact absurd hcalm (show ¬ (SN_MR = SN_IRCLR ∨ SN_MR = SN_IMR ∨ SN_MR = SN_PORTR0) by decide)
  · exact absurd hcr (show SN_MR ≠ SN_CR by decide)

theorem passive_udpTxAt (i : Fin 8) (base : List (UInt32 × UInt16 × List UInt8))
    (left : List Frame) (st : SocketStatus) :
    Passive (SparesSending i) (UdpTxAt i base left st : LiveChip size → Prop) :=
  ((passive_udpTxRest i base left).spare fun _ _ h => h.1).and
    (((passive_inUdpMode i).spare fun _ _ h => h.2).given (st = .opening ∨ st = .established))

theorem passive_udpTxOpen (i : Fin 8) (base : List (UInt32 × UInt16 × List UInt8))
    (left : List Frame) :
    Passive (SparesSending i) (UdpTxOpen i base left : LiveChip size → Prop) :=
  ((passive_udpTxRest i base left).spare fun _ _ h => h.1).and
    ((passive_inUdpMode i).spare fun _ _ h => h.2)

/-- The mode that a machine sets before `OPEN` stays while it is established. -/
theorem tuned_udpTx (i : Fin 8) (base : List (UInt32 × UInt16 × List UInt8)) (acc : List Frame)
    (t₀ : SpscRing w) (gs₀ : List Frame) : Tuned i
      (fun st rings (c : LiveChip size) =>
        Away acc t₀ gs₀ rings.tx fun left => UdpTxAt i base left st c)
      fun rings c => Away acc t₀ gs₀ rings.tx fun left => UdpTxOpen i base left c where
  passive st rings := (passive_away (fun left => passive_udpTxAt i base left st) acc t₀ gs₀
    rings.tx).spare fun _ _ => Calm.sparesSending
  passive' rings := (passive_away (fun left => passive_udpTxOpen i base left) acc t₀ gs₀
    rings.tx).spare fun _ _ => Calm.sparesSending
  mode rings c h := by
    refine h.imp fun left h => ⟨(passive_udpTxRest i base left).write c _ _
      ⟨nofun, fun _ => ?_⟩ h.1, inUdpMode_modeSet c⟩
    exact ⟨show SN_MR ≠ SN_TX_WR0 by decide, fun h => absurd h (show SN_MR ≠ SN_CR by decide)⟩
  untuned _ _ h := h.imp fun _ h => h.at .init
  opens rings c h := by
    have hspares : SparesSending i ⟨SN_CR, .socketRegister i⟩
        (BigEndian.encode 1 SocketCommand.open.bits.toNat) :=
      ⟨⟨nofun, fun _ => ⟨show SN_CR ≠ SN_TX_WR0 by decide, fun _ => ⟨.open, by decide, rfl⟩⟩⟩,
        fun h => absurd (congrArg Address.address h) (show SN_CR ≠ SN_MR by decide)⟩
    exact h.imp fun left h =>
      ((passive_udpTxOpen i base left).write c _ _ hspares h).at .opening
  opened _ _ h := h.imp fun _ h => ⟨h.1, fun _ => h.2 (.inl rfl)⟩
  leaves ho he _ _ h := h.imp fun _ h => ⟨h.1, fun h' => absurd h' (not_or.mpr ⟨ho, he⟩)⟩

end LiveChip

/-! ## The tick -/

namespace UdpSocketState

open LiveChip

variable {base : List (UInt32 × UInt16 × List UInt8)} {acc : List Frame} {t₀ : SpscRing w}
  {gs₀ : List Frame}

/-- The bus of a machine that sends datagrams. -/
def TxIdle (i : Fin 8) (base : List (UInt32 × UInt16 × List UInt8)) (acc : List Frame)
    (t₀ : SpscRing w) (gs₀ : List Frame) (s : Tick UdpSocketState w L (LiveChip size)) : Prop :=
  IdleOn (fun c => Away acc t₀ gs₀ s.2.rings.tx fun left => UdpTxOpen i base left c) s.2.trans

def UdpTxStarted (i : Fin 8) (base : List (UInt32 × UInt16 × List UInt8)) (acc : List Frame)
    (t₀ : SpscRing w) (gs₀ : List Frame) (kind : BulkKind) (pointer : UInt16) (len : Nat)
    (io : Io w L (LiveChip size)) : Prop :=
  ∃ txn, io.trans = .inFlight txn ∧
    Away acc t₀ gs₀ io.rings.tx fun left => UdpTxHeld i base left kind pointer len txn

/-- A step towards sending, or a transfer. -/
def Moving (i : Fin 8) (base : List (UInt32 × UInt16 × List UInt8)) (acc : List Frame)
    (t₀ : SpscRing w) (gs₀ : List Frame) :
    BulkAction → Tick UdpSocketState w L (LiveChip size) → Prop
  | .none, s => TxIdle i base acc t₀ gs₀ s
  | .started kind pointer len, s => UdpTxStarted i base acc t₀ gs₀ kind pointer len s.2

/-- A packet taken off the chip is nothing to what is sent. -/
theorem keeps_skipTo (hL : 67 ≤ L) {J : LiveChip size → Prop} (hp : Passive (SparesSending i) J)
    (pointer : UInt16) : Keeps (IdleOn (L := L) J) (skipTo (socketBlock i) pointer) := by
  have hwrite {address : UInt16} {n v : Nat} (hn : n ≤ 4) (hmr : address ≠ SN_MR)
      (hwr : address ≠ SN_TX_WR0) (hcr : address = SN_CR → ∃ c : SocketCommand, c ≠ .send ∧
        BigEndian.encode n v = BigEndian.encode 1 c.bits.toNat) : Keeps (IdleOn (L := L) J)
        (write ⟨address, .socketRegister i⟩ (BigEndian.encode n v)) :=
    hp.keeps_write ⟨⟨nofun, fun _ => ⟨hwr, hcr⟩⟩, fun h => hmr (congrArg Address.address h)⟩
      (by rw [BigEndian.encode_length, HEADER]; omega)
  refine Keeps.bind (hwrite (by decide) (by decide) (by decide) fun h =>
    absurd h (by decide)) fun _ => ?_
  refine Keeps.bind (hwrite (by decide) (by decide) (by decide) fun _ =>
    ⟨.receive, by decide, rfl⟩) fun _ => ?_
  exact hwrite (by decide) (by decide) (by decide) fun h => absurd h (by decide)

/-- What comes in does not touch what goes out. -/
theorem triple_udpTx_receive (hL : 67 ≤ L) :
    Triple (fun s : Tick UdpSocketState w L (LiveChip size) => TxIdle i base acc t₀ gs₀ s)
      (receive (socketBlock i)) (Moving i base acc t₀ gs₀) fun _ => TxIdle i base acc t₀ gs₀ := by
  let Rests : Tick UdpSocketState w L (LiveChip size) → Prop := TxIdle i base acc t₀ gs₀
  let Open (tx : SpscRing w) (c : LiveChip size) : Prop :=
    Away acc t₀ gs₀ tx fun left => UdpTxOpen i base left c
  have hp (tx : SpscRing w) : Passive (SparesSending i) (Open tx) :=
    passive_away (fun left => passive_udpTxOpen i base left) acc t₀ gs₀ tx
  have hrx {α : Type} (p : Prog (SpscRing w) α) : Keeps Rests (onRx p) := by
    refine Keeps.always fun s h => ?_
    rw [Prog.run_zoom]
    exact h
  have hbus {α : Type} {p : Code Error (Transceiver L (LiveChip size)) α}
      (h : ∀ tx, Keeps (IdleOn (Open tx)) p) : Keeps Rests (onBus p) := by
    rintro ⟨u, cell, rings⟩ hc
    rw [onBus, wp_zoom]
    exact wp_mono (h rings.tx cell hc) (fun _ _ h => h) fun _ _ h => h
  have hread (address : UInt16) : Keeps Rests (onBus (readU16 ⟨address, .socketRegister i⟩)) :=
    hbus fun tx => ((hp tx).keeps_read _ (by rw [HEADER]; omega)).map _
  have hskip (pointer : UInt16) : Keeps Rests (onBus (skipTo (socketBlock i) pointer)) :=
    hbus fun tx => keeps_skipTo hL (hp tx) pointer
  have hnone : Triple Rests (pure BulkAction.none : Code Error _ _) (Moving i base acc t₀ gs₀)
      fun _ => Rests := fun _ h => h
  refine (hread _).andThen fun available => ?_
  split
  · exact hnone
  refine (hread _).andThen fun start => ?_
  refine Keeps.andThen (hbus fun tx => (hp tx).keeps_read _ (by rw [HEADER, PACKINFO]; omega))
    fun head => ?_
  dsimp only
  generalize (UInt16.ofNat (BigEndian.decode (head.take 2)) &&& PACKINFO_LEN_MASK).toNat = len
  generalize UInt32.ofNat (BigEndian.decode ((head.drop 2).take 4)) = srcIp
  generalize UInt16.ofNat (BigEndian.decode ((head.drop 6).take 2)) = srcPort
  split
  · exact hnone
  refine (hrx _).andThen fun capacity => ?_
  split
  · exact (hskip _).andThen fun _ => hnone
  refine (hrx _).andThen fun free => ?_
  split
  · exact hnone
  split
  · refine (hrx _).andThen fun _ => (hrx _).andThen fun _ => ?_
    exact (hskip _).andThen fun _ => hnone
  · rintro ⟨u, cell, rx, tx⟩ hc
    rw [wp_onBus_bind]
    refine wp_mono (LiveChip.wp_startRead (hp tx).pass i _ len hc) ?_ fun _ _ h => h
    rintro _ _ ⟨txn, rfl, hsends, -⟩
    exact ⟨txn, rfl, hsends⟩

/-- The destination is programmed before anything of the payload is sent. -/
theorem wp_aim (hL : 67 ≤ L) {left : List Frame} {ptr : UInt16} (dst : SocketAddr)
    {cell : Transceiver L (LiveChip size)}
    (hc : IdleOn (fun c => UdpTxLane i base left [] [] ptr c ∧ ChipState.InUdpMode i c.chip) cell) :
    wp (do
      setIpv4DstAddr (socketBlock i) dst.ip
      setDstPort (socketBlock i) dst.port)
      (fun _ => IdleOn fun c => UdpTxLane i base left [] [] ptr c ∧ ChipState.Aimed i dst c.chip)
      (fun _ _ => False) cell := by
  have hlane : Passive (SparesUdpTx i) (UdpTxLane i base left [] [] ptr : LiveChip size → Prop) :=
    passive_udpTxLane i base left [] [] ptr
  have hspares {address : UInt16} {n v : Nat} (hwr : address ≠ SN_TX_WR0) (hcr : address ≠ SN_CR) :
      SparesUdpTx i ⟨address, .socketRegister i⟩ (BigEndian.encode n v) :=
    ⟨nofun, fun _ => ⟨hwr, fun h => absurd h hcr⟩⟩
  have hmode {address : UInt16} (hmr : address ≠ SN_MR) :
      (⟨address, .socketRegister i⟩ : Address) ≠ ⟨SN_MR, .socketRegister i⟩ :=
    fun h => hmr (congrArg Address.address h)
  rw [wp_bind]
  refine wp_mono (wp_write_sure (fun c h => ⟨hlane.pass c h.1, (passive_inUdpMode i).pass c h.2⟩)
    ⟨SN_DIPR0, .socketRegister i⟩ (by rw [BigEndian.encode_length, HEADER]; omega) hc
    fun c h => h.1.sure 0 _ ⟨_, _, _, rfl, .inr ⟨rfl, .inl rfl⟩⟩) ?_ fun _ _ h => h
  rintro _ _ ⟨c, scratch, rfl, h, hm⟩
  have hip : IdleOn (L := L) (fun c => (UdpTxLane i base left [] [] ptr c ∧
      ChipState.InUdpMode i c.chip) ∧ (c.chip.sockets i).dstIp = dst.ip)
      (.idle (c.written ⟨SN_DIPR0, .socketRegister i⟩ (BigEndian.encode 4 dst.ip.toNat)) scratch) :=
    ⟨_, scratch, rfl, ⟨hlane.write c _ _ (hspares (by decide) (by decide)) h,
      (passive_inUdpMode i).write c _ _ (hmode (by decide)) hm⟩, written_dstIp dst.ip c⟩
  refine wp_mono (wp_write_sure (fun c h => ⟨⟨hlane.pass c h.1.1,
    (passive_inUdpMode i).pass c h.1.2⟩, (passive_dstIp i dst.ip).pass c h.2⟩)
    ⟨SN_DPORTR0, .socketRegister i⟩ (by rw [BigEndian.encode_length, HEADER]; omega) hip
    fun c h => h.1.1.sure 0 _ ⟨_, _, _, rfl, .inr ⟨rfl, .inr (.inl rfl)⟩⟩) ?_ fun _ _ h => h
  rintro _ _ ⟨c, scratch, rfl, ⟨h, hm⟩, hdst⟩
  refine ⟨_, scratch, rfl, hlane.write c _ _ (hspares (by decide) (by decide)) h,
    (passive_inUdpMode i).write c _ _ (hmode (by decide)) hm,
    (passive_dstIp i dst.ip).write c _ _ ?_ hdst, written_dstPort dst.port c⟩
  exact fun h => absurd (congrArg Address.address h) (show SN_DPORTR0 ≠ SN_DIPR0 by decide)

theorem pass_aimed {left : List Frame} {stored payload : List UInt8} {dst : SocketAddr}
    {ptr : UInt16} (c : LiveChip size)
    (h : UdpTxLane i base left stored payload ptr c ∧ ChipState.Aimed i dst c.chip) :
    UdpTxLane i base left stored payload ptr c.pass ∧ ChipState.Aimed i dst c.pass.chip :=
  ⟨(passive_udpTxLane i base left stored payload ptr).pass c h.1, (passive_aimed i dst).pass c h.2⟩

/-- `SEND` of what is stored. -/
theorem wp_udpTx_send (hL : 67 ≤ L) {left : List Frame} {f : Frame} {ptr : UInt16}
    {cell : Transceiver L (LiveChip size)}
    (hc : IdleOn (fun c => UdpTxLane i base left f.payload [] ptr c ∧
      ChipState.Aimed i f.dst c.chip) cell) :
    wp (sendSockCommand (socketBlock i) .send)
      (fun _ => IdleOn fun c => UdpTxRest i base (left ++ [f]) c ∧ ChipState.InUdpMode i c.chip)
      (fun _ _ => False) cell := by
  refine wp_mono (wp_write_sure pass_aimed ⟨SN_CR, .socketRegister i⟩
    (by rw [BigEndian.encode_length, HEADER]; omega) hc
    fun c h => h.1.sure 0 _ ⟨_, _, _, rfl, .inr ⟨rfl, .inr (.inr (.inr ⟨rfl, rfl⟩))⟩⟩) ?_
    fun _ _ h => h
  rintro _ _ ⟨c, scratch, rfl, h, ha⟩
  refine ⟨_, scratch, rfl, h.send ha, (passive_inUdpMode i).write c _ _ ?_ ha.mode⟩
  exact fun h => absurd (congrArg Address.address h) (show SN_CR ≠ SN_MR by decide)

/-- The start of a transfer of the bytes `bs` at the front of the ring. -/
theorem wp_udpTx_burst (hs : FifoSize size) {u : UdpSocketState}
    {rx tx : SpscRing w} {left : List Frame} {bs : List UInt8} {dst : SocketAddr} {ptr : UInt16}
    {cell : Transceiver L (LiveChip size)} (hfit : HEADER + bs.length ≤ L) (hring : Sound tx)
    (hbs : (contents tx).take bs.length = bs) (hsize : bs.length ≤ size)
    (hc : IdleOn (fun c => UdpTxLane i base left [] [] ptr c ∧ ChipState.Aimed i dst c.chip) cell) :
    wp (startWriteTxBuffer bus (socketBlock i) ptr bs.length drain)
      (fun _ s' => ∃ txn : Transaction L (LiveChip size),
        s' = (u, ⟨.inFlight txn, rx, popped bs.length tx⟩) ∧
        UdpTxLane i base left [] bs ptr txn.dev ∧ ChipState.Aimed i dst txn.dev.chip)
      (fun _ _ => False) ((u, ⟨cell, rx, tx⟩) : Tick UdpSocketState w L (LiveChip size)) := by
  have hle : bs.length ≤ (contents tx).length := by
    have hlen := congrArg List.length hbs
    rw [List.length_take] at hlen
    omega
  refine wp_mono (LiveChip.wp_startWrite pass_aimed bus ⟨ptr, .socketTxBuffer i⟩ bs.length drain
    (s := (u, (⟨cell, rx, tx⟩ : Io w L (LiveChip size)))) hc) ?_ ?_
  · rintro _ _ ⟨buf, txn, c, payload, hbuf, ⟨hlane, haim⟩, rfl, hdev, hstaged⟩
    rw [show bus.set .pending (u, (⟨cell, rx, tx⟩ : Io w L (LiveChip size))) =
      (u, ⟨.pending, rx, tx⟩) from rfl, run_drain hring (hbuf.trans_le hle), hbuf, hbs] at hstaged ⊢
    refine ⟨txn, rfl, ?_⟩
    rw [hdev, hstaged rfl]
    exact ⟨hlane.poke hs hsize, (passive_aimed i dst).write c _ _ (by rintro ⟨⟩) haim⟩
  · rintro _ _ (⟨-, hover⟩ | ⟨buf, idle, c, payload, -, -, -, ⟨hlane, -⟩, hfails⟩)
    · omega
    · rw [hlane.sure 0 _ ⟨_, _, _, rfl, .inl rfl⟩] at hfails
      cases hfails

/-- The front frame goes out, as soon as there is room for its payload. -/
theorem triple_udpTx_transmit (hs : FifoSize size) (hL : 67 ≤ L)
    (hfit : HEADER + min size t₀.cap.toNat ≤ L) :
    Triple (fun s : Tick UdpSocketState w L (LiveChip size) => TxIdle i base acc t₀ gs₀ s)
      (transmit (socketBlock i)) (Moving i base acc t₀ gs₀) fun _ => TxIdle i base acc t₀ gs₀ := by
  have hread : HEADER + 2 ≤ L := by rw [HEADER]; omega
  rintro ⟨u, cell, rx, tx⟩ ⟨c, scratch, hcell, left, gs, hw, ⟨ptr, hc⟩, hm⟩
  obtain rfl : cell = .idle c scratch := hcell
  dsimp only at hw
  have hidle {cell : Transceiver L (LiveChip size)} (h : IdleOn (fun c =>
      UdpTxLane i base left [] [] ptr c ∧ ChipState.InUdpMode i c.chip) cell) :
      TxIdle i base acc t₀ gs₀ ((u, ⟨cell, rx, tx⟩) : Tick UdpSocketState w L (LiveChip size)) := by
    obtain ⟨dev, scratch, hdev, h, hm⟩ := h
    exact ⟨dev, scratch, hdev, left, gs, hw, ⟨ptr, h⟩, hm⟩
  have hpass (c : LiveChip size)
      (h : UdpTxLane i base left [] [] ptr c ∧ ChipState.InUdpMode i c.chip) :
      UdpTxLane i base left [] [] ptr c.pass ∧ ChipState.InUdpMode i c.pass.chip :=
    ⟨(passive_udpTxLane i base left [] [] ptr).pass c h.1, (passive_inUdpMode i).pass c h.2⟩
  unfold transmit
  rw [wp_onTx_bind, run_frames]
  dsimp only
  split
  · exact hidle ⟨c, scratch, rfl, hc, hm⟩
  next hsome =>
  obtain ⟨f, rest, rfl⟩ := hw.queued.some hsome
  rw [wp_onTx_bind, hw.queued.header, run_peek]
  dsimp only
  rw [wp_onBus_bind]
  refine wp_mono (wp_readU16 hpass i SN_TX_FSR0 hread ⟨c, scratch, rfl, hc, hm⟩) ?_
    fun _ _ h => hidle h
  rintro free _ ⟨c₁, scratch₁, rfl, hc₁, hfree⟩
  split
  · exact hidle ⟨c₁, scratch₁, rfl, hc₁⟩
  next hroom =>
  have hsize : f.payload.length ≤ size := by
    have hused := hc₁.1.lane.room
    rw [List.length_nil, Nat.add_zero] at hused
    have hvalue : free = (c₁.chip.sockets i).tx.free size :=
      hfree.trans (UInt16.toUInt16_toUInt32 _)
    rw [hvalue, ChipBuffer.toNat_free hs hused] at hroom
    omega
  -- from here on nothing fails
  rw [wp_onTx_bind, hw.queued.read_header, wp_onBus_bind]
  have haim := wp_aim hL f.dst ⟨c₁, scratch₁, rfl, hc₁⟩
  rw [wp_bind] at haim
  refine wp_mono haim ?_ fun _ _ h => h.elim
  intro _ cell₂ hport
  rw [wp_onBus_bind]
  refine wp_mono hport ?_ fun _ _ h => h.elim
  intro _ cell₃ hc₃
  split
  next hz =>
    have hnil := List.length_eq_zero_iff.mp hz
    have hnext := hw.next
    rw [hnil, List.length_nil, popped_zero] at hnext
    have hempty : IdleOn (fun c => UdpTxLane i base left f.payload [] ptr c ∧
        ChipState.Aimed i f.dst c.chip) cell₃ := by
      rw [hnil]
      exact hc₃
    rw [wp_onBus_bind]
    refine wp_mono (wp_udpTx_send hL hempty) ?_ fun _ _ h => h.elim
    rintro _ _ ⟨c₄, scratch₄, rfl, hsent, hm₄⟩
    rw [wp_onTx_bind]
    exact ⟨c₄, scratch₄, rfl, left ++ [f], rest, hnext, hsent, hm₄⟩
  · rw [wp_onBus_bind]
    refine wp_mono (wp_readU16_sure pass_aimed i SN_TX_WR0 hread hc₃ fun c payload h =>
      h.1.sure 0 _ ⟨_, _, _, rfl, .inr ⟨rfl, .inr (.inr (.inl rfl))⟩⟩) ?_ fun _ _ h => h.elim
    rintro pointer cell₄ ⟨c₄, scratch₄, rfl, hc₄, hpointer⟩
    obtain rfl : pointer = ptr := by
      rw [hpointer, ← hc₄.1.lane.writePtr]
      exact UInt16.toUInt16_toUInt32 _
    have hle := hw.queued.bytes_le
    have hbehind : Sound (popped FRAME_HEADER tx) := hw.queued.even.sound.popped (by omega)
    rw [wp_bind]
    have hcap : f.payload.length ≤ t₀.cap.toNat := by
      have hroom := hw.queued.even.room
      rw [hw.leaves.room.1] at hroom
      omega
    refine wp_mono (wp_udpTx_burst hs (by omega) hbehind hw.queued.payload hsize
      ⟨c₄, scratch₄, rfl, hc₄⟩) ?_ fun _ _ h => h.elim
    rintro _ _ ⟨txn, rfl, hlane, haim⟩
    rw [wp_onTx_bind]
    exact ⟨txn, rfl, left ++ [f], rest, hw.next, left, f, rfl, rfl, hlane, haim⟩

theorem TxIdle.stands {s : Tick UdpSocketState w L (LiveChip size)}
    (h : TxIdle i base acc t₀ gs₀ s) :
    Stands (fun st rings c => Away acc t₀ gs₀ rings.tx fun left => UdpTxAt i base left st c) s := by
  obtain ⟨dev, scratch, hdev, h⟩ := h
  exact ⟨dev, scratch, hdev, h.imp fun _ h => h.at _⟩

theorem moves_udpTx (hs : FifoSize size) (hL : 67 ≤ L)
    (hfit : HEADER + min size t₀.cap.toNat ≤ L) :
    let Rests (st : SocketStatus) (rings : SocketRings w) (c : LiveChip size) : Prop :=
      Away acc t₀ gs₀ rings.tx fun left => UdpTxAt i base left st c
    let Started : BulkKind → UInt16 → Nat → Io w L (LiveChip size) → Prop :=
      UdpTxStarted i base acc t₀ gs₀
    Moves i Rests Started := by
  rintro _ _ s hst ⟨dev, scratch, hdev, haway⟩
  have hidle : TxIdle i base acc t₀ gs₀ s :=
    ⟨dev, scratch, hdev, haway.imp fun _ h => ⟨h.1, h.2 (.inr hst)⟩⟩
  refine wp_mono (triple_udpTx_receive hL s hidle) ?_ fun _ _ h => h.stands
  rintro (_ | ⟨kind, pointer, len⟩) s' hs'
  · refine wp_mono (triple_udpTx_transmit hs hL hfit s' hs') ?_ fun _ _ h => h.stands
    rintro (_ | ⟨kind, pointer, len⟩) s'' hs''
    · exact TxIdle.stands hs''
    · exact hs''
  · exact hs'

end UdpSocketState

/-! ## The lane -/

section Lane

open LiveChip

variable {base : List (UInt32 × UInt16 × List UInt8)} {acc : List Frame} {t₀ : SpscRing w}
  {gs₀ : List Frame}

/-- The completion of a transfer of the slot sends the datagram. -/
theorem udpTx_finish (hs : FifoSize size) (hL : 67 ≤ L) (st : SocketStatus) {op : BulkOp}
    {txn : Transaction L (LiveChip size)} {io : Io w L (LiveChip size)} (hi : op.idx = i)
    (hop : Describes op txn) (hbus : io.trans = .inFlight txn)
    (hf : Away acc t₀ gs₀ io.rings.tx fun left =>
      UdpTxHeld i base left op.kind op.pointer op.len txn) :
    let Idle (io : Io w L (LiveChip size)) : Prop :=
      IdleOn (fun c => Away acc t₀ gs₀ io.rings.tx fun left => UdpTxAt i base left st c) io.trans
    wp (W6100.finishBulk op) (fun _ => Idle) (fun _ => Idle) io := by
  have hblock := hop.block
  rw [hi] at hblock
  obtain ⟨cell, rx, tx⟩ := io
  refine (W6100.wp_finishBulk_iff hbus).mpr ?_
  obtain ⟨left, gs, hw, hheld⟩ := hf
  dsimp only at hw ⊢
  let Idle (cell : Transceiver L (LiveChip size)) : Prop :=
    IdleOn (fun c => Away acc t₀ gs₀ tx fun left => UdpTxAt i base left st c) cell
  have hreceive (hkind : op.kind ≠ .transmit) (h : UdpTxOpen i base left txn.dev) :
      wp (W6100.epilogue op) (fun _ => Idle) (fun _ => Idle) (.idle txn.dev txn.buffers) := by
    have hp : Passive (SparesSending i)
        fun c : LiveChip size => Away acc t₀ gs₀ tx fun left => UdpTxAt i base left st c :=
      passive_away (fun left => passive_udpTxAt i base left st) acc t₀ gs₀ tx
    have hcommit := UdpSocketState.keeps_skipTo hL hp (op.pointer + UInt16.ofNat op.len)
    cases hk : op.kind with
    | transmit => exact absurd hk hkind
    | receive | receiveDatagram =>
      rw [W6100.epilogue, hk, W6100.commitReceive, hblock]
      exact hcommit _ ⟨_, _, rfl, left, gs, hw, h.at st⟩
  cases hkind : op.kind with
  | receive | receiveDatagram =>
    rw [hkind] at hheld
    exact hreceive (by rw [hkind]; nofun) hheld
  | transmit =>
    rw [hkind] at hheld
    obtain ⟨left, f, rfl, hlen, hlane, ha⟩ := hheld
    rw [W6100.epilogue, hkind, hblock]
    dsimp only
    rw [wp_bind, ← hlen]
    have hstaged : IdleOn (fun c => UdpTxLane i base left [] f.payload op.pointer c ∧
        ChipState.Aimed i f.dst c.chip) (.idle txn.dev txn.buffers) := ⟨_, _, rfl, hlane, ha⟩
    refine wp_mono (wp_write_sure (fun c h =>
      ⟨(passive_udpTxLane i base left [] f.payload op.pointer).pass c h.1,
        (passive_aimed i f.dst).pass c h.2⟩) ⟨SN_TX_WR0, .socketRegister i⟩
      (by rw [BigEndian.encode_length, HEADER]; omega) hstaged
      fun c h => h.1.sure 0 _ ⟨_, _, _, rfl, .inr ⟨rfl, .inr (.inr (.inl rfl))⟩⟩) ?_
      fun _ _ h => h.elim
    rintro _ _ ⟨c, scratch, rfl, hc, hca⟩
    have hstored : IdleOn (L := L) (fun c => UdpTxLane i base left f.payload []
        (op.pointer + UInt16.ofNat f.payload.length) c ∧ ChipState.Aimed i f.dst c.chip)
        (.idle _ scratch) := ⟨_, scratch, rfl, hc.advance hs, (passive_aimed i f.dst).write c _ _
      (fun _ => ⟨show SN_TX_WR0 ≠ SN_MR by decide, show SN_TX_WR0 ≠ SN_DIPR0 by decide,
        show SN_TX_WR0 ≠ SN_DPORTR0 by decide⟩) hca⟩
    refine wp_mono (UdpSocketState.wp_udpTx_send hL hstored) ?_ fun _ _ h => h.elim
    rintro _ _ ⟨c', scratch', rfl, hsent, hm⟩
    exact ⟨c', scratch', rfl, left ++ [f], gs, hw, hsent, fun _ => hm⟩

/-- What a UDP socket sends: the application has staged `acc`, and since the tx ring
stood at `t₀` with `gs₀` in it frames have only left it. -/
def txUdp (hs : FifoSize size) (hL : 67 ≤ L) (i : Fin 8)
    (base : List (UInt32 × UInt16 × List UInt8)) (acc : List Frame) (t₀ : SpscRing w)
    (gs₀ : List Frame) (hfit : HEADER + min size t₀.cap.toNat ≤ L) : Lane w L size i where
  protocol := .udp
  spares := SparesSending i
  rest st rings c := Away acc t₀ gs₀ rings.tx fun left => UdpTxAt i base left st.udpStatus c
  flight _ op rings txn := Away acc t₀ gs₀ rings.tx fun left =>
    UdpTxHeld i base left op.kind op.pointer op.len txn
  spared _ _ h h' := ⟨⟨h', fun hb => absurd hb h⟩, fun haddr => h (congrArg Address.block haddr)⟩
  passive st rings :=
    passive_away (fun left => passive_udpTxAt i base left st.udpStatus) acc t₀ gs₀ rings.tx
  stalled hst := by
    refine ⟨fun _ _ h => ?_, fun _ _ _ h => h⟩
    rwa [hst.status.udpStatus]
  tick b io hp hr hblock hidle := by
    have htick := SocketBackend.run_udp hL (tuned_udpTx i base acc t₀ gs₀)
      (UdpSocketState.moves_udpTx hs hL hfit) hp hr hblock hidle
    rcases hb : b.run.run io with ⟨⟨result, b'⟩, io'⟩
    rw [hb] at htick
    obtain ⟨hslot, hresult⟩ := htick
    refine ⟨hslot, ?_⟩
    rcases result with e | (_ | ⟨kind, pointer, len⟩) <;> exact hresult
  finish st op txn io hi hop hbus hf := udpTx_finish hs hL st.udpStatus hi hop hbus hf

end Lane

end Wiznet
