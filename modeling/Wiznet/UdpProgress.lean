import Wiznet.FaultFree
import Wiznet.UdpStaging

/-! # One datagram at a time

The datagram at the head of the chip's buffer, or of the tx ring, goes first. A
datagram that neither goes nor is dropped is at the head in the next tick again.
`receive` asks the ring whether it can ever take the datagram, but not the
scratch; `transmit` asks neither the chip nor the scratch. -/

namespace Wiznet
open Resumption Resumption.Code Tick SpscRing

variable {w L : Nat} {D : Type} [SpiDmaDevice D]

/-- Taking a packet off the chip is three register writes. -/
theorem Reliable.exec_skipTo {I : D → Prop} (hI : Reliable I) {cell : Transceiver L D}
    (hi : IdleOn I cell) (hL : 11 ≤ L) (block : BlockAddress) (pointer : UInt16) :
    ∃ after, exec (UdpSocketState.skipTo block pointer) cell = (.ok (), after) := by
  obtain ⟨cell₁, h₁, hi₁⟩ := hI.exec_writeReg ⟨SN_RX_RD0, block.reg⟩ pointer.toNat hi hL
    (show 2 ≤ 4 by omega)
  obtain ⟨cell₂, h₂, hi₂⟩ := hI.exec_writeReg ⟨SN_CR, block.reg⟩
    SocketCommand.receive.bits.toNat hi₁ hL (show 1 ≤ 4 by omega)
  obtain ⟨cell₃, h₃, -⟩ := hI.exec_writeReg ⟨SN_IRCLR, block.reg⟩
    SocketInterrupt.RECV.bits.toNat hi₂ hL (show 1 ≤ 4 by omega)
  refine ⟨cell₃, ?_⟩
  rw [UdpSocketState.skipTo, exec_bind_ok (show exec (setRxReadPointer block pointer) cell = _ from h₁),
    exec_bind_ok (show exec (sendSockCommand block .receive) cell₁ = _ from h₂)]
  exact h₃

namespace UdpSocketState

/-! ## Receiving -/

/-- What `receive` reads of the packet at the head of the chip's buffer. -/
structure Packet where
  available : UInt16
  start : UInt16
  head : List UInt8

namespace Packet

def payloadLen (p : Packet) : Nat :=
  (UInt16.ofNat (BigEndian.decode (p.head.take 2)) &&& PACKINFO_LEN_MASK).toNat

def peer (p : Packet) : SocketAddr :=
  ⟨UInt32.ofNat (BigEndian.decode ((p.head.drop 2).take 4)),
    UInt16.ofNat (BigEndian.decode ((p.head.drop 6).take 2))⟩

/-- All of the packet is on the chip. -/
def Complete (p : Packet) : Prop := PACKINFO + p.payloadLen ≤ p.available.toNat

instance (p : Packet) : Decidable p.Complete :=
  inferInstanceAs (Decidable (PACKINFO + p.payloadLen ≤ p.available.toNat))

end Packet

/-- The reads, in the order of `receive`. -/
def nextPacket (block : BlockAddress) : Code Error (Transceiver L D) Packet := do
  let available ← getRxReceivedSize block
  let start ← getRxReadPointer block
  let head ← readRxBuffer block start PACKINFO
  pure ⟨available, start, head⟩

/-- The packet does not stay at the head: its payload is on the way, or it has
none and is in the ring, or it has been skipped. `cell` is the bus behind the
reads. -/
inductive Taken (block : BlockAddress) (p : Packet) (cell : Transceiver L D) (u : UdpSocketState)
    (rings : SocketRings w) : Except Error BulkAction × Tick UdpSocketState w L D → Prop
  | started (txn : Transaction L D)
      (hcarries : Carries txn ⟨p.start + UInt16.ofNat PACKINFO, block.rx⟩ false p.payloadLen) :
      Taken block p cell u rings
        (.ok (.started (.receiveDatagram p.peer.ip p.peer.port) (p.start + UInt16.ofNat PACKINFO)
          p.payloadLen), (u, ⟨.inFlight txn, rings⟩))
  | staged (after : Transceiver L D) (rx : SpscRing w) (hempty : p.payloadLen = 0)
      (hbytes : contents rx = stagedBytes [] p.peer) (hcount : rx.framesIn = rings.rx.framesIn + 1)
      (hskip : exec (skipTo block (p.start + UInt16.ofNat PACKINFO)) cell = (.ok (), after)) :
      Taken block p cell u rings (.ok .none, (u, ⟨after, rx, rings.tx⟩))
  | skipped (after : Transceiver L D)
      (hskip : exec (skipTo block (p.start + UInt16.ofNat (PACKINFO + p.payloadLen))) cell =
        (.ok (), after)) :
      Taken block p cell u rings (.ok .none, (u, ⟨after, rings⟩))

section Receive

variable {I : D → Prop} {block : BlockAddress} {u : UdpSocketState} {cell cell' : Transceiver L D}
  {rings : SocketRings w} {p : Packet}

/-- A packet is taken from the chip into an empty ring exactly if the ring can
never take it, or it is empty, or it fits the scratch. -/
theorem receive_taken_iff (hI : Reliable I) (hL : 11 ≤ L) (hi : IdleOn I cell)
    (hnext : exec (nextPacket block) cell = (.ok p, cell')) (hp : p.Complete)
    (hempty : rings.rx.head = rings.rx.tail) :
    Taken block p cell' u rings (exec (receive block) (u, ⟨cell, rings⟩)) ↔
      rings.rx.cap.toNat < FRAME_HEADER + p.payloadLen ∨ p.payloadLen = 0 ∨
        HEADER + p.payloadLen ≤ L := by
  obtain ⟨available, cell₁, havailable, hnext⟩ := exec_bind_eq_ok.mp hnext
  obtain ⟨start, cell₂, hstart, hnext⟩ := exec_bind_eq_ok.mp hnext
  obtain ⟨head, cell₃, hhead, hnext⟩ := exec_bind_eq_ok.mp hnext
  cases hnext
  have hk := hI.toDeviceInvariant
  have hi₁ : IdleOn I cell₁ := ((keeps_idleOn_read hk _ _).map _).ok hi havailable
  have hi₂ : IdleOn I cell₂ := ((keeps_idleOn_read hk _ _).map _).ok hi₁ hstart
  have hi' : IdleOn I cell' := (keeps_idleOn_read hk _ _).ok hi₂ hhead
  obtain ⟨rx, tx⟩ := rings
  generalize hpacket : (⟨available, start, head⟩ : Packet) = p at hp ⊢
  have hlen : p.payloadLen =
      (UInt16.ofNat (BigEndian.decode (head.take 2)) &&& PACKINFO_LEN_MASK).toNat := by
    rw [← hpacket]
    rfl
  have hthere : PACKINFO + p.payloadLen ≤ available.toNat := by
    rw [← hpacket] at hp ⊢
    exact hp
  have hpointer : start = p.start := by rw [← hpacket]
  have hpeer : (⟨UInt32.ofNat (BigEndian.decode ((head.drop 2).take 4)),
      UInt16.ofNat (BigEndian.decode ((head.drop 6).take 2))⟩ : SocketAddr) = p.peer := by
    rw [← hpacket]
    rfl
  have hip := congrArg SocketAddr.ip hpeer
  have hport := congrArg SocketAddr.port hpeer
  dsimp only at hempty hip hport ⊢
  rw [receive, exec_onBus_ok havailable, if_neg (by omega), exec_onBus_ok hstart,
    exec_onBus_ok hhead]
  dsimp only
  rw [← hlen, hpeer, hip, hport, hpointer, if_neg (by omega), exec_onRx_bind, run_capacity]
  dsimp only
  by_cases hnever : FRAME_HEADER + p.payloadLen > rx.cap.toNat
  · -- the ring can never hold it
    obtain ⟨after, hskip⟩ :=
      hI.exec_skipTo hi' hL block (p.start + UInt16.ofNat (PACKINFO + p.payloadLen))
    rw [if_pos hnever, exec_onBus_ok hskip]
    exact iff_of_true (.skipped after hskip) (.inl hnever)
  rw [if_neg hnever, exec_onRx_bind, run_free]
  dsimp only
  have hroom : (rx.tail - rx.head).toNat = 0 := by rw [hempty, BitVec.sub_self]; rfl
  have hfree : (rx.cap - (rx.tail - rx.head)).toNat = rx.cap.toNat := by
    rw [toNat_sub_le (by omega), hroom, Nat.sub_zero]
  rw [if_neg (by omega)]
  by_cases hz : p.payloadLen = 0
  · -- nothing but its header
    have hcap : rx.cap ≠ 0 := cap_ne_zero (by simp only [FRAME_HEADER] at hnever; omega)
    have hheader := frameHeader_length 0 p.peer
    have hfits : (frameHeader 0 p.peer).length ≤ rx.cap.toNat := by omega
    obtain ⟨after, hskip⟩ := hI.exec_skipTo hi' hL block (p.start + UInt16.ofNat PACKINFO)
    have hwrite := run_write_fits (sound_drained hcap hempty) (frameHeader 0 p.peer) (by omega)
    rw [if_pos hz, exec_onRx_bind, exec_onRx_bind, exec_onBus_ok hskip, hwrite]
    refine iff_of_true (.staged after _ hz ?_ rfl hskip) (.inr (.inl hz))
    change contents (pushed (frameHeader 0 p.peer) rx) = _
    have hnone : contents rx = [] := List.length_eq_zero_iff.mp ((length_contents rx).trans hroom)
    rw [contents_pushed (sound_drained hcap hempty) (by omega), hnone, stagedBytes,
      List.append_nil]
    rfl
  · rw [if_neg hz, exec_onBus_bind]
    by_cases hfit : HEADER + p.payloadLen ≤ L
    · obtain ⟨txn, hread, hcarries⟩ :=
        hI.exec_startRead ⟨p.start + UInt16.ofNat PACKINFO, block.rx⟩ hi' hfit
      rw [show exec (startReadRxBuffer block _ p.payloadLen) cell' = _ from hread]
      exact iff_of_true (.started txn hcarries) (.inr (.inr hfit))
    · rw [show exec (startReadRxBuffer block _ p.payloadLen) cell' = _ from
        hi'.exec_startRead_overrun (Nat.lt_of_not_le hfit)]
      refine iff_of_false (by rintro ⟨⟩) ?_
      omega

end Receive

/-! ## Sending -/

/-- The datagram at the head of the tx ring is gone from it, and `rest` is what
was behind it: its payload is on the way, or it has none and was sent, or it was
discarded. -/
inductive Gone (block : BlockAddress) (src rest : List UInt8) (u : UdpSocketState)
    (rings : SocketRings w) : Except Error BulkAction × Tick UdpSocketState w L D → Prop
  | started (pointer : UInt16) (txn : Transaction L D) (tx : SpscRing w)
      (hframe : txn.buffers.mosi = createHeader ⟨pointer, block.tx⟩ true ++ src)
      (hrest : contents tx = rest) (hcount : tx.framesOut = rings.tx.framesOut + 1) :
      Gone block src rest u rings
        (.ok (.started .transmit pointer src.length), (u, ⟨.inFlight txn, rings.rx, tx⟩))
  | sent (before after : Transceiver L D) (tx : SpscRing w) (hempty : src = [])
      (hsend : exec (sendSockCommand block .send) before = (.ok (), after))
      (hrest : contents tx = rest) (hcount : tx.framesOut = rings.tx.framesOut + 1) :
      Gone block src rest u rings (.ok .none, (u, ⟨after, rings.rx, tx⟩))
  | discarded (after : Transceiver L D) (tx : SpscRing w) (hsrc : src ≠ [])
      (hrest : contents tx = rest) (hcount : tx.framesOut = rings.tx.framesOut + 1) :
      Gone block src rest u rings (.ok .none, (u, ⟨after, rings.rx, tx⟩))

theorem Gone.contents {block : BlockAddress} {src rest : List UInt8} {u : UdpSocketState}
    {rings : SocketRings w} {out : Except Error BulkAction × Tick UdpSocketState w L D}
    (h : Gone block src rest u rings out) :
    SpscRing.contents out.2.2.rings.tx = rest ∧ ∃ action, out.1 = .ok action := by
  cases h with
  | started _ _ _ _ hrest | sent _ _ _ _ _ hrest | discarded _ _ _ hrest =>
    exact ⟨hrest, _, rfl⟩

section Transmit

variable {I : D → Prop} {block : BlockAddress} {u : UdpSocketState} {cell cell' : Transceiver L D}
  {rings : SocketRings w} {src rest : List UInt8} {dst : SocketAddr} {free : UInt16}

variable (block) in
/-- Behind the drained header of a datagram of `n` bytes, as its header says. -/
theorem exec_sendHead (hI : Reliable I) (hL : 11 ≤ L) (hi : IdleOn I cell) {tx : SpscRing w}
    (rx : SpscRing w) (n : Nat) (dst : SocketAddr) (hs : Sound tx) (hn : n ≤ (contents tx).length) :
    let out := exec (sendHead block n dst) ((u, ⟨cell, rx, tx⟩) : Tick UdpSocketState w L D)
    (n = 0 → ∃ before after, exec (sendSockCommand block .send) before = (.ok (), after) ∧
      out = (.ok .none, (u, ⟨after, rx, { tx with framesOut := tx.framesOut + 1 }⟩))) ∧
    (0 < n → HEADER + n ≤ L → ∃ pointer txn,
      txn.buffers.mosi = createHeader ⟨pointer, block.tx⟩ true ++ (contents tx).take n ∧
      out = (.ok (.started .transmit pointer n), (u, ⟨.inFlight txn, rx,
        { popped n tx with framesOut := tx.framesOut + 1 }⟩))) ∧
    (L < HEADER + n → out.1 = .error (.other .scratchBufferOverrun)) := by
  obtain ⟨cell₁, hip, hi₁⟩ :=
    hI.exec_writeReg ⟨SN_DIPR0, block.reg⟩ dst.ip.toNat hi hL (show 4 ≤ 4 by omega)
  obtain ⟨cell₂, hport, hi₂⟩ :=
    hI.exec_writeReg ⟨SN_DPORTR0, block.reg⟩ dst.port.toNat hi₁ hL (show 2 ≤ 4 by omega)
  dsimp only
  rw [sendHead, exec_onBus_ok (show exec (setIpv4DstAddr block dst.ip) cell = _ from hip),
    exec_onBus_ok (show exec (setDstPort block dst.port) cell₁ = _ from hport)]
  by_cases hz : n = 0
  · obtain ⟨cell₃, hsend, -⟩ := hI.exec_writeReg ⟨SN_CR, block.reg⟩
      SocketCommand.send.bits.toNat hi₂ hL (show 1 ≤ 4 by omega)
    rw [if_pos hz, exec_onBus_ok (show exec (sendSockCommand block .send) cell₂ = _ from hsend),
      exec_onTx_bind]
    refine ⟨fun _ => ⟨cell₂, cell₃, hsend, rfl⟩, fun hpos => by omega, fun hlong => ?_⟩
    simp only [HEADER] at hlong
    omega
  · obtain ⟨pointer, cell₃, hpointer, hi₃⟩ := hI.exec_readU16 ⟨SN_TX_WR0, block.reg⟩ hi₂ hL
    rw [if_neg hz, exec_onBus_ok (show exec (getTxWritePointer block) cell₂ = _ from hpointer)]
    refine ⟨fun h => absurd h hz, fun _ hfit => ?_, fun hlong => ?_⟩
    · -- the payload comes out of the ring
      obtain ⟨txn, buf, hbuf, hstart, -, hmosi⟩ := hI.exec_startWrite bus ⟨pointer, block.tx⟩
        (show IdleOn I (bus.get ((u, ⟨cell₃, rx, tx⟩) : Tick UdpSocketState w L D)) from hi₃)
        hfit drain
      subst hbuf
      have hfill : (drain buf).run (bus.set .pending (u, ⟨cell₃, rx, tx⟩)) = _ :=
        run_drain hs hn
      rw [hfill] at hstart hmosi
      refine ⟨pointer, txn, hmosi (List.length_take_of_le hn), ?_⟩
      exact exec_bind_ok hstart
    · have hover : exec (startWrite bus ⟨pointer, block.tx⟩ n drain)
          ((u, ⟨cell₃, rx, tx⟩) : Tick UdpSocketState w L D) = _ :=
        IdleOn.exec_startWrite_overrun bus hi₃ hlong
      exact congrArg Prod.fst (exec_bind_error hover)

/-- A datagram leaves the tx ring exactly if its length fits the length field
and, unless it is empty, the buffer on the chip and the scratch. -/
theorem transmit_gone_iff (hI : Reliable I) (hL : 11 ≤ L) (hi : IdleOn I cell)
    (hs : Sound rings.tx) (hhead : contents rings.tx = stagedBytes src dst ++ rest)
    (hframes : rings.tx.framesIn - rings.tx.framesOut ≠ 0)
    (hfree : exec (getTxFreeSize block) cell = (.ok free, cell')) :
    Gone block src rest u rings (exec (transmit block) (u, ⟨cell, rings⟩)) ↔
      src.length < 2 ^ 16 ∧
        (src = [] ∨ src.length ≤ free.toNat ∧ HEADER + src.length ≤ L) := by
  obtain ⟨rx, tx⟩ := rings
  dsimp only at hs hhead hframes ⊢
  have hlen := congrArg List.length hhead
  rw [List.length_append, stagedBytes_length] at hlen
  have hheader := frameHeader_length (UInt16.ofNat src.length) dst
  have h8 : FRAME_HEADER ≤ (contents tx).length := by omega
  have hread : ((SpscRing.read FRAME_HEADER).run tx).1 =
      frameHeader (UInt16.ofNat src.length) dst := by
    rw [run_read_contents hs, hhead, stagedBytes, List.append_assoc]
    exact List.take_left' hheader
  have htaken : taken FRAME_HEADER tx = popped FRAME_HEADER tx := by
    rw [taken, run_read_contents hs, Nat.min_eq_left h8]
  rw [length_contents] at h8
  have hs' : Sound (popped FRAME_HEADER tx) := hs.popped h8
  have hbehind : contents (popped FRAME_HEADER tx) = src ++ rest := by
    rw [contents_popped hs h8, hhead, stagedBytes, List.append_assoc]
    exact List.drop_left' hheader
  have hi' : IdleOn I cell' := ((keeps_idleOn_read hI.toDeviceInvariant _ _).map _).ok hi hfree
  rw [transmit_header hread hframes, hfree, htaken]
  -- the length in the header is that of the payload, or too small
  have hmod : (UInt16.ofNat src.length).toNat = src.length % 2 ^ 16 := UInt16.toNat_ofNat
  generalize (UInt16.ofNat src.length).toNat = n at hmod ⊢
  have hle : n ≤ src.length := hmod ▸ Nat.mod_le _ _
  have heq : src.length < 2 ^ 16 → n = src.length := fun h => hmod.trans (Nat.mod_eq_of_lt h)
  dsimp only
  by_cases hfull : free.toNat < n
  · -- it waits for more room than the chip has
    rw [if_pos hfull]
    refine iff_of_false (fun hgone => ?_) ?_
    · have hsame := congrArg List.length hgone.contents.1
      simp only [FRAME_HEADER] at hlen
      dsimp only [exec_pure] at hsame
      omega
    · rintro ⟨hshort, rfl | ⟨hroom, -⟩⟩
      · exact absurd (heq hshort) (by rw [List.length_nil]; omega)
      · have := heq hshort
        omega
  rw [if_neg hfull]
  obtain ⟨hempty, hstart, hover⟩ := exec_sendHead (u := u) block hI hL hi' rx n dst hs'
    (by rw [hbehind, List.length_append]; omega)
  rcases Nat.eq_zero_or_pos n with hz | hpos
  · obtain ⟨before, after, hsend, hout⟩ := hempty hz
    rw [hout]
    constructor
    · intro hgone
      have hsame : src ++ rest = rest := by rw [← hbehind]; exact hgone.contents.1
      obtain rfl := List.append_left_eq_self.mp hsame
      exact ⟨by decide, .inl rfl⟩
    · rintro ⟨hshort, -⟩
      have hnil : src = [] := List.length_eq_zero_iff.mp ((heq hshort).symm.trans hz)
      refine .sent before after _ hnil hsend ?_ rfl
      rw [hnil] at hbehind
      exact hbehind
  by_cases hfit : HEADER + n ≤ L
  · obtain ⟨pointer, txn, hmosi, hout⟩ := hstart hpos hfit
    have hn : n ≤ ((popped FRAME_HEADER tx).tail - (popped FRAME_HEADER tx).head).toNat := by
      rw [← length_contents, hbehind, List.length_append]
      omega
    have hrest : contents (popped n (popped FRAME_HEADER tx)) = (src ++ rest).drop n := by
      rw [contents_popped hs' hn, hbehind]
    rw [hout]
    constructor
    · intro hgone
      have hsame : (src ++ rest).drop n = rest := by rw [← hrest]; exact hgone.contents.1
      have hlen' := congrArg List.length hsame
      rw [List.length_drop, List.length_append] at hlen'
      have hsrc : n = src.length := by omega
      exact ⟨by omega, .inr ⟨by omega, by omega⟩⟩
    · rintro ⟨hshort, -⟩
      obtain rfl := heq hshort
      rw [hbehind, List.take_left' rfl] at hmosi
      refine .started pointer txn _ hmosi ?_ rfl
      rw [List.drop_left' rfl] at hrest
      exact hrest
  · have herr := hover (Nat.lt_of_not_le hfit)
    refine iff_of_false (fun hgone => ?_) ?_
    · obtain ⟨action, hok⟩ := hgone.contents.2
      rw [hok] at herr
      cases herr
    · rintro ⟨hshort, hnil | ⟨-, hfits⟩⟩
      · have := heq hshort
        rw [hnil, List.length_nil] at this
        omega
      · have := heq hshort
        omega

end Transmit

/-! ## Both ways -/

/-- On a bus without faults the datagram at the head moves on, both ways, exactly
under these conditions. -/
theorem unwedged_iff {I : D → Prop} (hI : Reliable I) (hL : 11 ≤ L) (block : BlockAddress)
    (u : UdpSocketState) :
    (∀ (cell cell' : Transceiver L D) (p : Packet) (rings : SocketRings w), IdleOn I cell →
      exec (nextPacket block) cell = (.ok p, cell') → p.Complete →
      rings.rx.head = rings.rx.tail →
      (Taken block p cell' u rings (exec (receive block) (u, ⟨cell, rings⟩)) ↔
        rings.rx.cap.toNat < FRAME_HEADER + p.payloadLen ∨ p.payloadLen = 0 ∨
          HEADER + p.payloadLen ≤ L)) ∧
    ∀ (cell cell' : Transceiver L D) (free : UInt16) (src rest : List UInt8) (dst : SocketAddr)
      (rings : SocketRings w), IdleOn I cell →
      exec (getTxFreeSize block) cell = (.ok free, cell') → Sound rings.tx →
      contents rings.tx = stagedBytes src dst ++ rest →
      rings.tx.framesIn - rings.tx.framesOut ≠ 0 →
      (Gone block src rest u rings (exec (transmit block) (u, ⟨cell, rings⟩)) ↔
        src.length < 2 ^ 16 ∧
          (src = [] ∨ src.length ≤ free.toNat ∧ HEADER + src.length ≤ L)) :=
  ⟨fun _ _ _ _ hi hnext hp hempty => receive_taken_iff hI hL hi hnext hp hempty,
    fun _ _ _ _ _ _ _ hi hfree hs hhead hframes =>
      transmit_gone_iff hI hL hi hs hhead hframes hfree⟩

/-! ## The smallest scratch -/

/-- A bus with a scratch of 67 bytes that answers from `script`. -/
def scriptedBus (script : List (Option (List UInt8))) : Transceiver 67 Scripted :=
  .idle ⟨script⟩ (zeroScratch 67)

/-- The reads of a packet with `len` bytes of payload for a chip that has it all. -/
def packetScript (len : UInt8) : List (Option (List UInt8)) :=
  [some [0, len + 8], some [0, 0], some [0, len, 10, 0, 0, 1, 0, 9]]

def scriptedPacket (len : UInt8) : Packet :=
  ⟨UInt16.ofNat (len + 8).toNat, 0, [0, len, 10, 0, 0, 1, 0, 9]⟩

/-- `len` bytes for port 9 of 10.0.0.1, and two rings of 128 bytes, one empty and
one with the datagram. -/
def longPayload (len : Nat) : List UInt8 := List.replicate len 0x55

def longRings (len : Nat) : SocketRings 32 where
  rx := { SpscRing.new with cap := 128 }
  tx := { SpscRing.new with
    buf := fun i => (stagedBytes (longPayload len) ⟨0x0A000001, 9⟩).getD i 0
    cap := 128, tail := BitVec.ofNat 32 (8 + len), framesIn := 1 }

/-- 64 bytes are what the scratch has room for. -/
theorem unwedged_full :
    (Taken firstBlock (scriptedPacket 64) (exec (nextPacket firstBlock)
          (scriptedBus (packetScript 64))).2 (.bind 9) (longRings 64)
        (exec (receive firstBlock) (.bind 9, ⟨scriptedBus (packetScript 64), longRings 64⟩)) ↔
      128 < FRAME_HEADER + 64 ∨ 64 = 0 ∨ HEADER + 64 ≤ 67) ∧
    (Gone firstBlock (longPayload 64) [] (.bind 9) (longRings 64)
        (exec (transmit firstBlock) (.bind 9, ⟨scriptedBus [some [8, 0]], longRings 64⟩)) ↔
      (longPayload 64).length < 2 ^ 16 ∧
        (longPayload 64 = [] ∨ (longPayload 64).length ≤ 2048 ∧
          HEADER + (longPayload 64).length ≤ 67)) :=
  ⟨(unwedged_iff reliable_scripted (by decide) firstBlock (.bind 9)).1 _ _ (scriptedPacket 64) _
      ⟨_, _, rfl, by decide⟩ (Prod.ext rfl rfl) (by decide) rfl,
    (unwedged_iff reliable_scripted (by decide) firstBlock (.bind 9)).2 _
      (exec (getTxFreeSize firstBlock) (scriptedBus [some [8, 0]])).2 2048 _ [] ⟨0x0A000001, 9⟩ _
      ⟨_, _, rfl, by decide⟩ (Prod.ext rfl rfl) ⟨by decide, by decide, .inr (by decide)⟩
      (by decide) (by decide)⟩

/-- One byte more, with room for it in the ring and on the chip, stays at either
head. -/
theorem wedged_one_more :
    ¬ Taken firstBlock (scriptedPacket 65) (exec (nextPacket firstBlock)
        (scriptedBus (packetScript 65))).2 (.bind 9) (longRings 65)
      (exec (receive firstBlock) (.bind 9, ⟨scriptedBus (packetScript 65), longRings 65⟩)) ∧
    ¬ Gone firstBlock (longPayload 65) [] (.bind 9) (longRings 65)
      (exec (transmit firstBlock) (.bind 9, ⟨scriptedBus [some [8, 0]], longRings 65⟩)) := by
  constructor
  · intro h
    have hfits := (receive_taken_iff reliable_scripted (by decide) ⟨_, _, rfl, by decide⟩
      (Prod.ext rfl rfl) (by decide) rfl).mp h
    exact absurd hfits (by decide)
  · intro h
    have hhead : contents (longRings 65).tx =
        stagedBytes (longPayload 65) ⟨0x0A000001, 9⟩ ++ [] := by decide
    have hfree : exec (getTxFreeSize firstBlock) (scriptedBus [some [8, 0]]) =
        (.ok 2048, (exec (getTxFreeSize firstBlock) (scriptedBus [some [8, 0]])).2) :=
      Prod.ext rfl rfl
    have hfits := (transmit_gone_iff reliable_scripted (by decide) ⟨_, _, rfl, by decide⟩
      ⟨by decide, by decide, .inr (by decide)⟩ hhead (by decide) hfree).mp h
    exact absurd hfits (by decide)

end UdpSocketState

end Wiznet
