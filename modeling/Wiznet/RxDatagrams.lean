import Wiznet.CommandLog
import Wiznet.RxStream
import Wiznet.UdpReceipt
import Wiznet.UdpTicks

/-! # What a UDP socket receives

The RX buffer of a UDP socket holds whole packets, one for each datagram that
came in and was not taken off yet. A tick takes the front one off at once, if it
is empty or can never be delivered, or announces it, and then the completion
does: as long as no move of `Sn_RX_RD` fails, every datagram is taken off once. -/

namespace Wiznet
open Resumption Resumption.Code Tick SpscRing

variable {w L size : Nat} {P : Type} {i j : Fin 8}

/-! ## The status under other accesses -/

namespace ChipState

variable {chip : ChipState size}

/-- A socket is open for datagrams, or closed. -/
def Connectionless (i : Fin 8) (chip : ChipState size) : Prop :=
  (chip.sockets i).sr = 0x00 ∨ (chip.sockets i).sr = 0x22

theorem Connectionless.runCommand (h : Connectionless i chip) {c : SocketCommand}
    (hc : c = .close ∨ c = .receive ∨ c = .send) : Connectionless i (chip.runCommand i c.bits) := by
  rcases hc with rfl | rfl | rfl
  · left
    simp [ChipState.runCommand, SocketCommand.bits, modifySocket]
  · exact h
  · change ((ChipState.send i { chip with commands := _ }).sockets i).sr = 0x00 ∨
      ((ChipState.send i { chip with commands := _ }).sockets i).sr = 0x22
    rw [send_sockets, modifySocket_proj SocketModel.sr (by intro; rfl)]
    exact h

end ChipState

/-! ## Packets -/

/-- A datagram as it lies in the RX buffer. -/
def packet (d : SocketAddr × List UInt8) : List UInt8 := packinfo d.1 d.2.length ++ d.2

/-- The payloads that the 11 bits of a packet header can tell the length of. -/
def Sized (d : SocketAddr × List UInt8) : Prop := d.2.length < 2 ^ 11

theorem packinfo_length (peer : SocketAddr) (n : Nat) : (packinfo peer n).length = PACKINFO := by
  simp [packinfo, PACKINFO]

theorem packet_length (d : SocketAddr × List UInt8) : (packet d).length = PACKINFO + d.2.length := by
  rw [packet, List.length_append, packinfo_length]

theorem masked_length {n : Nat} (h : n < 2 ^ 11) :
    (UInt16.ofNat n &&& PACKINFO_LEN_MASK).toNat = n := by
  have hlt : n < 2 ^ 16 := by omega
  have hmask : PACKINFO_LEN_MASK.toNat = 2 ^ 11 - 1 := rfl
  rw [UInt16.toNat_and, hmask, Nat.and_two_pow_sub_one_eq_mod, UInt16.toNat_ofNat_of_lt' hlt,
    Nat.mod_eq_of_lt h]

/-- What `receive` makes of a packet header. -/
theorem parse_packinfo (peer : SocketAddr) {n : Nat} (h : n < 2 ^ 11) :
    (UInt16.ofNat (BigEndian.decode ((packinfo peer n).take 2)) &&& PACKINFO_LEN_MASK).toNat = n ∧
    UInt32.ofNat (BigEndian.decode (((packinfo peer n).drop 2).take 4)) = peer.ip ∧
    UInt16.ofNat (BigEndian.decode (((packinfo peer n).drop 6).take 2)) = peer.port := by
  have hparse := parse_frameHeader (UInt16.ofNat n &&& PACKINFO_LEN_MASK) peer
  rw [show frameHeader (UInt16.ofNat n &&& PACKINFO_LEN_MASK) peer = packinfo peer n from rfl,
    parseFrameHeader, masked_length h] at hparse
  obtain ⟨hlen, haddr⟩ := Prod.mk.inj hparse
  refine ⟨?_, congrArg SocketAddr.ip haddr, congrArg SocketAddr.port haddr⟩
  rw [hlen, masked_length h]

namespace LiveChip

variable {off front : List (SocketAddr × List UInt8)} {d : SocketAddr × List UInt8} {rd : UInt16}
  {c : LiveChip size}

/-- The datagrams `off` have been taken off the chip, the read pointer stands at
`rd`, and `front` are the next ones. -/
structure UdpRxLane (i : Fin 8) (off front : List (SocketAddr × List UInt8)) (rd : UInt16)
    (c : LiveChip size) : Prop where
  connectionless : ChipState.Connectionless i c.chip
  readPtr : (c.chip.sockets i).rx.readPtr = rd
  room : (c.chip.sockets i).rx.used.toNat ≤ size
  packets : ∃ waiting, c.datagrams i = off ++ waiting ∧ c.unread i = waiting.flatMap packet ∧
    (∀ d ∈ waiting, Sized d) ∧ front <+: waiting

theorem UdpRxLane.forget (h : UdpRxLane i off front rd c) : UdpRxLane i off [] rd c := by
  obtain ⟨waiting, hdgrams, hunread, hsized, -⟩ := h.packets
  exact { h with packets := ⟨waiting, hdgrams, hunread, hsized, List.nil_prefix⟩ }

/-- If there is anything in the buffer, it is a packet. -/
theorem UdpRxLane.look (h : UdpRxLane i off front rd c) (hsome : 0 < (c.unread i).length) :
    ∃ d, UdpRxLane i off [d] rd c := by
  obtain ⟨waiting, hdgrams, hunread, hsized, -⟩ := h.packets
  cases waiting with
  | nil => rw [hunread] at hsome; cases hsome
  | cons d rest =>
    exact ⟨d, { h with packets := ⟨d :: rest, hdgrams, hunread, hsized, rest, rfl⟩ }⟩

/-- The next packet is at the front of the buffer. -/
theorem UdpRxLane.next (h : UdpRxLane i off [d] rd c) : Sized d ∧ packet d <+: c.unread i := by
  obtain ⟨waiting, -, hunread, hsized, rest, rfl⟩ := h.packets
  refine ⟨hsized d List.mem_cons_self, ?_⟩
  rw [hunread, List.singleton_append, List.flatMap_cons]
  exact List.prefix_append ..

/-- What a read of the packet header returns. -/
theorem UdpRxLane.header (h : UdpRxLane i off [d] rd c) :
    (c.chip.sockets i).rx.peek size rd PACKINFO = packinfo d.1 d.2.length := by
  obtain ⟨rest, hrest⟩ := h.next.2
  have hle := h.next.2.length_le
  rw [packet_length, unread_length] at hle
  rw [← h.readPtr, ChipBuffer.peek_stored (by omega), show (c.chip.sockets i).rx.stored size =
    c.unread i from rfl, ← hrest, packet, List.append_assoc,
    List.take_left' (packinfo_length d.1 d.2.length)]

/-- What a read of the payload behind it returns. -/
theorem UdpRxLane.payload (hs : FifoSize size) (h : UdpRxLane i off [d] rd c) :
    (c.chip.sockets i).rx.peek size (rd + UInt16.ofNat PACKINFO) d.2.length = d.2 := by
  obtain ⟨rest, hrest⟩ := h.next.2
  have hle := h.next.2.length_le
  rw [packet_length, unread_length] at hle
  have hdrop : PACKINFO ≤ (c.chip.sockets i).rx.used.toNat := by omega
  have hpeek : ((c.chip.sockets i).rx.drop PACKINFO).peek size
      ((c.chip.sockets i).rx.drop PACKINFO).readPtr d.2.length =
      (((c.chip.sockets i).rx.drop PACKINFO).stored size).take d.2.length :=
    ChipBuffer.peek_stored (by rw [ChipBuffer.used_drop hdrop]; omega)
  rw [ChipBuffer.stored_drop hs hdrop, show (c.chip.sockets i).rx.stored size = c.unread i from rfl,
    ← hrest, packet, List.append_assoc, List.drop_left' (packinfo_length d.1 d.2.length),
    List.take_left] at hpeek
  rw [← h.readPtr]
  exact hpeek

theorem connectionless_happen {s : SocketModel} (h : s.sr = 0x00 ∨ s.sr = 0x22) (e : PeerEvent) :
    (s.happen size e).sr = 0x00 ∨ (s.happen size e).sr = 0x22 := by
  rcases h with h | h <;> cases e <;>
    simp [SocketModel.happen, SocketModel.signalled, SocketModel.handshaking, h]

/-- What arrives at such a socket is a whole datagram or nothing. -/
theorem arriving_connectionless {s : SocketModel} (h : s.sr = 0x00 ∨ s.sr = 0x22) (e : PeerEvent) :
    (s.arriving size e = [] ∧ ∀ peer data, e = .sendUdp peer data → s.takesUdp size data = false) ∨
      ∃ peer data, e = .sendUdp peer data ∧ s.takesUdp size data = true ∧ Sized (peer, data) ∧
        s.arriving size e = packet (peer, data) := by
  cases e with
  | send data =>
    left
    rcases h with h | h <;> simp [SocketModel.arriving, h]
  | sendUdp peer data =>
    by_cases htakes : s.takesUdp size data = true
    · have hsized : data.length < 2 ^ 11 := by
        simp only [SocketModel.takesUdp, Bool.and_eq_true, decide_eq_true_eq] at htakes
        exact htakes.1.2
      exact .inr ⟨peer, data, rfl, htakes, hsized, by rw [SocketModel.arriving, if_pos htakes]; rfl⟩
    · refine .inl ⟨by rw [SocketModel.arriving, if_neg htakes], ?_⟩
      rintro _ _ ⟨⟩
      exact Bool.eq_false_iff.mpr htakes
  | connect | close | reset | timeout => exact .inl ⟨rfl, by rintro _ _ ⟨⟩⟩

/-- What arrives comes behind what is there. -/
theorem UdpRxLane.happen (hs : FifoSize size) (h : UdpRxLane i off front rd c)
    (e : Fin 8 × PeerEvent) : UdpRxLane i off front rd (c.happen e) := by
  obtain ⟨j, e⟩ := e
  obtain ⟨waiting, hdgrams, hunread, hsized, hfront⟩ := h.packets
  by_cases hj : i = j
  · subst hj
    have hfits := SocketModel.arriving_fits hs h.room e
    have hsock : (c.happen (i, e)).chip.sockets i = (c.chip.sockets i).happen size e :=
      Function.update_self ..
    have hmore : (c.happen (i, e)).unread i =
        c.unread i ++ (c.chip.sockets i).arriving size e := by
      rw [unread, hsock]
      exact ChipBuffer.stored_push hs hfits
    refine ⟨?_, by rw [hsock]; exact h.readPtr, ?_, ?_⟩
    · rw [ChipState.Connectionless, hsock]
      exact connectionless_happen h.connectionless e
    · rw [hsock]
      have hlt := hs.lt
      exact (ChipBuffer.used_push (by omega)).trans_le hfits
    · rw [hmore, hunread]
      rcases arriving_connectionless h.connectionless e with ⟨hnone, hdrops⟩ |
        ⟨peer, data, rfl, htakes, hnew, hpacket⟩
      · refine ⟨waiting, ?_, by rw [hnone, List.append_nil], hsized, hfront⟩
        rw [← hdgrams]
        cases e with
        | sendUdp peer data =>
          simp only [LiveChip.happen, hdrops peer data rfl, Bool.false_eq_true, if_false]
        | _ => rfl
      · refine ⟨waiting ++ [(peer, data)], ?_, ?_, ?_, hfront.trans (List.prefix_append ..)⟩
        · simp only [LiveChip.happen, htakes, if_true, Function.update_self]
          rw [hdgrams, List.append_assoc]
        · rw [hpacket, List.flatMap_append, List.flatMap_singleton]
        · intro d hd
          rcases List.mem_append.mp hd with hd | hd
          · exact hsized d hd
          · rwa [List.mem_singleton.mp hd]
  · have hsock : (c.happen (j, e)).chip.sockets i = c.chip.sockets i := Function.update_of_ne hj ..
    have hsame : (c.happen (j, e)).datagrams i = c.datagrams i := by
      cases e with
      | sendUdp peer data =>
        simp only [LiveChip.happen]
        split
        · exact Function.update_of_ne hj ..
        · rfl
      | _ => rfl
    refine ⟨?_, by rw [hsock]; exact h.readPtr, by rw [hsock]; exact h.room, ?_⟩
    · rw [ChipState.Connectionless, hsock]
      exact h.connectionless
    · exact ⟨waiting, hsame.trans hdgrams, by rw [unread, hsock]; exact hunread, hsized, hfront⟩

/-- The writes that neither move `Sn_RX_RD` of socket `i` nor open it. -/
def SparesUdpRx (i : Fin 8) (addr : Address) (data : List UInt8) : Prop :=
  addr.block = .socketRegister i → addr.address ≠ SN_RX_RD0 ∧ (addr.address = SN_CR →
    ∃ c : SocketCommand, (c = .close ∨ c = .receive ∨ c = .send) ∧
      data = BigEndian.encode 1 c.bits.toNat)

theorem Calm.sparesUdpRx {addr : Address} {data : List UInt8} (h : Calm i addr data) :
    SparesUdpRx i addr data := by
  intro hb
  rcases h.2 hb with hcalm | ⟨hcr, command, hc, hdata⟩
  · refine ⟨?_, fun hcr => ?_⟩
    · rcases hcalm with h | h | h <;> rw [h] <;> decide
    · rw [hcr] at hcalm
      exact absurd hcalm (by decide)
  · exact ⟨by rw [hcr]; decide, fun _ => ⟨command, hc.imp_right .inl, hdata⟩⟩

theorem connectionless_written {addr : Address} {data : List UInt8} (hW : SparesUdpRx i addr data)
    (h : ChipState.Connectionless i c.chip) : ChipState.Connectionless i (c.written addr data).chip := by
  by_cases hb : addr.block = .socketRegister i
  · obtain ⟨a, block⟩ := addr
    obtain rfl : block = .socketRegister i := hb
    by_cases hcr : a = SN_CR
    · obtain ⟨command, hc, rfl⟩ := (hW rfl).2 hcr
      rw [hcr, written_command, decode_command]
      exact h.runCommand hc
    · rw [ChipState.Connectionless, written, ChipState.serve_writeReg, ChipState.writeReg_sr hcr]
      exact h
  · rw [ChipState.Connectionless, (written_register hb data).1]
    exact h

theorem passive_udpRxLane (hs : FifoSize size) (i : Fin 8)
    (off front : List (SocketAddr × List UInt8)) (rd : UInt16) :
    Passive (SparesUdpRx i) (UdpRxLane i off front rd : LiveChip size → Prop) where
  pass := pass_of_happen (fun _ _ _ h => ⟨h.connectionless, h.readPtr, h.room, h.packets⟩)
    fun _ e h => h.happen hs e
  write c addr data hW h := by
    have hrx : ((c.written addr data).chip.sockets i).rx = (c.chip.sockets i).rx :=
      written_rx fun hb => (hW hb.1).1 hb.2
    refine ⟨connectionless_written hW h.connectionless, by rw [hrx]; exact h.readPtr,
      by rw [hrx]; exact h.room, ?_⟩
    rw [unread, hrx]
    exact h.packets

/-- The read pointer moves past the packet. -/
theorem UdpRxLane.commit (hs : FifoSize size) (h : UdpRxLane i off [d] rd c) :
    UdpRxLane i (off ++ [d]) [] (rd + UInt16.ofNat (PACKINFO + d.2.length))
      (c.written ⟨SN_RX_RD0, .socketRegister i⟩
        (BigEndian.encode 2 (rd + UInt16.ofNat (PACKINFO + d.2.length)).toNat)) := by
  have hlen : PACKINFO + d.2.length ≤ (c.chip.sockets i).rx.used.toNat := by
    have hle := h.next.2.length_le
    rwa [packet_length, unread_length] at hle
  have hrx : ((c.written ⟨SN_RX_RD0, .socketRegister i⟩
      (BigEndian.encode 2 (rd + UInt16.ofNat (PACKINFO + d.2.length)).toNat)).chip.sockets i).rx =
      (c.chip.sockets i).rx.drop (PACKINFO + d.2.length) := by
    rw [written, ChipState.serve_writeReg, ChipState.writeReg_rxRd, ChipBuffer.drop, h.readPtr]
  obtain ⟨_, hdgrams, hunread, hsized, rest, rfl⟩ := h.packets
  refine ⟨?_, by rw [hrx, ← h.readPtr]; rfl, ?_, rest, ?_, ?_, ?_, List.nil_prefix⟩
  · rw [ChipState.Connectionless, written, ChipState.serve_writeReg,
      ChipState.writeReg_sr (show SN_RX_RD0 ≠ SN_CR by decide)]
    exact h.connectionless
  · rw [hrx, ChipBuffer.used_drop hlen]
    exact (Nat.sub_le ..).trans h.room
  · exact hdgrams.trans (List.append_assoc ..).symm
  · rw [unread, hrx, ChipBuffer.stored_drop hs hlen]
    change (c.unread i).drop _ = _
    rw [hunread, List.singleton_append, List.flatMap_cons, ← packet_length, List.drop_left]
  · exact fun d hd => hsized d (List.mem_append_right _ hd)

/-- `UdpRxLane`, on a chip that takes every move of `Sn_RX_RD`. -/
def UdpRxSure (i : Fin 8) (off front : List (SocketAddr × List UInt8)) (rd : UInt16)
    (c : LiveChip size) : Prop :=
  Sure (MovesRx i) c ∧ UdpRxLane i off front rd c

/-- `off` has been taken off the chip. -/
def UdpRxRest (i : Fin 8) (off : List (SocketAddr × List UInt8)) (c : LiveChip size) : Prop :=
  ∃ rd, UdpRxSure i off [] rd c

theorem passive_udpRxSure (hs : FifoSize size) (i : Fin 8)
    (off front : List (SocketAddr × List UInt8)) (rd : UInt16) :
    Passive (SparesUdpRx i) (UdpRxSure i off front rd : LiveChip size → Prop) :=
  (passive_sure _ _).and (passive_udpRxLane hs i off front rd)

theorem passive_udpRxRest (hs : FifoSize size) (i : Fin 8) (off : List (SocketAddr × List UInt8)) :
    Passive (SparesUdpRx i) (UdpRxRest i off : LiveChip size → Prop) :=
  Passive.any fun rd => passive_udpRxSure hs i off [] rd

theorem UdpRxSure.rest (h : UdpRxSure i off front rd c) : UdpRxRest i off c := ⟨rd, h.1, h.2.forget⟩

end LiveChip

/-! ## The ring -/

/-- The frame a datagram comes as; one that can never lie in a ring of `cap`
bytes never comes. -/
def frameOf (cap : Nat) (d : SocketAddr × List UInt8) : Option Frame :=
  if h : d.2.length < 2 ^ 16 ∧ FRAME_HEADER + d.2.length ≤ cap then some ⟨d.2, d.1, h.1⟩ else none

/-- The frames that datagrams come as. -/
def deliverable (cap : Nat) (ds : List (SocketAddr × List UInt8)) : List Frame :=
  ds.filterMap (frameOf cap)

theorem deliverable_append (cap : Nat) (ds es : List (SocketAddr × List UInt8)) :
    deliverable cap (ds ++ es) = deliverable cap ds ++ deliverable cap es := List.filterMap_append

theorem deliverable_oversize {cap : Nat} {d : SocketAddr × List UInt8}
    (h : cap < FRAME_HEADER + d.2.length) : deliverable cap [d] = [] := by
  simp [deliverable, frameOf, Nat.not_le_of_lt h]

theorem deliverable_fits {cap : Nat} {d : SocketAddr × List UInt8} (hsized : d.2.length < 2 ^ 16)
    (h : FRAME_HEADER + d.2.length ≤ cap) : deliverable cap [d] = [⟨d.2, d.1, hsized⟩] := by
  have hframe : frameOf cap d = some ⟨d.2, d.1, hsized⟩ := dif_pos ⟨hsized, h⟩
  rw [deliverable, List.filterMap_cons_some hframe, List.filterMap_nil]

namespace LiveChip

variable {off new : List (SocketAddr × List UInt8)} {d : SocketAddr × List UInt8} {rd : UInt16}
  {c : LiveChip size} {r₀ r r' : SpscRing w}

/-- Since `off` had been taken off the chip and the ring stood at `r₀`, more have,
and those that can be delivered have come into the ring. -/
def UdpDelivered (i : Fin 8) (off : List (SocketAddr × List UInt8)) (r₀ r : SpscRing w)
    (c : LiveChip size) : Prop :=
  ∃ new, Grown (deliverable r₀.cap.toNat new) r₀ r ∧ UdpRxRest i (off ++ new) c

/-- What a transfer in flight makes of it: a receive has captured the next
datagram, for which there is room. -/
def UdpRxHeld (i : Fin 8) (off : List (SocketAddr × List UInt8)) (r : SpscRing w)
    (kind : BulkKind) (pointer : UInt16) (len : Nat) (txn : Transaction L (LiveChip size)) : Prop :=
  match kind with
  | .receiveDatagram srcIp srcPort => ∃ rd,
      UdpRxSure i off [(⟨srcIp, srcPort⟩, txn.buffers.rxWindow HEADER len)] rd txn.dev ∧
      pointer = rd + UInt16.ofNat PACKINFO ∧ FRAME_HEADER + len ≤ r.room
  | .receive => False
  | .transmit => UdpRxRest i off txn.dev

/-- Whatever is under way, the datagrams taken off the chip are `off`. -/
theorem UdpRxHeld.lane {r : SpscRing w} {kind : BulkKind} {pointer : UInt16} {len : Nat}
    {txn : Transaction L (LiveChip size)} (h : UdpRxHeld i off r kind pointer len txn) :
    ∃ front rd, UdpRxLane i off front rd txn.dev := by
  cases kind with
  | receive => exact h.elim
  | receiveDatagram =>
    obtain ⟨rd, hsure, -⟩ := h
    exact ⟨_, rd, hsure.2⟩
  | transmit =>
    obtain ⟨rd, hsure⟩ := h
    exact ⟨_, rd, hsure.2⟩

def UdpRxFlight (i : Fin 8) (off : List (SocketAddr × List UInt8)) (r₀ r : SpscRing w)
    (kind : BulkKind) (pointer : UInt16) (len : Nat) (txn : Transaction L (LiveChip size)) : Prop :=
  ∃ new, Grown (deliverable r₀.cap.toNat new) r₀ r ∧ UdpRxHeld i (off ++ new) r kind pointer len txn

theorem passive_udpDelivered (hs : FifoSize size) (i : Fin 8)
    (off : List (SocketAddr × List UInt8)) (r₀ r : SpscRing w) :
    Passive (SparesUdpRx i) (UdpDelivered i off r₀ r : LiveChip size → Prop) :=
  Passive.any fun new => (passive_udpRxRest hs i (off ++ new)).beside _

/-- A datagram that can never be delivered is passed over. -/
theorem UdpDelivered.skipped (hg : Grown (deliverable r₀.cap.toNat new) r₀ r)
    (h : UdpRxRest i (off ++ new ++ [d]) c) (hsize : r.cap.toNat < FRAME_HEADER + d.2.length) :
    UdpDelivered i off r₀ r c := by
  refine ⟨new ++ [d], ?_, by rwa [← List.append_assoc]⟩
  rw [hg.cap] at hsize
  rwa [deliverable_append, deliverable_oversize hsize, List.append_nil]

/-- The frame of a datagram has come into the ring. -/
theorem UdpDelivered.appended (hg : Grown (deliverable r₀.cap.toNat new) r₀ r)
    (h : UdpRxRest i (off ++ new ++ [d]) c) (hsized : d.2.length < 2 ^ 16)
    (hfits : FRAME_HEADER + d.2.length ≤ r.cap.toNat)
    (ha : Appended (Frame.bytes ⟨d.2, d.1, hsized⟩) r r') : UdpDelivered i off r₀ r' c := by
  refine ⟨new ++ [d], ?_, by rwa [← List.append_assoc]⟩
  rw [hg.cap] at hfits
  rw [deliverable_append, deliverable_fits hsized hfits]
  exact hg.trans ha.grown

/-- The read pointer moves past the packet, and the chip is told. -/
theorem wp_udpRx_commit (hs : FifoSize size) (hL : 67 ≤ L) {pointer : UInt16}
    (hptr : pointer = rd + UInt16.ofNat (PACKINFO + d.2.length))
    {cell : Transceiver L (LiveChip size)} (hc : IdleOn (UdpRxSure i off [d] rd) cell)
    {rest : Code Error (Transceiver L (LiveChip size)) Unit}
    (hrest : Keeps (IdleOn (UdpRxRest i (off ++ [d]))) rest) :
    wp (do setRxReadPointer (socketBlock i) pointer; rest)
      (fun _ => IdleOn (UdpRxRest i (off ++ [d]))) (fun _ => IdleOn (UdpRxRest i (off ++ [d])))
      cell := by
  subst hptr
  rw [wp_bind]
  refine wp_mono (wp_write (passive_udpRxSure hs i off [d] rd).pass ⟨SN_RX_RD0, .socketRegister i⟩
    (by rw [BigEndian.encode_length, HEADER]; omega) hc) ?_ ?_
  · rintro _ _ ⟨c, scratch, rfl, hsure, hlane⟩
    exact hrest _ ⟨_, _, rfl, _, hsure, hlane.commit hs⟩
  · rintro _ _ ⟨-, c, ⟨hsure, -⟩, hfails⟩
    rw [hsure 0 _ ⟨_, rfl⟩] at hfails
    cases hfails

/-- What follows the move of the pointer moves nothing. -/
theorem keeps_udpRx_told (hs : FifoSize size) (hL : 67 ≤ L)
    (off : List (SocketAddr × List UInt8)) :
    Keeps (IdleOn (L := L) (UdpRxRest i off : LiveChip size → Prop))
      (do sendSockCommand (socketBlock i) .receive; clearInterrupts (socketBlock i) .RECV) := by
  have hp : Passive (SparesUdpRx i) (UdpRxRest i off : LiveChip size → Prop) :=
    passive_udpRxRest hs i off
  refine Keeps.bind (hp.keeps_write (fun _ => ⟨show SN_CR ≠ SN_RX_RD0 by decide,
    fun _ => ⟨.receive, .inr (.inl rfl), rfl⟩⟩)
    (by rw [BigEndian.encode_length, HEADER]; omega)) fun _ => ?_
  exact hp.keeps_write (fun _ => ⟨show SN_IRCLR ≠ SN_RX_RD0 by decide,
    fun h => absurd h (show SN_IRCLR ≠ SN_CR by decide)⟩)
    (by rw [BigEndian.encode_length, HEADER]; omega)

end LiveChip

/-! ## The tick -/

namespace LiveChip

variable {off : List (SocketAddr × List UInt8)} {r₀ : SpscRing w}

/-- `OPEN` in the UDP mode opens the socket for datagrams. -/
theorem udpRxLane_openIssued {front : List (SocketAddr × List UInt8)} {rd : UInt16}
    {c : LiveChip size} (h : UdpRxLane i off front rd c) (hm : ChipState.InUdpMode i c.chip) :
    UdpRxLane i off front rd (c.openIssued i) := by
  have hrun : (c.openIssued i).chip = c.chip.runCommand i SocketCommand.open.bits := by
    rw [openIssued, written_command, decode_command]
  have hrx : ((c.openIssued i).chip.sockets i).rx = (c.chip.sockets i).rx := by
    rw [hrun, ChipState.runCommand_rx]
  have hopen : (c.chip.runCommand i SocketCommand.open.bits).sockets =
      (c.chip.modifySocket i fun s =>
        { s with sr := if s.mr &&& 0x0F = 0x02 then 0x22 else 0x13 }).sockets := rfl
  refine ⟨.inr ?_, by rw [hrx]; exact h.readPtr, by rw [hrx]; exact h.room, ?_⟩
  · rw [hrun, hopen]
    simp only [ChipState.modifySocket, Function.update_self]
    exact if_pos hm
  · rw [unread, hrx]
    exact h.packets

/-- Where the machine is does not matter, but that it sets the mode before `OPEN`. -/
theorem tuned_udpRx (hs : FifoSize size) (i : Fin 8) (off : List (SocketAddr × List UInt8))
    (r₀ : SpscRing w) : Tuned i
      (fun _ rings => (UdpDelivered i off r₀ rings.rx : LiveChip size → Prop))
      fun rings c => ChipState.InUdpMode i c.chip ∧ UdpDelivered i off r₀ rings.rx c where
  passive _ rings := (passive_udpDelivered hs i off r₀ rings.rx).spare fun _ _ => Calm.sparesUdpRx
  passive' rings := by
    refine ((passive_inUdpMode i).spare fun addr data h => ?_).and
      ((passive_udpDelivered hs i off r₀ rings.rx).spare fun _ _ => Calm.sparesUdpRx)
    rintro rfl
    rcases h.2 rfl with hcalm | ⟨hcr, -⟩
    · exact absurd hcalm (show ¬ (SN_MR = SN_IRCLR ∨ SN_MR = SN_IMR ∨ SN_MR = SN_PORTR0) by decide)
    · exact absurd hcr (show SN_MR ≠ SN_CR by decide)
  mode rings c h := by
    refine ⟨inUdpMode_modeSet c, (passive_udpDelivered hs i off r₀ rings.rx).write c _ _ ?_ h⟩
    exact fun _ => ⟨show SN_MR ≠ SN_RX_RD0 by decide,
      fun h => absurd h (show SN_MR ≠ SN_CR by decide)⟩
  untuned _ _ h := h.2
  opens := by
    rintro rings c ⟨hm, new, hg, rd, hsure, hlane⟩
    exact ⟨new, hg, rd, hsure, udpRxLane_openIssued hlane hm⟩
  opened _ _ h := h
  leaves _ _ _ _ h := h

end LiveChip

namespace UdpSocketState

open LiveChip

variable {off : List (SocketAddr × List UInt8)} {r₀ : SpscRing w}

/-- What stands of the rx ring between two transfers. -/
def RxStands (i : Fin 8) (off : List (SocketAddr × List UInt8)) (r₀ : SpscRing w)
    (s : Tick UdpSocketState w L (LiveChip size)) : Prop :=
  Stands (fun _ rings => UdpDelivered i off r₀ rings.rx) s

def UdpRxStarted (i : Fin 8) (off : List (SocketAddr × List UInt8)) (r₀ : SpscRing w)
    (kind : BulkKind) (pointer : UInt16) (len : Nat) (io : Io w L (LiveChip size)) : Prop :=
  ∃ txn, io.trans = .inFlight txn ∧ UdpRxFlight i off r₀ io.rings.rx kind pointer len txn

/-- The next packet is taken off the chip, or its payload is announced. -/
theorem wp_udpRx_receive (hs : FifoSize size) (hL : 67 ≤ L) (he : Even r₀)
    {s : Tick UdpSocketState w L (LiveChip size)} (h : RxStands i off r₀ s) :
    wp (receive (socketBlock i)) (Settles (fun _ rings => UdpDelivered i off r₀ rings.rx)
      (UdpRxStarted i off r₀)) (fun _ => RxStands i off r₀) s := by
  have hread : HEADER + 2 ≤ L := by rw [HEADER]; omega
  obtain ⟨u, cell, rx, tx⟩ := s
  obtain ⟨dev, scratch, hdev, new, hg, rd, hc⟩ := h
  dsimp only at hdev hg
  have hidle {front : List (SocketAddr × List UInt8)} {cell : Transceiver L (LiveChip size)}
      (h : IdleOn (UdpRxSure i (off ++ new) front rd) cell) :
      RxStands i off r₀ (u, ⟨cell, rx, tx⟩) := by
    obtain ⟨dev, scratch, hdev, h⟩ := h
    exact ⟨dev, scratch, hdev, new, hg, h.rest⟩
  unfold receive
  rw [wp_onBus_bind]
  refine wp_mono (wp_readU16 (passive_udpRxSure hs i (off ++ new) [] rd).pass i SN_RX_RSR0 hread
    ⟨dev, scratch, hdev, hc⟩) ?_ fun _ _ h => hidle h
  rintro available _ ⟨c₁, scratch₁, rfl, hc₁, hsize⟩
  have havailable : available.toNat = (c₁.unread i).length := by
    rw [unread_length, hsize]
    exact congrArg UInt16.toNat (UInt16.toUInt16_toUInt32 _)
  split
  · exact hidle ⟨c₁, scratch₁, rfl, hc₁⟩
  next hsome =>
  -- what is in front stays in front until the read pointer moves
  obtain ⟨d, hlane⟩ := hc₁.2.look (by rw [← havailable]; rw [PACKINFO] at hsome; omega)
  have hlook : UdpRxSure i (off ++ new) [d] rd c₁ := ⟨hc₁.1, hlane⟩
  have hp := passive_udpRxSure hs i (off ++ new) [d] rd
  rw [wp_onBus_bind]
  refine wp_mono (wp_readU16 hp.pass i SN_RX_RD0 hread ⟨c₁, scratch₁, rfl, hlook⟩) ?_
    fun _ _ h => hidle h
  rintro start _ ⟨c₂, scratch₂, rfl, hc₂, hstart⟩
  obtain rfl : start = rd := by
    rw [hstart, ← hc₂.2.readPtr]
    exact UInt16.toUInt16_toUInt32 _
  rw [wp_onBus_bind]
  refine wp_mono (wp_read hp.pass ⟨start, .socketRxBuffer i⟩ (by rw [HEADER, PACKINFO]; omega)
    ⟨c₂, scratch₂, rfl, hc₂⟩) ?_ fun _ _ h => hidle h
  rintro head _ ⟨c₃, scratch₃, payload, rfl, hc₃, hpayload, hhead⟩
  have hsized := hc₃.2.next.1
  rw [ChipState.serve_readRx, hpayload, hc₃.2.header] at hhead
  obtain ⟨hlen, hip, hport⟩ := parse_packinfo d.1 hsized
  subst hhead
  dsimp only
  rw [hlen, hip, hport]
  split
  · exact hidle ⟨c₃, scratch₃, rfl, hc₃⟩
  have he' := hg.even he
  have hskip {pointer : UInt16} (hptr : pointer = start + UInt16.ofNat (PACKINFO + d.2.length))
      (x : SpscRing w)
      (hx : ∀ c : LiveChip size, UdpRxRest i (off ++ new ++ [d]) c → UdpDelivered i off r₀ x c) :
      wp (do onBus (skipTo (socketBlock i) pointer); pure BulkAction.none)
        (Settles (fun _ rings => UdpDelivered i off r₀ rings.rx) (UdpRxStarted i off r₀))
        (fun _ => RxStands i off r₀) (u, ⟨.idle c₃ scratch₃, x, tx⟩) := by
    rw [wp_onBus_bind]
    have hout {cell : Transceiver L (LiveChip size)}
        (h : IdleOn (UdpRxRest i (off ++ new ++ [d])) cell) :
        RxStands i off r₀ (u, ⟨cell, x, tx⟩) := by
      obtain ⟨dev, scratch, hdev, h⟩ := h
      exact ⟨dev, scratch, hdev, hx dev h⟩
    exact wp_mono (wp_udpRx_commit hs hL hptr ⟨c₃, scratch₃, rfl, hc₃⟩
      (keeps_udpRx_told hs hL _)) (fun _ _ h => hout h) fun _ _ h => hout h
  rw [wp_onRx_bind, run_capacity]
  dsimp only
  split
  next hover => exact hskip rfl rx fun c h => UdpDelivered.skipped hg h hover
  next hfit =>
  rw [wp_onRx_bind, run_free, toNat_sub_le he'.room]
  dsimp only
  split
  · exact hidle ⟨c₃, scratch₃, rfl, hc₃⟩
  next hroom =>
  have hle := he'.room
  split
  next hz =>
    have hheader := frameHeader_length 0 ⟨d.1.ip, d.1.port⟩
    have hfits : (rx.tail - rx.head).toNat + (frameHeader 0 ⟨d.1.ip, d.1.port⟩).length ≤
        rx.cap.toNat := by
      rw [hheader]
      omega
    obtain ⟨r₁, r', hwrite, hcommit, ha⟩ := run_appended_once he'.sound hfits (.inl he'.dvd)
    rw [wp_onRx_bind, wp_onRx_bind, hwrite, hcommit]
    refine hskip (by rw [hz, Nat.add_zero]) r' fun c h => ?_
    refine UdpDelivered.appended hg h (by omega) (by omega) ?_
    change Appended (stagedBytes d.2 d.1) rx r'
    rw [List.length_eq_zero_iff.mp hz]
    rwa [stagedBytes, List.append_nil]
  · rw [wp_onBus_bind]
    refine wp_mono (LiveChip.wp_startRead hp.pass i _ _ ⟨c₃, scratch₃, rfl, hc₃⟩) ?_
      fun _ _ h => hidle h
    rintro _ _ ⟨txn, rfl, htxn, hwindow⟩
    rw [htxn.2.payload hs] at hwindow
    refine ⟨txn, rfl, new, hg, start, ?_, rfl, Nat.le_of_not_lt hroom⟩
    rw [hwindow]
    exact htxn

/-- A burst the other way. -/
theorem triple_udpRx_startWrite (hs : FifoSize size) (pointer : UInt16) (len : Nat) :
    Triple (fun s : Tick UdpSocketState w L (LiveChip size) => RxStands i off r₀ s)
      (startWriteTxBuffer bus (socketBlock i) pointer len drain)
      (fun _ s => UdpRxStarted i off r₀ .transmit pointer len s.2) fun _ => RxStands i off r₀ := by
  rintro ⟨u, cell, rx, tx⟩ hc
  have hdrain (buf : List UInt8) : ∃ tx', ∃ got,
      (drain buf).run ((u, ⟨.pending, rx, tx⟩) : Tick UdpSocketState w L (LiveChip size)) =
        (got, (u, ⟨.pending, rx, tx'⟩)) := run_drain_frame buf
  refine wp_mono (LiveChip.wp_startWrite (passive_udpDelivered hs i off r₀ rx).pass bus
    ⟨pointer, .socketTxBuffer i⟩ len drain hc) ?_ ?_
  · rintro _ _ ⟨buf, txn, c, payload, -, ⟨new, hg, hrest⟩, rfl, hdev, -⟩
    obtain ⟨tx', got, hrun⟩ := hdrain buf
    rw [show bus.set .pending (u, ⟨cell, rx, tx⟩) = (u, ⟨.pending, rx, tx⟩) from rfl, hrun]
    refine ⟨txn, rfl, new, hg, ?_⟩
    rw [UdpRxHeld, hdev]
    exact (passive_udpRxRest hs i _).write c _ payload (fun h => nomatch h) hrest
  · rintro _ _ (⟨rfl, -⟩ | ⟨buf, idle, c, payload, -, hidle, rfl, -⟩)
    · exact hc
    · obtain ⟨tx', got, hrun⟩ := hdrain buf
      rw [show bus.set .pending (u, ⟨cell, rx, tx⟩) = (u, ⟨.pending, rx, tx⟩) from rfl, hrun]
      exact hidle

/-- What goes the other way takes nothing off the chip. -/
theorem triple_udpRx_transmit (hs : FifoSize size) (hL : 67 ≤ L) :
    Triple (fun s : Tick UdpSocketState w L (LiveChip size) => RxStands i off r₀ s)
      (transmit (socketBlock i))
      (Settles (fun _ rings => UdpDelivered i off r₀ rings.rx) (UdpRxStarted i off r₀))
      fun _ => RxStands i off r₀ := by
  let Rests : Tick UdpSocketState w L (LiveChip size) → Prop := RxStands i off r₀
  have hp (r : SpscRing w) :
      Passive (SparesUdpRx i) (UdpDelivered i off r₀ r : LiveChip size → Prop) :=
    passive_udpDelivered hs i off r₀ r
  have htx {α : Type} (p : Prog (SpscRing w) α) : Keeps Rests (onTx p) := by
    refine Keeps.always fun s h => ?_
    rw [Prog.run_zoom]
    exact h
  have hread (address : UInt16) : Keeps Rests (onBus (readU16 ⟨address, .socketRegister i⟩)) :=
    keeps_stands_onBus fun _ rings => ((hp rings.rx).keeps_read _ (by rw [HEADER]; omega)).map _
  have hwrite {address : UInt16} {n v : Nat} (hn : n ≤ 4)
      (ha : address ≠ SN_RX_RD0 ∧ (address = SN_CR → ∃ c : SocketCommand,
        (c = .close ∨ c = .receive ∨ c = .send) ∧ BigEndian.encode n v =
          BigEndian.encode 1 c.bits.toNat)) :
      Keeps Rests (onBus (write ⟨address, .socketRegister i⟩ (BigEndian.encode n v))) :=
    keeps_stands_onBus fun _ rings => (hp rings.rx).keeps_write (fun _ => ha)
      (by rw [BigEndian.encode_length, HEADER]; omega)
  refine (htx _).andThen fun frames => ?_
  split
  · exact fun _ h => h
  refine (htx _).andThen fun head => ?_
  dsimp only
  refine (hread _).andThen fun free => ?_
  split
  · exact fun _ h => h
  refine (htx _).andThen fun _ => ?_
  refine (hwrite (by decide) ⟨by decide, fun h => absurd h (by decide)⟩).andThen fun _ => ?_
  refine (hwrite (by decide) ⟨by decide, fun h => absurd h (by decide)⟩).andThen fun _ => ?_
  split
  · refine (hwrite (by decide) ⟨by decide, fun _ => ⟨.send, .inr (.inr rfl), rfl⟩⟩).andThen
      fun _ => ?_
    exact (htx _).andThen fun _ _ h => h
  refine (hread _).andThen fun pointer => ?_
  refine (triple_udpRx_startWrite hs pointer _).bind fun _ => ?_
  rintro ⟨u, cell, rx, tx⟩ h
  rw [wp_onTx_bind]
  exact h

end UdpSocketState

/-! ## The lane -/

section Lane

open LiveChip

variable {off : List (SocketAddr × List UInt8)} {r₀ : SpscRing w}

/-- The completion of a transfer of the slot takes the datagram off the chip. -/
theorem udpRx_finish (hs : FifoSize size) (hL : 67 ≤ L) (he : Even r₀) {op : BulkOp}
    {txn : Transaction L (LiveChip size)} {io : Io w L (LiveChip size)} (hi : op.idx = i)
    (hop : Describes op txn) (hbus : io.trans = .inFlight txn)
    (hf : UdpRxFlight i off r₀ io.rings.rx op.kind op.pointer op.len txn) :
    let Idle (io : Io w L (LiveChip size)) : Prop :=
      IdleOn (UdpDelivered i off r₀ io.rings.rx) io.trans
    wp (W6100.finishBulk op) (fun _ => Idle) (fun _ => Idle) io := by
  have hblock := hop.block
  rw [hi] at hblock
  obtain ⟨cell, rx, tx⟩ := io
  refine (W6100.wp_finishBulk_iff hbus).mpr ?_
  obtain ⟨new, hg, hheld⟩ := hf
  dsimp only at hg hheld ⊢
  have he' := hg.even he
  cases hkind : op.kind with
  | receive =>
    rw [hkind] at hheld
    exact hheld.elim
  | transmit =>
    rw [hkind] at hheld
    have hstay : op.deliver (txn.buffers.rxWindow HEADER op.len) rx = rx := by
      rw [BulkOp.deliver, hkind]
    have hp : Passive (SparesUdpRx i) (UdpDelivered i off r₀ rx : LiveChip size → Prop) :=
      passive_udpDelivered hs i off r₀ rx
    rw [hstay, W6100.epilogue, hkind, hblock]
    refine Keeps.bind (hp.keeps_write (fun _ => ⟨show SN_TX_WR0 ≠ SN_RX_RD0 by decide,
      fun h => absurd h (show SN_TX_WR0 ≠ SN_CR by decide)⟩)
      (by rw [BigEndian.encode_length, HEADER]; omega)) (fun _ => ?_) _
      ⟨_, _, rfl, new, hg, hheld⟩
    exact hp.keeps_write (fun _ => ⟨show SN_CR ≠ SN_RX_RD0 by decide,
      fun _ => ⟨.send, .inr (.inr rfl), rfl⟩⟩) (by rw [BigEndian.encode_length, HEADER]; omega)
  | receiveDatagram srcIp srcPort =>
    rw [hkind] at hheld
    obtain ⟨rd, hlane, hptr, hroom⟩ := hheld
    have hlen := hop.frame.rxWindow_length
    generalize txn.buffers.rxWindow HEADER op.len = payload at hlane hlen ⊢
    have hle := he'.room
    rw [room] at hroom
    have hheader := frameHeader_length (UInt16.ofNat op.len) ⟨srcIp, srcPort⟩
    obtain ⟨r₁, r₂, r', hwrite₁, hwrite₂, hcommit, ha⟩ := run_appended he'.sound
      (frameHeader (UInt16.ofNat op.len) ⟨srcIp, srcPort⟩) payload (by omega) (.inl he'.dvd)
    have hdeliver : op.deliver payload rx = r' := by
      rw [BulkOp.deliver, hkind]
      dsimp only
      rw [hwrite₁, hwrite₂, hcommit]
    have hsized : payload.length < 2 ^ 11 := hlane.2.next.1
    rw [← hlen] at ha
    rw [hdeliver, W6100.epilogue, hkind, W6100.commitReceive, hblock]
    have hout {cell : Transceiver L (LiveChip size)} (h : IdleOn
        (UdpRxRest i (off ++ new ++ [(⟨srcIp, srcPort⟩, payload)])) cell) :
        IdleOn (UdpDelivered i off r₀ r') cell := by
      obtain ⟨dev, scratch, hdev, h⟩ := h
      refine ⟨dev, scratch, hdev, UdpDelivered.appended hg h ?_ ?_ ha⟩
      · dsimp only
        omega
      · dsimp only
        omega
    refine wp_mono (wp_udpRx_commit hs hL ?_ ⟨_, _, rfl, hlane⟩ (keeps_udpRx_told hs hL _))
      (fun _ _ h => hout h) fun _ _ h => hout h
    rw [hptr, hlen, UInt16.ofNat_add, UInt16.add_assoc]

/-- What a UDP socket receives: `off` had been taken off the chip when the rx ring
stood at `r₀`, and what has been taken off since has come into it. -/
def rxUdp (hs : FifoSize size) (hL : 67 ≤ L) (i : Fin 8) (off : List (SocketAddr × List UInt8))
    (he : Even r₀) : Lane w L size i where
  protocol := .udp
  spares := SparesUdpRx i
  rest _ rings := UdpDelivered i off r₀ rings.rx
  flight _ op rings := UdpRxFlight i off r₀ rings.rx op.kind op.pointer op.len
  spared _ _ h _ hb := absurd hb h
  passive _ rings := passive_udpDelivered hs i off r₀ rings.rx
  stalled _ := ⟨fun _ _ h => h, fun _ _ _ h => h⟩
  tick b io hp hr hblock hidle := by
    let Started : BulkKind → UInt16 → Nat → Io w L (LiveChip size) → Prop :=
      UdpSocketState.UdpRxStarted i off r₀
    have hmoves :
        UdpSocketState.Moves i (fun _ rings => UdpDelivered i off r₀ rings.rx) Started := by
      intro s _ hstands
      refine wp_mono (UdpSocketState.wp_udpRx_receive hs hL he hstands) ?_ fun _ _ h => h
      rintro (_ | ⟨kind, pointer, len⟩) s' hs'
      · exact UdpSocketState.triple_udpRx_transmit hs hL s' hs'
      · exact hs'
    have htick := SocketBackend.run_udp hL (tuned_udpRx hs i off r₀) hmoves hp hr hblock hidle
    rcases hb : b.run.run io with ⟨⟨result, b'⟩, io'⟩
    rw [hb] at htick
    obtain ⟨hslot, hresult⟩ := htick
    refine ⟨hslot, ?_⟩
    rcases result with e | (_ | ⟨kind, pointer, len⟩) <;> exact hresult
  finish _ op txn io hi hop hbus hf := udpRx_finish hs hL he hi hop hbus hf

end Lane

end Wiznet
