import Wiznet.Chip
import Wiznet.FaultFree

/-! # The chip on a live network

What `peer_connect`, `peer_send` and `peer_send_udp` of `tests/echo_harness.rs`
do to a socket, and what else a network does: the peer closes or resets the
connection, or nobody answers. It happens before any frame, and any frame may
fail, which has no effect on the chip. -/

namespace Wiznet
open Resumption Resumption.Code Cyclic

/-! ## Buffers -/

/-- A buffer that free-running 16-bit pointers can run through. -/
structure FifoSize (size : Nat) : Prop where
  dvd : size ∣ 2 ^ 16
  lt : size < 2 ^ 16

namespace ChipBuffer

variable {size n : Nat} {b : ChipBuffer} {bytes : List UInt8}

/-- The bytes between the two pointers. -/
def stored (size : Nat) (b : ChipBuffer) : List UInt8 := b.peek size b.readPtr b.used.toNat

/-- The `n` bytes behind the write pointer. -/
def staged (size n : Nat) (b : ChipBuffer) : List UInt8 :=
  window b.data size (b.readPtr.toNat + b.used.toNat) n

/-- The write pointer moved on. -/
def advance (n : Nat) (b : ChipBuffer) : ChipBuffer :=
  { b with writePtr := b.writePtr + UInt16.ofNat n }

/-- `bytes` behind the write pointer, and the pointer behind them. -/
def push (size : Nat) (bytes : List UInt8) (b : ChipBuffer) : ChipBuffer :=
  (b.poke size b.writePtr bytes).advance bytes.length

/-- The read pointer moved on. -/
def drop (n : Nat) (b : ChipBuffer) : ChipBuffer :=
  { b with readPtr := b.readPtr + UInt16.ofNat n }

@[simp] theorem stored_length (size : Nat) (b : ChipBuffer) :
    (b.stored size).length = b.used.toNat := window_length ..

theorem used_eq (b : ChipBuffer) : b.writePtr = b.readPtr + b.used := by
  rw [used, UInt16.add_comm, UInt16.sub_add_cancel]

theorem writePtr_mod (hs : FifoSize size) (b : ChipBuffer) :
    b.writePtr.toNat % size = (b.readPtr.toNat + b.used.toNat) % size := by
  conv_lhs => rw [used_eq b, UInt16.toNat_add, Nat.mod_mod_of_dvd _ hs.dvd]

theorem add_ofNat_mod (hs : FifoSize size) (p : UInt16) (n : Nat) :
    (p + UInt16.ofNat n).toNat % size = (p.toNat + n) % size := by
  rw [UInt16.toNat_add, UInt16.toNat_ofNat', Nat.add_mod_mod, Nat.mod_mod_of_dvd _ hs.dvd]

theorem toNat_free (hs : FifoSize size) (h : b.used.toNat ≤ size) :
    (b.free size).toNat = size - b.used.toNat := by
  have hlt := hs.lt
  have hof : (UInt16.ofNat size).toNat = size := by
    rw [UInt16.toNat_ofNat']
    exact Nat.mod_eq_of_lt hlt
  rw [free, UInt16.toNat_sub_of_le _ _ (by rw [UInt16.le_iff_toNat_le, hof]; exact h), hof]

theorem used_advance (h : b.used.toNat + n < 2 ^ 16) :
    (b.advance n).used.toNat = b.used.toNat + n := by
  have hadd : (b.advance n).used = b.used + UInt16.ofNat n := by
    simp only [used, advance]
    rw [UInt16.sub_eq_add_neg, UInt16.sub_eq_add_neg, UInt16.add_assoc, UInt16.add_assoc,
      UInt16.add_comm (UInt16.ofNat n)]
  rw [hadd, UInt16.toNat_add, UInt16.toNat_ofNat', Nat.add_mod_mod, Nat.mod_eq_of_lt h]

/-- Moving the write pointer stores what is behind it. -/
theorem stored_advance (h : b.used.toNat + n < 2 ^ 16) :
    (b.advance n).stored size = b.stored size ++ b.staged size n := by
  rw [stored, used_advance h, peek, window_add]
  rfl

section Poke

variable (hs : FifoSize size) {k : Nat} (h : b.used.toNat + k + bytes.length ≤ size)
include hs

theorem poke_data (b : ChipBuffer) (bytes : List UInt8) (k : Nat) :
    (b.poke size (b.writePtr + UInt16.ofNat k) bytes).data =
      put b.data size (b.readPtr.toNat + b.used.toNat + k) bytes := by
  refine put_congr ?_ _ _
  rw [add_ofNat_mod hs, Nat.add_mod, writePtr_mod hs, ← Nat.add_mod]

include h

theorem stored_poke :
    (b.poke size (b.writePtr + UInt16.ofNat k) bytes).stored size = b.stored size := by
  have hfront := congrArg (List.take b.used.toNat) (window_put_before h : window
    (put b.data size (b.readPtr.toNat + (b.used.toNat + k)) bytes) size b.readPtr.toNat _ = _)
  rw [window_take _ _ _ (Nat.le_add_right ..), window_take _ _ _ (Nat.le_add_right ..),
    ← Nat.add_assoc] at hfront
  rw [stored, peek, poke_data hs]
  exact hfront

/-- Bytes put behind those that are staged. -/
theorem staged_poke :
    (b.poke size (b.writePtr + UInt16.ofNat k) bytes).staged size (k + bytes.length) =
      b.staged size k ++ bytes := by
  rw [staged, poke_data hs, window_add]
  change window (put b.data _ (b.readPtr.toNat + b.used.toNat + k) _) _
    (b.readPtr.toNat + b.used.toNat) _ ++ window (put b.data _ _ _) _
      (b.readPtr.toNat + b.used.toNat + k) _ = _
  rw [window_put_before (by omega), window_put (by omega)]
  rfl

end Poke

theorem used_push (h : b.used.toNat + bytes.length < 2 ^ 16) :
    (b.push size bytes).used.toNat = b.used.toNat + bytes.length :=
  used_advance (b := b.poke size b.writePtr bytes) h

/-- What is pushed comes behind what is stored. -/
theorem stored_push (hs : FifoSize size) (h : b.used.toNat + bytes.length ≤ size) :
    (b.push size bytes).stored size = b.stored size ++ bytes := by
  have hlt := hs.lt
  have hptr : b.writePtr + UInt16.ofNat 0 = b.writePtr := UInt16.add_zero _
  have hstored : (b.poke size (b.writePtr + UInt16.ofNat 0) bytes).stored size = _ :=
    stored_poke hs h
  have hstaged : (b.poke size (b.writePtr + UInt16.ofNat 0) bytes).staged size _ = _ :=
    staged_poke hs h
  rw [hptr] at hstored hstaged
  rw [Nat.zero_add] at hstaged
  rw [push, stored_advance (by change b.used.toNat + _ < _; omega), hstored, hstaged]
  rfl

theorem used_drop (h : n ≤ b.used.toNat) : (b.drop n).used.toNat = b.used.toNat - n := by
  have hlt := UInt16.toNat_lt b.used
  have hof : (UInt16.ofNat n).toNat = n := by
    rw [UInt16.toNat_ofNat']
    exact Nat.mod_eq_of_lt (by omega)
  have hsub : (b.drop n).used = b.used - UInt16.ofNat n := by
    simp only [used, drop]
    rw [UInt16.sub_eq_add_neg, UInt16.sub_eq_add_neg, UInt16.sub_eq_add_neg, UInt16.neg_add,
      UInt16.sub_eq_add_neg, UInt16.add_assoc]
  rw [hsub, UInt16.toNat_sub_of_le _ _ (by rw [UInt16.le_iff_toNat_le, hof]; exact h), hof]

/-- What is dropped was at the front. -/
theorem stored_drop (hs : FifoSize size) (h : n ≤ b.used.toNat) :
    (b.drop n).stored size = (b.stored size).drop n := by
  rw [stored, used_drop h, stored, peek, peek, window_drop _ _ _ h]
  exact window_congr (add_ofNat_mod hs b.readPtr n) _

/-- A read behind the read pointer gets the front of what is stored. -/
theorem peek_stored (h : n ≤ b.used.toNat) : b.peek size b.readPtr n = (b.stored size).take n := by
  rw [stored, peek, peek, window_take _ _ _ h]

end ChipBuffer

/-! ## Peers -/

/-- What the network does to a socket of the chip. -/
inductive PeerEvent where
  | connect
  | send (data : List UInt8)
  | sendUdp (peer : SocketAddr) (data : List UInt8)
  /-- The peer has nothing more to send. -/
  | close
  | reset
  | timeout
  deriving DecidableEq, Repr

/-- The chip's header of a datagram. -/
def packinfo (peer : SocketAddr) (len : Nat) : List UInt8 :=
  BigEndian.encode 2 (UInt16.ofNat len &&& PACKINFO_LEN_MASK).toNat ++
    BigEndian.encode 4 peer.ip.toNat ++ BigEndian.encode 2 peer.port.toNat

namespace SocketModel

variable (size : Nat)

/-- A datagram is taken whole, or dropped. -/
def takesUdp (s : SocketModel) (data : List UInt8) : Bool :=
  s.sr == 0x22 && decide (data.length < 2 ^ 11) &&
    decide (PACKINFO + data.length ≤ (s.rx.free size).toNat)

/-- The bytes an event brings into the RX buffer. -/
def arriving (s : SocketModel) : PeerEvent → List UInt8
  | .send data => if s.sr = 0x17 then data.take (s.rx.free size).toNat else []
  | .sendUdp peer data =>
    if s.takesUdp size data then packinfo peer data.length ++ data else []
  | _ => []

def handshaking (s : SocketModel) : Bool :=
  s.sr == 0x13 || s.sr == 0x14 || s.sr == 0x15 || s.sr == 0x16

/-- What an event does to the status and the interrupts. -/
def signalled (s : SocketModel) : PeerEvent → UInt8 × UInt8
  | .connect =>
    if s.handshaking then (0x17, s.ir ||| SocketInterrupt.CON.bits) else (s.sr, s.ir)
  | .send _ | .sendUdp _ _ => (s.sr, s.ir ||| SocketInterrupt.RECV.bits)
  | .close =>
    if s.sr = 0x17 then (0x1C, s.ir ||| SocketInterrupt.DISCON.bits) else (s.sr, s.ir)
  | .reset =>
    if s.sr = 0x22 then (s.sr, s.ir) else (0x00, s.ir ||| SocketInterrupt.DISCON.bits)
  | .timeout =>
    (if s.sr = 0x22 then s.sr else 0x00, s.ir ||| SocketInterrupt.TIMEOUT.bits)

def happen (s : SocketModel) (e : PeerEvent) : SocketModel :=
  { s with
    sr := (s.signalled e).1
    ir := (s.signalled e).2
    rx := s.rx.push size (s.arriving size e) }

end SocketModel

/-- The chip, what has come into its RX buffers, and what is going to happen
before each of the frames to come. -/
structure LiveChip (size : Nat) where
  chip : ChipState size
  received : Fin 8 → List UInt8
  datagrams : Fin 8 → List (SocketAddr × List UInt8)
  ahead : Nat → List (Fin 8 × PeerEvent)
  /-- Whether a frame fails; the pattern may look at the frame. -/
  fails : Nat → List UInt8 → Bool

namespace LiveChip

variable {size L : Nat}

def happen (c : LiveChip size) (e : Fin 8 × PeerEvent) : LiveChip size :=
  let s := c.chip.sockets e.1
  { c with
    chip := c.chip.modifySocket e.1 fun s => s.happen size e.2
    received := Function.update c.received e.1 (c.received e.1 ++ s.arriving size e.2)
    datagrams :=
      match e.2 with
      | .sendUdp peer data =>
        if s.takesUdp size data then
          Function.update c.datagrams e.1 (c.datagrams e.1 ++ [(peer, data)])
        else c.datagrams
      | _ => c.datagrams }

/-- The time up to the next frame. -/
def pass (c : LiveChip size) : LiveChip size :=
  { (c.ahead 0).foldl happen c with
    ahead := fun n => c.ahead (n + 1)
    fails := fun n => c.fails (n + 1) }

instance : SpiDmaDevice (LiveChip size) where
  clock c mosi _ :=
    if c.fails 0 mosi then (none, c.pass)
    else (some ⟨_, c.pass.chip.transact_length mosi⟩,
      { c.pass with chip := (c.pass.chip.transact mosi).2 })
  delayNs c _ := c

/-! ## Frames -/

/-- The chip after a write that got through. -/
def written (addr : Address) (data : List UInt8) (c : LiveChip size) : LiveChip size :=
  { c with chip := (c.chip.serve addr.address (ChipState.controlByte addr.block true) data).2 }

/-- A frame of the driver either fails or is served, in the time it is clocked. -/
theorem clock_cases (c : LiveChip size) {mosi : List UInt8} {addr : Address} {write : Bool}
    {payload : List UInt8} (hm : mosi = createHeader addr write ++ payload)
    (completion : Completion) :
    (c.fails 0 mosi = true ∧ SpiDmaDevice.clock c mosi completion = (none, c.pass)) ∨
    ∃ miso, SpiDmaDevice.clock c mosi completion = (some miso,
        { c.pass with chip := (c.pass.chip.serve addr.address
          (ChipState.controlByte addr.block write) payload).2 }) ∧
      miso.1 = 0 :: 0 :: 0 :: (c.pass.chip.serve addr.address
        (ChipState.controlByte addr.block write) payload).1 := by
  subst hm
  have hserve := ChipState.transact_header addr write payload c.pass.chip
  simp only [SpiDmaDevice.clock]
  by_cases hf : c.fails 0 (createHeader addr write ++ payload) = true
  · rw [if_pos hf]
    exact .inl ⟨hf, rfl⟩
  · rw [if_neg hf]
    refine .inr ⟨⟨_, c.pass.chip.transact_length _⟩, Prod.ext rfl ?_, congrArg Prod.fst hserve⟩
    dsimp only
    rw [hserve]

end LiveChip

namespace ChipState

variable {size : Nat} {i j : Fin 8} {chip : ChipState size}

/-- What a change to a socket leaves alone. -/
theorem modifySocket_proj {β : Type} (g : SocketModel → β) {f : SocketModel → SocketModel}
    (h : ∀ s, g (f s) = g s) (chip : ChipState size) (j : Fin 8) :
    g ((chip.modifySocket j f).sockets i) = g (chip.sockets i) := by
  by_cases hj : i = j
  · subst hj
    simp only [modifySocket, Function.update_self, h]
  · simp only [modifySocket, Function.update_of_ne hj]

theorem modifySocket_other {f : SocketModel → SocketModel} (hj : i ≠ j) :
    (chip.modifySocket j f).sockets i = chip.sockets i := Function.update_of_ne hj ..

theorem serve_writeRx (addr : UInt16) (payload : List UInt8) :
    (chip.serve addr (controlByte (.socketRxBuffer j) true) payload).2 = chip := by
  have hcontrol : ∀ j : Fin 8, controlByte (.socketRxBuffer j) true &&& 0b100 ≠ 0 ∧
      controlByte (.socketRxBuffer j) true >>> 3 &&& 0b11 = 0b11 := by
    decide
  obtain ⟨hwrite, hkind⟩ := hcontrol j
  rw [serve, if_pos hwrite, hkind]
  rfl

theorem send_sockets : (chip.send j).sockets = (chip.modifySocket j fun s =>
    { s with tx := { s.tx with readPtr := s.tx.writePtr } }).sockets := by
  simp only [send]
  split <;> rfl

/-- Reading changes nothing. -/
theorem serve_read (addr : Address) (payload : List UInt8) (chip : ChipState size) :
    (chip.serve addr.address (controlByte addr.block false) payload).2 = chip := by
  have hread : ∀ block, ¬ controlByte block false &&& 0b100 ≠ 0 := by
    rintro (_ | n | n | n)
    · decide
    all_goals revert n; decide
  rw [serve, if_neg (hread addr.block)]

/-- The chip takes no notice of what is written to its common registers. -/
theorem serve_common (addr : UInt16) (payload : List UInt8) (chip : ChipState size) :
    (chip.serve addr (controlByte .commonRegister true) payload).2 = chip := rfl

theorem serve_readRx (i : Fin 8) (addr : UInt16) (payload : List UInt8) (chip : ChipState size) :
    (chip.serve addr (controlByte (.socketRxBuffer i) false) payload).1 =
      (chip.sockets i).rx.peek size addr payload.length := by
  have hcontrol : ∀ i : Fin 8, ¬ controlByte (.socketRxBuffer i) false &&& 0b100 ≠ 0 ∧
      controlByte (.socketRxBuffer i) false >>> 3 &&& 0b11 = 0b11 ∧
      Fin.ofNat 8 (controlByte (.socketRxBuffer i) false >>> 3 >>> 2 &&& 0b111).toNat = i := by
    decide
  obtain ⟨hread, hkind, hsock⟩ := hcontrol i
  rw [serve, if_neg hread, hkind, hsock]
  rfl

end ChipState

namespace LiveChip

variable {size L : Nat} {J : LiveChip size → Prop} {cell : Transceiver L (LiveChip size)} {n : Nat}

section Operations

variable (hp : ∀ c, J c → J c.pass)
include hp

/-- A read answers with what the chip holds when it is served, or its frame failed. -/
theorem wp_read_or (addr : Address) (hn : HEADER + n ≤ L) (hc : IdleOn J cell) :
    wp (read addr n) (fun data cell' => ∃ c scratch payload, cell' = .idle c scratch ∧ J c ∧
        payload.length = n ∧ data = (c.chip.serve addr.address
          (ChipState.controlByte addr.block false) payload).1)
      (fun _ cell' => IdleOn J cell' ∧
        ∃ c payload, J c ∧ c.fails 0 (createHeader addr false ++ payload) = true) cell := by
  obtain ⟨c, scratch, rfl, hJ⟩ := hc
  have hmosi := framed_mosi scratch addr false hn
  have hlen : ((scratch.tx.drop HEADER).take n).length = n := by
    rw [List.length_take, List.length_drop, scratch.tx_length]
    omega
  rw [wp, exec_read hn]
  rcases c.clock_cases hmosi .poll with ⟨hf, hclock⟩ | ⟨miso, hclock, hmiso⟩
  · rw [hclock]
    exact ⟨⟨_, _, rfl, hp c hJ⟩, c, _, hJ, hmosi ▸ hf⟩
  · rw [hclock, ChipState.serve_read]
    exact ⟨c.pass, _, _, rfl, hp c hJ, hlen, by rw [hmiso]; rfl⟩

theorem wp_read (addr : Address) (hn : HEADER + n ≤ L) (hc : IdleOn J cell) :
    wp (read addr n) (fun data cell' => ∃ c scratch payload, cell' = .idle c scratch ∧ J c ∧
        payload.length = n ∧ data = (c.chip.serve addr.address
          (ChipState.controlByte addr.block false) payload).1)
      (fun _ => IdleOn J) cell :=
  wp_mono (wp_read_or hp addr hn hc) (fun _ _ h => h) fun _ _ h => h.1

/-- A read of a register. -/
theorem wp_readReg (i : Fin 8) (addr : UInt16) (hn : HEADER + n ≤ L) (hc : IdleOn J cell) :
    wp (read ⟨addr, .socketRegister i⟩ n)
      (fun data cell' => ∃ c scratch, cell' = .idle c scratch ∧ J c ∧
        data = BigEndian.encode n (c.chip.regValue i addr).toNat)
      (fun _ => IdleOn J) cell := by
  refine wp_mono (wp_read hp ⟨addr, .socketRegister i⟩ hn hc) ?_ fun _ _ h => h
  rintro _ _ ⟨c, scratch, payload, rfl, hJ, rfl, rfl⟩
  exact ⟨c, scratch, rfl, hJ, by rw [ChipState.serve_readReg]⟩

theorem wp_readU16 (i : Fin 8) (addr : UInt16) (hL : HEADER + 2 ≤ L) (hc : IdleOn J cell) :
    wp (readU16 ⟨addr, .socketRegister i⟩)
      (fun v cell' => ∃ c scratch, cell' = .idle c scratch ∧ J c ∧
        v = (c.chip.regValue i addr).toUInt16)
      (fun _ => IdleOn J) cell := by
  rw [readU16, wp_map]
  refine wp_mono (wp_readReg hp i addr hL hc) ?_ fun _ _ h => h
  rintro _ _ ⟨c, scratch, rfl, hJ, rfl⟩
  refine ⟨c, scratch, rfl, hJ, ?_⟩
  rw [BigEndian.decode_encode]
  apply UInt16.toNat_inj.mp
  simp

/-- A read that gets through. -/
theorem wp_readU16_sure (i : Fin 8) (addr : UInt16) (hL : HEADER + 2 ≤ L) (hc : IdleOn J cell)
    (hsure : ∀ c payload, J c →
      c.fails 0 (createHeader ⟨addr, .socketRegister i⟩ false ++ payload) = false) :
    wp (readU16 ⟨addr, .socketRegister i⟩)
      (fun v cell' => ∃ c scratch, cell' = .idle c scratch ∧ J c ∧
        v = (c.chip.regValue i addr).toUInt16)
      (fun _ _ => False) cell := by
  have hfails : wp (readU16 ⟨addr, .socketRegister i⟩) (fun _ _ => True) (fun _ _ => False) cell := by
    rw [readU16, wp_map]
    refine wp_mono (wp_read_or hp ⟨addr, .socketRegister i⟩ hL hc) (fun _ _ _ => trivial) ?_
    rintro _ _ ⟨-, c, payload, hJ, hf⟩
    rw [hsure c payload hJ] at hf
    cases hf
  exact wp_mono (wp_and (wp_readU16 hp i addr hL hc) hfails) (fun _ _ h => h.1) fun _ _ h => h.2

theorem wp_readU8 (i : Fin 8) (addr : UInt16) (hL : HEADER + 1 ≤ L) (hc : IdleOn J cell) :
    wp (readU8 ⟨addr, .socketRegister i⟩)
      (fun v cell' => ∃ c scratch, cell' = .idle c scratch ∧ J c ∧
        v = (c.chip.regValue i addr).toUInt8)
      (fun _ => IdleOn J) cell := by
  rw [readU8, wp_map]
  refine wp_mono (wp_readReg hp i addr hL hc) ?_ fun _ _ h => h
  rintro _ _ ⟨c, scratch, rfl, hJ, rfl⟩
  refine ⟨c, scratch, rfl, hJ, ?_⟩
  rw [BigEndian.decode_encode]
  apply UInt8.toNat_inj.mp
  simp

/-- A write gets through, or its frame failed. -/
theorem wp_write (addr : Address) {data : List UInt8} (hn : HEADER + data.length ≤ L)
    (hc : IdleOn J cell) :
    wp (write addr data)
      (fun _ cell' => ∃ c scratch, cell' = .idle (c.written addr data) scratch ∧ J c)
      (fun _ cell' => IdleOn J cell' ∧
        ∃ c, J c ∧ c.fails 0 (createHeader addr true ++ data) = true) cell := by
  obtain ⟨c, scratch, rfl, hJ⟩ := hc
  obtain ⟨staged, hmosi, hexec⟩ := exec_write addr c scratch hn
  rw [wp, hexec]
  rcases c.clock_cases hmosi .poll with ⟨hf, hclock⟩ | ⟨miso, hclock, -⟩
  · rw [hclock]
    exact ⟨⟨_, _, rfl, hp c hJ⟩, c, hJ, hmosi ▸ hf⟩
  · rw [hclock]
    exact ⟨c.pass, _, rfl, hp c hJ⟩

/-- A write that gets through. -/
theorem wp_write_sure (addr : Address) {data : List UInt8} (hn : HEADER + data.length ≤ L)
    (hc : IdleOn J cell)
    (hsure : ∀ c, J c → c.fails 0 (createHeader addr true ++ data) = false) :
    wp (write addr data)
      (fun _ cell' => ∃ c scratch, cell' = .idle (c.written addr data) scratch ∧ J c)
      (fun _ _ => False) cell := by
  refine wp_mono (wp_write hp addr hn hc) (fun _ _ h => h) ?_
  rintro _ _ ⟨-, c, hJ, hf⟩
  rw [hsure c hJ] at hf
  cases hf

/-- A burst out of the RX buffer has captured its bytes when it is in flight. -/
theorem wp_startRead (i : Fin 8) (pointer : UInt16) (len : Nat) (hc : IdleOn J cell) :
    wp (startRead ⟨pointer, .socketRxBuffer i⟩ len)
      (fun _ cell' => ∃ txn, cell' = .inFlight txn ∧ J txn.dev ∧
        txn.buffers.rxWindow HEADER len = (txn.dev.chip.sockets i).rx.peek size pointer len)
      (fun _ => IdleOn J) cell := by
  obtain ⟨c, scratch, rfl, hJ⟩ := hc
  by_cases hl : HEADER + len ≤ L
  · have hmosi := framed_mosi scratch ⟨pointer, .socketRxBuffer i⟩ false hl
    have hlen : ((scratch.tx.drop HEADER).take len).length = len := by
      rw [List.length_take, List.length_drop, scratch.tx_length]
      omega
    rw [wp, exec_startRead hl]
    rcases c.clock_cases hmosi .interrupt with ⟨-, hclock⟩ | ⟨miso, hclock, hmiso⟩
    · rw [hclock]
      exact ⟨_, _, rfl, hp c hJ⟩
    · rw [hclock, ChipState.serve_read]
      refine ⟨_, rfl, hp c hJ, ?_⟩
      have hcount : miso.1.length = HEADER + len := by
        rw [miso.2, hmosi, List.length_append, createHeader_length, hlen]
      rw [rxWindow_capture _ _ _ hcount hl, hmiso, ChipState.serve_readRx, hlen]
      rfl
  · rw [wp, exec_startRead_overrun (Nat.lt_of_not_le hl)]
    exact ⟨c, scratch, rfl, hJ⟩

/-- A burst into a TX buffer has reached the chip when it is in flight. One that
does not fit the scratch leaves everything as it was. -/
theorem wp_startWrite {S : Type} (bus : Lens S (Transceiver L (LiveChip size))) (addr : Address)
    (len : Nat) (fill : List UInt8 → Prog S (List UInt8)) {s : S} (hc : IdleOn J (bus.get s)) :
    wp (startWrite bus addr len fill)
      (fun _ s' => ∃ buf txn c payload, buf.length = len ∧ J c ∧
        s' = bus.set (.inFlight txn) ((fill buf).run (bus.set .pending s)).2 ∧
        txn.dev = c.written addr payload ∧ (((fill buf).run (bus.set .pending s)).1.length = len →
          payload = ((fill buf).run (bus.set .pending s)).1))
      (fun _ s' => s' = s ∧ L < HEADER + len ∨ ∃ buf cell c payload, buf.length = len ∧ IdleOn J cell ∧
        s' = bus.set cell ((fill buf).run (bus.set .pending s)).2 ∧ J c ∧
        c.fails 0 (createHeader addr true ++ payload) = true) s := by
  obtain ⟨c, scratch, hs, hJ⟩ := hc
  by_cases hl : HEADER + len ≤ L
  · have hbuf : ((scratch.stage 0 (createHeader addr true)).txWindow HEADER len).length = len := by
      rw [DmaBuffers.txWindow, List.length_take, List.length_drop, DmaBuffers.tx_length]
      omega
    rcases hf : (fill ((scratch.stage 0 (createHeader addr true)).txWindow HEADER len)).run
      (bus.set .pending s) with ⟨payload, s'⟩
    obtain ⟨rest, -, hmosi⟩ : ∃ rest, _ ∧
        (scratch.loaded (createHeader addr true) payload len).mosi = createHeader addr true ++ rest :=
      loaded_frame hl
    have hrest : payload.length = len → rest = payload := by
      rintro rfl
      rw [loaded_mosi hl] at hmosi
      exact (List.append_cancel_left hmosi).symm
    rw [wp, exec_startWrite bus hs hl hf]
    rcases c.clock_cases hmosi .interrupt with ⟨hfail, hclock⟩ | ⟨miso, hclock, -⟩
    · rw [hclock]
      refine .inr ⟨_, _, c, rest, hbuf, ⟨_, _, rfl, hp c hJ⟩, by rw [hf], hJ, ?_⟩
      rw [← hmosi]
      exact hfail
    · rw [hclock]
      refine ⟨_, _, c.pass, rest, hbuf, hp c hJ, by rw [hf], rfl, ?_⟩
      rw [hf]
      exact hrest
  · rw [wp, exec_startWrite_overrun bus hs (Nat.lt_of_not_le hl)]
    exact .inl ⟨rfl, Nat.lt_of_not_le hl⟩

end Operations

/-! ## What stands on a bus that others use -/

/-- A transfer is in flight, and the device in one of the states of `J`. -/
def InFlightOn (J : LiveChip size → Prop) (cell : Transceiver L (LiveChip size)) : Prop :=
  ∃ txn, cell = .inFlight txn ∧ J txn.dev

/-- `J` stands while time passes and through the writes of `W`. -/
structure Passive (W : Address → List UInt8 → Prop) (J : LiveChip size → Prop) : Prop where
  pass : ∀ c, J c → J c.pass
  write : ∀ c addr data, W addr data → J c → J (c.written addr data)

namespace Passive

variable {W : Address → List UInt8 → Prop} {J' : LiveChip size → Prop}

theorem and (h : Passive W J) (h' : Passive W J') : Passive W fun c => J c ∧ J' c where
  pass c hc := ⟨h.pass c hc.1, h'.pass c hc.2⟩
  write c addr data hW hc := ⟨h.write c addr data hW hc.1, h'.write c addr data hW hc.2⟩

theorem or (h : Passive W J) (h' : Passive W J') : Passive W fun c => J c ∨ J' c where
  pass c hc := hc.imp (h.pass c) (h'.pass c)
  write c addr data hW hc := hc.imp (h.write c addr data hW) (h'.write c addr data hW)

theorem spare {W' : Address → List UInt8 → Prop} (h : Passive W J)
    (hW : ∀ addr data, W' addr data → W addr data) : Passive W' J :=
  ⟨h.pass, fun c addr data hw => h.write c addr data (hW addr data hw)⟩

/-- Beside a fact that is not about the chip. -/
theorem beside (h : Passive W J) (C : Prop) : Passive W fun c => C ∧ J c where
  pass c hc := ⟨hc.1, h.pass c hc.2⟩
  write c addr data hW hc := ⟨hc.1, h.write c addr data hW hc.2⟩

/-- On a condition that is not about the chip. -/
theorem given (h : Passive W J) (C : Prop) : Passive W fun c => C → J c where
  pass c hc h' := h.pass c (hc h')
  write c addr data hW hc h' := h.write c addr data hW (hc h')

theorem any {ι : Type} {J : ι → LiveChip size → Prop} (h : ∀ a, Passive W (J a)) :
    Passive W fun c => ∃ a, J a c where
  pass c := fun ⟨a, hc⟩ => ⟨a, (h a).pass c hc⟩
  write c addr data hW := fun ⟨a, hc⟩ => ⟨a, (h a).write c addr data hW hc⟩

theorem keeps_read (h : Passive W J) (addr : Address) (hn : HEADER + n ≤ L) :
    Keeps (IdleOn (L := L) J) (Wiznet.read addr n) := by
  intro cell hc
  refine wp_mono (wp_read h.pass addr hn hc) ?_ fun _ _ h => h
  rintro _ _ ⟨c, scratch, -, rfl, hJ, -⟩
  exact ⟨c, scratch, rfl, hJ⟩

theorem keeps_write (h : Passive W J) {addr : Address} {data : List UInt8} (hW : W addr data)
    (hn : HEADER + data.length ≤ L) : Keeps (IdleOn (L := L) J) (Wiznet.write addr data) := by
  intro cell hc
  refine wp_mono (wp_write h.pass addr hn hc) ?_ fun _ _ h => h.1
  rintro _ _ ⟨c, scratch, rfl, hJ⟩
  exact ⟨_, scratch, rfl, h.write c addr data hW hJ⟩

/-- A tick of a socket whose writes are all among `W`. -/
theorem serves (h : Passive W J) (hL : 67 ≤ L) {block : BlockAddress} {j : Fin 8}
    (hrx : block.rx = .socketRxBuffer j)
    (hW : ∀ addr data, addr.block = block.reg ∨ addr.block = block.tx → W addr data) :
    Serves .blind block (fun x => IdleOn (L := L) J x.1) fun _ _ _ x => InFlightOn J x.1 where
  read addr n _ hn := (h.keeps_read addr (by rw [HEADER]; omega)).watch
  write addr data hb hn := (h.keeps_write (hW addr data hb) (by rw [HEADER]; omega)).watch
  startRead kind pointer len _ := by
    refine Triple.watch (P := IdleOn J) (Q := fun _ => InFlightOn J) (E := fun _ => IdleOn J) ?_
    intro cell hc
    rw [hrx]
    refine wp_mono (wp_startRead h.pass j pointer len hc) ?_ fun _ _ h => h
    rintro _ _ ⟨txn, rfl, hJ, -⟩
    exact ⟨txn, rfl, hJ⟩
  startWrite cell pointer len fill hfix := by
    refine Triple.watch (P := fun s => IdleOn J (cell.get s))
      (Q := fun _ s => InFlightOn J (cell.get s)) (E := fun _ s => IdleOn J (cell.get s)) ?_
    intro s hs
    refine wp_mono (wp_startWrite h.pass cell ⟨pointer, block.tx⟩ len fill hs) ?_ ?_
    · rintro _ _ ⟨buf, txn, c, payload, -, hJ, rfl, hdev, -⟩
      refine ⟨txn, cell.get_set _ _, ?_⟩
      rw [hdev]
      exact h.write c _ payload (hW _ _ (.inr rfl)) hJ
    · rintro _ _ (⟨rfl, -⟩ | ⟨buf, idle, c, payload, -, hidle, rfl, -⟩)
      · exact hs
      · rwa [cell.get_set]

/-- The accesses of a socket that move no data. -/
theorem quiet (h : Passive W J) (hL : 67 ≤ L) {block : BlockAddress} {mode : SocketProtocolMode}
    (hW : ∀ addr data, Control block mode addr data → W addr data) :
    Quiet .blind block mode fun x => IdleOn (L := L) J x.1 where
  read addr n _ hn := (h.keeps_read addr (by rw [HEADER]; omega)).watch
  write addr data hc :=
    (h.keeps_write (hW addr data hc) (by have := hc.short; rw [HEADER]; omega)).watch

end Passive

/-- No frame of `crit` ever fails. -/
def Sure (crit : List UInt8 → Prop) (c : LiveChip size) : Prop :=
  ∀ n mosi, crit mosi → c.fails n mosi = false

theorem passive_sure (W : Address → List UInt8 → Prop) (crit : List UInt8 → Prop) :
    Passive W (Sure crit : LiveChip size → Prop) where
  pass _ hc n mosi hm := hc (n + 1) mosi hm
  write _ _ _ _ hc := hc

/-- What every event keeps stands while time passes. -/
theorem pass_of_happen (hscript : ∀ c ahead fails, J c → J { c with ahead := ahead, fails := fails })
    (h : ∀ c e, J c → J (c.happen e)) (c : LiveChip size) (hc : J c) : J c.pass := by
  refine hscript _ _ _ ?_
  generalize c.ahead 0 = events
  induction events generalizing c with
  | nil => exact hc
  | cons e events ih => exact ih _ (h c e hc)

end LiveChip

end Wiznet
