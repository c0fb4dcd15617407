import Wiznet.Lanes
import Wiznet.RingThreads

/-! # What a connection sends

The bytes that have left the tx ring of a socket are on the wire, or stored on
the chip, or staged there by a burst. A burst takes its bytes out of the ring
before its frame is clocked, and `Sn_TX_WR` moves behind them in a later frame,
so as long as neither of the two fails no byte is lost on the way. -/

namespace Wiznet
open Resumption Resumption.Code Tick SpscRing

variable {w L size : Nat} {P : Type} {i : Fin 8}

/-! ## The TX buffer -/

namespace ChipBuffer

variable {left payload bytes out : List UInt8} {ptr : UInt16} {tx : ChipBuffer}

/-- What is on the wire or stored is `left`, and `payload` is staged behind the
write pointer, which stands at `ptr`. -/
structure TxLane (size : Nat) (left payload : List UInt8) (ptr : UInt16) (out : List UInt8)
    (tx : ChipBuffer) : Prop where
  left : left = out ++ tx.stored size
  room : tx.used.toNat + payload.length ≤ size
  staged : tx.staged size payload.length = payload
  writePtr : tx.writePtr = ptr

/-- Everything stored goes out. -/
def flushed (tx : ChipBuffer) : ChipBuffer := { tx with readPtr := tx.writePtr }

theorem used_flushed (tx : ChipBuffer) : tx.flushed.used = 0 := UInt16.sub_self _

theorem TxLane.flushed (hs : FifoSize size) (h : TxLane size left payload ptr out tx) :
    TxLane size left payload ptr (out ++ tx.stored size) tx.flushed := by
  have hused : tx.flushed.used.toNat = 0 := by rw [used_flushed]; rfl
  have hlt := h.room
  refine ⟨?_, by omega, ?_, h.writePtr⟩
  · have hnone : tx.flushed.stored size = [] :=
      List.eq_nil_of_length_eq_zero ((stored_length ..).trans hused)
    rw [hnone, List.append_nil]
    exact h.left
  · have hstaged := h.staged
    rw [ChipBuffer.staged, hused]
    rw [ChipBuffer.staged, ← Cyclic.window_congr (writePtr_mod hs tx)] at hstaged
    exact hstaged

/-- A burst right behind what is staged. -/
theorem TxLane.poke (hs : FifoSize size) (h : TxLane size left payload ptr out tx)
    (hroom : tx.used.toNat + payload.length + bytes.length ≤ size) :
    TxLane size left (payload ++ bytes) ptr out
      (tx.poke size (ptr + UInt16.ofNat payload.length) bytes) := by
  obtain ⟨rfl, -, hstaged, rfl⟩ := h
  refine ⟨?_, ?_, ?_, rfl⟩
  · rw [stored_poke hs hroom]
  · rw [List.length_append, ← Nat.add_assoc]
    exact hroom
  · rw [List.length_append, staged_poke hs hroom, hstaged]

/-- The write pointer moves behind what is staged. -/
theorem TxLane.advance (hs : FifoSize size) (h : TxLane size left payload ptr out tx) :
    TxLane size (left ++ payload) [] (ptr + UInt16.ofNat payload.length) out
      (tx.advance payload.length) := by
  obtain ⟨rfl, hroom, hstaged, rfl⟩ := h
  have hlt := hs.lt
  refine ⟨?_, ?_, rfl, rfl⟩
  · rw [stored_advance (by omega), hstaged, List.append_assoc]
  · rw [used_advance (by omega)]
    exact hroom

end ChipBuffer

namespace ChipState

variable {j : Fin 8} {chip chip' : ChipState size}

/-- Towards the wire socket `i` is as it was, or everything stored has gone out. -/
def SentOn (i : Fin 8) (chip chip' : ChipState size) : Prop :=
  ((chip'.sockets i).tx = (chip.sockets i).tx ∧ chip'.sent i = chip.sent i) ∨
  ((chip'.sockets i).tx = (chip.sockets i).tx.flushed ∧
    chip'.sent i = chip.sent i ++ (chip.sockets i).tx.stored size)

theorem sentOn_modifySocket {f : SocketModel → SocketModel} (h : ∀ s, (f s).tx = s.tx)
    (chip : ChipState size) : SentOn i chip (chip.modifySocket j f) :=
  .inl ⟨modifySocket_proj SocketModel.tx h chip j, rfl⟩

theorem sentOn_send (chip : ChipState size) : SentOn i chip (chip.send j) := by
  have hsent : (chip.send j).sent =
      Function.update chip.sent j (chip.sent j ++ (chip.sockets j).tx.stored size) := by
    simp only [send]
    split <;> rfl
  by_cases hj : i = j
  · subst hj
    refine .inr ⟨?_, ?_⟩
    · simp only [send_sockets, modifySocket, Function.update_self]
      rfl
    · rw [hsent, Function.update_self]
  · refine .inl ⟨?_, ?_⟩
    · rw [send_sockets, modifySocket_other hj]
    · rw [hsent, Function.update_of_ne hj]

theorem sentOn_runCommand (cmd : UInt8) (chip : ChipState size) :
    SentOn i chip (chip.runCommand j cmd) := by
  unfold runCommand
  dsimp only
  split
  · exact sentOn_modifySocket (by intro; rfl) { chip with commands := _ }
  split
  · exact sentOn_modifySocket (by intro; rfl) { chip with commands := _ }
  split
  · exact sentOn_modifySocket (by intro; rfl) { chip with commands := _ }
  split
  · exact sentOn_send { chip with commands := _ }
  · exact .inl ⟨rfl, rfl⟩

/-- Only a write to `Sn_TX_WR` moves the write pointer. -/
theorem sentOn_writeReg {addr : UInt16} (h : j = i → addr ≠ SN_TX_WR0) (data : List UInt8)
    (chip : ChipState size) : SentOn i chip (chip.writeReg j addr data) := by
  unfold writeReg
  dsimp only
  split
  · exact sentOn_modifySocket (by intro; rfl) _
  split
  · exact sentOn_runCommand _ _
  split
  · exact sentOn_modifySocket (by intro; rfl) _
  split
  · exact sentOn_modifySocket (by intro; rfl) _
  split
  · exact sentOn_modifySocket (by intro; rfl) _
  split
  next haddr =>
    have hj : i ≠ j := fun hij => h hij.symm haddr
    exact .inl ⟨by rw [modifySocket_other hj], rfl⟩
  split
  · exact sentOn_modifySocket (by intro; rfl) _
  · exact .inl ⟨rfl, rfl⟩

theorem SentOn.grown (h : SentOn i chip chip') : chip.sent i <+: chip'.sent i := by
  rcases h with ⟨-, h⟩ | ⟨-, h⟩ <;> rw [h]
  exact List.prefix_append _ _

end ChipState

namespace LiveChip

variable {left payload bytes : List UInt8} {ptr : UInt16} {c : LiveChip size}

/-- The frames that carry bytes of socket `i` or move `Sn_TX_WR` behind them. -/
def MovesTx (i : Fin 8) (mosi : List UInt8) : Prop :=
  ∃ addr data, (addr.block = .socketTxBuffer i ∨ addr = ⟨SN_TX_WR0, .socketRegister i⟩) ∧
    mosi = createHeader addr true ++ data

/-- What socket `i` makes of the bytes it is given, on a chip that takes them all. -/
def TxSure (i : Fin 8) (left payload : List UInt8) (ptr : UInt16) (c : LiveChip size) : Prop :=
  Sure (MovesTx i) c ∧
    ChipBuffer.TxLane size left payload ptr (c.chip.sent i) (c.chip.sockets i).tx

/-- `left` is on the wire or stored. -/
def TxRest (i : Fin 8) (left : List UInt8) (c : LiveChip size) : Prop :=
  ∃ ptr, TxSure i left [] ptr c

/-- The writes that neither fill the TX buffer nor move its write pointer. -/
def SparesTx (i : Fin 8) (addr : Address) (_ : List UInt8) : Prop :=
  addr.block ≠ .socketTxBuffer i ∧ ¬ (addr.block = .socketRegister i ∧ addr.address = SN_TX_WR0)

theorem written_tx {addr : Address} {data : List UInt8} (h : SparesTx i addr data) :
    ChipState.SentOn i c.chip (c.written addr data).chip := by
  obtain ⟨a, block⟩ := addr
  cases block with
  | commonRegister =>
    rw [written, ChipState.serve_common]
    exact .inl ⟨rfl, rfl⟩
  | socketRxBuffer j =>
    rw [written, ChipState.serve_writeRx]
    exact .inl ⟨rfl, rfl⟩
  | socketTxBuffer j =>
    have hj : i ≠ j := fun hij => h.1 (congrArg _ hij.symm)
    have hpoke : (c.written ⟨a, .socketTxBuffer j⟩ data).chip = c.chip.pokeTx j a data :=
      ChipState.serve_pokeTx ..
    rw [hpoke]
    exact .inl ⟨by rw [ChipState.pokeTx, ChipState.modifySocket_other hj], rfl⟩
  | socketRegister j =>
    have hwrite : (c.written ⟨a, .socketRegister j⟩ data).chip = c.chip.writeReg j a data :=
      ChipState.serve_writeReg ..
    rw [hwrite]
    exact ChipState.sentOn_writeReg (fun hj ha => h.2 ⟨congrArg _ hj, ha⟩) data _

/-- What the network does to a socket it does on the way in. -/
theorem pass_tx (c : LiveChip size) :
    (c.pass.chip.sockets i).tx = (c.chip.sockets i).tx ∧ c.pass.chip.sent i = c.chip.sent i := by
  refine pass_of_happen (J := fun c' => (c'.chip.sockets i).tx = (c.chip.sockets i).tx ∧
    c'.chip.sent i = c.chip.sent i) (fun _ _ _ h => h) ?_ c ⟨rfl, rfl⟩
  rintro c' ⟨j, e⟩ ⟨htx, hsent⟩
  refine ⟨?_, hsent⟩
  rw [← htx]
  exact ChipState.modifySocket_proj SocketModel.tx (f := fun s => s.happen size e) (fun _ => rfl)
    c'.chip j

/-- Whatever is written, what has gone out has gone out. -/
theorem passive_sentGrown (i : Fin 8) (base : List UInt8) :
    Passive (fun _ _ => True) fun c : LiveChip size => base <+: c.chip.sent i where
  pass c h := by rwa [(pass_tx c).2]
  write c addr data _ h := by
    obtain ⟨a, block⟩ := addr
    refine h.trans ?_
    by_cases hspares : SparesTx i ⟨a, block⟩ data
    · exact (written_tx hspares).grown
    · by_cases hb : block = .socketTxBuffer i
      · subst hb
        have hpoke : (c.written ⟨a, .socketTxBuffer i⟩ data).chip = c.chip.pokeTx i a data :=
          ChipState.serve_pokeTx ..
        rw [hpoke]
        exact List.prefix_rfl
      · obtain ⟨rfl, rfl⟩ : block = .socketRegister i ∧ a = SN_TX_WR0 :=
          Classical.byContradiction fun h => hspares ⟨hb, h⟩
        have hwrite : (c.written ⟨SN_TX_WR0, .socketRegister i⟩ data).chip =
            c.chip.writeReg i SN_TX_WR0 data := ChipState.serve_writeReg ..
        rw [hwrite]
        exact List.prefix_rfl

theorem passive_txSure (hs : FifoSize size) (i : Fin 8) (left payload : List UInt8) (ptr : UInt16) :
    Passive (SparesTx i) (TxSure i left payload ptr : LiveChip size → Prop) where
  pass c h := by
    refine ⟨(passive_sure (SparesTx i) _).pass c h.1, ?_⟩
    obtain ⟨htx, hsent⟩ := pass_tx (i := i) c
    rw [htx, hsent]
    exact h.2
  write c addr data hW h := by
    refine ⟨h.1, ?_⟩
    rcases written_tx (c := c) hW with ⟨htx, hsent⟩ | ⟨htx, hsent⟩
    · rw [htx, hsent]
      exact h.2
    · rw [htx, hsent]
      exact h.2.flushed hs

theorem passive_txRest (hs : FifoSize size) (i : Fin 8) (left : List UInt8) :
    Passive (SparesTx i) (TxRest i left : LiveChip size → Prop) :=
  Passive.any fun ptr => passive_txSure hs i left [] ptr

/-- A burst behind what is staged. -/
theorem TxSure.poke (hs : FifoSize size) (h : TxSure i left payload ptr c)
    (hroom : (c.chip.sockets i).tx.used.toNat + payload.length + bytes.length ≤ size) :
    TxSure i left (payload ++ bytes) ptr
      (c.written ⟨ptr + UInt16.ofNat payload.length, .socketTxBuffer i⟩ bytes) := by
  have hpoke : (c.written ⟨ptr + UInt16.ofNat payload.length, .socketTxBuffer i⟩ bytes).chip =
      c.chip.pokeTx i (ptr + UInt16.ofNat payload.length) bytes := ChipState.serve_pokeTx ..
  have htx : ((c.chip.pokeTx i (ptr + UInt16.ofNat payload.length) bytes).sockets i).tx =
      (c.chip.sockets i).tx.poke size (ptr + UInt16.ofNat payload.length) bytes := by
    simp only [ChipState.pokeTx, ChipState.modifySocket, Function.update_self]
  refine ⟨h.1, ?_⟩
  rw [hpoke, htx]
  exact h.2.poke hs hroom

/-- The write pointer behind what is staged. -/
theorem TxSure.advance (hs : FifoSize size) (h : TxSure i left payload ptr c) :
    TxRest i (left ++ payload) (c.written ⟨SN_TX_WR0, .socketRegister i⟩
      (BigEndian.encode 2 (ptr + UInt16.ofNat payload.length).toNat)) := by
  have hwrite : (c.written ⟨SN_TX_WR0, .socketRegister i⟩
      (BigEndian.encode 2 (ptr + UInt16.ofNat payload.length).toNat)).chip =
      c.chip.writeReg i SN_TX_WR0 (BigEndian.encode 2 (ptr + UInt16.ofNat payload.length).toNat) :=
    ChipState.serve_writeReg ..
  have hlane := h.2.advance hs
  rw [ChipBuffer.advance, h.2.writePtr] at hlane
  refine ⟨ptr + UInt16.ofNat payload.length, h.1, ?_⟩
  rw [hwrite, ChipState.writeReg_txWr]
  simp only [ChipState.modifySocket, Function.update_self]
  exact hlane

/-- What is left of a completion, or of a flush, once the bytes are staged. -/
theorem wp_tx_setTxWritePointer (hs : FifoSize size) (hL : 67 ≤ L) {n : Nat}
    (hn : payload.length = n) {cell : Transceiver L (LiveChip size)}
    (hc : IdleOn (TxSure i left payload ptr) cell) :
    wp (setTxWritePointer (socketBlock i) (ptr + UInt16.ofNat n))
      (fun _ => IdleOn (TxRest i (left ++ payload))) (fun _ _ => False) cell := by
  subst hn
  refine wp_mono (wp_write (passive_txSure hs i left payload ptr).pass ⟨SN_TX_WR0, .socketRegister i⟩
    (by rw [BigEndian.encode_length, HEADER]; omega) hc) ?_ ?_
  · rintro _ _ ⟨c, scratch, rfl, h⟩
    exact ⟨_, scratch, rfl, h.advance hs⟩
  · rintro _ _ ⟨-, c, h, hfails⟩
    rw [h.1 0 _ ⟨_, _, .inr rfl, rfl⟩] at hfails
    cases hfails

theorem keeps_tx_send (hs : FifoSize size) (hL : 67 ≤ L) :
    Keeps (IdleOn (L := L) (TxRest i left : LiveChip size → Prop))
      (sendSockCommand (socketBlock i) .send) := by
  have hspares : SparesTx i ⟨SN_CR, (socketBlock i).reg⟩
      (BigEndian.encode 1 SocketCommand.send.bits.toNat) :=
    ⟨nofun, fun h => absurd h.2 (show SN_CR ≠ SN_TX_WR0 by decide)⟩
  exact (passive_txRest hs i left).keeps_write hspares
    (by rw [BigEndian.encode_length, HEADER]; omega)

/-- The bytes of a connection that have left the tx ring and those that have not. -/
def TxOut (i : Fin 8) (acc queue : List UInt8) (c : LiveChip size) : Prop :=
  ∃ left, acc = left ++ queue ∧ TxRest i left c

/-- The same while a transfer is in flight: a transmit has staged its bytes. -/
def TxFlight (i : Fin 8) (acc queue : List UInt8) (kind : BulkKind) (pointer : UInt16) (len : Nat)
    (txn : Transaction L (LiveChip size)) : Prop :=
  match kind with
  | .transmit => ∃ left payload, acc = left ++ payload ++ queue ∧ payload.length = len ∧
    TxSure i left payload pointer txn.dev
  | _ => TxOut i acc queue txn.dev

theorem passive_txOut (hs : FifoSize size) (i : Fin 8) (acc queue : List UInt8) :
    Passive (SparesTx i) (TxOut i acc queue : LiveChip size → Prop) :=
  Passive.any fun left => (passive_txRest hs i left).beside (acc = left ++ queue)

end LiveChip

/-! ## The tick -/

namespace TcpSocketState

open LiveChip

variable {acc left done : List UInt8} {ptr : UInt16} {t₀ : SpscRing w}

/-- Since it stood at `t₀` bytes have only left the tx ring, and `acc` are those
that have left it and those that have not. -/
def TxIdle (i : Fin 8) (acc : List UInt8) (t₀ : SpscRing w) (io : Io w L (LiveChip size)) : Prop :=
  producer.rely t₀ io.rings.tx ∧ IdleOn (TxOut i acc (contents io.rings.tx)) io.trans

def TxStarted (i : Fin 8) (acc : List UInt8) (t₀ : SpscRing w) (kind : BulkKind) (pointer : UInt16)
    (len : Nat) (io : Io w L (LiveChip size)) : Prop :=
  producer.rely t₀ io.rings.tx ∧ ∃ txn, io.trans = .inFlight txn ∧
    TxFlight i acc (contents io.rings.tx) kind pointer len txn

/-- `TxSure` with room for a burst of `n` bytes. -/
def TxRoom (i : Fin 8) (left payload : List UInt8) (ptr : UInt16) (n : Nat) (c : LiveChip size) :
    Prop :=
  TxSure i left payload ptr c ∧ (c.chip.sockets i).tx.used.toNat + n ≤ size

theorem pass_txRoom (hs : FifoSize size) {n : Nat} (c : LiveChip size)
    (h : TxRoom i left done ptr n c) : TxRoom i left done ptr n c.pass := by
  refine ⟨(passive_txSure hs i left done ptr).pass c h.1, ?_⟩
  rw [(pass_tx c).1]
  exact h.2

/-- How much there is to send, where it goes, and that it fits. -/
theorem wp_tx_free (hs : FifoSize size) (hL : 67 ≤ L) {cell : Transceiver L (LiveChip size)}
    (hc : IdleOn (TxSure i left [] ptr) cell) :
    wp (getTxFreeSize (socketBlock i)) (fun free => IdleOn (TxRoom i left [] ptr free.toNat))
      (fun _ => IdleOn (TxSure i left [] ptr)) cell := by
  refine wp_mono (wp_readU16 (passive_txSure hs i left [] ptr).pass i SN_TX_FSR0
    (by rw [HEADER]; omega) hc) ?_ fun _ _ h => h
  rintro free _ ⟨c, scratch, rfl, h, hfree⟩
  refine ⟨c, scratch, rfl, h, ?_⟩
  have hroom := h.2.room
  rw [List.length_nil, Nat.add_zero] at hroom
  have hvalue : free = (c.chip.sockets i).tx.free size := hfree.trans (UInt16.toUInt16_toUInt32 _)
  rw [hvalue, ChipBuffer.toNat_free hs hroom]
  omega

theorem wp_tx_pointer (hs : FifoSize size) (hL : 67 ≤ L) {n : Nat}
    {cell : Transceiver L (LiveChip size)} (hc : IdleOn (TxRoom i left [] ptr n) cell) :
    wp (getTxWritePointer (socketBlock i))
      (fun pointer cell' => pointer = ptr ∧ IdleOn (TxRoom i left [] ptr n) cell')
      (fun _ => IdleOn (TxRoom i left [] ptr n)) cell := by
  refine wp_mono (wp_readU16 (pass_txRoom hs) i SN_TX_WR0 (by rw [HEADER]; omega) hc) ?_
    fun _ _ h => h
  rintro pointer _ ⟨c, scratch, rfl, h, hptr⟩
  refine ⟨?_, c, scratch, rfl, h⟩
  rw [hptr, ← h.1.2.writePtr]
  exact UInt16.toUInt16_toUInt32 _

theorem txOut_of_room {n : Nat} {queue : List UInt8} {cell : Transceiver L (LiveChip size)}
    (hc : IdleOn (TxRoom i left [] ptr n) cell) : IdleOn (TxOut i (left ++ queue) queue) cell := by
  obtain ⟨c, scratch, hcell, h⟩ := hc
  exact ⟨c, scratch, hcell, left, rfl, ptr, h.1⟩

theorem txOut_of_sure {queue : List UInt8} {cell : Transceiver L (LiveChip size)}
    (hc : IdleOn (TxSure i left [] ptr) cell) : IdleOn (TxOut i (left ++ queue) queue) cell := by
  obtain ⟨c, scratch, hcell, h⟩ := hc
  exact ⟨c, scratch, hcell, left, rfl, ptr, h⟩

/-- `transmit` stages the front of the ring, as far as the chip has room. -/
theorem triple_tx_transmit (hs : FifoSize size) (hL : 67 ≤ L) (he : Even t₀) :
    Triple (fun s : Tick TcpSocketState w L (LiveChip size) => TxIdle i acc t₀ s.2)
      (transmit (socketBlock i))
      (fun a s => Reports (fun x : Io w L (LiveChip size) × Unit => TxIdle i acc t₀ x.1)
        (fun kind pointer len x => TxStarted i acc t₀ kind pointer len x.1) a (s.2, ()))
      fun _ s => TxIdle i acc t₀ s.2 := by
  rintro ⟨t, cell, rx, tx⟩ ⟨hrely, c, scratch, hcell, left, hacc, ptr, hc⟩
  obtain rfl : cell = .idle c scratch := hcell
  obtain rfl : acc = left ++ contents tx := hacc
  dsimp only at hrely
  have he' : Even tx := by
    obtain ⟨n, hn, rfl⟩ := hrely
    exact he.popped hn
  unfold transmit
  rw [wp_onTx_bind, run_len]
  dsimp only
  split
  · exact ⟨hrely, c, scratch, rfl, left, rfl, ptr, hc⟩
  rw [wp_onBus_bind]
  refine wp_mono (wp_tx_free hs hL ⟨c, scratch, rfl, hc⟩) ?_ fun _ _ h => ⟨hrely, txOut_of_sure h⟩
  intro free cell₁ hc₁
  split
  · exact ⟨hrely, txOut_of_room hc₁⟩
  rw [wp_onBus_bind]
  refine wp_mono (wp_tx_pointer hs hL hc₁) ?_ fun _ _ h => ⟨hrely, txOut_of_room h⟩
  rintro pointer cell₂ ⟨rfl, hc₂⟩
  generalize hn : min (tx.tail - tx.head).toNat free.toNat = n
  rw [wp_bind]
  refine wp_mono (LiveChip.wp_startWrite (pass_txRoom hs) bus ⟨pointer, .socketTxBuffer i⟩ n drain
    (s := (t, (⟨cell₂, rx, tx⟩ : Io w L (LiveChip size)))) hc₂) ?_ ?_
  · rintro _ _ ⟨buf, txn, c', payload, hbuf, ⟨hsure, hroom⟩, rfl, hdev, hpayload⟩
    have hlen : buf.length ≤ (contents tx).length := by
      rw [length_contents]
      omega
    rw [show bus.set .pending (t, (⟨cell₂, rx, tx⟩ : Io w L (LiveChip size))) =
      (t, ⟨.pending, rx, tx⟩) from rfl, run_drain he'.sound hlen] at hpayload ⊢
    have htake : ((contents tx).take buf.length).length = n := by
      rw [List.length_take_of_le hlen]
      exact hbuf
    have hroom : (c'.chip.sockets i).tx.used.toNat + ([] : List UInt8).length + payload.length ≤ size := by
      rw [hpayload htake, htake, List.length_nil]
      omega
    have hstaged := hsure.poke hs hroom
    rw [List.nil_append, List.length_nil, show pointer + UInt16.ofNat 0 = pointer from
      UInt16.add_zero _, ← hdev] at hstaged
    have hpop : buf.length ≤ (tx.tail - tx.head).toNat := by rwa [length_contents] at hlen
    refine ⟨producer.rely_trans hrely ⟨_, hpop, rfl⟩, txn, rfl, left, payload, ?_, ?_, hstaged⟩
    · change _ = _ ++ contents (popped buf.length tx)
      rw [contents_popped he'.sound hpop, hpayload htake, List.append_assoc, List.take_append_drop]
    · rw [hpayload htake, htake]
  · rintro _ _ (⟨rfl, -⟩ | ⟨buf, idle, c', payload, -, -, -, ⟨hsure, -⟩, hfails⟩)
    · exact ⟨hrely, txOut_of_room hc₂⟩
    · rw [hsure.1 0 _ ⟨_, _, .inl rfl, rfl⟩] at hfails
      cases hfails

/-- The bursts of a flush, `done` being staged. -/
def TxFlushing (i : Fin 8) (acc : List UInt8) (t₀ : SpscRing w) (left done : List UInt8)
    (ptr : UInt16) (toSend : Nat) (io : Io w L (LiveChip size)) : Prop :=
  producer.rely t₀ io.rings.tx ∧ acc = left ++ done ++ contents io.rings.tx ∧
    IdleOn (TxRoom i left done ptr toSend) io.trans

/-- One burst after another goes behind what is staged. -/
theorem wp_tx_flushLoop (hs : FifoSize size) (hL : 67 ≤ L) (he : Even t₀) {toSend : Nat}
    (fuel : Nat) {s : Tick TcpSocketState w L (LiveChip size)}
    (h : TxFlushing i acc t₀ left done ptr toSend s.2) :
    wp (flushLoop (socketBlock i) toSend fuel (ptr + UInt16.ofNat done.length) done.length)
      (fun pointer s => ∃ done, pointer = ptr + UInt16.ofNat done.length ∧
        TxFlushing i acc t₀ left done ptr toSend s.2)
      (fun _ _ => False) s := by
  induction fuel generalizing done s with
  | zero => exact ⟨done, rfl, h⟩
  | succ fuel ih =>
    unfold flushLoop
    split
    next hmore =>
      obtain ⟨t, cell, rx, tx⟩ := s
      obtain ⟨hrely, hacc, hc⟩ := h
      dsimp only at hrely hacc hc
      have he' : Even tx := by
        obtain ⟨n, hn, rfl⟩ := hrely
        exact he.popped hn
      rw [wp_onTx_bind, run_read_contents he'.sound]
      dsimp only
      generalize hn : min 64 (toSend - done.length) = n
      have hpop : min n (contents tx).length ≤ (tx.tail - tx.head).toNat := by
        rw [← length_contents]
        exact Nat.min_le_right ..
      have hrely' := producer.rely_trans hrely ⟨_, hpop, rfl⟩
      have hcontents : (contents tx).take n ++ contents (popped (min n (contents tx).length) tx) =
          contents tx := by
        rw [contents_popped he'.sound hpop, List.take_eq_take_min, List.take_append_drop]
      have hgot : ((contents tx).take n).length ≤ n := List.length_take_le ..
      generalize (contents tx).take n = got at hcontents hgot ⊢
      rw [← hcontents] at hacc
      split
      next hnone =>
        have hnil := List.eq_nil_of_length_eq_zero hnone
        rw [hnil, List.nil_append] at hacc
        exact ⟨done, rfl, hrely', hacc, hc⟩
      · rw [wp_onBus_bind]
        refine wp_mono (wp_write (pass_txRoom hs) ⟨ptr + UInt16.ofNat done.length,
          .socketTxBuffer i⟩ (by rw [HEADER]; omega) hc) ?_ ?_
        · rintro _ _ ⟨c, scratch, rfl, hsure, hroom⟩
          have hpoke := hsure.poke hs (show _ + done.length + got.length ≤ size by omega)
          have hused : ((c.written ⟨ptr + UInt16.ofNat done.length, .socketTxBuffer i⟩
              got).chip.sockets i).tx.used = (c.chip.sockets i).tx.used := by
            have hwritten : (c.written ⟨ptr + UInt16.ofNat done.length, .socketTxBuffer i⟩
                got).chip = c.chip.pokeTx i (ptr + UInt16.ofNat done.length) got :=
              ChipState.serve_pokeTx ..
            rw [hwritten]
            simp only [ChipState.pokeTx, ChipState.modifySocket, Function.update_self]
            rfl
          have hmore : TxFlushing i acc t₀ left (done ++ got) ptr toSend
              ((t, ⟨.idle _ scratch, rx, popped (min n (contents tx).length) tx⟩) :
                Tick TcpSocketState w L (LiveChip size)).2 :=
            ⟨hrely', by rw [hacc]; simp only [List.append_assoc], _, scratch, rfl, hpoke,
              by rw [hused]; exact hroom⟩
          have hnext := ih hmore
          have hptr : ptr + UInt16.ofNat done.length + UInt16.ofNat got.length =
              ptr + UInt16.ofNat (done ++ got).length := by
            rw [List.length_append, UInt16.ofNat_add, UInt16.add_assoc]
          rw [hptr, ← List.length_append]
          exact hnext
        · rintro _ _ ⟨-, c, ⟨hsure, -⟩, hfails⟩
          rw [hsure.1 0 _ ⟨_, _, .inl rfl, rfl⟩] at hfails
          cases hfails
    · exact ⟨done, rfl, h⟩

/-- A flush sends the front of the ring. -/
theorem keeps_tx_flushSync (hs : FifoSize size) (hL : 67 ≤ L) (he : Even t₀) :
    Keeps (fun s : Tick TcpSocketState w L (LiveChip size) => TxIdle i acc t₀ s.2)
      (flushSync (socketBlock i)) := by
  rintro ⟨t, cell, rx, tx⟩ ⟨hrely, c, scratch, hcell, left, hacc, ptr, hc⟩
  obtain rfl : cell = .idle c scratch := hcell
  obtain rfl : acc = left ++ contents tx := hacc
  dsimp only at hrely
  unfold flushSync
  rw [wp_onTx_bind, run_len]
  dsimp only
  split
  · exact ⟨hrely, c, scratch, rfl, left, rfl, ptr, hc⟩
  rw [wp_onBus_bind]
  refine wp_mono (wp_tx_free hs hL ⟨c, scratch, rfl, hc⟩) ?_ fun _ _ h => ⟨hrely, txOut_of_sure h⟩
  intro free cell₁ hc₁
  split
  · exact ⟨hrely, txOut_of_room hc₁⟩
  rw [wp_onBus_bind]
  refine wp_mono (wp_tx_pointer hs hL hc₁) ?_ fun _ _ h => ⟨hrely, txOut_of_room h⟩
  rintro pointer cell₂ ⟨rfl, c₂, scratch₂, rfl, hsure, hroom⟩
  generalize hn : min (tx.tail - tx.head).toNat free.toNat = n
  have hfits : (c₂.chip.sockets i).tx.used.toNat + n ≤ size := by omega
  have hfilling : TxFlushing i (left ++ contents tx) t₀ left [] pointer n
      (t, (⟨.idle c₂ scratch₂, rx, tx⟩ : Io w L (LiveChip size))).2 :=
    ⟨hrely, by rw [List.append_nil], c₂, scratch₂, rfl, hsure, hfits⟩
  have hloop := wp_tx_flushLoop hs hL he n hfilling
  rw [List.length_nil, show pointer + UInt16.ofNat 0 = pointer from UInt16.add_zero _] at hloop
  rw [wp_bind]
  refine wp_mono hloop ?_ fun _ _ h => h.elim
  rintro _ ⟨t', cell₃, rx', tx'⟩ ⟨done, rfl, hrely', hacc, c₃, scratch₃, hcell, hsure', -⟩
  obtain rfl : cell₃ = .idle c₃ scratch₃ := hcell
  dsimp only at hrely' hacc
  rw [wp_onBus_bind]
  refine wp_mono (wp_tx_setTxWritePointer hs hL rfl ⟨c₃, scratch₃, rfl, hsure'⟩) ?_
    fun _ _ h => h.elim
  intro _ cell₄ hc₄
  rw [onBus, wp_zoom]
  have hout (cell : Transceiver L (LiveChip size)) (h : IdleOn (TxRest i (left ++ done)) cell) :
      TxIdle i (left ++ contents tx) t₀ ⟨cell, rx', tx'⟩ := by
    obtain ⟨c, scratch, hcell, h⟩ := h
    exact ⟨hrely', c, scratch, hcell, left ++ done, hacc, h⟩
  exact wp_mono (keeps_tx_send hs hL cell₄ hc₄) (fun _ _ h => hout _ h) fun _ _ h => hout _ h

theorem conducts_tx (hs : FifoSize size) (hL : 67 ≤ L) (he : Even t₀) :
    Conducts (w := w) (L := L) .blind (socketBlock i)
      (fun x : Io w L (LiveChip size) × Unit => TxIdle i acc t₀ x.1)
      fun kind pointer len x => TxStarted i acc t₀ kind pointer len x.1 := by
  have hquiet (rings : SocketRings w) : Quiet .blind (socketBlock i) .tcp4
      fun x : Transceiver L (LiveChip size) × Unit => TxIdle i acc t₀ ⟨x.1, rings⟩ := by
    have hp : Passive (SparesTx i) (TxOut i acc (contents rings.tx) : LiveChip size → Prop) :=
      passive_txOut hs i acc (contents rings.tx)
    exact (hp.quiet hL fun _ _ hc => ⟨by rw [hc.block]; nofun, fun h => hc.txPointer h.2⟩).beside
      (producer.rely t₀ rings.tx)
  refine ⟨hquiet, (keeps_tx_flushSync hs hL he).watch, moves_receive hquiet ?_,
    (triple_tx_transmit hs hL he).watch⟩
  intro rings pointer len
  refine Triple.watch (P := fun cell => TxIdle i acc t₀ ⟨cell, rings⟩)
    (Q := fun _ cell => TxStarted i acc t₀ .receive pointer len ⟨cell, rings⟩)
    (E := fun _ cell => TxIdle i acc t₀ ⟨cell, rings⟩) ?_
  rintro cell ⟨hrely, hc⟩
  refine wp_mono (LiveChip.wp_startRead (passive_txOut hs i acc (contents rings.tx)).pass i pointer
    len hc) ?_ fun _ _ h => ⟨hrely, h⟩
  rintro _ _ ⟨txn, rfl, hout, -⟩
  exact ⟨hrely, txn, rfl, hout⟩

end TcpSocketState

/-! ## The lane -/

section Lane

open LiveChip

variable {acc : List UInt8} {t₀ : SpscRing w}

/-- The completion of a transfer of the slot sends what was staged. -/
theorem txTcp_finish (hs : FifoSize size) (hL : 67 ≤ L) {op : BulkOp}
    {txn : Transaction L (LiveChip size)} {io : Io w L (LiveChip size)} (hi : op.idx = i)
    (hop : Describes op txn) (hbus : io.trans = .inFlight txn)
    (hrely : producer.rely t₀ io.rings.tx)
    (hf : TxFlight i acc (contents io.rings.tx) op.kind op.pointer op.len txn) :
    wp (W6100.finishBulk op) (fun _ => TcpSocketState.TxIdle i acc t₀)
      (fun _ => TcpSocketState.TxIdle i acc t₀) io := by
  have hblock := hop.block
  rw [hi] at hblock
  obtain ⟨cell, rx, tx⟩ := io
  refine (W6100.wp_finishBulk_iff hbus).mpr ?_
  dsimp only at hrely hf ⊢
  have hreceive (hkind : op.kind ≠ .transmit) (hout : TxOut i acc (contents tx) txn.dev) :
      wp (W6100.epilogue op) (fun _ => IdleOn (TxOut i acc (contents tx)))
        (fun _ => IdleOn (TxOut i acc (contents tx))) (.idle txn.dev txn.buffers) := by
    refine (passive_txOut hs i acc (contents tx)).keeps_epilogue hL ?_ _ ⟨_, _, rfl, hout⟩
    intro addr data hb htx _
    exact ⟨by rw [hb, hblock]; nofun, fun h => hkind (htx h.2)⟩
  cases hkind : op.kind with
  | receive =>
    rw [hkind] at hf
    exact wp_mono (hreceive (by rw [hkind]; nofun) hf) (fun _ _ h => ⟨hrely, h⟩)
      fun _ _ h => ⟨hrely, h⟩
  | receiveDatagram =>
    rw [hkind] at hf
    exact wp_mono (hreceive (by rw [hkind]; nofun) hf) (fun _ _ h => ⟨hrely, h⟩)
      fun _ _ h => ⟨hrely, h⟩
  | transmit =>
    rw [hkind] at hf
    obtain ⟨left, payload, hacc, hlen, hsure⟩ := hf
    rw [W6100.epilogue, hkind, hblock]
    have hout (cell : Transceiver L (LiveChip size)) (h : IdleOn (TxRest i (left ++ payload)) cell) :
        TcpSocketState.TxIdle i acc t₀
          ⟨cell, op.deliver (txn.buffers.rxWindow HEADER op.len) rx, tx⟩ := by
      obtain ⟨c, scratch, hcell, h⟩ := h
      exact ⟨hrely, c, scratch, hcell, left ++ payload, hacc, h⟩
    dsimp only
    rw [wp_bind]
    refine wp_mono (wp_tx_setTxWritePointer hs hL hlen ⟨_, _, rfl, hsure⟩) ?_ fun _ _ h => h.elim
    intro _ cell hc
    exact wp_mono (keeps_tx_send hs hL cell hc) (fun _ _ h => hout _ h) fun _ _ h => hout _ h

/-- What a TCP socket sends: the application has written `acc`, and since the tx
ring stood at `t₀` bytes have only left it. -/
def txTcp (hs : FifoSize size) (hL : 67 ≤ L) (i : Fin 8) (acc : List UInt8) (he : Even t₀) :
    Lane w L size i where
  protocol := .tcp
  spares := SparesTx i
  rest _ rings c := producer.rely t₀ rings.tx ∧ TxOut i acc (contents rings.tx) c
  flight _ op rings txn := producer.rely t₀ rings.tx ∧
    TxFlight i acc (contents rings.tx) op.kind op.pointer op.len txn
  spared _ _ h h' := ⟨h', fun hb => h hb.1⟩
  passive _ _ := (passive_txOut hs i acc _).beside _
  stalled _ := ⟨fun _ _ h => h, fun _ _ _ h => h⟩
  tick b io hp hr hblock hidle := by
    obtain ⟨dev, scratch, hdev, hrely, hrest⟩ := hidle
    have hconducts : TcpSocketState.Conducts (w := w) (L := L) .blind (socketBlock i)
        (fun x : Io w L (LiveChip size) × Unit => TcpSocketState.TxIdle i acc t₀ x.1) _ :=
      TcpSocketState.conducts_tx hs hL he
    rw [← hblock] at hconducts
    have htick := SocketBackend.run_conducts hp hr hconducts ⟨hrely, dev, scratch, hdev, hrest⟩
    rcases hb : b.run.run io with ⟨⟨result, b'⟩, io'⟩
    rw [hb] at htick
    obtain ⟨hslot, hresult⟩ := htick
    refine ⟨hslot, ?_⟩
    rcases result with e | (_ | ⟨kind, pointer, len⟩)
    · obtain ⟨hrely', dev', scratch', hdev', hrest'⟩ := hresult
      exact ⟨dev', scratch', hdev', hrely', hrest'⟩
    · obtain ⟨hrely', dev', scratch', hdev', hrest'⟩ := hresult
      exact ⟨dev', scratch', hdev', hrely', hrest'⟩
    · obtain ⟨hrely', txn, htxn, hflight⟩ := hresult
      exact ⟨txn, htxn, hrely', hflight⟩
  finish _ op txn io hi hop hbus hf := by
    refine wp_mono (txTcp_finish hs hL hi hop hbus hf.1 hf.2) ?_ ?_
    · rintro _ io' ⟨hrely, dev, scratch, hdev, hrest⟩
      exact ⟨dev, scratch, hdev, hrely, hrest⟩
    · rintro _ io' ⟨hrely, dev, scratch, hdev, hrest⟩
      exact ⟨dev, scratch, hdev, hrely, hrest⟩

end Lane

end Wiznet
