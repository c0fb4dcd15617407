import Wiznet.Bus
import Wiznet.TcpSocket
import Wiznet.UdpSocket
import Wiznet.Lib.Observer

/-! # Accesses that move no data

Most of a tick only reads registers and writes control registers of its own
socket. An invariant of the transport that survives those accesses survives
every handler built from them, whatever the chip answers. The invariant may also
speak of what an observer of the bus has recorded. -/

namespace Wiznet
open Resumption Resumption.Code Tick

variable {w L : Nat} {D G σ α : Type}

/-- An observer of the bus, watching a tick. -/
abbrev Tick.seen (o : Observer (Transceiver L D) G) : Observer (Tick σ w L D) G :=
  (o.comap Io.trans).comap Prod.snd

/-! ## Lifting to a tick -/

section Lifting

variable {o : Observer (Transceiver L D) G} {J : Io w L D × G → Prop}

theorem keeps_onBus {c : Code Error (Transceiver L D) α}
    (h : ∀ rings, Keeps (fun x => J (⟨x.1, rings⟩, x.2)) (c.watch o)) :
    Keeps (fun x : Tick σ w L D × G => J (x.1.2, x.2)) ((onBus c).watch (seen o)) := by
  rintro ⟨s, g⟩ hs
  rw [onBus, wp_watch_zoom o fun _ _ _ => rfl]
  exact h s.2.rings (s.2.trans, g) hs

theorem keeps_self : Keeps (fun x : Tick σ w L D × G => J (x.1.2, x.2)) (self.watch (seen o)) := by
  rintro ⟨s, g⟩ hs
  rw [self, wp_watch_load]
  exact hs

theorem keeps_modifySelf (f : σ → σ) :
    Keeps (fun x : Tick σ w L D × G => J (x.1.2, x.2)) ((modifySelf f).watch (seen o)) := by
  rintro ⟨s, g⟩ hs
  rw [modifySelf, wp_watch_store]
  simpa using hs

end Lifting

/-! ## Control accesses -/

/-- A write to a register of the socket at `block` that neither moves one of the
two data pointers nor sends; the mode is only ever set to `mode`. -/
structure Control (block : BlockAddress) (mode : SocketProtocolMode) (addr : Address)
    (data : List UInt8) : Prop where
  block : addr.block = block.reg
  short : data.length ≤ 4
  txPointer : addr.address ≠ SN_TX_WR0
  rxPointer : addr.address ≠ SN_RX_RD0
  command : addr.address = SN_CR →
    ∃ c : SocketCommand, c ≠ .send ∧ data = BigEndian.encode 1 c.bits.toNat
  mode : addr.address = SN_MR → data = BigEndian.encode 1 mode.bits.toNat

variable [SpiDmaDevice D]

/-- `J` survives short reads of a socket and the control writes of it. -/
structure Quiet (o : Observer (Transceiver L D) G) (block : BlockAddress)
    (mode : SocketProtocolMode) (J : Transceiver L D × G → Prop) : Prop where
  read : ∀ addr n, addr.block = block.reg ∨ addr.block = block.rx → n ≤ 8 →
    Keeps J ((read addr n).watch o)
  write : ∀ addr data, Control block mode addr data → Keeps J ((write addr data).watch o)

namespace Quiet

variable {o : Observer (Transceiver L D) G} {block : BlockAddress} {mode : SocketProtocolMode}
  {J : Transceiver L D × G → Prop}

/-- Beside a fact that is not about the bus. -/
theorem beside (h : Quiet o block mode J) (C : Prop) : Quiet o block mode fun x => C ∧ J x where
  read addr n hb hn x hx := wp_mono (h.read addr n hb hn x hx.2) (fun _ _ hJ => ⟨hx.1, hJ⟩)
    fun _ _ hJ => ⟨hx.1, hJ⟩
  write addr data hc x hx := wp_mono (h.write addr data hc x hx.2) (fun _ _ hJ => ⟨hx.1, hJ⟩)
    fun _ _ hJ => ⟨hx.1, hJ⟩

theorem readU8 (h : Quiet o block mode J) (address : UInt16) :
    Keeps J ((readU8 ⟨address, block.reg⟩).watch o) :=
  (h.read _ 1 (.inl rfl) (by decide)).watch_map _

theorem readU16 (h : Quiet o block mode J) (address : UInt16) :
    Keeps J ((readU16 ⟨address, block.reg⟩).watch o) :=
  (h.read _ 2 (.inl rfl) (by decide)).watch_map _

/-- Writing an `n`-byte value to a register that is no pointer, command or mode. -/
theorem writeReg (h : Quiet o block mode J) {address : UInt16} {n v : Nat} (hn : n ≤ 4)
    (htx : address ≠ SN_TX_WR0) (hrx : address ≠ SN_RX_RD0) (hcr : address ≠ SN_CR)
    (hmr : address ≠ SN_MR) :
    Keeps J ((Wiznet.write ⟨address, block.reg⟩ (BigEndian.encode n v)).watch o) :=
  h.write _ _ ⟨rfl, by simpa using hn, htx, hrx, fun hc => absurd hc hcr, fun hm => absurd hm hmr⟩

theorem initSocket (h : Quiet o block mode J) : Keeps J ((initSocket block mode).watch o) := by
  refine Keeps.watch_bind (h.write _ _ ⟨rfl, by simp, show SN_MR ≠ SN_TX_WR0 by decide,
    show SN_MR ≠ SN_RX_RD0 by decide, ?_, fun _ => rfl⟩) fun _ => ?_
  · intro hc; exact absurd hc (show SN_MR ≠ SN_CR by decide)
  · refine Keeps.watch_bind (h.writeReg (by decide) ?_ ?_ ?_ ?_) fun _ =>
      h.writeReg (by decide) ?_ ?_ ?_ ?_ <;> decide

theorem getInterrupts (h : Quiet o block mode J) : Keeps J ((getInterrupts block).watch o) :=
  (h.readU8 _).watch_map _

theorem clearInterrupts (h : Quiet o block mode J) (mask : SocketInterrupt) :
    Keeps J ((clearInterrupts block mask).watch o) :=
  h.writeReg (by decide) (by decide) (by decide) (by decide) (by decide)

theorem setSrcPort (h : Quiet o block mode J) (port : UInt16) :
    Keeps J ((setSrcPort block port).watch o) :=
  h.writeReg (by decide) (by decide) (by decide) (by decide) (by decide)

theorem setDstPort (h : Quiet o block mode J) (port : UInt16) :
    Keeps J ((setDstPort block port).watch o) :=
  h.writeReg (by decide) (by decide) (by decide) (by decide) (by decide)

theorem setIpv4DstAddr (h : Quiet o block mode J) (address : UInt32) :
    Keeps J ((setIpv4DstAddr block address).watch o) :=
  h.writeReg (by decide) (by decide) (by decide) (by decide) (by decide)

/-- Any command but `SEND`. -/
theorem sendSockCommand (h : Quiet o block mode J) {command : SocketCommand}
    (hc : command ≠ .send) : Keeps J ((sendSockCommand block command).watch o) := by
  refine h.write _ _ ⟨rfl, by simp, show SN_CR ≠ SN_TX_WR0 by decide,
    show SN_CR ≠ SN_RX_RD0 by decide, fun _ => ⟨command, hc, rfl⟩, ?_⟩
  intro hm
  exact absurd hm (show SN_CR ≠ SN_MR by decide)

theorem isCommandPending (h : Quiet o block mode J) : Keeps J ((isCommandPending block).watch o) :=
  (h.readU8 _).watch_map _

theorem readStatus (h : Quiet o block mode J) :
    Keeps J ((readStatus block).watch o) := (h.readU8 _).watch_map _

theorem getRxReceivedSize (h : Quiet o block mode J) :
    Keeps J ((getRxReceivedSize block).watch o) :=
  h.readU16 _

theorem getRxReadPointer (h : Quiet o block mode J) :
    Keeps J ((getRxReadPointer block).watch o) := h.readU16 _

theorem getTxFreeSize (h : Quiet o block mode J) :
    Keeps J ((getTxFreeSize block).watch o) := h.readU16 _

theorem getTxWritePointer (h : Quiet o block mode J) :
    Keeps J ((getTxWritePointer block).watch o) :=
  h.readU16 _

theorem readRxBuffer (h : Quiet o block mode J) (pointer : UInt16) :
    Keeps J ((readRxBuffer block pointer PACKINFO).watch o) := h.read _ _ (.inr rfl) (by decide)

end Quiet

/-! ## The handlers -/

namespace TcpSocketState

variable {o : Observer (Transceiver L D) G} {block : BlockAddress} {J : Io w L D × G → Prop}

section

variable (hJ : ∀ rings, Quiet o block .tcp4 fun x => J (⟨x.1, rings⟩, x.2))
include hJ

theorem keeps_handleInit :
    Keeps (fun x => J (x.1.2, x.2)) ((handleInit (w := w) (D := D) block).watch (seen o)) := by
  refine (keeps_onBus fun r => (hJ r).initSocket).watch_bind fun _ =>
    keeps_self.watch_bind fun t => ?_
  refine (keeps_onBus fun r => (hJ r).setSrcPort _).watch_bind fun _ => ?_
  refine (keeps_onBus fun r => (hJ r).sendSockCommand (by decide)).watch_bind fun _ => ?_
  exact keeps_modifySelf _

theorem keeps_unexpectedStatus :
    Keeps (fun x => J (x.1.2, x.2))
      ((unexpectedStatus (w := w) (D := D) (α := α) block).watch (seen o)) :=
  (keeps_onBus fun r => (hJ r).sendSockCommand (by decide)).watch_bind fun _ =>
    (keeps_modifySelf _).watch_bind fun _ => Keeps.watch_throw _

theorem keeps_handleOpening :
    Keeps (fun x => J (x.1.2, x.2)) ((handleOpening (w := w) (D := D) block).watch (seen o)) := by
  refine (keeps_onBus fun r => (hJ r).isCommandPending).watch_bind fun pending => ?_
  cases pending with
  | true => exact Keeps.watch_pure _
  | false =>
    refine (keeps_onBus fun r => (hJ r).readStatus).watch_bind fun status => ?_
    cases status with
    | init =>
      refine keeps_self.watch_bind fun t => ?_
      cases t.mode with
      | connect dstAddr dstPort srcPort =>
        refine (keeps_onBus fun r => (hJ r).setIpv4DstAddr _).watch_bind fun _ => ?_
        refine (keeps_onBus fun r => (hJ r).setDstPort _).watch_bind fun _ => ?_
        refine (keeps_onBus fun r => (hJ r).sendSockCommand (by decide)).watch_bind fun _ => ?_
        exact keeps_modifySelf _
      | listen srcPort =>
        refine (keeps_onBus fun r => (hJ r).sendSockCommand (by decide)).watch_bind fun _ => ?_
        exact keeps_modifySelf _
    | closed => exact Keeps.watch_pure _
    | _ => exact keeps_unexpectedStatus hJ

theorem keeps_handleConnecting :
    Keeps (fun x => J (x.1.2, x.2))
      ((handleConnecting (w := w) (D := D) block).watch (seen o)) := by
  refine (keeps_onBus fun r => (hJ r).isCommandPending).watch_bind fun pending => ?_
  cases pending with
  | true => exact Keeps.watch_pure _
  | false =>
    refine (keeps_onBus fun r => (hJ r).getInterrupts).watch_bind fun interrupts => ?_
    split
    · refine (keeps_onBus fun r => (hJ r).clearInterrupts _).watch_bind fun _ => ?_
      refine (keeps_onBus fun r => (hJ r).sendSockCommand (by decide)).watch_bind fun _ => ?_
      exact keeps_modifySelf _
    · refine (keeps_onBus fun r => (hJ r).readStatus).watch_bind fun status => ?_
      cases status with
      | established =>
        refine (keeps_modifySelf _).watch_bind fun _ => ?_
        exact keeps_onBus fun r => (hJ r).clearInterrupts _
      | synsent | init => exact Keeps.watch_pure _
      | closed => exact keeps_modifySelf _
      | _ => exact keeps_unexpectedStatus hJ

theorem keeps_handleListening :
    Keeps (fun x => J (x.1.2, x.2)) ((handleListening (w := w) (D := D) block).watch (seen o)) := by
  refine (keeps_onBus fun r => (hJ r).isCommandPending).watch_bind fun pending => ?_
  cases pending with
  | true => exact Keeps.watch_pure _
  | false =>
    refine (keeps_onBus fun r => (hJ r).readStatus).watch_bind fun status => ?_
    cases status with
    | listen | synrecv => exact Keeps.watch_pure _
    | established | closeWait =>
      refine (keeps_modifySelf _).watch_bind fun _ => ?_
      exact keeps_onBus fun r => (hJ r).clearInterrupts _
    | closed =>
      refine (keeps_onBus fun r => (hJ r).clearInterrupts _).watch_bind fun _ => ?_
      exact keeps_modifySelf _
    | _ => exact keeps_unexpectedStatus hJ

theorem keeps_handleClosing :
    Keeps (fun x => J (x.1.2, x.2)) ((handleClosing (w := w) (D := D) block).watch (seen o)) := by
  refine (keeps_onBus fun r => (hJ r).readStatus).watch_bind fun status => ?_
  split
  · exact keeps_modifySelf _
  · exact Keeps.watch_pure _

end

end TcpSocketState

namespace UdpSocketState

variable {o : Observer (Transceiver L D) G} {block : BlockAddress} {J : Io w L D × G → Prop}

section

variable (hJ : ∀ rings, Quiet o block .udp4 fun x => J (⟨x.1, rings⟩, x.2))
include hJ

theorem keeps_handleClose :
    Keeps (fun x => J (x.1.2, x.2)) ((handleClose (w := w) (D := D) block).watch (seen o)) := by
  refine (keeps_modifySelf _).watch_bind fun _ => keeps_self.watch_bind fun u => ?_
  split
  case h_7 =>
    refine (keeps_onBus fun r => (hJ r).sendSockCommand (by decide)).watch_bind fun _ => ?_
    exact keeps_modifySelf _
  all_goals exact Keeps.watch_pure _

theorem keeps_handleInit :
    Keeps (fun x => J (x.1.2, x.2)) ((handleInit (w := w) (D := D) block).watch (seen o)) := by
  refine (keeps_onBus fun r => (hJ r).initSocket).watch_bind fun _ =>
    keeps_self.watch_bind fun u => ?_
  refine (keeps_onBus fun r => (hJ r).setSrcPort _).watch_bind fun _ => ?_
  refine (keeps_onBus fun r => (hJ r).sendSockCommand (by decide)).watch_bind fun _ => ?_
  exact keeps_modifySelf _

theorem keeps_handleOpening :
    Keeps (fun x => J (x.1.2, x.2)) ((handleOpening (w := w) (D := D) block).watch (seen o)) := by
  refine (keeps_onBus fun r => (hJ r).isCommandPending).watch_bind fun pending => ?_
  cases pending with
  | true => exact Keeps.watch_pure _
  | false =>
    refine (keeps_onBus fun r => (hJ r).readStatus).watch_bind fun status => ?_
    cases status with
    | udp => exact keeps_modifySelf _
    | closed => exact Keeps.watch_pure _
    | _ =>
      refine (keeps_onBus fun r => (hJ r).sendSockCommand (by decide)).watch_bind fun _ => ?_
      exact (keeps_modifySelf _).watch_bind fun _ => Keeps.watch_throw _

theorem keeps_handleClosing :
    Keeps (fun x => J (x.1.2, x.2)) ((handleClosing (w := w) (D := D) block).watch (seen o)) := by
  refine (keeps_onBus fun r => (hJ r).readStatus).watch_bind fun status => ?_
  split
  · exact keeps_modifySelf _
  · exact Keeps.watch_pure _

end

end UdpSocketState

end Wiznet
