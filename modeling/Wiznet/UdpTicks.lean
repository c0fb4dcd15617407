import Wiznet.CommandLog
import Wiznet.Lanes

/-! # The tick of a UDP socket

What stands while a UDP socket is set up, used and closed. Between the write of
the mode and `OPEN` more holds than before and behind them, and what is about to
hold of an open socket does not hold before it is opened. -/

namespace Wiznet
open Resumption Resumption.Code Tick LiveChip

variable {w L size : Nat} {i : Fin 8} {α : Type}

namespace ChipState

variable {j : Fin 8} {chip : ChipState size}

/-- What a write to a register that is not `Sn_CR` leaves alone. -/
theorem writeReg_proj {β : Type} (g : SocketModel → β) {addr : UInt16} (data : List UInt8)
    (hcr : addr ≠ SN_CR) (hir : ∀ s v, g { s with ir := v } = g s)
    (hmr : addr = SN_MR → ∀ s v, g { s with mr := v } = g s)
    (hip : addr = SN_DIPR0 → ∀ s v, g { s with dstIp := v } = g s)
    (hport : addr = SN_DPORTR0 → ∀ s v, g { s with dstPort := v } = g s)
    (htx : addr = SN_TX_WR0 → ∀ s v, g { s with tx := v } = g s)
    (hrx : addr = SN_RX_RD0 → ∀ s v, g { s with rx := v } = g s) :
    g ((chip.writeReg j addr data).sockets i) = g (chip.sockets i) := by
  unfold writeReg
  dsimp only
  split
  next h => exact modifySocket_proj g (fun s => hmr h s _) _ _
  split
  · exact modifySocket_proj g (fun s => hir s _) _ _
  split
  next h => exact modifySocket_proj g (fun s => hip h s _) _ _
  split
  next h => exact modifySocket_proj g (fun s => hport h s _) _ _
  split
  next h => exact modifySocket_proj g (fun s => htx h s _) _ _
  split
  next h => exact modifySocket_proj g (fun s => hrx h s _) _ _
  · rfl

theorem writeReg_sr {addr : UInt16} (h : addr ≠ SN_CR) (data : List UInt8) :
    ((chip.writeReg j addr data).sockets i).sr = (chip.sockets i).sr :=
  writeReg_proj SocketModel.sr data h (fun _ _ => rfl) (fun _ _ _ => rfl) (fun _ _ _ => rfl)
    (fun _ _ _ => rfl) (fun _ _ _ => rfl) fun _ _ _ => rfl

theorem writeReg_mr {addr : UInt16} (h : addr ≠ SN_CR) (hmr : addr ≠ SN_MR) (data : List UInt8) :
    ((chip.writeReg j addr data).sockets i).mr = (chip.sockets i).mr :=
  writeReg_proj SocketModel.mr data h (fun _ _ => rfl) (fun h => absurd h hmr) (fun _ _ _ => rfl)
    (fun _ _ _ => rfl) (fun _ _ _ => rfl) fun _ _ _ => rfl

theorem runCommand_mr (cmd : UInt8) :
    ((chip.runCommand j cmd).sockets i).mr = (chip.sockets i).mr := by
  unfold runCommand
  dsimp only
  split
  · exact modifySocket_proj SocketModel.mr (by intro; rfl) _ _
  split
  · exact modifySocket_proj SocketModel.mr (by intro; rfl) _ _
  split
  · exact modifySocket_proj SocketModel.mr (by intro; rfl) _ _
  split
  · rw [send_sockets]
    exact modifySocket_proj SocketModel.mr (by intro; rfl) _ _
  · rfl

/-- Socket `i` is in the UDP mode. -/
def InUdpMode (i : Fin 8) (chip : ChipState size) : Prop := (chip.sockets i).mr &&& 0x0F = 0x02

end ChipState

namespace LiveChip

/-- The writes of a UDP socket that neither set its mode nor open it nor move its
data; those of the other sockets are among them. -/
def Calm (i : Fin 8) (addr : Address) (data : List UInt8) : Prop :=
  addr.block ≠ .socketTxBuffer i ∧ (addr.block = .socketRegister i →
    (addr.address = SN_IRCLR ∨ addr.address = SN_IMR ∨ addr.address = SN_PORTR0) ∨
      addr.address = SN_CR ∧ ∃ c : SocketCommand, (c = .close ∨ c = .receive) ∧
        data = BigEndian.encode 1 c.bits.toNat)

/-- The write of the UDP mode. -/
def modeSet (i : Fin 8) (c : LiveChip size) : LiveChip size :=
  c.written ⟨SN_MR, .socketRegister i⟩ (BigEndian.encode 1 SocketProtocolMode.udp4.bits.toNat)

def openIssued (i : Fin 8) (c : LiveChip size) : LiveChip size :=
  c.written ⟨SN_CR, .socketRegister i⟩ (BigEndian.encode 1 SocketCommand.open.bits.toNat)

theorem inUdpMode_modeSet (c : LiveChip size) : ChipState.InUdpMode i (c.modeSet i).chip := by
  have hreg : (c.modeSet i).chip = c.chip.modifySocket i fun s => { s with mr := 0x02 } :=
    ChipState.serve_writeReg ..
  rw [ChipState.InUdpMode, hreg]
  simp only [ChipState.modifySocket, Function.update_self]
  rfl

theorem passive_inUdpMode (i : Fin 8) : Passive
    (fun addr _ => addr ≠ ⟨SN_MR, .socketRegister i⟩)
    (fun c : LiveChip size => ChipState.InUdpMode i c.chip) where
  pass := pass_of_happen (fun _ _ _ h => h) fun c e h => by
    rw [ChipState.InUdpMode, happen, ChipState.modifySocket_proj SocketModel.mr (by intro; rfl)]
    exact h
  write c addr data hW h := by
    obtain ⟨a, block⟩ := addr
    cases block with
    | commonRegister => rwa [written, ChipState.serve_common]
    | socketRxBuffer j => rwa [written, ChipState.serve_writeRx]
    | socketTxBuffer j =>
      rw [written, ChipState.serve_pokeTx, ChipState.InUdpMode, ChipState.pokeTx,
        ChipState.modifySocket_proj SocketModel.mr (by intro; rfl)]
      exact h
    | socketRegister j =>
      rw [written, ChipState.serve_writeReg, ChipState.InUdpMode]
      by_cases hj : i = j
      · subst hj
        by_cases hcr : a = SN_CR
        · subst hcr
          exact (congrArg (· &&& 0x0F) (ChipState.runCommand_mr _)).trans h
        · rw [ChipState.writeReg_mr hcr fun hmr => hW (by rw [hmr])]
          exact h
      · rw [ChipState.writeReg_other hj]
        exact h

/-- What `J` says for each status stands, `J'` from the mode to `OPEN`. -/
structure Tuned (i : Fin 8) (J : SocketStatus → SocketRings w → LiveChip size → Prop)
    (J' : SocketRings w → LiveChip size → Prop) : Prop where
  passive : ∀ st rings, Passive (Calm i) (J st rings)
  passive' : ∀ rings, Passive (Calm i) (J' rings)
  mode : ∀ rings c, J .init rings c → J' rings (c.modeSet i)
  untuned : ∀ rings c, J' rings c → J .init rings c
  opens : ∀ rings c, J' rings c → J .opening rings (c.openIssued i)
  opened : ∀ rings c, J .opening rings c → J .established rings c
  leaves : ∀ {st st'}, st' ≠ .opening → st' ≠ .established → ∀ rings c, J st rings c → J st' rings c

end LiveChip

namespace UdpSocketState

variable {J : SocketStatus → SocketRings w → LiveChip size → Prop}
  {J' : SocketRings w → LiveChip size → Prop}
  {R : BulkKind → UInt16 → Nat → Io w L (LiveChip size) → Prop}

/-- What `J` says of the present status, the rings and the chip. -/
def Stands (J : SocketStatus → SocketRings w → LiveChip size → Prop)
    (s : Tick UdpSocketState w L (LiveChip size)) : Prop :=
  IdleOn (J s.1.status s.2.rings) s.2.trans

theorem keeps_stands_onBus {c : Code Error (Transceiver L (LiveChip size)) α}
    (h : ∀ st rings, Keeps (IdleOn (J st rings)) c) :
    Keeps (Stands (w := w) J) (onBus c) := by
  rintro ⟨u, cell, rings⟩ hc
  rw [onBus, wp_zoom]
  exact wp_mono (h u.status rings cell hc) (fun _ _ h => h) fun _ _ h => h

/-- `J` stands, or a transfer was started. -/
def Settles (J : SocketStatus → SocketRings w → LiveChip size → Prop)
    (R : BulkKind → UInt16 → Nat → Io w L (LiveChip size) → Prop) :
    BulkAction → Tick UdpSocketState w L (LiveChip size) → Prop
  | .none, s => Stands J s
  | .started kind pointer len, s => R kind pointer len s.2

/-- `transmit` is tried where `receive` starts nothing. -/
def Moves (i : Fin 8) (J : SocketStatus → SocketRings w → LiveChip size → Prop)
    (R : BulkKind → UInt16 → Nat → Io w L (LiveChip size) → Prop) : Prop :=
  ∀ s : Tick UdpSocketState w L (LiveChip size), s.1.status = .established → Stands J s →
    wp (receive (socketBlock i)) (fun a s' => match a with
      | .none => wp (transmit (socketBlock i)) (Settles J R) (fun _ => Stands J) s'
      | .started kind pointer len => R kind pointer len s'.2) (fun _ => Stands J) s

section Handlers

variable (hL : 67 ≤ L) (h : Tuned i J J')
include h

theorem keeps_stands_leave {st : SocketStatus} (hst : st ≠ .opening ∧ st ≠ .established) :
    Keeps (Stands (L := L) J) (modifySelf (withStatus st)) := by
  rintro ⟨u, cell, rings⟩ ⟨dev, scratch, hdev, hJ⟩
  rw [modifySelf, wp_always]
  exact ⟨dev, scratch, hdev, h.leaves hst.1 hst.2 rings dev hJ⟩

include hL

theorem keeps_calm (st : SocketStatus) (rings : SocketRings w) {address : UInt16} {n v : Nat}
    (hn : n ≤ 4) (ha : address = SN_IRCLR ∨ address = SN_IMR ∨ address = SN_PORTR0) :
    Keeps (IdleOn (L := L) (J st rings))
      (write ⟨address, .socketRegister i⟩ (BigEndian.encode n v)) :=
  (h.passive st rings).keeps_write ⟨nofun, fun _ => .inl ha⟩
    (by rw [BigEndian.encode_length, HEADER]; omega)

theorem keeps_calm_command (st : SocketStatus) (rings : SocketRings w) {c : SocketCommand}
    (hc : c = .close ∨ c = .receive) :
    Keeps (IdleOn (L := L) (J st rings)) (sendSockCommand (socketBlock i) c) :=
  (h.passive st rings).keeps_write ⟨nofun, fun _ => .inr ⟨rfl, c, hc, rfl⟩⟩
    (by rw [BigEndian.encode_length, HEADER]; omega)

theorem keeps_stands_readU8 {β : Type} (f : UInt8 → β) (address : UInt16) :
    Keeps (Stands (w := w) (L := L) J) (onBus (f <$> readU8 ⟨address, .socketRegister i⟩)) :=
  keeps_stands_onBus fun st rings =>
    (((h.passive st rings).keeps_read _ (by rw [HEADER]; omega)).map _).map f

theorem keeps_stands_close :
    Keeps (Stands (w := w) (L := L) J) (onBus (sendSockCommand (socketBlock i) .close)) :=
  keeps_stands_onBus fun st rings => keeps_calm_command hL h st rings (.inl rfl)

theorem keeps_stands_handleClose : Keeps (Stands (L := L) J) (handleClose (socketBlock i)) := by
  refine Keeps.bind (Keeps.always fun _ hs => hs) fun _ =>
    Keeps.bind (Keeps.always fun _ hs => hs) fun u => ?_
  have hclose : Keeps (Stands (L := L) J) (do
      onBus (sendSockCommand (socketBlock i) .close)
      modifySelf (withStatus .closing)) :=
    (keeps_stands_close hL h).bind fun _ => keeps_stands_leave h (by decide)
  cases u.status with
  | init | opening | connecting | established | listening => exact hclose
  | _ => exact Keeps.pure _

theorem keeps_stands_handleClosing :
    Keeps (Stands (L := L) J) (handleClosing (socketBlock i)) := by
  refine (keeps_stands_readU8 hL h _ _).bind fun status => ?_
  split
  · rintro ⟨u, cell, rings⟩ ⟨dev, scratch, hdev, hJ⟩
    rw [modifySelf, wp_always]
    have hafter : ∀ st : SocketStatus, st.afterClose = st ∨
        st.afterClose ≠ .opening ∧ st.afterClose ≠ .established := by
      intro st
      cases st <;> decide
    refine ⟨dev, scratch, hdev, ?_⟩
    change J u.status.afterClose rings dev
    rcases hafter u.status with heq | ⟨ho, he⟩
    · rwa [heq]
    · exact h.leaves ho he rings dev hJ
  · exact Keeps.pure _

/-- The mode is set before `OPEN` is issued. -/
theorem wp_handleInit {s : Tick UdpSocketState w L (LiveChip size)} (hst : s.1.status = .init)
    (hs : Stands J s) : wp (handleInit (socketBlock i)) (fun _ => Stands J) (fun _ => Stands J) s := by
  obtain ⟨u, cell, rings⟩ := s
  have hc : IdleOn (J .init rings) cell := by
    have hc : IdleOn (J u.status rings) cell := hs
    rwa [show u.status = .init from hst] at hc
  have hback {cell : Transceiver L (LiveChip size)} (hc : IdleOn (J .init rings) cell) :
      Stands J ((u, ⟨cell, rings⟩) : Tick UdpSocketState w L (LiveChip size)) := by
    rwa [← show u.status = .init from hst] at hc
  have huntuned {cell : Transceiver L (LiveChip size)} (hc : IdleOn (J' rings) cell) :
      IdleOn (J .init rings) cell := by
    obtain ⟨dev, scratch, hdev, hJ⟩ := hc
    exact ⟨dev, scratch, hdev, h.untuned rings dev hJ⟩
  have hkeeps {address : UInt16} {n v : Nat} (hn : n ≤ 4)
      (ha : address = SN_IRCLR ∨ address = SN_IMR ∨ address = SN_PORTR0) :
      Keeps (IdleOn (L := L) (J' rings))
        (write ⟨address, .socketRegister i⟩ (BigEndian.encode n v)) :=
    (h.passive' rings).keeps_write ⟨nofun, fun _ => .inl ha⟩
      (by rw [BigEndian.encode_length, HEADER]; omega)
  have hinit : wp (initSocket (socketBlock i) .udp4) (fun _ => IdleOn (J' rings))
      (fun _ => IdleOn (J .init rings)) cell := by
    rw [initSocket, wp_bind]
    refine wp_mono (wp_write (h.passive .init rings).pass ⟨SN_MR, .socketRegister i⟩
      (by rw [BigEndian.encode_length, HEADER]; omega) hc) ?_ fun _ _ h => h.1
    rintro _ _ ⟨c, scratch, rfl, hJ⟩
    refine Triple.consequence (Keeps.bind (hkeeps (by decide) (.inl rfl)) fun _ =>
      hkeeps (by decide) (.inr (.inl rfl))) (fun _ h => h) (fun _ _ h => h)
      (fun _ _ h => huntuned h) _ ?_
    exact ⟨_, scratch, rfl, h.mode rings c hJ⟩
  unfold handleInit
  rw [wp_onBus_bind]
  refine wp_mono hinit ?_ fun _ _ h => hback h
  intro _ cell₁ hc₁
  rw [wp_bind, self, wp_always]
  dsimp only [Prog.run_load]
  rw [wp_onBus_bind]
  refine wp_mono (hkeeps (by decide) (.inr (.inr rfl)) cell₁ hc₁) ?_ fun _ _ h => hback (huntuned h)
  intro _ cell₂ hc₂
  rw [wp_onBus_bind]
  refine wp_mono (wp_write (h.passive' rings).pass ⟨SN_CR, .socketRegister i⟩
    (by rw [BigEndian.encode_length, HEADER]; omega) hc₂) ?_ fun _ _ h => hback (huntuned h.1)
  rintro _ _ ⟨c, scratch, rfl, hJ⟩
  rw [modifySelf, wp_always]
  exact ⟨_, scratch, rfl, h.opens rings c hJ⟩

theorem wp_handleOpening {s : Tick UdpSocketState w L (LiveChip size)}
    (hst : s.1.status = .opening) (hs : Stands J s) :
    wp (handleOpening (socketBlock i)) (fun _ => Stands J) (fun _ => Stands J) s := by
  obtain ⟨u, cell, rings⟩ := s
  have hread {β : Type} (f : UInt8 → β) (address : UInt16) :=
    (((h.passive u.status rings).keeps_read ⟨address, .socketRegister i⟩
      (show HEADER + 1 ≤ L by rw [HEADER]; omega)).map fun bs => UInt8.ofNat
        (BigEndian.decode bs)).map f
  unfold handleOpening
  rw [wp_onBus_bind]
  refine wp_mono (hread _ SN_CR cell hs) ?_ fun _ _ h => h
  intro pending cell₁ hc₁
  cases pending with
  | true => exact hc₁
  | false =>
    rw [if_neg Bool.false_ne_true, wp_onBus_bind]
    refine wp_mono (hread _ SN_SR cell₁ hc₁) ?_ fun _ _ h => h
    intro status cell₂ hc₂
    have hother : wp (do
        onBus (sendSockCommand (socketBlock i) .close)
        modifySelf (withStatus .closingDueToError)
        throw (.other .unexpectedResponse)) (fun (_ : Unit) => Stands J) (fun _ => Stands J)
        ((u, ⟨cell₂, rings⟩) : Tick UdpSocketState w L (LiveChip size)) :=
      Keeps.bind (keeps_stands_close hL h) (fun _ =>
        (keeps_stands_leave h (by decide)).bind fun _ => Keeps.throw _) _ hc₂
    cases status with
    | udp =>
      rw [show u.status = .opening from hst] at hc₂
      obtain ⟨dev, scratch, hdev, hJ⟩ := hc₂
      rw [modifySelf, wp_always]
      exact ⟨dev, scratch, hdev, h.opened rings dev hJ⟩
    | closed => exact hc₂
    | _ => exact hother

/-- A tick, given what the two directions do. -/
theorem wp_dispatch (hmoves : Moves i J R)
    {s : Tick UdpSocketState w L (LiveChip size)} (hs : Stands J s) :
    wp (dispatch (socketBlock i) s.1) (Settles J R) (fun _ => Stands J) s := by
  have hnone {c : Code Error (Tick UdpSocketState w L (LiveChip size)) Unit}
      (hc : wp c (fun _ => Stands J) (fun _ => Stands J) s) :
      wp (do let _ ← c; pure .none) (Settles J R) (fun _ => Stands J) s := by
    rw [wp_bind]
    exact wp_mono hc (fun _ _ h => h) fun _ _ h => h
  unfold dispatch
  split
  · exact hnone (keeps_stands_handleClose hL h s hs)
  cases hst : s.1.status with
  | init => exact hnone (wp_handleInit hL h hst hs)
  | opening => exact hnone (wp_handleOpening hL h hst hs)
  | established =>
    obtain ⟨u, cell, rings⟩ := s
    have hread := (((h.passive u.status rings).keeps_read ⟨SN_IR, .socketRegister i⟩
      (show HEADER + 1 ≤ L by rw [HEADER]; omega)).map fun bs => UInt8.ofNat
        (BigEndian.decode bs)).map SocketInterrupt.fromBitsTruncate
    dsimp only [handleEstablished]
    rw [wp_onBus_bind]
    refine wp_mono (hread cell hs) ?_ fun _ _ h => h
    intro interrupts cell₁ hc₁
    rw [wp_bind]
    refine wp_mono (Q := fun _ s' => ∃ cell,
      IdleOn (J u.status rings) cell ∧ s' = (u, ⟨cell, rings⟩)) (E := fun _ => Stands J) ?_ ?_
      fun _ _ h => h
    · split
      · rw [onBus, wp_zoom]
        exact wp_mono (keeps_calm hL h _ rings (by decide) (.inl rfl) cell₁ hc₁)
          (fun _ _ h => ⟨_, h, rfl⟩) fun _ _ h => h
      · exact ⟨_, hc₁, rfl⟩
    · rintro _ _ ⟨cell, hc, rfl⟩
      rw [wp_bind]
      refine wp_mono (hmoves _ hst hc) ?_ fun _ _ h => h
      rintro (_ | ⟨kind, pointer, len⟩) s' hs' <;> exact hs'
  | closingDueToError | closingDueToTimeout | closing =>
    exact hnone (keeps_stands_handleClosing hL h s hs)
  | connecting | listening | timeout | closed | error => exact hs

theorem triple_run (hmoves : Moves i J R) :
    Triple (Stands (L := L) J) (run (socketBlock i)) (Settles J R) fun _ => Stands J := by
  intro s hs
  rw [run, wp_bind, self, wp_always]
  refine triple_stored_plain (P := (· = s)) (E := Stands J) ?_ (fun _ _ h => h) s rfl
  rintro _ rfl
  exact wp_dispatch hL h hmoves hs

end Handlers

end UdpSocketState

/-- Where a UDP machine is; the other machines are nowhere. -/
def BackendState.udpStatus : BackendState → SocketStatus
  | .udp u => u.status
  | _ => .closed

theorem SocketBackend.SameStatus.udpStatus {st st' : BackendState}
    (h : SocketBackend.SameStatus st st') : st'.udpStatus = st.udpStatus := by
  cases st <;> cases st' <;> first | exact h | rfl | exact h.elim

/-- A tick of a slot whose UDP handle is alive. -/
theorem SocketBackend.run_udp {J : SocketStatus → SocketRings w → LiveChip size → Prop}
    {J' : SocketRings w → LiveChip size → Prop}
    {R : BulkKind → UInt16 → Nat → Io w L (LiveChip size) → Prop} {b : SocketBackend}
    {io : Io w L (LiveChip size)} (hL : 67 ≤ L) (h : Tuned i J J') (hmoves : UdpSocketState.Moves i J R)
    (hp : b.state.protocol = some .udp) (hr : b.releaseRequested = false)
    (hblock : b.block = socketBlock i) (hs : IdleOn (J b.state.udpStatus io.rings) io.trans) :
    match b.run.run io with
    | ((result, b'), io') =>
      (b'.state.protocol = some .udp ∧ b'.releaseRequested = false) ∧
      match result with
      | .ok (.started kind pointer len) => R kind pointer len io'
      | _ => IdleOn (J b'.state.udpStatus io'.rings) io'.trans := by
  have hreap (st : BackendState) : reap { b with state := st } = { b with state := st } :=
    reap_kept hr
  cases hst : b.state with
  | free | tcp => rw [hst] at hp; cases hp
  | udp u =>
    rw [hst] at hs
    have hu := run_withLocal_wp (UdpSocketState.triple_run hL h hmoves (u, io) hs)
    rw [← hblock] at hu
    unfold run
    simp only [hst, Prog.bind_eq, Prog.run_bind, Prog.pure_eq, Prog.run_ret, hreap]
    rcases hrun : (Prog.withLocal (ExceptT.run (UdpSocketState.run b.block)) u).run io with
      ⟨⟨e | (_ | ⟨kind, pointer, len⟩), u'⟩, io'⟩ <;> rw [hrun] at hu <;>
      exact ⟨⟨rfl, hr⟩, hu⟩

end Wiznet
