import Wiznet.CommandLog
import Wiznet.Ticks

/-! # The tick of a connection that nobody asked to close

It sends `DISCONNECT` only where it has found both rings and the RX buffer
empty behind a FIN, and sends nothing afterwards. -/

namespace Wiznet
open Resumption Resumption.Code Tick SpscRing LiveChip

variable {w L size : Nat} {i : Fin 8} {n : Nat}

namespace TcpSocketState

variable {α : Type} {J : LiveChip size → Prop} {rings : SocketRings w} {t : TcpSocketState}

theorem ofByte_closeWait {b : UInt8} (h : SocketStatusRegister.ofByte b = .closeWait) :
    b = 0x1C := by
  revert h
  fun_cases SocketStatusRegister.ofByte b <;> intro h <;> first | assumption | cases h

/-- Nobody has asked to close the connection, and the driver has not begun to. -/
def Going (n : Nat) (i : Fin 8) (s : Tick TcpSocketState w L (LiveChip size)) : Prop :=
  s.1.closeRequested = false ∧ IdleOn (Unissued n i) s.2.trans

/-- The same, or it has begun to and there is nothing left to do. -/
def AtRest (n : Nat) (i : Fin 8) (s : Tick TcpSocketState w L (LiveChip size)) : Prop :=
  s.1.closeRequested = false ∧ (IdleOn (Unissued n i) s.2.trans ∨
    (s.1.status = .closing ∨ s.1.status = .closed) ∧ IdleOn (Drained n i s.2.rings) s.2.trans)

theorem Going.atRest {s : Tick TcpSocketState w L (LiveChip size)} (h : Going n i s) :
    AtRest n i s := ⟨h.1, .inl h.2⟩

/-- Where a tick that nobody asked to close ends. -/
def Ends (n : Nat) (i : Fin 8) : BulkAction → Tick TcpSocketState w L (LiveChip size) → Prop
  | .none, s => AtRest n i s
  | .started _ _ _, s => s.1.closeRequested = false ∧ InFlightOn (Unissued n i) s.2.trans

theorem keeps_going_onBus {c : Code Error (Transceiver L (LiveChip size)) α}
    (h : Keeps (IdleOn (Unissued n i)) c) :
    Keeps (Going (w := w) n i) (onBus c) := by
  rintro ⟨t, cell, rings⟩ ⟨hreq, hc⟩
  rw [onBus, wp_zoom]
  exact wp_mono (h cell hc) (fun _ _ h => ⟨hreq, h⟩) fun _ _ h => ⟨hreq, h⟩

theorem keeps_going_modifySelf {f : TcpSocketState → TcpSocketState}
    (hf : ∀ t, (f t).closeRequested = t.closeRequested) :
    Keeps (@Going w L size n i) (modifySelf f) := by
  rintro ⟨t, io⟩ ⟨hreq, hc⟩
  rw [modifySelf, wp_always]
  exact ⟨(hf t).trans hreq, hc⟩

theorem keeps_going_withStatus (st : SocketStatus) :
    Keeps (@Going w L size n i) (modifySelf (withStatus st)) :=
  keeps_going_modifySelf fun _ => rfl

theorem ends_of_keeps {c : Code Error (Tick TcpSocketState w L (LiveChip size)) α}
    (h : Keeps (Going n i) c) :
    Triple (Going n i) (do let _ ← c; pure .none) (Ends n i) fun _ => AtRest n i :=
  Triple.bind (R := fun _ => Going n i) (h.consequence (fun _ h => h) (fun _ _ h => h)
    fun _ _ h => h.atRest) fun _ _ h => h.atRest

theorem keeps_andThen {β : Type} {c : Code Error (Tick TcpSocketState w L (LiveChip size)) α}
    {f : α → Code Error (Tick TcpSocketState w L (LiveChip size)) β}
    {Q : β → Tick TcpSocketState w L (LiveChip size) → Prop} (h : Keeps (Going n i) c)
    (hf : ∀ a, Triple (Going n i) (f a) Q fun _ => AtRest n i) :
    Triple (Going n i) (c >>= f) Q fun _ => AtRest n i :=
  Triple.bind (R := fun _ => Going n i) (h.consequence (fun _ h => h) (fun _ _ h => h)
    fun _ _ h => h.atRest) hf

section Handlers

variable (hL : 67 ≤ L)
include hL

theorem keeps_going_readU8 (address : UInt16) :
    Keeps (IdleOn (L := L) (Unissued n i : LiveChip size → Prop))
      (readU8 ⟨address, .socketRegister i⟩) :=
  ((passive_unissued n i).keeps_read _ (by rw [HEADER]; omega)).map _

theorem keeps_going_write {address : UInt16} {m v : Nat} (hm : m ≤ 4) (hcr : address ≠ SN_CR) :
    Keeps (IdleOn (L := L) (Unissued n i : LiveChip size → Prop))
      (write ⟨address, .socketRegister i⟩ (BigEndian.encode m v)) :=
  (passive_unissued n i).keeps_write (fun h => absurd (congrArg Address.address h) hcr)
    (by rw [BigEndian.encode_length, HEADER]; omega)

theorem keeps_going_command {command : SocketCommand} (hc : command ≠ .disconnect) :
    Keeps (@Going w L size n i)
      (onBus (sendSockCommand (socketBlock i) command)) :=
  keeps_going_onBus ((passive_unissued n i).keeps_write (fun _ => ⟨command, hc, rfl⟩)
    (by rw [BigEndian.encode_length, HEADER]; omega))

theorem keeps_going_status :
    Keeps (@Going w L size n i) (onBus (readStatus (socketBlock i))) :=
  keeps_going_onBus ((keeps_going_readU8 hL SN_SR).map _)

theorem keeps_going_interrupts :
    Keeps (@Going w L size n i) (onBus (getInterrupts (socketBlock i))) :=
  keeps_going_onBus ((keeps_going_readU8 hL SN_IR).map _)

theorem keeps_going_pending :
    Keeps (@Going w L size n i) (onBus (isCommandPending (socketBlock i))) :=
  keeps_going_onBus ((keeps_going_readU8 hL SN_CR).map _)

theorem keeps_going_clear (mask : SocketInterrupt) :
    Keeps (@Going w L size n i)
      (onBus (clearInterrupts (socketBlock i) mask)) :=
  keeps_going_onBus (keeps_going_write hL (by decide) (by decide))

theorem keeps_going_unexpectedStatus :
    Keeps (@Going w L size n i)
      (unexpectedStatus (α := α) (socketBlock i)) :=
  (keeps_going_command hL (by decide)).bind fun _ =>
    (keeps_going_withStatus _).bind fun _ => Keeps.throw _

theorem keeps_going_handleInit :
    Keeps (@Going w L size n i) (handleInit (socketBlock i)) := by
  have hinit : Keeps (IdleOn (L := L) (Unissued n i : LiveChip size → Prop))
      (initSocket (socketBlock i) .tcp4) :=
    (keeps_going_write hL (by decide) (by decide)).bind fun _ =>
      (keeps_going_write hL (by decide) (by decide)).bind fun _ =>
        keeps_going_write hL (by decide) (by decide)
  refine (keeps_going_onBus hinit).bind fun _ => Keeps.bind (Keeps.always fun _ h => h) fun t => ?_
  refine (keeps_going_onBus (keeps_going_write hL (by decide) (by decide))).bind fun _ => ?_
  exact (keeps_going_command hL (by decide)).bind fun _ => keeps_going_withStatus _

theorem keeps_going_handleOpening :
    Keeps (@Going w L size n i) (handleOpening (socketBlock i)) := by
  refine (keeps_going_pending hL).bind fun pending => ?_
  cases pending with
  | true => exact Keeps.pure _
  | false =>
    refine (keeps_going_status hL).bind fun status => ?_
    cases status with
    | init =>
      refine Keeps.bind (Keeps.always fun _ h => h) fun t => ?_
      cases t.mode with
      | connect dstAddr dstPort srcPort =>
        refine (keeps_going_onBus (keeps_going_write hL (by decide) (by decide))).bind fun _ => ?_
        refine (keeps_going_onBus (keeps_going_write hL (by decide) (by decide))).bind fun _ => ?_
        exact (keeps_going_command hL (by decide)).bind fun _ => keeps_going_withStatus _
      | listen srcPort =>
        exact (keeps_going_command hL (by decide)).bind fun _ => keeps_going_withStatus _
    | closed => exact Keeps.pure _
    | _ => exact keeps_going_unexpectedStatus hL

theorem keeps_going_handleConnecting :
    Keeps (@Going w L size n i) (handleConnecting (socketBlock i)) := by
  refine (keeps_going_pending hL).bind fun pending => ?_
  cases pending with
  | true => exact Keeps.pure _
  | false =>
    refine (keeps_going_interrupts hL).bind fun interrupts => ?_
    split
    · refine (keeps_going_clear hL _).bind fun _ => (keeps_going_command hL (by decide)).bind fun _ => ?_
      exact keeps_going_withStatus _
    · refine (keeps_going_status hL).bind fun status => ?_
      cases status with
      | established =>
        exact (keeps_going_withStatus _).bind fun _ => keeps_going_clear hL _
      | synsent | init => exact Keeps.pure _
      | closed => exact keeps_going_withStatus _
      | _ => exact keeps_going_unexpectedStatus hL

theorem keeps_going_handleListening :
    Keeps (@Going w L size n i) (handleListening (socketBlock i)) := by
  refine (keeps_going_pending hL).bind fun pending => ?_
  cases pending with
  | true => exact Keeps.pure _
  | false =>
    refine (keeps_going_status hL).bind fun status => ?_
    cases status with
    | listen | synrecv => exact Keeps.pure _
    | established | closeWait =>
      exact (keeps_going_withStatus _).bind fun _ => keeps_going_clear hL _
    | closed => exact (keeps_going_clear hL _).bind fun _ => keeps_going_withStatus _
    | _ => exact keeps_going_unexpectedStatus hL

theorem keeps_going_handleClosing :
    Keeps (@Going w L size n i) (handleClosing (socketBlock i)) := by
  refine (keeps_going_status hL).bind fun status => ?_
  split
  · exact keeps_going_modifySelf fun _ => rfl
  · exact Keeps.pure _

/-- `receive` on an invariant that stands while time passes. -/
theorem triple_receive_passing (hp : ∀ c, J c → J c.pass) :
    Triple (fun s : Tick TcpSocketState w L (LiveChip size) =>
        (s.1 = t ∧ s.2.rings = rings) ∧ IdleOn J s.2.trans)
      (receive (socketBlock i))
      (fun a s => s.1 = t ∧ match a with
        | .none => s.2.rings = rings ∧ IdleOn J s.2.trans
        | .started _ _ _ => InFlightOn J s.2.trans)
      fun _ s => (s.1 = t ∧ s.2.rings = rings) ∧ IdleOn J s.2.trans := by
  rintro ⟨_, cell, rx, tx⟩ ⟨⟨rfl, rfl⟩, hc⟩
  unfold receive
  rw [wp_onBus_bind]
  refine wp_mono (wp_readU16 hp i SN_RX_RSR0 (by rw [HEADER]; omega) hc) ?_
    fun _ _ h => ⟨⟨rfl, rfl⟩, h⟩
  rintro available _ ⟨c, scratch, rfl, hJ, -⟩
  split
  · exact ⟨rfl, rfl, c, scratch, rfl, hJ⟩
  rw [wp_onRx_bind, run_free]
  dsimp only
  split
  · exact ⟨rfl, rfl, c, scratch, rfl, hJ⟩
  rw [wp_onBus_bind]
  refine wp_mono (wp_readU16 hp i SN_RX_RD0 (by rw [HEADER]; omega) ⟨c, scratch, rfl, hJ⟩) ?_
    fun _ _ h => ⟨⟨rfl, rfl⟩, h⟩
  rintro pointer _ ⟨c', scratch', rfl, hJ', -⟩
  rw [wp_onBus_bind]
  refine wp_mono (LiveChip.wp_startRead hp i pointer _ ⟨c', scratch', rfl, hJ'⟩) ?_
    fun _ _ h => ⟨⟨rfl, rfl⟩, h⟩
  rintro _ _ ⟨txn, rfl, hdev, -⟩
  exact ⟨rfl, txn, rfl, hdev⟩

/-- `transmit` on one that stands through bursts as well. -/
theorem triple_transmit_passing {W : Address → List UInt8 → Prop} (hp : Passive W J)
    (hW : ∀ addr data, addr.block = .socketTxBuffer i → W addr data) :
    Triple (fun s : Tick TcpSocketState w L (LiveChip size) =>
        (s.1 = t ∧ s.2.rings = rings) ∧ IdleOn J s.2.trans)
      (transmit (socketBlock i))
      (fun a s => s.1 = t ∧ match a with
        | .none => s.2.rings = rings ∧ IdleOn J s.2.trans
        | .started _ _ _ => InFlightOn J s.2.trans)
      fun _ s => s.1 = t ∧ IdleOn J s.2.trans := by
  rintro ⟨t, cell, rx, tx⟩ ⟨⟨rfl, rfl⟩, hc⟩
  unfold transmit
  rw [wp_onTx_bind, run_len]
  dsimp only
  split
  · exact ⟨rfl, rfl, hc⟩
  rw [wp_onBus_bind]
  refine wp_mono (wp_readU16 hp.pass i SN_TX_FSR0 (by rw [HEADER]; omega) hc) ?_
    fun _ _ h => ⟨rfl, h⟩
  rintro free _ ⟨c, scratch, rfl, hJ, -⟩
  split
  · exact ⟨rfl, rfl, c, scratch, rfl, hJ⟩
  rw [wp_onBus_bind]
  refine wp_mono (wp_readU16 hp.pass i SN_TX_WR0 (by rw [HEADER]; omega) ⟨c, scratch, rfl, hJ⟩) ?_
    fun _ _ h => ⟨rfl, h⟩
  rintro pointer _ ⟨c', scratch', rfl, hJ', -⟩
  have hdrain (buf : List UInt8) : ∃ tx', ∃ got, (drain buf).run (bus.set .pending
      ((t, ⟨.idle c' scratch', rx, tx⟩) : Tick TcpSocketState w L (LiveChip size))) =
        (got, (t, ⟨.pending, rx, tx'⟩)) := run_drain_frame buf
  rw [wp_bind]
  refine wp_mono (LiveChip.wp_startWrite hp.pass bus ⟨pointer, .socketTxBuffer i⟩ _ drain
    (show IdleOn J (bus.get (_, (⟨.idle c' scratch', rx, tx⟩ : Io w L (LiveChip size)))) from
      ⟨c', scratch', rfl, hJ'⟩)) ?_ ?_
  · rintro _ _ ⟨buf, txn, c, payload, -, hc, rfl, hdev, -⟩
    obtain ⟨tx', got, hrun⟩ := hdrain buf
    rw [hrun]
    refine ⟨rfl, txn, rfl, ?_⟩
    rw [hdev]
    exact hp.write c _ payload (hW _ _ rfl) hc
  · rintro _ _ (⟨rfl, -⟩ | ⟨buf, idle, c, payload, -, hidle, rfl, -⟩)
    · exact ⟨rfl, c', scratch', rfl, hJ'⟩
    · obtain ⟨tx', got, hrun⟩ := hdrain buf
      rw [hrun]
      exact ⟨rfl, hidle⟩

/-- Data that moves sends no `DISCONNECT`. -/
theorem ends_moving :
    Triple (@Going w L size n i)
      (do
        match ← receive (socketBlock i) with
        | .started kind pointer len => pure (.started kind pointer len)
        | .none => transmit (socketBlock i))
      (Ends n i) fun _ => AtRest n i := by
  rintro ⟨t, cell, rings⟩ ⟨hreq, hc⟩
  rw [wp_bind]
  refine wp_mono (triple_receive_passing hL (passive_unissued n i).pass _ ⟨⟨rfl, rfl⟩, hc⟩) ?_ ?_
  · rintro (_ | ⟨kind, pointer, len⟩) s ⟨rfl, hs⟩
    · refine wp_mono (triple_transmit_passing hL (passive_unissued n i) ?_ s ⟨⟨rfl, rfl⟩, hs.2⟩) ?_ ?_
      · rintro addr data hb rfl
        cases hb
      · rintro (_ | ⟨kind, pointer, len⟩) s' ⟨heq, hs'⟩
        · exact ⟨heq ▸ hreq, .inl hs'.2⟩
        · exact ⟨heq ▸ hreq, hs'⟩
      · rintro _ s' ⟨heq, hs'⟩
        exact ⟨heq ▸ hreq, .inl hs'⟩
    · exact ⟨hreq, hs⟩
  · rintro _ s ⟨⟨rfl, -⟩, hs⟩
    exact ⟨hreq, .inl hs⟩

/-- Behind a FIN the driver closes the connection when it finds nothing left. -/
theorem ends_closeWait {cell : Transceiver L (LiveChip size)} (hreq : t.closeRequested = false)
    (hc : IdleOn (fun c => Unissued n i c ∧ ∃ u, RxLeft i u c) cell) :
    wp (do
        match ← receive (socketBlock i) with
        | .started kind pointer len => pure (.started kind pointer len)
        | .none => do
          match ← transmit (socketBlock i) with
          | .started kind pointer len => pure (.started kind pointer len)
          | .none => do
            let txLen ← onTx SpscRing.len
            let rxLen ← onRx SpscRing.len
            if txLen = 0 ∧ rxLen = 0 then do
              let size ← onBus (getRxReceivedSize (socketBlock i))
              if size.toNat = 0 then do
                onBus (sendSockCommand (socketBlock i) .disconnect)
                modifySelf (withStatus .closing)
                pure .none
              else pure .none
            else pure .none)
      (Ends n i) (fun _ => AtRest n i) ((t, ⟨cell, rings⟩) : Tick TcpSocketState w L (LiveChip size)) := by
  have hp : Passive (SparesRegister i) fun c : LiveChip size =>
      Unissued n i c ∧ ∃ u, RxLeft i u c :=
    ((passive_unissued n i).spare fun _ _ h => h.close).and (Passive.any (passive_rxLeft i))
  have hnone : Passive (SparesRegister i) fun c : LiveChip size => Unissued n i c ∧ RxLeft i 0 c :=
    ((passive_unissued n i).spare fun _ _ h => h.close).and (passive_rxLeft i 0)
  have hunissued {J : LiveChip size → Prop} {cell : Transceiver L (LiveChip size)}
      (h : IdleOn (fun c => Unissued n i c ∧ J c) cell) : IdleOn (Unissued n i) cell := by
    obtain ⟨c, scratch, hcell, hc⟩ := h
    exact ⟨c, scratch, hcell, hc.1⟩
  have hflight {cell : Transceiver L (LiveChip size)}
      (h : InFlightOn (fun c => Unissued n i c ∧ ∃ u, RxLeft i u c) cell) :
      InFlightOn (Unissued n i) cell := by
    obtain ⟨txn, hcell, hc⟩ := h
    exact ⟨txn, hcell, hc.1⟩
  rw [wp_bind]
  refine wp_mono (triple_receive_passing hL hp.pass _ ⟨⟨rfl, rfl⟩, hc⟩) ?_ ?_
  swap
  · rintro _ s ⟨⟨rfl, -⟩, hs⟩
    exact ⟨hreq, .inl (hunissued hs)⟩
  rintro (_ | ⟨kind, pointer, len⟩) s ⟨rfl, hs⟩
  swap
  · exact ⟨hreq, hflight hs⟩
  dsimp only
  rw [wp_bind]
  refine wp_mono (triple_transmit_passing hL hp ?_ s ⟨⟨rfl, hs.1⟩, hs.2⟩) ?_ ?_
  · rintro addr data hb hreg
    rw [hb] at hreg
    cases hreg
  swap
  · rintro _ s' ⟨heq, hs'⟩
    exact ⟨heq ▸ hreq, .inl (hunissued hs')⟩
  rintro (_ | ⟨kind, pointer, len⟩) s' ⟨heq, hs'⟩
  swap
  · exact ⟨heq ▸ hreq, hflight hs'⟩
  obtain ⟨t', cell', rx, tx⟩ := s'
  obtain rfl : t' = s.1 := heq
  replace hs' : IdleOn _ cell' := hs'.2
  dsimp only
  rw [wp_onTx_bind, run_len, wp_onRx_bind, run_len]
  dsimp only
  split
  swap
  · exact ⟨hreq, .inl (hunissued hs')⟩
  next hempty =>
    rw [wp_onBus_bind]
    refine wp_mono (wp_readU16 hp.pass i SN_RX_RSR0 (by rw [HEADER]; omega) hs') ?_
      fun _ _ h => ⟨hreq, .inl (hunissued h)⟩
    rintro received _ ⟨c, scratch, rfl, ⟨hun, u, hleft⟩, hvalue⟩
    split
    swap
    · exact ⟨hreq, .inl ⟨c, scratch, rfl, hun⟩⟩
    next hzero =>
      have hused : received = (c.chip.sockets i).rx.used :=
        hvalue.trans (UInt16.toUInt16_toUInt32 _)
      have hdone : RxLeft i 0 c := ⟨hleft.1, hused.symm.trans (UInt16.toNat_inj.mp hzero)⟩
      rw [wp_onBus_bind]
      refine wp_mono (wp_write hnone.pass ⟨SN_CR, .socketRegister i⟩
        (by rw [BigEndian.encode_length, HEADER]; omega) ⟨c, scratch, rfl, hun, hdone⟩) ?_
        fun _ _ h => ⟨hreq, .inl (hunissued h.1)⟩
      rintro _ _ ⟨c', scratch', rfl, hun', hdone'⟩
      rw [modifySelf, wp_bind, wp_always]
      refine ⟨hreq, .inr ⟨.inl rfl, _, scratch', rfl, ⟨?_, ?_⟩, hdone'.disconnect, hun'.disconnect⟩⟩
      · exact contents_eq_nil hempty.2
      · exact contents_eq_nil hempty.1

theorem ends_handleEstablished :
    Triple (@Going w L size n i) (handleEstablished (socketBlock i))
      (Ends n i) fun _ => AtRest n i := by
  refine keeps_andThen (keeps_going_interrupts hL) fun interrupts => ?_
  split
  · refine keeps_andThen (keeps_going_clear hL _) fun _ => ?_
    exact keeps_andThen (keeps_going_command hL (by decide)) fun _ =>
      ends_of_keeps (keeps_going_withStatus _)
  refine keeps_andThen ?_ fun _ => ?_
  · split
    · exact keeps_going_clear hL _
    · exact Keeps.pure _
  rintro ⟨t, cell, rings⟩ ⟨hreq, hc⟩
  rw [wp_onBus_bind, readStatus, wp_map]
  refine wp_mono (wp_readU8 (passive_unissued n i).pass i SN_SR (by rw [HEADER]; omega) hc) ?_
    fun _ _ h => ⟨hreq, .inl h⟩
  rintro status _ ⟨c, scratch, rfl, hun, hvalue⟩
  have hgoing : Going n i ((t, ⟨.idle c scratch, rings⟩) : Tick TcpSocketState w L (LiveChip size)) :=
    ⟨hreq, c, scratch, rfl, hun⟩
  cases hstatus : SocketStatusRegister.ofByte status with
  | established => exact ends_moving hL _ hgoing
  | closeWait =>
    have hsr : (c.chip.sockets i).sr = 0x1C := by
      have hread : status = (c.chip.sockets i).sr := hvalue.trans (UInt8.toUInt8_toUInt32 _)
      rw [← hread]
      exact ofByte_closeWait hstatus
    exact ends_closeWait hL hreq ⟨c, scratch, rfl, hun, _, .inl hsr, rfl⟩
  | closed => exact ends_of_keeps (keeps_going_withStatus _) _ hgoing
  | _ =>
    refine keeps_andThen (keeps_going_command hL (by decide)) (fun _ => ?_) _ hgoing
    exact keeps_andThen (keeps_going_withStatus _) fun _ _ h => h.atRest

/-- Once it has closed the connection the driver only waits. -/
theorem ends_handleClosing {s : Tick TcpSocketState w L (LiveChip size)}
    (hreq : s.1.closeRequested = false) (hst : s.1.status = .closing)
    (hc : IdleOn (Drained n i s.2.rings) s.2.trans) :
    wp (do handleClosing (socketBlock i); pure .none) (Ends n i) (fun _ => AtRest n i) s := by
  obtain ⟨t, cell, rings⟩ := s
  have hp : Passive (SparesRegister i) (Drained n i rings : LiveChip size → Prop) :=
    passive_drained n i rings
  unfold handleClosing
  rw [wp_bind, wp_onBus_bind, readStatus, wp_map]
  refine wp_mono (wp_readU8 hp.pass i SN_SR (by rw [HEADER]; omega) hc) ?_
    fun _ _ h => ⟨hreq, .inr ⟨.inl hst, h⟩⟩
  rintro status _ ⟨c, scratch, rfl, hdrained, -⟩
  split
  · rw [modifySelf, wp_always]
    refine ⟨hreq, .inr ⟨.inr ?_, c, scratch, rfl, hdrained⟩⟩
    change t.status.afterClose = .closed
    rw [show t.status = .closing from hst]
    rfl
  · exact ⟨hreq, .inr ⟨.inl hst, c, scratch, rfl, hdrained⟩⟩

theorem ends_dispatch {s : Tick TcpSocketState w L (LiveChip size)} (h : AtRest n i s) :
    wp (dispatch (socketBlock i) s.1) (Ends n i) (fun _ => AtRest n i) s := by
  have hreq : ¬ s.1.closeRequested = true := by rw [h.1]; decide
  rw [dispatch, if_neg hreq]
  rcases h.2 with hc | ⟨hst | hst, hc⟩
  · have hgoing : Going n i s := ⟨h.1, hc⟩
    cases s.1.status with
    | init => exact ends_of_keeps (keeps_going_handleInit hL) s hgoing
    | opening => exact ends_of_keeps (keeps_going_handleOpening hL) s hgoing
    | connecting => exact ends_of_keeps (keeps_going_handleConnecting hL) s hgoing
    | established => exact ends_handleEstablished hL s hgoing
    | listening => exact ends_of_keeps (keeps_going_handleListening hL) s hgoing
    | closingDueToError | closingDueToTimeout | closing =>
      exact ends_of_keeps (keeps_going_handleClosing hL) s hgoing
    | timeout | closed | error => exact h
  · rw [hst]
    exact ends_handleClosing hL h.1 hst hc
  · rw [hst]
    exact h

/-- A tick that nobody asked to close. -/
theorem ends_run : Triple (@AtRest w L size n i) (run (socketBlock i))
    (Ends n i) fun _ => AtRest n i := by
  intro s h
  rw [run, wp_bind, self, wp_always]
  refine triple_stored_plain (P := (· = s)) (E := AtRest n i) ?_ (fun _ _ h => h) s rfl
  rintro _ rfl
  exact ends_dispatch hL h

end Handlers

end TcpSocketState

/-- One tick of a slot whose TCP handle is alive, from what its machine does. -/
theorem SocketBackend.run_tcp {b : SocketBackend} {t : TcpSocketState} {io : Io w L (LiveChip size)}
    {Q : BulkAction → Tick TcpSocketState w L (LiveChip size) → Prop}
    {E : Tick TcpSocketState w L (LiveChip size) → Prop} (hst : b.state = .tcp t)
    (hr : b.releaseRequested = false)
    (h : wp (TcpSocketState.run b.block) Q (fun _ => E) (t, io)) :
    match b.run.run io with
    | ((result, b'), io') => ∃ t', b'.state = .tcp t' ∧ b'.releaseRequested = false ∧
      match result with
      | .ok action => Q action (t', io')
      | .error _ => E (t', io') := by
  have hreap (st : BackendState) : reap { b with state := st } = { b with state := st } :=
    reap_kept hr
  have ht := run_withLocal_wp h
  unfold run
  simp only [hst, Prog.bind_eq, Prog.run_bind, Prog.pure_eq, Prog.run_ret, hreap]
  rcases hrun : (Prog.withLocal (ExceptT.run (TcpSocketState.run b.block)) t).run io with
    ⟨⟨e | action, t'⟩, io'⟩ <;> rw [hrun] at ht <;> exact ⟨t', rfl, hr, ht⟩

end Wiznet
