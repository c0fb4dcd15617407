import Wiznet.Transcript
import Wiznet.SlotOwners

/-! # The read that ends a socket

A machine gets to a terminal status only right after it has read `SOCK_CLOSED`
from its chip socket. A terminal machine leaves the bus alone, and nobody else
asks its socket for its status or gives it a command. -/

namespace Wiznet
open Resumption Resumption.Code Tick

variable {w L : Nat} {D P σ α β : Type}

/-- The most recent read of the status of socket `i` returned `SOCK_CLOSED`, and
no command was written to the socket since. -/
def ClosedLast (i : Fin 8) (bs : List Burst) : Prop :=
  ∃ before b after, bs = before ++ b :: after ∧
    Burst.Returns b ⟨SN_SR, .socketRegister i⟩ [0x00] ∧
    ∀ b' ∈ after, ¬ Burst.Opens b' ⟨SN_SR, .socketRegister i⟩ false ∧
      ¬ Burst.Opens b' ⟨SN_CR, .socketRegister i⟩ true

/-- The same of the frames on the bus, each an access of its own: the last frame
that read the status of socket `i` returned `SOCK_CLOSED`, and no frame since wrote
a command to it. -/
def ClosedLastFrame (i : Fin 8) (log : List BusEntry) : Prop :=
  ∃ before e after, log = before ++ e :: after ∧
    e.Accesses ⟨SN_SR, .socketRegister i⟩ false ∧
    (∃ answer, e.answer = some answer ∧ answer.drop HEADER = [0x00]) ∧
    ∀ e' ∈ after, ¬ e'.Accesses ⟨SN_SR, .socketRegister i⟩ false ∧
      ¬ e'.Accesses ⟨SN_CR, .socketRegister i⟩ true

section ClosedLast

variable {i : Fin 8} {addr : Address}

/-- Where every burst is one frame, the bursts are the frames. -/
theorem ClosedLast.frame {bs : List Burst} (h : ClosedLast i bs) (hw : ∀ b ∈ bs, b.length = 1) :
    ClosedLastFrame i bs.flatten := by
  obtain ⟨before, b, after, rfl, hread, hafter⟩ := h
  obtain ⟨e, rfl⟩ := List.length_eq_one_iff.mp (hw b (by simp))
  obtain ⟨e', rest, heq, haccess⟩ := hread.opens
  obtain ⟨rfl, -⟩ := List.cons.inj heq
  refine ⟨before.flatten, e, after.flatten, by simp, haccess, ?_, fun e' he' => ?_⟩
  · obtain ⟨answer, ha⟩ := Option.isSome_iff_exists.mp (hread.answered e (List.mem_singleton_self e))
    have hdata := hread.data
    simp only [Burst.answers, List.flatMap_cons, List.flatMap_nil, List.append_nil, ha,
      Option.getD_some] at hdata
    exact ⟨answer, ha, hdata⟩
  · obtain ⟨b', hb', hmem⟩ := List.mem_flatten.mp he'
    obtain ⟨e'', rfl⟩ := List.length_eq_one_iff.mp (hw b' (by simp [hb']))
    cases List.mem_singleton.mp hmem
    exact ⟨fun h => (hafter _ hb').1 ⟨e', [], rfl, h⟩, fun h => (hafter _ hb').2 ⟨e', [], rfl, h⟩⟩

theorem closedLast_of_returns {bs : List Burst} {b : Burst}
    (h : b.Returns ⟨SN_SR, .socketRegister i⟩ [0x00]) : ClosedLast i (bs ++ [b]) :=
  ⟨bs, b, [], rfl, h, nofun⟩

/-- Any other access leaves the closed read the last. -/
theorem ClosedLast.heeds {write : Bool}
    (hread : write = false → addr ≠ ⟨SN_SR, .socketRegister i⟩)
    (hwrite : write = true → addr ≠ ⟨SN_CR, .socketRegister i⟩) :
    Heeds (ClosedLast i) addr write := by
  rintro bs b ⟨before, c, after, rfl, hc, hafter⟩ hb
  refine ⟨before, c, after ++ [b], by simp, hc, fun b' hb' => ?_⟩
  rcases List.mem_append.mp hb' with hb' | hb'
  · exact hafter b' hb'
  · rw [List.mem_singleton.mp hb']
    refine ⟨fun h => ?_, fun h => ?_⟩
    · obtain ⟨haddr, hw⟩ := hb.unique h
      exact hread hw haddr
    · obtain ⟨haddr, hw⟩ := hb.unique h
      exact hwrite hw haddr

/-- Nor does any access of another block. -/
theorem ClosedLast.heeds_of_block {write : Bool} (h : addr.block ≠ .socketRegister i) :
    Heeds (ClosedLast i) addr write :=
  ClosedLast.heeds (fun _ ha => h (congrArg Address.block ha))
    fun _ ha => h (congrArg Address.block ha)

end ClosedLast

/-- The transcript is up to date. -/
abbrev Synced (x : Transceiver L (Logged D) × Transcript) : Prop :=
  Written (fun _ => True) (fun _ => True) x

theorem heeds_true (addr : Address) (write : Bool) : Heeds (fun _ => True) addr write :=
  fun _ _ _ _ => trivial

/-! ## One tick -/

section Lands

variable {closed : σ → Bool} {i : Fin 8}

/-- The machine is not terminal. -/
def Underway (closed : σ → Bool) (x : Tick σ w L (Logged D) × Transcript) : Prop :=
  Synced (line x) ∧ closed x.1.1 = false

/-- The machine is not terminal, and has just read that its socket is closed. -/
def Confirmed (closed : σ → Bool) (i : Fin 8) (x : Tick σ w L (Logged D) × Transcript) : Prop :=
  Written (ClosedLast i) (fun _ => True) (line x) ∧ closed x.1.1 = false

/-- If the machine is terminal, its socket is closed. -/
def Landed (closed : σ → Bool) (i : Fin 8) (x : Tick σ w L (Logged D) × Transcript) : Prop :=
  Synced (line x) ∧ (closed x.1.1 = true → ClosedLast i x.2.bursts)

theorem Underway.landed {x : Tick σ w L (Logged D) × Transcript} (h : Underway closed x) :
    Landed closed i x := ⟨h.1, fun hc => by rw [h.2] at hc; cases hc⟩

theorem Confirmed.underway {x : Tick σ w L (Logged D) × Transcript} (h : Confirmed closed i x) :
    Underway closed x := ⟨⟨h.1.synced, trivial, trivial⟩, h.2⟩

/-- A step of a tick from a machine that is not terminal. -/
abbrev Lands (closed : σ → Bool) (i : Fin 8) (c : Code Error (Tick σ w L (Logged D)) α) : Prop :=
  Triple (Underway closed) (c.watch (seen transcribe)) (fun _ => Landed closed i)
    fun _ => Landed closed i

theorem lands_of_keeps {c : Code Error (Tick σ w L (Logged D)) α}
    (h : Keeps (Underway closed) (c.watch (seen transcribe))) : Lands closed i c :=
  h.consequence (fun _ h => h) (fun _ _ h => h.landed) fun _ _ h => h.landed

theorem lands_bind {c : Code Error (Tick σ w L (Logged D)) α}
    {f : α → Code Error (Tick σ w L (Logged D)) β}
    (hc : Keeps (Underway closed) (c.watch (seen transcribe))) (hf : ∀ a, Lands closed i (f a)) :
    Lands closed i (c >>= f) :=
  Triple.watch_bind (R := fun _ => Underway closed)
    (hc.consequence (fun _ h => h) (fun _ _ h => h) fun _ _ h => h.landed) hf

/-- A handler that starts nothing, as a whole tick. -/
theorem lands_andNone {c : Code Error (Tick σ w L (Logged D)) α} (hc : Lands closed i c) :
    Lands closed i (do let _ ← c; pure BulkAction.none) :=
  Triple.watch_bind hc fun _ _ h => h

/-- What keeps the machine from being terminal and the transcript up to date. -/
theorem keeps_underway {c : Code Error (Tick σ w L (Logged D)) α}
    (hself : Keeps (fun s => closed s.1 = false) c)
    (hbus : Keeps (fun x => Synced (line x)) (c.watch (seen transcribe))) :
    Keeps (Underway closed) (c.watch (seen transcribe)) := fun x h =>
  wp_mono (wp_and (hbus x h.1) (hself.watch x h.2)) (fun _ _ h => h) fun _ _ h => h

theorem keeps_underway_onBus {c : Code Error (Transceiver L (Logged D)) α}
    (h : Keeps Synced (c.watch transcribe)) :
    Keeps (Underway (w := w) closed) ((onBus c).watch (seen transcribe)) :=
  keeps_underway (keeps_self_onBus (T := fun t => closed t = false) c) (keeps_bus h)

theorem keeps_underway_modifySelf {f : σ → σ} (hf : ∀ t, closed t = false → closed (f t) = false) :
    Keeps (Underway (w := w) (L := L) (D := D) closed)
      ((modifySelf f).watch (seen transcribe)) :=
  keeps_underway (Keeps.always fun _ h => hf _ h) (keeps_bus_modifySelf f)

theorem keeps_underway_self :
    Keeps (Underway (w := w) (L := L) (D := D) closed) (self.watch (seen transcribe)) :=
  keeps_underway (Keeps.always fun _ h => h) keeps_bus_self

theorem keeps_underway_onTx (p : Prog (SpscRing w) α) :
    Keeps (Underway (L := L) (D := D) closed) ((onTx p).watch (seen transcribe)) :=
  keeps_underway (keeps_self_onTx (T := fun t => closed t = false) p) (keeps_bus_onTx p)

theorem keeps_underway_onRx (p : Prog (SpscRing w) α) :
    Keeps (Underway (L := L) (D := D) closed) ((onRx p).watch (seen transcribe)) :=
  keeps_underway (keeps_self_onRx (T := fun t => closed t = false) p) (keeps_bus_onRx p)

/-- Moving data is not an end. -/
theorem keeps_underway_move {c : Code Error (Tick σ w L (Logged D)) BulkAction}
    (hself : Keeps (fun s => closed s.1 = false) c)
    (hbus : Accounts transcribe Synced (fun _ _ _ => Synced) c) :
    Keeps (Underway closed) (c.watch (seen transcribe)) :=
  keeps_underway hself fun x h =>
    wp_mono (hbus x h) (fun a _ h => by cases a <;> exact h) fun _ _ h => h

theorem lands_orElse {c d : Code Error (Tick σ w L (Logged D)) BulkAction}
    (hc : Keeps (Underway closed) (c.watch (seen transcribe))) (hd : Lands closed i d) :
    Lands closed i (do
      match ← c with
      | .started kind pointer len => pure (.started kind pointer len)
      | .none => d) := by
  refine lands_bind hc fun a => ?_
  cases a with
  | none => exact hd
  | started kind pointer len => exact fun _ h => h.landed

/-- The step that makes the machine terminal. -/
theorem lands_confirmed (f : σ → σ) :
    Triple (Confirmed (w := w) (L := L) (D := D) closed i)
      ((modifySelf f).watch (seen transcribe)) (fun _ => Landed closed i)
      fun _ => Landed closed i := by
  rintro ⟨s, t⟩ h
  rw [modifySelf, wp_watch_store, Observer.comap_note, Observer.note_self]
  exact ⟨h.underway.1, fun _ => h.1.bursts⟩

end Lands

theorem SocketStatusRegister.ofByte_eq_closed {v : UInt8} (h : ofByte v = .closed) :
    v = 0x00 := by
  have hall : ∀ n : Fin 256, ofByte (UInt8.ofFin n) = .closed → n = 0 := by decide +kernel
  exact UInt8.toFin_inj.mp (hall v.toFin h)

variable [SpiDmaDevice D]

section Bus

variable {closed : σ → Bool} {i : Fin 8}

theorem serves_synced (block : BlockAddress) :
    Serves (transcribe (L := L) (D := D)) block Synced fun _ _ _ => Synced :=
  serves_written (fun _ _ => heeds_true _ _) fun _ _ => heeds_true _ _

/-- The chip's answer to a status read, as the driver decodes it. -/
theorem wp_readStatus_closed {x : Transceiver L (Logged D) × Transcript} (h : Synced x) :
    wp ((readStatus (socketBlock i)).watch transcribe)
      (fun status x => Synced x ∧ (status = .closed → ClosedLast i x.2.bursts))
      (fun _ => Synced) x := by
  obtain ⟨cell, t⟩ := x
  rw [readStatus, wp_watch_map, readU8, wp_watch_map]
  refine wp_mono (wp_written_read h (by decide) (heeds_true _ _)) ?_ fun _ _ h => h
  rintro data x ⟨hx, hlen, b, hb, hreturns⟩
  refine ⟨hx, fun hclosed => ?_⟩
  obtain ⟨v, rfl⟩ := List.length_eq_one_iff.mp hlen
  have hv := SocketStatusRegister.ofByte_eq_closed hclosed
  have hdecode : UInt8.ofNat (BigEndian.decode [v]) = v := by simp [BigEndian.decode]
  rw [hdecode] at hv
  rw [hv] at hreturns
  rw [hb]
  exact closedLast_of_returns hreturns

/-- A status read, and what the handler makes of the answer. -/
theorem lands_readStatus {f : SocketStatusRegister → Code Error (Tick σ w L (Logged D)) α}
    (hclosed : Triple (Confirmed closed i) ((f .closed).watch (seen transcribe))
      (fun _ => Landed closed i) fun _ => Landed closed i)
    (hf : ∀ status, status ≠ .closed → Lands closed i (f status)) :
    Lands closed i (onBus (readStatus (socketBlock i)) >>= f) := by
  rintro ⟨s, t⟩ h
  have hread : wp ((onBus (readStatus (socketBlock i))).watch (seen transcribe))
      (fun status x => Underway closed x ∧ (status = .closed → ClosedLast i x.2.bursts))
      (fun _ => Underway closed) (s, t) := by
    rw [onBus, wp_watch_zoom transcribe fun _ _ _ => rfl]
    exact wp_mono (wp_readStatus_closed h.1) (fun _ _ hx => ⟨⟨hx.1, h.2⟩, hx.2⟩)
      fun _ _ hx => ⟨hx, h.2⟩
  rw [wp_watch_bind]
  refine wp_mono hread ?_ fun _ _ h => h.landed
  rintro status x ⟨hx, hlast⟩
  by_cases hst : status = .closed
  · subst hst
    exact hclosed x ⟨⟨hx.1.synced, hlast rfl, trivial⟩, hx.2⟩
  · exact hf status hst x hx

/-- Acknowledging an interrupt leaves the closed read the last. -/
theorem keeps_confirmed_clearInterrupts (mask : SocketInterrupt) :
    Keeps (Confirmed (w := w) closed i)
      ((onBus (clearInterrupts (socketBlock i) mask)).watch (seen (transcribe (L := L) (D := D)))) := by
  have hbus : Keeps (Written (ClosedLast i) fun _ => True)
      ((clearInterrupts (socketBlock i) mask).watch (transcribe (L := L) (D := D))) :=
    keeps_written_write (by simp) (ClosedLast.heeds nofun fun _ ha => by
      have hne : SN_IRCLR ≠ SN_CR := by decide
      exact hne (congrArg Address.address ha))
  exact fun x h => wp_mono (wp_and (keeps_bus hbus x h.1)
    ((keeps_self_onBus (T := fun t => closed t = false) _).watch x h.2))
    (fun _ _ h => h) fun _ _ h => h

end Bus

/-! ## TCP -/

namespace TcpSocketState

variable {i : Fin 8}

theorem keeps_self_flushSync {T : TcpSocketState → Prop} (block : BlockAddress) :
    Keeps (fun s : Tick TcpSocketState w L D => T s.1) (flushSync block) := by
  have hloop : ∀ toSend fuel pointer staged,
      Keeps (fun s : Tick TcpSocketState w L D => T s.1)
        (flushLoop block toSend fuel pointer staged) := by
    intro toSend fuel
    induction fuel with
    | zero => exact fun _ _ => Keeps.pure _
    | succ fuel ih =>
      intro pointer staged
      unfold flushLoop
      split
      · refine (keeps_self_onTx _).bind fun got => ?_
        split
        · exact Keeps.pure _
        · exact (keeps_self_onBus _).bind fun _ => ih _ _
      · exact Keeps.pure _
  refine (keeps_self_onTx _).bind fun pending => ?_
  split
  · exact Keeps.pure _
  refine (keeps_self_onBus _).bind fun free => ?_
  dsimp only
  split
  · exact Keeps.pure _
  refine (keeps_self_onBus _).bind fun pointer => (hloop _ _ _ _).bind fun pointer => ?_
  exact (keeps_self_onBus _).bind fun _ => keeps_self_onBus _

theorem keeps_underway_handleClose :
    Keeps (Underway isClosed)
      ((handleClose (w := w) (socketBlock i)).watch (seen (transcribe (L := L) (D := D)))) := by
  refine keeps_underway ?_ (keeps_bus_handleClose (serves_synced _))
  refine (Keeps.always fun _ h => h).bind fun _ => (Keeps.always fun _ h => h).bind fun t => ?_
  have hclosing : Keeps (fun s : Tick TcpSocketState w L (Logged D) => s.1.isClosed = false)
      (modifySelf (withStatus .closing)) := Keeps.always fun _ _ => rfl
  cases t.status with
  | closed | error | timeout | closingDueToError | closingDueToTimeout | closing =>
    exact Keeps.pure _
  | established =>
    refine (keeps_self_flushSync (T := fun t : TcpSocketState => t.isClosed = false) _).bind fun _ => ?_
    exact (keeps_self_onBus (T := fun t : TcpSocketState => t.isClosed = false) _).bind fun _ => hclosing
  | init | opening | connecting | listening =>
    exact (keeps_self_onBus (T := fun t : TcpSocketState => t.isClosed = false) _).bind fun _ => hclosing

/-- The bus of a tick of socket `i`. -/
theorem quiet_synced (i : Fin 8) :
    Quiet (transcribe (L := L) (D := D)) (socketBlock i) .tcp4 Synced :=
  (serves_synced _).quiet .tcp4

theorem lands_unexpectedStatus : Lands (w := w) (L := L) (D := D) isClosed i
    (unexpectedStatus (α := α) (socketBlock i)) :=
  lands_bind (keeps_underway_onBus ((quiet_synced i).sendSockCommand (by decide))) fun _ =>
    lands_bind (keeps_underway_modifySelf fun _ _ => rfl) fun _ _ h => h.landed

theorem keeps_underway_handleInit :
    Keeps (Underway isClosed)
      ((handleInit (w := w) (socketBlock i)).watch (seen (transcribe (L := L) (D := D)))) := by
  have hq := quiet_synced (L := L) (D := D) i
  refine (keeps_underway_onBus hq.initSocket).watch_bind fun _ => ?_
  refine keeps_underway_self.watch_bind fun t => ?_
  refine (keeps_underway_onBus (hq.setSrcPort _)).watch_bind fun _ => ?_
  refine (keeps_underway_onBus (hq.sendSockCommand (by decide))).watch_bind fun _ => ?_
  exact keeps_underway_modifySelf fun _ _ => rfl

theorem lands_handleOpening :
    Lands (w := w) (L := L) (D := D) isClosed i (handleOpening (socketBlock i)) := by
  have hq := quiet_synced (L := L) (D := D) i
  refine lands_bind (keeps_underway_onBus hq.isCommandPending) fun pending => ?_
  cases pending with
  | true => exact fun _ h => h.landed
  | false =>
    refine lands_readStatus (fun _ h => h.underway.landed) fun status hst => ?_
    cases status with
    | init =>
      refine lands_of_keeps (keeps_underway_self.watch_bind fun t => ?_)
      cases t.mode with
      | connect dstAddr dstPort srcPort =>
        refine (keeps_underway_onBus (hq.setIpv4DstAddr _)).watch_bind fun _ => ?_
        refine (keeps_underway_onBus (hq.setDstPort _)).watch_bind fun _ => ?_
        refine (keeps_underway_onBus (hq.sendSockCommand (by decide))).watch_bind fun _ => ?_
        exact keeps_underway_modifySelf fun _ _ => rfl
      | listen srcPort =>
        refine (keeps_underway_onBus (hq.sendSockCommand (by decide))).watch_bind fun _ => ?_
        exact keeps_underway_modifySelf fun _ _ => rfl
    | closed => exact absurd rfl hst
    | _ => exact lands_unexpectedStatus

theorem lands_handleConnecting :
    Lands (w := w) (L := L) (D := D) isClosed i (handleConnecting (socketBlock i)) := by
  have hq := quiet_synced (L := L) (D := D) i
  refine lands_bind (keeps_underway_onBus hq.isCommandPending) fun pending => ?_
  cases pending with
  | true => exact fun _ h => h.landed
  | false =>
    refine lands_bind (keeps_underway_onBus hq.getInterrupts) fun interrupts => ?_
    split
    · refine lands_of_keeps ((keeps_underway_onBus (hq.clearInterrupts _)).watch_bind fun _ => ?_)
      refine (keeps_underway_onBus (hq.sendSockCommand (by decide))).watch_bind fun _ => ?_
      exact keeps_underway_modifySelf fun _ _ => rfl
    · refine lands_readStatus (lands_confirmed _) fun status hst => ?_
      cases status with
      | established =>
        refine lands_of_keeps ((keeps_underway_modifySelf fun _ _ => rfl).watch_bind fun _ => ?_)
        exact keeps_underway_onBus (hq.clearInterrupts _)
      | synsent | init => exact fun _ h => h.landed
      | closed => exact absurd rfl hst
      | _ => exact lands_unexpectedStatus

theorem lands_handleListening :
    Lands (w := w) (L := L) (D := D) isClosed i (handleListening (socketBlock i)) := by
  have hq := quiet_synced (L := L) (D := D) i
  refine lands_bind (keeps_underway_onBus hq.isCommandPending) fun pending => ?_
  cases pending with
  | true => exact fun _ h => h.landed
  | false =>
    refine lands_readStatus ?_ fun status hst => ?_
    · -- the timeout is acknowledged between the read and the new status
      exact Triple.watch_bind (R := fun _ => Confirmed isClosed i)
        ((keeps_confirmed_clearInterrupts _).consequence (fun _ h => h) (fun _ _ h => h)
          fun _ _ h => h.underway.landed) fun _ => lands_confirmed _
    · cases status with
      | listen | synrecv => exact fun _ h => h.landed
      | established | closeWait =>
        refine lands_of_keeps ((keeps_underway_modifySelf fun _ _ => rfl).watch_bind fun _ => ?_)
        exact keeps_underway_onBus (hq.clearInterrupts _)
      | closed => exact absurd rfl hst
      | _ => exact lands_unexpectedStatus

theorem lands_handleEstablished :
    Lands (w := w) (L := L) (D := D) isClosed i (handleEstablished (socketBlock i)) := by
  have hq := quiet_synced (L := L) (D := D) i
  have hreceive : Keeps (Underway isClosed)
      ((receive (w := w) (socketBlock i)).watch (seen (transcribe (L := L) (D := D)))) :=
    keeps_underway_move (keeps_self_receive (T := fun t => t.isClosed = false))
      (accounts_receive (serves_synced _))
  have htransmit : Keeps (Underway isClosed)
      ((transmit (w := w) (socketBlock i)).watch (seen (transcribe (L := L) (D := D)))) :=
    keeps_underway_move (keeps_self_transmit (T := fun t => t.isClosed = false))
      (accounts_transmit (serves_synced _))
  refine lands_bind (keeps_underway_onBus hq.getInterrupts) fun interrupts => ?_
  split
  · refine lands_bind (keeps_underway_onBus (hq.clearInterrupts _)) fun _ => ?_
    refine lands_bind (keeps_underway_onBus (hq.sendSockCommand (by decide))) fun _ => ?_
    exact lands_andNone (lands_of_keeps (keeps_underway_modifySelf fun _ _ => rfl))
  refine lands_bind ?_ fun _ => lands_readStatus ?_ fun status hst => ?_
  · split
    · exact keeps_underway_onBus (hq.clearInterrupts _)
    · exact Keeps.watch_pure _
  · exact Triple.watch_bind (lands_confirmed _) fun _ _ h => h
  cases status with
  | established => exact lands_orElse hreceive (lands_of_keeps htransmit)
  | closeWait =>
    refine lands_orElse hreceive (lands_orElse htransmit ?_)
    refine lands_bind (keeps_underway_onTx _) fun txLen => ?_
    refine lands_bind (keeps_underway_onRx _) fun rxLen => ?_
    split
    · refine lands_bind (keeps_underway_onBus hq.getRxReceivedSize) fun size => ?_
      split
      · refine lands_bind (keeps_underway_onBus (hq.sendSockCommand (by decide))) fun _ => ?_
        exact lands_andNone (lands_of_keeps (keeps_underway_modifySelf fun _ _ => rfl))
      · exact fun _ h => h.landed
    · exact fun _ h => h.landed
  | closed => exact absurd rfl hst
  | _ => exact lands_unexpectedStatus

theorem lands_handleClosing :
    Lands (w := w) (L := L) (D := D) isClosed i (handleClosing (socketBlock i)) := by
  refine lands_readStatus ?_ fun status hst => ?_
  · rw [if_pos rfl]
    exact lands_confirmed _
  · rw [if_neg hst]
    exact fun _ h => h.landed

/-- A tick of a machine that is terminal does nothing. -/
theorem keeps_landed_dispatch {t : TcpSocketState} (ht : t.isClosed = true) {io : Io w L (Logged D)}
    {tr : Transcript} (h : Landed isClosed i ((t, io), tr)) :
    wp ((dispatch (socketBlock i) t).watch (seen transcribe)) (fun _ => Landed isClosed i)
      (fun _ => Landed isClosed i) ((t, io), tr) := by
  obtain ⟨mode, status, pendingError, closeRequested⟩ := t
  cases status <;> simp [isClosed] at ht <;>
  · unfold dispatch
    split
    · rw [wp_watch_bind, handleClose, wp_watch_bind, modifySelf, wp_watch_store, wp_watch_bind,
        self, wp_watch_load]
      simp only [Observer.comap_note, Observer.note_self]
      exact ⟨h.1, h.2⟩
    · exact h

/-- A whole tick. -/
theorem triple_landed_run :
    Triple (Landed isClosed i) ((run (w := w) (socketBlock i)).watch
        (seen (transcribe (L := L) (D := D))))
      (fun _ => Landed isClosed i) fun _ => Landed isClosed i := by
  rintro ⟨⟨t, io⟩, tr⟩ h
  rw [run, wp_watch_bind, self, wp_watch_load]
  refine triple_stored (P := fun x => x = ((t, io), tr)) (E := Landed isClosed i) ?_
    (fun _ _ _ h => h) _ rfl
  rintro _ rfl
  cases ht : t.isClosed with
  | true => exact keeps_landed_dispatch ht h
  | false =>
    have hu : Underway isClosed ((t, io), tr) := ⟨h.1, ht⟩
    refine (?_ : Lands isClosed i (dispatch (socketBlock i) t)) _ hu
    unfold dispatch
    split
    · exact lands_andNone (lands_of_keeps keeps_underway_handleClose)
    · cases t.status with
      | init => exact lands_andNone (lands_of_keeps keeps_underway_handleInit)
      | opening => exact lands_andNone lands_handleOpening
      | connecting => exact lands_andNone lands_handleConnecting
      | established => exact lands_handleEstablished
      | listening => exact lands_andNone lands_handleListening
      | closingDueToError | closingDueToTimeout | closing => exact lands_andNone lands_handleClosing
      | timeout | closed | error => exact fun _ h => h.landed

end TcpSocketState

/-! ## UDP -/

namespace UdpSocketState

variable {i : Fin 8}

theorem keeps_underway_handleClose :
    Keeps (Underway isClosed)
      ((handleClose (w := w) (socketBlock i)).watch (seen (transcribe (L := L) (D := D)))) := by
  have hq := (serves_synced (L := L) (D := D) (socketBlock i)).quiet .udp4
  have hflag : Keeps (Underway (w := w) (L := L) (D := D) isClosed)
      ((modifySelf fun u => { u with closeRequested := false }).watch (seen transcribe)) :=
    keeps_underway_modifySelf fun _ h => h
  refine hflag.watch_bind fun _ => ?_
  refine keeps_underway_self.watch_bind fun u => ?_
  cases u.status with
  | closed | error | timeout | closingDueToError | closingDueToTimeout | closing =>
    exact Keeps.watch_pure _
  | established | init | opening | connecting | listening =>
    refine (keeps_underway_onBus (hq.sendSockCommand (by decide))).watch_bind fun _ => ?_
    exact keeps_underway_modifySelf fun _ _ => rfl

theorem keeps_underway_handleInit :
    Keeps (Underway isClosed)
      ((handleInit (w := w) (socketBlock i)).watch (seen (transcribe (L := L) (D := D)))) := by
  have hq := (serves_synced (L := L) (D := D) (socketBlock i)).quiet .udp4
  refine (keeps_underway_onBus hq.initSocket).watch_bind fun _ => ?_
  refine keeps_underway_self.watch_bind fun u => ?_
  refine (keeps_underway_onBus (hq.setSrcPort _)).watch_bind fun _ => ?_
  refine (keeps_underway_onBus (hq.sendSockCommand (by decide))).watch_bind fun _ => ?_
  exact keeps_underway_modifySelf fun _ _ => rfl

theorem lands_handleOpening :
    Lands (w := w) (L := L) (D := D) isClosed i (handleOpening (socketBlock i)) := by
  have hq := (serves_synced (L := L) (D := D) (socketBlock i)).quiet .udp4
  refine lands_bind (keeps_underway_onBus hq.isCommandPending) fun pending => ?_
  cases pending with
  | true => exact fun _ h => h.landed
  | false =>
    refine lands_readStatus (fun _ h => h.underway.landed) fun status hst => ?_
    cases status with
    | udp => exact lands_of_keeps (keeps_underway_modifySelf fun _ _ => rfl)
    | closed => exact absurd rfl hst
    | _ =>
      refine lands_bind (keeps_underway_onBus (hq.sendSockCommand (by decide))) fun _ => ?_
      refine lands_bind (keeps_underway_modifySelf fun _ _ => rfl) fun _ => ?_
      exact fun _ h => h.landed

theorem lands_handleClosing :
    Lands (w := w) (L := L) (D := D) isClosed i (handleClosing (socketBlock i)) := by
  refine lands_readStatus ?_ fun status hst => ?_
  · rw [if_pos rfl]
    exact lands_confirmed _
  · rw [if_neg hst]
    exact fun _ h => h.landed

/-- A tick of a machine that is terminal does nothing. -/
theorem keeps_landed_dispatch {u : UdpSocketState} (hu : u.isClosed = true) {io : Io w L (Logged D)}
    {tr : Transcript} (h : Landed isClosed i ((u, io), tr)) :
    wp ((dispatch (socketBlock i) u).watch (seen transcribe)) (fun _ => Landed isClosed i)
      (fun _ => Landed isClosed i) ((u, io), tr) := by
  obtain ⟨srcPort, status, pendingError, closeRequested⟩ := u
  cases status <;> simp [isClosed] at hu <;>
  · unfold dispatch
    split
    · rw [wp_watch_bind, handleClose, wp_watch_bind, modifySelf, wp_watch_store, wp_watch_bind,
        self, wp_watch_load]
      simp only [Observer.comap_note, Observer.note_self]
      exact ⟨h.1, h.2⟩
    · exact h

/-- A whole tick. -/
theorem triple_landed_run :
    Triple (Landed isClosed i) ((run (w := w) (socketBlock i)).watch
        (seen (transcribe (L := L) (D := D))))
      (fun _ => Landed isClosed i) fun _ => Landed isClosed i := by
  rintro ⟨⟨u, io⟩, tr⟩ h
  rw [run, wp_watch_bind, self, wp_watch_load]
  refine triple_stored (P := fun x => x = ((u, io), tr)) (E := Landed isClosed i) ?_
    (fun _ _ _ h => h) _ rfl
  rintro _ rfl
  cases hu : u.isClosed with
  | true => exact keeps_landed_dispatch hu h
  | false =>
    have hw : Underway isClosed ((u, io), tr) := ⟨h.1, hu⟩
    refine (?_ : Lands isClosed i (dispatch (socketBlock i) u)) _ hw
    unfold dispatch
    split
    · exact lands_andNone (lands_of_keeps keeps_underway_handleClose)
    · cases u.status with
      | init => exact lands_andNone (lands_of_keeps keeps_underway_handleInit)
      | opening => exact lands_andNone lands_handleOpening
      | established =>
        exact lands_of_keeps (keeps_underway_move
          (keeps_self_handleEstablished (T := fun u => u.isClosed = false))
          (accounts_handleEstablished (serves_synced _)))
      | closingDueToError | closingDueToTimeout | closing => exact lands_andNone lands_handleClosing
      | connecting | listening | timeout | closed | error => exact fun _ h => h.landed

end UdpSocketState

/-! ## A slot -/

namespace SocketBackend

/-- An occupied slot whose machine is terminal. -/
def isDone (b : SocketBackend) : Bool := !b.isFree && b.isTerminal

/-- If a slot is done after its tick, or was freed by it, its socket is closed. -/
theorem run_landed {i : Fin 8} {b : SocketBackend} (hblock : b.block = socketBlock i)
    {io : Io w L (Logged D)} {t : Transcript} (hs : Synced (io.trans, t))
    (hdone : b.isDone = true → ClosedLast i t.bursts) :
    match (b.run.watch (transcribe.comap Io.trans)).run (io, t) with
    | ((_, b'), _, t') => (b'.isDone = true → ClosedLast i t'.bursts) ∧
        (b.isFree = false → b'.isFree = true → ClosedLast i t'.bursts) := by
  have hreap : ∀ (b : SocketBackend) (bs : List Burst),
      (b.isTerminal = true → ClosedLast i bs) →
      (b.reap.isDone = true → ClosedLast i bs) ∧
        (b.isFree = false → b.reap.isFree = true → ClosedLast i bs) := fun b bs h => by
    unfold reap
    split
    next hr => exact ⟨nofun, fun _ _ => h (Bool.and_eq_true .. ▸ hr).2⟩
    · refine ⟨fun hd => h ?_, fun hf hf' => by rw [hf] at hf'; cases hf'⟩
      simp only [isDone, Bool.and_eq_true] at hd
      exact hd.2
  unfold run
  cases hst : b.state with
  | free =>
    have hfree : b.isFree = true := by simp [isFree, hst]
    refine ⟨fun h => ?_, fun h => by rw [hfree] at h; cases h⟩
    have hr : b.reap.isFree = true := by
      unfold reap
      split
      · rfl
      · exact hfree
    simp [isDone, hr] at h
  | tcp tc =>
    have hl : Landed TcpSocketState.isClosed i ((tc, io), t) :=
      ⟨hs, fun h => hdone (by simp [isDone, isFree, isTerminal, hst, h])⟩
    have ht := run_watch_withLocal_wp (TcpSocketState.triple_landed_run _ hl)
    simp only [Prog.bind_eq, Prog.watch_bind, Prog.run_bind, Prog.pure_eq, Prog.watch, Prog.run_ret]
    rw [hblock]
    rcases hr : ((Prog.withLocal (ExceptT.run (TcpSocketState.run (socketBlock i))) tc).watch
      (transcribe.comap Io.trans)).run (io, t) with ⟨⟨e | a, tc'⟩, io', t'⟩ <;> rw [hr] at ht <;>
    · have h := hreap ⟨socketBlock i, .tcp tc', b.releaseRequested⟩ t'.bursts ht.2
      exact ⟨h.1, fun _ => h.2 rfl⟩
  | udp u =>
    have hl : Landed UdpSocketState.isClosed i ((u, io), t) :=
      ⟨hs, fun h => hdone (by simp [isDone, isFree, isTerminal, hst, h])⟩
    have hu := run_watch_withLocal_wp (UdpSocketState.triple_landed_run _ hl)
    simp only [Prog.bind_eq, Prog.watch_bind, Prog.run_bind, Prog.pure_eq, Prog.watch, Prog.run_ret]
    rw [hblock]
    rcases hr : ((Prog.withLocal (ExceptT.run (UdpSocketState.run (socketBlock i))) u).watch
      (transcribe.comap Io.trans)).run (io, t) with ⟨⟨e | a, u'⟩, io', t'⟩ <;> rw [hr] at hu <;>
    · have h := hreap ⟨socketBlock i, .udp u', b.releaseRequested⟩ t'.bursts hu.2
      exact ⟨h.1, fun _ => h.2 rfl⟩

end SocketBackend

end Wiznet
