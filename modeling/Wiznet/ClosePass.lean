import Wiznet.CloseTick
import Wiznet.LinkLoss
import Wiznet.Calls

/-! # A close request and one pass

A pass over the slots ticks each of them once, and a reset re-arms each of them
once. Either way the log of the bus shows what became of a request. -/

namespace Wiznet
open Resumption Resumption.Code

variable {w L : Nat} {D P α : Type}

/-! ## A slot -/

namespace SocketBackend

/-- A close is requested, under way or done. -/
def isClosing (b : SocketBackend) : Bool :=
  match b.state with
  | .free => false
  | .tcp t => t.closeRequested || t.status.isShutting
  | .udp u => u.closeRequested || u.status.isShutting

/-- A close is requested, and a tick would still have to act on it. -/
def closePending (b : SocketBackend) : Bool :=
  match b.state with
  | .free => false
  | .tcp t => t.closeRequested && !t.status.isShutting
  | .udp u => u.closeRequested && !u.status.isShutting

/-- `asked`: the application has asked for the close and not reconnected since. -/
structure CloseKept (asked : Bool) (b : SocketBackend) : Prop where
  asked : asked = true → b.isFree = true ∨ b.isClosing = true
  released : b.releaseRequested = true → b.isClosing = true

/-- The chunks that a close would flush fit the scratch. -/
def FlushFits (L : Nat) (b : SocketBackend) (rings : SocketRings w) : Prop :=
  ∀ t, b.state = .tcp t → t.status = .established →
    min 64 (rings.tx.tail - rings.tx.head).toNat ≤ L

/-- They do not fit behind their headers, and go apart from them. -/
def FlushParts (L : Nat) (b : SocketBackend) (rings : SocketRings w) : Prop :=
  ∃ t, b.state = .tcp t ∧ t.status = .established ∧
    L < HEADER + min 64 (rings.tx.tail - rings.tx.head).toNat

variable {asked : Bool} {b : SocketBackend}

theorem CloseKept.of_isClosing (h : b.isClosing = true) : CloseKept asked b :=
  ⟨fun _ => .inr h, fun _ => h⟩

theorem CloseKept.of_not_released (h : b.releaseRequested = false) : CloseKept false b := by
  refine ⟨nofun, fun hr => ?_⟩
  rw [h] at hr
  cases hr

/-- A slot with nothing requested. -/
theorem CloseKept.eq_false (h : CloseKept asked b) (hf : b.isFree = false)
    (hc : b.isClosing = false) : asked = false ∧ b.releaseRequested = false := by
  constructor
  · cases asked with
    | false => rfl
    | true => rcases h.asked rfl with h | h <;> simp_all
  · cases hr : b.releaseRequested with
    | false => rfl
    | true => simp_all [h.released hr]

theorem CloseKept.reap (h : CloseKept asked b) : CloseKept asked b.reap := by
  unfold SocketBackend.reap
  split
  · exact ⟨fun _ => .inl rfl, fun hr => by cases hr⟩
  · exact h

/-- Freed or re-armed by a reset: a request is lost unless the slot is pending
release. -/
theorem CloseKept.of_rearm (hs : asked = true → b.isFree = false → b.releaseRequested = true) :
    CloseKept asked b.rearm := by
  cases hr : b.releaseRequested with
  | true => rw [SocketBackend.rearm, hr]; exact ⟨fun _ => .inl rfl, fun hr => by cases hr⟩
  | false =>
    refine ⟨fun ha => .inl ?_, fun hr' => ?_⟩
    · cases hf : b.isFree with
      | false => rw [hs ha hf] at hr; cases hr
      | true => cases hst : b.state <;> simp_all [isFree, SocketBackend.rearm]
    · simp [SocketBackend.rearm, hr] at hr'

theorem rearm_rearm (b : SocketBackend) : b.rearm.rearm = b.rearm := by
  cases hr : b.releaseRequested with
  | true => simp [rearm, hr]
  | false => cases hst : b.state <;>
      simp [rearm, hr, hst, TcpSocketState.rearm, UdpSocketState.rearm]

@[simp] theorem rearm_block (b : SocketBackend) : b.rearm.block = b.block := by
  unfold rearm
  split <;> rfl

variable [SpiDmaDevice D] {before : List BusEntry}

/-- One tick of a slot: its request is kept, or a frame of the slot has failed. -/
theorem run_closeKept (before : List BusEntry) (hL : HEADER + 2 ≤ L) (hk : CloseKept asked b)
    (io : Io w L (Logged D))
    (hp : b.closePending = true → Quiescent before io.trans ∧ b.FlushFits L io.rings) :
    CloseKept asked (b.run.run io).1.2 ∨ b.closePending = true ∧
      Seen before (FailedOf b.block (b.FlushParts L io.rings)) (b.run.run io).2.trans := by
  unfold run
  cases hst : b.state with
  | free => exact .inl hk.reap
  | tcp t =>
    have hfree : b.isFree = false := by simp [isFree, hst]
    simp only [Prog.bind_eq, Prog.run_bind, Prog.pure_eq, Prog.run_ret]
    -- what the machine is left with decides what the slot is left with
    have hslot : ∀ t' : TcpSocketState, t'.Shutting →
        CloseKept asked { b with state := .tcp t' }.reap := fun t' ht =>
      (CloseKept.of_isClosing (by simp [isClosing, ht])).reap
    cases hs : t.status.isShutting with
    | true =>
      have ht := run_withLocal_wp (TcpSocketState.keeps_shutting_run b.block (t, io) hs)
      rcases hr : (Prog.withLocal (ExceptT.run (TcpSocketState.run b.block)) t).run io with
        ⟨⟨e | a, t'⟩, io'⟩ <;> rw [hr] at ht <;> exact .inl (hslot t' ht)
    | false =>
      cases hflag : t.closeRequested with
      | true =>
        have hpend : b.closePending = true := by simp [closePending, hst, hflag, hs]
        obtain ⟨hi, hroom⟩ := hp hpend
        have hparts (hest : t.status = .established)
            (h : L < HEADER + min 64 (io.rings.tx.tail - io.rings.tx.head).toNat) :
            b.FlushParts L io.rings := ⟨t, hst, hest, h⟩
        have ht := run_withLocal_wp (TcpSocketState.run_closes b.block hL
          (s := (t, io)) hflag hi fun hest => ⟨hroom t hst hest, hparts hest⟩)
        rcases hr : (Prog.withLocal (ExceptT.run (TcpSocketState.run b.block)) t).run io with
          ⟨⟨e | a, t'⟩, io'⟩ <;> rw [hr] at ht <;> exact ht.imp (hslot t') fun h => ⟨hpend, h⟩
      | false =>
        obtain ⟨rfl, hr⟩ := hk.eq_false hfree (by simp [isClosing, hst, hflag, hs])
        refine .inl (CloseKept.reap (CloseKept.of_not_released ?_))
        exact hr
  | udp u =>
    have hfree : b.isFree = false := by simp [isFree, hst]
    simp only [Prog.bind_eq, Prog.run_bind, Prog.pure_eq, Prog.run_ret]
    have hslot : ∀ u' : UdpSocketState, u'.Shutting →
        CloseKept asked { b with state := .udp u' }.reap := fun u' hu =>
      (CloseKept.of_isClosing (by simp [isClosing, hu])).reap
    cases hs : u.status.isShutting with
    | true =>
      have hu := run_withLocal_wp (UdpSocketState.keeps_shutting_run b.block (u, io) hs)
      rcases hr : (Prog.withLocal (ExceptT.run (UdpSocketState.run b.block)) u).run io with
        ⟨⟨e | a, u'⟩, io'⟩ <;> rw [hr] at hu <;> exact .inl (hslot u' hu)
    | false =>
      cases hflag : u.closeRequested with
      | true =>
        have hpend : b.closePending = true := by simp [closePending, hst, hflag, hs]
        obtain ⟨hi, -⟩ := hp hpend
        have hu := run_withLocal_wp (UdpSocketState.run_closes b.block
          (b.FlushParts L io.rings) hL (s := (u, io)) hflag hi)
        rcases hr : (Prog.withLocal (ExceptT.run (UdpSocketState.run b.block)) u).run io with
          ⟨⟨e | a, u'⟩, io'⟩ <;> rw [hr] at hu <;> exact hu.imp (hslot u') fun h => ⟨hpend, h⟩
      | false =>
        obtain ⟨rfl, hr⟩ := hk.eq_false hfree (by simp [isClosing, hst, hflag, hs])
        refine .inl (CloseKept.reap (CloseKept.of_not_released ?_))
        exact hr

end SocketBackend

/-! ## A pass over the slots -/

theorem OnDevice.seenBy {before : List BusEntry} {φ : BusEntry → Prop}
    {cell : Transceiver L (Logged D)} (hd : OnDevice (Since before) cell) (h : Seen before φ cell) :
    OnDevice (SeenBy before φ) cell := by
  cases cell with
  | pending => exact hd.elim
  | idle dev scratch => exact h
  | inFlight txn => exact h

theorem OnDevice.quiescent {before : List BusEntry} {cell : Transceiver L (Logged D)}
    (hd : OnDevice (Since before) cell) (hi : Held none cell) : Quiescent before cell := by
  obtain ⟨dev, scratch, rfl⟩ := hi
  obtain ⟨new, hnew⟩ := hd
  exact ⟨⟨dev, scratch, rfl⟩, new, hnew, fun _ _ => trivial⟩

namespace W6100

open SocketBackend

/-- The frame with which a reset is done with slot `i`: it is re-armed next. -/
def Rearms (i : Fin 8) (e : BusEntry) : Prop :=
  e.Accesses ⟨SN_IMR, (socketBlock i).reg⟩ true ∧ Answered e

/-- A failed frame of slot `i`, if a request was pending there. -/
def FailedSlot (pending : Bool) (i : Fin 8) (apart : Prop) (e : BusEntry) : Prop :=
  pending = true ∧ FailedOf (socketBlock i) apart e

variable {i : Fin 8} {asked pending : Bool} {before : List BusEntry} {apart : Prop}

/-- Slot `i` before its tick. -/
structure Attentive (i : Fin 8) (asked pending : Bool) (before : List BusEntry) (apart : Prop)
    (s : W6100 w L (Logged D) P) : Prop where
  log : OnDevice (Since before) s.device.value.transport
  block : (s.sockets i).backend.value.block = socketBlock i
  kept : CloseKept asked (s.sockets i).backend.value
  pending : (s.sockets i).backend.value.closePending = true → pending = true ∧
    Held none s.device.value.transport ∧
      (s.sockets i).backend.value.FlushFits L (s.sockets i).rings ∧
      ((s.sockets i).backend.value.FlushParts L (s.sockets i).rings → apart)

/-- What becomes of the request in slot `i`. -/
def Heeded (i : Fin 8) (asked pending : Bool) (before : List BusEntry) (apart : Prop)
    (s : W6100 w L (Logged D) P) : Prop :=
  CloseKept asked (s.sockets i).backend.value ∨
    OnDevice (SeenBy before (FailedSlot pending i apart)) s.device.value.transport

theorem onDevice_abort {I : D → Prop} {cell : Transceiver L D} (h : OnDevice I cell) :
    OnDevice I (abort.run cell).2 := by cases cell <;> exact h

variable [SpiDmaDevice D]

theorem keeps_onDevice_runSockets {I : D → Prop} (hI : DeviceInvariant I) (slots : List (Fin 8)) :
    Keeps (fun s : W6100 w L D P => OnDevice I s.device.value.transport) (runSockets slots) := by
  induction slots with
  | nil => exact Keeps.pure _
  | cons idx rest ih =>
    intro s hs
    refine wp_runSockets_cons (fun _ => ih s hs) fun result b io hr => ?_
    obtain ⟨hio, -⟩ := SocketBackend.run_accounts (s.sockets idx).backend.value
      (hI.serves _) ((ioLens idx).get s) hs
    rw [hr] at hio
    rcases result with (e | e) | (_ | ⟨kind, pointer, len⟩)
    · exact hio
    · exact ih _ hio
    · exact ih _ hio
    · exact keeps_setMarker (J := fun s : W6100 w L D P => OnDevice I s.device.value.transport)
        (fun _ _ h => h) _ _ hio

/-- A slot that is not on the list is left alone. -/
theorem keeps_socket_runSockets {x : Socket w} (slots : List (Fin 8)) (h : i ∉ slots) :
    Keeps (fun s : W6100 w L D P => s.sockets i = x) (runSockets slots) := by
  induction slots with
  | nil => exact Keeps.pure _
  | cons idx rest ih =>
    obtain ⟨hne, hrest⟩ : i ≠ idx ∧ i ∉ rest := by simpa using h
    intro s hs
    refine wp_runSockets_cons (fun _ => ih hrest s hs) fun result b io _ => ?_
    have ht : (ticked idx io b s).sockets i = x := (ticked_other hne).trans hs
    rcases result with (e | e) | (_ | ⟨kind, pointer, len⟩)
    · exact ht
    · exact ih hrest _ ht
    · exact ih hrest _ ht
    · exact keeps_setMarker (J := fun s : W6100 w L D P => s.sockets i = x) (fun _ _ h => h) _ _ ht

/-- A pass ticks each slot once: the request in slot `i` is kept, or a frame of
the slot has failed. -/
theorem triple_runSockets_heeded (hL : HEADER + 2 ≤ L) (slots : List (Fin 8)) (hn : slots.Nodup) :
    Triple (Attentive i asked pending before apart) (runSockets slots)
      (fun _ (s : W6100 w L (Logged D) P) => Heeded i asked pending before apart s)
      fun _ s => Heeded i asked pending before apart s := by
  induction slots with
  | nil => exact fun s hs => .inl hs.kept
  | cons idx rest ih =>
    obtain ⟨hi, hrest⟩ := List.nodup_cons.mp hn
    intro s hs
    refine wp_runSockets_cons (fun _ => ih hrest s hs) fun result b io hr => ?_
    by_cases hidx : i = idx
    · subst hidx
      -- its own tick: what the slot is left with stays, and so does the log
      have hlog : OnDevice (Since before) io.trans := by
        have h := (SocketBackend.run_accounts (s.sockets i).backend.value
          (deviceInvariant_since.serves _) ((ioLens i).get s) hs.log).1
        rw [hr] at h
        rcases result with e | (_ | ⟨kind, pointer, len⟩) <;> exact h
      have hkept := run_closeKept before hL hs.kept ((ioLens i).get s)
        fun hp => ⟨hs.log.quiescent (hs.pending hp).2.1, (hs.pending hp).2.2.1⟩
      rw [hr, hs.block] at hkept
      have hstays : ∀ {c : Code Error (W6100 w L (Logged D) P) Unit},
          Keeps (fun s => s.sockets i = ⟨⟨b, false⟩, io.rings⟩) c →
          Keeps (fun s => OnDevice (SeenBy before (FailedSlot pending i apart)) s.device.value.transport) c →
          wp c (fun _ => Heeded i asked pending before apart) (fun _ => Heeded i asked pending before apart)
            (ticked i io b s) := by
        intro c hc hf
        rcases hkept with hk | ⟨hp, new, hnew, e, he, hfail⟩
        · refine wp_mono (hc _ ticked_self) (fun _ s' h => .inl ?_) fun _ s' h => .inl ?_ <;>
          · rw [h]; exact hk
        · have hseen : Seen before (FailedSlot pending i apart) io.trans :=
            ⟨new, hnew, e, he, (hs.pending hp).1,
              hfail.imp_right fun h => ⟨(hs.pending hp).2.2.2 h.1, h.2⟩⟩
          exact wp_mono (hf _ (hlog.seenBy hseen)) (fun _ _ h => .inr h) fun _ _ h => .inr h
      have hloop := hstays (keeps_socket_runSockets rest hi)
        (keeps_onDevice_runSockets deviceInvariant_seenBy rest)
      rcases result with (e | e) | (_ | ⟨kind, pointer, len⟩)
      · exact hstays (Keeps.throw (Error.other e)) (Keeps.throw (Error.other e))
      · exact hloop
      · exact hloop
      · exact hstays (keeps_setMarker (fun _ _ h => h) _) (keeps_setMarker (fun _ _ h => h) _)
    · -- another slot: ours is as it was, and the bus is still idle if it has to be
      have hother := (ticked_other hidx : (ticked idx io b s).sockets i = s.sockets i)
      have hlog := (SocketBackend.run_accounts (s.sockets idx).backend.value
        (deviceInvariant_since.serves _) ((ioLens idx).get s) hs.log).1
      rw [hr] at hlog
      have hattentive : OnDevice (Since before) io.trans →
          (Held none s.device.value.transport → Held none io.trans) →
          Attentive i asked pending before apart (ticked idx io b s) := by
        intro hl hidle
        refine ⟨hl, by rw [hother]; exact hs.block, by rw [hother]; exact hs.kept, ?_⟩
        rw [hother]
        exact fun hp => ⟨(hs.pending hp).1, hidle (hs.pending hp).2.1, (hs.pending hp).2.2⟩
      have hidle := fun h : Held none s.device.value.transport =>
        (SocketBackend.run_accounts (s.sockets idx).backend.value (serves_held none _)
          ((ioLens idx).get s) h).1
      simp only [hr] at hidle
      rcases result with (e | e) | (_ | ⟨kind, pointer, len⟩)
      · exact .inl (hattentive hlog hidle).kept
      · exact ih hrest _ (hattentive hlog hidle)
      · exact ih hrest _ (hattentive hlog hidle)
      · refine keeps_setMarker (J := Heeded i asked pending before apart) (fun _ _ h => h) _ _ (.inl ?_)
        rw [hother]
        exact hs.kept

/-- `run` from where the log stood at `before`. -/
theorem run_keeps (hL : HEADER + 2 ≤ L) {s : W6100 w L (Logged D) P}
    (ha : Attentive i asked pending before apart s) :
    Heeded i asked pending before apart (exec run s).2 := by
  cases hbusy : s.device.busy with
  | true => rw [run, exec_holding_busy deviceCell _ hbusy]; exact .inl ha.kept
  | false =>
    refine wp_state (J := Heeded i asked pending before apart) ?_
    rw [run, wp_holding deviceCell _ hbusy]
    exact wp_mono (triple_runSockets_heeded hL _ (List.nodup_finRange 8)
      (setBusy deviceCell true s) ⟨ha.log, ha.block, ha.kept, ha.pending⟩)
      (fun _ _ h => h) fun _ _ h => h

/-! ## A reset -/

/-- A write that succeeds leaves its answered frame in the log. -/
theorem wp_write_seen {addr : Address} {data : List UInt8} (hL : HEADER + data.length ≤ L)
    {cell : Transceiver L (Logged D)} (hc : OnDevice (Since before) cell) :
    wp (write addr data)
      (fun _ => OnDevice (SeenBy before fun e => e.Accesses addr true ∧ Answered e))
      (fun _ => OnDevice (Since before)) cell := by
  have hkeep := deviceInvariant_since.keeps_write addr data cell hc
  cases cell with
  | pending => exact hc.elim
  | inFlight txn => exact hkeep
  | idle dev scratch =>
    have hw := wp_logged_write (⟨dev, scratch, rfl⟩ : Held none (.idle dev scratch)) addr hL
    obtain ⟨new, hnew⟩ := hc
    refine wp_mono (wp_and hw hkeep) ?_ fun _ _ h => h.2
    rintro _ cell' ⟨⟨-, e, he, ha, hl⟩, hk⟩
    refine hk.seenBy ⟨new ++ [e], ?_, e, by simp, he, ha⟩
    rw [hl, ← List.append_assoc, ← hnew]
    rfl

theorem triple_initSocket_seen (hL : HEADER + 2 ≤ L) (i : Fin 8) (mode : SocketProtocolMode) :
    Triple (OnDevice (Since before))
      (initSocket (socketBlock i) mode : Code Error (Transceiver L (Logged D)) Unit)
      (fun _ => OnDevice (SeenBy before (Rearms i))) fun _ => OnDevice (Since before) := by
  have hw := fun addr data => deviceInvariant_since.keeps_write (D := Logged D) (L := L)
    (I := Since before) addr data
  exact (hw _ _).andThen fun _ => (hw _ _).andThen fun _ => fun cell hc =>
    wp_write_seen (by simp; omega) hc

/-- What a reset has made of slot `i` so far: nothing, or it is re-armed and the
log shows it. -/
def ResetSlot (i : Fin 8) (before : List BusEntry) (b : SocketBackend)
    (s : W6100 w L (Logged D) P) : Prop :=
  ((s.sockets i).backend.value = b ∧ OnDevice (Since before) s.device.value.transport) ∨
    (s.sockets i).backend.value = b.rearm ∧
      OnDevice (SeenBy before (Rearms i)) s.device.value.transport

variable {b : SocketBackend}

theorem keeps_resetSlot_onBus {c : Code Error (Transceiver L (Logged D)) α}
    (hc : ∀ I : Logged D → Prop, DeviceInvariant I → Keeps (OnDevice I) c) :
    Keeps (ResetSlot (w := w) (P := P) i before b) (onBus c) := by
  rintro s (⟨hb, hd⟩ | ⟨hb, hd⟩)
  · rw [onBus, wp_zoom]
    exact wp_mono (hc _ deviceInvariant_since _ hd) (fun _ _ h => .inl ⟨hb, h⟩)
      fun _ _ h => .inl ⟨hb, h⟩
  · rw [onBus, wp_zoom]
    exact wp_mono (hc _ deviceInvariant_seenBy _ hd) (fun _ _ h => .inr ⟨hb, h⟩)
      fun _ _ h => .inr ⟨hb, h⟩

theorem keeps_onDevice_initSocket {I : D → Prop} (hI : DeviceInvariant I) (block : BlockAddress)
    (mode : SocketProtocolMode) : Keeps (OnDevice (L := L) I) (initSocket block mode) :=
  (hI.keeps_write _ _).bind fun _ => (hI.keeps_write _ _).bind fun _ => hI.keeps_write _ _

theorem keeps_resetSlot_resetSocket (hL : HEADER + 2 ≤ L) (hblock : b.block = socketBlock i)
    (j : Fin 8) : Keeps (ResetSlot (w := w) (L := L) (D := D) (P := P) i before b) (resetSocket j) := by
  refine keeps_holding (fun busy s h => ?_) ?_
  · by_cases hj : i = j
    · subst hj
      simpa [ResetSlot, setBusy, backendCell, socketLens, Socket.backendLens] using h
    · simpa [ResetSlot, setBusy, backendCell, socketLens, hj] using h
  by_cases hj : i = j
  · subst hj
    rintro s (⟨hb, hd⟩ | ⟨hb, hd⟩)
    · rw [wp_bind, wp_always, Prog.run_load, wp_bind, onBus, wp_zoom, hb, hblock]
      refine wp_mono (triple_initSocket_seen hL i .closed _ hd) (fun _ cell h => ?_)
        fun _ cell h => .inl ⟨hb, h⟩
      rw [wp_always]
      exact .inr ⟨by simp [backendCell, socketLens, Socket.backendLens, cellValue, transLens, hb], h⟩
    · rw [wp_bind, wp_always, Prog.run_load, wp_bind, onBus, wp_zoom]
      refine wp_mono (keeps_onDevice_initSocket deviceInvariant_seenBy _ _ _ hd)
        (fun _ cell h => ?_) fun _ cell h => .inr ⟨hb, h⟩
      rw [wp_always]
      refine .inr ⟨?_, h⟩
      simp [backendCell, socketLens, Socket.backendLens, cellValue, transLens, hb, rearm_rearm]
  · refine Keeps.bind (Keeps.always fun _ h => h) fun b' => ?_
    refine (keeps_resetSlot_onBus fun I hI => keeps_onDevice_initSocket hI _ _).bind fun _ => ?_
    refine Keeps.always fun s h => ?_
    simpa [ResetSlot, backendCell, socketLens, hj] using h

theorem keeps_resetSlot_resetSockets (hL : HEADER + 2 ≤ L) (hblock : b.block = socketBlock i)
    (slots : List (Fin 8)) :
    Keeps (ResetSlot (w := w) (L := L) (D := D) (P := P) i before b) (resetSockets slots) := by
  induction slots with
  | nil => exact Keeps.pure _
  | cons j rest ih => exact (keeps_resetSlot_resetSocket hL hblock j).bind fun _ => ih

variable [OutputPin P]

theorem keeps_resetSlot_reset (hL : HEADER + 2 ≤ L) (hblock : b.block = socketBlock i) :
    Keeps (ResetSlot (w := w) (P := P) (L := L) (D := D) i before b) reset := by
  refine keeps_holding (fun _ _ h => h) ?_
  have hw : ∀ addr value, Keeps (ResetSlot (w := w) (P := P) (L := L) (D := D) i before b)
      (onBus (writeU8 addr value)) := fun addr value =>
    keeps_resetSlot_onBus fun I hI => hI.keeps_write _ _
  have hread : ∀ addr, Keeps (ResetSlot (w := w) (P := P) (L := L) (D := D) i before b)
      (onBus (readU16 addr)) := fun addr =>
    keeps_resetSlot_onBus fun I hI => (hI.keeps_read _ _).map _
  have hdelay : Keeps (ResetSlot (w := w) (P := P) (L := L) (D := D) i before b)
      (onBus (delay 1000000)) := keeps_resetSlot_onBus fun I hI => hI.keeps_delay _
  have hpin : ∀ f : P → Bool × P, Keeps (ResetSlot (w := w) (L := L) (D := D) i before b)
      (onPin f) := fun f => Keeps.zoom_of_set fun _ _ h => h
  refine Keeps.bind (Keeps.always fun s h => ?_) fun _ => ?_
  · rw [Prog.run_zoom]
    exact h.imp (fun h => ⟨h.1, onDevice_abort h.2⟩) fun h => ⟨h.1, onDevice_abort h.2⟩
  refine (keeps_setMarker (fun _ _ h => h) _).bind fun _ => (hpin _).bind fun _ => ?_
  refine (keeps_resetDelay hdelay).bind fun _ => (hpin _).bind fun _ => ?_
  refine (keeps_awaitChip hdelay (hread _) _).bind fun _ => (hread _).bind fun version => ?_
  split
  · exact Keeps.throw _
  · refine (keeps_resetSlot_resetSockets hL hblock _).bind fun _ => ?_
    exact (hw _ _).bind fun _ => (hw _ _).bind fun _ => (hw _ _).bind fun _ => hw _ _

end W6100

end Wiznet
