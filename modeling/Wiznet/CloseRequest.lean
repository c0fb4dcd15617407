import Wiznet.ClosePass
import Wiznet.Scripted

/-! # Close requests

A request to close a socket is a flag in its slot. The tick that consumes the
flag can still fail, and a re-armed slot starts over without it, so a request
survives a run exactly as long as neither happens to it. -/

namespace Wiznet
open Resumption Resumption.Code SocketBackend

variable {w L : Nat} {D P : Type}

/-! ## What the application does -/

/-- Only the owner of a handle calls on it: the slot holds the handle's protocol
and the handle has not been dropped. -/
def HandleCall.Owned (b : SocketBackend) (c : HandleCall) : Prop :=
  b.releaseRequested = false ∧ match c with
    | .tcpRead _ | .tcpWrite _ | .tcpStatus | .tcpClose | .tcpReconnect | .tcpDrop =>
      ∃ t, b.state = .tcp t
    | .udpRecvFrom _ | .udpSendTo _ _ | .udpStatus | .udpClose | .udpReconnect | .udpDrop =>
      ∃ u, b.state = .udp u

/-- Whether a close is asked for after a handle call: from a `close` that returns
`Ok`, or a drop, until a `reconnect`. -/
def HandleCall.askedAfter (asked : Bool) (x : Socket w) : HandleCall → Bool
  | .tcpClose => asked || (exec TcpSocket.close x).1.toBool
  | .udpClose => asked || (exec UdpSocket.close x).1.toBool
  | .tcpDrop | .udpDrop => true
  | .tcpReconnect | .udpReconnect => false
  | _ => asked

/-! ## The handle operations -/

theorem exec_withBackend {α : Type} (f : SocketBackend → α × SocketBackend) {x : Socket w}
    (h : x.backend.busy = false) : exec (Socket.withBackend f) x =
      (.ok (f x.backend.value).1, { x with backend := ⟨(f x.backend.value).2, false⟩ }) := by
  rw [Socket.withBackend, holding, exec_bind, exec_zoom, exec_attempt]
  simp only [Socket.backendLens, h, Bool.false_eq_true, if_false]
  rw [exec_bind, exec_outcome, exec_always, Prog.run_zoom, Prog.run_atom]
  rfl

theorem keeps_reconnect_released :
    Keeps (fun x : Socket w => x.backend.value.releaseRequested = false) TcpSocket.reconnect ∧
      Keeps (fun x : Socket w => x.backend.value.releaseRequested = false)
        UdpSocket.reconnect := by
  constructor <;>
  · refine keeps_holding (fun _ _ h => h) (Keeps.bind (Keeps.always fun _ h => h) fun b => ?_)
    split
    · refine Keeps.bind (Keeps.always fun x h => ?_) fun _ => Keeps.always fun x h => ?_
      · rw [Prog.run_zoom, Prog.run_store]
        simp only [Lens.comp_set, Lens.comp_get, Socket.backendLens, cellValue, mapTcp, mapUdp]
        split <;> exact h
      · rw [Prog.run_zoom]
        exact h
    · exact Keeps.pure _

/-- A call by the owner of the handle keeps the request. -/
theorem HandleCall.closeKept {c : HandleCall} {x : Socket w} {asked : Bool}
    (hfree : x.backend.busy = false) (howned : c.Owned x.backend.value)
    (hk : CloseKept asked x.backend.value) :
    CloseKept (c.askedAfter asked x) (c.apply x).backend.value := by
  obtain ⟨hr, hstate⟩ := howned
  cases c with
  | tcpRead | tcpWrite | udpRecvFrom | udpSendTo =>
    simpa [HandleCall.apply, askedAfter, TcpSocket.read, TcpSocket.write, UdpSocket.recv, UdpSocket.send,
      Socket.ringsLens] using hk
  | tcpStatus =>
    obtain ⟨t, ht⟩ := hstate
    rw [HandleCall.apply, TcpSocket.status, exec_withBackend _ hfree]
    simpa only [ht, askedAfter] using hk
  | udpStatus =>
    obtain ⟨u, hu⟩ := hstate
    rw [HandleCall.apply, UdpSocket.status, exec_withBackend _ hfree]
    simpa only [hu, askedAfter] using hk
  | tcpClose =>
    obtain ⟨t, ht⟩ := hstate
    rw [HandleCall.apply, TcpSocket.close, exec_withBackend _ hfree]
    exact CloseKept.of_isClosing (by simp [mapTcp, ht, isClosing, TcpSocketState.requestClose])
  | udpClose =>
    obtain ⟨u, hu⟩ := hstate
    rw [HandleCall.apply, UdpSocket.close, exec_withBackend _ hfree]
    exact CloseKept.of_isClosing (by simp [mapUdp, hu, isClosing, UdpSocketState.requestClose])
  | tcpDrop =>
    obtain ⟨t, ht⟩ := hstate
    rw [HandleCall.apply, TcpSocket.drop, exec_bind, exec_outcome, exec_withBackend _ hfree]
    exact CloseKept.of_isClosing
      (by simp [requestRelease, ht, isClosing, TcpSocketState.requestClose])
  | udpDrop =>
    obtain ⟨u, hu⟩ := hstate
    rw [HandleCall.apply, UdpSocket.drop, exec_bind, exec_outcome, exec_withBackend _ hfree]
    exact CloseKept.of_isClosing
      (by simp [requestRelease, hu, isClosing, UdpSocketState.requestClose])
  | tcpReconnect => exact CloseKept.of_not_released (keeps_reconnect_released.1.exec hr)
  | udpReconnect => exact CloseKept.of_not_released (keeps_reconnect_released.2.exec hr)

/-! ## Claiming a slot -/

/-- Slot `i` is as it was, or a new handle owns it. -/
def Claimed (b b' : SocketBackend) : Prop :=
  b' = b ∨ b.isFree = true ∧ b'.isFree = false ∧ b'.releaseRequested = false

theorem keeps_claimed_tryOpen {b : SocketBackend} {state : BackendState} (hst : state ≠ .free)
    (rx tx : List UInt8) :
    Keeps (fun x : Socket w => Claimed b x.backend.value)
      (Socket.tryOpen (SocketBackend.claim state) rx tx) := by
  refine keeps_holding (fun _ _ h => h) fun x hx => ?_
  rw [wp_bind, wp_always, Prog.run_load]
  cases hf : x.backend.value.isFree with
  | false => exact hx
  | true =>
    simp only [if_true]
    rw [wp_bind, wp_always, Prog.run_zoom, wp_bind, wp_always, Prog.run_zoom, Prog.run_atom]
    have hb : b.isFree = true := by
      rcases hx with h | ⟨h, -⟩
      · rw [← h]; exact hf
      · exact h
    refine .inr ⟨hb, ?_, ?_⟩ <;>
      simp [Socket.backendLens, Socket.ringsLens, cellValue, SocketBackend.claim, hf]
    cases state <;> simp_all [isFree]

namespace W6100

section Kept

variable {i : Fin 8} {asked : Bool} {s : W6100 w L (Logged D) P}

theorem Settled.onDevice (h : Settled s) :
    OnDevice (Since (history s)) s.device.value.transport := by
  have hnp := h.truthful.notPending
  cases ht : s.device.value.transport with
  | pending => exact absurd ht hnp
  | idle dev scratch => exact ⟨[], by simp [history, busLog, ht]⟩
  | inFlight txn => exact ⟨[], by simp [history, busLog, ht]⟩

theorem Settled.block (h : Settled s) (i : Fin 8) :
    (s.sockets i).backend.value.block = socketBlock i := by
  obtain ⟨-, _, _, -, hi⟩ := h
  exact (hi.slots i).block

theorem closeKept_of_heeded (before : List BusEntry) (b : SocketBackend)
    {s' : W6100 w L (Logged D) P} {apart : Prop}
    (h : Heeded i asked b.closePending before apart s')
    (hs : b.closePending = true →
      ¬ Seen before (FailedOf (socketBlock i) apart) s'.device.value.transport) :
    CloseKept asked (s'.sockets i).backend.value := by
  refine h.resolve_right fun h => ?_
  obtain ⟨new, hnew, e, he, hp, hf⟩ := SeenBy.seen h
  exact hs hp ⟨new, hnew, e, he, hf⟩

theorem closeKept_of_resetSlot (before : List BusEntry) {s' : W6100 w L (Logged D) P}
    {b : SocketBackend} (hk : CloseKept asked b) (h : ResetSlot i before b s')
    (hs : asked = true → b.isFree = false → b.releaseRequested = false →
      ¬ Seen before (Rearms i) s'.device.value.transport) :
    CloseKept asked (s'.sockets i).backend.value := by
  rcases h with ⟨hb, -⟩ | ⟨hb, hseen⟩
  · rw [hb]; exact hk
  · rw [hb]
    refine CloseKept.of_rearm fun ha hf => ?_
    cases hr : b.releaseRequested with
    | true => rfl
    | false => exact absurd (SeenBy.seen hseen) (hs ha hf hr)

/-- What a pass of `service` leaves alone until it acts. -/
structure Untouched (i : Fin 8) (s s₁ : W6100 w L (Logged D) P) : Prop where
  socket : s₁.sockets i = s.sockets i
  log : OnDevice (Since (history s)) s₁.device.value.transport
  idle : Held none s.device.value.transport → Held none s₁.device.value.transport

theorem keeps_untouched_onBus [SpiDmaDevice D] {α : Type} {c : Code Error (Transceiver L (Logged D)) α}
    (hlog : Keeps (OnDevice (Since (history s))) c) (hidle : Keeps (Held none) c) :
    Keeps (Untouched i s) (onBus c) := by
  intro s₁ hs
  rw [onBus, wp_zoom]
  have hi : Held none s.device.value.transport →
      wp c (fun _ => Held none) (fun _ => Held none) s₁.device.value.transport :=
    fun h => hidle _ (hs.idle h)
  refine wp_iff.mpr ⟨fun a cell h => ?_, fun e cell h => ?_⟩
  · exact ⟨hs.socket, (wp_iff.mp (hlog _ hs.log)).1 _ _ h, fun h' => (wp_iff.mp (hi h')).1 _ _ h⟩
  · exact ⟨hs.socket, (wp_iff.mp (hlog _ hs.log)).2 _ _ h, fun h' => (wp_iff.mp (hi h')).2 _ _ h⟩

theorem keeps_backend_retireBulk [SpiDmaDevice D] (op : BulkOp) :
    Keeps (fun s' : W6100 w L (Logged D) P => (s'.sockets i).backend = (s.sockets i).backend)
      (retireBulk op) := by
  refine Keeps.bind (Keeps.outcome (keeps_holding (fun _ _ h => h) (Keeps.zoom_of_set ?_)))
    fun _ => keeps_setMarker (fun _ _ h => h) _
  intro io s' h
  by_cases hi : i = op.idx
  · subst hi
    simpa [ioLens, transLens, ringsLens, socketLens, Socket.ringsLens] using h
  · simpa [ioLens, transLens, ringsLens, socketLens, hi] using h

theorem keeps_claimed_openSlot {b : SocketBackend} {state : BackendState} (hst : state ≠ .free)
    (rx tx : List UInt8) (slots : List (Fin 8)) :
    Keeps (fun s : W6100 w L D P => Claimed b (s.sockets i).backend.value)
      (openSlot (SocketBackend.claim state) rx tx slots) := by
  induction slots with
  | nil => exact Keeps.throw _
  | cons j rest ih =>
    refine Keeps.bind (Keeps.outcome ?_) fun claimed => ?_
    · by_cases hj : i = j
      · subst hj
        exact Keeps.zoom (l := socketLens i) (keeps_claimed_tryOpen hst rx tx)
      · exact Keeps.zoom_of_set fun x s h => by simpa [socketLens, hj] using h
    · split
      · exact Keeps.pure _
      · exact ih

end Kept

variable [SpiDmaDevice D] [OutputPin P]

/-- Whether a close of slot `i` is asked for after a call; a slot that is claimed
belongs to a new handle. -/
def askedAfter (i : Fin 8) (asked : Bool) (s : W6100 w L D P) (c : Call) : Bool :=
  match c with
  | .handle j call => if j = i then call.askedAfter asked (s.sockets i) else asked
  | c =>
    if (s.sockets i).backend.value.isFree && !((s.apply c).sockets i).backend.value.isFree then false
    else asked

/-! ## What a run must meet -/

/-- What a pending request in slot `i` needs of a pass that drives the sockets:
the bus is idle, the chunks of the flush fit the scratch, and no frame of the
socket fails; where the chunks go apart from their headers, no frame at all. -/
structure Attended (i : Fin 8) (s s' : W6100 w L (Logged D) P) : Prop where
  idle : Held none s.device.value.transport
  room : (s.sockets i).backend.value.FlushFits L (s.sockets i).rings
  answered : ¬ Seen (history s) (FailedOf (socketBlock i)
    ((s.sockets i).backend.value.FlushParts L (s.sockets i).rings)) s'.device.value.transport

/-- What a request in slot `i` needs of a reset, unless the slot is pending
release: it stops before it gets to the slot. -/
def Spared (i : Fin 8) (asked : Bool) (s s' : W6100 w L (Logged D) P) : Prop :=
  asked = true → (s.sockets i).backend.value.isFree = false →
    (s.sockets i).backend.value.releaseRequested = false →
    ¬ Seen (history s) (Rearms i) s'.device.value.transport

/-- The condition on a pass of `service`. -/
def ServiceMeets (i : Fin 8) (asked : Bool) (s : W6100 w L (Logged D) P) : Prop :=
  match linkEvent s with
  | .idle => True
  | .lost _ => Spared i asked s (exec service s).2
  | .ran => (s.sockets i).backend.value.closePending = true → Attended i s (exec service s).2

/-- The condition on a call. -/
def Meets (i : Fin 8) (asked : Bool) (s : W6100 w L (Logged D) P) : Call → Prop
  | .service => ServiceMeets i asked s
  | .run => (s.sockets i).backend.value.closePending = true → Attended i s (exec run s).2
  | .dmaComplete => ∀ op, s.bulk.value = some op → ServiceMeets i asked (exec (retireBulk op) s).2
  | .reset => Spared i asked s (exec reset s).2
  | _ => True

/-- Runs of calls on a new driver whose scratch holds a register access, with
whether a close of slot `i` is asked for. -/
inductive CloseRun (i : Fin 8) : Bool → W6100 w L (Logged D) P → Prop
  | new (spi : Logged D) (rst : P) (scratch : DmaBuffers L)
      (mac : { bytes : List UInt8 // bytes.length = 6 }) (hL : HEADER + 2 ≤ L) :
      CloseRun i false (W6100.new spi rst scratch mac).2
  | call {asked : Bool} {s : W6100 w L (Logged D) P} (h : CloseRun i asked s) (c : Call)
      (howned : ∀ call, c = .handle i call → call.Owned (s.sockets i).backend.value)
      (hmeets : Meets i asked s c) : CloseRun i (askedAfter i asked s c) (s.apply c)

/-! ## Each call keeps the request -/

section Step

variable {i : Fin 8} {asked : Bool} {s : W6100 w L (Logged D) P}

theorem service_keeps (hL : HEADER + 2 ≤ L) (hlog : OnDevice (Since (history s))
      s.device.value.transport) (hblock : (s.sockets i).backend.value.block = socketBlock i)
    (hk : CloseKept asked (s.sockets i).backend.value) (hmeets : ServiceMeets i asked s) :
    CloseKept asked ((exec service s).2.sockets i).backend.value := by
  have hread := fun addr n => keeps_untouched_onBus (i := i)
    (deviceInvariant_since.keeps_read (L := L) (I := Since (history s)) addr n) (keeps_read addr n)
  have hwrite := fun addr data => keeps_untouched_onBus (i := i)
    (deviceInvariant_since.keeps_write (L := L) (I := Since (history s)) addr data)
    (keeps_write addr data)
  have hcases := service_cases (J := Untouched i s)
    (keeps_isLinkUp (fun _ _ h => ⟨h.socket, h.log, h.idle⟩) hread)
    (keeps_applyConfig (fun _ _ h => ⟨h.socket, h.log, h.idle⟩)
      (fun _ _ h => ⟨h.socket, h.log, h.idle⟩) (fun _ h => ⟨h.socket, h.log, h.idle⟩) hwrite)
    (fun _ _ _ h => ⟨h.socket, h.log, h.idle⟩) ⟨rfl, hlog, id⟩
  unfold ServiceMeets at hmeets
  rcases hcases with h | ⟨s₁, dirty, h, hev, hs'⟩ | ⟨s₁, h, hev, hs'⟩
  · rw [h.socket]; exact hk
  · rw [hev] at hmeets
    rw [hs']
    rw [Spared, hs'] at hmeets
    refine closeKept_of_resetSlot (history s) hk ?_ hmeets
    exact (keeps_resetSlot_reset hL hblock).exec (.inl ⟨by rw [h.socket], h.log⟩)
  · rw [hev] at hmeets
    rw [hs'] at hmeets ⊢
    have ha : Attentive i asked (s.sockets i).backend.value.closePending (history s)
        ((s.sockets i).backend.value.FlushParts L (s.sockets i).rings) s₁ := by
      refine ⟨h.log, by rw [h.socket]; exact hblock, by rw [h.socket]; exact hk, fun hp => ?_⟩
      rw [h.socket] at hp ⊢
      exact ⟨hp, h.idle (hmeets hp).idle, (hmeets hp).room, id⟩
    exact closeKept_of_heeded _ _ (run_keeps hL ha) fun hp => (hmeets hp).answered

/-- A call that says nothing about the request in slot `i`. -/
theorem closeKept_askedAfter {c : Call} (hc : ∀ j call, c ≠ .handle j call)
    (hk : CloseKept asked ((s.apply c).sockets i).backend.value) :
    CloseKept (askedAfter i asked s c) ((s.apply c).sockets i).backend.value := by
  have hasked : askedAfter i asked s c = asked ∨ askedAfter i asked s c = false := by
    cases c with
    | handle j call => exact absurd rfl (hc j call)
    | _ =>
      simp only [askedAfter]
      split
      · exact .inr rfl
      · exact .inl rfl
  rcases hasked with h | h
  · rw [h]; exact hk
  · rw [h]; exact ⟨nofun, hk.released⟩

/-- A slot that is claimed starts without a request. -/
theorem closeKept_of_claimed {c : Call} (hc : ∀ j call, c ≠ .handle j call)
    (hk : CloseKept asked (s.sockets i).backend.value)
    (h : Claimed (s.sockets i).backend.value ((s.apply c).sockets i).backend.value) :
    CloseKept (askedAfter i asked s c) ((s.apply c).sockets i).backend.value := by
  rcases h with h | ⟨hfree, hocc, hr⟩
  · exact closeKept_askedAfter hc (by rw [h]; exact hk)
  · have hasked : askedAfter i asked s c = false := by
      cases c with
      | handle j call => exact absurd rfl (hc j call)
      | _ => simp [askedAfter, hfree, hocc]
    rw [hasked]
    exact CloseKept.of_not_released hr

/-- One call that meets the condition keeps the request in slot `i`. -/
theorem Settled.closeKept (h : Settled s) (hL : HEADER + 2 ≤ L)
    (hk : CloseKept asked (s.sockets i).backend.value) {c : Call}
    (howned : ∀ call, c = .handle i call → call.Owned (s.sockets i).backend.value)
    (hmeets : Meets i asked s c) :
    CloseKept (askedAfter i asked s c) ((s.apply c).sockets i).backend.value := by
  have hlog := h.onDevice
  have hblock := h.block i
  have hbus : ∀ {α : Type} (c : Code Error (Transceiver L (Logged D)) α),
      Keeps (fun s' : W6100 w L (Logged D) P => s'.sockets i = s.sockets i) (onBus c) :=
    fun c => Keeps.zoom_of_set fun _ _ h => h
  have hsame : ∀ {c : Call}, (∀ j call, c ≠ .handle j call) →
      (s.apply c).sockets i = s.sockets i →
      CloseKept (askedAfter i asked s c) ((s.apply c).sockets i).backend.value :=
    fun hc hs => closeKept_askedAfter hc (by rw [hs]; exact hk)
  cases c with
  | service => exact closeKept_askedAfter (by simp) (service_keeps hL hlog hblock hk hmeets)
  | run =>
    refine closeKept_askedAfter (by simp) ?_
    refine closeKept_of_heeded (history s) (s.sockets i).backend.value
      (run_keeps hL ⟨hlog, hblock, hk, fun hp => ?_⟩) fun hp => (hmeets hp).answered
    exact ⟨hp, (hmeets hp).idle, (hmeets hp).room, id⟩
  | dmaComplete =>
    refine closeKept_askedAfter (by simp) ?_
    obtain ⟨hd, held, marker, ha, hi⟩ := h
    have hbulk : s.bulk.value = marker := by rw [hi.bulk]
    rw [W6100.apply, exec_dmaComplete (by rw [hi.bulk]), hbulk]
    cases marker with
    | none => exact hk
    | some op =>
      cases held with
      | none => exact ha.elim
      | some txn =>
        have hret := triple_retireBulk op txn s ⟨hd, hi⟩
        have hslot := keeps_backend_retireBulk (i := i) op s rfl
        have hm := hmeets op hbulk
        dsimp only
        rcases hr : exec (retireBulk op) s with ⟨e | u, s₁⟩
        · rw [exec_bind_error hr]
          rw [wp, hr] at hslot
          rw [hslot]
          exact hk
        · rw [exec_bind_ok hr, exec_bind, exec_outcome]
          rw [wp, hr] at hslot hret
          rw [hr] at hm
          have hs₁ := hret.settled trivial
          rw [← hslot] at hk
          exact service_keeps hL hs₁.onDevice (hs₁.block i) hk hm
  | reset =>
    refine closeKept_askedAfter (by simp) ?_
    refine closeKept_of_resetSlot (history s) hk ?_ hmeets
    exact (keeps_resetSlot_reset hL hblock).exec (.inl ⟨rfl, hlog⟩)
  | isLinkUp =>
    exact hsame (by simp) ((keeps_isLinkUp (J := fun s' => s'.sockets i = s.sockets i)
      (fun _ _ h => h) fun _ _ => hbus _).exec rfl)
  | setupNetwork a g m =>
    exact hsame (by simp) ((keeps_setupNetwork (J := fun s' => s'.sockets i = s.sockets i)
      (fun _ _ h => h) (fun _ _ => hbus _) a g m).exec rfl)
  | setNetworkConfig config =>
    have hset : Keeps (fun s' : W6100 w L (Logged D) P => s'.sockets i = s.sockets i)
        (setNetworkConfig config) :=
      (keeps_holding (fun _ _ h => h) (Keeps.always fun _ h => by rw [Prog.run_zoom]; exact h)).bind
        fun _ => Keeps.always fun _ h => h
    exact hsame (by simp) (hset.exec rfl)
  | openTcpConnect addr port srcPort rx tx =>
    exact closeKept_of_claimed (by simp) hk
      ((keeps_claimed_openSlot (by simp) rx tx _).exec (.inl rfl))
  | openTcpListen port rx tx =>
    exact closeKept_of_claimed (by simp) hk
      ((keeps_claimed_openSlot (by simp) rx tx _).exec (.inl rfl))
  | openUdp srcPort rx tx =>
    exact closeKept_of_claimed (by simp) hk
      ((keeps_claimed_openSlot (by simp) rx tx _).exec (.inl rfl))
  | handle j call =>
    by_cases hj : j = i
    · subst hj
      obtain ⟨-, _, _, -, hi⟩ := h
      simpa [askedAfter, W6100.apply, socketLens] using
        call.closeKept (hi.slots j).free (howned call rfl) hk
    · have hj' : i ≠ j := fun h => hj h.symm
      simpa [askedAfter, W6100.apply, socketLens, hj, hj'] using hk

end Step

/-- Along a run every slot and the bus are settled, and the request is kept. -/
theorem CloseRun.invariant {i : Fin 8} {asked : Bool} {s : W6100 w L (Logged D) P}
    (h : CloseRun i asked s) :
    HEADER + 2 ≤ L ∧ Settled s ∧ CloseKept asked (s.sockets i).backend.value := by
  induction h with
  | new spi rst scratch mac hL =>
    refine ⟨hL, new_settled spi rst scratch mac, ?_⟩
    have hfree : CloseKept false (SocketBackend.new (socketBlock i)) :=
      CloseKept.of_not_released rfl
    refine closeKept_of_resetSlot spi.log hfree ?_ nofun
    exact (keeps_resetSlot_reset hL rfl).exec (.inl ⟨rfl, [], by simp⟩)
  | call h c howned hmeets ih =>
    obtain ⟨hL, hs, hk⟩ := ih
    exact ⟨hL, hs.apply c, hs.closeKept hL hk howned hmeets⟩

/-- A close that is asked for is kept in every state of every run that meets the
condition: the slot is free, or the request is still there, or the machine is on
its way down; and a slot pending release is on its way down. -/
theorem close_kept {i : Fin 8} {asked : Bool} {s : W6100 w L (Logged D) P}
    (h : CloseRun i asked s) : CloseKept asked (s.sockets i).backend.value := h.invariant.2.2

/-! ## Concrete runs -/

/-- A new driver whose bus answers the reset and then from `script`. -/
def fresh (script : List (Option (List UInt8))) : W6100 64 16 (Logged Scripted) Unit :=
  (W6100.new ⟨⟨[some [0x61, 0x00], some [0x46, 0x61]] ++ List.replicate 28 (some []) ++ script⟩, []⟩
    () (zeroScratch 16) ⟨[0, 0, 0, 0, 0, 0], zeroMac_length⟩).2

/-- A UDP socket was just opened, and the `CLOSE` that follows will fail. -/
def failing : W6100 64 16 (Logged Scripted) Unit :=
  (fresh [some [0x01], none]).runCalls [.openUdp 7 [] []]

/-- A UDP socket is opening, and the link is about to be lost. -/
def losing : W6100 64 16 (Logged Scripted) Unit :=
  (fresh ([some [0x01]] ++ List.replicate 5 (some []) ++
    [some [0x00], some [0x61, 0x00], some [0x46, 0x61]])).runCalls [.openUdp 7 [] [], .service]

/-- A received chunk of a TCP socket is in flight while a UDP socket is opened. -/
def inFlight : W6100 64 16 (Logged Scripted) Unit :=
  (fresh ([some [0x01]] ++ List.replicate 5 (some []) ++
      [some [0x01], some [0x00], some [0x13], some []] ++
      [some [0x01], some [0x00], some [0x17], some []] ++
      [some [0x01], some [0x00], some [0x17], some [0x00, 0x04], some [0x00, 0x00]])).runCalls
    [.openTcpListen 7 [0, 0, 0, 0, 0, 0, 0, 0] [], .service, .service, .service, .service,
      .openUdp 7 [] []]

/-- A slot that is occupied, without a request, and not closing. -/
def forgot (s : W6100 64 16 (Logged Scripted) Unit) (i : Fin 8) : Bool :=
  !(s.sockets i).backend.value.isFree && !(s.sockets i).backend.value.isClosing

/-- In each of three runs `close` returns `Ok`, the application does not
reconnect, and the request is gone: a frame of the tick that consumed it failed,
the slot was re-armed by the reset on link loss, or `run` was called while a
transfer was in flight. -/
theorem close_request_lost :
    ((exec UdpSocket.close (failing.sockets 0)).1 = .ok () ∧
      forgot (failing.runCalls [.handle 0 .udpClose, .service]) 0 = true) ∧
    ((exec UdpSocket.close (losing.sockets 0)).1 = .ok () ∧
      forgot (losing.runCalls [.handle 0 .udpClose, .service]) 0 = true) ∧
    (exec UdpSocket.close (inFlight.sockets 1)).1 = .ok () ∧
      forgot (inFlight.runCalls [.handle 1 .udpClose, .run]) 1 = true := by decide

/-- A UDP socket is opened and closed, and the chip takes the `CLOSE`. -/
def closing : W6100 64 16 (Logged Scripted) Unit :=
  (fresh [some [0x01], some []]).runCalls [.openUdp 7 [] [], .handle 0 .udpClose]

theorem closing_run : CloseRun 0 true closing := by
  have hnew : CloseRun 0 false (fresh [some [0x01], some []]) := .new _ _ _ _ (by decide)
  have hopen := hnew.call (.openUdp 7 [] []) nofun trivial
  rw [show askedAfter 0 false _ _ = false by decide] at hopen
  have hclose := hopen.call (.handle 0 .udpClose)
    (fun call hc => by cases hc; exact ⟨by decide, ⟨7, .init, none, false⟩, by decide⟩) trivial
  rwa [show askedAfter 0 false _ _ = true by decide] at hclose

theorem closing_meets : Meets 0 true closing .service := by
  have hev : linkEvent closing = .ran := by decide
  unfold Meets ServiceMeets
  rw [hev]
  refine fun _ => ⟨closing_run.invariant.2.1.idle (by decide), fun t ht => ?_, fun hseen => ?_⟩
  · have hst : (closing.sockets 0).backend.value.state = .udp ⟨7, .init, none, true⟩ := by decide
    rw [hst] at ht
    cases ht
  · have hall : ∀ e ∈ (busLog (exec service closing).2.device.value.transport).drop
        (history closing).length, e.answer ≠ none := by decide
    obtain ⟨e, he, ⟨hfailed, -⟩ | ⟨-, hfailed⟩⟩ := hseen.mem_drop <;> exact hall e he hfailed

/-- The request is served by the next pass, and kept in the state it leaves. -/
theorem close_kept_closing :
    CloseKept true ((closing.apply .service).sockets 0).backend.value := by
  have h := close_kept (closing_run.call .service nofun closing_meets)
  rwa [show askedAfter 0 true closing .service = true by decide] at h

end W6100

end Wiznet
