import Wiznet.Standing
import Wiznet.CloseRequest

/-! # Who owns a slot

A slot is claimed when a socket is opened, given up when its handle is dropped,
and freed by the tick or the reset that finds it given up. The handles the
application holds are kept in a ledger beside the driver. -/

namespace Wiznet
open Resumption Resumption.Code

variable {w L : Nat} {D P : Type}

/-! ## What the slot calls do -/

/-- The protocol of the handle that makes a call. -/
def HandleCall.protocol : HandleCall → Protocol
  | .tcpRead _ | .tcpWrite _ | .tcpStatus | .tcpClose | .tcpReconnect | .tcpDrop => .tcp
  | .udpRecvFrom _ | .udpSendTo _ _ | .udpStatus | .udpClose | .udpReconnect | .udpDrop => .udp

/-- What a call on a handle makes of its slot. -/
def HandleCall.onBackend (b : SocketBackend) : HandleCall → SocketBackend
  | .tcpClose => b.mapTcp TcpSocketState.requestClose
  | .udpClose => b.mapUdp UdpSocketState.requestClose
  | .tcpReconnect => b.mapTcp TcpSocketState.rearm
  | .udpReconnect => b.mapUdp UdpSocketState.rearm
  | .tcpDrop | .udpDrop => b.requestRelease
  | _ => b

theorem exec_reconnect {x : Socket w} (h : x.backend.busy = false) :
    (exec TcpSocket.reconnect x).2.backend =
        ⟨x.backend.value.mapTcp TcpSocketState.rearm, false⟩ ∧
      (exec UdpSocket.reconnect x).2.backend =
        ⟨x.backend.value.mapUdp UdpSocketState.rearm, false⟩ := by
  constructor
  · rw [TcpSocket.reconnect, exec_holding Socket.backendLens _ h, exec_bind, exec_always]
    simp only [Prog.run_load, setBusy, Socket.backendLens]
    cases hst : x.backend.value.state <;>
      simp [exec_bind, SocketBackend.mapTcp, hst, cellValue, Socket.ringsLens]
  · rw [UdpSocket.reconnect, exec_holding Socket.backendLens _ h, exec_bind, exec_always]
    simp only [Prog.run_load, setBusy, Socket.backendLens]
    cases hst : x.backend.value.state <;>
      simp [exec_bind, SocketBackend.mapUdp, hst, cellValue, Socket.ringsLens]

theorem HandleCall.apply_backend {x : Socket w} (h : x.backend.busy = false) (c : HandleCall) :
    (c.apply x).backend = ⟨c.onBackend x.backend.value, false⟩ := by
  have hx : x.backend = ⟨x.backend.value, false⟩ := by rw [← h]
  cases c with
  | tcpRead | tcpWrite | udpRecvFrom | udpSendTo =>
    simpa [HandleCall.apply, onBackend, TcpSocket.read, TcpSocket.write, UdpSocket.recv,
      UdpSocket.send, Socket.ringsLens] using hx
  | tcpStatus =>
    rw [HandleCall.apply, TcpSocket.status, exec_withBackend _ h]
    cases x.backend.value.state <;> simp [onBackend]
  | udpStatus =>
    rw [HandleCall.apply, UdpSocket.status, exec_withBackend _ h]
    cases x.backend.value.state <;> simp [onBackend]
  | tcpClose => rw [HandleCall.apply, TcpSocket.close, exec_withBackend _ h]; rfl
  | udpClose => rw [HandleCall.apply, UdpSocket.close, exec_withBackend _ h]; rfl
  | tcpReconnect => exact (exec_reconnect h).1
  | udpReconnect => exact (exec_reconnect h).2
  | tcpDrop =>
    rw [HandleCall.apply, TcpSocket.drop, exec_bind, exec_outcome, exec_withBackend _ h]
    rfl
  | udpDrop =>
    rw [HandleCall.apply, UdpSocket.drop, exec_bind, exec_outcome, exec_withBackend _ h]
    rfl

/-- The socket as a claim leaves it. -/
def Socket.claimed (state : BackendState) (rx tx : List UInt8) (x : Socket w) : Socket w :=
  ⟨⟨{ x.backend.value with state := state, releaseRequested := false }, false⟩,
    ((SocketRings.install rx tx).run x.rings).2⟩

theorem exec_tryOpen (state : BackendState) (rx tx : List UInt8) {x : Socket w}
    (h : x.backend.busy = false) :
    exec (Socket.tryOpen (SocketBackend.claim state) rx tx) x =
      if x.backend.value.isFree then (.ok true, x.claimed state rx tx) else (.ok false, x) := by
  rw [Socket.tryOpen, exec_holding Socket.backendLens _ h, exec_bind, exec_always]
  simp only [Prog.run_load, setBusy, Socket.backendLens]
  by_cases hf : x.backend.value.isFree = true
  · simp [exec_bind, SocketBackend.claim, hf, cellValue, Socket.ringsLens, Socket.claimed]
    rfl
  · have hx : (⟨x.backend.value, false⟩ : AtomicCell SocketBackend) = x.backend := by rw [← h]
    simp [hf, hx]

namespace W6100

/-- An open takes the first free slot of the list, and touches no other. -/
theorem exec_openSlot (state : BackendState) (rx tx : List UInt8) {s : W6100 w L D P}
    (h : ∀ i, (s.sockets i).backend.busy = false) (slots : List (Fin 8)) :
    exec (openSlot (SocketBackend.claim state) rx tx slots) s =
      match slots.find? fun i => (s.sockets i).backend.value.isFree with
      | some i => (.ok i, (socketLens i).set ((s.sockets i).claimed state rx tx) s)
      | none => (.error .wouldBlock, s) := by
  induction slots with
  | nil => rfl
  | cons i rest ih =>
    rw [openSlot, exec_bind, exec_outcome, exec_zoom,
      show (socketLens i).get s = s.sockets i from rfl, exec_tryOpen state rx tx (h i)]
    cases hf : (s.sockets i).backend.value.isFree with
    | true => simp [hf]
    | false =>
      have hset : (socketLens i).set (s.sockets i) s = s := (socketLens i).set_get s
      simp only [Bool.false_eq_true, if_false, hset, ih, List.find?_cons, hf]

theorem view_setSocket (s : W6100 w L D P) (i : Fin 8) (x : Socket w) :
    ((socketLens i).set x s).view = (s.view.setBackend i x.backend.value).setRings i x.rings := by
  have hr : ∀ j, (((socketLens i).set x s).sockets j).rings =
      Function.update (fun i => (s.sockets i).rings) i x.rings j := fun j => by
    by_cases hj : j = i
    · subst hj; simp [socketLens]
    · simp [socketLens, hj]
  have hb : ∀ j, (((socketLens i).set x s).sockets j).backend.value =
      Function.update (fun i => (s.sockets i).backend.value) i x.backend.value j := fun j => by
    by_cases hj : j = i
    · subst hj; simp [socketLens]
    · simp [socketLens, hj]
  simp only [view, View.setRings, View.setBackend, hb, hr]
  rfl

end W6100

/-- What an open puts into the slot it claims, and the buffers it installs. -/
def Call.claim : Call → Option (BackendState × List UInt8 × List UInt8)
  | .openTcpConnect addr port srcPort rx tx =>
    some (.tcp (TcpSocketState.connect addr port srcPort), rx, tx)
  | .openTcpListen port rx tx => some (.tcp (TcpSocketState.listen port), rx, tx)
  | .openUdp srcPort rx tx => some (.udp (UdpSocketState.bind srcPort), rx, tx)
  | _ => none

/-- A claimed slot is occupied by a machine at rest before its first tick. -/
theorem Call.claim_state {c : Call} {state : BackendState} {rx tx : List UInt8}
    (hc : c.claim = some (state, rx, tx)) {b : SocketBackend} (hb : b.state = state) :
    b.isMoving = true := by
  cases c <;> cases hc <;> simp [SocketBackend.isMoving, SocketBackend.isFree,
    SocketBackend.isShutting, hb, TcpSocketState.connect, TcpSocketState.listen,
    UdpSocketState.bind, SocketStatus.isShutting]

namespace W6100

/-- The slot an open claims. -/
def vacancy (s : W6100 w L D P) : Option (Fin 8) :=
  (List.finRange 8).find? fun i => (s.sockets i).backend.value.isFree

/-- The handle an open returns. -/
def opened (s : W6100 w L D P) : Call → Option (Fin 8 × Protocol)
  | .openTcpConnect addr port srcPort rx tx =>
    (exec (openTcpConnect addr port srcPort rx tx) s).1.toOption.map (·, .tcp)
  | .openTcpListen port rx tx => (exec (openTcpListen port rx tx) s).1.toOption.map (·, .tcp)
  | .openUdp srcPort rx tx => (exec (openUdp srcPort rx tx) s).1.toOption.map (·, .udp)
  | _ => none

theorem vacancy_free {s : W6100 w L D P} {i : Fin 8} (h : s.vacancy = some i) :
    (s.sockets i).backend.value.isFree = true := by simpa using List.find?_some h

variable {s : W6100 w L D P} {c : Call} {state : BackendState} {rx tx : List UInt8}

theorem opened_of_claim (hs : Settled s) (hc : c.claim = some (state, rx, tx)) :
    s.opened c = s.vacancy.bind fun i => state.protocol.map (i, ·) := by
  obtain ⟨-, _, _, -, hin⟩ := hs
  have hopen := exec_openSlot state rx tx (fun i => (hin.slots i).free) (List.finRange 8)
  cases c <;> cases hc <;>
    simp only [opened, openTcpConnect, openTcpListen, openUdp, SocketBackend.claimTcp,
      SocketBackend.claimUdp, hopen, vacancy, BackendState.protocol] <;>
    cases (List.finRange 8).find? fun i => (s.sockets i).backend.value.isFree <;> rfl

variable [SpiDmaDevice D] [OutputPin P]

theorem apply_of_claim (hs : Settled s) (hc : c.claim = some (state, rx, tx)) :
    s.apply c = match s.vacancy with
      | some i => (socketLens i).set ((s.sockets i).claimed state rx tx) s
      | none => s := by
  obtain ⟨-, _, _, -, hin⟩ := hs
  have happly : s.apply c =
      (exec (openSlot (SocketBackend.claim state) rx tx (List.finRange 8)) s).2 := by
    cases c <;> cases hc <;> rfl
  rw [happly, exec_openSlot state rx tx fun i => (hin.slots i).free, vacancy]
  cases (List.finRange 8).find? fun i => (s.sockets i).backend.value.isFree <;> rfl

end W6100

/-! ## Tenancy -/

/-- How a slot is let. -/
inductive Tenancy where
  | vacant
  | held
  | leaving
  deriving DecidableEq, Repr

/-- What a tenancy says of the slot and of the handles that are live on it. -/
def Tenancy.Holds (b : SocketBackend) (live : List Protocol) : Tenancy → Prop
  | .vacant => b.isFree = true ∧ live = []
  | .held => b.isFree = false ∧ b.releaseRequested = false ∧
      ∃ p, b.state.protocol = some p ∧ live = [p]
  | .leaving => b.isFree = false ∧ b.releaseRequested = true ∧ live = []

def Let (b : SocketBackend) (live : List Protocol) : Prop := ∃ t, Tenancy.Holds b live t

theorem isFree_iff_protocol {b : SocketBackend} :
    b.isFree = true ↔ b.state.protocol = none := by
  cases hst : b.state <;> simp [SocketBackend.isFree, BackendState.protocol, hst]

theorem Tenancy.Holds.unique {b : SocketBackend} {live : List Protocol} {t t' : Tenancy}
    (h : t.Holds b live) (h' : t'.Holds b live) : t = t' := by
  cases t <;> cases t' <;> simp_all [Holds]

theorem Let.length {b : SocketBackend} {live : List Protocol} (h : Let b live) :
    live.length ≤ 1 := by
  obtain ⟨_ | _ | _, h⟩ := h
  · simp [h.2]
  · obtain ⟨p, -, hp⟩ := h.2.2
    simp [hp]
  · simp [h.2.2]

theorem Let.vacant {b : SocketBackend} {live : List Protocol} (h : Let b live)
    (hf : b.isFree = true) : live = [] := by
  obtain ⟨_ | _ | _, h⟩ := h
  · exact h.2
  · exact absurd hf (by simp [h.1])
  · exact h.2.2

theorem Let.released {b : SocketBackend} {live : List Protocol} (h : Let b live)
    (hr : b.releaseRequested = true) : live = [] := by
  obtain ⟨_ | _ | _, h⟩ := h
  · exact h.2
  · exact absurd hr (by simp [h.2.1])
  · exact h.2.2

/-- A slot with a live handle. -/
theorem Let.live {b : SocketBackend} {live : List Protocol} {p : Protocol} (h : Let b live)
    (hp : p ∈ live) :
    b.releaseRequested = false ∧ b.state.protocol = some p ∧ live = [p] := by
  obtain ⟨_ | _ | _, h⟩ := h
  · rw [h.2] at hp; cases hp
  · obtain ⟨q, hq, hlive⟩ := h.2.2
    rw [hlive, List.mem_singleton] at hp
    subst hp
    exact ⟨h.2.1, hq, hlive⟩
  · rw [h.2.2] at hp; cases hp

theorem Let.of_live {b : SocketBackend} {p : Protocol} (hr : b.releaseRequested = false)
    (hp : b.state.protocol = some p) : Let b [p] := by
  refine ⟨.held, ?_, hr, p, hp, rfl⟩
  cases hf : b.isFree with
  | false => rfl
  | true => rw [isFree_iff_protocol, hp] at hf; cases hf

/-- A tick changes the machine within its protocol, then reaps the slot. -/
theorem Let.reap {b : SocketBackend} {live : List Protocol} {st : BackendState}
    (h : Let b live) (hst : st.protocol = b.state.protocol) :
    Let (SocketBackend.reap { b with state := st }) live := by
  have hfree : ({ b with state := st } : SocketBackend).isFree = b.isFree := by
    rw [Bool.eq_iff_iff, isFree_iff_protocol, isFree_iff_protocol, hst]
  unfold SocketBackend.reap
  split
  next hreap => exact ⟨.vacant, rfl, h.released (Bool.and_eq_true .. ▸ hreap).1⟩
  · obtain ⟨t, h⟩ := h
    refine ⟨t, ?_⟩
    cases t with
    | vacant => exact ⟨hfree.trans h.1, h.2⟩
    | held => exact ⟨hfree.trans h.1, h.2.1, hst ▸ h.2.2⟩
    | leaving => exact ⟨hfree.trans h.1, h.2⟩

theorem Let.rearm {b : SocketBackend} {live : List Protocol} (h : Let b live) :
    Let b.rearm live := by
  unfold SocketBackend.rearm
  split
  next hr => exact ⟨.vacant, rfl, h.released hr⟩
  · obtain ⟨t, h⟩ := h
    refine ⟨t, ?_⟩
    cases hst : b.state <;> cases t <;>
      simp_all [Tenancy.Holds, SocketBackend.isFree, BackendState.protocol]

/-- The handles that are live on a slot after a call on one of them. -/
def HandleCall.ledger (live : List Protocol) : HandleCall → List Protocol
  | .tcpDrop => live.erase .tcp
  | .udpDrop => live.erase .udp
  | _ => live

theorem requestRelease_protocol (b : SocketBackend) :
    b.requestRelease.state.protocol = b.state.protocol := by
  cases hst : b.state <;> simp [SocketBackend.requestRelease, hst, BackendState.protocol]

/-- Only a drop gives a slot up; no call changes its protocol. -/
theorem HandleCall.onBackend_protocol (b : SocketBackend) (c : HandleCall) :
    (c.onBackend b).state.protocol = b.state.protocol := by
  cases c <;> first
    | rfl
    | exact requestRelease_protocol b
    | (cases hst : b.state <;> simp [onBackend, SocketBackend.mapTcp, SocketBackend.mapUdp, hst,
        BackendState.protocol])

theorem HandleCall.onBackend_releaseRequested (b : SocketBackend) {c : HandleCall}
    (htcp : c ≠ .tcpDrop) (hudp : c ≠ .udpDrop) :
    (c.onBackend b).releaseRequested = b.releaseRequested := by
  cases c <;> first
    | rfl
    | exact absurd rfl htcp
    | exact absurd rfl hudp
    | (cases hst : b.state <;> simp [onBackend, SocketBackend.mapTcp, SocketBackend.mapUdp, hst])

theorem Let.of_release {b : SocketBackend} {p : Protocol} (hp : b.state.protocol = some p) :
    Let b.requestRelease [] := by
  refine ⟨.leaving, ?_, rfl, rfl⟩
  cases hf : b.requestRelease.isFree with
  | false => rfl
  | true => rw [isFree_iff_protocol, requestRelease_protocol, hp] at hf; cases hf

theorem Let.handleCall {b : SocketBackend} {live : List Protocol} {c : HandleCall}
    (h : Let b live) (hc : c.protocol ∈ live) : Let (c.onBackend b) (c.ledger live) := by
  obtain ⟨hr, hp, hlive⟩ := h.live hc
  have hstay : c ≠ .tcpDrop → c ≠ .udpDrop → Let (c.onBackend b) live := fun htcp hudp => by
    rw [hlive]
    exact Let.of_live ((HandleCall.onBackend_releaseRequested b htcp hudp).trans hr)
      ((HandleCall.onBackend_protocol b c).trans hp)
  cases c with
  | tcpDrop | udpDrop => rw [hlive]; exact Let.of_release hp
  | _ => exact hstay nofun nofun

/-- A call on a handle leaves a machine that may move data able to. -/
theorem HandleCall.isMoving_onBackend {b : SocketBackend} (c : HandleCall)
    (h : b.isMoving = true) : (c.onBackend b).isMoving = true := by
  cases hst : b.state <;> cases c <;>
    simp_all [onBackend, SocketBackend.mapTcp, SocketBackend.mapUdp, SocketBackend.isMoving,
      SocketBackend.isFree, SocketBackend.isShutting, SocketBackend.requestRelease,
      TcpSocketState.requestClose, UdpSocketState.requestClose, TcpSocketState.rearm,
      UdpSocketState.rearm, SocketStatus.isShutting]

namespace W6100

variable [SpiDmaDevice D] [OutputPin P] {s : W6100 w L D P}

/-! ## What is recorded is carried by a moving machine -/

theorem onSlots_cases {c : Call} (hc : onSlots c = true) :
    (∃ state rx tx, c.claim = some (state, rx, tx)) ∨ ∃ i call, c = .handle i call := by
  cases c <;> first
    | exact .inl ⟨_, _, _, rfl⟩
    | exact .inr ⟨_, _, rfl⟩
    | cases hc

theorem view_apply_handle (hs : Settled s) (i : Fin 8) (call : HandleCall) :
    (s.apply (.handle i call)).view = (s.view.setBackend i
      (call.onBackend (s.view.backend i))).setRings i (call.apply (s.sockets i)).rings := by
  obtain ⟨-, _, _, -, hin⟩ := hs
  have hv := view_setSocket s i (call.apply (s.sockets i))
  rwa [HandleCall.apply_backend (hin.slots i).free] at hv

theorem carries_call (c : Call) (hs : Settled s) (h : Carries s.bulk.value s.view.backend) :
    Carries (s.apply c).bulk.value (s.apply c).view.backend := by
  cases hc : onSlots c with
  | false =>
    have hu : Upheld (w := w) (L := L) (D := D) (P := P) .blind
        (Slots fun _ _ => True) fun _ => True :=
      upheld_of_slots (R := fun _ _ => True) (fun _ _ _ _ _ _ => trivial)
        (fun _ _ _ _ _ _ => trivial) (fun _ _ _ _ _ _ => trivial) fun _ _ _ => trivial
    have hr : UpheldReset (w := w) (L := L) (D := D) (P := P) .blind fun _ => True :=
      upheldReset_of_slots (R := fun _ _ => True) fun _ _ _ _ => trivial
    exact (Slots.call (R := fun _ _ => True) hu hr hs ⟨h, trivial⟩ hc).1
  | true =>
    obtain ⟨state, rx, tx, hclaim⟩ | ⟨i, call, rfl⟩ := onSlots_cases hc
    · rw [apply_of_claim hs hclaim]
      cases s.vacancy with
      | none => exact h
      | some i =>
        dsimp only
        rw [view_setSocket]
        exact h.update fun _ => Call.claim_state hclaim rfl
    · rw [view_apply_handle hs]
      exact h.update call.isMoving_onBackend

/-- The driver that `new` resets. -/
def blank (spi : D) (rst : P) (scratch : DmaBuffers L)
    (mac : { bytes : List UInt8 // bytes.length = 6 }) : W6100 w L D P :=
  ⟨.new ⟨.idle spi scratch, rst⟩, mac, .new none, false, false,
    fun n => makeSocket (socketBlock n), .new none⟩

omit [SpiDmaDevice D] [OutputPin P] in
theorem blank_settled (spi : D) (rst : P) (scratch : DmaBuffers L)
    (mac : { bytes : List UInt8 // bytes.length = 6 }) :
    Settled (blank spi rst scratch mac : W6100 w L D P) :=
  ⟨rfl, none, none, trivial, ⟨spi, scratch, rfl⟩, rfl, rfl, fun _ => ⟨rfl, rfl⟩⟩

theorem new_eq_reset (spi : D) (rst : P) (scratch : DmaBuffers L)
    (mac : { bytes : List UInt8 // bytes.length = 6 }) :
    (W6100.new spi rst scratch mac).2 = (blank spi rst scratch mac : W6100 w L D P).apply .reset :=
  rfl

/-! ## The ledger of handles -/

/-- The handles that are live after a call: an open adds the one it returns, and
a drop takes its own away. -/
def ledger (live : Fin 8 → List Protocol) (s : W6100 w L D P) : Call → Fin 8 → List Protocol
  | .handle i call => Function.update live i (call.ledger (live i))
  | c => match s.opened c with
    | some (i, p) => Function.update live i (p :: live i)
    | none => live

/-- Runs of calls on a new driver, with the handles that are live: a call on a
handle needs a live one. -/
inductive HandleRun : (Fin 8 → List Protocol) → W6100 w L D P → Prop
  | new (spi : D) (rst : P) (scratch : DmaBuffers L)
      (mac : { bytes : List UInt8 // bytes.length = 6 }) :
      HandleRun (fun _ => []) (W6100.new spi rst scratch mac).2
  | call {live : Fin 8 → List Protocol} {s : W6100 w L D P} (h : HandleRun live s) (c : Call)
      (hlive : ∀ i call, c = .handle i call → call.protocol ∈ live i) :
      HandleRun (ledger live s c) (s.apply c)

/-- Every slot is let in one of the three ways. -/
def Lets (live : Fin 8 → List Protocol) (f : Fin 8 → SocketBackend) : Prop :=
  ∀ i, Let (f i) (live i)

theorem Lets.update {live : Fin 8 → List Protocol} {f : Fin 8 → SocketBackend} (h : Lets live f)
    {i : Fin 8} {b : SocketBackend} {l : List Protocol} (hb : Let b l) :
    Lets (Function.update live i l) (Function.update f i b) := fun j => by
  by_cases hj : j = i
  · subst hj; simpa using hb
  · simpa [hj] using h j

theorem Lets.updateBackend {live : Fin 8 → List Protocol} {f : Fin 8 → SocketBackend}
    (h : Lets live f) {i : Fin 8} {b : SocketBackend} (hb : Let b (live i)) :
    Lets live (Function.update f i b) := by
  have hup := h.update (i := i) hb
  rwa [Function.update_eq_self] at hup

theorem sameStatus_protocol {st st' : BackendState} (h : SocketBackend.SameStatus st st') :
    st'.protocol = st.protocol := by
  cases st <;> cases st' <;> first | rfl | exact h.elim

theorem lets_serviced {live : Fin 8 → List Protocol} {c : Call} (hs : Settled s)
    (hcar : Carries s.bulk.value s.view.backend) (h : Lets live s.view.backend)
    (hc : onSlots c = false) : Lets live (s.apply c).view.backend := by
  have hu : Upheld (w := w) (L := L) (D := D) (P := P) .blind
      (Slots fun f _ => Lets live f) fun y => Lets live y.1.backend :=
    upheld_of_slots (R := fun f _ => Lets live f) (fun i f _ io _ h => by
      obtain ⟨st, hst, hb⟩ := SocketBackend.run_protocol (f i) io
      rw [hb]
      exact h.updateBackend ((h i).reap hst))
      (fun i f _ st hst h => h.updateBackend ((h i).reap (sameStatus_protocol hst)))
      (fun _ _ _ _ _ h => h) fun _ _ h => h
  have hr : UpheldReset (w := w) (L := L) (D := D) (P := P) .blind
      fun y => Lets live y.1.backend :=
    upheldReset_of_slots (R := fun f _ => Lets live f) fun i f _ h => h.updateBackend (h i).rearm
  exact (Slots.call (R := fun f _ => Lets live f) hu hr hs ⟨hcar, h⟩ hc).2.elim id fun h => h.2.2

omit [SpiDmaDevice D] [OutputPin P] in
theorem ledger_serviced {live : Fin 8 → List Protocol} {c : Call} (hc : onSlots c = false) :
    ledger live s c = live := by cases c <;> first | rfl | cases hc

omit [SpiDmaDevice D] [OutputPin P] in
theorem ledger_claim {live : Fin 8 → List Protocol} {c : Call} {state : BackendState}
    {rx tx : List UInt8} (hs : Settled s) (hc : c.claim = some (state, rx, tx)) :
    ledger live s c = match s.vacancy, state.protocol with
      | some i, some p => Function.update live i (p :: live i)
      | _, _ => live := by
  have hopened := opened_of_claim hs hc
  have hledger : ledger live s c = match s.opened c with
      | some (i, p) => Function.update live i (p :: live i)
      | none => live := by cases c <;> cases hc <;> rfl
  rw [hledger, hopened]
  cases s.vacancy <;> cases state.protocol <;> rfl

/-- What holds between any two calls of a run. -/
structure Tenanted (live : Fin 8 → List Protocol) (s : W6100 w L D P) : Prop where
  settled : Settled s
  carries : Carries s.bulk.value s.view.backend
  lets : Lets live s.view.backend

theorem Tenanted.call {live : Fin 8 → List Protocol} (h : Tenanted live s) (c : Call)
    (hlive : ∀ i call, c = .handle i call → call.protocol ∈ live i) :
    Tenanted (ledger live s c) (s.apply c) := by
  refine ⟨h.settled.apply c, carries_call c h.settled h.carries, ?_⟩
  cases hc : onSlots c with
  | false =>
    rw [ledger_serviced hc]
    exact lets_serviced h.settled h.carries h.lets hc
  | true =>
    obtain ⟨state, rx, tx, hclaim⟩ | ⟨i, call, rfl⟩ := onSlots_cases hc
    · obtain ⟨p, hp⟩ : ∃ p, state.protocol = some p := by
        cases c <;> cases hclaim <;> exact ⟨_, rfl⟩
      rw [apply_of_claim h.settled hclaim, ledger_claim h.settled hclaim, hp]
      cases hv : s.vacancy with
      | none => exact h.lets
      | some i =>
        dsimp only
        rw [view_setSocket, (h.lets i).vacant (vacancy_free hv)]
        exact h.lets.update (Let.of_live rfl hp)
    · rw [view_apply_handle h.settled]
      exact h.lets.update ((h.lets i).handleCall (hlive i call rfl))

theorem HandleRun.tenanted {live : Fin 8 → List Protocol} (h : HandleRun live s) :
    Tenanted live s := by
  induction h with
  | new spi rst scratch mac =>
    have hb := blank_settled (w := w) spi rst scratch mac
    have hblank : Lets (fun _ => []) (blank spi rst scratch mac : W6100 w L D P).view.backend :=
      fun _ => ⟨.vacant, rfl, rfl⟩
    rw [new_eq_reset]
    exact ⟨hb.apply _, carries_call .reset hb carries_none,
      lets_serviced hb carries_none hblank rfl⟩
  | call _ c hlive ih => exact ih.call c hlive

/-- In every run each slot is let in exactly one of the three ways, so no two
live handles share a slot; and buffers are only ever installed in a slot without
a live handle and without a recorded transfer, leaving every other slot alone. -/
theorem slot_ownership {live : Fin 8 → List Protocol} (h : HandleRun live s) :
    (∀ i, (∃! t, Tenancy.Holds (s.sockets i).backend.value (live i) t) ∧
      (live i).length ≤ 1) ∧
    ∀ c state rx tx, c.claim = some (state, rx, tx) →
      s.opened c = none ∧ s.apply c = s ∨
      ∃ i p, s.opened c = some (i, p) ∧ live i = [] ∧
        (∀ op, s.bulk.value = some op → op.idx ≠ i) ∧
        (s.apply c).sockets = Function.update s.sockets i
          ((s.sockets i).claimed state rx tx) ∧
        (s.apply c).bulk = s.bulk := by
  obtain ⟨hs, hcar, hlets⟩ := h.tenanted
  refine ⟨fun i => ⟨?_, (hlets i).length⟩, fun c state rx tx hclaim => ?_⟩
  · obtain ⟨t, ht⟩ := hlets i
    exact ⟨t, ht, fun _ h => h.unique ht⟩
  · obtain ⟨p, hp⟩ : ∃ p, state.protocol = some p := by
      cases c <;> cases hclaim <;> exact ⟨_, rfl⟩
    rw [opened_of_claim hs hclaim, apply_of_claim hs hclaim, hp]
    cases hv : s.vacancy with
    | none => exact .inl ⟨rfl, rfl⟩
    | some i =>
      have hfree := vacancy_free hv
      refine .inr ⟨i, p, rfl, (hlets i).vacant hfree, fun op hop hi => ?_, rfl, rfl⟩
      have hmoving : (s.view.backend op.idx).isMoving = true := hcar op hop
      rw [hi] at hmoving
      simp [SocketBackend.isMoving, view, hfree] at hmoving

/-- A UDP socket is opened, and its handle dropped. -/
def relinquished : W6100 64 16 (Logged Scripted) Unit :=
  (fresh []).runCalls [.openUdp 7 [] [], .handle 0 .udpDrop]

theorem relinquished_run : ∃ live, HandleRun live relinquished ∧ live 0 = [] := by
  have hnew : HandleRun (fun _ => []) (fresh []) := .new _ _ _ _
  have hopen := hnew.call (.openUdp 7 [] []) nofun
  refine ⟨_, hopen.call (.handle 0 .udpDrop) (fun call hc => ?_), by decide⟩
  intro hcall
  cases hcall
  decide

/-- Its slot is still occupied, and no handle is live on it. -/
theorem slot_ownership_relinquished :
    ∃! t, Tenancy.Holds (relinquished.sockets 0).backend.value [] t := by
  obtain ⟨live, hrun, hlive⟩ := relinquished_run
  have h := ((slot_ownership hrun).1 0).1
  rwa [hlive] at h

end W6100

end Wiznet
