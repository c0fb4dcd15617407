import Wiznet.SlotOwners

/-! # Finished sockets

A machine that is shutting never moves data again until it is re-armed. What the
handle reports may be ahead of the machine: a stored error is reported at once,
and the machine runs on. -/

namespace Wiznet
open Resumption Resumption.Code

variable {w L : Nat} {D P : Type}

/-! ## A slot that does not move -/

namespace SocketBackend

variable {b : SocketBackend}

theorem isMoving_eq_false_iff :
    b.isMoving = false ↔ b.isFree = true ∨ b.isShutting = true := by
  cases hf : b.isFree <;> simp [isMoving, hf]

theorem isMoving_reap_eq_false (h : b.isMoving = false) : b.reap.isMoving = false := by
  unfold reap
  split
  · rfl
  · exact h

/-- The tick of a slot that does not move leaves its rings alone. -/
theorem run_still [SpiDmaDevice D] (io : Io w L D) (h : b.isMoving = false) :
    (b.run.run io).2.rings = io.rings ∧ (b.run.run io).1.2.isMoving = false := by
  rcases isMoving_eq_false_iff.mp h with hf | hs
  · rw [run_free hf]
    exact ⟨rfl, isMoving_reap_eq_false h⟩
  · obtain ⟨-, hrings, hb⟩ := run_rests io hs
    exact ⟨hrings, isMoving_eq_false_iff.mpr hb⟩

theorem isMoving_sameStatus {st : BackendState} (h : SameStatus b.state st) :
    ({ b with state := st } : SocketBackend).isMoving = b.isMoving := by
  cases hst : b.state <;> cases st <;>
    simp_all [SameStatus, isMoving, isFree, isShutting]

end SocketBackend

/-- Only a reconnect starts a machine that does not move. -/
theorem HandleCall.isMoving_onBackend_eq {b : SocketBackend} {c : HandleCall}
    (htcp : c ≠ .tcpReconnect) (hudp : c ≠ .udpReconnect) :
    (c.onBackend b).isMoving = b.isMoving := by
  cases hst : b.state <;> cases c <;>
    simp_all [onBackend, SocketBackend.mapTcp, SocketBackend.mapUdp, SocketBackend.isMoving,
      SocketBackend.isFree, SocketBackend.isShutting, SocketBackend.requestRelease,
      TcpSocketState.requestClose, UdpSocketState.requestClose]

namespace W6100

variable [SpiDmaDevice D] [OutputPin P] {s s' : W6100 w L D P} {i : Fin 8} {c : Call}

/-- Slot `i` does not move, and its rings are `rings`. -/
def Still (i : Fin 8) (rings : SocketRings w) (f : Fin 8 → SocketBackend)
    (r : Fin 8 → SocketRings w) : Prop := (f i).isMoving = false ∧ r i = rings

omit [SpiDmaDevice D] [OutputPin P] in
theorem Still.update {rings : SocketRings w} {f : Fin 8 → SocketBackend}
    {r : Fin 8 → SocketRings w} (h : Still i rings f r) {j : Fin 8} {b : SocketBackend}
    {r' : SocketRings w} (hb : i = j → b.isMoving = false ∧ r' = r i) :
    Still i rings (Function.update f j b) (Function.update r j r') := by
  by_cases hj : i = j
  · subst hj
    obtain ⟨hm, hr⟩ := hb rfl
    exact ⟨by rwa [Function.update_self], by rw [Function.update_self, hr, h.2]⟩
  · exact ⟨by rw [Function.update_of_ne hj]; exact h.1,
      by rw [Function.update_of_ne hj]; exact h.2⟩

/-- While slot `i` does not move, a servicing call leaves its rings alone and
starts no transfer for it. -/
theorem still_serviced (hs : Settled s) (hcar : Carries s.bulk.value s.view.backend)
    (h : (s.view.backend i).isMoving = false) (hc : onSlots c = false) :
    (s.apply c).view.rings i = s.view.rings i ∧
      (∀ op, (s.apply c).bulk.value = some op → op.idx ≠ i) ∧
      (¬ Resets s c → ((s.apply c).view.backend i).isMoving = false) := by
  have hu : Upheld (w := w) (L := L) (D := D) (P := P) .blind
      (Slots (Still i (s.view.rings i))) fun y => y.1.rings i = s.view.rings i := by
    refine upheld_of_slots (R := fun _ r => r i = s.view.rings i) (fun j f r io hio h => ?_)
      (fun j f r st hst h => ?_) (fun j f r rings hj h => ?_) fun _ _ h => h.2
    · refine h.update fun hj => ?_
      subst hj
      obtain ⟨hrings, hm⟩ := SocketBackend.run_still io h.1
      exact ⟨hm, hrings.trans hio⟩
    · have hup : Still i (s.view.rings i)
          (Function.update f j (SocketBackend.reap { f j with state := st }))
          (Function.update r j (r j)) := h.update fun hj => by
        subst hj
        refine ⟨SocketBackend.isMoving_reap_eq_false ?_, rfl⟩
        rw [SocketBackend.isMoving_sameStatus hst]
        exact h.1
      rwa [Function.update_eq_self] at hup
    · have hne : i ≠ j := fun hij => by subst hij; rw [h.1] at hj; cases hj
      exact ⟨h.1, by rw [Function.update_of_ne hne]; exact h.2⟩
  have hr : UpheldReset (w := w) (L := L) (D := D) (P := P) .blind
      fun y => y.1.rings i = s.view.rings i :=
    upheldReset_of_slots (R := fun _ r => r i = s.view.rings i) fun _ _ _ h => h
  obtain ⟨hcar', h' | ⟨hres, hnone, h'⟩⟩ :=
    Slots.call (R := fun _ r => r i = s.view.rings i) hu hr hs ⟨hcar, h, rfl⟩ hc
  · refine ⟨h'.2, fun op hop hi => ?_, fun _ => h'.1⟩
    subst hi
    exact absurd (hcar' op hop) (by simp [h'.1])
  · exact ⟨h', by simp [hnone], fun hn => absurd hres hn⟩

/-! ## Undisturbed runs -/

/-- A call that re-arms slot `i`, or lets it anew: a reset, a reconnect of its
handle, or an open that claims it. -/
def Rearming (i : Fin 8) (s : W6100 w L D P) (c : Call) : Prop :=
  Resets s c ∨ c = .handle i .tcpReconnect ∨ c = .handle i .udpReconnect ∨
    ∃ p, s.opened c = some (i, p)

/-- The states a run goes on to while nothing re-arms slot `i`. -/
inductive Undisturbed (i : Fin 8) (s : W6100 w L D P) : W6100 w L D P → Prop
  | start : Undisturbed i s s
  | call {s' : W6100 w L D P} (h : Undisturbed i s s') (c : Call) (hc : ¬ Rearming i s' c) :
      Undisturbed i s (s'.apply c)

/-- The driver is settled, and slot `i` does not move. -/
structure AtEase (i : Fin 8) (s : W6100 w L D P) : Prop where
  settled : Settled s
  carries : Carries s.bulk.value s.view.backend
  still : (s.view.backend i).isMoving = false

theorem AtEase.call (h : AtEase i s) (hc : ¬ Rearming i s c) : AtEase i (s.apply c) := by
  refine ⟨h.settled.apply c, carries_call c h.settled h.carries, ?_⟩
  cases hslots : onSlots c with
  | false =>
    exact (still_serviced h.settled h.carries h.still hslots).2.2 fun hres => hc (.inl hres)
  | true =>
    obtain ⟨state, rx, tx, hclaim⟩ | ⟨j, call, rfl⟩ := onSlots_cases hslots
    · rw [apply_of_claim h.settled hclaim]
      have hopened := opened_of_claim h.settled hclaim
      cases hv : s.vacancy with
      | none => exact h.still
      | some j =>
        have hne : i ≠ j := fun hij => by
          subst hij
          obtain ⟨p, hp⟩ : ∃ p, state.protocol = some p := by
            cases c <;> cases hclaim <;> exact ⟨_, rfl⟩
          rw [hv, hp] at hopened
          exact hc (.inr (.inr (.inr ⟨p, hopened⟩)))
        dsimp only
        rw [view_setSocket]
        simp only [View.setRings, View.setBackend, Function.update_of_ne hne]
        exact h.still
    · rw [view_apply_handle h.settled]
      simp only [View.setRings, View.setBackend]
      by_cases hij : i = j
      · subst hij
        rw [Function.update_self, HandleCall.isMoving_onBackend_eq]
        · exact h.still
        · intro hcall; subst hcall; exact hc (.inr (.inl rfl))
        · intro hcall; subst hcall; exact hc (.inr (.inr (.inl rfl)))
      · rw [Function.update_of_ne hij]
        exact h.still

theorem AtEase.undisturbed (h : AtEase i s) (hrun : Undisturbed i s s') : AtEase i s' := by
  induction hrun with
  | start => exact h
  | call _ c hc ih => exact ih.call hc

end W6100

/-! ## What the handle reports -/

/-- `status` of the handle of the protocol. -/
def Protocol.status : Protocol → Code Error (Socket w) SocketStatus
  | .tcp => TcpSocket.status
  | .udp => UdpSocket.status

/-- `Closed`, `Timeout` or `Error`. -/
def SocketStatus.isFinished : SocketStatus → Bool
  | .closed | .timeout | .error => true
  | _ => false

/-- The error that an occupied slot has stored. -/
def SocketBackend.storedError (b : SocketBackend) : Option Error :=
  match b.state with
  | .free => none
  | .tcp t => t.pendingError
  | .udp u => u.pendingError

theorem SocketStatus.isShutting_of_isFinished {st : SocketStatus} (h : st.isFinished = true) :
    st.isShutting = true := by cases st <;> first | rfl | cases h

/-- Without a stored error the handle reports the machine's own status. -/
theorem exec_status {x : Socket w} {p : Protocol} (hfree : x.backend.busy = false)
    (hp : x.backend.value.state.protocol = some p)
    (hstored : x.backend.value.storedError = none) {st : SocketStatus}
    (hst : (exec p.status x).1 = .ok st) : x.backend.value.isShutting = st.isShutting := by
  cases hstate : x.backend.value.state with
  | free => rw [hstate] at hp; cases hp
  | tcp t =>
    rw [hstate] at hp
    cases hp
    simp only [SocketBackend.storedError, hstate] at hstored
    rw [Protocol.status, TcpSocket.status, exec_withBackend _ hfree] at hst
    simp only [hstate, TcpSocketState.reportedStatus, hstored] at hst
    cases hst
    simp [SocketBackend.isShutting, hstate]
  | udp u =>
    rw [hstate] at hp
    cases hp
    simp only [SocketBackend.storedError, hstate] at hstored
    rw [Protocol.status, UdpSocket.status, exec_withBackend _ hfree] at hst
    simp only [hstate, UdpSocketState.reportedStatus, hstored] at hst
    cases hst
    simp [SocketBackend.isShutting, hstate]

namespace W6100

/-- The live handle of slot `i` reports that its socket is finished. -/
def ReportsFinished (i : Fin 8) (p : Protocol) (s : W6100 w L D P) : Prop :=
  ∃ st, (exec p.status (s.sockets i)).1 = .ok st ∧ st.isFinished = true

variable [SpiDmaDevice D] [OutputPin P] {s : W6100 w L D P} {i : Fin 8}

/-- No transfer of slot `i` is in flight, and until the slot is re-armed no
servicing call moves its rings or starts a transfer for it. -/
def Quiescent (i : Fin 8) (s : W6100 w L D P) : Prop :=
  (∀ op, s.bulk.value = some op → op.idx ≠ i) ∧
    ∀ s', Undisturbed i s s' → ∀ c, onSlots c = false →
      ((s'.apply c).sockets i).rings = (s'.sockets i).rings ∧
        ∀ op, (s'.apply c).bulk.value = some op → op.idx ≠ i

theorem AtEase.quiescent (h : AtEase i s) : Quiescent i s := by
  refine ⟨fun op hop hi => ?_, fun s' hrun c hc => ?_⟩
  · have hm := h.carries op hop
    rw [hi, h.still] at hm
    cases hm
  · have h' := h.undisturbed hrun
    obtain ⟨hrings, hop, -⟩ := still_serviced h'.settled h'.carries h'.still hc
    exact ⟨hrings, hop⟩

/-- In every run: a socket whose live handle reports `Closed`, `Timeout` or
`Error` is quiescent, if it has stored no error or its machine is on its way
down. -/
theorem finished_quiescent {live : Fin 8 → List Protocol} {p : Protocol} (hrun : HandleRun live s)
    (hlive : p ∈ live i) (hfin : ReportsFinished i p s)
    (hstored : (s.sockets i).backend.value.storedError = none ∨
      (s.sockets i).backend.value.isShutting = true) : Quiescent i s := by
  obtain ⟨hs, hcar, hlets⟩ := hrun.tenanted
  have hp := ((hlets i).live hlive).2.1
  have hshut : (s.sockets i).backend.value.isShutting = true := by
    rcases hstored with hnone | hshut
    · obtain ⟨st, hst, hfinished⟩ := hfin
      obtain ⟨-, _, _, -, hin⟩ := hs
      rw [exec_status (hin.slots i).free hp hnone hst]
      exact SocketStatus.isShutting_of_isFinished hfinished
    · exact hshut
  exact AtEase.quiescent ⟨hs, hcar, SocketBackend.isMoving_eq_false_iff.mpr (.inr hshut)⟩

/-! ## Concrete runs -/

/-- A UDP socket gets established, the interrupt read of its third tick fails,
and a datagram of two bytes waits on the chip. -/
def faultedScript : List (Option (List UInt8)) :=
  [some [0x01]] ++ List.replicate 5 (some []) ++
    [some [0x01], some [0x00], some [0x22], some [0x01], none] ++
    [some [0x01], some [0x00], some [0x00, 0x0A], some [0x00, 0x00],
      some [0x00, 0x02, 10, 0, 0, 1, 0x00, 0x07]]

def faulted : W6100 64 16 (Logged Scripted) Unit :=
  (fresh faultedScript).runCalls
    [.openUdp 7 (List.replicate 16 0) [], .service, .service, .service]

theorem faulted_run : ∃ live, HandleRun live faulted ∧ .udp ∈ live 0 := by
  have hnew : HandleRun (fun _ => []) (fresh faultedScript) := .new _ _ _ _
  have hopen := hnew.call (.openUdp 7 (List.replicate 16 0) []) nofun
  have hserved := (hopen.call .service nofun).call .service nofun
  exact ⟨_, hserved.call .service nofun, by decide⟩

/-- Its handle reports `Error`, and the next pass starts a transfer for it. -/
theorem finished_moving :
    (∃ live, HandleRun live faulted ∧ .udp ∈ live 0) ∧ ReportsFinished 0 .udp faulted ∧
      ¬ Quiescent 0 faulted := by
  refine ⟨faulted_run, ⟨.error, by decide, rfl⟩, fun h => ?_⟩
  have hidx : ∃ op, (faulted.apply .service).bulk.value = some op ∧ op.idx = 0 := by decide
  obtain ⟨op, hop, hi⟩ := hidx
  exact (h.2 faulted .start .service rfl).2 op hop hi

/-- A UDP socket is closed, and the chip confirms. -/
def closedDown : W6100 64 16 (Logged Scripted) Unit :=
  (fresh [some [0x01], some [], some [0x01], some [0x00]]).runCalls
    [.openUdp 7 [] [], .handle 0 .udpClose, .service, .service]

theorem finished_quiescent_closedDown : Quiescent 0 closedDown := by
  have hnew : HandleRun (fun _ => []) (fresh [some [0x01], some [], some [0x01], some [0x00]]) :=
    .new _ _ _ _
  have hopen := hnew.call (.openUdp 7 [] []) nofun
  have hclose := hopen.call (.handle 0 .udpClose) fun i call hc => by cases hc; decide
  have hrun : ∃ live, HandleRun live closedDown ∧ .udp ∈ live 0 :=
    ⟨_, (hclose.call .service nofun).call .service nofun, by decide⟩
  obtain ⟨live, hrun, hlive⟩ := hrun
  exact finished_quiescent hrun hlive ⟨.closed, by decide, rfl⟩ (.inl (by decide))

end W6100

end Wiznet
