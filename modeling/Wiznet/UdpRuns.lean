import Wiznet.UdpReceipt

/-! # Runs with a UDP handle

The application holds a UDP handle and takes datagrams a step at a time, while
the interrupts service the driver and the other handles are used. Whatever they
do, the rx ring of the slot holds whole frames between two calls of `recv_from`. -/

namespace Wiznet
open Resumption Resumption.Code SpscRing

variable {w L : Nat} {D P : Type}

namespace W6100

/-! ## One slot and its handle -/

/-- Slot `i` belongs to a live UDP handle, frames have come behind what its rx
ring held in `r₀`, and what is recorded for it will fit. -/
structure Receiving (i : Fin 8) (r₀ : SpscRing w) (marker : Option BulkOp)
    (f : Fin 8 → SocketBackend) (rings : Fin 8 → SocketRings w) : Prop where
  protocol : (f i).state.protocol = some .udp
  kept : (f i).releaseRequested = false
  arrives : Arrives r₀ (rings i).rx
  fits : ∀ op, marker = some op → op.idx = i → Fits op.kind op.len (rings i).rx

section Receiving

variable {i j : Fin 8} {r₀ : SpscRing w} {marker marker' : Option BulkOp}
  {f : Fin 8 → SocketBackend} {rings : Fin 8 → SocketRings w} {b : SocketBackend}

/-- Nothing is recorded any more, or something for another slot. -/
theorem Receiving.remark (h : Receiving i r₀ marker f rings)
    (hm : ∀ op, marker' = some op → op.idx ≠ i) : Receiving i r₀ marker' f rings :=
  ⟨h.protocol, h.kept, h.arrives, fun op hop hi => absurd hi (hm op hop)⟩

theorem Receiving.forget (h : Receiving i r₀ marker f rings) : Receiving i r₀ none f rings :=
  h.remark nofun

/-- What happens in another slot. -/
theorem Receiving.elsewhere (h : Receiving i r₀ marker f rings) (hj : i ≠ j) (b : SocketBackend)
    (x : SocketRings w) :
    Receiving i r₀ marker (Function.update f j b) (Function.update rings j x) := by
  obtain ⟨hp, hk, ha, hf⟩ := h
  constructor <;> simpa only [Function.update_of_ne hj]

/-- What a call makes of the machine of the slot. -/
theorem Receiving.setBackend (h : Receiving i r₀ marker f rings)
    (hp : b.state.protocol = some .udp) (hk : b.releaseRequested = false) :
    Receiving i r₀ marker (Function.update f i b) rings := by
  refine ⟨?_, ?_, h.arrives, h.fits⟩ <;> rwa [Function.update_self]

/-- What a call makes of the machine and of the rings. -/
theorem Receiving.setRings (h : Receiving i r₀ marker f rings) {x : SocketRings w}
    (ha : Arrives r₀ x.rx) (hf : ∀ op, marker' = some op → op.idx = i → Fits op.kind op.len x.rx) :
    Receiving i r₀ marker' f (Function.update rings i x) := by
  refine ⟨h.protocol, h.kept, ?_, ?_⟩ <;> rwa [Function.update_self]

/-- The slot with another ring, whose room is no smaller. -/
theorem Receiving.replace (h : Receiving i r₀ marker f rings) {x : SocketRings w}
    (hroom : (rings i).rx.cap.toNat - ((rings i).rx.tail - (rings i).rx.head).toNat ≤
      x.rx.cap.toNat - (x.rx.tail - x.rx.head).toNat) :
    Receiving i x.rx marker f (Function.update rings i x) := by
  refine ⟨h.protocol, h.kept, ?_, ?_⟩ <;> rw [Function.update_self]
  · exact ⟨[], .refl _⟩
  · intro op hop hi
    exact (h.fits op hop hi).mono hroom

/-- A machine that keeps its protocol is not reaped. -/
theorem Receiving.reap (h : Receiving i r₀ marker f rings) {st : BackendState}
    (hst : st.protocol = (f i).state.protocol) :
    Receiving i r₀ marker (Function.update f i (SocketBackend.reap { f i with state := st }))
      rings := by
  have hkept : ({ f i with state := st } : SocketBackend).releaseRequested = false := h.kept
  rw [SocketBackend.reap_kept hkept]
  exact h.setBackend (hst.trans h.protocol) hkept

end Receiving

variable [SpiDmaDevice D]

/-- Servicing the driver leaves the slot with its handle, and puts whole frames
into its ring. -/
theorem upheld_receiving {i : Fin 8} {r₀ : SpscRing w} (he : Even r₀) :
    Upheld (w := w) (L := L) (D := D) (P := P) .blind
      (fun marker y => Receiving i r₀ marker y.1.backend y.1.rings)
      fun y => Receiving i r₀ none y.1.backend y.1.rings where
  common v :=
    ⟨fun _ _ _ _ => keeps_const (C := Receiving i r₀ none v.backend v.rings) (Wiznet.keeps_read _ _),
      fun _ _ _ _ => keeps_const (C := Receiving i r₀ none v.backend v.rings)
        (Wiznet.keeps_write _ _)⟩
  tick j v g _ _ h := by
    have hrun := Prog.run_watch (o := Observer.blind.comap Io.trans) (v.backend j).run (v.io j) g
    have hannounces := SocketBackend.run_announces he h.protocol h.kept (v.io i) h.arrives
    rcases hp : (v.backend j).run.run (v.io j) with ⟨⟨result, b⟩, io⟩
    rw [hp] at hrun
    rw [show ((v.backend j).run.watch ((DriverObserver.blind (L := L) (D := D) (P := P)).bus.comap
        Io.trans)).run (v.io j, g) = ((result, b), io, ()) from
      Prod.ext hrun.1 (Prod.ext hrun.2 rfl)]
    by_cases hj : i = j
    · subst hj
      rw [hp] at hannounces
      obtain ⟨⟨hproto, hkept⟩, harr, hfits⟩ := hannounces
      have hrings : Receiving i r₀ none v.backend (Function.update v.rings i io.rings) :=
        h.setRings harr nofun
      have hnone := hrings.setBackend hproto hkept
      rcases result with e | (_ | ⟨kind, pointer, len⟩)
      · exact hnone
      · exact hnone
      · refine (h.setRings harr ?_).setBackend hproto hkept
        intro op hop hidx
        cases hop
        exact hfits _ _ _ rfl
    · have hnone := h.elsewhere hj b io.rings
      rcases result with e | (_ | ⟨kind, pointer, len⟩)
      · exact hnone
      · exact hnone
      · refine hnone.remark ?_
        intro op hop hidx
        cases hop
        exact hj hidx.symm
  stalled j v g op st h hst := by
    by_cases hj : i = j
    · subst hj
      exact h.reap (sameStatus_protocol hst.status)
    · have helse := h.elsewhere hj (SocketBackend.reap { v.backend j with state := st }) (v.rings j)
      rwa [Function.update_eq_self] at helse
  finish op txn v g hbus hop h := by
    let J (io : Io w L D) : Prop :=
      Receiving i r₀ none v.backend (Function.update v.rings op.idx io.rings)
    have hstate : J (exec (finishBulk op) (v.io op.idx)).2 := by
      by_cases hi : i = op.idx
      · subst hi
        exact h.setRings (arrives_finishBulk he hop hbus h.arrives (h.fits op rfl rfl)) nofun
      · have helse := h.forget.elsewhere hi (v.backend op.idx)
          (exec (finishBulk op) (v.io op.idx)).2.rings
        rwa [Function.update_eq_self] at helse
    exact Triple.watch (P := (· = v.io op.idx)) (Q := fun _ => J) (E := fun _ => J)
      (fun _ hio => wp_of_state (hio ▸ hstate)) _ rfl
  dropped marker v g h := h.forget

variable [OutputPin P] {i : Fin 8} {r₀ : SpscRing w} {s : W6100 w L D P}

omit [SpiDmaDevice D] in
theorem Receiving.rearm {f : Fin 8 → SocketBackend} {rings : Fin 8 → SocketRings w} (j : Fin 8)
    (h : Receiving i r₀ none f rings) :
    Receiving i r₀ none (Function.update f j (f j).rearm) rings := by
  by_cases hj : i = j
  · subst hj
    have hproto := h.protocol
    have hkept := h.kept
    cases hst : (f i).state with
    | free | tcp => rw [hst] at hproto; cases hproto
    | udp u =>
      refine h.setBackend ?_ ?_
      · simp [SocketBackend.rearm, hkept, hst, BackendState.protocol]
      · simp [SocketBackend.rearm, hkept]
  · have helse := h.elsewhere hj (f j).rearm (rings j)
    rwa [Function.update_eq_self] at helse

/-- One call that may tick. -/
theorem receiving_serviced (he : Even r₀) (hs : Settled s)
    (h : Receiving i r₀ s.bulk.value s.view.backend s.view.rings) {c : Call}
    (hc : onSlots c = false) :
    Receiving i r₀ (s.apply c).bulk.value (s.apply c).view.backend (s.apply c).view.rings := by
  have hx := observe_fst (o := DriverObserver.blind (L := L) (D := D) (P := P)) (s, ()) c
  have hr := upheldReset_of_slots (L := L) (D := D) (P := P) (R := Receiving i r₀ none)
    fun j _ _ => Receiving.rearm j
  rw [← hx]
  rcases (upheld_receiving he).call hr (x := (s, ())) (stood_of_settled hs h) hc with
    hstood | ⟨-, hstood⟩
  · exact hstood.holds
  · obtain ⟨hmarker, hR⟩ := hstood.holds
    rwa [hmarker]

/-- An open, or a call on another handle, does not concern the slot. -/
theorem receiving_call (he : Even r₀) (hs : Settled s)
    (h : Receiving i r₀ s.bulk.value s.view.backend s.view.rings) {c : Call}
    (hc : ∀ call, c ≠ .handle i call) :
    Receiving i r₀ (s.apply c).bulk.value (s.apply c).view.backend (s.apply c).view.rings := by
  cases hslots : onSlots c with
  | false => exact receiving_serviced he hs h hslots
  | true =>
    obtain ⟨state, rx, tx, hclaim⟩ | ⟨j, call, rfl⟩ := onSlots_cases hslots
    · rw [apply_of_claim hs hclaim]
      cases hv : s.vacancy with
      | none => exact h
      | some j =>
        have hj : i ≠ j := by
          rintro rfl
          have hnone := isFree_iff_protocol.mp (vacancy_free hv)
          have hudp := h.protocol
          rw [show (s.view.backend i).state.protocol = none from hnone] at hudp
          cases hudp
        dsimp only
        rw [view_setSocket]
        exact h.elsewhere hj _ _
    · have hj : i ≠ j := by
        rintro rfl
        exact hc call rfl
      rw [view_apply_handle hs]
      exact h.elsewhere hj _ _

end W6100

/-! ## Calls on the handle -/

/-- A call of a UDP handle that takes no datagram and drops nothing. -/
def HandleCall.keepsRx : HandleCall → Bool
  | .udpSendTo _ _ | .udpStatus | .udpClose => true
  | _ => false

theorem HandleCall.apply_rx {x : Socket w} (hfree : x.backend.busy = false) {c : HandleCall}
    (hc : c.keepsRx = true) : (c.apply x).rings.rx = x.rings.rx := by
  cases c with
  | udpSendTo src dst => simp [HandleCall.apply, UdpSocket.send, Socket.ringsLens, SocketRings.txLens]
  | udpStatus => rw [HandleCall.apply, UdpSocket.status, exec_withBackend _ hfree]
  | udpClose => rw [HandleCall.apply, UdpSocket.close, exec_withBackend _ hfree]
  | _ => cases hc

/-- The ring as `clear` leaves it. -/
def SpscRing.cleared (r : SpscRing w) : SpscRing w :=
  { r with head := 0, framesOut := 0, framesIn := 0, tail := 0 }

/-- Where the counters agree there is nothing. -/
theorem SpscRing.framed_empty {r : SpscRing w} (hdvd : r.cap.toNat ∣ 2 ^ w)
    (hbytes : r.tail = r.head) (hframes : r.framesIn = r.framesOut) : Even r ∧ Framed [] r := by
  have hlen : (r.tail - r.head).toNat = 0 := by
    rw [hbytes, BitVec.sub_self]
    rfl
  have he : Even r := ⟨hdvd, by rw [hlen]; exact Nat.zero_le _⟩
  refine ⟨he, he.room, .inl hdvd, ?_, ?_⟩
  · exact List.length_eq_zero_iff.mp ((length_contents r).trans hlen)
  · rw [hframes, BitVec.sub_self]
    rfl

/-- `reconnect` empties the ring. -/
theorem HandleCall.apply_reconnect {x : Socket w} (hfree : x.backend.busy = false)
    {u : UdpSocketState} (hu : x.backend.value.state = .udp u) :
    (HandleCall.udpReconnect.apply x).rings.rx = x.rings.rx.cleared := by
  rw [HandleCall.apply, UdpSocket.reconnect, exec_holding Socket.backendLens _ hfree, exec_bind,
    exec_always]
  simp [exec_bind, setBusy, Socket.backendLens, hu, cellValue, Socket.ringsLens, SocketRings.clear,
    SocketRings.rxLens, SocketRings.txLens]
  rfl

/-! ## Runs -/

namespace W6100

open UdpSocket (Received recvFrom)

/-- The rx ring of slot `i`. -/
def rxLens (i : Fin 8) : Lens (W6100 w L D P) (SpscRing w) :=
  (ringsLens i).comp SocketRings.rxLens

variable [SpiDmaDevice D] [OutputPin P]

/-- Runs from where a UDP socket was opened in slot `i`, with a ring whose length
is a power of two, to where its handle is dropped. Calls of the driver and of
other handles come between any two steps of a `recv_from`; a `reconnect` only
comes between two calls. -/
inductive UdpRun (i : Fin 8) : W6100 w L D P → Thread (SpscRing w) Nat Received → Prop
  | opened {live : Fin 8 → List Protocol} {s : W6100 w L D P} (h : HandleRun live s)
      (srcPort : UInt16) (rx tx : List UInt8)
      (hopen : s.opened (.openUdp srcPort rx tx) = some (i, .udp)) (hpow : ∃ k, rx.length = 2 ^ k)
      -- a length is a `usize`
      (hmax : rx.length < 2 ^ w) : UdpRun i (s.apply (.openUdp srcPort rx tx)) .idle
  | call {s : W6100 w L D P} {t : Thread (SpscRing w) Nat Received} (h : UdpRun i s t) (c : Call)
      (hc : ∀ call, c ≠ .handle i call) : UdpRun i (s.apply c) t
  | handle {s : W6100 w L D P} {t : Thread (SpscRing w) Nat Received} (h : UdpRun i s t)
      {c : HandleCall} (hc : c.keepsRx = true) : UdpRun i (s.apply (.handle i c)) t
  | reconnect {s : W6100 w L D P} {t : Thread (SpscRing w) Nat Received} (h : UdpRun i s t)
      (hidle : t.active = none) : UdpRun i (s.apply (.handle i .udpReconnect)) t
  | begin {s : W6100 w L D P} {t : Thread (SpscRing w) Nat Received} (h : UdpRun i s t)
      (hidle : t.active = none) (dstLen : Nat) :
      UdpRun i s (t.begin recvFrom dstLen ((rxLens i).get s))
  | step {s : W6100 w L D P} {t : Thread (SpscRing w) Nat Received} (h : UdpRun i s t) :
      UdpRun i ((rxLens i).set (t.step ((rxLens i).get s)).2 s) (t.step ((rxLens i).get s)).1

/-- What holds at every point of a run. -/
structure Lent (i : Fin 8) (s : W6100 w L D P) (t : Thread (SpscRing w) Nat Received) : Prop where
  settled : Settled s
  even : Even ((rxLens i).get s)
  slot : Receiving i ((rxLens i).get s) s.bulk.value s.view.backend s.view.rings
  kept : receiver.Kept t ((rxLens i).get s)
  idle : t.active = none → ∃ fs, Framed fs ((rxLens i).get s)
  ended : ∀ f ∈ t.done, f.answer ≠ .spinning

section Lent

variable {i : Fin 8} {s s' : W6100 w L D P} {t : Thread (SpscRing w) Nat Received}

omit [SpiDmaDevice D] [OutputPin P] in
/-- Whole frames that arrive do not matter to the application. -/
theorem Lent.relied (h : Lent i s t) (hs : Settled s')
    (hr : Receiving i ((rxLens i).get s) s'.bulk.value s'.view.backend s'.view.rings) :
    Lent i s' t where
  settled := hs
  even := hr.arrives.even h.even
  slot := ⟨hr.protocol, hr.kept, ⟨[], .refl _⟩, hr.fits⟩
  kept := h.kept.relied hr.arrives
  idle hidle := by
    obtain ⟨fs, hf⟩ := h.idle hidle
    obtain ⟨more, hg⟩ := hr.arrives
    exact ⟨fs ++ more, hf.grown h.even hg⟩
  ended := h.ended

omit [SpiDmaDevice D] [OutputPin P] in
theorem view_setRx (i : Fin 8) (r : SpscRing w) (s : W6100 w L D P) :
    ((rxLens i).set r s).view = s.view.setRings i { s.view.rings i with rx := r } := by
  have hv := view_setSocket s i { s.sockets i with rings := { (s.sockets i).rings with rx := r } }
  rwa [show (s.sockets i).backend.value = s.view.backend i from rfl, View.setBackend,
    Function.update_eq_self] at hv

omit [SpiDmaDevice D] [OutputPin P] in
/-- What the application does to the ring. -/
theorem Lent.setRx (h : Lent i s t) {r : SpscRing w} {t' : Thread (SpscRing w) Nat Received}
    (he : Even r)
    (hroom : ((rxLens i).get s).cap.toNat - (((rxLens i).get s).tail - ((rxLens i).get s).head).toNat ≤
      r.cap.toNat - (r.tail - r.head).toNat)
    (hkept : receiver.Kept t' r) (hidle : t'.active = none → ∃ fs, Framed fs r)
    (hended : ∀ f ∈ t'.done, f.answer ≠ .spinning) : Lent i ((rxLens i).set r s) t' := by
  have hget : (rxLens i).get ((rxLens i).set r s) = r := (rxLens i).get_set r s
  refine ⟨?_, ?_, ?_, ?_, ?_, hended⟩
  · obtain ⟨hd, held, marker, ha, hi⟩ := h.settled
    exact ⟨hd, held, marker, ha, hi.setSocket ⟨(hi.slots i).free, (hi.slots i).block⟩⟩
  · rwa [hget]
  · rw [hget, view_setRx]
    exact h.slot.replace (x := { s.view.rings i with rx := r }) hroom
  · rwa [hget]
  · rwa [hget]

theorem Lent.opened {live : Fin 8 → List Protocol} (h : HandleRun live s) {srcPort : UInt16}
    {rx tx : List UInt8} (hopen : s.opened (.openUdp srcPort rx tx) = some (i, .udp))
    (hpow : ∃ k, rx.length = 2 ^ k) (hmax : rx.length < 2 ^ w) :
    Lent i (s.apply (.openUdp srcPort rx tx)) .idle := by
  obtain ⟨hs, hcar, -⟩ := h.tenanted
  have hclaim : (Call.openUdp srcPort rx tx).claim =
      some (.udp (UdpSocketState.bind srcPort), rx, tx) := rfl
  -- the slot was free, so nothing is recorded for it
  obtain ⟨j, hv, hj⟩ := Option.bind_eq_some_iff.mp ((opened_of_claim hs hclaim).symm.trans hopen)
  obtain rfl : j = i := by
    cases hj
    rfl
  have hidx (op : BulkOp) (hop : s.bulk.value = some op) : op.idx ≠ j := by
    rintro rfl
    have hfree := vacancy_free hv
    have hmoving : (s.view.backend op.idx).isMoving = true := hcar op hop
    simp [SocketBackend.isMoving, view, hfree] at hmoving
  have happly : s.apply (.openUdp srcPort rx tx) = (socketLens j).set
      ((s.sockets j).claimed (.udp (UdpSocketState.bind srcPort)) rx tx) s := by
    rw [apply_of_claim hs hclaim, hv]
  -- the ring is empty
  obtain ⟨k, hk⟩ := hpow
  let r : SpscRing w := ⟨fun n => rx.getD n 0, BitVec.ofNat w rx.length, 0, 0, 0, 0⟩
  obtain ⟨he, hf⟩ : Even r ∧ Framed [] r := by
    refine framed_empty ?_ rfl rfl
    rw [show r.cap.toNat = rx.length from (BitVec.toNat_ofNat ..).trans (Nat.mod_eq_of_lt hmax), hk]
    exact Nat.pow_dvd_pow 2 ((Nat.pow_le_pow_iff_right (by decide)).mp (hk ▸ hmax.le))
  have hget : (rxLens j).get (s.apply (.openUdp srcPort rx tx)) = r := by
    rw [happly, rxLens, ringsLens, Lens.comp_get, Lens.comp_get, (socketLens j).get_set]
    rfl
  refine ⟨hs.apply _, ?_, ?_, .idle rfl, fun _ => ⟨[], ?_⟩, by rintro _ ⟨⟩⟩
  · rwa [hget]
  · have hview := view_setSocket s j
      ((s.sockets j).claimed (.udp (UdpSocketState.bind srcPort)) rx tx)
    rw [hget, happly, hview]
    refine ⟨?_, ?_, ?_, fun op hop hi => absurd hi (hidx op hop)⟩ <;>
      simp only [View.setRings, View.setBackend, Function.update_self]
    · rfl
    · rfl
    · exact ⟨[], .refl r⟩
  · rwa [hget]

theorem Lent.call (h : Lent i s t) {c : Call} (hc : ∀ call, c ≠ .handle i call) :
    Lent i (s.apply c) t :=
  h.relied (h.settled.apply c) (receiving_call h.even h.settled h.slot hc)

theorem Lent.handle (h : Lent i s t) {c : HandleCall} (hc : c.keepsRx = true) :
    Lent i (s.apply (.handle i c)) t := by
  have hfree : (s.sockets i).backend.busy = false := by
    obtain ⟨-, _, _, -, hin⟩ := h.settled
    exact (hin.slots i).free
  have hrx := HandleCall.apply_rx hfree hc
  have hkeep : c ≠ .tcpDrop ∧ c ≠ .udpDrop := by cases c <;> simp [HandleCall.keepsRx] at hc ⊢
  refine h.relied (h.settled.apply _) ?_
  rw [view_apply_handle h.settled]
  refine Receiving.setRings (h.slot.setBackend ?_ ?_) ?_ ?_
  · exact (HandleCall.onBackend_protocol _ c).trans h.slot.protocol
  · exact (HandleCall.onBackend_releaseRequested _ hkeep.1 hkeep.2).trans h.slot.kept
  · rw [hrx]
    exact h.slot.arrives
  · rw [hrx]
    exact h.slot.fits

theorem Lent.reconnect (h : Lent i s t) (hidle : t.active = none) :
    Lent i (s.apply (.handle i .udpReconnect)) t := by
  have hfree : (s.sockets i).backend.busy = false := by
    obtain ⟨-, _, _, -, hin⟩ := h.settled
    exact (hin.slots i).free
  obtain ⟨he, hf⟩ := framed_empty (r := ((rxLens i).get s).cleared) h.even.dvd rfl rfl
  have hrx : (HandleCall.udpReconnect.apply (s.sockets i)).rings.rx = ((rxLens i).get s).cleared := by
    have hproto := h.slot.protocol
    cases hst : (s.sockets i).backend.value.state with
    | free | tcp =>
      rw [show (s.view.backend i).state = (s.sockets i).backend.value.state from rfl, hst] at hproto
      cases hproto
    | udp u => exact HandleCall.apply_reconnect hfree hst
  have hget : (rxLens i).get (s.apply (.handle i .udpReconnect)) = ((rxLens i).get s).cleared := by
    have hv := congrArg (fun v => (v.rings i).rx) (view_apply_handle h.settled i .udpReconnect)
    simp only [View.setRings, Function.update_self, hrx] at hv
    exact hv
  refine ⟨h.settled.apply _, ?_, ?_, ?_, ?_, h.ended⟩
  · rwa [hget]
  · rw [hget, view_apply_handle h.settled, ← hrx]
    refine Receiving.replace (h.slot.setBackend ?_ ?_) ?_
    · exact (HandleCall.onBackend_protocol _ _).trans h.slot.protocol
    · exact (HandleCall.onBackend_releaseRequested (c := .udpReconnect) _ (by rintro ⟨⟩)
        (by rintro ⟨⟩)).trans h.slot.kept
    · rw [hrx, show ((rxLens i).get s).cleared.tail - ((rxLens i).get s).cleared.head = 0 from
        BitVec.sub_self 0]
      exact Nat.sub_le_sub_left (Nat.zero_le _) _
  · exact .idle hidle
  · rw [hget]
    exact fun _ => ⟨[], hf⟩

omit [SpiDmaDevice D] [OutputPin P] in
theorem Lent.begin (h : Lent i s t) (hidle : t.active = none) (dstLen : Nat) :
    Lent i s (t.begin recvFrom dstLen ((rxLens i).get s)) := by
  obtain ⟨fs, hf⟩ := h.idle hidle
  refine ⟨h.settled, h.even, h.slot, ?_, nofun, h.ended⟩
  exact .begin ⟨_, _, rfl⟩ (receiver_recvFrom h.even hf dstLen)

omit [SpiDmaDevice D] [OutputPin P] in
theorem Lent.step (h : Lent i s t) :
    Lent i ((rxLens i).set (t.step ((rxLens i).get s)).2 s) (t.step ((rxLens i).get s)).1 := by
  rcases h.kept.step with heq | ⟨⟨n, hn, hr⟩, ⟨a, ha⟩, hkept⟩ | ⟨f, ⟨hr, fs, -, htook⟩, hend⟩
  · rw [heq, (rxLens i).set_get]
    exact h
  · rw [hr] at hkept ⊢
    rw [ha] at hkept ⊢
    refine h.setRx (h.even.popped hn) ?_ hkept nofun h.ended
    rw [popped, toNat_sub_advance hn]
    exact Nat.sub_le_sub_left (Nat.sub_le _ _) _
  · rw [hend]
    obtain ⟨hframed, hanswer⟩ := htook.framed
    refine h.setRx ?_ ?_ (.idle rfl) (fun _ => hframed) ?_
    · obtain hr | hr := hr <;> rw [hr]
      · exact h.even
      · exact ⟨h.even.dvd, h.even.room⟩
    · obtain hr | hr := hr <;> rw [hr]
    · intro f' hf'
      rcases List.mem_append.mp hf' with hf' | hf'
      · exact h.ended f' hf'
      · obtain rfl := List.mem_singleton.mp hf'
        exact hanswer

end Lent

theorem UdpRun.lent {i : Fin 8} {s : W6100 w L D P} {t : Thread (SpscRing w) Nat Received}
    (h : UdpRun i s t) : Lent i s t := by
  induction h with
  | opened h srcPort rx tx hopen hpow hmax => exact .opened h hopen hpow hmax
  | call _ c hc ih => exact ih.call hc
  | handle _ hc ih => exact ih.handle hc
  | reconnect _ hidle ih => exact ih.reconnect hidle
  | begin _ hidle dstLen ih => exact ih.begin hidle dstLen
  | step _ ih => exact ih.step

/-- In every run the rx ring of the slot is a whole number of frames whenever no
`recv_from` is under way, as many as `frames()` counts; no loop of a `recv_from`
is left waiting for bytes, every call comes to its end whatever happens between
its steps, and its last step leaves the ring without exactly one frame. -/
theorem recvFrom_takes_frames {i : Fin 8} {s : W6100 w L D P}
    {t : Thread (SpscRing w) Nat Received} (h : UdpRun i s t) :
    let r := (rxLens i).get s
    (t.active = none → ∃ fs, Framed fs r) ∧ (∀ f ∈ t.done, f.answer ≠ .spinning) ∧
      (∀ env, ∃ n, (t.driven env n r).1.active = none) ∧
      ∀ f, (t.step r).1 = ⟨none, t.done ++ [f]⟩ →
        ∃ fs, Framed fs f.start ∧ Took fs f.request f.start (t.step r).2 f.answer := by
  intro r
  have hlent := h.lent
  refine ⟨hlent.idle, hlent.ended, fun env => ?_, fun f hf => ?_⟩
  · exact t.driven_ends env r fun a ha => (hlent.kept a ha).1
  · have hdone := congrArg (fun t : Thread (SpscRing w) Nat Received => t.done.length) hf
    rcases hlent.kept.step with heq | ⟨-, ⟨a, ha⟩, -⟩ | ⟨f', ⟨-, fs, hstart, htook⟩, hend⟩
    · simp [r, heq] at hdone
    · simp [r, ha] at hdone
    · have hsame : f' = f := by simpa using congrArg Thread.done (hend.symm.trans hf)
      subst hsame
      exact ⟨fs, hstart, htook⟩

/-- Steps of the call and nothing in between. -/
theorem UdpRun.stepped {i : Fin 8} {s : W6100 w L D P} {t : Thread (SpscRing w) Nat Received}
    (h : UdpRun i s t) (n : Nat) :
    UdpRun i (Thread.stepped (rxLens i) n (s, t)).1 (Thread.stepped (rxLens i) n (s, t)).2 := by
  induction n generalizing s t with
  | zero => exact h
  | succ n ih => exact ih h.step

/-- The socket is opened, and a datagram of three bytes arrives. -/
def arrival : List (Option (List UInt8)) :=
  -- the link, the open, and SOCK_UDP
  [some [1]] ++ List.replicate 5 (some []) ++ [some [1], some [0], some [0x22]] ++
  -- the link, no interrupt, Sn_RX_RSR, Sn_RX_RD, the packet's header and its payload
  [some [1], some [0], some [0, 11], some [0, 0], some [0, 3, 10, 0, 0, 1, 0, 9], some [1, 2, 3]] ++
  -- Sn_RX_RD and RECV, and the link again
  List.replicate 3 (some []) ++ [some [1]]

/-- A UDP socket with a ring of 32 bytes. -/
def lent : W6100 64 16 (Logged Scripted) Unit :=
  (fresh arrival).apply (.openUdp 7 (List.replicate 32 0) [])

/-- The datagram is in the ring. -/
def delivered : W6100 64 16 (Logged Scripted) Unit :=
  (((lent.apply .service).apply .service).apply .service).apply .dmaComplete

/-- A `recv_from` of two bytes, with a pass of the driver in the middle, up to its
last step. -/
def receiving : W6100 64 16 (Logged Scripted) Unit × Thread (SpscRing 64) Nat Received :=
  let (s, t) := Thread.stepped (rxLens 0) 10
    (delivered, Thread.idle.begin recvFrom 2 ((rxLens 0).get delivered))
  Thread.stepped (rxLens 0) 16 (s.apply .service, t)

theorem delivered_udpRun : UdpRun 0 delivered .idle := by
  have hopened : (fresh arrival).opened (.openUdp 7 (List.replicate 32 0) []) = some (0, .udp) := by
    decide
  have hlent : UdpRun 0 lent .idle := .opened (.new _ _ _ _) 7 _ [] hopened ⟨5, rfl⟩ (by decide)
  exact (((hlent.call .service (by rintro _ ⟨⟩)).call .service (by rintro _ ⟨⟩)).call .service
    (by rintro _ ⟨⟩)).call .dmaComplete (by rintro _ ⟨⟩)

theorem receiving_udpRun : UdpRun 0 receiving.1 receiving.2 :=
  (((delivered_udpRun.begin rfl 2).stepped 10).call .service (by rintro _ ⟨⟩)).stepped 16

/-- One frame is in the ring, the buffer is shorter than its payload, and the last
step takes all of it. -/
theorem recvFrom_takes_frames_lent :
    contents ((rxLens 0).get delivered) = [0, 3, 10, 0, 0, 1, 0, 9, 1, 2, 3] ∧
      (∃ fs, Framed fs ((rxLens 0).get delivered)) ∧
      (∀ env, ∃ n, (receiving.2.driven env n ((rxLens 0).get receiving.1)).1.active = none) ∧
      ∃ f fs, (receiving.2.step ((rxLens 0).get receiving.1)).1 = ⟨none, [f]⟩ ∧
        f.answer = .datagram [1, 2] ⟨0x0A000001, 9⟩ ∧ Framed fs f.start ∧
        Took fs 2 f.start (receiving.2.step ((rxLens 0).get receiving.1)).2 f.answer := by
  obtain ⟨-, -, hends, htakes⟩ := recvFrom_takes_frames receiving_udpRun
  obtain ⟨a, ha⟩ : ∃ a, receiving.2.active = some a := Option.isSome_iff_exists.mp (by decide +kernel)
  have hnone : receiving.2.done = [] := List.length_eq_zero_iff.mp (by decide +kernel)
  have hdone : (receiving.2.step ((rxLens 0).get receiving.1)).1.done.map
      (fun f => (f.request, f.answer)) = [(2, .datagram [1, 2] ⟨0x0A000001, 9⟩)] := by decide +kernel
  refine ⟨by decide +kernel, (recvFrom_takes_frames delivered_udpRun).1 rfl, hends, ?_⟩
  generalize receiving = x at *
  rcases Thread.step_active ha ((rxLens 0).get x.1) with ⟨a', -, -, hend⟩ | ⟨answer, hend⟩
  · rw [hend, hnone] at hdone
    cases hdone
  · obtain ⟨fs, hframed, htook⟩ := htakes _ hend
    rw [hend, hnone] at hdone ⊢
    simp only [List.nil_append, List.map_cons, List.map_nil, List.cons.injEq, Prod.mk.injEq,
      and_true] at hdone
    obtain ⟨hrequest, hanswer⟩ := hdone
    rw [hrequest] at htook
    exact ⟨_, fs, rfl, hanswer, hframed, htook⟩

end W6100

end Wiznet
