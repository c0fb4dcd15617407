import Wiznet.LiveChip
import Wiznet.SlotOwners

/-! # One socket among eight

What is known of one socket of the chip and of the rings of its slot. Ticks and
transfers of other slots, accesses to the common registers and calls of other
handles do not concern it, so that its own ticks and completions are all that
is left to prove of it. -/

namespace Wiznet
open Resumption Resumption.Code LiveChip
open W6100 (Ticked Upheld)

variable {w L size : Nat} {P : Type} {i j : Fin 8}

namespace LiveChip.Passive

variable {W : Address → List UInt8 → Prop} {J : LiveChip size → Prop}

/-- The writes of an epilogue move one data pointer. -/
theorem keeps_epilogue (h : Passive W J) (hL : 67 ≤ L) {op : BulkOp}
    (hW : ∀ addr data, addr.block = op.block.reg →
      (addr.address = SN_TX_WR0 → op.kind = .transmit) →
      (addr.address = SN_RX_RD0 → op.kind ≠ .transmit) → W addr data) :
    Keeps (IdleOn (L := L) J) (W6100.epilogue op) := by
  have hwrite {address : UInt16} {n v : Nat} (hn : n ≤ 64)
      (htx : address = SN_TX_WR0 → op.kind = .transmit)
      (hrx : address = SN_RX_RD0 → op.kind ≠ .transmit) :
      Keeps (IdleOn (L := L) J)
        (Wiznet.write ⟨address, op.block.reg⟩ (BigEndian.encode n v)) :=
    h.keeps_write (hW _ _ rfl htx hrx) (by rw [BigEndian.encode_length, HEADER]; omega)
  have hcommit (hkind : op.kind ≠ .transmit) :
      Keeps (IdleOn (L := L) J) (W6100.commitReceive op) := by
    refine (hwrite (by decide) (fun h => absurd h (by decide)) fun _ => hkind).bind fun _ => ?_
    refine (hwrite (by decide) (fun h => absurd h (by decide)) fun h => absurd h (by decide)).bind
      fun _ => ?_
    exact hwrite (by decide) (fun h => absurd h (by decide)) fun h => absurd h (by decide)
  unfold W6100.epilogue
  split
  next hkind => exact hcommit (by rw [hkind]; rintro ⟨⟩)
  next hkind => exact hcommit (by rw [hkind]; rintro ⟨⟩)
  next hkind =>
    refine (hwrite (by decide) (fun _ => hkind) fun h => absurd h (by decide)).bind fun _ => ?_
    exact hwrite (by decide) (fun h => absurd h (by decide)) fun h => absurd h (by decide)

end LiveChip.Passive

/-- A tick of a slot whose TCP handle is alive, when nobody watches. -/
theorem SocketBackend.run_conducts {b : SocketBackend} {io : Io w L (LiveChip size)}
    {J : Io w L (LiveChip size) → Prop}
    {R : BulkKind → UInt16 → Nat → Io w L (LiveChip size) → Prop}
    (hp : b.state.protocol = some .tcp) (hr : b.releaseRequested = false)
    (hc : TcpSocketState.Conducts .blind b.block (fun x => J x.1)
      fun kind pointer len x => R kind pointer len x.1) (h : J io) :
    match b.run.run io with
    | ((result, b'), io') =>
      (b'.state.protocol = some .tcp ∧ b'.releaseRequested = false) ∧
      match result with
      | .ok (.started kind pointer len) => R kind pointer len io'
      | _ => J io' := by
  obtain ⟨t, hst⟩ : ∃ t, b.state = .tcp t := by
    cases hst : b.state with
    | free | udp => rw [hst] at hp; cases hp
    | tcp t => exact ⟨t, rfl⟩
  have hrun := SocketBackend.run_watch_conducts hst hr hc io () h
  obtain ⟨hplain, hstate⟩ := Prog.run_watch (o := Observer.blind.comap Io.trans) b.run io ()
  rcases hw : (b.run.watch (Observer.blind.comap Io.trans)).run (io, ()) with ⟨⟨result, b'⟩, x⟩
  rw [hw] at hrun hplain hstate
  rcases hb : b.run.run io with ⟨⟨result', b''⟩, io'⟩
  rw [hb] at hplain hstate
  cases hplain
  cases hstate
  obtain ⟨⟨⟨t', ht'⟩, hkept⟩, hresult⟩ := hrun
  refine ⟨⟨by rw [ht']; rfl, hkept⟩, ?_⟩
  rcases result with e | (_ | ⟨kind, pointer, len⟩) <;> exact hresult

/-- What holds of socket `i`, of the machine and the rings of its slot and of a
transfer in flight for it, and that what the slot itself does keeps it. -/
structure Lane (w L size : Nat) (i : Fin 8) where
  protocol : Protocol
  /-- The writes that do not matter. -/
  spares : Address → List UInt8 → Prop
  rest : BackendState → SocketRings w → LiveChip size → Prop
  flight : BackendState → BulkOp → SocketRings w → Transaction L (LiveChip size) → Prop
  spared : ∀ addr data, addr.block ≠ .socketRegister i → addr.block ≠ .socketTxBuffer i →
    spares addr data
  passive : ∀ st rings, Passive spares (rest st rings)
  stalled : ∀ {st st'}, SocketBackend.StallsTo st st' →
    (∀ rings c, rest st rings c → rest st' rings c) ∧
      ∀ op rings txn, flight st op rings txn → flight st' op rings txn
  tick : ∀ (b : SocketBackend) (io : Io w L (LiveChip size)), b.state.protocol = some protocol →
    b.releaseRequested = false → b.block = socketBlock i →
    IdleOn (rest b.state io.rings) io.trans →
    match b.run.run io with
    | ((result, b'), io') =>
      (b'.state.protocol = some protocol ∧ b'.releaseRequested = false) ∧
      match result with
      | .ok (.started kind pointer len) => ∃ txn, io'.trans = .inFlight txn ∧
        flight b'.state ⟨i, kind, socketBlock i, pointer, len⟩ io'.rings txn
      | _ => IdleOn (rest b'.state io'.rings) io'.trans
  finish : ∀ st op txn (io : Io w L (LiveChip size)), op.idx = i → Describes op txn →
    io.trans = .inFlight txn → flight st op io.rings txn →
    wp (W6100.finishBulk op) (fun _ io' => IdleOn (rest st io'.rings) io'.trans)
      (fun _ io' => IdleOn (rest st io'.rings) io'.trans) io

namespace Lane

variable {l l' : Lane w L size i} {marker : Option BulkOp} {v : View w L (LiveChip size) P}
  {st : BackendState}

/-- What holds of the bus, with what is recorded. -/
def Bus (l : Lane w L size i) (marker : Option BulkOp) (st : BackendState)
    (io : Io w L (LiveChip size)) : Prop :=
  match marker with
  | none => IdleOn (l.rest st io.rings) io.trans
  | some op => ∃ txn, io.trans = .inFlight txn ∧
    if op.idx = i then l.flight st op io.rings txn else l.rest st io.rings txn.dev

/-- A bus of which no more is said. -/
theorem Bus.imp {rings rings' : SocketRings w} {st' : BackendState}
    {bus : Transceiver L (LiveChip size)} (h : l.Bus marker st ⟨bus, rings⟩)
    (hrest : ∀ c, l.rest st rings c → l'.rest st' rings' c)
    (hflight : ∀ op txn, l.flight st op rings txn → l'.flight st' op rings' txn) :
    l'.Bus marker st' ⟨bus, rings'⟩ := by
  cases marker with
  | none =>
    obtain ⟨dev, scratch, hdev, hr⟩ := h
    exact ⟨dev, scratch, hdev, hrest _ hr⟩
  | some op =>
    obtain ⟨txn, htxn, hr⟩ := h
    refine ⟨txn, htxn, ?_⟩
    dsimp only at hr ⊢
    by_cases hi : op.idx = i
    · rw [if_pos hi] at hr ⊢
      exact hflight op txn hr
    · rw [if_neg hi] at hr ⊢
      exact hrest _ hr

/-- Slot `i` belongs to a live handle of the protocol, and the lane holds. -/
structure Holds (l : Lane w L size i) (marker : Option BulkOp) (v : View w L (LiveChip size) P) :
    Prop where
  protocol : (v.backend i).state.protocol = some l.protocol
  kept : (v.backend i).releaseRequested = false
  bus : l.Bus marker (v.backend i).state (v.io i)

theorem Holds.setBackend (h : l.Holds marker v) {b : SocketBackend}
    (hp : b.state.protocol = some l.protocol) (hk : b.releaseRequested = false)
    (hrest : ∀ c, l.rest (v.backend i).state (v.rings i) c → l.rest b.state (v.rings i) c)
    (hflight : ∀ op txn, l.flight (v.backend i).state op (v.rings i) txn →
      l.flight b.state op (v.rings i) txn) : l.Holds marker (v.setBackend i b) := by
  have hbus : l.Bus marker b.state (v.io i) := Bus.imp h.bus hrest hflight
  refine ⟨?_, ?_, ?_⟩ <;> simpa only [View.setBackend, Function.update_self]

/-- What happens in another slot. -/
theorem Holds.elsewhere (h : l.Holds marker v) (hj : i ≠ j) (b : SocketBackend)
    (r : SocketRings w) : l.Holds marker ((v.setBackend j b).setRings j r) := by
  obtain ⟨hp, hk, hb⟩ := h
  constructor <;> simpa only [View.setBackend, View.setRings, View.io, Function.update_of_ne hj]

/-- What the application does to the rings of the slot. -/
theorem Holds.setRings (h : l.Holds marker v) {r : SocketRings w} (hp : l'.protocol = l.protocol)
    (hrest : ∀ c, l.rest (v.backend i).state (v.rings i) c → l'.rest (v.backend i).state r c)
    (hflight : ∀ op txn, l.flight (v.backend i).state op (v.rings i) txn →
      l'.flight (v.backend i).state op r txn) : l'.Holds marker (v.setRings i r) := by
  refine ⟨by rw [hp]; exact h.protocol, h.kept, ?_⟩
  rw [show (v.setRings i r).io i = ⟨v.bus, r⟩ by
    simp only [View.setRings, View.io, Function.update_self]]
  exact Bus.imp h.bus hrest hflight

variable (l)

/-- A tick of another slot. -/
theorem foreign_tick (hL : 67 ≤ L) (hj : i ≠ j) (h : l.Holds none v)
    (hblock : (v.backend j).block = socketBlock j) :
    match (v.backend j).run.run (v.io j) with
    | ((result, b), io) => Ticked (fun m (y : View w L (LiveChip size) P × Unit) => l.Holds m y.1)
      j none b result ((v.setIo j io).setBackend j b, ()) := by
  have hserves := (l.passive (v.backend i).state (v.rings i)).serves (L := L) hL
    (show (v.backend j).block.rx = .socketRxBuffer j by rw [hblock]; rfl) (by
      rw [hblock]
      intro addr data ha
      refine l.spared addr data ?_ ?_ <;> rintro hb <;> rcases ha with ha | ha <;> rw [hb] at ha
      · exact hj (BlockSelectionBits.socketRegister.inj ha)
      · cases ha
      · cases ha
      · exact hj (BlockSelectionBits.socketTxBuffer.inj ha))
  obtain ⟨hacc, -⟩ := SocketBackend.run_accounts (v.backend j) hserves (v.io j) h.bus
  rcases hr : (v.backend j).run.run (v.io j) with ⟨⟨result, b⟩, io⟩
  rw [hr] at hacc
  have hother (m : Option BulkOp) (hb : l.Bus m (v.backend i).state ⟨io.trans, v.rings i⟩) :
      l.Holds m ((v.setIo j io).setBackend j b) := by
    refine ⟨?_, ?_, ?_⟩ <;>
      simp only [View.setIo, View.setBackend, View.io, Function.update_of_ne hj]
    · exact h.protocol
    · exact h.kept
    · exact hb
  rcases result with e | (_ | ⟨kind, pointer, len⟩)
  · exact hother none hacc
  · exact hother none hacc
  · obtain ⟨txn, htxn, hrest⟩ := hacc
    refine hother (some _) ⟨txn, htxn, ?_⟩
    rw [if_neg (Ne.symm hj)]
    exact hrest

/-- The completion of a transfer of another slot. -/
theorem foreign_finish (hL : 67 ≤ L) {op : BulkOp} {txn : Transaction L (LiveChip size)}
    (hi : op.idx ≠ i) (hop : Describes op txn) (h : l.Holds (some op) v)
    (hbus : v.bus = .inFlight txn) :
    wp (W6100.finishBulk op) (fun _ io => l.Holds none (v.setIo op.idx io))
      (fun _ io => l.Holds none (v.setIo op.idx io)) (v.io op.idx) := by
  obtain ⟨txn', htxn, hrest⟩ := h.bus
  obtain rfl : txn' = txn := DmaState.inFlight.inj (htxn.symm.trans hbus)
  rw [if_neg hi] at hrest
  have hbus' : (v.io op.idx).trans = .inFlight txn' := hbus
  refine (W6100.wp_finishBulk_iff hbus').mpr ?_
  have hkeeps : Keeps (IdleOn (l.rest (v.backend i).state (v.rings i))) (W6100.epilogue op) :=
      (l.passive _ (v.rings i)).keeps_epilogue hL fun addr data ha _ _ => by
    rw [hop.block] at ha
    refine l.spared addr data ?_ ?_ <;> rw [ha]
    · exact fun hb => hi (BlockSelectionBits.socketRegister.inj hb)
    · rintro ⟨⟩
  have hstep (cell : Transceiver L (LiveChip size)) (r : SocketRings w)
      (hc : IdleOn (l.rest (v.backend i).state (v.rings i)) cell) :
      l.Holds none (v.setIo op.idx ⟨cell, r⟩) := by
    refine ⟨h.protocol, h.kept, ?_⟩
    change IdleOn (l.rest (v.backend i).state (Function.update v.rings op.idx r i)) cell
    rwa [Function.update_of_ne (Ne.symm hi)]
  exact wp_mono (hkeeps _ ⟨_, _, rfl, hrest⟩) (fun _ _ hc => hstep _ _ hc) fun _ _ hc => hstep _ _ hc

/-- Servicing the driver keeps the lane. -/
theorem upheld (hL : 67 ≤ L) :
    Upheld (w := w) (L := L) (D := LiveChip size) (P := P) .blind (fun m y => l.Holds m y.1)
      fun _ => True where
  common v := by
    have hlift {α : Type} {c : Code Error (Transceiver L (LiveChip size)) α}
        (hheld : Keeps (Held none) c)
        (hc : Keeps (IdleOn (l.rest (v.backend i).state (v.rings i))) c) :
        Keeps (fun x => Held none x.1 ∧ l.Holds none (v.setBus x.1)) (c.watch .blind) := by
      refine Keeps.watch (J := fun cell => Held none cell ∧ l.Holds none (v.setBus cell)) ?_
      rintro cell ⟨hcell, h⟩
      exact wp_mono (wp_and (hheld cell hcell) (hc cell h.bus))
        (fun _ _ hx => ⟨hx.1, h.protocol, h.kept, hx.2⟩) fun _ _ hx => ⟨hx.1, h.protocol, h.kept, hx.2⟩
    refine ⟨fun addr n ha hn => ?_, fun addr data ha hn => ?_⟩
    · exact hlift (keeps_read _ _) ((l.passive _ _).keeps_read addr (by rw [HEADER]; omega))
    · refine hlift (keeps_write _ _) ((l.passive _ _).keeps_write (l.spared addr data ?_ ?_)
        (by rw [HEADER]; omega)) <;> rw [ha] <;> rintro ⟨⟩
  tick j v g hblock _ h := by
    have hrun := Prog.run_watch (o := Observer.blind.comap Io.trans) (v.backend j).run (v.io j) g
    rcases hp : (v.backend j).run.run (v.io j) with ⟨⟨result, b⟩, io⟩
    rw [hp] at hrun
    rw [show ((v.backend j).run.watch ((DriverObserver.blind (L := L) (D := LiveChip size)
        (P := P)).bus.comap Io.trans)).run (v.io j, g) = ((result, b), io, ()) from
      Prod.ext hrun.1 (Prod.ext hrun.2 rfl)]
    by_cases hj : i = j
    · subst hj
      have htick := l.tick (v.backend i) (v.io i) h.protocol h.kept hblock h.bus
      have hb := (SocketBackend.run_block (v.backend i) (v.io i)).trans hblock
      rw [hp] at htick hb
      obtain ⟨⟨hproto, hkept⟩, hresult⟩ := htick
      have hown (m : Option BulkOp) (hbus : l.Bus m b.state io) :
          l.Holds m ((v.setIo i io).setBackend i b) := by
        refine ⟨?_, ?_, ?_⟩ <;>
          simp only [View.setIo, View.setBackend, View.io, Function.update_self]
        · exact hproto
        · exact hkept
        · exact hbus
      rcases result with e | (_ | ⟨kind, pointer, len⟩)
      · exact hown none hresult
      · exact hown none hresult
      · obtain ⟨txn, htxn, hf⟩ := hresult
        refine hown (some _) ⟨txn, htxn, ?_⟩
        rw [if_pos rfl, show b.block = socketBlock i from hb]
        exact hf
    · have h' := l.foreign_tick hL hj h hblock
      rw [hp] at h'
      exact h'
  stalled j v g op st h hst := by
    by_cases hj : i = j
    · subst hj
      have hkept : ({ v.backend i with state := st } : SocketBackend).releaseRequested = false :=
        h.kept
      dsimp only
      rw [SocketBackend.reap_kept hkept]
      obtain ⟨hrest, hflight⟩ := l.stalled hst
      exact h.setBackend ((W6100.sameStatus_protocol hst.status).trans h.protocol) hkept
        (hrest _) fun op txn hf => hflight op _ txn hf
    · have helse := h.elsewhere hj (SocketBackend.reap { v.backend j with state := st }) (v.rings j)
      rwa [View.setRings, View.setBackend, Function.update_eq_self] at helse
  finish op txn v g hbus hop h := by
    refine Triple.watch (P := (· = v.io op.idx)) (Q := fun _ io => l.Holds none (v.setIo op.idx io))
      (E := fun _ io => l.Holds none (v.setIo op.idx io)) ?_ _ rfl
    rintro _ rfl
    by_cases hi : op.idx = i
    · obtain ⟨txn', htxn, hf⟩ := h.bus
      obtain rfl : txn' = txn := DmaState.inFlight.inj (htxn.symm.trans hbus)
      rw [if_pos hi] at hf
      subst hi
      have hstep (io : Io w L (LiveChip size))
          (hc : IdleOn (l.rest (v.backend op.idx).state io.rings) io.trans) :
          l.Holds none (v.setIo op.idx io) := by
        refine ⟨h.protocol, h.kept, ?_⟩
        change IdleOn (l.rest (v.backend op.idx).state
          (Function.update v.rings op.idx io.rings op.idx)) io.trans
        rwa [Function.update_self]
      exact wp_mono (l.finish _ op txn' (v.io op.idx) rfl hop hbus hf) (fun _ io hc => hstep io hc)
        fun _ io hc => hstep io hc
    · exact l.foreign_finish hL hi hop h hbus
  dropped _ _ _ _ := trivial

/-- What time and all writes keep is kept beside a TCP handle. -/
def passing {J : LiveChip size → Prop} (hp : Passive (fun _ _ => True) J) (hL : 67 ≤ L)
    (i : Fin 8) : Lane w L size i where
  protocol := .tcp
  spares _ _ := True
  rest _ _ := J
  flight _ _ _ txn := J txn.dev
  spared _ _ _ _ := trivial
  passive _ _ := hp
  stalled _ := ⟨fun _ _ h => h, fun _ _ _ h => h⟩
  tick b io hproto hr hblock hidle := by
    have hserves := hp.serves hL (show b.block.rx = .socketRxBuffer i by rw [hblock]; rfl)
      fun _ _ _ => trivial
    have htick := SocketBackend.run_conducts (J := fun io => IdleOn J io.trans)
      (R := fun _ _ _ io => InFlightOn J io.trans) hproto hr (TcpSocketState.conducts hserves) hidle
    rcases hb : b.run.run io with ⟨⟨result, b'⟩, io'⟩
    rw [hb] at htick
    obtain ⟨hslot, hresult⟩ := htick
    refine ⟨hslot, ?_⟩
    rcases result with e | (_ | ⟨kind, pointer, len⟩) <;> exact hresult
  finish _ op txn io _ _ hbus hf :=
    (W6100.wp_finishBulk_iff hbus).mpr
      (hp.keeps_epilogue hL (fun _ _ _ _ _ => trivial) _ ⟨_, _, rfl, hf⟩)

end Lane

/-! ## Calls -/

/-- A call of a handle that touches no ring. -/
def HandleCall.keepsRings : HandleCall → Bool
  | .tcpStatus | .tcpClose | .udpStatus | .udpClose => true
  | _ => false

theorem HandleCall.apply_rings {x : Socket w} (hfree : x.backend.busy = false) {c : HandleCall}
    (hc : c.keepsRings = true) : (c.apply x).rings = x.rings := by
  cases c with
  | tcpStatus => rw [HandleCall.apply, TcpSocket.status, exec_withBackend _ hfree]
  | tcpClose => rw [HandleCall.apply, TcpSocket.close, exec_withBackend _ hfree]
  | udpStatus => rw [HandleCall.apply, UdpSocket.status, exec_withBackend _ hfree]
  | udpClose => rw [HandleCall.apply, UdpSocket.close, exec_withBackend _ hfree]
  | _ => cases hc

theorem HandleCall.onBackend_sameStatus (b : SocketBackend) {c : HandleCall}
    (hc : c.keepsRings = true) : SocketBackend.SameStatus b.state (c.onBackend b).state := by
  have hrefl : SocketBackend.SameStatus b.state b.state := by
    cases b.state <;> simp [SocketBackend.SameStatus]
  cases c with
  | tcpStatus | udpStatus => exact hrefl
  | tcpClose | udpClose =>
    obtain ⟨block, state, release⟩ := b
    cases state <;> trivial
  | _ => cases hc

namespace Lane

open W6100

variable [OutputPin P] {l : Lane w L size i} {s : W6100 w L (LiveChip size) P}

/-- One call that may tick and does not reset. -/
theorem Holds.serviced (h : l.Holds s.bulk.value s.view) (hL : 67 ≤ L) (hs : Settled s) {c : Call}
    (hc : onSlots c = false) (hr : ¬ Resets s c) :
    l.Holds (s.apply c).bulk.value (s.apply c).view := by
  have hx := observe_fst (o := DriverObserver.blind (L := L) (D := LiveChip size) (P := P)) (s, ()) c
  have hreset := upheldReset_of_slots (w := w) (L := L) (D := LiveChip size) (P := P)
    (R := fun _ _ => True) fun _ _ _ h => h
  rw [← hx]
  rcases (l.upheld hL).call hreset (x := (s, ())) (stood_of_settled hs h) hc with hstood | ⟨hres, -⟩
  · exact hstood.holds
  · exact absurd hres hr

/-- Any call but one of the slot's own handle. -/
theorem Holds.call (h : l.Holds s.bulk.value s.view) (hL : 67 ≤ L) (hs : Settled s) {c : Call}
    (hc : ∀ call, c ≠ .handle i call) (hr : ¬ Resets s c) :
    l.Holds (s.apply c).bulk.value (s.apply c).view := by
  cases hslots : onSlots c with
  | false => exact h.serviced hL hs hslots hr
  | true =>
    obtain ⟨state, rx, tx, hclaim⟩ | ⟨j, call, rfl⟩ := onSlots_cases hslots
    · rw [apply_of_claim hs hclaim]
      cases hv : s.vacancy with
      | none => exact h
      | some j =>
        have hj : i ≠ j := by
          rintro rfl
          have hnone := isFree_iff_protocol.mp (vacancy_free hv)
          have hproto := h.protocol
          rw [show (s.view.backend i).state.protocol = none from hnone] at hproto
          cases hproto
        dsimp only
        rw [view_setSocket]
        exact h.elsewhere hj _ _
    · have hj : i ≠ j := by
        rintro rfl
        exact hc call rfl
      rw [view_apply_handle hs]
      exact h.elsewhere hj _ _

/-- A call of the slot's handle that touches no ring. -/
theorem Holds.handle (h : l.Holds s.bulk.value s.view) (hs : Settled s) {c : HandleCall}
    (hc : c.keepsRings = true)
    (hrest : ∀ dev, l.rest (s.view.backend i).state (s.view.rings i) dev →
      l.rest (c.onBackend (s.view.backend i)).state (s.view.rings i) dev)
    (hflight : ∀ op txn, l.flight (s.view.backend i).state op (s.view.rings i) txn →
      l.flight (c.onBackend (s.view.backend i)).state op (s.view.rings i) txn) :
    l.Holds (s.apply (.handle i c)).bulk.value (s.apply (.handle i c)).view := by
  have hfree : (s.sockets i).backend.busy = false := by
    obtain ⟨-, _, _, -, hin⟩ := hs
    exact (hin.slots i).free
  have hkeep : c ≠ .tcpDrop ∧ c ≠ .udpDrop := by
    cases c <;> simp [HandleCall.keepsRings] at hc ⊢
  have hrings : (c.apply (s.sockets i)).rings = s.view.rings i := HandleCall.apply_rings hfree hc
  rw [view_apply_handle hs, hrings]
  have hsame : (s.view.setBackend i (c.onBackend (s.view.backend i))).setRings i (s.view.rings i) =
      s.view.setBackend i (c.onBackend (s.view.backend i)) := by
    rw [View.setRings, View.setBackend, Function.update_eq_self]
  rw [hsame]
  refine h.setBackend ?_ ?_ hrest hflight
  · exact (HandleCall.onBackend_protocol _ c).trans h.protocol
  · exact (HandleCall.onBackend_releaseRequested _ hkeep.1 hkeep.2).trans h.kept

end Lane

end Wiznet
