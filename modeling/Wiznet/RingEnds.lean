import Wiznet.Lanes
import Wiznet.RingThreads
import Wiznet.Scripted

/-! # The application at one end of a ring

The driver holds one end of each ring of a slot, the application the other. The
lane of the driver's end goes on from the ring as the application leaves it, and
the calls of the application go on from the ring as the driver leaves it. -/

namespace Wiznet
open Resumption Resumption.Code SpscRing LiveChip

variable {w L size : Nat} {P R A Γ : Type} {i j : Fin 8}

/-- The device, wherever it is. -/
def DmaState.dev? {D : Type} : DmaState L D → Option D
  | .pending => none
  | .idle dev _ => some dev
  | .inFlight txn => some txn.dev

namespace Lane

variable {l l' : Lane w L size i} {marker : Option BulkOp} {v : View w L (LiveChip size) P}

/-- What a lane says of the chip. -/
theorem Holds.onChip (h : l.Holds marker v) : ∃ c, v.bus.dev? = some c ∧
    ((l.rest (v.backend i).state (v.rings i) c ∧ ∀ op, marker = some op → op.idx ≠ i) ∨
      ∃ op txn, marker = some op ∧ op.idx = i ∧ txn.dev = c ∧
        l.flight (v.backend i).state op (v.rings i) txn) := by
  have hbus := h.bus
  cases marker with
  | none =>
    obtain ⟨dev, scratch, hdev, hr⟩ := hbus
    exact ⟨dev, by rw [show v.bus = .idle dev scratch from hdev]; rfl, .inl ⟨hr, nofun⟩⟩
  | some op =>
    obtain ⟨txn, htxn, hr⟩ := hbus
    refine ⟨txn.dev, by rw [show v.bus = .inFlight txn from htxn]; rfl, ?_⟩
    split at hr
    next hi => exact .inr ⟨op, txn, rfl, hi, rfl, hr⟩
    next hi => exact .inl ⟨hr, fun op' hop' => by cases hop'; exact hi⟩

/-- What a lane says in every case of the bus. -/
theorem Holds.elim (h : l.Holds marker v) {Q : Prop}
    (hrest : ∀ c, l.rest (v.backend i).state (v.rings i) c → Q)
    (hflight : ∀ op txn, l.flight (v.backend i).state op (v.rings i) txn → Q) : Q := by
  obtain ⟨c, -, ⟨hr, -⟩ | ⟨op, txn, -, -, -, hf⟩⟩ := h.onChip
  · exact hrest c hr
  · exact hflight op txn hf

/-- A lane that begins where the device stands. -/
theorem Holds.start (h : l.Holds marker v) (hp : l'.protocol = l.protocol)
    (hrest : ∀ c, v.bus.dev? = some c → l'.rest (v.backend i).state (v.rings i) c)
    (hflight : ∀ op txn, v.bus.dev? = some txn.dev →
      l'.flight (v.backend i).state op (v.rings i) txn) : l'.Holds marker v := by
  refine ⟨by rw [hp]; exact h.protocol, h.kept, ?_⟩
  have hbus := h.bus
  cases marker with
  | none =>
    obtain ⟨dev, scratch, hdev, -⟩ := hbus
    exact ⟨dev, scratch, hdev, hrest _ (by rw [show v.bus = .idle dev scratch from hdev]; rfl)⟩
  | some op =>
    obtain ⟨txn, htxn, -⟩ := hbus
    have hdev : v.bus.dev? = some txn.dev := by rw [show v.bus = .inFlight txn from htxn]; rfl
    refine ⟨txn, htxn, ?_⟩
    split
    · exact hflight op txn hdev
    · exact hrest _ hdev

/-- A lane that goes on as one of several, with the rings as they are by then. -/
theorem Holds.choose {ι : Type} (h : l.Holds marker v) (C : ι → Prop)
    (l' : ∀ a, C a → Lane w L size i) (x : SocketRings w)
    (hp : ∀ a ha, (l' a ha).protocol = l.protocol)
    (hrest : ∀ c, l.rest (v.backend i).state (v.rings i) c →
      ∃ a ha, (l' a ha).rest (v.backend i).state x c)
    (hflight : ∀ op txn, l.flight (v.backend i).state op (v.rings i) txn →
      ∃ a ha, (l' a ha).flight (v.backend i).state op x txn) :
    ∃ a ha, (l' a ha).Holds marker (v.setRings i x) := by
  have hstart (a : ι) (ha : C a) (hb : (l' a ha).Bus marker (v.backend i).state ⟨v.bus, x⟩) :
      (l' a ha).Holds marker (v.setRings i x) := by
    refine ⟨by rw [hp]; exact h.protocol, h.kept, ?_⟩
    rwa [show (v.setRings i x).io i = ⟨v.bus, x⟩ by
      simp only [View.setRings, View.io, Function.update_self]]
  have hbus := h.bus
  cases marker with
  | none =>
    obtain ⟨dev, scratch, hdev, hr⟩ := hbus
    obtain ⟨a, ha, hr⟩ := hrest dev hr
    exact ⟨a, ha, hstart a ha ⟨dev, scratch, hdev, hr⟩⟩
  | some op =>
    obtain ⟨txn, htxn, hr⟩ := hbus
    by_cases hi : op.idx = i
    · rw [if_pos hi] at hr
      obtain ⟨a, ha, hr⟩ := hflight op txn hr
      exact ⟨a, ha, hstart a ha ⟨txn, htxn, by rwa [if_pos hi]⟩⟩
    · rw [if_neg hi] at hr
      obtain ⟨a, ha, hr⟩ := hrest txn.dev hr
      exact ⟨a, ha, hstart a ha ⟨txn, htxn, by rwa [if_neg hi]⟩⟩

end Lane

/-- One end of a ring of slot `i`: the calls of the application there and the lane
at the other end, with an account of what passed that no program keeps. -/
structure RingEnd (w L size : Nat) (i : Fin 8) (R A Γ : Type) where
  ring : Lens (SocketRings w) (SpscRing w)
  code : R → Prog (SpscRing w) A
  protocol : Protocol
  /-- What every ring at this end is. -/
  sound : SpscRing w → Prop
  /-- What is known of the calls and of the ring. -/
  calls : Γ → Thread (SpscRing w) R A → SpscRing w → Prop
  /-- What the driver does to the ring, and what it adds to the account. -/
  rely : SpscRing w → Γ → SpscRing w → Γ → Prop
  rest : BackendState → Γ → SpscRing w → LiveChip size → Prop
  flight : BackendState → Γ → BulkOp → SpscRing w → Transaction L (LiveChip size) → Prop
  lane : Γ → ∀ {r₀ : SpscRing w}, sound r₀ → Lane w L size i
  lane_protocol : ∀ γ {r₀ : SpscRing w} (he : sound r₀), (lane γ he).protocol = protocol
  lane_rest : ∀ γ {r₀ : SpscRing w} (he : sound r₀) st rings c, (lane γ he).rest st rings c ↔
    ∃ γ', rely r₀ γ (ring.get rings) γ' ∧ rest st γ' (ring.get rings) c
  lane_flight : ∀ γ {r₀ : SpscRing w} (he : sound r₀) st op rings txn,
    (lane γ he).flight st op rings txn ↔
      ∃ γ', rely r₀ γ (ring.get rings) γ' ∧ flight st γ' op (ring.get rings) txn
  steady : ∀ {st st'}, SocketBackend.SameStatus st st' →
    (∀ γ r c, rest st γ r c → rest st' γ r c) ∧
      ∀ γ op r txn, flight st γ op r txn → flight st' γ op r txn
  rely_refl : ∀ r γ, rely r γ r γ
  kept : ∀ {γ t r}, calls γ t r → sound r
  relied : ∀ {γ γ' t r r'}, calls γ t r → rely r γ r' γ' → calls γ' t r'
  begun : ∀ {γ t r}, calls γ t r → t.active = none →
    ∀ request, calls γ (t.begin code request r) r
  stepped : ∀ {γ t r}, calls γ t r → ∃ γ', calls γ' (t.step r).1 (t.step r).2 ∧
    (∀ st c, rest st γ r c → rest st γ' (t.step r).2 c) ∧
    ∀ st op txn, flight st γ op r txn → flight st γ' op (t.step r).2 txn

namespace W6100

theorem view_setRings (i : Fin 8) (x : SocketRings w) (s : W6100 w L (LiveChip size) P) :
    ((ringsLens i).set x s).view = s.view.setRings i x := by
  have hv := view_setSocket s i { s.sockets i with rings := x }
  rwa [show (s.sockets i).backend.value = s.view.backend i from rfl, View.setBackend,
    Function.update_eq_self] at hv

/-- A ring over `data` in which there is nothing yet. -/
def installed (data : List UInt8) : SpscRing w :=
  ⟨fun n => data.getD n 0, BitVec.ofNat w data.length, 0, 0, 0, 0⟩

theorem installed_empty {data : List UInt8} (hpow : ∃ k, data.length = 2 ^ k)
    (hmax : data.length < 2 ^ w) :
    Even (installed data : SpscRing w) ∧ contents (installed data : SpscRing w) = [] := by
  obtain ⟨k, hk⟩ := hpow
  have hcap : (installed data : SpscRing w).cap.toNat = data.length :=
    (BitVec.toNat_ofNat ..).trans (Nat.mod_eq_of_lt hmax)
  have hlen : ((installed data : SpscRing w).tail - (installed data : SpscRing w).head).toNat = 0 :=
    congrArg BitVec.toNat (BitVec.sub_self 0)
  refine ⟨⟨?_, by rw [hlen]; exact Nat.zero_le _⟩, contents_eq_nil (BitVec.sub_self 0)⟩
  rw [hcap, hk]
  exact Nat.pow_dvd_pow 2 ((Nat.pow_le_pow_iff_right (by decide)).mp (hk ▸ hmax.le))

/-- What an open makes of the slot it finds. -/
theorem opened_slot [OutputPin P] {s : W6100 w L (LiveChip size) P} {live : Fin 8 → List Protocol}
    {p : Protocol} {c : Call} {state : BackendState} {rx tx : List UInt8} (hrun : HandleRun live s)
    (hclaim : c.claim = some (state, rx, tx)) (hopen : s.opened c = some (i, p)) :
    state.protocol = some p ∧ (∀ op, s.bulk.value = some op → op.idx ≠ i) ∧
      s.apply c = (socketLens i).set ((s.sockets i).claimed state rx tx) s := by
  obtain ⟨hs, hcar, -⟩ := hrun.tenanted
  obtain ⟨j, hv, hj⟩ := Option.bind_eq_some_iff.mp ((opened_of_claim hs hclaim).symm.trans hopen)
  obtain ⟨p', hp, heq⟩ := Option.map_eq_some_iff.mp hj
  cases heq
  refine ⟨hp, ?_, by rw [apply_of_claim hs hclaim, hv]⟩
  rintro op hop rfl
  -- nothing moves in a slot that is free
  have hmoving : (s.view.backend op.idx).isMoving = true := hcar op hop
  simp [SocketBackend.isMoving, view, vacancy_free hv] at hmoving

theorem Settled.setRings {s : W6100 w L (LiveChip size) P} (h : Settled s) (i : Fin 8)
    (x : SocketRings w) : Settled ((ringsLens i).set x s) := by
  obtain ⟨hd, held, marker, ha, hi⟩ := h
  exact ⟨hd, held, marker, ha, hi.setSocket ⟨(hi.slots i).free, (hi.slots i).block⟩⟩

/-- What goes on beside the reads and writes on slot `i`: calls of the driver,
calls of other handles a step at a time, and calls of the slot's own handle that
touch no ring. Nothing re-arms the slot. -/
inductive Beside [OutputPin P] (i : Fin 8) (s : W6100 w L (LiveChip size) P) :
    W6100 w L (LiveChip size) P → Prop
  | call (c : Call) (hc : ∀ call, c ≠ .handle i call) (hr : ¬ Resets s c) : Beside i s (s.apply c)
  | handle {c : HandleCall} (hc : c.keepsRings = true) : Beside i s (s.apply (.handle i c))
  | foreign {j : Fin 8} (hj : j ≠ i) (x : SocketRings w) : Beside i s ((ringsLens j).set x s)

theorem Settled.beside [OutputPin P] {s s' : W6100 w L (LiveChip size) P} (h : Settled s)
    (hb : Beside i s s') : Settled s' := by
  cases hb with
  | call c _ _ => exact h.apply c
  | handle _ => exact h.apply _
  | foreign _ x => exact h.setRings _ x

end W6100

namespace Lane

open W6100

variable [OutputPin P] {l : Lane w L size i} {s s' : W6100 w L (LiveChip size) P}

/-- An open begins with the rings it installs. -/
theorem Holds.opened {live : Fin 8 → List Protocol} {c : Call} {state : BackendState}
    {rx tx : List UInt8} {c₀ : LiveChip size} (hrun : HandleRun live s)
    (hclaim : c.claim = some (state, rx, tx)) (hopen : s.opened c = some (i, l.protocol))
    (hdev : s.device.value.transport.dev? = some c₀)
    (hrest : l.rest state ⟨installed rx, installed tx⟩ c₀) :
    l.Holds (s.apply c).bulk.value (s.apply c).view := by
  obtain ⟨hp, hidx, happly⟩ := opened_slot hrun hclaim hopen
  have hview := view_setSocket s i ((s.sockets i).claimed state rx tx)
  have hstate : ((s.apply c).view.backend i).state = state := by
    rw [happly, hview]
    simp only [View.setRings, View.setBackend, Function.update_self]
    rfl
  refine ⟨by rw [hstate]; exact hp, ?_, ?_⟩
  · rw [happly, hview]
    simp only [View.setRings, View.setBackend, Function.update_self]
    rfl
  · have hio : (s.apply c).view.io i = ⟨s.device.value.transport, installed rx, installed tx⟩ := by
      rw [happly, hview]
      simp only [View.io, View.setRings, Function.update_self]
      rfl
    have hbulk : (s.apply c).bulk = s.bulk := by
      rw [happly]
      rfl
    obtain ⟨hs, -, -⟩ := hrun.tenanted
    obtain ⟨-, held, marker, ha, hin⟩ := hs
    rw [hstate, hio, hbulk, hin.bulk]
    rw [hin.bulk] at hidx
    have hbus := hin.bus
    cases marker with
    | none =>
      cases held with
      | some txn => exact ha.elim
      | none =>
        obtain ⟨dev, scratch, hidle⟩ := hbus
        rw [hidle] at hdev ⊢
        exact ⟨dev, scratch, rfl, by cases hdev; exact hrest⟩
    | some op =>
      cases held with
      | none => exact ha.elim
      | some txn =>
        have htxn : s.device.value.transport = .inFlight txn := hbus
        rw [htxn] at hdev ⊢
        refine ⟨txn, rfl, ?_⟩
        rw [if_neg (hidx op rfl)]
        cases hdev
        exact hrest

/-- Of the machine the lane looks at nothing but the status. -/
def Steady (l : Lane w L size i) : Prop :=
  ∀ st st', SocketBackend.SameStatus st st' → (∀ rings c, l.rest st rings c → l.rest st' rings c) ∧
    ∀ op rings txn, l.flight st op rings txn → l.flight st' op rings txn

theorem Holds.beside (h : l.Holds s.bulk.value s.view) (hl : l.Steady) (hL : 67 ≤ L)
    (hs : Settled s) (hb : Beside i s s') : l.Holds s'.bulk.value s'.view := by
  cases hb with
  | call c hc hr => exact h.call hL hs hc hr
  | handle hc =>
    obtain ⟨hrest, hflight⟩ := hl (s.view.backend i).state _ (HandleCall.onBackend_sameStatus _ hc)
    exact h.handle hs hc (hrest _) fun op => hflight op _
  | @foreign j hj x =>
    have helse := h.elsewhere hj.symm (s.view.backend j) x
    rw [View.setBackend, Function.update_eq_self] at helse
    rwa [view_setRings]

end Lane

namespace RingEnd

open W6100

variable (e : RingEnd w L size i R A Γ) {s s' : W6100 w L (LiveChip size) P}
  {t t' : Thread (SpscRing w) R A} {γ : Γ}

/-- The ring of the driver. -/
def lens : Lens (W6100 w L (LiveChip size) P) (SpscRing w) := (ringsLens i).comp e.ring

/-- By this account, the lane goes on from the ring as it is. -/
structure At (γ : Γ) (s : W6100 w L (LiveChip size) P) (t : Thread (SpscRing w) R A) : Prop where
  calls : e.calls γ t (e.lens.get s)
  lane : (e.lane γ (e.kept calls)).Holds s.bulk.value s.view

def Holds (s : W6100 w L (LiveChip size) P) (t : Thread (SpscRing w) R A) : Prop :=
  ∃ γ, e.At γ s t

variable {e}

/-- An open begins with the ring it installs. -/
theorem Holds.opened [OutputPin P] {live : Fin 8 → List Protocol} {c : Call} {state : BackendState}
    {rx tx : List UInt8} {c₀ : LiveChip size} (hrun : HandleRun live s)
    (hclaim : c.claim = some (state, rx, tx)) (hopen : s.opened c = some (i, e.protocol))
    (hdev : s.device.value.transport.dev? = some c₀)
    (hcalls : e.calls γ .idle (e.ring.get (⟨installed rx, installed tx⟩ : SocketRings w)))
    (hrest : e.rest state γ (e.ring.get ⟨installed rx, installed tx⟩) c₀) :
    e.Holds (s.apply c) .idle := by
  obtain ⟨-, -, happly⟩ := opened_slot hrun hclaim hopen
  have hget : e.lens.get (s.apply c) = e.ring.get ⟨installed rx, installed tx⟩ := by
    rw [happly, lens, ringsLens, Lens.comp_get, Lens.comp_get, (socketLens i).get_set]
    rfl
  have hcalls' : e.calls γ .idle (e.lens.get (s.apply c)) := by rwa [hget]
  refine ⟨γ, hcalls', Lane.Holds.opened hrun hclaim ?_ hdev ?_⟩
  · rw [e.lane_protocol]
    exact hopen
  · rw [e.lane_rest, hget]
    exact ⟨γ, e.rely_refl _ γ, hrest⟩

/-- What the driver does goes into the account. -/
theorem At.relied (h : e.At γ s t) (h' : (e.lane γ (e.kept h.calls)).Holds s'.bulk.value s'.view) :
    e.Holds s' t := by
  have hgoes := h'.choose (fun γ' => e.calls γ' t (e.lens.get s'))
    (fun γ' hcalls => e.lane γ' (e.kept hcalls)) (s'.view.rings i)
    (fun γ' _ => by rw [e.lane_protocol, e.lane_protocol])
    (fun c hc => by
      obtain ⟨γ', hrely, hrest⟩ := (e.lane_rest _ _ _ _ c).mp hc
      exact ⟨γ', e.relied h.calls hrely, (e.lane_rest _ _ _ _ c).mpr ⟨γ', e.rely_refl _ _, hrest⟩⟩)
    fun op txn hf => by
      obtain ⟨γ', hrely, hflight⟩ := (e.lane_flight _ _ _ op _ txn).mp hf
      exact ⟨γ', e.relied h.calls hrely,
        (e.lane_flight _ _ _ op _ txn).mpr ⟨γ', e.rely_refl _ _, hflight⟩⟩
  obtain ⟨γ', hcalls, hlane⟩ := hgoes
  rw [View.setRings, Function.update_eq_self] at hlane
  exact ⟨γ', hcalls, hlane⟩

/-- What holds of the chip between two calls. -/
theorem Holds.onChip (h : e.Holds s t) : ∃ c γ, s.device.value.transport.dev? = some c ∧
    e.calls γ t (e.lens.get s) ∧ ((e.rest (s.view.backend i).state γ (e.lens.get s) c ∧
      ∀ op, s.bulk.value = some op → op.idx ≠ i) ∨
      ∃ op txn, s.bulk.value = some op ∧ op.idx = i ∧ txn.dev = c ∧
        e.flight (s.view.backend i).state γ op (e.lens.get s) txn) := by
  obtain ⟨γ, hcalls, hlane⟩ := h
  obtain ⟨c, hdev, ⟨hrest, hno⟩ | ⟨op, txn, hbulk, hi, hc, hf⟩⟩ := hlane.onChip
  · obtain ⟨γ', hrely, hrest⟩ := (e.lane_rest _ _ _ _ c).mp hrest
    exact ⟨c, γ', hdev, e.relied hcalls hrely, .inl ⟨hrest, hno⟩⟩
  · obtain ⟨γ', hrely, hflight⟩ := (e.lane_flight _ _ _ op _ txn).mp hf
    exact ⟨c, γ', hdev, e.relied hcalls hrely, .inr ⟨op, txn, hbulk, hi, hc, hflight⟩⟩

theorem lane_steady (γ : Γ) {r₀ : SpscRing w} (he : e.sound r₀) : (e.lane γ he).Steady := by
  intro st st' hst
  obtain ⟨hrest, hflight⟩ := e.steady hst
  refine ⟨fun rings c h => ?_, fun op rings txn h => ?_⟩
  · obtain ⟨γ', hrely, h⟩ := (e.lane_rest _ he st rings c).mp h
    exact (e.lane_rest _ he st' rings c).mpr ⟨γ', hrely, hrest _ _ _ h⟩
  · obtain ⟨γ', hrely, h⟩ := (e.lane_flight _ he st op rings txn).mp h
    exact (e.lane_flight _ he st' op rings txn).mpr ⟨γ', hrely, hflight _ _ _ _ h⟩

theorem Holds.beside [OutputPin P] (h : e.Holds s t) (hL : 67 ≤ L) (hs : Settled s)
    (hb : Beside i s s') : e.Holds s' t := by
  obtain ⟨γ, h⟩ := h
  exact h.relied (h.lane.beside (lane_steady _ _) hL hs hb)

/-- What the application does at the other ring of the slot. -/
theorem Holds.otherRing (h : e.Holds s t) {x : SocketRings w}
    (hx : e.ring.get x = e.ring.get (s.view.rings i)) : e.Holds ((ringsLens i).set x s) t := by
  obtain ⟨γ, h⟩ := h
  refine h.relied ?_
  rw [view_setRings]
  refine h.lane.setRings rfl (fun c hc => ?_) fun op txn hf => ?_
  · rw [e.lane_rest, hx]
    exact (e.lane_rest _ _ _ _ c).mp hc
  · rw [e.lane_flight, hx]
    exact (e.lane_flight _ _ _ op _ txn).mp hf

theorem Holds.begin (h : e.Holds s t) (hidle : t.active = none) (request : R) :
    e.Holds s (t.begin e.code request (e.lens.get s)) := by
  obtain ⟨γ, h⟩ := h
  exact ⟨γ, e.begun h.calls hidle request, h.lane⟩

theorem Holds.step (h : e.Holds s t) :
    e.Holds (e.lens.set (t.step (e.lens.get s)).2 s) (t.step (e.lens.get s)).1 := by
  obtain ⟨γ, h⟩ := h
  have hget : e.lens.get (e.lens.set (t.step (e.lens.get s)).2 s) = (t.step (e.lens.get s)).2 :=
    e.lens.get_set _ s
  have hring : e.ring.get (e.ring.set (t.step (e.lens.get s)).2 (s.view.rings i)) =
      (t.step (e.lens.get s)).2 := e.ring.get_set _ _
  have hview : (e.lens.set (t.step (e.lens.get s)).2 s).view =
      s.view.setRings i (e.ring.set (t.step (e.lens.get s)).2 (s.view.rings i)) :=
    view_setRings i _ s
  have hgoes := h.lane.choose (fun γ' => e.calls γ' (t.step (e.lens.get s)).1
      (e.lens.get (e.lens.set (t.step (e.lens.get s)).2 s)))
    (fun γ' hcalls => e.lane γ' (e.kept hcalls))
    (e.ring.set (t.step (e.lens.get s)).2 (s.view.rings i))
    (fun γ' _ => by rw [e.lane_protocol, e.lane_protocol])
    (fun c hc => by
      obtain ⟨γ₁, hrely, hrest⟩ := (e.lane_rest _ _ _ _ c).mp hc
      obtain ⟨γ', hcalls, hrest', -⟩ := e.stepped (e.relied h.calls hrely)
      refine ⟨γ', by rwa [hget], (e.lane_rest _ _ _ _ c).mpr ⟨γ', ?_, ?_⟩⟩ <;> rw [hring]
      · rw [hget]
        exact e.rely_refl _ _
      · exact hrest' _ c hrest)
    fun op txn hf => by
      obtain ⟨γ₁, hrely, hflight⟩ := (e.lane_flight _ _ _ op _ txn).mp hf
      obtain ⟨γ', hcalls, -, hflight'⟩ := e.stepped (e.relied h.calls hrely)
      refine ⟨γ', by rwa [hget], (e.lane_flight _ _ _ op _ txn).mpr ⟨γ', ?_, ?_⟩⟩ <;> rw [hring]
      · rw [hget]
        exact e.rely_refl _ _
      · exact hflight' _ op txn hflight
  obtain ⟨γ', hcalls, hlane⟩ := hgoes
  refine ⟨γ', hcalls, ?_⟩
  rwa [hview]

end RingEnd

/-! ## Runs -/

namespace W6100

/-- What the application takes out of slot `i`, and what it puts in, goes through
these. -/
def readRing (i : Fin 8) : Lens (W6100 w L (LiveChip size) P) (SpscRing w) :=
  (ringsLens i).comp SocketRings.rxLens

def writeRing (i : Fin 8) : Lens (W6100 w L (LiveChip size) P) (SpscRing w) :=
  (ringsLens i).comp SocketRings.txLens

variable {R' A' : Type} [OutputPin P]

theorem not_resets {s : W6100 w L (LiveChip size) P} {c : Call} (hc : c ≠ .reset)
    (h : (s.apply c).linkUp = true) : ¬ Resets s c := by
  rintro (heq | ⟨-, hdown⟩)
  · exact hc heq
  · rw [h] at hdown
    cases hdown

/-- An open of a socket of protocol `p` in slot `i`, on rings of which the lengths
are powers of two, where the chip is at `c₀`. -/
structure OpensSocket (i : Fin 8) (p : Protocol) (s : W6100 w L (LiveChip size) P) (c : Call)
    (c₀ : LiveChip size) : Prop where
  reached : ∃ live, HandleRun live s
  opened : s.opened c = some (i, p)
  rings : ∃ state rx tx, c.claim = some (state, rx, tx) ∧
    (∃ k, rx.length = 2 ^ k) ∧ (∃ k, tx.length = 2 ^ k) ∧
    -- a length is a `usize`
    rx.length < 2 ^ w ∧ tx.length < 2 ^ w
  chip : s.device.value.transport.dev? = some c₀

section Opens

variable {p : Protocol} {s : W6100 w L (LiveChip size) P} {c : Call} {c₀ : LiveChip size}

theorem OpensSocket.settled (h : OpensSocket i p s c c₀) : Settled (s.apply c) := by
  obtain ⟨live, hrun⟩ := h.reached
  exact hrun.tenanted.1.apply _

/-- An end begins with a ring in which there is nothing yet. -/
theorem OpensSocket.holds {e : RingEnd w L size i R A Γ} (h : OpensSocket i e.protocol s c c₀)
    (hring : e.ring = SocketRings.rxLens ∨ e.ring = SocketRings.txLens) (γ : Γ)
    (hempty : ∀ r : SpscRing w, e.lens.get (s.apply c) = r → Even r → contents r = [] →
      r.framesIn = r.framesOut → e.calls γ .idle r ∧ ∀ state rx tx, c.claim = some (state, rx, tx) → e.rest state γ r c₀) :
    e.Holds (s.apply c) .idle := by
  obtain ⟨live, hrun⟩ := h.reached
  obtain ⟨state, rx, tx, hclaim, hrx, htx, hrxMax, htxMax⟩ := h.rings
  obtain ⟨data, hget, hpow, hmax⟩ : ∃ data, e.ring.get (⟨installed rx, installed tx⟩ : SocketRings w) =
      installed data ∧ (∃ k, data.length = 2 ^ k) ∧ data.length < 2 ^ w := by
    rcases hring with hring | hring <;> rw [hring]
    · exact ⟨rx, rfl, hrx, hrxMax⟩
    · exact ⟨tx, rfl, htx, htxMax⟩
  obtain ⟨heven, hnil⟩ := installed_empty hpow hmax
  have hlens : e.lens.get (s.apply c) = installed data := by
    obtain ⟨-, -, happly⟩ := opened_slot hrun hclaim h.opened
    rw [happly, ← hget, RingEnd.lens, ringsLens, Lens.comp_get, Lens.comp_get,
      (socketLens i).get_set]
    rfl
  obtain ⟨hcalls, hrest⟩ := hempty (installed data) hlens heven hnil rfl
  refine RingEnd.Holds.opened (γ := γ) hrun hclaim h.opened h.chip ?_ ?_ <;> rw [hget]
  · exact hcalls
  · exact hrest state rx tx hclaim

end Opens

/-- Runs from where slot `i` was opened to where it is re-armed or dropped.
Anything may happen beside the steps of what the application calls at either
ring, one call at a time. -/
inductive SocketRun (i : Fin 8) (take : R → Prog (SpscRing w) A) (give : R' → Prog (SpscRing w) A')
    (Opens : W6100 w L (LiveChip size) P → Prop) : W6100 w L (LiveChip size) P →
    Thread (SpscRing w) R A → Thread (SpscRing w) R' A' → Prop
  | opened {s : W6100 w L (LiveChip size) P} (h : Opens s) :
      SocketRun i take give Opens s .idle .idle
  | beside {s s' : W6100 w L (LiveChip size) P} {reader writer}
      (h : SocketRun i take give Opens s reader writer) (hb : Beside i s s') :
      SocketRun i take give Opens s' reader writer
  | beginRead {s : W6100 w L (LiveChip size) P} {reader writer}
      (h : SocketRun i take give Opens s reader writer) (hidle : reader.active = none)
      (request : R) :
      SocketRun i take give Opens s (reader.begin take request ((readRing i).get s)) writer
  | stepRead {s : W6100 w L (LiveChip size) P} {reader writer}
      (h : SocketRun i take give Opens s reader writer) :
      SocketRun i take give Opens ((readRing i).set (reader.step ((readRing i).get s)).2 s)
        (reader.step ((readRing i).get s)).1 writer
  | beginWrite {s : W6100 w L (LiveChip size) P} {reader writer}
      (h : SocketRun i take give Opens s reader writer) (hidle : writer.active = none)
      (request : R') :
      SocketRun i take give Opens s reader (writer.begin give request ((writeRing i).get s))
  | stepWrite {s : W6100 w L (LiveChip size) P} {reader writer}
      (h : SocketRun i take give Opens s reader writer) :
      SocketRun i take give Opens ((writeRing i).set (writer.step ((writeRing i).get s)).2 s) reader
        (writer.step ((writeRing i).get s)).1

namespace SocketRun

variable {take : R → Prog (SpscRing w) A} {give : R' → Prog (SpscRing w) A'}
  {Opens : W6100 w L (LiveChip size) P → Prop} {s : W6100 w L (LiveChip size) P}
  {reader : Thread (SpscRing w) R A} {writer : Thread (SpscRing w) R' A'}

theorem settled (h : SocketRun i take give Opens s reader writer)
    (hopen : ∀ s, Opens s → Settled s) : Settled s := by
  induction h with
  | opened h => exact hopen _ h
  | beside _ hb ih => exact ih.beside hb
  | beginRead _ _ _ ih | beginWrite _ _ _ ih => exact ih
  | stepRead _ ih | stepWrite _ ih => exact ih.setRings _ _

/-- What holds of the calls at the rx ring and of the driver's end of it. -/
theorem reads (h : SocketRun i take give Opens s reader writer) (hL : 67 ≤ L)
    (hsettled : ∀ s, Opens s → Settled s) (e : RingEnd w L size i R A Γ)
    (hring : e.ring = SocketRings.rxLens) (hcode : e.code = take)
    (hopen : ∀ s, Opens s → e.Holds s .idle) : e.Holds s reader := by
  have hlens : e.lens = (readRing i : Lens (W6100 w L (LiveChip size) P) (SpscRing w)) := by
    rw [RingEnd.lens, hring, readRing]
  induction h with
  | opened h => exact hopen _ h
  | beside h hb ih => exact ih.beside hL (h.settled hsettled) hb
  | beginRead _ hidle request ih =>
    rw [← hcode, ← hlens]
    exact ih.begin hidle request
  | stepRead _ ih =>
    rw [← hlens]
    exact ih.step
  | beginWrite _ _ _ ih => exact ih
  | stepWrite _ ih => exact ih.otherRing (by rw [hring]; rfl)

/-- The same at the tx ring. -/
theorem writes (h : SocketRun i take give Opens s reader writer) (hL : 67 ≤ L)
    (hsettled : ∀ s, Opens s → Settled s) (e : RingEnd w L size i R' A' Γ)
    (hring : e.ring = SocketRings.txLens) (hcode : e.code = give)
    (hopen : ∀ s, Opens s → e.Holds s .idle) : e.Holds s writer := by
  have hlens : e.lens = (writeRing i : Lens (W6100 w L (LiveChip size) P) (SpscRing w)) := by
    rw [RingEnd.lens, hring, writeRing]
  induction h with
  | opened h => exact hopen _ h
  | beside h hb ih => exact ih.beside hL (h.settled hsettled) hb
  | beginRead _ _ _ ih => exact ih
  | stepRead _ ih => exact ih.otherRing (by rw [hring]; rfl)
  | beginWrite _ hidle request ih =>
    rw [← hcode, ← hlens]
    exact ih.begin hidle request
  | stepWrite _ ih =>
    rw [← hlens]
    exact ih.step

/-- One interrupt, and the completion of what it started. -/
theorem round (h : SocketRun i take give Opens s reader writer)
    (hup : (s.apply .service).linkUp = true ∧ ((s.apply .service).apply .dmaComplete).linkUp = true) :
    SocketRun i take give Opens ((s.apply .service).apply .dmaComplete) reader writer :=
  (h.beside (.call .service nofun (not_resets nofun hup.1))).beside
    (.call .dmaComplete nofun (not_resets nofun hup.2))

theorem stepReads (h : SocketRun i take give Opens s reader writer) (n : Nat) :
    SocketRun i take give Opens (Thread.stepped (readRing i) n (s, reader)).1
      (Thread.stepped (readRing i) n (s, reader)).2 writer := by
  induction n generalizing s reader with
  | zero => exact h
  | succ n ih => exact ih h.stepRead

theorem stepWrites (h : SocketRun i take give Opens s reader writer) (n : Nat) :
    SocketRun i take give Opens (Thread.stepped (writeRing i) n (s, writer)).1 reader
      (Thread.stepped (writeRing i) n (s, writer)).2 := by
  induction n generalizing s writer with
  | zero => exact h
  | succ n ih => exact ih h.stepWrite

end SocketRun

/-- The driver on a chip with buffers of 16 bytes, where `ahead` happens and the
frames of `fails` fail. -/
def faltering (fails : Nat → List UInt8 → Bool) (ahead : Nat → List (Fin 8 × PeerEvent)) :
    W6100 8 67 (LiveChip 16) Unit :=
  let chip : LiveChip 16 :=
    { chip := ⟨fun _ => ⟨0, 0, 0, ⟨fun _ => 0, 0, 0⟩, ⟨fun _ => 0, 0, 0⟩, 0, 0⟩, fun _ => [],
        fun _ => [], []⟩
      received := fun _ => []
      datagrams := fun _ => []
      ahead := ahead
      fails := fails }
  (W6100.new chip () (zeroScratch 67) ⟨[0, 0, 0, 0, 0, 0], zeroMac_length⟩).2

/-- The same where no frame fails. -/
def peered (ahead : Nat → List (Fin 8 × PeerEvent)) : W6100 8 67 (LiveChip 16) Unit :=
  faltering (fun _ _ => false) ahead

end W6100

end Wiznet
