import Wiznet.TickStatus
import Wiznet.Calls

/-! # What stands through every call

An invariant of the driver may speak of the bus, the reset line, the slots with
their rings, the transfer that is recorded, and what an observer has noted. It
stands through every servicing call if it stands through the pieces the calls
are made of, each started on an idle bus. -/

namespace Wiznet
open Resumption Resumption.Code

variable {w L : Nat} {D P G α : Type}

/-- The driver without its flags, its addressing and its link. -/
structure View (w L : Nat) (D P : Type) where
  bus : Transceiver L D
  rst : P
  backend : Fin 8 → SocketBackend
  rings : Fin 8 → SocketRings w

namespace View

def io (v : View w L D P) (i : Fin 8) : Io w L D := ⟨v.bus, v.rings i⟩

def setBus (v : View w L D P) (cell : Transceiver L D) : View w L D P := { v with bus := cell }

def setRst (v : View w L D P) (p : P) : View w L D P := { v with rst := p }

def setIo (v : View w L D P) (i : Fin 8) (io : Io w L D) : View w L D P :=
  { v with bus := io.trans, rings := Function.update v.rings i io.rings }

def setBackend (v : View w L D P) (i : Fin 8) (b : SocketBackend) : View w L D P :=
  { v with backend := Function.update v.backend i b }

def setRings (v : View w L D P) (i : Fin 8) (r : SocketRings w) : View w L D P :=
  { v with rings := Function.update v.rings i r }

@[simp] theorem setBus_bus (v : View w L D P) : v.setBus v.bus = v := rfl

@[simp] theorem setIo_io (v : View w L D P) (i : Fin 8) : v.setIo i (v.io i) = v := by
  simp [setIo, io]

end View

def W6100.view (s : W6100 w L D P) : View w L D P :=
  ⟨s.device.value.transport, s.device.value.rst, fun i => (s.sockets i).backend.value,
    fun i => (s.sockets i).rings⟩

/-- An observer of the bus, one of the reset line and one of the slots, with a
record in common. -/
structure DriverObserver (L : Nat) (D P G : Type) where
  bus : Observer (Transceiver L D) G
  pin : Observer P G
  slots : Observer (Fin 8 → SocketBackend) G

namespace DriverObserver

def driver (o : DriverObserver L D P G) : Observer (W6100 w L D P) G :=
  ((o.bus.comap fun s => s.view.bus).andThen (o.pin.comap fun s => s.view.rst)).andThen
    (o.slots.comap fun s => s.view.backend)

def blind : DriverObserver L D P Unit := ⟨.blind, .blind, .blind⟩

theorem driver_note (o : DriverObserver L D P G) (s s' : W6100 w L D P) (g : G) :
    o.driver.note s s' g = o.slots.note s.view.backend s'.view.backend
      (o.pin.note s.view.rst s'.view.rst (o.bus.note s.view.bus s'.view.bus g)) := rfl

/-- Nothing is made of a step that does not show. -/
theorem driver_note_view (o : DriverObserver L D P G) {s s' : W6100 w L D P} (g : G)
    (h : s'.view = s.view) : o.driver.note s s' g = g := by simp [driver_note, h]

end DriverObserver

namespace W6100

variable {o : DriverObserver L D P G}

theorem view_setBus (s : W6100 w L D P) (cell : Transceiver L D) :
    (transLens.set cell s).view = s.view.setBus cell := rfl

theorem view_setRst (s : W6100 w L D P) (p : P) : (rstLens.set p s).view = s.view.setRst p := rfl

theorem view_setIo (s : W6100 w L D P) (i : Fin 8) (io : Io w L D) :
    ((ioLens i).set io s).view = s.view.setIo i io := by
  have hr : ∀ j, (((ioLens i).set io s).sockets j).rings =
      Function.update (fun i => (s.sockets i).rings) i io.rings j := fun j => by
    by_cases hj : j = i
    · subst hj; simp [ioLens, transLens, ringsLens, socketLens, Socket.ringsLens]
    · simp [ioLens, transLens, ringsLens, socketLens, hj]
  have hb : ∀ j, (((ioLens i).set io s).sockets j).backend = (s.sockets j).backend := fun j => by
    by_cases hj : j = i
    · subst hj; simp [ioLens, transLens, ringsLens, socketLens, Socket.ringsLens]
    · simp [ioLens, transLens, ringsLens, socketLens, hj]
  simp only [view, View.setIo, hb, hr]
  rfl

/-- A slot whose contents are replaced. -/
theorem view_setCell (s : W6100 w L D P) (i : Fin 8) (c : AtomicCell SocketBackend) :
    ((backendCell i).set c s).view = s.view.setBackend i c.value := by
  have hr : ∀ j, (((backendCell i).set c s).sockets j).rings = (s.sockets j).rings := fun j => by
    by_cases hj : j = i
    · subst hj; simp [backendCell, socketLens, Socket.backendLens]
    · simp [backendCell, socketLens, hj]
  have hb : ∀ j, (((backendCell i).set c s).sockets j).backend.value =
      Function.update (fun i => (s.sockets i).backend.value) i c.value j := fun j => by
    by_cases hj : j = i
    · subst hj; simp [backendCell, socketLens, Socket.backendLens]
    · simp [backendCell, socketLens, hj]
  simp only [view, View.setBackend, hb, hr]
  rfl

theorem view_setBackendBusy (b : Bool) (i : Fin 8) (s : W6100 w L D P) :
    (setBusy (backendCell i) b s).view = s.view := by
  rw [setBusy, view_setCell]
  simp [View.setBackend, view, backendCell, socketLens, Socket.backendLens]

theorem view_ticked (s : W6100 w L D P) (i : Fin 8) (io : Io w L D) (b : SocketBackend) :
    (ticked i io b s).view = (s.view.setIo i io).setBackend i b := by
  have h : ticked i io b s =
      (backendCell i).set ⟨b, false⟩ ((ioLens i).set io (setBusy (backendCell i) true s)) := rfl
  rw [h, view_setCell, view_setIo, view_setBackendBusy]

/-! ## What is not observed -/

theorem flagSilent_device : FlagSilent o.driver (deviceCell (w := w) (L := L) (D := D) (P := P)) :=
  fun _ _ g => o.driver_note_view g rfl

theorem flagSilent_backend (i : Fin 8) : FlagSilent (o.driver (w := w)) (backendCell i) :=
  fun b s g => o.driver_note_view g (view_setBackendBusy b i s)

theorem silent_bulkInFlight :
    (bulkInFlight : Code Error (W6100 w L D P) Bool).Silent o.driver := by
  refine Silent.bind (Silent.outcome (Silent.holding (fun _ _ g => o.driver_note_view g rfl)
    (Silent.always (Prog.Silent.load _)))) fun r => ?_
  cases r <;> exact Silent.pure _

theorem silent_setMarker (op : Option BulkOp) :
    (setMarker op : Code Error (W6100 w L D P) Unit).Silent o.driver :=
  Silent.bind (Silent.outcome (Silent.holding (fun _ _ g => o.driver_note_view g rfl)
    (Silent.always (Prog.Silent.zoom (fun _ _ g => o.driver_note_view g rfl) _)))) fun _ =>
    Silent.pure _

theorem silent_networkConfig :
    (networkConfig : Code Error (W6100 w L D P) (Option NetworkConfig)).Silent o.driver := by
  refine Silent.bind (Silent.outcome (Silent.holding (fun _ _ g => o.driver_note_view g rfl)
    (Silent.always (Prog.Silent.load _)))) fun r => ?_
  cases r <;> exact Silent.pure _

/-! ## What is observed -/

variable {Q : α → W6100 w L D P × G → Prop} {E : Error → W6100 w L D P × G → Prop}
  {s : W6100 w L D P} {g : G}

theorem wp_watch_onBus (c : Code Error (Transceiver L D) α) :
    wp ((onBus c).watch o.driver) Q E (s, g) ↔ wp (c.watch o.bus)
      (fun a x => Q a (transLens.set x.1 s, x.2)) (fun e x => E e (transLens.set x.1 s, x.2))
      (s.view.bus, g) := by
  refine wp_watch_zoom o.bus (fun cell s g => ?_) c
  rw [DriverObserver.driver_note, view_setBus]
  simp only [View.setBus, Observer.note_self]
  rfl

/-- A step that does not show. -/
theorem wp_watch_store_hidden {f : W6100 w L D P → W6100 w L D P}
    {Q : Unit → W6100 w L D P × G → Prop} (h : (f s).view = s.view) :
    wp ((Code.always (Prog.store f)).watch o.driver) Q E (s, g) ↔ Q () (f s, g) := by
  rw [wp_watch_store, o.driver_note_view g h]

theorem note_setIo (i : Fin 8) (io : Io w L D) (s : W6100 w L D P) (g : G) :
    o.driver.note s ((ioLens i).set io s) g =
      (o.bus.comap Io.trans).note ((ioLens i).get s) io g := by
  rw [DriverObserver.driver_note, view_setIo]
  simp only [View.setIo, Observer.note_self]
  rfl

theorem run_watch_lockBackend {idx : Fin 8} (hfree : (s.sockets idx).backend.busy = false) :
    ((lockBackend idx).watch o.driver).run (s, g) =
      (some (s.sockets idx).backend.value, setBusy (backendCell idx) true s, g) := by
  have hc : ((backendCell idx).get s).busy = false := hfree
  rw [lockBackend, Prog.run_watch_zoom_atom]
  simp only [hc, Bool.false_eq_true, if_false]
  exact congrArg (fun g => (_, _, g)) (flagSilent_backend idx true s g)

theorem run_watch_dropBackend (idx : Fin 8) (io : Io w L D) (b : SocketBackend) :
    ((dropBackend idx b).watch o.driver).run
      ((ioLens idx).set io (setBusy (backendCell idx) true s), g) = ((), ticked idx io b s,
        o.slots.note s.view.backend (Function.update s.view.backend idx b) g) := by
  have hv : ((ioLens idx).set io (setBusy (backendCell idx) true s)).view = s.view.setIo idx io := by
    rw [view_setIo, view_setBackendBusy]
  rw [dropBackend, Prog.run_watch_zoom_store, DriverObserver.driver_note, view_setCell, hv]
  simp only [View.setIo, View.setBackend, Observer.note_self]
  rfl

/-- One round of the loop of `run` whose slot is free. -/
theorem wp_watch_runSockets_cons [SpiDmaDevice D] {idx : Fin 8} {rest : List (Fin 8)}
    {Q : Unit → W6100 w L D P × G → Prop} (hfree : (s.sockets idx).backend.busy = false)
    (htick : ∀ result b io g', ((s.view.backend idx).run.watch (o.bus.comap Io.trans)).run
        (s.view.io idx, g) = ((result, b), io, g') →
      let x := (ticked idx io b s,
        o.slots.note s.view.backend (Function.update s.view.backend idx b) g')
      match result with
      | .ok .none | .error .wouldBlock => wp ((runSockets rest).watch o.driver) Q E x
      | .ok (.started kind pointer len) =>
        wp ((setBulk ⟨idx, kind, b.block, pointer, len⟩).watch o.driver) Q E x
      | .error (.other e) => E (.other e) x) :
    wp ((runSockets (idx :: rest)).watch o.driver) Q E (s, g) := by
  rw [runSockets, wp_watch_bind, wp_watch_always, run_watch_lockBackend hfree]
  simp only [wp_watch_bind, wp_watch_always]
  have hzoom := Prog.run_watch_zoom (o := o.driver) (l := ioLens idx)
    (o.bus.comap Io.trans) (fun io s g => note_setIo idx io s g)
    (s.view.backend idx).run (setBusy (backendCell idx) true s) g
  have hio : (ioLens idx).get (setBusy (backendCell idx) true s) = s.view.io idx := by
    simp [ioLens, setBusy, backendCell, socketLens, Socket.backendLens, view, View.io]
  rw [hio] at hzoom
  change ∀ result b io g', _ = ((result, b), io, g') → _ at htick
  rcases hr : ((s.view.backend idx).run.watch (o.bus.comap Io.trans)).run
    (s.view.io idx, g) with ⟨⟨result, b⟩, io, g'⟩
  rw [show (s.sockets idx).backend.value = s.view.backend idx from rfl, hzoom, hr]
  simp only [run_watch_dropBackend]
  have h := htick result b io g' hr
  rcases result with (e | e) | (_ | ⟨kind, pointer, len⟩) <;> exact h

/-- The driver inside a call, with an invariant. -/
abbrev Stands (I : View w L D P × G → Prop) (held : Option (Transaction L D))
    (marker : Option BulkOp) (x : W6100 w L D P × G) : Prop :=
  Inside held marker x.1 ∧ I (x.1.view, x.2)

section Steps

variable {I R : View w L D P × G → Prop} {held : Option (Transaction L D)} {marker : Option BulkOp}

theorem keeps_stands_onBus {c : Code Error (Transceiver L D) α} (hi : Keeps (Held none) c)
    (hc : ∀ v : View w L D P, Keeps (fun x => Held none x.1 ∧ I (v.setBus x.1, x.2))
      (c.watch o.bus)) : Keeps (Stands I none marker) ((onBus c).watch o.driver) := by
  rintro ⟨s, g⟩ ⟨hin, hI⟩
  have hI' : wp ((onBus c).watch o.driver) (fun _ x => I (x.1.view, x.2))
      (fun _ x => I (x.1.view, x.2)) (s, g) := by
    rw [wp_watch_onBus]
    exact wp_mono (hc s.view (s.view.bus, g) ⟨hin.bus, hI⟩) (fun _ _ h => h.2) fun _ _ h => h.2
  exact wp_and ((keeps_inside_onBus hi).watch (s, g) hin) hI'

/-- An access while a transfer is in flight is refused. -/
theorem keeps_stands_blocked {c : Code Error (Transceiver L D) α} {txn : Transaction L D}
    (hc : Blocked c) : Keeps (Stands I (some txn) marker) ((onBus c).watch o.driver) := by
  rintro ⟨s, g⟩ hs
  have hbus : s.view.bus = .inFlight txn := hs.1.bus
  rw [wp_watch_onBus, wp, hbus, hc _ o.bus txn g, ← hbus]
  exact hs

theorem keeps_stands_onPin (f : P → Bool × P)
    (hf : ∀ v g, R (v, g) → R (v.setRst (f v.rst).2, o.pin.note v.rst (f v.rst).2 g)) :
    Keeps (Stands (w := w) R none none) ((onPin f).watch o.driver) := by
  rintro ⟨s, g⟩ ⟨hin, hR⟩
  have hset : ∀ p, o.driver.note s (rstLens.set p s) g = o.pin.note s.view.rst p g := fun p => by
    rw [DriverObserver.driver_note, view_setRst]
    simp only [View.setRst, Observer.note_self]
  have hin' : Inside none none (rstLens.set (f s.view.rst).2 s) :=
    ⟨hin.bus, hin.bulk, hin.config, hin.slots⟩
  have hstep := hf s.view g hR
  rw [onPin, wp_watch_zoom_attempt, show rstLens.get s = s.view.rst from rfl]
  rcases hfr : f s.view.rst with ⟨_ | _, p⟩ <;> rw [hfr] at hin' hstep <;> simp only [hset] <;>
    exact ⟨hin', hstep⟩

end Steps

/-! ## Invariants, piece by piece -/

/-- `K` of what is recorded after a tick of slot `i`: the transfer it started, or
the one that was recorded before. -/
def Ticked (K : Option BulkOp → View w L D P × G → Prop) (i : Fin 8) (marker : Option BulkOp)
    (b : SocketBackend) : Except Error BulkAction → View w L D P × G → Prop
  | .ok (.started kind pointer len), y => K (some ⟨i, kind, b.block, pointer, len⟩) y
  | _, y => K marker y

variable [SpiDmaDevice D]

/-- `J` stands through short accesses to the common registers, on an idle bus. -/
structure Common (o : Observer (Transceiver L D) G) (J : Transceiver L D × G → Prop) : Prop where
  read : ∀ addr n, addr.block = .commonRegister → n ≤ 8 →
    Keeps (fun x => Held none x.1 ∧ J x) ((read addr n).watch o)
  write : ∀ addr data, addr.block = .commonRegister → data.length ≤ 8 →
    Keeps (fun x => Held none x.1 ∧ J x) ((write addr data).watch o)

/-- `R` stands through a reset, from where the transfer in flight has been
dropped. -/
structure UpheldReset [OutputPin P] (o : DriverObserver L D P G)
    (R : View w L D P × G → Prop) : Prop where
  common : ∀ v : View w L D P, Common o.bus fun x => R (v.setBus x.1, x.2)
  delay : ∀ (v : View w L D P) ns,
    Keeps (fun x => Held none x.1 ∧ R (v.setBus x.1, x.2)) ((delay ns).watch o.bus)
  setLow : ∀ v g, R (v, g) →
    R (v.setRst (OutputPin.setLow v.rst).2, o.pin.note v.rst (OutputPin.setLow v.rst).2 g)
  setHigh : ∀ v g, R (v, g) →
    R (v.setRst (OutputPin.setHigh v.rst).2, o.pin.note v.rst (OutputPin.setHigh v.rst).2 g)
  init : ∀ i (v : View w L D P), Keeps (fun x => Held none x.1 ∧ R (v.setBus x.1, x.2))
    ((initSocket (socketBlock i) .closed).watch o.bus)
  rearm : ∀ i v g, R (v, g) → R (v.setBackend i (v.backend i).rearm,
    o.slots.note v.backend (Function.update v.backend i (v.backend i).rearm) g)

/-- `K`, with the recorded transfer, stands through the servicing calls, and
turns into `R` where a reset begins. -/
structure Upheld (o : DriverObserver L D P G) (K : Option BulkOp → View w L D P × G → Prop)
    (R : View w L D P × G → Prop) : Prop where
  common : ∀ v : View w L D P, Common o.bus fun x => K none (v.setBus x.1, x.2)
  tick : ∀ i v g, (v.backend i).block = socketBlock i → Held none v.bus → K none (v, g) →
    match ((v.backend i).run.watch (o.bus.comap Io.trans)).run (v.io i, g) with
    | ((result, b), io, g') => Ticked K i none b result ((v.setIo i io).setBackend i b,
        o.slots.note v.backend (Function.update v.backend i b) g')
  stalled : ∀ i v g op st, K (some op) (v, g) → SocketBackend.StallsTo (v.backend i).state st →
    let b := SocketBackend.reap { v.backend i with state := st }
    K (some op) (v.setBackend i b, o.slots.note v.backend (Function.update v.backend i b) g)
  finish : ∀ op txn v g, v.bus = .inFlight txn → Describes op txn → K (some op) (v, g) →
    wp ((finishBulk op).watch (o.bus.comap Io.trans))
      (fun _ x => K none (v.setIo op.idx x.1, x.2)) (fun _ x => K none (v.setIo op.idx x.1, x.2))
      (v.io op.idx, g)
  dropped : ∀ marker v g, K marker (v, g) →
    R (v.setBus (abort.run v.bus).2, o.bus.note v.bus (abort.run v.bus).2 g)

section Reset

variable [OutputPin P] {I R : View w L D P × G → Prop} {held : Option (Transaction L D)}
  {marker : Option BulkOp}

namespace UpheldReset

variable (hr : UpheldReset o R)
include hr

theorem keeps_resetDelay : Keeps (Stands R none none) (resetDelay.watch o.driver) := by
  have hdelay : Keeps (Stands R none none) ((onBus (Wiznet.delay 1000000)).watch o.driver) :=
    keeps_stands_onBus (keeps_delay _) fun v => hr.delay v _
  refine hdelay.watch_outcome.watch_bind fun result => ?_
  cases result with
  | ok _ => exact Keeps.watch_pure _
  | error _ => exact Keeps.watch_throw _

theorem keeps_readU16 {addr : Address} (ha : addr.block = .commonRegister) :
    Keeps (Stands R none none) ((onBus (readU16 addr)).watch o.driver) :=
  keeps_stands_onBus (Wiznet.keeps_readU16 _) fun v =>
    ((hr.common v).read addr 2 ha (by decide)).watch_map _

theorem keeps_awaitChip (tries : Nat) :
    Keeps (Stands R none none) ((awaitChip tries).watch o.driver) := by
  induction tries with
  | zero =>
    refine (hr.keeps_readU16 rfl).watch_bind fun id => ?_
    split
    · exact Keeps.watch_pure _
    · exact Keeps.watch_throw _
  | succ tries ih =>
    refine (hr.keeps_readU16 rfl).watch_bind fun id => ?_
    split
    · exact Keeps.watch_pure _
    · exact hr.keeps_resetDelay.watch_bind fun _ => ih

theorem keeps_resetSocket (i : Fin 8) :
    Keeps (Stands R none none) ((resetSocket i).watch o.driver) := by
  rintro ⟨s, g⟩ ⟨hin, hR⟩
  refine wp_and ((keeps_inside_resetSocket i).watch (s, g) hin) ?_
  rw [resetSocket, wp_watch_holding (flagSilent_backend i) (hin.slotFree i), wp_watch_bind,
    wp_watch_load, wp_watch_bind, wp_watch_onBus]
  have hv := view_setBackendBusy true i s
  have hb : ((setBusy (backendCell i) true s).sockets i).backend.value = s.view.backend i :=
    congrFun (congrArg View.backend hv) i
  have hblock : (s.view.backend i).block = socketBlock i := (hin.slots i).block
  rw [hb, hblock, hv]
  refine wp_mono (hr.init i s.view (s.view.bus, g) ⟨hin.bus, hR⟩) ?_ ?_
  · rintro _ ⟨cell, g'⟩ ⟨-, hR'⟩
    have hv' : (transLens.set cell (setBusy (backendCell i) true s)).view = s.view.setBus cell := by
      rw [view_setBus, hv]
    have hb' : ((backendCell i).get (transLens.set cell (setBusy (backendCell i) true s))).value =
        s.view.backend i := hb
    have hrearm := hr.rearm i _ g' hR'
    rw [wp_watch_always, Prog.run_watch_zoom_store, DriverObserver.driver_note, Lens.comp_set,
      view_setBackendBusy, view_setCell, hv']
    simp only [View.setBackend, Observer.note_self, Lens.comp_get, cellValue, hb']
    exact hrearm
  · rintro _ ⟨cell, g'⟩ ⟨-, hR'⟩
    rw [view_setBackendBusy, view_setBus, hv]
    exact hR'

theorem keeps_resetSockets (slots : List (Fin 8)) :
    Keeps (Stands R none none) ((resetSockets slots).watch o.driver) := by
  induction slots with
  | nil => exact Keeps.watch_pure _
  | cons i rest ih => exact (hr.keeps_resetSocket i).watch_bind fun _ => ih

theorem keeps_enableInterrupts :
    Keeps (Stands R none none) (enableInterrupts.watch o.driver) := by
  have hw : ∀ {addr : Address} {value : UInt8}, addr.block = .commonRegister →
      Keeps (Stands R none none) ((onBus (writeU8 addr value)).watch o.driver) := fun ha =>
    keeps_stands_onBus (keeps_write _ _) fun v => (hr.common v).write _ _ ha (by simp)
  exact (hw rfl).watch_bind fun _ => (hw rfl).watch_bind fun _ => (hw rfl).watch_bind fun _ =>
    hw rfl

/-- A reset drops the transfer in flight, and keeps `R` from there on. -/
theorem triple_resetHeld (hd : ∀ v g, I (v, g) →
      R (v.setBus (abort.run v.bus).2, o.bus.note v.bus (abort.run v.bus).2 g)) :
    Triple (Stands I held marker) (resetHeld.watch o.driver) (fun _ => Stands R none none)
      fun _ => Stands R none none := by
  refine Triple.watch_bind (R := fun _ => Stands R none marker) ?_ fun _ => ?_
  · rintro ⟨s, g⟩ ⟨hin, hI⟩
    have hnote : o.driver.note s (transLens.set (abort.run s.view.bus).2 s) g =
        o.bus.note s.view.bus (abort.run s.view.bus).2 g := by
      rw [DriverObserver.driver_note, view_setBus]
      simp only [View.setBus, Observer.note_self]
    rw [wp_watch_always]
    refine ⟨⟨abort_idle hin.bus, hin.bulk, hin.config, hin.slots⟩, ?_⟩
    have h := hd s.view g hI
    rw [← hnote] at h
    exact h
  refine Triple.watch_bind (R := fun _ => Stands R none none) ?_ fun _ => ?_
  · rintro ⟨s, g⟩ ⟨hin, hR⟩
    rw [wp_watch_silent (silent_setMarker none), wp, exec_setMarker none (by rw [hin.bulk])]
    exact ⟨⟨hin.bus, rfl, hin.config, hin.slots⟩, hR⟩
  refine (keeps_stands_onPin _ hr.setLow).watch_andThen fun _ => ?_
  refine hr.keeps_resetDelay.watch_andThen fun _ => ?_
  refine (keeps_stands_onPin _ hr.setHigh).watch_andThen fun _ => ?_
  refine (hr.keeps_awaitChip _).watch_andThen fun _ => (hr.keeps_readU16 rfl).watch_andThen
    fun version => ?_
  split
  · exact Keeps.watch_throw _
  · exact (hr.keeps_resetSockets _).watch_andThen fun _ => hr.keeps_enableInterrupts

end UpheldReset

end Reset

/-! ## Servicing -/

section Servicing

variable {K : Option BulkOp → View w L D P × G → Prop} {R : View w L D P × G → Prop}
  {held : Option (Transaction L D)} {marker : Option BulkOp}

/-- The driver inside a call that may have started a transfer. -/
def Standing (K : Option BulkOp → View w L D P × G → Prop) (x : W6100 w L D P × G) : Prop :=
  ∃ held marker, Agree held marker ∧ Stands (K marker) held marker x

/-- The driver between two calls, with the invariant of what is recorded. -/
def Stood (K : Option BulkOp → View w L D P × G → Prop) (x : W6100 w L D P × G) : Prop :=
  x.1.device.busy = false ∧ Standing K x

/-- `R`, and nothing is recorded. -/
def Dropped (R : View w L D P × G → Prop) (marker : Option BulkOp) (y : View w L D P × G) : Prop :=
  marker = none ∧ R y

omit [SpiDmaDevice D] in
theorem Stood.settled {x : W6100 w L D P × G} (h : Stood K x) : Settled x.1 := by
  obtain ⟨hd, held, marker, ha, hi, -⟩ := h
  exact ⟨hd, held, marker, ha, hi⟩

omit [SpiDmaDevice D] in
theorem Stood.holds {x : W6100 w L D P × G} (h : Stood K x) :
    K x.1.bulk.value (x.1.view, x.2) := by
  obtain ⟨-, held, marker, -, hi, hK⟩ := h
  rw [hi.bulk]
  exact hK

omit [SpiDmaDevice D] in
theorem stood_of_settled {x : W6100 w L D P × G} (h : Settled x.1)
    (hK : K x.1.bulk.value (x.1.view, x.2)) : Stood K x := by
  obtain ⟨hd, held, marker, ha, hi⟩ := h
  rw [hi.bulk] at hK
  exact ⟨hd, held, marker, ha, hi, hK⟩

omit [SpiDmaDevice D] in
/-- Letting go of the device cell. -/
theorem Standing.stood {x : W6100 w L D P × G} (h : Standing K x) :
    Stood K (setBusy deviceCell false x.1, x.2) := by
  obtain ⟨held, marker, ha, hi, hK⟩ := h
  exact ⟨rfl, held, marker, ha, (inside_setBusy false x.1).mpr hi, hK⟩

/-- Between two calls, with what is on the bus. -/
abbrev StoodAt (I : View w L D P × G → Prop) (held : Option (Transaction L D))
    (marker : Option BulkOp) (x : W6100 w L D P × G) : Prop :=
  Ready held marker x.1 ∧ I (x.1.view, x.2)

omit [SpiDmaDevice D] in
theorem keeps_stoodAt_holding {I : View w L D P × G → Prop} {body : Code Error (W6100 w L D P) α}
    (hb : Keeps (Stands I held marker) (body.watch o.driver)) :
    Keeps (StoodAt I held marker) ((holding deviceCell body).watch o.driver) :=
  triple_watch_holding flagSilent_device (fun _ h => h.1.device)
    (Triple.consequence hb (fun x h => ⟨(inside_setBusy false x.1).mp h.1.inside, h.2⟩)
      (fun _ _ h => ⟨h.1.ready, h.2⟩) fun _ _ h => ⟨h.1.ready, h.2⟩)

namespace Upheld

omit [SpiDmaDevice D] in
/-- An access to the common registers, with or without a transfer in flight. -/
theorem keeps_access (ha : Agree held marker) {c : Code Error (Transceiver L D) α}
    (hb : Blocked c) (hi : Keeps (Held none) c)
    (hc : ∀ v : View w L D P, Keeps (fun x => Held none x.1 ∧ K none (v.setBus x.1, x.2))
      (c.watch o.bus)) : Keeps (Stands (K marker) held marker) ((onBus c).watch o.driver) := by
  cases held with
  | none =>
    cases marker with
    | none => exact keeps_stands_onBus hi hc
    | some op => exact ha.elim
  | some txn => exact keeps_stands_blocked hb

variable (hu : Upheld o K R)
include hu

theorem keeps_write (ha : Agree held marker) {addr : Address} {data : List UInt8}
    (hc : addr.block = .commonRegister) (hn : data.length ≤ 8) :
    Keeps (Stands (K marker) held marker) ((onBus (write addr data)).watch o.driver) :=
  keeps_access ha (blocked_write _ _) (Wiznet.keeps_write _ _) fun v =>
    (hu.common v).write _ _ hc hn

theorem keeps_isLinkUp (ha : Agree held marker) :
    Keeps (StoodAt (K marker) held marker) (isLinkUp.watch o.driver) := by
  refine keeps_stoodAt_holding (Keeps.watch_bind ?_ fun _ => Keeps.watch_pure _)
  exact keeps_access ha (blocked_readU8 _) (keeps_readU8 _) fun v =>
    ((hu.common v).read PHYSR 1 rfl (by decide)).watch_map _

theorem keeps_setupNetwork (ha : Agree held marker) (sourceAddr gatewayAddress mask : UInt32) :
    Keeps (StoodAt (K marker) held marker)
      ((setupNetwork sourceAddr gatewayAddress mask).watch o.driver) := by
  have hword {addr : Address} {v : UInt32} (hc : addr.block = .commonRegister) :
      Keeps (Stands (K marker) held marker) ((onBus (writeU32 addr v)).watch o.driver) :=
    hu.keeps_write ha hc (by simp)
  refine keeps_stoodAt_holding ((hu.keeps_write ha rfl (by simp)).watch_bind fun _ => ?_)
  refine (Keeps.watch_silent (Silent.always (Prog.Silent.load _)) fun _ =>
    Keeps.always fun _ h => h).watch_bind fun mac => ?_
  have hmac : mac.1.length ≤ 8 := by rw [mac.2]; decide
  exact (hu.keeps_write ha rfl hmac).watch_bind fun _ => (hword rfl).watch_bind fun _ =>
    (hword rfl).watch_bind fun _ => (hword rfl).watch_bind fun _ =>
    hu.keeps_write ha rfl (by simp)

theorem keeps_applyConfig (ha : Agree held marker) :
    Keeps (StoodAt (K marker) held marker) (applyConfig.watch o.driver) := by
  refine (Keeps.watch_silent (Silent.always (Prog.Silent.load _)) fun _ =>
    Keeps.always fun _ h => h).watch_bind fun dirty => ?_
  split
  · refine (Keeps.watch_silent silent_networkConfig fun g s hs => ?_).watch_bind fun config => ?_
    · rw [wp, exec_networkConfig hs.1.inside.config]
      exact hs
    · cases config with
      | none => exact Keeps.watch_pure _
      | some config =>
        refine (hu.keeps_setupNetwork ha _ _ _).watch_bind fun _ => ?_
        rintro ⟨s, g⟩ hs
        rw [wp_watch_store_hidden rfl]
        exact ⟨hs.1.flags s.linkUp false, hs.2⟩
  · exact Keeps.watch_pure _

/-- The loop stops at the first transfer, which it records. -/
theorem triple_runSockets (ha : Agree held marker) (slots : List (Fin 8)) :
    Triple (Stands (K marker) held marker) ((runSockets slots).watch o.driver)
      (fun _ => Standing K) fun _ => Standing K := by
  induction slots with
  | nil => exact fun x h => ⟨held, marker, ha, h⟩
  | cons idx rest ih =>
    rintro ⟨s, g⟩ ⟨hin, hK⟩
    refine wp_watch_runSockets_cons (hin.slots idx).free fun result b io g' hr => ?_
    have hplain := Prog.run_watch (o := o.bus.comap Io.trans) (s.view.backend idx).run
      (s.view.io idx) g
    rw [hr] at hplain
    obtain ⟨hacc, hb⟩ := SocketBackend.run_accounts (s.view.backend idx)
      (serves_held held _) (s.view.io idx) hin.bus
    rw [← hplain.1, ← hplain.2] at hacc
    rw [← hplain.1] at hb
    have hb' : b.block = socketBlock idx := hb.trans (hin.slots idx).block
    -- what the tick has made of the driver is settled, and `K` of what it reports
    have hx : Ticked K idx marker b result ((ticked idx io b s).view,
        o.slots.note s.view.backend (Function.update s.view.backend idx b) g') := by
      rw [view_ticked]
      cases held with
      | none =>
        cases marker with
        | none =>
          have h := hu.tick idx s.view g (hin.slots idx).block hin.bus hK
          rw [hr] at h
          exact h
        | some op => exact ha.elim
      | some txn =>
        cases marker with
        | none => exact ha.elim
        | some op =>
          have hbus : (s.view.io idx).trans = .inFlight txn := hin.bus
          have h := SocketBackend.run_stalls (s.view.backend idx) o.bus g hbus
          rw [hr] at h
          obtain ⟨hnone, rfl, rfl, st, hst, rfl⟩ := h
          have hk := hu.stalled idx s.view g' op st hK hst
          rcases result with e | (_ | ⟨kind, pointer, len⟩)
          · rw [View.setIo_io]
            exact hk
          · rw [View.setIo_io]
            exact hk
          · cases hnone _ rfl
    rcases result with (e | e) | (_ | ⟨kind, pointer, len⟩)
    · exact ⟨held, marker, ha, hin.ticked held hacc hb', hx⟩
    · exact ih _ ⟨hin.ticked held hacc hb', hx⟩
    · exact ih _ ⟨hin.ticked held hacc hb', hx⟩
    · obtain ⟨rfl, txn, htxn, hc⟩ := hacc
      have hi := hin.ticked (some txn) htxn hb'
      change wp ((setMarker _).watch o.driver) _ _ _
      rw [wp_watch_silent (silent_setMarker _), wp, exec_setMarker _ (by rw [hi.bulk])]
      have hop : Describes ⟨idx, kind, b.block, pointer, len⟩ txn := ⟨hb', by rw [hb]; exact hc⟩
      exact ⟨some txn, some _, hop, ⟨hi.bus, rfl, hi.config, hi.slots⟩, hx⟩

theorem triple_run (ha : Agree held marker) :
    Triple (StoodAt (K marker) held marker) (run.watch o.driver) (fun _ => Stood K)
      fun _ => Stood K :=
  triple_watch_holding flagSilent_device (fun _ h => h.1.device)
    ((hu.triple_runSockets ha _).consequence
      (fun x h => ⟨(inside_setBusy false x.1).mp h.1.inside, h.2⟩)
      (fun _ _ h => h.stood) fun _ _ h => h.stood)

variable [OutputPin P]

theorem triple_reset (hr : UpheldReset o R) :
    Triple (StoodAt (K marker) held marker) (reset.watch o.driver)
      (fun _ => StoodAt R none none) fun _ => StoodAt R none none :=
  triple_watch_holding flagSilent_device (fun _ h => h.1.device)
    ((hr.triple_resetHeld (hu.dropped marker)).consequence
      (fun x h => ⟨(inside_setBusy false x.1).mp h.1.inside, h.2⟩)
      (fun _ _ h => ⟨h.1.ready, h.2⟩) fun _ _ h => ⟨h.1.ready, h.2⟩)

end Upheld

omit [SpiDmaDevice D] in
theorem StoodAt.stood {x : W6100 w L D P × G} (h : StoodAt (K marker) held marker x)
    (ha : Agree held marker) : Stood K x :=
  ⟨h.1.device, held, marker, ha, h.1.inside, h.2⟩

omit [SpiDmaDevice D] in
theorem StoodAt.dropped {x : W6100 w L D P × G} (h : StoodAt R none none x) :
    Stood (Dropped R) x := ⟨h.1.device, none, none, trivial, h.1.inside, rfl, h.2⟩

/-- `J` does not look at what a reset changes. -/
theorem keeps_reset [OutputPin P] {J : W6100 w L D P → Prop}
    (hJ : ∀ s device sockets bulk, J s →
      J { s with device := device, sockets := sockets, bulk := bulk }) : Keeps J reset := by
  have hbus : ∀ {β : Type} (c : Code Error (Transceiver L D) β), Keeps J (onBus c) := fun c =>
    Keeps.zoom_of_set fun _ s h => hJ s _ s.sockets s.bulk h
  have hpin : ∀ f : P → Bool × P, Keeps J (onPin f) := fun f =>
    Keeps.zoom_of_set fun _ s h => hJ s _ s.sockets s.bulk h
  have hslots : ∀ slots, Keeps J (resetSockets slots) := fun slots => by
    induction slots with
    | nil => exact Keeps.pure _
    | cons i rest ih =>
      refine Keeps.bind (keeps_holding (fun _ s h => hJ s s.device _ s.bulk h) ?_) fun _ => ih
      refine Keeps.bind (Keeps.always fun _ h => h) fun b => (hbus _).bind fun _ => ?_
      refine Keeps.always fun s h => ?_
      rw [Prog.run_zoom]
      exact hJ s s.device _ s.bulk h
  refine keeps_holding (fun _ s h => hJ s _ s.sockets s.bulk h) ?_
  refine Keeps.bind (Keeps.always fun s h => ?_) fun _ => ?_
  · rw [Prog.run_zoom]
    exact hJ s _ s.sockets s.bulk h
  refine (keeps_setMarker (fun s b h => hJ s s.device s.sockets b h) _).bind fun _ => ?_
  refine (hpin _).bind fun _ => (keeps_resetDelay (hbus _)).bind fun _ => (hpin _).bind fun _ => ?_
  refine (keeps_awaitChip (hbus _) (hbus _) _).bind fun _ => (hbus _).bind fun version => ?_
  split
  · exact Keeps.throw _
  · refine (hslots _).bind fun _ => ?_
    exact (hbus _).bind fun _ => (hbus _).bind fun _ => (hbus _).bind fun _ => hbus _

/-- `K` still stands; or the link went down, and `R` does. -/
def Serviced (K : Option BulkOp → View w L D P × G → Prop) (R : View w L D P × G → Prop)
    (wasUp : Bool) (x : W6100 w L D P × G) : Prop :=
  Stood K x ∨ (wasUp = true ∧ x.1.linkUp = false) ∧ Stood (Dropped R) x

namespace Upheld

variable [OutputPin P] (hu : Upheld o K R) (hr : UpheldReset o R)
include hu hr

theorem triple_service (wasUp : Bool) :
    Triple (fun x => Stood K x ∧ x.1.linkUp = wasUp) (service.watch o.driver)
      (fun _ => Serviced K R wasUp) fun _ => Serviced K R wasUp := by
  rintro ⟨s, g⟩ ⟨⟨hd, held, marker, ha, hin, hK⟩, hlink⟩
  have hfree : exec bulkInFlight s = (.ok marker.isSome, s) := by
    rw [exec_bulkInFlight (by rw [hin.bulk]), hin.bulk]
  rw [service, wp_watch_bind, wp_watch_silent silent_bulkInFlight, wp, hfree]
  cases marker with
  | some op => exact .inl ⟨hd, held, some op, ha, hin, hK⟩
  | none =>
    change wp (Code.watch o.driver (isLinkUp >>= _)) _ _ (s, g)
    have hup : Keeps (fun s : W6100 w L D P => s.linkUp = wasUp) isLinkUp :=
      W6100.keeps_isLinkUp (fun _ _ h => h) fun _ _ => Keeps.zoom_of_set fun _ _ h => h
    rw [wp_watch_bind]
    refine wp_mono (wp_and (hu.keeps_isLinkUp ha (s, g) ⟨⟨hd, hin⟩, hK⟩) (hup.watch (s, g) hlink))
      ?_ fun _ _ h => .inl (h.1.stood ha)
    rintro up ⟨s₁, g₁⟩ ⟨hs₁, hlink₁⟩
    have hnote : o.driver.note s₁ { s₁ with linkUp := up } g₁ = g₁ := o.driver_note_view g₁ rfl
    have hstore : wp ((Code.always (Prog.atom fun s : W6100 w L D P =>
          (s.linkUp, { s with linkUp := up }))).watch o.driver)
        (fun was x => was = wasUp ∧ x.1.linkUp = up ∧ StoodAt (K none) held none x)
        (fun (_ : Error) _ => False) (s₁, g₁) := by
      rw [wp_watch_always]
      change s₁.linkUp = wasUp ∧ up = up ∧ StoodAt (K none) held none
        ({ s₁ with linkUp := up }, o.driver.note s₁ { s₁ with linkUp := up } g₁)
      rw [hnote]
      exact ⟨hlink₁, rfl, hs₁.1.flags up s₁.configDirty, hs₁.2⟩
    rw [wp_watch_bind]
    refine wp_mono hstore ?_ fun _ _ h => h.elim
    rintro _ ⟨s₂, g₂⟩ ⟨rfl, hlink₂, hs₂⟩
    cases up with
    | false =>
      simp only [Bool.not_false, if_true]
      split
      next hwas =>
        rw [wp_watch_bind]
        have hdown : Keeps (fun s : W6100 w L D P => s.linkUp = false) reset :=
          keeps_reset fun _ _ _ _ h => h
        refine wp_mono (wp_and (hu.triple_reset hr (s₂, g₂) hs₂) (hdown.watch (s₂, g₂) hlink₂))
          ?_ fun _ _ h => .inr ⟨⟨hwas, h.2⟩, h.1.dropped⟩
        rintro _ ⟨s₃, g₃⟩ ⟨hs₃, hlink₃⟩
        rw [wp_watch_store_hidden rfl]
        refine .inr ⟨⟨hwas, hlink₃⟩, StoodAt.dropped ⟨hs₃.1.flags s₃.linkUp true, hs₃.2⟩⟩
      · exact .inl (hs₂.stood ha)
    | true =>
      simp only [Bool.not_true, Bool.false_eq_true, if_false, wp_watch_bind]
      refine wp_mono (hu.keeps_applyConfig ha (s₂, g₂) hs₂) (fun _ x hx => ?_)
        fun _ _ h => .inl (h.stood ha)
      exact wp_mono (hu.triple_run ha x hx) (fun _ _ h => .inl h) fun _ _ h => .inl h

omit [OutputPin P] hr in
/-- The epilogue of a transfer, whatever comes of it. -/
theorem triple_retireBulk {op : BulkOp} {txn : Transaction L D} (hop : Describes op txn) :
    Triple (StoodAt (K (some op)) (some txn) (some op)) ((retireBulk op).watch o.driver)
      (fun _ => StoodAt (K none) none none) fun _ => StoodAt (K none) none none := by
  rintro ⟨s, g⟩ ⟨hready, hK⟩
  refine wp_and ((W6100.triple_retireBulk op txn).watch (s, g) hready) ?_
  have hmark : ∀ s' g', K none (s'.view, g') → wp ((setMarker none).watch o.driver)
      (fun _ x => K none (x.1.view, x.2)) (fun _ x => K none (x.1.view, x.2)) (s', g') :=
    fun s' g' h => by
      rw [wp_watch_silent (silent_setMarker none)]
      exact keeps_setMarker (J := fun s => K none (s.view, g')) (fun _ _ h => h) none s' h
  have hfinish : wp ((Code.zoom (ioLens op.idx) (finishBulk op)).watch o.driver)
      (fun _ x => K none (x.1.view, x.2)) (fun _ x => K none (x.1.view, x.2))
      (setBusy deviceCell true s, g) := by
    rw [wp_watch_zoom (o.bus.comap Io.trans) fun io s g => note_setIo op.idx io s g]
    simp only [view_setIo]
    exact hu.finish op txn s.view g hready.inside.bus hop hK
  rw [retireBulk, wp_watch_bind, wp_watch_outcome, wp_watch_holding flagSilent_device hready.device]
  exact wp_mono hfinish (fun _ x h => hmark _ x.2 h) fun _ x h => hmark _ x.2 h

theorem triple_dmaComplete (wasUp : Bool) :
    Triple (fun x => Stood K x ∧ x.1.linkUp = wasUp) (dmaComplete.watch o.driver)
      (fun _ => Serviced K R wasUp) fun _ => Serviced K R wasUp := by
  rintro ⟨s, g⟩ ⟨⟨hd, held, marker, ha, hin, hK⟩, hlink⟩
  have hload : (Code.outcome (holding bulkCell (Code.always (Prog.load fun s => s.bulk.value))) :
      Code Error (W6100 w L D P) _).Silent o.driver :=
    Silent.outcome (Silent.holding (fun _ _ g => o.driver_note_view g rfl)
      (Silent.always (Prog.Silent.load _)))
  have hvalue : exec (Code.outcome (holding bulkCell
      (Code.always (Prog.load fun s => s.bulk.value))) : Code Error (W6100 w L D P) _) s =
      (.ok (.ok marker), s) := by
    rw [exec_outcome, exec_holding_load _ (by rw [show bulkCell.get s = s.bulk from rfl, hin.bulk])]
    have hm : s.bulk.value = marker := by rw [hin.bulk]
    simp [setBusy, bulkCell, hm]
  rw [dmaComplete, wp_watch_bind, wp_watch_silent hload, wp, hvalue]
  cases marker with
  | none => exact .inl ⟨hd, held, none, ha, hin, hK⟩
  | some op =>
    cases held with
    | none => exact ha.elim
    | some txn =>
      have hkeep : Keeps (fun s : W6100 w L D P => s.linkUp = wasUp) (retireBulk op) :=
        (keeps_holding (fun _ _ h => h) (Keeps.zoom_of_set fun _ _ h => h)).outcome.bind fun _ =>
          keeps_setMarker (fun _ _ h => h) none
      dsimp only
      rw [wp_watch_bind]
      refine wp_mono (wp_and (hu.triple_retireBulk ha (s, g) ⟨⟨hd, hin⟩, hK⟩)
        (hkeep.watch (s, g) hlink)) ?_ fun _ _ h => .inl (h.1.stood trivial)
      rintro _ x ⟨hx, hl⟩
      rw [wp_watch_bind, wp_watch_outcome]
      exact wp_mono (hu.triple_service hr wasUp x ⟨hx.stood trivial, hl⟩) (fun _ _ h => h)
        fun _ _ h => h

end Upheld

end Servicing

/-! ## Observed calls -/

/-- The calls that work on the slots only. -/
def onSlots : Call → Bool
  | .openTcpConnect _ _ _ _ _ | .openTcpListen _ _ _ | .openUdp _ _ _ | .handle _ _ => true
  | _ => false

section Calls

variable [OutputPin P]

/-- A call under observation; one that never touches the bus is a single step to
the observer. -/
def observe (o : DriverObserver L D P G) (x : W6100 w L D P × G) : Call → W6100 w L D P × G
  | .service => (exec (service.watch o.driver) x).2
  | .run => (exec (run.watch o.driver) x).2
  | .dmaComplete => (exec (dmaComplete.watch o.driver) x).2
  | .reset => (exec (reset.watch o.driver) x).2
  | .isLinkUp => (exec (isLinkUp.watch o.driver) x).2
  | .setupNetwork sourceAddr gatewayAddress mask =>
    (exec ((setupNetwork sourceAddr gatewayAddress mask).watch o.driver) x).2
  | c => (x.1.apply c, o.driver.note x.1 (x.1.apply c) x.2)

/-- The observer is not seen. -/
@[simp] theorem observe_fst (x : W6100 w L D P × G) (c : Call) :
    (observe o x c).1 = x.1.apply c := by
  cases c <;> first | rfl | exact (exec_watch _ x.1 x.2).2

/-- The call is a reset, or it finds the link gone and resets. -/
def Resets (s : W6100 w L D P) (c : Call) : Prop :=
  c = .reset ∨ s.linkUp = true ∧ (s.apply c).linkUp = false

variable {K : Option BulkOp → View w L D P × G → Prop} {R : View w L D P × G → Prop}

/-- One call from where `K` stands. -/
theorem Upheld.call (hu : Upheld o K R) (hr : UpheldReset o R) {x : W6100 w L D P × G}
    (hx : Stood K x) {c : Call} (hc : onSlots c = false) :
    Stood K (observe o x c) ∨ Resets x.1 c ∧ Stood (Dropped R) (observe o x c) := by
  have hserviced : ∀ {x' : W6100 w L D P × G},
      x'.1 = x.1.apply c → Serviced K R x.1.linkUp x' →
      Stood K x' ∨ Resets x.1 c ∧ Stood (Dropped R) x' := fun hx' h =>
    h.imp_right fun h => ⟨.inr (hx' ▸ h.1), h.2⟩
  obtain ⟨hd, held, marker, ha, hin, hK⟩ := hx
  have hat : StoodAt (K marker) held marker x := ⟨⟨hd, hin⟩, hK⟩
  have hstood := hat.stood ha
  cases c with
  | service =>
    exact hserviced (observe_fst x .service) (wp_state (hu.triple_service hr _ x ⟨hstood, rfl⟩))
  | run => exact .inl (wp_state (hu.triple_run ha x hat))
  | dmaComplete =>
    exact hserviced (observe_fst x .dmaComplete)
      (wp_state (hu.triple_dmaComplete hr _ x ⟨hstood, rfl⟩))
  | reset => exact .inr ⟨.inl rfl, StoodAt.dropped (wp_state (hu.triple_reset hr x hat))⟩
  | isLinkUp => exact .inl (((hu.keeps_isLinkUp ha).exec hat).stood ha)
  | setupNetwork a b m => exact .inl (((hu.keeps_setupNetwork ha a b m).exec hat).stood ha)
  | setNetworkConfig config =>
    have hview : Keeps (fun s : W6100 w L D P => s.view = x.1.view) (setNetworkConfig config) := by
      refine Keeps.bind (keeps_holding (fun _ _ h => h) (Keeps.always fun s h => h)) fun _ =>
        Keeps.always fun s h => h
    have hv : (x.1.apply (.setNetworkConfig config)).view = x.1.view := hview.exec rfl
    have hnote : o.driver.note x.1 (x.1.apply (.setNetworkConfig config)) x.2 = x.2 :=
      o.driver_note_view x.2 hv
    refine .inl (StoodAt.stood ⟨(keeps_ready_setNetworkConfig config).exec hat.1, ?_⟩ ha)
    rw [show observe o x (.setNetworkConfig config) = (x.1.apply (.setNetworkConfig config),
      o.driver.note x.1 (x.1.apply (.setNetworkConfig config)) x.2) from rfl, hnote, hv]
    exact hK
  | openTcpConnect | openTcpListen | openUdp | handle => cases hc

end Calls

/-! ## Invariants of the slots -/

/-- Only a slot whose machine may still move data has a transfer recorded. -/
def Carries (marker : Option BulkOp) (f : Fin 8 → SocketBackend) : Prop :=
  ∀ op, marker = some op → (f op.idx).isMoving = true

section Carries

variable {f : Fin 8 → SocketBackend} {marker : Option BulkOp} {i : Fin 8}

theorem carries_none : Carries none f := nofun

theorem Carries.update {b : SocketBackend} (h : Carries marker f)
    (hb : (f i).isMoving = true → b.isMoving = true) :
    Carries marker (Function.update f i b) := fun op hop => by
  have hf := h op hop
  by_cases hi : op.idx = i
  · subst hi
    rw [Function.update_self]
    exact hb hf
  · rwa [Function.update_of_ne hi]

/-- While a transfer is in flight a tick leaves its machine where it is. -/
theorem Carries.stalled {st : BackendState} (h : Carries marker f)
    (hst : SocketBackend.SameStatus (f i).state st) :
    Carries marker (Function.update f i (SocketBackend.reap { f i with state := st })) :=
  h.update fun hb => by
    have hm := SocketBackend.isMoving_of_sameStatus hst hb
    rw [SocketBackend.isMoving_reap hm]
    exact hm

end Carries

section Slots

open DriverObserver (blind)

variable {S R : (Fin 8 → SocketBackend) → (Fin 8 → SocketRings w) → Prop}

omit [SpiDmaDevice D] in
theorem keeps_const {C : Prop} {c : Code Error (Transceiver L D) α} (hc : Keeps (Held none) c)
    {o : Observer (Transceiver L D) G} :
    Keeps (fun x => Held none x.1 ∧ C) (c.watch o) :=
  (hc.watch).and fun _ h => wp_iff.mpr ⟨fun _ _ _ => h, fun _ _ _ => h⟩

/-- An invariant of the slots and their rings, with what is recorded. -/
def Slots (S : (Fin 8 → SocketBackend) → (Fin 8 → SocketRings w) → Prop)
    (marker : Option BulkOp) (y : View w L D P × Unit) : Prop :=
  Carries marker y.1.backend ∧ S y.1.backend y.1.rings

theorem upheld_of_slots
    (htick : ∀ i f r (io : Io w L D), io.rings = r i → S f r →
      S (Function.update f i ((f i).run.run io).1.2)
        (Function.update r i ((f i).run.run io).2.rings))
    (hstalled : ∀ i f r st, SocketBackend.SameStatus (f i).state st → S f r →
      S (Function.update f i (SocketBackend.reap { f i with state := st })) r)
    (hfinish : ∀ i f r rings, (f i).isMoving = true → S f r → S f (Function.update r i rings))
    (hdropped : ∀ f r, S f r → R f r) :
    Upheld (w := w) (L := L) (D := D) (P := P) .blind (Slots S)
      fun y => R y.1.backend y.1.rings where
  common v := ⟨fun _ _ _ _ => keeps_const (C := Slots S none (v, ())) (Wiznet.keeps_read _ _),
    fun _ _ _ _ => keeps_const (C := Slots S none (v, ())) (Wiznet.keeps_write _ _)⟩
  tick i v g _ _ hS := by
    have h := htick i v.backend v.rings (v.io i) rfl hS.2
    have hr := Prog.run_watch (o := Observer.blind.comap Io.trans) (v.backend i).run (v.io i) g
    rcases hp : (v.backend i).run.run (v.io i) with ⟨⟨result, b⟩, io⟩
    rw [hp] at h hr
    have hw : ((v.backend i).run.watch ((blind (L := L) (D := D) (P := P)).bus.comap
        Io.trans)).run (v.io i, g) = ((result, b), io, ()) := Prod.ext hr.1 (Prod.ext hr.2 rfl)
    rw [hw]
    rcases result with e | (_ | ⟨kind, pointer, len⟩)
    · exact ⟨carries_none, h⟩
    · exact ⟨carries_none, h⟩
    · have hstart : (v.backend i).isMoving = true ∧ b = v.backend i :=
        SocketBackend.run_starts (congrArg Prod.fst hp)
      refine ⟨fun op hop => ?_, h⟩
      cases hop
      rw [show ((v.setIo i io).setBackend i b).backend i = b from Function.update_self ..,
        hstart.2]
      exact hstart.1
  stalled i v g op st hS hst :=
    ⟨hS.1.stalled hst.status, hstalled i v.backend v.rings st hst.status hS.2⟩
  finish op txn v g _ _ hS :=
    wp_iff.mpr ⟨fun _ x _ => ⟨carries_none, hfinish op.idx _ _ x.1.rings (hS.1 op rfl) hS.2⟩,
      fun _ x _ => ⟨carries_none, hfinish op.idx _ _ x.1.rings (hS.1 op rfl) hS.2⟩⟩
  dropped marker v g hS := hdropped v.backend v.rings hS.2

theorem upheldReset_of_slots [OutputPin P]
    (hrearm : ∀ i f r, R f r → R (Function.update f i (f i).rearm) r) :
    UpheldReset (w := w) (L := L) (D := D) (P := P) .blind fun y => R y.1.backend y.1.rings where
  common v := ⟨fun _ _ _ _ => keeps_const (C := R v.backend v.rings) (Wiznet.keeps_read _ _),
    fun _ _ _ _ => keeps_const (C := R v.backend v.rings) (Wiznet.keeps_write _ _)⟩
  delay v _ := keeps_const (C := R v.backend v.rings) (Wiznet.keeps_delay _)
  setLow _ _ h := h
  setHigh _ _ h := h
  init _ v := keeps_const (C := R v.backend v.rings) (keeps_held_initSocket none _ _)
  rearm i v _ h := hrearm i v.backend v.rings h

/-- One call that may tick, for an invariant of the slots. -/
theorem Slots.call [OutputPin P] {s : W6100 w L D P} {c : Call}
    (hu : Upheld (w := w) (L := L) (D := D) (P := P) .blind (Slots S)
      fun y => R y.1.backend y.1.rings)
    (hr : UpheldReset (w := w) (L := L) (D := D) (P := P) .blind fun y => R y.1.backend y.1.rings)
    (hs : Settled s) (hS : Slots S s.bulk.value (s.view, ())) (hc : onSlots c = false) :
    let s' := s.apply c
    Carries s'.bulk.value s'.view.backend ∧
      (S s'.view.backend s'.view.rings ∨
        Resets s c ∧ s'.bulk.value = none ∧ R s'.view.backend s'.view.rings) := by
  have hx := observe_fst (o := blind (L := L) (D := D) (P := P)) (s, ()) c
  rw [← hx]
  rcases hu.call hr (x := (s, ())) (stood_of_settled hs hS) hc with h | ⟨hres, h⟩
  · exact ⟨h.holds.1, .inl h.holds.2⟩
  · exact ⟨h.holds.1 ▸ carries_none, .inr ⟨hres, h.holds.1, h.holds.2⟩⟩

end Slots

end W6100

end Wiznet
