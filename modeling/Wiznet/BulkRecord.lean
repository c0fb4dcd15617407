import Wiznet.Ownership
import Wiznet.Locks

/-! # The marker tells the truth

Between calls the driver is settled: no cell is held, and the marker and the
transport agree. Inside a call the device cell is held and the two agree up to
the step that is being taken. -/

namespace Wiznet
open Resumption Resumption.Code Tick

variable {w L : Nat} {D P α : Type}

/-- The captured payload is as long as the transfer. -/
theorem Carries.rxWindow_length {txn : Transaction L D} {addr : Address} {write : Bool} {len : Nat}
    (h : Carries txn addr write len) : (txn.buffers.rxWindow HEADER len).length = len := by
  obtain ⟨payload, hlen, hmosi⟩ := h.frame
  have hle := congrArg List.length hmosi
  rw [DmaBuffers.mosi, h.window, List.length_take, txn.buffers.tx_length, List.length_append,
    createHeader_length, hlen] at hle
  rw [DmaBuffers.rxWindow, List.length_take, List.length_drop, txn.buffers.rx_length]
  omega

/-- `op` says exactly what is on the bus. -/
structure Describes (op : BulkOp) (txn : Transaction L D) : Prop where
  block : op.block = socketBlock op.idx
  frame : Carries txn ⟨op.pointer, op.kind.buffer op.block⟩ op.kind.writes op.len

/-- The transport and the marker agree. -/
def Agree : Option (Transaction L D) → Option BulkOp → Prop
  | none, none => True
  | some txn, some op => Describes op txn
  | _, _ => False

/-- A slot between two calls on it. -/
structure SlotSettled (i : Fin 8) (x : Socket w) : Prop where
  free : x.backend.busy = false
  block : x.backend.value.block = socketBlock i

theorem SlotSettled.rearm {i : Fin 8} {x : Socket w} (h : SlotSettled i x) :
    SlotSettled i { x with backend := ⟨x.backend.value.rearm, false⟩ } := by
  refine ⟨rfl, ?_⟩
  unfold SocketBackend.rearm
  split <;> exact h.block

/-- The rx ring after a completion that captured `payload`. -/
def BulkOp.deliver (op : BulkOp) (payload : List UInt8) (rx : SpscRing w) : SpscRing w :=
  match op.kind with
  | .receive => ((SpscRing.write payload).run rx).2
  | .receiveDatagram srcIp srcPort =>
    let header := frameHeader (UInt16.ofNat op.len) ⟨srcIp, srcPort⟩
    (SpscRing.commitFrame.run
      ((SpscRing.write payload).run ((SpscRing.write header).run rx).2).2).2
  | .transmit => rx

namespace W6100

/-- The driver as a call that holds the device sees it. -/
structure Inside (held : Option (Transaction L D)) (marker : Option BulkOp) (s : W6100 w L D P) :
    Prop where
  bus : Held held s.device.value.transport
  bulk : s.bulk = ⟨marker, false⟩
  config : s.config.busy = false
  slots : ∀ i, SlotSettled i (s.sockets i)

/-- The driver between two calls. -/
structure Settled (s : W6100 w L D P) : Prop where
  device : s.device.busy = false
  recorded : ∃ held marker, Agree held marker ∧ Inside held marker s

/-- While nothing is recorded the bus is idle. -/
theorem Settled.idle {s : W6100 w L D P} (h : Settled s) (hb : s.bulk.value = none) :
    Held none s.device.value.transport := by
  obtain ⟨-, held, marker, ha, hi⟩ := h
  have hm : marker = none := by rw [← hb, hi.bulk]
  subst hm
  cases held with
  | none => exact hi.bus
  | some txn => exact ha.elim

section Device

variable {held : Option (Transaction L D)} {marker : Option BulkOp}

@[simp] theorem inside_setBusy (b : Bool) (s : W6100 w L D P) :
    Inside held marker (setBusy deviceCell b s) ↔ Inside held marker s :=
  ⟨fun h => ⟨h.bus, h.bulk, h.config, h.slots⟩, fun h => ⟨h.bus, h.bulk, h.config, h.slots⟩⟩

theorem keeps_inside_onBus {c : Code Error (Transceiver L D) α} (hc : Keeps (Held held) c) :
    Keeps (Inside held marker) (onBus c : Code Error (W6100 w L D P) α) := by
  intro s hs
  rw [onBus, wp_zoom]
  exact wp_mono (hc _ hs.bus) (fun _ _ h => ⟨h, hs.bulk, hs.config, hs.slots⟩)
    fun _ _ h => ⟨h, hs.bulk, hs.config, hs.slots⟩

theorem keeps_inside_onPin (f : P → Bool × P) :
    Keeps (Inside held marker) (onPin f : Code Error (W6100 w L D P) Unit) :=
  Keeps.zoom_of_set fun _ _ h => ⟨h.bus, h.bulk, h.config, h.slots⟩

/-- A change to one slot that leaves it settled. -/
theorem Inside.setSocket {s : W6100 w L D P} (h : Inside held marker s) {i : Fin 8} {x : Socket w}
    (hx : SlotSettled i x) : Inside held marker ((socketLens i).set x s) := by
  refine ⟨h.bus, h.bulk, h.config, fun j => ?_⟩
  by_cases hj : j = i
  · subst hj
    simpa [socketLens] using hx
  · simpa [socketLens, hj] using h.slots j

theorem Inside.slotFree {s : W6100 w L D P} (h : Inside held marker s) (i : Fin 8) :
    ((backendCell i).get s).busy = false := (h.slots i).free

/-- A call that holds slot `i` as well, seen as if the slot were free. -/
theorem keeps_inside_onBus_held {i : Fin 8} {c : Code Error (Transceiver L D) α}
    (hc : Keeps (Held held) c) :
    Keeps (fun s : W6100 w L D P => Inside held marker (setBusy (backendCell i) false s))
      (onBus c) := by
  intro s hs
  rw [onBus, wp_zoom]
  exact wp_mono (hc _ hs.bus) (fun _ _ h => ⟨h, hs.bulk, hs.config, hs.slots⟩)
    fun _ _ h => ⟨h, hs.bulk, hs.config, hs.slots⟩

variable [SpiDmaDevice D]

theorem keeps_resetDelay {J : W6100 w L D P → Prop}
    (hdelay : Keeps J (onBus (delay 1000000) : Code Error (W6100 w L D P) Unit)) :
    Keeps J (resetDelay : Code Error (W6100 w L D P) Unit) := by
  refine hdelay.outcome.bind fun result => ?_
  cases result with
  | ok _ => exact Keeps.pure _
  | error _ => exact Keeps.throw _

theorem keeps_awaitChip {J : W6100 w L D P → Prop}
    (hdelay : Keeps J (onBus (delay 1000000) : Code Error (W6100 w L D P) Unit))
    (hread : Keeps J (onBus (readU16 CIDR) : Code Error (W6100 w L D P) UInt16)) (tries : Nat) :
    Keeps J (awaitChip tries : Code Error (W6100 w L D P) Unit) := by
  induction tries with
  | zero =>
    refine hread.bind fun id => ?_
    split
    · exact Keeps.pure _
    · exact Keeps.throw _
  | succ tries ih =>
    refine hread.bind fun id => ?_
    split
    · exact Keeps.pure _
    · exact (keeps_resetDelay hdelay).bind fun _ => ih

theorem keeps_inside_resetSocket (i : Fin 8) :
    Keeps (Inside held marker) (resetSocket i : Code Error (W6100 w L D P) Unit) := by
  refine triple_holding (fun s h => h.slotFree i) ?_
  refine Keeps.bind (Keeps.always fun _ h => h) fun b => ?_
  refine (keeps_inside_onBus_held (keeps_held_initSocket held b.block .closed)).bind fun _ => ?_
  refine Keeps.always fun s hs => ?_
  have hr := hs.setSocket (hs.slots i).rearm
  simpa [setBusy, backendCell, socketLens, Socket.backendLens, cellValue] using hr

theorem keeps_inside_resetSockets (slots : List (Fin 8)) :
    Keeps (Inside held marker) (resetSockets slots : Code Error (W6100 w L D P) Unit) := by
  induction slots with
  | nil => exact Keeps.pure _
  | cons i rest ih => exact (keeps_inside_resetSocket i).bind fun _ => ih

theorem keeps_inside_setupNetworkHeld (sourceAddr gatewayAddress mask : UInt32) :
    Keeps (Inside held marker)
      (setupNetworkHeld sourceAddr gatewayAddress mask : Code Error (W6100 w L D P) Unit) := by
  have hw : ∀ addr data, Keeps (Inside held marker)
      (onBus (write addr data) : Code Error (W6100 w L D P) Unit) :=
    fun addr data => keeps_inside_onBus (keeps_write addr data)
  refine (hw _ _).bind fun _ => (Keeps.always fun _ h => h).bind fun mac => ?_
  exact (hw _ _).bind fun _ => (hw _ _).bind fun _ => (hw _ _).bind fun _ =>
    (hw _ _).bind fun _ => hw _ _

theorem keeps_inside_enableInterrupts :
    Keeps (Inside held marker) (enableInterrupts : Code Error (W6100 w L D P) Unit) := by
  have hw : ∀ addr value, Keeps (Inside held marker)
      (onBus (writeU8 addr value) : Code Error (W6100 w L D P) Unit) :=
    fun addr value => keeps_inside_onBus (keeps_write addr _)
  exact (hw _ _).bind fun _ => (hw _ _).bind fun _ => (hw _ _).bind fun _ => hw _ _

end Device

/-! ## Entry points -/

section EntryPoints

variable {held : Option (Transaction L D)} {marker : Option BulkOp}

/-- The driver between two calls, with what is on the bus. -/
structure Ready (held : Option (Transaction L D)) (marker : Option BulkOp) (s : W6100 w L D P) :
    Prop where
  device : s.device.busy = false
  inside : Inside held marker s

theorem Inside.ready {s : W6100 w L D P} (h : Inside held marker s) :
    Ready held marker (setBusy deviceCell false s) := ⟨rfl, (inside_setBusy false s).mpr h⟩

theorem Ready.settled {s : W6100 w L D P} (h : Ready held marker s) (ha : Agree held marker) :
    Settled s := ⟨h.device, held, marker, ha, h.inside⟩

/-- A call that holds the device and only uses the bus as it finds it. -/
theorem keeps_ready_holding {body : Code Error (W6100 w L D P) α}
    (hb : Keeps (Inside held marker) body) : Keeps (Ready held marker) (holding deviceCell body) :=
  triple_holding (fun _ h => h.device)
    (Triple.consequence hb (fun s h => (inside_setBusy false s).mp h.inside)
      (fun _ _ h => h.ready) fun _ _ h => h.ready)

/-- What a call may make of an idle bus: nothing, or a recorded transfer. A bus
in flight stays exactly as it is. -/
def Served (held : Option (Transaction L D)) (marker : Option BulkOp) (s : W6100 w L D P) : Prop :=
  Inside held marker s ∨
    held = none ∧ ∃ txn op, Describes op txn ∧ Inside (some txn) (some op) s

theorem Served.settled {s : W6100 w L D P} (h : Served held marker s) (hd : s.device.busy = false)
    (ha : Agree held marker) : Settled s := by
  rcases h with h | ⟨-, txn, op, hop, h⟩
  · exact ⟨hd, held, marker, ha, h⟩
  · exact ⟨hd, some txn, some op, hop, h⟩

theorem Inside.ticked {s : W6100 w L D P} (h : Inside held marker s) (held' : Option _)
    {idx : Fin 8} {io : Io w L D} {b : SocketBackend} (hio : Held held' io.trans)
    (hb : b.block = socketBlock idx) : Inside held' marker (ticked idx io b s) := by
  refine ⟨hio, h.bulk, h.config, fun j => ?_⟩
  by_cases hj : j = idx
  · subst hj
    rw [ticked_self]
    exact ⟨rfl, hb⟩
  · rw [ticked_other hj]
    exact h.slots j

/-- The link flag and the dirty flag are not part of the record. -/
theorem Ready.flags {s : W6100 w L D P} (h : Ready held marker s) (linkUp configDirty : Bool) :
    Ready held marker { s with linkUp := linkUp, configDirty := configDirty } :=
  ⟨h.device, h.inside.bus, h.inside.bulk, h.inside.config, h.inside.slots⟩

theorem Ready.served {s : W6100 w L D P} (h : Ready held marker s) :
    s.device.busy = false ∧ Served held marker s := ⟨h.device, .inl h.inside⟩

variable [SpiDmaDevice D]

theorem keeps_ready_isLinkUp :
    Keeps (Ready held marker) (isLinkUp : Code Error (W6100 w L D P) Bool) :=
  keeps_ready_holding ((keeps_inside_onBus (keeps_readU8 _)).bind fun _ => Keeps.pure _)

theorem keeps_ready_setupNetwork (sourceAddr gatewayAddress mask : UInt32) :
    Keeps (Ready held marker)
      (setupNetwork sourceAddr gatewayAddress mask : Code Error (W6100 w L D P) Unit) :=
  keeps_ready_holding (keeps_inside_setupNetworkHeld sourceAddr gatewayAddress mask)

section Reset

variable [OutputPin P]

theorem triple_resetHeld :
    Triple (Inside held marker) (resetHeld : Code Error (W6100 w L D P) Unit)
      (fun _ => Inside none none) fun _ => Inside none none := by
  refine Triple.bind (R := fun _ => Inside none marker) ?_ fun _ => ?_
  · intro s hs
    rw [wp_always, Prog.run_zoom]
    exact ⟨abort_idle hs.bus, hs.bulk, hs.config, hs.slots⟩
  refine Triple.bind (R := fun _ => Inside none none) ?_ fun _ => ?_
  · intro s hs
    rw [wp, exec_setMarker none (by rw [hs.bulk])]
    exact ⟨hs.bus, rfl, hs.config, hs.slots⟩
  have hdelay : Keeps (Inside none none) (onBus (delay 1000000) : Code Error (W6100 w L D P) _) :=
    keeps_inside_onBus (keeps_delay _)
  have hread : ∀ addr, Keeps (Inside none none)
      (onBus (readU16 addr) : Code Error (W6100 w L D P) _) :=
    fun addr => keeps_inside_onBus (keeps_readU16 addr)
  refine (keeps_inside_onPin _).andThen fun _ => (keeps_resetDelay hdelay).andThen fun _ => ?_
  refine (keeps_inside_onPin _).andThen fun _ => (keeps_awaitChip hdelay (hread _) _).andThen fun _ => ?_
  refine (hread _).andThen fun version => ?_
  split
  · exact Keeps.throw _
  · exact (keeps_inside_resetSockets _).andThen fun _ => keeps_inside_enableInterrupts

/-- A reset leaves the bus idle and nothing recorded, also when it fails. -/
theorem triple_reset :
    Triple (Ready held marker) (reset : Code Error (W6100 w L D P) Unit)
      (fun _ => Ready none none) fun _ => Ready none none :=
  triple_holding (fun _ h => h.device)
    (triple_resetHeld.consequence (fun s h => (inside_setBusy false s).mp h.inside)
      (fun _ _ h => h.ready) fun _ _ h => h.ready)

end Reset

/-- The loop stops at the first transfer, which it records. -/
theorem triple_runSockets (ha : Agree held marker) (slots : List (Fin 8)) :
    Triple (Inside held marker) (runSockets slots : Code Error (W6100 w L D P) Unit)
      (fun _ => Served held marker) fun _ => Served held marker := by
  induction slots with
  | nil => exact fun s h => .inl h
  | cons idx rest ih =>
    intro s hs
    have hblock := (hs.slots idx).block
    refine wp_runSockets_cons (fun hbusy => ?_) fun result b io hr => ?_
    · exact absurd hbusy (by simp [(hs.slots idx).free])
    obtain ⟨hio, hb⟩ := SocketBackend.run_accounts (s.sockets idx).backend.value
      (serves_held held _) ((ioLens idx).get s) hs.bus
    rw [hr] at hio hb
    have hb' := hb.trans hblock
    rcases result with (e | e) | (_ | ⟨kind, pointer, len⟩)
    · exact .inl (hs.ticked held hio hb')
    · exact ih _ (hs.ticked held hio hb')
    · exact ih _ (hs.ticked held hio hb')
    · obtain ⟨rfl, txn, htxn, hc⟩ := hio
      have hi := hs.ticked (some txn) htxn hb'
      change wp (setMarker _) _ _ _
      rw [wp, exec_setMarker _ (by rw [hi.bulk])]
      refine .inr ⟨rfl, txn, ⟨idx, kind, b.block, pointer, len⟩, ⟨hb', ?_⟩,
        hi.bus, rfl, hi.config, hi.slots⟩
      rw [hb]
      exact hc

theorem triple_run (ha : Agree held marker) :
    Triple (Ready held marker) (run : Code Error (W6100 w L D P) Unit)
      (fun _ s => s.device.busy = false ∧ Served held marker s)
      fun _ s => s.device.busy = false ∧ Served held marker s := by
  have hserved : ∀ s : W6100 w L D P, Served held marker s →
      Served held marker (setBusy deviceCell false s) := fun s h => by
    simpa only [Served, inside_setBusy] using h
  exact triple_holding (fun _ h => h.device)
    ((triple_runSockets ha _).consequence (fun s h => (inside_setBusy false s).mp h.inside)
      (fun _ s h => ⟨rfl, hserved s h⟩) fun _ s h => ⟨rfl, hserved s h⟩)

theorem keeps_ready_applyConfig :
    Keeps (Ready held marker) (applyConfig : Code Error (W6100 w L D P) Unit) := by
  refine (Keeps.always fun _ h => h).bind fun dirty => ?_
  split
  · refine Keeps.bind (fun s hs => ?_) fun config => ?_
    · rw [wp, exec_networkConfig hs.inside.config]
      exact hs
    · cases config with
      | none => exact Keeps.pure _
      | some config =>
        refine (keeps_ready_setupNetwork _ _ _).bind fun _ => ?_
        exact Keeps.always fun s hs => hs.flags s.linkUp false
  · exact Keeps.pure _

/-- What a completion does on the bus once the payload is out of the way. -/
def epilogue (op : BulkOp) : Code Error (Transceiver L D) Unit :=
  match op.kind with
  | .receive | .receiveDatagram _ _ => commitReceive op
  | .transmit => do
    setTxWritePointer op.block (op.pointer + UInt16.ofNat op.len)
    sendSockCommand op.block .send

/-- A completion delivers what was captured and goes on with its epilogue. -/
theorem wp_finishBulk_iff {op : BulkOp} {txn : Transaction L D} {io : Io w L D}
    {Q : Unit → Io w L D → Prop} {E : Error → Io w L D → Prop} (h : io.trans = .inFlight txn) :
    let rings : SocketRings w :=
      { io.rings with rx := op.deliver (txn.buffers.rxWindow HEADER op.len) io.rings.rx }
    wp (finishBulk op) Q E io ↔ wp (epilogue op) (fun a cell => Q a ⟨cell, rings⟩)
      (fun e cell => E e ⟨cell, rings⟩) (.idle txn.dev txn.buffers) := by
  obtain ⟨cell, rings⟩ := io
  obtain rfl : cell = .inFlight txn := h
  have hread {consume : List UInt8 → Prog (Io w L D) Unit} {io : Io w L D}
      (hio : io.trans = .inFlight txn) :
      exec (finishRead Io.transLens op.len consume) io = (.ok (), Io.transLens.set
        (.idle txn.dev txn.buffers) ((consume (txn.buffers.rxWindow HEADER op.len)).run
          (Io.transLens.set .pending io)).2) := exec_finishRead Io.transLens hio
  unfold finishBulk BulkOp.deliver epilogue
  cases op.kind with
  | receive =>
    rw [wp_bind, wp, hread rfl]
    simp only [Prog.bind_eq, Prog.run_bind, Prog.run_zoom, Prog.pure_eq, Prog.run_ret]
    rw [wp_zoom]
    rfl
  | receiveDatagram srcIp srcPort =>
    simp only [wp_bind, wp_always, Prog.bind_eq, Prog.run_bind, Prog.run_zoom, Prog.pure_eq,
      Prog.run_ret]
    rw [wp, hread rfl]
    simp only [Prog.run_bind, Prog.run_zoom, Prog.run_ret]
    rw [wp_zoom]
    rfl
  | transmit =>
    simp only [wp_bind, wp_zoom]
    rw [wp, show Io.transLens.get (⟨.inFlight txn, rings⟩ : Io w L D) = .inFlight txn from rfl,
      exec_finishWrite]
    rfl

/-- The epilogue of a transfer ends with the bus idle, also when it fails. -/
theorem wp_finishBulk (op : BulkOp) {txn : Transaction L D} (io : Io w L D)
    (h : io.trans = .inFlight txn) :
    wp (finishBulk op) (fun _ io' => Held none io'.trans) (fun _ io' => Held none io'.trans) io := by
  have hepilogue : Keeps (Held none) (epilogue op : Code Error (Transceiver L D) Unit) := by
    unfold epilogue
    split
    · exact (keeps_write _ _).bind fun _ => (keeps_write _ _).bind fun _ => keeps_write _ _
    · exact (keeps_write _ _).bind fun _ => (keeps_write _ _).bind fun _ => keeps_write _ _
    · exact (keeps_write _ _).bind fun _ => keeps_write _ _
  exact (wp_finishBulk_iff h).mpr (hepilogue _ ⟨_, _, rfl⟩)

/-- Once the transfer is finished the bus is idle and the marker still names
it: the window that `dma_complete` closes itself. -/
theorem triple_finish (op : BulkOp) (txn : Transaction L D) :
    Triple (Ready (some txn) (some op))
      (holding deviceCell (Code.zoom (ioLens op.idx) (finishBulk op)) :
        Code Error (W6100 w L D P) Unit)
      (fun _ => Ready none (some op)) fun _ => Ready none (some op) := by
  refine triple_holding (fun _ h => h.device) fun s hs => ?_
  replace hs := (inside_setBusy false s).mp hs.inside
  have hslots : ∀ (io : Io w L D) (j : Fin 8),
      SlotSettled j (((ioLens op.idx).set io s).sockets j) := by
    intro io j
    by_cases hj : j = op.idx
    · subst hj
      simpa [ioLens, transLens, ringsLens, socketLens, Socket.ringsLens] using
        ⟨(hs.slots op.idx).free, (hs.slots op.idx).block⟩
    · simpa [ioLens, transLens, ringsLens, socketLens, hj] using hs.slots j
  rw [wp_zoom]
  refine wp_mono (wp_finishBulk op ((ioLens op.idx).get s) hs.bus) ?_ ?_
  · exact fun _ io h => Inside.ready ⟨h, hs.bulk, hs.config, hslots io⟩
  · exact fun _ io h => Inside.ready ⟨h, hs.bulk, hs.config, hslots io⟩

/-- Whatever the epilogue came to, the bus is idle and nothing is recorded. -/
theorem triple_retireBulk (op : BulkOp) (txn : Transaction L D) :
    Triple (Ready (some txn) (some op)) (retireBulk op : Code Error (W6100 w L D P) Unit)
      (fun _ => Ready none none) fun _ => Ready none none := by
  intro s hs
  rw [retireBulk, wp_bind, wp_outcome]
  have hmark : ∀ s' : W6100 w L D P, Ready none (some op) s' →
      wp (setMarker none) (fun _ => Ready none none) (fun _ => Ready none none) s' := by
    intro s' hs'
    rw [wp, exec_setMarker none (by rw [hs'.inside.bulk])]
    exact ⟨hs'.device, hs'.inside.bus, rfl, hs'.inside.config, hs'.inside.slots⟩
  exact wp_mono (triple_finish op txn s hs) (fun _ => hmark) fun _ => hmark

section Service

variable [OutputPin P]

/-- `service` does nothing while a transfer is recorded. -/
theorem exec_service_inFlight {s : W6100 w L D P} (hb : s.bulk.busy = false)
    (ho : s.bulk.value.isSome) : exec service s = (.ok (), s) := by
  rw [service, exec_bind_ok (exec_bulkInFlight hb), ho]
  rfl

theorem triple_service (ha : Agree held marker) :
    Triple (Ready held marker) (service : Code Error (W6100 w L D P) Unit)
      (fun _ s => s.device.busy = false ∧ Served held marker s)
      fun _ s => s.device.busy = false ∧ Served held marker s := by
  intro s hs
  have hbulk := hs.inside.bulk
  cases marker with
  | some op =>
    rw [wp, exec_service_inFlight (by rw [hbulk]) (by rw [hbulk]; rfl)]
    exact hs.served
  | none =>
    have hheld : held = none := by cases held with | none => rfl | some txn => exact ha.elim
    subst hheld
    have hfree : exec bulkInFlight s = (.ok false, s) := by
      rw [exec_bulkInFlight (by rw [hbulk]), hbulk]; rfl
    rw [service, wp_bind, wp, hfree]
    change wp (isLinkUp >>= _) _ _ s
    rw [wp_bind]
    refine wp_mono (keeps_ready_isLinkUp s hs) (fun up s hs => ?_) fun _ s hs => hs.served
    rw [wp_bind, wp_always, Prog.run_atom]
    replace hs : Ready none none { s with linkUp := up } := hs.flags up s.configDirty
    cases up with
    | false =>
      simp only [Bool.not_false, if_true]
      split
      · rw [wp_bind]
        refine wp_mono (triple_reset _ hs) (fun _ s hs => ?_) fun _ s hs => hs.served
        rw [wp_always, Prog.run_store]
        exact (hs.flags s.linkUp true).served
      · exact hs.served
    | true =>
      simp only [Bool.not_true, Bool.false_eq_true, if_false, wp_bind]
      refine wp_mono (keeps_ready_applyConfig _ hs) (fun _ s hs => ?_) fun _ s hs => hs.served
      exact triple_run ha s hs

/-- `dma_complete` as it finds the marker. -/
theorem exec_dmaComplete {s : W6100 w L D P} (hb : s.bulk.busy = false) :
    exec dmaComplete s = match s.bulk.value with
      | none => (.ok (), s)
      | some op => exec (do retireBulk op; let _ ← Code.outcome service) s := by
  have hl : exec (holding bulkCell (Code.always (Prog.load fun s => s.bulk.value))) s =
      (.ok s.bulk.value, s) := by
    rw [exec_holding_load _ (by rw [show bulkCell.get s = s.bulk from rfl, hb])]
    simp [setBusy, bulkCell]
  rw [dmaComplete, exec_bind, exec_outcome, hl]
  cases s.bulk.value <;> rfl

theorem keeps_settled_dmaComplete :
    Keeps Settled (dmaComplete : Code Error (W6100 w L D P) Unit) := by
  rintro s ⟨hd, held, marker, ha, hi⟩
  rw [wp, exec_dmaComplete (by rw [hi.bulk]), hi.bulk]
  cases marker with
  | none => exact ⟨hd, held, none, ha, hi⟩
  | some op =>
    cases held with
    | none => exact ha.elim
    | some txn =>
      change wp (retireBulk op >>= fun _ => _) (fun _ => Settled) (fun _ => Settled) s
      rw [wp_bind]
      refine wp_mono (triple_retireBulk op txn s ⟨hd, hi⟩) (fun _ s' hs' => ?_)
        fun _ s' hs' => hs'.settled trivial
      rw [wp_bind, wp_outcome]
      have hagree : Agree (none : Option (Transaction L D)) none := trivial
      refine wp_mono (triple_service hagree _ hs') ?_ ?_
      · exact fun _ _ h => h.2.settled h.1 trivial
      · exact fun _ _ h => h.2.settled h.1 trivial

end Service

end EntryPoints

end W6100

end Wiznet
