import Wiznet.BulkRecord
import Wiznet.BusLog

/-! # When a reset succeeds

A reset can be refused by a slot that is held, by the reset line, or on the bus:
a frame is not answered, the chip does not identify itself, or it has the wrong
version. Nothing else makes it fail. -/

namespace Wiznet
open Resumption Resumption.Code

variable {w L : Nat} {D P α : Type}

namespace W6100

/-- The chip identified itself. -/
def Identified (e : BusEntry) : Prop := e.Accesses CIDR false ∧ e.value = some 0x6100

/-- The version register did not read as the chip's. -/
def WrongVersion (e : BusEntry) : Prop := e.Accesses VER false ∧ e.value ≠ some 0x4661

/-- Every frame since `before` satisfies `φ`, and no slot is held. -/
structure Unspoiled (before : List BusEntry) (φ : BusEntry → Prop) (s : W6100 w L (Logged D) P) :
    Prop where
  clean : Clean before φ s.device.value.transport
  slots : ∀ i, (s.sockets i).backend.busy = false

/-- What a reset that fails has seen on the bus. -/
def Denied (before : List BusEntry) (s : W6100 w L (Logged D) P) : Prop :=
  Seen before Unanswered s.device.value.transport ∨
    Clean before (fun e => ¬ Identified e) s.device.value.transport ∨
    Seen before WrongVersion s.device.value.transport

variable {before : List BusEntry}

theorem unspoiled_onBus {φ : BusEntry → Prop} {c : Code Error (Transceiver L (Logged D)) α}
    {Q : α → Transceiver L (Logged D) → Prop} {E : Error → Transceiver L (Logged D) → Prop}
    (h : Triple (Clean before φ) c Q E) :
    Triple (Unspoiled before φ) (onBus c)
      (fun a (s : W6100 w L (Logged D) P) => Q a s.device.value.transport ∧
        ∀ i, (s.sockets i).backend.busy = false)
      fun e s => E e s.device.value.transport := by
  intro s hs
  rw [onBus, wp_zoom]
  exact wp_mono (h _ hs.clean) (fun _ _ hq => ⟨hq, hs.slots⟩) fun _ _ he => he

theorem Unspoiled.setRst {φ : BusEntry → Prop} {s : W6100 w L (Logged D) P}
    (h : Unspoiled before φ s) (p : P) : Unspoiled before φ (rstLens.set p s) :=
  ⟨h.clean, h.slots⟩

theorem exec_setMarker_unspoiled (op : Option BulkOp) {φ : BusEntry → Prop}
    {s : W6100 w L (Logged D) P} (hs : Unspoiled before φ s) :
    ∃ s', exec (setMarker op) s = (.ok (), s') ∧ Unspoiled before φ s' ∧
      s'.device.value.rst = s.device.value.rst := by
  cases hb : s.bulk.busy with
  | false => exact ⟨_, exec_setMarker op hb, ⟨hs.clean, hs.slots⟩, rfl⟩
  | true => exact ⟨_, exec_setMarker_busy op hb, hs, rfl⟩

theorem exec_onPin {f : P → Bool × P} {s : W6100 w L D P}
    (h : (f s.device.value.rst).1 = true) :
    exec (onPin f) s = (.ok (), rstLens.set (f s.device.value.rst).2 s) := by
  have hf : f s.device.value.rst = (true, (f s.device.value.rst).2) := by rw [← h]
  rw [onPin, exec_zoom, exec_attempt, show rstLens.get s = s.device.value.rst from rfl, hf]

variable [SpiDmaDevice D]

/-- A short write during the reset: answered, or the reset is denied. -/
theorem triple_granted_write (hL : HEADER + 2 ≤ L) (addr : Address) {data : List UInt8}
    (hd : data.length ≤ 2) :
    Triple (Clean before Answered) (write addr data : Code Error (Transceiver L (Logged D)) Unit)
      (fun _ => Clean before Answered) fun _ => Seen before Unanswered :=
  (triple_write_clean (by omega) fun _ _ h => h).consequence (fun _ h => h) (fun _ _ h => h)
    fun _ _ ⟨new, hnew, e, he, _, hu⟩ => ⟨new, hnew, e, he, hu⟩

theorem triple_granted_initSocket (hL : HEADER + 2 ≤ L) (block : BlockAddress)
    (mode : SocketProtocolMode) :
    Triple (Clean before Answered)
      (initSocket block mode : Code Error (Transceiver L (Logged D)) Unit)
      (fun _ => Clean before Answered) fun _ => Seen before Unanswered :=
  (triple_granted_write hL _ (by simp)).bind fun _ => (triple_granted_write hL _ (by simp)).bind
    fun _ => triple_granted_write hL _ (by simp)

theorem triple_granted_resetSocket (hL : HEADER + 2 ≤ L) (i : Fin 8) :
    Triple (Unspoiled before Answered) (resetSocket i)
      (fun _ (s : W6100 w L (Logged D) P) => Unspoiled before Answered s)
      fun _ s => Denied before s := by
  refine triple_holding (fun s h => h.slots i) ?_
  intro s hs
  rw [wp_bind, wp_always, Prog.run_load, wp_bind, onBus, wp_zoom]
  refine wp_mono (triple_granted_initSocket hL _ _ _ hs.clean) (fun _ cell h => ?_)
    fun _ cell h => .inl h
  rw [wp_always]
  refine ⟨h, fun j => ?_⟩
  have hj := hs.slots j
  by_cases hji : j = i
  · subst hji
    simp [setBusy, backendCell, socketLens, Socket.backendLens]
  · simpa [setBusy, backendCell, socketLens, Socket.backendLens, transLens, hji] using hj

theorem triple_granted_resetSockets (hL : HEADER + 2 ≤ L) (slots : List (Fin 8)) :
    Triple (Unspoiled before Answered) (resetSockets slots)
      (fun _ (s : W6100 w L (Logged D) P) => Unspoiled before Answered s)
      fun _ s => Denied before s := by
  induction slots with
  | nil => exact fun s h => h
  | cons i rest ih => exact (triple_granted_resetSocket hL i).bind fun _ => ih

theorem triple_granted_enableInterrupts (hL : HEADER + 2 ≤ L) :
    Triple (Unspoiled before Answered) enableInterrupts (fun _ _ => True)
      fun _ (s : W6100 w L (Logged D) P) => Denied before s := by
  have hw : ∀ addr value, Triple (Unspoiled before Answered) (onBus (writeU8 addr value))
      (fun _ (s : W6100 w L (Logged D) P) => Unspoiled before Answered s)
      fun _ s => Denied before s := fun addr value =>
    (unspoiled_onBus (triple_granted_write hL addr (by simp))).consequence (fun _ h => h)
      (fun _ _ h => ⟨h.1, h.2⟩) fun _ _ h => .inl h
  refine (hw _ _).bind fun _ => (hw _ _).bind fun _ => (hw _ _).bind fun _ => ?_
  exact (hw _ _).consequence (fun _ h => h) (fun _ _ _ => trivial) fun _ _ h => h

/-- A two-byte read during the reset. -/
theorem triple_granted_readU16 (hL : HEADER + 2 ≤ L) {φ : BusEntry → Prop} (addr : Address) :
    Triple (Unspoiled before φ) (onBus (readU16 addr))
      (fun v (s : W6100 w L (Logged D) P) => ∃ (cell : Transceiver L (Logged D)) (e : BusEntry),
        Clean before φ cell ∧ Held none s.device.value.transport ∧
        busLog s.device.value.transport = busLog cell ++ [e] ∧ e.Accesses addr false ∧
        e.value = some v ∧ ∀ i, (s.sockets i).backend.busy = false)
      fun _ s => Denied before s := by
  have hr : Triple (Clean before φ) (readU16 addr : Code Error (Transceiver L (Logged D)) UInt16)
      (fun v cell' => ∃ (cell : Transceiver L (Logged D)) (e : BusEntry), Clean before φ cell ∧
        Held none cell' ∧ busLog cell' = busLog cell ++ [e] ∧ e.Accesses addr false ∧
        e.value = some v)
      fun _ => Seen before Unanswered := by
    intro cell hc
    rw [readU16, wp_map]
    refine wp_mono (triple_read_clean hL cell hc) ?_ ?_
    · rintro data cell' ⟨cell, e, hc, hi, hl, he, a, ha, rfl⟩
      exact ⟨cell, e, hc, hi, hl, he, by simp [BusEntry.value, ha]⟩
    · rintro _ cell' ⟨new, hnew, e, he, -, hu⟩
      exact ⟨new, hnew, e, he, hu⟩
  refine (unspoiled_onBus hr).consequence (fun _ h => h) ?_ fun _ _ h => .inl h
  rintro v s ⟨⟨cell, e, hc, hi, hl, he, hv⟩, hslots⟩
  exact ⟨cell, e, hc, hi, hl, he, hv, hslots⟩

theorem wp_granted_resetDelay {φ : BusEntry → Prop} {s : W6100 w L (Logged D) P}
    (hs : Unspoiled before φ s) {Q : Unit → W6100 w L (Logged D) P → Prop}
    {E : Error → W6100 w L (Logged D) P → Prop}
    (hq : ∀ s' : W6100 w L (Logged D) P, Unspoiled before φ s' →
      s'.device.value.rst = s.device.value.rst → Q () s') : wp resetDelay Q E s := by
  rw [resetDelay, wp_bind, wp_outcome, onBus, wp_zoom]
  refine wp_mono (wp_logged_delay hs.clean.idle 1000000) (fun _ cell h => ?_) fun _ _ h => h.elim
  obtain ⟨new, hnew, hall⟩ := hs.clean.log
  exact hq _ ⟨⟨h.1, new, h.2.trans hnew, hall⟩, hs.slots⟩ rfl

/-- Polling ends with the chip identified, or the reset is denied. -/
theorem triple_granted_awaitChip (hL : HEADER + 2 ≤ L) (tries : Nat) :
    Triple (Unspoiled before fun e => Answered e ∧ ¬ Identified e) (awaitChip tries)
      (fun _ (s : W6100 w L (Logged D) P) => Unspoiled before Answered s)
      fun _ s => Denied before s := by
  -- one poll: the chip is there, or nothing that was seen so far identifies it
  have hpoll : Triple (Unspoiled before fun e => Answered e ∧ ¬ Identified e)
      (onBus (readU16 CIDR)) (fun id (s : W6100 w L (Logged D) P) =>
        if id = 0x6100 then Unspoiled before Answered s
        else Unspoiled before (fun e => Answered e ∧ ¬ Identified e) s)
      fun _ s => Denied before s := by
    refine (triple_granted_readU16 hL CIDR).consequence (fun _ h => h) ?_ fun _ _ h => h
    rintro id s ⟨cell, e, hc, hi, hl, -, hv, hslots⟩
    have ha : Answered e := by
      cases h : e.answer <;> simp_all [Answered, BusEntry.value]
    split
    case isTrue => exact ⟨(hc.mono fun _ h => h.1).snoc hi hl ha, hslots⟩
    case isFalse hid =>
      refine ⟨hc.snoc hi hl ⟨ha, fun h => hid ?_⟩, hslots⟩
      exact Option.some.inj (hv.symm.trans h.2)
  induction tries with
  | zero =>
    refine hpoll.bind fun id s hs => ?_
    split at hs
    case isTrue hid => rw [if_pos hid]; exact hs
    case isFalse hid => rw [if_neg hid]; exact .inr (.inl (hs.clean.mono fun _ h => h.2))
  | succ tries ih =>
    refine hpoll.bind fun id s hs => ?_
    split at hs
    case isTrue hid => rw [if_pos hid]; exact hs
    case isFalse hid =>
      rw [if_neg hid, wp_bind]
      exact wp_granted_resetDelay hs fun s' hs' _ => ih s' hs'

variable [OutputPin P]

/-- With the slots free and a reset line that obeys, a reset fails only if it is
denied on the bus. -/
theorem wp_granted_resetHeld (hL : HEADER + 2 ≤ L) {s : W6100 w L (Logged D) P}
    (hs : Unspoiled before (fun e => Answered e ∧ ¬ Identified e) s)
    (hlow : (OutputPin.setLow s.device.value.rst).1 = true)
    (hhigh : (OutputPin.setHigh (OutputPin.setLow s.device.value.rst).2).1 = true) :
    wp resetHeld (fun _ _ => True) (fun _ s' => Denied before s') s := by
  obtain ⟨dev, scratch, hidle⟩ := hs.clean.idle
  have habort : transLens.set (abort.run (transLens.get s)).2 s = s := by
    rw [show transLens.get s = .idle dev scratch from hidle]
    change transLens.set (.idle dev scratch) s = s
    rw [← hidle]
    exact transLens.set_get s
  rw [resetHeld, wp_bind, wp_always, Prog.run_zoom, habort, wp_bind]
  obtain ⟨s₁, hmark, hs₁, hrst₁⟩ := exec_setMarker_unspoiled none hs
  rw [wp, hmark]
  rw [← hrst₁] at hlow hhigh
  dsimp only
  rw [wp_bind, wp, exec_onPin hlow]
  dsimp only
  rw [wp_bind]
  refine wp_granted_resetDelay (hs₁.setRst _) fun s₂ hs₂ hrst₂ => ?_
  have hhigh₂ : (OutputPin.setHigh s₂.device.value.rst).1 = true := by rw [hrst₂]; exact hhigh
  rw [wp_bind, wp, exec_onPin hhigh₂]
  refine (triple_granted_awaitChip hL 100).bind (fun _ => ?_) _ (hs₂.setRst _)
  refine (triple_granted_readU16 hL VER).bind fun version s hv => ?_
  obtain ⟨cell, e, hc, hi, hl, he, hval, hslots⟩ := hv
  split
  case isTrue hne =>
    refine .inr (.inr (hc.seen hl ⟨he, fun h => hne ?_⟩))
    exact Option.some.inj (hval.symm.trans h)
  case isFalse =>
    have ha : Answered e := by
      cases h : e.answer <;> simp_all [Answered, BusEntry.value]
    refine (triple_granted_resetSockets hL _).bind
      (fun _ => triple_granted_enableInterrupts hL) s ⟨hc.snoc hi hl ha, hslots⟩

end W6100

end Wiznet
