import Wiznet.Driver
import Wiznet.Lib.Observer

/-! # The try-lock cells

A call that takes a cell runs its body with the flag set and always gives the
cell back; a call that finds it taken does nothing. -/

namespace Wiznet
open Resumption Resumption.Code

variable {S α β : Type}

/-- Set the flag of a cell. -/
def setBusy (cell : Lens S (AtomicCell α)) (b : Bool) (s : S) : S :=
  cell.set { cell.get s with busy := b } s

theorem wp_holding (cell : Lens S (AtomicCell α)) (body : Code Error S β)
    {Q : β → S → Prop} {E : Error → S → Prop} {s : S} (hfree : (cell.get s).busy = false) :
    wp (holding cell body) Q E s ↔
      wp body (fun b s' => Q b (setBusy cell false s')) (fun e s' => E e (setBusy cell false s'))
        (setBusy cell true s) := by
  rw [holding, wp_bind, wp_zoom, wp_attempt]
  simp only [hfree, Bool.false_eq_true, if_false]
  rw [wp_bind, wp_outcome]
  simp only [wp_bind, wp_zoom, wp_attempt, wp_lift]
  rfl

theorem exec_holding (cell : Lens S (AtomicCell α)) (body : Code Error S β) {s : S}
    (hfree : (cell.get s).busy = false) : exec (holding cell body) s =
      ((exec body (setBusy cell true s)).1, setBusy cell false (exec body (setBusy cell true s)).2) := by
  rw [holding, exec_bind, exec_zoom, exec_attempt]
  simp only [hfree, Bool.false_eq_true, if_false]
  rw [exec_bind, exec_outcome]
  simp only [exec_bind, exec_zoom, exec_attempt]
  rfl

theorem exec_holding_busy (cell : Lens S (AtomicCell α)) (body : Code Error S β) {s : S}
    (hbusy : (cell.get s).busy = true) : exec (holding cell body) s = (.error .wouldBlock, s) := by
  have hl : exec (Code.zoom cell (Code.attempt fun c : AtomicCell α =>
      if c.busy then (.error Error.wouldBlock, c) else (.ok (), { c with busy := true }))) s =
      (.error .wouldBlock, s) := by
    rw [exec_zoom, exec_attempt]
    simp [hbusy]
  rw [holding, exec_bind_error hl]

@[simp] theorem setBusy_setBusy (cell : Lens S (AtomicCell α)) (b b' : Bool) (s : S) :
    setBusy cell b (setBusy cell b' s) = setBusy cell b s := by simp [setBusy]

theorem setBusy_eq {cell : Lens S (AtomicCell α)} {s : S} (h : (cell.get s).busy = false) :
    setBusy cell false s = s := by
  have hc : ({ cell.get s with busy := false } : AtomicCell α) = cell.get s := by rw [← h]
  rw [setBusy, hc, Lens.set_get]

@[simp] theorem setBusy_busy (cell : Lens S (AtomicCell α)) (b : Bool) (s : S) :
    (cell.get (setBusy cell b s)).busy = b := by simp [setBusy]

/-- A call under a free cell: its body works on the state as it is with the
cell free, but for the flag. -/
theorem triple_holding {cell : Lens S (AtomicCell α)} {body : Code Error S β} {P : S → Prop}
    {Q : β → S → Prop} {E : Error → S → Prop} (hP : ∀ s, P s → (cell.get s).busy = false)
    (hb : Triple (fun s => P (setBusy cell false s)) body
      (fun b s => Q b (setBusy cell false s)) fun e s => E e (setBusy cell false s)) :
    Triple P (holding cell body) Q E := by
  intro s hs
  rw [wp_holding cell body (hP s hs)]
  refine hb _ ?_
  simpa [setBusy_eq (hP s hs)] using hs

/-- An invariant that does not look at the flag, whoever holds the cell. -/
theorem keeps_holding {cell : Lens S (AtomicCell α)} {body : Code Error S β} {J : S → Prop}
    (hflag : ∀ b s, J s → J (setBusy cell b s)) (hb : Keeps J body) :
    Keeps J (holding cell body) := by
  intro s hs
  cases hbusy : (cell.get s).busy with
  | true => rw [wp, exec_holding_busy cell body hbusy]; exact hs
  | false =>
    rw [wp_holding cell body hbusy]
    exact wp_mono (hb _ (hflag true s hs)) (fun _ s h => hflag false s h)
      fun _ s h => hflag false s h

/-! ## Under observation -/

section Watched

variable {G : Type} {o : Observer S G} {cell : Lens S (AtomicCell α)} {body : Code Error S β}

/-- The flag of a cell is not observed. -/
abbrev FlagSilent (o : Observer S G) (cell : Lens S (AtomicCell α)) : Prop :=
  ∀ b s g, o.note s (setBusy cell b s) g = g

theorem wp_watch_holding (hflag : FlagSilent o cell) {Q : β → S × G → Prop}
    {E : Error → S × G → Prop} {s : S} {g : G} (hfree : (cell.get s).busy = false) :
    wp ((holding cell body).watch o) Q E (s, g) ↔
      wp (body.watch o) (fun b x => Q b (setBusy cell false x.1, x.2))
        (fun e x => E e (setBusy cell false x.1, x.2)) (setBusy cell true s, g) := by
  have hset : o.note s (cell.set { cell.get s with busy := true } s) g = g := hflag true s g
  rw [holding, wp_watch_bind, wp_watch_zoom_attempt]
  simp only [hfree, Bool.false_eq_true, if_false]
  rw [show ({ value := (cell.get s).value, busy := true } : AtomicCell α) =
    { cell.get s with busy := true } from rfl, hset, wp_watch_bind, wp_watch_outcome]
  have hdrop : ∀ (r : Except Error β) (x : S × G),
      wp ((do
        Code.zoom cell (Code.attempt fun c => (.ok (), { c with busy := false }))
        ExceptT.mk (pure r) : Code Error S β).watch o) Q E x ↔ match r with
        | .ok b => Q b (setBusy cell false x.1, x.2)
        | .error e => E e (setBusy cell false x.1, x.2) := by
    rintro r ⟨s', g'⟩
    have hset' : o.note s' (cell.set { cell.get s' with busy := false } s') g' = g' :=
      hflag false s' g'
    rw [wp_watch_bind, wp_watch_zoom_attempt]
    simp only [hset']
    cases r <;> exact Iff.rfl
  simp only [hdrop]
  rfl

/-- A watched call under a free cell. -/
theorem triple_watch_holding (hflag : FlagSilent o cell) {P : S × G → Prop}
    {Q : β → S × G → Prop} {E : Error → S × G → Prop}
    (hP : ∀ x, P x → (cell.get x.1).busy = false)
    (hb : Triple (fun x => P (setBusy cell false x.1, x.2)) (body.watch o)
      (fun b x => Q b (setBusy cell false x.1, x.2))
      fun e x => E e (setBusy cell false x.1, x.2)) :
    Triple P ((holding cell body).watch o) Q E := by
  rintro ⟨s, g⟩ hs
  rw [wp_watch_holding hflag (hP _ hs)]
  refine hb _ ?_
  simpa [setBusy_eq (hP _ hs)] using hs

/-- A watched call, whoever holds the cell. -/
theorem triple_watch_held (hflag : FlagSilent o cell) {P : S × G → Prop} {Q : β → S × G → Prop}
    {E : Error → S × G → Prop} (hbusy : ∀ x, P x → E .wouldBlock x)
    (hP : ∀ b x, P x → P (setBusy cell b x.1, x.2))
    (hQ : ∀ r b x, Q r x → Q r (setBusy cell b x.1, x.2))
    (hE : ∀ e b x, E e x → E e (setBusy cell b x.1, x.2))
    (hb : Triple P (body.watch o) Q E) : Triple P ((holding cell body).watch o) Q E := by
  rintro ⟨s, g⟩ hs
  cases hfree : (cell.get s).busy with
  | true =>
    have hset : cell.set (cell.get s) s = s := cell.set_get s
    rw [holding, wp_watch_bind, wp_watch_zoom_attempt]
    simp only [hfree, if_true, hset, o.note_self]
    exact hbusy _ hs
  | false =>
    rw [wp_watch_holding hflag hfree]
    exact wp_mono (hb _ (hP true _ hs)) (fun r x h => hQ r false x h) fun e x h => hE e false x h

theorem keeps_watch_held (hflag : FlagSilent o cell) {J : S × G → Prop}
    (hJ : ∀ b x, J x → J (setBusy cell b x.1, x.2)) (hb : Keeps J (body.watch o)) :
    Keeps J ((holding cell body).watch o) :=
  triple_watch_held hflag (fun _ h => h) hJ (fun _ => hJ) (fun _ => hJ) hb

/-- A call on a cell that is not observed at all. -/
theorem Silent.holding (hcell : ∀ c s g, o.note s (cell.set c s) g = g) (hb : body.Silent o) :
    (holding cell body).Silent o := by
  refine Silent.bind (Silent.zoom hcell _) fun _ => (Silent.outcome hb).bind fun r => ?_
  exact (Silent.zoom hcell _).bind fun _ => trivial

end Watched

/-! ## The bulk cell -/

namespace W6100

variable {w L : Nat} {D P : Type}

theorem exec_setMarker (op : Option BulkOp) {s : W6100 w L D P} (h : s.bulk.busy = false) :
    exec (setMarker op) s = (.ok (), { s with bulk := ⟨op, false⟩ }) := by
  have hh : exec (holding bulkCell (Code.always (Prog.zoom (bulkCell.comp cellValue)
      (Prog.store fun _ => op)))) s = (.ok (), { s with bulk := ⟨op, false⟩ }) := by
    rw [holding, exec_bind, exec_zoom, exec_attempt]
    simp only [bulkCell, h, Bool.false_eq_true, if_false]
    rfl
  rw [setMarker, exec_bind, exec_outcome, hh]
  rfl

theorem exec_setMarker_busy (op : Option BulkOp) {s : W6100 w L D P} (h : s.bulk.busy = true) :
    exec (setMarker op) s = (.ok (), s) := by
  rw [setMarker, exec_bind, exec_outcome, exec_holding_busy bulkCell _ h]
  rfl

/-- An invariant that does not look at the marker. -/
theorem keeps_setMarker {J : W6100 w L D P → Prop} (h : ∀ s b, J s → J { s with bulk := b })
    (op : Option BulkOp) : Keeps J (setMarker op) := by
  intro s hs
  cases hb : s.bulk.busy with
  | false => rw [wp, exec_setMarker op hb]; exact h _ _ hs
  | true => rw [wp, exec_setMarker_busy op hb]; exact hs

/-- Reading under a cell that is free leaves the state as it was. -/
theorem exec_holding_load {cell : Lens (W6100 w L D P) (AtomicCell α)}
    (f : W6100 w L D P → β) {s : W6100 w L D P} (h : (cell.get s).busy = false) :
    exec (holding cell (Code.always (Prog.load f))) s = (.ok (f (setBusy cell true s)), s) := by
  have hc : (⟨(cell.get s).value, false⟩ : AtomicCell α) = cell.get s := by rw [← h]
  rw [holding, exec_bind, exec_zoom, exec_attempt]
  simp only [h, Bool.false_eq_true, if_false]
  rw [exec_bind, exec_outcome, exec_always, Prog.run_load]
  simp only [exec_bind, exec_zoom, exec_attempt, Lens.get_set, Lens.set_set, hc, Lens.set_get]
  rfl

theorem exec_bulkInFlight {s : W6100 w L D P} (h : s.bulk.busy = false) :
    exec bulkInFlight s = (.ok s.bulk.value.isSome, s) := by
  rw [bulkInFlight, exec_bind, exec_outcome, exec_holding_load _ h]
  rfl

/-- Asking changes nothing. -/
theorem exec_bulkInFlight_state {s s' : W6100 w L D P} {r : Except Error Bool}
    (h : exec bulkInFlight s = (r, s')) : s' = s := by
  cases hb : s.bulk.busy with
  | false =>
    rw [exec_bulkInFlight hb] at h
    exact (congrArg Prod.snd h).symm
  | true =>
    rw [bulkInFlight, exec_bind, exec_outcome, exec_holding_busy bulkCell _ hb] at h
    exact (congrArg Prod.snd h).symm

theorem bulkInFlight_returns (s : W6100 w L D P) : ∃ inFlight, exec bulkInFlight s = (.ok inFlight, s) := by
  cases hb : s.bulk.busy with
  | false => exact ⟨_, exec_bulkInFlight hb⟩
  | true =>
    refine ⟨true, ?_⟩
    rw [bulkInFlight, exec_bind, exec_outcome, exec_holding_busy bulkCell _ hb]
    rfl

theorem exec_networkConfig {s : W6100 w L D P} (h : s.config.busy = false) :
    exec networkConfig s = (.ok s.config.value, s) := by
  rw [networkConfig, exec_bind, exec_outcome, exec_holding_load _ h]
  rfl

/-! ## The cell of a slot -/

theorem run_lockBackend (idx : Fin 8) (s : W6100 w L D P) :
    (lockBackend idx).run s =
      if (s.sockets idx).backend.busy then (none, s)
      else (some (s.sockets idx).backend.value, setBusy (backendCell idx) true s) := by
  rw [lockBackend, Prog.run_zoom, Prog.run_atom]
  simp only [show (backendCell idx).get s = (s.sockets idx).backend from rfl]
  split
  · exact Prod.ext rfl ((backendCell idx).set_get s)
  · rfl

/-- The state after a tick of slot `idx`, its cell free again. -/
def ticked (idx : Fin 8) (io : Io w L D) (b : SocketBackend) (s : W6100 w L D P) : W6100 w L D P :=
  ((dropBackend idx b).run ((ioLens idx).set io (setBusy (backendCell idx) true s))).2

variable {idx i : Fin 8} {io : Io w L D} {b : SocketBackend} {s : W6100 w L D P}

@[simp] theorem ticked_transport : (ticked idx io b s).device.value.transport = io.trans := rfl

@[simp] theorem ticked_bulk : (ticked idx io b s).bulk = s.bulk := rfl

@[simp] theorem ticked_self : (ticked idx io b s).sockets idx = ⟨⟨b, false⟩, io.rings⟩ := by
  simp [ticked, dropBackend, backendCell, socketLens, Socket.backendLens, ioLens, transLens,
    ringsLens, Socket.ringsLens, setBusy]

theorem ticked_other (h : i ≠ idx) : (ticked idx io b s).sockets i = s.sockets i := by
  simp [ticked, dropBackend, backendCell, socketLens, ioLens, transLens, ringsLens, setBusy, h]

/-- One round of the loop of `run`: a held slot is skipped, and what comes of
the tick of a free one decides how the loop goes on. -/
theorem wp_runSockets_cons [SpiDmaDevice D] {rest : List (Fin 8)}
    {Q : Unit → W6100 w L D P → Prop} {E : Error → W6100 w L D P → Prop}
    (hskip : (s.sockets idx).backend.busy = true → wp (runSockets rest) Q E s)
    (htick : ∀ result b io, (s.sockets idx).backend.value.run.run ((ioLens idx).get s) =
      ((result, b), io) → match result with
        | .ok .none | .error .wouldBlock => wp (runSockets rest) Q E (ticked idx io b s)
        | .ok (.started kind pointer len) =>
          wp (setBulk ⟨idx, kind, b.block, pointer, len⟩) Q E (ticked idx io b s)
        | .error (.other e) => E (.other e) (ticked idx io b s)) :
    wp (runSockets (idx :: rest)) Q E s := by
  rw [runSockets, wp_bind, wp_always, run_lockBackend]
  cases hb : (s.sockets idx).backend.busy with
  | true => exact hskip hb
  | false =>
    simp only [Bool.false_eq_true, if_false, wp_bind, wp_always, Prog.run_zoom]
    rcases hr : (s.sockets idx).backend.value.run.run
      ((ioLens idx).get (setBusy (backendCell idx) true s)) with ⟨⟨result, b⟩, io⟩
    have hio : (ioLens idx).get (setBusy (backendCell idx) true s) = (ioLens idx).get s := by
      simp [ioLens, setBusy, backendCell, socketLens, Socket.backendLens]
    have h := htick result b io (hio ▸ hr)
    rcases result with (e | e) | (_ | ⟨kind, pointer, len⟩) <;> exact h

/-! ## The calls before `run` -/

section Front

variable [SpiDmaDevice D] {J : W6100 w L D P → Prop}

/-- What a look at the link keeps. -/
theorem keeps_isLinkUp (hdevice : ∀ b s, J s → J (setBusy deviceCell b s))
    (hread : ∀ addr n, Keeps J (onBus (read addr n))) : Keeps J isLinkUp :=
  keeps_holding hdevice (Keeps.bind
    (fun s hs => by
      have h := hread PHYSR 1 s hs
      rw [onBus, wp_zoom] at h ⊢
      rw [readU8, wp_map]
      exact h)
    fun _ => Keeps.pure _)

theorem keeps_setupNetwork (hdevice : ∀ b s, J s → J (setBusy deviceCell b s))
    (hwrite : ∀ addr data, Keeps J (onBus (write addr data)))
    (sourceAddr gatewayAddress mask : UInt32) :
    Keeps J (setupNetwork sourceAddr gatewayAddress mask) := by
  refine keeps_holding hdevice ?_
  refine (hwrite _ _).bind fun _ => (Keeps.always fun _ h => h).bind fun mac => ?_
  exact (hwrite _ _).bind fun _ => (hwrite _ _).bind fun _ => (hwrite _ _).bind fun _ =>
    (hwrite _ _).bind fun _ => hwrite _ _

/-- What the addressing part of a pass keeps. -/
theorem keeps_applyConfig (hdevice : ∀ b s, J s → J (setBusy deviceCell b s))
    (hconfig : ∀ b s, J s → J (setBusy configCell b s))
    (hdirty : ∀ s, J s → J { s with configDirty := false })
    (hwrite : ∀ addr data, Keeps J (onBus (write addr data))) : Keeps J applyConfig := by
  refine Keeps.bind (Keeps.always fun _ h => h) fun dirty => ?_
  split
  · refine Keeps.bind ?_ fun config => ?_
    · refine Keeps.bind (Keeps.outcome (keeps_holding hconfig (Keeps.always fun _ h => h)))
        fun result => ?_
      cases result <;> exact Keeps.pure _
    · cases config with
      | none => exact Keeps.pure _
      | some config =>
        exact (keeps_setupNetwork hdevice hwrite _ _ _).bind fun _ =>
          Keeps.always fun s hs => hdirty s hs
  · exact Keeps.pure _

end Front

end W6100

end Wiznet
