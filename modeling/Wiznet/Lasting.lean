import Wiznet.Lib.Trails
import Wiznet.Locks
import Wiznet.Ticks

/-! # What lasts

No step of a tick takes a transfer off the bus, and none of a call that holds the
device looks at what is recorded. So a transfer that is in flight when such a call is
stopped on its way is in flight when it is over. -/

namespace Wiznet
open Resumption Resumption.Code

variable {w L : Nat} {D P S α β : Type}

/-! ## Cells -/

section Cells

variable {cell : Lens S (AtomicCell α)} {body : Code Error S β} {R : S → S → Prop} {s : S}

theorem run_holding (cell : Lens S (AtomicCell α)) (body : Code Error S β) :
    ExceptT.run (holding cell body) =
      .step (fun s => if (cell.get s).busy then s else setBusy cell true s) fun s =>
        if (cell.get s).busy then .ret (.error .wouldBlock)
        else (ExceptT.run body).bind fun r => .step (setBusy cell false) fun _ => .ret r := by
  rw [holding, run_bind_eq]
  change Prog.step _ _ = _
  congr 1
  · funext s
    split <;> simp_all [setBusy]
  · funext s
    cases hb : (cell.get s).busy with
    | true => simp [hb, Prog.zoom]
    | false =>
      simp only [hb, Prog.zoom, Bool.false_eq_true, if_false, Prog.ret_bind, run_outcome_bind]
      rfl

/-- A call under a cell whose flag is none of `R`'s business. -/
theorem follows_holding_at (hR : ∀ s, R s s) (hflag : ∀ b s, R s (setBusy cell b s))
    (hb : Prog.Follows R (ExceptT.run body) (setBusy cell true s)) :
    Prog.Follows R (ExceptT.run (holding cell body)) s := by
  rw [run_holding]
  cases hbusy : (cell.get s).busy with
  | true => exact ⟨by simpa [hbusy] using hR s, by simp [hbusy, Prog.Follows]⟩
  | false =>
    refine ⟨by simpa [hbusy] using hflag true s, ?_⟩
    simp only [hbusy, Bool.false_eq_true, if_false]
    exact Prog.follows_bind.mpr ⟨hb, hflag false _, trivial⟩

theorem follows_holding (hR : ∀ s, R s s) (hflag : ∀ b s, R s (setBusy cell b s))
    (hb : body.Follows R) : (holding cell body).Follows R :=
  fun _ => follows_holding_at hR hflag (hb _)

theorem follows_holding_busy (hR : ∀ s, R s s) (hbusy : (cell.get s).busy = true) :
    Prog.Follows R (ExceptT.run (holding cell body)) s := by
  rw [run_holding]
  exact ⟨by simpa [hbusy] using hR s, by simp [hbusy, Prog.Follows]⟩

theorem seesOnly_holding {f : S → S} (hbusy : ∀ s, (cell.get (f s)).busy = (cell.get s).busy)
    (hset : ∀ b s s', f s = f s' → f (setBusy cell b s) = f (setBusy cell b s'))
    (hb : Prog.SeesOnly f (ExceptT.run body)) :
    Prog.SeesOnly f (ExceptT.run (holding cell body)) := by
  rw [run_holding]
  refine ⟨fun s s' h => ?_, fun s => ?_⟩
  · have hflag : (cell.get s).busy = (cell.get s').busy := by rw [← hbusy, h, hbusy]
    dsimp only
    rw [hflag]
    split
    · exact ⟨h, rfl⟩
    · exact ⟨hset true s s' h, rfl⟩
  · dsimp only
    split
    · trivial
    · exact hb.bind fun _ => ⟨fun s s' h => ⟨hset false s s' h, rfl⟩, fun _ => trivial⟩

/-- While a call that found its cell free has not come to its end, the cell is held. -/
theorem held_of_unfinished (cell : Lens S (AtomicCell α))
    (hb : Prog.Follows (fun s s' => (cell.get s').busy = (cell.get s).busy) (ExceptT.run body)
      (setBusy cell true s))
    (hfree : (cell.get s).busy = false) {k : Nat} {act next}
    (hk : (Prog.stop (k + 1) (ExceptT.run (holding cell body)) s).1 = .step act next) :
    (cell.get (Prog.stop (k + 1) (ExceptT.run (holding cell body)) s).2).busy = true := by
  have hpersists : Prog.Follows (fun s s' => (cell.get s).busy = true → (cell.get s').busy = true)
      (ExceptT.run body) (setBusy cell true s) := hb.mono fun _ _ h h' => h.trans h'
  have hstart : (cell.get (setBusy cell true s)).busy = true := setBusy_busy cell true s
  rw [run_holding] at hk ⊢
  simp only [Prog.stop, hfree, Bool.false_eq_true, if_false] at hk ⊢
  rcases Prog.stop_bind k (ExceptT.run body) (fun r => .step (setBusy cell false) fun _ => .ret r)
    (setBusy cell true s) with ⟨_, _, -, heq⟩ | ⟨_ | m, heq⟩
  · rw [heq]
    exact hpersists.persists hstart k
  · rw [heq]
    exact (hpersists.along hstart).final
  · rw [heq, Prog.stop, Prog.stop_ret] at hk
    cases hk

end Cells

/-! ## The bus -/

/-- A transfer is on the bus. -/
def DmaState.isInFlight : DmaState L D → Bool
  | .inFlight _ => true
  | _ => false

/-- A step that takes no transfer off the bus. -/
abbrev Lasts (bus bus' : Transceiver L D) : Prop := bus.isInFlight = true → bus'.isInFlight = true

/-- Looks out for a step that takes a transfer off the bus. -/
def slips : Observer (Transceiver L D) Bool := Prog.breaks Lasts fun _ h => h

abbrev Unslipped (x : Transceiver L D × Bool) : Prop := x.2 = false

section Bus

variable {bus bus' : Transceiver L D} {addr : Address} {len : Nat}

theorem slips_note (h : Lasts bus bus') (g : Bool) : slips.note bus bus' g = g := by
  rw [slips, Prog.breaks_note, decide_eq_true h, Bool.not_true, Bool.or_false]

/-- Where there is no transfer there is none to take off. -/
theorem slips_note_off (h : bus.isInFlight = false) (g : Bool) : slips.note bus bus' g = g :=
  slips_note (fun hc => absurd (h.symm.trans hc) Bool.false_ne_true) g

/-- A single access, which gets nothing done while there is a transfer on the bus. -/
theorem keeps_lasting {f : Transceiver L D → Except Error α × Transceiver L D}
    (hf : ∀ txn, (f (.inFlight txn)).2 = .inFlight txn) :
    Keeps Unslipped ((Code.attempt f).watch slips) := by
  rintro ⟨bus, g⟩ hg
  have hlasts : Lasts bus (f bus).2 := by
    intro hbus
    cases bus with
    | pending | idle dev scratch => cases hbus
    | inFlight txn => rw [hf]; rfl
  have hnote := (slips_note hlasts g).trans hg
  rw [wp_watch_attempt]
  rcases hx : f bus with ⟨_ | _, bus'⟩ <;> rw [hx] at hnote <;> exact hnote

variable [SpiDmaDevice D]

theorem triple_startRead_lasts :
    Triple (Unslipped (L := L) (D := D)) ((startRead addr len).watch slips)
      (fun _ x => Unslipped x ∧ x.1.isInFlight = true) fun _ => Unslipped := by
  rintro ⟨bus, g⟩ hg
  rw [startRead, wp_watch_bind, wp_watch_attempt]
  cases bus with
  | pending | inFlight txn =>
    simp only [takeIdle, slips.note_self]
    exact hg
  | idle dev scratch =>
    simp only [takeIdle]
    rw [slips_note_off rfl]
    split
    · exact (wp_watch_attempt _).mpr ((slips_note_off rfl g).trans hg)
    · rw [wp_watch_attempt, launch]
      rcases transceive dev _ .interrupt with ⟨dev', scratch'⟩ | txn
      · exact (slips_note_off rfl g).trans hg
      · exact ⟨(slips_note_off rfl g).trans hg, rfl⟩

theorem triple_startWrite_lasts (l : Lens S (Transceiver L D))
    {fill : List UInt8 → Prog S (List UInt8)} (hfill : ∀ buf, (fill buf).Fixes l.get) :
    Triple (fun x => Unslipped (l.get x.1, x.2))
      ((startWrite l addr len fill).watch (slips.comap l.get))
      (fun _ x => Unslipped (l.get x.1, x.2) ∧ (l.get x.1).isInFlight = true)
      fun _ x => Unslipped (l.get x.1, x.2) := by
  rintro ⟨s, g⟩ hg
  rw [startWrite, wp_watch_bind, wp_watch_zoom_attempt]
  cases hs : l.get s with
  | pending | inFlight txn =>
    simp only [takeIdle]
    rw [← hs, l.set_get, Observer.note_self]
    exact hg
  | idle dev scratch =>
    simp only [takeIdle, Observer.comap_note, l.get_set, hs]
    rw [slips_note_off rfl]
    split
    · rw [wp_watch_zoom_attempt]
      simp only [Observer.comap_note, l.get_set]
      exact (slips_note_off rfl g).trans hg
    · rw [wp_watch_bind, wp_watch_always, Prog.run_watch_silent (hfill _).silent,
        wp_watch_zoom_attempt]
      have hget := (hfill ((scratch.stage 0 (createHeader addr true)).txWindow HEADER len)).run
        (l.set .pending s)
      rw [l.get_set] at hget
      simp only [Observer.comap_note, l.get_set, hget, launch]
      rcases transceive dev _ .interrupt with ⟨dev', scratch'⟩ | txn
      · exact (slips_note_off rfl g).trans hg
      · exact ⟨(slips_note_off rfl g).trans hg, rfl⟩

theorem serves_lasts (block : BlockAddress) :
    Serves (L := L) (D := D) slips block Unslipped
      fun _ _ _ x => Unslipped x ∧ x.1.isInFlight = true where
  read _ _ _ _ := keeps_lasting fun _ => rfl
  write _ _ _ _ := keeps_lasting fun _ => rfl
  startRead _ _ _ _ := triple_startRead_lasts
  startWrite l _ _ _ hfill := triple_startWrite_lasts l hfill

/-- A tick takes no transfer off the bus, and one that reports a transfer has put it
there. -/
theorem SocketBackend.run_lasts (b : SocketBackend) (io : Io w L D) :
    Prog.Follows (fun io io' : Io w L D => Lasts io.trans io'.trans) b.run io ∧
      ∀ kind pointer len, (b.run.run io).1.1 = .ok (.started kind pointer len) →
        (b.run.run io).2.trans.isInFlight = true := by
  have ha := run_watch_accounts b (serves_lasts b.block) io false rfl
  obtain ⟨hr, hs⟩ := Prog.run_watch (o := slips.comap Io.trans) b.run io false
  rcases hw : (b.run.watch (slips.comap Io.trans)).run (io, false) with ⟨⟨r, b'⟩, io', g⟩
  rw [hw] at ha hr hs
  have hg : g = false := by
    rcases r with e | (_ | ⟨kind, pointer, len⟩)
    · exact ha
    · exact ha
    · exact ha.1
  have hwatch : ((b.run.watch (Prog.breaks (fun io io' : Io w L D => Lasts io.trans io'.trans)
      fun _ h => h)).run (io, false)).2.2 = false := (congrArg (fun x => x.2.2) hw).trans hg
  refine ⟨(Prog.follows_of_watch hwatch).2, fun kind pointer len hstarted => ?_⟩
  rw [← hr] at hstarted
  cases hstarted
  rw [← hs]
  exact ha.2

end Bus

/-! ## The driver -/

namespace W6100

/-- A transfer is in flight. -/
abbrev InFlight (s : W6100 w L D P) : Prop := s.device.value.transport.isInFlight = true

/-- A step that takes no transfer off the bus, and records none that is not there. -/
structure Retains (s s' : W6100 w L D P) : Prop where
  lasts : InFlight s → InFlight s'
  recorded : s.bulk.value = none ∨ InFlight s → s'.bulk.value = none ∨ InFlight s'

/-- One that leaves the flag of the device as it is. -/
structure Inward (s s' : W6100 w L D P) : Prop extends Retains s s' where
  device : s'.device.busy = s.device.busy

/-- The driver, whatever is recorded. -/
def unmarked (s : W6100 w L D P) : W6100 w L D P := { s with bulk := ⟨none, s.bulk.busy⟩ }

/-- What a call does with the device in its hands. -/
abbrev Tame (c : Code Error (W6100 w L D P) α) : Prop := c.Confined Inward unmarked

section Steps

variable {s s' : W6100 w L D P} {T : Type} {l : Lens (W6100 w L D P) T}

theorem Retains.of_lasts (h : Lasts s.device.value.transport s'.device.value.transport)
    (hb : s'.bulk.value = s.bulk.value ∨ s'.bulk.value = none) : Retains s s' := by
  refine ⟨h, fun hs => ?_⟩
  rcases hb with hb | hb
  · rw [hb]
    exact hs.imp_right h
  · exact .inl hb

theorem Retains.of_eq (hbus : s'.device.value = s.device.value)
    (hbulk : s'.bulk.value = s.bulk.value) : Retains s s' :=
  .of_lasts (by rw [hbus]; exact fun h => h) (.inl hbulk)

theorem Inward.of_eq (hbus : s'.device = s.device) (hbulk : s'.bulk.value = s.bulk.value) :
    Inward s s' := ⟨.of_eq (by rw [hbus]) hbulk, by rw [hbus]⟩

theorem inFlight_of_unmarked (h : unmarked s = unmarked s') (hs : InFlight s) : InFlight s' := by
  have hdevice : (unmarked s).device = (unmarked s').device := by rw [h]
  have hdevice' : s.device = s'.device := hdevice
  rwa [InFlight, ← hdevice']

theorem seesOnly_zoom (hget : ∀ s, l.get (unmarked s) = l.get s)
    (hset : ∀ t s, unmarked (l.set t s) = l.set t (unmarked s)) (p : Prog T α) :
    (p.zoom l).SeesOnly unmarked :=
  Prog.SeesOnly.zoom (fun s s' h => by rw [← hget, h, hget])
    (fun t s s' h => by rw [hset, h, hset]) p

/-- A program about a part that is neither the device nor the marker. -/
theorem tame_beside (hinward : ∀ t s, Inward s (l.set t s))
    (hget : ∀ s, l.get (unmarked s) = l.get s)
    (hset : ∀ t s, unmarked (l.set t s) = l.set t (unmarked s)) (p : Prog T α) :
    Tame (Code.always (Prog.zoom l p)) :=
  .always (Prog.Follows.zoom hinward p) (seesOnly_zoom hget hset p)

theorem tame_load {f : W6100 w L D P → α} (hf : ∀ s, f (unmarked s) = f s) :
    Tame (Code.always (Prog.load f)) := by
  refine .always (fun _ => ⟨.of_eq rfl rfl, trivial⟩) ⟨fun s s' h => ⟨h, ?_⟩, fun _ => trivial⟩
  dsimp only
  rw [← hf, h, hf]

theorem tame_onBus {c : Code Error (Transceiver L D) α} (hc : Keeps Unslipped (c.watch slips)) :
    Tame (onBus c : Code Error (W6100 w L D P) α) := by
  refine ⟨fun s => (Prog.follows_zoom transLens).mpr ?_,
    seesOnly_zoom (fun _ => rfl) (fun _ _ => rfl) _⟩
  have hkept : Unslipped (exec (c.watch slips) (transLens.get s, false)).2 := hc.exec rfl
  exact (Prog.follows_of_watch hkept).2.mono fun _ _ h => ⟨.of_lasts h (.inl rfl), rfl⟩

/-- A step of `setMarker`. -/
def Marks (op : Option BulkOp) (s s' : W6100 w L D P) : Prop :=
  s'.device = s.device ∧ (s'.bulk.value = s.bulk.value ∨ s'.bulk.value = op)

theorem follows_setMarker (op : Option BulkOp) :
    (setMarker op : Code Error (W6100 w L D P) Unit).Follows (Marks op) := by
  refine Code.Follows.bind (Code.Follows.outcome ?_) fun _ => Code.Follows.pure _
  refine follows_holding (fun _ => ⟨rfl, .inl rfl⟩) (fun _ _ => ⟨rfl, .inl rfl⟩) ?_
  exact Code.Follows.always fun s => ⟨⟨rfl, .inr rfl⟩, trivial⟩

theorem seesOnly_setMarker (op : Option BulkOp) :
    Prog.SeesOnly unmarked (ExceptT.run (setMarker op : Code Error (W6100 w L D P) Unit)) := by
  rw [setMarker, run_outcome_bind]
  refine Prog.SeesOnly.bind (seesOnly_holding (fun _ => rfl) (fun b s s' h => ?_) ?_) fun _ => trivial
  · exact congrArg (setBusy bulkCell b) h
  · exact Prog.SeesOnly.bind ⟨fun s s' h => ⟨h, rfl⟩, fun _ => trivial⟩ fun _ => trivial

theorem tame_clearMarker : Tame (setMarker none : Code Error (W6100 w L D P) Unit) :=
  ⟨fun s => (follows_setMarker none s).mono fun _ _ h =>
    ⟨.of_lasts (by rw [h.1]; exact fun h => h) h.2, by rw [h.1]⟩, seesOnly_setMarker none⟩

/-- Once there is a transfer in flight, it may be recorded. -/
theorem follows_setBulk (op : BulkOp) (h : InFlight s) :
    Prog.Follows Inward (ExceptT.run (setBulk op)) s := by
  have hunder := (follows_setMarker (some op) s).under (fun s s' hm (hs : InFlight s) => by
    rwa [InFlight, hm.1]) h
  refine hunder.mono fun s s' ⟨hs, hm⟩ => ⟨⟨fun _ => ?_, fun _ => .inr ?_⟩, by rw [hm.1]⟩ <;>
    rwa [InFlight, hm.1]

theorem follows_device {body : Code Error (W6100 w L D P) α} (hb : Tame body) :
    (holding deviceCell body).Follows Retains :=
  follows_holding (fun _ => .of_eq rfl rfl) (fun _ _ => .of_eq rfl rfl) fun s =>
    (hb.follows s).mono fun _ _ h => h.toRetains

theorem seesOnly_device {body : Code Error (W6100 w L D P) α}
    (hb : Prog.SeesOnly unmarked (ExceptT.run body)) :
    Prog.SeesOnly unmarked (ExceptT.run (holding deviceCell body)) :=
  seesOnly_holding (fun _ => rfl) (fun b _ _ h => congrArg (setBusy deviceCell b) h) hb

/-- A look into a cell. -/
theorem follows_look {cell : Lens (W6100 w L D P) (AtomicCell β)}
    (hflag : ∀ b s, Retains s (setBusy cell b s)) (f : W6100 w L D P → α) :
    (holding cell (Code.always (Prog.load f)) : Code Error _ α).Follows Retains :=
  follows_holding (fun _ => .of_eq rfl rfl) hflag
    (Code.Follows.always fun _ => ⟨.of_eq rfl rfl, trivial⟩)

theorem follows_bulkInFlight :
    (bulkInFlight : Code Error (W6100 w L D P) Bool).Follows Retains := by
  refine Code.Follows.bind (Code.Follows.outcome (follows_look (fun _ _ => .of_eq rfl rfl) _))
    fun r => ?_
  split <;> exact Code.Follows.pure _

end Steps

section Held

variable [SpiDmaDevice D]

theorem tame_readU8 (addr : Address) : Tame (onBus (readU8 addr) : Code Error (W6100 w L D P) _) :=
  tame_onBus (Keeps.watch_map _ (keeps_lasting fun _ => rfl))

theorem tame_readU16 (addr : Address) : Tame (onBus (readU16 addr) : Code Error (W6100 w L D P) _) :=
  tame_onBus (Keeps.watch_map _ (keeps_lasting fun _ => rfl))

theorem tame_write (addr : Address) (data : List UInt8) :
    Tame (onBus (write addr data) : Code Error (W6100 w L D P) _) :=
  tame_onBus (keeps_lasting fun _ => rfl)

theorem tame_resetDelay : Tame (resetDelay : Code Error (W6100 w L D P) Unit) := by
  refine Confined.bind (Confined.outcome (tame_onBus (keeps_lasting fun _ => rfl))) fun result => ?_
  cases result with
  | ok _ => exact Confined.pure _
  | error _ => exact Confined.throw _

theorem tame_awaitChip (tries : Nat) : Tame (awaitChip tries : Code Error (W6100 w L D P) Unit) := by
  induction tries with
  | zero =>
    refine (tame_readU16 _).bind fun id => ?_
    split
    · exact Confined.pure _
    · exact Confined.throw _
  | succ tries ih =>
    refine (tame_readU16 _).bind fun id => ?_
    split
    · exact Confined.pure _
    · exact tame_resetDelay.bind fun _ => ih

theorem tame_resetSocket (i : Fin 8) : Tame (resetSocket i : Code Error (W6100 w L D P) Unit) := by
  have hbody : Tame (do
      let b ← Code.always (Prog.load fun s => (s.sockets i).backend.value)
      onBus (initSocket b.block .closed)
      Code.always (Prog.zoom ((backendCell i).comp cellValue) (Prog.store SocketBackend.rearm)) :
        Code Error (W6100 w L D P) Unit) := by
    refine (tame_load fun _ => rfl).bind fun b => ?_
    refine (tame_onBus ((serves_lasts b.block).quiet .closed).initSocket).bind fun _ => ?_
    exact tame_beside (fun _ _ => .of_eq rfl rfl) (fun _ => rfl) (fun _ _ => rfl) _
  exact ⟨follows_holding (fun _ => .of_eq rfl rfl) (fun _ _ => .of_eq rfl rfl) hbody.follows,
    seesOnly_holding (fun _ => rfl) (fun b _ _ h => congrArg (setBusy (backendCell i) b) h)
      hbody.seesOnly⟩

theorem tame_resetSockets (slots : List (Fin 8)) :
    Tame (resetSockets slots : Code Error (W6100 w L D P) Unit) := by
  induction slots with
  | nil => exact Confined.pure _
  | cons i rest ih => exact (tame_resetSocket i).bind fun _ => ih

theorem tame_enableInterrupts : Tame (enableInterrupts : Code Error (W6100 w L D P) Unit) :=
  (tame_write _ _).bind fun _ => (tame_write _ _).bind fun _ => (tame_write _ _).bind fun _ =>
    tame_write _ _

theorem tame_setupNetworkHeld (sourceAddr gatewayAddress mask : UInt32) :
    Tame (setupNetworkHeld sourceAddr gatewayAddress mask : Code Error (W6100 w L D P) Unit) := by
  refine (tame_write _ _).bind fun _ => (tame_load fun _ => rfl).bind fun mac => ?_
  exact (tame_write _ _).bind fun _ => (tame_write _ _).bind fun _ => (tame_write _ _).bind fun _ =>
    (tame_write _ _).bind fun _ => tame_write _ _

theorem tame_runSockets (slots : List (Fin 8)) :
    Tame (runSockets slots : Code Error (W6100 w L D P) Unit) := by
  induction slots with
  | nil => exact Confined.pure _
  | cons idx rest ih =>
    have hlock : Tame (Code.always (lockBackend idx) : Code Error (W6100 w L D P) _) :=
      tame_beside (fun _ _ => .of_eq rfl rfl) (fun _ => rfl) (fun _ _ => rfl) _
    refine hlock.bind fun locked => ?_
    cases locked with
    | none => exact ih
    | some backend =>
      have hdrop (b : SocketBackend) : Tame (Code.always (dropBackend idx b) :
          Code Error (W6100 w L D P) Unit) :=
        tame_beside (fun _ _ => .of_eq rfl rfl) (fun _ => rfl) (fun _ _ => rfl) _
      have hgoesOn (b : SocketBackend) : Tame (do
          Code.always (dropBackend idx b)
          runSockets rest : Code Error (W6100 w L D P) Unit) := (hdrop b).bind fun _ => ih
      refine ⟨fun s => ?_, ?_⟩
      · obtain ⟨hlasts, hstarted⟩ := backend.run_lasts ((ioLens idx).get s)
        rw [run_always_bind]
        refine Prog.follows_bind.mpr ⟨(Prog.follows_zoom (ioLens idx)).mpr (hlasts.mono
          fun _ _ h => ⟨.of_lasts h (.inl rfl), rfl⟩), ?_⟩
        rw [Prog.run_zoom]
        rcases hr : backend.run.run ((ioLens idx).get s) with ⟨⟨result, b⟩, io⟩
        rw [hr] at hstarted
        rcases result with (e | e) | (_ | ⟨kind, pointer, len⟩)
        · exact ((hdrop b).bind fun _ => Confined.throw _).follows _
        · exact (hgoesOn b).follows _
        · exact (hgoesOn b).follows _
        · -- the transfer is in flight when it is recorded
          have hflying : InFlight ((ioLens idx).set io s) := hstarted kind pointer len rfl
          change Prog.Follows Inward (ExceptT.run (Code.always (dropBackend idx b) >>= fun _ =>
            setBulk _)) _
          rw [run_always_bind]
          refine Prog.follows_bind.mpr ⟨Prog.Follows.zoom (fun _ _ => .of_eq rfl rfl) _ _, ?_⟩
          exact follows_setBulk _ (by rw [dropBackend, Prog.run_zoom]; exact hflying)
      · rw [run_always_bind]
        refine Prog.SeesOnly.bind (seesOnly_zoom (fun _ => rfl) (fun _ _ => rfl) _) ?_
        rintro ⟨result, b⟩
        rcases result with (e | e) | (_ | ⟨kind, pointer, len⟩)
        · exact ((hdrop b).bind fun _ => Confined.throw _).seesOnly
        · exact (hgoesOn b).seesOnly
        · exact (hgoesOn b).seesOnly
        · change Prog.SeesOnly unmarked (ExceptT.run (Code.always (dropBackend idx b) >>= fun _ =>
            setBulk _))
          rw [run_always_bind]
          exact (seesOnly_zoom (fun _ => rfl) (fun _ _ => rfl) _).bind fun _ => seesOnly_setMarker _

section Reset

variable [OutputPin P]

omit [SpiDmaDevice D] [OutputPin P] in
theorem tame_onPin (f : P → Bool × P) : Tame (onPin f : Code Error (W6100 w L D P) Unit) :=
  ⟨Prog.Follows.zoom (fun _ _ => ⟨.of_lasts (fun h => h) (.inl rfl), rfl⟩) _,
    seesOnly_zoom (fun _ => rfl) (fun _ _ => rfl) _⟩

/-- What `reset` does once it has reclaimed the bus. -/
theorem tame_resetHeld : ∃ rest : Code Error (W6100 w L D P) Unit,
    resetHeld = (do Code.always (Prog.zoom transLens abort); rest) ∧ Tame rest := by
  refine ⟨_, rfl, tame_clearMarker.bind fun _ => ?_⟩
  refine (tame_onPin _).bind fun _ => tame_resetDelay.bind fun _ => (tame_onPin _).bind fun _ => ?_
  refine (tame_awaitChip _).bind fun _ => (tame_readU16 _).bind fun version => ?_
  split
  · exact Confined.throw _
  · exact (tame_resetSockets _).bind fun _ => tame_enableInterrupts

theorem seesOnly_resetHeld :
    Prog.SeesOnly unmarked (ExceptT.run (resetHeld : Code Error (W6100 w L D P) Unit)) := by
  obtain ⟨rest, hrest, htame⟩ := tame_resetHeld (w := w) (L := L) (D := D) (P := P)
  rw [hrest, run_always_bind]
  exact (seesOnly_zoom (fun _ => rfl) (fun _ _ => rfl) _).bind fun _ => htame.seesOnly

/-- With nothing in flight there is nothing to reclaim. -/
theorem follows_resetHeld {s : W6100 w L D P} (h : ¬ InFlight s) :
    Prog.Follows Inward (ExceptT.run resetHeld) s := by
  obtain ⟨rest, hrest, htame⟩ := tame_resetHeld (w := w) (L := L) (D := D) (P := P)
  rw [hrest, run_always_bind]
  refine Prog.follows_bind.mpr ⟨⟨⟨.of_lasts (fun hs => absurd hs h) (.inl rfl), rfl⟩, trivial⟩, ?_⟩
  exact htame.follows _

theorem follows_resetHeld_device (s : W6100 w L D P) :
    Prog.Follows (fun s s' => s'.device.busy = s.device.busy) (ExceptT.run resetHeld) s := by
  obtain ⟨rest, hrest, htame⟩ := tame_resetHeld (w := w) (L := L) (D := D) (P := P)
  rw [hrest, run_always_bind]
  exact Prog.follows_bind.mpr ⟨⟨rfl, trivial⟩, (htame.follows _).mono fun _ _ h => h.device⟩

end Reset

/-! ## The calls -/

theorem follows_isLinkUp : (isLinkUp : Code Error (W6100 w L D P) Bool).Follows Retains :=
  follows_device ((tame_readU8 _).bind fun _ => Confined.pure _)

theorem follows_applyConfig : (applyConfig : Code Error (W6100 w L D P) Unit).Follows Retains := by
  refine Code.Follows.bind (Code.Follows.always fun _ => ⟨.of_eq rfl rfl, trivial⟩) fun dirty => ?_
  split
  · refine Code.Follows.bind ?_ fun config => ?_
    · refine Code.Follows.bind (Code.Follows.outcome
        (follows_look (fun _ _ => .of_eq rfl rfl) _)) fun r => ?_
      split <;> exact Code.Follows.pure _
    · split
      · exact (follows_device (tame_setupNetworkHeld _ _ _)).bind fun _ =>
          Code.Follows.always fun _ => ⟨.of_eq rfl rfl, trivial⟩
      · exact Code.Follows.pure _
  · exact Code.Follows.pure _

theorem follows_reset [OutputPin P] {s : W6100 w L D P} (h : ¬ InFlight s) :
    Prog.Follows Retains (ExceptT.run reset) s := by
  have hheld : ¬ InFlight (setBusy deviceCell true s) := h
  exact follows_holding_at (fun _ => .of_eq rfl rfl) (fun _ _ => .of_eq rfl rfl)
    ((follows_resetHeld hheld).mono fun _ _ h => h.toRetains)

end Held

end W6100

end Wiznet
