import Wiznet.Addressing
import Wiznet.LinkLoss

/-! # Staged addressing

`set_network_config` stores an addressing and then raises a flag; `service`
writes what is stored to the chip and lowers the flag. A reset clears the
registers of the chip, and only the link-loss path of `service` raises the flag
for it, after a reset that has succeeded. -/

namespace Wiznet
open Resumption Resumption.Code

variable {w L : Nat} {D P α : Type}

namespace W6100

/-! ## What a call keeps, whoever holds which cell -/

section Held

variable {A : AddressRegisters → Prop} {config : Option NetworkConfig} {dirty : Bool}
  {s s' : W6100 w L (Logged D) (Pulled P)} {g : ChipLog}

/-- Every slot, and the transfer that is recorded, is at the block of its socket. -/
structure Fitted (s : W6100 w L D P) : Prop where
  slots : ∀ i, (s.view.backend i).block = socketBlock i
  marker : ∀ op, s.bulk.value = some op → op.block = socketBlock op.idx

/-- The registers of the chip, what is staged for them, and the flag. -/
structure Holds (A : AddressRegisters → Prop) (config : Option NetworkConfig) (dirty : Bool)
    (x : W6100 w L (Logged D) (Pulled P) × ChipLog) : Prop where
  fitted : Fitted x.1
  heard : Hears A (x.1.view.bus, x.2)
  config : x.1.config.value = config
  dirty : x.1.configDirty = dirty

theorem Holds.congr (h : Holds A config dirty (s, g)) (hview : s'.view = s.view)
    (hbulk : s'.bulk.value = s.bulk.value) (hconfig : s'.config.value = s.config.value)
    (hdirty : s'.configDirty = s.configDirty) : Holds A config dirty (s', g) :=
  ⟨⟨by rw [hview]; exact h.fitted.slots, by rw [hbulk]; exact h.fitted.marker⟩,
    by rw [hview]; exact h.heard, hconfig.trans h.config, hdirty.trans h.dirty⟩

theorem Holds.mono {A' : AddressRegisters → Prop} {x : W6100 w L (Logged D) (Pulled P) × ChipLog}
    (h : Holds A config dirty x) (hA : ∀ a, A a → A' a) : Holds A' config dirty x :=
  ⟨h.fitted, h.heard.mono hA, h.config, h.dirty⟩

theorem Holds.setDevice (b : Bool) {x : W6100 w L (Logged D) (Pulled P) × ChipLog}
    (h : Holds A config dirty x) : Holds A config dirty (setBusy deviceCell b x.1, x.2) :=
  Holds.congr (s := x.1) h rfl rfl rfl rfl

/-- A call under the device cell, which may be held. -/
theorem keeps_holds_device {c : Code Error (W6100 w L (Logged D) (Pulled P)) α}
    (hc : Keeps (Holds A config dirty) (c.watch listener.driver)) :
    Keeps (Holds A config dirty) ((holding deviceCell c).watch listener.driver) :=
  keeps_watch_held flagSilent_device (fun b _ h => h.setDevice b) hc

theorem keeps_holds_onBus {c : Code Error (Transceiver L (Logged D)) α}
    (hc : Keeps (Hears A) (c.watch hearing)) :
    Keeps (Holds (w := w) (P := P) A config dirty) ((onBus c).watch listener.driver) := by
  rintro ⟨s, g⟩ h
  rw [wp_watch_onBus]
  exact wp_mono (hc (s.view.bus, g) h.heard)
    (fun _ _ hx => ⟨⟨h.fitted.slots, h.fitted.marker⟩, hx, h.config, h.dirty⟩)
    fun _ _ hx => ⟨⟨h.fitted.slots, h.fitted.marker⟩, hx, h.config, h.dirty⟩

theorem triple_holds_setMarker {op : Option BulkOp}
    (hop : ∀ o, op = some o → o.block = socketBlock o.idx) :
    Triple (Holds (w := w) (L := L) (D := D) (P := P) A config dirty)
      ((setMarker op).watch listener.driver) (fun _ => Holds A config dirty) fun _ _ => False := by
  rintro ⟨s, g⟩ h
  rw [wp_watch_silent (silent_setMarker op), wp]
  cases hb : s.bulk.busy with
  | true => rw [exec_setMarker_busy op hb]; exact h
  | false =>
    rw [exec_setMarker op hb]
    exact ⟨⟨h.fitted.slots, hop⟩, h.heard, h.config, h.dirty⟩

theorem keeps_holds_setMarker {op : Option BulkOp}
    (hop : ∀ o, op = some o → o.block = socketBlock o.idx) :
    Keeps (Holds (w := w) (L := L) (D := D) (P := P) A config dirty)
      ((setMarker op).watch listener.driver) :=
  Triple.consequence (triple_holds_setMarker hop) (fun _ h => h) (fun _ _ h => h) fun _ _ h => h.elim

theorem keeps_holds_clearMarker :
    Keeps (Holds (w := w) (L := L) (D := D) (P := P) A config dirty)
      ((setMarker none).watch listener.driver) := keeps_holds_setMarker fun _ h => nomatch h

variable [SpiDmaDevice D]

theorem keeps_holds_isLinkUp :
    Keeps (Holds (w := w) (L := L) (D := D) (P := P) A config dirty)
      (isLinkUp.watch listener.driver) :=
  keeps_holds_device ((keeps_holds_onBus
    ((hears_read (n := 1) (by decide)).watch_map _)).watch_bind fun _ => Keeps.watch_pure _)

/-! ### Sockets -/

omit [SpiDmaDevice D] in
theorem run_watch_lockBackend_held {G : Type} {o : DriverObserver L D P G} {idx : Fin 8}
    {s : W6100 w L D P} {g : G} (hheld : (s.sockets idx).backend.busy = true) :
    ((lockBackend idx).watch o.driver).run (s, g) = (none, s, g) := by
  have hc : ((backendCell idx).get s).busy = true := hheld
  have hset : (backendCell idx).set ((backendCell idx).get s) s = s := (backendCell idx).set_get s
  rw [lockBackend, Prog.run_watch_zoom_atom]
  simp only [hc, if_true, hset, Observer.note_self]

/-- The loop of `run`: a held slot is skipped, and no tick reaches the registers. -/
theorem keeps_holds_runSockets (slots : List (Fin 8)) :
    Keeps (Holds (w := w) (L := L) (D := D) (P := P) A config dirty)
      ((runSockets slots).watch listener.driver) := by
  induction slots with
  | nil => exact Keeps.watch_pure _
  | cons idx rest ih =>
    rintro ⟨s, g⟩ h
    cases hfree : (s.sockets idx).backend.busy with
    | true =>
      rw [runSockets, wp_watch_bind, wp_watch_always, run_watch_lockBackend_held hfree]
      exact ih (s, g) h
    | false =>
      refine wp_watch_runSockets_cons hfree fun result b io g' hr => ?_
      have hblock := h.fitted.slots idx
      have hserves := serves_hears (L := L) (D := D) (A := A) idx
      rw [← hblock] at hserves
      have hheard := SocketBackend.run_watch_accounts (s.view.backend idx) hserves
        (s.view.io idx) g h.heard
      have hrun : ((s.view.backend idx).run.watch (hearing.comap Io.trans)).run
        (s.view.io idx, g) = ((result, b), io, g') := hr
      obtain ⟨hplain, -⟩ := Prog.run_watch (o := hearing.comap Io.trans) (s.view.backend idx).run
        (s.view.io idx) g
      rw [hrun] at hheard hplain
      have hb : b.block = socketBlock idx := by
        rw [← hblock, ← SocketBackend.run_block (s.view.backend idx) (s.view.io idx), ← hplain]
      have hx : Holds A config dirty (ticked idx io b s, g') := by
        refine ⟨⟨fun i => ?_, h.fitted.marker⟩, ?_, h.config, h.dirty⟩
        · rw [view_ticked]
          by_cases hi : i = idx
          · subst hi
            simpa [View.setBackend] using hb
          · simpa [View.setBackend, View.setIo, hi] using h.fitted.slots i
        · rcases result with e | (_ | ⟨kind, pointer, len⟩) <;> exact hheard
      rcases result with (e | e) | (_ | ⟨kind, pointer, len⟩)
      · exact hx
      · exact ih _ hx
      · exact ih _ hx
      · refine keeps_holds_setMarker (fun o ho => ?_) _ hx
        cases ho
        exact hb

theorem keeps_holds_run :
    Keeps (Holds (w := w) (L := L) (D := D) (P := P) A config dirty)
      (run.watch listener.driver) :=
  keeps_holds_device (keeps_holds_runSockets _)

/-! ### Completion -/

theorem keeps_hears_finishBulk {op : BulkOp} (hop : op.block = socketBlock op.idx) :
    Keeps (fun x : Io w L (Logged D) × ChipLog => Hears A (x.1.trans, x.2))
      ((finishBulk op).watch ((hearing (L := L) (D := D)).comap Io.trans)) := by
  rintro ⟨io, g⟩ h
  have hs : Serves (transcribe (L := L) (D := D)) (socketBlock op.idx) (HeardSince g.cleared A)
      fun _ _ _ => HeardSince g.cleared A :=
    serves_written
      (fun _ ha => Spares.heeds (.inr (socket_not_addresses (ha.imp_right .inl))))
      fun _ ha => Spares.heeds (.inr (socket_not_addresses (ha.imp_right .inr)))
  have hfinish := keeps_finishBulk (w := w) hop hs (io, g.transcript) (hears_iff.mp h)
  change wp (Code.watch ((transcribe.comap Io.trans).under ChipLog.transcriptLens) _) _ _ _
  rw [wp_watch_under]
  exact wp_mono hfinish (fun _ _ h => hears_iff.mpr h) fun _ _ h => hears_iff.mpr h

theorem triple_holds_retireBulk {op : BulkOp} (hop : op.block = socketBlock op.idx) :
    Triple (Holds (w := w) (L := L) (D := D) (P := P) A config dirty)
      ((retireBulk op).watch listener.driver) (fun _ => Holds A config dirty) fun _ _ => False := by
  refine Triple.watch_bind (R := fun _ => Holds A config dirty) (fun x hx => ?_) fun _ =>
    triple_holds_setMarker fun _ h => nomatch h
  rw [wp_watch_outcome]
  refine keeps_holds_device ?_ x hx
  rintro ⟨s, g⟩ h
  rw [wp_watch_zoom (hearing.comap Io.trans) fun io s g => note_setIo op.idx io s g]
  have hset : ∀ x : Io w L (Logged D) × ChipLog, Hears A (x.1.trans, x.2) →
      Holds A config dirty ((ioLens op.idx).set x.1 s, x.2) := fun x hx =>
    ⟨⟨by rw [view_setIo]; exact h.fitted.slots, h.fitted.marker⟩, by rw [view_setIo]; exact hx,
      h.config, h.dirty⟩
  exact wp_mono (keeps_hears_finishBulk hop (s.view.io op.idx, g) h.heard)
    (fun _ x hx => hset x hx) fun _ x hx => hset x hx

/-! ### Reset -/

omit [SpiDmaDevice D] in
/-- The state a reset is in before it works on the reset line. -/
theorem keeps_holds_dropBulk :
    Keeps (Holds (w := w) (L := L) (D := D) (P := P) A config dirty)
      ((Code.always (Prog.zoom transLens abort) : Code Error _ Unit).watch listener.driver) := by
  rintro ⟨s, g⟩ h
  have hnote : listener.driver.note s (transLens.set (abort.run s.view.bus).2 s) g =
      hearing.note s.view.bus (abort.run s.view.bus).2 g := by
    rw [DriverObserver.driver_note, view_setBus]
    simp only [View.setBus, Observer.note_self]
    rfl
  have habort : Hears A ((abort.run s.view.bus).2,
      hearing.note s.view.bus (abort.run s.view.bus).2 g) :=
    hears_iff.mpr (Written.abort (hears_iff.mp h.heard))
  rw [← hnote] at habort
  rw [wp_watch_always]
  exact ⟨⟨h.fitted.slots, h.fitted.marker⟩, habort, h.config, h.dirty⟩

omit [SpiDmaDevice D] in
theorem holds_onPin {f : Pulled P → Bool × Pulled P} (h : Holds A config dirty (s, g)) :
    wp ((onPin f).watch listener.driver)
      (fun _ => Holds (fun _ => True) config dirty) (fun _ => Holds (fun _ => True) config dirty)
      (s, g) := by
  have hset : ∀ q, Holds (fun _ => True) config dirty (rstLens.set q s,
      listener.driver.note s (rstLens.set q s) g) := fun q => by
    have hnote : listener.driver.note s (rstLens.set q s) g = notePulled.note s.view.rst q g := by
      rw [DriverObserver.driver_note, view_setRst]
      simp only [View.setRst, Observer.note_self]
      rfl
    rw [hnote]
    refine ⟨⟨h.fitted.slots, h.fitted.marker⟩, ?_, h.config, h.dirty⟩
    simp only [notePulled]
    split
    · exact h.heard.mono fun _ _ => trivial
    · exact ⟨h.heard.synced, Nat.le_refl _, trivial⟩
  rw [onPin, wp_watch_zoom_attempt]
  rcases f (rstLens.get s) with ⟨_ | _, q⟩ <;> exact hset q

theorem keeps_holds_resetDelay :
    Keeps (Holds (w := w) (L := L) (D := D) (P := P) A config dirty)
      (resetDelay.watch listener.driver) := by
  refine (Keeps.watch_outcome (keeps_holds_onBus (hears_delay _))).watch_bind fun result => ?_
  cases result with
  | ok _ => exact Keeps.watch_pure _
  | error _ => exact Keeps.watch_throw _

theorem keeps_holds_readU16 {addr : Address} :
    Keeps (Holds (w := w) (L := L) (D := D) (P := P) A config dirty)
      ((onBus (readU16 addr)).watch listener.driver) :=
  keeps_holds_onBus ((hears_read (n := 2) (by decide)).watch_map _)

theorem keeps_holds_awaitChip (tries : Nat) :
    Keeps (Holds (w := w) (L := L) (D := D) (P := P) A config dirty)
      ((awaitChip tries).watch listener.driver) := by
  induction tries with
  | zero =>
    refine keeps_holds_readU16.watch_bind fun id => ?_
    split
    · exact Keeps.watch_pure _
    · exact Keeps.watch_throw _
  | succ tries ih =>
    refine keeps_holds_readU16.watch_bind fun id => ?_
    split
    · exact Keeps.watch_pure _
    · exact keeps_holds_resetDelay.watch_bind fun _ => ih

/-- A write of a reset, after which nothing is claimed of the registers. -/
theorem keeps_holds_write {addr : Address} {data : List UInt8} (hdata : data.length ≤ 64) :
    Keeps (Holds (w := w) (L := L) (D := D) (P := P) (fun _ => True) config dirty)
      ((onBus (write addr data)).watch listener.driver) :=
  keeps_holds_onBus (hears_write hdata (.inl fun _ => trivial))

theorem keeps_holds_resetSocket (i : Fin 8) :
    Keeps (Holds (w := w) (L := L) (D := D) (P := P) (fun _ => True) config dirty)
      ((resetSocket i).watch listener.driver) := by
  refine keeps_watch_held (flagSilent_backend i) (fun b x h =>
    Holds.congr (s := x.1) h (view_setBackendBusy b i x.1) rfl rfl rfl) ?_
  refine Keeps.watch_bind (fun x h => (wp_watch_load _).mpr h) fun b => ?_
  refine Keeps.watch_bind (keeps_holds_onBus ?_) fun _ => ?_
  · have hw : ∀ {addr : Address} {v : UInt8}, Keeps (Hears fun _ => True)
        ((writeU8 addr v).watch (hearing (L := L) (D := D))) :=
      hears_write (by simp) (.inl fun _ => trivial)
    exact hw.watch_bind fun _ => hw.watch_bind fun _ => hw
  · rintro ⟨s, g⟩ h
    rw [wp_watch_always, Prog.run_watch_zoom_store, DriverObserver.driver_note, Lens.comp_set,
      view_setCell]
    refine ⟨⟨fun j => ?_, h.fitted.marker⟩, ?_, h.config, h.dirty⟩
    · rw [view_setCell]
      by_cases hj : j = i
      · subst hj
        simp only [View.setBackend, Function.update_self]
        exact (SocketBackend.rearm_block _).trans (h.fitted.slots j)
      · simpa [View.setBackend, hj] using h.fitted.slots j
    · rw [view_setCell]
      simp only [View.setBackend, Observer.note_self]
      exact h.heard

theorem keeps_holds_resetSockets (slots : List (Fin 8)) :
    Keeps (Holds (w := w) (L := L) (D := D) (P := P) (fun _ => True) config dirty)
      ((resetSockets slots).watch listener.driver) := by
  induction slots with
  | nil => exact Keeps.watch_pure _
  | cons i rest ih => exact (keeps_holds_resetSocket i).watch_bind fun _ => ih

variable [OutputPin P]

/-- A reset leaves the staged addressing and the flag alone. -/
theorem triple_holds_reset :
    Triple (Holds (w := w) (L := L) (D := D) (P := P) A config dirty)
      (reset.watch listener.driver) (fun _ => Holds (fun _ => True) config dirty)
      fun _ => Holds (fun _ => True) config dirty := by
  refine triple_watch_held flagSilent_device (fun _ h => h.mono fun _ _ => trivial)
    (fun b _ h => h.setDevice b) (fun _ b _ h => h.setDevice b) (fun _ b _ h => h.setDevice b) ?_
  refine Triple.consequence (P := Holds (fun _ => True) config dirty) ?_
    (fun _ h => h.mono fun _ _ => trivial) (fun _ _ h => h) fun _ _ h => h
  change Keeps _ _
  refine keeps_holds_dropBulk.watch_bind fun _ => keeps_holds_clearMarker.watch_bind fun _ => ?_
  have hpin : ∀ {f : Pulled P → Bool × Pulled P}, Keeps (Holds (w := w) (L := L) (D := D)
      (fun _ => True) config dirty) ((onPin f).watch listener.driver) := fun _ h => holds_onPin h
  refine hpin.watch_bind fun _ => keeps_holds_resetDelay.watch_bind fun _ => ?_
  refine hpin.watch_bind fun _ => (keeps_holds_awaitChip _).watch_bind fun _ => ?_
  refine keeps_holds_readU16.watch_bind fun version => ?_
  split
  · exact Keeps.watch_throw _
  · refine (keeps_holds_resetSockets _).watch_bind fun _ => ?_
    exact (keeps_holds_write (by simp)).watch_bind fun _ =>
      (keeps_holds_write (by simp)).watch_bind fun _ =>
      (keeps_holds_write (by simp)).watch_bind fun _ => keeps_holds_write (by simp)

/-- A reset that finds the device held, or whose line refuses to go low, leaves
the registers alone. -/
theorem holds_reset_spared (h : Holds A config dirty (s, g))
    (hspared : s.device.busy = true ∨ (OutputPin.setLow s.device.value.rst).1 = false) :
    wp (reset.watch listener.driver) (fun _ => Holds A config dirty)
      (fun _ => Holds A config dirty) (s, g) := by
  cases hbusy : s.device.busy with
  | true =>
    have hset : deviceCell.set (deviceCell.get s) s = s := deviceCell.set_get s
    have hheld : (deviceCell.get s).busy = true := hbusy
    rw [reset, holding, wp_watch_bind, wp_watch_zoom_attempt]
    simp only [hheld, if_true, hset, Observer.note_self]
    exact h
  | false =>
    have hlow : (OutputPin.setLow s.device.value.rst).1 = false := by
      obtain hheld | hlow := hspared
      · rw [hbusy] at hheld
        cases hheld
      · exact hlow
    rw [reset, wp_watch_holding flagSilent_device hbusy, resetHeld]
    have hrst : Keeps (fun s' : W6100 w L (Logged D) (Pulled P) => s'.view.rst = s.view.rst)
        (Code.always (Prog.zoom transLens abort) : Code Error _ Unit) :=
      Keeps.always fun s' h => by rw [Prog.run_zoom]; exact h
    have hrst' : Keeps (fun s' : W6100 w L (Logged D) (Pulled P) => s'.view.rst = s.view.rst)
        (setMarker none) := keeps_setMarker (fun _ _ h => h) none
    rw [wp_watch_bind]
    refine wp_mono (wp_and (keeps_holds_dropBulk _ (h.setDevice true)) (hrst.watch _ rfl))
      (fun _ x hx => ?_) fun _ _ hx => hx.1.setDevice false
    rw [wp_watch_bind]
    refine wp_mono (wp_and (keeps_holds_clearMarker _ hx.1) (hrst'.watch _ hx.2))
      (fun _ x hx => ?_) fun _ _ hx => hx.1.setDevice false
    obtain ⟨s', g'⟩ := x
    obtain ⟨hx, heq⟩ := hx
    have heq' : rstLens.get s' = s.device.value.rst := heq
    rw [wp_watch_bind, onPin, wp_watch_zoom_attempt, heq']
    -- the line refuses, and the count of the times it went low stays as it was
    have hlows : ∀ q, OutputPin.setLow s.device.value.rst = (false, q) →
        q.lows = s.device.value.rst.lows := fun q hq => by
      have hfst := hlow
      simp only [OutputPin.setLow] at hfst hq
      rw [hfst] at hq
      exact (congrArg (fun out => out.2.lows) hq).symm
    rcases hq : OutputPin.setLow s.device.value.rst with ⟨_ | _, q⟩
    · have hnote : listener.driver.note s' (rstLens.set q s') g' = g' := by
        rw [DriverObserver.driver_note, view_setRst]
        simp only [View.setRst, Observer.note_self]
        refine if_pos ?_
        rw [heq]
        exact hlows q hq
      simp only [hnote]
      exact Holds.setDevice false (x := (rstLens.set q s', g'))
        ⟨⟨hx.fitted.slots, hx.fitted.marker⟩, hx.heard, hx.config, hx.dirty⟩
    · rw [hq] at hlow
      cases hlow

end Held

/-! ## The flag -/

section Flag

variable {A : AddressRegisters → Prop} {config : Option NetworkConfig} {dirty : Bool}

/-- Unless the flag is up, the registers hold what is staged. -/
def UpToDate (config : Option NetworkConfig) (dirty : Bool) (a : AddressRegisters) : Prop :=
  dirty = false → ∀ c, config = some c → a = c.registers

/-- The same of the state a call leaves behind. -/
def Current (x : W6100 w L (Logged D) (Pulled P) × ChipLog) : Prop :=
  ∃ config dirty, Holds (UpToDate config dirty) config dirty x

theorem Current.registers {x : W6100 w L (Logged D) (Pulled P) × ChipLog} {c : NetworkConfig}
    (h : Current x) (hc : x.1.config.value = some c) (hd : x.1.configDirty = false) :
    x.2.registers = c.registers := by
  obtain ⟨config, dirty, hx⟩ := h
  exact hx.heard.registers (hx.dirty.symm.trans hd) c (hx.config.symm.trans hc)

variable [SpiDmaDevice D]

/-- `setup_network` leaves what it was given in the registers, or fails. -/
theorem triple_holds_setupNetwork (hL : HEADER + 4 ≤ L) (c : NetworkConfig) :
    Triple (Holds (w := w) (L := L) (D := D) (P := P) A config dirty)
      ((setupNetwork c.ip c.gateway c.subnet).watch listener.driver)
      (fun _ => Holds (· = c.registers) config dirty)
      fun _ => Holds (fun _ => True) config dirty := by
  have hother : ∀ {addr : Address} {data : List UInt8} {A : AddressRegisters → Prop},
      ¬ Addresses addr true → data.length ≤ 64 →
      Keeps (Holds (w := w) (L := L) (D := D) (P := P) A config dirty)
        ((onBus (write addr data)).watch listener.driver) := fun h hdata =>
    keeps_holds_onBus (hears_write hdata (.inr h))
  have hword : ∀ {addr : Address} {v : UInt32} {a : AddressRegisters},
      Triple (Holds (w := w) (L := L) (D := D) (P := P) (· = a) config dirty)
        ((onBus (writeU32 addr v)).watch listener.driver)
        (fun _ x => ∃ e, AddressRegisters.Writes e addr v ∧
          Holds (· = a.hear [e]) config dirty x)
        fun _ => Holds (fun _ => True) config dirty := by
    rintro addr v a ⟨s, g⟩ h
    rw [wp_watch_onBus]
    refine wp_mono (hears_writeU32 hL (s.view.bus, g) h.heard) ?_ fun _ _ hx =>
      ⟨⟨h.fitted.slots, h.fitted.marker⟩, hx, h.config, h.dirty⟩
    rintro _ x ⟨e, he, hx⟩
    exact ⟨e, he, ⟨h.fitted.slots, h.fitted.marker⟩, hx, h.config, h.dirty⟩
  refine triple_watch_held flagSilent_device (fun _ h => h.mono fun _ _ => trivial)
    (fun b _ h => h.setDevice b) (fun _ b _ h => h.setDevice b) (fun _ b _ h => h.setDevice b) ?_
  have hweak : ∀ {α : Type} {A : AddressRegisters → Prop}
      {c : Code Error (W6100 w L (Logged D) (Pulled P)) α},
      Keeps (Holds A config dirty) (c.watch listener.driver) →
      Triple (Holds A config dirty) (c.watch listener.driver) (fun _ => Holds A config dirty)
        fun _ => Holds (fun _ => True) config dirty := fun hc =>
    Triple.consequence hc (fun _ h => h) (fun _ _ h => h) fun _ _ h => h.mono fun _ _ => trivial
  refine Triple.watch_bind (hweak (hother (by decide) (by simp))) fun _ => ?_
  refine Triple.watch_bind (hweak fun x h => (wp_watch_load _).mpr h) fun mac => ?_
  refine Triple.watch_bind (hweak (hother (by decide) (by simp [mac.2]))) fun _ => ?_
  rintro ⟨s, g⟩ h
  have hsome : Holds (· = g.registers) config dirty (s, g) :=
    ⟨h.fitted, ⟨h.heard.synced, h.heard.cleared, rfl⟩, h.config, h.dirty⟩
  rw [wp_watch_bind]
  refine wp_mono (hword _ hsome) ?_ fun _ _ h => h
  rintro _ x ⟨e, he, hx⟩
  rw [AddressRegisters.hear_ip he] at hx
  rw [wp_watch_bind]
  refine wp_mono (hword _ hx) ?_ fun _ _ h => h
  rintro _ x ⟨e, he, hx⟩
  rw [AddressRegisters.hear_gateway he] at hx
  rw [wp_watch_bind]
  refine wp_mono (hword _ hx) ?_ fun _ _ h => h
  rintro _ x ⟨e, he, hx⟩
  rw [AddressRegisters.hear_subnet he] at hx
  exact hweak (hother (by decide) (by simp)) x hx

/-- The addressing part of a pass writes what is staged before it lowers the flag. -/
theorem triple_current_applyConfig (hL : HEADER + 4 ≤ L) :
    Triple (Current (w := w) (L := L) (D := D) (P := P)) (applyConfig.watch listener.driver)
      (fun _ => Current) fun _ => Current := by
  rintro ⟨s, g⟩ ⟨config, dirty, h⟩
  rw [applyConfig, wp_watch_bind, wp_watch_load]
  cases hd : s.configDirty with
  | false => exact ⟨config, dirty, h⟩
  | true =>
    have htrue : dirty = true := h.dirty.symm.trans hd
    subst htrue
    have hup : ∀ {A : AddressRegisters → Prop} {x : W6100 w L (Logged D) (Pulled P) × ChipLog},
        Holds A config true x → Current x := fun hx =>
      ⟨config, true, hx.mono fun _ _ hf => by cases hf⟩
    -- a configuration that cannot be read is left for the next pass
    have hread : ∃ r, exec networkConfig s = (.ok r, s) ∧ (r = none ∨ r = config) := by
      cases hb : s.config.busy with
      | false => exact ⟨_, exec_networkConfig hb, .inr h.config⟩
      | true =>
        refine ⟨none, ?_, .inl rfl⟩
        rw [networkConfig, exec_bind, exec_outcome, exec_holding_busy configCell _ hb]
        rfl
    obtain ⟨r, hr, hcase⟩ := hread
    simp only [if_true]
    rw [wp_watch_bind, wp_watch_silent silent_networkConfig, wp, hr]
    cases r with
    | none => exact hup h
    | some c =>
      have hconfig : config = some c := by
        obtain hnone | heq := hcase
        · cases hnone
        · exact heq.symm
      dsimp only
      rw [wp_watch_bind]
      refine wp_mono (triple_holds_setupNetwork hL c (s, g) h) (fun _ x hx => ?_)
        fun _ _ hx => hup hx
      obtain ⟨s', g'⟩ := x
      rw [wp_watch_store_hidden rfl]
      refine ⟨config, false, ⟨hx.fitted.slots, hx.fitted.marker⟩, hx.heard.mono ?_, hx.config, rfl⟩
      rintro _ rfl _ c' hc'
      rw [hconfig] at hc'
      cases hc'
      rfl

variable [OutputPin P]

/-- The reset of a pass that lost the link, where it must not leave the registers
stale without an alarm. -/
theorem wp_lost_reset {A : AddressRegisters → Prop} {config : Option NetworkConfig} {dirty : Bool}
    {s : W6100 w L (Logged D) (Pulled P)} {g : ChipLog} (h : Holds A config dirty (s, g))
    (hlost : (exec reset s).1 = .ok () ∨ dirty = true ∨ config = none ∨
      (OutputPin.setLow s.device.value.rst).1 = false ∧ ∀ a, A a → UpToDate config dirty a) :
    wp (reset.watch listener.driver) (fun _ => Holds (fun _ => True) config dirty)
      (fun _ => Current) (s, g) := by
  obtain hok | rfl | rfl | ⟨hlow, hcur⟩ := hlost
  · refine wp_mono (wp_watch_exec (triple_holds_reset _ h)) (fun _ _ h => h.2) ?_
    rintro e x ⟨hreset, -⟩
    rw [hreset] at hok
    cases hok
  · exact wp_mono (triple_holds_reset _ h) (fun _ _ h => h) fun _ _ hx =>
      ⟨config, true, hx.mono fun _ _ hf => nomatch hf⟩
  · exact wp_mono (triple_holds_reset _ h) (fun _ _ h => h) fun _ _ hx =>
      ⟨none, dirty, hx.mono fun _ _ _ _ hc => nomatch hc⟩
  · exact wp_mono (holds_reset_spared h (.inr hlow)) (fun _ _ hx => hx.mono fun _ _ => trivial)
      fun _ _ hx => ⟨config, dirty, hx.mono hcur⟩

/-- A pass keeps the registers current; only a pass that loses the link may find
them stale, and must complete its reset unless that does not matter. -/
theorem service_current (hL : HEADER + 4 ≤ L)
    {x : W6100 w L (Logged D) (Pulled P) × ChipLog} {A : AddressRegisters → Prop}
    {config : Option NetworkConfig} {dirty : Bool} (hx : Holds A config dirty x)
    (hstale : (∀ r, linkEvent x.1 ≠ .lost r) → ∀ a, A a → UpToDate config dirty a)
    (hlost : ∀ r, linkEvent x.1 = .lost r → r = .ok () ∨ dirty = true ∨ config = none ∨
      (OutputPin.setLow x.1.device.value.rst).1 = false ∧ ∀ a, A a → UpToDate config dirty a) :
    Current (exec (service.watch listener.driver) x).2 := by
  obtain ⟨s, g⟩ := x
  obtain ⟨inFlight, hbulk⟩ := bulkInFlight_returns s
  refine wp_state (?_ : wp (service.watch listener.driver) (fun _ => Current) (fun _ => Current)
    (s, g))
  have hidle : linkEvent s = .idle ∨ linkEvent s = .ran →
      ∀ {x : W6100 w L (Logged D) (Pulled P) × ChipLog}, Holds A config dirty x → Current x :=
    fun hev _ hx => ⟨config, dirty, hx.mono (hstale fun r hr => by
      rw [hr] at hev
      obtain h | h := hev <;> cases h)⟩
  rw [service, wp_watch_bind, wp_watch_silent silent_bulkInFlight, wp, hbulk]
  cases inFlight with
  | true => exact hidle (.inl (by simp [linkEvent, hbulk])) hx
  | false =>
    change wp (Code.watch listener.driver (isLinkUp >>= _)) _ _ (s, g)
    have hrst : Keeps (fun s' : W6100 w L (Logged D) (Pulled P) =>
        s'.device.value.rst = s.device.value.rst) isLinkUp :=
      W6100.keeps_isLinkUp (fun _ _ h => h) fun _ _ => Keeps.zoom_of_set fun _ _ h => h
    rw [wp_watch_bind]
    refine wp_mono (wp_watch_exec (wp_and (keeps_holds_isLinkUp (s, g) hx)
      (hrst.watch (s, g) rfl))) ?_ ?_
    · rintro up ⟨s₁, g₁⟩ ⟨hup, hx₁, hrst₁⟩
      have hswap : Holds A config dirty ({ s₁ with linkUp := up }, g₁) :=
        Holds.congr (s := s₁) hx₁ rfl rfl rfl rfl
      have hstore : wp ((Code.always (Prog.atom fun s : W6100 w L (Logged D) (Pulled P) =>
            (s.linkUp, { s with linkUp := up }))).watch listener.driver)
          (fun was x => was = s₁.linkUp ∧ x = ({ s₁ with linkUp := up }, g₁))
          (fun (_ : Error) _ => False) (s₁, g₁) := by
        rw [wp_watch_always]
        exact ⟨rfl, congrArg (_, ·) (listener.driver_note_view g₁ rfl)⟩
      rw [wp_watch_bind]
      refine wp_mono hstore ?_ fun _ _ h => h.elim
      rintro _ _ ⟨rfl, rfl⟩
      cases up with
      | true =>
        simp only [Bool.not_true, Bool.false_eq_true, if_false]
        have hev : linkEvent s = .idle ∨ linkEvent s = .ran := by
          simp only [linkEvent, hbulk, hup]
          rcases exec applyConfig { s₁ with linkUp := true } with ⟨_ | _, _⟩ <;> simp
        rw [wp_watch_bind]
        refine wp_mono (triple_current_applyConfig hL _ (hidle hev hswap)) ?_ fun _ _ h => h
        rintro _ x ⟨config', dirty', hx'⟩
        exact wp_mono (keeps_holds_run x hx') (fun _ _ h => ⟨_, _, h⟩) fun _ _ h => ⟨_, _, h⟩
      | false =>
        simp only [Bool.not_false, if_true]
        cases hwas : s₁.linkUp with
        | false => exact hidle (.inl (by simp [linkEvent, hbulk, hup, hwas])) hswap
        | true =>
          have hev : linkEvent s = .lost (exec reset { s₁ with linkUp := false }).1 := by
            simp [linkEvent, hbulk, hup, hwas]
          simp only [if_true]
          rw [wp_watch_bind]
          refine wp_mono (wp_lost_reset hswap ?_) ?_ fun _ _ h => h
          · rw [show ({ s₁ with linkUp := false } : W6100 w L (Logged D) (Pulled P)).device =
              s₁.device from rfl, hrst₁]
            exact hlost _ hev
          · rintro _ ⟨s₂, g₂⟩ hx₂
            rw [wp_watch_store_hidden rfl]
            exact ⟨config, true, ⟨hx₂.fitted.slots, hx₂.fitted.marker⟩,
              hx₂.heard.mono fun _ _ hf => (by cases hf), hx₂.config, rfl⟩
    · rintro e ⟨s₁, g₁⟩ ⟨hup, hx₁, -⟩
      exact hidle (.inl (by simp [linkEvent, hbulk, hup])) hx₁

/-- The transfer that `dma_complete` finds. -/
def recorded (s : W6100 w L D P) : Option BulkOp := if s.bulk.busy then none else s.bulk.value

omit [SpiDmaDevice D] [OutputPin P] in
theorem exec_watch_record {s : W6100 w L (Logged D) (Pulled P)} {g : ChipLog} :
    ∃ r, exec ((Code.outcome (holding bulkCell (Code.always (Prog.load fun s => s.bulk.value))) :
      Code Error (W6100 w L (Logged D) (Pulled P)) _).watch listener.driver) (s, g) =
        (.ok r, s, g) ∧ r.toOption.join = recorded s := by
  have hload : (Code.outcome (holding bulkCell (Code.always (Prog.load fun s => s.bulk.value))) :
      Code Error (W6100 w L (Logged D) (Pulled P)) _).Silent listener.driver :=
    Silent.outcome (Silent.holding (fun _ _ g => listener.driver_note_view g rfl)
      (Silent.always (Prog.Silent.load _)))
  rw [exec_watch_silent hload, exec_outcome]
  cases hb : s.bulk.busy with
  | true =>
    rw [exec_holding_busy bulkCell _ hb]
    exact ⟨_, rfl, by simp [recorded, hb, Except.toOption]⟩
  | false =>
    rw [exec_holding_load _ hb]
    exact ⟨_, rfl, by simp [recorded, hb, Except.toOption, setBusy, bulkCell]⟩

theorem dmaComplete_idle {x : W6100 w L (Logged D) (Pulled P) × ChipLog}
    (h : recorded x.1 = none) : (exec (dmaComplete.watch listener.driver) x).2 = x := by
  obtain ⟨s, g⟩ := x
  obtain ⟨r, hr, hrec⟩ := exec_watch_record (s := s) (g := g)
  rw [dmaComplete, watch_bind, exec_bind_ok hr]
  rcases r with _ | _ | op
  · rfl
  · rfl
  · rw [h] at hrec
    cases hrec

/-- A completion ends in a pass, from where the transfer has been retired. -/
theorem wp_dmaComplete {s : W6100 w L (Logged D) (Pulled P)} {g : ChipLog} {op : BulkOp}
    {Q : W6100 w L (Logged D) (Pulled P) × ChipLog → Prop} (h : recorded s = some op)
    (hpass : wp ((retireBulk op).watch listener.driver)
      (fun _ x => Q (exec (service.watch listener.driver) x).2) (fun _ _ => False) (s, g)) :
    Q (exec (dmaComplete.watch listener.driver) (s, g)).2 := by
  obtain ⟨r, hr, hrec⟩ := exec_watch_record (s := s) (g := g)
  have hop : r = .ok (some op) := by
    rw [h] at hrec
    rcases r with _ | _ | op' <;> cases hrec
    rfl
  subst hop
  refine wp_state (?_ : wp _ (fun _ => Q) (fun _ => Q) (s, g))
  rw [dmaComplete, watch_bind, wp, exec_bind_ok hr]
  change wp (Code.watch listener.driver (retireBulk op >>= _)) _ _ _
  rw [wp_watch_bind]
  refine wp_mono hpass (fun _ x hx => ?_) fun _ _ hx => hx.elim
  rw [wp_watch_bind, wp_watch_outcome, wp]
  rcases hs : exec (service.watch listener.driver) x with ⟨_ | _, x'⟩ <;> rw [hs] at hx <;> exact hx

end Flag

end W6100

end Wiznet
