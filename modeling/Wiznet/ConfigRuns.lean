import Wiznet.ConfigStaging

/-! # Runs that stage an addressing

`set_network_config` makes two stores, and a servicing interrupt may come
between them. Its pass then sees the new addressing under a flag that is not
about it. -/

namespace Wiznet
open Resumption Resumption.Code

variable {w L : Nat} {D P : Type}

namespace W6100

/-- The first store of `set_network_config`. -/
def stageConfig (config : NetworkConfig) : Code Error (W6100 w L D P) Unit :=
  holding configCell
    (Code.always (Prog.zoom (configCell.comp cellValue) (Prog.store fun _ => some config)))

/-- The second one. -/
def flagConfig : Code Error (W6100 w L D P) Unit :=
  Code.always (Prog.store fun s => { s with configDirty := true })

theorem setNetworkConfig_eq (config : NetworkConfig) :
    (setNetworkConfig config : Code Error (W6100 w L D P) Unit) =
      stageConfig config >>= fun _ => flagConfig := rfl

/-- Where the application is in `set_network_config`. -/
inductive Moment where
  /-- No call of it is under way. -/
  | idle
  /-- Between the stores, the first of which has replaced `old`. -/
  | staged (old : Option NetworkConfig)
  /-- Between the stores, after a pass that has come in between. -/
  | preempted
  deriving DecidableEq

/-- A pass comes and goes. -/
def Moment.passed : Moment → Moment
  | .staged _ => .preempted
  | m => m

/-- The calls that a run may put a condition on. -/
inductive Entry where
  | service | dmaComplete | reset
  deriving DecidableEq

/-- What else may happen to the driver: cells are taken and let go of, and the
slots and their rings are worked on. -/
structure Elsewhere (s s' : W6100 w L D P) : Prop where
  device : s'.device.value = s.device.value
  config : s'.config.value = s.config.value
  dirty : s'.configDirty = s.configDirty
  bulk : s'.bulk.value = s.bulk.value
  blocks : ∀ i, (s'.sockets i).backend.value.block = (s.sockets i).backend.value.block

variable [SpiDmaDevice D] [OutputPin P]

/-- Runs of a new driver, with what reached the chip, whose servicing calls and
resets all meet a condition. -/
inductive StagingRun (meets : Entry → Moment → W6100 w L (Logged D) (Pulled P) → Prop) :
    Moment → W6100 w L (Logged D) (Pulled P) × ChipLog → Prop
  | new (spi : D) (rst : P) (scratch : DmaBuffers L)
      (mac : { bytes : List UInt8 // bytes.length = 6 }) :
      StagingRun meets .idle (exec (reset.watch listener.driver)
        (blank ⟨spi, []⟩ ⟨rst, 0⟩ scratch mac, ⟨⟨[], []⟩, 0⟩)).2
  | elsewhere {m : Moment} {x : W6100 w L (Logged D) (Pulled P) × ChipLog}
      {s : W6100 w L (Logged D) (Pulled P)} (h : StagingRun meets m x) (hs : Elsewhere x.1 s) :
      StagingRun meets m (s, x.2)
  | stage {x : W6100 w L (Logged D) (Pulled P) × ChipLog} (h : StagingRun meets .idle x)
      (config : NetworkConfig) (hfree : x.1.config.busy = false) :
      StagingRun meets (.staged x.1.config.value) ((exec (stageConfig config) x.1).2, x.2)
  | refused {x : W6100 w L (Logged D) (Pulled P) × ChipLog} (h : StagingRun meets .idle x)
      (config : NetworkConfig) (hheld : x.1.config.busy = true) :
      StagingRun meets .idle ((exec (setNetworkConfig config) x.1).2, x.2)
  | flag {m : Moment} {x : W6100 w L (Logged D) (Pulled P) × ChipLog} (h : StagingRun meets m x)
      (hm : m ≠ .idle) : StagingRun meets .idle ((exec flagConfig x.1).2, x.2)
  | service {m : Moment} {x : W6100 w L (Logged D) (Pulled P) × ChipLog}
      (h : StagingRun meets m x) (hmeets : meets .service m x.1) :
      StagingRun meets m.passed (exec (service.watch listener.driver) x).2
  | dmaComplete {m : Moment} {x : W6100 w L (Logged D) (Pulled P) × ChipLog}
      (h : StagingRun meets m x) (hmeets : meets .dmaComplete m x.1) :
      StagingRun meets (if (recorded x.1).isSome then m.passed else m)
        (exec (dmaComplete.watch listener.driver) x).2
  | reset {x : W6100 w L (Logged D) (Pulled P) × ChipLog} (h : StagingRun meets .idle x)
      (hmeets : meets .reset .idle x.1) :
      StagingRun meets .idle (exec (reset.watch listener.driver) x).2

/-- A pass that cannot leave the registers stale without an alarm. -/
inductive PassSafe (m : Moment) (s : W6100 w L (Logged D) (Pulled P)) : Prop
  /-- It finds the link gone and completes its reset. -/
  | granted {r : Except Error Unit} (hlost : linkEvent s = .lost r) (hg : Granted s)
  /-- The flag is up. -/
  | flagged (h : s.configDirty = true)
  /-- There is nothing to keep. -/
  | unstaged (h : s.config.value = none)
  /-- It does not pull the reset line, and no new addressing waits for its flag. -/
  | spared (hlow : ∀ r, linkEvent s = .lost r → (OutputPin.setLow s.device.value.rst).1 = false)
      (hold : ∀ old, m = .staged old → s.config.value = old)

/-- No reset clears registers that are in use unless the flag is up for them, and
no pass sees a new addressing before its flag. -/
def Unsurprised : Entry → Moment → W6100 w L (Logged D) (Pulled P) → Prop
  | .service, m, s => PassSafe m s
  | .dmaComplete, m, s => ∀ op, recorded s = some op → PassSafe m (exec (retireBulk op) s).2
  | .reset, _, s => s.device.busy = true ∨ (OutputPin.setLow s.device.value.rst).1 = false ∨
      s.configDirty = true ∨ s.config.value = none

/-! ## The invariant -/

section Invariant

variable {x : W6100 w L (Logged D) (Pulled P) × ChipLog} {m : Moment}

/-- Between the stores the registers are up to date with what was staged before. -/
def Staging : Moment → W6100 w L (Logged D) (Pulled P) × ChipLog → Prop
  | .staged old, x => ∃ config dirty, Holds (UpToDate old dirty) config dirty x
  | _, x => Current x

omit [SpiDmaDevice D] [OutputPin P] in
theorem Staging.holds (h : Staging m x) :
    ∃ A config dirty, Holds A config dirty x ∧
      ((∀ old, m = .staged old → config = old) → ∀ a, A a → UpToDate config dirty a) ∧
      (dirty = true → ∀ a, A a → UpToDate config dirty a) := by
  cases m with
  | staged old =>
    obtain ⟨config, dirty, hx⟩ := h
    refine ⟨_, config, dirty, hx, fun hold a ha => ?_, fun hd a _ hf => ?_⟩
    · rw [hold old rfl]
      exact ha
    · rw [hd] at hf
      cases hf
  | idle | preempted =>
    obtain ⟨config, dirty, hx⟩ := h
    exact ⟨_, config, dirty, hx, fun _ _ ha => ha, fun _ _ ha => ha⟩

omit [SpiDmaDevice D] [OutputPin P] in
theorem Current.staging (h : Current x) (hm : ∀ old, m ≠ .staged old) : Staging m x := by
  cases m with
  | staged old => exact absurd rfl (hm old)
  | idle | preempted => exact h

theorem Moment.passed_ne (m : Moment) (old : Option NetworkConfig) : m.passed ≠ .staged old := by
  cases m <;> simp [passed]

/-- A pass that cannot surprise leaves the registers current. -/
theorem Staging.pass (hL : HEADER + 4 ≤ L) (h : Staging m x) (hsafe : PassSafe m x.1) :
    Current (exec (W6100.service.watch listener.driver) x).2 := by
  obtain ⟨A, config, dirty, hx, hold, hup⟩ := h.holds
  cases hsafe with
  | granted hlost hg =>
    exact service_current hL hx (fun hn => absurd hlost (hn _)) fun r hr =>
      .inl (granted_reset hr hg)
  | flagged hd =>
    have htrue : dirty = true := hx.dirty.symm.trans hd
    exact service_current hL hx (fun _ => hup htrue) fun _ _ => .inr (.inl htrue)
  | unstaged hc =>
    have hnone : config = none := hx.config.symm.trans hc
    refine service_current hL hx (fun _ a _ _ c hc' => ?_) fun _ _ => .inr (.inr (.inl hnone))
    rw [hnone] at hc'
    cases hc'
  | spared hlow hsame =>
    have hcur := hold fun old hm => hx.config.symm.trans (hsame old hm)
    exact service_current hL hx (fun _ => hcur) fun r hr =>
      .inr (.inr (.inr ⟨hlow r hr, hcur⟩))

omit [SpiDmaDevice D] [OutputPin P] in
theorem Staging.wp {α : Type}
    {c : Code Error (W6100 w L (Logged D) (Pulled P) × ChipLog) α}
    {E : Error → W6100 w L (Logged D) (Pulled P) × ChipLog → Prop}
    (hc : ∀ {A : AddressRegisters → Prop} {config : Option NetworkConfig} {dirty : Bool},
      Triple (Holds A config dirty) c (fun _ => Holds A config dirty) E) (h : Staging m x) :
    Code.wp c (fun _ => Staging m) E x := by
  cases m with
  | staged old =>
    obtain ⟨config, dirty, hx⟩ := h
    exact wp_mono (hc x hx) (fun _ _ h => ⟨config, dirty, h⟩) fun _ _ h => h
  | idle | preempted =>
    obtain ⟨config, dirty, hx⟩ := h
    exact wp_mono (hc x hx) (fun _ _ h => ⟨config, dirty, h⟩) fun _ _ h => h

omit [SpiDmaDevice D] [OutputPin P] in
theorem Elsewhere.staging {s : W6100 w L (Logged D) (Pulled P)} (hs : Elsewhere x.1 s)
    (h : Staging m x) : Staging m (s, x.2) := by
  have hmove : ∀ {A : AddressRegisters → Prop} {config : Option NetworkConfig} {dirty : Bool},
      Holds A config dirty x → Holds A config dirty (s, x.2) := by
    intro A config dirty hx
    have hbus : s.view.bus = x.1.view.bus := congrArg Device.transport hs.device
    refine ⟨⟨fun i => ?_, ?_⟩, ?_, hs.config.trans hx.config, hs.dirty.trans hx.dirty⟩
    · exact (hs.blocks i).trans (hx.fitted.slots i)
    · rw [hs.bulk]
      exact hx.fitted.marker
    · rw [hbus]
      exact hx.heard
  cases m with
  | staged old =>
    obtain ⟨config, dirty, hx⟩ := h
    exact ⟨config, dirty, hmove hx⟩
  | idle | preempted =>
    obtain ⟨config, dirty, hx⟩ := h
    exact ⟨config, dirty, hmove hx⟩

omit [SpiDmaDevice D] [OutputPin P] in
/-- The first store leaves the registers as they were, under the new addressing. -/
theorem Current.stage {config : NetworkConfig} (h : Current x)
    (hfree : x.1.config.busy = false) :
    Staging (.staged x.1.config.value) ((exec (stageConfig config) x.1).2, x.2) := by
  obtain ⟨old, dirty, hx⟩ := h
  have hstore : exec (stageConfig config) x.1 =
      (.ok (), { x.1 with config := ⟨some config, false⟩ }) := by
    rw [stageConfig, exec_holding configCell _ hfree, exec_always, Prog.run_zoom]
    rfl
  rw [hstore, hx.config]
  exact ⟨some config, dirty, ⟨hx.fitted.slots, hx.fitted.marker⟩, hx.heard, rfl, hx.dirty⟩

theorem Current.reset (h : Current x)
    (hsafe : Unsurprised .reset .idle x.1) :
    Current (exec (W6100.reset.watch listener.driver) x).2 := by
  obtain ⟨config, dirty, hx⟩ := h
  have hany : dirty = true ∨ config = none →
      Current (exec (W6100.reset.watch listener.driver) x).2 := fun hor =>
    ⟨config, dirty, (wp_state (triple_holds_reset x hx)).mono fun _ _ hf c hc => by
      obtain rfl | rfl := hor
      · cases hf
      · cases hc⟩
  obtain hbusy | hlow | hd | hc := hsafe
  · exact ⟨config, dirty, wp_state (holds_reset_spared hx (.inl hbusy))⟩
  · exact ⟨config, dirty, wp_state (holds_reset_spared hx (.inr hlow))⟩
  · exact hany (.inl (hx.dirty.symm.trans hd))
  · exact hany (.inr (hx.config.symm.trans hc))

/-- What every step of a run preserves. -/
theorem StagingRun.staging (hL : HEADER + 4 ≤ L) (h : StagingRun Unsurprised m x) :
    Staging m x := by
  induction h with
  | new spi rst scratch mac =>
    have hblank : Holds (UpToDate none false) none false
        ((blank ⟨spi, []⟩ ⟨rst, 0⟩ scratch mac : W6100 w L (Logged D) (Pulled P)),
          ⟨⟨[], []⟩, 0⟩) :=
      ⟨⟨fun _ => rfl, fun _ h => nomatch h⟩, ⟨⟨rfl, nofun⟩, Nat.le_refl _, fun _ _ hc => nomatch hc⟩,
        rfl, rfl⟩
    exact Current.reset ⟨none, false, hblank⟩ (.inr (.inr (.inr rfl)))
  | elsewhere _ hs ih => exact hs.staging ih
  | stage _ config hfree ih => exact Current.stage ih hfree
  | @refused x _ config hheld ih =>
    have hsame : exec (setNetworkConfig config) x.1 = (.error .wouldBlock, x.1) := by
      rw [setNetworkConfig, exec_bind_error (exec_holding_busy configCell _ hheld)]
    rw [hsame]
    exact ih
  | flag _ hm ih =>
    obtain ⟨A, config, dirty, hx, -⟩ := ih.holds
    exact ⟨config, true, ⟨hx.fitted.slots, hx.fitted.marker⟩,
      hx.heard.mono fun _ _ hf => (nomatch hf), hx.config, rfl⟩
  | @service m x _ hsafe ih => exact (ih.pass hL hsafe).staging m.passed_ne
  | @dmaComplete m x _ hsafe ih =>
    cases hrec : recorded x.1 with
    | none =>
      rw [dmaComplete_idle hrec]
      exact ih
    | some op =>
      have hcur : Current (exec (W6100.dmaComplete.watch listener.driver) x).2 := by
        obtain ⟨s, g⟩ := x
        have hblock : op.block = socketBlock op.idx := by
          obtain ⟨A, config, dirty, hx, -⟩ := ih.holds
          refine hx.fitted.marker op ?_
          cases hb : s.bulk.busy with
          | true => simp [recorded, hb] at hrec
          | false => simpa [recorded, hb] using hrec
        refine wp_dmaComplete hrec (wp_mono (wp_watch_exec
          (ih.wp (triple_holds_retireBulk hblock))) ?_ fun _ _ h => h.2)
        rintro _ x ⟨hexec, hx⟩
        refine hx.pass hL ?_
        have hpass := hsafe op hrec
        rw [hexec] at hpass
        exact hpass
      exact hcur.staging m.passed_ne
  | reset _ hsafe ih => exact Current.reset ih hsafe

/-- In every run in which no reset clears registers that are in use without the
flag, and no pass sees a new addressing before its flag, the registers hold the
staged addressing whenever a call has returned and the flag is down. -/
theorem addressing_current (hL : HEADER + 4 ≤ L) (h : StagingRun Unsurprised m x)
    (hm : ∀ old, m ≠ .staged old) {c : NetworkConfig} (hc : x.1.config.value = some c)
    (hd : x.1.configDirty = false) : x.2.registers = c.registers := by
  have hs := h.staging hL
  cases m with
  | staged old => exact absurd rfl (hm old)
  | idle | preempted => exact Current.registers hs hc hd

end Invariant

/-! ## A reset on request -/

/-- A new driver on a bus that answers its reset, finds the link up, takes an
addressing, and answers another reset. -/
def answered : List (Option (List UInt8)) :=
  [some [0x61, 0x00], some [0x46, 0x61]] ++ List.replicate 28 (some []) ++
    some [0x01] :: List.replicate 6 (some []) ++
    [some [0x61, 0x00], some [0x46, 0x61]] ++ List.replicate 28 (some [])

/-- 10.0.0.2 behind 10.0.0.1, in a network of 256 addresses. -/
def homeConfig : NetworkConfig := ⟨0x0A000002, 0x0A000001, 0xFFFFFF00⟩

def poweredUp : W6100 64 16 (Logged Scripted) (Pulled Unit) × ChipLog :=
  (exec (reset.watch listener.driver)
    (blank ⟨⟨answered⟩, []⟩ ⟨(), 0⟩ (zeroScratch 16) ⟨[0, 0, 0, 0, 0, 0], zeroMac_length⟩,
      ⟨⟨[], []⟩, 0⟩)).2

def stagedHome : W6100 64 16 (Logged Scripted) (Pulled Unit) × ChipLog :=
  ((exec (stageConfig homeConfig) poweredUp.1).2, poweredUp.2)

def flaggedHome : W6100 64 16 (Logged Scripted) (Pulled Unit) × ChipLog :=
  ((exec flagConfig stagedHome.1).2, stagedHome.2)

/-- The addressing has been staged and flagged, and is written. -/
def addressed : W6100 64 16 (Logged Scripted) (Pulled Unit) × ChipLog :=
  (exec (service.watch listener.driver) flaggedHome).2

omit [SpiDmaDevice D] [OutputPin P] in
theorem flagConfig_dirty (s : W6100 w L D P) : (exec flagConfig s).2.configDirty = true := rfl

theorem addressed_run {meets : Entry → Moment → W6100 64 16 (Logged Scripted) (Pulled Unit) → Prop}
    (h : ∀ s, s.configDirty = true → meets .service .idle s) :
    StagingRun meets .idle addressed := by
  have hnew : StagingRun meets .idle poweredUp := .new _ _ _ _
  have hstage : StagingRun meets (.staged poweredUp.1.config.value) stagedHome :=
    hnew.stage homeConfig (by decide +kernel)
  have hflag : StagingRun meets .idle flaggedHome := hstage.flag (by nofun)
  exact hflag.service (h _ (flagConfig_dirty _))

theorem addressing_current_addressed : addressed.2.registers = homeConfig.registers :=
  addressing_current (by decide) (addressed_run fun _ h => .flagged h) (by nofun)
    (by decide +kernel) (by decide +kernel)

/-- A reset that the application asks for clears the registers, and nothing says
so. -/
theorem reset_unannounced :
    StagingRun (fun _ _ _ => True) .idle (exec (reset.watch listener.driver) addressed).2 ∧
    (exec (reset.watch listener.driver) addressed).1 = .ok () ∧
    (exec (reset.watch listener.driver) addressed).2.1.config.value = some homeConfig ∧
    (exec (reset.watch listener.driver) addressed).2.1.configDirty = false ∧
    (exec (reset.watch listener.driver) addressed).2.2.registers ≠ homeConfig.registers :=
  ⟨(addressed_run fun _ _ => trivial).reset trivial, by decide +kernel, by decide +kernel,
    by decide +kernel, by decide +kernel⟩

end W6100

end Wiznet
