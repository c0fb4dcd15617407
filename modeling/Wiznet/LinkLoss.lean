import Wiznet.ResetGranted
import Wiznet.Scripted

/-! # Recovery from link loss

`service` notes that the link went down before it resets the chip, so a reset
that fails is not tried again: the next pass sees a link that was down already.
Recovery is complete before the sockets are driven again exactly as long as
every reset that `service` attempts is granted by the bus, the reset line and
the slots. -/

namespace Wiznet
open Resumption Resumption.Code

variable {w L : Nat} {D P α : Type}

/-- What a pass of `service` did about the link. -/
inductive LinkEvent where
  /-- It returned before it acted on the link. -/
  | idle
  /-- It saw the link go down, and this is what the reset came to. -/
  | lost (reset : Except Error Unit)
  /-- It reached `run`. -/
  | ran
  deriving DecidableEq

namespace W6100

variable [SpiDmaDevice D]

/-! ## What a successful reset has done -/

theorem triple_resetSocket_rearm (f : Fin 8 → SocketBackend) (i : Fin 8) :
    Triple (fun s : W6100 w L D P => ∀ j, (s.sockets j).backend.value = f j) (resetSocket i)
      (fun _ s => ∀ j, (s.sockets j).backend.value = Function.update f i (f i).rearm j)
      fun _ _ => True := by
  intro s hs
  cases hbusy : ((backendCell i).get s).busy with
  | true => rw [resetSocket, wp, exec_holding_busy _ _ hbusy]; trivial
  | false =>
    rw [resetSocket, wp_holding _ _ hbusy, wp_bind, wp_always, Prog.run_load, wp_bind, onBus,
      wp_zoom]
    refine wp_iff.mpr ⟨fun _ cell _ => ?_, fun _ _ _ => trivial⟩
    rw [wp_always]
    intro j
    by_cases hj : j = i
    · subst hj
      simp [setBusy, backendCell, socketLens, Socket.backendLens, cellValue, transLens, hs]
    · simp [setBusy, backendCell, socketLens, Socket.backendLens, transLens, hs, hj]

/-- Every slot on the list is re-armed, or freed if its release was requested. -/
theorem triple_resetSockets_rearm (f : Fin 8 → SocketBackend) (slots : List (Fin 8))
    (hn : slots.Nodup) :
    Triple (fun s : W6100 w L D P => ∀ i, (s.sockets i).backend.value = f i) (resetSockets slots)
      (fun _ s => ∀ i, (s.sockets i).backend.value = if i ∈ slots then (f i).rearm else f i)
      fun _ _ => True := by
  induction slots generalizing f with
  | nil => exact fun s hs i => by simpa using hs i
  | cons i rest ih =>
    obtain ⟨hi, hrest⟩ := List.nodup_cons.mp hn
    refine (triple_resetSocket_rearm f i).bind fun _ => ?_
    refine (ih (Function.update f i (f i).rearm) hrest).consequence (fun _ h => h) ?_
      fun _ _ h => h
    intro _ s h j
    rw [h j]
    by_cases hj : j = i
    · subst hj
      simp [hi]
    · simp [hj]

/-- What a completed reset leaves behind: every slot re-armed or freed, and the
interrupt mask written last. -/
structure Recovered (s s' : W6100 w L D P) : Prop where
  slots : ∀ i, (s'.sockets i).backend.value = (s.sockets i).backend.value.rearm
  mask : ∃ cell : Transceiver L D,
    exec (writeU8 SIMR 0xFF) cell = (.ok (), s'.device.value.transport)

theorem triple_enableInterrupts_mask (f : Fin 8 → SocketBackend) :
    Triple (fun s : W6100 w L D P => ∀ i, (s.sockets i).backend.value = f i) enableInterrupts
      (fun _ s => (∀ i, (s.sockets i).backend.value = f i) ∧ ∃ cell : Transceiver L D,
        exec (writeU8 SIMR 0xFF) cell = (.ok (), s.device.value.transport))
      fun _ _ => True := by
  have hbus : ∀ {α : Type} (c : Code Error (Transceiver L D) α),
      Triple (fun s : W6100 w L D P => ∀ i, (s.sockets i).backend.value = f i) (onBus c)
        (fun _ s => ∀ i, (s.sockets i).backend.value = f i) fun _ _ => True := by
    intro α c s hs
    rw [onBus, wp_zoom]
    exact wp_iff.mpr ⟨fun _ _ _ => hs, fun _ _ _ => trivial⟩
  refine (hbus _).bind fun _ => (hbus _).bind fun _ => (hbus _).bind fun _ => ?_
  intro s hs
  rw [onBus, wp_zoom]
  exact wp_iff.mpr ⟨fun _ cell h => ⟨hs, _, h⟩, fun _ _ _ => trivial⟩

/-! ## The look at the link -/

/-- The frames the driver has clocked. -/
abbrev history (s : W6100 w L (Logged D) P) : List BusEntry := busLog s.device.value.transport

/-- The state in which the link has been found gone. -/
theorem isLinkUp_unspoiled {s s₁ : W6100 w L (Logged D) P} {up : Bool} (hL : HEADER + 2 ≤ L)
    (hslots : ∀ i, (s.sockets i).backend.busy = false) (h : exec isLinkUp s = (.ok up, s₁)) :
    s₁.device.busy = false ∧ s₁.device.value.rst = s.device.value.rst ∧
      Unspoiled (history s) (fun e => Answered e ∧ ¬ Identified e) s₁ := by
  cases hbusy : s.device.busy with
  | true =>
    rw [isLinkUp, exec_holding_busy deviceCell _ hbusy] at h
    cases h
  | false =>
    refine (wp_iff.mp (?_ : wp isLinkUp (fun _ s₁ => s₁.device.busy = false ∧
      s₁.device.value.rst = s.device.value.rst ∧
      Unspoiled (history s) (fun e => Answered e ∧ ¬ Identified e) s₁) (fun _ _ => True) s)).1
      _ _ h
    rw [isLinkUp, wp_holding deviceCell _ hbusy, wp_bind, onBus, wp_zoom, readU8, wp_map]
    refine wp_iff.mpr ⟨fun data cell hread => ?_, fun _ _ _ => trivial⟩
    have hi := held_of_read_ok hread
    obtain ⟨hi', e, ⟨rest, he⟩, ⟨a, ha, -⟩, hl⟩ :=
      (wp_iff.mp (wp_logged_read hi (show HEADER + 1 ≤ L by omega))).1 _ _ hread
    refine ⟨rfl, rfl, ⟨hi', [e], hl, fun e' he' => ?_⟩, hslots⟩
    rw [List.mem_singleton.mp he']
    refine ⟨by simp [Answered, ha], ?_⟩
    rintro ⟨⟨rest', he''⟩, -⟩
    -- the frame reads the PHY status, not the chip id
    have hheads := congrArg (List.take HEADER) (he.symm.trans he'')
    rw [List.take_left' (createHeader_length _ _), List.take_left' (createHeader_length _ _)]
      at hheads
    exact absurd hheads (by decide)

variable [OutputPin P]

theorem triple_resetHeld_recovered (f : Fin 8 → SocketBackend) :
    Triple (fun s : W6100 w L D P => ∀ i, (s.sockets i).backend.value = f i) resetHeld
      (fun _ s => (∀ i, (s.sockets i).backend.value = (f i).rearm) ∧ ∃ cell : Transceiver L D,
        exec (writeU8 SIMR 0xFF) cell = (.ok (), s.device.value.transport))
      fun _ _ => True := by
  have hbus : ∀ {α : Type} (c : Code Error (Transceiver L D) α),
      Keeps (fun s : W6100 w L D P => ∀ i, (s.sockets i).backend.value = f i) (onBus c) :=
    fun c => Keeps.zoom_of_set fun _ _ h => h
  have hpin : ∀ g : P → Bool × P,
      Keeps (fun s : W6100 w L D P => ∀ i, (s.sockets i).backend.value = f i) (onPin g) :=
    fun g => Keeps.zoom_of_set fun _ _ h => h
  have hmarker : Keeps (fun s : W6100 w L D P => ∀ i, (s.sockets i).backend.value = f i)
      (setMarker none) := by
    intro s hs
    cases hb : s.bulk.busy with
    | false => rw [wp, exec_setMarker _ hb]; exact hs
    | true => rw [wp, exec_setMarker_busy _ hb]; exact hs
  have hfirst : ∀ {β γ : Type} {c : Code Error (W6100 w L D P) β}
      {g : β → Code Error (W6100 w L D P) γ} {Q : γ → W6100 w L D P → Prop},
      Keeps (fun s : W6100 w L D P => ∀ i, (s.sockets i).backend.value = f i) c →
      (∀ b, Triple (fun s : W6100 w L D P => ∀ i, (s.sockets i).backend.value = f i) (g b) Q
        fun _ _ => True) →
      Triple (fun s : W6100 w L D P => ∀ i, (s.sockets i).backend.value = f i) (c >>= g) Q
        fun _ _ => True := fun hc hg =>
    Triple.bind (Triple.consequence hc (fun _ h => h) (fun _ _ h => h) fun _ _ _ => trivial) hg
  refine hfirst (Keeps.always fun _ h => by rw [Prog.run_zoom]; exact h) fun _ => ?_
  refine hfirst hmarker fun _ => hfirst (hpin _) fun _ => ?_
  refine hfirst (keeps_resetDelay (hbus _)) fun _ => hfirst (hpin _) fun _ => ?_
  refine hfirst (keeps_awaitChip (hbus _) (hbus _) _) fun _ => hfirst (hbus _) fun version => ?_
  split
  · exact fun _ _ => trivial
  · refine (triple_resetSockets_rearm f _ (List.nodup_finRange 8)).bind fun _ => ?_
    exact (triple_enableInterrupts_mask fun i => (f i).rearm).consequence
      (fun _ h => by simpa using h) (fun _ _ h => h) fun _ _ h => h

theorem reset_recovered {s s' : W6100 w L D P} (h : exec reset s = (.ok (), s')) :
    Recovered s s' := by
  cases hbusy : s.device.busy with
  | true =>
    rw [reset, exec_holding_busy deviceCell _ hbusy] at h
    cases h
  | false =>
    have hw := (wp_holding deviceCell resetHeld (E := fun _ _ => True)
      (Q := fun _ s' => Recovered s s') hbusy).mpr (wp_mono
        (triple_resetHeld_recovered (fun i => (s.sockets i).backend.value)
          (setBusy deviceCell true s) fun _ => rfl)
        (fun _ _ h => ⟨h.1, h.2⟩) fun _ _ h => h)
    exact (wp_iff.mp hw).1 _ _ h

/-! ## What a pass of `service` does -/

def linkEvent (s : W6100 w L D P) : LinkEvent :=
  match exec bulkInFlight s with
  | (.ok false, s) =>
    match exec isLinkUp s with
    | (.ok true, s) =>
      match exec applyConfig { s with linkUp := true } with
      | (.ok (), _) => .ran
      | _ => .idle
    | (.ok false, s) =>
      if s.linkUp then .lost (exec reset { s with linkUp := false }).1 else .idle
    | _ => .idle
  | _ => .idle

/-- The reset that a pass attempts, and how the pass ends when it fails. -/
theorem service_lost {s : W6100 w L D P} {r : Except Error Unit} (h : linkEvent s = .lost r) :
    ∃ s₁, exec isLinkUp s = (.ok false, s₁) ∧ r = (exec reset { s₁ with linkUp := false }).1 ∧
      ∀ e, r = .error e →
        exec service s = (.error e, (exec reset { s₁ with linkUp := false }).2) := by
  unfold linkEvent at h
  split at h
  case h_2 => cases h
  case h_1 s' hbulk =>
    cases exec_bulkInFlight_state hbulk
    split at h
    case h_1 => split at h <;> cases h
    case h_3 => cases h
    case h_2 s₁ hup =>
      split at h
      case isFalse => cases h
      case isTrue hwas =>
        have hr : (exec reset { s₁ with linkUp := false }).1 = r := LinkEvent.lost.inj h
        refine ⟨s₁, hup, hr.symm, fun e he => ?_⟩
        rw [service, exec_bind_ok hbulk]
        change exec (isLinkUp >>= _) s = _
        rw [exec_bind_ok hup, exec_bind, exec_always, Prog.run_atom]
        simp only [hwas, Bool.not_false, if_true]
        rw [exec_bind]
        rw [he] at hr
        rcases hx : exec reset { s₁ with linkUp := false } with ⟨r', s₂⟩
        rw [hx] at hr
        cases hr
        rfl

/-- A pass whose event is `ran` ends as the `run` it reached. -/
theorem service_ran {s : W6100 w L D P} (h : linkEvent s = .ran) :
    ∃ s₁, exec service s = exec run s₁ := by
  unfold linkEvent at h
  split at h
  case h_2 => cases h
  case h_1 s' hbulk =>
    cases exec_bulkInFlight_state hbulk
    split at h
    case h_2 => split at h <;> cases h
    case h_3 => cases h
    case h_1 s₁ hup =>
      split at h
      case h_2 => cases h
      case h_1 s₂ hconf =>
        refine ⟨s₂, ?_⟩
        rw [service, exec_bind_ok hbulk]
        change exec (isLinkUp >>= _) s = _
        rw [exec_bind_ok hup, exec_bind, exec_always, Prog.run_atom]
        simp only [Bool.not_true, Bool.false_eq_true, if_false]
        rw [exec_bind_ok hconf]

/-- A pass in terms of an invariant of everything it does before it acts: it
ends there, in the reset of a lost link, or in `run`. -/
theorem service_cases {J : W6100 w L D P → Prop} (hup : Keeps J isLinkUp)
    (hconf : Keeps J applyConfig)
    (hflags : ∀ s up dirty, J s → J { s with linkUp := up, configDirty := dirty })
    {s : W6100 w L D P} (hs : J s) :
    J (exec service s).2 ∨
    (∃ s₁ dirty, J s₁ ∧ linkEvent s = .lost (exec reset s₁).1 ∧
      (exec service s).2 = { (exec reset s₁).2 with configDirty := dirty }) ∨
    ∃ s₁, J s₁ ∧ linkEvent s = .ran ∧ exec service s = exec run s₁ := by
  rcases hbulk : exec bulkInFlight s with ⟨e | inFlight, s'⟩
  · cases hb : s.bulk.busy with
    | false => rw [exec_bulkInFlight hb] at hbulk; cases hbulk
    | true => rw [bulkInFlight, exec_bind, exec_outcome, exec_holding_busy bulkCell _ hb] at hbulk
              cases hbulk
  cases exec_bulkInFlight_state hbulk
  rw [service, linkEvent, exec_bind_ok hbulk]
  cases inFlight with
  | true => exact .inl hs
  | false =>
    simp only [hbulk, Bool.false_eq_true, if_false]
    have hlink := hup s hs
    rcases hl : exec isLinkUp s with ⟨e | up, s₁⟩
    · rw [wp, hl] at hlink
      rw [exec_bind_error hl]
      exact .inl hlink
    rw [wp, hl] at hlink
    rw [exec_bind_ok hl, exec_bind, exec_always, Prog.run_atom]
    replace hlink : J { s₁ with linkUp := up } := hflags s₁ up s₁.configDirty hlink
    cases up with
    | false =>
      simp only [Bool.not_false, if_true]
      cases hwas : s₁.linkUp with
      | false => exact .inl (by simpa [hwas] using hlink)
      | true =>
        simp only [if_true]
        rw [exec_bind]
        rcases hr : exec reset { s₁ with linkUp := false } with ⟨e | u, s₂⟩
        · exact .inr (.inl ⟨_, s₂.configDirty, hlink, by rw [hr], by rw [hr]⟩)
        · exact .inr (.inl ⟨_, true, hlink, by rw [hr], by rw [hr]; rfl⟩)
    | true =>
      simp only [Bool.not_true, Bool.false_eq_true, if_false]
      have happly := hconf _ hlink
      rcases hc : exec applyConfig { s₁ with linkUp := true } with ⟨e | u, s₂⟩
      · rw [wp, hc] at happly
        rw [exec_bind_error hc]
        exact .inl happly
      · rw [wp, hc] at happly
        exact .inr (.inr ⟨s₂, happly, rfl, by rw [exec_bind_ok hc]⟩)

/-! ## Runs of `service` -/

/-- Recovery is owed from an observed link loss until a reset succeeds. -/
def owedAfter (owed : Bool) : LinkEvent → Bool
  | .lost (.ok _) => false
  | .lost (.error _) => true
  | _ => owed

section Runs

/-- What a pass that finds the link gone needs: the scratch holds a register
access, no slot is held by an application call, the reset line obeys, every frame
of the pass is answered, the chip identifies itself in one of the polls and has
the right version. -/
structure Granted (s : W6100 w L (Logged D) P) : Prop where
  scratch : HEADER + 2 ≤ L
  slots : ∀ i, (s.sockets i).backend.busy = false
  low : (OutputPin.setLow s.device.value.rst).1 = true
  high : (OutputPin.setHigh (OutputPin.setLow s.device.value.rst).2).1 = true
  answered : ¬ Seen (history s) Unanswered (exec service s).2.device.value.transport
  identified : Seen (history s) Identified (exec service s).2.device.value.transport
  version : ¬ Seen (history s) WrongVersion (exec service s).2.device.value.transport

/-- Runs of `service`, with whether recovery is owed. Between two passes anything
may happen that leaves the link flag alone: application calls that take and
release slots, completions, changes on the chip. -/
inductive LinkRun : Bool → W6100 w L (Logged D) P → Prop
  | start (s : W6100 w L (Logged D) P) : LinkRun false s
  | between {owed : Bool} {s s' : W6100 w L (Logged D) P} (h : LinkRun owed s)
      (hlink : s'.linkUp = s.linkUp) : LinkRun owed s'
  | service {owed : Bool} {s : W6100 w L (Logged D) P} (h : LinkRun owed s)
      (hgrant : ∀ r, linkEvent s = .lost r → Granted s) :
      LinkRun (owedAfter owed (linkEvent s)) (exec service s).2

/-- A pass that is granted its reset completes it. -/
theorem granted_reset {s : W6100 w L (Logged D) P} {r : Except Error Unit}
    (h : linkEvent s = .lost r) (hg : Granted s) : r = .ok () := by
  have hL := hg.scratch
  obtain ⟨s₁, hup, hr, hservice⟩ := service_lost h
  cases r with
  | ok u => rfl
  | error e =>
    obtain ⟨hfree, hrst, hs₁⟩ := isLinkUp_unspoiled hL hg.slots hup
    have hheld : Unspoiled (history s) (fun e => Answered e ∧ ¬ Identified e)
        (setBusy deviceCell true { s₁ with linkUp := false }) := ⟨hs₁.clean, hs₁.slots⟩
    have hw := wp_granted_resetHeld hL hheld
      (by change (OutputPin.setLow s₁.device.value.rst).1 = true; rw [hrst]; exact hg.low)
      (by change (OutputPin.setHigh (OutputPin.setLow s₁.device.value.rst).2).1 = true
          rw [hrst]; exact hg.high)
    have hdenied : Denied (history s) (exec service s).2 := by
      rw [hservice e rfl]
      have hreset : wp reset (fun _ _ => True) (fun _ s' => Denied (history s) s')
          { s₁ with linkUp := false } := by
        exact (wp_holding deviceCell resetHeld (s := { s₁ with linkUp := false }) hfree).mpr hw
      exact (wp_iff.mp hreset).2 e _ (by rw [hr])
    rcases hdenied with hd | hd | hd
    · exact absurd hd hg.answered
    · exact absurd hg.identified (hd.not_seen fun _ h => h)
    · exact absurd hd hg.version

/-- No recovery is owed in any state of a run. -/
theorem LinkRun.not_owed {owed : Bool} {s : W6100 w L (Logged D) P}
    (h : LinkRun owed s) : owed = false := by
  induction h with
  | start s => rfl
  | between h hlink ih => exact ih
  | @service owed s h hgrant ih =>
    cases hev : linkEvent s with
    | idle => exact ih
    | ran => exact ih
    | lost r => rw [granted_reset hev (hgrant r hev)]; rfl

/-- Recovery is complete whenever `service` reaches `run`: if every pass that
finds the link gone is granted its reset, then no recovery is owed in any state
of any run, and a completed reset has re-armed or freed every slot and written
the interrupt mask last. -/
theorem recovered_before_run :
    (∀ (owed : Bool) (s : W6100 w L (Logged D) P), LinkRun owed s → linkEvent s = .ran →
      owed = false) ∧
    ∀ s s' : W6100 w L (Logged D) P, exec reset s = (.ok (), s') → Recovered s s' := by
  exact ⟨fun owed s h _ => h.not_owed, fun s s' h => reset_recovered h⟩

end Runs

/-! ## Concrete runs -/

/-- A driver with every slot free on a bus that answers from `script`. -/
def scripted (linkUp : Bool) (script : List (Option (List UInt8))) :
    W6100 64 16 (Logged Scripted) Unit where
  device := .new ⟨.idle ⟨⟨script⟩, []⟩ (zeroScratch 16), ()⟩
  mac := ⟨[0, 0, 0, 0, 0, 0], zeroMac_length⟩
  config := .new none
  configDirty := false
  linkUp := linkUp
  sockets := fun n => makeSocket (socketBlock n)
  bulk := .new none

/-- The link comes up, goes down while the chip id cannot be read, and comes up
again. -/
def forgetful : W6100 64 16 (Logged Scripted) Unit :=
  scripted false [some [0x01], some [0x00], none, some [0x01]]

/-- The third pass reaches `run` although the only reset since the link loss has
failed. -/
theorem recovery_forgotten :
    let s₁ := (exec service forgetful).2
    let s₂ := (exec service s₁).2
    linkEvent forgetful = .ran ∧ linkEvent s₁ = .lost (.error (.other .spiError)) ∧
      linkEvent s₂ = .ran ∧
      owedAfter (owedAfter (owedAfter false (linkEvent forgetful)) (linkEvent s₁)) (linkEvent s₂) =
        true := by decide

/-- The link goes down, the chip answers the whole reset, and the link returns. -/
def recovering : W6100 64 16 (Logged Scripted) Unit :=
  scripted true ([some [0x00], some [0x61, 0x00], some [0x46, 0x61]] ++
    List.replicate 28 (some []) ++ [some [0x01]])

theorem recovering_granted : Granted recovering where
  scratch := by decide
  slots := by decide
  low := rfl
  high := rfl
  answered := by
    change ¬ Seen [] _ _
    rw [seen_nil]
    unfold Unanswered
    decide
  identified := by
    change Seen [] _ _
    rw [seen_nil]
    unfold Identified
    decide
  version := by
    change ¬ Seen [] _ _
    rw [seen_nil]
    unfold WrongVersion
    decide

theorem recovered_before_run_recovering :
    linkEvent recovering = .lost (.ok ()) ∧ linkEvent (exec service recovering).2 = .ran ∧
      owedAfter false (linkEvent recovering) = false :=
  ⟨by decide, by decide, recovered_before_run.1 _ _
    (.service (.start recovering) fun _ _ => recovering_granted) (by decide)⟩

end W6100

end Wiznet
