import Wiznet.Lasting
import Wiznet.UdpRuns

/-! # A completion in the middle of a call

`dma_complete` gives up where the cell of the marker is held, and clears the marker
without finishing anything where the device is. No other completion comes for that
transfer. -/

namespace Wiznet
open Resumption Resumption.Code

variable {w L : Nat} {D P α β : Type}

namespace W6100

variable {s s' : W6100 w L D P} {k : Nat}

/-! ## Calls on their way -/

/-- Of a program from `s`: where it has been stopped on its way with a transfer in
flight, it has not begun, or it holds the marker, or it holds the device and will not
look at what is recorded. -/
structure Guarded (p : Prog (W6100 w L D P) α) (s : W6100 w L D P) : Prop where
  retains : Prog.Follows Retains p s
  held : ∀ k act next, (Prog.stop k p s).1 = .step act next → InFlight (Prog.stop k p s).2 →
    k = 0 ∨ (Prog.stop k p s).2.bulk.busy = true ∨
      (Prog.stop k p s).2.device.busy = true ∧ (Prog.stop k p s).1.SeesOnly unmarked

section Guarded

variable {p : Prog (W6100 w L D P) α} {q : α → Prog (W6100 w L D P) β}

/-- A transfer that is in flight when the program is stopped stays there. -/
theorem inFlight_along (h : Prog.Follows Retains p s) (hk : InFlight (Prog.stop k p s).2) :
    Prog.Along InFlight (Prog.stop k p s).1 (Prog.stop k p s).2 :=
  ((h.stop k).mono fun _ _ h => h.lasts).along hk

theorem inFlight_final (h : Prog.Follows Retains p s) (hk : InFlight (Prog.stop k p s).2) :
    InFlight (p.run s).2 := by
  rw [← Prog.stop_run k p s]
  exact (inFlight_along h hk).final

theorem guarded_ret (a : α) (s : W6100 w L D P) : Guarded (.ret a) s := by
  refine ⟨trivial, fun k act next hk => ?_⟩
  rw [Prog.stop_ret] at hk
  cases hk

/-- What comes before the first transfer. -/
theorem Guarded.bind (hp : Prog.Follows Retains p s) (hend : ¬ InFlight (p.run s).2)
    (hq : Guarded (q (p.run s).1) (p.run s).2) : Guarded (p.bind q) s := by
  refine ⟨Prog.follows_bind.mpr ⟨hp, hq.retains⟩, fun k act next hk hflying => ?_⟩
  rcases Prog.stop_bind k p q s with ⟨_, _, -, heq⟩ | ⟨m, heq⟩
  · rw [heq] at hflying
    exact absurd (inFlight_final hp hflying) hend
  · rw [heq] at hk hflying ⊢
    rcases hq.held m act next hk hflying with rfl | hheld
    · exact absurd hflying hend
    · exact .inr hheld

theorem Guarded.calm (hp : Prog.Follows Retains p s) (hend : ¬ InFlight (p.run s).2) :
    Guarded p s := by
  have h := Guarded.bind hp hend (guarded_ret (p.run s).1 (p.run s).2)
  rwa [Prog.bind_ret] at h

theorem guarded_device {body : Code Error (W6100 w L D P) α} (hb : Tame body)
    (hfree : s.device.busy = false) : Guarded (ExceptT.run (holding deviceCell body)) s := by
  refine ⟨follows_device hb s, fun k act next hk _ => ?_⟩
  cases k with
  | zero => exact .inl rfl
  | succ k =>
    have hheld := held_of_unfinished deviceCell
      ((hb.follows _).mono fun _ _ h => h.device) hfree hk
    exact .inr (.inr ⟨hheld, (seesOnly_device hb.seesOnly).rest _ _⟩)

theorem held_bulkInFlight (hfree : s.bulk.busy = false) {act next}
    (hk : (Prog.stop k (ExceptT.run bulkInFlight) s).1 = .step act next) :
    k = 0 ∨ (Prog.stop k (ExceptT.run bulkInFlight) s).2.bulk.busy = true := by
  cases k with
  | zero => exact .inl rfl
  | succ k =>
    right
    have hload : Prog.Follows (fun s s' : W6100 w L D P =>
        (bulkCell.get s').busy = (bulkCell.get s).busy) (ExceptT.run (Code.always (Prog.load
          fun s : W6100 w L D P => s.bulk.value.isSome) : Code Error _ Bool))
            (setBusy bulkCell true s) := ⟨rfl, trivial⟩
    rw [bulkInFlight, run_outcome_bind] at hk ⊢
    rcases Prog.stop_bind (k + 1) (ExceptT.run (holding bulkCell (Code.always (Prog.load
      fun s : W6100 w L D P => s.bulk.value.isSome)))) _ s with ⟨_, _, hstep, heq⟩ | ⟨m, heq⟩
    · rw [heq]
      exact held_of_unfinished bulkCell hload hfree hstep
    · rw [heq] at hk
      split at hk <;> cases (congrArg Prod.fst (Prog.stop_ret m _ _)).symm.trans hk

end Guarded

/-! ## A pass -/

theorem Ready.not_inFlight {marker : Option BulkOp} (h : Ready none marker s) : ¬ InFlight s := by
  obtain ⟨dev, scratch, hidle⟩ := h.inside.bus
  rw [InFlight, hidle]
  exact Bool.false_ne_true

theorem Settled.ready (hs : Settled s) : ∃ held marker, Ready held marker s := by
  obtain ⟨hd, held, marker, -, hin⟩ := hs
  exact ⟨held, marker, hd, hin⟩

theorem Settled.inFlight_iff (hs : Settled s) : InFlight s ↔ s.bulk.value ≠ none := by
  obtain ⟨-, held, marker, ha, hin⟩ := hs
  rw [hin.bulk]
  cases held with
  | none =>
    obtain ⟨dev, scratch, hidle⟩ := hin.bus
    cases marker with
    | none => simp [InFlight, hidle, DmaState.isInFlight]
    | some op => exact ha.elim
  | some txn =>
    have hbus : s.device.value.transport = .inFlight txn := hin.bus
    cases marker with
    | none => exact ha.elim
    | some op => simp [InFlight, hbus, DmaState.isInFlight]

variable [SpiDmaDevice D] [OutputPin P]

/-- A pass that finds something recorded only looks at the marker. -/
theorem guarded_service_recorded (hfree : s.bulk.busy = false) (hbulk : s.bulk.value.isSome = true) :
    Guarded (ExceptT.run service) s := by
  have hasked : (ExceptT.run bulkInFlight).run s = (.ok true, s) :=
    hbulk ▸ exec_bulkInFlight hfree
  rw [service, run_bind_eq]
  refine ⟨Prog.follows_bind.mpr ⟨follows_bulkInFlight s, ?_⟩, fun k act next hk _ => ?_⟩
  · rw [hasked]
    trivial
  · rcases Prog.stop_bind k (ExceptT.run bulkInFlight) _ s with ⟨_, _, hstep, heq⟩ | ⟨m, heq⟩
    · rw [heq]
      exact (held_bulkInFlight hfree hstep).imp_right .inl
    · rw [heq, hasked] at hk
      cases (congrArg Prod.fst (Prog.stop_ret m _ _)).symm.trans hk

/-- A pass that finds nothing recorded starts its transfer with the device held. -/
theorem guarded_service_ready (hready : Ready none none s) : Guarded (ExceptT.run service) s := by
  have hbulk : s.bulk = ⟨none, false⟩ := hready.inside.bulk
  have hasked : (ExceptT.run bulkInFlight).run s = (.ok false, s) := by
    have h := exec_bulkInFlight (s := s) (by rw [hbulk])
    rwa [hbulk] at h
  have hlink : Ready none none ((ExceptT.run isLinkUp).run s).2 := keeps_ready_isLinkUp.exec hready
  rw [service, run_bind_eq]
  refine Guarded.bind (follows_bulkInFlight s) (by rw [hasked]; exact hready.not_inFlight) ?_
  rw [hasked]
  simp only [Bool.false_eq_true, if_false]
  rw [run_bind_eq]
  refine Guarded.bind (follows_isLinkUp s) hlink.not_inFlight ?_
  rcases hr : (ExceptT.run isLinkUp).run s with ⟨e | up, s₁⟩
  · exact guarded_ret _ _
  rw [hr] at hlink
  dsimp only
  rw [run_always_bind]
  refine Guarded.bind ⟨.of_eq rfl rfl, trivial⟩ hlink.not_inFlight ?_
  rw [Prog.run_atom]
  dsimp only
  replace hlink := hlink.flags up s₁.configDirty
  generalize s₁.linkUp = wasUp
  generalize ({ s₁ with linkUp := up } : W6100 w L D P) = s₂ at hlink ⊢
  cases up with
  | false =>
    simp only [Bool.not_false, if_true]
    split
    · have hreset : Ready none none ((ExceptT.run reset).run s₂).2 := wp_state (triple_reset _ hlink)
      rw [run_bind_eq]
      refine Guarded.bind (follows_reset hlink.not_inFlight) hreset.not_inFlight ?_
      split
      · exact Guarded.calm ⟨.of_eq rfl rfl, trivial⟩ (hreset.flags _ true).not_inFlight
      · exact guarded_ret _ _
    · exact guarded_ret _ _
  | true =>
    simp only [Bool.not_true, Bool.false_eq_true, if_false]
    have hconfig : Ready none none ((ExceptT.run applyConfig).run s₂).2 :=
      keeps_ready_applyConfig.exec hlink
    rw [run_bind_eq]
    refine Guarded.bind (follows_applyConfig _) hconfig.not_inFlight ?_
    split
    · exact guarded_device (tame_runSockets _) hconfig.device
    · exact guarded_ret _ _

theorem guarded_service (hs : Settled s) : Guarded (ExceptT.run service) s := by
  obtain ⟨hd, held, marker, ha, hin⟩ := hs
  cases marker with
  | some op => exact guarded_service_recorded (by rw [hin.bulk]) (by rw [hin.bulk]; rfl)
  | none =>
    cases held with
    | none => exact guarded_service_ready ⟨hd, hin⟩
    | some txn => exact ha.elim

/-! ## A completion that finds a cell held -/

/-- A completion gets as far as the bus. -/
structure Finishes (s : W6100 w L D P) : Prop where
  marker : s.bulk.busy = false
  recorded : s.bulk.value ≠ none
  device : s.device.busy = false

/-- Where the marker is held, or nothing is recorded, a completion does nothing. -/
theorem dmaComplete_nothing (h : s.bulk.busy = true ∨ s.bulk.value = none) :
    s.apply .dmaComplete = s := by
  rw [apply]
  cases hb : s.bulk.busy with
  | true =>
    rw [dmaComplete, exec_bind, exec_outcome, exec_holding_busy bulkCell _ hb]
    rfl
  | false =>
    rw [hb] at h
    rw [exec_dmaComplete hb, h.resolve_left Bool.false_ne_true]

omit [OutputPin P] in
/-- The end of a completion that has not got hold of the device. -/
theorem exec_retireBulk_held (op : BulkOp) (hb : s.bulk.busy = false)
    (hd : s.device.busy = true) :
    exec (retireBulk op) s = (.ok (), { s with bulk := ⟨none, false⟩ }) := by
  rw [retireBulk, exec_bind, exec_outcome, exec_holding_busy deviceCell _ hd]
  exact exec_setMarker none hb

/-- A pass that finds the device held does nothing. -/
theorem service_held (hd : s.device.busy = true) (hbulk : s.bulk = ⟨none, false⟩) :
    exec service s = (.error .wouldBlock, s) ∧ Prog.Follows Retains (ExceptT.run service) s := by
  have hasked : exec bulkInFlight s = (.ok false, s) := by
    have h := exec_bulkInFlight (s := s) (by rw [hbulk])
    rwa [hbulk] at h
  have hlink : exec isLinkUp s = (.error .wouldBlock, s) := exec_holding_busy deviceCell _ hd
  have hasked' : (ExceptT.run bulkInFlight).run s = (.ok false, s) := hasked
  have hlink' : (ExceptT.run isLinkUp).run s = (.error .wouldBlock, s) := hlink
  constructor
  · rw [service, exec_bind_ok hasked]
    exact exec_bind_error hlink
  · rw [service, run_bind_eq]
    refine Prog.follows_bind.mpr ⟨follows_bulkInFlight s, ?_⟩
    rw [hasked']
    simp only [Bool.false_eq_true, if_false]
    rw [run_bind_eq]
    refine Prog.follows_bind.mpr ⟨follows_isLinkUp s, ?_⟩
    rw [hlink']
    trivial

/-- Where the device is held a completion clears the marker, if anything. -/
theorem unmarked_dmaComplete (hd : s.device.busy = true) :
    unmarked (s.apply .dmaComplete) = unmarked s := by
  by_cases hnothing : s.bulk.busy = true ∨ s.bulk.value = none
  · rw [dmaComplete_nothing hnothing]
  rw [not_or, Bool.not_eq_true] at hnothing
  obtain ⟨hb, hrecorded⟩ := hnothing
  obtain ⟨op, hop⟩ := Option.ne_none_iff_exists'.mp hrecorded
  have hheld : ({ s with bulk := ⟨none, false⟩ } : W6100 w L D P).device.busy = true := hd
  rw [apply, exec_dmaComplete hb, hop]
  dsimp only
  rw [exec_bind_ok (exec_retireBulk_held op hb hd), exec_bind, exec_outcome,
    (service_held hheld rfl).1]
  exact congrArg (fun busy => ({ s with bulk := ⟨none, busy⟩ } : W6100 w L D P)) hb.symm

/-- A completion that does not get as far as the bus leaves the transfer in flight. -/
theorem inFlight_ignored (hflying : InFlight s) (h : ¬ Finishes s) :
    Prog.Along InFlight (ExceptT.run dmaComplete) s := by
  suffices hretains : Prog.Follows Retains (ExceptT.run dmaComplete) s from
    (hretains.mono fun _ _ h => h.lasts).along hflying
  rw [dmaComplete, run_outcome_bind]
  refine Prog.follows_bind.mpr ⟨follows_look (fun _ _ => .of_eq rfl rfl) _ s, ?_⟩
  cases hb : s.bulk.busy with
  | true =>
    have hl : (ExceptT.run (holding bulkCell (Code.always (Prog.load
        fun s : W6100 w L D P => s.bulk.value)))).run s = (.error .wouldBlock, s) :=
      exec_holding_busy bulkCell _ hb
    rw [hl]
    trivial
  | false =>
    have hl : (ExceptT.run (holding bulkCell (Code.always (Prog.load
        fun s : W6100 w L D P => s.bulk.value)))).run s = (.ok s.bulk.value, s) :=
      exec_holding_load (fun s : W6100 w L D P => s.bulk.value) hb
    rw [hl]
    cases hop : s.bulk.value with
    | none => trivial
    | some op =>
      have hd : s.device.busy = true := by
        rw [← Bool.not_eq_false]
        exact fun hd => h ⟨hb, by rw [hop]; exact Option.some_ne_none op, hd⟩
      have hheld : ({ s with bulk := ⟨none, false⟩ } : W6100 w L D P).device.busy = true := hd
      have hretire : (ExceptT.run (retireBulk op)).run s =
          (.ok (), { s with bulk := ⟨none, false⟩ }) := exec_retireBulk_held op hb hd
      dsimp only
      rw [run_bind_eq]
      refine Prog.follows_bind.mpr ⟨?_, ?_⟩
      · rw [retireBulk, run_outcome_bind]
        exact Prog.follows_bind.mpr ⟨follows_holding_busy (fun _ => .of_eq rfl rfl) hd,
          (tame_clearMarker.follows _).mono fun _ _ h => h.toRetains⟩
      · rw [hretire]
        dsimp only
        rw [run_outcome_bind]
        exact Prog.follows_bind.mpr ⟨(service_held hheld rfl).2, trivial⟩

omit [SpiDmaDevice D] [OutputPin P] in
theorem takeInFlight_takes (bus : Transceiver L D) :
    (exec (Code.attempt takeInFlight) bus).2.isInFlight = false := by
  rw [exec_attempt]
  cases bus <;> rfl

omit [SpiDmaDevice D] [OutputPin P] in
theorem finishRead_takes {S : Type} (cell : Lens S (Transceiver L D)) (len : Nat)
    (consume : List UInt8 → Prog S Unit) (s : S) :
    ¬ Prog.Along (fun s => (cell.get s).isInFlight = true)
      (ExceptT.run (finishRead cell len consume)) s := by
  intro h
  rw [finishRead, run_bind_eq] at h
  have htaken := (Prog.along_bind.mp h).1.final
  change (cell.get (exec (Code.zoom cell (Code.attempt takeInFlight)) s).2).isInFlight = true
    at htaken
  rw [exec_zoom, cell.get_set, takeInFlight_takes] at htaken
  cases htaken

omit [OutputPin P] in
/-- Whatever a completion finishes, it takes off the bus. -/
theorem finishBulk_takes (op : BulkOp) (io : Io w L D) :
    ¬ Prog.Along (fun io : Io w L D => io.trans.isInFlight = true)
      (ExceptT.run (finishBulk op)) io := by
  intro h
  unfold finishBulk at h
  cases hkind : op.kind with
  | receive =>
    simp only [hkind] at h
    rw [run_bind_eq] at h
    exact finishRead_takes Io.transLens _ _ _ (Prog.along_bind.mp h).1
  | receiveDatagram srcIp srcPort =>
    simp only [hkind] at h
    rw [run_always_bind] at h
    have hread := (Prog.along_bind.mp h).2
    rw [run_bind_eq] at hread
    exact finishRead_takes Io.transLens _ _ _ (Prog.along_bind.mp hread).1
  | transmit =>
    simp only [hkind] at h
    rw [run_bind_eq] at h
    have hwrite := (Prog.along_zoom Io.transLens).mp (Prog.along_bind.mp h).1
    rw [finishWrite, run_bind_eq] at hwrite
    have htaken := (Prog.along_bind.mp hwrite).1.final
    change (exec (Code.attempt takeInFlight) io.trans).2.isInFlight = true at htaken
    rw [takeInFlight_takes] at htaken
    cases htaken

theorem Finishes.finished (h : Finishes s) :
    ¬ Prog.Along InFlight (ExceptT.run dmaComplete) s := by
  intro halong
  obtain ⟨op, hop⟩ := Option.ne_none_iff_exists'.mp h.recorded
  have hl : (ExceptT.run (holding bulkCell (Code.always (Prog.load
      fun s : W6100 w L D P => s.bulk.value)))).run s = (.ok s.bulk.value, s) :=
    exec_holding_load (fun s : W6100 w L D P => s.bulk.value) h.marker
  rw [dmaComplete, run_outcome_bind] at halong
  have hretire := (Prog.along_bind.mp halong).2
  rw [hl, hop] at hretire
  dsimp only at hretire
  rw [run_bind_eq] at hretire
  have hheld := (Prog.along_bind.mp hretire).1
  rw [retireBulk, run_outcome_bind] at hheld
  have hbody := (Prog.along_bind.mp hheld).1
  rw [run_holding] at hbody
  have hfree : (deviceCell.get s).busy = false := h.device
  simp only [Prog.Along, hfree, Bool.false_eq_true, if_false] at hbody
  exact finishBulk_takes op _ ((Prog.along_zoom (ioLens op.idx)).mp (Prog.along_bind.mp hbody.2).1)

/-! ## Any call, at any step -/

/-- The calls that a completion may preempt. -/
inductive EntryPoint where
  | service
  | run
  | isLinkUp
  | setupNetwork (sourceAddr gatewayAddress mask : UInt32)
  | reset

namespace EntryPoint

def Answer : EntryPoint → Type
  | .isLinkUp => Bool
  | _ => Unit

def code : (e : EntryPoint) → Code Error (W6100 w L D P) e.Answer
  | .service => W6100.service
  | .run => W6100.run
  | .isLinkUp => W6100.isLinkUp
  | .setupNetwork sourceAddr gatewayAddress mask =>
    W6100.setupNetwork sourceAddr gatewayAddress mask
  | .reset => W6100.reset

def call : EntryPoint → Call
  | .service => .service
  | .run => .run
  | .isLinkUp => .isLinkUp
  | .setupNetwork sourceAddr gatewayAddress mask => .setupNetwork sourceAddr gatewayAddress mask
  | .reset => .reset

/-- The call after `k` of its steps: what is left of it, and the driver by then. -/
def stopped (e : EntryPoint) (k : Nat) (s : W6100 w L D P) :
    Prog (W6100 w L D P) (Except Error e.Answer) × W6100 w L D P :=
  Prog.stop k (ExceptT.run e.code) s

/-- The driver after a call that a completion has preempted behind its `k`-th step. -/
def preempted (e : EntryPoint) (k : Nat) (s : W6100 w L D P) : W6100 w L D P :=
  ((e.stopped k s).1.run ((e.stopped k s).2.apply .dmaComplete)).2

end EntryPoint

/-- Once both calls have returned: a transfer in flight is recorded, and nothing is
recorded of a transfer that was in flight when the completion came and has been since,
through all of the completion and all that was left of the call. -/
structure CompletionKept (e : EntryPoint) (k : Nat) (s : W6100 w L D P) : Prop where
  recorded : ¬ (InFlight (e.preempted k s) ∧ (e.preempted k s).bulk.value = none)
  finished : ¬ ((e.preempted k s).bulk.value ≠ none ∧
    Prog.Along InFlight (ExceptT.run dmaComplete) (e.stopped k s).2 ∧
      Prog.Along InFlight (e.stopped k s).1 ((e.stopped k s).2.apply .dmaComplete))

section Kept

variable {e : EntryPoint}

theorem EntryPoint.run_code (e : EntryPoint) (s : W6100 w L D P) :
    ((ExceptT.run e.code).run s).2 = s.apply e.call := by
  cases e <;> rfl

theorem EntryPoint.run_stopped (e : EntryPoint) (k : Nat) (s : W6100 w L D P) :
    ((e.stopped k s).1.run (e.stopped k s).2).2 = s.apply e.call := by
  rw [stopped, Prog.stop_run, run_code]

/-- Where the call has come to its end, the driver is as the call leaves it. -/
theorem EntryPoint.stopped_ret {r} (h : (e.stopped k s).1 = .ret r) :
    (e.stopped k s).2 = s.apply e.call := by
  rw [← e.run_stopped k, h, Prog.run_ret]

theorem guarded_code (hs : Settled s) (he : e ≠ .reset) : Guarded (ExceptT.run e.code) s := by
  cases e with
  | service => exact guarded_service hs
  | run => exact guarded_device (tame_runSockets _) hs.device
  | isLinkUp => exact guarded_device ((tame_readU8 _).bind fun _ => Confined.pure _) hs.device
  | setupNetwork sourceAddr gatewayAddress mask =>
    exact guarded_device (tame_setupNetworkHeld _ _ _) hs.device
  | reset => exact absurd rfl he

/-- A completion that comes while nothing is in flight does nothing. -/
theorem CompletionKept.of_quiet (hs : Settled s) (hg : Guarded (ExceptT.run e.code) s)
    (hquiet : ¬ InFlight (e.stopped k s).2) : CompletionKept e k s := by
  have hstart : s.bulk.value = none ∨ InFlight s := by
    by_cases h : InFlight s
    · exact .inr h
    · exact .inl (not_not.mp fun hne => h (hs.inFlight_iff.mpr hne))
  have hnone : (e.stopped k s).2.bulk.value = none :=
    ((hg.retains.mono fun _ _ h => h.recorded).persists hstart k).resolve_right hquiet
  have hend : e.preempted k s = s.apply e.call := by
    rw [EntryPoint.preempted, dmaComplete_nothing (.inr hnone), e.run_stopped]
  refine ⟨?_, fun h => hquiet h.2.1.start⟩
  rw [hend]
  exact fun h => (hs.apply e.call).inFlight_iff.mp h.1 h.2

/-- One that gets as far as the bus comes before the call or after it. -/
theorem CompletionKept.of_finishes (hs : Settled s) (hg : Guarded (ExceptT.run e.code) s)
    (hflying : InFlight (e.stopped k s).2) (h : Finishes (e.stopped k s).2) :
    CompletionKept e k s := by
  have hsettled : Settled (e.preempted k s) := by
    cases hrest : (e.stopped k s).1 with
    | ret r =>
      rw [EntryPoint.preempted, hrest, EntryPoint.stopped_ret hrest]
      exact (hs.apply e.call).apply .dmaComplete
    | step act next =>
      rcases hg.held k act next hrest hflying with rfl | hbusy | ⟨hbusy, -⟩
      · rw [EntryPoint.preempted, EntryPoint.stopped, Prog.stop, e.run_code]
        exact (hs.apply .dmaComplete).apply e.call
      · exact absurd (h.marker.symm.trans hbusy) Bool.false_ne_true
      · exact absurd (h.device.symm.trans hbusy) Bool.false_ne_true
  exact ⟨fun hlost => hsettled.inFlight_iff.mp hlost.1 hlost.2, fun hkept => h.finished hkept.2.1⟩

/-- One that does not is lost. -/
theorem completion_lost (hs : Settled s) (hg : Guarded (ExceptT.run e.code) s)
    (hflying : InFlight (e.stopped k s).2) (h : ¬ Finishes (e.stopped k s).2) :
    ¬ CompletionKept e k s := by
  have hrest : Prog.Along InFlight (e.stopped k s).1 (e.stopped k s).2 :=
    inFlight_along hg.retains hflying
  have halong : Prog.Along InFlight (e.stopped k s).1 ((e.stopped k s).2.apply .dmaComplete) := by
    by_cases hnothing : (e.stopped k s).2.bulk.busy = true ∨ (e.stopped k s).2.bulk.value = none
    · rwa [dmaComplete_nothing hnothing]
    · rw [not_or, Bool.not_eq_true] at hnothing
      obtain ⟨hfree, hrecorded⟩ := hnothing
      have hbusy : (e.stopped k s).2.device.busy = true := by
        rw [← Bool.not_eq_false]
        exact fun hd => h ⟨hfree, hrecorded, hd⟩
      have hsees : (e.stopped k s).1.SeesOnly unmarked := by
        cases hx : (e.stopped k s).1 with
        | ret r => trivial
        | step act next =>
          rcases hg.held k act next hx hflying with rfl | hmarker | ⟨-, hsees⟩
          · exact absurd (hs.device.symm.trans hbusy) Bool.false_ne_true
          · exact absurd (hfree.symm.trans hmarker) Bool.false_ne_true
          · exact hx ▸ hsees
      exact hsees.along (fun _ _ => inFlight_of_unmarked) (unmarked_dmaComplete hbusy).symm hrest
  intro hkept
  have hend : InFlight (e.preempted k s) := halong.final
  exact hkept.finished
    ⟨fun hnone => hkept.recorded ⟨hend, hnone⟩, inFlight_ignored hflying h, halong⟩

theorem not_inFlight_reset (hs : Settled s) : ¬ InFlight (s.apply .reset) := by
  obtain ⟨held, marker, hready⟩ := hs.ready
  have hafter : Ready none none (exec reset s).2 := wp_state (triple_reset s hready)
  exact hafter.not_inFlight

/-- However a completion cuts into a reset, nothing is in flight when the reset is
over. -/
theorem CompletionKept.of_reset (hs : Settled s) : CompletionKept .reset k s := by
  suffices hend : ¬ InFlight (EntryPoint.preempted .reset k s) from
    ⟨fun h => hend h.1, fun h => hend h.2.2.final⟩
  cases hrest : (EntryPoint.stopped .reset k s).1 with
  | ret r =>
    have hover := not_inFlight_reset hs
    have hnone : (s.apply .reset).bulk.value = none :=
      not_not.mp fun hne => hover ((hs.apply .reset).inFlight_iff.mpr hne)
    have hstopped : (EntryPoint.stopped .reset k s).2 = s.apply .reset :=
      EntryPoint.stopped_ret hrest
    rw [EntryPoint.preempted, hrest, hstopped, dmaComplete_nothing (.inr hnone)]
    exact hover
  | step act next =>
    cases k with
    | zero => exact not_inFlight_reset (hs.apply .dmaComplete)
    | succ k =>
      have hheld : (EntryPoint.stopped .reset (k + 1) s).2.device.busy = true :=
        held_of_unfinished deviceCell (follows_resetHeld_device _) hs.device hrest
      have hsees : (EntryPoint.stopped .reset (k + 1) s).1.SeesOnly unmarked :=
        (seesOnly_device seesOnly_resetHeld).rest _ _
      have hafter := hsees.run (unmarked_dmaComplete hheld)
      rw [EntryPoint.run_stopped] at hafter
      exact fun h => not_inFlight_reset hs (inFlight_of_unmarked hafter h)

/-- A completion is kept, whichever call it preempts and wherever, exactly if the call
is a reset, or no transfer is in flight when it comes, or neither the marker nor the
device is held and the transfer is recorded. -/
theorem completion_kept_iff (hs : Settled s) (e : EntryPoint) (k : Nat) :
    CompletionKept e k s ↔ e = .reset ∨
      (InFlight (e.stopped k s).2 → Finishes (e.stopped k s).2) := by
  by_cases he : e = .reset
  · subst he
    exact iff_of_true (.of_reset hs) (.inl rfl)
  have hg : Guarded (ExceptT.run e.code) s := guarded_code hs he
  refine ⟨fun hkept => .inr fun hflying => ?_, fun h => ?_⟩
  · by_contra hnot
    exact completion_lost hs hg hflying hnot hkept
  · by_cases hflying : InFlight (e.stopped k s).2
    · exact .of_finishes hs hg hflying ((h.resolve_left he) hflying)
    · exact .of_quiet hs hg hflying

end Kept

/-! ## Concrete runs -/

/-- A UDP socket is bound, and a datagram waits on the chip. -/
def awaiting : W6100 64 16 (Logged Scripted) Unit := (lent.apply .service).apply .service

theorem awaiting_run : ∃ live, HandleRun live awaiting := by
  have hnew : HandleRun (fun _ => []) (fresh arrival) := .new _ _ _ _
  have hopen := hnew.call (.openUdp 7 (List.replicate 32 0) []) nofun
  exact ⟨_, (hopen.call .service nofun).call .service nofun⟩

/-- A completion that comes before the transfer of a pass is recorded, and one that
comes while the link is looked at: the first transfer is recorded but will not be
finished, and of the second nothing is recorded. -/
theorem completion_not_kept :
    ((∃ live, HandleRun live awaiting) ∧ InFlight (EntryPoint.stopped .service 21 awaiting).2 ∧
      (EntryPoint.stopped .service 21 awaiting).2.bulk.value = none ∧
        ¬ CompletionKept .service 21 awaiting) ∧
      InFlight (EntryPoint.preempted .isLinkUp 1 (awaiting.apply .service)) ∧
        (EntryPoint.preempted .isLinkUp 1 (awaiting.apply .service)).bulk.value = none ∧
          ¬ CompletionKept .isLinkUp 1 (awaiting.apply .service) := by
  obtain ⟨live, hrun⟩ := awaiting_run
  have hflying : InFlight (EntryPoint.stopped .service 21 awaiting).2 := by decide +kernel
  have hnone : (EntryPoint.stopped .service 21 awaiting).2.bulk.value = none := by decide +kernel
  have hlost : InFlight (EntryPoint.preempted .isLinkUp 1 (awaiting.apply .service)) ∧
      (EntryPoint.preempted .isLinkUp 1 (awaiting.apply .service)).bulk.value = none := by
    decide +kernel
  refine ⟨⟨⟨live, hrun⟩, hflying, hnone, ?_⟩, hlost.1, hlost.2, fun h => h.recorded hlost⟩
  exact completion_lost hrun.tenanted.1 (guarded_service hrun.tenanted.1) hflying
    fun h => h.recorded hnone

/-- The completion comes when the transfer is recorded and the pass is over. -/
theorem completion_kept_iff_awaiting :
    (∃ live, HandleRun live awaiting) ∧ InFlight (EntryPoint.stopped .service 26 awaiting).2 ∧
      CompletionKept .service 26 awaiting := by
  obtain ⟨live, hrun⟩ := awaiting_run
  refine ⟨⟨live, hrun⟩, by decide +kernel, ?_⟩
  refine (completion_kept_iff hrun.tenanted.1 .service 26).mpr (.inr fun _ => ?_)
  exact ⟨by decide +kernel, by decide +kernel, by decide +kernel⟩

end W6100

end Wiznet
