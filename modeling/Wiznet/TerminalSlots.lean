import Wiznet.ClosedRead
import Wiznet.Quiescence

/-! # Terminal slots

A slot whose machine is terminal, and a slot at the moment it is freed, has a
chip socket that was last read closed; only a reset frees a slot otherwise. -/

namespace Wiznet
open Resumption Resumption.Code

variable {w L : Nat} {D P : Type}

namespace SocketBackend

variable {b : SocketBackend}

theorem isDone_of_isMoving (h : b.isMoving = true) : b.isDone = false := by
  cases hst : b.state with
  | free => simp [isMoving, isFree, hst] at h
  | tcp t =>
    rw [isMoving_tcp hst] at h
    cases ht : t.status <;>
      simp_all [isDone, isFree, isTerminal, TcpSocketState.isClosed, SocketStatus.isShutting]
  | udp u =>
    rw [isMoving_udp hst] at h
    cases hu : u.status <;>
      simp_all [isDone, isFree, isTerminal, UdpSocketState.isClosed, SocketStatus.isShutting]

theorem isDone_rearm : b.rearm.isDone = false := by
  cases hst : b.state <;> cases hr : b.releaseRequested <;>
    simp [rearm, hst, hr, isDone, isFree, isTerminal, TcpSocketState.isClosed,
      TcpSocketState.rearm, UdpSocketState.isClosed, UdpSocketState.rearm]

theorem isDone_of_sameStatus {st : BackendState} (h : SameStatus b.state st) :
    ({ b with state := st } : SocketBackend).isDone = b.isDone ∧
      ({ b with state := st } : SocketBackend).isFree = b.isFree := by
  cases hst : b.state <;> cases st <;>
    simp_all [SameStatus, isDone, isFree, isTerminal, TcpSocketState.isClosed,
      UdpSocketState.isClosed]

/-- Reaping frees a slot that is done, or does nothing. -/
theorem reap_cases : b.reap = b ∨ b.reap.isFree = true ∧ (b.isFree = false → b.isDone = true) := by
  unfold reap
  split
  next hr => exact .inr ⟨rfl, fun hf => by simp [isDone, hf, (Bool.and_eq_true .. ▸ hr).2]⟩
  · exact .inl rfl

theorem isDone_eq_false_of_isFree (h : b.isFree = true) : b.isDone = false := by simp [isDone, h]

end SocketBackend

/-- No call on a handle makes a machine terminal. -/
theorem HandleCall.isDone_onBackend {b : SocketBackend} {c : HandleCall}
    (h : (c.onBackend b).isDone = true) : b.isDone = true := by
  cases hst : b.state <;> cases c <;>
    simp_all [onBackend, SocketBackend.mapTcp, SocketBackend.mapUdp, SocketBackend.isDone,
      SocketBackend.isFree, SocketBackend.isTerminal, SocketBackend.requestRelease,
      TcpSocketState.requestClose, UdpSocketState.requestClose, TcpSocketState.isClosed,
      UdpSocketState.isClosed, TcpSocketState.rearm, UdpSocketState.rearm]

/-! ## Who frees a slot -/

/-- Writes down the slots that a change of the slots frees. -/
def noteFreed : Observer (Fin 8 → SocketBackend) Transcript where
  note f f' t := { t with
    freed := t.freed ++ ((List.finRange 8).filter fun i => !(f i).isFree && (f' i).isFree).map
      fun i => (i, t.bursts) }
  note_self f t := by
    have hnone : (List.finRange 8).filter (fun i => !(f i).isFree && (f i).isFree) = [] := by
      simp
    rw [hnone, List.map_nil, List.append_nil]

/-- What the calls of a driver clock, and the slots they free. -/
def scribe : DriverObserver L (Logged D) P Transcript := ⟨transcribe, .mute, noteFreed⟩

theorem noteFreed_update {f : Fin 8 → SocketBackend} {i : Fin 8} {b : SocketBackend}
    {t : Transcript} : ∃ new, (noteFreed.note f (Function.update f i b) t).freed = t.freed ++ new ∧
      ∀ e ∈ new, e = (i, t.bursts) ∧ (f i).isFree = false ∧ b.isFree = true := by
  refine ⟨_, rfl, fun e he => ?_⟩
  obtain ⟨j, hj, rfl⟩ := List.mem_map.mp he
  simp only [List.mem_filter, Bool.and_eq_true, Bool.not_eq_true'] at hj
  obtain ⟨-, hf, hf'⟩ := hj
  by_cases hji : j = i
  · subst hji
    rw [Function.update_self] at hf'
    exact ⟨rfl, hf, hf'⟩
  · rw [Function.update_of_ne hji, hf] at hf'
    cases hf'

/-- The slots freed since `freed` had a closed socket. -/
def FreedClosed (L : Nat) (freed : List (Fin 8 × List Burst))
    (now : List (Fin 8 × List Burst)) : Prop :=
  ∃ new, now = freed ++ new ∧ ∀ e ∈ new, ClosedLast e.1 e.2 ∧ ∀ b ∈ e.2, b.Whole L

/-- The slots whose machine is terminal have a closed socket. -/
def DoneClosed (f : Fin 8 → SocketBackend) (bs : List Burst) : Prop :=
  ∀ i, (f i).isDone = true → ClosedLast i bs

/-- The same of every slot but `i`. -/
def OthersClosed (f : Fin 8 → SocketBackend) (i : Fin 8) (bs : List Burst) : Prop :=
  ∀ j, j ≠ i → (f j).isDone = true → ClosedLast j bs

theorem Written.others {f : Fin 8 → SocketBackend} {F : List (Fin 8 × List Burst) → Prop}
    {x : Transceiver L (Logged D) × Transcript} (h : Written (DoneClosed f) F x) (i : Fin 8) :
    Written (OthersClosed f i) F x := ⟨h.synced, fun j _ hj => h.bursts j hj, h.freed⟩

theorem DoneClosed.heeds {f : Fin 8 → SocketBackend} {addr : Address} {write : Bool}
    (h : ∀ i, (f i).isDone = true → Heeds (ClosedLast i) addr write) :
    Heeds (DoneClosed f) addr write := fun bs b hbs hb i hi => h i hi bs b (hbs i hi) hb

/-- A slot changes: what is done after was done before, and what is freed was
done. -/
theorem Written.setBackend {f : Fin 8 → SocketBackend} {i : Fin 8} {b : SocketBackend}
    {freed : List (Fin 8 × List Burst)} {cell : Transceiver L (Logged D)} {t : Transcript}
    (h : Written (OthersClosed f i)
      (FreedClosed L freed) (cell, t))
    (hdone : b.isDone = true → ClosedLast i t.bursts)
    (hfree : (f i).isFree = false → b.isFree = true → ClosedLast i t.bursts) :
    Written (DoneClosed (Function.update f i b)) (FreedClosed L freed)
      (cell, noteFreed.note f (Function.update f i b) t) := by
  refine ⟨⟨h.synced.clocked, h.synced.whole⟩, fun j hj => ?_, ?_⟩
  · by_cases hji : j = i
    · subst hji
      rw [Function.update_self] at hj
      exact hdone hj
    · rw [Function.update_of_ne hji] at hj
      exact h.bursts j hji hj
  · obtain ⟨new, hnew, hclosed⟩ := h.freed
    obtain ⟨new', hnew', hfreed⟩ := noteFreed_update (f := f) (i := i) (b := b) (t := t)
    have hold : t.freed = freed ++ new := hnew
    refine ⟨new ++ new', by rw [hnew', hold, List.append_assoc], fun e he => ?_⟩
    rcases List.mem_append.mp he with he | he
    · exact hclosed e he
    · obtain ⟨rfl, hf, hf'⟩ := hfreed e he
      exact ⟨hfree hf hf', h.synced.whole⟩

namespace W6100

variable [SpiDmaDevice D]

/-- Between two accesses of the driver. -/
def Attested (freed : List (Fin 8 × List Burst)) (marker : Option BulkOp)
    (y : View w L (Logged D) P × Transcript) : Prop :=
  Carries marker y.1.backend ∧
    Written (DoneClosed y.1.backend) (FreedClosed L freed) (y.1.bus, y.2)

/-- The same after a reset has begun, which may free any slot. -/
def AttestedReset (y : View w L (Logged D) P × Transcript) : Prop :=
  Written (DoneClosed y.1.backend) (fun _ => True) (y.1.bus, y.2)

theorem attested_common (C : List Burst → Prop) (F : List (Fin 8 × List Burst) → Prop)
    {f : Fin 8 → SocketBackend} (hC : C = DoneClosed f) :
    Common (transcribe (L := L) (D := D)) (Written C F) where
  read addr n ha hn := by
    subst hC
    exact fun x h => wp_and ((keeps_read addr n).watch x h.1) (keeps_written_read (by omega)
      (DoneClosed.heeds fun i _ => ClosedLast.heeds_of_block (by rw [ha]; nofun)) x h.2)
  write addr data ha hn := by
    subst hC
    exact fun x h => wp_and ((keeps_write addr data).watch x h.1) (keeps_written_write (by omega)
      (DoneClosed.heeds fun i _ => ClosedLast.heeds_of_block (by rw [ha]; nofun)) x h.2)

/-- The tick of another socket. -/
theorem foreign_heeds {f : Fin 8 → SocketBackend} {i : Fin 8} {addr : Address} {write : Bool}
    (ha : ∀ j, j ≠ i → addr.block ≠ .socketRegister j) :
    Heeds (OthersClosed f i) addr write :=
  fun bs b hbs hb j hj hd => ClosedLast.heeds_of_block (ha j hj) bs b (hbs j hj hd) hb

theorem foreign_block {i j : Fin 8} (h : j ≠ i) {block : BlockSelectionBits}
    (hb : block = (socketBlock i).reg ∨ block = (socketBlock i).rx ∨ block = (socketBlock i).tx) :
    block ≠ .socketRegister j := by
  rcases hb with rfl | rfl | rfl
  · exact fun heq => h (BlockSelectionBits.socketRegister.inj heq).symm
  · nofun
  · nofun

theorem serves_foreign (f : Fin 8 → SocketBackend) (i : Fin 8)
    (F : List (Fin 8 × List Burst) → Prop) :
    Serves (transcribe (L := L) (D := D)) (socketBlock i)
      (Written (OthersClosed f i) F) fun _ _ _ => Written (OthersClosed f i) F :=
  serves_written
    (fun _ ha => foreign_heeds fun _ hj => foreign_block hj (ha.imp_right .inl))
    fun _ ha => foreign_heeds fun _ hj => foreign_block hj (ha.imp_right .inr)

/-! ## The invariant stands -/

section Stands

variable {freed : List (Fin 8 × List Burst)}

theorem attested_tick (i : Fin 8) (v : View w L (Logged D) P) (t : Transcript)
    (hblock : (v.backend i).block = socketBlock i) (h : Attested freed none (v, t)) :
    match ((v.backend i).run.watch (transcribe.comap Io.trans)).run (v.io i, t) with
    | ((result, b), io, t') => Ticked (Attested freed) i none b result ((v.setIo i io).setBackend i b,
        noteFreed.note v.backend (Function.update v.backend i b) t') := by
  have hsynced : Synced ((v.io i).trans, t) := ⟨h.2.synced, trivial, trivial⟩
  have hown := SocketBackend.run_landed hblock hsynced (h.2.bursts i)
  have hs := serves_foreign (L := L) (D := D) v.backend i (FreedClosed L freed)
  rw [← hblock] at hs
  have hothers := SocketBackend.run_watch_accounts (v.backend i) hs (v.io i) t (h.2.others i)
  have hplain := Prog.run_watch (o := transcribe.comap Io.trans) (v.backend i).run (v.io i) t
  rcases hr : ((v.backend i).run.watch (transcribe.comap Io.trans)).run (v.io i, t) with
    ⟨⟨result, b⟩, io, t'⟩
  rw [hr] at hown hothers hplain
  have hw : Written (OthersClosed v.backend i) (FreedClosed L freed) (io.trans, t') := by
    rcases result with e | (_ | ⟨kind, pointer, len⟩) <;> exact hothers
  have hset := Written.setBackend hw hown.1 hown.2
  rcases result with e | (_ | ⟨kind, pointer, len⟩)
  · exact ⟨carries_none, hset⟩
  · exact ⟨carries_none, hset⟩
  · refine ⟨fun op hop => ?_, hset⟩
    cases hop
    obtain ⟨hm, hb⟩ := SocketBackend.run_starts hplain.1.symm
    rw [show ((v.setIo i io).setBackend i b).backend i = b from Function.update_self .., hb]
    exact hm

omit [SpiDmaDevice D] in
theorem attested_stalled (i : Fin 8) (v : View w L (Logged D) P) (t : Transcript) (op : BulkOp)
    {st : BackendState} (h : Attested freed (some op) (v, t))
    (hst : SocketBackend.SameStatus (v.backend i).state st) :
    Attested freed (some op) (v.setBackend i (SocketBackend.reap { v.backend i with state := st }),
      noteFreed.note v.backend (Function.update v.backend i
        (SocketBackend.reap { v.backend i with state := st })) t) := by
  refine ⟨h.1.stalled hst, Written.setBackend (h.2.others i) (fun hd => ?_) fun hf hf' => ?_⟩
  · obtain ⟨hdone, -⟩ := SocketBackend.isDone_of_sameStatus hst
    rcases SocketBackend.reap_cases (b := { v.backend i with state := st }) with heq | ⟨hfree, -⟩
    · rw [heq, hdone] at hd
      exact h.2.bursts i hd
    · rw [SocketBackend.isDone_eq_false_of_isFree hfree] at hd
      cases hd
  · obtain ⟨hdone, hfree⟩ := SocketBackend.isDone_of_sameStatus hst
    rcases SocketBackend.reap_cases (b := { v.backend i with state := st }) with heq | ⟨-, hd⟩
    · rw [heq, hfree, hf] at hf'
      cases hf'
    · exact h.2.bursts i (hdone ▸ hd (hfree.trans hf))

theorem upheld_attested (freed : List (Fin 8 × List Burst)) :
    Upheld (w := w) (L := L) (D := Logged D) (P := P) scribe (Attested freed) AttestedReset where
  common v := by
    have h := attested_common (L := L) (D := D) _ (FreedClosed L freed) (f := v.backend) rfl
    exact ⟨fun addr n ha hn x hx => wp_mono (wp_and (h.read addr n ha hn x ⟨hx.1, hx.2.2⟩)
        (wp_iff.mpr ⟨fun _ _ _ => hx.2.1, fun _ _ _ => hx.2.1⟩))
        (fun _ _ h => ⟨h.1.1, h.2, h.1.2⟩) fun _ _ h => ⟨h.1.1, h.2, h.1.2⟩,
      fun addr data ha hn x hx => wp_mono (wp_and (h.write addr data ha hn x ⟨hx.1, hx.2.2⟩)
        (wp_iff.mpr ⟨fun _ _ _ => hx.2.1, fun _ _ _ => hx.2.1⟩))
        (fun _ _ h => ⟨h.1.1, h.2, h.1.2⟩) fun _ _ h => ⟨h.1.1, h.2, h.1.2⟩⟩
  tick i v t hblock _ h := attested_tick i v t hblock h
  stalled i v t op st h hst := attested_stalled i v t op h hst.status
  finish op txn v t _ hop h := by
    have hmoving := SocketBackend.isDone_of_isMoving (h.1 op rfl)
    have hfinish := keeps_finishBulk (w := w) hop.block
      (serves_foreign (L := L) (D := D) v.backend op.idx (FreedClosed L freed))
    refine wp_mono (hfinish (v.io op.idx, t) (h.2.others op.idx)) ?_ ?_ <;>
    · rintro _ x hx
      refine ⟨carries_none, hx.synced, fun i hi => hx.bursts i (fun heq => ?_) hi, hx.freed⟩
      subst heq
      exact absurd hi (by simp [View.setIo, hmoving])
  dropped marker v t h := ⟨h.2.abort.synced, h.2.abort.bursts, trivial⟩

theorem keeps_written_initSocket {f : Fin 8 → SocketBackend}
    {F : List (Fin 8 × List Burst) → Prop} (i : Fin 8) (mode : SocketProtocolMode) :
    Keeps (Written (DoneClosed f) F)
      ((initSocket (socketBlock i) mode).watch (transcribe (L := L) (D := D))) := by
  have hw : ∀ {address : UInt16} {n v : Nat}, address ≠ SN_CR → n ≤ 64 →
      Keeps (Written (DoneClosed f) F)
        ((write ⟨address, .socketRegister i⟩ (BigEndian.encode n v)).watch
          (transcribe (L := L) (D := D))) := fun ha hn =>
    keeps_written_write (by simpa using hn) (DoneClosed.heeds fun j _ =>
      ClosedLast.heeds nofun fun _ heq => ha (congrArg Address.address heq))
  exact (hw (by decide) (by decide)).watch_bind fun _ =>
    (hw (by decide) (by decide)).watch_bind fun _ => hw (by decide) (by decide)

theorem upheldReset_attested [OutputPin P] :
    UpheldReset (w := w) (L := L) (D := Logged D) (P := P) scribe AttestedReset where
  common v := attested_common (L := L) (D := D) _ (fun _ => True) (f := v.backend) rfl
  delay v ns := fun x hx => wp_and ((Wiznet.keeps_delay ns).watch x hx.1)
    (keeps_written_delay ns x hx.2)
  setLow _ _ h := h
  setHigh _ _ h := h
  init i v := fun x hx => wp_and ((keeps_held_initSocket none _ _).watch x hx.1)
    (keeps_written_initSocket i _ x hx.2)
  rearm i v t h := by
    refine ⟨⟨h.synced.clocked, h.synced.whole⟩, fun j hj => ?_, trivial⟩
    by_cases hji : j = i
    · subst hji
      simp [View.setBackend, SocketBackend.isDone_rearm] at hj
    · simp only [View.setBackend, Function.update_of_ne hji] at hj
      exact h.bursts j hj

end Stands

/-! ## Runs -/

variable [OutputPin P]

/-- Runs of calls on a new driver, with the transcript of the bus and of the slots
that were freed. -/
inductive Transcribed : W6100 w L (Logged D) P × Transcript → Prop
  | new (spi : D) (rst : P) (scratch : DmaBuffers L)
      (mac : { bytes : List UInt8 // bytes.length = 6 }) :
      Transcribed (observe scribe (blank ⟨spi, []⟩ rst scratch mac, ⟨[], []⟩) .reset)
  | call {x : W6100 w L (Logged D) P × Transcript} (h : Transcribed x) (c : Call) :
      Transcribed (observe scribe x c)

/-- What holds between any two calls of a run. -/
structure Told (x : W6100 w L (Logged D) P × Transcript) : Prop where
  settled : Settled x.1
  carries : Carries x.1.bulk.value x.1.view.backend
  written : Written (DoneClosed x.1.view.backend) (fun _ => True) (x.1.view.bus, x.2)

omit [SpiDmaDevice D] [OutputPin P] in
theorem Told.start (spi : D) (rst : P) (scratch : DmaBuffers L)
    (mac : { bytes : List UInt8 // bytes.length = 6 }) :
    Told ((blank ⟨spi, []⟩ rst scratch mac : W6100 w L (Logged D) P), ⟨[], []⟩) :=
  ⟨blank_settled _ _ _ _, carries_none, ⟨rfl, nofun⟩, fun _ h => (by cases h), trivial⟩

section Step

variable {x : W6100 w L (Logged D) P × Transcript} {c : Call}

omit [SpiDmaDevice D] [OutputPin P] in
theorem Told.attested (h : Told x) : Attested x.2.freed x.1.bulk.value (x.1.view, x.2) :=
  ⟨h.carries, h.written.synced, h.written.bursts, [], (List.append_nil _).symm, nofun⟩

/-- A call that may tick. -/
theorem Told.serviced (h : Told x) (hc : onSlots c = false) :
    Told (observe scribe x c) ∧
      (¬ Resets x.1 c → FreedClosed L x.2.freed (observe scribe x c).2.freed) := by
  have hu := upheld_attested (w := w) (L := L) (D := D) (P := P) x.2.freed
  rcases hu.call upheldReset_attested (stood_of_settled h.settled h.attested) hc with
    hK | ⟨hres, hR⟩
  · obtain ⟨hcar, hw⟩ := hK.holds
    exact ⟨⟨hK.settled, hcar, hw.synced, hw.bursts, trivial⟩, fun _ => hw.freed⟩
  · obtain ⟨hnone, hw⟩ := hR.holds
    exact ⟨⟨hR.settled, hnone ▸ carries_none, hw⟩, fun hn => absurd hres hn⟩

/-- A call that works on one slot only, and neither ends its machine nor frees
it. -/
theorem Told.ofUpdate (h : Told x) {i : Fin 8} {b : SocketBackend} {rings : SocketRings w}
    (hobs : observe scribe x c = (x.1.apply c, scribe.driver.note x.1 (x.1.apply c) x.2))
    (hview : (x.1.apply c).view = (x.1.view.setBackend i b).setRings i rings)
    (hdone : b.isDone = true → (x.1.view.backend i).isDone = true)
    (hfree : (x.1.view.backend i).isFree = false → b.isFree = false) :
    Told (observe scribe x c) ∧ FreedClosed L x.2.freed (observe scribe x c).2.freed := by
  have hnote : scribe.driver.note x.1 (x.1.apply c) x.2 =
      noteFreed.note x.1.view.backend (Function.update x.1.view.backend i b) x.2 := by
    rw [DriverObserver.driver_note, hview]
    simp only [View.setRings, View.setBackend, Observer.note_self]
    rfl
  have hw := Written.setBackend (i := i) (b := b) (h.attested.2.others i)
    (fun hd => h.written.bursts i (hdone hd))
    fun hf hf' => by rw [hfree hf] at hf'; cases hf'
  rw [hobs, hnote]
  refine ⟨⟨h.settled.apply c, carries_call c h.settled h.carries, ?_, ?_, trivial⟩, hw.freed⟩
  · rw [hview]
    exact hw.synced
  · rw [hview]
    exact hw.bursts

theorem Told.call (h : Told x) (c : Call) :
    Told (observe scribe x c) ∧
      (¬ Resets x.1 c → FreedClosed L x.2.freed (observe scribe x c).2.freed) := by
  cases hc : onSlots c with
  | false => exact h.serviced hc
  | true =>
    have hobs : observe scribe x c = (x.1.apply c, scribe.driver.note x.1 (x.1.apply c) x.2) := by
      cases c <;> first | rfl | cases hc
    obtain ⟨state, rx, tx, hclaim⟩ | ⟨i, call, rfl⟩ := onSlots_cases hc
    · have happly := apply_of_claim h.settled hclaim
      cases hv : x.1.vacancy with
      | none =>
        rw [hv] at happly
        rw [hobs, happly, Observer.note_self]
        exact ⟨h, fun _ => h.attested.2.freed⟩
      | some i =>
        rw [hv] at happly
        have hfree : (x.1.view.backend i).isFree = true := vacancy_free hv
        have hstep := h.ofUpdate hobs (by rw [happly]; exact view_setSocket _ _ _)
          (fun hd => by
            rw [SocketBackend.isDone_of_isMoving (Call.claim_state hclaim rfl)] at hd
            cases hd)
          fun hf => by rw [hfree] at hf; cases hf
        exact ⟨hstep.1, fun _ => hstep.2⟩
    · have hstep := h.ofUpdate hobs (view_apply_handle h.settled i call)
        HandleCall.isDone_onBackend fun hf => by
          rw [← Bool.not_eq_true, isFree_iff_protocol] at hf ⊢
          rwa [HandleCall.onBackend_protocol]
      exact ⟨hstep.1, fun _ => hstep.2⟩

end Step

theorem Transcribed.told {x : W6100 w L (Logged D) P × Transcript} (h : Transcribed x) :
    Told x := by
  induction h with
  | new spi rst scratch mac => exact ((Told.start spi rst scratch mac).call .reset).1
  | call _ c ih => exact (ih.call c).1

/-- In every run the transcript is what was clocked, an occupied slot whose
machine is terminal has read `SOCK_CLOSED` last and written no command since, and
so has every slot that a call frees without a reset. Accesses are counted as the
driver makes them: a payload that a scratch below 67 bytes clocks as a frame of
its own belongs to the access it is the payload of and is not read as a command. -/
theorem terminal_closed {x : W6100 w L (Logged D) P × Transcript} (h : Transcribed x) :
    x.2.bursts.flatten = busLog x.1.device.value.transport ∧
    (∀ i, (x.1.sockets i).backend.value.isDone = true → ClosedLast i x.2.bursts) ∧
    ∀ c, ¬ Resets x.1 c → ∃ new, (observe scribe x c).2.freed = x.2.freed ++ new ∧
      ∀ e ∈ new, ClosedLast e.1 e.2 :=
  ⟨h.told.written.synced.clocked, h.told.written.bursts, fun c hc => by
    obtain ⟨new, hnew, hclosed⟩ := (h.told.call c).2 hc
    exact ⟨new, hnew, fun e he => (hclosed e he).1⟩⟩

/-- From 67 bytes on every access is one frame, and the same holds of the frames the
chip got. -/
theorem terminal_closed_frame {x : W6100 w L (Logged D) P × Transcript} (h : Transcribed x)
    (hL : HEADER + 64 ≤ L) :
    (∀ b ∈ x.2.bursts, b.length = 1) ∧
    (∀ i, (x.1.sockets i).backend.value.isDone = true →
      ClosedLastFrame i (busLog x.1.device.value.transport)) ∧
    ∀ c, ¬ Resets x.1 c → ∃ new, (observe scribe x c).2.freed = x.2.freed ++ new ∧
      ∀ e ∈ new, ClosedLastFrame e.1 e.2.flatten := by
  have hsynced := h.told.written.synced
  have hwhole : ∀ b ∈ x.2.bursts, b.length = 1 := fun b hb => hsynced.whole b hb hL
  refine ⟨hwhole, fun i hi => ?_, fun c hc => ?_⟩
  · have hclosed := (h.told.written.bursts i hi).frame hwhole
    rwa [hsynced.clocked] at hclosed
  · obtain ⟨new, hnew, hclosed⟩ := (h.told.call c).2 hc
    exact ⟨new, hnew, fun e he =>
      (hclosed e he).1.frame fun b hb => (hclosed e he).2 b hb hL⟩

theorem closedDown_transcribed : ∃ x, Transcribed x ∧ x.1 = closedDown := by
  have hnew := Transcribed.new (w := 64) (⟨[some [0x61, 0x00], some [0x46, 0x61]] ++
    List.replicate 28 (some []) ++ [some [0x01], some [], some [0x01], some [0x00]]⟩ : Scripted)
    () (zeroScratch 16) ⟨[0, 0, 0, 0, 0, 0], zeroMac_length⟩
  have hclose := (hnew.call (.openUdp 7 [] [])).call (.handle 0 .udpClose)
  refine ⟨_, (hclose.call .service).call .service, ?_⟩
  simp only [observe_fst]
  rfl

/-- The socket that was closed down read `SOCK_CLOSED` last. -/
theorem terminal_closed_closedDown :
    ∃ x, Transcribed x ∧ x.1 = closedDown ∧ ClosedLast 0 x.2.bursts := by
  obtain ⟨x, hx, hdown⟩ := closedDown_transcribed
  have hdone : (closedDown.sockets 0).backend.value.isDone = true := by decide
  exact ⟨x, hx, hdown, (terminal_closed hx).2.1 0 (hdown ▸ hdone)⟩

end W6100

end Wiznet
