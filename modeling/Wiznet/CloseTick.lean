import Wiznet.DeviceInvariant
import Wiznet.Batching

/-! # A close request and one tick

A tick that finds a close request consumes it before it talks to the chip. It
ends with the machine on its way down, unless a frame of the socket failed. -/

namespace Wiznet
open Resumption Resumption.Code Tick

variable {w L : Nat} {D σ α : Type}

/-- The machine is on its way down, or there. -/
def SocketStatus.isShutting : SocketStatus → Bool
  | .closing | .closingDueToError | .closingDueToTimeout | .closed | .error | .timeout => true
  | .init | .opening | .connecting | .established | .listening => false

theorem SocketStatus.isShutting_afterClose {s : SocketStatus} (h : s.isShutting) :
    s.afterClose.isShutting := by cases s <;> first | rfl | cases h

abbrev TcpSocketState.Shutting (t : TcpSocketState) : Prop := t.status.isShutting

abbrev UdpSocketState.Shutting (u : UdpSocketState) : Prop := u.status.isShutting

/-- A failed frame of the socket at `block`. Where a header and its payload may go
`apart`, a payload that fails has no header that says whose it is. -/
def FailedOf (block : BlockAddress) (apart : Prop) (e : BusEntry) : Prop :=
  e.FailedAt block ∨ apart ∧ Unanswered e

/-- Every frame of a socket goes through one of its three blocks. -/
theorem failedAt_of_unanswered {block : BlockAddress} {e : BusEntry} {address : UInt16}
    {reg : BlockSelectionBits} {write : Bool} (hreg : reg = block.reg ∨ reg = block.tx)
    (he : e.Accesses ⟨address, reg⟩ write ∧ Unanswered e) : e.FailedAt block :=
  ⟨he.2, _, _, he.1, hreg.elim .inl fun h => .inr (.inl h)⟩

/-! ## A machine that is shutting -/

section Quiescent

variable {T : σ → Prop} {rings : SocketRings w}

/-- `T` of the machine, and the rings as they were. -/
def AtRest (T : σ → Prop) (rings : SocketRings w) (s : Tick σ w L D) : Prop :=
  T s.1 ∧ s.2.rings = rings

/-- A tick that moves no data. -/
abbrev Rests (T : σ → Prop) (rings : SocketRings w)
    (c : Code Error (Tick σ w L D) BulkAction) : Prop :=
  Triple (AtRest T rings) c (fun a s => a = .none ∧ AtRest T rings s) fun _ => AtRest T rings

theorem rests_of_keeps {c : Code Error (Tick σ w L D) α} (h : Keeps (AtRest T rings) c) :
    Rests T rings (do let _ ← c; pure .none) := h.andThen fun _ _ h => ⟨rfl, h⟩

theorem keeps_atRest_modifySelf {f : σ → σ} (hf : ∀ t, T t → T (f t)) :
    Keeps (AtRest (L := L) (D := D) T rings) (modifySelf f) :=
  Keeps.always fun _ h => ⟨hf _ h.1, h.2⟩

theorem keeps_atRest_onBus (c : Code Error (Transceiver L D) α) :
    Keeps (AtRest T rings) (onBus (w := w) (σ := σ) c) := Keeps.zoom_of_set fun _ _ h => h

/-- The machine's fields are read as they are. -/
theorem rests_self {c : σ → Code Error (Tick σ w L D) α} {Q : α → Tick σ w L D → Prop}
    (hc : ∀ t, T t → Triple (AtRest T rings) (c t) Q fun _ => AtRest T rings) :
    Triple (AtRest T rings) (self >>= c) Q fun _ => AtRest T rings := by
  intro s hs
  rw [wp_bind, self, wp_always]
  exact hc _ hs.1 _ hs

end Quiescent

section Heard

variable {before : List BusEntry} {block : BlockAddress} {apart : Prop}

/-- The bus is idle and the log goes on from `before`. -/
abbrev Quiescent (before : List BusEntry) : Transceiver L (Logged D) → Prop :=
  Clean before fun _ => True

/-- A step of a tick that acts on a request: the bus stays idle, or a frame of
the socket has failed. -/
abbrev Heard (before : List BusEntry) (block : BlockAddress) (apart : Prop)
    (c : Code Error (Tick σ w L (Logged D)) α) : Prop :=
  Triple (fun s => Quiescent before s.2.trans) c (fun _ s => Quiescent before s.2.trans)
    fun _ s => Seen before (FailedOf block apart) s.2.trans

theorem heard_onBus {c : Code Error (Transceiver L (Logged D)) α}
    (hc : Triple (Quiescent before) c (fun _ => Quiescent before)
      fun _ => Seen before (FailedOf block apart)) :
    Heard (w := w) (σ := σ) before block apart (onBus c) := by
  intro s hs
  rw [onBus, wp_zoom]
  exact hc _ hs

theorem heard_pure (a : α) :
    Heard (w := w) (σ := σ) (D := D) (L := L) before block apart (pure a) :=
  fun _ h => h

/-- A tick whose dispatch ends in `T` or with a failed frame, seen as a whole. -/
theorem wp_stored {T : σ → Prop} {φ : BusEntry → Prop} {store : Error → σ → σ}
    {c : Code Error (Tick σ w L (Logged D)) BulkAction} {s : Tick σ w L (Logged D)}
    (hc : wp c (fun _ s => T s.1) (fun _ s => Seen before φ s.2.trans) s) :
    wp (do
      match ← Code.outcome c with
      | .ok action => pure action
      | .error .wouldBlock => throw .wouldBlock
      | .error e => do
        modifySelf (store e)
        pure .none)
      (fun _ s => T s.1 ∨ Seen before φ s.2.trans)
      (fun _ s => T s.1 ∨ Seen before φ s.2.trans) s := by
  rw [wp_bind, wp_outcome]
  refine wp_mono hc (fun _ _ h => .inl h) fun e s h => ?_
  cases e with
  | wouldBlock => exact .inr h
  | other e => exact .inr h

end Heard

variable [SpiDmaDevice D]

/-- A machine that is shutting only asks for the status of its socket. -/
theorem TcpSocketState.run_rests (block : BlockAddress) (rings : SocketRings w) :
    Rests (L := L) (D := D) TcpSocketState.Shutting rings (run block) := by
  refine rests_self fun t ht => triple_stored_plain ?_ fun _ _ h => ⟨rfl, h⟩
  unfold dispatch
  split
  · have hflag : Keeps (AtRest (L := L) (D := D) Shutting rings)
        (modifySelf fun t => { t with closeRequested := false }) :=
      keeps_atRest_modifySelf fun _ h => h
    refine rests_of_keeps (hflag.bind fun _ => rests_self fun t ht => ?_)
    cases hst : t.status with
    | established | init | opening | connecting | listening =>
      simp [Shutting, hst, SocketStatus.isShutting] at ht
    | _ => exact Keeps.pure _
  · cases hst : t.status with
    | established | init | opening | connecting | listening =>
      simp [Shutting, hst, SocketStatus.isShutting] at ht
    | closing | closingDueToError | closingDueToTimeout =>
      refine rests_of_keeps ((keeps_atRest_onBus _).bind fun status => ?_)
      split
      · exact keeps_atRest_modifySelf fun _ h => SocketStatus.isShutting_afterClose h
      · exact Keeps.pure _
    | closed | error | timeout => exact fun s h => ⟨rfl, h⟩

theorem TcpSocketState.keeps_shutting_run (block : BlockAddress) :
    Keeps (fun s : Tick TcpSocketState w L D => s.1.Shutting) (run block) := fun s hs =>
  wp_mono (run_rests block s.2.rings s ⟨hs, rfl⟩) (fun _ _ h => h.2.1) fun _ _ h => h.1

theorem UdpSocketState.run_rests (block : BlockAddress) (rings : SocketRings w) :
    Rests (L := L) (D := D) UdpSocketState.Shutting rings (run block) := by
  refine rests_self fun u hu => triple_stored_plain ?_ fun _ _ h => ⟨rfl, h⟩
  unfold dispatch
  split
  · have hflag : Keeps (AtRest (L := L) (D := D) Shutting rings)
        (modifySelf fun u => { u with closeRequested := false }) :=
      keeps_atRest_modifySelf fun _ h => h
    refine rests_of_keeps (hflag.bind fun _ => rests_self fun u hu => ?_)
    cases hst : u.status with
    | established | init | opening | connecting | listening =>
      simp [Shutting, hst, SocketStatus.isShutting] at hu
    | _ => exact Keeps.pure _
  · cases hst : u.status with
    | established | init | opening | connecting | listening =>
      simp [Shutting, hst, SocketStatus.isShutting] at hu
    | closing | closingDueToError | closingDueToTimeout =>
      refine rests_of_keeps ((keeps_atRest_onBus _).bind fun status => ?_)
      split
      · exact keeps_atRest_modifySelf fun _ h => SocketStatus.isShutting_afterClose h
      · exact Keeps.pure _
    | closed | error | timeout => exact fun s h => ⟨rfl, h⟩

theorem UdpSocketState.keeps_shutting_run (block : BlockAddress) :
    Keeps (fun s : Tick UdpSocketState w L D => s.1.Shutting) (run block) := fun s hs =>
  wp_mono (run_rests block s.2.rings s ⟨hs, rfl⟩) (fun _ _ h => h.2.1) fun _ _ h => h.1

/-! ## A request that is still to be acted on -/

section Requested

variable {before : List BusEntry} {block : BlockAddress} {apart : Prop}

/-- A write that fits the scratch, if not behind its header, succeeds or has a
frame that fails. -/
theorem triple_write_apart {addr : Address} {data : List UInt8} (hh : HEADER ≤ L)
    (hdata : data.length ≤ L) :
    Triple (Quiescent before) (write addr data : Code Error (Transceiver L (Logged D)) Unit)
      (fun _ => Quiescent before) fun _ => Seen before Unanswered := by
  rintro cell ⟨⟨dev, scratch, rfl⟩, new, hnew, -⟩
  have hbalanced : ∀ op ∈ [Operation.write (createHeader addr true), .write data], op.Balanced := by
    intro op hop
    rcases List.mem_pair.mp hop with rfl | rfl <;> trivial
  have hlength : ∀ op ∈ [Operation.write (createHeader addr true), .write data], op.length ≤ L := by
    intro op hop
    rcases List.mem_pair.mp hop with rfl | rfl
    · exact (createHeader_length ..).trans_le hh
    · exact hdata
  obtain ⟨events, hbatched⟩ := execChunks_batched 2 dev scratch le_rfl hbalanced
  have hok := hbatched.ok_iff
  have hlog := hbatched.log
  rw [write, wp_attempt, transaction, execTransaction, List.length_cons, List.length_singleton]
  rcases hx : execChunks 2 dev scratch [.write (createHeader addr true), .write data] with
    ⟨dev', scratch', ops, _ | e⟩ <;> rw [hx] at hok hlog
  · exact ⟨⟨_, _, rfl⟩, new ++ _, by rw [← List.append_assoc, ← hnew]; exact hlog, fun _ _ => trivial⟩
  · obtain ⟨e, he, hfailed⟩ : ∃ e, BusEvent.frame e ∈ events ∧ ¬ Answered e := by
      by_contra hall
      push Not at hall
      cases hok.mpr ⟨hlength, hall⟩
    refine ⟨new ++ _, by rw [← List.append_assoc, ← hnew]; exact hlog, e, ?_, ?_⟩
    · exact List.mem_append_right _ (List.mem_filterMap.mpr ⟨_, he, rfl⟩)
    · exact Option.not_isSome_iff_eq_none.mp hfailed

theorem heard_write {addr : Address} {data : List UInt8} (hh : HEADER ≤ L)
    (hdata : data.length ≤ L) (happart : L < HEADER + data.length → apart)
    (hreg : addr.block = block.reg ∨ addr.block = block.tx) :
    Triple (Quiescent before) (write addr data : Code Error (Transceiver L (Logged D)) Unit)
      (fun _ => Quiescent before) fun _ => Seen before (FailedOf block apart) := by
  by_cases h : HEADER + data.length ≤ L
  · refine (triple_write_clean h fun _ _ _ => trivial).consequence (fun _ h => h) (fun _ _ h => h) ?_
    rintro _ _ ⟨new, hnew, e, he, hf⟩
    exact ⟨new, hnew, e, he, .inl (failedAt_of_unanswered hreg hf)⟩
  · refine (triple_write_apart hh hdata).consequence (fun _ h => h) (fun _ _ h => h) ?_
    rintro _ _ ⟨new, hnew, e, he, hf⟩
    exact ⟨new, hnew, e, he, .inr ⟨happart (Nat.lt_of_not_le h), hf⟩⟩

theorem heard_register {addr : Address} {n v : Nat} (hn : n ≤ 2) (hL : HEADER + 2 ≤ L)
    (hreg : addr.block = block.reg) :
    Triple (Quiescent before)
      (write addr (BigEndian.encode n v) : Code Error (Transceiver L (Logged D)) Unit)
      (fun _ => Quiescent before) fun _ => Seen before (FailedOf block apart) :=
  heard_write (by omega) (by rw [BigEndian.encode_length]; omega)
    (fun h => by rw [BigEndian.encode_length] at h; omega) (.inl hreg)

theorem heard_readU16 {address : UInt16} (h : HEADER + 2 ≤ L) :
    Triple (Quiescent before)
      (readU16 ⟨address, block.reg⟩ : Code Error (Transceiver L (Logged D)) UInt16)
      (fun _ => Quiescent before) fun _ => Seen before (FailedOf block apart) := by
  intro cell hc
  rw [readU16, wp_map]
  refine wp_mono (triple_read_clean h cell hc) ?_ ?_
  · rintro _ cell' ⟨cell, e, hc, hi, hl, -⟩
    exact hc.snoc hi hl trivial
  · rintro _ cell' ⟨new, hnew, e, he, hf⟩
    exact ⟨new, hnew, e, he, .inl (failedAt_of_unanswered (.inl rfl) hf)⟩

namespace TcpSocketState

theorem heard_flushLoop {toSend : Nat} (hh : HEADER ≤ L) (hroom : min 64 toSend ≤ L)
    (happart : L < HEADER + min 64 toSend → apart) (fuel : Nat) (pointer : UInt16) (staged : Nat) :
    Heard (w := w) (D := D) (L := L) before block apart
      (flushLoop block toSend fuel pointer staged) := by
  induction fuel generalizing pointer staged with
  | zero => exact heard_pure _
  | succ fuel ih =>
    unfold flushLoop
    split
    · refine Triple.bind (R := fun got s => Quiescent before s.2.trans ∧
        got.length ≤ min 64 toSend) ?_ fun got => ?_
      · intro s h
        rw [onTx, wp_always, Prog.run_zoom]
        refine ⟨h, Nat.le_trans (SpscRing.length_run_read _ _) ?_⟩
        omega
      · split
        · exact fun s h => h.1
        · rintro s ⟨h, hgot⟩
          have hlong (h : L < HEADER + got.length) : apart := happart (by omega)
          exact ((heard_onBus (heard_write hh (by omega) hlong (.inr rfl))).bind
            fun _ => ih _ _) s h
    · exact heard_pure _

/-- The flush of a close: the chunks it stages fit the scratch. -/
theorem heard_flushSync (hL : HEADER + 2 ≤ L) {s : Tick TcpSocketState w L (Logged D)}
    (hs : Quiescent before s.2.trans)
    (hroom : min 64 (s.2.rings.tx.tail - s.2.rings.tx.head).toNat ≤ L)
    (happart : L < HEADER + min 64 (s.2.rings.tx.tail - s.2.rings.tx.head).toNat → apart) :
    wp (flushSync block) (fun _ s => Quiescent before s.2.trans)
      (fun _ s => Seen before (FailedOf block apart) s.2.trans) s := by
  have hlen : (Prog.zoom tx SpscRing.len).run s =
      (s.2.rings.tx.tail - s.2.rings.tx.head, s) := rfl
  rw [flushSync, wp_bind, onTx, wp_always, hlen]
  split
  · exact hs
  refine (heard_onBus (heard_readU16 hL)).bind (fun free => ?_) s hs
  dsimp only
  split
  · exact heard_pure _
  refine (heard_onBus (heard_readU16 hL)).bind fun pointer => ?_
  refine (heard_flushLoop (by omega) (by omega) (fun h => happart (by omega)) _ _ _).bind
    fun pointer => ?_
  refine (heard_onBus (heard_register le_rfl hL rfl)).bind fun _ => ?_
  exact heard_onBus (heard_register (by decide) hL rfl)

/-- Acting on a request ends with the machine on its way down. -/
theorem wp_handleClose (hL : HEADER + 2 ≤ L) {s : Tick TcpSocketState w L (Logged D)}
    (hs : Quiescent before s.2.trans)
    (hroom : s.1.status = .established →
      min 64 (s.2.rings.tx.tail - s.2.rings.tx.head).toNat ≤ L ∧
        (L < HEADER + min 64 (s.2.rings.tx.tail - s.2.rings.tx.head).toNat → apart)) :
    wp (handleClose block) (fun _ s => s.1.Shutting)
      (fun _ s => Seen before (FailedOf block apart) s.2.trans) s := by
  have hcommand : ∀ (command : SocketCommand),
      Triple (fun s : Tick TcpSocketState w L (Logged D) => Quiescent before s.2.trans)
        (do onBus (sendSockCommand block command); modifySelf (withStatus .closing))
        (fun _ s => s.1.Shutting)
        fun _ s => Seen before (FailedOf block apart) s.2.trans := fun command =>
    Triple.bind (heard_onBus (heard_register (by decide) hL rfl)) fun _ _ _ => rfl
  rw [handleClose, wp_bind, modifySelf, wp_always, Prog.run_store, wp_bind, self, wp_always,
    Prog.run_load]
  cases hst : s.1.status with
  | closed | error | timeout | closingDueToError | closingDueToTimeout | closing => exact rfl
  | established =>
    dsimp only
    rw [wp_bind]
    exact wp_mono (heard_flushSync hL hs (hroom hst).1 (hroom hst).2)
      (fun _ s' hs' => hcommand _ s' hs') fun _ _ h => h
  | init | opening | connecting | listening => exact hcommand _ _ hs

end TcpSocketState

namespace UdpSocketState

theorem wp_handleClose (hL : HEADER + 2 ≤ L) {s : Tick UdpSocketState w L (Logged D)}
    (hs : Quiescent before s.2.trans) :
    wp (handleClose block) (fun _ s => s.1.Shutting)
      (fun _ s => Seen before (FailedOf block apart) s.2.trans) s := by
  have hcommand : Triple (fun s : Tick UdpSocketState w L (Logged D) => Quiescent before s.2.trans)
      (do onBus (sendSockCommand block .close); modifySelf (withStatus .closing))
      (fun _ s => s.1.Shutting)
      fun _ s => Seen before (FailedOf block apart) s.2.trans :=
    Triple.bind (heard_onBus (heard_register (by decide) hL rfl)) fun _ _ _ => rfl
  rw [handleClose, wp_bind, modifySelf, wp_always, Prog.run_store, wp_bind, self, wp_always,
    Prog.run_load]
  cases hst : s.1.status with
  | closed | error | timeout | closingDueToError | closingDueToTimeout | closing => exact rfl
  | established | init | opening | connecting | listening => exact hcommand _ hs

end UdpSocketState

theorem TcpSocketState.run_closes (block : BlockAddress) (hL : HEADER + 2 ≤ L)
    {s : Tick TcpSocketState w L (Logged D)} (hflag : s.1.closeRequested = true)
    (hs : Quiescent before s.2.trans)
    (hroom : s.1.status = .established →
      min 64 (s.2.rings.tx.tail - s.2.rings.tx.head).toNat ≤ L ∧
        (L < HEADER + min 64 (s.2.rings.tx.tail - s.2.rings.tx.head).toNat → apart)) :
    wp (run block) (fun _ s => s.1.Shutting ∨ Seen before (FailedOf block apart) s.2.trans)
      (fun _ s => s.1.Shutting ∨ Seen before (FailedOf block apart) s.2.trans) s := by
  rw [run, wp_bind, self, wp_always, Prog.run_load, dispatch, if_pos hflag]
  refine wp_stored ?_
  rw [wp_bind]
  exact wp_mono (wp_handleClose hL hs hroom) (fun _ _ h => h) fun _ _ h => h

theorem UdpSocketState.run_closes (block : BlockAddress) (apart : Prop) (hL : HEADER + 2 ≤ L)
    {s : Tick UdpSocketState w L (Logged D)} (hflag : s.1.closeRequested = true)
    (hs : Quiescent before s.2.trans) :
    wp (run block) (fun _ s => s.1.Shutting ∨ Seen before (FailedOf block apart) s.2.trans)
      (fun _ s => s.1.Shutting ∨ Seen before (FailedOf block apart) s.2.trans) s := by
  rw [run, wp_bind, self, wp_always, Prog.run_load, dispatch, if_pos hflag]
  refine wp_stored ?_
  rw [wp_bind]
  exact wp_mono (wp_handleClose hL hs) (fun _ _ h => h) fun _ _ h => h

end Requested

end Wiznet
