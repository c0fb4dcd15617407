import Wiznet.Lib.Stops
import Wiznet.Quiescence
import Wiznet.UdpRuns

/-! # A reconnect and a completion

`reconnect` holds the cell of its slot and empties both rings with four stores
each. The completion interrupt takes no cell of a slot, so it may come between any
two of them. -/

namespace Wiznet
open Resumption Resumption.Code

variable {w L : Nat} {D P : Type}

def Protocol.reconnect : Protocol → Code Error (Socket w) Unit
  | .tcp => TcpSocket.reconnect
  | .udp => UdpSocket.reconnect

def SocketBackend.rearmed (b : SocketBackend) : Protocol → SocketBackend
  | .tcp => b.mapTcp TcpSocketState.rearm
  | .udp => b.mapUdp UdpSocketState.rearm

namespace SpscRing

/-- The stores of `clear`. -/
def clears : List (SpscRing w → SpscRing w) :=
  [fun r => { r with head := 0 }, fun r => { r with framesOut := 0 },
    fun r => { r with framesIn := 0 }, fun r => { r with tail := 0 }]

theorem clear_eq : (clear : Prog (SpscRing w) Unit) = Prog.stores clears () := rfl

/-- A ring after `n` of the stores of `clear`. -/
def clearing (r : SpscRing w) (n : Nat) : SpscRing w := (Prog.stop n clear r).2

theorem clearing_emptied (r : SpscRing w) {n : Nat} (hn : 4 ≤ n) :
    r.clearing n = ⟨r.buf, r.cap, 0, 0, 0, 0⟩ := by
  rw [clearing, clear_eq, Prog.stop_stores, List.take_of_length_le hn]
  rfl

theorem clearing_cap (r : SpscRing w) (n : Nat) : (r.clearing n).cap = r.cap := by
  rcases n with _ | _ | _ | _ | n
  case succ.succ.succ.succ => rw [clearing_emptied r (by omega)]
  all_goals rfl

/-- A ring is in room at every store of `clear` if `tail` has not gone beyond the
capacity: `head` is the first to be moved. -/
theorem clearing_room {r : SpscRing w} (hroom : (r.tail - r.head).toNat ≤ r.cap.toNat)
    (htail : r.tail.toNat ≤ r.cap.toNat) (n : Nat) :
    ((r.clearing n).tail - (r.clearing n).head).toNat ≤ (r.clearing n).cap.toNat := by
  have hone : (r.tail - 0).toNat ≤ r.cap.toNat := by rwa [sub_zero]
  rcases n with _ | _ | _ | _ | n
  · exact hroom
  · exact hone
  · exact hone
  · exact hone
  · rw [clearing_emptied r (by omega), BitVec.sub_self]
    exact Nat.zero_le _

end SpscRing

/-- What `reconnect` stores, from where it holds the cell. -/
def rearming (p : Protocol) : List (Socket w → Socket w) :=
  [fun x => { x with backend := { x.backend with value := x.backend.value.rearmed p } }] ++
    SpscRing.clears.map (fun act x => { x with rings := { x.rings with rx := act x.rings.rx } }) ++
    SpscRing.clears.map (fun act x => { x with rings := { x.rings with tx := act x.rings.tx } }) ++
    [fun x => { x with backend := { x.backend with busy := false } }]

theorem stop_reconnect_two {x : Socket w} {p : Protocol} (hfree : x.backend.busy = false)
    (hp : x.backend.value.state.protocol = some p) :
    Prog.stop 2 (ExceptT.run p.reconnect) x = (Prog.stores (rearming p) (.ok ()),
      { x with backend := { x.backend with busy := true } }) := by
  obtain ⟨⟨⟨block, state, released⟩, busy⟩, ⟨rx, tx⟩⟩ := x
  cases hfree
  cases state with
  | free => cases hp
  | tcp t | udp u =>
    cases hp
    rfl

theorem stop_reconnect_one {x : Socket w} {p : Protocol} (hfree : x.backend.busy = false) :
    ∃ next, Prog.stop 1 (ExceptT.run p.reconnect) x = (.step id next,
      { x with backend := { x.backend with busy := true } }) := by
  obtain ⟨⟨value, busy⟩, rings⟩ := x
  cases hfree
  cases p <;> exact ⟨_, rfl⟩

theorem stop_reconnect_more {x : Socket w} {p : Protocol} (hfree : x.backend.busy = false)
    (hp : x.backend.value.state.protocol = some p) (n : Nat) :
    Prog.stop (2 + n) (ExceptT.run p.reconnect) x = (Prog.stores ((rearming p).drop n) (.ok ()),
      ((rearming p).take n).foldl (fun x act => act x)
        { x with backend := { x.backend with busy := true } }) := by
  rw [Prog.stop_add, stop_reconnect_two hfree hp, Prog.stop_stores]

theorem stop_reconnect {x : Socket w} {p : Protocol} (hfree : x.backend.busy = false)
    (hp : x.backend.value.state.protocol = some p) (n : Nat) :
    let y := Prog.stop n (ExceptT.run p.reconnect) x
    y.2.rings = ⟨x.rings.rx.clearing (n - 3), x.rings.tx.clearing (n - 7)⟩ ∧
      (0 < n → n < 12 → y.2.backend.busy = true ∧ ∃ act next, y.1 = .step act next) ∧
      (12 ≤ n → y.1 = .ret (.ok ()) ∧ y.2.backend = ⟨x.backend.value.rearmed p, false⟩) := by
  rcases n with _ | _ | n
  · exact ⟨rfl, fun h => absurd h (by decide), fun h => absurd h (by decide)⟩
  · obtain ⟨next, h⟩ : ∃ next, Prog.stop 1 (ExceptT.run p.reconnect) x = (.step id next,
        { x with backend := { x.backend with busy := true } }) := stop_reconnect_one hfree
    rw [h]
    exact ⟨rfl, fun _ _ => ⟨rfl, _, _, rfl⟩, fun h => absurd h (by decide)⟩
  · rw [show n + 1 + 1 = 2 + n from by omega, stop_reconnect_more hfree hp]
    rcases n with _ | _ | _ | _ | _ | _ | _ | _ | _ | _ | n
    case succ.succ.succ.succ.succ.succ.succ.succ.succ.succ =>
      rw [List.take_of_length_le (by simp [rearming, SpscRing.clears]),
        List.drop_eq_nil_of_le (by simp [rearming, SpscRing.clears]),
        SpscRing.clearing_emptied _ (by omega), SpscRing.clearing_emptied _ (by omega)]
      exact ⟨rfl, fun _ h => absurd h (by omega), fun _ => ⟨rfl, rfl⟩⟩
    all_goals exact ⟨rfl, fun _ _ => ⟨rfl, _, _, rfl⟩, fun h => absurd h (by decide)⟩

/-! ## The tick of a socket that was re-armed -/

section Tick

variable [SpiDmaDevice D] {rings : SocketRings w}

open Tick

/-- A machine that has just been re-armed moves no data in its next tick. -/
theorem triple_tcp_rearm (block : BlockAddress) :
    Triple (AtRest (L := L) (D := D) (fun t => t.status = .init ∧ t.closeRequested = false) rings)
      (TcpSocketState.run block) (fun _ s => s.2.rings = rings) fun _ s => s.2.rings = rings := by
  have hinit : Keeps (AtRest (L := L) (D := D) (fun _ => True) rings)
      (TcpSocketState.handleInit block) :=
    (keeps_atRest_onBus _).bind fun _ => rests_self fun t _ => (keeps_atRest_onBus _).bind fun _ =>
      (keeps_atRest_onBus _).bind fun _ => keeps_atRest_modifySelf fun _ _ => trivial
  rintro s ⟨⟨hst, hclose⟩, hrings⟩
  rw [TcpSocketState.run, wp_bind, self, wp_always, Prog.run_load, TcpSocketState.dispatch, hclose,
    hst]
  exact wp_mono (triple_stored_plain (rests_of_keeps hinit) (fun _ _ h => ⟨rfl, h⟩) s
    ⟨trivial, hrings⟩) (fun _ _ h => h.2.2) fun _ _ h => h.2

theorem triple_udp_rearm (block : BlockAddress) :
    Triple (AtRest (L := L) (D := D) (fun u => u.status = .init ∧ u.closeRequested = false) rings)
      (UdpSocketState.run block) (fun _ s => s.2.rings = rings) fun _ s => s.2.rings = rings := by
  have hinit : Keeps (AtRest (L := L) (D := D) (fun _ => True) rings)
      (UdpSocketState.handleInit block) :=
    (keeps_atRest_onBus _).bind fun _ => rests_self fun u _ => (keeps_atRest_onBus _).bind fun _ =>
      (keeps_atRest_onBus _).bind fun _ => keeps_atRest_modifySelf fun _ _ => trivial
  rintro s ⟨⟨hst, hclose⟩, hrings⟩
  rw [UdpSocketState.run, wp_bind, self, wp_always, Prog.run_load, UdpSocketState.dispatch, hclose,
    hst]
  exact wp_mono (triple_stored_plain (rests_of_keeps hinit) (fun _ _ h => ⟨rfl, h⟩) s
    ⟨trivial, hrings⟩) (fun _ _ h => h.2.2) fun _ _ h => h.2

theorem SocketBackend.run_rearmed {b : SocketBackend} {p : Protocol}
    (hp : b.state.protocol = some p) (io : Io w L D) :
    ((b.rearmed p).run.run io).2.rings = io.rings := by
  obtain ⟨block, state, released⟩ := b
  cases state with
  | free => cases hp
  | tcp t =>
    cases hp
    have ht := run_withLocal_wp (triple_tcp_rearm block
      (t.rearm, io) ⟨⟨rfl, rfl⟩, rfl⟩)
    simp only [rearmed, mapTcp, run, Prog.bind_eq, Prog.run_bind, Prog.pure_eq, Prog.run_ret]
    rcases hr : (Prog.withLocal (ExceptT.run (TcpSocketState.run block)) t.rearm).run io with
      ⟨⟨e | a, t'⟩, io'⟩ <;> rw [hr] at ht <;> exact ht
  | udp u =>
    cases hp
    have hu := run_withLocal_wp (triple_udp_rearm block
      (u.rearm, io) ⟨⟨rfl, rfl⟩, rfl⟩)
    simp only [rearmed, mapUdp, run, Prog.bind_eq, Prog.run_bind, Prog.pure_eq, Prog.run_ret]
    rcases hr : (Prog.withLocal (ExceptT.run (UdpSocketState.run block)) u.rearm).run io with
      ⟨⟨e | a, u'⟩, io'⟩ <;> rw [hr] at hu <;> exact hu

end Tick

/-- A completion of `op` puts something into a ring like `rx`. -/
def BulkOp.Captures (op : BulkOp) (rx : SpscRing w) : Prop :=
  match op.kind with
  | .receive => 0 < op.len ∧ rx.cap ≠ 0
  | .receiveDatagram _ _ => True
  | .transmit => False

namespace SpscRing

theorem run_write_nothing {r : SpscRing w} {src : List UInt8} (h : src = [] ∨ r.cap = 0) :
    ((write src).run r).2 = r := by
  rw [write_eq, Prog.run_bind, Prog.run_load]
  split
  · rfl
  · obtain rfl := h.resolve_right (by assumption)
    simp [writeFrom]

/-- The frame counters are none of `write`'s business. -/
theorem run_write_frames (src : List UInt8) (r : SpscRing w) :
    ((write src).run r).2.framesIn = r.framesIn ∧
      ((write src).run r).2.framesOut = r.framesOut := by
  have hcopy (bs : List UInt8) (i : Nat) (r : SpscRing w) :
      ((copyIn i bs).run r).2.framesIn = r.framesIn ∧
        ((copyIn i bs).run r).2.framesOut = r.framesOut := by
    induction bs generalizing i r with
    | nil => exact ⟨rfl, rfl⟩
    | cons b bs ih => exact ih (i + 1) (r.poke i b)
  rw [write_eq, Prog.run_bind, Prog.run_load]
  split
  · exact ⟨rfl, rfl⟩
  · simp only [Prog.run_bind, Prog.run_load, writeFrom]
    by_cases hn : min src.length (r.cap - (r.tail - r.head)).toNat = 0
    · simp only [hn, if_true, Prog.run_ret, and_self]
    · simp only [hn, if_false, Prog.run_bind, Prog.run_store, Prog.run_ret, hcopy, and_self]

end SpscRing

/-- Nothing is delivered that was not captured. -/
theorem BulkOp.deliver_eq {op : BulkOp} {payload : List UInt8} {rx : SpscRing w}
    (h : ¬ op.Captures rx) (hlen : payload.length = op.len) : op.deliver payload rx = rx := by
  unfold Captures at h
  unfold deliver
  cases hkind : op.kind with
  | receive =>
    rw [hkind] at h
    refine SpscRing.run_write_nothing ?_
    by_cases hcap : rx.cap = 0
    · exact .inr hcap
    · refine .inl (List.eq_nil_of_length_eq_zero ?_)
      rw [hlen]
      exact Nat.eq_zero_of_not_pos fun hpos => h ⟨hpos, hcap⟩
  | receiveDatagram srcIp srcPort =>
    rw [hkind] at h
    exact absurd trivial h
  | transmit => rfl

open SpscRing in
/-- What was captured shows in a ring in which there was nothing. -/
theorem BulkOp.deliver_shows {op : BulkOp} {payload : List UInt8} {rx : SpscRing w} (hw : 0 < w)
    (h : op.Captures rx) (hlen : payload.length = op.len) (htail : rx.tail = rx.head)
    (hframes : rx.framesIn = rx.framesOut)
    (hnone : SpscRing.contents (op.deliver payload rx) = []) :
    (op.deliver payload rx).framesIn ≠ (op.deliver payload rx).framesOut := by
  unfold Captures at h
  unfold deliver at hnone ⊢
  cases hkind : op.kind with
  | receive =>
    rw [hkind] at h hnone
    obtain ⟨hpos, hcap⟩ := h
    have hroom : (rx.tail - rx.head).toNat ≤ rx.cap.toNat := by
      rw [htail, BitVec.sub_self]
      exact Nat.zero_le _
    have hcap' : 0 < rx.cap.toNat := Nat.pos_of_ne_zero fun h => hcap (BitVec.eq_of_toNat_eq h)
    have hlen' := congrArg List.length hnone
    have hn : (payload.take (min payload.length (rx.cap.toNat - (contents rx).length))).length =
        min payload.length rx.cap.toNat := by
      rw [length_contents, htail, BitVec.sub_self, BitVec.toNat_zero, List.length_take]
      omega
    have hlt : min payload.length rx.cap.toNat < 2 ^ w :=
      Nat.lt_of_le_of_lt (Nat.min_le_right ..) rx.cap.isLt
    dsimp only at hlen'
    rw [run_write_room hcap hroom, length_contents, List.length_nil] at hlen'
    simp only [pushed, htail, add_sub_cancel_left, BitVec.toNat_ofNat, hn,
      Nat.mod_eq_of_lt hlt] at hlen'
    omega
  | receiveDatagram srcIp srcPort =>
    simp only [commitFrame, Prog.bind_eq, Prog.run_bind, Prog.run_load, Prog.run_store,
      (run_write_frames _ _).1, (run_write_frames _ _).2, hframes]
    exact advance_ne Nat.one_pos (Nat.one_lt_two_pow hw.ne')
  | transmit =>
    rw [hkind] at h
    exact h.elim

/-! ## A completion -/

namespace W6100

variable {i : Fin 8} {Q R : Socket w → Prop}

/-- What holds of the socket in slot `i`. -/
abbrev OfSocket (i : Fin 8) (Q : Socket w → Prop) (s : W6100 w L D P) : Prop := Q (s.sockets i)

theorem keeps_socket_onBus {α : Type} (c : Code Error (Transceiver L D) α) :
    Keeps (OfSocket (P := P) i Q) (onBus c) := Keeps.zoom_of_set fun _ _ h => h

variable [SpiDmaDevice D]

/-- The cell of the slot is held. -/
theorem exec_runSockets_held {idx : Fin 8} {rest : List (Fin 8)} {s : W6100 w L D P}
    (hbusy : (s.sockets idx).backend.busy = true) :
    exec (runSockets (idx :: rest)) s = exec (runSockets rest) s := by
  rw [runSockets, exec_bind, exec_always, run_lockBackend, if_pos hbusy]

theorem keeps_held_runSockets {x : Socket w} (hbusy : x.backend.busy = true)
    (slots : List (Fin 8)) :
    Keeps (OfSocket (L := L) (D := D) (P := P) i (· = x)) (runSockets slots) := by
  induction slots with
  | nil => exact Keeps.pure _
  | cons idx rest ih =>
    intro s hs
    by_cases hi : i = idx
    · subst hi
      have hheld : (s.sockets i).backend.busy = true := by rw [hs, hbusy]
      rw [wp, exec_runSockets_held hheld]
      exact ih s hs
    · refine wp_runSockets_cons (fun _ => ih s hs) fun result b io _ => ?_
      have hs' : OfSocket i (· = x) (ticked idx io b s) := (ticked_other hi).trans hs
      rcases result with (e | e) | (_ | ⟨kind, pointer, len⟩)
      · exact hs'
      · exact ih _ hs'
      · exact ih _ hs'
      · exact keeps_setMarker (fun _ _ h => h) _ _ hs'

/-- A loop that finds the slot just re-armed, or has passed it, leaves its rings
alone. -/
theorem triple_rings_runSockets {p : Protocol} {b : SocketBackend} {r : SocketRings w}
    (hp : b.state.protocol = some p) {slots : List (Fin 8)} (hn : slots.Nodup)
    {s : W6100 w L D P} (hs : i ∈ slots → (s.sockets i).backend = ⟨b.rearmed p, false⟩)
    (hr : (s.sockets i).rings = r) :
    wp (runSockets slots) (fun _ => OfSocket i fun x => x.rings = r)
      (fun _ => OfSocket i fun x => x.rings = r) s := by
  induction slots generalizing s with
  | nil => exact hr
  | cons idx rest ih =>
    obtain ⟨hidx, hn⟩ := List.nodup_cons.mp hn
    refine wp_runSockets_cons (fun _ => ih hn (fun h => hs (.tail _ h)) hr)
      fun result b' io ht => ?_
    have hr' : ((ticked idx io b' s).sockets i).rings = r := by
      by_cases hi : i = idx
      · subst hi
        have hval : (s.sockets i).backend.value = b.rearmed p := by rw [hs (.head _)]
        rw [ticked_self]
        rw [hval] at ht
        have hkept := SocketBackend.run_rearmed hp ((ioLens i).get s)
        rw [ht] at hkept
        exact hkept.trans hr
      · rw [ticked_other hi, hr]
    have hrest := ih (s := ticked idx io b' s) hn (fun h => by
      have hi : i ≠ idx := fun hi => hidx (hi ▸ h)
      rw [ticked_other hi]
      exact hs (.tail _ h)) hr'
    rcases result with (e | e) | (_ | ⟨kind, pointer, len⟩)
    · exact hr'
    · exact hrest
    · exact hrest
    · exact keeps_setMarker (J := OfSocket i fun x => x.rings = r) (fun _ _ h => h) _ _ hr'

section Service

variable [OutputPin P]

theorem keeps_socket_reset
    (h : ∀ j, Keeps (OfSocket (L := L) (D := D) (P := P) i Q) (resetSocket j)) :
    Keeps (OfSocket (L := L) (D := D) (P := P) i Q) reset := by
  have hdelay : Keeps (OfSocket (L := L) (D := D) (P := P) i Q) resetDelay :=
    keeps_resetDelay (keeps_socket_onBus _)
  have hpin (f : P → Bool × P) : Keeps (OfSocket (L := L) (D := D) (P := P) i Q) (onPin f) :=
    Keeps.zoom_of_set fun _ _ h => h
  have hsockets (slots : List (Fin 8)) :
      Keeps (OfSocket (L := L) (D := D) (P := P) i Q) (resetSockets slots) := by
    induction slots with
    | nil => exact Keeps.pure _
    | cons j rest ih => exact (h j).bind fun _ => ih
  refine keeps_holding (fun _ _ h => h) ?_
  refine (Keeps.always fun s h => by rw [Prog.run_zoom]; exact h).bind fun _ => ?_
  refine (keeps_setMarker (fun _ _ h => h) _).bind fun _ => (hpin _).bind fun _ =>
    hdelay.bind fun _ => (hpin _).bind fun _ => ?_
  refine (keeps_awaitChip (keeps_socket_onBus _) (keeps_socket_onBus _) _).bind fun _ =>
    (keeps_socket_onBus _).bind fun version => ?_
  split
  · exact Keeps.throw _
  · exact (hsockets _).bind fun _ => (keeps_socket_onBus _).bind fun _ =>
      (keeps_socket_onBus _).bind fun _ => (keeps_socket_onBus _).bind fun _ => keeps_socket_onBus _

/-- A pass, from what its loop and a reset make of slot `i`. -/
theorem triple_socket_service (hQR : ∀ x, Q x → R x)
    (hreset : ∀ j, Keeps (OfSocket (L := L) (D := D) (P := P) i R) (resetSocket j))
    (hrun : Triple (OfSocket (L := L) (D := D) (P := P) i Q) (runSockets (List.finRange 8))
      (fun _ => OfSocket i R) fun _ => OfSocket i R) :
    Triple (OfSocket (L := L) (D := D) (P := P) i Q) service (fun _ => OfSocket i R)
      fun _ => OfSocket i R := by
  intro s hs
  obtain ⟨inFlight, hbulk⟩ := bulkInFlight_returns s
  rw [service, wp_bind, wp, hbulk]
  cases inFlight with
  | true => exact hQR _ hs
  | false =>
    simp only [Bool.false_eq_true, if_false]
    rw [wp_bind]
    refine wp_mono (keeps_isLinkUp (J := OfSocket i Q) (fun _ _ h => h)
      (fun _ _ => keeps_socket_onBus _) s hs) (fun up s hs => ?_) fun _ s hs => hQR _ hs
    rw [wp_bind, wp_always, Prog.run_atom]
    have hs' : OfSocket i Q { s with linkUp := up } := hs
    cases up with
    | false =>
      simp only [Bool.not_false, if_true]
      split
      · rw [wp_bind]
        refine wp_mono (keeps_socket_reset hreset _ (hQR _ hs')) (fun _ s hs => ?_) fun _ _ hs => hs
        rw [wp_always, Prog.run_store]
        exact hs
      · exact hQR _ hs'
    | true =>
      simp only [Bool.not_true, Bool.false_eq_true, if_false, wp_bind]
      refine wp_mono (keeps_applyConfig (J := OfSocket i Q) (fun _ _ h => h) (fun _ _ h => h)
        (fun _ h => h) (fun _ _ => keeps_socket_onBus _) _ hs') (fun _ s hs => ?_)
        fun _ _ hs => hQR _ hs
      cases hbusy : (deviceCell.get s).busy with
      | true =>
        rw [run, wp, exec_holding_busy deviceCell _ hbusy]
        exact hQR _ hs
      | false =>
        rw [run, wp_holding deviceCell _ hbusy]
        exact hrun (setBusy deviceCell true s) hs

/-- The cell of the slot is held: a pass leaves the slot alone. -/
theorem keeps_held_service {x : Socket w} (hbusy : x.backend.busy = true) :
    Keeps (OfSocket (L := L) (D := D) (P := P) i (· = x)) service := by
  refine triple_socket_service (fun _ h => h) (fun j => ?_) (keeps_held_runSockets hbusy _)
  intro s hs
  by_cases hj : i = j
  · subst hj
    have hheld : ((backendCell i).get s).busy = true := by
      rw [show (backendCell i).get s = (s.sockets i).backend from rfl, hs, hbusy]
    rw [resetSocket, wp, exec_holding_busy _ _ hheld]
    exact hs
  · refine keeps_holding (J := OfSocket i (· = x)) (fun b s h => ?_) ?_ s hs
    · simpa [OfSocket, setBusy, backendCell, socketLens, hj] using h
    · refine (Keeps.always fun _ h => h).bind fun b => (keeps_socket_onBus _).bind fun _ =>
        Keeps.always fun s h => ?_
      simpa [OfSocket, backendCell, socketLens, hj] using h

/-- A pass that finds a slot just re-armed leaves its rings alone. -/
theorem triple_rearmed_service {p : Protocol} {b : SocketBackend} {r : SocketRings w}
    (hp : b.state.protocol = some p) :
    Triple (OfSocket (L := L) (D := D) (P := P) i (· = ⟨⟨b.rearmed p, false⟩, r⟩)) service
      (fun _ => OfSocket i fun x => x.rings = r) fun _ => OfSocket i fun x => x.rings = r := by
  refine triple_socket_service (fun _ h => by rw [h]) (fun j => ?_) fun s hs =>
    triple_rings_runSockets hp (List.nodup_finRange 8) (fun _ => by rw [hs]) (by rw [hs])
  refine keeps_holding (J := OfSocket i fun x => x.rings = r) (fun b s h => ?_) ?_
  · by_cases hj : i = j
    · subst hj
      simpa [OfSocket, setBusy, backendCell, socketLens, Socket.backendLens] using h
    · simpa [OfSocket, setBusy, backendCell, socketLens, hj] using h
  · refine (Keeps.always fun _ h => h).bind fun b => (keeps_socket_onBus _).bind fun _ =>
      Keeps.always fun s h => ?_
    by_cases hj : i = j
    · subst hj
      simpa [OfSocket, backendCell, socketLens, Socket.backendLens] using h
    · simpa [OfSocket, backendCell, socketLens, hj] using h

end Service

/-- The socket in slot `i` after a completion of `op` that captured `payload`. -/
def completed (op : BulkOp) (payload : List UInt8) (i : Fin 8) (x : Socket w) : Socket w :=
  if op.idx = i then { x with rings := { x.rings with rx := op.deliver payload x.rings.rx } } else x

theorem wp_socket_retireBulk (op : BulkOp) {txn : Transaction L D} {s : W6100 w L D P}
    {x : Socket w} (hfree : s.device.busy = false) (hbus : s.device.value.transport = .inFlight txn)
    (hx : s.sockets i = x) :
    wp (retireBulk op)
      (fun _ => OfSocket i (· = completed op (txn.buffers.rxWindow HEADER op.len) i x))
      (fun _ _ => False) s := by
  subst hx
  have hmark {s' : W6100 w L D P} (h : OfSocket i (· = completed op
      (txn.buffers.rxWindow HEADER op.len) i (s.sockets i)) s') : wp (setMarker none)
        (fun _ => OfSocket i
          (· = completed op (txn.buffers.rxWindow HEADER op.len) i (s.sockets i)))
        (fun _ _ => False) s' := by
    cases hb : s'.bulk.busy with
    | false => rwa [wp, exec_setMarker none hb]
    | true => rwa [wp, exec_setMarker_busy none hb]
  rw [retireBulk, wp_bind, wp_outcome, wp_holding deviceCell _ hfree, wp_zoom]
  have hset (cell : Transceiver L D) : OfSocket i
      (· = completed op (txn.buffers.rxWindow HEADER op.len) i (s.sockets i))
      (setBusy deviceCell false ((ioLens op.idx).set ⟨cell, { (s.sockets op.idx).rings with
        rx := op.deliver (txn.buffers.rxWindow HEADER op.len) (s.sockets op.idx).rings.rx }⟩
          (setBusy deviceCell true s))) := by
    by_cases hi : op.idx = i
    · subst hi
      simp [OfSocket, completed, setBusy, deviceCell, ioLens, transLens, ringsLens, socketLens,
        Socket.ringsLens]
    · have hi' : i ≠ op.idx := Ne.symm hi
      simp [OfSocket, completed, setBusy, deviceCell, ioLens, transLens, ringsLens, socketLens,
        hi, hi']
  exact (wp_finishBulk_iff hbus).mpr
    (wp_iff.mpr ⟨fun _ cell _ => hmark (hset cell), fun _ cell _ => hmark (hset cell)⟩)

variable [OutputPin P]

/-- What a completion leaves of the socket in slot `i`. -/
theorem socket_dmaComplete {s : W6100 w L D P} {x : Socket w} (hs : Settled s)
    {R : Socket w → Prop} (hnone : s.bulk.value = none → R x)
    (hsome : ∀ op payload, s.bulk.value = some op → payload.length = op.len →
      Triple (OfSocket (L := L) (D := D) (P := P) i (· = completed op payload i x)) service
        (fun _ => OfSocket i R) fun _ => OfSocket i R) :
    R ((((socketLens i).set x s).apply .dmaComplete).sockets i) := by
  obtain ⟨hfree, held, marker, ha, hin⟩ := hs
  have hx : ((socketLens i).set x s).sockets i = x := (socketLens i).get_set x s
  have hbulk : ((socketLens i).set x s).bulk = ⟨marker, false⟩ := hin.bulk
  rw [hin.bulk] at hnone hsome
  rw [apply, exec_dmaComplete (by rw [hbulk]), hbulk]
  cases marker with
  | none => exact hx.symm ▸ hnone rfl
  | some op =>
    cases held with
    | none => exact ha.elim
    | some txn =>
      have hretired := wp_socket_retireBulk op (s := (socketLens i).set x s) hfree hin.bus hx
      refine wp_state (J := OfSocket i R) ?_
      change wp (retireBulk op >>= fun _ => _) _ _ _
      rw [wp_bind]
      refine wp_mono hretired (fun _ s' hs' => ?_) fun _ _ h => h.elim
      rw [wp_bind, wp_outcome]
      have hafter := hsome op _ rfl ha.frame.rxWindow_length s' hs'
      exact wp_mono hafter (fun _ _ h => h) fun _ _ h => h

/-! ## A reconnect that is interrupted -/

/-- `reconnect` of the handle on slot `i`, as a program of the driver. -/
def reconnecting (p : Protocol) (i : Fin 8) : Prog (W6100 w L D P) (Except Error Unit) :=
  ExceptT.run (Code.zoom (socketLens i) p.reconnect)

/-- `reconnect`, `k` steps of it before a completion and `m` steps after. -/
def interrupted (p : Protocol) (i : Fin 8) (k m : Nat) (s : W6100 w L D P) :
    Prog (W6100 w L D P) (Except Error Unit) × W6100 w L D P :=
  let (rest, s') := Prog.stop k (reconnecting p i) s
  Prog.stop m rest (s'.apply .dmaComplete)

/-- No more is stored than fits. -/
def InRoom (rings : SocketRings w) : Prop :=
  (rings.rx.tail - rings.rx.head).toNat ≤ rings.rx.cap.toNat ∧
    (rings.tx.tail - rings.tx.head).toNat ≤ rings.tx.cap.toNat

/-- Wherever a completion comes once `reconnect` has begun: both rings are in room
at every step, and when `reconnect` has returned and the completion is over, the rx
ring holds nothing, not a byte and not a frame. -/
def ReconnectAtomic (p : Protocol) (i : Fin 8) (s : W6100 w L D P) : Prop :=
  ∀ k, 0 < k → InRoom (((Prog.stop k (reconnecting p i) s).2.sockets i).rings) ∧
    ∀ m, InRoom ((interrupted p i k m s).2.sockets i).rings ∧
      ∀ a, (interrupted p i k m s).1 = .ret a →
        let rx := ((interrupted p i k m s).2.sockets i).rings.rx
        SpscRing.contents rx = [] ∧ rx.framesIn = rx.framesOut

/-- Neither `tail` has gone beyond the capacity, and nothing is on its way into the
rx ring. -/
structure AtRestart (i : Fin 8) (s : W6100 w L D P) : Prop where
  room : InRoom (s.sockets i).rings
  rx : (s.sockets i).rings.rx.tail.toNat ≤ (s.sockets i).rings.rx.cap.toNat
  tx : (s.sockets i).rings.tx.tail.toNat ≤ (s.sockets i).rings.tx.cap.toNat
  awaited : ∀ op, s.bulk.value = some op → op.idx = i → ¬ op.Captures (s.sockets i).rings.rx

section Reconnect

variable {p : Protocol} {s : W6100 w L D P} {k m : Nat}

omit [SpiDmaDevice D] [OutputPin P] in
/-- The driver where `reconnect` has been stopped. -/
theorem stop_reconnecting (k : Nat) (s : W6100 w L D P) :
    Prog.stop k (reconnecting p i) s =
      ((Prog.stop k (ExceptT.run p.reconnect) (s.sockets i)).1.zoom (socketLens i),
        (socketLens i).set (Prog.stop k (ExceptT.run p.reconnect) (s.sockets i)).2 s) :=
  Prog.stop_zoom (socketLens i) k _ s

omit [SpiDmaDevice D] [OutputPin P] in
theorem stop_reconnecting_socket (k : Nat) (s : W6100 w L D P) :
    (Prog.stop k (reconnecting p i) s).2.sockets i =
      (Prog.stop k (ExceptT.run p.reconnect) (s.sockets i)).2 := by
  rw [stop_reconnecting]
  exact (socketLens i).get_set _ s

omit [SpiDmaDevice D] [OutputPin P] in
theorem Settled.free (hs : Settled s) (i : Fin 8) : (s.sockets i).backend.busy = false := by
  obtain ⟨-, _, _, -, hin⟩ := hs
  exact (hin.slots i).free

/-- Where nothing comes into the rx ring, a completion that finds the cell held leaves
the slot alone. -/
theorem held_dmaComplete {x : Socket w} (hs : Settled s) (hbusy : x.backend.busy = true)
    (hquiet : ∀ op payload, s.bulk.value = some op → payload.length = op.len →
      completed op payload i x = x) :
    (((socketLens i).set x s).apply .dmaComplete).sockets i = x := by
  refine socket_dmaComplete (R := (· = x)) hs (fun _ => rfl) fun op payload hop hlen => ?_
  rw [hquiet op payload hop hlen]
  exact keeps_held_service hbusy

/-- A completion that finds the slot re-armed brings into its rings what it captured,
and nothing else. -/
theorem rearmed_dmaComplete {b : SocketBackend} {r : SocketRings w} (hs : Settled s)
    (hp : b.state.protocol = some p) :
    let x := (((socketLens i).set ⟨⟨b.rearmed p, false⟩, r⟩ s).apply .dmaComplete).sockets i
    (s.bulk.value = none → x.rings = r) ∧ ∀ op, s.bulk.value = some op →
      ∃ payload : List UInt8, payload.length = op.len ∧
        x.rings = (completed op payload i ⟨⟨b.rearmed p, false⟩, r⟩).rings := by
  refine socket_dmaComplete (R := fun x => (s.bulk.value = none → x.rings = r) ∧
    ∀ op, s.bulk.value = some op → ∃ payload : List UInt8, payload.length = op.len ∧
      x.rings = (completed op payload i ⟨⟨b.rearmed p, false⟩, r⟩).rings) hs
    (fun hnone => ⟨fun _ => rfl, fun op hop => absurd (hnone.symm.trans hop) nofun⟩) ?_
  intro op payload hop hlen
  have hbackend : completed op payload i ⟨⟨b.rearmed p, false⟩, r⟩ = ⟨⟨b.rearmed p, false⟩,
      (completed op payload i ⟨⟨b.rearmed p, false⟩, r⟩).rings⟩ := by
    unfold completed
    split <;> rfl
  have hafter {s' : W6100 w L D P} (h : (s'.sockets i).rings =
      (completed op payload i ⟨⟨b.rearmed p, false⟩, r⟩).rings) :
      (s.bulk.value = none → (s'.sockets i).rings = r) ∧ ∀ op, s.bulk.value = some op →
        ∃ payload : List UInt8, payload.length = op.len ∧
          (s'.sockets i).rings = (completed op payload i ⟨⟨b.rearmed p, false⟩, r⟩).rings := by
    refine ⟨fun hnone => absurd (hnone.symm.trans hop) nofun, fun op' hop' => ?_⟩
    obtain rfl : op = op' := Option.some.inj (hop.symm.trans hop')
    exact ⟨payload, hlen, h⟩
  rw [hbackend]
  exact (triple_rearmed_service hp).consequence (fun _ h => h) (fun _ _ => hafter) fun _ _ => hafter

/-- What `AtRestart` says of a transfer in flight. -/
theorem completed_eq {op : BulkOp} {payload : List UInt8} {x : Socket w} {r : SpscRing w}
    (h : op.idx = i → ¬ op.Captures r) (hcap : x.rings.rx.cap = r.cap)
    (hlen : payload.length = op.len) : completed op payload i x = x := by
  unfold completed
  split
  next hi =>
    have hnot : ¬ op.Captures x.rings.rx := by
      unfold BulkOp.Captures
      rw [hcap]
      exact h hi
    rw [BulkOp.deliver_eq hnot hlen]
  next => rfl

theorem ReconnectAtomic.atRestart (hw : 0 < w) (hs : Settled s)
    (hp : (s.sockets i).backend.value.state.protocol = some p) (h : ReconnectAtomic p i s) :
    AtRestart i s := by
  have hrings (k : Nat) := (stop_reconnect (hs.free i) hp k).1
  have hroom (k : Nat) (hk : 0 < k) := (h k hk).1
  simp only [stop_reconnecting_socket, hrings] at hroom
  refine ⟨hroom 1 (by decide), ?_, ?_, fun op hop hi hcaptures => ?_⟩
  · have htail := (hroom 4 (by decide)).1
    rwa [show ((s.sockets i).rings.rx.clearing (4 - 3)).tail = (s.sockets i).rings.rx.tail from rfl,
      show ((s.sockets i).rings.rx.clearing (4 - 3)).head = 0 from rfl, sub_zero] at htail
  · have htail := (hroom 8 (by decide)).2
    rwa [show ((s.sockets i).rings.tx.clearing (8 - 7)).tail = (s.sockets i).rings.tx.tail from rfl,
      show ((s.sockets i).rings.tx.clearing (8 - 7)).head = 0 from rfl, sub_zero] at htail
  · -- the completion comes right behind the return
    obtain ⟨hret, hbackend⟩ := (stop_reconnect (hs.free i) hp 12).2.2 le_rfl
    have hsocket : (Prog.stop 12 (ExceptT.run p.reconnect) (s.sockets i)).2 =
        ⟨⟨(s.sockets i).backend.value.rearmed p, false⟩,
          (s.sockets i).rings.rx.clearing 9, (s.sockets i).rings.tx.clearing 5⟩ := by
      rw [← hbackend, ← hrings 12]
    have hstop : interrupted p i 12 0 s = (.ret (.ok ()), ((socketLens i).set
        ⟨⟨(s.sockets i).backend.value.rearmed p, false⟩, (s.sockets i).rings.rx.clearing 9,
          (s.sockets i).rings.tx.clearing 5⟩ s).apply .dmaComplete) := by
      rw [interrupted, stop_reconnecting, hret, hsocket]
      rfl
    obtain ⟨payload, hlen, hafter⟩ := (rearmed_dmaComplete hs hp).2 op hop
    have hempty := ((h 12 (by decide)).2 0).2 (.ok ()) (by rw [hstop])
    rw [hstop] at hempty
    dsimp only at hempty hafter
    rw [hafter, completed, if_pos hi] at hempty
    have hcaptures' : op.Captures ((s.sockets i).rings.rx.clearing 9) := by
      unfold BulkOp.Captures at hcaptures ⊢
      rwa [SpscRing.clearing_cap]
    refine BulkOp.deliver_shows hw hcaptures' hlen ?_ ?_ hempty.1 hempty.2 <;>
      rw [SpscRing.clearing_emptied _ (by decide)]

theorem AtRestart.reconnectAtomic (hs : Settled s)
    (hp : (s.sockets i).backend.value.state.protocol = some p) (h : AtRestart i s) :
    ReconnectAtomic p i s := by
  have hrings (k : Nat) := (stop_reconnect (hs.free i) hp k).1
  have hroom (k : Nat) : InRoom (Prog.stop k (ExceptT.run p.reconnect) (s.sockets i)).2.rings := by
    rw [hrings]
    exact ⟨SpscRing.clearing_room h.room.1 h.rx _, SpscRing.clearing_room h.room.2 h.tx _⟩
  have hquiet (k : Nat) (op : BulkOp) (payload : List UInt8) (hop : s.bulk.value = some op)
      (hlen : payload.length = op.len) : completed op payload i
        (Prog.stop k (ExceptT.run p.reconnect) (s.sockets i)).2 =
          (Prog.stop k (ExceptT.run p.reconnect) (s.sockets i)).2 :=
    completed_eq (h.awaited op hop) (by rw [hrings, SpscRing.clearing_cap]) hlen
  have hempty {n : Nat} (hn : 4 ≤ n) :
      SpscRing.contents ((s.sockets i).rings.rx.clearing n) = [] ∧
        ((s.sockets i).rings.rx.clearing n).framesIn =
          ((s.sockets i).rings.rx.clearing n).framesOut := by
    rw [SpscRing.clearing_emptied _ hn]
    exact ⟨SpscRing.contents_eq_nil (BitVec.sub_self 0), rfl⟩
  intro k hk
  refine ⟨by rw [stop_reconnecting_socket]; exact hroom k, fun m => ?_⟩
  obtain ⟨-, hheld, hreturned⟩ := stop_reconnect (hs.free i) hp k
  rw [interrupted, stop_reconnecting]
  dsimp only
  by_cases hlt : k < 12
  · -- the cell is held, and the call goes on as if nothing had happened
    have hafter := held_dmaComplete hs (hheld hk hlt).1 (hquiet k)
    rw [Prog.stop_zoom, show (socketLens i).get (((socketLens i).set
      (Prog.stop k (ExceptT.run p.reconnect) (s.sockets i)).2 s).apply .dmaComplete) =
        (Prog.stop k (ExceptT.run p.reconnect) (s.sockets i)).2 from hafter, ← Prog.stop_add]
    have hsocket (s' : W6100 w L D P) : ((socketLens i).set
        (Prog.stop (k + m) (ExceptT.run p.reconnect) (s.sockets i)).2 s').sockets i =
          (Prog.stop (k + m) (ExceptT.run p.reconnect) (s.sockets i)).2 :=
      (socketLens i).get_set _ s'
    rw [hsocket]
    refine ⟨hroom _, fun a ha => ?_⟩
    have hlast : 12 ≤ k + m := by
      by_contra hlt
      obtain ⟨-, act, next, hstep⟩ :=
        (stop_reconnect (hs.free i) hp (k + m)).2.1 (by omega) (Nat.lt_of_not_le hlt)
      rw [hstep] at ha
      cases ha
    rw [hrings]
    exact hempty (by omega)
  · obtain ⟨hret, hbackend⟩ := hreturned (Nat.le_of_not_lt hlt)
    have hsocket : (Prog.stop k (ExceptT.run p.reconnect) (s.sockets i)).2 =
        ⟨⟨(s.sockets i).backend.value.rearmed p, false⟩,
          (Prog.stop k (ExceptT.run p.reconnect) (s.sockets i)).2.rings⟩ := by rw [← hbackend]
    have hafter : ((((socketLens i).set (Prog.stop k (ExceptT.run p.reconnect) (s.sockets i)).2
        s).apply .dmaComplete).sockets i).rings =
          (Prog.stop k (ExceptT.run p.reconnect) (s.sockets i)).2.rings := by
      have hsame := hquiet k
      rw [hsocket] at hsame ⊢
      generalize (Prog.stop k (ExceptT.run p.reconnect) (s.sockets i)).2.rings = r at hsame ⊢
      obtain ⟨hnone, hsome⟩ := rearmed_dmaComplete (r := r) hs hp
      cases hbulk : s.bulk.value with
      | none => exact hnone hbulk
      | some op =>
        obtain ⟨payload, hlen, hcompleted⟩ := hsome op hbulk
        rw [hcompleted, hsame op payload hbulk hlen]
    rw [hret, Prog.zoom, Prog.stop_ret, hafter, hrings]
    exact ⟨hrings k ▸ hroom k, fun _ _ => hempty (by omega)⟩

/-- `reconnect` is atomic, wherever a completion comes once it has begun, exactly if
neither `tail` of the slot's rings has gone beyond the capacity and no transfer in
flight brings anything into the rx ring. -/
theorem reconnect_atomic_iff (hw : 0 < w) (hs : Settled s)
    (hp : (s.sockets i).backend.value.state.protocol = some p) :
    ReconnectAtomic p i s ↔ AtRestart i s :=
  ⟨fun h => h.atRestart hw hs hp, fun h => h.reconnectAtomic hs hp⟩

end Reconnect

/-! ## Concrete states -/

/-- The datagram of `arrival` has been announced and is on its way in. -/
def announced : W6100 64 16 (Logged Scripted) Unit :=
  ((lent.apply .service).apply .service).apply .service

/-- A second datagram of three bytes, after a pass that finds nothing. -/
def secondArrival : List (Option (List UInt8)) :=
  arrival ++ [some [0], some [0, 0]] ++
  -- the link, no interrupt, Sn_RX_RSR, Sn_RX_RD, the packet's header and its payload
  [some [1], some [0], some [0, 11], some [0, 11], some [0, 3, 10, 0, 0, 1, 0, 9], some [1, 2, 3]] ++
  List.replicate 3 (some [])

/-- A socket with a ring of 16 bytes has taken both. -/
def takenTwice : W6100 64 16 (Logged Scripted) Unit :=
  (fresh secondArrival).runCalls
    [.openUdp 7 (List.replicate 16 0) [], .service, .service, .service, .dmaComplete,
      .handle 0 (.udpRecvFrom 8), .service, .dmaComplete, .handle 0 (.udpRecvFrom 8)]

theorem announced_run : ∃ live, HandleRun live announced := by
  have hnew : HandleRun (fun _ => []) (fresh arrival) := .new _ _ _ _
  have hopen := hnew.call (.openUdp 7 (List.replicate 32 0) []) nofun
  exact ⟨_, ((hopen.call .service nofun).call .service nofun).call .service nofun⟩

theorem takenTwice_run : ∃ live, HandleRun live takenTwice := by
  have hnew : HandleRun (fun _ => []) (fresh secondArrival) := .new _ _ _ _
  have hopen := hnew.call (.openUdp 7 (List.replicate 16 0) []) nofun
  have hfirst := (((hopen.call .service nofun).call .service nofun).call .service nofun).call
    .dmaComplete nofun
  have htaken := hfirst.call (.handle 0 (.udpRecvFrom 8)) fun i call hc => by cases hc; decide
  have hsecond := (htaken.call .service nofun).call .dmaComplete nofun
  exact ⟨_, hsecond.call (.handle 0 (.udpRecvFrom 8)) fun i call hc => by cases hc; decide⟩

/-- A datagram that was announced before the call is in the ring after it; and the
ring of a socket that has taken two datagrams is out of room at the first store. -/
theorem reconnect_not_atomic :
    ((∃ live, HandleRun live announced) ∧ SpscRing.contents ((rxLens 0).get
        ((announced.apply (.handle 0 .udpReconnect)).apply .dmaComplete)) =
          [0, 3, 10, 0, 0, 1, 0, 9, 1, 2, 3] ∧ ¬ ReconnectAtomic .udp 0 announced) ∧
      (∃ live, HandleRun live takenTwice) ∧ takenTwice.bulk.value = none ∧
        ¬ ReconnectAtomic .udp 0 takenTwice := by
  obtain ⟨live, hrun⟩ := announced_run
  obtain ⟨live', hrun'⟩ := takenTwice_run
  refine ⟨⟨⟨live, hrun⟩, by decide +kernel, fun h => ?_⟩, ⟨live', hrun'⟩, by decide +kernel,
    fun h => ?_⟩
  · have hrestart := h.atRestart (by decide) hrun.tenanted.1 (by decide +kernel)
    obtain ⟨op, hop, hi, hkind⟩ : ∃ op, announced.bulk.value = some op ∧ op.idx = 0 ∧
        op.kind = .receiveDatagram 0x0A000001 9 := by decide +kernel
    refine hrestart.awaited op hop hi ?_
    rw [BulkOp.Captures, hkind]
    trivial
  · have hrestart := h.atRestart (by decide) hrun'.tenanted.1 (by decide +kernel)
    exact absurd hrestart.rx (by decide +kernel)

/-- A datagram that is in the ring is gone when `reconnect` returns. -/
theorem reconnect_atomic_iff_delivered :
    (∃ live, HandleRun live delivered) ∧ SpscRing.contents ((rxLens 0).get delivered) ≠ [] ∧
      ReconnectAtomic .udp 0 delivered := by
  obtain ⟨live, hrun⟩ := announced_run
  have hdelivered := hrun.call .dmaComplete nofun
  refine ⟨⟨_, hdelivered⟩, by decide +kernel, ?_⟩
  refine (reconnect_atomic_iff (by decide) hdelivered.tenanted.1 (by decide +kernel)).mpr ?_
  have hnone : delivered.bulk.value = none := by decide +kernel
  exact ⟨⟨by decide +kernel, by decide +kernel⟩, by decide +kernel, by decide +kernel,
    fun op hop => absurd (hnone.symm.trans hop) nofun⟩

end W6100

end Wiznet
