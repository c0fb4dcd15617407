import Wiznet.CloseTick
import Wiznet.Ownership

/-! # What a tick does to its machine

While a transfer is in flight every first access of a tick is refused, so the
machine stays where it is. A tick that starts a transfer is one of an
established machine, and a machine that is shutting never moves data again. -/

namespace Wiznet
open Resumption Resumption.Code Tick

variable {w L : Nat} {D G σ α β : Type}

inductive Protocol where
  | tcp
  | udp
  deriving DecidableEq, Repr

/-- The protocol of an occupied slot. -/
def BackendState.protocol : BackendState → Option Protocol
  | .free => none
  | .tcp _ => some .tcp
  | .udp _ => some .udp

def BackendState.closeRequested : BackendState → Bool
  | .free => false
  | .tcp t => t.closeRequested
  | .udp u => u.closeRequested

namespace SocketBackend

/-- An occupied slot whose machine is on its way down, or there. -/
def isShutting (b : SocketBackend) : Bool :=
  match b.state with
  | .free => false
  | .tcp t => t.status.isShutting
  | .udp u => u.status.isShutting

/-- An occupied slot whose machine may still move data. -/
def isMoving (b : SocketBackend) : Bool := !b.isFree && !b.isShutting

/-- What the tick of a slot may make of its machine before it is reaped. -/
def SameStatus : BackendState → BackendState → Prop
  | .free, .free => True
  | .tcp t, .tcp t' => t'.status = t.status
  | .udp u, .udp u' => u'.status = u.status
  | _, _ => False

/-- What the ticks of a slot make of its machine while a transfer is in flight. -/
structure StallsTo (st st' : BackendState) : Prop where
  status : SameStatus st st'
  unrequested : st.closeRequested = false → st'.closeRequested = false

theorem isMoving_tcp {b : SocketBackend} {t : TcpSocketState} (h : b.state = .tcp t) :
    b.isMoving = !t.status.isShutting := by simp [isMoving, isFree, isShutting, h]

theorem isMoving_udp {b : SocketBackend} {u : UdpSocketState} (h : b.state = .udp u) :
    b.isMoving = !u.status.isShutting := by simp [isMoving, isFree, isShutting, h]

/-- Only a terminal machine is reaped, and a terminal machine does not move. -/
theorem isMoving_reap {b : SocketBackend} (h : b.isMoving = true) : b.reap = b := by
  have ht : b.isTerminal = false := by
    cases hst : b.state with
    | free => simp [isMoving, isFree, hst] at h
    | tcp t =>
      rw [isMoving_tcp hst] at h
      cases ht : t.status <;>
        simp_all [isTerminal, TcpSocketState.isClosed, SocketStatus.isShutting]
    | udp u =>
      rw [isMoving_udp hst] at h
      cases hu : u.status <;>
        simp_all [isTerminal, UdpSocketState.isClosed, SocketStatus.isShutting]
  simp [reap, ht]

theorem isMoving_of_sameStatus {b : SocketBackend} {st : BackendState}
    (h : SameStatus b.state st) (hb : b.isMoving = true) :
    ({ b with state := st } : SocketBackend).isMoving = true := by
  cases hst : b.state <;> cases st <;>
    simp_all [SameStatus, isMoving, isFree, isShutting]

end SocketBackend

/-! ## A bus in flight -/

/-- On a bus that holds a transfer `c` is refused at once, and leaves no trace. -/
def Blocked (c : Code Error (Transceiver L D) α) : Prop :=
  ∀ (G : Type) (o : Observer (Transceiver L D) G) (txn : Transaction L D) (g : G),
    exec (c.watch o) (.inFlight txn, g) = (.error .wouldBlock, .inFlight txn, g)

theorem Blocked.bind {c : Code Error (Transceiver L D) α} (h : Blocked c)
    (f : α → Code Error (Transceiver L D) β) : Blocked (c >>= f) := fun G o txn g => by
  rw [watch_bind, exec_bind_error (h G o txn g)]

theorem Blocked.map {c : Code Error (Transceiver L D) α} (h : Blocked c) (f : α → β) :
    Blocked (f <$> c) := fun G o txn g => by
  rw [watch_map, exec_map, h G o txn g]
  rfl

section Stalled

variable {o : Observer (Transceiver L D) G} {io : Io w L D} {T : σ → Prop} {g : G}

/-- The bus, the rings and the record as they were, and `T` of the machine. -/
def Stalled (io : Io w L D) (T : σ → Prop) (g : G) (x : Tick σ w L D × G) : Prop :=
  T x.1.1 ∧ x.1.2 = io ∧ x.2 = g

/-- A tick that is refused, or finds nothing to do. -/
abbrev Stalls (o : Observer (Transceiver L D) G) (io : Io w L D) (T : σ → Prop) (g : G)
    (c : Code Error (Tick σ w L D) BulkAction) : Prop :=
  Triple (Stalled io T g) (c.watch (seen o)) (fun a x => a = .none ∧ Stalled io T g x)
    fun _ => Stalled io T g

theorem triple_blocked {txn : Transaction L D} (hio : io.trans = .inFlight txn)
    {c : Code Error (Transceiver L D) α} (hc : Blocked c)
    (f : α → Code Error (Tick σ w L D) β) {Q : β → Tick σ w L D × G → Prop} :
    Triple (Stalled io T g) ((onBus c >>= f).watch (seen o)) Q fun _ => Stalled io T g := by
  rintro ⟨s, g'⟩ ⟨hT, hs, rfl⟩
  have htrans : s.2.trans = .inFlight txn := by rw [← hio, ← hs]
  rw [wp_watch_bind, onBus, wp_watch_zoom o fun _ _ _ => rfl, wp]
  rw [show bus.get s = s.2.trans from rfl, htrans, hc G o txn g', ← htrans]
  exact ⟨hT, hs, rfl⟩

theorem keeps_stalled_modifySelf {f : σ → σ} (hf : ∀ t, T t → T (f t)) :
    Keeps (Stalled (L := L) (D := D) io T g) ((modifySelf f).watch (seen o)) := by
  rintro ⟨s, g'⟩ ⟨hT, hs, rfl⟩
  rw [modifySelf, wp_watch_store]
  exact ⟨hf _ hT, hs, o.note_self _ _⟩

theorem stalls_none {T : σ → Prop} : Stalls o io T g (pure .none) := fun _ h => ⟨rfl, h⟩

/-- A handler that moves no data, as a whole tick. -/
theorem Keeps.stalls {c : Code Error (Tick σ w L D) α}
    (h : Keeps (Stalled io T g) (c.watch (seen o))) :
    Stalls o io T g (do let _ ← c; pure .none) := h.watch_andThen fun _ => stalls_none

/-- The machine's fields are read as they are. -/
theorem stalls_self {c : σ → Code Error (Tick σ w L D) α} {Q : α → Tick σ w L D × G → Prop}
    (hc : ∀ t, T t → Triple (Stalled io T g) ((c t).watch (seen o)) Q fun _ => Stalled io T g) :
    Triple (Stalled io T g) ((self >>= c).watch (seen o)) Q fun _ => Stalled io T g := by
  rintro ⟨s, g'⟩ hs
  rw [wp_watch_bind, self, wp_watch_load]
  exact hc _ hs.1 _ hs

theorem stalls_stored {c : Code Error (Tick σ w L D) BulkAction} {store : Error → σ → σ}
    (hc : Stalls o io T g c) (hstore : ∀ e t, T t → T (store e t)) :
    Stalls o io T g (do
      match ← Code.outcome c with
      | .ok action => pure action
      | .error .wouldBlock => throw .wouldBlock
      | .error e => do
        modifySelf (store e)
        pure .none) :=
  triple_stored hc fun e s _ h => ⟨rfl, hstore e s.1 h.1, h.2⟩

end Stalled

/-! ## The shape of a tick that starts a transfer -/

section Starts

theorem keeps_self_onBus {T : σ → Prop} (c : Code Error (Transceiver L D) α) :
    Keeps (fun s : Tick σ w L D => T s.1) (onBus c) := Keeps.zoom_of_set fun _ _ h => h

theorem keeps_self_onRx {T : σ → Prop} (p : Prog (SpscRing w) α) :
    Keeps (fun s : Tick σ w L D => T s.1) (onRx p) :=
  Keeps.always fun s hs => by rw [Prog.run_zoom]; exact hs

theorem keeps_self_onTx {T : σ → Prop} (p : Prog (SpscRing w) α) :
    Keeps (fun s : Tick σ w L D => T s.1) (onTx p) :=
  Keeps.always fun s hs => by rw [Prog.run_zoom]; exact hs

/-- A tick, or the end of one, that leaves its machine in `R` if it starts a
transfer. -/
abbrev Starts (T R : σ → Prop) (c : Code Error (Tick σ w L D) BulkAction) : Prop :=
  Triple (fun s => T s.1) c (fun a s => a ≠ .none → R s.1) fun _ _ => True

variable {T R : σ → Prop}

theorem starts_of_keeps {c : Code Error (Tick σ w L D) BulkAction}
    (h : Keeps (fun s => T s.1) c) : Starts T T c :=
  h.consequence (fun _ h => h) (fun _ _ h _ => h) fun _ _ _ => trivial

theorem starts_bind {c : Code Error (Tick σ w L D) α}
    {f : α → Code Error (Tick σ w L D) BulkAction} (hc : Keeps (fun s => T s.1) c)
    (hf : ∀ a, Starts T R (f a)) : Starts T R (c >>= f) :=
  Triple.bind (hc.consequence (fun _ h => h) (fun _ _ h => h) fun _ _ _ => trivial) hf

/-- A handler that starts nothing. -/
theorem starts_none (c : Code Error (Tick σ w L D) α) :
    Starts T R (do let _ ← c; pure .none) := fun s _ => by
  rw [wp_bind]
  exact wp_iff.mpr ⟨fun _ _ _ h => absurd rfl h, fun _ _ _ => trivial⟩

theorem starts_orElse {c d : Code Error (Tick σ w L D) BulkAction}
    (hc : Keeps (fun s => T s.1) c) (hd : Starts T T d) :
    Starts T T (do
      match ← c with
      | .started kind pointer len => pure (.started kind pointer len)
      | .none => d) := by
  refine starts_bind hc fun a => ?_
  cases a with
  | none => exact hd
  | started kind pointer len => exact fun s h _ => h

end Starts

variable [SpiDmaDevice D]

theorem blocked_read (addr : Address) (n : Nat) :
    Blocked (read addr n : Code Error (Transceiver L D) _) := fun G o txn g => by
  change (_, _, o.note (.inFlight txn) (.inFlight txn) g) = _
  rw [o.note_self]
  rfl

theorem blocked_write (addr : Address) (data : List UInt8) :
    Blocked (write addr data : Code Error (Transceiver L D) _) := fun G o txn g => by
  change (_, _, o.note (.inFlight txn) (.inFlight txn) g) = _
  rw [o.note_self]
  rfl

theorem blocked_readU8 (addr : Address) : Blocked (readU8 (L := L) (D := D) addr) :=
  (blocked_read _ _).map _

theorem blocked_readU16 (addr : Address) : Blocked (readU16 (L := L) (D := D) addr) :=
  (blocked_read _ _).map _

namespace TcpSocketState

variable {o : Observer (Transceiver L D) G} {io : Io w L D} {txn : Transaction L D} {g : G}
  {T : TcpSocketState → Prop}

theorem keeps_stalled_flushSync (hio : io.trans = .inFlight txn) (block : BlockAddress) :
    Keeps (Stalled io T g) ((flushSync block).watch (seen o)) := by
  refine Triple.watch_bind (R := fun _ => Stalled io T g) (fun x hx => ?_) fun pending => ?_
  · rw [wp_watch_onTx]
    exact hx
  · split
    · exact Keeps.watch_pure _
    · exact triple_blocked hio (blocked_readU16 _) _

/-- Nothing but a close request changes while a transfer is in flight. -/
theorem run_stalls (hio : io.trans = .inFlight txn) (block : BlockAddress)
    (hclose : ∀ t, T t → T { t with closeRequested := false })
    (hstore : ∀ e t, T t → T { t with pendingError := some e }) :
    Stalls o io T g (run block) := by
  refine stalls_self fun t _ => stalls_stored ?_ hstore
  unfold dispatch
  split
  · refine Keeps.stalls ((keeps_stalled_modifySelf hclose).watch_bind fun _ =>
      stalls_self fun t _ => ?_)
    cases t.status with
    | closed | error | timeout | closingDueToError | closingDueToTimeout | closing =>
      exact Keeps.watch_pure _
    | established =>
      exact (keeps_stalled_flushSync hio block).watch_bind fun _ =>
        triple_blocked hio (blocked_write _ _) _
    | init | opening | connecting | listening => exact triple_blocked hio (blocked_write _ _) _
  · cases t.status with
    | init =>
      exact Keeps.stalls (triple_blocked hio ((blocked_write _ _).bind _) _)
    | opening => exact Keeps.stalls (triple_blocked hio ((blocked_readU8 _).map _) _)
    | connecting => exact Keeps.stalls (triple_blocked hio ((blocked_readU8 _).map _) _)
    | established => exact triple_blocked hio ((blocked_readU8 _).map _) _
    | listening => exact Keeps.stalls (triple_blocked hio ((blocked_readU8 _).map _) _)
    | closingDueToError | closingDueToTimeout | closing =>
      exact Keeps.stalls (triple_blocked hio ((blocked_readU8 _).map _) _)
    | timeout | closed | error => exact stalls_none

end TcpSocketState

namespace UdpSocketState

variable {o : Observer (Transceiver L D) G} {io : Io w L D} {txn : Transaction L D} {g : G}
  {T : UdpSocketState → Prop}

/-- Nothing but a close request changes while a transfer is in flight. -/
theorem run_stalls (hio : io.trans = .inFlight txn) (block : BlockAddress)
    (hclose : ∀ u, T u → T { u with closeRequested := false })
    (hstore : ∀ e u, T u → T { u with pendingError := some e }) :
    Stalls o io T g (run block) := by
  refine stalls_self fun u _ => stalls_stored ?_ hstore
  unfold dispatch
  split
  · refine Keeps.stalls ((keeps_stalled_modifySelf hclose).watch_bind fun _ =>
      stalls_self fun u _ => ?_)
    cases u.status with
    | closed | error | timeout | closingDueToError | closingDueToTimeout | closing =>
      exact Keeps.watch_pure _
    | established | init | opening | connecting | listening =>
      exact triple_blocked hio (blocked_write _ _) _
  · cases u.status with
    | init =>
      exact Keeps.stalls (triple_blocked hio ((blocked_write _ _).bind _) _)
    | opening => exact Keeps.stalls (triple_blocked hio ((blocked_readU8 _).map _) _)
    | established => exact triple_blocked hio ((blocked_readU8 _).map _) _
    | closingDueToError | closingDueToTimeout | closing =>
      exact Keeps.stalls (triple_blocked hio ((blocked_readU8 _).map _) _)
    | connecting | listening | timeout | closed | error => exact stalls_none

end UdpSocketState

/-! ## A tick that starts a transfer -/

/-- The fill of a start takes from the ring only. -/
theorem keeps_self_startWrite {T : σ → Prop} (block : BlockAddress) (pointer : UInt16) (len : Nat) :
    Keeps (fun s : Tick σ w L D => T s.1) (startWriteTxBuffer bus block pointer len fun buf => do
      let got ← Prog.zoom tx (SpscRing.read buf.length)
      pure (copyFromSlice buf 0 got)) := by
  have hbus : ∀ {c : Code Error (Transceiver L D) Unit},
      Keeps (fun s : Tick σ w L D => T s.1) (Code.zoom bus c) := Keeps.zoom_of_set fun _ _ h => h
  refine Keeps.bind (Keeps.zoom_of_set fun _ _ h => h) fun out => ?_
  dsimp only
  split
  · exact hbus
  · refine Keeps.bind (Keeps.always fun s hs => ?_) fun _ => hbus
    simp only [Prog.bind_eq, Prog.run_bind, Prog.run_zoom]
    exact hs

namespace TcpSocketState

variable {T : TcpSocketState → Prop} {block : BlockAddress}

theorem keeps_self_receive :
    Keeps (fun s : Tick TcpSocketState w L D => T s.1) (receive block) := by
  refine (keeps_self_onBus _).bind fun available => ?_
  split
  · exact Keeps.pure _
  refine (keeps_self_onRx _).bind fun free => ?_
  dsimp only
  split
  · exact Keeps.pure _
  exact (keeps_self_onBus _).bind fun _ => (keeps_self_onBus _).bind fun _ => Keeps.pure _

theorem keeps_self_transmit :
    Keeps (fun s : Tick TcpSocketState w L D => T s.1) (transmit block) := by
  refine (keeps_self_onTx _).bind fun pending => ?_
  split
  · exact Keeps.pure _
  refine (keeps_self_onBus _).bind fun free => ?_
  dsimp only
  split
  · exact Keeps.pure _
  exact (keeps_self_onBus _).bind fun _ => (keeps_self_startWrite _ _ _).bind fun _ => Keeps.pure _

theorem starts_handleEstablished :
    Starts T T (handleEstablished (w := w) (L := L) (D := D) block) := by
  refine starts_bind (keeps_self_onBus _) fun interrupts => ?_
  split
  · refine starts_bind (keeps_self_onBus _) fun _ => starts_bind (keeps_self_onBus _) fun _ => ?_
    exact starts_none _
  refine starts_bind ?_ fun _ => starts_bind (keeps_self_onBus _) fun status => ?_
  · split
    · exact keeps_self_onBus _
    · exact Keeps.pure _
  cases status with
  | established => exact starts_orElse keeps_self_receive (starts_of_keeps keeps_self_transmit)
  | closeWait =>
    refine starts_orElse keeps_self_receive (starts_orElse keeps_self_transmit ?_)
    refine starts_bind (keeps_self_onTx _) fun txLen => ?_
    refine starts_bind (keeps_self_onRx _) fun rxLen => ?_
    split
    · refine starts_bind (keeps_self_onBus _) fun size => ?_
      split
      · exact starts_bind (keeps_self_onBus _) fun _ => starts_none _
      · exact starts_of_keeps (Keeps.pure _)
    · exact starts_of_keeps (Keeps.pure _)
  | closed => exact starts_none _
  | _ =>
    refine starts_bind (keeps_self_onBus _) fun _ => fun s _ => ?_
    rw [wp_bind, modifySelf, wp_always]
    trivial

theorem starts_dispatch (t : TcpSocketState) :
    Starts (· = t) (fun t' => t' = t ∧ t.status = .established)
      (dispatch (w := w) (L := L) (D := D) block t) := by
  unfold dispatch
  split
  · exact starts_none _
  · cases hst : t.status with
    | established => simpa using starts_handleEstablished (T := (· = t))
    | timeout | closed | error => exact starts_none (pure ())
    | _ => exact starts_none _

/-- Only an established machine starts a transfer, and it stays as it is. -/
theorem run_starts (block : BlockAddress) (t : TcpSocketState) :
    Starts (· = t) (fun t' => t' = t ∧ t.status = .established)
      (run (w := w) (L := L) (D := D) block) := by
  rintro s rfl
  rw [run, wp_bind, self, wp_always]
  exact triple_stored_plain (starts_dispatch s.1) (fun _ _ _ h => absurd rfl h) s rfl

end TcpSocketState

namespace UdpSocketState

variable {T : UdpSocketState → Prop} {block : BlockAddress}

theorem keeps_self_receive :
    Keeps (fun s : Tick UdpSocketState w L D => T s.1) (receive block) := by
  refine (keeps_self_onBus _).bind fun available => ?_
  split
  · exact Keeps.pure _
  refine (keeps_self_onBus _).bind fun start => (keeps_self_onBus _).bind fun head => ?_
  dsimp only
  split
  · exact Keeps.pure _
  refine (keeps_self_onRx _).bind fun capacity => ?_
  split
  · exact (keeps_self_onBus _).bind fun _ => Keeps.pure _
  refine (keeps_self_onRx _).bind fun free => ?_
  split
  · exact Keeps.pure _
  split
  · refine (keeps_self_onRx _).bind fun _ => (keeps_self_onRx _).bind fun _ => ?_
    exact (keeps_self_onBus _).bind fun _ => Keeps.pure _
  · exact (keeps_self_onBus _).bind fun _ => Keeps.pure _

theorem keeps_self_transmit :
    Keeps (fun s : Tick UdpSocketState w L D => T s.1) (transmit block) := by
  refine (keeps_self_onTx _).bind fun frames => ?_
  split
  · exact Keeps.pure _
  refine (keeps_self_onTx _).bind fun head => ?_
  dsimp only
  refine (keeps_self_onBus _).bind fun free => ?_
  split
  · exact Keeps.pure _
  refine (keeps_self_onTx _).bind fun _ => (keeps_self_onBus _).bind fun _ => ?_
  refine (keeps_self_onBus _).bind fun _ => ?_
  split
  · exact (keeps_self_onBus _).bind fun _ => (keeps_self_onTx _).bind fun _ => Keeps.pure _
  · refine (keeps_self_onBus _).bind fun pointer => (keeps_self_startWrite _ _ _).bind fun _ => ?_
    exact (keeps_self_onTx _).bind fun _ => Keeps.pure _

theorem keeps_self_handleEstablished :
    Keeps (fun s : Tick UdpSocketState w L D => T s.1) (handleEstablished block) := by
  refine (keeps_self_onBus _).bind fun interrupts => Keeps.bind ?_ fun _ => ?_
  · split
    · exact keeps_self_onBus _
    · exact Keeps.pure _
  refine keeps_self_receive.bind fun a => ?_
  cases a with
  | none => exact keeps_self_transmit
  | started kind pointer len => exact Keeps.pure _

theorem starts_dispatch (u : UdpSocketState) :
    Starts (· = u) (fun u' => u' = u ∧ u.status = .established)
      (dispatch (w := w) (L := L) (D := D) block u) := by
  unfold dispatch
  split
  · exact starts_none _
  · cases hst : u.status with
    | established =>
      simpa using starts_of_keeps (keeps_self_handleEstablished (T := (· = u)))
    | connecting | listening | timeout | closed | error => exact starts_none (pure ())
    | _ => exact starts_none _

/-- Only an established machine starts a transfer, and it stays as it is. -/
theorem run_starts (block : BlockAddress) (u : UdpSocketState) :
    Starts (· = u) (fun u' => u' = u ∧ u.status = .established)
      (run (w := w) (L := L) (D := D) block) := by
  rintro s rfl
  rw [run, wp_bind, self, wp_always]
  exact triple_stored_plain (starts_dispatch s.1) (fun _ _ _ h => absurd rfl h) s rfl

end UdpSocketState

/-! ## A tick of a slot -/

namespace SocketBackend

variable {b b' : SocketBackend} {io io' : Io w L D} {r : Except Error BulkAction}

/-- In flight a tick starts nothing and leaves the bus, the rings and the record
of them alone; the machine keeps its status. -/
theorem run_stalls (b : SocketBackend) {io : Io w L D} {txn : Transaction L D}
    (o : Observer (Transceiver L D) G) (g : G) (hio : io.trans = .inFlight txn) :
    match (b.run.watch (o.comap Io.trans)).run (io, g) with
    | ((r, b'), io', g') => (∀ a, r = .ok a → a = .none) ∧ io' = io ∧ g' = g ∧
        ∃ st, StallsTo b.state st ∧ b' = reap { b with state := st } := by
  unfold run
  cases hst : b.state with
  | free => exact ⟨fun a h => by cases h; rfl, rfl, rfl, .free, ⟨trivial, id⟩, by rw [← hst]⟩
  | tcp t =>
    have ht := run_watch_withLocal_wp (TcpSocketState.run_stalls (o := o) (g := g)
      (T := fun t' => StallsTo (.tcp t) (.tcp t')) hio b.block (fun _ h => ⟨h.1, fun _ => rfl⟩)
      (fun _ _ h => ⟨h.1, h.2⟩) ((t, io), g) ⟨⟨rfl, id⟩, rfl, rfl⟩)
    simp only [Prog.bind_eq, Prog.watch_bind, Prog.run_bind, Prog.pure_eq, Prog.watch, Prog.run_ret]
    rcases hr : ((Prog.withLocal (ExceptT.run (TcpSocketState.run b.block)) t).watch
      (o.comap Io.trans)).run (io, g) with ⟨⟨e | a, t'⟩, io', g'⟩ <;> rw [hr] at ht
    · exact ⟨by rintro _ ⟨⟩, ht.2.1, ht.2.2, .tcp t', ht.1, rfl⟩
    · refine ⟨fun a' ha => ?_, ht.2.2.1, ht.2.2.2, .tcp t', ht.2.1, rfl⟩
      cases ha
      exact ht.1
  | udp u =>
    have hu := run_watch_withLocal_wp (UdpSocketState.run_stalls (o := o) (g := g)
      (T := fun u' => StallsTo (.udp u) (.udp u')) hio b.block (fun _ h => ⟨h.1, fun _ => rfl⟩)
      (fun _ _ h => ⟨h.1, h.2⟩) ((u, io), g) ⟨⟨rfl, id⟩, rfl, rfl⟩)
    simp only [Prog.bind_eq, Prog.watch_bind, Prog.run_bind, Prog.pure_eq, Prog.watch, Prog.run_ret]
    rcases hr : ((Prog.withLocal (ExceptT.run (UdpSocketState.run b.block)) u).watch
      (o.comap Io.trans)).run (io, g) with ⟨⟨e | a, u'⟩, io', g'⟩ <;> rw [hr] at hu
    · exact ⟨by rintro _ ⟨⟩, hu.2.1, hu.2.2, .udp u', hu.1, rfl⟩
    · refine ⟨fun a' ha => ?_, hu.2.2.1, hu.2.2.2, .udp u', hu.2.1, rfl⟩
      cases ha
      exact hu.1

/-- A slot that starts a transfer is established, and stays as it is. -/
theorem run_starts {kind : BulkKind} {pointer : UInt16} {len : Nat}
    (h : (b.run.run io).1 = (.ok (.started kind pointer len), b')) :
    b.isMoving = true ∧ b' = b := by
  unfold run at h
  cases hst : b.state with
  | free => rw [hst] at h; cases h
  | tcp t =>
    simp only [hst, Prog.bind_eq, Prog.run_bind, Prog.pure_eq, Prog.run_ret] at h
    have ht := run_withLocal_wp (TcpSocketState.run_starts b.block t (t, io) rfl)
    rcases hr : (Prog.withLocal (ExceptT.run (TcpSocketState.run b.block)) t).run io with
      ⟨⟨e | a, t'⟩, io'⟩ <;> rw [hr] at ht h <;> cases h
    obtain ⟨rfl, he⟩ := ht nofun
    have hm : b.isMoving = true := by rw [isMoving_tcp hst, he]; rfl
    exact ⟨hm, by rw [← hst]; exact isMoving_reap hm⟩
  | udp u =>
    simp only [hst, Prog.bind_eq, Prog.run_bind, Prog.pure_eq, Prog.run_ret] at h
    have hu := run_withLocal_wp (UdpSocketState.run_starts b.block u (u, io) rfl)
    rcases hr : (Prog.withLocal (ExceptT.run (UdpSocketState.run b.block)) u).run io with
      ⟨⟨e | a, u'⟩, io'⟩ <;> rw [hr] at hu h <;> cases h
    obtain ⟨rfl, he⟩ := hu nofun
    have hm : b.isMoving = true := by rw [isMoving_udp hst, he]; rfl
    exact ⟨hm, by rw [← hst]; exact isMoving_reap hm⟩

/-- A slot that is shutting moves no data; it stays so, or is freed. -/
theorem run_rests (io : Io w L D) (hb : b.isShutting = true) :
    (∀ a, (b.run.run io).1.1 = .ok a → a = .none) ∧ (b.run.run io).2.rings = io.rings ∧
      ((b.run.run io).1.2.isFree = true ∨ (b.run.run io).1.2.isShutting = true) := by
  have hreap : ∀ b : SocketBackend, b.isShutting = true →
      b.reap.isFree = true ∨ b.reap.isShutting = true := fun b h => by
    unfold reap
    split
    · exact .inl rfl
    · exact .inr h
  unfold run
  cases hst : b.state with
  | free => simp [isShutting, hst] at hb
  | tcp t =>
    have hshut : t.Shutting := by simpa [isShutting, hst] using hb
    have ht := run_withLocal_wp (TcpSocketState.run_rests b.block io.rings (t, io) ⟨hshut, rfl⟩)
    simp only [Prog.bind_eq, Prog.run_bind, Prog.pure_eq, Prog.run_ret]
    rcases hr : (Prog.withLocal (ExceptT.run (TcpSocketState.run b.block)) t).run io with
      ⟨⟨e | a, t'⟩, io'⟩ <;> rw [hr] at ht
    · exact ⟨nofun, ht.2, hreap _ (by simpa [isShutting] using ht.1)⟩
    · refine ⟨fun a' ha => ?_, ht.2.2, hreap _ (by simpa [isShutting] using ht.2.1)⟩
      cases ha
      exact ht.1
  | udp u =>
    have hshut : u.Shutting := by simpa [isShutting, hst] using hb
    have hu := run_withLocal_wp (UdpSocketState.run_rests b.block io.rings (u, io) ⟨hshut, rfl⟩)
    simp only [Prog.bind_eq, Prog.run_bind, Prog.pure_eq, Prog.run_ret]
    rcases hr : (Prog.withLocal (ExceptT.run (UdpSocketState.run b.block)) u).run io with
      ⟨⟨e | a, u'⟩, io'⟩ <;> rw [hr] at hu
    · exact ⟨nofun, hu.2, hreap _ (by simpa [isShutting] using hu.1)⟩
    · refine ⟨fun a' ha => ?_, hu.2.2, hreap _ (by simpa [isShutting] using hu.2.1)⟩
      cases ha
      exact hu.1

/-- A free slot has nothing to tick. -/
theorem run_free (hb : b.isFree = true) : b.run.run io = ((.ok .none, b.reap), io) := by
  unfold run
  cases hst : b.state <;> simp_all [isFree]

/-- A tick keeps the protocol of a slot, and whether its handle is gone, unless
the slot is freed. -/
theorem run_protocol (b : SocketBackend) (io : Io w L D) :
    ∃ st, st.protocol = b.state.protocol ∧ (b.run.run io).1.2 = reap { b with state := st } := by
  cases hst : b.state with
  | free => exact ⟨.free, rfl, by rw [run_free (by simp [isFree, hst]), ← hst]⟩
  | tcp t =>
    refine ⟨.tcp (((ExceptT.run (TcpSocketState.run b.block)).withLocal t).run io).1.2, rfl, ?_⟩
    unfold run
    simp only [hst, Prog.bind_eq, Prog.run_bind, Prog.pure_eq, Prog.run_ret]
  | udp u =>
    refine ⟨.udp (((ExceptT.run (UdpSocketState.run b.block)).withLocal u).run io).1.2, rfl, ?_⟩
    unfold run
    simp only [hst, Prog.bind_eq, Prog.run_bind, Prog.pure_eq, Prog.run_ret]

end SocketBackend

end Wiznet
