import Wiznet.Control
import Wiznet.Backend
import Wiznet.TickSteps

/-! # What a tick does to the bus

A tick is synchronous accesses of its own socket and at most one start, and a
start ends it. What holds of the transport through the accesses, and of what an
observer has recorded of them, therefore holds at the end of the tick, or what
the start makes of it does. -/

namespace Wiznet
open Resumption Resumption.Code Tick

variable {w L : Nat} {D G σ α : Type}

/-! ## The shape of a tick -/

section Shape

variable {o : Observer (Transceiver L D) G} {J : Transceiver L D × G → Prop}
  {R : BulkKind → UInt16 → Nat → Transceiver L D × G → Prop}

/-- The bus of a tick and the record of it. -/
abbrev Tick.line (x : Tick σ w L D × G) : Transceiver L D × G := (x.1.2.trans, x.2)

/-- `J`, or `R` of the transfer that was started. -/
def Reports {X : Type} (J : X → Prop) (R : BulkKind → UInt16 → Nat → X → Prop) :
    BulkAction → X → Prop
  | .none, x => J x
  | .started kind pointer len, x => R kind pointer len x

theorem keeps_bus {c : Code Error (Transceiver L D) α} (h : Keeps J (c.watch o)) :
    Keeps (fun x : Tick σ w L D × G => J (line x)) ((onBus c).watch (seen o)) :=
  keeps_onBus (J := fun x => J (x.1.trans, x.2)) fun _ => h

/-- The rings are not on the bus. -/
theorem wp_watch_onRx {p : Prog (SpscRing w) α} {Q : α → Tick σ w L D × G → Prop}
    {E : Error → Tick σ w L D × G → Prop} {s : Tick σ w L D} {g : G} :
    wp ((onRx p).watch (seen o)) Q E (s, g) ↔ Q (p.run s.2.rings.rx).1
      ((s.1, ⟨s.2.trans, { s.2.rings with rx := (p.run s.2.rings.rx).2 }⟩), g) := by
  have hs := Prog.Silent.zoom (o := seen (σ := σ) o) (l := rx) (fun _ s g => o.note_self _ g) p
  rw [onRx, wp_watch_silent (Silent.always hs), wp_always, Prog.run_zoom]
  rfl

theorem wp_watch_onTx {p : Prog (SpscRing w) α} {Q : α → Tick σ w L D × G → Prop}
    {E : Error → Tick σ w L D × G → Prop} {s : Tick σ w L D} {g : G} :
    wp ((onTx p).watch (seen o)) Q E (s, g) ↔ Q (p.run s.2.rings.tx).1
      ((s.1, ⟨s.2.trans, { s.2.rings with tx := (p.run s.2.rings.tx).2 }⟩), g) := by
  have hs := Prog.Silent.zoom (o := seen (σ := σ) o) (l := tx) (fun _ s g => o.note_self _ g) p
  rw [onTx, wp_watch_silent (Silent.always hs), wp_always, Prog.run_zoom]
  rfl

theorem keeps_bus_onRx (p : Prog (SpscRing w) α) :
    Keeps (fun x : Tick σ w L D × G => J (line x)) ((onRx p).watch (seen o)) :=
  fun _ hx => wp_watch_onRx.mpr hx

theorem keeps_bus_onTx (p : Prog (SpscRing w) α) :
    Keeps (fun x : Tick σ w L D × G => J (line x)) ((onTx p).watch (seen o)) :=
  fun _ hx => wp_watch_onTx.mpr hx

theorem keeps_bus_self : Keeps (fun x : Tick σ w L D × G => J (line x)) (self.watch (seen o)) :=
  keeps_self (J := fun x => J (x.1.trans, x.2))

theorem keeps_bus_modifySelf (f : σ → σ) :
    Keeps (fun x : Tick σ w L D × G => J (line x)) ((modifySelf f).watch (seen o)) :=
  keeps_modifySelf (J := fun x => J (x.1.trans, x.2)) f

/-- A tick, or the end of one, that accounts for the bus and the rings. -/
abbrev Moves (o : Observer (Transceiver L D) G) (J : Io w L D × G → Prop)
    (R : BulkKind → UInt16 → Nat → Io w L D × G → Prop)
    (c : Code Error (Tick σ w L D) BulkAction) : Prop :=
  Triple (fun x => J (x.1.2, x.2)) (c.watch (seen o)) (fun a x => Reports J R a (x.1.2, x.2))
    fun _ x => J (x.1.2, x.2)

/-- One that accounts for the bus. -/
abbrev Accounts (o : Observer (Transceiver L D) G) (J : Transceiver L D × G → Prop)
    (R : BulkKind → UInt16 → Nat → Transceiver L D × G → Prop)
    (c : Code Error (Tick σ w L D) BulkAction) : Prop :=
  Moves o (fun x => J (x.1.trans, x.2)) (fun kind pointer len x => R kind pointer len (x.1.trans, x.2)) c

section Moves

variable {J : Io w L D × G → Prop} {R : BulkKind → UInt16 → Nat → Io w L D × G → Prop}

theorem moves_none : Moves o J R (pure .none : Code Error (Tick σ w L D) _) := fun _ h => h

theorem moves_throw (e : Error) : Moves o J R (throw e : Code Error (Tick σ w L D) _) :=
  fun _ h => h

/-- A handler that moves no data, as a whole tick. -/
theorem moves_of_keeps {c : Code Error (Tick σ w L D) α}
    (h : Keeps (fun x => J (x.1.2, x.2)) (c.watch (seen o))) :
    Moves o J R (do let _ ← c; pure .none) :=
  h.watch_andThen fun _ => moves_none

/-- Try `c` first, and `d` if it starts nothing. -/
theorem moves_orElse {c d : Code Error (Tick σ w L D) BulkAction} (hc : Moves o J R c)
    (hd : Moves o J R d) :
    Moves o J R (do
      match ← c with
      | .started kind pointer len => pure (.started kind pointer len)
      | .none => d) := by
  refine Triple.watch_bind hc fun a => ?_
  cases a with
  | none => exact hd
  | started kind pointer len => exact fun s h => h

end Moves

theorem accounts_none : Accounts o J R (pure .none : Code Error (Tick σ w L D) _) := moves_none

theorem accounts_of_keeps {c : Code Error (Tick σ w L D) α}
    (h : Keeps (fun x => J (line x)) (c.watch (seen o))) :
    Accounts o J R (do let _ ← c; pure .none) := moves_of_keeps h

theorem accounts_orElse {c d : Code Error (Tick σ w L D) BulkAction} (hc : Accounts o J R c)
    (hd : Accounts o J R d) :
    Accounts o J R (do
      match ← c with
      | .started kind pointer len => pure (.started kind pointer len)
      | .none => d) := moves_orElse hc hd

/-- The end of a tick, where an error other than `WouldBlock` is stored. -/
theorem triple_stored {c : Code Error (Tick σ w L D) BulkAction} {store : Error → σ → σ}
    {P E : Tick σ w L D × G → Prop} {Q : BulkAction → Tick σ w L D × G → Prop}
    (hc : Triple P (c.watch (seen o)) Q fun _ => E)
    (hstore : ∀ e s g, E (s, g) → Q .none ((store e s.1, s.2), g)) :
    Triple P (Code.watch (seen o) (do
      match ← Code.outcome c with
      | .ok action => pure action
      | .error .wouldBlock => throw .wouldBlock
      | .error e => do
        modifySelf (store e)
        pure .none)) Q fun _ => E := by
  refine Triple.watch_bind (R := fun result x => match result with
    | .ok a => Q a x
    | .error _ => E x) (fun x hx => ?_) ?_
  · rw [wp_watch_outcome]
    exact hc x hx
  · rintro (e | action)
    · cases e with
      | wouldBlock => exact fun _ h => h
      | other e =>
        rintro ⟨s, g⟩ h
        rw [wp_watch_bind, modifySelf, wp_watch_store, Observer.comap_note, Observer.comap_note,
          Observer.note_self]
        exact hstore _ s g h
    · exact fun _ h => h

/-- The same of a tick that nobody watches. -/
theorem triple_stored_plain {c : Code Error (Tick σ w L D) BulkAction} {store : Error → σ → σ}
    {P E : Tick σ w L D → Prop} {Q : BulkAction → Tick σ w L D → Prop}
    (hc : Triple P c Q fun _ => E) (hstore : ∀ e s, E s → Q .none (store e s.1, s.2)) :
    Triple P (do
      match ← Code.outcome c with
      | .ok action => pure action
      | .error .wouldBlock => throw .wouldBlock
      | .error e => do
        modifySelf (store e)
        pure .none) Q fun _ => E :=
  Triple.of_watch (triple_stored (o := .blind) (Triple.watch hc) fun e s _ h => hstore e s h)

end Shape

variable [SpiDmaDevice D]

/-- What a tick of the socket at `block` asks of the bus: `J` survives short
reads of its registers and its rx buffer and writes to its registers and its tx
buffer, and a start that succeeds turns `J` into `R`, if its fill leaves the bus
alone. -/
structure Serves (o : Observer (Transceiver L D) G) (block : BlockAddress)
    (J : Transceiver L D × G → Prop) (R : BulkKind → UInt16 → Nat → Transceiver L D × G → Prop) :
    Prop where
  read : ∀ addr n, addr.block = block.reg ∨ addr.block = block.rx → n ≤ 8 →
    Keeps J ((read addr n).watch o)
  write : ∀ addr data, addr.block = block.reg ∨ addr.block = block.tx → data.length ≤ 64 →
    Keeps J ((write addr data).watch o)
  startRead : ∀ kind pointer len, kind ≠ .transmit →
    Triple J ((startRead ⟨pointer, block.rx⟩ len).watch o) (fun _ => R kind pointer len) fun _ => J
  startWrite : ∀ {S : Type} (cell : Lens S (Transceiver L D)) pointer len fill,
    (∀ buf, (fill buf).Fixes cell.get) → Triple (fun x => J (cell.get x.1, x.2))
      ((startWrite cell ⟨pointer, block.tx⟩ len fill).watch (o.comap cell.get))
      (fun _ x => R .transmit pointer len (cell.get x.1, x.2)) fun _ x => J (cell.get x.1, x.2)

namespace Serves

variable {o : Observer (Transceiver L D) G} {block : BlockAddress} {J : Transceiver L D × G → Prop}
  {R : BulkKind → UInt16 → Nat → Transceiver L D × G → Prop}

theorem quiet (h : Serves o block J R) (mode : SocketProtocolMode) : Quiet o block mode J :=
  ⟨h.read, fun addr data hc => h.write addr data (.inl hc.block) (by have := hc.short; omega)⟩

theorem writeReg (h : Serves o block J R) {address : UInt16} {n v : Nat} (hn : n ≤ 64) :
    Keeps J ((Wiznet.write ⟨address, block.reg⟩ (BigEndian.encode n v)).watch o) :=
  h.write _ _ (.inl rfl) (by simpa using hn)

theorem accounts_startRead (h : Serves o block J R) {kind : BulkKind} {pointer : UInt16} {len : Nat}
    (hk : kind ≠ .transmit) :
    Accounts o J R (do
      onBus (startReadRxBuffer block pointer len)
      pure (.started kind pointer len) : Code Error (Tick σ w L D) _) := by
  rintro ⟨s, g⟩ hs
  rw [wp_watch_bind, onBus, wp_watch_zoom o fun _ _ _ => rfl]
  exact wp_mono (h.startRead kind pointer len hk _ hs) (fun _ _ h => h) fun _ _ h => h

theorem accounts_startWrite (h : Serves o block J R) {pointer : UInt16} {len : Nat}
    {fill : List UInt8 → Prog (Tick σ w L D) (List UInt8)}
    (hfill : ∀ buf, (fill buf).Fixes bus.get) :
    Triple (fun x => J (line x)) ((startWriteTxBuffer bus block pointer len fill).watch (seen o))
      (fun _ x => Reports J R (.started .transmit pointer len) (line x)) fun _ x => J (line x) :=
  h.startWrite bus pointer len fill hfill

end Serves

omit [SpiDmaDevice D] in
/-- A fill out of the tx ring leaves the bus alone. -/
theorem fixes_drain (buf : List UInt8) :
    (drain buf : Prog (Tick σ w L D) (List UInt8)).Fixes bus.get :=
  Prog.Fixes.bind (Prog.Fixes.zoom (fun _ _ => rfl) _) fun _ => trivial

/-! ## TCP -/

namespace TcpSocketState

variable {o : Observer (Transceiver L D) G} {block : BlockAddress} {J : Transceiver L D × G → Prop}
  {R : BulkKind → UInt16 → Nat → Transceiver L D × G → Prop}

section Io

variable {J : Io w L D × G → Prop} {R : BulkKind → UInt16 → Nat → Io w L D × G → Prop}

/-- `receive` where the accesses and the start account for the bus and the rings. -/
theorem moves_receive (hq : ∀ rings, Quiet o block .tcp4 fun x => J (⟨x.1, rings⟩, x.2))
    (hstart : ∀ rings pointer len, Triple (fun x => J (⟨x.1, rings⟩, x.2))
      ((startRead ⟨pointer, block.rx⟩ len).watch o)
      (fun _ x => R .receive pointer len (⟨x.1, rings⟩, x.2)) fun _ x => J (⟨x.1, rings⟩, x.2)) :
    Moves o J R (receive block) := by
  refine (keeps_onBus fun r => (hq r).getRxReceivedSize).watch_andThen fun available => ?_
  split
  · exact moves_none
  refine Keeps.watch_andThen (fun x hx => ?_) fun free => ?_
  · rw [wp_watch_onRx, SpscRing.run_free]
    exact hx
  dsimp only
  split
  · exact moves_none
  refine (keeps_onBus fun r => (hq r).getRxReadPointer).watch_andThen fun pointer => ?_
  rintro ⟨s, g⟩ hx
  rw [wp_watch_bind, onBus, wp_watch_zoom o fun _ _ _ => rfl]
  exact wp_mono (hstart s.2.rings pointer _ (s.2.trans, g) hx) (fun _ _ h => h) fun _ _ h => h

/-- Bytes that leave the tx ring for the chip do not matter to `J`. -/
structure Drains (o : Observer (Transceiver L D) G) (block : BlockAddress)
    (J : Io w L D × G → Prop) (R : BulkKind → UInt16 → Nat → Io w L D × G → Prop) : Prop where
  quiet : ∀ rings, Quiet o block .tcp4 fun x => J (⟨x.1, rings⟩, x.2)
  drained : ∀ io tx g, J (io, g) → J ({ io with rings := { io.rings with tx := tx } }, g)
  write : ∀ rings addr data,
    addr.block = block.tx ∨ addr = ⟨SN_TX_WR0, block.reg⟩ ∨ addr = ⟨SN_CR, block.reg⟩ →
      data.length ≤ 64 → Keeps (fun x => J (⟨x.1, rings⟩, x.2)) ((write addr data).watch o)
  startWrite : ∀ pointer len, Triple (fun x : Tick TcpSocketState w L D × G => J (x.1.2, x.2))
    ((startWriteTxBuffer bus block pointer len drain).watch (seen o))
    (fun _ x => R .transmit pointer len (x.1.2, x.2)) fun _ x => J (x.1.2, x.2)

namespace Drains

variable (h : Drains o block J R)
include h

theorem keeps_write {addr : Address} {data : List UInt8}
    (ha : addr.block = block.tx ∨ addr = ⟨SN_TX_WR0, block.reg⟩ ∨ addr = ⟨SN_CR, block.reg⟩)
    (hn : data.length ≤ 64) :
    Keeps (fun x : Tick TcpSocketState w L D × G => J (x.1.2, x.2))
      ((onBus (Wiznet.write addr data)).watch (seen o)) :=
  keeps_onBus fun r => h.write r _ _ ha hn

theorem keeps_len :
    Keeps (fun x : Tick TcpSocketState w L D × G => J (x.1.2, x.2))
      ((onTx SpscRing.len).watch (seen o)) := by
  intro x hx
  rw [wp_watch_onTx]
  exact h.drained _ _ _ hx

theorem moves_transmit : Moves o J R (transmit block) := by
  refine h.keeps_len.watch_andThen fun pending => ?_
  split
  · exact moves_none
  refine (keeps_onBus fun r => (h.quiet r).getTxFreeSize).watch_andThen fun free => ?_
  dsimp only
  split
  · exact moves_none
  refine (keeps_onBus fun r => (h.quiet r).getTxWritePointer).watch_andThen fun pointer => ?_
  exact (h.startWrite pointer _).watch_bind fun _ _ hx => hx

theorem keeps_flushLoop (toSend fuel : Nat) (pointer : UInt16) (staged : Nat) :
    Keeps (fun x => J (x.1.2, x.2))
      ((flushLoop (w := w) block toSend fuel pointer staged).watch (seen o)) := by
  induction fuel generalizing pointer staged with
  | zero => exact Keeps.watch_pure _
  | succ fuel ih =>
    unfold flushLoop
    split
    · refine Triple.watch_bind (R := fun got x => J (x.1.2, x.2) ∧ got.length ≤ 64) ?_ fun got => ?_
      · rintro ⟨s, g⟩ hx
        rw [wp_watch_onTx]
        exact ⟨h.drained _ _ _ hx,
          Nat.le_trans (SpscRing.length_run_read _ _) (Nat.min_le_left ..)⟩
      · split
        · exact fun s h => h.1
        · rintro s ⟨hx, hgot⟩
          exact ((h.keeps_write (.inl rfl) hgot).watch_bind fun _ => ih _ _) s hx
    · exact Keeps.watch_pure _

theorem keeps_flushSync : Keeps (fun x => J (x.1.2, x.2)) ((flushSync block).watch (seen o)) := by
  refine h.keeps_len.watch_bind fun pending => ?_
  split
  · exact Keeps.watch_pure _
  refine (keeps_onBus fun r => (h.quiet r).getTxFreeSize).watch_bind fun free => ?_
  dsimp only
  split
  · exact Keeps.watch_pure _
  refine (keeps_onBus fun r => (h.quiet r).getTxWritePointer).watch_bind fun pointer => ?_
  refine (h.keeps_flushLoop _ _ _ _).watch_bind fun pointer => ?_
  refine (h.keeps_write (.inr (.inl rfl)) (by simp)).watch_bind fun _ => ?_
  exact h.keeps_write (.inr (.inr rfl)) (by simp)

end Drains

end Io

section

variable (hs : Serves o block J R)
include hs

theorem drains : Drains (w := w) o block (fun x => J (x.1.trans, x.2))
    fun kind pointer len x => R kind pointer len (x.1.trans, x.2) where
  quiet _ := hs.quiet .tcp4
  drained _ _ _ h := h
  write _ addr data ha hn := by
    refine hs.write addr data ?_ hn
    rcases ha with ha | rfl | rfl
    · exact .inr ha
    · exact .inl rfl
    · exact .inl rfl
  startWrite _ _ := hs.accounts_startWrite fixes_drain

theorem accounts_receive : Accounts o J R (receive (w := w) block) :=
  moves_receive (fun _ => hs.quiet .tcp4) fun _ _ _ => hs.startRead _ _ _ (by simp)

theorem accounts_transmit : Accounts o J R (transmit (w := w) block) := (drains hs).moves_transmit

end

/-- What the tick of a connection is made of, besides the accesses that move no
data, for an invariant of the bus and the rings. -/
structure Conducts (o : Observer (Transceiver L D) G) (block : BlockAddress)
    (J : Io w L D × G → Prop) (R : BulkKind → UInt16 → Nat → Io w L D × G → Prop) : Prop where
  quiet : ∀ rings, Quiet o block .tcp4 fun x => J (⟨x.1, rings⟩, x.2)
  flush : Keeps (fun x => J (x.1.2, x.2)) ((flushSync block).watch (seen o))
  receive : Moves o J R (receive block)
  transmit : Moves o J R (transmit block)

namespace Conducts

variable {J : Io w L D × G → Prop} {R : BulkKind → UInt16 → Nat → Io w L D × G → Prop}
  (h : Conducts o block J R)
include h

theorem keeps_handleClose : Keeps (fun x => J (x.1.2, x.2)) ((handleClose block).watch (seen o)) := by
  have hclosing : Keeps (fun x : Tick TcpSocketState w L D × G => J (x.1.2, x.2))
      ((modifySelf (withStatus .closing)).watch (seen o)) := keeps_modifySelf _
  refine (keeps_modifySelf _).watch_bind fun _ => keeps_self.watch_bind fun t => ?_
  cases t.status with
  | closed | error | timeout | closingDueToError | closingDueToTimeout | closing =>
    exact Keeps.watch_pure _
  | established =>
    refine h.flush.watch_bind fun _ => ?_
    exact (keeps_onBus fun r => (h.quiet r).sendSockCommand (by decide)).watch_bind fun _ => hclosing
  | init | opening | connecting | listening =>
    exact (keeps_onBus fun r => (h.quiet r).sendSockCommand (by decide)).watch_bind fun _ => hclosing

theorem moves_handleEstablished : Moves o J R (handleEstablished block) := by
  refine (keeps_onBus fun r => (h.quiet r).getInterrupts).watch_andThen fun interrupts => ?_
  split
  · refine (keeps_onBus fun r => (h.quiet r).clearInterrupts _).watch_andThen fun _ => ?_
    refine (keeps_onBus fun r => (h.quiet r).sendSockCommand (by decide)).watch_andThen fun _ => ?_
    exact moves_of_keeps (keeps_modifySelf _)
  refine Keeps.watch_andThen ?_ fun _ => ?_
  · split
    · exact keeps_onBus fun r => (h.quiet r).clearInterrupts _
    · exact Keeps.watch_pure _
  refine (keeps_onBus fun r => (h.quiet r).readStatus).watch_andThen fun status => ?_
  cases status with
  | established => exact moves_orElse h.receive h.transmit
  | closeWait =>
    refine moves_orElse h.receive (moves_orElse h.transmit ?_)
    refine Keeps.watch_andThen (fun x hx => ?_) fun txLen => ?_
    · rw [wp_watch_onTx, SpscRing.run_len]
      exact hx
    refine Keeps.watch_andThen (fun x hx => ?_) fun rxLen => ?_
    · rw [wp_watch_onRx, SpscRing.run_len]
      exact hx
    split
    · refine (keeps_onBus fun r => (h.quiet r).getRxReceivedSize).watch_andThen fun size => ?_
      split
      · refine (keeps_onBus fun r => (h.quiet r).sendSockCommand (by decide)).watch_andThen
          fun _ => ?_
        exact moves_of_keeps (keeps_modifySelf _)
      · exact moves_none
    · exact moves_none
  | closed => exact moves_of_keeps (keeps_modifySelf _)
  | _ =>
    refine (keeps_onBus fun r => (h.quiet r).sendSockCommand (by decide)).watch_andThen fun _ => ?_
    exact (keeps_modifySelf _).watch_andThen fun _ => moves_throw _

theorem moves_dispatch (t : TcpSocketState) : Moves o J R (dispatch block t) := by
  unfold dispatch
  split
  · exact moves_of_keeps h.keeps_handleClose
  cases t.status with
  | init => exact moves_of_keeps (keeps_handleInit h.quiet)
  | opening => exact moves_of_keeps (keeps_handleOpening h.quiet)
  | connecting => exact moves_of_keeps (keeps_handleConnecting h.quiet)
  | established => exact h.moves_handleEstablished
  | listening => exact moves_of_keeps (keeps_handleListening h.quiet)
  | closingDueToError | closingDueToTimeout | closing =>
    exact moves_of_keeps (keeps_handleClosing h.quiet)
  | timeout | closed | error => exact moves_none

theorem moves_run : Moves o J R (run block) :=
  keeps_self.watch_andThen fun t => triple_stored (h.moves_dispatch t) fun _ _ _ h => h

end Conducts

section

variable (hs : Serves o block J R)
include hs

theorem conducts : Conducts (w := w) o block (fun x => J (x.1.trans, x.2))
    fun kind pointer len x => R kind pointer len (x.1.trans, x.2) where
  quiet _ := hs.quiet .tcp4
  flush := (drains hs).keeps_flushSync
  receive := accounts_receive hs
  transmit := accounts_transmit hs

theorem keeps_bus_handleClose :
    Keeps (fun x => J (line x)) ((handleClose (w := w) block).watch (seen o)) :=
  (conducts hs).keeps_handleClose

theorem accounts_handleEstablished :
    Accounts o J R (handleEstablished (w := w) block) := (conducts hs).moves_handleEstablished

theorem accounts_run : Accounts o J R (run (w := w) block) := (conducts hs).moves_run

end

end TcpSocketState

/-! ## UDP -/

namespace UdpSocketState

variable {o : Observer (Transceiver L D) G} {block : BlockAddress} {J : Transceiver L D × G → Prop}
  {R : BulkKind → UInt16 → Nat → Transceiver L D × G → Prop} (hs : Serves o block J R)
include hs

theorem keeps_bus_skipTo (pointer : UInt16) :
    Keeps J ((skipTo block pointer).watch o) := by
  have hq := hs.quiet .udp4
  refine (hs.writeReg (by decide)).watch_bind fun _ => ?_
  exact (hq.sendSockCommand (by decide)).watch_bind fun _ => hq.clearInterrupts _

theorem accounts_receive : Accounts o J R (receive (w := w) block) := by
  have hq := hs.quiet .udp4
  refine (keeps_bus hq.getRxReceivedSize).watch_andThen fun available => ?_
  split
  · exact accounts_none
  refine (keeps_bus hq.getRxReadPointer).watch_andThen fun start => ?_
  refine (keeps_bus (hq.readRxBuffer _)).watch_andThen fun head => ?_
  dsimp only
  split
  · exact accounts_none
  refine (keeps_bus_onRx _).watch_andThen fun capacity => ?_
  split
  · exact accounts_of_keeps (keeps_bus (keeps_bus_skipTo hs _))
  refine (keeps_bus_onRx _).watch_andThen fun free => ?_
  split
  · exact accounts_none
  split
  · refine (keeps_bus_onRx _).watch_andThen fun _ => (keeps_bus_onRx _).watch_andThen fun _ => ?_
    exact accounts_of_keeps (keeps_bus (keeps_bus_skipTo hs _))
  · exact hs.accounts_startRead (by simp)

theorem accounts_transmit : Accounts o J R (transmit (w := w) block) := by
  have hq := hs.quiet .udp4
  refine (keeps_bus_onTx _).watch_andThen fun frames => ?_
  split
  · exact accounts_none
  refine (keeps_bus_onTx _).watch_andThen fun head => ?_
  dsimp only
  refine (keeps_bus hq.getTxFreeSize).watch_andThen fun free => ?_
  split
  · exact accounts_none
  refine (keeps_bus_onTx _).watch_andThen fun _ => ?_
  refine (keeps_bus (hq.setIpv4DstAddr _)).watch_andThen fun _ => ?_
  refine (keeps_bus (hq.setDstPort _)).watch_andThen fun _ => ?_
  split
  · refine (keeps_bus (hs.writeReg (by decide))).watch_andThen fun _ => ?_
    exact accounts_of_keeps (keeps_bus_onTx _)
  · refine (keeps_bus hq.getTxWritePointer).watch_andThen fun pointer => ?_
    refine (hs.accounts_startWrite fixes_drain).watch_bind fun _ x h => ?_
    rw [wp_watch_bind, wp_watch_onTx]
    exact h

theorem accounts_handleEstablished :
    Accounts o J R (handleEstablished (w := w) block) := by
  have hq := hs.quiet .udp4
  refine (keeps_bus hq.getInterrupts).watch_andThen fun interrupts => ?_
  refine Keeps.watch_andThen ?_ fun _ =>
    accounts_orElse (accounts_receive hs) (accounts_transmit hs)
  split
  · exact keeps_bus (hq.clearInterrupts _)
  · exact Keeps.watch_pure _

theorem accounts_dispatch (u : UdpSocketState) :
    Accounts o J R (dispatch (w := w) block u) := by
  have hq : ∀ _ : SocketRings w, Quiet o block .udp4 fun x => J x := fun _ => hs.quiet .udp4
  unfold dispatch
  split
  · exact accounts_of_keeps (keeps_handleClose (J := fun x => J (x.1.trans, x.2)) hq)
  cases u.status with
  | init => exact accounts_of_keeps (keeps_handleInit (J := fun x => J (x.1.trans, x.2)) hq)
  | opening => exact accounts_of_keeps (keeps_handleOpening (J := fun x => J (x.1.trans, x.2)) hq)
  | established => exact accounts_handleEstablished hs
  | closingDueToError | closingDueToTimeout | closing =>
    exact accounts_of_keeps (keeps_handleClosing (J := fun x => J (x.1.trans, x.2)) hq)
  | connecting | listening | timeout | closed | error => exact accounts_none

theorem accounts_run : Accounts o J R (run (w := w) block) :=
  keeps_bus_self.watch_andThen fun u => triple_stored (accounts_dispatch hs u) fun _ _ _ h => h

end UdpSocketState

/-! ## A slot -/

namespace SocketBackend

@[simp] theorem reap_block (b : SocketBackend) : b.reap.block = b.block := by
  unfold reap
  split <;> rfl

/-- A slot whose handle is alive is not freed. -/
theorem reap_kept {b : SocketBackend} (h : b.releaseRequested = false) : b.reap = b := by
  simp [reap, h]

/-- One tick of a slot accounts for the bus and for what was recorded of it. -/
theorem run_watch_accounts {o : Observer (Transceiver L D) G} {J : Transceiver L D × G → Prop}
    {R : BulkKind → UInt16 → Nat → Transceiver L D × G → Prop} (b : SocketBackend)
    (hs : Serves o b.block J R) (io : Io w L D) (g : G) (h : J (io.trans, g)) :
    match (b.run.watch (o.comap Io.trans)).run (io, g) with
    | ((.ok action, _), io', g') => Reports J R action (io'.trans, g')
    | ((.error _, _), io', g') => J (io'.trans, g') := by
  unfold run
  cases b.state with
  | free => exact h
  | tcp t =>
    have ht := run_watch_withLocal_wp (TcpSocketState.accounts_run hs ((t, io), g) h)
    simp only [Prog.bind_eq, Prog.watch_bind, Prog.run_bind, Prog.pure_eq, Prog.watch, Prog.run_ret]
    rcases hr : ((Prog.withLocal (ExceptT.run (TcpSocketState.run b.block)) t).watch
      (o.comap Io.trans)).run (io, g) with ⟨⟨e | (_ | _), t'⟩, io', g'⟩ <;> rw [hr] at ht <;> exact ht
  | udp u =>
    have hu := run_watch_withLocal_wp (UdpSocketState.accounts_run hs ((u, io), g) h)
    simp only [Prog.bind_eq, Prog.watch_bind, Prog.run_bind, Prog.pure_eq, Prog.watch, Prog.run_ret]
    rcases hr : ((Prog.withLocal (ExceptT.run (UdpSocketState.run b.block)) u).watch
      (o.comap Io.trans)).run (io, g) with ⟨⟨e | (_ | _), u'⟩, io', g'⟩ <;> rw [hr] at hu <;> exact hu

/-- One tick of a slot whose TCP handle is alive: the slot stays with it. -/
theorem run_watch_conducts {o : Observer (Transceiver L D) G} {J : Io w L D × G → Prop}
    {R : BulkKind → UInt16 → Nat → Io w L D × G → Prop} {b : SocketBackend} {t : TcpSocketState}
    (hst : b.state = .tcp t) (hr : b.releaseRequested = false)
    (hc : TcpSocketState.Conducts o b.block J R) (io : Io w L D) (g : G) (h : J (io, g)) :
    match (b.run.watch (o.comap Io.trans)).run (io, g) with
    | ((result, b'), x) => ((∃ t', b'.state = .tcp t') ∧ b'.releaseRequested = false) ∧
      match result with
      | .ok action => Reports J R action x
      | .error _ => J x := by
  have hreap (st : BackendState) : reap { b with state := st } = { b with state := st } :=
    reap_kept hr
  have ht := run_watch_withLocal_wp (hc.moves_run ((t, io), g) h)
  unfold run
  simp only [hst, Prog.bind_eq, Prog.watch_bind, Prog.run_bind, Prog.pure_eq, Prog.watch,
    Prog.run_ret, hreap]
  rcases hrun : ((Prog.withLocal (ExceptT.run (TcpSocketState.run b.block)) t).watch
    (o.comap Io.trans)).run (io, g) with ⟨⟨e | action, t'⟩, x⟩ <;> rw [hrun] at ht <;>
    exact ⟨⟨⟨t', rfl⟩, hr⟩, ht⟩

/-- A tick stays at the block of its slot. -/
theorem run_block (b : SocketBackend) (io : Io w L D) : (b.run.run io).1.2.block = b.block := by
  unfold run
  cases b.state <;> simp only [Prog.bind_eq, Prog.run_bind, Prog.pure_eq, Prog.run_ret, reap_block]

/-- One tick of a slot accounts for the bus and stays at its block. -/
theorem run_accounts {J : Transceiver L D → Prop}
    {R : BulkKind → UInt16 → Nat → Transceiver L D → Prop} (b : SocketBackend)
    (hs : Serves .blind b.block (fun x => J x.1) fun kind pointer len x => R kind pointer len x.1)
    (io : Io w L D) (h : J io.trans) :
    (match (b.run.run io).1.1 with
      | .ok .none | .error _ => J (b.run.run io).2.trans
      | .ok (.started kind pointer len) => R kind pointer len (b.run.run io).2.trans) ∧
    (b.run.run io).1.2.block = b.block := by
  refine ⟨?_, run_block b io⟩
  have ha := run_watch_accounts b hs io () h
  obtain ⟨hr, hs⟩ := Prog.run_watch (o := Observer.blind.comap Io.trans) b.run io ()
  rcases hw : (b.run.watch (Observer.blind.comap Io.trans)).run (io, ()) with ⟨⟨r, b'⟩, io', g'⟩
  rw [hw] at ha hr hs
  rw [← hr, ← hs]
  rcases r with e | (_ | ⟨kind, pointer, len⟩) <;> exact ha

end SocketBackend

end Wiznet
