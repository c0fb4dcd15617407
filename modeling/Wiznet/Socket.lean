import Wiznet.SocketCommon
import Wiznet.SpscRing

/-! # What the protocol state machines share

The status enumeration, the outcome of a tick and the ring pair of `socket.rs`,
and the state a tick works on: the machine's own fields, the transport and the
socket's rings. -/

namespace Wiznet
open Resumption

inductive SocketStatus where
  | init
  | opening
  | connecting
  | established
  | listening
  | closingDueToError
  | closingDueToTimeout
  | closing
  | timeout
  | error
  | closed
  deriving DecidableEq, Repr

/-- The last match of the two `handle_closing`. Their panicking arm is out of
reach, since `run` only dispatches the three closing states there. -/
def SocketStatus.afterClose : SocketStatus → SocketStatus
  | .closingDueToError => .error
  | .closingDueToTimeout => .timeout
  | .closing => .closed
  | s => s

/-- Which bulk payload transfer a socket started this tick. -/
inductive BulkKind where
  /-- TCP stream receive: captured bytes go straight into the rx ring. -/
  | receive
  /-- UDP datagram receive: the peer was read from the chip's packet header. -/
  | receiveDatagram (srcIp : UInt32) (srcPort : UInt16)
  /-- TX buffer write: finish commits the write pointer and sends. -/
  | transmit
  deriving DecidableEq, Repr

/-- Either nothing crossed the bus asynchronously, or a bulk DMA now owns it. -/
inductive BulkAction where
  | none
  | started (kind : BulkKind) (pointer : UInt16) (len : Nat)
  deriving DecidableEq, Repr

/-- The local rx/tx ring pair of a hardware socket. -/
structure SocketRings (w : Nat) where
  rx : SpscRing w
  tx : SpscRing w

/-- The bus and the rings, as a tick of one socket sees them. -/
structure Io (w L : Nat) (D : Type) where
  trans : Transceiver L D
  rings : SocketRings w

variable {w L : Nat} {D σ α : Type}

namespace SocketRings

def new : SocketRings w := ⟨SpscRing.new, SpscRing.new⟩

def rxLens : Lens (SocketRings w) (SpscRing w) where
  get r := r.rx
  set x r := { r with rx := x }
  get_set _ _ := rfl
  set_get _ := rfl
  set_set _ _ _ := rfl

def txLens : Lens (SocketRings w) (SpscRing w) where
  get r := r.tx
  set x r := { r with tx := x }
  get_set _ _ := rfl
  set_get _ := rfl
  set_set _ _ _ := rfl

/-- Install the backing buffers, once, at socket open. -/
def install (rx tx : List UInt8) : Prog (SocketRings w) Unit := do
  Prog.zoom rxLens (SpscRing.install rx)
  Prog.zoom txLens (SpscRing.install tx)

/-- Drop any buffered rx/tx bytes. -/
def clear : Prog (SocketRings w) Unit := do
  Prog.zoom rxLens SpscRing.clear
  Prog.zoom txLens SpscRing.clear

end SocketRings

namespace Io

def transLens : Lens (Io w L D) (Transceiver L D) where
  get io := io.trans
  set t io := { io with trans := t }
  get_set _ _ := rfl
  set_get _ := rfl
  set_set _ _ _ := rfl

def ringsLens : Lens (Io w L D) (SocketRings w) where
  get io := io.rings
  set r io := { io with rings := r }
  get_set _ _ := rfl
  set_get _ := rfl
  set_set _ _ _ := rfl

end Io

/-- What a tick of a state machine `σ` works on. -/
abbrev Tick (σ : Type) (w L : Nat) (D : Type) := σ × Io w L D

namespace Tick

def bus : Lens (Tick σ w L D) (Transceiver L D) := Lens.snd.comp Io.transLens

def rx : Lens (Tick σ w L D) (SpscRing w) :=
  Lens.snd.comp (Io.ringsLens.comp SocketRings.rxLens)

def tx : Lens (Tick σ w L D) (SpscRing w) :=
  Lens.snd.comp (Io.ringsLens.comp SocketRings.txLens)

def onBus (c : Code Error (Transceiver L D) α) : Code Error (Tick σ w L D) α := c.zoom bus

def onRx (p : Prog (SpscRing w) α) : Code Error (Tick σ w L D) α := Code.always (p.zoom rx)

def onTx (p : Prog (SpscRing w) α) : Code Error (Tick σ w L D) α := Code.always (p.zoom tx)

/-- The machine's own fields. -/
def self : Code Error (Tick σ w L D) σ := Code.always (Prog.load Prod.fst)

def modifySelf (f : σ → σ) : Code Error (Tick σ w L D) Unit :=
  Code.always (Prog.store fun c => (f c.1, c.2))

end Tick

end Wiznet
