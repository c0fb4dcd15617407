import Wiznet.TcpSocket
import Wiznet.UdpSocket

/-! # Hardware socket slots and their handles

`SocketBackend` and `Socket` of `socket.rs`, the try-lock cell of
`atomic_cell.rs`, and the handle operations of `tcp_socket.rs` and
`udp_socket.rs`, which reach a slot through a shared reference. -/

namespace Wiznet
open Resumption

/-- A value behind a try-lock. -/
structure AtomicCell (α : Type) where
  value : α
  busy : Bool

def AtomicCell.new {α : Type} (a : α) : AtomicCell α := ⟨a, false⟩

/-- Run `body` with the guard of `cell` held, or fail with `WouldBlock`. The
guard is dropped on every way out. -/
def holding {S α β : Type} (cell : Lens S (AtomicCell α)) (body : Code Error S β) :
    Code Error S β := do
  Code.zoom cell (Code.attempt fun c =>
    if c.busy then (.error .wouldBlock, c) else (.ok (), { c with busy := true }))
  let result ← Code.outcome body
  Code.zoom cell (Code.attempt fun c => (.ok (), { c with busy := false }))
  ExceptT.mk (pure result)

/-- The value inside a held cell. -/
def cellValue {α : Type} : Lens (AtomicCell α) α where
  get c := c.value
  set a c := { c with value := a }
  get_set _ _ := rfl
  set_get _ := rfl
  set_set _ _ _ := rfl

/-- The protocol state machine of a slot. -/
inductive BackendState where
  | free
  | tcp (t : TcpSocketState)
  | udp (u : UdpSocketState)
  deriving DecidableEq, Repr

structure SocketBackend where
  block : BlockAddress
  state : BackendState
  /-- Set when the owning handle is dropped. -/
  releaseRequested : Bool
  deriving DecidableEq, Repr

namespace SocketBackend

def new (block : BlockAddress) : SocketBackend := ⟨block, .free, false⟩

def isFree (b : SocketBackend) : Bool :=
  match b.state with
  | .free => true
  | _ => false

/-- Claim a free slot; `false` leaves it as it is. -/
def claim (state : BackendState) (b : SocketBackend) : Bool × SocketBackend :=
  if b.isFree then (true, { b with state := state, releaseRequested := false }) else (false, b)

def claimTcp (t : TcpSocketState) : SocketBackend → Bool × SocketBackend := claim (.tcp t)

def claimUdp (u : UdpSocketState) : SocketBackend → Bool × SocketBackend := claim (.udp u)

/-- Apply a TCP operation if the slot holds a TCP socket (`as_tcp_mut`). -/
def mapTcp (f : TcpSocketState → TcpSocketState) (b : SocketBackend) : SocketBackend :=
  match b.state with
  | .tcp t => { b with state := .tcp (f t) }
  | _ => b

/-- Apply a UDP operation if the slot holds a UDP socket (`as_udp_mut`). -/
def mapUdp (f : UdpSocketState → UdpSocketState) (b : SocketBackend) : SocketBackend :=
  match b.state with
  | .udp u => { b with state := .udp (f u) }
  | _ => b

/-- Mark the slot for release and close whatever is running. -/
def requestRelease (b : SocketBackend) : SocketBackend :=
  { b with
    releaseRequested := true
    state := match b.state with
      | .tcp t => .tcp t.requestClose
      | .udp u => .udp u.requestClose
      | .free => .free }

def isTerminal (b : SocketBackend) : Bool :=
  match b.state with
  | .free => true
  | .tcp t => t.isClosed
  | .udp u => u.isClosed

/-- The end of `run`: free the slot once a requested release has finished. -/
def reap (b : SocketBackend) : SocketBackend :=
  if b.releaseRequested && b.isTerminal then { b with state := .free, releaseRequested := false }
  else b

/-- The end of `reset`: free a slot pending release, re-arm an occupied one. -/
def rearm (b : SocketBackend) : SocketBackend :=
  if b.releaseRequested then { b with state := .free, releaseRequested := false }
  else
    { b with
      state := match b.state with
        | .tcp t => .tcp t.rearm
        | .udp u => .udp u.rearm
        | .free => .free }

variable {w L : Nat} {D : Type} [SpiDmaDevice D]

/-- Drive the state machine for one tick. The slot's cell is held, so its
contents are private to the call and come back with the result. -/
def run (b : SocketBackend) : Prog (Io w L D) (Except Error BulkAction × SocketBackend) :=
  match b.state with
  | .free => pure (.ok .none, b.reap)
  | .tcp t => do
    let (result, t) ← Prog.withLocal (ExceptT.run (TcpSocketState.run b.block)) t
    pure (result, { b with state := .tcp t }.reap)
  | .udp u => do
    let (result, u) ← Prog.withLocal (ExceptT.run (UdpSocketState.run b.block)) u
    pure (result, { b with state := .udp u }.reap)

end SocketBackend

/-- A hardware socket: the protocol cell, and its rings outside the cell. -/
structure Socket (w : Nat) where
  backend : AtomicCell SocketBackend
  rings : SocketRings w

namespace Socket

variable {w : Nat}

def backendLens : Lens (Socket w) (AtomicCell SocketBackend) where
  get s := s.backend
  set b s := { s with backend := b }
  get_set _ _ := rfl
  set_get _ := rfl
  set_set _ _ _ := rfl

def ringsLens : Lens (Socket w) (SocketRings w) where
  get s := s.rings
  set r s := { s with rings := r }
  get_set _ _ := rfl
  set_get _ := rfl
  set_set _ _ _ := rfl

/-- Read or change the slot with its cell held. -/
def withBackend {α : Type} (f : SocketBackend → α × SocketBackend) : Code Error (Socket w) α :=
  holding backendLens (Code.always (Prog.zoom (backendLens.comp cellValue) (Prog.atom f)))

/-- Claim the slot for a new socket if it is free, and install its buffers. -/
def tryOpen (claim : SocketBackend → Bool × SocketBackend) (rx tx : List UInt8) :
    Code Error (Socket w) Bool :=
  holding backendLens do
    let b ← Code.always (Prog.load fun s => s.backend.value)
    if b.isFree then do
      Code.always (Prog.zoom ringsLens (SocketRings.install rx tx))
      let _ ← Code.always (Prog.zoom (backendLens.comp cellValue) (Prog.atom claim))
      pure true
    else pure false

end Socket

/-! ## Handles -/

namespace TcpSocket

variable {w : Nat}

def read (n : Nat) : Code Error (Socket w) (List UInt8) :=
  Code.always (Prog.zoom (Socket.ringsLens.comp SocketRings.rxLens) (SpscRing.read n))

def write (src : List UInt8) : Code Error (Socket w) Nat :=
  Code.always (Prog.zoom (Socket.ringsLens.comp SocketRings.txLens) (SpscRing.write src))

def status : Code Error (Socket w) SocketStatus :=
  Socket.withBackend fun b =>
    match b.state with
    | .tcp t => (t.reportedStatus, b)
    | _ => (.closed, b)

def close : Code Error (Socket w) Unit :=
  Socket.withBackend fun b => ((), b.mapTcp TcpSocketState.requestClose)

/-- Re-arm the socket and drop what the rings still hold, under the cell. -/
def reconnect : Code Error (Socket w) Unit :=
  holding Socket.backendLens do
    let b ← Code.always (Prog.load fun s => s.backend.value)
    match b.state with
    | .tcp _ => do
      Code.always (Prog.zoom (Socket.backendLens.comp cellValue)
        (Prog.store (SocketBackend.mapTcp TcpSocketState.rearm)))
      Code.always (Prog.zoom Socket.ringsLens SocketRings.clear)
    | _ => pure ()

/-- Dropping the handle; a contended cell is left alone. -/
def drop : Code Error (Socket w) Unit := do
  let _ ← Code.outcome (Socket.withBackend fun b => ((), b.requestRelease))

end TcpSocket

namespace UdpSocket

variable {w : Nat}

def recv (n : Nat) : Code Error (Socket w) Received :=
  Code.always (Prog.zoom (Socket.ringsLens.comp SocketRings.rxLens) (recvFrom n))

def send (src : List UInt8) (dst : SocketAddr) : Code Error (Socket w) Nat :=
  Code.always (Prog.zoom (Socket.ringsLens.comp SocketRings.txLens) (sendTo src dst))

def status : Code Error (Socket w) SocketStatus :=
  Socket.withBackend fun b =>
    match b.state with
    | .udp u => (u.reportedStatus, b)
    | _ => (.closed, b)

def close : Code Error (Socket w) Unit :=
  Socket.withBackend fun b => ((), b.mapUdp UdpSocketState.requestClose)

/-- Re-arm the socket and drop what the rings still hold, under the cell. -/
def reconnect : Code Error (Socket w) Unit :=
  holding Socket.backendLens do
    let b ← Code.always (Prog.load fun s => s.backend.value)
    match b.state with
    | .udp _ => do
      Code.always (Prog.zoom (Socket.backendLens.comp cellValue)
        (Prog.store (SocketBackend.mapUdp UdpSocketState.rearm)))
      Code.always (Prog.zoom Socket.ringsLens SocketRings.clear)
    | _ => pure ()

/-- Dropping the handle; a contended cell is left alone. -/
def drop : Code Error (Socket w) Unit := do
  let _ ← Code.outcome (Socket.withBackend fun b => ((), b.requestRelease))

end UdpSocket

end Wiznet
