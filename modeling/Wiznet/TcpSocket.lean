import Wiznet.Socket

/-! # The TCP state machine

`TcpSocketState` of `tcp_socket.rs`: driven by the driver's `run`, one
non-blocking tick at a time. -/

namespace Wiznet
open Resumption Tick

inductive TcpMode where
  | connect (dstAddr : UInt32) (dstPort srcPort : UInt16)
  | listen (srcPort : UInt16)
  deriving DecidableEq, Repr

structure TcpSocketState where
  mode : TcpMode
  status : SocketStatus
  pendingError : Option Error
  /-- Set by the handle's `close`; acted on by the next tick. -/
  closeRequested : Bool
  deriving DecidableEq, Repr

namespace TcpSocketState

def connect (addr : UInt32) (port srcPort : UInt16) : TcpSocketState :=
  ⟨.connect addr port srcPort, .init, none, false⟩

def listen (port : UInt16) : TcpSocketState := ⟨.listen port, .init, none, false⟩

/-- What the handle reports: a stored error hides the machine's own status. -/
def reportedStatus (t : TcpSocketState) : SocketStatus :=
  if t.pendingError.isSome then .error else t.status

/-- Re-arm the socket so the next tick re-opens it on the chip. -/
def rearm (t : TcpSocketState) : TcpSocketState :=
  { t with status := .init, pendingError := none, closeRequested := false }

def requestClose (t : TcpSocketState) : TcpSocketState := { t with closeRequested := true }

def isClosed (t : TcpSocketState) : Bool :=
  match t.status with
  | .closed | .error | .timeout => true
  | _ => false

def withStatus (s : SocketStatus) (t : TcpSocketState) : TcpSocketState := { t with status := s }

variable {w L : Nat} {D : Type} [SpiDmaDevice D]

/-- One chunk after another until `toSend` bytes are staged on the chip or the
ring runs dry; returns the advanced pointer. Each round stages at least one
byte, so `toSend` rounds are enough. -/
def flushLoop (block : BlockAddress) (toSend : Nat) :
    Nat → UInt16 → Nat → Code Error (Tick TcpSocketState w L D) UInt16
  | 0, pointer, _ => pure pointer
  | fuel + 1, pointer, staged =>
    if staged < toSend then do
      let n := min 64 (toSend - staged)
      let got ← onTx (SpscRing.read n)
      if got.length = 0 then pure pointer
      else do
        onBus (writeTxBuffer block pointer got)
        flushLoop block toSend fuel (pointer + UInt16.ofNat got.length) (staged + got.length)
    else pure pointer

/-- Synchronous best-effort flush of the graceful-close path. -/
def flushSync (block : BlockAddress) : Code Error (Tick TcpSocketState w L D) Unit := do
  let pending ← onTx SpscRing.len
  if pending = 0 then pure ()
  else do
    let free ← onBus (getTxFreeSize block)
    let toSend := min pending.toNat free.toNat
    if toSend = 0 then pure ()
    else do
      let pointer ← onBus (getTxWritePointer block)
      let pointer ← flushLoop block toSend toSend pointer 0
      onBus (setTxWritePointer block pointer)
      onBus (sendSockCommand block .send)

/-- Act on a pending close request. The request is consumed first. -/
def handleClose (block : BlockAddress) : Code Error (Tick TcpSocketState w L D) Unit := do
  modifySelf fun t => { t with closeRequested := false }
  let t ← self
  match t.status with
  | .closed | .error | .timeout | .closingDueToError | .closingDueToTimeout | .closing => pure ()
  | .established => do
    flushSync block
    onBus (sendSockCommand block .disconnect)
    modifySelf (withStatus .closing)
  | .init | .opening | .connecting | .listening => do
    onBus (sendSockCommand block .close)
    modifySelf (withStatus .closing)

/-- Configure the hardware socket and issue `OPEN`. -/
def handleInit (block : BlockAddress) : Code Error (Tick TcpSocketState w L D) Unit := do
  onBus (initSocket block .tcp4)
  let t ← self
  let srcPort := match t.mode with
    | .connect _ _ srcPort => srcPort
    | .listen srcPort => srcPort
  onBus (setSrcPort block srcPort)
  onBus (sendSockCommand block .open)
  modifySelf (withStatus .opening)

/-- The `_` arm of the status matches: close the chip socket and report. -/
def unexpectedStatus {α : Type} (block : BlockAddress) :
    Code Error (Tick TcpSocketState w L D) α := do
  onBus (sendSockCommand block .close)
  modifySelf (withStatus .closingDueToError)
  throw (.other .unexpectedResponse)

/-- Wait for `OPEN`, then issue `CONNECT` or `LISTEN`. -/
def handleOpening (block : BlockAddress) : Code Error (Tick TcpSocketState w L D) Unit := do
  if ← onBus (isCommandPending block) then pure ()
  else do
    let status ← onBus (readStatus block)
    match status with
    | .init => do
      let t ← self
      match t.mode with
      | .connect dstAddr dstPort _ => do
        onBus (setIpv4DstAddr block dstAddr)
        onBus (setDstPort block dstPort)
        onBus (sendSockCommand block .connect)
        modifySelf (withStatus .connecting)
      | .listen _ => do
        onBus (sendSockCommand block .listen)
        modifySelf (withStatus .listening)
    -- the status register may lag a tick behind Sn_CR clearing
    | .closed => pure ()
    | _ => unexpectedStatus block

def handleConnecting (block : BlockAddress) : Code Error (Tick TcpSocketState w L D) Unit := do
  if ← onBus (isCommandPending block) then pure ()
  else do
    let interrupts ← onBus (getInterrupts block)
    if interrupts.contains .TIMEOUT then do
      onBus (clearInterrupts block .TIMEOUT)
      onBus (sendSockCommand block .close)
      modifySelf (withStatus .closingDueToTimeout)
    else do
      let status ← onBus (readStatus block)
      match status with
      | .established => do
        modifySelf (withStatus .established)
        onBus (clearInterrupts block .CON)
      -- handshake still in flight
      | .synsent | .init => pure ()
      -- reset or refused before the timeout fired
      | .closed => modifySelf (withStatus .closed)
      | _ => unexpectedStatus block

def handleListening (block : BlockAddress) : Code Error (Tick TcpSocketState w L D) Unit := do
  if ← onBus (isCommandPending block) then pure ()
  else do
    let status ← onBus (readStatus block)
    match status with
    | .listen | .synrecv => pure ()
    | .established | .closeWait => do
      modifySelf (withStatus .established)
      onBus (clearInterrupts block .CON)
    | .closed => do
      onBus (clearInterrupts block .TIMEOUT)
      modifySelf (withStatus .closed)
    | _ => unexpectedStatus block

/-- Start a DMA of as many received bytes as the rx ring has room for. -/
def receive (block : BlockAddress) : Code Error (Tick TcpSocketState w L D) BulkAction := do
  let available ← onBus (getRxReceivedSize block)
  if available.toNat = 0 then pure .none
  else do
    let free ← onRx SpscRing.free
    let toRead := min available.toNat free.toNat
    if toRead = 0 then pure .none
    else do
      let pointer ← onBus (getRxReadPointer block)
      onBus (startReadRxBuffer block pointer toRead)
      pure (.started .receive pointer toRead)

/-- Start a DMA of as many staged bytes as the chip has room for, draining the
tx ring straight into scratch. -/
def transmit (block : BlockAddress) : Code Error (Tick TcpSocketState w L D) BulkAction := do
  let pending ← onTx SpscRing.len
  if pending = 0 then pure .none
  else do
    let free ← onBus (getTxFreeSize block)
    let toSend := min pending.toNat free.toNat
    if toSend = 0 then pure .none
    else do
      let pointer ← onBus (getTxWritePointer block)
      startWriteTxBuffer bus block pointer toSend fun buf => do
        let got ← Prog.zoom tx (SpscRing.read buf.length)
        pure (copyFromSlice buf 0 got)
      pure (.started .transmit pointer toSend)

/-- Health check of an established connection, then move data. -/
def handleEstablished (block : BlockAddress) :
    Code Error (Tick TcpSocketState w L D) BulkAction := do
  let interrupts ← onBus (getInterrupts block)
  if interrupts.contains .TIMEOUT then do
    onBus (clearInterrupts block .TIMEOUT)
    onBus (sendSockCommand block .close)
    modifySelf (withStatus .closingDueToTimeout)
    pure .none
  else do
    (if interrupts.contains .DISCON then onBus (clearInterrupts block .DISCON) else pure ())
    let status ← onBus (readStatus block)
    match status with
    | .established => do
      match ← receive block with
      | .started kind pointer len => pure (.started kind pointer len)
      | .none => transmit block
    | .closeWait => do
      match ← receive block with
      | .started kind pointer len => pure (.started kind pointer len)
      | .none => do
        match ← transmit block with
        | .started kind pointer len => pure (.started kind pointer len)
        | .none => do
          let txLen ← onTx SpscRing.len
          let rxLen ← onRx SpscRing.len
          if txLen = 0 ∧ rxLen = 0 then do
            let size ← onBus (getRxReceivedSize block)
            if size.toNat = 0 then do
              onBus (sendSockCommand block .disconnect)
              modifySelf (withStatus .closing)
              pure .none
            else pure .none
          else pure .none
    | .closed => do
      modifySelf (withStatus .closed)
      pure .none
    | _ => unexpectedStatus block

def handleClosing (block : BlockAddress) : Code Error (Tick TcpSocketState w L D) Unit := do
  let status ← onBus (readStatus block)
  if status = .closed then modifySelf fun t => { t with status := t.status.afterClose }
  else pure ()

/-- The dispatch of `run`. -/
def dispatch (block : BlockAddress) (t : TcpSocketState) :
    Code Error (Tick TcpSocketState w L D) BulkAction :=
  if t.closeRequested then do handleClose block; pure .none
  else
    match t.status with
    | .init => do handleInit block; pure .none
    | .opening => do handleOpening block; pure .none
    | .connecting => do handleConnecting block; pure .none
    | .established => handleEstablished block
    | .listening => do handleListening block; pure .none
    | .closingDueToError | .closingDueToTimeout | .closing => do handleClosing block; pure .none
    | .timeout | .closed | .error => pure .none

/-- One non-blocking tick. An error other than `WouldBlock` is stored. -/
def run (block : BlockAddress) : Code Error (Tick TcpSocketState w L D) BulkAction := do
  let t ← self
  match ← Code.outcome (dispatch block t) with
  | .ok action => pure action
  | .error .wouldBlock => throw .wouldBlock
  | .error e => do
    modifySelf fun t => { t with pendingError := some e }
    pure .none

end TcpSocketState

end Wiznet
