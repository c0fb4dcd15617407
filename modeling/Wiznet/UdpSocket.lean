import Wiznet.Socket

/-! # The UDP state machine

`UdpSocketState` of `udp_socket.rs` and the ring side of its handle. Datagrams
live in the rings as length-prefixed frames. -/

namespace Wiznet
open Resumption Tick

/-- The peer of a datagram. -/
structure SocketAddr where
  ip : UInt32
  port : UInt16
  deriving DecidableEq, Repr

/-- Local frame header: `[len(2) | ip(4) | port(2)]`. -/
def FRAME_HEADER : Nat := 8

/-- The chip's per-packet header: `[flags:5|len:11 | ip(4) | port(2)]`. -/
def PACKINFO : Nat := 8

def PACKINFO_LEN_MASK : UInt16 := 0x07FF

def frameHeader (len : UInt16) (addr : SocketAddr) : List UInt8 :=
  BigEndian.encode 2 len.toNat ++ BigEndian.encode 4 addr.ip.toNat ++
    BigEndian.encode 2 addr.port.toNat

def parseFrameHeader (h : List UInt8) : Nat × SocketAddr :=
  (BigEndian.decode (h.take 2),
    ⟨UInt32.ofNat (BigEndian.decode ((h.drop 2).take 4)),
      UInt16.ofNat (BigEndian.decode ((h.drop 6).take 2))⟩)

/-- A zeroed 8-byte array after reading `got` into it. -/
def fillHeader (got : List UInt8) : List UInt8 := copyFromSlice (List.replicate FRAME_HEADER 0) 0 got

structure UdpSocketState where
  srcPort : UInt16
  status : SocketStatus
  pendingError : Option Error
  /-- Set by the handle's `close`; acted on by the next tick. -/
  closeRequested : Bool
  deriving DecidableEq, Repr

namespace UdpSocketState

def bind (srcPort : UInt16) : UdpSocketState := ⟨srcPort, .init, none, false⟩

/-- What the handle reports: a stored error hides the machine's own status. -/
def reportedStatus (u : UdpSocketState) : SocketStatus :=
  if u.pendingError.isSome then .error else u.status

def rearm (u : UdpSocketState) : UdpSocketState :=
  { u with status := .init, pendingError := none, closeRequested := false }

def requestClose (u : UdpSocketState) : UdpSocketState := { u with closeRequested := true }

def isClosed (u : UdpSocketState) : Bool :=
  match u.status with
  | .closed | .error | .timeout => true
  | _ => false

def withStatus (s : SocketStatus) (u : UdpSocketState) : UdpSocketState := { u with status := s }

variable {w L : Nat} {D : Type} [SpiDmaDevice D]

/-- Act on a pending close: UDP has no graceful shutdown. The request is
consumed first. -/
def handleClose (block : BlockAddress) : Code Error (Tick UdpSocketState w L D) Unit := do
  modifySelf fun u => { u with closeRequested := false }
  let u ← self
  match u.status with
  | .closed | .error | .timeout | .closingDueToError | .closingDueToTimeout | .closing => pure ()
  | _ => do
    onBus (sendSockCommand block .close)
    modifySelf (withStatus .closing)

/-- Configure the hardware socket for UDP and issue `OPEN`. -/
def handleInit (block : BlockAddress) : Code Error (Tick UdpSocketState w L D) Unit := do
  onBus (initSocket block .udp4)
  let u ← self
  onBus (setSrcPort block u.srcPort)
  onBus (sendSockCommand block .open)
  modifySelf (withStatus .opening)

/-- Wait for `OPEN` to move the socket into `SOCK_UDP`. -/
def handleOpening (block : BlockAddress) : Code Error (Tick UdpSocketState w L D) Unit := do
  if ← onBus (isCommandPending block) then pure ()
  else do
    let status ← onBus (readStatus block)
    match status with
    | .udp => modifySelf (withStatus .established)
    -- the status register may lag a tick behind Sn_CR clearing
    | .closed => pure ()
    | _ => do
      onBus (sendSockCommand block .close)
      modifySelf (withStatus .closingDueToError)
      throw (.other .unexpectedResponse)

/-- Advance `Sn_RX_RD` to `pointer` and acknowledge: the three operations that
take a packet off the chip. -/
def skipTo (block : BlockAddress) (pointer : UInt16) :
    Code Error (Transceiver L D) Unit := do
  setRxReadPointer block pointer
  sendSockCommand block .receive
  clearInterrupts block .RECV

/-- Read the packet header of a waiting datagram and start a DMA of its
payload; oversized datagrams are skipped and empty ones staged at once. -/
def receive (block : BlockAddress) : Code Error (Tick UdpSocketState w L D) BulkAction := do
  let available ← onBus (getRxReceivedSize block)
  if available.toNat < PACKINFO then pure .none
  else do
    let start ← onBus (getRxReadPointer block)
    let head ← onBus (readRxBuffer block start PACKINFO)
    let payloadLen :=
      (UInt16.ofNat (BigEndian.decode (head.take 2)) &&& PACKINFO_LEN_MASK).toNat
    let srcIp := UInt32.ofNat (BigEndian.decode ((head.drop 2).take 4))
    let srcPort := UInt16.ofNat (BigEndian.decode ((head.drop 6).take 2))
    -- the whole datagram must be present on the chip
    if available.toNat < PACKINFO + payloadLen then pure .none
    else do
      let framedLen := FRAME_HEADER + payloadLen
      let capacity ← onRx SpscRing.capacity
      if framedLen > capacity.toNat then do
        -- it can never be delivered: skip the whole packet
        onBus (skipTo block (start + UInt16.ofNat (PACKINFO + payloadLen)))
        pure .none
      else do
        let free ← onRx SpscRing.free
        if free.toNat < framedLen then pure .none
        else if payloadLen = 0 then do
          let _ ← onRx (SpscRing.write (frameHeader 0 ⟨srcIp, srcPort⟩))
          onRx SpscRing.commitFrame
          onBus (skipTo block (start + UInt16.ofNat PACKINFO))
          pure .none
        else do
          let payloadPtr := start + UInt16.ofNat PACKINFO
          onBus (startReadRxBuffer block payloadPtr payloadLen)
          pure (.started (.receiveDatagram srcIp srcPort) payloadPtr payloadLen)

/-- Program the destination of the datagram at the head of the tx ring and
start a DMA of its payload. -/
def transmit (block : BlockAddress) : Code Error (Tick UdpSocketState w L D) BulkAction := do
  let frames ← onTx SpscRing.frames
  if frames = 0 then pure .none
  else do
    let head ← onTx (SpscRing.peek FRAME_HEADER)
    let (payloadLen, dst) := parseFrameHeader (fillHeader head)
    let free ← onBus (getTxFreeSize block)
    if free.toNat < payloadLen then pure .none
    else do
      -- committed to sending: drain the frame header out of the ring
      let _ ← onTx (SpscRing.read FRAME_HEADER)
      onBus (setIpv4DstAddr block dst.ip)
      onBus (setDstPort block dst.port)
      if payloadLen = 0 then do
        onBus (sendSockCommand block .send)
        onTx SpscRing.releaseFrame
        pure .none
      else do
        let pointer ← onBus (getTxWritePointer block)
        startWriteTxBuffer bus block pointer payloadLen fun buf => do
          let got ← Prog.zoom tx (SpscRing.read buf.length)
          pure (copyFromSlice buf 0 got)
        onTx SpscRing.releaseFrame
        pure (.started .transmit pointer payloadLen)

/-- Move a datagram in either direction. -/
def handleEstablished (block : BlockAddress) :
    Code Error (Tick UdpSocketState w L D) BulkAction := do
  let interrupts ← onBus (getInterrupts block)
  (if interrupts.contains .TIMEOUT then onBus (clearInterrupts block .TIMEOUT) else pure ())
  match ← receive block with
  | .started kind pointer len => pure (.started kind pointer len)
  | .none => transmit block

def handleClosing (block : BlockAddress) : Code Error (Tick UdpSocketState w L D) Unit := do
  let status ← onBus (readStatus block)
  if status = .closed then modifySelf fun u => { u with status := u.status.afterClose }
  else pure ()

/-- The dispatch of `run`. -/
def dispatch (block : BlockAddress) (u : UdpSocketState) :
    Code Error (Tick UdpSocketState w L D) BulkAction :=
  if u.closeRequested then do handleClose block; pure .none
  else
    match u.status with
    | .init => do handleInit block; pure .none
    | .opening => do handleOpening block; pure .none
    | .established => handleEstablished block
    | .closingDueToError | .closingDueToTimeout | .closing => do handleClosing block; pure .none
    -- UDP never enters the TCP-only states
    | .connecting | .listening | .timeout | .closed | .error => pure .none

/-- One non-blocking tick. An error other than `WouldBlock` is stored. -/
def run (block : BlockAddress) : Code Error (Tick UdpSocketState w L D) BulkAction := do
  let u ← self
  match ← Code.outcome (dispatch block u) with
  | .ok action => pure action
  | .error .wouldBlock => throw .wouldBlock
  | .error e => do
    modifySelf fun u => { u with pendingError := some e }
    pure .none

end UdpSocketState

/-! ## The ring side of the handle -/

namespace UdpSocket

variable {w : Nat}

/-- `while copied < n { copied += rx.read(..) }`, for at most `fuel` rounds;
`none` if the loop is still waiting for bytes then. -/
def copyLoop (n : Nat) : Nat → List UInt8 → Prog (SpscRing w) (Option (List UInt8))
  | 0, copied => if copied.length < n then pure none else pure (some copied)
  | fuel + 1, copied =>
    if copied.length < n then do
      let got ← SpscRing.read (n - copied.length)
      copyLoop n fuel (copied ++ got)
    else pure (some copied)

/-- `while discard > 0 { .. }`, for at most `fuel` rounds; `false` if it is
still waiting for bytes then. -/
def discardLoop : Nat → Nat → Prog (SpscRing w) Bool
  | 0, discard => pure (decide (discard = 0))
  | fuel + 1, discard =>
    if discard > 0 then do
      let got ← SpscRing.read (min discard 64)
      discardLoop fuel (discard - got.length)
    else pure true

/-- What a `recv_from` call came to; `spinning` is a loop that waits for bytes
that are not there. -/
inductive Received where
  | nothing
  | datagram (payload : List UInt8) (peer : SocketAddr)
  | spinning
  deriving DecidableEq, Repr

/-- `recv_from` into a buffer of `dstLen` bytes. A round that makes progress
moves at least one byte, so each loop gets as many rounds as it has bytes. -/
def recvFrom (dstLen : Nat) : Prog (SpscRing w) Received := do
  let frames ← SpscRing.frames
  if frames = 0 then pure .nothing
  else
    let head ← SpscRing.read FRAME_HEADER
    let (payloadLen, peer) := parseFrameHeader (fillHeader head)
    let n := min payloadLen dstLen
    match ← copyLoop n n [] with
    | none => pure .spinning
    | some dst =>
      -- drop the payload bytes that did not fit
      if ← discardLoop (payloadLen - n) (payloadLen - n) then
        SpscRing.releaseFrame
        pure (.datagram dst peer)
      else pure .spinning

/-- `send_to`: the whole datagram or nothing. -/
def sendTo (src : List UInt8) (dst : SocketAddr) : Prog (SpscRing w) Nat := do
  let need := FRAME_HEADER + src.length
  let free ← SpscRing.free
  if free.toNat < need then pure 0
  else
    let _ ← SpscRing.write (frameHeader (UInt16.ofNat src.length) dst)
    let _ ← SpscRing.write src
    SpscRing.commitFrame
    pure src.length

end UdpSocket

end Wiznet
