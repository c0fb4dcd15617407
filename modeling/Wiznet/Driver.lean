import Wiznet.Backend

/-! # The driver

`W6100` of `lib.rs`: the entry points of the servicing interrupts and of the
application, as programs over everything they share. -/

namespace Wiznet
open Resumption

def CIDR : Address := ⟨0x0, .commonRegister⟩
def VER : Address := ⟨0x2, .commonRegister⟩
/-- System Config Register 1. -/
def SYCR1 : Address := ⟨0x2005, .commonRegister⟩
/-- Source Hardware Address Register (MAC address). -/
def SHAR : Address := ⟨0x4120, .commonRegister⟩
/-- Gateway IP Address Register. -/
def GAR : Address := ⟨0x4130, .commonRegister⟩
/-- Subnet Mask Register. -/
def SUBR : Address := ⟨0x4134, .commonRegister⟩
/-- IPv4 Source Address Register. -/
def SIPR : Address := ⟨0x4138, .commonRegister⟩
/-- Chip Lock Register. -/
def CHPLCKR : Address := ⟨0x41F4, .commonRegister⟩
/-- Network Lock Register. -/
def NETLCKR : Address := ⟨0x41F5, .commonRegister⟩
/-- SOCKET Interrupt Mask Register. -/
def SIMR : Address := ⟨0x2114, .commonRegister⟩
/-- PHY Status Register. -/
def PHYSR : Address := ⟨0x3000, .commonRegister⟩

def CAB_MASK : UInt8 := 0b10000000
def LINK_MASK : UInt8 := 0b00000001

structure Device (L : Nat) (D P : Type) where
  transport : Transceiver L D
  rst : P

structure NetworkConfig where
  ip : UInt32
  gateway : UInt32
  subnet : UInt32
  deriving DecidableEq, Repr

/-- Records the single bulk DMA in flight. -/
structure BulkOp where
  /-- Index of the socket whose transfer this is. -/
  idx : Fin 8
  kind : BulkKind
  block : BlockAddress
  /-- Chip-side buffer pointer the transfer started at. -/
  pointer : UInt16
  /-- Payload length in bytes. -/
  len : Nat
  deriving DecidableEq, Repr

structure W6100 (w L : Nat) (D P : Type) where
  device : AtomicCell (Device L D P)
  mac : { bytes : List UInt8 // bytes.length = 6 }
  config : AtomicCell (Option NetworkConfig)
  configDirty : Bool
  linkUp : Bool
  sockets : Fin 8 → Socket w
  bulk : AtomicCell (Option BulkOp)

/-- The register and buffer blocks of hardware socket `n`. -/
def socketBlock (n : Fin 8) : BlockAddress :=
  ⟨.socketRegister n, .socketTxBuffer n, .socketRxBuffer n⟩

def makeSocket {w : Nat} (block : BlockAddress) : Socket w :=
  ⟨.new (SocketBackend.new block), SocketRings.new⟩

namespace W6100

variable {w L : Nat} {D P : Type}

/-! ## Parts of the driver -/

def deviceCell : Lens (W6100 w L D P) (AtomicCell (Device L D P)) where
  get s := s.device
  set d s := { s with device := d }
  get_set _ _ := rfl
  set_get _ := rfl
  set_set _ _ _ := rfl

def transLens : Lens (W6100 w L D P) (Transceiver L D) where
  get s := s.device.value.transport
  set t s := { s with device := { s.device with value := { s.device.value with transport := t } } }
  get_set _ _ := rfl
  set_get _ := rfl
  set_set _ _ _ := rfl

def rstLens : Lens (W6100 w L D P) P where
  get s := s.device.value.rst
  set p s := { s with device := { s.device with value := { s.device.value with rst := p } } }
  get_set _ _ := rfl
  set_get _ := rfl
  set_set _ _ _ := rfl

def configCell : Lens (W6100 w L D P) (AtomicCell (Option NetworkConfig)) where
  get s := s.config
  set c s := { s with config := c }
  get_set _ _ := rfl
  set_get _ := rfl
  set_set _ _ _ := rfl

def bulkCell : Lens (W6100 w L D P) (AtomicCell (Option BulkOp)) where
  get s := s.bulk
  set b s := { s with bulk := b }
  get_set _ _ := rfl
  set_get _ := rfl
  set_set _ _ _ := rfl

def socketLens (i : Fin 8) : Lens (W6100 w L D P) (Socket w) where
  get s := s.sockets i
  set x s := { s with sockets := Function.update s.sockets i x }
  get_set _ _ := by simp
  set_get _ := by simp
  set_set _ _ _ := by simp

def backendCell (i : Fin 8) : Lens (W6100 w L D P) (AtomicCell SocketBackend) :=
  (socketLens i).comp Socket.backendLens

def ringsLens (i : Fin 8) : Lens (W6100 w L D P) (SocketRings w) :=
  (socketLens i).comp Socket.ringsLens

/-- The transport and the rings of socket `i`. -/
def ioLens (i : Fin 8) : Lens (W6100 w L D P) (Io w L D) where
  get s := ⟨s.device.value.transport, (s.sockets i).rings⟩
  set io s := transLens.set io.trans ((ringsLens i).set io.rings s)
  get_set io s := by simp [transLens, ringsLens, socketLens, Socket.ringsLens]
  set_get s := by simp [transLens, ringsLens, socketLens, Socket.ringsLens]
  set_set io io' s := by simp [transLens, ringsLens, socketLens, Socket.ringsLens]

variable [SpiDmaDevice D] [OutputPin P]

def onBus {α : Type} (c : Code Error (Transceiver L D) α) : Code Error (W6100 w L D P) α :=
  c.zoom transLens

/-- Drive the reset line; a refusal is a `PinError`. -/
def onPin (f : P → Bool × P) : Code Error (W6100 w L D P) Unit :=
  Code.zoom rstLens (Code.attempt fun p =>
    match f p with
    | (true, p) => (.ok (), p)
    | (false, p) => (.error (.other .pinError), p))

/-- The delay between the two edges of the reset line and between two polls;
any failure is reported as a `SpiError`. -/
def resetDelay : Code Error (W6100 w L D P) Unit := do
  match ← Code.outcome (onBus (delay 1000000)) with
  | .ok () => pure ()
  | .error _ => throw (.other .spiError)

/-! ## Bulk bookkeeping -/

/-- A failed lock counts as in flight. -/
def bulkInFlight : Code Error (W6100 w L D P) Bool := do
  match ← Code.outcome (holding bulkCell (Code.always (Prog.load fun s => s.bulk.value.isSome))) with
  | .ok inFlight => pure inFlight
  | .error _ => pure true

/-- Replace the marker if its cell is free. -/
def setMarker (op : Option BulkOp) : Code Error (W6100 w L D P) Unit := do
  let _ ← Code.outcome (holding bulkCell
    (Code.always (Prog.zoom (bulkCell.comp cellValue) (Prog.store fun _ => op))))

def setBulk (op : BulkOp) : Code Error (W6100 w L D P) Unit := setMarker (some op)

/-! ## Reset -/

/-- Poll the chip id until it reads 0x6100, with a delay before each of the
`tries` further polls. -/
def awaitChip : Nat → Code Error (W6100 w L D P) Unit
  | 0 => do
    let id ← onBus (readU16 CIDR)
    if id = 0x6100 then pure () else throw (.other .unexpectedResponse)
  | tries + 1 => do
    let id ← onBus (readU16 CIDR)
    if id = 0x6100 then pure ()
    else do
      resetDelay
      awaitChip tries

/-- `SocketBackend::reset` of slot `i` with its cell held. -/
def resetSocket (i : Fin 8) : Code Error (W6100 w L D P) Unit :=
  holding (backendCell i) do
    let b ← Code.always (Prog.load fun s => (s.sockets i).backend.value)
    onBus (initSocket b.block .closed)
    Code.always (Prog.zoom ((backendCell i).comp cellValue) (Prog.store SocketBackend.rearm))

def resetSockets : List (Fin 8) → Code Error (W6100 w L D P) Unit
  | [] => pure ()
  | i :: rest => do
    resetSocket i
    resetSockets rest

/-- The end of `reset`: unlock the system registers, enable interrupts, lock
them again, and route every socket's interrupts to the INT pin. -/
def enableInterrupts : Code Error (W6100 w L D P) Unit := do
  onBus (writeU8 CHPLCKR 0xCE)
  onBus (writeU8 SYCR1 0b10000000)
  onBus (writeU8 CHPLCKR 0x00)
  onBus (writeU8 SIMR 0xFF)

/-- `reset` with the device held. -/
def resetHeld : Code Error (W6100 w L D P) Unit := do
  -- reclaim the bus and the buffers from any in-flight bulk DMA
  Code.always (Prog.zoom transLens abort)
  setMarker none
  onPin OutputPin.setLow
  resetDelay
  onPin OutputPin.setHigh
  awaitChip 100
  let version ← onBus (readU16 VER)
  if version ≠ 0x4661 then throw (.other .unexpectedResponse)
  else do
    resetSockets (List.finRange 8)
    enableInterrupts

def reset : Code Error (W6100 w L D P) Unit := holding deviceCell resetHeld

/-! ## Network and link -/

/-- `setup_network` with the device held. -/
def setupNetworkHeld (sourceAddr gatewayAddress mask : UInt32) :
    Code Error (W6100 w L D P) Unit := do
  onBus (writeU8 NETLCKR 0x3A)
  let mac ← Code.always (Prog.load fun s => s.mac)
  onBus (write SHAR mac.1)
  onBus (writeU32 SIPR sourceAddr)
  onBus (writeU32 GAR gatewayAddress)
  onBus (writeU32 SUBR mask)
  onBus (writeU8 NETLCKR 0xC5)

def setupNetwork (sourceAddr gatewayAddress mask : UInt32) : Code Error (W6100 w L D P) Unit :=
  holding deviceCell (setupNetworkHeld sourceAddr gatewayAddress mask)

def isLinkUp : Code Error (W6100 w L D P) Bool :=
  holding deviceCell do
    let status ← onBus (readU8 PHYSR)
    pure (status &&& CAB_MASK == 0 && status &&& LINK_MASK == LINK_MASK)

/-- Stage the addressing; the dirty flag is a second, separate store. -/
def setNetworkConfig (config : NetworkConfig) : Code Error (W6100 w L D P) Unit := do
  holding configCell
    (Code.always (Prog.zoom (configCell.comp cellValue) (Prog.store fun _ => some config)))
  Code.always (Prog.store fun s => { s with configDirty := true })

def networkConfig : Code Error (W6100 w L D P) (Option NetworkConfig) := do
  match ← Code.outcome (holding configCell (Code.always (Prog.load fun s => s.config.value))) with
  | .ok config => pure config
  | .error _ => pure none

/-! ## Opening sockets -/

/-- The common body of the three `open` functions: claim the first free slot
whose cell is not held and install the buffers. -/
def openSlot (claim : SocketBackend → Bool × SocketBackend) (rx tx : List UInt8) :
    List (Fin 8) → Code Error (W6100 w L D P) (Fin 8)
  | [] => throw .wouldBlock
  | i :: rest => do
    match ← Code.outcome (Code.zoom (socketLens i) (Socket.tryOpen claim rx tx)) with
    | .ok true => pure i
    | _ => openSlot claim rx tx rest

def openTcpConnect (addr : UInt32) (port srcPort : UInt16) (rx tx : List UInt8) :
    Code Error (W6100 w L D P) (Fin 8) :=
  openSlot (SocketBackend.claimTcp (TcpSocketState.connect addr port srcPort)) rx tx
    (List.finRange 8)

def openTcpListen (port : UInt16) (rx tx : List UInt8) : Code Error (W6100 w L D P) (Fin 8) :=
  openSlot (SocketBackend.claimTcp (TcpSocketState.listen port)) rx tx (List.finRange 8)

def openUdp (srcPort : UInt16) (rx tx : List UInt8) : Code Error (W6100 w L D P) (Fin 8) :=
  openSlot (SocketBackend.claimUdp (UdpSocketState.bind srcPort)) rx tx (List.finRange 8)

/-! ## Servicing -/

/-- `try_lock` of the cell of slot `i`: its contents, or nothing when held. -/
def lockBackend (i : Fin 8) : Prog (W6100 w L D P) (Option SocketBackend) :=
  Prog.zoom (backendCell i) (Prog.atom fun c =>
    if c.busy then (none, c) else (some c.value, { c with busy := true }))

/-- Drop the guard of slot `i`, with what the call made of its contents. -/
def dropBackend (i : Fin 8) (b : SocketBackend) : Prog (W6100 w L D P) Unit :=
  Prog.zoom (backendCell i) (Prog.store fun _ => ⟨b, false⟩)

/-- The loop of `run`; it stops at the first bulk transfer that is started. -/
def runSockets : List (Fin 8) → Code Error (W6100 w L D P) Unit
  | [] => pure ()
  | idx :: rest => do
    match ← Code.always (lockBackend idx) with
    | none => runSockets rest
    | some backend => do
      let (result, backend) ← Code.always (Prog.zoom (ioLens idx) backend.run)
      Code.always (dropBackend idx backend)
      match result with
      | .ok .none => runSockets rest
      | .ok (.started kind pointer len) => setBulk ⟨idx, kind, backend.block, pointer, len⟩
      | .error .wouldBlock => runSockets rest
      | .error e => throw e

def run : Code Error (W6100 w L D P) Unit :=
  holding deviceCell (runSockets (List.finRange 8))

/-- The addressing part of `service`, skipped until there is a configuration. -/
def applyConfig : Code Error (W6100 w L D P) Unit := do
  let dirty ← Code.always (Prog.load fun s => s.configDirty)
  if dirty then do
    match ← networkConfig with
    | some config => do
      setupNetwork config.ip config.gateway config.subnet
      Code.always (Prog.store fun s => { s with configDirty := false })
    | none => pure ()
  else pure ()

/-- One background step. -/
def service : Code Error (W6100 w L D P) Unit := do
  if ← bulkInFlight then pure ()
  else do
    let up ← isLinkUp
    let wasUp ← Code.always (Prog.atom fun s => (s.linkUp, { s with linkUp := up }))
    if !up then
      if wasUp then do
        reset
        Code.always (Prog.store fun s => { s with configDirty := true })
      else pure ()
    else do
      applyConfig
      run

/-! ## Completion -/

/-- The epilogue of a receive: advance `Sn_RX_RD`, `RECV`, acknowledge. -/
def commitReceive (op : BulkOp) : Code Error (Transceiver L D) Unit := do
  setRxReadPointer op.block (op.pointer + UInt16.ofNat op.len)
  sendSockCommand op.block .receive
  clearInterrupts op.block .RECV

/-- Finish the in-flight transfer recorded in `op`. -/
def finishBulk (op : BulkOp) : Code Error (Io w L D) Unit := do
  let deliver (payload : List UInt8) : Prog (Io w L D) Unit := do
    let _ ← Prog.zoom (Io.ringsLens.comp SocketRings.rxLens) (SpscRing.write payload)
  match op.kind with
  | .receive => do
    finishRead Io.transLens op.len deliver
    Code.zoom Io.transLens (commitReceive op)
  | .receiveDatagram srcIp srcPort => do
    Code.always (deliver (frameHeader (UInt16.ofNat op.len) ⟨srcIp, srcPort⟩))
    finishRead Io.transLens op.len deliver
    Code.always (Prog.zoom (Io.ringsLens.comp SocketRings.rxLens) SpscRing.commitFrame)
    Code.zoom Io.transLens (commitReceive op)
  | .transmit => do
    Code.zoom Io.transLens finishWrite
    Code.zoom Io.transLens (setTxWritePointer op.block (op.pointer + UInt16.ofNat op.len))
    Code.zoom Io.transLens (sendSockCommand op.block .send)

/-- `dma_complete` up to its call of `service`: finish the transfer, whatever
comes of it, and clear the marker. -/
def retireBulk (op : BulkOp) : Code Error (W6100 w L D P) Unit := do
  let _ ← Code.outcome (holding deviceCell (Code.zoom (ioLens op.idx) (finishBulk op)))
  setMarker none

/-- Completion of the bulk transfer, from the DMA-complete interrupt. -/
def dmaComplete : Code Error (W6100 w L D P) Unit := do
  match ← Code.outcome (holding bulkCell (Code.always (Prog.load fun s => s.bulk.value))) with
  | .error _ => pure ()
  | .ok none => pure ()
  | .ok (some op) => do
    retireBulk op
    let _ ← Code.outcome service

/-! ## Construction -/

/-- `W6100::new`: all slots free, then a hardware reset. -/
def new (spi : D) (rst : P) (scratch : DmaBuffers L)
    (mac : { bytes : List UInt8 // bytes.length = 6 }) :
    Except Error Unit × W6100 w L D P :=
  Code.exec reset
    { device := .new ⟨.idle spi scratch, rst⟩
      mac := mac
      config := .new none
      configDirty := false
      linkUp := false
      sockets := fun n => makeSocket (socketBlock n)
      bulk := .new none }

end W6100

end Wiznet
