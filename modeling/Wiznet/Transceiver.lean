import Wiznet.SpiDma
import Wiznet.Lib.BigEndian

/-! # The transceiver

`transiver.rs`: W6100 command framing over the byte-dumb transport. Small
accesses run synchronously; the two bulk transfers are started here and
finished from the DMA-complete interrupt. -/

namespace Wiznet
open Resumption

/-- Length of the command header that precedes every payload. -/
def HEADER : Nat := 3

/-- The chip has eight sockets. -/
instance neZero_eight : NeZero 8 := ⟨by decide⟩

inductive BlockSelectionBits where
  | commonRegister
  | socketRegister (n : Fin 8)
  | socketTxBuffer (n : Fin 8)
  | socketRxBuffer (n : Fin 8)
  deriving DecidableEq, Repr

/-- The five block-selection bits: the socket number above a two-bit kind. -/
def BlockSelectionBits.bits : BlockSelectionBits → UInt8
  | .commonRegister => 0
  | .socketRegister n => UInt8.ofNat (n.val * 4 + 1)
  | .socketTxBuffer n => UInt8.ofNat (n.val * 4 + 2)
  | .socketRxBuffer n => UInt8.ofNat (n.val * 4 + 3)

structure BlockAddress where
  reg : BlockSelectionBits
  tx : BlockSelectionBits
  rx : BlockSelectionBits
  deriving DecidableEq, Repr

structure Address where
  address : UInt16
  block : BlockSelectionBits
  deriving DecidableEq, Repr

/-- The 3-byte command header; `write` selects the RWB bit. -/
def createHeader (addr : Address) (write : Bool) : List UInt8 :=
  BigEndian.encode 2 addr.address.toNat ++
    [addr.block.bits <<< 3 ||| if write then 0b100 else 0]

@[simp] theorem createHeader_length (addr : Address) (write : Bool) :
    (createHeader addr write).length = HEADER := by simp [createHeader, HEADER]

/-- One SPI operation with the bytes of its operands. -/
inductive Operation where
  | read (items : List UInt8)
  | write (items : List UInt8)
  | transfer (items : List UInt8) (mosi : List UInt8)
  | transferInPlace (items : List UInt8)
  | delayNs (ns : UInt32)
  deriving DecidableEq, Repr

/-- Who holds the device and the scratch buffers. The try-lock around it is
left out: it is only reached with the device cell of the driver held. -/
inductive DmaState (L : Nat) (D : Type) where
  | pending
  | idle (dev : D) (scratch : DmaBuffers L)
  | inFlight (txn : Transaction L D)

abbrev Transceiver (L : Nat) (D : Type) := DmaState L D

variable {L : Nat} {D S : Type}

/-- First pass of a chunk: stage operations into the scratch while they fit,
stopping at a delay. Returns the scratch, its active length, the operations
taken and the rest. -/
def stageChunk (scratch : DmaBuffers L) (offset : Nat) :
    List Operation → DmaBuffers L × Nat × List Operation × List Operation
  | [] => (scratch, offset, [], [])
  | op :: ops =>
    match op with
    | .read items =>
      if offset + items.length > scratch.rx.length then (scratch, offset, [], op :: ops)
      else
        let (scratch, offset, taken, rest) := stageChunk scratch (offset + items.length) ops
        (scratch, offset, op :: taken, rest)
    | .write items | .transfer _ items | .transferInPlace items =>
      if offset + items.length > scratch.tx.length then (scratch, offset, [], op :: ops)
      else
        let (scratch, offset, taken, rest) :=
          stageChunk (scratch.stage offset items) (offset + items.length) ops
        (scratch, offset, op :: taken, rest)
    | .delayNs _ => (scratch, offset, [], op :: ops)

/-- Second pass: copy the captured bytes back into the operands, keeping the
offsets of the first pass. -/
def copyBack (scratch : DmaBuffers L) (offset : Nat) : List Operation → List Operation
  | [] => []
  | op :: ops =>
    match op with
    | .read items =>
      .read (scratch.rxWindow offset items.length) :: copyBack scratch (offset + items.length) ops
    | .transfer items mosi =>
      .transfer (scratch.rxWindow offset items.length) mosi ::
        copyBack scratch (offset + items.length) ops
    | .transferInPlace items =>
      .transferInPlace (scratch.rxWindow offset items.length) ::
        copyBack scratch (offset + items.length) ops
    | .write items => op :: copyBack scratch (offset + items.length) ops
    | .delayNs _ => op :: copyBack scratch offset ops

/-- The outer loop of `exec_transaction`. Each round takes at least one
operation, so as many rounds as there are operations are enough. -/
def execChunks [SpiDmaDevice D] :
    Nat → D → DmaBuffers L → List Operation → D × DmaBuffers L × List Operation × Option DriverError
  | _, dev, scratch, [] => (dev, scratch, [], none)
  | 0, dev, scratch, ops => (dev, scratch, ops, none)
  | fuel + 1, dev, scratch, op :: ops =>
    match stageChunk scratch 0 (op :: ops) with
    | (scratch, _, [], _) =>
      match op with
      | .delayNs ns =>
        let (dev, scratch, ops, error) := execChunks fuel (SpiDmaDevice.delayNs dev ns) scratch ops
        (dev, scratch, op :: ops, error)
      | _ => (dev, scratch, op :: ops, some .scratchBufferOverrun)
    | (scratch, offset, taken, rest) =>
      match transceive dev { scratch with len := offset } .poll with
      | .ok txn =>
        let (dev, scratch) := txn.wait
        let (dev, scratch', ops, error) := execChunks fuel dev scratch rest
        (dev, scratch', copyBack scratch 0 taken ++ ops, error)
      | .error (dev, buffers) => (dev, buffers, taken ++ rest, some .spiError)

def execTransaction [SpiDmaDevice D] (dev : D) (scratch : DmaBuffers L)
    (operations : List Operation) : D × DmaBuffers L × List Operation × Option DriverError :=
  execChunks operations.length dev scratch operations

/-- The synchronous transaction: `WouldBlock` unless the transport is idle. -/
def transaction [SpiDmaDevice D] (operations : List Operation) (cell : Transceiver L D) :
    Except Error (List Operation) × Transceiver L D :=
  match cell with
  | .pending => (.error .wouldBlock, .pending)
  | .inFlight txn => (.error .wouldBlock, .inFlight txn)
  | .idle dev scratch =>
    match execTransaction dev scratch operations with
    | (dev, scratch, _, some e) => (.error (.other e), .idle dev scratch)
    | (dev, scratch, operations, none) => (.ok operations, .idle dev scratch)

/-- Read into a zeroed buffer of `n` bytes. -/
def read [SpiDmaDevice D] (addr : Address) (n : Nat) : Code Error (Transceiver L D) (List UInt8) :=
  Code.attempt fun cell =>
    match transaction [.write (createHeader addr false), .read (List.replicate n 0)] cell with
    | (.ok [_, .read data], cell) => (.ok data, cell)
    | (.ok _, cell) => (.ok [], cell)
    | (.error e, cell) => (.error e, cell)

def write [SpiDmaDevice D] (addr : Address) (data : List UInt8) :
    Code Error (Transceiver L D) Unit :=
  Code.attempt fun cell =>
    match transaction [.write (createHeader addr true), .write data] cell with
    | (.ok _, cell) => (.ok (), cell)
    | (.error e, cell) => (.error e, cell)

def delay [SpiDmaDevice D] (ns : UInt32) : Code Error (Transceiver L D) Unit :=
  Code.attempt fun cell =>
    match transaction [.delayNs ns] cell with
    | (.ok _, cell) => (.ok (), cell)
    | (.error e, cell) => (.error e, cell)

def readU8 [SpiDmaDevice D] (addr : Address) : Code Error (Transceiver L D) UInt8 :=
  (fun data => UInt8.ofNat (BigEndian.decode data)) <$> read addr 1

def readU16 [SpiDmaDevice D] (addr : Address) : Code Error (Transceiver L D) UInt16 :=
  (fun data => UInt16.ofNat (BigEndian.decode data)) <$> read addr 2

def writeU8 [SpiDmaDevice D] (addr : Address) (value : UInt8) :
    Code Error (Transceiver L D) Unit := write addr (BigEndian.encode 1 value.toNat)

def writeU16 [SpiDmaDevice D] (addr : Address) (value : UInt16) :
    Code Error (Transceiver L D) Unit := write addr (BigEndian.encode 2 value.toNat)

def writeU32 [SpiDmaDevice D] (addr : Address) (value : UInt32) :
    Code Error (Transceiver L D) Unit := write addr (BigEndian.encode 4 value.toNat)

/-- Take the device and the scratch out of `idle`, leaving `pending`. -/
def takeIdle (cell : Transceiver L D) : Except Error (D × DmaBuffers L) × Transceiver L D :=
  match cell with
  | .idle dev scratch => (.ok (dev, scratch), .pending)
  | other => (.error .wouldBlock, other)

/-- Take a transfer out of `inFlight`, leaving `pending`. -/
def takeInFlight (cell : Transceiver L D) : Except Error (Transaction L D) × Transceiver L D :=
  match cell with
  | .inFlight txn => (.ok txn, .pending)
  | other => (.error .wouldBlock, other)

/-- The common tail of the two bulk starts: clock the staged frame with the
completion interrupt armed. -/
def launch [SpiDmaDevice D] (dev : D) (scratch : DmaBuffers L) :
    Except Error Unit × Transceiver L D :=
  match transceive dev scratch .interrupt with
  | .ok txn => (.ok (), .inFlight txn)
  | .error (dev, scratch) => (.error (.other .spiError), .idle dev scratch)

/-- Start an asynchronous bulk read of `len` payload bytes. -/
def startRead [SpiDmaDevice D] (addr : Address) (len : Nat) : Code Error (Transceiver L D) Unit :=
  do
    let (dev, scratch) ← Code.attempt takeIdle
    if HEADER + len > scratch.tx.length then
      Code.attempt fun _ => (.error (.other .scratchBufferOverrun), .idle dev scratch)
    else
      let scratch := scratch.stage 0 (createHeader addr false)
      Code.attempt fun _ => launch dev { scratch with len := HEADER + len }

/-- Finish an in-flight bulk read: `consume` gets the captured payload window
before the transport returns to `idle`. -/
def finishRead (cell : Lens S (Transceiver L D)) (len : Nat)
    (consume : List UInt8 → Prog S Unit) : Code Error S Unit := do
  let txn ← Code.zoom cell (Code.attempt takeInFlight)
  let (dev, scratch) := txn.wait
  Code.always (consume (scratch.rxWindow HEADER len))
  Code.always (Prog.store (cell.set (.idle dev scratch)))

/-- Start an asynchronous bulk write of `len` payload bytes; `fill` stages them
into the scratch window, which it gets with its old contents. -/
def startWrite [SpiDmaDevice D] (cell : Lens S (Transceiver L D)) (addr : Address) (len : Nat)
    (fill : List UInt8 → Prog S (List UInt8)) : Code Error S Unit := do
  let (dev, scratch) ← Code.zoom cell (Code.attempt takeIdle)
  if HEADER + len > scratch.tx.length then
    Code.zoom cell (Code.attempt fun _ => (.error (.other .scratchBufferOverrun), .idle dev scratch))
  else
    let scratch := scratch.stage 0 (createHeader addr true)
    let window ← Code.always (fill (scratch.txWindow HEADER len))
    let scratch := scratch.stage HEADER window
    Code.zoom cell (Code.attempt fun _ => launch dev { scratch with len := HEADER + len })

/-- Finish an in-flight bulk write. -/
def finishWrite : Code Error (Transceiver L D) Unit := do
  let txn ← Code.attempt takeInFlight
  let (dev, scratch) := txn.wait
  Code.always (Prog.store fun _ => .idle dev scratch)

/-- Tear down any in-flight transfer; a no-op when idle. -/
def abort : Prog (Transceiver L D) Unit :=
  Prog.store fun cell =>
    match cell with
    | .inFlight txn => let (dev, scratch) := txn.wait; .idle dev scratch
    | other => other

end Wiznet
