import Wiznet.Transceiver

/-! # Socket registers

`socket_common.rs`: the register accesses shared by the two protocols. Only the
registers the driver reads or writes are listed. -/

namespace Wiznet
open Resumption

def SN_MR : UInt16 := 0x0000
def SN_CR : UInt16 := 0x0010
def SN_IR : UInt16 := 0x0020
def SN_IMR : UInt16 := 0x0024
def SN_IRCLR : UInt16 := 0x0028
def SN_SR : UInt16 := 0x0030
def SN_PORTR0 : UInt16 := 0x0114
def SN_DIPR0 : UInt16 := 0x0120
def SN_DPORTR0 : UInt16 := 0x0140
def SN_TX_FSR0 : UInt16 := 0x0204
def SN_TX_WR0 : UInt16 := 0x020C
def SN_RX_RSR0 : UInt16 := 0x0224
def SN_RX_RD0 : UInt16 := 0x0228

/-- The modes the driver programs, of `SocketProtocolMode`. -/
inductive SocketProtocolMode where
  | closed
  | tcp4
  | udp4
  deriving DecidableEq, Repr

def SocketProtocolMode.bits : SocketProtocolMode → UInt8
  | .closed => 0b0000
  | .tcp4 => 0b0001
  | .udp4 => 0b0010

/-- Interrupt bits, `Sn_IR`. -/
structure SocketInterrupt where
  bits : UInt8
  deriving DecidableEq, Repr

namespace SocketInterrupt

def SENDOK : SocketInterrupt := ⟨0b10000⟩
def TIMEOUT : SocketInterrupt := ⟨0b01000⟩
def RECV : SocketInterrupt := ⟨0b00100⟩
def DISCON : SocketInterrupt := ⟨0b00010⟩
def CON : SocketInterrupt := ⟨0b00001⟩

def union (a b : SocketInterrupt) : SocketInterrupt := ⟨a.bits ||| b.bits⟩

def all : SocketInterrupt := SENDOK.union (TIMEOUT.union (RECV.union (DISCON.union CON)))

def fromBitsTruncate (b : UInt8) : SocketInterrupt := ⟨b &&& all.bits⟩

def contains (a b : SocketInterrupt) : Bool := a.bits &&& b.bits == b.bits

end SocketInterrupt

/-- The commands the driver issues, of `SocketCommand`. -/
inductive SocketCommand where
  | open
  | listen
  | connect
  | disconnect
  | close
  | send
  | receive
  deriving DecidableEq, Repr

def SocketCommand.bits : SocketCommand → UInt8
  | .open => 0x01
  | .listen => 0x02
  | .connect => 0x04
  | .disconnect => 0x08
  | .close => 0x10
  | .send => 0x20
  | .receive => 0x40

inductive SocketStatusRegister where
  | closed
  | init
  | listen
  | established
  | closeWait
  | udp
  | ipraw
  | ipraw6
  | macraw
  | synsent
  | synrecv
  | finWait
  | timeWait
  | lastAck
  | unknown
  deriving DecidableEq, Repr

/-- The `match` of `read_status` on the register value. -/
def SocketStatusRegister.ofByte (value : UInt8) : SocketStatusRegister :=
  if value = 0x00 then .closed
  else if value = 0x13 then .init
  else if value = 0x14 then .listen
  else if value = 0x17 then .established
  else if value = 0x1C then .closeWait
  else if value = 0x22 then .udp
  else if value = 0x32 then .ipraw
  else if value = 0x33 then .ipraw6
  else if value = 0x42 then .macraw
  else if value = 0x15 then .synsent
  else if value = 0x16 then .synrecv
  else if value = 0x18 then .finWait
  else if value = 0x1B then .timeWait
  else if value = 0x1D then .lastAck
  else .unknown

variable {L : Nat} {D S : Type} [SpiDmaDevice D]

def initSocket (block : BlockAddress) (mode : SocketProtocolMode) :
    Code Error (Transceiver L D) Unit := do
  writeU8 ⟨SN_MR, block.reg⟩ mode.bits
  -- clear interrupts
  writeU8 ⟨SN_IRCLR, block.reg⟩ 0xFF
  -- enable only the interrupts the driver acts on; SENDOK stays masked
  let enabled := SocketInterrupt.CON.union
    (SocketInterrupt.DISCON.union (SocketInterrupt.RECV.union SocketInterrupt.TIMEOUT))
  writeU8 ⟨SN_IMR, block.reg⟩ enabled.bits

def getInterrupts (block : BlockAddress) : Code Error (Transceiver L D) SocketInterrupt :=
  SocketInterrupt.fromBitsTruncate <$> readU8 ⟨SN_IR, block.reg⟩

def clearInterrupts (block : BlockAddress) (mask : SocketInterrupt) :
    Code Error (Transceiver L D) Unit := writeU8 ⟨SN_IRCLR, block.reg⟩ mask.bits

def setSrcPort (block : BlockAddress) (port : UInt16) : Code Error (Transceiver L D) Unit :=
  writeU16 ⟨SN_PORTR0, block.reg⟩ port

def setDstPort (block : BlockAddress) (port : UInt16) : Code Error (Transceiver L D) Unit :=
  writeU16 ⟨SN_DPORTR0, block.reg⟩ port

def setIpv4DstAddr (block : BlockAddress) (address : UInt32) : Code Error (Transceiver L D) Unit :=
  writeU32 ⟨SN_DIPR0, block.reg⟩ address

def sendSockCommand (block : BlockAddress) (command : SocketCommand) :
    Code Error (Transceiver L D) Unit := writeU8 ⟨SN_CR, block.reg⟩ command.bits

/-- Bytes waiting in the socket's RX buffer on the chip. -/
def getRxReceivedSize (block : BlockAddress) : Code Error (Transceiver L D) UInt16 :=
  readU16 ⟨SN_RX_RSR0, block.reg⟩

/-- `Sn_RX_RD`, a free-running 16-bit offset. -/
def getRxReadPointer (block : BlockAddress) : Code Error (Transceiver L D) UInt16 :=
  readU16 ⟨SN_RX_RD0, block.reg⟩

def setRxReadPointer (block : BlockAddress) (pointer : UInt16) :
    Code Error (Transceiver L D) Unit := writeU16 ⟨SN_RX_RD0, block.reg⟩ pointer

/-- Burst-read `n` bytes out of the socket's RX buffer. -/
def readRxBuffer (block : BlockAddress) (pointer : UInt16) (n : Nat) :
    Code Error (Transceiver L D) (List UInt8) := read ⟨pointer, block.rx⟩ n

/-- Start an asynchronous burst-read out of the socket's RX buffer. -/
def startReadRxBuffer (block : BlockAddress) (pointer : UInt16) (len : Nat) :
    Code Error (Transceiver L D) Unit := startRead ⟨pointer, block.rx⟩ len

/-- Free space in the socket's TX buffer on the chip. -/
def getTxFreeSize (block : BlockAddress) : Code Error (Transceiver L D) UInt16 :=
  readU16 ⟨SN_TX_FSR0, block.reg⟩

/-- `Sn_TX_WR`, a free-running 16-bit offset. -/
def getTxWritePointer (block : BlockAddress) : Code Error (Transceiver L D) UInt16 :=
  readU16 ⟨SN_TX_WR0, block.reg⟩

def setTxWritePointer (block : BlockAddress) (pointer : UInt16) :
    Code Error (Transceiver L D) Unit := writeU16 ⟨SN_TX_WR0, block.reg⟩ pointer

/-- Burst-write `data` into the socket's TX buffer. -/
def writeTxBuffer (block : BlockAddress) (pointer : UInt16) (data : List UInt8) :
    Code Error (Transceiver L D) Unit := write ⟨pointer, block.tx⟩ data

/-- Start an asynchronous burst-write into the socket's TX buffer. -/
def startWriteTxBuffer (cell : Lens S (Transceiver L D)) (block : BlockAddress) (pointer : UInt16)
    (len : Nat) (fill : List UInt8 → Prog S (List UInt8)) : Code Error S Unit :=
  startWrite cell ⟨pointer, block.tx⟩ len fill

def isCommandPending (block : BlockAddress) : Code Error (Transceiver L D) Bool :=
  (fun cr => cr != 0) <$> readU8 ⟨SN_CR, block.reg⟩

def readStatus (block : BlockAddress) : Code Error (Transceiver L D) SocketStatusRegister :=
  SocketStatusRegister.ofByte <$> readU8 ⟨SN_SR, block.reg⟩

end Wiznet
