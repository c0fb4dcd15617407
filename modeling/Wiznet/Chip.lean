import Wiznet.Driver
import Wiznet.Bus
import Wiznet.Lib.Cyclic

/-! # The chip

The software model of the chip in `tests/echo_harness.rs`, one frame at a time:
eight sockets, their registers and their circular buffers. The register numbers
it restates are those of the driver. -/

namespace Wiznet
open Resumption Resumption.Code Cyclic

def SN_RX_WR : UInt16 := 0x022C

/-- A circular byte buffer with free-running 16-bit pointers. A pointer indexes
the store modulo its size. -/
structure ChipBuffer where
  data : Nat → UInt8
  readPtr : UInt16
  writePtr : UInt16

namespace ChipBuffer

/-- Bytes stored: received in the RX buffer, occupied in the TX buffer. -/
def used (b : ChipBuffer) : UInt16 := b.writePtr - b.readPtr

def free (size : Nat) (b : ChipBuffer) : UInt16 := UInt16.ofNat size - b.used

def poke (size : Nat) (ptr : UInt16) (src : List UInt8) (b : ChipBuffer) : ChipBuffer :=
  { b with data := put b.data size ptr.toNat src }

def peek (size : Nat) (ptr : UInt16) (n : Nat) (b : ChipBuffer) : List UInt8 :=
  window b.data size ptr.toNat n

end ChipBuffer

structure SocketModel where
  mr : UInt8
  sr : UInt8
  ir : UInt8
  rx : ChipBuffer
  tx : ChipBuffer
  dstIp : UInt32
  dstPort : UInt16

/-- Eight sockets with buffers of `size` bytes each, and what they have put on
the wire. The log of commands is an addition: the harness keeps what they do. -/
structure ChipState (size : Nat) where
  sockets : Fin 8 → SocketModel
  sent : Fin 8 → List UInt8
  sentDgrams : Fin 8 → List (UInt32 × UInt16 × List UInt8)
  commands : List (Fin 8 × UInt8)

namespace ChipState

variable {size : Nat}

def modifySocket (i : Fin 8) (f : SocketModel → SocketModel) (chip : ChipState size) :
    ChipState size :=
  { chip with sockets := Function.update chip.sockets i (f (chip.sockets i)) }

/-- `SEND`: everything between the two pointers goes out; in UDP mode it is one
datagram. -/
def send (i : Fin 8) (chip : ChipState size) : ChipState size :=
  let s := chip.sockets i
  let out := s.tx.peek size s.tx.readPtr s.tx.used.toNat
  let chip := chip.modifySocket i fun s => { s with tx := { s.tx with readPtr := s.tx.writePtr } }
  let chip := { chip with sent := Function.update chip.sent i (chip.sent i ++ out) }
  if s.mr &&& 0x0F = 0x02 then
    { chip with
      sentDgrams := Function.update chip.sentDgrams i
        (chip.sentDgrams i ++ [(s.dstIp, s.dstPort, out)]) }
  else chip

def runCommand (i : Fin 8) (cmd : UInt8) (chip : ChipState size) : ChipState size :=
  let chip := { chip with commands := chip.commands ++ [(i, cmd)] }
  if cmd = SocketCommand.open.bits then
    chip.modifySocket i fun s => { s with sr := if s.mr &&& 0x0F = 0x02 then 0x22 else 0x13 }
  else if cmd = SocketCommand.listen.bits then chip.modifySocket i fun s => { s with sr := 0x14 }
  else if cmd = SocketCommand.close.bits ∨ cmd = SocketCommand.disconnect.bits then
    chip.modifySocket i fun s => { s with sr := 0x00 }
  else if cmd = SocketCommand.send.bits then chip.send i
  else chip

/-- The value behind a register read; the command register clears itself. -/
def regValue (i : Fin 8) (addr : UInt16) (chip : ChipState size) : UInt32 :=
  let s := chip.sockets i
  if addr = SN_CR then 0
  else if addr = SN_IR then s.ir.toUInt32
  else if addr = SN_SR then s.sr.toUInt32
  else if addr = SN_TX_FSR0 then (s.tx.free size).toUInt32
  else if addr = SN_TX_WR0 then s.tx.writePtr.toUInt32
  else if addr = SN_RX_RSR0 then s.rx.used.toUInt32
  else if addr = SN_RX_RD0 then s.rx.readPtr.toUInt32
  else if addr = SN_RX_WR then s.rx.writePtr.toUInt32
  else 0

def writeReg (i : Fin 8) (addr : UInt16) (payload : List UInt8) (chip : ChipState size) :
    ChipState size :=
  let v := BigEndian.decode payload
  if addr = SN_MR then chip.modifySocket i fun s => { s with mr := UInt8.ofNat v }
  else if addr = SN_CR then chip.runCommand i (UInt8.ofNat v)
  else if addr = SN_IRCLR then
    chip.modifySocket i fun s => { s with ir := s.ir &&& ~~~(UInt8.ofNat v) }
  else if addr = SN_DIPR0 then chip.modifySocket i fun s => { s with dstIp := UInt32.ofNat v }
  else if addr = SN_DPORTR0 then chip.modifySocket i fun s => { s with dstPort := UInt16.ofNat v }
  else if addr = SN_TX_WR0 then
    chip.modifySocket i fun s => { s with tx := { s.tx with writePtr := UInt16.ofNat v } }
  else if addr = SN_RX_RD0 then
    chip.modifySocket i fun s => { s with rx := { s.rx with readPtr := UInt16.ofNat v } }
  else chip

def commonValue (addr : UInt16) : UInt32 :=
  if addr = 0x0000 then 0x6100
  else if addr = 0x0002 then 0x4661
  else if addr = 0x3000 then 0x01
  else 0

def pokeTx (i : Fin 8) (ptr : UInt16) (src : List UInt8) (chip : ChipState size) :
    ChipState size :=
  chip.modifySocket i fun s => { s with tx := s.tx.poke size ptr src }

/-- Serve the access that a control byte selects. What the chip does not drive
reads as zeros. -/
def serve (addr : UInt16) (control : UInt8) (payload : List UInt8) (chip : ChipState size) :
    List UInt8 × ChipState size :=
  let n := payload.length
  let kind := control >>> 3 &&& 0b11
  let sock := Fin.ofNat 8 (control >>> 3 >>> 2 &&& 0b111).toNat
  if control &&& 0b100 ≠ 0 then
    (List.replicate n 0,
      if kind = 0b01 then chip.writeReg sock addr payload
      else if kind = 0b10 then chip.pokeTx sock addr payload
      else chip)
  else
    (if kind = 0b00 then BigEndian.encode n (commonValue addr).toNat
      else if kind = 0b01 then BigEndian.encode n (chip.regValue sock addr).toNat
      else if kind = 0b11 then (chip.sockets sock).rx.peek size addr n
      else List.replicate n 0,
      chip)

/-- One full-duplex transaction: the 3-byte header, then the access. -/
def transact (mosi : List UInt8) (chip : ChipState size) : List UInt8 × ChipState size :=
  match mosi with
  | a₁ :: a₂ :: control :: payload =>
    let (answer, chip) := chip.serve (UInt16.ofNat (BigEndian.decode [a₁, a₂])) control payload
    (0 :: 0 :: 0 :: answer, chip)
  | short => (List.replicate short.length 0, chip)

theorem serve_length (addr : UInt16) (control : UInt8) (payload : List UInt8)
    (chip : ChipState size) : (chip.serve addr control payload).1.length = payload.length := by
  simp only [serve]
  split
  · exact List.length_replicate
  · dsimp only
    split
    · exact BigEndian.encode_length ..
    · split
      · exact BigEndian.encode_length ..
      · split
        · exact window_length ..
        · exact List.length_replicate

theorem transact_length (mosi : List UInt8) (chip : ChipState size) :
    (chip.transact mosi).1.length = mosi.length := by
  unfold transact
  split
  · simp only [List.length_cons, serve_length]
  · exact List.length_replicate

end ChipState

instance {size : Nat} : SpiDmaDevice (ChipState size) where
  clock chip mosi _ := (some ⟨_, chip.transact_length mosi⟩, (chip.transact mosi).2)
  delayNs chip _ := chip

namespace ChipState

variable {size L : Nat}

/-! ## Frames of the driver -/

/-- The control byte of a command header. -/
def controlByte (block : BlockSelectionBits) (write : Bool) : UInt8 :=
  block.bits <<< 3 ||| if write then 0b100 else 0

theorem transact_header (addr : Address) (write : Bool) (payload : List UInt8)
    (chip : ChipState size) :
    chip.transact (createHeader addr write ++ payload) =
      let served := chip.serve addr.address (controlByte addr.block write) payload
      (0 :: 0 :: 0 :: served.1, served.2) := by
  have haddr : UInt16.ofNat (BigEndian.decode (BigEndian.encode 2 addr.address.toNat)) =
      addr.address := by
    rw [BigEndian.decode_encode_of_lt (UInt16.toNat_lt addr.address), UInt16.ofNat_toNat]
  rw [BigEndian.encode, BigEndian.encode, BigEndian.encode] at haddr
  change (let served := chip.serve (UInt16.ofNat (BigEndian.decode [_, _])) _ payload
    (0 :: 0 :: 0 :: served.1, served.2)) = _
  rw [haddr]
  rfl

theorem serve_writeReg (i : Fin 8) (addr : UInt16) (payload : List UInt8)
    (chip : ChipState size) :
    (chip.serve addr (controlByte (.socketRegister i) true) payload).2 =
      chip.writeReg i addr payload := by
  have hcontrol : ∀ i : Fin 8, controlByte (.socketRegister i) true &&& 0b100 ≠ 0 ∧
      controlByte (.socketRegister i) true >>> 3 &&& 0b11 = 0b01 ∧
      Fin.ofNat 8 (controlByte (.socketRegister i) true >>> 3 >>> 2 &&& 0b111).toNat = i := by
    decide
  obtain ⟨hwrite, hkind, hsock⟩ := hcontrol i
  rw [serve, if_pos hwrite, hkind, hsock]
  rfl

theorem serve_pokeTx (i : Fin 8) (addr : UInt16) (payload : List UInt8) (chip : ChipState size) :
    (chip.serve addr (controlByte (.socketTxBuffer i) true) payload).2 =
      chip.pokeTx i addr payload := by
  have hcontrol : ∀ i : Fin 8, controlByte (.socketTxBuffer i) true &&& 0b100 ≠ 0 ∧
      controlByte (.socketTxBuffer i) true >>> 3 &&& 0b11 = 0b10 ∧
      Fin.ofNat 8 (controlByte (.socketTxBuffer i) true >>> 3 >>> 2 &&& 0b111).toNat = i := by
    decide
  obtain ⟨hwrite, hkind, hsock⟩ := hcontrol i
  rw [serve, if_pos hwrite, hkind, hsock]
  rfl

theorem serve_readReg (i : Fin 8) (addr : UInt16) (payload : List UInt8) (chip : ChipState size) :
    chip.serve addr (controlByte (.socketRegister i) false) payload =
      (BigEndian.encode payload.length (chip.regValue i addr).toNat, chip) := by
  have hcontrol : ∀ i : Fin 8, ¬ controlByte (.socketRegister i) false &&& 0b100 ≠ 0 ∧
      controlByte (.socketRegister i) false >>> 3 &&& 0b11 = 0b01 ∧
      Fin.ofNat 8 (controlByte (.socketRegister i) false >>> 3 >>> 2 &&& 0b111).toNat = i := by
    decide
  obtain ⟨hread, hkind, hsock⟩ := hcontrol i
  rw [serve, if_neg hread, hkind, hsock]
  rfl

/-! ## Accesses of the driver -/

theorem exec_readU16_reg (i : Fin 8) (addr : UInt16) (chip : ChipState size)
    (scratch : DmaBuffers L) (hL : HEADER + 2 ≤ L) :
    ∃ scratch', exec (readU16 ⟨addr, .socketRegister i⟩) (.idle chip scratch) =
      (.ok (chip.regValue i addr).toUInt16, .idle chip scratch') := by
  have hlen : ((scratch.tx.drop HEADER).take 2).length = 2 := by
    rw [List.length_take, List.length_drop, scratch.tx_length]
    omega
  have hserve := transact_header ⟨addr, .socketRegister i⟩ false ((scratch.tx.drop HEADER).take 2) chip
  rw [serve_readReg, hlen, ← framed_mosi scratch _ _ hL] at hserve
  have hvalue : UInt16.ofNat (BigEndian.decode
      (BigEndian.encode 2 (chip.regValue i addr).toNat)) = (chip.regValue i addr).toUInt16 := by
    rw [BigEndian.decode_encode]
    apply UInt16.toNat_inj.mp
    simp
  rw [readU16, exec_map, exec_read hL]
  simp only [SpiDmaDevice.clock, hserve]
  refine ⟨_, Prod.ext ?_ rfl⟩
  exact congrArg Except.ok hvalue

theorem exec_getTxFreeSize (i : Fin 8) (chip : ChipState size) (scratch : DmaBuffers L)
    (hL : HEADER + 2 ≤ L) :
    ∃ scratch', exec (getTxFreeSize (socketBlock i)) (.idle chip scratch) =
      (.ok ((chip.sockets i).tx.free size), .idle chip scratch') := by
  obtain ⟨scratch', hread⟩ := chip.exec_readU16_reg i SN_TX_FSR0 scratch hL
  have hvalue : chip.regValue i SN_TX_FSR0 = ((chip.sockets i).tx.free size).toUInt32 := rfl
  rw [hvalue, UInt16.toUInt16_toUInt32] at hread
  exact ⟨scratch', hread⟩

theorem exec_getTxWritePointer (i : Fin 8) (chip : ChipState size) (scratch : DmaBuffers L)
    (hL : HEADER + 2 ≤ L) :
    ∃ scratch', exec (getTxWritePointer (socketBlock i)) (.idle chip scratch) =
      (.ok (chip.sockets i).tx.writePtr, .idle chip scratch') := by
  obtain ⟨scratch', hread⟩ := chip.exec_readU16_reg i SN_TX_WR0 scratch hL
  have hvalue : chip.regValue i SN_TX_WR0 = (chip.sockets i).tx.writePtr.toUInt32 := rfl
  rw [hvalue, UInt16.toUInt16_toUInt32] at hread
  exact ⟨scratch', hread⟩

theorem exec_write_reg (i : Fin 8) (addr : UInt16) (data : List UInt8) (chip : ChipState size)
    (scratch : DmaBuffers L) (hL : HEADER + data.length ≤ L) :
    ∃ scratch', exec (write ⟨addr, .socketRegister i⟩ data) (.idle chip scratch) =
      (.ok (), .idle (chip.writeReg i addr data) scratch') := by
  obtain ⟨staged, hmosi, hexec⟩ := exec_write ⟨addr, .socketRegister i⟩ chip scratch hL
  have hserve := transact_header ⟨addr, .socketRegister i⟩ true data chip
  rw [hexec]
  simp only [SpiDmaDevice.clock, hmosi, hserve, serve_writeReg]
  exact ⟨_, rfl⟩

theorem exec_write_tx (i : Fin 8) (addr : UInt16) (data : List UInt8) (chip : ChipState size)
    (scratch : DmaBuffers L) (hL : HEADER + data.length ≤ L) :
    ∃ scratch', exec (write ⟨addr, .socketTxBuffer i⟩ data) (.idle chip scratch) =
      (.ok (), .idle (chip.pokeTx i addr data) scratch') := by
  obtain ⟨staged, hmosi, hexec⟩ := exec_write ⟨addr, .socketTxBuffer i⟩ chip scratch hL
  have hserve := transact_header ⟨addr, .socketTxBuffer i⟩ true data chip
  rw [hexec]
  simp only [SpiDmaDevice.clock, hmosi, hserve, serve_pokeTx]
  exact ⟨_, rfl⟩

/-! ## Sending -/

theorem modifySocket_modifySocket (i : Fin 8) (f g : SocketModel → SocketModel)
    (chip : ChipState size) :
    (chip.modifySocket i f).modifySocket i g = chip.modifySocket i fun s => g (f s) := by
  simp [modifySocket]

theorem pokeTx_nil (i : Fin 8) (ptr : UInt16) (chip : ChipState size) :
    chip.pokeTx i ptr [] = chip := by
  simp [pokeTx, modifySocket, ChipBuffer.poke, put]

/-- Two bursts one behind the other are one burst, wherever the pointer wraps. -/
theorem pokeTx_pokeTx (hsize : size ∣ 2 ^ 16) (i : Fin 8) (ptr : UInt16)
    (front back : List UInt8) (chip : ChipState size) :
    (chip.pokeTx i ptr front).pokeTx i (ptr + UInt16.ofNat front.length) back =
      chip.pokeTx i ptr (front ++ back) := by
  have hptr : (ptr + UInt16.ofNat front.length).toNat % size =
      (ptr.toNat + front.length) % size := by
    rw [UInt16.toNat_add, UInt16.toNat_ofNat', Nat.add_mod_mod, Nat.mod_mod_of_dvd _ hsize]
  simp only [pokeTx, modifySocket_modifySocket, ChipBuffer.poke, put_append, put_congr hptr]

theorem writeReg_txWr (i : Fin 8) (ptr : UInt16) (chip : ChipState size) :
    chip.writeReg i SN_TX_WR0 (BigEndian.encode 2 ptr.toNat) =
      chip.modifySocket i fun s => { s with tx := { s.tx with writePtr := ptr } } := by
  rw [writeReg, BigEndian.decode_encode_of_lt (UInt16.toNat_lt ptr), UInt16.ofNat_toNat]
  rfl

theorem writeReg_send (i : Fin 8) (chip : ChipState size) :
    chip.writeReg i SN_CR (BigEndian.encode 1 SocketCommand.send.bits.toNat) =
      send i { chip with commands := chip.commands ++ [(i, SocketCommand.send.bits)] } := rfl

theorem exec_setTxWritePointer (i : Fin 8) (ptr : UInt16) (chip : ChipState size)
    (scratch : DmaBuffers L) (hL : HEADER + 2 ≤ L) :
    ∃ scratch', exec (setTxWritePointer (socketBlock i) ptr) (.idle chip scratch) =
      (.ok (), .idle (chip.writeReg i SN_TX_WR0 (BigEndian.encode 2 ptr.toNat)) scratch') :=
  exec_write_reg i SN_TX_WR0 _ chip scratch (by rw [BigEndian.encode_length]; exact hL)

theorem exec_sendSockCommand (i : Fin 8) (command : SocketCommand) (chip : ChipState size)
    (scratch : DmaBuffers L) (hL : HEADER + 1 ≤ L) :
    ∃ scratch', exec (sendSockCommand (socketBlock i) command) (.idle chip scratch) =
      (.ok (), .idle (chip.writeReg i SN_CR (BigEndian.encode 1 command.bits.toNat)) scratch') :=
  exec_write_reg i SN_CR _ chip scratch (by rw [BigEndian.encode_length]; exact hL)

/-- `bytes` staged from `Sn_TX_WR` on, the pointer moved behind them, `SEND`. -/
def sendTx (i : Fin 8) (bytes : List UInt8) (chip : ChipState size) : ChipState size :=
  let ptr := (chip.sockets i).tx.writePtr
  ((chip.pokeTx i ptr bytes).writeReg i SN_TX_WR0
    (BigEndian.encode 2 (ptr + UInt16.ofNat bytes.length).toNat)).writeReg i SN_CR
      (BigEndian.encode 1 SocketCommand.send.bits.toNat)

theorem send_tx (i : Fin 8) (chip : ChipState size) :
    ((chip.send i).sockets i).tx =
      { (chip.sockets i).tx with readPtr := (chip.sockets i).tx.writePtr } := by
  simp only [send]
  split <;> simp [modifySocket]

theorem send_commands (i : Fin 8) (chip : ChipState size) :
    (chip.send i).commands = chip.commands := by
  simp only [send]
  split <;> rfl

theorem sendTx_tx (i : Fin 8) (bytes : List UInt8) (chip : ChipState size) :
    ((chip.sendTx i bytes).sockets i).tx =
      let tx := (chip.sockets i).tx
      { data := put tx.data size tx.writePtr.toNat bytes
        readPtr := tx.writePtr + UInt16.ofNat bytes.length
        writePtr := tx.writePtr + UInt16.ofNat bytes.length } := by
  simp only [sendTx, writeReg_txWr, writeReg_send, send_tx]
  simp [pokeTx, modifySocket, ChipBuffer.poke]

theorem sendTx_commands (i : Fin 8) (bytes : List UInt8) (chip : ChipState size) :
    (chip.sendTx i bytes).commands = chip.commands ++ [(i, SocketCommand.send.bits)] := by
  rw [sendTx, writeReg_txWr, writeReg_send, send_commands]
  rfl

end ChipState

end Wiznet
