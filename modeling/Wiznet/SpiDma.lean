import Wiznet.Lib.Resumption

/-! # The SPI transport contract

`spi_dma.rs` and `error.rs`: what the driver asks of the platform. A device
clocks one full-duplex frame at a time, or fails and hands everything back. -/

namespace Wiznet

inductive DriverError where
  | spiError
  | pinError
  | scratchBufferOverrun
  | unexpectedResponse
  deriving DecidableEq, Repr

/-- `nb::Error<DriverError>`. -/
inductive Error where
  | other (e : DriverError)
  | wouldBlock
  deriving DecidableEq, Repr

/-- How a transfer signals completion. -/
inductive Completion where
  | poll
  | interrupt
  deriving DecidableEq, Repr

/-- A platform device. `clock` is the frame a `transceive` puts on the bus: as
many MISO bytes come back as MOSI bytes went out, or nothing when it fails. -/
class SpiDmaDevice (D : Type) where
  clock : D → (mosi : List UInt8) → Completion →
    Option { miso : List UInt8 // miso.length = mosi.length } × D
  delayNs : D → UInt32 → D

/-- The reset line; each call reports whether it succeeded. -/
class OutputPin (P : Type) where
  setLow : P → Bool × P
  setHigh : P → Bool × P

/-- `buf[off..off + items.len()].copy_from_slice(items)`; what would fall
outside `buf` is dropped, so the length never changes. -/
def copyFromSlice : List UInt8 → Nat → List UInt8 → List UInt8
  | [], _, _ => []
  | bs, 0, [] => bs
  | _ :: bs, 0, x :: xs => x :: copyFromSlice bs 0 xs
  | b :: bs, off + 1, xs => b :: copyFromSlice bs off xs

@[simp] theorem copyFromSlice_length (bs : List UInt8) (off : Nat) (xs : List UInt8) :
    (copyFromSlice bs off xs).length = bs.length := by
  induction bs generalizing off xs with
  | nil => rfl
  | cons b bs ih =>
    cases off with
    | zero => cases xs <;> simp [copyFromSlice, ih]
    | succ off => simp [copyFromSlice, ih]

/-- A slice that fits is replaced and everything around it stays. -/
theorem copyFromSlice_eq {bs : List UInt8} {off : Nat} {xs : List UInt8}
    (h : off + xs.length ≤ bs.length) :
    copyFromSlice bs off xs = bs.take off ++ xs ++ bs.drop (off + xs.length) := by
  induction bs generalizing off xs with
  | nil =>
    have hx : xs = [] := List.length_eq_zero_iff.mp (by rw [List.length_nil] at h; omega)
    simp [copyFromSlice, hx]
  | cons b bs ih =>
    cases off with
    | zero =>
      cases xs with
      | nil => simp [copyFromSlice]
      | cons x xs => simpa [copyFromSlice] using @ih 0 xs (by simpa using h)
    | succ off =>
      have hs : off + 1 + xs.length = off + xs.length + 1 := by omega
      simpa [copyFromSlice, hs] using @ih off xs (by simp at h; omega)

/-- What stands before the slice stays, whether or not the slice fits. -/
theorem copyFromSlice_take (bs : List UInt8) (off : Nat) (xs : List UInt8) :
    (copyFromSlice bs off xs).take off = bs.take off := by
  induction bs generalizing off xs with
  | nil => rfl
  | cons b bs ih =>
    cases off with
    | zero => rfl
    | succ off => simp [copyFromSlice, ih]

/-- The scratch buffers the driver lends to a transfer, both of length `L`;
`len` is the active window. -/
structure DmaBuffers (L : Nat) where
  rx : List UInt8
  tx : List UInt8
  len : Nat
  rx_length : rx.length = L
  tx_length : tx.length = L

namespace DmaBuffers

variable {L : Nat}

/-- Write `items` into the MOSI scratch at `off`. -/
def stage (b : DmaBuffers L) (off : Nat) (items : List UInt8) : DmaBuffers L :=
  { b with tx := copyFromSlice b.tx off items, tx_length := by simp [b.tx_length] }

/-- Fill the start of the MISO scratch. -/
def capture (b : DmaBuffers L) (miso : List UInt8) : DmaBuffers L :=
  { b with rx := copyFromSlice b.rx 0 miso, rx_length := by simp [b.rx_length] }

/-- `tx[..len]`, what a transfer clocks out. -/
def mosi (b : DmaBuffers L) : List UInt8 := b.tx.take b.len

/-- `rx[off..off + n]`. -/
def rxWindow (b : DmaBuffers L) (off n : Nat) : List UInt8 := (b.rx.drop off).take n

/-- `tx[off..off + n]`. -/
def txWindow (b : DmaBuffers L) (off n : Nat) : List UInt8 := (b.tx.drop off).take n

/-- A frame of a staged header and whatever follows it in the scratch. -/
theorem mosi_stage (b : DmaBuffers L) (header : List UInt8) (len : Nat)
    (h : header.length + len ≤ L) :
    ({ b.stage 0 header with len := header.length + len } : DmaBuffers L).mosi =
      header ++ (b.tx.drop header.length).take len := by
  have hl : 0 + header.length ≤ b.tx.length := by rw [b.tx_length]; omega
  simp only [mosi, stage, copyFromSlice_eq hl, Nat.zero_add, List.take_zero, List.nil_append,
    List.take_length_add_append]

/-- A frame of a staged header and a staged payload. -/
theorem mosi_stage_stage (b : DmaBuffers L) (header payload : List UInt8)
    (h : header.length + payload.length ≤ L) :
    ({ (b.stage 0 header).stage header.length payload with
        len := header.length + payload.length } : DmaBuffers L).mosi = header ++ payload := by
  have hl : header.length + payload.length ≤ (b.stage 0 header).tx.length := by
    rw [(b.stage 0 header).tx_length]; exact h
  have ht : (b.stage 0 header).tx.take header.length = header := by
    have hl : 0 + header.length ≤ b.tx.length := by rw [b.tx_length]; omega
    simp [stage, copyFromSlice_eq hl]
  change (copyFromSlice (b.stage 0 header).tx header.length payload).take
    (header.length + payload.length) = header ++ payload
  rw [copyFromSlice_eq hl, ht, ← List.length_append, List.take_left' rfl]

end DmaBuffers

/-- A started transfer: the device and the buffers it will hand back. -/
structure Transaction (L : Nat) (D : Type) where
  dev : D
  buffers : DmaBuffers L

def Transaction.wait {L : Nat} {D : Type} (t : Transaction L D) : D × DmaBuffers L :=
  (t.dev, t.buffers)

/-- Start one full-duplex transfer of `buffers.len` bytes: `tx[..len]` out,
captured into `rx[..len]`. A failure returns the device and the buffers. -/
def transceive {L : Nat} {D : Type} [SpiDmaDevice D] (dev : D) (buffers : DmaBuffers L)
    (completion : Completion) : Except (D × DmaBuffers L) (Transaction L D) :=
  match SpiDmaDevice.clock dev buffers.mosi completion with
  | (some miso, dev) => .ok ⟨dev, buffers.capture miso.1⟩
  | (none, dev) => .error (dev, buffers)

end Wiznet
