import Wiznet.SocketCommon
import Wiznet.Lib.Hoare

/-! # What one bus operation does to the transport

Everything the driver does on the bus goes through five operations. Each one
leaves the transport as it found it, idle or in flight; only a successful start
puts a transfer in flight, and the frame it carries is known. -/

namespace Wiznet
open Resumption Resumption.Code

variable {w L : Nat} {D S α : Type}

/-- The transport is idle (`none`), or holds this very transfer. -/
def Held : Option (Transaction L D) → Transceiver L D → Prop
  | none, cell => ∃ dev scratch, cell = .idle dev scratch
  | some txn, cell => cell = .inFlight txn

/-- The frame of a transfer: a command header and `len` more bytes. -/
structure Carries (txn : Transaction L D) (addr : Address) (write : Bool) (len : Nat) : Prop where
  window : txn.buffers.len = HEADER + len
  frame : ∃ payload, payload.length = len ∧
    txn.buffers.mosi = createHeader addr write ++ payload

/-! ## Frames in the scratch -/

/-- The scratch as a frame of header and `len` more bytes is staged in it. -/
def DmaBuffers.framed (scratch : DmaBuffers L) (header : List UInt8) (len : Nat) : DmaBuffers L :=
  { scratch.stage 0 header with len := HEADER + len }

theorem rxWindow_capture (b : DmaBuffers L) {miso : List UInt8} (off n : Nat)
    (h : miso.length = off + n) (hL : off + n ≤ L) :
    (b.capture miso).rxWindow off n = miso.drop off := by
  have hl : 0 + miso.length ≤ b.rx.length := by rw [b.rx_length, h]; omega
  simp only [DmaBuffers.rxWindow, DmaBuffers.capture, copyFromSlice_eq hl, List.take_zero,
    List.nil_append]
  rw [List.drop_append_of_le_length (by omega), List.take_left' (by simp [h])]

theorem framed_mosi (scratch : DmaBuffers L) (addr : Address) (write : Bool) {len : Nat}
    (h : HEADER + len ≤ L) :
    (scratch.framed (createHeader addr write) len).mosi =
      createHeader addr write ++ (scratch.tx.drop HEADER).take len := by
  have hm := DmaBuffers.mosi_stage scratch (createHeader addr write) len
    (by rw [createHeader_length]; exact h)
  rwa [createHeader_length] at hm

/-! ## Synchronous operations -/

section Synchronous

variable [SpiDmaDevice D] {held : Option (Transaction L D)}

theorem Held.transaction {cell : Transceiver L D} (h : Held held cell) (ops : List Operation) :
    Held held (transaction ops cell).2 := by
  cases held with
  | none =>
    obtain ⟨dev, scratch, rfl⟩ := h
    simp only [Wiznet.transaction]
    split <;> exact ⟨_, _, rfl⟩
  | some txn =>
    cases h
    rfl

theorem keeps_read (addr : Address) (n : Nat) :
    Keeps (Held held) (read addr n : Code Error (Transceiver L D) _) := by
  intro cell h
  have ht := h.transaction [.write (createHeader addr false), .read (List.replicate n 0)]
  rw [read, wp_attempt]
  generalize Wiznet.transaction _ cell = out at ht ⊢
  split <;> split at * <;> simp_all

/-- A read that succeeds found the bus idle. -/
theorem held_of_read_ok {cell cell' : Transceiver L D} {addr : Address} {n : Nat}
    {data : List UInt8} (h : exec (read addr n) cell = (.ok data, cell')) : Held none cell := by
  cases cell with
  | pending => cases h
  | idle dev scratch => exact ⟨dev, scratch, rfl⟩
  | inFlight txn => cases h

theorem keeps_readU8 (addr : Address) :
    Keeps (Held held) (readU8 addr : Code Error (Transceiver L D) UInt8) := (keeps_read _ _).map _

theorem keeps_readU16 (addr : Address) :
    Keeps (Held held) (readU16 addr : Code Error (Transceiver L D) UInt16) := (keeps_read _ _).map _

theorem keeps_write (addr : Address) (data : List UInt8) :
    Keeps (Held held) (write addr data : Code Error (Transceiver L D) _) := by
  intro cell h
  have ht := h.transaction [.write (createHeader addr true), .write data]
  rw [write, wp_attempt]
  generalize Wiznet.transaction _ cell = out at ht ⊢
  split <;> split at * <;> simp_all

theorem keeps_delay (ns : UInt32) :
    Keeps (Held held) (delay ns : Code Error (Transceiver L D) _) := by
  intro cell h
  have ht := h.transaction [.delayNs ns]
  rw [delay, wp_attempt]
  generalize Wiznet.transaction _ cell = out at ht ⊢
  split <;> split at * <;> simp_all

/-- Operations that fit the scratch together cross the bus as one frame. -/
theorem transaction_frame {op : Operation} {ops : List Operation} {dev : D}
    {scratch staged : DmaBuffers L} {len : Nat}
    (h : stageChunk scratch 0 (op :: ops) = (staged, len, op :: ops, [])) :
    transaction (op :: ops) (.idle dev scratch) =
      match transceive dev { staged with len := len } .poll with
      | .ok txn => (.ok (copyBack txn.buffers 0 (op :: ops)), .idle txn.dev txn.buffers)
      | .error (dev', buffers) => (.error (.other .spiError), .idle dev' buffers) := by
  simp only [transaction, execTransaction, List.length_cons, execChunks, h]
  cases transceive dev { staged with len := len } .poll with
  | ok txn => simp [Transaction.wait]
  | error back => rfl

theorem exec_read {addr : Address} {n : Nat} {dev : D} {scratch : DmaBuffers L}
    (h : HEADER + n ≤ L) :
    exec (read addr n) (.idle dev scratch) =
      match SpiDmaDevice.clock dev (scratch.framed (createHeader addr false) n).mosi .poll with
      | (some miso, dev') => (.ok (miso.1.drop HEADER),
          .idle dev' ((scratch.framed (createHeader addr false) n).capture miso.1))
      | (none, dev') => (.error (.other .spiError),
          .idle dev' (scratch.framed (createHeader addr false) n)) := by
  have hh : HEADER ≤ L := by omega
  have hc : stageChunk scratch 0 [.write (createHeader addr false), .read (List.replicate n 0)] =
      (scratch.stage 0 (createHeader addr false), HEADER + n,
        [.write (createHeader addr false), .read (List.replicate n 0)], []) := by
    simp [stageChunk, DmaBuffers.rx_length, DmaBuffers.tx_length, Nat.not_lt.mpr hh,
      Nat.not_lt.mpr h]
  have hm : (scratch.framed (createHeader addr false) n).mosi.length = HEADER + n := by
    rw [framed_mosi _ _ _ h]; simp [scratch.tx_length]; omega
  rw [read, exec_attempt, transaction_frame hc]
  rcases hcl : SpiDmaDevice.clock dev (scratch.framed (createHeader addr false) n).mosi .poll with
    ⟨_ | miso, dev'⟩
  · have ht : transceive dev (scratch.framed (createHeader addr false) n) .poll =
        .error (dev', scratch.framed (createHeader addr false) n) := by rw [transceive, hcl]
    unfold DmaBuffers.framed at ht ⊢
    simp only [ht]
  · have ht : transceive dev (scratch.framed (createHeader addr false) n) .poll =
        .ok ⟨dev', (scratch.framed (createHeader addr false) n).capture miso.1⟩ := by
      rw [transceive, hcl]
    have hw := rxWindow_capture (scratch.framed (createHeader addr false) n) HEADER n
      (miso.2.trans hm) h
    unfold DmaBuffers.framed at ht hw ⊢
    simp only [ht, copyBack, createHeader_length, Nat.zero_add, List.length_replicate, hw]

theorem exec_write (addr : Address) {data : List UInt8} (dev : D) (scratch : DmaBuffers L)
    (h : HEADER + data.length ≤ L) :
    ∃ staged : DmaBuffers L, staged.mosi = createHeader addr true ++ data ∧
      exec (write addr data) (.idle dev scratch) =
        match SpiDmaDevice.clock dev staged.mosi .poll with
        | (some miso, dev') => (.ok (), .idle dev' (staged.capture miso.1))
        | (none, dev') => (.error (.other .spiError), .idle dev' staged) := by
  have hh : HEADER ≤ L := by omega
  have hc : stageChunk scratch 0 [.write (createHeader addr true), .write data] =
      ((scratch.stage 0 (createHeader addr true)).stage HEADER data, HEADER + data.length,
        [.write (createHeader addr true), .write data], []) := by
    simp [stageChunk, DmaBuffers.tx_length, Nat.not_lt.mpr hh, Nat.not_lt.mpr h]
  have hm := DmaBuffers.mosi_stage_stage scratch (createHeader addr true) data
    (by rw [createHeader_length]; exact h)
  rw [createHeader_length] at hm
  refine ⟨_, hm, ?_⟩
  simp only [write, exec_attempt, transaction_frame hc]
  rcases hcl : SpiDmaDevice.clock dev ({ (scratch.stage 0 (createHeader addr true)).stage HEADER
    data with len := HEADER + data.length } : DmaBuffers L).mosi .poll with ⟨_ | miso, dev'⟩
  · simp only [transceive, hcl]
  · simp only [transceive, hcl]
end Synchronous

/-! ## Bulk transfers -/

section Bulk

variable [SpiDmaDevice D] {held : Option (Transaction L D)}

/-- The scratch with a whole write frame staged. -/
def DmaBuffers.loaded (scratch : DmaBuffers L) (header payload : List UInt8) (len : Nat) :
    DmaBuffers L :=
  { (scratch.stage 0 header).stage HEADER payload with len := HEADER + len }

theorem loaded_mosi {scratch : DmaBuffers L} {addr : Address} {write : Bool}
    {payload : List UInt8} (h : HEADER + payload.length ≤ L) :
    (scratch.loaded (createHeader addr write) payload payload.length).mosi =
      createHeader addr write ++ payload := by
  have hm := DmaBuffers.mosi_stage_stage scratch (createHeader addr write) payload
    (by rw [createHeader_length]; exact h)
  rwa [createHeader_length] at hm

/-- The header of a loaded frame stands whatever the payload is. -/
theorem loaded_frame {scratch : DmaBuffers L} {addr : Address} {write : Bool}
    {payload : List UInt8} {len : Nat} (h : HEADER + len ≤ L) :
    ∃ rest, rest.length = len ∧
      (scratch.loaded (createHeader addr write) payload len).mosi =
        createHeader addr write ++ rest := by
  have hs : 0 + (createHeader addr write).length ≤ scratch.tx.length := by
    rw [createHeader_length, scratch.tx_length]; omega
  have ht : (scratch.stage 0 (createHeader addr write)).tx.take HEADER =
      createHeader addr write := by
    rw [← createHeader_length addr write]
    simp [DmaBuffers.stage, copyFromSlice_eq hs]
  refine ⟨(scratch.loaded (createHeader addr write) payload len).mosi.drop HEADER, ?_, ?_⟩
  · simp only [DmaBuffers.mosi, List.length_drop, List.length_take, DmaBuffers.tx_length,
      DmaBuffers.loaded]
    omega
  · conv_lhs => rw [← List.take_append_drop HEADER (DmaBuffers.mosi _)]
    congr 1
    rw [DmaBuffers.mosi, List.take_take]
    change ((copyFromSlice _ HEADER payload).take (min HEADER (HEADER + len))) = _
    rw [Nat.min_eq_left (Nat.le_add_right ..), copyFromSlice_take, ht]

theorem exec_launch (dev : D) (scratch : DmaBuffers L) (cell : Transceiver L D) :
    exec (Code.attempt fun _ => launch dev scratch) cell =
      match SpiDmaDevice.clock dev scratch.mosi .interrupt with
      | (some miso, dev') => (.ok (), .inFlight ⟨dev', scratch.capture miso.1⟩)
      | (none, dev') => (.error (.other .spiError), .idle dev' scratch) := by
  rw [exec_attempt, launch, transceive]
  rcases SpiDmaDevice.clock dev scratch.mosi .interrupt with ⟨_ | miso, dev'⟩ <;> rfl

theorem exec_startRead {addr : Address} {len : Nat} {dev : D} {scratch : DmaBuffers L}
    (h : HEADER + len ≤ L) :
    exec (startRead addr len) (.idle dev scratch) =
      match SpiDmaDevice.clock dev (scratch.framed (createHeader addr false) len).mosi
        .interrupt with
      | (some miso, dev') =>
        (.ok (), .inFlight ⟨dev', (scratch.framed (createHeader addr false) len).capture miso.1⟩)
      | (none, dev') =>
        (.error (.other .spiError), .idle dev' (scratch.framed (createHeader addr false) len)) := by
  have ht : exec (Code.attempt takeIdle : Code Error (Transceiver L D) _) (.idle dev scratch) =
      (.ok (dev, scratch), .pending) := rfl
  rw [startRead, exec_bind_ok ht]
  simp only [scratch.tx_length, Nat.not_lt.mpr h, if_false]
  have hl := exec_launch dev (scratch.framed (createHeader addr false) len) .pending
  unfold DmaBuffers.framed at hl ⊢
  rw [hl]
  rcases SpiDmaDevice.clock dev _ .interrupt with ⟨_ | miso, dev'⟩ <;> rfl

theorem exec_startRead_overrun {addr : Address} {len : Nat} {dev : D} {scratch : DmaBuffers L}
    (h : L < HEADER + len) :
    exec (startRead addr len) (.idle dev scratch) =
      (.error (.other .scratchBufferOverrun), .idle dev scratch) := by
  have ht : exec (Code.attempt takeIdle : Code Error (Transceiver L D) _) (.idle dev scratch) =
      (.ok (dev, scratch), .pending) := rfl
  rw [startRead, exec_bind_ok ht]
  simp only [scratch.tx_length, h, if_true, exec_attempt]

theorem exec_startRead_inFlight {addr : Address} {len : Nat} (txn : Transaction L D) :
    exec (startRead addr len) (.inFlight txn) = (.error .wouldBlock, .inFlight txn) := rfl

theorem exec_startWrite (cell : Lens S (Transceiver L D)) {addr : Address} {len : Nat}
    {fill : List UInt8 → Prog S (List UInt8)} {dev : D} {scratch : DmaBuffers L} {s s' : S}
    {payload : List UInt8} (hs : cell.get s = .idle dev scratch) (h : HEADER + len ≤ L)
    (hf : (fill ((scratch.stage 0 (createHeader addr true)).txWindow HEADER len)).run
      (cell.set .pending s) = (payload, s')) :
    exec (startWrite cell addr len fill) s =
      match SpiDmaDevice.clock dev (scratch.loaded (createHeader addr true) payload len).mosi
        .interrupt with
      | (some miso, dev') => (.ok (), cell.set (.inFlight ⟨dev',
          (scratch.loaded (createHeader addr true) payload len).capture miso.1⟩) s')
      | (none, dev') => (.error (.other .spiError),
          cell.set (.idle dev' (scratch.loaded (createHeader addr true) payload len)) s') := by
  have ht : exec (Code.zoom cell (Code.attempt takeIdle)) s =
      (.ok (dev, scratch), cell.set .pending s) := by rw [exec_zoom, exec_attempt, hs]; rfl
  rw [startWrite, exec_bind_ok ht]
  simp only [scratch.tx_length, Nat.not_lt.mpr h, if_false]
  rw [exec_bind, exec_always, hf]
  simp only [exec_zoom]
  have hl := exec_launch dev (scratch.loaded (createHeader addr true) payload len) (cell.get s')
  unfold DmaBuffers.loaded at hl ⊢
  rw [hl]
  rcases SpiDmaDevice.clock dev _ .interrupt with ⟨_ | miso, dev'⟩ <;> rfl

theorem exec_startWrite_overrun (cell : Lens S (Transceiver L D)) {addr : Address} {len : Nat}
    {fill : List UInt8 → Prog S (List UInt8)} {dev : D} {scratch : DmaBuffers L} {s : S}
    (hs : cell.get s = .idle dev scratch) (h : L < HEADER + len) :
    exec (startWrite cell addr len fill) s = (.error (.other .scratchBufferOverrun), s) := by
  have ht : exec (Code.zoom cell (Code.attempt takeIdle)) s =
      (.ok (dev, scratch), cell.set .pending s) := by rw [exec_zoom, exec_attempt, hs]; rfl
  rw [startWrite, exec_bind_ok ht]
  simp only [scratch.tx_length, h, if_true, exec_zoom, exec_attempt, Lens.set_set]
  rw [← hs, Lens.set_get]

theorem exec_startWrite_inFlight (cell : Lens S (Transceiver L D)) {addr : Address} {len : Nat}
    {fill : List UInt8 → Prog S (List UInt8)} {s : S} {txn : Transaction L D}
    (hs : cell.get s = .inFlight txn) :
    exec (startWrite cell addr len fill) s = (.error .wouldBlock, s) := by
  have ht : exec (Code.zoom cell (Code.attempt takeIdle)) s = (.error .wouldBlock, s) := by
    have hi : takeIdle (.inFlight txn) = (.error .wouldBlock, .inFlight txn) := rfl
    rw [exec_zoom, exec_attempt, hs, hi, ← hs, Lens.set_get]
  rw [startWrite, exec_bind_error ht]

/-- A start succeeds on an idle bus only, and then the frame is in flight. -/
theorem wp_startRead {cell : Transceiver L D} (h : Held held cell) (addr : Address) (len : Nat) :
    wp (startRead addr len)
      (fun _ cell' => held = none ∧ ∃ txn, cell' = .inFlight txn ∧ Carries txn addr false len)
      (fun _ => Held held) cell := by
  cases held with
  | some txn =>
    cases h
    rw [wp, exec_startRead_inFlight]
    rfl
  | none =>
    obtain ⟨dev, scratch, rfl⟩ := h
    by_cases hl : HEADER + len ≤ L
    · rw [wp, exec_startRead hl]
      rcases SpiDmaDevice.clock dev _ .interrupt with ⟨_ | miso, dev'⟩
      · exact ⟨_, _, rfl⟩
      · refine ⟨rfl, _, rfl, rfl, (scratch.tx.drop HEADER).take len, ?_, framed_mosi _ _ _ hl⟩
        rw [List.length_take, List.length_drop, scratch.tx_length]
        omega
    · rw [wp, exec_startRead_overrun (Nat.lt_of_not_le hl)]
      exact ⟨_, _, rfl⟩

theorem wp_startWrite (cell : Lens S (Transceiver L D)) {s : S} (h : Held held (cell.get s))
    (addr : Address) (len : Nat) (fill : List UInt8 → Prog S (List UInt8)) :
    wp (startWrite cell addr len fill)
      (fun _ s' => held = none ∧ ∃ txn, cell.get s' = .inFlight txn ∧ Carries txn addr true len)
      (fun _ s' => Held held (cell.get s')) s := by
  cases held with
  | some txn =>
    rw [wp, exec_startWrite_inFlight cell h]
    exact h
  | none =>
    obtain ⟨dev, scratch, hs⟩ := h
    by_cases hl : HEADER + len ≤ L
    · rcases hf : (fill ((scratch.stage 0 (createHeader addr true)).txWindow HEADER len)).run
        (cell.set .pending s) with ⟨payload, s'⟩
      rw [wp, exec_startWrite cell hs hl hf]
      rcases SpiDmaDevice.clock dev _ .interrupt with ⟨_ | miso, dev'⟩
      · exact ⟨_, _, cell.get_set _ _⟩
      · exact ⟨rfl, _, cell.get_set _ _, rfl, loaded_frame hl⟩
    · rw [wp, exec_startWrite_overrun cell hs (Nat.lt_of_not_le hl)]
      exact ⟨_, _, hs⟩

end Bulk

/-! ## Completion -/

theorem exec_finishRead (cell : Lens S (Transceiver L D)) {len : Nat}
    {consume : List UInt8 → Prog S Unit} {s : S} {txn : Transaction L D}
    (hs : cell.get s = .inFlight txn) :
    exec (finishRead cell len consume) s = (.ok (), cell.set (.idle txn.dev txn.buffers)
      ((consume (txn.buffers.rxWindow HEADER len)).run (cell.set .pending s)).2) := by
  have ht : exec (Code.zoom cell (Code.attempt takeInFlight)) s =
      (.ok txn, cell.set .pending s) := by rw [exec_zoom, exec_attempt, hs]; rfl
  rw [finishRead, exec_bind_ok ht]
  simp [exec_bind, Transaction.wait]

theorem exec_finishWrite (txn : Transaction L D) :
    exec (finishWrite : Code Error (Transceiver L D) Unit) (.inFlight txn) =
      (.ok (), .idle txn.dev txn.buffers) := rfl

theorem abort_idle {held : Option (Transaction L D)} {cell : Transceiver L D} (h : Held held cell) :
    Held none (abort.run cell).2 := by
  cases held with
  | none => obtain ⟨dev, scratch, rfl⟩ := h; exact ⟨dev, scratch, rfl⟩
  | some txn => cases h; exact ⟨_, _, rfl⟩

end Wiznet
