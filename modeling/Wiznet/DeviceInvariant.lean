import Wiznet.Ticks
import Wiznet.BusLog

/-! # Facts about the device

The driver reaches the device only through frames and delays. What those keep,
every bus operation keeps, and so does every tick. -/

namespace Wiznet
open Resumption Resumption.Code

variable {w L : Nat} {D S : Type}

/-- `I` holds of the device, wherever the transport has it. -/
def OnDevice (I : D → Prop) : Transceiver L D → Prop
  | .pending => False
  | .idle dev _ => I dev
  | .inFlight txn => I txn.dev

variable [SpiDmaDevice D]

/-- Frames and delays keep `I`. -/
structure DeviceInvariant (I : D → Prop) : Prop where
  clock : ∀ dev mosi completion, I dev → I (SpiDmaDevice.clock dev mosi completion).2
  delay : ∀ dev ns, I dev → I (SpiDmaDevice.delayNs dev ns)

namespace DeviceInvariant

variable {I : D → Prop}

theorem transceive (h : DeviceInvariant I) {dev : D} (buffers : DmaBuffers L)
    (completion : Completion) (hd : I dev) :
    match transceive dev buffers completion with
    | .ok txn => I txn.dev
    | .error (dev', _) => I dev' := by
  have hc := h.clock dev buffers.mosi completion hd
  simp only [Wiznet.transceive]
  rcases hx : SpiDmaDevice.clock dev buffers.mosi completion with ⟨_ | miso, dev'⟩ <;>
    rw [hx] at hc <;> exact hc

theorem execChunks (h : DeviceInvariant I) (fuel : Nat) {dev : D} (scratch : DmaBuffers L)
    (ops : List Operation) (hd : I dev) : I (execChunks fuel dev scratch ops).1 := by
  induction fuel generalizing dev scratch ops with
  | zero => cases ops <;> exact hd
  | succ fuel ih =>
    cases ops with
    | nil => exact hd
    | cons op ops =>
      unfold Wiznet.execChunks
      split
      · split
        · exact ih _ _ (h.delay _ _ hd)
        · exact hd
      · next scratch' offset taken rest _ _ =>
        have ht := h.transceive { scratch' with len := offset } .poll hd
        split
        · next txn htxn => rw [htxn] at ht; exact ih _ _ ht
        · next back htxn => rw [htxn] at ht; exact ht

theorem transaction (h : DeviceInvariant I) {cell : Transceiver L D} (ops : List Operation)
    (hc : OnDevice I cell) : OnDevice I (transaction ops cell).2 := by
  cases cell with
  | pending => exact hc
  | inFlight txn => exact hc
  | idle dev scratch =>
    have he := h.execChunks ops.length scratch ops hc
    simp only [Wiznet.transaction, execTransaction]
    split <;> next hx => rw [hx] at he; exact he

theorem keeps_read (h : DeviceInvariant I) (addr : Address) (n : Nat) :
    Keeps (OnDevice (L := L) I) (read addr n) := by
  intro cell hc
  have ht := h.transaction [.write (createHeader addr false), .read (List.replicate n 0)] hc
  rw [read, wp_attempt]
  generalize Wiznet.transaction _ cell = out at ht ⊢
  split <;> split at * <;> simp_all

theorem keeps_write (h : DeviceInvariant I) (addr : Address) (data : List UInt8) :
    Keeps (OnDevice (L := L) I) (write addr data) := by
  intro cell hc
  have ht := h.transaction [.write (createHeader addr true), .write data] hc
  rw [write, wp_attempt]
  generalize Wiznet.transaction _ cell = out at ht ⊢
  split <;> split at * <;> simp_all

theorem keeps_delay (h : DeviceInvariant I) (ns : UInt32) :
    Keeps (OnDevice (L := L) I) (Wiznet.delay ns) := by
  intro cell hc
  have ht := h.transaction [.delayNs ns] hc
  rw [Wiznet.delay, wp_attempt]
  generalize Wiznet.transaction _ cell = out at ht ⊢
  split <;> split at * <;> simp_all

theorem keeps_startRead (h : DeviceInvariant I) (addr : Address) (len : Nat) :
    Keeps (OnDevice (L := L) I) (startRead addr len) := by
  intro cell hc
  cases cell with
  | pending => exact hc.elim
  | inFlight txn => rw [wp, exec_startRead_inFlight]; exact hc
  | idle dev scratch =>
    by_cases hl : HEADER + len ≤ L
    · have hk := h.clock dev (scratch.framed (createHeader addr false) len).mosi .interrupt hc
      rw [wp, exec_startRead hl]
      rcases hx : SpiDmaDevice.clock dev _ .interrupt with ⟨_ | miso, dev'⟩ <;>
        rw [hx] at hk <;> exact hk
    · rw [wp, exec_startRead_overrun (Nat.lt_of_not_le hl)]
      exact hc

theorem keeps_startWrite (h : DeviceInvariant I) (cell : Lens S (Transceiver L D)) (addr : Address)
    (len : Nat) (fill : List UInt8 → Prog S (List UInt8)) :
    Keeps (fun s => OnDevice I (cell.get s)) (startWrite cell addr len fill) := by
  intro s hc
  cases hs : cell.get s with
  | pending => rw [hs] at hc; exact hc.elim
  | inFlight txn => rw [wp, exec_startWrite_inFlight cell hs]; exact hc
  | idle dev scratch =>
    by_cases hl : HEADER + len ≤ L
    · rcases hf : (fill ((scratch.stage 0 (createHeader addr true)).txWindow HEADER len)).run
        (cell.set .pending s) with ⟨payload, s'⟩
      rw [hs] at hc
      have hk := h.clock dev (scratch.loaded (createHeader addr true) payload len).mosi
        .interrupt hc
      rw [wp, exec_startWrite cell hs hl hf]
      rcases hx : SpiDmaDevice.clock dev _ .interrupt with ⟨_ | miso, dev'⟩ <;>
        rw [hx] at hk <;> simpa [OnDevice] using hk
    · rw [wp, exec_startWrite_overrun cell hs (Nat.lt_of_not_le hl)]
      exact hc

theorem serves (h : DeviceInvariant I) (block : BlockAddress) :
    Serves .blind block (fun x => OnDevice (L := L) I x.1) fun _ _ _ x => OnDevice I x.1 where
  read addr n _ _ := (h.keeps_read addr n).watch
  write addr data _ _ := (h.keeps_write addr data).watch
  startRead _ pointer len _ := (h.keeps_startRead ⟨pointer, block.rx⟩ len).watch
  startWrite cell pointer len fill _ :=
    Keeps.watch (h.keeps_startWrite cell ⟨pointer, block.tx⟩ len fill)

end DeviceInvariant

/-! ## What the log remembers -/

/-- The log goes on from `before`. -/
def Since (before : List BusEntry) (dev : Logged D) : Prop := ∃ new, dev.log = before ++ new

/-- The log goes on from `before` and has an entry that satisfies `φ`. -/
def SeenBy (before : List BusEntry) (φ : BusEntry → Prop) (dev : Logged D) : Prop :=
  ∃ new, dev.log = before ++ new ∧ ∃ e ∈ new, φ e

omit [SpiDmaDevice D] in
theorem SeenBy.seen {before : List BusEntry} {φ : BusEntry → Prop}
    {cell : Transceiver L (Logged D)} (h : OnDevice (SeenBy before φ) cell) :
    Seen before φ cell := by
  cases cell with
  | pending => exact h.elim
  | idle dev scratch => exact h
  | inFlight txn => exact h

section Log

variable {before : List BusEntry} {φ : BusEntry → Prop}

theorem deviceInvariant_since : DeviceInvariant (Since (D := D) before) where
  clock dev mosi completion := by
    rintro ⟨new, h⟩
    rw [clock_logged]
    exact ⟨new ++ [_], by rw [h, List.append_assoc]⟩
  delay dev ns h := h

theorem deviceInvariant_seenBy : DeviceInvariant (SeenBy (D := D) before φ) where
  clock dev mosi completion := by
    rintro ⟨new, h, e, he, hφ⟩
    rw [clock_logged]
    exact ⟨new ++ [_], by rw [h, List.append_assoc], e, List.mem_append_left _ he, hφ⟩
  delay dev ns h := h

end Log

end Wiznet
