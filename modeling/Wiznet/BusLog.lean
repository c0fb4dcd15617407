import Wiznet.Bus

/-! # A bus with a memory

Any device can be run with a log of the frames it was given and of what it
answered. The log changes nothing the driver sees; it is where a statement
about "the transfers that failed" looks them up. -/

namespace Wiznet
open Resumption Resumption.Code

/-- One frame that was clocked: the bytes that went out and, unless the transfer
failed, the bytes that came back. -/
structure BusEntry where
  mosi : List UInt8
  answer : Option (List UInt8)
  deriving DecidableEq, Repr

namespace BusEntry

/-- The frame accesses `addr`. -/
def Accesses (e : BusEntry) (addr : Address) (write : Bool) : Prop :=
  ∃ rest, e.mosi = createHeader addr write ++ rest

theorem accesses_iff {e : BusEntry} {addr : Address} {write : Bool} :
    e.Accesses addr write ↔ e.mosi.take HEADER = createHeader addr write := by
  constructor
  · rintro ⟨rest, he⟩
    rw [he, List.take_left' (createHeader_length _ _)]
  · intro he
    exact ⟨e.mosi.drop HEADER, by rw [← he, List.take_append_drop]⟩

instance (e : BusEntry) (addr : Address) (write : Bool) : Decidable (e.Accesses addr write) :=
  decidable_of_iff _ accesses_iff.symm

/-- The frame is a transfer of the socket at `block`, and it failed. -/
def FailedAt (e : BusEntry) (block : BlockAddress) : Prop :=
  e.answer = none ∧ ∃ addr write, e.Accesses addr write ∧
    (addr.block = block.reg ∨ addr.block = block.tx ∨ addr.block = block.rx)

/-- The answer to a two-byte register read. -/
def value (e : BusEntry) : Option UInt16 :=
  e.answer.map fun a => UInt16.ofNat (BigEndian.decode (a.drop HEADER))

end BusEntry

/-- A device and the log of its frames, the latest last. -/
structure Logged (D : Type) where
  dev : D
  log : List BusEntry

variable {L : Nat} {D S α β : Type}

instance [SpiDmaDevice D] : SpiDmaDevice (Logged D) where
  clock d mosi completion :=
    let out := SpiDmaDevice.clock d.dev mosi completion
    (out.1, ⟨out.2, d.log ++ [⟨mosi, out.1.map Subtype.val⟩]⟩)
  delayNs d ns := { d with dev := SpiDmaDevice.delayNs d.dev ns }

/-- The log of the device, wherever the transport has it. -/
def busLog : Transceiver L (Logged D) → List BusEntry
  | .pending => []
  | .idle dev _ => dev.log
  | .inFlight txn => txn.dev.log

/-! ## Clean runs -/

/-- The bus is idle, and every frame since `before` satisfies `φ`. -/
structure Clean (before : List BusEntry) (φ : BusEntry → Prop) (cell : Transceiver L (Logged D)) :
    Prop where
  idle : Held none cell
  log : ∃ new, busLog cell = before ++ new ∧ ∀ e ∈ new, φ e

/-- A frame since `before` satisfies `φ`. -/
def Seen (before : List BusEntry) (φ : BusEntry → Prop) (cell : Transceiver L (Logged D)) : Prop :=
  ∃ new, busLog cell = before ++ new ∧ ∃ e ∈ new, φ e

theorem seen_nil {φ : BusEntry → Prop} {cell : Transceiver L (Logged D)} :
    Seen [] φ cell ↔ ∃ e ∈ busLog cell, φ e := by simp [Seen]

theorem Seen.mem_drop {before : List BusEntry} {φ : BusEntry → Prop}
    {cell : Transceiver L (Logged D)} (h : Seen before φ cell) :
    ∃ e ∈ (busLog cell).drop before.length, φ e := by
  obtain ⟨new, hnew, e, he, hφ⟩ := h
  refine ⟨e, ?_, hφ⟩
  rw [hnew, List.drop_left]
  exact he

/-- A frame was answered. -/
def Answered (e : BusEntry) : Prop := e.answer.isSome

/-- A frame was not answered. -/
def Unanswered (e : BusEntry) : Prop := e.answer = none

section Clean

variable {before : List BusEntry} {φ ψ : BusEntry → Prop} {cell cell' : Transceiver L (Logged D)}
  {e : BusEntry}

theorem Clean.snoc (h : Clean before φ cell) (hi : Held none cell')
    (hl : busLog cell' = busLog cell ++ [e]) (he : φ e) : Clean before φ cell' := by
  obtain ⟨new, hnew, hall⟩ := h.log
  refine ⟨hi, new ++ [e], by rw [hl, hnew, List.append_assoc], fun e' he' => ?_⟩
  rcases List.mem_append.mp he' with he' | he'
  · exact hall e' he'
  · rw [List.mem_singleton.mp he']
    exact he

theorem Clean.mono (h : Clean before φ cell) (hφ : ∀ e, φ e → ψ e) : Clean before ψ cell := by
  obtain ⟨new, hnew, hall⟩ := h.log
  exact ⟨h.idle, new, hnew, fun e he => hφ e (hall e he)⟩

theorem Clean.seen (h : Clean before φ cell) (hl : busLog cell' = busLog cell ++ [e]) (he : ψ e) :
    Seen before ψ cell' := by
  obtain ⟨new, hnew, -⟩ := h.log
  exact ⟨new ++ [e], by rw [hl, hnew, List.append_assoc], e, by simp, he⟩

/-- A run cannot be clean and have seen what it was clean of. -/
theorem Clean.not_seen (h : Clean before φ cell) (hψ : ∀ e, φ e → ¬ ψ e) :
    ¬ Seen before ψ cell := by
  rintro ⟨new, hnew, e, he, hs⟩
  obtain ⟨new', hnew', hall⟩ := h.log
  have heq : new' = new := List.append_cancel_left (hnew'.symm.trans hnew)
  exact hψ e (hall e (heq ▸ he)) hs

end Clean

/-! ## Frames on a logged bus -/

variable [SpiDmaDevice D]

theorem clock_logged (dev : Logged D) (mosi : List UInt8) (completion : Completion) :
    SpiDmaDevice.clock dev mosi completion =
      ((SpiDmaDevice.clock dev.dev mosi completion).1,
        ⟨(SpiDmaDevice.clock dev.dev mosi completion).2, dev.log ++
          [⟨mosi, (SpiDmaDevice.clock dev.dev mosi completion).1.map Subtype.val⟩]⟩) := rfl

/-- A read that fits is one frame, and succeeds if the frame is answered. -/
theorem wp_logged_read {cell : Transceiver L (Logged D)} (hi : Held none cell) {addr : Address}
    {n : Nat} (h : HEADER + n ≤ L) :
    wp (read addr n)
      (fun data cell' => Held none cell' ∧ ∃ e : BusEntry, e.Accesses addr false ∧
        (∃ a, e.answer = some a ∧ a.drop HEADER = data) ∧ busLog cell' = busLog cell ++ [e])
      (fun err cell' => err = .other .spiError ∧ Held none cell' ∧ ∃ e : BusEntry,
        e.Accesses addr false ∧ e.answer = none ∧ busLog cell' = busLog cell ++ [e]) cell := by
  obtain ⟨dev, scratch, rfl⟩ := hi
  have hm := framed_mosi scratch addr false h
  rw [wp, exec_read h]
  rcases hcl : SpiDmaDevice.clock dev.dev
    (scratch.framed (createHeader addr false) n).mosi .poll with ⟨_ | miso, dev'⟩
  · rw [clock_logged, hcl]
    exact ⟨rfl, ⟨_, _, rfl⟩, _, ⟨_, hm⟩, rfl, rfl⟩
  · rw [clock_logged, hcl]
    exact ⟨⟨_, _, rfl⟩, _, ⟨_, hm⟩, ⟨_, rfl, rfl⟩, rfl⟩

/-- A write that fits is one frame, header and payload, and succeeds if the frame
is answered. -/
theorem wp_logged_frame {cell : Transceiver L (Logged D)} (hi : Held none cell) (addr : Address)
    {data : List UInt8} (h : HEADER + data.length ≤ L) :
    wp (write addr data)
      (fun _ cell' => Held none cell' ∧ ∃ e : BusEntry, e.mosi = createHeader addr true ++ data ∧
        e.answer.isSome ∧ busLog cell' = busLog cell ++ [e])
      (fun err cell' => err = .other .spiError ∧ Held none cell' ∧ ∃ e : BusEntry,
        e.mosi = createHeader addr true ++ data ∧ e.answer = none ∧
          busLog cell' = busLog cell ++ [e]) cell := by
  obtain ⟨dev, scratch, rfl⟩ := hi
  obtain ⟨staged, hm, hw⟩ := exec_write addr dev scratch h
  rw [wp, hw]
  rcases hcl : SpiDmaDevice.clock dev.dev staged.mosi .poll with ⟨_ | miso, dev'⟩
  · rw [clock_logged, hcl]
    exact ⟨rfl, ⟨_, _, rfl⟩, _, hm, rfl, rfl⟩
  · rw [clock_logged, hcl]
    exact ⟨⟨_, _, rfl⟩, _, hm, rfl, rfl⟩

theorem wp_logged_write {cell : Transceiver L (Logged D)} (hi : Held none cell) (addr : Address)
    {data : List UInt8} (h : HEADER + data.length ≤ L) :
    wp (write addr data)
      (fun _ cell' => Held none cell' ∧ ∃ e : BusEntry, e.Accesses addr true ∧
        e.answer.isSome ∧ busLog cell' = busLog cell ++ [e])
      (fun err cell' => err = .other .spiError ∧ Held none cell' ∧ ∃ e : BusEntry,
        e.Accesses addr true ∧ e.answer = none ∧ busLog cell' = busLog cell ++ [e]) cell :=
  wp_mono (wp_logged_frame hi addr h) (fun _ _ ⟨hi, e, he, ha⟩ => ⟨hi, e, ⟨data, he⟩, ha⟩)
    fun _ _ ⟨herr, hi, e, he, ha⟩ => ⟨herr, hi, e, ⟨data, he⟩, ha⟩

/-- A delay on an idle bus succeeds and clocks nothing. -/
theorem wp_logged_delay {cell : Transceiver L (Logged D)} (hi : Held none cell) (ns : UInt32) :
    wp (delay ns) (fun _ cell' => Held none cell' ∧ busLog cell' = busLog cell) (fun _ _ => False)
      cell := by
  obtain ⟨dev, scratch, rfl⟩ := hi
  exact ⟨⟨_, _, rfl⟩, rfl⟩

variable {before : List BusEntry} {φ : BusEntry → Prop}

theorem triple_write_clean {addr : Address} {data : List UInt8} (h : HEADER + data.length ≤ L)
    (hφ : ∀ e : BusEntry, e.Accesses addr true → Answered e → φ e) :
    Triple (Clean before φ) (write addr data : Code Error (Transceiver L (Logged D)) Unit)
      (fun _ => Clean before φ)
      fun _ => Seen before fun e => e.Accesses addr true ∧ Unanswered e := by
  intro cell hc
  refine wp_mono (wp_logged_write hc.idle addr h) ?_ ?_
  · rintro _ cell' ⟨hi, e, he, ha, hl⟩
    exact hc.snoc hi hl (hφ e he ha)
  · rintro _ cell' ⟨-, -, e, he, ha, hl⟩
    exact hc.seen hl ⟨he, ha⟩

/-- A register read of a clean run, with the frame that brought the value. -/
theorem triple_read_clean {addr : Address} {n : Nat} (h : HEADER + n ≤ L) :
    Triple (Clean before φ) (read addr n : Code Error (Transceiver L (Logged D)) (List UInt8))
      (fun data cell' => ∃ (cell : Transceiver L (Logged D)) (e : BusEntry),
        Clean before φ cell ∧ Held none cell' ∧ busLog cell' = busLog cell ++ [e] ∧ e.Accesses addr false ∧
        ∃ a, e.answer = some a ∧ a.drop HEADER = data)
      fun _ => Seen before fun e => e.Accesses addr false ∧ Unanswered e := by
  intro cell hc
  refine wp_mono (wp_logged_read hc.idle h) ?_ ?_
  · rintro data cell' ⟨hi, e, he, ha, hl⟩
    exact ⟨cell, e, hc, hi, hl, he, ha⟩
  · rintro _ cell' ⟨-, -, e, he, ha, hl⟩
    exact hc.seen hl ⟨he, ha⟩

end Wiznet
