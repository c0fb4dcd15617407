import Wiznet.DeviceInvariant
import Wiznet.Scripted
import Wiznet.TickSteps

/-! # A bus without faults

On a device that answers every frame an operation on an idle bus fails only when
it does not fit the scratch. -/

namespace Wiznet
open Resumption Resumption.Code

variable {w L : Nat} {D S : Type} [SpiDmaDevice D]

/-- In the states of `I` the device answers every frame. -/
structure Reliable (I : D → Prop) : Prop extends DeviceInvariant I where
  answers : ∀ dev mosi completion, I dev → (SpiDmaDevice.clock dev mosi completion).1.isSome = true

/-- The bus is idle, and the device in one of the states of `I`. -/
def IdleOn (I : D → Prop) (cell : Transceiver L D) : Prop :=
  ∃ dev scratch, cell = .idle dev scratch ∧ I dev

omit [SpiDmaDevice D] in
theorem idleOn_iff {I : D → Prop} {cell : Transceiver L D} :
    IdleOn I cell ↔ Held none cell ∧ OnDevice I cell := by
  constructor
  · rintro ⟨dev, scratch, rfl, hd⟩
    exact ⟨⟨dev, scratch, rfl⟩, hd⟩
  · rintro ⟨⟨dev, scratch, rfl⟩, hd⟩
    exact ⟨dev, scratch, rfl, hd⟩

theorem keeps_idleOn_read {I : D → Prop} (h : DeviceInvariant I) (addr : Address)
    (n : Nat) : Keeps (IdleOn (L := L) I) (read addr n) := by
  intro cell hc
  obtain ⟨hi, hd⟩ := idleOn_iff.mp hc
  exact wp_mono (wp_and (keeps_read addr n cell hi) (h.keeps_read addr n cell hd))
    (fun _ _ => idleOn_iff.mpr) fun _ _ => idleOn_iff.mpr

theorem keeps_idleOn_write {I : D → Prop} (h : DeviceInvariant I) (addr : Address)
    (data : List UInt8) : Keeps (IdleOn (L := L) I) (write addr data) := by
  intro cell hc
  obtain ⟨hi, hd⟩ := idleOn_iff.mp hc
  exact wp_mono (wp_and (keeps_write addr data cell hi) (h.keeps_write addr data cell hd))
    (fun _ _ => idleOn_iff.mpr) fun _ _ => idleOn_iff.mpr

namespace Reliable

variable {I : D → Prop} {cell : Transceiver L D} {n : Nat}

theorem clock_some (h : Reliable I) {dev : D} (hd : I dev) (mosi : List UInt8)
    (completion : Completion) :
    ∃ miso dev', SpiDmaDevice.clock dev mosi completion = (some miso, dev') ∧ I dev' := by
  have hanswers := h.answers dev mosi completion hd
  have hkeeps := h.clock dev mosi completion hd
  rcases hclock : SpiDmaDevice.clock dev mosi completion with ⟨_ | miso, dev'⟩
  · rw [hclock] at hanswers
    cases hanswers
  · rw [hclock] at hkeeps
    exact ⟨miso, dev', rfl, hkeeps⟩

theorem exec_read (h : Reliable I) (addr : Address) (hc : IdleOn I cell) (hn : HEADER + n ≤ L) :
    ∃ data cell', exec (read addr n) cell = (.ok data, cell') ∧ IdleOn I cell' := by
  obtain ⟨dev, scratch, rfl, hd⟩ := hc
  obtain ⟨miso, dev', hclock, hd'⟩ :=
    h.clock_some hd (scratch.framed (createHeader addr false) n).mosi .poll
  rw [Wiznet.exec_read hn, hclock]
  exact ⟨_, _, rfl, _, _, rfl, hd'⟩

theorem exec_readU16 (h : Reliable I) (addr : Address) (hc : IdleOn I cell) (hL : 11 ≤ L) :
    ∃ value cell', exec (readU16 addr) cell = (.ok value, cell') ∧ IdleOn I cell' := by
  obtain ⟨data, cell', hread, hc'⟩ := h.exec_read addr hc (show HEADER + 2 ≤ L by simp [HEADER]; omega)
  exact ⟨_, cell', by rw [readU16, exec_map, hread]; rfl, hc'⟩

theorem exec_write (h : Reliable I) (addr : Address) (hc : IdleOn I cell) {data : List UInt8}
    (hn : HEADER + data.length ≤ L) :
    ∃ cell', exec (write addr data) cell = (.ok (), cell') ∧ IdleOn I cell' := by
  obtain ⟨dev, scratch, rfl, hd⟩ := hc
  obtain ⟨staged, -, hexec⟩ := Wiznet.exec_write addr dev scratch hn
  obtain ⟨miso, dev', hclock, hd'⟩ := h.clock_some hd staged.mosi .poll
  rw [hexec, hclock]
  exact ⟨_, rfl, _, _, rfl, hd'⟩

/-- A register write. -/
theorem exec_writeReg (h : Reliable I) (addr : Address) (v : Nat) (hc : IdleOn I cell)
    (hL : 11 ≤ L) (hn : n ≤ 4) :
    ∃ cell', exec (write addr (BigEndian.encode n v)) cell = (.ok (), cell') ∧
      IdleOn I cell' :=
  h.exec_write addr hc (by rw [BigEndian.encode_length, HEADER]; omega)

theorem exec_startRead (h : Reliable I) (addr : Address) (hc : IdleOn I cell) (hn : HEADER + n ≤ L) :
    ∃ txn, exec (startRead addr n) cell = (.ok (), .inFlight txn) ∧ Carries txn addr false n := by
  obtain ⟨dev, scratch, rfl, hd⟩ := hc
  obtain ⟨miso, dev', hclock, hd'⟩ :=
    h.clock_some hd (scratch.framed (createHeader addr false) n).mosi .interrupt
  have hexec : exec (startRead addr n) (.idle dev scratch) = _ := Wiznet.exec_startRead hn
  rw [hclock] at hexec
  refine ⟨_, hexec, rfl, _, ?_, framed_mosi _ _ _ hn⟩
  rw [List.length_take, List.length_drop, scratch.tx_length]
  omega

theorem exec_startWrite (h : Reliable I) (bus : Lens S (Transceiver L D)) (addr : Address) {s : S}
    (hc : IdleOn I (bus.get s)) (hn : HEADER + n ≤ L) (fill : List UInt8 → Prog S (List UInt8)) :
    ∃ txn buf, buf.length = n ∧
      exec (startWrite bus addr n fill) s =
        (.ok (), bus.set (.inFlight txn) ((fill buf).run (bus.set .pending s)).2) ∧
      Carries txn addr true n ∧
      (((fill buf).run (bus.set .pending s)).1.length = n →
        txn.buffers.mosi = createHeader addr true ++ ((fill buf).run (bus.set .pending s)).1) := by
  obtain ⟨dev, scratch, hs, hd⟩ := hc
  rcases hf : (fill ((scratch.stage 0 (createHeader addr true)).txWindow HEADER n)).run
    (bus.set .pending s) with ⟨payload, s'⟩
  obtain ⟨miso, dev', hclock, hd'⟩ :=
    h.clock_some hd (scratch.loaded (createHeader addr true) payload n).mosi .interrupt
  have hexec := Wiznet.exec_startWrite bus hs hn hf
  rw [hclock] at hexec
  refine ⟨⟨dev', (scratch.loaded (createHeader addr true) payload n).capture miso.1⟩,
    (scratch.stage 0 (createHeader addr true)).txWindow HEADER n, ?_, ?_,
    ⟨rfl, loaded_frame hn⟩, ?_⟩
  · rw [DmaBuffers.txWindow, List.length_take, List.length_drop, DmaBuffers.tx_length]
    omega
  · rw [hf]
    exact hexec
  · rw [hf]
    rintro rfl
    exact loaded_mosi hn

end Reliable

/-- A script without a failed transfer. -/
theorem reliable_scripted : Reliable fun dev : Scripted => none ∉ dev.answers where
  clock dev mosi completion h := by
    obtain ⟨answers⟩ := dev
    cases answers with
    | nil => exact h
    | cons answer rest =>
      have hrest : none ∉ rest := fun hmem => h (List.mem_cons_of_mem _ hmem)
      cases answer <;> exact hrest
  delay dev ns h := h
  answers dev mosi completion h := by
    obtain ⟨answers⟩ := dev
    cases answers with
    | nil => rfl
    | cons answer rest =>
      cases answer with
      | none => exact absurd (List.mem_cons_self ..) h
      | some payload => rfl

/-- Nothing is started, and nothing else happens, when it does not fit. -/
theorem IdleOn.exec_startRead_overrun {I : D → Prop} {cell : Transceiver L D} {addr : Address}
    {n : Nat} (hc : IdleOn I cell) (hn : L < HEADER + n) :
    exec (startRead addr n) cell = (.error (.other .scratchBufferOverrun), cell) := by
  obtain ⟨dev, scratch, rfl, -⟩ := hc
  exact Wiznet.exec_startRead_overrun hn

theorem IdleOn.exec_startWrite_overrun {I : D → Prop} (bus : Lens S (Transceiver L D)) {s : S}
    {addr : Address} {n : Nat} {fill : List UInt8 → Prog S (List UInt8)}
    (hc : IdleOn I (bus.get s)) (hn : L < HEADER + n) :
    exec (startWrite bus addr n fill) s = (.error (.other .scratchBufferOverrun), s) := by
  obtain ⟨dev, scratch, hs, -⟩ := hc
  exact Wiznet.exec_startWrite_overrun bus hs hn

end Wiznet
