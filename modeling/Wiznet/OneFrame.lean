import Wiznet.DeviceInvariant
import Wiznet.Scripted

/-! # One command per frame

The chip decodes the first three bytes of every frame as a command header, so a
command has to cross the bus as one frame. The batching loop only keeps header
and payload together when both fit the scratch. -/

namespace Wiznet
open Resumption Resumption.Code

variable {L : Nat} {D α : Type}

/-- The access put its whole command on the bus as the one frame it clocked, or
it failed and every frame the chip got was the whole command. -/
def OneCommand (command : List UInt8 → Prop) (before : List BusEntry)
    (out : Except Error α × Transceiver L (Logged D)) : Prop :=
  (∃ e : BusEntry, busLog out.2 = before ++ [e] ∧ command e.mosi) ∨
    (∃ err, out.1 = .error err) ∧
      ∃ new, busLog out.2 = before ++ new ∧ ∀ e ∈ new, Answered e → command e.mosi

variable [SpiDmaDevice D]

/-- No frame can be clocked, or the first one is all there is to the access: the
bus is not idle, the scratch is too short for a header, it holds the whole
command, or the device refuses the header frame. -/
def KeptWhole (addr : Address) (write : Bool) (n : Nat) : Transceiver L D → Prop
  | .idle dev _ => L < HEADER ∨ HEADER + n ≤ L ∨
      (SpiDmaDevice.clock dev (createHeader addr write) .poll).1 = none
  | _ => True

/-! ## Header and payload as two frames -/

section Split

variable (dev : Logged D) {scratch staged : DmaBuffers L} {header op : Operation} {len : Nat}

/-- A first operation that fills its chunk crosses the bus alone, and the rest
follows only if that frame was clocked. -/
theorem transaction_split (h : stageChunk scratch 0 [header, op] = (staged, len, [header], [op])) :
    let mosi := ({ staged with len := len } : DmaBuffers L).mosi
    let out := transaction [header, op] (.idle dev scratch)
    match (SpiDmaDevice.clock dev.dev mosi .poll).1 with
    | none => out.1 = .error (.other .spiError) ∧ busLog out.2 = dev.log ++ [⟨mosi, none⟩]
    | some miso => OnDevice (Since (dev.log ++ [⟨mosi, some miso.1⟩])) out.2 := by
  intro mosi out
  have hc := clock_logged dev mosi .poll
  have hout : out = match transceive dev { staged with len := len } .poll with
      | .ok txn => match execChunks 1 txn.dev txn.buffers [op] with
        | (dev, scratch, _, some e) => (.error (.other e), .idle dev scratch)
        | (dev, scratch, ops, none) => (.ok (copyBack txn.buffers 0 [header] ++ ops),
            .idle dev scratch)
      | .error (dev, buffers) => (.error (.other .spiError), .idle dev buffers) := by
    rw [show out = transaction [header, op] (.idle dev scratch) from rfl, transaction,
      execTransaction, List.length_cons, List.length_singleton, execChunks, h]
    dsimp only
    cases transceive dev { staged with len := len } .poll with
    | error back => rfl
    | ok txn =>
      dsimp only [Transaction.wait]
      rcases execChunks 1 txn.dev txn.buffers [op] with ⟨dev', scratch', ops, _ | e⟩ <;> rfl
  rw [hout]
  rcases hcl : SpiDmaDevice.clock dev.dev mosi .poll with ⟨_ | miso, dev'⟩
  · rw [hcl] at hc
    rw [transceive, hc]
    exact ⟨rfl, rfl⟩
  · rw [hcl] at hc
    rw [transceive, hc]
    have hstart : Since (dev.log ++ [⟨mosi, some miso.1⟩])
        (⟨dev', dev.log ++ [⟨mosi, some miso.1⟩]⟩ : Logged D) := ⟨[], (List.append_nil _).symm⟩
    have hrest := deviceInvariant_since.execChunks 1
      (({ staged with len := len } : DmaBuffers L).capture miso.1) [op] hstart
    simp only [Option.map_some]
    rcases hx : execChunks 1 _ _ [op] with ⟨dev'', scratch', ops, _ | e⟩ <;>
      rw [hx] at hrest <;> exact hrest

/-- An operation that does not fit behind the header leaves the header alone in
its chunk. -/
theorem stageChunk_header (scratch : DmaBuffers L) (addr : Address) (write : Bool)
    {payload : List UInt8} (hh : HEADER ≤ L) (hn : L < HEADER + payload.length)
    (hop : op = .read payload ∨ op = .write payload) :
    stageChunk scratch 0 [.write (createHeader addr write), op] =
      (scratch.stage 0 (createHeader addr write), HEADER, [.write (createHeader addr write)],
        [op]) := by
  rcases hop with rfl | rfl <;>
    simp [stageChunk, DmaBuffers.rx_length, DmaBuffers.tx_length, Nat.not_lt.mpr hh, hn]

/-- A header that does not fit the scratch is refused before anything is
clocked. -/
theorem transaction_no_room {addr : Address} {write : Bool} (h : L < HEADER) (op : Operation) :
    transaction [.write (createHeader addr write), op] (.idle dev scratch) =
      (.error (.other .scratchBufferOverrun), .idle dev scratch) := by
  simp [transaction, execTransaction, execChunks, stageChunk, DmaBuffers.tx_length, h]

end Split

/-! ## One access -/

section Access

variable {command : List UInt8 → Prop} {addr : Address} {write : Bool} {op : Operation}
  {payload : List UInt8}

/-- Header and payload apart: the chip gets the header alone, unless the device
refuses it. -/
theorem oneCommand_split_iff {dev : Logged D} {scratch : DmaBuffers L} (hh : HEADER ≤ L)
    (hn : L < HEADER + payload.length) (hop : op = .read payload ∨ op = .write payload)
    (hshort : ∀ mosi, command mosi → mosi.length = HEADER + payload.length) :
    OneCommand command dev.log
        (transaction [.write (createHeader addr write), op] (.idle dev scratch)) ↔
      (SpiDmaDevice.clock dev.dev (createHeader addr write) .poll).1 = none := by
  have hm : ({ scratch.stage 0 (createHeader addr write) with len := HEADER } :
      DmaBuffers L).mosi = createHeader addr write := by
    have h0 := framed_mosi scratch addr write (show HEADER + 0 ≤ L from hh)
    rwa [List.take_zero, List.append_nil] at h0
  have hs := transaction_split dev (stageChunk_header scratch addr write hh hn hop)
  dsimp only at hs
  rw [hm] at hs
  have hne : ¬ command (createHeader addr write) := by
    intro hc
    have hlen := hshort _ hc
    rw [createHeader_length] at hlen
    omega
  generalize transaction [.write (createHeader addr write), op] (.idle dev scratch) = out at hs ⊢
  cases hcl : (SpiDmaDevice.clock dev.dev (createHeader addr write) .poll).1 with
  | none =>
    rw [hcl] at hs
    refine iff_of_true (.inr ⟨⟨_, hs.1⟩, _, hs.2, ?_⟩) rfl
    intro e he ha
    cases List.mem_singleton.mp he
    cases ha
  | some miso =>
    rw [hcl] at hs
    have hlog : ∃ new, busLog out.2 = dev.log ++ ⟨createHeader addr write, some miso.1⟩ :: new := by
      cases hcell : out.2 with
      | pending => rw [hcell] at hs; exact hs.elim
      | idle dev' scratch' | inFlight txn =>
        rw [hcell] at hs
        obtain ⟨new, hnew⟩ := hs
        exact ⟨new, by simpa [busLog] using hnew⟩
    obtain ⟨new, hnew⟩ := hlog
    refine iff_of_false ?_ nofun
    rintro (⟨e, he, hc⟩ | ⟨-, new', hnew', hall⟩)
    · have heq := List.append_cancel_left (hnew.symm.trans he)
      cases heq
      exact hne hc
    · have heq := List.append_cancel_left (hnew.symm.trans hnew')
      subst heq
      exact hne (hall _ (List.mem_cons_self ..) rfl)

omit [SpiDmaDevice D] in
/-- Only the frames count, and whether the access failed. -/
theorem OneCommand.congr {β : Type} {before : List BusEntry}
    {out : Except Error α × Transceiver L (Logged D)}
    {out' : Except Error β × Transceiver L (Logged D)} (hbus : out.2 = out'.2)
    (herr : (∃ err, out.1 = .error err) ↔ ∃ err, out'.1 = .error err) :
    OneCommand command before out ↔ OneCommand command before out' := by
  rw [OneCommand, OneCommand, hbus, herr]

theorem oneCommand_write (data : List UInt8) (cell : Transceiver L (Logged D)) :
    OneCommand command (busLog cell) (exec (Wiznet.write addr data) cell) ↔
      OneCommand command (busLog cell)
        (transaction [.write (createHeader addr true), .write data] cell) := by
  rw [Wiznet.write, exec_attempt]
  rcases transaction [.write (createHeader addr true), .write data] cell with ⟨err | ops, cell'⟩ <;>
    exact OneCommand.congr rfl (by simp)

theorem oneCommand_read (n : Nat) (cell : Transceiver L (Logged D)) :
    OneCommand command (busLog cell) (exec (read addr n) cell) ↔
      OneCommand command (busLog cell)
        (transaction [.write (createHeader addr false), .read (List.replicate n 0)] cell) := by
  rw [read, exec_attempt]
  rcases transaction [.write (createHeader addr false), .read (List.replicate n 0)] cell with
    ⟨err | ops, cell'⟩
  · exact OneCommand.congr rfl (by simp)
  · split <;> next h => cases h <;> exact OneCommand.congr rfl (by simp)

omit [SpiDmaDevice D] in
/-- A refusal clocks nothing. -/
theorem oneCommand_refused (err : Error) (cell : Transceiver L (Logged D)) :
    OneCommand command (busLog cell)
      ((.error err, cell) : Except Error (List Operation) × Transceiver L (Logged D)) :=
  .inr ⟨⟨err, rfl⟩, [], (List.append_nil _).symm, nofun⟩

/-- The two operations of an access, when they do not cross the bus as one frame. -/
theorem oneCommand_access_iff (cell : Transceiver L (Logged D))
    (hop : op = .read payload ∨ op = .write payload)
    (hshort : ∀ mosi, command mosi → mosi.length = HEADER + payload.length)
    (hwhole : HEADER + payload.length ≤ L → ∀ dev scratch, cell = .idle dev scratch →
      OneCommand command (busLog cell) (transaction [.write (createHeader addr write), op] cell)) :
    OneCommand command (busLog cell)
        (transaction [.write (createHeader addr write), op] cell) ↔
      KeptWhole addr write payload.length cell := by
  cases cell with
  | pending => exact iff_of_true (oneCommand_refused .wouldBlock .pending) trivial
  | inFlight txn => exact iff_of_true (oneCommand_refused .wouldBlock (.inFlight txn)) trivial
  | idle dev scratch =>
    by_cases hh : L < HEADER
    · rw [transaction_no_room dev hh]
      exact iff_of_true (oneCommand_refused _ _) (.inl hh)
    · by_cases hn : HEADER + payload.length ≤ L
      · exact iff_of_true (hwhole hn dev scratch rfl) (.inr (.inl hn))
      · refine (oneCommand_split_iff (Nat.le_of_not_lt hh) (Nat.lt_of_not_le hn) hop
          hshort).trans ⟨fun h => .inr (.inr h), fun h => ?_⟩
        rcases h with h | h | h
        · exact absurd h hh
        · exact absurd h hn
        · exact h

/-- An access crosses the bus as its one whole command, or fails without a frame
that lacks the header or truncates the command, if and only if the scratch is
too short for a header, it holds the whole command, or nothing is clocked. -/
theorem one_command_per_frame_iff (addr : Address) (cell : Transceiver L (Logged D)) :
    (∀ data : List UInt8,
      OneCommand (fun mosi => mosi = createHeader addr true ++ data) (busLog cell)
          (exec (Wiznet.write addr data) cell) ↔
        KeptWhole addr true data.length cell) ∧
    ∀ n : Nat,
      OneCommand (fun mosi => ∃ padding : List UInt8, padding.length = n ∧
          mosi = createHeader addr false ++ padding) (busLog cell) (exec (read addr n) cell) ↔
        KeptWhole addr false n cell := by
  constructor
  · intro data
    rw [oneCommand_write]
    refine oneCommand_access_iff cell (.inr rfl) ?_ ?_
    · rintro _ rfl
      simp
    · rintro hn dev scratch rfl
      rw [← oneCommand_write]
      obtain ⟨staged, hm, hw⟩ := exec_write addr dev scratch hn
      rw [hw, clock_logged]
      left
      rcases SpiDmaDevice.clock dev.dev staged.mosi .poll with ⟨_ | miso, dev'⟩ <;>
        exact ⟨_, rfl, hm⟩
  · intro n
    rw [oneCommand_read]
    generalize hbuf : List.replicate n (0 : UInt8) = buf
    obtain rfl : n = buf.length := by rw [← hbuf, List.length_replicate]
    refine oneCommand_access_iff cell (.inl rfl) ?_ ?_
    · rintro _ ⟨padding, hp, rfl⟩
      simp [hp]
    · rintro hn dev scratch rfl
      rw [← hbuf, ← oneCommand_read, exec_read hn, clock_logged]
      have hm := framed_mosi scratch addr false hn
      left
      rcases SpiDmaDevice.clock dev.dev _ .poll with ⟨_ | miso, dev'⟩ <;>
        exact ⟨_, rfl, _, by simp [scratch.tx_length]; omega, hm⟩

end Access

/-! ## A concrete write -/

/-- An idle bus with a scratch of four bytes, on a device that answers every
frame. -/
def fourByteBus : Transceiver 4 (Logged Scripted) := .idle ⟨⟨[]⟩, []⟩ (zeroScratch 4)

/-- Two bytes behind a three-byte header do not fit four bytes of scratch: the
header is clocked alone, and the payload as a frame of its own that the chip
would decode as a command. -/
theorem payload_without_header :
    let out := exec (Wiznet.write ⟨SN_DPORTR0, .socketRegister 0⟩ [0x12, 0x34]) fourByteBus
    out.1 = .ok () ∧
      (busLog out.2).map BusEntry.mosi =
        [createHeader ⟨SN_DPORTR0, .socketRegister 0⟩ true, [0x12, 0x34]] ∧
      ¬ OneCommand (fun mosi => mosi = createHeader ⟨SN_DPORTR0, .socketRegister 0⟩ true ++
        [0x12, 0x34]) (busLog fourByteBus) out := by
  refine ⟨by decide, by decide, ?_⟩
  rintro (⟨e, he, -⟩ | ⟨⟨err, herr⟩, -⟩)
  · have hlen := congrArg List.length he
    rw [List.length_append, List.length_singleton] at hlen
    exact absurd hlen (by decide)
  · cases herr

end Wiznet
