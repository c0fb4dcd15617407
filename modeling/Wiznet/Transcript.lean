import Wiznet.DeviceInvariant
import Wiznet.OneFrame
import Wiznet.Standing

/-! # A transcript of the bus

One access of the driver is one burst of frames: its header and its payload, as
one frame or as two. The transcript is the list of the bursts, and beside it
the slots that were freed, each with the bursts before. -/

namespace Wiznet
open Resumption Resumption.Code

variable {w L : Nat} {D S α : Type}

/-! ## Headers -/

/-- The number of a block: the socket above a two-bit kind. -/
def BlockSelectionBits.code : BlockSelectionBits → Nat
  | .commonRegister => 0
  | .socketRegister n => n.val * 4 + 1
  | .socketTxBuffer n => n.val * 4 + 2
  | .socketRxBuffer n => n.val * 4 + 3

theorem BlockSelectionBits.code_inj {block block' : BlockSelectionBits}
    (h : block.code = block'.code) : block = block' := by
  cases block <;> cases block' <;> simp only [code] at h <;> first
    | rfl
    | omega
    | (congr 1; ext; omega)

/-- The last byte of a header keeps the write bit apart from the block. -/
theorem controlByte_toNat (block : BlockSelectionBits) (write : Bool) :
    (block.bits <<< 3 ||| if write then 0b100 else 0).toNat =
      block.code * 8 + write.toNat * 4 := by
  cases write <;> cases block with
  | commonRegister => decide
  | socketRegister n | socketTxBuffer n | socketRxBuffer n => revert n; decide

/-- A header says which register is accessed, and how. -/
theorem createHeader_inj {addr addr' : Address} {write write' : Bool}
    (h : createHeader addr write = createHeader addr' write') :
    addr = addr' ∧ write = write' := by
  obtain ⟨ha, hb⟩ := List.append_inj h (by simp)
  have hcontrol := congrArg UInt8.toNat (List.cons.inj hb).1
  rw [controlByte_toNat, controlByte_toNat] at hcontrol
  have hw := Bool.toNat_le write
  have hw' := Bool.toNat_le write'
  have hblock : addr.block = addr'.block := BlockSelectionBits.code_inj (by omega)
  have hwrite : write = write' := by
    have hn : write.toNat = write'.toNat := by omega
    cases write <;> cases write' <;> first | rfl | cases hn
  have haddress : addr.address.toNat = addr'.address.toNat := by
    have hd := congrArg BigEndian.decode ha
    rwa [BigEndian.decode_encode_of_lt addr.address.toNat_lt,
      BigEndian.decode_encode_of_lt addr'.address.toNat_lt] at hd
  cases addr
  cases addr'
  simp only [Address.mk.injEq]
  exact ⟨⟨UInt16.toNat_inj.mp haddress, hblock⟩, hwrite⟩

/-! ## Bursts -/

/-- The frames of one access, in order. -/
abbrev Burst := List BusEntry

namespace Burst

/-- The burst starts with the header of this access. -/
def Opens (b : Burst) (addr : Address) (write : Bool) : Prop :=
  ∃ e rest, b = e :: rest ∧ e.Accesses addr write

/-- The bytes that came back, of every frame. -/
def answers (b : Burst) : List UInt8 := b.flatMap fun e => e.answer.getD []

/-- A read of `addr` that returned `data`. -/
structure Returns (b : Burst) (addr : Address) (data : List UInt8) : Prop where
  opens : b.Opens addr false
  answered : ∀ e ∈ b, Answered e
  data : b.answers.drop HEADER = data

theorem Opens.unique {b : Burst} {addr addr' : Address} {write write' : Bool}
    (h : b.Opens addr write) (h' : b.Opens addr' write') : addr = addr' ∧ write = write' := by
  obtain ⟨e, rest, rfl, he⟩ := h
  obtain ⟨e', rest', heq, he'⟩ := h'
  cases heq
  rw [BusEntry.accesses_iff] at he he'
  exact createHeader_inj (he.symm.trans he')

/-- The burst is one frame, if the scratch holds the longest access there is. -/
def Whole (L : Nat) (b : Burst) : Prop := HEADER + 64 ≤ L → b.length = 1

/-- An access of `addr` that may have been refused before anything was clocked. -/
def Of (L : Nat) (b : Burst) (addr : Address) (write : Bool) : Prop :=
  b = [] ∨ b.Opens addr write ∧ b.Whole L

theorem whole_of_long {n : Nat} {b : Burst} (hn : n ≤ 64) (hlong : L < HEADER + n) : b.Whole L :=
  fun h => by omega

theorem whole_frame (e : BusEntry) : Whole L [e] := fun _ => rfl

end Burst

variable [SpiDmaDevice D]

/-- A read that does not fit behind its header takes a frame of its own. -/
theorem execChunks_read (dev : Logged D) (scratch : DmaBuffers L) (n : Nat) :
    match execChunks 1 dev scratch [.read (List.replicate n 0)] with
    | (dev', _, ops, none) => ∃ (e : BusEntry) (a : List UInt8), e.answer = some a ∧
        a.length = n ∧ dev'.log = dev.log ++ [e] ∧ ops = [.read a]
    | (_, _, _, some _) => True := by
  unfold execChunks
  by_cases hn : n ≤ L
  · have hs : stageChunk scratch 0 [.read (List.replicate n 0)] =
        (scratch, n, [.read (List.replicate n 0)], []) := by
      simp [stageChunk, DmaBuffers.rx_length, Nat.not_lt.mpr hn]
    rw [hs]
    dsimp only
    have hm : ({ scratch with len := n } : DmaBuffers L).mosi.length = n := by
      simp [DmaBuffers.mosi, DmaBuffers.tx_length, hn]
    rw [transceive, clock_logged]
    rcases hcl : SpiDmaDevice.clock dev.dev ({ scratch with len := n } : DmaBuffers L).mosi
      .poll with ⟨_ | miso, dev'⟩
    · trivial
    · have hw := rxWindow_capture ({ scratch with len := n } : DmaBuffers L) 0 n
        (miso.2.trans (hm.trans (Nat.zero_add n).symm)) (by omega)
      refine ⟨_, miso.1, rfl, miso.2.trans hm, rfl, ?_⟩
      simp only [execChunks, Transaction.wait, copyBack, List.length_replicate, List.append_nil]
      rw [hw, List.drop_zero]
  · have hs : stageChunk scratch 0 [.read (List.replicate n 0)] =
        (scratch, 0, [], [.read (List.replicate n 0)]) := by
      simp [stageChunk, DmaBuffers.rx_length, Nat.lt_of_not_le hn]
    rw [hs]
    trivial

omit [SpiDmaDevice D] in
theorem busLog_of_since {before : List BusEntry} {cell : Transceiver L (Logged D)}
    (h : OnDevice (Since before) cell) : ∃ new, busLog cell = before ++ new := by
  cases cell with
  | pending => exact h.elim
  | idle dev scratch => exact h
  | inFlight txn => exact h

theorem header_mosi (scratch : DmaBuffers L) (addr : Address) (write : Bool) (hh : HEADER ≤ L) :
    ({ scratch.stage 0 (createHeader addr write) with len := HEADER } : DmaBuffers L).mosi =
      createHeader addr write := by
  have h0 := framed_mosi scratch addr write (show HEADER + 0 ≤ L from hh)
  rwa [List.take_zero, List.append_nil] at h0

/-- Header and payload apart are still one burst that opens with the header. -/
theorem opens_transaction_split (dev : Logged D) (scratch : DmaBuffers L) (addr : Address)
    (write : Bool) {op : Operation} {payload : List UInt8} (hh : HEADER ≤ L)
    (hn : L < HEADER + payload.length) (hop : op = .read payload ∨ op = .write payload) :
    ∃ b : Burst, busLog (transaction [.write (createHeader addr write), op]
      (.idle dev scratch)).2 = dev.log ++ b ∧ b.Opens addr write := by
  have hs := transaction_split dev (stageChunk_header scratch addr write hh hn hop)
  dsimp only at hs
  rw [header_mosi scratch addr write hh] at hs
  have hopens : ∀ answer, BusEntry.Accesses ⟨createHeader addr write, answer⟩ addr write :=
    fun _ => ⟨[], (List.append_nil _).symm⟩
  cases hcl : (SpiDmaDevice.clock dev.dev (createHeader addr write) .poll).1 with
  | none =>
    rw [hcl] at hs
    exact ⟨[_], hs.2, _, [], rfl, hopens _⟩
  | some miso =>
    rw [hcl] at hs
    obtain ⟨new, hnew⟩ := busLog_of_since hs
    exact ⟨_ :: new, by rw [hnew, List.append_assoc]; rfl, _, new, rfl, hopens _⟩

/-- A write is one burst that opens with its header, or nothing is clocked. -/
theorem wp_write_burst {cell : Transceiver L (Logged D)} (hi : Held none cell) (addr : Address)
    {data : List UInt8} (hn : data.length ≤ 64) :
    wp (write addr data)
      (fun _ cell' => ∃ b : Burst, busLog cell' = busLog cell ++ b ∧ b.Of L addr true)
      (fun _ cell' => ∃ b : Burst, busLog cell' = busLog cell ++ b ∧ b.Of L addr true) cell := by
  by_cases hfit : HEADER + data.length ≤ L
  · refine wp_mono (wp_logged_write hi addr hfit) ?_ ?_
    · rintro _ cell' ⟨-, e, he, -, hlog⟩
      exact ⟨[e], hlog, .inr ⟨⟨e, [], rfl, he⟩, Burst.whole_frame e⟩⟩
    · rintro _ cell' ⟨-, -, e, he, -, hlog⟩
      exact ⟨[e], hlog, .inr ⟨⟨e, [], rfl, he⟩, Burst.whole_frame e⟩⟩
  · obtain ⟨dev, scratch, rfl⟩ := hi
    have hb : ∃ b : Burst, busLog (transaction [.write (createHeader addr true), .write data]
        (.idle dev scratch)).2 = dev.log ++ b ∧ b.Of L addr true := by
      by_cases hh : L < HEADER
      · rw [transaction_no_room dev hh]
        exact ⟨[], (List.append_nil _).symm, .inl rfl⟩
      · obtain ⟨b, hlog, hb⟩ := opens_transaction_split dev scratch addr true
          (Nat.le_of_not_lt hh) (Nat.lt_of_not_le hfit) (.inr rfl)
        exact ⟨b, hlog, .inr ⟨hb, Burst.whole_of_long hn (Nat.lt_of_not_le hfit)⟩⟩
    rw [write, wp_attempt]
    generalize transaction _ (.idle dev scratch : Transceiver L (Logged D)) = out at hb ⊢
    rcases out with ⟨_ | _, cell'⟩ <;> exact hb

/-- A read behind a header that went alone. -/
theorem transaction_read_split (dev : Logged D) {scratch staged : DmaBuffers L} {addr : Address}
    {n len : Nat} (h : stageChunk scratch 0 [.write (createHeader addr false),
      .read (List.replicate n 0)] = (staged, len, [.write (createHeader addr false)],
        [.read (List.replicate n 0)])) :
    match transaction [.write (createHeader addr false), .read (List.replicate n 0)]
        (.idle dev scratch) with
    | (.ok ops, cell') => ∃ (e e' : BusEntry) (a a' : List UInt8),
        e.mosi = ({ staged with len := len } : DmaBuffers L).mosi ∧
        e.answer = some a ∧ a.length = e.mosi.length ∧ e'.answer = some a' ∧ a'.length = n ∧
        busLog cell' = dev.log ++ [e, e'] ∧ ops = [.write (createHeader addr false), .read a']
    | (.error _, _) => True := by
  rw [transaction, execTransaction, List.length_cons, List.length_singleton, execChunks, h]
  dsimp only
  rw [transceive, clock_logged]
  rcases hcl : SpiDmaDevice.clock dev.dev ({ staged with len := len } : DmaBuffers L).mosi
    .poll with ⟨_ | miso, dev'⟩
  · trivial
  · simp only [Transaction.wait, Option.map_some]
    have hread := execChunks_read (⟨dev', dev.log ++ [⟨({ staged with len := len } :
      DmaBuffers L).mosi, some miso.1⟩]⟩ : Logged D)
      (({ staged with len := len } : DmaBuffers L).capture miso.1) n
    rcases hx : execChunks 1 _ _ _ with ⟨dev'', scratch'', ops, _ | e⟩ <;> rw [hx] at hread
    · obtain ⟨e', a', ha', hlen, hlog, rfl⟩ := hread
      exact ⟨⟨_, some miso.1⟩, e', miso.1, a', rfl, rfl, miso.2, ha', hlen,
        by rw [busLog, hlog, List.append_assoc]; rfl, rfl⟩
    · trivial

theorem wp_read_length {cell : Transceiver L D} (hi : Held none cell) (addr : Address) {n : Nat}
    (hfit : HEADER + n ≤ L) :
    wp (read addr n) (fun data _ => data.length = n) (fun _ _ => True) cell := by
  obtain ⟨dev, scratch, rfl⟩ := hi
  have hm : (scratch.framed (createHeader addr false) n).mosi.length = HEADER + n := by
    rw [framed_mosi _ _ _ hfit]; simp [scratch.tx_length]; omega
  rw [wp, exec_read hfit]
  rcases SpiDmaDevice.clock dev (scratch.framed (createHeader addr false) n).mosi .poll with
    ⟨_ | miso, dev'⟩
  · trivial
  · simp [miso.2, hm]

/-- A read is one burst, and what it returns came back behind the header. -/
theorem wp_read_burst {cell : Transceiver L (Logged D)} (hi : Held none cell) (addr : Address)
    {n : Nat} (hn : n ≤ 64) :
    wp (read addr n)
      (fun data cell' => data.length = n ∧
        ∃ b : Burst, busLog cell' = busLog cell ++ b ∧ b.Returns addr data ∧ b.Whole L)
      (fun _ cell' => ∃ b : Burst, busLog cell' = busLog cell ++ b ∧ b.Of L addr false) cell := by
  by_cases hfit : HEADER + n ≤ L
  · refine wp_mono (wp_and (wp_read_length hi addr hfit) (wp_logged_read hi hfit)) ?_ ?_
    · rintro data cell' ⟨hlen, -, e, he, ⟨a, ha, hdata⟩, hlog⟩
      refine ⟨hlen, [e], hlog, ⟨⟨e, [], rfl, he⟩, fun e' he' => ?_, ?_⟩, Burst.whole_frame e⟩
      · rw [List.mem_singleton.mp he', Answered, ha]
        rfl
      · simpa [Burst.answers, ha] using hdata
    · rintro _ cell' ⟨-, -, -, e, he, -, hlog⟩
      exact ⟨[e], hlog, .inr ⟨⟨e, [], rfl, he⟩, Burst.whole_frame e⟩⟩
  · obtain ⟨dev, scratch, rfl⟩ := hi
    by_cases hh : L < HEADER
    · rw [read, wp_attempt, transaction_no_room dev hh]
      exact ⟨[], (List.append_nil _).symm, .inl rfl⟩
    · have hle := Nat.le_of_not_lt hh
      have hlong : L < HEADER + (List.replicate n (0 : UInt8)).length := by
        simpa using Nat.lt_of_not_le hfit
      have hwhole : ∀ b : Burst, b.Whole L := fun _ =>
        Burst.whole_of_long hn (Nat.lt_of_not_le hfit)
      have hs := stageChunk_header scratch addr false hle hlong (.inl rfl)
      obtain ⟨b, hlog, hb⟩ := opens_transaction_split dev scratch addr false hle hlong (.inl rfl)
      rw [read, wp_attempt]
      have hout := transaction_read_split dev hs
      rw [header_mosi scratch addr false hle] at hout
      generalize transaction _ (.idle dev scratch : Transceiver L (Logged D)) = out at hlog hout ⊢
      rcases out with ⟨e | ops, cell'⟩
      · exact ⟨b, hlog, .inr ⟨hb, hwhole b⟩⟩
      · obtain ⟨e, e', a, a', hmosi, ha, hlen, ha', hlen'', hlog', rfl⟩ := hout
        have hlen' : a.length = HEADER := by rw [hlen, hmosi, createHeader_length]
        refine ⟨hlen'', [e, e'], hlog',
          ⟨⟨e, [e'], rfl, [], by rw [hmosi, List.append_nil]⟩, ?_, ?_⟩, hwhole _⟩
        · simp [Answered, ha, ha']
        · simp [Burst.answers, ha, ha', ← hlen']

/-! ## The transcript -/

/-- The bursts so far, and the slots that were freed, each with the bursts
before it. -/
structure Transcript where
  bursts : List Burst
  freed : List (Fin 8 × List Burst)

/-- What was clocked since the last burst is one more, if anything was. -/
def Transcript.append (t : Transcript) (b : Burst) : Transcript :=
  if b = [] then t else { t with bursts := t.bursts ++ [b] }

/-- Writes down what each step of the driver clocks. -/
def transcribe : Observer (Transceiver L (Logged D)) Transcript where
  note cell cell' t :=
    if busLog cell' = busLog cell then t
    else t.append ((busLog cell').drop t.bursts.flatten.length)
  note_self _ _ := if_pos rfl

/-- The transcript is up to date with the bus. -/
structure Abreast (x : Transceiver L (Logged D) × Transcript) : Prop where
  clocked : x.2.bursts.flatten = busLog x.1
  whole : ∀ b ∈ x.2.bursts, b.Whole L

/-- The transcript is up to date, and says `C` of the bursts and `F` of what was
freed. -/
structure Written (C : List Burst → Prop) (F : List (Fin 8 × List Burst) → Prop)
    (x : Transceiver L (Logged D) × Transcript) : Prop where
  synced : Abreast x
  bursts : C x.2.bursts
  freed : F x.2.freed

section Written

variable {C : List Burst → Prop} {F : List (Fin 8 × List Burst) → Prop} {addr : Address}
  {n : Nat} {cell cell' : Transceiver L (Logged D)} {t : Transcript} {b : Burst}

/-- `C` stands through an access of `addr`. -/
def Heeds (C : List Burst → Prop) (addr : Address) (write : Bool) : Prop :=
  ∀ bs b, C bs → Burst.Opens b addr write → C (bs ++ [b])

omit [SpiDmaDevice D] in
theorem note_append (hlog : busLog cell' = t.bursts.flatten ++ b)
    (hb : busLog cell' = busLog cell → b = []) : transcribe.note cell cell' t = t.append b := by
  by_cases h : busLog cell' = busLog cell
  · rw [hb h, transcribe]
    simp [h, Transcript.append]
  · change (if busLog cell' = busLog cell then t else _) = _
    rw [if_neg h, hlog, List.drop_left]

omit [SpiDmaDevice D] in
theorem note_pending : transcribe.note cell .pending t = t := by
  simp [transcribe, busLog, Transcript.append]

omit [SpiDmaDevice D] in
@[simp] theorem append_freed : (t.append b).freed = t.freed := by
  unfold Transcript.append
  split <;> rfl

omit [SpiDmaDevice D] in
theorem append_bursts (hb : b ≠ []) : (t.append b).bursts = t.bursts ++ [b] := by
  simp [Transcript.append, hb]

omit [SpiDmaDevice D] in
theorem Abreast.snoc {t' : Transcript} (h : Abreast (cell, t)) (ht : t'.bursts = t.bursts ++ [b])
    (hlog : busLog cell' = t.bursts.flatten ++ b) (hb : b.Whole L) : Abreast (cell', t') := by
  refine ⟨?_, fun b' hb' => ?_⟩
  · rw [ht, List.flatten_append, List.flatten_singleton, hlog]
  · rw [ht] at hb'
    rcases List.mem_append.mp hb' with hb' | hb'
    · exact h.whole b' hb'
    · rw [List.mem_singleton.mp hb']
      exact hb

omit [SpiDmaDevice D] in
theorem Abreast.same (h : Abreast (cell, t)) (hlog : busLog cell' = busLog cell) :
    Abreast (cell', t) := ⟨h.clocked.trans hlog.symm, h.whole⟩

omit [SpiDmaDevice D] in
/-- An access goes into the transcript. -/
theorem Written.append (h : Written C F (cell, t)) (hlog : busLog cell' = t.bursts.flatten ++ b)
    {write : Bool} (hb : b.Of L addr write) (hC : Heeds C addr write) :
    Written C F (cell', t.append b) := by
  rcases hb with rfl | ⟨hb, hwhole⟩
  · have ht : t.append [] = t := if_pos rfl
    rw [ht]
    exact ⟨⟨by rw [hlog, List.append_nil], h.synced.whole⟩, h.bursts, h.freed⟩
  · have hne : b ≠ [] := by
      obtain ⟨e, rest, rfl, -⟩ := hb
      exact List.cons_ne_nil _ _
    refine ⟨?_, ?_, ?_⟩
    · exact h.synced.snoc (append_bursts hne) hlog hwhole
    · rw [append_bursts hne]
      exact hC _ _ h.bursts hb
    · rw [append_freed]
      exact h.freed

omit [SpiDmaDevice D] in
theorem Written.note (h : Written C F (cell, t)) (hlog : busLog cell' = busLog cell ++ b) :
    transcribe.note cell cell' t = t.append b :=
  note_append (by rw [hlog, h.synced.clocked]) fun heq =>
    List.append_right_eq_self.mp (hlog.symm.trans heq)

/-- A read that returns is the latest burst. -/
theorem wp_written_read (h : Written C F (cell, t)) (hn : n ≤ 64) (hC : Heeds C addr false) :
    wp ((read addr n).watch transcribe)
      (fun data x => Written C F x ∧ data.length = n ∧
        ∃ b, x.2.bursts = t.bursts ++ [b] ∧ Burst.Returns b addr data)
      (fun _ => Written C F) (cell, t) := by
  cases cell with
  | pending | inFlight txn =>
    refine (wp_watch_once _).mpr ?_
    rw [wp_attempt]
    simp only [transaction, transcribe.note_self]
    exact h
  | idle dev scratch =>
    refine (wp_watch_once _).mpr (wp_mono (wp_read_burst ⟨dev, scratch, rfl⟩ addr hn) ?_ ?_)
    · rintro data cell' ⟨hlen, b, hlog, hb, hwhole⟩
      have hne : b ≠ [] := by
        obtain ⟨e, rest, rfl, -⟩ := hb.opens
        exact List.cons_ne_nil _ _
      rw [h.note hlog]
      exact ⟨h.append (by rw [hlog, h.synced.clocked]) (.inr ⟨hb.opens, hwhole⟩) hC, hlen, b,
        append_bursts hne, hb⟩
    · rintro _ cell' ⟨b, hlog, hb⟩
      rw [h.note hlog]
      exact h.append (by rw [hlog, h.synced.clocked]) hb hC

theorem keeps_written_read (hn : n ≤ 64) (hC : Heeds C addr false) :
    Keeps (Written C F) ((read addr n).watch (transcribe (L := L) (D := D))) := fun _ h =>
  wp_mono (wp_written_read h hn hC) (fun _ _ h => h.1) fun _ _ h => h

theorem keeps_written_write {data : List UInt8} (hdata : data.length ≤ 64)
    (hC : Heeds C addr true) :
    Keeps (Written C F) ((write addr data).watch (transcribe (L := L) (D := D))) := by
  rintro ⟨cell, t⟩ h
  cases cell with
  | pending | inFlight txn =>
    refine (wp_watch_once _).mpr ?_
    rw [wp_attempt]
    simp only [transaction, transcribe.note_self]
    exact h
  | idle dev scratch =>
    refine (wp_watch_once _).mpr (wp_mono (wp_write_burst ⟨dev, scratch, rfl⟩ addr hdata) ?_ ?_) <;>
    · rintro _ cell' ⟨b, hlog, hb⟩
      rw [h.note hlog]
      exact h.append (by rw [hlog, h.synced.clocked]) hb hC

/-- A write that fits and succeeds is one frame. -/
theorem wp_written_frame {data : List UInt8} (h : Written C F (cell, t))
    (hfit : HEADER + data.length ≤ L) :
    wp ((write addr data).watch transcribe)
      (fun _ x => Abreast x ∧ ∃ e : BusEntry,
        e.mosi = createHeader addr true ++ data ∧ e.answer.isSome ∧ x.2.bursts = t.bursts ++ [[e]])
      (fun _ _ => True) (cell, t) := by
  cases cell with
  | pending | inFlight txn => exact (wp_watch_once _).mpr (by rw [wp_attempt]; trivial)
  | idle dev scratch =>
    refine (wp_watch_once _).mpr (wp_mono (wp_logged_frame ⟨dev, scratch, rfl⟩ addr hfit) ?_
      fun _ _ _ => trivial)
    rintro _ cell' ⟨-, e, hmosi, ha, hlog⟩
    have hne : ([e] : Burst) ≠ [] := List.cons_ne_nil _ _
    rw [h.note hlog, append_bursts hne]
    exact ⟨h.synced.snoc (append_bursts hne) (by rw [hlog, h.synced.clocked]) (Burst.whole_frame e),
      e, hmosi, ha, rfl⟩

theorem keeps_written_delay (ns : UInt32) :
    Keeps (Written C F) ((delay ns).watch (transcribe (L := L) (D := D))) := by
  rintro ⟨cell, t⟩ h
  cases cell with
  | pending | inFlight txn =>
    refine (wp_watch_once _).mpr ?_
    rw [wp_attempt]
    simp only [transaction, transcribe.note_self]
    exact h
  | idle dev scratch =>
    refine (wp_watch_once _).mpr (wp_mono (wp_logged_delay ⟨dev, scratch, rfl⟩ ns) ?_
      fun _ _ h => h.elim)
    rintro _ cell' ⟨-, hlog⟩
    have hlog' : busLog cell' = busLog (DmaState.idle (L := L) dev scratch) ++ [] := by
      rw [hlog, List.append_nil]
    rw [h.note hlog']
    exact ⟨h.synced.same hlog, h.bursts, h.freed⟩

/-- A bulk frame is clocked with one entry in the log. -/
theorem launch_burst (dev : Logged D) (scratch : DmaBuffers L) :
    ∃ e : BusEntry, e.mosi = scratch.mosi ∧
      busLog (launch dev scratch).2 = dev.log ++ [e] := by
  rw [launch, transceive, clock_logged]
  rcases SpiDmaDevice.clock dev.dev scratch.mosi .interrupt with ⟨_ | miso, dev'⟩ <;>
    exact ⟨_, rfl, rfl⟩

omit [SpiDmaDevice D] in
/-- The bus is handed back after it was taken, with a burst or without. -/
theorem Written.handBack {write : Bool} (h : Written C F (cell, t)) (hC : Heeds C addr write)
    (hlog : busLog cell' = busLog cell ++ b) (hb : b.Of L addr write) :
    Written C F (cell', transcribe.note .pending cell' t) := by
  have hlog' : busLog cell' = t.bursts.flatten ++ b := by rw [hlog, h.synced.clocked]
  rw [note_append hlog' fun heq => by
    have hnil : busLog cell ++ b = [] := hlog.symm.trans heq
    exact (List.append_eq_nil_iff.mp hnil).2]
  exact h.append hlog' hb hC

omit [SpiDmaDevice D] in
theorem Written.handBack_same (h : Written C F (cell, t)) (hlog : busLog cell' = busLog cell) :
    Written C F (cell', transcribe.note .pending cell' t) := by
  have hlog' : busLog cell' = t.bursts.flatten ++ [] := by
    rw [hlog, List.append_nil, h.synced.clocked]
  rw [note_append hlog' fun _ => rfl]
  have ht : t.append [] = t := if_pos rfl
  rw [ht]
  exact ⟨h.synced.same hlog, h.bursts, h.freed⟩

theorem keeps_written_startRead {len : Nat} (hC : Heeds C addr false) :
    Keeps (Written C F) ((startRead addr len).watch (transcribe (L := L) (D := D))) := by
  rintro ⟨cell, t⟩ h
  rw [startRead, wp_watch_bind, wp_watch_attempt]
  cases cell with
  | pending | inFlight txn =>
    simp only [takeIdle, transcribe.note_self]
    exact h
  | idle dev scratch =>
    simp only [takeIdle, note_pending]
    split
    · exact (wp_watch_attempt _).mpr (h.handBack_same rfl)
    next hfit =>
      have hle : HEADER + len ≤ L := by rw [scratch.tx_length] at hfit; omega
      obtain ⟨e, hmosi, hlog⟩ := launch_burst dev (scratch.framed (createHeader addr false) len)
      rw [framed_mosi _ _ _ hle] at hmosi
      have hback := h.handBack hC hlog (.inr ⟨⟨e, [], rfl, _, hmosi⟩, Burst.whole_frame e⟩)
      rw [wp_watch_attempt]
      rcases hl : launch dev (scratch.framed (createHeader addr false) len) with ⟨_ | _, cell'⟩ <;>
        rw [hl] at hback <;> unfold DmaBuffers.framed at hl <;> rw [hl] <;> exact hback

theorem keeps_written_startWrite (l : Lens S (Transceiver L (Logged D))) {len : Nat}
    {fill : List UInt8 → Prog S (List UInt8)} (hfill : ∀ buf, (fill buf).Fixes l.get)
    (hC : Heeds C addr true) :
    Keeps (fun x => Written C F (l.get x.1, x.2))
      ((startWrite l addr len fill).watch (transcribe.comap l.get)) := by
  rintro ⟨s, t⟩ h
  rw [startWrite, wp_watch_bind, wp_watch_zoom_attempt]
  cases hs : l.get s with
  | pending | inFlight txn =>
    simp only [takeIdle]
    rw [← hs, l.set_get, Observer.note_self]
    exact h
  | idle dev scratch =>
    rw [hs] at h
    simp only [takeIdle, Observer.comap_note, l.get_set, hs, note_pending]
    split
    · rw [wp_watch_zoom_attempt]
      simp only [Observer.comap_note, l.get_set]
      exact h.handBack_same rfl
    next hfit =>
      have hle : HEADER + len ≤ L := by rw [scratch.tx_length] at hfit; omega
      rw [wp_watch_bind, wp_watch_always, Prog.run_watch_silent (hfill _).silent,
        wp_watch_zoom_attempt]
      have hget := (hfill ((scratch.stage 0 (createHeader addr true)).txWindow HEADER len)).run
        (l.set .pending s)
      rw [l.get_set] at hget
      simp only [Observer.comap_note, l.get_set, hget]
      generalize ((fill _).run (l.set .pending s)).1 = payload
      obtain ⟨e, hmosi, hlog⟩ := launch_burst dev
        (scratch.loaded (createHeader addr true) payload len)
      obtain ⟨rest, -, hframe⟩ : ∃ rest, rest.length = len ∧
          (scratch.loaded (createHeader addr true) payload len).mosi =
            createHeader addr true ++ rest := loaded_frame hle
      rw [hframe] at hmosi
      have hback := h.handBack hC hlog (.inr ⟨⟨e, [], rfl, _, hmosi⟩, Burst.whole_frame e⟩)
      unfold DmaBuffers.loaded at hback
      generalize launch dev _ = out at hback ⊢
      rcases out with ⟨_ | _, cell'⟩ <;> exact hback

/-- The accesses of the socket at `block`, if `C` stands through every one. -/
theorem serves_written {block : BlockAddress}
    (hread : ∀ addr : Address, addr.block = block.reg ∨ addr.block = block.rx →
      Heeds C addr false)
    (hwrite : ∀ addr : Address, addr.block = block.reg ∨ addr.block = block.tx →
      Heeds C addr true) :
    Serves (transcribe (L := L) (D := D)) block (Written C F) fun _ _ _ => Written C F where
  read addr _ ha hn := keeps_written_read (by omega) (hread addr ha)
  write addr _ ha hn := keeps_written_write hn (hwrite addr ha)
  startRead _ pointer _ _ := keeps_written_startRead (hread ⟨pointer, block.rx⟩ (.inr rfl))
  startWrite l pointer _ _ hfill :=
    keeps_written_startWrite l hfill (hwrite ⟨pointer, block.tx⟩ (.inr rfl))

omit [SpiDmaDevice D] in
/-- Taking a transfer down clocks nothing. -/
theorem Written.abort (h : Written C F (cell, t)) :
    Written C F ((Wiznet.abort.run cell).2,
      transcribe.note cell (Wiznet.abort.run cell).2 t) := by
  have hlog : busLog (Wiznet.abort.run cell).2 = busLog cell := by cases cell <;> rfl
  have hnote : transcribe.note cell (Wiznet.abort.run cell).2 t = t := if_pos hlog
  rw [hnote]
  exact ⟨h.synced.same hlog, h.bursts, h.freed⟩

omit [SpiDmaDevice D] in
/-- Finishing a transfer clocks nothing. -/
theorem keeps_written_finishRead (l : Lens S (Transceiver L (Logged D))) {len : Nat}
    {consume : List UInt8 → Prog S Unit} (hconsume : ∀ buf, (consume buf).Fixes l.get) :
    Keeps (fun x => Written C F (l.get x.1, x.2))
      ((finishRead l len consume).watch (transcribe.comap l.get)) := by
  rintro ⟨s, t⟩ h
  rw [finishRead, wp_watch_bind, wp_watch_zoom_attempt]
  cases hs : l.get s with
  | pending | idle dev scratch =>
    simp only [takeInFlight]
    rw [← hs, l.set_get, Observer.note_self]
    exact h
  | inFlight txn =>
    rw [hs] at h
    simp only [takeInFlight, Observer.comap_note, l.get_set, hs, note_pending, Transaction.wait]
    rw [wp_watch_bind, wp_watch_always, Prog.run_watch_silent (hconsume _).silent,
      wp_watch_store]
    have hget := (hconsume (txn.buffers.rxWindow HEADER len)).run (l.set .pending s)
    rw [l.get_set] at hget
    simp only [Observer.comap_note, l.get_set, hget]
    exact h.handBack_same rfl

omit [SpiDmaDevice D] in
theorem keeps_written_finishWrite :
    Keeps (Written C F) (finishWrite.watch (transcribe (L := L) (D := D))) := by
  rintro ⟨cell, t⟩ h
  rw [finishWrite, wp_watch_bind, wp_watch_attempt]
  cases cell with
  | pending | idle dev scratch =>
    simp only [takeInFlight, transcribe.note_self]
    exact h
  | inFlight txn =>
    simp only [takeInFlight, note_pending, Transaction.wait]
    rw [wp_watch_store]
    exact h.handBack_same rfl

end Written

/-! ## The end of a transfer -/

namespace W6100

section Finish

omit [SpiDmaDevice D]

variable {J : Transceiver L (Logged D) × Transcript → Prop}

theorem keeps_zoom_trans {c : Code Error (Transceiver L (Logged D)) Unit}
    (hc : Keeps J (c.watch transcribe)) :
    Keeps (fun x : Io w L (Logged D) × Transcript => J (x.1.trans, x.2))
      ((Code.zoom Io.transLens c).watch (transcribe.comap Io.trans)) := by
  rintro ⟨io, t⟩ h
  rw [wp_watch_zoom transcribe fun _ _ _ => rfl]
  exact hc (io.trans, t) h

theorem keeps_fixes_trans {p : Prog (Io w L (Logged D)) Unit} (hp : p.Fixes Io.trans) :
    Keeps (fun x : Io w L (Logged D) × Transcript => J (x.1.trans, x.2))
      ((Code.always p : Code Error _ Unit).watch (transcribe.comap Io.trans)) := by
  rintro ⟨io, t⟩ h
  have hget := hp.run io
  rw [wp_watch_always, Prog.run_watch_silent hp.silent]
  simp only [hget]
  exact h

/-- The epilogue of a transfer keeps what the ticks of its socket keep. -/
theorem keeps_finishBulk [SpiDmaDevice D] {C : List Burst → Prop}
    {F : List (Fin 8 × List Burst) → Prop} {op : BulkOp} (hop : op.block = socketBlock op.idx)
    (hs : Serves (transcribe (L := L) (D := D)) (socketBlock op.idx) (Written C F)
      fun _ _ _ => Written C F) :
    Keeps (fun x : Io w L (Logged D) × Transcript => Written C F (x.1.trans, x.2))
      ((finishBulk op).watch (transcribe.comap Io.trans)) := by
  have hq := hs.quiet .closed
  have hcommit : Keeps (Written C F)
      ((commitReceive op).watch (transcribe (L := L) (D := D))) := by
    rw [commitReceive, hop]
    exact (hs.writeReg (by decide)).watch_bind fun _ =>
      (hq.sendSockCommand (by decide)).watch_bind fun _ => hq.clearInterrupts _
  have hdeliver : ∀ payload, (do
      let _ ← Prog.zoom (Io.ringsLens.comp SocketRings.rxLens) (SpscRing.write payload)
      : Prog (Io w L (Logged D)) Unit).Fixes Io.trans := fun payload =>
    Prog.Fixes.bind (Prog.Fixes.zoom (fun _ _ => rfl) _) fun _ => trivial
  unfold finishBulk
  dsimp only
  split
  · exact (keeps_written_finishRead Io.transLens hdeliver).watch_bind fun _ =>
      keeps_zoom_trans hcommit
  · refine (keeps_fixes_trans (hdeliver _)).watch_bind fun _ => ?_
    refine (keeps_written_finishRead Io.transLens hdeliver).watch_bind fun _ => ?_
    refine (keeps_fixes_trans (Prog.Fixes.zoom (fun _ _ => rfl) _)).watch_bind fun _ => ?_
    exact keeps_zoom_trans hcommit
  · refine (keeps_zoom_trans keeps_written_finishWrite).watch_bind fun _ => ?_
    rw [hop]
    exact (keeps_zoom_trans (hs.writeReg (by decide))).watch_bind fun _ =>
      keeps_zoom_trans (hs.writeReg (by decide))

end Finish

end W6100

end Wiznet
