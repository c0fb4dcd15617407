import Wiznet.BusLog
import Wiznet.Scripted

/-! # Operation batching

`transaction` stages what fits the scratch, clocks it as one frame, copies the
answers back and goes on with the rest. Seen from outside there is no scratch:
the operations fall into groups, each of them crosses the bus as one frame, and
the first group that cannot ends it. -/

namespace Wiznet

variable {L : Nat} {D : Type}

/-! ## Groups -/

namespace Operation

/-- The bytes the operation takes up on the bus. -/
def length : Operation → Nat
  | .read items | .write items | .transfer _ items | .transferInPlace items => items.length
  | .delayNs _ => 0

def isDelay : Operation → Bool
  | .delayNs _ => true
  | _ => false

/-- Both sides of a `Transfer` have the same length. -/
def Balanced : Operation → Prop
  | .transfer items mosi => items.length = mosi.length
  | _ => True

/-- The operand that goes out. -/
def written : Operation → Option (List UInt8)
  | .read _ | .delayNs _ => none
  | .write items | .transfer _ items | .transferInPlace items => some items

/-- The operation once `miso` came back under it. -/
def answered (miso : List UInt8) : Operation → Operation
  | .read _ => .read miso
  | .transfer _ mosi => .transfer miso mosi
  | .transferInPlace _ => .transferInPlace miso
  | op => op

end Operation

/-- The bytes a list of operations takes up together. -/
def span (group : List Operation) : Nat := (group.map Operation.length).sum

/-- The operations that `rest` is behind go out together: no delay is among
them, they fit, and the next one would not go with them. -/
structure Group (L : Nat) (group rest : List Operation) : Prop where
  nonempty : group ≠ []
  clocked : ∀ op ∈ group, op.isDelay = false
  fits : span group ≤ L
  maximal : ∀ op ops, rest = op :: ops → op.isDelay = true ∨ L < span group + op.length

/-- Every operand that goes out stands in the frame at its operation's offset. -/
def Staged : List Operation → List UInt8 → Prop
  | [], mosi => mosi = []
  | op :: group, mosi => (∀ bytes, op.written = some bytes → mosi.take op.length = bytes) ∧
      op.length ≤ mosi.length ∧ Staged group (mosi.drop op.length)

/-- Every operand that takes an answer gets the bytes at its operation's offset. -/
def received : List Operation → List UInt8 → List Operation
  | [], _ => []
  | op :: group, miso =>
    op.answered (miso.take op.length) :: received group (miso.drop op.length)

/-- What happens on the bus. -/
inductive BusEvent where
  | frame (e : BusEntry)
  | delay (ns : UInt32)

/-- The operations, group by group and delay by delay in list order: what
happens on the bus, what they are afterwards, how it ended and with which
device. A group that is refused and an operation that is too long are where it
ends; they and all that is behind them stay as they were. -/
inductive Batched [SpiDmaDevice D] (L : Nat) :
    List Operation → D → List BusEvent → List Operation → Option DriverError → D → Prop
  | done (dev : D) : Batched L [] dev [] [] none dev
  | delay {ops ops' : List Operation} {dev dev' : D} {events : List BusEvent}
      {error : Option DriverError} (ns : UInt32)
      (tail : Batched L ops (SpiDmaDevice.delayNs dev ns) events ops' error dev') :
      Batched L (.delayNs ns :: ops) dev (.delay ns :: events) (.delayNs ns :: ops') error dev'
  | frame {group rest rest' : List Operation} {dev dev₁ dev' : D} {events : List BusEvent}
      {error : Option DriverError} {mosi : List UInt8}
      {miso : { bytes : List UInt8 // bytes.length = mosi.length }}
      (hgroup : Group L group rest) (hmosi : Staged group mosi)
      (hclock : SpiDmaDevice.clock dev mosi .poll = (some miso, dev₁))
      (tail : Batched L rest dev₁ events rest' error dev') :
      Batched L (group ++ rest) dev (.frame ⟨mosi, some miso.1⟩ :: events)
        (received group miso.1 ++ rest') error dev'
  | refused {group rest : List Operation} {dev dev' : D} {mosi : List UInt8}
      (hgroup : Group L group rest) (hmosi : Staged group mosi)
      (hclock : SpiDmaDevice.clock dev mosi .poll = (none, dev')) :
      Batched L (group ++ rest) dev [.frame ⟨mosi, none⟩] (group ++ rest) (some .spiError) dev'
  | overrun {op : Operation} {ops : List Operation} (dev : D) (hop : op.isDelay = false)
      (hlong : L < op.length) :
      Batched L (op :: ops) dev [] (op :: ops) (some .scratchBufferOverrun) dev

theorem span_cons (op : Operation) (group : List Operation) :
    span (op :: group) = op.length + span group := by simp [span]

theorem length_le_span {op : Operation} {group : List Operation} (h : op ∈ group) :
    op.length ≤ span group := by
  induction group with
  | nil => cases h
  | cons op' group ih =>
    rw [span_cons]
    rcases List.mem_cons.mp h with rfl | h
    · exact Nat.le_add_right ..
    · exact Nat.le_trans (ih h) (Nat.le_add_left ..)

theorem Staged.length_eq {group : List Operation} {mosi : List UInt8} (h : Staged group mosi) :
    mosi.length = span group := by
  induction group generalizing mosi with
  | nil => rw [show mosi = [] from h]; rfl
  | cons op group ih =>
    obtain ⟨-, hle, hrest⟩ := h
    have hlen := ih hrest
    rw [List.length_drop] at hlen
    rw [span_cons]
    omega

/-- There is one way to split a list behind a group. -/
theorem Group.unique {group group' rest rest' : List Operation} (h : Group L group rest)
    (h' : Group L group' rest') (heq : group ++ rest = group' ++ rest') :
    group = group' ∧ rest = rest' := by
  have hstop : ∀ {g r g' r' : List Operation}, Group L g r → Group L g' r' →
      g ++ r = g' ++ r' → g'.length ≤ g.length := by
    intro g r g' r' hg hg' heq
    by_contra hlt
    have hsplit : g' = g ++ g'.drop g.length := by
      have htake := congrArg (List.take g.length) heq
      rw [List.take_left' rfl, List.take_append_of_le_length (by omega)] at htake
      conv_lhs => rw [← List.take_append_drop g.length g']
      rw [← htake]
    cases hmore : g'.drop g.length with
    | nil =>
      rw [List.drop_eq_nil_iff] at hmore
      omega
    | cons op more =>
      rw [hmore] at hsplit
      have hrest : r = op :: (more ++ r') := by
        rw [hsplit, List.append_assoc] at heq
        exact List.append_cancel_left heq
      have hmem : op ∈ g' := by rw [hsplit]; simp
      have hfits := hg'.fits
      rw [hsplit, span, List.map_append, List.sum_append, List.map_cons, List.sum_cons] at hfits
      rcases hg.maximal op _ hrest with hdelay | hlong
      · rw [hg'.clocked op hmem] at hdelay
        cases hdelay
      · rw [span] at hlong
        omega
  have hlen := Nat.le_antisymm (hstop h' h heq.symm) (hstop h h' heq)
  exact List.append_inj heq hlen

theorem received_append {group : List Operation} {miso : List UInt8} (more : List UInt8)
    (h : span group ≤ miso.length) : received group (miso ++ more) = received group miso := by
  induction group generalizing miso with
  | nil => rfl
  | cons op group ih =>
    rw [span_cons] at h
    rw [received, received, List.take_append_of_le_length (by omega),
      List.drop_append_of_le_length (by omega), ih (by rw [List.length_drop]; omega)]

/-! ## The two passes of a chunk -/

/-- What the staging pass makes of `ops` from `offset` on. -/
structure Chunk (scratch : DmaBuffers L) (offset : Nat) (ops : List Operation)
    (staged : DmaBuffers L) (stop : Nat) (taken rest : List Operation) : Prop where
  split : ops = taken ++ rest
  clocked : ∀ op ∈ taken, op.isDelay = false
  stop_eq : stop = offset + span taken
  fits : stop ≤ L
  maximal : ∀ op ops, rest = op :: ops → op.isDelay = true ∨ L < stop + op.length
  before : staged.tx.take offset = scratch.tx.take offset
  window : Staged taken ((staged.tx.take stop).drop offset)

/-- Nothing more goes into this chunk. -/
theorem chunk_stop (scratch : DmaBuffers L) {offset : Nat} {ops : List Operation}
    (hoff : offset ≤ L)
    (hmax : ∀ op ops', ops = op :: ops' → op.isDelay = true ∨ L < offset + op.length) :
    Chunk scratch offset ops scratch offset [] ops where
  split := rfl
  clocked := nofun
  stop_eq := rfl
  fits := hoff
  maximal := hmax
  before := rfl
  window := List.drop_of_length_le (by rw [List.length_take]; omega)

/-- One more operation in front of a chunk. -/
theorem Chunk.cons {scratch scratch' staged : DmaBuffers L} {offset stop : Nat} {op : Operation}
    {ops taken rest : List Operation} (hop : op.isDelay = false)
    (hbefore : scratch'.tx.take offset = scratch.tx.take offset)
    (hwritten : ∀ bytes, op.written = some bytes →
      (scratch'.tx.take (offset + op.length)).drop offset = bytes)
    (h : Chunk scratch' (offset + op.length) ops staged stop taken rest) :
    Chunk scratch offset (op :: ops) staged stop (op :: taken) rest where
  split := by rw [h.split]; rfl
  clocked := by
    intro op' hmem
    rcases List.mem_cons.mp hmem with rfl | hmem
    · exact hop
    · exact h.clocked op' hmem
  stop_eq := by rw [h.stop_eq, span_cons, Nat.add_assoc]
  fits := h.fits
  maximal := h.maximal
  before := by
    have hmin : min offset (offset + op.length) = offset := by omega
    have htake := congrArg (List.take offset) h.before
    rw [List.take_take, List.take_take, hmin] at htake
    rw [htake, hbefore]
  window := by
    have hstop := h.stop_eq
    have hlen : staged.tx.length = L := staged.tx_length
    have hfits := h.fits
    refine ⟨fun bytes hbytes => ?_, ?_, ?_⟩
    · have hmin : min (offset + op.length) stop = offset + op.length := by omega
      rw [List.take_drop, List.take_take, hmin, h.before]
      exact hwritten bytes hbytes
    · rw [List.length_drop, List.length_take]
      omega
    · rw [List.drop_drop]
      exact h.window

theorem stageChunk_chunk (scratch : DmaBuffers L) {offset : Nat} (ops : List Operation)
    (hoff : offset ≤ L) :
    let out := stageChunk scratch offset ops
    Chunk scratch offset ops out.1 out.2.1 out.2.2.1 out.2.2.2 := by
  induction ops generalizing scratch offset with
  | nil => exact chunk_stop scratch hoff (by rintro _ _ ⟨⟩)
  | cons op ops ih =>
    -- an operation with an operand that goes out
    have hstaged : ∀ (op : Operation) (items : List UInt8), op.isDelay = false →
        op.written = some items → op.length = items.length →
        let staged := stageChunk (scratch.stage offset items) (offset + items.length) ops
        let out := if offset + items.length > scratch.tx.length then
            (scratch, offset, [], op :: ops)
          else (staged.1, staged.2.1, op :: staged.2.2.1, staged.2.2.2)
        Chunk scratch offset (op :: ops) out.1 out.2.1 out.2.2.1 out.2.2.2 := by
      intro op items hop hwritten hlen
      dsimp only
      split
      next hlong =>
        rw [scratch.tx_length] at hlong
        refine chunk_stop scratch hoff fun op' ops' h => .inr ?_
        cases h
        rwa [hlen]
      next hfit =>
        rw [scratch.tx_length] at hfit
        have hnext := ih (scratch.stage offset items) (show offset + items.length ≤ L by omega)
        rw [← hlen] at hnext ⊢
        refine hnext.cons hop (copyFromSlice_take ..) fun bytes hbytes => ?_
        obtain rfl : items = bytes := Option.some.inj (hwritten.symm.trans hbytes)
        have hl : offset + items.length ≤ scratch.tx.length := by rw [scratch.tx_length]; omega
        have hpre : (scratch.tx.take offset).length = offset := by rw [List.length_take]; omega
        change ((copyFromSlice scratch.tx offset items).take _).drop offset = items
        rw [copyFromSlice_eq hl, hlen, List.take_left' (by rw [List.length_append, hpre]),
          List.drop_left' hpre]
    cases op with
    | read items =>
      rw [stageChunk, scratch.rx_length]
      split
      next hlong => exact chunk_stop scratch hoff fun _ _ h => .inr (by cases h; exact hlong)
      next hfit =>
        have hnext := ih scratch (show offset + items.length ≤ L by omega)
        exact @Chunk.cons _ _ _ _ _ _ (.read items) _ _ _ rfl rfl (by rintro _ ⟨⟩) hnext
    | write items => exact hstaged (.write items) items rfl rfl rfl
    | transfer answer items => exact hstaged (.transfer answer items) items rfl rfl rfl
    | transferInPlace items => exact hstaged (.transferInPlace items) items rfl rfl rfl
    | delayNs ns => exact chunk_stop scratch hoff fun _ _ h => .inl (by cases h; rfl)

/-- The second pass keeps the offsets of the first. -/
theorem copyBack_received (b : DmaBuffers L) (offset : Nat) {group : List Operation}
    (h : ∀ op ∈ group, op.Balanced) :
    copyBack b offset group = received group (b.rx.drop offset) := by
  induction group generalizing offset with
  | nil => rfl
  | cons op group ih =>
    have hop := h op (List.mem_cons_self ..)
    have hrest := fun offset => ih offset fun op hmem => h op (List.mem_cons_of_mem _ hmem)
    cases op with
    | transfer items mosi =>
      have heq : items.length = mosi.length := hop
      simp only [copyBack, received, Operation.answered, Operation.length, DmaBuffers.rxWindow,
        hrest, List.drop_drop, heq]
    | read | write | transferInPlace | delayNs =>
      simp only [copyBack, received, Operation.answered, Operation.length, DmaBuffers.rxWindow,
        hrest, List.drop_drop, Nat.add_zero]

/-! ## The loop -/

variable [SpiDmaDevice D]

/-- The frames are those a device with a log has logged. -/
theorem Batched.log {ops ops' : List Operation} {dev dev' : Logged D} {events : List BusEvent}
    {error : Option DriverError} (h : Batched L ops dev events ops' error dev') :
    dev'.log = dev.log ++ events.filterMap fun
      | .frame e => some e
      | .delay _ => none := by
  induction h with
  | done dev => simp
  | delay ns tail ih => rw [ih]; rfl
  | frame hgroup hmosi hclock tail ih =>
    have hlog := congrArg (fun out => out.2.log) hclock
    have hanswer := congrArg (fun out => out.1.map Subtype.val) hclock
    dsimp only [SpiDmaDevice.clock, Option.map_some] at hlog hanswer
    rw [ih, ← hlog, hanswer, List.append_assoc]
    rfl
  | refused hgroup hmosi hclock =>
    have hlog := congrArg (fun out => out.2.log) hclock
    have hanswer := congrArg (fun out => out.1.map Subtype.val) hclock
    dsimp only [SpiDmaDevice.clock, Option.map_none] at hlog hanswer
    rw [← hlog, hanswer]
    rfl
  | overrun dev hop hlong => simp

/-- It comes to an end without error if nothing is too long and no frame is
refused, and not otherwise. -/
theorem Batched.ok_iff {ops ops' : List Operation} {dev dev' : D} {events : List BusEvent}
    {error : Option DriverError} (h : Batched L ops dev events ops' error dev') :
    error = none ↔ (∀ op ∈ ops, op.length ≤ L) ∧ ∀ e, .frame e ∈ events → Answered e := by
  induction h with
  | done dev => exact iff_of_true rfl ⟨nofun, nofun⟩
  | delay ns tail ih =>
    rw [ih]
    simp [Operation.length]
  | @frame group rest rest' dev dev₁ dev' events error mosi miso hgroup hmosi hclock tail ih =>
    rw [ih]
    constructor
    · rintro ⟨hrest, hframes⟩
      refine ⟨fun op hop => ?_, fun e he => ?_⟩
      · rcases List.mem_append.mp hop with hop | hop
        · exact Nat.le_trans (length_le_span hop) hgroup.fits
        · exact hrest op hop
      · rcases List.mem_cons.mp he with he | he
        · cases he
          exact rfl
        · exact hframes e he
    · rintro ⟨hops, hframes⟩
      exact ⟨fun op hop => hops op (List.mem_append_right _ hop),
        fun e he => hframes e (List.mem_cons_of_mem _ he)⟩
  | refused hgroup hmosi hclock =>
    refine iff_of_false nofun fun h => ?_
    cases h.2 _ (List.mem_singleton.mpr rfl)
  | overrun dev hop hlong =>
    refine iff_of_false nofun fun h => ?_
    have hle := h.1 _ (List.mem_cons_self ..)
    omega

/-- As many rounds as there are operations are enough. -/
theorem execChunks_batched (fuel : Nat) (dev : D) (scratch : DmaBuffers L)
    {ops : List Operation} (hfuel : ops.length ≤ fuel) (hb : ∀ op ∈ ops, op.Balanced) :
    let out := execChunks fuel dev scratch ops
    ∃ events, Batched L ops dev events out.2.2.1 out.2.2.2 out.1 := by
  induction fuel generalizing dev scratch ops with
  | zero =>
    obtain rfl := List.length_eq_zero_iff.mp (Nat.le_zero.mp hfuel)
    exact ⟨[], .done dev⟩
  | succ fuel ih =>
    cases ops with
    | nil => exact ⟨[], .done dev⟩
    | cons op ops =>
      have hchunk := stageChunk_chunk scratch (op :: ops) (Nat.zero_le L)
      rw [execChunks]
      rcases hs : stageChunk scratch 0 (op :: ops) with ⟨staged, stop, taken, rest⟩
      rw [hs] at hchunk
      obtain ⟨hsplit, hclocked, hstop, hfits, hmax, -, hwindow⟩ := hchunk
      dsimp only at hsplit hclocked hstop hfits hmax hwindow
      rw [Nat.zero_add] at hstop
      subst hstop
      cases taken with
      | nil =>
        -- the chunk is empty: a delay, or an operation that is too long for it
        obtain rfl : op :: ops = rest := hsplit
        dsimp only
        rcases hmax op ops rfl with hdelay | hlong
        · cases op with
          | delayNs ns =>
            have hfuel' : ops.length ≤ fuel := Nat.le_of_succ_le_succ hfuel
            obtain ⟨events, hevents⟩ := ih (SpiDmaDevice.delayNs dev ns) staged hfuel'
              fun op hop => hb op (List.mem_cons_of_mem _ hop)
            exact ⟨_, .delay ns hevents⟩
          | _ => cases hdelay
        · have hlong' : L < op.length := by
            rw [span, List.map_nil, List.sum_nil, Nat.zero_add] at hlong
            exact hlong
          cases op with
          | delayNs ns => exact absurd hlong' (Nat.not_lt_zero L)
          | _ => exact ⟨[], .overrun dev rfl hlong'⟩
      | cons first more =>
        have hgroup : Group L (first :: more) rest := ⟨by simp, hclocked, hfits, hmax⟩
        have hmosi : Staged (first :: more)
            ({ staged with len := span (first :: more) } : DmaBuffers L).mosi := by
          rw [List.drop_zero] at hwindow
          exact hwindow
        have hrest : rest.length ≤ fuel := by
          have hlen := congrArg List.length hsplit
          rw [List.length_append, List.length_cons, List.length_cons] at hlen
          rw [List.length_cons] at hfuel
          omega
        have hb' : ∀ op ∈ (first :: more) ++ rest, op.Balanced := by rwa [← hsplit]
        rw [hsplit]
        simp only [transceive]
        rcases hclock : SpiDmaDevice.clock dev
          ({ staged with len := span (first :: more) } : DmaBuffers L).mosi .poll with
          ⟨_ | miso, dev₁⟩
        · exact ⟨_, .refused hgroup hmosi hclock⟩
        · dsimp only [Transaction.wait]
          obtain ⟨events, hevents⟩ := ih dev₁
            (({ staged with len := span (first :: more) } : DmaBuffers L).capture miso.1)
            hrest fun op hop => hb' op (List.mem_append_right _ hop)
          have hlen : miso.1.length = span (first :: more) := miso.2.trans hmosi.length_eq
          have hcopy : copyBack
              (({ staged with len := span (first :: more) } : DmaBuffers L).capture miso.1) 0
              (first :: more) = received (first :: more) miso.1 := by
            have hl : 0 + miso.1.length ≤ staged.rx.length := by rw [staged.rx_length]; omega
            rw [copyBack_received _ _ fun op hop => hb' op (List.mem_append_left _ hop),
              List.drop_zero]
            change received _ (copyFromSlice staged.rx 0 miso.1) = _
            rw [copyFromSlice_eq hl, List.take_zero, List.nil_append,
              received_append _ (Nat.le_of_eq hlen.symm)]
          rw [hcopy]
          exact ⟨_, .frame hgroup hmosi hclock hevents⟩

/-- A transaction on an idle transport performs its operations group by group
and delay by delay, and leaves the transport idle. It succeeds if no operation is
longer than the scratch and no frame is refused, and not otherwise. -/
theorem transaction_batched (ops : List Operation) (hb : ∀ op ∈ ops, op.Balanced) (dev : D)
    (scratch : DmaBuffers L) :
    ∃ events ops' error dev' scratch',
      execTransaction dev scratch ops = (dev', scratch', ops', error) ∧
      transaction ops (.idle dev scratch) =
        ((match error with
          | none => .ok ops'
          | some e => .error (.other e)), .idle dev' scratch') ∧
      Batched L ops dev events ops' error dev' ∧
      (error = none ↔ (∀ op ∈ ops, op.length ≤ L) ∧ ∀ e, .frame e ∈ events → Answered e) := by
  obtain ⟨events, h⟩ := execChunks_batched ops.length dev scratch (Nat.le_refl _) hb
  rcases hx : execTransaction dev scratch ops with ⟨dev', scratch', ops', error⟩
  rw [execTransaction] at hx
  rw [hx] at h
  refine ⟨events, ops', error, dev', scratch', rfl, ?_, h, h.ok_iff⟩
  rw [transaction, execTransaction, hx]
  cases error <;> rfl

/-- A write, a delay, a read, and a transfer that does not fit behind the read. -/
def fourOperations : List Operation :=
  [.write [1, 2], .delayNs 5, .read [0], .transfer [0, 0, 0, 0] [3, 4, 5, 6]]

theorem transaction_batched_four :
    ∃ events ops' error dev' scratch',
      execTransaction (⟨[]⟩ : Scripted) (zeroScratch 4) fourOperations =
        (dev', scratch', ops', error) ∧
      transaction fourOperations (.idle (⟨[]⟩ : Scripted) (zeroScratch 4)) =
        ((match error with
          | none => .ok ops'
          | some e => .error (.other e)), .idle dev' scratch') ∧
      Batched 4 fourOperations (⟨[]⟩ : Scripted) events ops' error dev' ∧
      (error = none ↔
        (∀ op ∈ fourOperations, op.length ≤ 4) ∧ ∀ e, .frame e ∈ events → Answered e) := by
  refine transaction_batched fourOperations (fun op hop => ?_) (⟨[]⟩ : Scripted)
    (zeroScratch 4)
  simp only [fourOperations, List.mem_cons, List.not_mem_nil, or_false] at hop
  rcases hop with rfl | rfl | rfl | rfl <;> first | rfl | trivial

end Wiznet
