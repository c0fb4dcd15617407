import Wiznet.RingQueue

/-! # The ring as a bounded FIFO

A queue of at most `cap` bytes says what `write`, `read`, `peek` and `clear`
are for. The ring answers as that queue does on every sequence of calls exactly
when its capacity divides `2 ^ w`; with any other capacity it does so until the
counters pass their maximum. -/

namespace Wiznet
open Resumption Cyclic

variable {w : Nat}

/-- The calls that move bytes. -/
inductive RingCall where
  | write (src : List UInt8)
  | read (n : Nat)
  | peek (n : Nat)
  | clear

inductive RingAnswer where
  | stored (n : Nat)
  | bytes (bs : List UInt8)
  | cleared
  deriving DecidableEq

/-! ## A queue of bounded length -/

namespace ByteQueue

/-- What a queue of at most `cap` bytes answers, and what it holds then. -/
def step (cap : Nat) (q : List UInt8) : RingCall → RingAnswer × List UInt8
  | .write src =>
    let n := min src.length (cap - q.length)
    (.stored n, q ++ src.take n)
  | .read n => (.bytes (q.take n), q.drop n)
  | .peek n => (.bytes (q.take n), q)
  | .clear => (.cleared, [])

def answers (cap : Nat) : List UInt8 → List RingCall → List RingAnswer
  | _, [] => []
  | q, c :: calls => (step cap q c).1 :: answers cap (step cap q c).2 calls

/-- The queue, and how many bytes it took since it was last cleared. -/
def advance (cap : Nat) (q : List UInt8 × Nat) (c : RingCall) : List UInt8 × Nat :=
  ((step cap q.1 c).2,
    match c with
    | .write src => q.2 + min src.length (cap - q.1.length)
    | .clear => 0
    | _ => q.2)

/-- The bytes accepted since the last `clear` of `calls`, from an empty queue. -/
def accepted (cap : Nat) (calls : List RingCall) : Nat := (calls.foldl (advance cap) ([], 0)).2

end ByteQueue

/-! ## The ring under the same calls -/

def RingCall.run : RingCall → Prog (SpscRing w) RingAnswer
  | .write src => do
    let n ← SpscRing.write src
    pure (.stored n)
  | .read n => do
    let bs ← SpscRing.read n
    pure (.bytes bs)
  | .peek n => do
    let bs ← SpscRing.peek n
    pure (.bytes bs)
  | .clear => do
    SpscRing.clear
    pure .cleared

namespace SpscRing

def answers : SpscRing w → List RingCall → List RingAnswer
  | _, [] => []
  | r, c :: calls => (c.run.run r).1 :: answers (c.run.run r).2 calls

/-- The ring over `buf` answers the calls as a byte queue of its length. -/
def Fifo (w : Nat) (buf : List UInt8) (calls : List RingCall) : Prop :=
  answers ((install buf).run (new : SpscRing w)).2 calls = ByteQueue.answers buf.length [] calls

/-- The ring holds the queue `q` of bound `cap`, and `tail` counts the bytes it
took unless positions never jump. -/
structure Holds (cap : Nat) (q : List UInt8) (moved : Nat) (r : SpscRing w) : Prop where
  sound : Sound r
  bound : r.cap.toNat = cap
  bytes : contents r = q
  counted : cap ∣ 2 ^ w ∨ r.tail.toNat = moved

variable {cap moved : Nat} {q : List UInt8} {r : SpscRing w}

theorem holds_zero (hcap : r.cap ≠ 0) (hh : r.head = 0) (ht : r.tail = 0) :
    Holds r.cap.toNat [] 0 r := by
  have hlen : (r.tail - r.head).toNat = 0 := by rw [hh, ht, BitVec.sub_self, BitVec.toNat_zero]
  refine ⟨⟨hcap, ?_, .inr ?_⟩, rfl, ?_, .inr ?_⟩
  · rw [hlen]
    exact Nat.zero_le _
  · rw [hh, ht]
  · exact List.eq_nil_of_length_eq_zero ((length_contents r).trans hlen)
  · rw [ht]
    rfl

theorem holds_install {buf : List UInt8} (hpos : 0 < buf.length) (hfit : buf.length < 2 ^ w)
    (r : SpscRing w) : Holds buf.length [] 0 ((install buf).run r).2 := by
  have hcap : (BitVec.ofNat w buf.length).toNat = buf.length := by
    rw [BitVec.toNat_ofNat, Nat.mod_eq_of_lt hfit]
  have hne : ((install buf).run r).2.cap ≠ 0 := by
    intro hz
    have hz' : (BitVec.ofNat w buf.length).toNat = 0 := congrArg BitVec.toNat hz
    omega
  have h := holds_zero hne rfl rfl
  rwa [show ((install buf).run r).2.cap.toNat = buf.length from hcap] at h

/-- Answers and contents agree across one call. -/
theorem Holds.step (h : Holds cap q moved r) (c : RingCall)
    (hmax : cap ∣ 2 ^ w ∨ (ByteQueue.advance cap (q, moved) c).2 < 2 ^ w) :
    (c.run.run r).1 = (ByteQueue.step cap q c).1 ∧
      Holds cap (ByteQueue.step cap q c).2 (ByteQueue.advance cap (q, moved) c).2
        (c.run.run r).2 := by
  obtain ⟨hs, rfl, rfl, hcount⟩ := h
  cases c with
  | write src =>
    simp only [RingCall.run, Prog.bind_eq, Prog.run_bind, run_write hs, Prog.pure_eq, Prog.run_ret,
      ByteQueue.step, ByteQueue.advance] at hmax ⊢
    generalize hn : min src.length (r.cap.toNat - (contents r).length) = n at hmax ⊢
    have hlen : (src.take n).length = n := List.length_take_of_le (by omega)
    have hle := hs.room
    rw [length_contents] at hn
    have hroom : (r.tail - r.head).toNat + (src.take n).length ≤ r.cap.toNat := by omega
    have hstay : r.cap.toNat ∣ 2 ^ w ∨
        r.tail.toNat + (src.take n).length < 2 ^ w ∧ r.tail.toNat = moved := by
      rcases hcount with hdvd | hcount
      · exact .inl hdvd
      · exact hmax.imp_right fun hmax => by omega
    refine ⟨trivial, hs.pushed hroom (hstay.imp_right And.left), rfl, contents_pushed hs hroom,
      hstay.imp_right fun hstay => ?_⟩
    rw [pushed, toNat_advance hstay.1, hlen, hstay.2]
  | read n =>
    simp only [RingCall.run, Prog.bind_eq, Prog.run_bind, run_read_contents hs, Prog.pure_eq,
      Prog.run_ret, ByteQueue.step, ByteQueue.advance]
    have hn : min n (contents r).length ≤ (r.tail - r.head).toNat := by
      rw [length_contents]
      exact Nat.min_le_right ..
    refine ⟨trivial, hs.popped hn, rfl, ?_, hcount⟩
    rw [contents_popped hs hn]
    by_cases hlong : n ≤ (contents r).length
    · rw [Nat.min_eq_left hlong]
    · rw [Nat.min_eq_right (by omega), List.drop_length, List.drop_of_length_le (by omega)]
  | peek n =>
    simp only [RingCall.run, Prog.bind_eq, Prog.run_bind, run_peek, run_read_contents hs,
      Prog.pure_eq, Prog.run_ret, ByteQueue.step, ByteQueue.advance]
    exact ⟨trivial, hs, rfl, rfl, hcount⟩
  | clear =>
    have h0 : Holds r.cap.toNat [] 0 (RingCall.clear.run.run r).2 :=
      holds_zero (r := (RingCall.clear.run.run r).2) hs.installed rfl rfl
    exact ⟨rfl, h0⟩

theorem Holds.answers (h : Holds cap q moved r) (calls : List RingCall)
    (hmax : cap ∣ 2 ^ w ∨
      ∀ front, front <+: calls → (front.foldl (ByteQueue.advance cap) (q, moved)).2 < 2 ^ w) :
    SpscRing.answers r calls = ByteQueue.answers cap q calls := by
  induction calls generalizing q moved r with
  | nil => rfl
  | cons c calls ih =>
    have hfirst : cap ∣ 2 ^ w ∨ (ByteQueue.advance cap (q, moved) c).2 < 2 ^ w :=
      hmax.imp_right fun hmax => hmax [c] ⟨calls, rfl⟩
    obtain ⟨hanswer, hnext⟩ := h.step c hfirst
    rw [SpscRing.answers, ByteQueue.answers, hanswer, ih hnext]
    refine hmax.imp_right fun hmax front hfront => ?_
    exact hmax (c :: front) (List.cons_prefix_cons.mpr ⟨rfl, hfront⟩)

/-! ## Past the maximum -/

/-- `k` bytes pass through, one at a time, then two at once. -/
def lap : Nat → List RingCall
  | 0 => [.write [0, 1], .read 1, .read 1]
  | k + 1 => .write [0] :: .read 1 :: lap k

theorem run_read_one (hcap : r.cap ≠ 0) (hne : r.tail ≠ r.head) :
    (read 1).run r = ([r.buf (r.head.toNat % r.cap.toNat)], popped 1 r) := by
  have hlen : min 1 (r.tail - r.head).toNat = 1 := by
    have hz : (r.tail - r.head).toNat ≠ 0 := by
      intro hz
      exact hne (BitVec.sub_eq_iff_eq_add.mp (BitVec.eq_of_toNat_eq hz) |>.trans (BitVec.zero_add _))
    omega
  rw [run_read, if_neg hcap, hlen, if_neg Nat.one_ne_zero, copyFrom_eq hcap (cap_pos hcap),
    run_copyOutOf]
  rfl

/-- `write` into an empty ring with room for all of it. -/
theorem run_write_drained (src : List UInt8) (hcap : r.cap ≠ 0) (hh : r.head = r.tail)
    (hroom : src.length ≤ r.cap.toNat) : (write src).run r = (src.length, pushed src r) := by
  refine run_write_fits (sound_drained hcap hh) src ?_
  rw [hh, BitVec.sub_self, BitVec.toNat_zero, Nat.zero_add]
  exact hroom

/-- An empty ring whose counters stand at the maximum puts the second of two
bytes where it does not look for it. -/
theorem lap_zero (hcap : 1 < r.cap.toNat) (hdvd : ¬ r.cap.toNat ∣ 2 ^ w) (hcell : r.buf 0 = 0)
    (hh : r.head = r.tail) (ht : r.tail.toNat + 1 = 2 ^ w) :
    answers r (lap 0) ≠ ByteQueue.answers r.cap.toNat [] (lap 0) := by
  have hlt := r.cap.isLt
  have hne := cap_ne_zero (Nat.zero_lt_of_lt hcap)
  have hone : (r.tail + BitVec.ofNat w 1).toNat = 0 := by
    rw [BitVec.toNat_add, BitVec.toNat_ofNat, Nat.add_mod_mod, ht, Nat.mod_self]
  have htwo : (r.tail + BitVec.ofNat w 2).toNat = 1 := by
    rw [BitVec.toNat_add, BitVec.toNat_ofNat, Nat.add_mod_mod,
      show r.tail.toNat + 2 = 1 + 2 ^ w by omega, Nat.add_mod_right, Nat.mod_eq_of_lt (by omega)]
  have hseam : (r.tail.toNat + 1) % r.cap.toNat ≠ 0 := by
    rw [ht]
    exact fun hz => hdvd (Nat.dvd_of_mod_eq_zero hz)
  have hcells : (pushed [0, 1] r).buf 0 = 0 := by
    simp only [pushed, put]
    rw [Function.update_of_ne hseam.symm]
    by_cases hz : 0 = r.tail.toNat % r.cap.toNat
    · rw [← hz, Function.update_self]
    · rw [Function.update_of_ne hz, hcell]
  have hw := run_write_drained [0, 1] hne hh hcap
  have hfirst := run_read_one (r := pushed [0, 1] r) hne (by
    rw [pushed, hh]
    exact advance_ne (n := 2) Nat.two_pos (by omega))
  have hsecond := run_read_one (r := popped 1 (pushed [0, 1] r)) hne (by
    intro heq
    have hnat : (r.tail + BitVec.ofNat w 2).toNat = (r.head + BitVec.ofNat w 1).toNat :=
      congrArg BitVec.toNat heq
    rw [hh, hone, htwo] at hnat
    exact absurd hnat Nat.one_ne_zero)
  have hhead : (popped 1 (pushed [0, 1] r)).head.toNat = 0 := by
    rw [← hone, ← hh]
    rfl
  have hbuf : (popped 1 (pushed [0, 1] r)).buf = (pushed [0, 1] r).buf := rfl
  intro heq
  simp only [lap, answers, ByteQueue.answers, ByteQueue.step, RingCall.run, Prog.bind_eq,
    Prog.run_bind, Prog.pure_eq, Prog.run_ret, hw, hfirst, hsecond, hhead, hbuf, Nat.zero_mod,
    hcells, List.nil_append] at heq
  have hmin : min 2 r.cap.toNat = 2 := by omega
  simp [hmin] at heq

theorem lap_fails (k : Nat) (hcap : 1 < r.cap.toNat) (hdvd : ¬ r.cap.toNat ∣ 2 ^ w)
    (hcell : r.tail.toNat = 0 ∨ r.buf 0 = 0)
    (hh : r.head = r.tail) (ht : r.tail.toNat + k + 1 = 2 ^ w) :
    answers r (lap k) ≠ ByteQueue.answers r.cap.toNat [] (lap k) := by
  have hne := cap_ne_zero (Nat.zero_lt_of_lt hcap)
  induction k generalizing r with
  | zero =>
    refine lap_zero hcap hdvd (hcell.resolve_left fun hz => ?_) hh ht
    have hlt := r.cap.isLt
    omega
  | succ k ih =>
    have hw := run_write_drained [0] hne hh hcap.le
    have hr := run_read_one (r := pushed [0] r) hne (by
      rw [pushed, hh]
      exact advance_ne (n := 1) Nat.one_pos (by omega))
    have hmin : min 1 (r.cap.toNat - 0) = 1 := by omega
    -- The queue is empty again, the counters have moved on by one.
    have hnext : answers (popped 1 (pushed [0] r)) (lap k) ≠
        ByteQueue.answers r.cap.toNat [] (lap k) := by
      refine ih hcap hdvd (.inr ?_) ?_ ?_ hne
      · simp only [popped, pushed, put]
        by_cases hz : 0 = r.tail.toNat % r.cap.toNat
        · rw [← hz, Function.update_self]
        · rw [Function.update_of_ne hz]
          refine hcell.resolve_left fun ht0 => hz ?_
          rw [ht0, Nat.zero_mod]
      · rw [popped, pushed, hh]
        rfl
      · have hadvance : (r.tail + BitVec.ofNat w 1).toNat = r.tail.toNat + 1 :=
          toNat_advance (by omega)
        rw [show (popped 1 (pushed [0] r)).tail = r.tail + BitVec.ofNat w 1 from rfl, hadvance]
        omega
    intro heq
    simp only [lap, answers, ByteQueue.answers, ByteQueue.step, RingCall.run, Prog.bind_eq,
      Prog.run_bind, Prog.pure_eq, Prog.run_ret, hw, hr, List.nil_append, List.length_nil,
      List.length_singleton, hmin, List.take_one] at heq
    injection heq with _ heq
    injection heq with _ heq
    exact hnext heq

/-- With any other capacity, a buffer fails once the counters stand at the
maximum. -/
theorem not_fifo_lap {buf : List UInt8} (hpos : 0 < buf.length) (hfit : buf.length < 2 ^ w)
    (hdvd : ¬ buf.length ∣ 2 ^ w) : ¬ Fifo w buf (lap (2 ^ w - 1)) := by
  have hcap := (holds_install hpos hfit (new : SpscRing w)).bound
  have hone : buf.length ≠ 1 := by
    intro h
    rw [h] at hdvd
    exact hdvd (one_dvd _)
  have htail : ((install buf).run (new : SpscRing w)).2.tail.toNat = 0 := BitVec.toNat_zero
  have hfail := lap_fails (2 ^ w - 1) (by omega) (by rwa [hcap]) (.inl htail) rfl (by omega)
  rwa [hcap] at hfail

/-- The ring is a bounded FIFO on every sequence of calls if and only if its
capacity divides `2 ^ w`, and on every sequence that moves fewer than `2 ^ w`
bytes from one `clear` to the next whatever its capacity. -/
theorem fifo_iff (buf : List UInt8) (hpos : 0 < buf.length) (hfit : buf.length < 2 ^ w) :
    ((∀ calls, Fifo w buf calls) ↔ buf.length ∣ 2 ^ w) ∧
    ∀ calls, (∀ front, front <+: calls → ByteQueue.accepted buf.length front < 2 ^ w) →
      Fifo w buf calls := by
  have hstart := holds_install hpos hfit (new : SpscRing w)
  refine ⟨⟨fun hall => ?_, fun hdvd calls => hstart.answers calls (.inl hdvd)⟩,
    fun calls hmax => hstart.answers calls (.inr hmax)⟩
  by_contra hdvd
  exact not_fifo_lap hpos hfit hdvd (hall _)

theorem fifo_four_and_three :
    Fifo 32 [0, 0, 0, 0] (lap 7) ∧
      Fifo 32 [0, 0, 0] [.write [1, 2], .read 1, .write [3, 4], .peek 4, .clear, .write [5]] := by
  refine ⟨(fifo_iff [0, 0, 0, 0] (by decide) (by decide)).1.mpr (by decide) (lap 7),
    (fifo_iff [0, 0, 0] (by decide) (by decide)).2 _ fun front hfront => ?_⟩
  rw [← List.mem_inits] at hfront
  revert front
  decide

/-- A buffer of three bytes, after `2 ^ 32 - 1` bytes went through it. -/
theorem fifo_three_fails : ¬ Fifo 32 [0, 0, 0] (lap (2 ^ 32 - 1)) :=
  not_fifo_lap (by decide) (by decide) (by decide)

end SpscRing

end Wiznet
