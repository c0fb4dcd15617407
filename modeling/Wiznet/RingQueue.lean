import Wiznet.RingRuns
import Wiznet.Lib.Cyclic

/-! # The ring as a queue

The bytes in the ring are the window of the storage between the two counters.
The storage index of a counter is its value modulo the capacity, so the window
moves on without a jump as long as the capacity divides `2 ^ w`, or the counter
does not pass its maximum. -/

namespace Wiznet
open Resumption Cyclic

variable {w : Nat}

namespace SpscRing

/-! ## The two copies as one -/

theorem cap_pos {cap : BitVec w} (h : cap ≠ 0) : 0 < cap.toNat := by
  rw [Nat.pos_iff_ne_zero]
  exact fun hz => h (BitVec.eq_of_toNat_eq hz)

theorem cap_ne_zero {cap : BitVec w} (h : 0 < cap.toNat) : cap ≠ 0 := by
  rintro rfl
  exact absurd h (Nat.lt_irrefl 0)

/-- Copy bytes into the storage at the positions from `pos` on. -/
def copyInto (cap pos : Nat) : List UInt8 → Prog (SpscRing w) Unit
  | [] => .ret ()
  | b :: bs => (Prog.store fun r => r.poke (pos % cap) b).bind fun _ => copyInto cap (pos + 1) bs

/-- Copy `n` bytes out of the storage at the positions from `pos` on. -/
def copyOutOf (cap pos : Nat) : Nat → Prog (SpscRing w) (List UInt8)
  | 0 => .ret []
  | n + 1 => (Prog.load fun r => r.buf (pos % cap)).bind fun b =>
      (copyOutOf cap (pos + 1) n).bind fun bs => .ret (b :: bs)

section Copies

variable {cap pos pos' : Nat}

theorem copyInto_append (cap pos : Nat) (bs bs' : List UInt8) :
    (copyInto cap pos (bs ++ bs') : Prog (SpscRing w) Unit) =
      (copyInto cap pos bs).bind fun _ => copyInto cap (pos + bs.length) bs' := by
  induction bs generalizing pos with
  | nil => rfl
  | cons b bs ih =>
    rw [List.cons_append, copyInto, copyInto, Prog.bind_assoc, ih]
    simp only [List.length_cons, Nat.add_assoc, Nat.add_comm 1]

theorem copyInto_congr (h : pos % cap = pos' % cap) (bs : List UInt8) :
    (copyInto cap pos bs : Prog (SpscRing w) Unit) = copyInto cap pos' bs := by
  induction bs generalizing pos pos' with
  | nil => rfl
  | cons b bs ih => rw [copyInto, copyInto, h, ih (Nat.add_mod_eq_add_mod_right 1 h)]

theorem copyIn_eq (cap : Nat) {bs : List UInt8} (h : pos + bs.length ≤ cap) :
    (copyIn pos bs : Prog (SpscRing w) Unit) = copyInto cap pos bs := by
  induction bs generalizing pos with
  | nil => rfl
  | cons b bs ih =>
    rw [List.length_cons] at h
    rw [copyIn, copyInto, Nat.mod_eq_of_lt (by omega), ih (by omega)]
    rfl

/-- The two copies of `write`, the second one from the start of the storage. -/
theorem copyIn_seam {src : List UInt8} {n : Nat} (hcap : 0 < cap) (hsrc : n ≤ src.length)
    (hn : n ≤ cap) :
    ((copyIn (pos % cap) (src.take (min n (cap - pos % cap)))).bind fun _ =>
      copyIn 0 ((src.take n).drop (min n (cap - pos % cap))) : Prog (SpscRing w) Unit) =
      copyInto cap pos (src.take n) := by
  have hstart := Nat.mod_lt pos hcap
  generalize hs : pos % cap = start at hstart ⊢
  have hfirst : src.take (min n (cap - start)) = (src.take n).take (min n (cap - start)) := by
    rw [List.take_take, Nat.min_eq_left (Nat.min_le_left ..)]
  have hlen : (src.take n).length = n := List.length_take_of_le hsrc
  conv_rhs => rw [← List.take_append_drop (min n (cap - start)) (src.take n), copyInto_append]
  rw [hfirst, copyIn_eq cap (by rw [List.length_take, hlen]; omega)]
  have hbase : start % cap = pos % cap := by rw [← hs, Nat.mod_mod]
  rw [copyInto_congr hbase]
  congr 1
  funext _
  rw [copyIn_eq cap (by rw [List.length_drop, hlen]; omega), List.length_take, hlen,
    Nat.min_eq_left (Nat.min_le_left ..)]
  by_cases hseam : n ≤ cap - start
  · rw [Nat.min_eq_left hseam, List.drop_of_length_le hlen.le]
    rfl
  · have hend : (pos + min n (cap - start)) % cap = 0 := by
      rw [Nat.add_mod, hs, Nat.add_mod_mod, Nat.min_eq_right (by omega),
        Nat.add_sub_cancel' hstart.le, Nat.mod_self]
    exact copyInto_congr (by rw [hend, Nat.zero_mod]) _

theorem copyOutOf_add (cap pos n m : Nat) :
    (copyOutOf cap pos (n + m) : Prog (SpscRing w) (List UInt8)) =
      (copyOutOf cap pos n).bind fun front =>
        (copyOutOf cap (pos + n) m).bind fun back => .ret (front ++ back) := by
  induction n generalizing pos with
  | zero =>
    rw [Nat.zero_add]
    exact (Prog.bind_ret _).symm
  | succ n ih =>
    rw [Nat.succ_add, copyOutOf, copyOutOf, Prog.bind_assoc, ih]
    simp only [Prog.bind_assoc, Prog.ret_bind, List.cons_append, Nat.add_assoc, Nat.add_comm 1]

theorem copyOutOf_congr (h : pos % cap = pos' % cap) (n : Nat) :
    (copyOutOf cap pos n : Prog (SpscRing w) (List UInt8)) = copyOutOf cap pos' n := by
  induction n generalizing pos pos' with
  | zero => rfl
  | succ n ih => rw [copyOutOf, copyOutOf, h, ih (Nat.add_mod_eq_add_mod_right 1 h)]

theorem copyOut_eq (cap : Nat) {n : Nat} (h : pos + n ≤ cap) :
    (copyOut pos n : Prog (SpscRing w) (List UInt8)) = copyOutOf cap pos n := by
  induction n generalizing pos with
  | zero => rfl
  | succ n ih =>
    rw [copyOut, copyOutOf, Nat.mod_eq_of_lt (by omega), ih (by omega)]
    rfl

/-- The two copies of `read` and `peek`. -/
theorem copyFrom_eq {cap head : BitVec w} {n : Nat} (hcap : cap ≠ 0) (h : n ≤ cap.toNat) :
    copyFrom cap head n = copyOutOf cap.toNat head.toNat n := by
  have hstart := Nat.mod_lt head.toNat (cap_pos hcap)
  rw [copyFrom]
  simp only [Prog.bind_eq, Prog.pure_eq]
  generalize hs : head.toNat % cap.toNat = start at hstart ⊢
  rw [copyOut_eq cap.toNat (by omega), copyOut_eq cap.toNat (by omega)]
  have hbase : start % cap.toNat = head.toNat % cap.toNat := by rw [← hs, Nat.mod_mod]
  rw [copyOutOf_congr hbase]
  conv_rhs => rw [← Nat.add_sub_cancel' (Nat.min_le_left n (cap.toNat - start)), copyOutOf_add]
  congr 1
  funext front
  congr 1
  by_cases hseam : n ≤ cap.toNat - start
  · rw [Nat.min_eq_left hseam, Nat.sub_self]
    rfl
  · have hend : (head.toNat + min n (cap.toNat - start)) % cap.toNat = 0 := by
      rw [Nat.add_mod, hs, Nat.add_mod_mod, Nat.min_eq_right (by omega),
        Nat.add_sub_cancel' hstart.le, Nat.mod_self]
    exact copyOutOf_congr (by rw [hend, Nat.zero_mod]) _

end Copies

/-! ## Counters and positions -/

section Counters

variable {x y : BitVec w} {n c : Nat}

theorem toNat_advance (h : x.toNat + n < 2 ^ w) : (x + BitVec.ofNat w n).toNat = x.toNat + n := by
  rw [BitVec.toNat_add, BitVec.toNat_ofNat, Nat.add_mod_mod, Nat.mod_eq_of_lt h]

/-- A counter and its position agree modulo the capacity. -/
theorem advance_mod (h : c ∣ 2 ^ w ∨ x.toNat + n < 2 ^ w) :
    (x + BitVec.ofNat w n).toNat % c = (x.toNat + n) % c := by
  rcases h with h | h
  · rw [BitVec.toNat_add, BitVec.toNat_ofNat, Nat.add_mod_mod, Nat.mod_mod_of_dvd _ h]
  · rw [toNat_advance h]

theorem advance_sub (x y : BitVec w) : x + BitVec.ofNat w (y - x).toNat = y := by
  rw [BitVec.ofNat_toNat, BitVec.setWidth_eq, BitVec.add_comm, BitVec.sub_add_cancel]

theorem sub_advance (x y : BitVec w) (n : Nat) :
    y + BitVec.ofNat w n - x = y - x + BitVec.ofNat w n := by
  rw [BitVec.sub_eq_add_neg, BitVec.sub_eq_add_neg, BitVec.add_assoc, BitVec.add_assoc,
    BitVec.add_comm (BitVec.ofNat w n)]

/-- The distance between two counters after the front one moved on. -/
theorem toNat_advance_sub (h : (y - x).toNat + n < 2 ^ w) :
    (y + BitVec.ofNat w n - x).toNat = (y - x).toNat + n := by
  rw [sub_advance, toNat_advance h]

theorem toNat_sub_le (h : y.toNat ≤ x.toNat) : (x - y).toNat = x.toNat - y.toNat :=
  BitVec.toNat_sub_of_le (BitVec.le_def.mpr h)

end Counters

/-! ## The contents -/

/-- The bytes stored, the next one to be read first. -/
def contents (r : SpscRing w) : List UInt8 :=
  window r.buf r.cap.toNat r.head.toNat (r.tail - r.head).toNat

@[simp] theorem length_contents (r : SpscRing w) :
    (contents r).length = (r.tail - r.head).toNat := window_length ..

theorem contents_eq_nil {r : SpscRing w} (h : r.tail - r.head = 0) : contents r = [] :=
  List.eq_nil_of_length_eq_zero ((length_contents r).trans (congrArg BitVec.toNat h))

/-- The counters point where the bytes are: no more is stored than fits, and
positions do not jump between the two counters. -/
structure Sound (r : SpscRing w) : Prop where
  installed : r.cap ≠ 0
  room : (r.tail - r.head).toNat ≤ r.cap.toNat
  straight : r.cap.toNat ∣ 2 ^ w ∨ r.head.toNat ≤ r.tail.toNat

/-- Nothing stored is no jump. -/
theorem sound_drained {r : SpscRing w} (hcap : r.cap ≠ 0) (hh : r.head = r.tail) : Sound r := by
  have hlen : (r.tail - r.head).toNat = 0 := by rw [hh, BitVec.sub_self]; rfl
  refine ⟨hcap, ?_, .inr ?_⟩
  · rw [hlen]
    exact Nat.zero_le _
  · rw [hh]

/-- `tail` stands behind the stored bytes. -/
theorem Sound.tail {r : SpscRing w} (h : Sound r) :
    r.tail.toNat % r.cap.toNat = (r.head.toNat + (r.tail - r.head).toNat) % r.cap.toNat := by
  conv_lhs => rw [← advance_sub r.head r.tail]
  refine advance_mod (h.straight.imp_right fun hle => ?_)
  have hlt := r.tail.isLt
  rw [toNat_sub_le hle]
  omega

theorem run_copyInto (cap pos : Nat) (bs : List UInt8) (r : SpscRing w) :
    (copyInto cap pos bs).run r = ((), { r with buf := put r.buf cap pos bs }) := by
  induction bs generalizing pos r with
  | nil => rfl
  | cons b bs ih =>
    rw [copyInto, Prog.run_bind, Prog.run_store, ih]
    rfl

theorem run_copyOutOf (cap pos n : Nat) (r : SpscRing w) :
    (copyOutOf cap pos n).run r = (window r.buf cap pos n, r) := by
  induction n generalizing pos with
  | zero => rfl
  | succ n ih =>
    rw [copyOutOf, Prog.run_bind, Prog.run_load, Prog.run_bind, ih, window_cons]
    rfl

/-- The ring after `bs` were put behind its contents. -/
def pushed (bs : List UInt8) (r : SpscRing w) : SpscRing w :=
  { r with
    buf := put r.buf r.cap.toNat r.tail.toNat bs
    tail := r.tail + BitVec.ofNat w bs.length }

/-- The ring after `n` bytes were taken from its front. -/
def popped (n : Nat) (r : SpscRing w) : SpscRing w :=
  { r with head := r.head + BitVec.ofNat w n }

theorem popped_zero (r : SpscRing w) : popped 0 r = r := by
  rw [popped, BitVec.add_zero]

theorem popped_popped {r : SpscRing w} (n m : Nat) : popped m (popped n r) = popped (n + m) r := by
  simp only [popped, BitVec.add_assoc, BitVec.ofNat_add]

/-- `write` puts as much as fits at `tail`, wherever `tail` is. -/
theorem run_write_room {r : SpscRing w} (hcap : r.cap ≠ 0)
    (hroom : (r.tail - r.head).toNat ≤ r.cap.toNat) (src : List UInt8) :
    (write src).run r =
      let n := min src.length (r.cap.toNat - (contents r).length)
      (n, pushed (src.take n) r) := by
  have hfree : (r.cap - (r.tail - r.head)).toNat = r.cap.toNat - (contents r).length := by
    rw [toNat_sub_le hroom, length_contents]
  simp only [write, Prog.bind_eq, Prog.run_bind, run_capacity, hcap, if_false,
    Prog.run_load, hfree]
  generalize hn : min src.length (r.cap.toNat - (contents r).length) = n
  by_cases hz : n = 0
  · subst hz
    simp [pushed, put]
  · rw [if_neg hz, ← Prog.bind_assoc, copyIn_seam (cap_pos hcap) (by omega) (by omega),
      Prog.run_bind, run_copyInto, pushed, List.length_take_of_le (by omega)]
    rfl

/-- `write` puts as much as fits behind the contents. -/
theorem run_write {r : SpscRing w} (h : Sound r) (src : List UInt8) :
    (write src).run r =
      let n := min src.length (r.cap.toNat - (contents r).length)
      (n, pushed (src.take n) r) := run_write_room h.installed h.room src

/-- What there is room for is written as it is. -/
theorem run_write_whole {r : SpscRing w} (hcap : r.cap ≠ 0) (bs : List UInt8)
    (hroom : (r.tail - r.head).toNat + bs.length ≤ r.cap.toNat) :
    (write bs).run r = (bs.length, pushed bs r) := by
  have hmin : min bs.length (r.cap.toNat - (contents r).length) = bs.length := by
    rw [length_contents]
    omega
  rw [run_write_room hcap (by omega)]
  dsimp only
  rw [hmin, List.take_length]

/-- What fits is written as it is. -/
theorem run_write_fits {r : SpscRing w} (h : Sound r) (bs : List UInt8)
    (hroom : (r.tail - r.head).toNat + bs.length ≤ r.cap.toNat) :
    (write bs).run r = (bs.length, pushed bs r) := run_write_whole h.installed bs hroom

/-- What the consumer copies out is the front of the contents. -/
theorem run_copyFrom_contents {r : SpscRing w} (h : Sound r) {n : Nat}
    (hn : n ≤ (contents r).length) :
    (copyFrom r.cap r.head n).run r = ((contents r).take n, r) := by
  rw [length_contents] at hn
  rw [copyFrom_eq h.installed (hn.trans h.room), run_copyOutOf, contents, window_take _ _ _ hn]

/-- `read` takes the window at `head`, wherever `tail` is. -/
theorem run_read_window {r : SpscRing w} (hroom : (r.tail - r.head).toNat ≤ r.cap.toNat)
    {n : Nat} (hn : n ≤ (r.tail - r.head).toNat) :
    (read n).run r = (window r.buf r.cap.toNat r.head.toNat n, popped n r) := by
  rw [run_read, Nat.min_eq_left hn]
  by_cases hz : n = 0
  · subst hz
    rw [popped_zero, window_zero]
    simp only [if_true, ite_self]
  · have hcap : r.cap ≠ 0 := cap_ne_zero (by omega)
    rw [if_neg hcap, if_neg hz, copyFrom_eq hcap (hn.trans hroom), run_copyOutOf, popped]

/-- `read` takes the front of the contents. -/
theorem run_read_contents {r : SpscRing w} (h : Sound r) (n : Nat) :
    (read n).run r =
      ((contents r).take n, popped (min n (contents r).length) r) := by
  rw [run_read, if_neg h.installed, ← length_contents]
  rw [List.take_eq_take_min (l := contents r)]
  by_cases hz : min n (contents r).length = 0
  · rw [if_pos hz, hz, List.take_zero, popped, BitVec.add_zero]
  · rw [if_neg hz, run_copyFrom_contents h (Nat.min_le_right ..), popped]

/-! ## The queue they move -/

section Moves

variable {r : SpscRing w} {bs : List UInt8} {n : Nat}

theorem toNat_length_pushed (hroom : (r.tail - r.head).toNat + bs.length ≤ r.cap.toNat) :
    ((pushed bs r).tail - (pushed bs r).head).toNat = (r.tail - r.head).toNat + bs.length :=
  toNat_advance_sub (Nat.lt_of_le_of_lt hroom r.cap.isLt)

theorem contents_pushed (h : Sound r)
    (hroom : (r.tail - r.head).toNat + bs.length ≤ r.cap.toNat) :
    contents (pushed bs r) = contents r ++ bs := by
  rw [contents, toNat_length_pushed hroom, window_add]
  simp only [pushed]
  rw [put_congr h.tail, window_put_before hroom, window_put (by omega)]
  rfl

theorem Sound.pushed (h : Sound r) (hroom : (r.tail - r.head).toNat + bs.length ≤ r.cap.toNat)
    (hmax : r.cap.toNat ∣ 2 ^ w ∨ r.tail.toNat + bs.length < 2 ^ w) :
    Sound (SpscRing.pushed bs r) where
  installed := h.installed
  room := (toNat_length_pushed hroom).trans_le hroom
  straight := by
    rcases hmax with hdvd | hmax
    · exact .inl hdvd
    · refine h.straight.imp_right fun hle => ?_
      simp only [SpscRing.pushed]
      rw [toNat_advance hmax]
      omega

theorem contents_popped (h : Sound r) (hn : n ≤ (r.tail - r.head).toNat) :
    contents (popped n r) = (contents r).drop n := by
  have hstart : (r.head + BitVec.ofNat w n).toNat % r.cap.toNat =
      (r.head.toNat + n) % r.cap.toNat := by
    refine advance_mod (h.straight.imp_right fun hle => ?_)
    have hlt := r.tail.isLt
    rw [toNat_sub_le hle] at hn
    omega
  rw [contents, contents, window_drop _ _ _ hn, popped, toNat_sub_advance hn,
    window_congr hstart]

theorem Sound.popped (h : Sound r) (hn : n ≤ (r.tail - r.head).toNat) :
    Sound (SpscRing.popped n r) where
  installed := h.installed
  room := by
    have hroom := h.room
    simp only [SpscRing.popped]
    rw [toNat_sub_advance hn]
    omega
  straight := by
    refine h.straight.imp_right fun hle => ?_
    have hlt := r.tail.isLt
    rw [toNat_sub_le hle] at hn
    simp only [SpscRing.popped]
    rw [toNat_advance (by omega)]
    omega

end Moves

end SpscRing

end Wiznet
