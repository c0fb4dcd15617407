import Wiznet.SpscRing

/-! # The ring when nobody interferes -/

namespace Wiznet
open Resumption

variable {w : Nat}

namespace SpscRing

/-! ## Free-running counters -/

/-- A counter that moves less than once around ends somewhere else. -/
theorem advance_ne {x : BitVec w} {n : Nat} (h0 : 0 < n) (hn : n < 2 ^ w) :
    x + BitVec.ofNat w n ≠ x := by
  intro h
  have hz := congrArg BitVec.toNat (BitVec.add_right_eq_self.mp h)
  rw [BitVec.toNat_ofNat, Nat.mod_eq_of_lt hn, BitVec.toNat_zero] at hz
  omega

/-- The distance left after a counter moved towards another. -/
theorem toNat_sub_advance {t h : BitVec w} {n : Nat} (hn : n ≤ (t - h).toNat) :
    (t - (h + BitVec.ofNat w n)).toNat = (t - h).toNat - n := by
  have hmod : (BitVec.ofNat w n).toNat = n := by
    rw [BitVec.toNat_ofNat]
    exact Nat.mod_eq_of_lt (Nat.lt_of_le_of_lt hn (t - h).isLt)
  rw [← BitVec.sub_sub, BitVec.toNat_sub_of_le (by rw [BitVec.le_def, hmod]; exact hn), hmod]

/-! ## The operations -/

theorem run_len (r : SpscRing w) : len.run r = (r.tail - r.head, r) := rfl

theorem run_capacity (r : SpscRing w) : capacity.run r = (r.cap, r) := rfl

theorem run_free (r : SpscRing w) : free.run r = (r.cap - (r.tail - r.head), r) := rfl

theorem run_frames (r : SpscRing w) : frames.run r = (r.framesIn - r.framesOut, r) := rfl

theorem run_copyOut (i n : Nat) (r : SpscRing w) :
    (copyOut i n).run r = ((List.range' i n).map r.buf, r) := by
  induction n generalizing i with
  | zero => rfl
  | succ n ih => simp [copyOut, List.range'_succ, ih]

theorem run_copyFrom (cap head : BitVec w) (n : Nat) (r : SpscRing w) :
    (copyFrom cap head n).run r =
      ((List.range' (head.toNat % cap.toNat) (min n (cap.toNat - head.toNat % cap.toNat))).map
          r.buf ++
        (List.range' 0 (n - min n (cap.toNat - head.toNat % cap.toNat))).map r.buf, r) := by
  simp [copyFrom, run_copyOut]

theorem length_run_copyFrom (cap head : BitVec w) (n : Nat) (r : SpscRing w) :
    ((copyFrom cap head n).run r).1.length = n := by
  simp only [run_copyFrom, List.length_append, List.length_map, List.length_range']
  omega

theorem run_read (n : Nat) (r : SpscRing w) :
    (read n).run r =
      if r.cap = 0 then ([], r)
      else if min n (r.tail - r.head).toNat = 0 then ([], r)
      else (((copyFrom r.cap r.head (min n (r.tail - r.head).toNat)).run r).1,
        { r with head := r.head + BitVec.ofNat w (min n (r.tail - r.head).toNat) }) := by
  simp only [read, Prog.bind_eq, Prog.run_bind, run_capacity]
  by_cases hc : r.cap = 0
  · simp only [hc, if_true, Prog.pure_eq, Prog.run_ret]
  · simp only [hc, if_false, Prog.run_bind, Prog.run_load]
    by_cases hn : min n (r.tail - r.head).toNat = 0
    · simp only [hn, if_true, Prog.pure_eq, Prog.run_ret]
    · simp only [hn, if_false, Prog.run_bind, run_copyFrom, Prog.run_store,
        Prog.pure_eq, Prog.run_ret]

theorem length_run_read (n : Nat) (r : SpscRing w) : ((read n).run r).1.length ≤ n := by
  rw [run_read]
  split
  · exact Nat.zero_le _
  · split
    · exact Nat.zero_le _
    · rw [length_run_copyFrom]
      exact Nat.min_le_left ..

theorem run_peek (n : Nat) (r : SpscRing w) : (peek n).run r = (((read n).run r).1, r) := by
  rw [run_read]
  simp only [peek, Prog.bind_eq, Prog.run_bind, run_capacity]
  by_cases hc : r.cap = 0
  · simp only [hc, if_true, Prog.pure_eq, Prog.run_ret]
  · simp only [hc, if_false, Prog.run_bind, Prog.run_load]
    by_cases hm : min n (r.tail - r.head).toNat = 0
    · simp only [hm, if_true, Prog.pure_eq, Prog.run_ret]
    · simp only [hm, if_false, run_copyFrom]

end SpscRing

end Wiznet
