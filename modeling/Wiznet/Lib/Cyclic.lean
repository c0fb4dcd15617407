import Mathlib

/-! # Windows of a cyclic store

Cells are addressed by free-running positions taken modulo the capacity. A
window is a run of positions; two windows that together span at most one
capacity do not share a cell. -/

namespace Cyclic

variable {α : Type} {cells : Nat → α} {cap pos n m : Nat} {a : α}

/-- The `n` cells from position `pos` on. -/
def window (cells : Nat → α) (cap pos n : Nat) : List α :=
  (List.range n).map fun i => cells ((pos + i) % cap)

@[simp] theorem window_length (cells : Nat → α) (cap pos n : Nat) :
    (window cells cap pos n).length = n := by simp [window]

@[simp] theorem window_zero (cells : Nat → α) (cap pos : Nat) : window cells cap pos 0 = [] := rfl

theorem window_add (cells : Nat → α) (cap pos n m : Nat) :
    window cells cap pos (n + m) = window cells cap pos n ++ window cells cap (pos + n) m := by
  simp [window, List.range_add, Nat.add_assoc]

theorem window_succ (cells : Nat → α) (cap pos n : Nat) :
    window cells cap pos (n + 1) = window cells cap pos n ++ [cells ((pos + n) % cap)] := by
  rw [window_add]
  rfl

theorem window_cons (cells : Nat → α) (cap pos n : Nat) :
    window cells cap pos (n + 1) = cells (pos % cap) :: window cells cap (pos + 1) n := by
  rw [Nat.add_comm n, window_add]
  rfl

theorem window_take (cells : Nat → α) (cap pos : Nat) (h : n ≤ m) :
    (window cells cap pos m).take n = window cells cap pos n := by
  obtain ⟨k, rfl⟩ := Nat.exists_eq_add_of_le h
  rw [window_add, List.take_left' (window_length ..)]

theorem window_drop (cells : Nat → α) (cap pos : Nat) (h : n ≤ m) :
    (window cells cap pos m).drop n = window cells cap (pos + n) (m - n) := by
  obtain ⟨k, rfl⟩ := Nat.exists_eq_add_of_le h
  rw [window_add, List.drop_left' (window_length ..), Nat.add_sub_cancel_left]

/-- Only the position modulo the capacity counts. -/
theorem window_congr {pos' : Nat} (h : pos % cap = pos' % cap) (n : Nat) :
    window cells cap pos n = window cells cap pos' n := by
  refine List.map_congr_left fun i _ => ?_
  rw [Nat.add_mod, h, ← Nat.add_mod]

/-- Positions less than one capacity apart have cells of their own. -/
theorem index_ne (h : n < m) (hm : m < n + cap) : (pos + n) % cap ≠ (pos + m) % cap := by
  intro heq
  have hdvd : cap ∣ pos + m - (pos + n) :=
    Nat.dvd_of_mod_eq_zero (Nat.sub_mod_eq_zero_of_mod_eq heq.symm)
  have hle := Nat.le_of_dvd (by omega) hdvd
  omega

/-- A write behind a window that leaves it room does not touch it. -/
theorem window_update (cells : Nat → α) (pos : Nat) (a : α) (hn : n ≤ m) (hm : m < cap) :
    window (Function.update cells ((pos + m) % cap) a) cap pos n = window cells cap pos n := by
  refine List.map_congr_left fun i hi => ?_
  have hlt := List.mem_range.mp hi
  rw [Function.update_of_ne (index_ne (by omega) (by omega))]

/-- A write right behind a window extends it. -/
theorem window_update_succ (cells : Nat → α) (pos : Nat) (a : α) (hn : n < cap) :
    window (Function.update cells ((pos + n) % cap) a) cap pos (n + 1) =
      window cells cap pos n ++ [a] := by
  rw [window_succ, window_update cells pos a (Nat.le_refl n) hn, Function.update_self]

/-- Two stores have the same window where they have the same cells. -/
theorem window_eq_window {cells' : Nat → α} :
    window cells' cap pos n = window cells cap pos n ↔
      ∀ j < n, cells' ((pos + j) % cap) = cells ((pos + j) % cap) := by
  simp only [window, List.map_inj_left, List.mem_range]

/-! ## Writing a run -/

/-- Put `bytes` at the positions from `pos` on. -/
def put (cells : Nat → α) (cap pos : Nat) : List α → Nat → α
  | [] => cells
  | a :: bytes => put (Function.update cells (pos % cap) a) cap (pos + 1) bytes

variable {bytes : List α}

theorem put_congr {pos' : Nat} (h : pos % cap = pos' % cap) (cells : Nat → α) (bytes : List α) :
    put cells cap pos bytes = put cells cap pos' bytes := by
  induction bytes generalizing cells pos pos' with
  | nil => rfl
  | cons a bytes ih => rw [put, put, h, ih (Nat.add_mod_eq_add_mod_right 1 h)]

theorem put_append (cells : Nat → α) (cap pos : Nat) (front back : List α) :
    put cells cap pos (front ++ back) =
      put (put cells cap pos front) cap (pos + front.length) back := by
  induction front generalizing cells pos with
  | nil => rfl
  | cons a front ih =>
    rw [List.cons_append, put, put, ih, List.length_cons, Nat.add_assoc, Nat.add_comm 1]

/-- The last element written stays. -/
theorem put_last (cells : Nat → α) (cap pos : Nat) (front : List α) (a : α) :
    put cells cap pos (front ++ [a]) ((pos + front.length) % cap) = a := by
  rw [put_append, put, put, Function.update_self]

theorem window_put_before (h : n + bytes.length ≤ cap) :
    window (put cells cap (pos + n) bytes) cap pos n = window cells cap pos n := by
  suffices hs : ∀ (k : Nat) (cells : Nat → α), n ≤ k → k + bytes.length ≤ cap →
      window (put cells cap (pos + k) bytes) cap pos n = window cells cap pos n from
    hs n cells (Nat.le_refl n) h
  clear h
  induction bytes with
  | nil => intro k cells _ _; rfl
  | cons a bytes ih =>
    intro k cells hk hlen
    rw [List.length_cons] at hlen
    rw [put, Nat.add_assoc, ih (k + 1) _ (by omega) (by omega), window_update cells pos a hk (by omega)]

theorem window_put (h : bytes.length ≤ cap) :
    window (put cells cap pos bytes) cap pos bytes.length = bytes := by
  induction bytes generalizing cells pos with
  | nil => rfl
  | cons a bytes ih =>
    rw [List.length_cons] at h
    have hfirst : window (put (Function.update cells (pos % cap) a) cap (pos + 1) bytes) cap pos 1 =
        [a] := by
      rw [window_put_before (by omega), window, List.range_one, List.map_singleton,
        Nat.add_zero, Function.update_self]
    rw [put, List.length_cons, Nat.add_comm bytes.length, window_add, hfirst, ih (by omega)]
    rfl

/-- What stands in a cell that was written. -/
theorem put_self {j : Nat} (h : bytes.length ≤ cap) (hj : j < bytes.length) :
    put cells cap pos bytes ((pos + j) % cap) = bytes[j] := by
  have hwindow : window (put cells cap pos bytes) cap pos bytes.length = bytes := window_put h
  have hget := congrArg (·[j]?) hwindow
  simpa [window, hj] using hget

/-- The other cells are left alone. -/
theorem put_of_ne {i : Nat} (h : ∀ j < bytes.length, i ≠ (pos + j) % cap) :
    put cells cap pos bytes i = cells i := by
  induction bytes generalizing cells pos with
  | nil => rfl
  | cons a bytes ih =>
    have hfirst : i ≠ pos % cap := h 0 (Nat.zero_lt_succ _)
    rw [put, ih, Function.update_of_ne hfirst]
    intro j hj
    rw [Nat.add_assoc, Nat.add_comm 1]
    exact h (j + 1) (Nat.succ_lt_succ hj)

end Cyclic
