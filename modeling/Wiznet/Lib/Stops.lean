import Wiznet.Lib.Resumption

/-! # Programs stopped on their way

A program stopped after some of its steps goes on from whatever the state is by
then. -/

namespace Resumption

variable {S T α β : Type}

namespace Prog

/-- What is left of a program after `n` steps that nobody disturbs, and the state
by then. -/
def stop : Nat → Prog S α → S → Prog S α × S
  | 0, p, s => (p, s)
  | _ + 1, .ret a, s => (.ret a, s)
  | n + 1, .step act next, s => stop n (next s) (act s)

@[simp] theorem stop_ret (n : Nat) (a : α) (s : S) : stop n (.ret a) s = (.ret a, s) := by
  cases n <;> rfl

theorem stop_add (m n : Nat) (p : Prog S α) (s : S) :
    stop (m + n) p s = stop n (stop m p s).1 (stop m p s).2 := by
  induction m generalizing p s with
  | zero => rw [Nat.zero_add, stop]
  | succ m ih =>
    rw [Nat.add_right_comm]
    cases p with
    | ret a => simp only [stop_ret]
    | step act next => exact ih _ _

theorem stop_run (n : Nat) (p : Prog S α) (s : S) :
    (stop n p s).1.run (stop n p s).2 = p.run s := by
  induction n generalizing p s with
  | zero => rfl
  | succ n ih =>
    cases p with
    | ret a => rfl
    | step act next => exact ih _ _

/-- Stopped in the first of two programs, which has not come to its end, or in the
second. -/
theorem stop_bind (n : Nat) (p : Prog S α) (q : α → Prog S β) (s : S) :
    (∃ act next, (stop n p s).1 = .step act next ∧
      stop n (p.bind q) s = ((stop n p s).1.bind q, (stop n p s).2)) ∨
      ∃ m, stop n (p.bind q) s = stop m (q (p.run s).1) (p.run s).2 := by
  induction n generalizing p s with
  | zero =>
    cases p with
    | ret a => exact .inr ⟨0, rfl⟩
    | step act next => exact .inl ⟨act, next, rfl, rfl⟩
  | succ n ih =>
    cases p with
    | ret a => exact .inr ⟨n + 1, rfl⟩
    | step act next => exact ih _ _

theorem stop_zoom (l : Lens S T) (n : Nat) (p : Prog T α) (s : S) :
    stop n (p.zoom l) s = ((stop n p (l.get s)).1.zoom l, l.set (stop n p (l.get s)).2 s) := by
  induction n generalizing p s with
  | zero => simp [stop]
  | succ n ih =>
    cases p with
    | ret a => simp [stop, zoom]
    | step act next => simp [stop, zoom, ih]

/-- Stores, one after the other. -/
def stores : List (S → S) → α → Prog S α
  | [], a => .ret a
  | act :: acts, a => .step act fun _ => stores acts a

theorem stop_stores (n : Nat) (acts : List (S → S)) (a : α) (s : S) :
    stop n (stores acts a) s =
      (stores (acts.drop n) a, (acts.take n).foldl (fun s act => act s) s) := by
  induction acts generalizing n s with
  | nil => simp [stores]
  | cons act acts ih =>
    cases n with
    | zero => rfl
    | succ n => exact ih n (act s)

end Prog

end Resumption
