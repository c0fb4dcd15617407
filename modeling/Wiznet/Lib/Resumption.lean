import Mathlib

/-! # Resumptions: programs as sequences of atomic steps on a shared state

A program is either finished with a value or one atomic step away from the
program that follows. Running it to completion is the sequential meaning;
stopping it after any number of steps, changing the state and running the rest
is the meaning under preemption. One definition of a routine serves both. -/

namespace Resumption

/-- `act` is what the step does to the shared state; `next` sees the state
before the step, so a step can read and write at once. -/
inductive Prog (S α : Type) where
  | ret (value : α)
  | step (act : S → S) (next : S → Prog S α)

variable {S T σ α β γ ε : Type}

namespace Prog

def bind : Prog S α → (α → Prog S β) → Prog S β
  | .ret a, f => f a
  | .step act next, f => .step act fun s => (next s).bind f

instance : Monad (Prog S) where
  pure := .ret
  bind := bind

/-- Run to completion with nobody else moving. -/
def run : Prog S α → S → α × S
  | .ret a, s => (a, s)
  | .step act next, s => (next s).run (act s)

/-- One step that reads and writes the state at once. -/
def atom (f : S → α × S) : Prog S α := .step (fun s => (f s).2) fun s => .ret (f s).1

def load (f : S → α) : Prog S α := .step id fun s => .ret (f s)

def store (f : S → S) : Prog S Unit := .step f fun _ => .ret ()

@[simp] theorem bind_eq (p : Prog S α) (f : α → Prog S β) : p >>= f = p.bind f := rfl
@[simp] theorem pure_eq (a : α) : (pure a : Prog S α) = .ret a := rfl
@[simp] theorem ret_bind (a : α) (f : α → Prog S β) : (Prog.ret a : Prog S α).bind f = f a := rfl

theorem bind_ret (p : Prog S α) : p.bind .ret = p := by
  induction p with
  | ret a => rfl
  | step act next ih => simp only [bind, ih]

theorem bind_assoc (p : Prog S α) (f : α → Prog S β) (g : β → Prog S γ) :
    (p.bind f).bind g = p.bind fun a => (f a).bind g := by
  induction p with
  | ret a => rfl
  | step act next ih => simp only [bind, ih]

instance : LawfulMonad (Prog S) :=
  LawfulMonad.mk' (Prog S) (fun p => bind_ret p) (fun _ _ => rfl) fun p f g => bind_assoc p f g

@[simp] theorem run_ret (a : α) (s : S) : (Prog.ret a : Prog S α).run s = (a, s) := rfl
@[simp] theorem run_atom (f : S → α × S) (s : S) : (atom f).run s = f s := rfl
@[simp] theorem run_load (f : S → α) (s : S) : (load f).run s = (f s, s) := rfl
@[simp] theorem run_store (f : S → S) (s : S) : (store f).run s = ((), f s) := rfl

@[simp] theorem run_bind (p : Prog S α) (f : α → Prog S β) (s : S) :
    (p.bind f).run s = (f (p.run s).1).run (p.run s).2 := by
  induction p generalizing s with
  | ret a => rfl
  | step act next ih => simp only [bind, run, ih]

end Prog

/-! ## Working on a part of the state -/

/-- A part of a state that can be read and replaced on its own. -/
structure Lens (S T : Type) where
  get : S → T
  set : T → S → S
  get_set : ∀ t s, get (set t s) = t
  set_get : ∀ s, set (get s) s = s
  set_set : ∀ t t' s, set t (set t' s) = set t s

attribute [simp] Lens.get_set Lens.set_get Lens.set_set

namespace Lens

variable {U : Type}

def fst : Lens (S × T) S where
  get s := s.1
  set t s := (t, s.2)
  get_set _ _ := rfl
  set_get _ := rfl
  set_set _ _ _ := rfl

def snd : Lens (S × T) T where
  get s := s.2
  set t s := (s.1, t)
  get_set _ _ := rfl
  set_get _ := rfl
  set_set _ _ _ := rfl

/-- The whole state as a part of itself. -/
def refl : Lens S S where
  get s := s
  set t _ := t
  get_set _ _ := rfl
  set_get _ := rfl
  set_set _ _ _ := rfl

def comp (outer : Lens S T) (inner : Lens T U) : Lens S U where
  get s := inner.get (outer.get s)
  set u s := outer.set (inner.set u (outer.get s)) s
  get_set _ _ := by simp
  set_get _ := by simp
  set_set _ _ _ := by simp

@[simp] theorem fst_get (s : S × T) : fst.get s = s.1 := rfl
@[simp] theorem fst_set (t : S) (s : S × T) : fst.set t s = (t, s.2) := rfl
@[simp] theorem snd_get (s : S × T) : snd.get s = s.2 := rfl
@[simp] theorem snd_set (t : T) (s : S × T) : snd.set t s = (s.1, t) := rfl
@[simp] theorem comp_get (outer : Lens S T) (inner : Lens T U) (s : S) :
    (outer.comp inner).get s = inner.get (outer.get s) := rfl
@[simp] theorem comp_set (outer : Lens S T) (inner : Lens T U) (u : U) (s : S) :
    (outer.comp inner).set u s = outer.set (inner.set u (outer.get s)) s := rfl

end Lens

namespace Prog

/-- Run a program about a part of the state on the whole state. -/
def zoom (l : Lens S T) : Prog T α → Prog S α
  | .ret a => .ret a
  | .step act next => .step (fun s => l.set (act (l.get s)) s) fun s => (next (l.get s)).zoom l

@[simp] theorem run_zoom (l : Lens S T) (p : Prog T α) (s : S) :
    (p.zoom l).run s = ((p.run (l.get s)).1, l.set (p.run (l.get s)).2 s) := by
  induction p generalizing s with
  | ret a => simp [zoom]
  | step act next ih => simp [zoom, run, ih]

/-- Keep a part of the state private to the program: nobody else sees it, and
its final value is returned. -/
def withLocal : Prog (σ × S) α → σ → Prog S (α × σ)
  | .ret a, v => .ret (a, v)
  | .step act next, v => .step (fun s => (act (v, s)).2) fun s =>
      (next (v, s)).withLocal (act (v, s)).1

@[simp] theorem run_withLocal (p : Prog (σ × S) α) (v : σ) (s : S) :
    (p.withLocal v).run s = (((p.run (v, s)).1, (p.run (v, s)).2.1), (p.run (v, s)).2.2) := by
  induction p generalizing v s with
  | ret a => rfl
  | step act next ih => simp only [withLocal, run, ih]

end Prog

/-! ## Fallible programs -/

/-- A program that may stop with an error; what it did to the state stays. -/
abbrev Code (ε S α : Type) := ExceptT ε (Prog S) α

namespace Code

def exec (c : Code ε S α) (s : S) : Except ε α × S := Prog.run (ExceptT.run c) s

/-- One fallible step. -/
def attempt (f : S → Except ε α × S) : Code ε S α := ExceptT.mk (Prog.atom f)

/-- A program that cannot fail. -/
def always (p : Prog S α) : Code ε S α := ExceptT.lift p

/-- The outcome of `c` as a value, an error included. -/
def outcome (c : Code ε S α) : Code ε S (Except ε α) := always (ExceptT.run c)

def zoom (l : Lens S T) (c : Code ε T α) : Code ε S α := ExceptT.mk (Prog.zoom l (ExceptT.run c))

/-- `c` first, and `f` if it succeeds. -/
theorem run_bind_eq (c : Code ε S α) (f : α → Code ε S β) :
    ExceptT.run (c >>= f) = (ExceptT.run c).bind fun
      | .ok a => ExceptT.run (f a)
      | .error e => .ret (.error e) := by
  rw [ExceptT.run_bind, Prog.bind_eq]
  congr 1
  funext r
  cases r <;> rfl

@[simp] theorem exec_pure (a : α) (s : S) : exec (pure a : Code ε S α) s = (.ok a, s) := rfl

@[simp] theorem exec_throw (e : ε) (s : S) :
    exec (throw e : Code ε S α) s = (.error e, s) := rfl

theorem exec_bind (c : Code ε S α) (f : α → Code ε S β) (s : S) :
    exec (c >>= f) s = match exec c s with
      | (.ok a, s') => exec (f a) s'
      | (.error e, s') => (.error e, s') := by
  simp only [exec, ExceptT.run_bind, Prog.bind_eq, Prog.run_bind]
  cases h : Prog.run (ExceptT.run c) s with
  | mk r s' => cases r <;> rfl

theorem exec_bind_ok {c : Code ε S α} {f : α → Code ε S β} {s s' : S} {a : α}
    (h : exec c s = (.ok a, s')) : exec (c >>= f) s = exec (f a) s' := by rw [exec_bind, h]

theorem exec_bind_error {c : Code ε S α} {f : α → Code ε S β} {s s' : S} {e : ε}
    (h : exec c s = (.error e, s')) : exec (c >>= f) s = (.error e, s') := by rw [exec_bind, h]

/-- A run of two programs that comes to its end went through both. -/
theorem exec_bind_eq_ok {c : Code ε S α} {f : α → Code ε S β} {s s' : S} {b : β} :
    exec (c >>= f) s = (.ok b, s') ↔
      ∃ a s₁, exec c s = (.ok a, s₁) ∧ exec (f a) s₁ = (.ok b, s') := by
  rw [exec_bind]
  rcases exec c s with ⟨e | a, s₁⟩
  · simp
  · simp

@[simp] theorem exec_map (f : α → β) (c : Code ε S α) (s : S) :
    exec (f <$> c) s = ((exec c s).1.map f, (exec c s).2) := by
  rw [← bind_pure_comp, exec_bind]
  cases exec c s with
  | mk r s' => cases r <;> rfl

@[simp] theorem exec_attempt (f : S → Except ε α × S) (s : S) : exec (attempt f) s = f s := rfl

@[simp] theorem exec_always (p : Prog S α) (s : S) :
    exec (always p : Code ε S α) s = (.ok (p.run s).1, (p.run s).2) := by
  simp only [exec, always, ExceptT.run_lift, ← bind_pure_comp, Prog.bind_eq, Prog.run_bind]
  rfl

@[simp] theorem exec_outcome (c : Code ε S α) (s : S) :
    exec (outcome c : Code ε S (Except ε α)) s = (.ok (exec c s).1, (exec c s).2) := by
  rw [outcome, exec_always]; rfl

@[simp] theorem exec_zoom (l : Lens S T) (c : Code ε T α) (s : S) :
    exec (c.zoom l) s = ((exec c (l.get s)).1, l.set (exec c (l.get s)).2 s) := by
  simp [exec, zoom, ExceptT.run, ExceptT.mk]

end Code

end Resumption
