import Wiznet.Lib.Observer
import Wiznet.Lib.Stops

/-! # The way of a run

What holds of every state of a run, what its steps do, and how much of the state
they see. A program that is stopped on its way keeps all three. -/

namespace Resumption

variable {S T U α β ε : Type}

namespace Prog

/-- `C` holds of every state of the run from `s`. -/
def Along (C : S → Prop) : Prog S α → S → Prop
  | .ret _, s => C s
  | .step act next, s => C s ∧ Along C (next s) (act s)

section Along

variable {C : S → Prop} {s : S}

theorem Along.start {p : Prog S α} (h : Along C p s) : C s := by
  cases p with
  | ret a => exact h
  | step act next => exact h.1

theorem Along.final {p : Prog S α} (h : Along C p s) : C (p.run s).2 := by
  induction p generalizing s with
  | ret a => exact h
  | step act next ih => exact ih s h.2

theorem along_bind {p : Prog S α} {q : α → Prog S β} :
    Along C (p.bind q) s ↔ Along C p s ∧ Along C (q (p.run s).1) (p.run s).2 := by
  induction p generalizing s with
  | ret a => exact ⟨fun h => ⟨h.start, h⟩, And.right⟩
  | step act next ih => simp only [bind, Along, run, ih, and_assoc]

theorem along_zoom (l : Lens S T) {p : Prog T α} :
    Along C (p.zoom l) s ↔ Along (fun t => C (l.set t s)) p (l.get s) := by
  suffices h : ∀ t, Along C (p.zoom l) (l.set t s) ↔ Along (fun t => C (l.set t s)) p t by
    rw [← h, l.set_get]
  intro t
  induction p generalizing t with
  | ret a => rfl
  | step act next ih => simp only [zoom, Along, l.get_set, l.set_set, ih]

end Along

/-! ## Steps -/

/-- The steps that a run from `s` takes are steps of `R`. -/
def Follows (R : S → S → Prop) : Prog S α → S → Prop
  | .ret _, _ => True
  | .step act next, s => R s (act s) ∧ Follows R (next s) (act s)

section Follows

variable {R R' : S → S → Prop} {C : S → Prop} {p : Prog S α} {s : S}

theorem follows_bind {q : α → Prog S β} :
    Follows R (p.bind q) s ↔ Follows R p s ∧ Follows R (q (p.run s).1) (p.run s).2 := by
  induction p generalizing s with
  | ret a => exact ⟨fun h => ⟨trivial, h⟩, And.right⟩
  | step act next ih => simp only [bind, Follows, run, ih, and_assoc]

theorem follows_zoom (l : Lens S T) {p : Prog T α} :
    Follows R (p.zoom l) s ↔ Follows (fun t t' => R (l.set t s) (l.set t' s)) p (l.get s) := by
  suffices h : ∀ t, Follows R (p.zoom l) (l.set t s) ↔
      Follows (fun t t' => R (l.set t s) (l.set t' s)) p t by
    rw [← h, l.set_get]
  intro t
  induction p generalizing t with
  | ret a => rfl
  | step act next ih => simp only [zoom, Follows, l.get_set, l.set_set, ih]

/-- A program about a part, if every change of the part is a step of `R`. -/
theorem Follows.zoom {l : Lens S T} (hR : ∀ t s, R s (l.set t s)) (p : Prog T α) (s : S) :
    Follows R (p.zoom l) s := by
  induction p generalizing s with
  | ret a => trivial
  | step act next ih => exact ⟨hR _ s, ih _ _⟩

theorem Follows.mono (h : Follows R p s) (hR : ∀ s s', R s s' → R' s s') : Follows R' p s := by
  induction p generalizing s with
  | ret a => trivial
  | step act next ih => exact ⟨hR _ _ h.1, ih s h.2⟩

/-- What the steps of `R` do not give up holds before every one of them. -/
theorem Follows.under (h : Follows R p s) (hC : ∀ s s', R s s' → C s → C s') (hs : C s) :
    Follows (fun s s' => C s ∧ R s s') p s := by
  induction p generalizing s with
  | ret a => trivial
  | step act next ih => exact ⟨⟨hs, h.1⟩, ih s h.2 (hC _ _ h.1 hs)⟩

theorem Follows.stop (h : Follows R p s) (n : Nat) : Follows R (stop n p s).1 (stop n p s).2 := by
  induction n generalizing p s with
  | zero => exact h
  | succ n ih =>
    cases p with
    | ret a => exact h
    | step act next => exact ih h.2

/-- What no step gives up is there to the end. -/
theorem Follows.along (h : Follows (fun s s' => C s → C s') p s) (hs : C s) : Along C p s := by
  induction p generalizing s with
  | ret a => exact hs
  | step act next ih => exact ⟨hs, ih s h.2 (h.1 hs)⟩

theorem Follows.persists (h : Follows (fun s s' => C s → C s') p s) (hs : C s) (n : Nat) :
    C (Prog.stop n p s).2 := by
  induction n generalizing p s with
  | zero => exact hs
  | succ n ih =>
    cases p with
    | ret a => exact hs
    | step act next => exact ih h.2 (h.1 hs)

end Follows

/-- An observer who looks out for a step that is none of `R`. -/
def breaks (R : S → S → Prop) [DecidableRel R] (hR : ∀ s, R s s) : Observer S Bool where
  note s s' g := g || !decide (R s s')
  note_self s g := by simp [hR s]

section Breaks

variable {R : S → S → Prop} [DecidableRel R] {hR : ∀ s, R s s}

theorem breaks_note (s s' : S) (g : Bool) :
    (breaks R hR).note s s' g = (g || !decide (R s s')) := rfl

/-- Where none was seen, all steps were steps of `R`. -/
theorem follows_of_watch {p : Prog S α} {s : S} {g : Bool}
    (h : ((p.watch (breaks R hR)).run (s, g)).2.2 = false) : g = false ∧ Follows R p s := by
  induction p generalizing s g with
  | ret a => exact ⟨h, trivial⟩
  | step act next ih =>
    obtain ⟨hg, hnext⟩ := ih s h
    simp only [breaks_note, Bool.or_eq_false_iff, Bool.not_eq_false', decide_eq_true_eq] at hg
    exact ⟨hg.1, hg.2, hnext⟩

end Breaks

/-! ## Sight -/

/-- The program sees no more of the state than `f` shows, and so does what `f` shows
of its steps. -/
def SeesOnly (f : S → T) : Prog S α → Prop
  | .ret _ => True
  | .step act next => (∀ s s', f s = f s' → f (act s) = f (act s') ∧ next s = next s') ∧
      ∀ s, SeesOnly f (next s)

section SeesOnly

variable {f : S → T} {p : Prog S α} {s s' : S}

theorem SeesOnly.bind {q : α → Prog S β} (hp : p.SeesOnly f) (hq : ∀ a, (q a).SeesOnly f) :
    (p.bind q).SeesOnly f := by
  induction p with
  | ret a => exact hq a
  | step act next ih =>
    refine ⟨fun s s' h => ?_, fun s => ih s (hp.2 s)⟩
    obtain ⟨hact, hnext⟩ := hp.1 s s' h
    exact ⟨hact, congrArg (Prog.bind · q) hnext⟩

theorem SeesOnly.zoom {l : Lens S U} (hget : ∀ s s', f s = f s' → l.get s = l.get s')
    (hset : ∀ u s s', f s = f s' → f (l.set u s) = f (l.set u s')) (p : Prog U α) :
    (p.zoom l).SeesOnly f := by
  induction p with
  | ret a => trivial
  | step act next ih =>
    refine ⟨fun s s' h => ?_, fun s => ih _⟩
    dsimp only
    rw [hget s s' h]
    exact ⟨hset _ s s' h, rfl⟩

theorem SeesOnly.rest (hp : p.SeesOnly f) (n : Nat) (s : S) : (stop n p s).1.SeesOnly f := by
  induction n generalizing p s with
  | zero => exact hp
  | succ n ih =>
    cases p with
    | ret a => exact hp
    | step act next => exact ih (hp.2 s) _

/-- Two states that look alike go through states that look alike. -/
theorem SeesOnly.along {C : S → Prop} (hC : ∀ s s', f s = f s' → C s → C s') (hp : p.SeesOnly f)
    (h : f s = f s') (hs : Along C p s) : Along C p s' := by
  induction p generalizing s s' with
  | ret a => exact hC s s' h hs
  | step act next ih =>
    obtain ⟨hact, hnext⟩ := hp.1 s s' h
    refine ⟨hC s s' h hs.1, ?_⟩
    rw [← hnext]
    exact ih s (hp.2 s) hact hs.2

theorem SeesOnly.run (hp : p.SeesOnly f) (h : f s = f s') : f (p.run s).2 = f (p.run s').2 := by
  induction p generalizing s s' with
  | ret a => exact h
  | step act next ih =>
    obtain ⟨hact, hnext⟩ := hp.1 s s' h
    rw [Prog.run, Prog.run, hnext]
    exact ih s' (hp.2 s') hact

end SeesOnly

end Prog

/-! ## Fallible programs -/

namespace Code

theorem run_always_bind (p : Prog S α) (f : α → Code ε S β) :
    ExceptT.run (always p >>= f) = p.bind fun a => ExceptT.run (f a) := by
  rw [run_bind_eq]
  exact Prog.bind_assoc p _ _

theorem run_outcome_bind (c : Code ε S α) (f : Except ε α → Code ε S β) :
    ExceptT.run (outcome c >>= f) = (ExceptT.run c).bind fun r => ExceptT.run (f r) :=
  run_always_bind _ f

/-- Whatever state it is run from, its steps are steps of `R`. -/
def Follows (R : S → S → Prop) (c : Code ε S α) : Prop := ∀ s, Prog.Follows R (ExceptT.run c) s

/-- It follows `R`, and sees no more than `f` shows. -/
structure Confined (R : S → S → Prop) (f : S → T) (c : Code ε S α) : Prop where
  follows : c.Follows R
  seesOnly : Prog.SeesOnly f (ExceptT.run c)

section Rules

variable {R : S → S → Prop} {f : S → T} {c : Code ε S α} {d : α → Code ε S β}

theorem Follows.pure (a : α) : (Pure.pure a : Code ε S α).Follows R := fun _ => trivial

theorem Follows.bind (hc : c.Follows R) (hd : ∀ a, (d a).Follows R) : (c >>= d).Follows R := by
  intro s
  rw [run_bind_eq]
  refine Prog.follows_bind.mpr ⟨hc s, ?_⟩
  split
  · exact hd _ _
  · trivial

theorem Follows.always {p : Prog S α} (h : ∀ s, Prog.Follows R p s) :
    (always p : Code ε S α).Follows R :=
  fun s => Prog.follows_bind.mpr ⟨h s, trivial⟩

theorem Follows.outcome (h : c.Follows R) : (outcome c : Code ε S (Except ε α)).Follows R :=
  Follows.always h

theorem Confined.pure (a : α) : (Pure.pure a : Code ε S α).Confined R f :=
  ⟨Follows.pure a, trivial⟩

theorem Confined.throw (e : ε) : (MonadExcept.throw e : Code ε S α).Confined R f :=
  ⟨fun _ => trivial, trivial⟩

theorem Confined.bind (hc : c.Confined R f) (hd : ∀ a, (d a).Confined R f) :
    (c >>= d).Confined R f := by
  refine ⟨hc.follows.bind fun a => (hd a).follows, ?_⟩
  rw [run_bind_eq]
  refine hc.seesOnly.bind fun r => ?_
  split
  · exact (hd _).seesOnly
  · trivial

theorem Confined.always {p : Prog S α} (h : ∀ s, Prog.Follows R p s) (h' : p.SeesOnly f) :
    (always p : Code ε S α).Confined R f :=
  ⟨Follows.always h, h'.bind fun _ => trivial⟩

theorem Confined.outcome (h : c.Confined R f) :
    (outcome c : Code ε S (Except ε α)).Confined R f := Confined.always h.follows h.seesOnly

end Rules

end Code

end Resumption
