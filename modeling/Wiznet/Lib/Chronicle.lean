import Wiznet.Lib.Threads

/-! # Calls and what went on beside them

What a call answers with may be gone from the shared state by then. The other
thread keeps a chronicle of what it put there, which no program reads, and the
promise of a call is about the chronicle. -/

namespace Resumption

variable {S G R A α : Type}

/-! ## Promises about a part of the state -/

/-- A program that is told nothing but `part`, and changes nothing of `rest`. -/
def Prog.Within {U : Type} (part : S → S) (rest : S → U) : Prog S α → Prop
  | .ret _ => True
  | .step act next => ∀ s, part (act s) = act (part s) ∧ rest (act s) = rest s ∧
      next (part s) = next s ∧ (next s).Within part rest

namespace Prog.Within

variable {U β : Type} {part : S → S} {rest : S → U}

theorem load {f : S → α} (h : ∀ s, f (part s) = f s) : (Prog.load f).Within part rest :=
  fun s => ⟨rfl, rfl, congrArg Prog.ret (h s), trivial⟩

theorem store {f : S → S} (h : ∀ s, part (f s) = f (part s)) (h' : ∀ s, rest (f s) = rest s) :
    (Prog.store f).Within part rest := fun s => ⟨h s, h' s, rfl, trivial⟩

theorem bind {p : Prog S α} {k : α → Prog S β} (h : p.Within part rest)
    (hk : ∀ a, (k a).Within part rest) : (p.bind k).Within part rest := by
  induction p with
  | ret a => exact hk a
  | step act next ih =>
    intro s
    obtain ⟨hpart, hrest, hnext, hwithin⟩ := h s
    refine ⟨hpart, hrest, ?_, ih s hwithin⟩
    simp only [hnext]

end Prog.Within

namespace Promise

variable {U : Type} {P : Promise S R A} {request : R} {start before s : S} {part : S → S}
  {rest : S → U}

/-- The promise about `part` of a larger state, of which `rest` is left alone. -/
def beside (P : Promise S R A) (part : S → S) (rest : S → U) : Promise S R A where
  rely s t := P.rely (part s) (part t)
  own p s := P.own p (part s)
  mid s t := P.mid (part s) (part t) ∧ rest t = rest s
  fin request start a s t := P.fin request (part start) a (part s) (part t) ∧ rest t = rest s
  rely_refl _ := P.rely_refl _
  rely_trans h h' := P.rely_trans h h'
  mid_refl _ := ⟨P.mid_refl _, rfl⟩
  own_rely h hr := P.own_rely h hr
  own_mid h := P.own_mid h.1
  own_ret a _ := P.own_ret a _

theorem Meets.beside {p : Prog S A} (hp : p.Within part rest)
    (h : P.Meets request (part start) p (part before) (part s)) (hs : rest s = rest before) :
    (P.beside part rest).Meets request start p before s := by
  induction p generalizing before s with
  | ret a => exact ⟨h, hs⟩
  | step act next ih =>
    refine ⟨⟨h.1, hs⟩, fun s' hs' => ?_⟩
    obtain ⟨hpart, hrest, hnext, hwithin⟩ := hp s'
    obtain ⟨hown, hmeets⟩ := h.2 (part s') hs'
    rw [hnext, ← hpart] at hmeets
    exact ⟨hown, ih s' hwithin hmeets hrest⟩

end Promise

/-! ## Chronicles -/

/-- What a thread relies on and what its calls do, where the other thread enters
what it does in a chronicle. -/
structure Chronicle (S G R A : Type) where
  /-- What the other thread may do between two steps, and what it enters. -/
  rely : S → G → S → G → Prop
  /-- What a step does that does not end the call. -/
  mid : S → S → Prop
  /-- What the last step does, for a request, where the call began, and the
  chronicle as it is by then. -/
  fin : R → S → G → A → G → S → S → Prop
  rely_refl : ∀ s g, rely s g s g
  rely_trans : ∀ {s t u g g' g''}, rely s g t g' → rely t g' u g'' → rely s g u g''
  mid_refl : ∀ s, mid s s

namespace Chronicle

/-- A call that stands at `p`, after a step from `before`, keeps its promise. -/
def Meets (C : Chronicle S G R A) (request : R) (start : S) (g₀ : G) :
    Prog S A → G → S → S → Prop
  | .ret a, g, before, s => C.fin request start g₀ a g before s
  | .step act next, g, before, s => C.mid before s ∧
      ∀ s' g', C.rely s g s' g' → C.Meets request start g₀ (next s') g' s' (act s')

section Rules

variable {C : Chronicle S G R A} {request : R} {start before s t : S} {g₀ g g' : G}
  {act : S → S} {next : S → Prog S A}

theorem Meets.load {f : S → α} {k : α → Prog S A} (hmid : C.mid before s)
    (h : ∀ s' g', C.rely s g s' g' → C.Meets request start g₀ (k (f s')) g' s' s') :
    C.Meets request start g₀ ((Prog.load f).bind k) g before s := ⟨hmid, h⟩

theorem Meets.store {f : S → S} {k : Unit → Prog S A} (hmid : C.mid before s)
    (h : ∀ s' g', C.rely s g s' g' → C.Meets request start g₀ (k ()) g' s' (f s')) :
    C.Meets request start g₀ ((Prog.store f).bind k) g before s := ⟨hmid, h⟩

theorem Meets.relied (h : C.Meets request start g₀ (.step act next) g before s)
    (hr : C.rely s g t g') : C.Meets request start g₀ (.step act next) g' t t :=
  ⟨C.mid_refl t, fun s' g'' hs' => h.2 s' g'' (C.rely_trans hr hs')⟩

/-- Without the chronicle it is a promise of its own, if whatever the other
thread does can be entered. -/
theorem Meets.forget {P : Promise S R A} {p : Prog S A}
    (hrely : ∀ {s t} g, P.rely s t → ∃ g', C.rely s g t g') (hown : ∀ p s, P.own p s)
    (hmid : ∀ {s t}, C.mid s t → P.mid s t)
    (hfin : ∀ {a g s t}, C.fin request start g₀ a g s t → P.fin request start a s t)
    (h : C.Meets request start g₀ p g before s) : P.Meets request start p before s := by
  induction p generalizing g before s with
  | ret a => exact hfin h
  | step act next ih =>
    refine ⟨hmid h.1, fun s' hs' => ⟨hown _ _, ?_⟩⟩
    obtain ⟨g', hg'⟩ := hrely g hs'
    exact ih s' (h.2 s' g' hg')

/-- A point that was reached by another step. -/
theorem Meets.after (hmid : C.mid before s)
    (h : C.Meets request start g₀ (.step act next) g s s) :
    C.Meets request start g₀ (.step act next) g before s := ⟨hmid, h.2⟩

/-- A call of a thread with a promise of its own, inside a call with a chronicle.
`I` is what stands until it ends, and `hthen` goes on from there. -/
theorem Meets.call {R' A' : Type} {P : Promise S R' A'} {request' : R'} {start' : S} {p : Prog S A'}
    {k : A' → Prog S A} (I : G → S → Prop) (h : P.Meets request' start' p before s)
    (hrely : ∀ {s g s' g'}, C.rely s g s' g' → I g s → P.rely s s' ∧ I g' s')
    (hmid : ∀ {g s t}, I g s → P.mid s t → C.mid s t ∧ I g t)
    (hthen : ∀ {a g s t}, I g s → P.fin request' start' a s t →
      C.Meets request start g₀ (k a) g s t) (hI : I g before) :
    C.Meets request start g₀ (p.bind k) g before s := by
  induction p generalizing g before s with
  | ret a => exact hthen hI h
  | step act next ih =>
    obtain ⟨hstep, hI'⟩ := hmid hI h.1
    refine ⟨hstep, fun s' g' hs' => ?_⟩
    obtain ⟨hr, hI''⟩ := hrely hs' hI'
    exact ih s' (h.2 s' hr).2 hI''

end Rules

/-- The call the thread is in, if any, keeps its promise. -/
def Kept (C : Chronicle S G R A) (t : Thread S R A) (g : G) (s : S) : Prop :=
  ∀ a, t.active = some a → (∃ act next, a.rest = .step act next) ∧
    ∃ g₀, C.Meets a.request a.start g₀ a.rest g s s

section Threads

variable {C : Chronicle S G R A} {t : Thread S R A} {s s' : S} {g g' : G}

theorem Kept.idle (h : t.active = none) : C.Kept t g s := by
  intro a ha
  rw [h] at ha
  cases ha

theorem Kept.begin {code : R → Prog S A} {request : R}
    (hstep : ∃ act next, code request = .step act next)
    (h : C.Meets request s g (code request) g s s) : C.Kept (t.begin code request s) g s := by
  intro a ha
  obtain rfl := Option.some.inj ha
  exact ⟨hstep, g, h⟩

theorem Kept.relied (h : C.Kept t g s) (hr : C.rely s g s' g') : C.Kept t g' s' := by
  intro a ha
  obtain ⟨⟨act, next, hrest⟩, g₀, hmeets⟩ := h a ha
  refine ⟨⟨act, next, hrest⟩, g₀, ?_⟩
  rw [hrest] at hmeets ⊢
  exact hmeets.relied hr

/-- A step leaves everything as it was, or moves a call on, or ends one. -/
theorem Kept.step (h : C.Kept t g s) :
    t.step s = (t, s) ∨
    (C.mid s (t.step s).2 ∧ (∃ a, (t.step s).1 = { t with active := some a }) ∧
      C.Kept (t.step s).1 g (t.step s).2) ∨
    ∃ (f : Finished S R A) (g₀ : G), C.fin f.request f.start g₀ f.answer g s (t.step s).2 ∧
      (t.step s).1 = ⟨none, t.done ++ [f]⟩ := by
  obtain ⟨active, done⟩ := t
  cases active with
  | none => exact .inl rfl
  | some a =>
    obtain ⟨request, start, past, rest⟩ := a
    obtain ⟨⟨act, next, hrest⟩, g₀, hmeets⟩ := h _ rfl
    dsimp only at hrest hmeets
    subst hrest
    have hnext := hmeets.2 s g (C.rely_refl s g)
    simp only [Thread.step]
    cases hn : next s with
    | ret answer =>
      rw [hn] at hnext
      exact .inr (.inr ⟨⟨request, start, answer⟩, g₀, hnext, rfl⟩)
    | step act' next' =>
      rw [hn] at hnext
      refine .inr (.inl ⟨hnext.1, ⟨_, rfl⟩, fun a ha => ?_⟩)
      obtain rfl := Option.some.inj ha
      exact ⟨⟨act', next', rfl⟩, g₀, C.mid_refl _, hnext.2⟩

end Threads

end Chronicle

end Resumption
