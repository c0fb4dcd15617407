import Wiznet.Lib.Resumption

/-! # Two threads on one state

Each thread performs one call after another, a step at a time, in any order with
the steps of the other. What a call does is described by a promise: what it
relies on the other thread for between two of its steps, what holds at each of
its points, what its steps do to the state, and what its last step does. -/

namespace Resumption

variable {S R R' A A' α : Type}

/-! ## Calls in progress -/

/-- A call a thread is in: what it was asked, the state it began in, the points
it has passed and what is left of it. -/
structure Active (S R A : Type) where
  request : R
  start : S
  past : List (Prog S A)
  rest : Prog S A

/-- A call that came to its end. -/
structure Finished (S R A : Type) where
  request : R
  start : S
  answer : A

structure Thread (S R A : Type) where
  active : Option (Active S R A)
  done : List (Finished S R A)

namespace Prog

/-- The points of a program that nobody disturbs, the present one first. -/
def ahead : Prog S α → S → List (Prog S α)
  | .ret a, _ => [.ret a]
  | .step act next, s => .step act next :: (next s).ahead (act s)

end Prog

/-- Every point of the call: those passed and those to come if undisturbed. -/
def Active.points (a : Active S R A) (s : S) : List (Prog S A) := a.past ++ a.rest.ahead s

namespace Thread

def idle : Thread S R A := ⟨none, []⟩

def begin (code : R → Prog S A) (request : R) (s : S) (t : Thread S R A) : Thread S R A :=
  { t with active := some ⟨request, s, [], code request⟩ }

/-- The thread after a step from `s` of its call left `rest`. -/
def resume (t : Thread S R A) (a : Active S R A) : Prog S A → Thread S R A
  | .ret answer => ⟨none, t.done ++ [⟨a.request, a.start, answer⟩]⟩
  | .step act next => { t with
      active := some { a with past := a.past ++ [a.rest], rest := .step act next } }

/-- One step of the call the thread is in. -/
def step (t : Thread S R A) (s : S) : Thread S R A × S :=
  match t.active with
  | none => (t, s)
  | some a =>
    match a.rest with
    | .ret _ => (t, s)
    | .step act next => (t.resume a (next s), act s)

end Thread

namespace Thread

/-- The thread after `n` steps, with a step of `env` before each. -/
def driven (env : Nat → S → S) : Nat → Thread S R A → S → Thread S R A × S
  | 0, t, s => (t, s)
  | n + 1, t, s =>
    let (t', s') := t.step (env 0 s)
    driven (fun k => env (k + 1)) n t' s'

/-- `n` steps on a part of the state, and nothing in between. -/
def stepped {T : Type} (part : Lens S T) : Nat → S × Thread T R A → S × Thread T R A
  | 0, x => x
  | n + 1, (s, t) => stepped part n (part.set (t.step (part.get s)).2 s, (t.step (part.get s)).1)

/-- A step keeps what the call was asked and where it began. -/
theorem step_active {t : Thread S R A} {a : Active S R A} (ha : t.active = some a) (s : S) :
    (∃ a' : Active S R A, a'.request = a.request ∧ a'.start = a.start ∧
      (t.step s).1 = { t with active := some a' }) ∨
    ∃ answer, (t.step s).1 = ⟨none, t.done ++ [⟨a.request, a.start, answer⟩]⟩ := by
  obtain ⟨active, done⟩ := t
  obtain rfl : active = some a := ha
  cases hrest : a.rest with
  | ret answer => exact .inl ⟨a, rfl, rfl, by simp only [step, hrest]⟩
  | step act next =>
    simp only [step, hrest]
    cases next s with
    | ret answer => exact .inr ⟨answer, rfl⟩
    | step act' next' =>
      exact .inl ⟨{ a with past := a.past ++ [.step act next], rest := .step act' next' }, rfl, rfl,
        by simp only [resume, hrest]⟩

/-- A call comes to its end whatever happens between its steps. -/
theorem driven_ends (env : Nat → S → S) (t : Thread S R A) (s : S)
    (h : ∀ a, t.active = some a → ∃ act next, a.rest = .step act next) :
    ∃ n, (driven env n t s).1.active = none := by
  obtain ⟨active, done⟩ := t
  cases active with
  | none => exact ⟨0, rfl⟩
  | some a =>
    obtain ⟨request, start, past, rest⟩ := a
    obtain ⟨act, next, hrest⟩ := h _ rfl
    dsimp only at hrest
    clear h
    induction rest generalizing act next past env s with
    | ret answer => cases hrest
    | step act' next' ih =>
      cases hn : next' (env 0 s) with
      | ret answer => exact ⟨1, by simp [driven, step, resume, hn]⟩
      | step act'' next'' =>
        obtain ⟨n, hend⟩ := ih (env 0 s) (fun k => env (k + 1)) (act' (env 0 s))
          (past ++ [.step act' next']) act'' next'' hn
        refine ⟨n + 1, ?_⟩
        simpa only [driven, step, resume, hn] using hend

end Thread

/-- Two threads and the state they share. -/
structure Threads (S R A R' A' : Type) where
  left : Thread S R A
  right : Thread S R' A'
  shared : S

/-- What two threads can come to, each performing any calls in any order and
neither waiting for the other. -/
inductive Interleaved (code : R → Prog S A) (code' : R' → Prog S A') (s₀ : S) :
    Threads S R A R' A' → Prop
  | start : Interleaved code code' s₀ ⟨.idle, .idle, s₀⟩
  | beginLeft {m} (request : R) (h : Interleaved code code' s₀ m) (hidle : m.left.active = none) :
      Interleaved code code' s₀ { m with left := m.left.begin code request m.shared }
  | beginRight {m} (request : R') (h : Interleaved code code' s₀ m)
      (hidle : m.right.active = none) :
      Interleaved code code' s₀ { m with right := m.right.begin code' request m.shared }
  | stepLeft {m} (h : Interleaved code code' s₀ m) :
      Interleaved code code' s₀
        { m with left := (m.left.step m.shared).1, shared := (m.left.step m.shared).2 }
  | stepRight {m} (h : Interleaved code code' s₀ m) :
      Interleaved code code' s₀
        { m with right := (m.right.step m.shared).1, shared := (m.right.step m.shared).2 }

/-! ## Promises -/

/-- What a thread relies on and what its calls do. -/
structure Promise (S R A : Type) where
  /-- What the other thread may do between two steps. -/
  rely : S → S → Prop
  /-- What holds at each point of a call. -/
  own : Prog S A → S → Prop
  /-- What a step does that does not end the call. -/
  mid : S → S → Prop
  /-- What the last step does, for a request and the state the call began in. -/
  fin : R → S → A → S → S → Prop
  rely_refl : ∀ s, rely s s
  rely_trans : ∀ {s t u}, rely s t → rely t u → rely s u
  mid_refl : ∀ s, mid s s
  own_rely : ∀ {p s t}, own p s → rely s t → own p t
  own_mid : ∀ {p s t}, mid s t → (own p s ↔ own p t)
  own_ret : ∀ a s, own (.ret a) s

namespace Promise

/-- A call that stands at `p`, after a step from `before`, keeps its promise. -/
def Meets (P : Promise S R A) (request : R) (start : S) : Prog S A → S → S → Prop
  | .ret a, before, s => P.fin request start a before s
  | .step act next, before, s => P.mid before s ∧
      ∀ s', P.rely s s' → P.own (.step act next) s' ∧ P.Meets request start (next s') s' (act s')

section Rules

variable {P : Promise S R A} {request : R} {start before s t : S}
  {act : S → S} {next : S → Prog S A}

theorem Meets.load {f : S → α} {k : α → Prog S A} (hmid : P.mid before s)
    (h : ∀ s', P.rely s s' → P.own ((Prog.load f).bind k) s' ∧
      P.Meets request start (k (f s')) s' s') :
    P.Meets request start ((Prog.load f).bind k) before s := ⟨hmid, h⟩

theorem Meets.store {f : S → S} {k : Unit → Prog S A} (hmid : P.mid before s)
    (h : ∀ s', P.rely s s' → P.own ((Prog.store f).bind k) s' ∧
      P.Meets request start (k ()) s' (f s')) :
    P.Meets request start ((Prog.store f).bind k) before s := ⟨hmid, h⟩

/-- What the other thread does between two steps is no hindrance. -/
theorem Meets.relied (h : P.Meets request start (.step act next) before s) (hr : P.rely s t) :
    P.Meets request start (.step act next) t t :=
  ⟨P.mid_refl t, fun s' hs' => h.2 s' (P.rely_trans hr hs')⟩

/-- Undisturbed, what holds at the present point holds at all that follow. -/
theorem Meets.own_ahead {p : Prog S A} (h : P.Meets request start p before s) :
    ∀ q ∈ p.ahead s, P.own q s := by
  induction p generalizing before s with
  | ret a =>
    intro q hq
    obtain rfl := List.mem_singleton.mp hq
    exact P.own_ret a s
  | step act next ih =>
    intro q hq
    obtain ⟨hown, hnext⟩ := h.2 s (P.rely_refl s)
    rcases List.mem_cons.mp hq with rfl | hq
    · exact hown
    · cases hn : next s with
      | ret a =>
        rw [hn] at hq
        obtain rfl := List.mem_singleton.mp hq
        exact P.own_ret a s
      | step act' next' =>
        have hmid : P.mid s (act s) := by
          rw [hn] at hnext
          exact hnext.1
        exact (P.own_mid hmid).mpr (ih s hnext q hq)

end Rules

/-! ## A thread that keeps its promise -/

/-- The call the thread is in, if any, keeps its promise, and what held at the
points it passed still holds. -/
def Kept (P : Promise S R A) (t : Thread S R A) (s : S) : Prop :=
  ∀ a, t.active = some a → (∃ act next, a.rest = .step act next) ∧
    P.Meets a.request a.start a.rest s s ∧ ∀ p ∈ a.past, P.own p s

section Threads

variable {P : Promise S R A} {t : Thread S R A} {s s' : S}

theorem Kept.idle (h : t.active = none) : P.Kept t s := by
  intro a ha
  rw [h] at ha
  cases ha

theorem Kept.own (h : P.Kept t s) {a : Active S R A} (ha : t.active = some a) :
    ∀ p ∈ a.points s, P.own p s := by
  intro p hp
  obtain ⟨-, hmeets, hpast⟩ := h a ha
  rcases List.mem_append.mp hp with hp | hp
  · exact hpast p hp
  · exact hmeets.own_ahead p hp

theorem Kept.begin {code : R → Prog S A} {request : R}
    (hstep : ∃ act next, code request = .step act next)
    (h : P.Meets request s (code request) s s) : P.Kept (t.begin code request s) s := by
  intro a ha
  obtain rfl := Option.some.inj ha
  exact ⟨hstep, h, fun p hp => by cases hp⟩

theorem Kept.relied (h : P.Kept t s) (hr : P.rely s s') : P.Kept t s' := by
  intro a ha
  obtain ⟨⟨act, next, hrest⟩, hmeets, hpast⟩ := h a ha
  refine ⟨⟨act, next, hrest⟩, ?_, fun p hp => P.own_rely (hpast p hp) hr⟩
  rw [hrest] at hmeets ⊢
  exact hmeets.relied hr

/-- A step leaves everything as it was, or moves a call on, or ends one. -/
theorem Kept.step (h : P.Kept t s) :
    t.step s = (t, s) ∨
    (P.mid s (t.step s).2 ∧ (∃ a, (t.step s).1 = { t with active := some a }) ∧
      P.Kept (t.step s).1 (t.step s).2) ∨
    ∃ f : Finished S R A, P.fin f.request f.start f.answer s (t.step s).2 ∧
      (t.step s).1 = ⟨none, t.done ++ [f]⟩ := by
  obtain ⟨active, done⟩ := t
  cases active with
  | none => exact .inl rfl
  | some a =>
    obtain ⟨request, start, past, rest⟩ := a
    obtain ⟨⟨act, next, hrest⟩, hmeets, hpast⟩ := h _ rfl
    dsimp only at hrest hmeets hpast
    subst hrest
    obtain ⟨hown, hnext⟩ := hmeets.2 s (P.rely_refl s)
    simp only [Thread.step]
    cases hn : next s with
    | ret answer =>
      rw [hn] at hnext
      exact .inr (.inr ⟨⟨request, start, answer⟩, hnext, rfl⟩)
    | step act' next' =>
      rw [hn] at hnext
      obtain ⟨hmid, hlater⟩ := hnext
      refine .inr (.inl ⟨hmid, ⟨_, rfl⟩, fun a ha => ?_⟩)
      obtain rfl := Option.some.inj ha
      refine ⟨⟨act', next', rfl⟩, ⟨P.mid_refl _, hlater⟩, fun p hp => ?_⟩
      refine (P.own_mid hmid).mp ?_
      rcases List.mem_append.mp hp with hp | hp
      · exact hpast p hp
      · obtain rfl := List.mem_singleton.mp hp
        exact hown

end Threads

/-! ## Both at once -/

/-- The steps of each thread are what the other relies on, and all of them keep
`I`, which relates what was done so far to the shared state. -/
structure Compatible (P : Promise S R A) (P' : Promise S R' A') (code : R → Prog S A)
    (code' : R' → Prog S A')
    (I : List (Finished S R A) → List (Finished S R' A') → S → Prop) : Prop where
  left_call : ∀ {d d' s} request, I d d' s →
    (∃ act next, code request = .step act next) ∧ P.Meets request s (code request) s s
  left_mid : ∀ {d d' s t}, I d d' s → P.mid s t → P'.rely s t ∧ I d d' t
  left_fin : ∀ {d d' s t} {f : Finished S R A}, I d d' s →
    P.fin f.request f.start f.answer s t → P'.rely s t ∧ I (d ++ [f]) d' t
  right_call : ∀ {d d' s} request, I d d' s →
    (∃ act next, code' request = .step act next) ∧ P'.Meets request s (code' request) s s
  right_mid : ∀ {d d' s t}, I d d' s → P'.mid s t → P.rely s t ∧ I d d' t
  right_fin : ∀ {d d' s t} {f : Finished S R' A'}, I d d' s →
    P'.fin f.request f.start f.answer s t → P.rely s t ∧ I d (d' ++ [f]) t

/-- Whatever the order of the steps, `I` holds and both promises are kept. -/
theorem Compatible.interleaved {P : Promise S R A} {P' : Promise S R' A'} {code : R → Prog S A}
    {code' : R' → Prog S A'} {I : List (Finished S R A) → List (Finished S R' A') → S → Prop}
    (hc : Compatible P P' code code' I) {s₀ : S} (hstart : I [] [] s₀)
    {m : Threads S R A R' A'} (h : Interleaved code code' s₀ m) :
    I m.left.done m.right.done m.shared ∧ P.Kept m.left m.shared ∧ P'.Kept m.right m.shared := by
  induction h with
  | start => exact ⟨hstart, Kept.idle rfl, Kept.idle rfl⟩
  | beginLeft request _ _ ih =>
    obtain ⟨hI, -, hright⟩ := ih
    obtain ⟨hstep, hmeets⟩ := hc.left_call request hI
    exact ⟨hI, Kept.begin hstep hmeets, hright⟩
  | beginRight request _ _ ih =>
    obtain ⟨hI, hleft, -⟩ := ih
    obtain ⟨hstep, hmeets⟩ := hc.right_call request hI
    exact ⟨hI, hleft, Kept.begin hstep hmeets⟩
  | @stepLeft m _ ih =>
    obtain ⟨hI, hleft, hright⟩ := ih
    rcases hleft.step with heq | ⟨hmid, ⟨a, heq⟩, hkept⟩ | ⟨f, hfin, heq⟩
    · dsimp only
      rw [heq]
      exact ⟨hI, hleft, hright⟩
    · obtain ⟨hrely, hI'⟩ := hc.left_mid hI hmid
      rw [heq] at hkept
      dsimp only
      rw [heq]
      exact ⟨hI', hkept, hright.relied hrely⟩
    · obtain ⟨hrely, hI'⟩ := hc.left_fin hI hfin
      dsimp only
      rw [heq]
      exact ⟨hI', Kept.idle rfl, hright.relied hrely⟩
  | @stepRight m _ ih =>
    obtain ⟨hI, hleft, hright⟩ := ih
    rcases hright.step with heq | ⟨hmid, ⟨a, heq⟩, hkept⟩ | ⟨f, hfin, heq⟩
    · dsimp only
      rw [heq]
      exact ⟨hI, hleft, hright⟩
    · obtain ⟨hrely, hI'⟩ := hc.right_mid hI hmid
      rw [heq] at hkept
      dsimp only
      rw [heq]
      exact ⟨hI', hleft.relied hrely, hkept⟩
    · obtain ⟨hrely, hI'⟩ := hc.right_fin hI hfin
      dsimp only
      rw [heq]
      exact ⟨hI', hleft.relied hrely, Kept.idle rfl⟩

end Promise

end Resumption
