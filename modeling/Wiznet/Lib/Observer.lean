import Wiznet.Lib.Hoare

/-! # Programs under observation

An observer sees the state before and after every step and keeps a record of
its own. The program does not see the record, so it runs as it did before; a
statement about what happened in which order is a statement about the record. -/

namespace Resumption

variable {S T U G σ α β ε : Type}

/-- What is made of a step from one state to the next; nothing, if the state
stays as it was. -/
structure Observer (S G : Type) where
  note : S → S → G → G
  note_self : ∀ s g, note s s g = g

attribute [simp] Observer.note_self

namespace Observer

/-- Nothing to record. -/
def blind : Observer S Unit where
  note _ _ g := g
  note_self _ _ := rfl

/-- An observer who never writes anything down. -/
def mute : Observer S G where
  note _ _ g := g
  note_self _ _ := rfl

/-- An observer who only looks at a part. -/
def comap (f : S → T) (o : Observer T G) : Observer S G where
  note s s' := o.note (f s) (f s')
  note_self _ _ := o.note_self _ _

/-- An observer who writes into a part of a larger record. -/
def under (l : Lens T G) (o : Observer S G) : Observer S T where
  note s s' h := l.set (o.note s s' (l.get h)) h
  note_self _ _ := by simp [l.set_get]

/-- What the first observer makes of a step, and then the second. -/
def andThen (o o' : Observer S G) : Observer S G where
  note s s' g := o'.note s s' (o.note s s' g)
  note_self _ _ := by simp

@[simp] theorem comap_note (f : S → T) (o : Observer T G) (s s' : S) (g : G) :
    (o.comap f).note s s' g = o.note (f s) (f s') g := rfl

@[simp] theorem under_note (l : Lens T G) (o : Observer S G) (s s' : S) (h : T) :
    (o.under l).note s s' h = l.set (o.note s s' (l.get h)) h := rfl

@[simp] theorem andThen_note (o o' : Observer S G) (s s' : S) (g : G) :
    (o.andThen o').note s s' g = o'.note s s' (o.note s s' g) := rfl

end Observer

/-! ## Watched programs -/

namespace Prog

/-- The program, and what the observer made of every step. -/
def watch (o : Observer S G) : Prog S α → Prog (S × G) α
  | .ret a => .ret a
  | .step act next => .step (fun x => (act x.1, o.note x.1 (act x.1) x.2)) fun x =>
      (next x.1).watch o

/-- No step of the program gives the observer anything to record. -/
def Silent (o : Observer S G) : Prog S α → Prop
  | .ret _ => True
  | .step act next => (∀ s g, o.note s (act s) g = g) ∧ ∀ s, (next s).Silent o

/-- No step of the program changes what `f` shows. -/
def Fixes (f : S → T) : Prog S α → Prop
  | .ret _ => True
  | .step act next => (∀ s, f (act s) = f s) ∧ ∀ s, (next s).Fixes f

section Watch

variable {o : Observer S G}

theorem watch_bind (p : Prog S α) (f : α → Prog S β) :
    (p.bind f).watch o = (p.watch o).bind fun a => (f a).watch o := by
  induction p with
  | ret a => rfl
  | step act next ih => simp only [bind, watch, ih]

/-- The observer is not seen. -/
theorem run_watch (p : Prog S α) (s : S) (g : G) :
    ((p.watch o).run (s, g)).1 = (p.run s).1 ∧
      ((p.watch o).run (s, g)).2.1 = (p.run s).2 := by
  induction p generalizing s g with
  | ret a => exact ⟨rfl, rfl⟩
  | step act next ih => exact ih s (act s) _

theorem run_watch_silent {p : Prog S α} (h : p.Silent o) (s : S) (g : G) :
    (p.watch o).run (s, g) = ((p.run s).1, (p.run s).2, g) := by
  induction p generalizing s with
  | ret a => rfl
  | step act next ih =>
    simp only [watch, run, h.1 s g]
    exact ih s (h.2 s) (act s)

/-- Of a larger record only the part that is written into changes. -/
theorem run_watch_under (l : Lens T G) (p : Prog S α) (s : S) (h : T) :
    (p.watch (o.under l)).run (s, h) =
      let out := (p.watch o).run (s, l.get h)
      (out.1, out.2.1, l.set out.2.2 h) := by
  induction p generalizing s h with
  | ret a => simp [watch, l.set_get]
  | step act next ih => simp [watch, run, ih, l.get_set, l.set_set]

/-- A program about a part, seen by an observer who only looks at that part. -/
theorem run_watch_zoom {l : Lens S T} (part : Observer T G)
    (h : ∀ t s g, o.note s (l.set t s) g = part.note (l.get s) t g) (p : Prog T α) (s : S) (g : G) :
    ((p.zoom l).watch o).run (s, g) =
      let out := (p.watch part).run (l.get s, g)
      (out.1, l.set out.2.1 s, out.2.2) := by
  induction p generalizing s g with
  | ret a => simp [zoom, watch]
  | step act next ih => simp [zoom, watch, run, ih, h]

theorem run_watch_withLocal (p : Prog (σ × S) α) (v : σ) (s : S) (g : G) :
    ((p.withLocal v).watch o).run (s, g) =
      let out := (p.watch (o.comap Prod.snd)).run ((v, s), g)
      ((out.1, out.2.1.1), out.2.1.2, out.2.2) := by
  induction p generalizing v s g with
  | ret a => rfl
  | step act next ih => simp only [withLocal, watch, run, ih, Observer.comap_note]

/-- A single step on a part. -/
theorem run_watch_zoom_atom (l : Lens S T) (f : T → α × T) (s : S) (g : G) :
    (((atom f).zoom l).watch o).run (s, g) =
      ((f (l.get s)).1, l.set (f (l.get s)).2 s, o.note s (l.set (f (l.get s)).2 s) g) := rfl

theorem run_watch_zoom_store (l : Lens S T) (f : T → T) (s : S) (g : G) :
    (((store f).zoom l).watch o).run (s, g) =
      ((), l.set (f (l.get s)) s, o.note s (l.set (f (l.get s)) s) g) := rfl

theorem Silent.bind {p : Prog S α} {f : α → Prog S β} (hp : p.Silent o)
    (hf : ∀ a, (f a).Silent o) : (p.bind f).Silent o := by
  induction p with
  | ret a => exact hf a
  | step act next ih => exact ⟨hp.1, fun s => ih s (hp.2 s)⟩

theorem Silent.load (f : S → α) : (load f).Silent o := ⟨fun s g => o.note_self s g, fun _ => trivial⟩

/-- A program about a part that the observer does not look at. -/
theorem Silent.zoom {l : Lens S T} (h : ∀ t s g, o.note s (l.set t s) g = g) (p : Prog T α) :
    (p.zoom l).Silent o := by
  induction p with
  | ret a => trivial
  | step act next ih => exact ⟨fun s g => h _ s g, fun s => ih (l.get s)⟩

variable {f : S → T}

theorem Fixes.bind {p : Prog S α} {q : α → Prog S β} (hp : p.Fixes f) (hq : ∀ a, (q a).Fixes f) :
    (p.bind q).Fixes f := by
  induction p with
  | ret a => exact hq a
  | step act next ih => exact ⟨hp.1, fun s => ih s (hp.2 s)⟩

theorem Fixes.zoom {l : Lens S U} (h : ∀ u s, f (l.set u s) = f s) (p : Prog U α) :
    (p.zoom l).Fixes f := by
  induction p with
  | ret a => trivial
  | step act next ih => exact ⟨fun s => h _ s, fun s => ih (l.get s)⟩

theorem Fixes.run {p : Prog S α} (hp : p.Fixes f) (s : S) : f (p.run s).2 = f s := by
  induction p generalizing s with
  | ret a => rfl
  | step act next ih => exact (ih s (hp.2 s) _).trans (hp.1 s)

/-- What is fixed gives its observer nothing to record. -/
theorem Fixes.silent {part : Observer T G} {p : Prog S α} (hp : p.Fixes f) :
    p.Silent (part.comap f) := by
  induction p with
  | ret a => trivial
  | step act next ih =>
    exact ⟨fun s g => by rw [Observer.comap_note, hp.1, part.note_self], fun s => ih s (hp.2 s)⟩

end Watch

end Prog

/-! ## Watched fallible programs -/

namespace Code

def watch (o : Observer S G) (c : Code ε S α) : Code ε (S × G) α :=
  ExceptT.mk ((ExceptT.run c).watch o)

def Silent (o : Observer S G) (c : Code ε S α) : Prop := (ExceptT.run c).Silent o

section Watch

variable {o : Observer S G} {s : S} {g : G}
  {Q : α → S × G → Prop} {E : ε → S × G → Prop}

theorem watch_bind (c : Code ε S α) (f : α → Code ε S β) :
    (c >>= f).watch o = c.watch o >>= fun a => (f a).watch o := by
  change Prog.watch o (ExceptT.run (c >>= f)) = ExceptT.run (c.watch o >>= _)
  rw [run_bind_eq, run_bind_eq, Prog.watch_bind]
  congr 1
  funext r
  cases r <;> rfl

theorem watch_map (f : α → β) (c : Code ε S α) : (f <$> c).watch o = f <$> c.watch o := by
  rw [← bind_pure_comp, watch_bind, ← bind_pure_comp]
  rfl

theorem watch_outcome (c : Code ε S α) :
    (outcome c : Code ε S (Except ε α)).watch o = outcome (c.watch o) := by
  change ExceptT.mk (Prog.watch o (Prog.bind (ExceptT.run c) fun a => .ret (.ok a))) = _
  rw [Prog.watch_bind]
  rfl

theorem watch_always (p : Prog S α) : (always p : Code ε S α).watch o = always (p.watch o) := by
  exact Prog.watch_bind p fun a => Prog.ret (Except.ok a)

/-- The observer is not seen. -/
theorem exec_watch (c : Code ε S α) (s : S) (g : G) :
    (exec (c.watch o) (s, g)).1 = (exec c s).1 ∧
      (exec (c.watch o) (s, g)).2.1 = (exec c s).2 := Prog.run_watch _ s g

theorem exec_watch_silent {c : Code ε S α} (h : c.Silent o) (s : S) (g : G) :
    exec (c.watch o) (s, g) = ((exec c s).1, (exec c s).2, g) := Prog.run_watch_silent h s g

/-- What holds without the observer holds under observation. -/
theorem wp_watch {Q : α → S → Prop} {E : ε → S → Prop} {c : Code ε S α} :
    wp (c.watch o) (fun a x => Q a x.1) (fun e x => E e x.1) (s, g) ↔ wp c Q E s := by
  obtain ⟨hr, hs⟩ := exec_watch (o := o) c s g
  unfold wp
  rcases hw : exec (c.watch o) (s, g) with ⟨r, s', g'⟩
  rw [hw] at hr hs
  rcases hc : exec c s with ⟨r', s''⟩
  rw [hc] at hr hs
  subst hr
  cases hs
  cases r <;> rfl

/-- What a watched program ends in is what the program ends in. -/
theorem wp_watch_exec {c : Code ε S α} (h : wp (c.watch o) Q E (s, g)) :
    wp (c.watch o) (fun a x => exec c s = (.ok a, x.1) ∧ Q a x)
      (fun e x => exec c s = (.error e, x.1) ∧ E e x) (s, g) := by
  obtain ⟨hr, hs⟩ := exec_watch (o := o) c s g
  unfold wp at h ⊢
  rcases hw : exec (c.watch o) (s, g) with ⟨_ | _, s', g'⟩ <;> rw [hw] at h hr hs <;>
    exact ⟨Prod.ext hr.symm hs.symm, h⟩

theorem wp_watch_silent {c : Code ε S α} (h : c.Silent o) :
    wp (c.watch o) Q E (s, g) ↔ wp c (fun a s' => Q a (s', g)) (fun e s' => E e (s', g)) s := by
  simp only [wp, exec_watch_silent h]
  rcases exec c s with ⟨_ | _, s'⟩ <;> rfl

theorem wp_watch_zoom {l : Lens S T} (part : Observer T G)
    (h : ∀ t s g, o.note s (l.set t s) g = part.note (l.get s) t g)
    (c : Code ε T α) :
    wp ((c.zoom l).watch o) Q E (s, g) ↔ wp (c.watch part)
      (fun a x => Q a (l.set x.1 s, x.2)) (fun e x => E e (l.set x.1 s, x.2)) (l.get s, g) := by
  have hr : exec ((c.zoom l).watch o) (s, g) =
      let out := exec (c.watch part) (l.get s, g)
      (out.1, l.set out.2.1 s, out.2.2) := Prog.run_watch_zoom part h _ s g
  simp only [wp, hr]
  rcases exec (c.watch part) (l.get s, g) with ⟨_ | _, t, g'⟩ <;> rfl

theorem wp_watch_under (l : Lens T G) (c : Code ε S α) {Q : α → S × T → Prop}
    {E : ε → S × T → Prop} {h : T} :
    wp (c.watch (o.under l)) Q E (s, h) ↔ wp (c.watch o)
      (fun a x => Q a (x.1, l.set x.2 h)) (fun e x => E e (x.1, l.set x.2 h)) (s, l.get h) := by
  have hr : exec (c.watch (o.under l)) (s, h) =
      let out := exec (c.watch o) (s, l.get h)
      (out.1, out.2.1, l.set out.2.2 h) := Prog.run_watch_under l _ s h
  simp only [wp, hr]
  rcases exec (c.watch o) (s, l.get h) with ⟨_ | _, s', g'⟩ <;> rfl

theorem wp_watch_attempt (f : S → Except ε α × S) :
    wp ((attempt f).watch o) Q E (s, g) ↔ match f s with
      | (.ok a, s') => Q a (s', o.note s s' g)
      | (.error e, s') => E e (s', o.note s s' g) := by
  have hr : exec ((attempt f).watch o) (s, g) = ((f s).1, (f s).2, o.note s (f s).2 g) := rfl
  simp only [wp, hr]
  rcases f s with ⟨_ | _, s'⟩ <;> rfl

/-- A single fallible step, noted once. -/
theorem wp_watch_once (f : S → Except ε α × S) :
    wp ((attempt f).watch o) Q E (s, g) ↔ wp (attempt f)
      (fun a s' => Q a (s', o.note s s' g)) (fun e s' => E e (s', o.note s s' g)) s :=
  (wp_watch_attempt f).trans (wp_attempt f _ _ s).symm

/-- A single fallible step on a part. -/
theorem wp_watch_zoom_attempt (l : Lens S T) (f : T → Except ε α × T) :
    wp (((attempt f).zoom l).watch o) Q E (s, g) ↔ match f (l.get s) with
      | (.ok a, t) => Q a (l.set t s, o.note s (l.set t s) g)
      | (.error e, t) => E e (l.set t s, o.note s (l.set t s) g) := by
  have hr : exec (((attempt f).zoom l).watch o) (s, g) = ((f (l.get s)).1,
      l.set (f (l.get s)).2 s, o.note s (l.set (f (l.get s)).2 s) g) := rfl
  simp only [wp, hr]
  rcases f (l.get s) with ⟨_ | _, s'⟩ <;> rfl

theorem wp_watch_bind (c : Code ε S α) (f : α → Code ε S β) {Q : β → S × G → Prop}
    {x : S × G} : wp ((c >>= f).watch o) Q E x ↔
      wp (c.watch o) (fun a x' => wp ((f a).watch o) Q E x') E x := by
  rw [watch_bind, wp_bind]

theorem wp_watch_map (f : α → β) (c : Code ε S α) {Q : β → S × G → Prop} {x : S × G} :
    wp ((f <$> c).watch o) Q E x ↔ wp (c.watch o) (fun a x' => Q (f a) x') E x := by
  rw [watch_map, wp_map]

theorem wp_watch_outcome (c : Code ε S α) {Q : Except ε α → S × G → Prop} {x : S × G} :
    wp ((outcome c : Code ε S (Except ε α)).watch o) Q E x ↔
      wp (c.watch o) (fun a => Q (.ok a)) (fun e => Q (.error e)) x := by
  rw [watch_outcome, wp_outcome]

theorem wp_watch_always (p : Prog S α) {x : S × G} :
    wp ((always p : Code ε S α).watch o) Q E x ↔
      Q ((p.watch o).run x).1 ((p.watch o).run x).2 := by
  rw [watch_always, wp_always]

theorem wp_watch_store (f : S → S) {Q : Unit → S × G → Prop} :
    wp ((always (Prog.store f) : Code ε S Unit).watch o) Q E (s, g) ↔
      Q () (f s, o.note s (f s) g) := by
  rw [wp_watch_always]
  rfl

theorem wp_watch_load (f : S → α) :
    wp ((always (Prog.load f) : Code ε S α).watch o) Q E (s, g) ↔ Q (f s) (s, g) := by
  rw [wp_watch_always, Prog.run_watch_silent (Prog.Silent.load f)]
  rfl

/-- A watched program run with a private value in front of the shared state. -/
theorem run_watch_withLocal_wp {c : Code ε (σ × S) α} {v : σ} {Q : α → (σ × S) × G → Prop}
    {E : ε → (σ × S) × G → Prop} (h : wp (c.watch (o.comap Prod.snd)) Q E ((v, s), g)) :
    match ((Prog.withLocal (ExceptT.run c) v).watch o).run (s, g) with
    | ((.ok a, v'), s', g') => Q a ((v', s'), g')
    | ((.error e, v'), s', g') => E e ((v', s'), g') := by
  rw [Prog.run_watch_withLocal]
  unfold wp exec at h
  rw [show ExceptT.run (c.watch (o.comap Prod.snd)) =
    (ExceptT.run c).watch (o.comap Prod.snd) from rfl] at h
  rcases hc : ((ExceptT.run c).watch (o.comap Prod.snd)).run ((v, s), g) with ⟨_ | _, x⟩ <;>
    simp only [hc] at h ⊢ <;> exact h

theorem Silent.always {p : Prog S α} (h : p.Silent o) :
    (always p : Code ε S α).Silent o := h.bind fun _ => trivial

theorem Silent.pure (a : α) : (Pure.pure a : Code ε S α).Silent o := trivial

theorem Silent.throw (e : ε) : (MonadExcept.throw e : Code ε S α).Silent o := trivial

theorem Silent.bind {c : Code ε S α} {f : α → Code ε S β} (hc : c.Silent o)
    (hf : ∀ a, (f a).Silent o) : (c >>= f).Silent o := by
  rw [Silent, run_bind_eq]
  refine Prog.Silent.bind hc fun r => ?_
  cases r with
  | ok a => exact hf a
  | error e => trivial

theorem Silent.outcome {c : Code ε S α} (hc : c.Silent o) :
    (outcome c : Code ε S (Except ε α)).Silent o := Silent.always hc

theorem Silent.zoom {l : Lens S T} (h : ∀ t s g, o.note s (l.set t s) g = g) (c : Code ε T α) :
    (c.zoom l).Silent o := Prog.Silent.zoom h _

end Watch

/-! ## Rules for watched programs -/

namespace Triple

variable {o : Observer S G} {P : S × G → Prop} {E : ε → S × G → Prop}

theorem watch_bind {c : Code ε S α} {f : α → Code ε S β} {R : α → S × G → Prop}
    {Q : β → S × G → Prop} (hc : Triple P (c.watch o) R E)
    (hf : ∀ a, Triple (R a) ((f a).watch o) Q E) : Triple P ((c >>= f).watch o) Q E := by
  rw [Code.watch_bind]
  exact hc.bind hf

/-- What holds without the observer holds under observation. -/
theorem watch {P : S → Prop} {Q : α → S → Prop} {E : ε → S → Prop} {c : Code ε S α}
    (h : Triple P c Q E) :
    Triple (fun x => P x.1) (c.watch o) (fun a x => Q a x.1) fun e x => E e x.1 :=
  fun _ hx => wp_watch.mpr (h _ hx)

/-- A triple under observation that does not look at the record. -/
theorem of_watch {P : S → Prop} {Q : α → S → Prop} {E : ε → S → Prop} {c : Code ε S α}
    (h : Triple (fun x => P x.1) (c.watch Observer.blind) (fun a x => Q a x.1)
      fun e x => E e x.1) : Triple P c Q E :=
  fun s hs => wp_watch.mp (h (s, ()) hs)

end Triple

namespace Keeps

variable {o : Observer S G} {J : S × G → Prop}

theorem watch_pure (a : α) : Keeps J ((Pure.pure a : Code ε S α).watch o) := fun _ h => h

theorem watch_throw (e : ε) : Keeps J ((MonadExcept.throw e : Code ε S α).watch o) :=
  fun _ h => h

theorem watch_bind {c : Code ε S α} {f : α → Code ε S β} (hc : Keeps J (c.watch o))
    (hf : ∀ a, Keeps J ((f a).watch o)) : Keeps J ((c >>= f).watch o) :=
  Triple.watch_bind (R := fun _ => J) hc hf

/-- An invariant holds up to the last step, which ends in `Q`. -/
theorem watch_andThen {c : Code ε S α} {f : α → Code ε S β} {Q : β → S × G → Prop}
    (hc : Keeps J (c.watch o)) (hf : ∀ a, Triple J ((f a).watch o) Q fun _ => J) :
    Triple J ((c >>= f).watch o) Q fun _ => J :=
  Triple.watch_bind (R := fun _ => J) hc hf

theorem watch_map (f : α → β) {c : Code ε S α} (hc : Keeps J (c.watch o)) :
    Keeps J ((f <$> c).watch o) := by
  rw [Code.watch_map]
  exact hc.map f

theorem watch_outcome {c : Code ε S α} (hc : Keeps J (c.watch o)) :
    Keeps J ((Code.outcome c : Code ε S (Except ε α)).watch o) := by
  rw [Code.watch_outcome]
  exact hc.outcome

theorem watch_silent {c : Code ε S α} (h : c.Silent o)
    (hc : ∀ g, Keeps (fun s => J (s, g)) c) : Keeps J (c.watch o) := by
  rintro ⟨s, g⟩ hs
  rw [wp_watch_silent h]
  exact hc g s hs

/-- An invariant of the program is one of the watched program. -/
theorem watch {J : S → Prop} {c : Code ε S α} (h : Keeps J c) :
    Keeps (fun x => J x.1) (c.watch o) := Triple.watch h

/-- An invariant under observation that does not look at the record. -/
theorem of_watch {J : S → Prop} {c : Code ε S α}
    (h : Keeps (fun x => J x.1) (c.watch Observer.blind)) : Keeps J c := Triple.of_watch h

end Keeps

end Code

end Resumption
