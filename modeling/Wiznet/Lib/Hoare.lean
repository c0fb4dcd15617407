import Wiznet.Lib.Resumption

/-! # Pre- and postconditions of fallible programs

`wp c Q E s` says where `c` started in `s` ends up when nobody interferes: in
`Q` with its result, or in `E` with its error. `Keeps J c` is the special case
of an invariant that survives both ways out. -/

namespace Resumption.Code

variable {S T σ α β ε : Type}

def wp (c : Code ε S α) (Q : α → S → Prop) (E : ε → S → Prop) (s : S) : Prop :=
  match exec c s with
  | (.ok a, s') => Q a s'
  | (.error e, s') => E e s'

theorem wp_iff {c : Code ε S α} {Q : α → S → Prop} {E : ε → S → Prop} {s : S} :
    wp c Q E s ↔ (∀ a s', exec c s = (.ok a, s') → Q a s') ∧
      ∀ e s', exec c s = (.error e, s') → E e s' := by
  unfold wp
  cases exec c s with
  | mk r s' => cases r <;> simp

theorem wp_mono {c : Code ε S α} {Q Q' : α → S → Prop} {E E' : ε → S → Prop} {s : S}
    (h : wp c Q E s) (hQ : ∀ a s', Q a s' → Q' a s') (hE : ∀ e s', E e s' → E' e s') :
    wp c Q' E' s := by
  obtain ⟨hok, herr⟩ := wp_iff.mp h
  exact wp_iff.mpr ⟨fun a s' hs => hQ a s' (hok a s' hs), fun e s' hs => hE e s' (herr e s' hs)⟩

theorem wp_and {c : Code ε S α} {Q Q' : α → S → Prop} {E E' : ε → S → Prop} {s : S}
    (h : wp c Q E s) (h' : wp c Q' E' s) :
    wp c (fun a s' => Q a s' ∧ Q' a s') (fun e s' => E e s' ∧ E' e s') s := by
  obtain ⟨hok, herr⟩ := wp_iff.mp h
  obtain ⟨hok', herr'⟩ := wp_iff.mp h'
  exact wp_iff.mpr ⟨fun a s' hs => ⟨hok a s' hs, hok' a s' hs⟩,
    fun e s' hs => ⟨herr e s' hs, herr' e s' hs⟩⟩

/-- What holds of the final state whatever the outcome. -/
theorem wp_state {c : Code ε S α} {J : S → Prop} {s : S}
    (h : wp c (fun _ => J) (fun _ => J) s) : J (exec c s).2 := by
  unfold wp at h
  cases hc : exec c s with
  | mk r s' => rw [hc] at h; cases r <;> exact h

theorem wp_of_state {c : Code ε S α} {J : S → Prop} {s : S} (h : J (exec c s).2) :
    wp c (fun _ => J) (fun _ => J) s :=
  wp_iff.mpr ⟨fun _ s' hs => by rw [hs] at h; exact h, fun _ s' hs => by rw [hs] at h; exact h⟩

@[simp] theorem wp_pure (a : α) (Q : α → S → Prop) (E : ε → S → Prop) (s : S) :
    wp (pure a) Q E s ↔ Q a s := Iff.rfl

@[simp] theorem wp_throw (e : ε) (Q : α → S → Prop) (E : ε → S → Prop) (s : S) :
    wp (throw e) Q E s ↔ E e s := Iff.rfl

theorem wp_bind (c : Code ε S α) (f : α → Code ε S β) (Q : β → S → Prop) (E : ε → S → Prop)
    (s : S) : wp (c >>= f) Q E s ↔ wp c (fun a s' => wp (f a) Q E s') E s := by
  simp only [wp, exec_bind]
  cases exec c s with
  | mk r s' => cases r <;> rfl

@[simp] theorem wp_map (f : α → β) (c : Code ε S α) (Q : β → S → Prop) (E : ε → S → Prop)
    (s : S) : wp (f <$> c) Q E s ↔ wp c (fun a s' => Q (f a) s') E s := by
  simp only [wp, exec_map]
  cases exec c s with
  | mk r s' => cases r <;> rfl

theorem wp_attempt (f : S → Except ε α × S) (Q : α → S → Prop) (E : ε → S → Prop) (s : S) :
    wp (attempt f) Q E s ↔ match f s with
      | (.ok a, s') => Q a s'
      | (.error e, s') => E e s' := by simp only [wp, exec_attempt]

@[simp] theorem wp_always (p : Prog S α) (Q : α → S → Prop) (E : ε → S → Prop) (s : S) :
    wp (always p) Q E s ↔ Q (p.run s).1 (p.run s).2 := by simp only [wp, exec_always]

@[simp] theorem wp_outcome (c : Code ε S α) (Q : Except ε α → S → Prop) (E : ε → S → Prop)
    (s : S) : wp (outcome c) Q E s ↔ wp c (fun a => Q (.ok a)) (fun e => Q (.error e)) s := by
  simp only [wp, exec_outcome]
  cases exec c s with
  | mk r s' => cases r <;> rfl

@[simp] theorem wp_zoom (l : Lens S T) (c : Code ε T α) (Q : α → S → Prop) (E : ε → S → Prop)
    (s : S) : wp (c.zoom l) Q E s ↔
      wp c (fun a t => Q a (l.set t s)) (fun e t => E e (l.set t s)) (l.get s) := by
  simp only [wp, exec_zoom]
  cases exec c (l.get s) with
  | mk r s' => cases r <;> rfl

/-- An outcome that was already computed. -/
@[simp] theorem wp_lift (r : Except ε α) (Q : α → S → Prop) (E : ε → S → Prop) (s : S) :
    wp (ExceptT.mk (pure r) : Code ε S α) Q E s ↔ match r with
      | .ok a => Q a s
      | .error e => E e s := by cases r <;> exact Iff.rfl

/-- A program run with a private value in front of the shared state. -/
theorem run_withLocal_wp {c : Code ε (σ × S) α} {v : σ} {s : S}
    {Q : α → σ × S → Prop} {E : ε → σ × S → Prop} (h : wp c Q E (v, s)) :
    match (Prog.withLocal (ExceptT.run c) v).run s with
    | ((.ok a, v'), s') => Q a (v', s')
    | ((.error e, v'), s') => E e (v', s') := by
  rw [Prog.run_withLocal]
  unfold wp exec at h
  cases hc : (ExceptT.run c).run (v, s) with
  | mk r t => rw [hc] at h; cases r <;> exact h

/-- From `P`, `c` ends in `Q` or fails in `E`. -/
def Triple (P : S → Prop) (c : Code ε S α) (Q : α → S → Prop) (E : ε → S → Prop) : Prop :=
  ∀ s, P s → wp c Q E s

namespace Triple

variable {P P' : S → Prop} {c : Code ε S α} {R Q Q' : α → S → Prop} {E E' : ε → S → Prop}

theorem bind {f : α → Code ε S β} {Q : β → S → Prop} (hc : Triple P c R E)
    (hf : ∀ a, Triple (R a) (f a) Q E) : Triple P (c >>= f) Q E := by
  intro s hs
  rw [wp_bind]
  exact wp_mono (hc s hs) (fun a s' h => hf a s' h) (fun _ _ h => h)

theorem consequence (h : Triple P c Q E) (hP : ∀ s, P' s → P s)
    (hQ : ∀ a s, Q a s → Q' a s) (hE : ∀ e s, E e s → E' e s) : Triple P' c Q' E' :=
  fun s hs => wp_mono (h s (hP s hs)) hQ hE

end Triple

/-! ## Invariants -/

/-- `c` leaves `J` standing, however it ends. -/
def Keeps (J : S → Prop) (c : Code ε S α) : Prop := Triple J c (fun _ => J) fun _ => J

namespace Keeps

variable {J : S → Prop}

theorem exec {c : Code ε S α} (h : Keeps J c) {s : S} (hs : J s) : J (Code.exec c s).2 :=
  wp_state (h s hs)

theorem ok {c : Code ε S α} (h : Keeps J c) {s s' : S} {a : α} (hs : J s)
    (hx : Code.exec c s = (.ok a, s')) : J s' := (wp_iff.mp (h s hs)).1 a s' hx

theorem pure (a : α) : Keeps J (Pure.pure a : Code ε S α) := fun _ h => h

theorem throw (e : ε) : Keeps J (MonadExcept.throw e : Code ε S α) := fun _ h => h

theorem bind {c : Code ε S α} {f : α → Code ε S β} (hc : Keeps J c) (hf : ∀ a, Keeps J (f a)) :
    Keeps J (c >>= f) := Triple.bind (R := fun _ => J) hc hf

/-- An invariant holds up to the last step, which ends in `Q`. -/
theorem andThen {c : Code ε S α} {f : α → Code ε S β} {Q : β → S → Prop} (hc : Keeps J c)
    (hf : ∀ a, Triple J (f a) Q fun _ => J) : Triple J (c >>= f) Q fun _ => J :=
  Triple.bind (R := fun _ => J) hc hf

theorem map (f : α → β) {c : Code ε S α} (hc : Keeps J c) : Keeps J (f <$> c) := by
  intro s hs
  rw [wp_map]
  exact hc s hs

theorem outcome {c : Code ε S α} (hc : Keeps J c) :
    Keeps J (Code.outcome c : Code ε S (Except ε α)) := by
  intro s hs
  rw [wp_outcome]
  exact hc s hs

theorem always {p : Prog S α} (h : ∀ s, J s → J (p.run s).2) :
    Keeps J (Code.always p : Code ε S α) := by
  intro s hs
  rw [wp_always]
  exact h s hs

/-- What holds of a part is kept by a program about that part. -/
theorem zoom {l : Lens S T} {K : T → Prop} {c : Code ε T α} (hc : Keeps K c) :
    Keeps (fun s => K (l.get s)) (c.zoom l) := by
  intro s hs
  rw [wp_zoom]
  exact wp_mono (hc _ hs) (fun _ _ h => by simpa using h) (fun _ _ h => by simpa using h)

/-- A program about a part that `J` does not look at. -/
theorem zoom_of_set {l : Lens S T} {c : Code ε T α} (h : ∀ t s, J s → J (l.set t s)) :
    Keeps J (c.zoom l) := by
  intro s hs
  rw [wp_zoom]
  exact wp_iff.mpr ⟨fun _ _ _ => h _ _ hs, fun _ _ _ => h _ _ hs⟩

theorem and {K : S → Prop} {c : Code ε S α} (hJ : Keeps J c) (hK : Keeps K c) :
    Keeps (fun s => J s ∧ K s) c :=
  fun s hs => wp_and (hJ s hs.1) (hK s hs.2)

end Keeps

end Resumption.Code
