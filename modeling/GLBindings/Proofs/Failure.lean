import GLBindings.Proofs.Success

namespace GLBindings.Failure

variable {ε δ α β : Type}

theorem bind_eq_error_iff {x : Except ε α} {f : α → Except ε β} {e : ε} :
    x >>= f = .error e ↔ x = .error e ∨ ∃ a, x = .ok a ∧ f a = .error e := by
  cases x with
  | error e => simp [bind, Except.bind]
  | ok a => simp [bind, Except.bind]

theorem mapError_eq_error_iff {x : Except ε α} {f : ε → δ} {e : δ} :
    x.mapError f = .error e ↔ ∃ e', x = .error e' ∧ f e' = e := by
  cases x with
  | error e => simp [Except.mapError]
  | ok a => simp [Except.mapError]

section Stages

variable {x : Except ε α}

theorem bind_of_ok {f : α → Except ε β} {a : α} (h : x = .ok a) : x >>= f = f a := by
  rw [h]
  rfl

theorem stage_of_ok {fault : ε → δ} {f : α → Except δ β} {a : α} (h : x = .ok a) :
    x.mapError fault >>= f = f a := by
  rw [h]
  rfl

theorem stage_of_error {fault : ε → δ} {f : α → Except δ β} {e : ε} (h : x = .error e) :
    x.mapError fault >>= f = .error (fault e) := by
  rw [h]
  rfl

end Stages

def First (p : α → Prop) (l : List α) (a : α) : Prop :=
  ∃ before after, l = before ++ a :: after ∧ (∀ b ∈ before, ¬ p b) ∧ p a

theorem first_cons_of_pos {p : α → Prop} {a : α} {l : List α} (h : p a) : First p (a :: l) a :=
  ⟨[], l, rfl, by simp, h⟩

theorem First.prop {p : α → Prop} {l : List α} {a : α} (h : First p l a) : p a := by
  obtain ⟨_, _, _, _, ha⟩ := h
  exact ha

theorem First.cons {p : α → Prop} {l : List α} {a b : α} (h : First p l a) (hb : ¬ p b) :
    First p (b :: l) a := by
  obtain ⟨before, after, rfl, hbefore, ha⟩ := h
  exact ⟨b :: before, after, rfl, by simpa using ⟨hb, hbefore⟩, ha⟩

theorem exists_first {p : α → Prop} {l : List α} (h : ∃ a ∈ l, p a) : ∃ a, First p l a := by
  classical
  induction l with
  | nil => simp at h
  | cons b l ih =>
      by_cases hb : p b
      · exact ⟨b, first_cons_of_pos hb⟩
      · obtain ⟨a, ha, hp⟩ := h
        rcases List.mem_cons.mp ha with rfl | ha
        · exact absurd hp hb
        · obtain ⟨c, hc⟩ := ih ⟨a, ha, hp⟩
          exact ⟨c, hc.cons hb⟩

theorem First.congr {p q : α → Prop} {l : List α} {a : α} (h : First p l a)
    (hpq : ∀ b ∈ l, p b ↔ q b) : First q l a := by
  obtain ⟨before, after, rfl, hbefore, ha⟩ := h
  refine ⟨before, after, rfl, ?_, (hpq a (by simp)).mp ha⟩
  intro b hb hq
  exact hbefore b hb ((hpq b (by simp [hb])).mpr hq)

theorem first_of_map {f : α → β} {p : β → Prop} {l : List α} {b : β} (h : First p (l.map f) b) :
    ∃ a, f a = b ∧ First (fun a => p (f a)) l a := by
  obtain ⟨before, after, hl, hbefore, hb⟩ := h
  obtain ⟨l₁, l₂, rfl, rfl, hl₂⟩ := List.map_eq_append_iff.mp hl
  obtain ⟨a, l₃, rfl, rfl, rfl⟩ := List.map_eq_cons_iff.mp hl₂
  exact ⟨a, rfl, l₁, l₃, rfl, by simpa using hbefore, hb⟩

theorem mapM_eq_error {f : α → Except ε β} {l : List α} {a : α} {e : ε}
    (h : First (fun a => ¬ ∃ b, f a = .ok b) l a) (he : f a = .error e) :
    l.mapM f = .error e := by
  obtain ⟨before, after, rfl, hbefore, _⟩ := h
  induction before with
  | nil =>
      rw [List.nil_append, List.mapM_cons, he]
      rfl
  | cons c before ih =>
      obtain ⟨b, hb⟩ := not_not.mp (hbefore c List.mem_cons_self)
      rw [List.cons_append, List.mapM_cons, hb, ih fun d hd => hbefore d (List.mem_cons_of_mem c hd)]
      rfl

/-- Both computations fail with the same fault, or both succeed and their values are related. -/
inductive Alike (R : α → β → Prop) : Except ε α → Except ε β → Prop
  | error (e : ε) : Alike R (.error e) (.error e)
  | ok {a : α} {b : β} (h : R a b) : Alike R (.ok a) (.ok b)

namespace Alike

variable {R : α → β → Prop} {x : Except ε α} {y : Except ε β}

theorem refl {R : α → α → Prop} (h : ∀ a, R a a) (x : Except ε α) : Alike R x x := by
  cases x with
  | error e => exact .error e
  | ok a => exact .ok (h a)

theorem succeeds_iff (h : Alike R x y) : Success.Succeeds y ↔ Success.Succeeds x := by
  cases h with
  | error e => exact iff_of_false (Success.not_succeeds_error e) (Success.not_succeeds_error e)
  | ok h => exact iff_of_true (Success.succeeds_ok _) (Success.succeeds_ok _)

theorem rel {a : α} {b : β} (h : Alike R x y) (hx : x = .ok a) (hy : y = .ok b) : R a b := by
  subst hx hy
  cases h with
  | ok h => exact h

theorem eq_error {e : ε} (h : Alike R x y) (hx : x = .error e) : y = .error e := by
  subst hx
  cases h
  rfl

theorem exists_ok {a : α} (h : Alike R x y) (hx : x = .ok a) : ∃ b, y = .ok b ∧ R a b := by
  subst hx
  cases h with
  | ok h => exact ⟨_, rfl, h⟩

theorem bind {γ ζ : Type} {S : γ → ζ → Prop} {f : α → Except ε γ} {g : β → Except ε ζ}
    (h : Alike R x y) (hfg : ∀ a b, R a b → Alike S (f a) (g b)) : Alike S (x >>= f) (y >>= g) := by
  cases h with
  | error e => exact .error e
  | ok h => exact hfg _ _ h

theorem map {γ ζ : Type} {S : γ → ζ → Prop} {f : α → γ} {g : β → ζ} (h : Alike R x y)
    (hfg : ∀ a b, R a b → S (f a) (g b)) : Alike S (f <$> x) (g <$> y) := by
  cases h with
  | error e => exact .error e
  | ok h => exact .ok (hfg _ _ h)

theorem mapM {γ ζ : Type} {S : γ → ζ → Prop} {f : α → Except ε γ} {g : β → Except ε ζ} {l : List α}
    {m : List β} (h : List.Forall₂ (fun a b => Alike S (f a) (g b)) l m) :
    Alike (List.Forall₂ S) (l.mapM f) (m.mapM g) := by
  induction h with
  | nil => exact .ok .nil
  | cons hab _ ih =>
      rw [List.mapM_cons, List.mapM_cons]
      exact hab.bind fun c d hcd => ih.bind fun _ _ hrest => .ok (.cons hcd hrest)

end Alike

theorem mapM_congr {γ : Type} {f : α → Except ε γ} {g : β → Except ε γ} {l : List α} {m : List β}
    (h : List.Forall₂ (fun a b => g b = f a) l m) : m.mapM g = l.mapM f := by
  induction h with
  | nil => rfl
  | cons hab _ ih => rw [List.mapM_cons, List.mapM_cons, hab, ih]

end GLBindings.Failure
