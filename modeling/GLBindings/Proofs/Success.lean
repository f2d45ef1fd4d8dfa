import Mathlib.Data.List.Forall2

namespace GLBindings.Success

variable {ε δ α β : Type}

theorem bind_eq_ok_iff {x : Except ε α} {f : α → Except ε β} {b : β} :
    x >>= f = .ok b ↔ ∃ a, x = .ok a ∧ f a = .ok b := by
  cases x with
  | error e => simp [bind, Except.bind]
  | ok a => simp [bind, Except.bind]

theorem mapError_eq_ok_iff {x : Except ε α} {f : ε → δ} {a : α} :
    x.mapError f = .ok a ↔ x = .ok a := by
  cases x with
  | error e => simp [Except.mapError]
  | ok b => simp [Except.mapError]

theorem map_eq_ok_iff {x : Except ε α} {f : α → β} {b : β} :
    x.map f = .ok b ↔ ∃ a, x = .ok a ∧ f a = b := by
  cases x with
  | error e => simp [Except.map]
  | ok a => simp [Except.map]

theorem exists_of_any {x : Except ε α} {p : α → Bool} (h : x.toOption.any p = true) :
    ∃ a, x = .ok a ∧ p a = true := by
  cases x with
  | error e => cases h
  | ok a => exact ⟨a, rfl, h⟩

theorem mapM_eq_ok_iff {f : α → Except ε β} {l : List α} {m : List β} :
    l.mapM f = .ok m ↔ List.Forall₂ (fun a b => f a = .ok b) l m := by
  induction l generalizing m with
  | nil =>
      rw [List.mapM_nil, List.forall₂_nil_left_iff]
      exact ⟨fun h => (Except.ok.inj h).symm, fun h => h ▸ rfl⟩
  | cons a l ih =>
      rw [List.mapM_cons, bind_eq_ok_iff]
      constructor
      · rintro ⟨b, hb, h⟩
        obtain ⟨m', hm, h⟩ := bind_eq_ok_iff.mp h
        cases h
        exact .cons hb (ih.mp hm)
      · rintro (_ | ⟨hb, hm⟩)
        exact ⟨_, hb, bind_eq_ok_iff.mpr ⟨_, ih.mpr hm, rfl⟩⟩

theorem mapM_map {γ : Type} (f : α → Except ε β) (g : β → γ) (l : List α) :
    l.mapM (fun a => (f a).map g) = (l.mapM f).map (List.map g) := by
  induction l with
  | nil => rfl
  | cons a l ih =>
      rw [List.mapM_cons, List.mapM_cons, ih]
      cases f a with
      | error e => rfl
      | ok b => cases l.mapM f <;> rfl

/-- A pass that looks up a value for each element may look up all of them first. -/
theorem foldlM_eq_map_mapM {γ : Type} {f : α → Except ε β} {g : γ → β → γ}
    {step : γ → α → Except ε γ} (h : ∀ c a, step c a = (f a).map (g c)) (l : List α) (c : γ) :
    l.foldlM step c = (l.mapM f).map (List.foldl g c) := by
  induction l generalizing c with
  | nil => rfl
  | cons a l ih =>
      rw [List.foldlM_cons, List.mapM_cons, h]
      cases f a with
      | error e => rfl
      | ok b =>
          show l.foldlM step (g c b) = _
          rw [ih]
          cases l.mapM f <;> rfl

theorem exists_of_mem_right {R : α → β → Prop} {l : List α} {m : List β} (h : List.Forall₂ R l m)
    {b : β} (hb : b ∈ m) : ∃ a ∈ l, R a b := by
  induction h with
  | nil => exact absurd hb List.not_mem_nil
  | cons hR _ ih =>
      rcases List.mem_cons.mp hb with rfl | hb
      · exact ⟨_, List.mem_cons_self, hR⟩
      · obtain ⟨a, ha, hR⟩ := ih hb
        exact ⟨a, List.mem_cons_of_mem _ ha, hR⟩

theorem exists_forall₂_iff {R : α → β → Prop} {l : List α} :
    (∃ m, List.Forall₂ R l m) ↔ ∀ a ∈ l, ∃ b, R a b := by
  induction l with
  | nil => simp
  | cons a l ih =>
      rw [List.forall_mem_cons, ← ih]
      constructor
      · rintro ⟨_, _ | ⟨hR, h⟩⟩
        exact ⟨⟨_, hR⟩, _, h⟩
      · rintro ⟨⟨b, hR⟩, m, h⟩
        exact ⟨b :: m, .cons hR h⟩

theorem forall₂_append_right_iff {R : α → β → Prop} {l : List α} {m₁ m₂ : List β} :
    List.Forall₂ R l (m₁ ++ m₂) ↔
      ∃ l₁ l₂, l = l₁ ++ l₂ ∧ List.Forall₂ R l₁ m₁ ∧ List.Forall₂ R l₂ m₂ := by
  constructor
  · intro h
    exact ⟨l.take m₁.length, l.drop m₁.length, (List.take_append_drop ..).symm,
      List.forall₂_take_append l m₁ m₂ h, List.forall₂_drop_append l m₁ m₂ h⟩
  · rintro ⟨l₁, l₂, rfl, h₁, h₂⟩
    exact List.rel_append h₁ h₂

theorem forall₂_filter_filterMap {γ : Type} {R : α → β → Prop} {S : α → γ → Prop} {p : α → Bool}
    {f : β → Option γ} {l : List α} {m : List β} (h : List.Forall₂ R l m)
    (hkeep : ∀ a b, R a b → p a = true → ∃ c, f b = some c ∧ S a c)
    (hdrop : ∀ a b, R a b → p a = false → f b = none) :
    List.Forall₂ S (l.filter p) (m.filterMap f) := by
  induction h with
  | nil => exact .nil
  | @cons a b l m hR _ ih =>
      cases hp : p a with
      | true =>
          obtain ⟨c, hc, hS⟩ := hkeep a b hR hp
          rw [List.filter_cons_of_pos hp, List.filterMap_cons_some hc]
          exact .cons hS ih
      | false =>
          rw [List.filter_cons_of_neg (by simp [hp]), List.filterMap_cons_none (hdrop a b hR hp)]
          exact ih

theorem map_eq_of_forall₂ {f : α → β} {l m : List α}
    (h : List.Forall₂ (fun a b => f b = f a) l m) : m.map f = l.map f := by
  induction h with
  | nil => rfl
  | cons hab _ ih => rw [List.map_cons, List.map_cons, hab, ih]

theorem eq_iff_of_forall₂ {P C : α → α → Prop} {A : α → β → Prop}
    {l l' : List α} {x y : List β} (h : List.Forall₂ P l l') (hx : List.Forall₂ A l x)
    (hy : List.Forall₂ A l' y)
    (hone : ∀ a a' b b', P a a' → A a b → A a' b' → (b' = b ↔ ¬ C a a')) :
    y = x ↔ ¬ ∃ p ∈ l.zip l', C p.1 p.2 := by
  induction h generalizing x y with
  | nil =>
      cases hx
      cases hy
      simp
  | cons hab _ ih =>
      cases hx with
      | cons hb hx =>
          cases hy with
          | cons hb' hy =>
              rw [List.cons.injEq, hone _ _ _ _ hab hb hb', ih hx hy]
              simp [not_or]

theorem rel_imp {R S : α → β → Prop} (h : ∀ a b, R a b → S a b) {x : Option α} {y : Option β}
    (hxy : Option.Rel R x y) : Option.Rel S x y := by
  cases hxy with
  | none => exact .none
  | some hR => exact .some (h _ _ hR)

theorem rel_getLast? {R : α → β → Prop} {l : List α} {m : List β} (h : List.Forall₂ R l m) :
    Option.Rel R l.getLast? m.getLast? := by
  have hreverse := List.forall₂_reverse_iff.mpr h
  rw [← List.head?_reverse, ← List.head?_reverse]
  generalize l.reverse = l' at hreverse
  generalize m.reverse = m' at hreverse
  cases hreverse with
  | nil => exact .none
  | cons hR _ => exact .some hR

def Succeeds (x : Except ε α) : Prop := ∃ a, x = .ok a

@[simp] theorem succeeds_ok (a : α) : Succeeds (.ok a : Except ε α) := ⟨a, rfl⟩

@[simp] theorem succeeds_pure (a : α) : Succeeds (pure a : Except ε α) := ⟨a, rfl⟩

@[simp] theorem not_succeeds_error (e : ε) : ¬ Succeeds (.error e : Except ε α) := by
  rintro ⟨a, h⟩
  cases h

@[simp] theorem not_succeeds_throw (e : ε) : ¬ Succeeds (throw e : Except ε α) := not_succeeds_error e

theorem succeeds_bind_iff {x : Except ε α} {f : α → Except ε β} :
    Succeeds (x >>= f) ↔ ∃ a, x = .ok a ∧ Succeeds (f a) := by
  simp only [Succeeds, bind_eq_ok_iff]
  constructor
  · rintro ⟨b, a, ha, hb⟩
    exact ⟨a, ha, b, hb⟩
  · rintro ⟨a, ha, b, hb⟩
    exact ⟨b, a, ha, hb⟩

/-- The rest of a computation may succeed whatever the value of its first step. -/
theorem succeeds_bind_iff_of_forall {x : Except ε α} {f : α → Except ε β} {p : Prop}
    (h : ∀ a, Succeeds (f a) ↔ p) : Succeeds (x >>= f) ↔ Succeeds x ∧ p := by
  rw [succeeds_bind_iff]
  simp only [h, exists_and_right]
  rfl

theorem succeeds_bind_pure_iff {x : Except ε α} {f : α → β} :
    Succeeds (x >>= fun a => pure (f a)) ↔ Succeeds x := by
  rw [succeeds_bind_iff]
  simp only [succeeds_pure, and_true]
  rfl

theorem succeeds_map_iff {x : Except ε α} {f : α → β} : Succeeds (x.map f) ↔ Succeeds x := by
  cases x with
  | error e => exact iff_of_false (not_succeeds_error e) (not_succeeds_error e)
  | ok a => exact iff_of_true (succeeds_ok _) (succeeds_ok a)

theorem succeeds_fmap_iff {x : Except ε α} {f : α → β} : Succeeds (f <$> x) ↔ Succeeds x :=
  succeeds_map_iff

theorem succeeds_mapError_iff {x : Except ε α} {f : ε → δ} :
    Succeeds (x.mapError f) ↔ Succeeds x := by
  simp only [Succeeds, mapError_eq_ok_iff]

theorem succeeds_mapM_iff {f : α → Except ε β} {l : List α} :
    Succeeds (l.mapM f) ↔ ∀ a ∈ l, Succeeds (f a) := by
  simp only [Succeeds, mapM_eq_ok_iff, exists_forall₂_iff]

end GLBindings.Success
