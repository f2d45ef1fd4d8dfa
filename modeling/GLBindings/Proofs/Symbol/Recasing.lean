import GLBindings.Proofs.LetterCase
import GLBindings.Proofs.Symbol.Joining

namespace GLBindings.Symbol

open Text

variable {cs ds : List Char} {us vs : List (List Char)}

def SameWords (us vs : List (List Char)) : Prop :=
  us.map (·.map Char.toLower) = vs.map (·.map Char.toLower)

def AreAscii (ws : List (List Char)) : Prop := ∀ w ∈ ws, ∀ c ∈ w, IsAscii c

theorem areAscii_words (h : ∀ c ∈ cs, IsAscii c) : AreAscii (words cs) := by
  intro w hw c hc
  rw [words_eq_cut] at hw
  exact h c (mem_of_mem_cut hw hc).1

/-- A mapping of letters that leaves one case only, and makes no underscores, keeps the words whole. -/
theorem uniform_words_map {f : Char → Char} (hf : ∀ {c}, IsAscii c → c ≠ '_' → f c ≠ '_')
    (hcase : (∀ {c}, IsAscii c → isUpper (f c) = false) ∨ ∀ {c}, IsAscii c → isLower (f c) = false)
    (h : ∀ c ∈ cs, IsAscii c) : ∀ w ∈ (words cs).map (·.map f), Uniform w := by
  rw [List.forall_mem_map]
  intro w hw
  have hascii := areAscii_words h w hw
  rw [words_eq_cut] at hw
  refine ⟨by simpa using ne_nil_of_mem_cut hw, ?_, ?_⟩
  · rw [List.mem_map]
    rintro ⟨c, hc, heq⟩
    exact hf (hascii c hc) (mem_of_mem_cut hw hc).2 heq
  · simp only [List.forall_mem_map]
    exact hcase.imp (fun hupper c hc => hupper (hascii c hc)) fun hlower c hc => hlower (hascii c hc)

section Underscores

variable (h : ∀ c ∈ cs, IsAscii c)

include h

theorem uniform_toLower : ∀ w ∈ (words cs).map (·.map Char.toLower), Uniform w :=
  uniform_words_map (fun hc => hc.caseLaws.toLower_ne_underscore) (.inl IsAscii.isUpper_toLower) h

theorem uniform_toUpper : ∀ w ∈ (words cs).map (·.map Char.toUpper), Uniform w :=
  uniform_words_map (fun hc => hc.caseLaws.toUpper_ne_underscore) (.inr IsAscii.isLower_toUpper) h

theorem recase_snake : recase .snake cs = join '_' ((words cs).map (·.map Char.toLower)) :=
  congrArg (join '_') (List.map_congr_left fun w hw => lower_eq_map (areAscii_words h w hw))

theorem recase_upper : recase .upper cs = join '_' ((words cs).map (·.map Char.toUpper)) :=
  congrArg (join '_') (List.map_congr_left fun w hw => upper_eq_map (areAscii_words h w hw))

theorem words_recase_snake : words (recase .snake cs) = (words cs).map (·.map Char.toLower) := by
  rw [recase_snake h, words_join (uniform_toLower h)]

theorem words_recase_upper : words (recase .upper cs) = (words cs).map (·.map Char.toUpper) := by
  rw [recase_upper h, words_join (uniform_toUpper h)]

theorem sameWords_map {f : Char → Char} (hf : ∀ {c}, IsAscii c → (f c).toLower = c.toLower) :
    SameWords ((words cs).map (·.map f)) (words cs) := by
  rw [SameWords, List.map_map]
  refine List.map_congr_left fun w hw => ?_
  rw [Function.comp_apply, List.map_map]
  exact List.map_congr_left fun c hc => hf (areAscii_words h w hw c hc)

theorem sameWords_snake : SameWords (words (recase .snake cs)) (words cs) := by
  rw [words_recase_snake h]
  exact sameWords_map h fun hc => hc.caseLaws.toLower_toLower

theorem sameWords_upper : SameWords (words (recase .upper cs)) (words cs) := by
  rw [words_recase_upper h]
  exact sameWords_map h fun hc => hc.caseLaws.toLower_toUpper

end Underscores

namespace SameWords

variable (h : SameWords us vs) (hus : AreAscii us) (hvs : AreAscii vs)

include h hus hvs

theorem map_eq {f : List Char → List Char}
    (hf : ∀ {w : List Char}, (∀ c ∈ w, IsAscii c) → f (w.map Char.toLower) = f w) :
    us.map f = vs.map f := by
  have hmap {ws : List (List Char)} (hws : AreAscii ws) :
      (ws.map (·.map Char.toLower)).map f = ws.map f := by
    rw [List.map_map]
    exact List.map_congr_left fun w hw => hf (hws w hw)
  rw [← hmap hus, ← hmap hvs, h]

theorem pascal_eq : pascal us = pascal vs := by
  rw [pascal, pascal, List.flatMap_def, List.flatMap_def, h.map_eq hus hvs capitalize_map_toLower]

theorem camel_eq : camel us = camel vs := by
  cases us with
  | nil =>
      obtain rfl : vs = [] := by simpa [SameWords, eq_comm] using h
      rfl
  | cons u us =>
      cases vs with
      | nil => simp [SameWords] at h
      | cons v vs =>
          obtain ⟨hfirst, hrest⟩ := List.cons.inj h
          obtain ⟨hu, hus⟩ := List.forall_mem_cons.mp hus
          obtain ⟨hv, hvs⟩ := List.forall_mem_cons.mp hvs
          have hlower : lower u = lower v :=
            (lower_map_toLower hu).symm.trans ((congrArg lower hfirst).trans (lower_map_toLower hv))
          rw [camel, camel, pascal_eq hrest hus hvs, hlower]

end SameWords

theorem recase_congr {casing : Casing} (hne : casing ≠ .initial) (hcs : ∀ c ∈ cs, IsAscii c)
    (hds : ∀ c ∈ ds, IsAscii c) (h : SameWords (words cs) (words ds)) :
    recase casing cs = recase casing ds := by
  have hus := areAscii_words hcs
  have hvs := areAscii_words hds
  cases casing with
  | initial => exact absurd rfl hne
  | snake => rw [recase, recase, h.map_eq hus hvs lower_map_toLower]
  | upper => rw [recase, recase, h.map_eq hus hvs upper_map_toLower]
  | camel => exact h.camel_eq hus hvs
  | pascal => exact h.pascal_eq hus hvs

theorem isAscii_join (h : AreAscii us) : ∀ c ∈ join '_' us, IsAscii c := by
  intro c hc
  rcases eq_or_mem_of_mem_join hc with rfl | ⟨w, hw, hc⟩
  · decide
  · exact h w hw c hc

theorem isAscii_pascal (h : AreAscii us) : ∀ c ∈ pascal us, IsAscii c := by
  intro c hc
  obtain ⟨w, hw, hc⟩ := List.mem_flatMap.mp hc
  exact isAscii_capitalize (h w hw) c hc

theorem isAscii_recase (casing : Casing) (h : ∀ c ∈ cs, IsAscii c) :
    ∀ c ∈ recase casing cs, IsAscii c := by
  have hwords := areAscii_words h
  cases casing with
  | initial => exact h
  | snake => exact isAscii_join (List.forall_mem_map.mpr fun w hw => isAscii_lower (hwords w hw))
  | upper => exact isAscii_join (List.forall_mem_map.mpr fun w hw => isAscii_upper (hwords w hw))
  | pascal => exact isAscii_pascal hwords
  | camel =>
      rw [recase]
      cases hcs : words cs with
      | nil => simp [camel]
      | cons w ws =>
          rw [hcs] at hwords
          obtain ⟨hw, hws⟩ := List.forall_mem_cons.mp hwords
          exact List.forall_mem_append.mpr ⟨isAscii_lower hw, isAscii_pascal hws⟩

theorem toList_transform (casing : Casing) (s : String) :
    (transform casing false s).toList = recase casing s.toList := by
  simp [transform]

/-- A second casing is not aware of the first, if that has kept the words. -/
theorem transform_transform {casing casing' : Casing} {s : String} (hne : casing' ≠ .initial)
    (h : ∀ c ∈ s.toList, IsAscii c)
    (hsame : SameWords (words (recase casing s.toList)) (words s.toList)) :
    transform casing' false (transform casing false s) = transform casing' false s := by
  apply String.toList_inj.mp
  simp only [toList_transform]
  exact recase_congr hne (isAscii_recase casing h) h hsame

/-- Each of the two casings with underscores gives one form, from which the other can be made. -/
structure Canonical (s : String) : Prop where
  snake_snake : transform .snake false (transform .snake false s) = transform .snake false s
  upper_upper : transform .upper false (transform .upper false s) = transform .upper false s
  snake_upper : transform .snake false (transform .upper false s) = transform .snake false s
  upper_snake : transform .upper false (transform .snake false s) = transform .upper false s
  words_snake : words (transform .snake false s).toList =
    (words s.toList).map (·.map Char.toLower)
  words_upper : words (transform .upper false s).toList =
    (words s.toList).map (·.map Char.toUpper)
  tidy_snake : Tidy (transform .snake false s).toList
  tidy_upper : Tidy (transform .upper false s).toList

theorem transform_canonical {s : String} (h : ∀ c ∈ s.toList, IsAscii c) : Canonical s where
  snake_snake := transform_transform (by decide) h (sameWords_snake h)
  upper_upper := transform_transform (by decide) h (sameWords_upper h)
  snake_upper := transform_transform (by decide) h (sameWords_upper h)
  upper_snake := transform_transform (by decide) h (sameWords_snake h)
  words_snake := by rw [toList_transform, words_recase_snake h]
  words_upper := by rw [toList_transform, words_recase_upper h]
  tidy_snake := by
    rw [toList_transform, recase_snake h]
    exact tidy_join (uniform_toLower h)
  tidy_upper := by
    rw [toList_transform, recase_upper h]
    exact tidy_join (uniform_toUpper h)

theorem transform_canonical_mixed :
    (∀ c ∈ "_glARBCopy__Tex2DImage_".toList, IsAscii c) ∧ Canonical "_glARBCopy__Tex2DImage_" := by
  have h : ∀ c ∈ "_glARBCopy__Tex2DImage_".toList, IsAscii c := by simp [IsAscii]
  exact ⟨h, transform_canonical h⟩

end GLBindings.Symbol
