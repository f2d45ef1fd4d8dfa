import GLBindings.Proofs.LetterCase
import GLBindings.Proofs.Symbol.Words
import GLBindings.Proofs.Text
import Mathlib.Data.List.Chain

namespace GLBindings.Symbol

open Text

variable {w rest : List Char} {ws : List (List Char)}

/-- In front of `rest`, no word ends inside `w` and one ends with it. -/
inductive Unbroken (rest : List Char) : List Char → Prop
  | last {c : Char} (hc : c ≠ '_') (hends : endsBefore c rest = true) : Unbroken rest [c]
  | cons {c d : Char} {w : List Char} (hc : c ≠ '_') (hkept : endsBefore c (d :: (w ++ rest)) = false)
      (hw : Unbroken rest (d :: w)) : Unbroken rest (c :: d :: w)

theorem cut_append (h : Unbroken rest w) : cut (w ++ rest) = w :: cut rest := by
  induction h with
  | last hc hends => exact cut_of_ends hc hends
  | @cons c d w hc hkept _ ih =>
      rw [List.cons_append, List.cons_append, cut_of_not_ends hc hkept, ← List.cons_append, ih]
      rfl

/-- No capital stands behind the first character, so no word ends in front of one. -/
theorem unbroken_of_tail (hne : w ≠ []) (hmem : '_' ∉ w) (htail : ∀ c ∈ w.tail, isUpper c = false)
    (hends : ∀ c ∈ w.getLast?, endsBefore c rest = true) : Unbroken rest w := by
  induction w with
  | nil => exact absurd rfl hne
  | cons c w ih =>
      obtain ⟨hc, hmem⟩ := List.ne_and_not_mem_of_not_mem_cons hmem
      cases w with
      | nil => exact .last (Ne.symm hc) (hends c rfl)
      | cons d w =>
          obtain ⟨hd, htail⟩ := List.forall_mem_cons.mp htail
          have hkept : endsBefore c (d :: (w ++ rest)) = false := by
            simp [endsBefore, (List.ne_of_not_mem_cons hmem).symm, hd]
          exact .cons (Ne.symm hc) hkept (ih (by simp) hmem htail hends)

/-- No small letter stands in the word or right behind it, so no capital opens another word. -/
theorem unbroken_of_capitals (hne : w ≠ []) (hmem : '_' ∉ w) (hsmall : ∀ c ∈ w, isLower c = false)
    (hrest : rest.head?.any isLower = false) (hends : ∀ c ∈ w.getLast?, endsBefore c rest = true) :
    Unbroken rest w := by
  induction w with
  | nil => exact absurd rfl hne
  | cons c w ih =>
      obtain ⟨hc, hmem⟩ := List.ne_and_not_mem_of_not_mem_cons hmem
      obtain ⟨hcsmall, hsmall⟩ := List.forall_mem_cons.mp hsmall
      cases w with
      | nil => exact .last (Ne.symm hc) (hends c rfl)
      | cons d w =>
          have hnext : (w ++ rest).head?.any isLower = false := by
            cases w with
            | nil => exact hrest
            | cons e w => exact hsmall e (by simp)
          have hkept : endsBefore c (d :: (w ++ rest)) = false := by
            rw [endsBefore, hcsmall, hnext]
            simp [(List.ne_of_not_mem_cons hmem).symm]
          exact .cons (Ne.symm hc) hkept (ih (by simp) hmem hsmall hends)

structure Uniform (w : List Char) : Prop where
  ne_nil : w ≠ []
  not_mem : '_' ∉ w
  one_case : (∀ c ∈ w, isUpper c = false) ∨ ∀ c ∈ w, isLower c = false

theorem uniform_of_small (hne : w ≠ []) (h : ∀ c ∈ w, IsSmall c) : Uniform w where
  ne_nil := hne
  not_mem hmem := (h _ hmem).ne_underscore rfl
  one_case := .inl fun c hc => (h c hc).isUpper_eq_false

theorem uniform_of_capital (hne : w ≠ []) (h : ∀ c ∈ w, IsCapital c) : Uniform w where
  ne_nil := hne
  not_mem hmem := (h _ hmem).ne_underscore rfl
  one_case := .inr fun c hc => (h c hc).isLower_eq_false

theorem Uniform.unbroken (h : Uniform w) (hrest : ∀ c ∈ rest.head?, c = '_') : Unbroken rest w := by
  have hends (c : Char) (_ : c ∈ w.getLast?) : endsBefore c rest = true := by
    cases rest with
    | nil => rfl
    | cons d rest => simp [endsBefore, hrest d rfl]
  rcases h.one_case with hsmall | hcapital
  · exact unbroken_of_tail h.ne_nil h.not_mem (fun c hc => hsmall c (List.mem_of_mem_tail hc)) hends
  · have hnext : rest.head?.any isLower = false := by
      cases rest with
      | nil => rfl
      | cons d rest =>
          obtain rfl := hrest d rfl
          exact isLower_underscore
    exact unbroken_of_capitals h.ne_nil h.not_mem hcapital hnext hends

theorem words_join (h : ∀ w ∈ ws, Uniform w) : words (join '_' ws) = ws := by
  rw [words_eq_cut]
  induction ws with
  | nil => rfl
  | cons w ws ih =>
      obtain ⟨hw, hws⟩ := List.forall_mem_cons.mp h
      cases ws with
      | nil =>
          have hcut : cut (w ++ []) = w :: cut [] := cut_append (hw.unbroken (by simp))
          simpa [join, cut] using hcut
      | cons v vs =>
          have hrest : ∀ c ∈ ('_' :: join '_' (v :: vs)).head?, c = '_' := by simp
          rw [join_cons_cons, cut_append (hw.unbroken hrest), cut_underscore, ih hws]

theorem join_ne_nil (h : ∀ w ∈ ws, w ≠ []) (hne : ws ≠ []) : join '_' ws ≠ [] := by
  cases ws with
  | nil => exact absurd rfl hne
  | cons w ws =>
      cases ws with
      | nil => exact h w List.mem_cons_self
      | cons v vs => simp [join_cons_cons]

/-- No underscore stands at either end, and of two characters side by side one is none. -/
structure Tidy (cs : List Char) : Prop where
  head_ne : cs.head? ≠ some '_'
  last_ne : cs.getLast? ≠ some '_'
  apart : cs.IsChain fun a b => a ≠ '_' ∨ b ≠ '_'

theorem tidy_of_not_mem (h : '_' ∉ w) : Tidy w where
  head_ne hhead := h (List.mem_of_mem_head? hhead)
  last_ne hlast := h (List.mem_of_getLast? hlast)
  apart := (List.pairwise_of_forall_mem_list fun _ ha _ _ => .inl (ne_of_mem_of_not_mem ha h)).isChain

theorem Tidy.append (hw : Tidy w) (hrest : Tidy rest) (hne : w ≠ []) (hne' : rest ≠ []) :
    Tidy (w ++ '_' :: rest) where
  head_ne := by
    rw [List.head?_append_of_ne_nil _ hne]
    exact hw.head_ne
  last_ne := by
    obtain ⟨d, ds, rfl⟩ := List.exists_cons_of_ne_nil hne'
    rw [List.getLast?_append_cons, List.getLast?_cons_cons]
    exact hrest.last_ne
  apart := by
    refine List.isChain_append.mpr ⟨hw.apart, List.isChain_cons.mpr ⟨?_, hrest.apart⟩, ?_⟩
    · rintro d hd
      refine .inr ?_
      rintro rfl
      exact hrest.head_ne hd
    · rintro c hc _ _
      refine .inl ?_
      rintro rfl
      exact hw.last_ne hc

theorem tidy_join (h : ∀ w ∈ ws, Uniform w) : Tidy (join '_' ws) := by
  induction ws with
  | nil => exact tidy_of_not_mem (by simp [join])
  | cons w ws ih =>
      obtain ⟨hw, hws⟩ := List.forall_mem_cons.mp h
      cases ws with
      | nil => exact tidy_of_not_mem hw.not_mem
      | cons v vs =>
          have hne := join_ne_nil (fun u hu => (hws u hu).ne_nil) (List.cons_ne_nil v vs)
          exact (tidy_of_not_mem hw.not_mem).append (ih hws) hw.ne_nil hne

end GLBindings.Symbol
