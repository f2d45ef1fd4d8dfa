import GLBindings.Proofs.Symbol.Joining

namespace GLBindings.Symbol

open Text

variable {c : Char} {rest cs : List Char}

theorem unbroken_constant : Unbroken ('_' :: rest) ['G', 'L'] := by
  have huniform : Uniform ['G', 'L'] := uniform_of_capital (by simp) (by simp [IsCapital])
  exact huniform.unbroken (by simp)

theorem unbroken_command (hc : c.isUpper = true) : Unbroken (c :: rest) ['g', 'l'] := by
  have huniform : Uniform ['g', 'l'] := uniform_of_small (by simp) (by simp [IsSmall])
  have hupper : isUpper c = true := (isAscii_of_isUpper hc).isUpper_eq.trans hc
  have hlower : isLower 'l' = true := (isAscii_of_isLower rfl).isLower_eq
  have hl : isUpper 'l' = false := IsSmall.isUpper_eq_false (.inl rfl)
  exact unbroken_of_tail huniform.ne_nil huniform.not_mem (by simp [hl])
    (by simp [endsBefore, hlower, hupper])

theorem cut_numbered (hc : c.isDigit = true) :
    cut ('g' :: 'l' :: c :: rest) = attach ['g', 'l'] (cut (c :: rest)) := by
  have hsmall : IsSmall c := .inr hc
  have hl : endsBefore 'l' (c :: rest) = false := by
    simp [endsBefore, hsmall.ne_underscore, hsmall.isUpper_eq_false]
  have hg : endsBefore 'g' ('l' :: c :: rest) = false := by
    have hupper : isUpper 'l' = false := IsSmall.isUpper_eq_false (.inl rfl)
    simp [endsBefore, hupper]
  rw [cut_of_not_ends (by decide) hg, cut_of_not_ends (by decide) hl, attach_attach]
  rfl

/-- A symbol, and what is left of it without its prefix. -/
inductive Omits : List Char → List Char → Prop
  | constant {rest : List Char}
      (hwords : words ('G' :: 'L' :: '_' :: rest) = ['G', 'L'] :: words rest) :
      Omits ('G' :: 'L' :: '_' :: rest) rest
  | command {c : Char} {rest : List Char} (hc : c.isUpper = true)
      (hwords : words ('g' :: 'l' :: c :: rest) = ['g', 'l'] :: words (c :: rest)) :
      Omits ('g' :: 'l' :: c :: rest) (c :: rest)
  | numbered {c : Char} {rest w : List Char} {ws : List (List Char)} (hc : c.isDigit = true)
      (hrest : words (c :: rest) = w :: ws)
      (hwords : words ('g' :: 'l' :: c :: rest) = (['g', 'l'] ++ w) :: ws) :
      Omits ('g' :: 'l' :: c :: rest) (c :: rest)

theorem omits_constant (rest : List Char) : Omits ('G' :: 'L' :: '_' :: rest) rest := by
  refine .constant ?_
  rw [words_eq_cut, words_eq_cut, ← cut_underscore rest, ← cut_append unbroken_constant]
  rfl

theorem omits_command (hc : c.isUpper = true) (rest : List Char) :
    Omits ('g' :: 'l' :: c :: rest) (c :: rest) := by
  refine .command hc ?_
  rw [words_eq_cut, words_eq_cut, ← cut_append (unbroken_command hc)]
  rfl

theorem omits_numbered (hc : c.isDigit = true) (rest : List Char) :
    Omits ('g' :: 'l' :: c :: rest) (c :: rest) := by
  have hne : c ≠ '_' := IsSmall.ne_underscore (.inr hc)
  obtain ⟨w, ws, hcut⟩ := List.exists_cons_of_ne_nil (cut_ne_nil hne rest)
  refine .numbered hc ((words_eq_cut _).trans hcut) ?_
  rw [words_eq_cut, cut_numbered hc, hcut]
  rfl

theorem omits_of_bare_ne (h : bare cs ≠ cs) : Omits cs (bare cs) := by
  unfold bare at h ⊢
  split
  next rest => exact omits_constant rest
  next c rest =>
    split
    next hc =>
      rw [Bool.or_eq_true] at hc
      rcases hc with hc | hc
      · exact omits_command hc rest
      · exact omits_numbered hc rest
    next hc => simp [hc] at h
  next => simp at h

theorem Omits.length_lt (h : Omits cs rest) : rest.length < cs.length := by
  cases h <;> simp only [List.length_cons] <;> omega

theorem bare_omits (cs : List Char) : (bare cs).length < cs.length ↔ Omits cs (bare cs) := by
  refine ⟨fun hlt => omits_of_bare_ne ?_, Omits.length_lt⟩
  intro heq
  rw [heq] at hlt
  exact Nat.lt_irrefl _ hlt

/-- A digit goes on with the word of the prefix. -/
example : (words "gl2DTexture".toList).map String.ofList = ["gl2D", "Texture"] ∧
    (words (bare "gl2DTexture".toList)).map String.ofList = ["2D", "Texture"] := by decide +kernel

end GLBindings.Symbol
