import GLBindings.Proofs.Symbol.Recasing

namespace GLBindings.Symbol

open Text

variable {cs : List Char} {ws : List (List Char)} {casing : Casing} {omitPrefix : Bool}

def AreCapital (ws : List (List Char)) : Prop := ∀ w ∈ ws, w ≠ [] ∧ ∀ c ∈ w, IsCapital c

/-- The prefix of constants, and words of capitals and digits with one underscore between two. -/
def IsConstant (cs : List Char) : Prop :=
  ∃ ws, ws ≠ [] ∧ AreCapital ws ∧ cs = 'G' :: 'L' :: '_' :: join '_' ws

/-- The casings in which words stay apart, whatever they are made of. -/
def separating : List Casing := [.initial, .snake, .upper]

namespace AreCapital

variable (h : AreCapital ws)

include h

theorem isAscii_join : ∀ c ∈ join '_' ws, IsAscii c :=
  Symbol.isAscii_join fun w hw c hc => ((h w hw).2 c hc).isAscii

theorem words_join : words (join '_' ws) = ws :=
  Symbol.words_join fun w hw => uniform_of_capital (h w hw).1 (h w hw).2

theorem map_toUpper : ws.map (·.map Char.toUpper) = ws := by
  have hword (w : List Char) (hw : w ∈ ws) : w.map Char.toUpper = w :=
    (List.map_congr_left fun c hc => ((h w hw).2 c hc).toUpper_eq).trans (List.map_id' w)
  exact (List.map_congr_left hword).trans (List.map_id' ws)

theorem map_toUpper_join : (join '_' ws).map Char.toUpper = join '_' ws := by
  rw [map_join, h.map_toUpper]
  rfl

theorem recase_snake : recase .snake (join '_' ws) = (join '_' ws).map Char.toLower := by
  rw [Symbol.recase_snake h.isAscii_join, h.words_join, map_join]
  rfl

theorem recase_upper : recase .upper (join '_' ws) = join '_' ws := by
  rw [Symbol.recase_upper h.isAscii_join, h.words_join, h.map_toUpper]

theorem map_toUpper_recase (hcasing : casing ∈ separating) :
    (recase casing (join '_' ws)).map Char.toUpper = join '_' ws := by
  simp only [separating, List.mem_cons, List.not_mem_nil, or_false] at hcasing
  rcases hcasing with rfl | rfl | rfl
  · rw [recase, h.map_toUpper_join]
  · rw [h.recase_snake, map_toUpper_toLower h.isAscii_join, h.map_toUpper_join]
  · rw [h.recase_upper, h.map_toUpper_join]

end AreCapital

/-- A constant has words of capitals with its prefix, which is one more word, and without it. -/
theorem IsConstant.exists_join (h : IsConstant cs) (omitPrefix : Bool) :
    ∃ ws, AreCapital ws ∧ (if omitPrefix then bare cs else cs) = join '_' ws := by
  obtain ⟨ws, hne, hws, rfl⟩ := h
  cases omitPrefix with
  | true => exact ⟨ws, hws, rfl⟩
  | false =>
      obtain ⟨v, vs, rfl⟩ := List.exists_cons_of_ne_nil hne
      have hfirst : ['G', 'L'] ≠ [] ∧ ∀ c ∈ ['G', 'L'], IsCapital c := by simp [IsCapital]
      exact ⟨['G', 'L'] :: v :: vs, List.forall_mem_cons.mpr ⟨hfirst, hws⟩, rfl⟩

theorem IsConstant.eq_cons_bare (h : IsConstant cs) : cs = 'G' :: 'L' :: '_' :: bare cs := by
  obtain ⟨ws, _, _, rfl⟩ := h
  rfl

theorem transform_inj (hcasing : casing ∈ separating) {s t : String} (hs : IsConstant s.toList)
    (ht : IsConstant t.toList) (h : transform casing omitPrefix s = transform casing omitPrefix t) :
    s = t := by
  obtain ⟨us, hus, hsjoin⟩ := hs.exists_join omitPrefix
  obtain ⟨vs, hvs, htjoin⟩ := ht.exists_join omitPrefix
  have hrecase : recase casing (join '_' us) = recase casing (join '_' vs) := by
    have hlist := congrArg String.toList h
    simpa [transform, hsjoin, htjoin] using hlist
  have hjoin : join '_' us = join '_' vs := by
    rw [← hus.map_toUpper_recase hcasing, hrecase, hvs.map_toUpper_recase hcasing]
  rw [← hsjoin, ← htjoin] at hjoin
  apply String.toList_inj.mp
  cases omitPrefix with
  | true =>
      have hbare : bare s.toList = bare t.toList := hjoin
      rw [hs.eq_cons_bare, ht.eq_cons_bare, hbare]
  | false => exact hjoin

/-- Without underscores it is lost where a digit begins a word. -/
example : transform .pascal true "GL_VEC_2_3" = transform .pascal true "GL_VEC_23" := by
  decide +kernel

end GLBindings.Symbol
