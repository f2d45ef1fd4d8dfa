import GLBindings.Proofs.Symbol.Recasing

namespace GLBindings.Symbol

open Text

variable {w rest : List Char} {ws : List (List Char)}

/-- A word of camel casing: behind its first character there are no capitals, and a small letter closes
it. -/
structure Hump (w : List Char) : Prop where
  not_mem : '_' ∉ w
  tail : ∀ c ∈ w.tail, isUpper c = false
  last : ∃ c, w.getLast? = some c ∧ isLower c = true

def OpensWithCapital (w : List Char) : Prop := ∃ c, w.head? = some c ∧ isUpper c = true

theorem Hump.unbroken (h : Hump w) (hrest : rest = [] ∨ OpensWithCapital rest) : Unbroken rest w := by
  obtain ⟨c, hc, hlower⟩ := h.last
  refine unbroken_of_tail ?_ h.not_mem h.tail ?_
  · rintro rfl
    simp at hc
  · intro b hb
    obtain rfl : c = b := by simpa [hc] using hb
    rcases hrest with rfl | ⟨d, hd, hupper⟩
    · rfl
    · obtain ⟨tl, rfl⟩ := List.head?_eq_some_iff.mp hd
      simp [endsBefore, hlower, hupper]

theorem OpensWithCapital.append (h : OpensWithCapital w) (rest : List Char) :
    OpensWithCapital (w ++ rest) := by
  obtain ⟨c, hc, hupper⟩ := h
  exact ⟨c, by simp [List.head?_append, hc], hupper⟩

theorem words_flatten (h : ∀ w ∈ ws, Hump w) (hfront : ∀ w ∈ ws.tail, OpensWithCapital w) :
    words ws.flatten = ws := by
  rw [words_eq_cut]
  induction ws with
  | nil => rfl
  | cons w ws ih =>
      obtain ⟨hw, hws⟩ := List.forall_mem_cons.mp h
      have hrest : ws.flatten = [] ∨ OpensWithCapital ws.flatten := by
        cases ws with
        | nil => exact .inl rfl
        | cons v vs =>
            rw [List.flatten_cons]
            exact .inr ((hfront v List.mem_cons_self).append vs.flatten)
      rw [List.flatten_cons, cut_append (hw.unbroken hrest),
        ih hws fun v hv => hfront v (List.mem_of_mem_tail hv)]

/-- Small letters and digits, two letters in front and one at the end. -/
structure IsPlainWord (w : List Char) : Prop where
  small : ∀ c ∈ w, IsSmall c
  front : ∃ a b rest, w = a :: b :: rest ∧ a.isLower = true ∧ b.isLower = true
  last : ∃ c, w.getLast? = some c ∧ c.isLower = true

namespace IsPlainWord

variable (h : IsPlainWord w)

include h

theorem isAscii : ∀ c ∈ w, IsAscii c := fun c hc => (h.small c hc).isAscii

theorem map_toLower : w.map Char.toLower = w := by
  rw [List.map_congr_left fun c hc => (h.small c hc).toLower_eq, List.map_id']

theorem lower_eq : lower w = w := by
  rw [lower_eq_map h.isAscii, h.map_toLower]

theorem uniform : Uniform w := by
  refine uniform_of_small ?_ h.small
  obtain ⟨a, b, rest, rfl, _⟩ := h.front
  simp

theorem isLower_last : ∃ c, w.getLast? = some c ∧ isLower c = true := by
  obtain ⟨c, hc, hlower⟩ := h.last
  exact ⟨c, hc, (isAscii_of_isLower hlower).isLower_eq.trans hlower⟩

theorem hump : Hump w where
  not_mem := h.uniform.not_mem
  tail c hc := (h.small c (List.mem_of_mem_tail hc)).isUpper_eq_false
  last := h.isLower_last

theorem exists_capitalize : ∃ a rest, w = a :: rest ∧ rest ≠ [] ∧ a.isLower = true ∧
    capitalize w = a.toUpper :: rest := by
  obtain ⟨a, b, rest, hw, ha, _⟩ := h.front
  have htail : (b :: rest).map Char.toLower = b :: rest := by
    have hmap := h.map_toLower
    rw [hw] at hmap
    exact (List.cons.inj hmap).2
  refine ⟨a, b :: rest, hw, by simp, ha, ?_⟩
  rw [capitalize_eq h.isAscii, hw, List.tail_cons, htail]
  rfl

theorem hump_capitalize : Hump (capitalize w) := by
  obtain ⟨a, rest, rfl, hne, ha, hcapital⟩ := h.exists_capitalize
  obtain ⟨hmem, hrest⟩ := List.ne_and_not_mem_of_not_mem_cons h.uniform.not_mem
  rw [hcapital]
  constructor
  · rw [List.mem_cons, not_or]
    exact ⟨((isAscii_of_isLower ha).caseLaws.toUpper_ne_underscore hmem.symm).symm, hrest⟩
  · exact fun c hc => (h.small c (List.mem_cons_of_mem a hc)).isUpper_eq_false
  · have hlast := h.isLower_last
    obtain ⟨b, rest, rfl⟩ := List.exists_cons_of_ne_nil hne
    simpa using hlast

theorem opensWithCapital_capitalize : OpensWithCapital (capitalize w) := by
  obtain ⟨a, rest, rfl, _, ha, hcapital⟩ := h.exists_capitalize
  exact ⟨a.toUpper, by rw [hcapital]; rfl, (isAscii_of_isLower ha).isUpper_toUpper ha⟩

theorem map_toLower_capitalize : (capitalize w).map Char.toLower = w := by
  obtain ⟨a, rest, rfl, _, ha, hcapital⟩ := h.exists_capitalize
  rw [hcapital, List.map_cons, (isAscii_of_isLower ha).caseLaws.toLower_toUpper, ← List.map_cons]
  exact h.map_toLower

end IsPlainWord

section Casings

variable (h : ∀ w ∈ ws, IsPlainWord w)

include h

theorem isAscii_join_plain : ∀ c ∈ join '_' ws, IsAscii c :=
  isAscii_join fun w hw => (h w hw).isAscii

theorem map_toLower_plain : ws.map (·.map Char.toLower) = ws :=
  (List.map_congr_left fun w hw => (h w hw).map_toLower).trans (List.map_id' ws)

theorem map_toLower_map_capitalize : (ws.map capitalize).map (·.map Char.toLower) = ws := by
  rw [List.map_map]
  exact (List.map_congr_left fun w hw => (h w hw).map_toLower_capitalize).trans (List.map_id' ws)

theorem words_join_plain : words (join '_' ws) = ws := words_join fun w hw => (h w hw).uniform

theorem hump_of_mem_map : ∀ v ∈ ws.map capitalize, Hump v :=
  List.forall_mem_map.mpr fun w hw => (h w hw).hump_capitalize

theorem opensWithCapital_of_mem_map : ∀ v ∈ ws.map capitalize, OpensWithCapital v :=
  List.forall_mem_map.mpr fun w hw => (h w hw).opensWithCapital_capitalize

theorem words_pascal : words (pascal ws) = ws.map capitalize := by
  rw [pascal, List.flatMap_def]
  exact words_flatten (hump_of_mem_map h) fun v hv =>
    opensWithCapital_of_mem_map h v (List.mem_of_mem_tail hv)

/-- The first word is left in small letters, and it needs no capital. -/
theorem words_camel_cons (hw : IsPlainWord w) : words (camel (w :: ws)) = w :: ws.map capitalize := by
  rw [camel, pascal, List.flatMap_def, hw.lower_eq, ← List.flatten_cons]
  exact words_flatten (List.forall_mem_cons.mpr ⟨hw.hump, hump_of_mem_map h⟩)
    (opensWithCapital_of_mem_map h)

end Casings

theorem words_recase_plain (h : ∀ w ∈ ws, IsPlainWord w) (casing : Casing) :
    (words (recase casing (join '_' ws))).map (·.map Char.toLower) = ws := by
  have hascii := isAscii_join_plain h
  have hwords := words_join_plain h
  have hsmall := map_toLower_plain h
  cases casing with
  | initial => rw [recase, hwords, hsmall]
  | snake => rw [words_recase_snake hascii, hwords, hsmall, hsmall]
  | upper =>
      have hsame := sameWords_upper hascii
      rw [SameWords, hwords, hsmall] at hsame
      exact hsame
  | pascal => rw [recase, hwords, words_pascal h, map_toLower_map_capitalize h]
  | camel =>
      rw [recase, hwords]
      cases ws with
      | nil => rfl
      | cons w ws =>
          obtain ⟨hw, hws⟩ := List.forall_mem_cons.mp h
          rw [words_camel_cons hws hw, List.map_cons, hw.map_toLower, map_toLower_map_capitalize hws]

/-- Every casing of the symbol carries the words, so the symbol and its capitals can be had back from
it. -/
structure Carried (ws : List (List Char)) (s : String) : Prop where
  words_of : ∀ casing,
    (words (transform casing false s).toList).map (·.map Char.toLower) = ws
  snake_of : ∀ casing, transform .snake false (transform casing false s) = s
  upper_of : ∀ casing, transform .upper false (transform casing false s) =
    transform .upper false s
  upper_eq : transform .upper false s = String.ofList (s.toList.map Char.toUpper)

theorem transform_carries (h : ∀ w ∈ ws, IsPlainWord w) :
    Carried ws (String.ofList (join '_' ws)) := by
  have hwords := words_join_plain h
  have hascii : ∀ c ∈ (String.ofList (join '_' ws)).toList, IsAscii c := by
    rw [String.toList_ofList]
    exact isAscii_join_plain h
  have hsame (casing : Casing) :
      SameWords (words (recase casing (String.ofList (join '_' ws)).toList))
        (words (String.ofList (join '_' ws)).toList) := by
    rw [String.toList_ofList, hwords, SameWords, words_recase_plain h, map_toLower_plain h]
  refine ⟨?words_of, ?snake_of, ?upper_of, ?upper_eq⟩
  case words_of =>
    intro casing
    rw [toList_transform, String.toList_ofList, words_recase_plain h]
  case snake_of =>
    intro casing
    rw [transform_transform (by decide) hascii (hsame casing)]
    apply String.toList_inj.mp
    rw [toList_transform, recase_snake hascii, String.toList_ofList, hwords, map_toLower_plain h]
  case upper_of =>
    intro casing
    exact transform_transform (by decide) hascii (hsame casing)
  case upper_eq =>
    apply String.toList_inj.mp
    rw [toList_transform, recase_upper hascii]
    simp only [String.toList_ofList]
    rw [hwords, map_join]
    rfl

theorem transform_carries_texture :
    (∀ w ∈ [['t', 'e', 'x'], ['i', 'm', '2', 'd']], IsPlainWord w) ∧
      Carried [['t', 'e', 'x'], ['i', 'm', '2', 'd']] "tex_im2d" := by
  have htex : IsPlainWord ['t', 'e', 'x'] :=
    ⟨by simp [IsSmall], ⟨'t', 'e', ['x'], rfl, rfl, rfl⟩, ⟨'x', rfl, rfl⟩⟩
  have himage : IsPlainWord ['i', 'm', '2', 'd'] :=
    ⟨by simp [IsSmall], ⟨'i', 'm', ['2', 'd'], rfl, rfl, rfl⟩, ⟨'d', rfl, rfl⟩⟩
  have h : ∀ w ∈ [['t', 'e', 'x'], ['i', 'm', '2', 'd']], IsPlainWord w := by
    simp [htex, himage]
  exact ⟨h, transform_carries h⟩

/-- Words of one letter run together. -/
example : transform .snake false (transform .pascal false "color_r_g") = "color_rg" := by
  decide +kernel

end GLBindings.Symbol
