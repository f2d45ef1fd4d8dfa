import GLBindings.Json
import GLBindings.Json.Reader

namespace GLBindings.Json

namespace Token

variable {rest : List Char}

theorem quoted_unit {a b c d x : Char} (h : (unit? a b c d >>= scalar?) = some x) :
    quoted ('\\' :: 'u' :: a :: b :: c :: d :: rest) =
      (quoted rest).map fun p => (x :: p.1, p.2) := by
  by_cases hnext : ∃ a' b' c' d' tail, rest = '\\' :: 'u' :: a' :: b' :: c' :: d' :: tail
  · obtain ⟨a', b', c', d', tail, rfl⟩ := hnext
    rw [quoted, h]
  · obtain ⟨n, hn, hx⟩ := Option.bind_eq_some_iff.mp h
    rw [quoted, hn, Option.bind_eq_bind, Option.bind_some, hx]
    · cases quoted rest <;> rfl
    · rintro a' b' c' d' tail rfl
      exact hnext ⟨a', b', c', d', tail, rfl⟩

theorem quoted_unescape {c x : Char} (h : unescape? c = some x) (hc : c ≠ 'u') :
    quoted ('\\' :: c :: rest) = (quoted rest).map fun p => (x :: p.1, p.2) := by
  rw [quoted, h]
  · cases quoted rest <;> rfl
  · intro _ _ _ _ _ _ _ _ _ hu _
    exact hc hu
  · intro _ _ _ _ _ hu _
    exact hc hu

theorem quoted_cons {c : Char} (hquote : c ≠ '"') (hslash : c ≠ '\\') (h : ¬ c.toNat < 0x20) :
    quoted (c :: rest) = (quoted rest).map fun p => (c :: p.1, p.2) := by
  rw [quoted, if_neg h]
  · exact hquote
  all_goals
    intros
    contradiction

theorem hexDigit_unit : ∀ n < 0x20,
    (unit? '0' '0' (hexDigit (n / 16)) (hexDigit n) >>= scalar?) = some (Char.ofNat n) := by
  decide

theorem quoted_escape (c : Char) :
    quoted (escape c ++ rest) = (quoted rest).map fun p => (c :: p.1, p.2) := by
  unfold escape
  split
  case h_8 hquote hslash _ _ _ _ _ =>
    split
    next h =>
      have hunit := hexDigit_unit c.toNat h
      rw [Char.ofNat_toNat] at hunit
      exact quoted_unit hunit
    next h => exact quoted_cons hquote hslash h
  all_goals exact quoted_unescape rfl (by decide)

theorem quoted_flatMap_escape (cs : List Char) :
    quoted (cs.flatMap escape ++ '"' :: rest) = some (cs, rest) := by
  induction cs with
  | nil => simp [quoted]
  | cons c cs ih => rw [List.flatMap_cons, List.append_assoc, quoted_escape, ih, Option.map_some]

/-- The characters have the tokens, whatever follows them. -/
def Spells (cs : List Char) (ts : List Token) : Prop :=
  ∀ rest, ofChars (cs ++ rest) = (ofChars rest).map (ts ++ ·)

/-- The characters have the tokens, if nothing follows that would go on with a word. -/
def SpellsBefore (cs : List Char) (ts : List Token) : Prop :=
  ∀ rest, (∀ c ∈ rest.head?, isWordChar c = false) →
    ofChars (cs ++ rest) = (ofChars rest).map (ts ++ ·)

section Combination

variable {cs ds : List Char} {ts us : List Token}

theorem Spells.before (h : Spells cs ts) : SpellsBefore cs ts := fun rest _ => h rest

theorem Spells.append (h : Spells cs ts) (h' : Spells ds us) : Spells (cs ++ ds) (ts ++ us) := by
  intro rest
  rw [List.append_assoc, h, h', Option.map_map]
  simp [Function.comp_def]

theorem SpellsBefore.append {c : Char} (h : SpellsBefore cs ts) (h' : Spells (c :: ds) us)
    (hc : isWordChar c = false) : Spells (cs ++ c :: ds) (ts ++ us) := by
  intro rest
  have hhead : ∀ d ∈ (c :: ds ++ rest).head?, isWordChar d = false := by
    rintro d ⟨⟩
    exact hc
  rw [List.append_assoc, h _ hhead, h', Option.map_map]
  simp [Function.comp_def]

end Combination

theorem ofChars_eq_some {cs : List Char} {ts : List Token} (h : SpellsBefore cs ts) :
    ofChars cs = some ts := by
  have hcs := h [] (by simp)
  rw [List.append_nil, ofChars, Option.map_some, List.append_nil] at hcs
  exact hcs

theorem spells_quote (s : String) : Spells (quote s) [atom (.string s)] := by
  intro rest
  have hquoted : quoted (s.toList.flatMap escape ++ ['"'] ++ rest) = some (s.toList, rest) := by
    rw [List.append_assoc]
    exact quoted_flatMap_escape s.toList
  rw [quote, List.cons_append, List.cons_append, ofChars, if_neg (by decide), if_pos rfl]
  split
  next cs r h =>
    cases hquoted.symm.trans h
    rw [String.ofList_toList]
    rfl
  next h => cases hquoted.symm.trans h

theorem isSpace_iff {c : Char} : isSpace c ↔ c = ' ' ∨ c = '\t' ∨ c = '\n' ∨ c = '\r' := by
  simp [isSpace, or_assoc]

theorem not_isSpace_of_punctuation? {c : Char} {t : Token} (h : punctuation? c = some t) :
    ¬ isSpace c ∧ c ≠ '"' := by
  constructor
  · intro hc
    rcases isSpace_iff.mp hc with rfl | rfl | rfl | rfl <;> cases h
  · rintro rfl
    cases h

theorem spells_punctuation {c : Char} {t : Token} (h : punctuation? c = some t) : Spells [c] [t] := by
  intro rest
  obtain ⟨hspace, hquote⟩ := not_isSpace_of_punctuation? h
  rw [List.singleton_append, ofChars, if_neg hspace, if_neg hquote, h]
  rfl

theorem not_isSpace_of_isWordChar {c : Char} (h : isWordChar c) :
    ¬ isSpace c ∧ c ≠ '"' ∧ punctuation? c = none := by
  refine ⟨?_, ?_, ?_⟩
  · intro hc
    rcases isSpace_iff.mp hc with rfl | rfl | rfl | rfl <;> cases h
  · rintro rfl
    cases h
  · unfold punctuation?
    split
    case h_7 => rfl
    all_goals cases h

theorem takeWhile_isWordChar {w rest : List Char} (hw : ∀ c ∈ w, isWordChar c)
    (hrest : ∀ c ∈ rest.head?, isWordChar c = false) :
    (w ++ rest).takeWhile isWordChar = w ∧ (w ++ rest).dropWhile isWordChar = rest := by
  rw [List.takeWhile_append_of_pos hw, List.dropWhile_append_of_pos hw]
  cases rest with
  | nil => simp
  | cons c rest => simp [hrest c rfl]

theorem spells_word {w : List Char} {j : Json} (hw : word? w = some j) (hchars : w.all isWordChar) :
    SpellsBefore w [atom j] := by
  intro rest hrest
  cases w with
  | nil => cases hw
  | cons c w =>
      obtain ⟨hc, hchars⟩ := List.forall_mem_cons.mp (List.all_eq_true.mp hchars)
      obtain ⟨hspace, hquote, hpunctuation⟩ := not_isSpace_of_isWordChar hc
      obtain ⟨htake, hdrop⟩ := takeWhile_isWordChar hchars hrest
      rw [List.cons_append, ofChars, if_neg hspace, if_neg hquote, hpunctuation]
      simp only [htake, hdrop, hw]
      rfl

end Token

end GLBindings.Json
