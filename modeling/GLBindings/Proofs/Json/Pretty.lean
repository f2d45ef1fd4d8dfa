import GLBindings.Proofs.Json.Compact

namespace GLBindings.Json

open Token (Spells SpellsBefore spells_punctuation spells_quote spells_word)

theorem Token.spells_spaces {cs : List Char} (h : ∀ c ∈ cs, isSpace c) : Spells cs [] := by
  intro rest
  induction cs with
  | nil => simp
  | cons c cs ih =>
      obtain ⟨hc, hcs⟩ := List.forall_mem_cons.mp h
      rw [List.cons_append, ofChars, if_pos hc]
      exact ih hcs

theorem spells_newline (depth : Nat) : Spells (newline depth) [] := by
  apply Token.spells_spaces
  simp [newline, Token.isSpace]

theorem spells_punctuation_newline {c : Char} {t : Token} (h : Token.punctuation? c = some t)
    (depth : Nat) : Spells (c :: newline depth) [t] :=
  (spells_punctuation h).append (spells_newline depth)

theorem spells_newline_punctuation {c : Char} {t : Token} (h : Token.punctuation? c = some t)
    (depth : Nat) : Spells (newline depth ++ [c]) [t] :=
  (spells_newline depth).append (spells_punctuation h)

theorem spells_prettyItems {j : Json} {items : List Json}
    (h : ∀ i ∈ j :: items, ∀ depth, SpellsBefore (prettyChars depth i) (tokens i)) (depth : Nat) :
    Spells (prettyChars (depth + 1) j ++ prettyItems depth items) (itemTokens (j :: items)) := by
  induction items generalizing j with
  | nil =>
      have hj := h j List.mem_cons_self (depth + 1)
      exact hj.append (spells_newline_punctuation rfl depth) rfl
  | cons k items ih =>
      obtain ⟨hj, hitems⟩ := List.forall_mem_cons.mp h
      have hrest := (spells_punctuation_newline (c := ',') rfl (depth + 1)).append (ih hitems)
      have hall := (hj (depth + 1)).append hrest rfl
      simpa [prettyItems, itemTokens] using hall

theorem spells_prettyFields {k : String} {j : Json} {fields : List (String × Json)}
    (h : ∀ f ∈ (k, j) :: fields, ∀ depth, SpellsBefore (prettyChars depth f.2) (tokens f.2))
    (depth : Nat) :
    Spells (quote k ++ ':' :: ' ' :: prettyChars (depth + 1) j ++ prettyFields depth fields)
      (fieldTokens ((k, j) :: fields)) := by
  have hspace : Spells [' '] [] := Token.spells_spaces (by simp [Token.isSpace])
  have hkey (k : String) : Spells (quote k ++ [':', ' ']) [.atom (.string k), .colon] :=
    (spells_quote k).append ((spells_punctuation rfl).append hspace)
  induction fields generalizing k j with
  | nil =>
      have hj := h (k, j) List.mem_cons_self (depth + 1)
      have hall := (hkey k).append (hj.append (spells_newline_punctuation (c := '}') rfl depth) rfl)
      simpa [prettyFields, fieldTokens, newline] using hall
  | cons f fields ih =>
      obtain ⟨hj, hfields⟩ := List.forall_mem_cons.mp h
      have hrest := (spells_punctuation_newline (c := ',') rfl (depth + 1)).append (ih hfields)
      have hall := (hkey k).append ((hj (depth + 1)).append hrest rfl)
      simpa [prettyFields, fieldTokens] using hall

theorem Sound.spells_pretty {j : Json} (h : Sound j) (depth : Nat) :
    SpellsBefore (prettyChars depth j) (tokens j) := by
  induction h generalizing depth with
  | null => exact spells_word rfl rfl
  | bool b => cases b <;> exact spells_word rfl rfl
  | number hword hchars => exact spells_word hword hchars
  | string s => exact (spells_quote s).before
  | @array items _ ih =>
      cases items with
      | nil => exact ((spells_punctuation rfl).append (spells_punctuation rfl)).before
      | cons j items =>
          have hbegin := spells_punctuation_newline (c := '[') rfl (depth + 1)
          have hall := hbegin.append (spells_prettyItems ih depth)
          simpa [prettyChars, tokens] using hall.before
  | @object fields _ ih =>
      cases fields with
      | nil => exact ((spells_punctuation rfl).append (spells_punctuation rfl)).before
      | cons f fields =>
          have hbegin := spells_punctuation_newline (c := '{') rfl (depth + 1)
          have hall := hbegin.append (spells_prettyFields ih depth)
          simpa [prettyChars, tokens] using hall.before

/-- An indented value is read from its text, also with a line end behind it. -/
theorem Sound.read?_pretty {j : Json} (h : Sound j) : read? (j.pretty ++ "\n") = some j := by
  have hend : Spells ['\n'] [] := spells_newline 0
  have hall := (h.spells_pretty 0).append hend rfl
  rw [List.append_nil] at hall
  rw [read?, pretty, String.toList_append, String.toList_ofList]
  have hchars := Token.ofChars_eq_some hall.before
  rw [show ("\n" : String).toList = ['\n'] from rfl, hchars]
  exact h.ofTokens

end GLBindings.Json
