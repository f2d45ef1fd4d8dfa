import GLBindings.Proofs.Json.Tokens

namespace GLBindings.Json

/-- The text of every number in the value is a numeral. -/
inductive Sound : Json → Prop
  | null : Sound .null
  | bool (b : Bool) : Sound (.bool b)
  | number {text : String} (hword : Token.word? text.toList = some (.number text))
      (hchars : text.toList.all Token.isWordChar) : Sound (.number text)
  | string (s : String) : Sound (.string s)
  | array {items : List Json} (h : ∀ j ∈ items, Sound j) : Sound (.array items)
  | object {fields : List (String × Json)} (h : ∀ f ∈ fields, Sound f.2) : Sound (.object fields)

@[simp] theorem sound_null : Sound .null := .null

@[simp] theorem sound_bool (b : Bool) : Sound (.bool b) := .bool b

@[simp] theorem sound_string (s : String) : Sound (.string s) := .string s

@[simp] theorem sound_array_iff {items : List Json} : Sound (.array items) ↔ ∀ j ∈ items, Sound j :=
  ⟨fun | .array h => h, .array⟩

@[simp] theorem sound_object_iff {fields : List (String × Json)} :
    Sound (.object fields) ↔ ∀ f ∈ fields, Sound f.2 :=
  ⟨fun | .object h => h, .object⟩

@[simp] theorem sound_ofString? (s : Option String) : Sound (ofString? s) := by
  cases s <;> simp [ofString?]

mutual

def tokens : Json → List Token
  | .array items => .beginArray :: itemTokens items
  | .object fields => .beginObject :: fieldTokens fields
  | j => [.atom j]

def itemTokens : List Json → List Token
  | [] => [.endArray]
  | [j] => tokens j ++ [.endArray]
  | j :: js => tokens j ++ .comma :: itemTokens js

def fieldTokens : List (String × Json) → List Token
  | [] => [.endObject]
  | [(k, j)] => .atom (.string k) :: .colon :: tokens j ++ [.endObject]
  | (k, j) :: fs => .atom (.string k) :: .colon :: tokens j ++ .comma :: fieldTokens fs

end

section Lexing

open Token (Spells SpellsBefore spells_punctuation spells_quote spells_word)

theorem spells_compactItems {items : List Json}
    (h : ∀ j ∈ items, SpellsBefore (compactChars j) (tokens j)) :
    Spells (compactItems items) (itemTokens items) := by
  induction items with
  | nil => exact spells_punctuation rfl
  | cons j js ih =>
      obtain ⟨hj, hjs⟩ := List.forall_mem_cons.mp h
      cases js with
      | nil => exact hj.append (spells_punctuation rfl) rfl
      | cons k ks => exact hj.append ((spells_punctuation rfl).append (ih hjs)) rfl

theorem spells_compactFields {fields : List (String × Json)}
    (h : ∀ f ∈ fields, SpellsBefore (compactChars f.2) (tokens f.2)) :
    Spells (compactFields fields) (fieldTokens fields) := by
  induction fields with
  | nil => exact spells_punctuation rfl
  | cons f fs ih =>
      obtain ⟨k, j⟩ := f
      obtain ⟨hj, hfs⟩ := List.forall_mem_cons.mp h
      have hkey : Spells (quote k ++ [':']) [.atom (.string k), .colon] :=
        (spells_quote k).append (spells_punctuation rfl)
      cases fs with
      | nil =>
          have hend : Spells ['}'] [.endObject] := spells_punctuation rfl
          have hfield := hkey.append (hj.append hend rfl)
          simpa [compactFields, fieldTokens] using hfield
      | cons g gs =>
          have hcomma : Spells [','] [.comma] := spells_punctuation rfl
          have hfield := hkey.append (hj.append (hcomma.append (ih hfs)) rfl)
          simpa [compactFields, fieldTokens] using hfield

theorem Sound.spells {j : Json} (h : Sound j) : SpellsBefore (compactChars j) (tokens j) := by
  induction h with
  | null => exact spells_word rfl rfl
  | bool b => cases b <;> exact spells_word rfl rfl
  | number hword hchars => exact spells_word hword hchars
  | string s => exact (spells_quote s).before
  | array _ ih => exact ((spells_punctuation rfl).append (spells_compactItems ih)).before
  | object _ ih => exact ((spells_punctuation rfl).append (spells_compactFields ih)).before

end Lexing

section Parsing

open State (step)

variable {stack : List Frame}

def Leads (ts : List Token) (s s' : State) : Prop := ts.foldlM step s = some s'

theorem Leads.cons {t : Token} {ts : List Token} {s s₁ s₂ : State} (h : step s t = some s₁)
    (h' : Leads ts s₁ s₂) : Leads (t :: ts) s s₂ := by
  unfold Leads at *
  rw [List.foldlM_cons, h]
  exact h'

theorem Leads.single {t : Token} {s s' : State} (h : step s t = some s') : Leads [t] s s' :=
  .cons h rfl

theorem Leads.append {ts us : List Token} {s s₁ s₂ : State} (h : Leads ts s s₁)
    (h' : Leads us s₁ s₂) : Leads (ts ++ us) s s₂ := by
  unfold Leads at *
  rw [List.foldlM_append, h]
  exact h'

theorem leads_itemTokens {items done : List Json}
    (h : ∀ j ∈ items, ∀ stack, Leads (tokens j) (.value stack) (.after stack j)) (hne : items ≠ []) :
    Leads (itemTokens items) (.value (.items done :: stack))
      (.after stack (.array (done.reverse ++ items))) := by
  induction items generalizing done with
  | nil => exact absurd rfl hne
  | cons j js ih =>
      obtain ⟨hj, hjs⟩ := List.forall_mem_cons.mp h
      rw [← List.singleton_append, ← List.append_assoc, ← List.reverse_cons]
      cases js with
      | nil => exact (hj _).append (.single (by simp [step]))
      | cons k ks => exact (hj _).append (.cons rfl (ih hjs (List.cons_ne_nil k ks)))

theorem Leads.firstItem {j : Json} {ts : List Token} {s : State}
    (h : Leads (tokens j ++ ts) (.value (.items [] :: stack)) s) :
    Leads (tokens j ++ ts) (.firstItem stack) s := by
  cases j <;> exact h

theorem leads_array {items : List Json}
    (h : ∀ j ∈ items, ∀ stack, Leads (tokens j) (.value stack) (.after stack j)) :
    Leads (tokens (.array items)) (.value stack) (.after stack (.array items)) := by
  have hbegin : step (.value stack) .beginArray = some (.firstItem stack) := rfl
  refine .cons hbegin ?_
  cases items with
  | nil => exact .single rfl
  | cons j js =>
      have hitems := @leads_itemTokens stack (j :: js) [] h (List.cons_ne_nil j js)
      cases js <;> exact hitems.firstItem

theorem leads_fieldTokens {fields done : List (String × Json)}
    (h : ∀ f ∈ fields, ∀ stack, Leads (tokens f.2) (.value stack) (.after stack f.2))
    (hne : fields ≠ []) :
    Leads (fieldTokens fields) (.key stack done)
      (.after stack (.object (done.reverse ++ fields))) := by
  induction fields generalizing done with
  | nil => exact absurd rfl hne
  | cons f fs ih =>
      obtain ⟨k, j⟩ := f
      obtain ⟨hj, hfs⟩ := List.forall_mem_cons.mp h
      rw [← List.singleton_append, ← List.append_assoc, ← List.reverse_cons]
      have hvalue : Leads (.atom (.string k) :: .colon :: tokens j) (.key stack done)
          (.after (.fields done k :: stack) j) := .cons rfl (.cons rfl (hj _))
      cases fs with
      | nil => exact hvalue.append (.single (by simp [step]))
      | cons g gs => exact hvalue.append (.cons rfl (ih hfs (List.cons_ne_nil g gs)))

theorem leads_object {fields : List (String × Json)}
    (h : ∀ f ∈ fields, ∀ stack, Leads (tokens f.2) (.value stack) (.after stack f.2)) :
    Leads (tokens (.object fields)) (.value stack) (.after stack (.object fields)) := by
  have hbegin : step (.value stack) .beginObject = some (.firstKey stack) := rfl
  refine .cons hbegin ?_
  cases fields with
  | nil => exact .single rfl
  | cons f fs =>
      have hfields := @leads_fieldTokens stack (f :: fs) [] h (List.cons_ne_nil f fs)
      cases fs <;> exact hfields

theorem Sound.leads {j : Json} (h : Sound j) (stack : List Frame) :
    Leads (tokens j) (.value stack) (.after stack j) := by
  induction h generalizing stack with
  | array _ ih => exact leads_array ih
  | object _ ih => exact leads_object ih
  | null | bool | number | string => exact .single rfl

theorem Sound.ofTokens {j : Json} (h : Sound j) : ofTokens (tokens j) = some j := by
  have hleads := h.leads []
  unfold Leads at hleads
  rw [Json.ofTokens, hleads]

end Parsing

section Lines

theorem newline_not_mem_escape (c : Char) : '\n' ∉ escape c := by
  have hdigit (n : Nat) : '\n' ≠ hexDigit n := by
    have hall : ∀ m < 16, '\n' ≠ Nat.digitChar m := by decide
    exact hall _ (Nat.mod_lt n (by decide))
  unfold escape
  split
  case h_8 hnewline _ _ =>
    split
    next => simp [hdigit]
    next => simpa using Ne.symm hnewline
  all_goals decide

theorem newline_not_mem_quote (s : String) : '\n' ∉ quote s := by
  intro h
  rw [quote, List.cons_append, List.mem_cons, List.mem_append, List.mem_flatMap] at h
  rcases h with h | ⟨c, _, h⟩ | h
  · cases h
  · exact newline_not_mem_escape c h
  · simp at h

theorem newline_not_mem_compactItems {items : List Json} (h : ∀ j ∈ items, '\n' ∉ compactChars j) :
    '\n' ∉ compactItems items := by
  induction items with
  | nil => decide
  | cons j js ih =>
      obtain ⟨hj, hjs⟩ := List.forall_mem_cons.mp h
      cases js with
      | nil => simp [compactItems, hj]
      | cons k ks => simp [compactItems, hj, ih hjs]

theorem newline_not_mem_compactFields {fields : List (String × Json)}
    (h : ∀ f ∈ fields, '\n' ∉ compactChars f.2) : '\n' ∉ compactFields fields := by
  induction fields with
  | nil => decide
  | cons f fs ih =>
      obtain ⟨hf, hfs⟩ := List.forall_mem_cons.mp h
      have hkey := newline_not_mem_quote f.1
      cases fs with
      | nil => simp [compactFields, hf, hkey]
      | cons g gs => simp [compactFields, hf, hkey, ih hfs]

theorem Sound.newline_not_mem {j : Json} (h : Sound j) : '\n' ∉ compactChars j := by
  induction h with
  | null => decide
  | bool b => cases b <;> decide
  | number _ hchars => exact fun hmem => absurd (List.all_eq_true.mp hchars _ hmem) (by decide)
  | string s => exact newline_not_mem_quote s
  | array _ ih => simp [compactChars, newline_not_mem_compactItems ih]
  | object _ ih => simp [compactChars, newline_not_mem_compactFields ih]

end Lines

theorem Sound.read?_compact {j : Json} (h : Sound j) : read? j.compact = some j := by
  rw [read?, compact, String.toList_ofList, Token.ofChars_eq_some h.spells]
  exact h.ofTokens

end GLBindings.Json
