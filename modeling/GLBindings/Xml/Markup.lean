import GLBindings.Text
import GLBindings.Xml.Node
import GLBindings.Xml.Reference

namespace GLBindings.Xml

inductive Markup where
  | startTag (name : Name) (attributes : List Attribute) (closed : Bool)
  | endTag (name : Name)
  | text (pieces : List Piece)
  | data (cs : List Char)
  | comment (s : String)
  | instruction (target content : String)

namespace Markup

def skipSpace (cs : List Char) : List Char := cs.dropWhile isSpace

theorem length_skipSpace (cs : List Char) : (skipSpace cs).length ≤ cs.length :=
  (List.dropWhile_sublist _).length_le

def startsName (cs : List Char) : Bool := cs.head?.any isNameStart

def name? (cs : List Char) : Option Name :=
  match Text.pieces ':' cs with
  | [base] => if startsName base then some ⟨"", String.ofList base⟩ else none
  | [scope, base] =>
    if (scope.isEmpty || startsName scope) && startsName base then
      some ⟨String.ofList scope, String.ofList base⟩
    else none
  | _ => none

def takeName (cs : List Char) : Option (Name × List Char) :=
  (name? (cs.takeWhile isNameChar)).map (·, cs.dropWhile isNameChar)

theorem length_takeName {cs rest : List Char} {n : Name} (h : takeName cs = some (n, rest)) :
    rest.length ≤ cs.length := by
  obtain ⟨_, _, hp⟩ := Option.map_eq_some_iff.1 h
  rw [← (Prod.mk.inj hp).2]
  exact (List.dropWhile_sublist _).length_le

def takeQuoted : List Char → Option (List Char × List Char)
  | [] => none
  | quote :: rest =>
    if quote = '"' ∨ quote = '\'' then
      (Text.cut [quote] rest).filter fun p => '<' ∉ p.1
    else none

theorem length_takeQuoted {cs value rest : List Char} (h : takeQuoted cs = some (value, rest)) :
    rest.length < cs.length := by
  cases cs with
  | nil => simp [takeQuoted] at h
  | cons q cs =>
    simp only [takeQuoted] at h
    split at h
    · have := Text.length_cut (Option.filter_eq_some_iff.1 h).1
      simp only [List.length_cons, List.length_nil] at this ⊢
      omega
    · simp at h

def takeAttribute (cs : List Char) : Option (Name × List Char × List Char) :=
  match takeName cs with
  | none => none
  | some (name, rest) =>
    match skipSpace rest with
    | '=' :: rest => (takeQuoted (skipSpace rest)).map fun p => (name, p.1, p.2)
    | _ => none

theorem length_takeAttribute {cs value rest : List Char} {n : Name}
    (h : takeAttribute cs = some (n, value, rest)) : rest.length < cs.length := by
  unfold takeAttribute at h
  split at h
  · simp at h
  · rename_i name r hname
    split at h
    · rename_i r' hr'
      obtain ⟨p, hp, hq⟩ := Option.map_eq_some_iff.1 h
      have h₁ := length_takeName hname
      have h₂ := length_skipSpace r
      have h₃ := length_skipSpace r'
      have h₄ := length_takeQuoted hp
      have h₅ : r'.length + 1 = (skipSpace r).length := by simp [hr']
      simp only [Prod.mk.injEq] at hq
      rw [← hq.2.2]
      omega
    · simp at h

def takeAttributes (cs : List Char) : Option (List Attribute × Bool × List Char) :=
  match hs : skipSpace cs with
  | '>' :: rest => some ([], false, rest)
  | '/' :: '>' :: rest => some ([], true, rest)
  | spaced =>
    if ¬ cs.head?.any isSpace then none
    else
      match h : takeAttribute spaced with
      | none => none
      | some (name, value, rest) =>
        have : rest.length < cs.length :=
          Nat.lt_of_lt_of_le (length_takeAttribute h) (hs ▸ length_skipSpace cs)
        do
          let pieces ← Piece.ofChars value
          let (attributes, closed, after) ← takeAttributes rest
          return (⟨name, String.ofList (Piece.value pieces)⟩ :: attributes, closed, after)
termination_by cs.length

def takeStartTag (cs : List Char) : Option (Markup × List Char) := do
  let (name, rest) ← takeName cs
  let (attributes, closed, after) ← takeAttributes rest
  return (startTag name attributes closed, after)

def takeEndTag (cs : List Char) : Option (Markup × List Char) := do
  let (name, rest) ← takeName cs
  match skipSpace rest with
  | '>' :: after => return (endTag name, after)
  | _ => none

/-- A comment holds no two hyphens in a row, and no hyphen at its end. -/
def takeComment (cs : List Char) : Option (Markup × List Char) := do
  let (s, after) ← Text.cut "-->".toList cs
  if (Text.cut "--".toList (s ++ ['-'])).isSome then none
  else return (comment (String.ofList s), after)

def takeData (cs : List Char) : Option (Markup × List Char) := do
  let (s, after) ← Text.cut "]]>".toList cs
  return (data s, after)

def takeInstruction (cs : List Char) : Option (Markup × List Char) :=
  let target := cs.takeWhile isNameChar
  if startsName target ∧ ¬ "xml ".toList.isPrefixOf cs then do
    let (s, after) ← Text.cut "?>".toList (skipSpace (cs.dropWhile isNameChar))
    return (instruction (String.ofList target) (String.ofList s), after)
  else none

def take : List Char → Option (Markup × List Char)
  | '!' :: '-' :: '-' :: rest => takeComment rest
  | '!' :: '[' :: 'C' :: 'D' :: 'A' :: 'T' :: 'A' :: '[' :: rest => takeData rest
  | '?' :: rest => takeInstruction rest
  | '/' :: rest => takeEndTag rest
  | rest => takeStartTag rest

/-- Text up to the next markup. The end of a section may not stand in it. -/
def text? (cs : List Char) : Option Markup :=
  if (Text.cut "]]>".toList cs).isSome then none else (Piece.ofChars cs).map text

theorem length_takeAttributes {cs rest : List Char} {l : List Attribute} {b : Bool}
    (h : takeAttributes cs = some (l, b, rest)) : rest.length < cs.length := by
  fun_induction takeAttributes cs generalizing l with
  | case1 cs r hs =>
    have hr := length_skipSpace cs
    simp only [hs, List.length_cons] at hr
    simp only [Option.some.injEq, Prod.mk.injEq] at h
    rw [← h.2.2]
    omega
  | case2 cs r hs =>
    have hr := length_skipSpace cs
    simp only [hs, List.length_cons] at hr
    simp only [Option.some.injEq, Prod.mk.injEq] at h
    rw [← h.2.2]
    omega
  | case3 => simp at h
  | case4 => simp at h
  | case5 cs _ _ _ _ _ r _ hr ih =>
    simp only [Option.bind_eq_bind, Option.bind_eq_some_iff] at h
    obtain ⟨_, _, p, hp, h⟩ := h
    have hq : p = (p.1, b, rest) := by
      simp only [Option.pure_def, Option.some.injEq, Prod.mk.injEq] at h
      rw [← h.2.1, ← h.2.2]
    have := ih (hq ▸ hp)
    omega

theorem length_takeStartTag {cs rest : List Char} {m : Markup}
    (h : takeStartTag cs = some (m, rest)) : rest.length ≤ cs.length := by
  simp only [takeStartTag, Option.bind_eq_bind, Option.bind_eq_some_iff, Option.pure_def,
    Option.some.injEq, Prod.mk.injEq] at h
  obtain ⟨p, hp, q, hq, -, hr⟩ := h
  have h₁ := length_takeName hp
  have h₂ := length_takeAttributes hq
  rw [← hr]
  omega

theorem length_takeEndTag {cs rest : List Char} {m : Markup}
    (h : takeEndTag cs = some (m, rest)) : rest.length ≤ cs.length := by
  simp only [takeEndTag, Option.bind_eq_bind, Option.bind_eq_some_iff] at h
  obtain ⟨p, hp, h⟩ := h
  have h₁ := length_takeName hp
  split at h
  · rename_i after ha
    have h₂ := length_skipSpace p.2
    simp only [ha, List.length_cons] at h₂
    simp only [Option.pure_def, Option.some.injEq, Prod.mk.injEq] at h
    rw [← h.2]
    omega
  · simp at h

theorem length_takeComment {cs rest : List Char} {m : Markup}
    (h : takeComment cs = some (m, rest)) : rest.length ≤ cs.length := by
  simp only [takeComment, Option.bind_eq_bind, Option.bind_eq_some_iff] at h
  obtain ⟨p, hp, h⟩ := h
  have h₁ := Text.length_cut hp
  split at h
  · simp at h
  · simp only [Option.pure_def, Option.some.injEq, Prod.mk.injEq] at h
    rw [← h.2]
    omega

theorem length_takeData {cs rest : List Char} {m : Markup}
    (h : takeData cs = some (m, rest)) : rest.length ≤ cs.length := by
  simp only [takeData, Option.bind_eq_bind, Option.bind_eq_some_iff, Option.pure_def,
    Option.some.injEq, Prod.mk.injEq] at h
  obtain ⟨p, hp, -, hr⟩ := h
  have h₁ := Text.length_cut hp
  rw [← hr]
  omega

theorem length_takeInstruction {cs rest : List Char} {m : Markup}
    (h : takeInstruction cs = some (m, rest)) : rest.length ≤ cs.length := by
  simp only [takeInstruction] at h
  split at h
  · simp only [Option.bind_eq_bind, Option.bind_eq_some_iff, Option.pure_def,
      Option.some.injEq, Prod.mk.injEq] at h
    obtain ⟨p, hp, -, hr⟩ := h
    have h₁ := Text.length_cut hp
    have h₂ := length_skipSpace (cs.dropWhile isNameChar)
    have h₃ := (List.dropWhile_sublist isNameChar (l := cs)).length_le
    rw [← hr]
    omega
  · simp at h

theorem length_take {cs rest : List Char} {m : Markup} (h : take cs = some (m, rest)) :
    rest.length ≤ cs.length := by
  unfold take at h
  split at h
  · exact Nat.le_trans (length_takeComment h) (by simp only [List.length_cons]; omega)
  · exact Nat.le_trans (length_takeData h) (by simp only [List.length_cons]; omega)
  · exact Nat.le_trans (length_takeInstruction h) (by simp only [List.length_cons]; omega)
  · exact Nat.le_trans (length_takeEndTag h) (by simp only [List.length_cons]; omega)
  · exact length_takeStartTag h

def isText (c : Char) : Bool := c ≠ '<'

def ofChars (cs : List Char) : Option (List Markup) :=
  match cs with
  | [] => some []
  | '<' :: rest =>
    match h : take rest with
    | none => none
    | some (m, after) =>
      have : after.length < rest.length + 1 := Nat.lt_succ_of_le (length_take h)
      (ofChars after).map (m :: ·)
  | c :: rest =>
    have : (rest.dropWhile isText).length < rest.length + 1 :=
      Nat.lt_succ_of_le (List.dropWhile_sublist _).length_le
    do
      let m ← text? (c :: rest.takeWhile isText)
      let later ← ofChars (rest.dropWhile isText)
      return m :: later
termination_by cs.length

end Markup

end GLBindings.Xml
