import GLBindings.Proofs.CType
import GLBindings.Proofs.Registry.Reading

namespace GLBindings

open Xml (Element)

namespace Text

def squeeze (s : String) : String := String.ofList (s.toList.filter (!isBlank ·))

def Blank (s : String) : Prop := ∀ c ∈ s.toList, isBlank c = true

variable {s t : String}

@[simp] theorem squeeze_append : squeeze (s ++ t) = squeeze s ++ squeeze t := by
  simp [squeeze, String.ofList_append]

theorem squeeze_eq_empty_iff : squeeze s = "" ↔ Blank s := by
  rw [squeeze, String.ofList_eq_empty_iff, List.filter_eq_nil_iff]
  simp [Blank]

theorem squeeze_eq_append_iff : squeeze s = squeeze s ++ squeeze t ↔ Blank t := by
  have hcancel : squeeze s ++ "" = squeeze s ++ squeeze t ↔ "" = squeeze t :=
    String.append_right_inj _
  rw [← squeeze_eq_empty_iff, eq_comm (a := squeeze t), ← hcancel, String.append_empty]

@[simp] theorem squeeze_trim : squeeze (trim s) = squeeze s := by
  rw [squeeze, trim, String.toList_ofList, filter_trimChars, squeeze]

theorem trim?_eq_none_iff : trim? s = none ↔ Blank s := by
  have hnone : trim? s = none ↔ trimChars s.toList = [] := by simp [trim?]
  rw [hnone]
  constructor
  · intro h
    rw [← squeeze_eq_empty_iff, squeeze, ← filter_trimChars, h]
    rfl
  · intro h
    rw [trimChars, List.dropWhile_eq_nil_iff.mpr h]
    rfl

@[simp] theorem squeeze_trim? : squeeze ((trim? s).getD "") = squeeze s := by
  cases h : trim? s with
  | none => exact (squeeze_eq_empty_iff.mpr (trim?_eq_none_iff.mp h)).symm
  | some t =>
      have ht : t = trim s := by
        rw [trim?] at h
        split at h
        · cases h
        · exact (Option.some.inj h).symm
      rw [Option.getD_some, ht, squeeze_trim]

end Text

def Fragment.platformType? : Fragment → Option String
  | .platformType s => some s
  | _ => none

def Declaration.unnamed (d : Declaration) : List Fragment := d.fragments.filter (·.name?.isNone)

namespace CType

open Text (squeeze Blank)

def written (c : CType) : String :=
  c.frontModifiers.getD "" ++ c.lowLevel ++ c.backModifiers.getD ""

/-- The fragments are cut at the first platform type, which is `n`. Behind it stands the text that comes
next, and nothing if what comes next is no text. -/
structure CutAt (n : String) (front behind further fs : List Fragment) : Prop where
  parts : fs = front ++ .platformType n :: (behind ++ further)
  first : ∀ m, .platformType m ∉ front
  next : (∃ s, behind = [.text s]) ∨ behind = [] ∧ leadingText? further = none

/-- The type keeps the text of the fragments up to where it is cut off. -/
structure Keeps (n : String) (front behind further : List Fragment) (c : CType) : Prop where
  frontText : squeeze (c.frontModifiers.getD "") = squeeze (textOf front)
  lowText : squeeze c.lowLevel = squeeze n
  backText : squeeze (c.backModifiers.getD "") = squeeze (textOf behind)
  joined : squeeze c.written = squeeze (textOf (front ++ .platformType n :: behind))
  lossless : squeeze c.written = squeeze (textOf (front ++ .platformType n :: (behind ++ further))) ↔
    ∀ f ∈ further, Blank f.content
  noFront : c.frontModifiers = none ↔ Blank (textOf front)
  noBack : c.backModifiers = none ↔ Blank (textOf behind)

variable {n : String} {front behind further fs : List Fragment} {d : Declaration}

theorem textOf_cons (f : Fragment) (fs : List Fragment) :
    textOf (f :: fs) = f.content ++ textOf fs := by
  simp [textOf]

theorem blank_textOf_iff : Blank (textOf fs) ↔ ∀ f ∈ fs, Blank f.content := by
  induction fs with
  | nil => simp [Blank, textOf]
  | cons f fs ih =>
      rw [List.forall_mem_cons, ← ih, textOf_cons]
      simp only [Blank, String.toList_append, List.mem_append, or_imp, forall_and]

theorem exists_of_leadingText? {s : String} (h : leadingText? fs = some s) :
    ∃ rest, fs = .text s :: rest := by
  unfold leadingText? at h
  split at h
  · cases h
    exact ⟨_, rfl⟩
  · cases h

theorem exists_cutAt (h : fs.findSome? Fragment.platformType? = some n) :
    ∃ front behind further, CutAt n front behind further fs := by
  induction fs with
  | nil => cases h
  | cons f fs ih =>
      cases f with
      | platformType m =>
          cases h
          cases hnext : leadingText? fs with
          | none => exact ⟨[], [], fs, rfl, by simp, .inr ⟨rfl, hnext⟩⟩
          | some s =>
              obtain ⟨rest, rfl⟩ := exists_of_leadingText? hnext
              exact ⟨[], [.text s], rest, rfl, by simp, .inl ⟨s, rfl⟩⟩
      | text s | name s =>
          obtain ⟨front, behind, further, hparts, hfirst, hnext⟩ := ih h
          exact ⟨_ :: front, behind, further, congrArg (_ :: ·) hparts, by simpa using hfirst, hnext⟩

theorem ofDeclaration_of_cutAt (h : CutAt n front behind further d.unnamed) :
    ofDeclaration d = {
      lowLevel := Text.trim n
      highLevel := d.group.getD (Text.trim n)
      frontModifiers := Text.trim? (textOf front)
      backModifiers := Text.trim? (textOf behind) } := by
  rw [ofDeclaration_of_some (splitAtPlatformType_eq_some_iff.mpr ⟨h.parts, h.first⟩)]
  rcases h.next with ⟨s, rfl⟩ | ⟨rfl, hnone⟩
  · simp [leadingText?, textOf, Fragment.content]
  · rw [List.nil_append, hnone]
    rfl

theorem keeps_ofDeclaration (h : CutAt n front behind further d.unnamed) :
    (ofDeclaration d).Keeps n front behind further := by
  have hjoined : squeeze (ofDeclaration d).written =
      squeeze (textOf (front ++ .platformType n :: behind)) := by
    simp [ofDeclaration_of_cutAt h, written, textOf_append, textOf_cons, Fragment.content,
      String.append_assoc]
  have hall : textOf (front ++ .platformType n :: (behind ++ further)) =
      textOf (front ++ .platformType n :: behind) ++ textOf further := by
    rw [← textOf_append, List.append_assoc, List.cons_append]
  constructor
  case frontText | lowText | backText => simp [ofDeclaration_of_cutAt h]
  case joined => exact hjoined
  case lossless =>
    rw [hjoined, hall, Text.squeeze_append, Text.squeeze_eq_append_iff, blank_textOf_iff]
  case noFront | noBack => rw [ofDeclaration_of_cutAt h, Text.trim?_eq_none_iff]

theorem highLevel_ofDeclaration :
    (ofDeclaration d).highLevel = d.group.getD (ofDeclaration d).lowLevel := by
  unfold ofDeclaration
  dsimp only
  split <;> rfl

end CType

namespace Registry

variable {e : Element} {d : Declaration} {l : List Xml.Node} {fs : List Fragment}

theorem contents_filter_isPart :
    Xml.Node.contents (l.filter Xml.Node.isPart) = Xml.Node.contents l := by
  induction l with
  | nil => rfl
  | cons n l ih =>
      cases n with
      | text | element =>
          rw [List.filter_cons_of_pos rfl, Xml.Node.contents, Xml.Node.contents, ih]
      | comment | instruction =>
          rw [List.filter_cons_of_neg Bool.false_ne_true, ih, Xml.Node.contents, Xml.Node.content,
            String.empty_append]

theorem content_of_isOf {n : Xml.Node} {f : Fragment} (h : f.IsOf n) : f.content = n.content := by
  cases h with
  | text => rfl
  | platformType hc | name hc =>
      cases n <;> cases hc
      rfl

theorem textOf_eq_contents (h : List.Forall₂ Fragment.IsOf l fs) :
    CType.textOf fs = Xml.Node.contents l := by
  induction h with
  | nil => rfl
  | cons hf _ ih => rw [CType.textOf_cons, content_of_isOf hf, ih, Xml.Node.contents]

theorem platformTypes_eq (h : List.Forall₂ Fragment.IsOf (l.filter Xml.Node.isPart) fs) :
    fs.filterMap Fragment.platformType? =
      ((l.filterMap Xml.Node.element?).filter (·.tag = "ptype")).map Element.content := by
  induction l generalizing fs with
  | nil =>
      cases h
      rfl
  | cons n l ih =>
      cases n with
      | comment | instruction => exact ih h
      | text s =>
          rw [List.filter_cons_of_pos rfl] at h
          rcases h with _ | ⟨hf, h⟩
          cases hf with
          | text => exact (List.filterMap_cons_none (f := Fragment.platformType?) rfl).trans (ih h)
          | platformType hc | name hc => cases hc
      | element name attributes children =>
          rw [List.filter_cons_of_pos rfl] at h
          rcases h with _ | ⟨hf, h⟩
          rw [List.filterMap_cons_some (f := Xml.Node.element?) rfl]
          cases hf with
          | platformType hc ht =>
              cases hc
              rw [List.filterMap_cons_some (f := Fragment.platformType?) rfl, ih h,
                List.filter_cons_of_pos (by simpa using ht), List.map_cons]
          | name hc ht =>
              cases hc
              rw [List.filterMap_cons_none rfl, ih h, List.filter_cons_of_neg (by simp [ht])]

theorem platformTypes_unnamed (h : d.IsOf e) :
    d.unnamed.filterMap Fragment.platformType? = (e.tagged "ptype").map Element.content := by
  have hunnamed : d.unnamed.filterMap Fragment.platformType? =
      d.fragments.filterMap Fragment.platformType? := by
    rw [Declaration.unnamed, List.filterMap_filter]
    congr 1
    funext f
    cases f <;> rfl
  rw [hunnamed, platformTypes_eq h.fragments]
  rfl

theorem splitAtPlatformType_of_untagged (h : d.IsOf e) (hp : e.tagged "ptype" = []) :
    CType.splitAtPlatformType d.unnamed = none := by
  have hnone := platformTypes_unnamed h
  rw [hp, List.map_nil, List.filterMap_eq_nil_iff] at hnone
  cases hsplit : CType.splitAtPlatformType d.unnamed with
  | none => rfl
  | some p =>
      obtain ⟨hparts, -⟩ := CType.splitAtPlatformType_eq_some_iff.mp hsplit
      have hn := hnone (.platformType p.2.1) (by rw [hparts]; simp)
      cases hn

end Registry

open Text (squeeze)

/-- How the type of a declaration keeps the text of the element that the declaration is read from. -/
structure Declaration.Retains (e : Element) (d : Declaration) (c : CType) : Prop where
  content : CType.textOf d.fragments = e.content
  high : c.highLevel = (e.attribute? "group").getD c.lowLevel
  plain : e.tagged "ptype" = [] → squeeze c.lowLevel = squeeze (CType.textOf d.unnamed) ∧
    c.frontModifiers = none ∧ c.backModifiers = none
  built : ∀ p, (e.tagged "ptype").head? = some p → ∃ front behind further,
    CType.CutAt p.content front behind further d.unnamed ∧ c.Keeps p.content front behind further

namespace Registry

variable {e : Element} {d : Declaration}

/-- What a declaration is read from is kept by its type, up to the text that comes after the first
platform type. -/
theorem declaration_retains (h : declaration e = .ok d) : d.Retains e (CType.ofDeclaration d) := by
  have hof := isOf_declaration h
  constructor
  case content => rw [textOf_eq_contents hof.fragments, contents_filter_isPart, Element.content]
  case high => rw [CType.highLevel_ofDeclaration, hof.group]
  case plain =>
    intro hp
    have hlow := CType.ofDeclaration_of_none (splitAtPlatformType_of_untagged hof hp)
    rw [hlow]
    exact ⟨Text.squeeze_trim, rfl, rfl⟩
  case built =>
    intro p hp
    have hfirst : d.unnamed.findSome? Fragment.platformType? = some p.content := by
      rw [← List.head?_filterMap, platformTypes_unnamed hof, List.head?_map, hp]
      rfl
    obtain ⟨front, behind, further, hcut⟩ := CType.exists_cutAt hfirst
    exact ⟨front, behind, further, hcut, CType.keeps_ofDeclaration hcut⟩

def arrayParam : Element where
  name := ⟨"", "param"⟩
  attributes := [⟨⟨"", "group"⟩, "Matrix"⟩]
  children := [.text "const ", .element ⟨"", "ptype"⟩ [] [.text "GLfloat"], .text " *",
    .element ⟨"", "name"⟩ [] [.text "m"], .text "[16]"]

def arrayDeclaration : Declaration where
  group := some "Matrix"
  fragments := [.text "const ", .platformType "GLfloat", .text " *", .name "m", .text "[16]"]

/-- The suffix is not part of the type. -/
theorem declaration_retains_array : declaration arrayParam = .ok arrayDeclaration ∧
    arrayDeclaration.Retains arrayParam ⟨"GLfloat", "Matrix", some "const", some "*"⟩ := by
  have hread : declaration arrayParam = .ok arrayDeclaration := rfl
  have htype : CType.ofDeclaration arrayDeclaration =
      ⟨"GLfloat", "Matrix", some "const", some "*"⟩ := by decide
  exact ⟨hread, htype ▸ declaration_retains hread⟩

end Registry

end GLBindings
