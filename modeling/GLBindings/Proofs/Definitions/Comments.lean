import GLBindings.Proofs.Grouping
import GLBindings.Proofs.Registry.Comments
import GLBindings.Proofs.Signature
import GLBindings.Proofs.Version

namespace GLBindings

open Failure (Alike)

theorem Declaration.Parted.name?_eq {d d' : Declaration} (h : d.Parted d') : d'.name? = d.name? := by
  cases h with
  | same => rfl
  | text group before after t u =>
      rw [name?, name?, List.findSome?_append, List.findSome?_append]
      rfl

theorem Declaration.Parted.nameIn_eq {d d' : Declaration} (h : d.Parted d') (parent : String) :
    d'.nameIn parent = d.nameIn parent := by
  rw [nameIn, nameIn, h.name?_eq]

def CommandEntry.CutShort (c c' : CommandEntry) : Prop :=
  c.proto.CutShort c'.proto ∨ ∃ d ∈ c.params.zip c'.params, d.1.CutShort d.2

namespace Signature

def plainParameter (p : Parameter) : Parameter := { p with type := p.type.withoutBack }

def plain (s : Signature) : Signature :=
  { s with returnType := s.returnType.withoutBack, params := s.params.map plainParameter }

theorem alike_parameter {d d' : Declaration} (h : d.Parted d') :
    Alike (fun p q => plainParameter q = plainParameter p)
      (Parameter.ofDeclaration d) (Parameter.ofDeclaration d') := by
  rw [Parameter.ofDeclaration, Parameter.ofDeclaration, h.nameIn_eq]
  cases d.nameIn "param" with
  | error e => exact .error e
  | ok n =>
      refine .ok ?_
      simp only [plainParameter, CType.withoutBack_ofDeclaration h]

variable {c c' : CommandEntry} {l l' : List CommandEntry} {required : List String}

theorem alike_ofEntry (h : c.Parted c') :
    Alike (fun s s' => plain s' = plain s) (ofEntry c) (ofEntry c') := by
  rw [ofEntry, ofEntry, h.proto.nameIn_eq]
  cases c.proto.nameIn "proto" with
  | error e => exact .error e
  | ok n =>
      refine (Alike.mapM (h.params.imp fun _ _ => alike_parameter)).bind fun ps qs hps => .ok ?_
      simp only [plain, Success.map_eq_of_forall₂ hps, CType.withoutBack_ofDeclaration h.proto]

theorem alike_extract (h : List.Forall₂ CommandEntry.Parted l l') :
    Alike (fun a b => b.map plain = a.map plain) (extract required l) (extract required l') := by
  induction h with
  | nil => exact .ok rfl
  | @cons c c' l l' hc _ ih =>
      rw [extract, extract, hc.proto.nameIn_eq]
      refine (Alike.refl Eq.refl _).bind fun n _ hn => ?_
      subst hn
      by_cases hn : n ∈ required
      · rw [if_pos hn, if_pos hn]
        refine (alike_ofEntry hc).bind fun s s' hs => ih.bind fun _ _ hrest => .ok ?_
        rw [List.map_cons, List.map_cons, hs, hrest]
      · rw [if_neg hn, if_neg hn]
        exact ih

theorem isRequired_parted (h : c.Parted c') : isRequired required c' = isRequired required c := by
  rw [isRequired, isRequired, h.proto.name?_eq]

theorem eq_iff_of_declares {d d' : Declaration} {p p' : Parameter} (h : d.Parted d')
    (hp : Declares d p) (hp' : Declares d' p') : p' = p ↔ ¬ d.CutShort d' := by
  obtain ⟨n, type⟩ := p
  obtain ⟨n', type'⟩ := p'
  obtain ⟨hn, htype⟩ := hp
  obtain ⟨hn', htype'⟩ := hp'
  rw [h.name?_eq, hn] at hn'
  cases hn'
  rw [← CType.ofDeclaration_eq_iff h, ← htype, ← htype']
  simp

theorem eq_iff_of_isOf {s s' : Signature} (h : c.Parted c') (hs : IsOf c s) (hs' : IsOf c' s') :
    s' = s ↔ ¬ c.CutShort c' := by
  have hparams : s'.params = s.params ↔ ¬ ∃ d ∈ c.params.zip c'.params, d.1.CutShort d.2 :=
    Success.eq_iff_of_forall₂ h.params hs.params hs'.params fun _ _ _ _ => eq_iff_of_declares
  have htype : s'.returnType = s.returnType ↔ ¬ c.proto.CutShort c'.proto := by
    rw [← CType.ofDeclaration_eq_iff h.proto, hs.returnType, hs'.returnType]
  have hname : s'.name = s.name := by
    have hn := hs'.name
    rw [h.proto.name?_eq, hs.name] at hn
    exact (Option.some.inj hn).symm
  rw [CommandEntry.CutShort, not_or, ← hparams, ← htype]
  obtain ⟨n, type, params⟩ := s
  obtain ⟨n', type', params'⟩ := s'
  simp_all

theorem forall₂_required (h : List.Forall₂ CommandEntry.Parted l l') :
    List.Forall₂ CommandEntry.Parted (l.filter (isRequired required))
      (l'.filter (isRequired required)) := by
  induction h with
  | nil => exact .nil
  | @cons c c' l l' hc _ ih =>
      rw [List.filter_cons, List.filter_cons, isRequired_parted hc]
      split
      · exact .cons hc ih
      · exact ih

theorem extract_eq_iff {a b : List Signature} (h : List.Forall₂ CommandEntry.Parted l l')
    (ha : extract required l = .ok a) (hb : extract required l' = .ok b) :
    b = a ↔ ¬ ∃ c ∈ (l.filter (isRequired required)).zip (l'.filter (isRequired required)),
      c.1.CutShort c.2 :=
  Success.eq_iff_of_forall₂ (forall₂_required h) (extract_eq_ok_iff.mp ha).2
    (extract_eq_ok_iff.mp hb).2 fun _ _ _ _ => eq_iff_of_isOf

end Signature

namespace Definitions

def plain (d : Definitions) : Definitions := { d with commands := d.commands.map Signature.plain }

/-- A declaration of a command that the definitions are to hold is cut short. -/
def CutShort (r r' : Registry) (d : Definitions) : Prop :=
  let required := Signature.isRequired d.requirements.commands.keys
  ∃ c ∈ (r.commandEntries.filter required).zip (r'.commandEntries.filter required), c.1.CutShort c.2

theorem alike_ofRegistry {r r' : Registry} (h : r.Parted r') (t : Targets) :
    Alike (fun d d' => d'.plain = d.plain ∧ (d' = d ↔ ¬ CutShort r r' d))
      (ofRegistry r t) (ofRegistry r' t) := by
  rw [ofRegistry_eq, ofRegistry_eq, h.levels, h.extensions, h.types?, h.enumBlocks]
  refine (Alike.refl Eq.refl _).bind fun x _ hx => ?_
  subst hx
  have hentries := h.commandEntries
  have halike : Alike (fun a b => b.map Signature.plain = a.map Signature.plain)
      (Signature.extract x.requirements.commands.keys r.commandEntries)
      (Signature.extract x.requirements.commands.keys r'.commandEntries) :=
    Signature.alike_extract hentries
  cases ha : Signature.extract x.requirements.commands.keys r.commandEntries <;>
    cases hb : Signature.extract x.requirements.commands.keys r'.commandEntries <;>
    rw [ha, hb] at halike <;> cases halike
  case error => exact .error _
  case ok a b hplain =>
    have heq := Signature.extract_eq_iff hentries ha hb
    refine .ok ⟨?_, ?_⟩
    · rw [plain, plain, hplain]
    · rw [CutShort, ← heq]
      simp

end Definitions

namespace Registry

/-- A document with a comment more is read exactly if it was before, and any targets have the same
fault in it. What they have defined in it is the same but for the types of declarations that the
comment cuts short, which lack the rest of their back modifiers. -/
theorem ofElement_commented {s : String} {root : Xml.Element} {children : List Xml.Node}
    (h : Xml.Commented s root.children children) :
    ((∃ r', ofElement { root with children } = .ok r') ↔ ∃ r, ofElement root = .ok r) ∧
      ∀ r r', ofElement root = .ok r → ofElement { root with children } = .ok r' → ∀ t,
        (∀ e, Definitions.ofRegistry r t = .error e → Definitions.ofRegistry r' t = .error e) ∧
          ∀ d, Definitions.ofRegistry r t = .ok d → ∃ d', Definitions.ofRegistry r' t = .ok d' ∧
            d'.plain = d.plain ∧ (d' = d ↔ ¬ Definitions.CutShort r r' d) := by
  have hroot : root.Commented s { root with children } := ⟨rfl, rfl, .inr h⟩
  have hread := alike_ofElement hroot
  refine ⟨hread.succeeds_iff, fun r r' hr hr' t => ?_⟩
  have hdefined := Definitions.alike_ofRegistry (hread.rel hr hr') t
  exact ⟨fun e he => hdefined.eq_error he, fun d hd => hdefined.exists_ok hd⟩

def pointerDocument (gap : List Xml.Node) : Xml.Element where
  name := ⟨"", "registry"⟩
  attributes := []
  children := [
    .element ⟨"", "commands"⟩ [] [.element ⟨"", "command"⟩ [] [
      .element ⟨"", "proto"⟩ [] [.text "void ", .element ⟨"", "name"⟩ [] [.text "glDelete"]],
      .element ⟨"", "param"⟩ [] (.element ⟨"", "ptype"⟩ [] [.text "GLuint"] :: gap ++
        [.element ⟨"", "name"⟩ [] [.text "ids"]])]],
    .element ⟨"", "feature"⟩
      [⟨⟨"", "api"⟩, "gl"⟩, ⟨⟨"", "name"⟩, "GL_VERSION_1_0"⟩, ⟨⟨"", "number"⟩, "1.0"⟩]
      [.element ⟨"", "require"⟩ [] [.element ⟨"", "command"⟩ [⟨⟨"", "name"⟩, "glDelete"⟩] []]]]

def pointer : Registry where
  nodes := [
    .commands ⟨none, [⟨⟨none, [.text "void ", .name "glDelete"]⟩,
      [⟨none, [.platformType "GLuint", .text " *", .name "ids"]⟩], none, none⟩]⟩,
    .level ⟨.gl, "GL_VERSION_1_0", ⟨1, 0⟩, [⟨none, none, [.command "glDelete"]⟩], []⟩]

def pointerInParts : Registry where
  nodes := [
    .commands ⟨none, [⟨⟨none, [.text "void ", .name "glDelete"]⟩,
      [⟨none, [.platformType "GLuint", .text " ", .text "*", .name "ids"]⟩], none, none⟩]⟩,
    .level ⟨.gl, "GL_VERSION_1_0", ⟨1, 0⟩, [⟨none, none, [.command "glDelete"]⟩], []⟩]

def pointerTargets : Targets where
  apis := [.gl]
  versions := [⟨1, 0⟩]

def backModifiers (r : Registry) : Except DefinitionsFault (List (Option String)) :=
  (Definitions.ofRegistry r pointerTargets).map fun d =>
    d.commands.flatMap fun c => c.params.map (·.type.backModifiers)

/-- A comment in the text behind the platform type hides the star that follows it. -/
theorem ofElement_not_inert :
    ¬ ∀ (s : String) (root : Xml.Element) (children : List Xml.Node),
      Xml.Commented s root.children children → ∀ r r', ofElement root = .ok r →
        ofElement { root with children } = .ok r' → ∀ t,
          Definitions.ofRegistry r' t = Definitions.ofRegistry r t := by
  intro h
  have hcommented : Xml.Commented "array" (pointerDocument [.text (" " ++ "*")]).children
      (pointerDocument [.text " ", .comment "array", .text "*"]).children :=
    .inside [] _ _ _ (.inside [] _ _ _ (.inside [_] _ _ _ (.within [_] _ " " "*")))
  have heq := h _ _ _ hcommented pointer pointerInParts rfl rfl pointerTargets
  obtain ⟨hwhole, hparts⟩ :
      backModifiers pointer = .ok [some "*"] ∧ backModifiers pointerInParts = .ok [none] := by
    simp only [backModifiers, Definitions.ofRegistry, Resolved.ofTargets, Requirements.ofTarget,
      Requirements.byVersion, Grouping.mergeSort_eq_insertionSort]
    decide +kernel
  rw [backModifiers, heq, ← backModifiers, hwhole] at hparts
  cases hparts

theorem ofElement_commented_pointer :
    Xml.Commented "array" (pointerDocument [.text " *"]).children
        (pointerDocument [.text " *", .comment "array"]).children ∧
      ∃ r', ofElement (pointerDocument [.text " *", .comment "array"]) = .ok r' := by
  have hcommented : Xml.Commented "array" (pointerDocument [.text " *"]).children
      (pointerDocument [.text " *", .comment "array"]).children :=
    .inside [] _ _ _ (.inside [] _ _ _ (.inside [_] _ _ _ (.between [_, _] _)))
  exact ⟨hcommented, (ofElement_commented hcommented).1.mpr ⟨pointer, rfl⟩⟩

end Registry

end GLBindings
