import GLBindings.Proofs.Binding.Stages
import GLBindings.Proofs.CType
import GLBindings.Proofs.Failure
import GLBindings.Proofs.Xml.Comments
import GLBindings.Registry.Reader

namespace GLBindings

open Failure (Alike)
open Xml (Element)

structure CommandEntry.Parted (c c' : CommandEntry) : Prop where
  proto : c.proto.Parted c'.proto
  params : List.Forall₂ Declaration.Parted c.params c'.params
  aliasOf : c'.aliasOf = c.aliasOf
  vectorForm : c'.vectorForm = c.vectorForm

inductive Registry.CommandPart.Parted : Registry.CommandPart → Registry.CommandPart → Prop
  | same (p : CommandPart) : Parted p p
  | proto {d d' : Declaration} (h : d.Parted d') : Parted (.proto d) (.proto d')
  | param {d d' : Declaration} (h : d.Parted d') : Parted (.param d) (.param d')

inductive Registry.Node.Parted : Registry.Node → Registry.Node → Prop
  | same (n : Node) : Parted n n
  | commands (scope : Option String) {l l' : List CommandEntry}
      (h : List.Forall₂ CommandEntry.Parted l l') : Parted (.commands ⟨scope, l⟩) (.commands ⟨scope, l'⟩)

def Registry.Parted (r r' : Registry) : Prop := List.Forall₂ Registry.Node.Parted r.nodes r'.nodes

theorem CommandEntry.Parted.refl (c : CommandEntry) : c.Parted c :=
  ⟨.same _, List.forall₂_same.mpr fun d _ => .same d, rfl, rfl⟩

namespace Registry

namespace Parted

variable {r r' : Registry}

theorem filterMap_eq {α : Type} {f : Node → Option α} (h : r.Parted r')
    (hf : ∀ b, f (.commands b) = none) : r'.nodes.filterMap f = r.nodes.filterMap f := by
  obtain ⟨l⟩ := r
  obtain ⟨l'⟩ := r'
  change List.Forall₂ _ l l' at h
  induction h with
  | nil => rfl
  | cons hn _ ih =>
      cases hn with
      | same n => rw [List.filterMap_cons, List.filterMap_cons, ih]
      | commands => rw [List.filterMap_cons_none (hf _), List.filterMap_cons_none (hf _), ih]

theorem levels (h : r.Parted r') : r'.levels = r.levels := h.filterMap_eq fun _ => rfl

theorem extensions (h : r.Parted r') : r'.extensions = r.extensions :=
  congrArg List.flatten (h.filterMap_eq fun _ => rfl)

theorem enumBlocks (h : r.Parted r') : r'.enumBlocks = r.enumBlocks := h.filterMap_eq fun _ => rfl

theorem types? (h : r.Parted r') : r'.types? = r.types? := by
  rw [Registry.types?, Registry.types?, ← List.head?_filterMap, ← List.head?_filterMap,
    h.filterMap_eq fun _ => rfl]

theorem commandEntries (h : r.Parted r') :
    List.Forall₂ CommandEntry.Parted r.commandEntries r'.commandEntries := by
  obtain ⟨l⟩ := r
  obtain ⟨l'⟩ := r'
  change List.Forall₂ _ l l' at h
  simp only [Registry.commandEntries, commands?]
  induction h with
  | nil => exact .nil
  | @cons n _ _ _ hn _ ih =>
      rw [List.findSome?_cons, List.findSome?_cons]
      cases hn with
      | commands scope h => exact h
      | same =>
          cases n.commands? with
          | none => exact ih
          | some b => exact List.forall₂_same.mpr fun c _ => .refl c

end Parted

variable {α : Type} {s : String} {p p' e e' : Element}

theorem unexpected_commented (hp : p.Commented s p') (h : e.Commented s e') :
    (unexpected p' e' : Checked α) = unexpected p e := by
  rw [unexpected, unexpected, hp.tag, h.tag]

theorem required_commented (h : e.Commented s e') (key : String) :
    required e' key = required e key := by
  rw [required, required, h.attribute?, h.tag]

theorem attributeAs_commented (h : e.Commented s e') (read : String → Except String α)
    (key : String) : attributeAs read e' key = attributeAs read e key := by
  rw [attributeAs, attributeAs, h.attribute?, h.tag]

theorem requiredAs_commented (h : e.Commented s e') (read : String → Except String α)
    (key : String) : requiredAs read e' key = requiredAs read e key := by
  rw [requiredAs, requiredAs, attributeAs_commented h, h.tag]

theorem mapM_commented {f f' : Element → Checked α} (h : e.Commented s e')
    (hf : ∀ c c', c.Commented s c' → f' c' = f c) : e'.elements.mapM f' = e.elements.mapM f :=
  Failure.mapM_congr (h.elements.imp hf)

theorem entity_commented (hp : p.Commented s p') (h : e.Commented s e') :
    entity p' e' = entity p e := by
  simp only [entity, h.tag, required_commented h, unexpected_commented hp h]

theorem block_commented (h : e.Commented s e') : block e' = block e := by
  rw [block, block, mapM_commented h fun _ _ => entity_commented h, attributeAs_commented h,
    attributeAs_commented h]

theorem change_commented (hp : p.Commented s p') (h : e.Commented s e') :
    change p' e' = change p e := by
  simp only [change, h.tag, block_commented h, unexpected_commented hp h]

theorem level_commented (h : e.Commented s e') : level e' = level e := by
  rw [level, level, requiredAs_commented h, requiredAs_commented h, required_commented h,
    mapM_commented h fun _ _ => change_commented h]

theorem extension_commented (hp : p.Commented s p') (h : e.Commented s e') :
    extension p' e' = extension p e := by
  rw [extension, extension, h.tag, required_commented h, h.attribute?, unexpected_commented hp h,
    mapM_commented h fun _ _ => change_commented h]

theorem typeEntry_commented (hp : p.Commented s p') (h : e.Commented s e') :
    typeEntry p' e' = typeEntry p e := by
  rw [typeEntry, typeEntry, h.tag, h.attribute?, h.attribute?, h.content, unexpected_commented hp h]

theorem enumItem_commented (hp : p.Commented s p') (h : e.Commented s e') :
    enumItem p' e' = enumItem p e := by
  simp only [enumItem, h.tag, required_commented h, h.attribute?, unexpected_commented hp h]

theorem enumBlock_commented (h : e.Commented s e') : enumBlock e' = enumBlock e := by
  rw [enumBlock, enumBlock, h.attribute?, h.attribute?, h.attribute?,
    mapM_commented h fun _ _ => enumItem_commented h]

def fragments (p : Element) (l : List Xml.Node) : Checked (List Fragment) :=
  List.filterMap id <$> l.mapM (fragment? p)

theorem declaration_eq (e : Element) :
    declaration e = (⟨e.attribute? "group", ·⟩) <$> fragments e e.children := by
  rw [declaration, fragments]
  cases e.children.mapM (fragment? e) <;> rfl

theorem fragments_cons (p : Element) (n : Xml.Node) (l : List Xml.Node) :
    fragments p (n :: l) = do
      let f ← fragment? p n
      let fs ← fragments p l
      return f.toList ++ fs := by
  rw [fragments, List.mapM_cons, fragments]
  cases fragment? p n with
  | error f => rfl
  | ok f =>
      cases l.mapM (fragment? p) with
      | error f => rfl
      | ok fs => cases f <;> rfl

theorem fragments_append (p : Element) (l m : List Xml.Node) :
    fragments p (l ++ m) = do
      let fs ← fragments p l
      let gs ← fragments p m
      return fs ++ gs := by
  induction l with
  | nil =>
      rw [List.nil_append]
      cases fragments p m <;> rfl
  | cons n l ih =>
      rw [List.cons_append, fragments_cons, fragments_cons, ih]
      cases fragment? p n with
      | error f => rfl
      | ok f =>
          cases fragments p l with
          | error f => rfl
          | ok fs => cases fragments p m <;> simp [bind, Except.bind, pure, Except.pure]

theorem fragments_comment (p : Element) (l : List Xml.Node) :
    fragments p (.comment s :: l) = fragments p l := by
  rw [fragments_cons]
  cases fragments p l <;> rfl

theorem fragment?_commented (hp : p.Commented s p') {name : Xml.Name}
    {attributes : List Xml.Attribute} {l m : List Xml.Node}
    (h : Element.Commented s ⟨name, attributes, l⟩ ⟨name, attributes, m⟩) :
    fragment? p' (.element name attributes m) = fragment? p (.element name attributes l) := by
  simp only [fragment?, h.tag, h.content, unexpected_commented hp h]

theorem fragments_of_tag (hp : p.Commented s p') (l : List Xml.Node) :
    fragments p' l = fragments p l := by
  have hone : fragment? p' = fragment? p := by
    funext n
    cases n with
    | element name attributes children => exact fragment?_commented hp (.refl _)
    | text | comment | instruction => rfl
  rw [fragments, fragments, hone]

/-- Only text is read part by part. -/
theorem alike_fragments (p : Element) {l m : List Xml.Node} (h : Xml.Commented s l m) :
    Alike (fun fs gs => ∀ group, Declaration.Parted ⟨group, fs⟩ ⟨group, gs⟩)
      (fragments p l) (fragments p m) := by
  cases h with
  | between before after =>
      simp only [fragments_append, fragments_comment]
      exact .refl (fun _ _ => .same _) _
  | @inside before after n as l m h =>
      have hchild : Element.Commented s ⟨n, as, l⟩ ⟨n, as, m⟩ := ⟨rfl, rfl, .inr h⟩
      have hfragment : fragment? p (.element n as m) = fragment? p (.element n as l) :=
        fragment?_commented (.refl p) hchild
      simp only [fragments_append, fragments_cons, hfragment]
      exact .refl (fun _ _ => .same _) _
  | within before after t u =>
      simp only [fragments_append, fragments_cons]
      cases fragments p before with
      | error f => exact .error f
      | ok front =>
          cases fragments p after with
          | error f => exact .error f
          | ok back => exact .ok fun group => .text group front back t u

theorem alike_declaration (h : e.Commented s e') :
    Alike Declaration.Parted (declaration e) (declaration e') := by
  rw [declaration_eq, declaration_eq, h.attribute?, fragments_of_tag h]
  rcases h.children with heq | hc
  · rw [heq]
    exact .refl .same _
  · exact (alike_fragments e hc).map fun _ _ hfs => hfs _

theorem alike_commandPart (hp : p.Commented s p') (h : e.Commented s e') :
    Alike CommandPart.Parted (commandPart p e) (commandPart p' e') := by
  simp only [commandPart, h.tag, required_commented h, unexpected_commented hp h]
  split
  case h_1 => exact (alike_declaration h).map fun _ _ => .proto
  case h_2 => exact (alike_declaration h).map fun _ _ => .param
  all_goals exact .refl .same _

theorem proto?_parted {a b : CommandPart} (h : a.Parted b) :
    Option.Rel Declaration.Parted a.proto? b.proto? := by
  cases h with
  | proto h => exact .some h
  | param => exact .none
  | same => cases a with
    | proto d => exact .some (.same d)
    | _ => exact .none

theorem param?_parted {a b : CommandPart} (h : a.Parted b) :
    Option.Rel Declaration.Parted a.param? b.param? := by
  cases h with
  | param h => exact .some h
  | proto => exact .none
  | same => cases a with
    | param d => exact .some (.same d)
    | _ => exact .none

theorem filterMap_parted {f : CommandPart → Option String} {l m : List CommandPart}
    (h : List.Forall₂ CommandPart.Parted l m) (hproto : ∀ d, f (.proto d) = none)
    (hparam : ∀ d, f (.param d) = none) : m.filterMap f = l.filterMap f := by
  induction h with
  | nil => rfl
  | cons ha _ ih =>
      cases ha with
      | same => rw [List.filterMap_cons, List.filterMap_cons, ih]
      | proto => rw [List.filterMap_cons_none (hproto _), List.filterMap_cons_none (hproto _), ih]
      | param => rw [List.filterMap_cons_none (hparam _), List.filterMap_cons_none (hparam _), ih]

theorem alike_commandEntry (hp : p.Commented s p') (h : e.Commented s e') :
    Alike CommandEntry.Parted (commandEntry p e) (commandEntry p' e') := by
  have hparts := Alike.mapM (h.elements.imp fun c c' hc => alike_commandPart h hc)
  rw [commandEntry, commandEntry, h.tag, unexpected_commented hp h]
  split
  · refine hparts.bind fun parts parts' hparts => ?_
    have hprotos := List.rel_filterMap @proto?_parted hparts
    have hlast := Success.rel_getLast? hprotos
    rw [filterMap_parted hparts (fun _ => rfl) (fun _ => rfl),
      filterMap_parted hparts (fun _ => rfl) (fun _ => rfl)]
    generalize (parts.filterMap CommandPart.proto?).getLast? = proto at hlast ⊢
    generalize (parts'.filterMap CommandPart.proto?).getLast? = proto' at hlast ⊢
    cases hlast with
    | none => exact .error _
    | some hproto =>
        exact .ok ⟨hproto, List.rel_filterMap @param?_parted hparts, rfl, rfl⟩
  · exact .refl .refl _

theorem alike_commandBlock (h : e.Commented s e') :
    Alike Node.Parted (.commands <$> commandBlock e) (.commands <$> commandBlock e') := by
  have hentries := Alike.mapM (h.elements.imp fun c c' hc => alike_commandEntry h hc)
  rw [commandBlock, commandBlock, h.attribute?, map_bind, map_bind]
  exact hentries.bind fun _ _ hentries => .ok (.commands _ hentries)

theorem alike_node (hp : p.Commented s p') (h : e.Commented s e') :
    Alike Node.Parted (node p e) (node p' e') := by
  simp only [node, h.tag, h.content, enumBlock_commented h, level_commented h,
    unexpected_commented hp h, mapM_commented h fun _ _ => typeEntry_commented h,
    mapM_commented h fun _ _ => extension_commented h]
  split
  case h_6 => exact alike_commandBlock h
  all_goals exact .refl .same _

/-- With a comment more, a document has the same fault, or is read into the same registry apart from
a text in two parts. -/
theorem alike_ofElement {root root' : Element} (h : root.Commented s root') :
    Alike Registry.Parted (ofElement root) (ofElement root') := by
  have hnodes := Alike.mapM (h.elements.imp fun c c' hc => alike_node h hc)
  rw [ofElement, ofElement, h.tag]
  split
  · exact hnodes.map fun _ _ hnodes => hnodes
  · exact .error _

end Registry

end GLBindings
