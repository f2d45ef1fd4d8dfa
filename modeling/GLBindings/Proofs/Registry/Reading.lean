import GLBindings.Proofs.Success
import GLBindings.Registry.Reader

namespace GLBindings

open Xml (Element)

def Xml.Element.tagged (e : Element) (tag : String) : List Element := e.elements.filter (·.tag = tag)

/-- Text and elements; all else is left out of a declaration. -/
def Xml.Node.isPart : Xml.Node → Bool
  | .element .. => true
  | .text _ => true
  | _ => false

inductive Fragment.IsOf : Xml.Node → Fragment → Prop
  | text {s : String} : IsOf (.text s) (.text s)
  | platformType {n : Xml.Node} {c : Element} (hc : n.element? = some c) (ht : c.tag = "ptype") :
      IsOf n (.platformType c.content)
  | name {n : Xml.Node} {c : Element} (hc : n.element? = some c) (ht : c.tag = "name") :
      IsOf n (.name c.content)

structure Declaration.IsOf (e : Element) (d : Declaration) : Prop where
  group : d.group = e.attribute? "group"
  fragments : List.Forall₂ Fragment.IsOf (e.children.filter Xml.Node.isPart) d.fragments

inductive Registry.CommandPart.IsOf (e : Element) : Registry.CommandPart → Prop
  | proto {d : Declaration} (ht : e.tag = "proto") (h : Declaration.IsOf e d) : IsOf e (.proto d)
  | param {d : Declaration} (ht : e.tag = "param") (h : Declaration.IsOf e d) : IsOf e (.param d)
  | aliasOf {n : String} (ht : e.tag = "alias") (h : e.attribute? "name" = some n) :
      IsOf e (.aliasOf n)
  | vectorForm {n : String} (ht : e.tag = "vecequiv") (h : e.attribute? "name" = some n) :
      IsOf e (.vectorForm n)
  | opcode (ht : e.tag = "glx") : IsOf e .opcode

/-- Of several prototypes, and of several references of one kind, the last one counts. -/
structure CommandEntry.IsOf (e : Element) (c : CommandEntry) : Prop where
  proto : Option.Rel Declaration.IsOf (e.tagged "proto").getLast? (some c.proto)
  params : List.Forall₂ Declaration.IsOf (e.tagged "param") c.params
  aliasOf : Option.Rel (fun a n => a.attribute? "name" = some n) (e.tagged "alias").getLast? c.aliasOf
  vectorForm : Option.Rel (fun a n => a.attribute? "name" = some n) (e.tagged "vecequiv").getLast?
    c.vectorForm

structure CommandBlock.IsOf (e : Element) (b : CommandBlock) : Prop where
  scope : b.scope = e.attribute? "namespace"
  commands : List.Forall₂ CommandEntry.IsOf e.elements b.commands

structure TypeEntry.IsOf (e : Element) (t : TypeEntry) : Prop where
  name : t.name = e.attribute? "name"
  api : t.api = e.attribute? "api"
  text : t.text = e.content

structure EnumEntry.IsOf (e : Element) (v : EnumEntry) : Prop where
  name : e.attribute? "name" = some v.name
  value : e.attribute? "value" = some v.value
  groups : v.groups = (e.attribute? "group").map (Text.splitText ',')
  api : v.api = e.attribute? "api"

inductive EnumItem.IsOf (e : Element) : EnumItem → Prop
  | value {v : EnumEntry} (ht : e.tag = "enum") (h : EnumEntry.IsOf e v) : IsOf e (.value v)
  | unused (ht : e.tag = "unused") : IsOf e .unused

structure EnumBlock.IsOf (e : Element) (b : EnumBlock) : Prop where
  scope : b.scope = e.attribute? "namespace"
  group : b.group = e.attribute? "group"
  kind : b.kind = e.attribute? "type"
  items : List.Forall₂ EnumItem.IsOf e.elements b.items

inductive Entity.IsOf (e : Element) : Entity → Prop
  | type {n : String} (ht : e.tag = "type") (h : e.attribute? "name" = some n) : IsOf e (.type n)
  | enum {n : String} (ht : e.tag = "enum") (h : e.attribute? "name" = some n) : IsOf e (.enum n)
  | command {n : String} (ht : e.tag = "command") (h : e.attribute? "name" = some n) :
      IsOf e (.command n)

structure Block.IsOf (e : Element) (b : Block) : Prop where
  entries : List.Forall₂ Entity.IsOf e.elements b.entries
  profile : Option.Rel Named.Spells (e.attribute? "profile") b.profile
  api : Option.Rel Named.Spells (e.attribute? "api") b.api

inductive Registry.Change.IsOf (e : Element) : Registry.Change → Prop
  | require {b : Block} (ht : e.tag = "require") (h : Block.IsOf e b) : IsOf e (.require b)
  | remove {b : Block} (ht : e.tag = "remove") (h : Block.IsOf e b) : IsOf e (.remove b)

structure Level.IsOf (e : Element) (l : Level) : Prop where
  api : Option.Rel Named.Spells (e.attribute? "api") (some l.api)
  version : Option.Rel (fun s v => Version.read s = .ok v) (e.attribute? "number") (some l.version)
  name : e.attribute? "name" = some l.name
  requires : List.Forall₂ Block.IsOf (e.tagged "require") l.requires
  removes : List.Forall₂ Block.IsOf (e.tagged "remove") l.removes

structure Extension.IsOf (e : Element) (x : Extension) : Prop where
  name : e.attribute? "name" = some x.name
  supported : x.supported = ((e.attribute? "supported").map (Text.splitText '|')).getD []
  requires : List.Forall₂ Block.IsOf (e.tagged "require") x.requires
  removes : List.Forall₂ Block.IsOf (e.tagged "remove") x.removes

inductive Registry.Node.IsOf (e : Element) : Registry.Node → Prop
  | comment (ht : e.tag = "comment") : IsOf e (.comment e.content)
  | types {l : List TypeEntry} (ht : e.tag = "types")
      (h : List.Forall₂ TypeEntry.IsOf e.elements l) : IsOf e (.types l)
  | kinds (ht : e.tag = "kinds") : IsOf e .kinds
  | groups (ht : e.tag = "groups") : IsOf e .groups
  | enums {b : EnumBlock} (ht : e.tag = "enums") (h : EnumBlock.IsOf e b) : IsOf e (.enums b)
  | commands {b : CommandBlock} (ht : e.tag = "commands") (h : CommandBlock.IsOf e b) :
      IsOf e (.commands b)
  | level {l : Level} (ht : e.tag = "feature") (h : Level.IsOf e l) : IsOf e (.level l)
  | extensions {l : List Extension} (ht : e.tag = "extensions")
      (h : List.Forall₂ Extension.IsOf e.elements l) : IsOf e (.extensions l)

structure Registry.IsOf (root : Element) (r : Registry) : Prop where
  nodes : List.Forall₂ Registry.Node.IsOf root.elements r.nodes

namespace Registry

open Success

variable {e parent : Element}

theorem required_eq_ok_iff {key s : String} : required e key = .ok s ↔ e.attribute? key = some s := by
  unfold required
  cases e.attribute? key <;> simp

theorem rel_of_attributeAs {α : Type} {read : String → Except String α} {key : String} {a : Option α}
    (h : attributeAs read e key = .ok a) :
    Option.Rel (fun s a => read s = .ok a) (e.attribute? key) a := by
  unfold attributeAs at h
  cases hs : e.attribute? key with
  | none =>
      rw [hs] at h
      cases h
      exact .none
  | some s =>
      rw [hs] at h
      obtain ⟨b, hb, rfl⟩ := map_eq_ok_iff.mp (mapError_eq_ok_iff.mp h)
      exact .some hb

theorem rel_of_requiredAs {α : Type} {read : String → Except String α} {key : String} {a : α}
    (h : requiredAs read e key = .ok a) :
    Option.Rel (fun s a => read s = .ok a) (e.attribute? key) (some a) := by
  obtain ⟨b, hb, h⟩ := bind_eq_ok_iff.mp h
  cases b with
  | none => cases h
  | some b =>
      cases h
      exact rel_of_attributeAs hb

theorem spells_of_readName {α : Type} [Named α] {s : String} {a : α}
    (h : readName s = .ok a) : Named.Spells s a :=
  Named.spells_of_read (mapError_eq_ok_iff.mp h)

theorem isOf_entity {x : Entity} (h : entity parent e = .ok x) : x.IsOf e := by
  unfold entity at h
  split at h
  next ht =>
    obtain ⟨n, hn, rfl⟩ := map_eq_ok_iff.mp h
    exact .type ht (required_eq_ok_iff.mp hn)
  next ht =>
    obtain ⟨n, hn, rfl⟩ := map_eq_ok_iff.mp h
    exact .enum ht (required_eq_ok_iff.mp hn)
  next ht =>
    obtain ⟨n, hn, rfl⟩ := map_eq_ok_iff.mp h
    exact .command ht (required_eq_ok_iff.mp hn)
  next => cases h

theorem isOf_block {b : Block} (h : block e = .ok b) : b.IsOf e := by
  obtain ⟨entries, hentries, h⟩ := bind_eq_ok_iff.mp h
  obtain ⟨profile, hprofile, h⟩ := bind_eq_ok_iff.mp h
  obtain ⟨api, hapi, h⟩ := bind_eq_ok_iff.mp h
  cases h
  exact ⟨(mapM_eq_ok_iff.mp hentries).imp fun _ _ => isOf_entity,
    rel_imp (fun _ _ => spells_of_readName) (rel_of_attributeAs hprofile),
    rel_imp (fun _ _ => spells_of_readName) (rel_of_attributeAs hapi)⟩

theorem isOf_change {c : Change} (h : change parent e = .ok c) : c.IsOf e := by
  unfold change at h
  split at h
  next ht =>
    obtain ⟨b, hb, rfl⟩ := map_eq_ok_iff.mp h
    exact .require ht (isOf_block hb)
  next ht =>
    obtain ⟨b, hb, rfl⟩ := map_eq_ok_iff.mp h
    exact .remove ht (isOf_block hb)
  next => cases h

theorem isOf_changes {changes : List Change} (h : e.elements.mapM (change e) = .ok changes) :
    List.Forall₂ Block.IsOf (e.tagged "require") (changes.filterMap Change.require?) ∧
      List.Forall₂ Block.IsOf (e.tagged "remove") (changes.filterMap Change.remove?) := by
  have hall : List.Forall₂ Change.IsOf e.elements changes :=
    (mapM_eq_ok_iff.mp h).imp fun _ _ => isOf_change
  constructor
  · apply forall₂_filter_filterMap hall
    · rintro c _ (⟨_, hb⟩ | ⟨ht, _⟩) hc
      · exact ⟨_, rfl, hb⟩
      · simp [ht] at hc
    · rintro c _ (⟨ht, _⟩ | _) hc
      · simp [ht] at hc
      · rfl
  · apply forall₂_filter_filterMap hall
    · rintro c _ (⟨ht, _⟩ | ⟨_, hb⟩) hc
      · simp [ht] at hc
      · exact ⟨_, rfl, hb⟩
    · rintro c _ (_ | ⟨ht, _⟩) hc
      · rfl
      · simp [ht] at hc

theorem isOf_level {l : Level} (h : level e = .ok l) : l.IsOf e := by
  obtain ⟨api, hapi, h⟩ := bind_eq_ok_iff.mp h
  obtain ⟨version, hversion, h⟩ := bind_eq_ok_iff.mp h
  obtain ⟨name, hname, h⟩ := bind_eq_ok_iff.mp h
  obtain ⟨changes, hchanges, h⟩ := bind_eq_ok_iff.mp h
  cases h
  obtain ⟨hrequires, hremoves⟩ := isOf_changes hchanges
  exact ⟨rel_imp (fun _ _ => spells_of_readName) (rel_of_requiredAs hapi),
    rel_imp (fun _ _ => mapError_eq_ok_iff.mp) (rel_of_requiredAs hversion),
    required_eq_ok_iff.mp hname, hrequires, hremoves⟩

theorem isOf_extension {x : Extension} (h : extension parent e = .ok x) : x.IsOf e := by
  unfold extension at h
  split at h
  next =>
    obtain ⟨name, hname, h⟩ := bind_eq_ok_iff.mp h
    obtain ⟨changes, hchanges, h⟩ := bind_eq_ok_iff.mp h
    cases h
    obtain ⟨hrequires, hremoves⟩ := isOf_changes hchanges
    exact ⟨required_eq_ok_iff.mp hname, rfl, hrequires, hremoves⟩
  next => cases h

theorem isOf_fragment {n : Xml.Node} {f : Fragment} (h : fragment? parent n = .ok (some f)) :
    f.IsOf n := by
  cases n with
  | text s =>
      cases h
      exact .text
  | comment | instruction => cases h
  | element name attributes children =>
      simp only [fragment?] at h
      split at h
      next ht =>
        cases h
        exact .platformType rfl ht
      next ht =>
        cases h
        exact .name rfl ht
      next => cases h

theorem isOf_declaration {d : Declaration} (h : declaration e = .ok d) : d.IsOf e := by
  obtain ⟨fragments, hfragments, h⟩ := bind_eq_ok_iff.mp h
  cases h
  refine ⟨rfl, ?_⟩
  refine forall₂_filter_filterMap (mapM_eq_ok_iff.mp hfragments) (fun n f hf hn => ?_)
    (fun n f hf hn => ?_)
  · cases f with
    | some f => exact ⟨f, rfl, isOf_fragment hf⟩
    | none =>
        cases n with
        | text => cases hf
        | comment | instruction => cases hn
        | element name attributes children =>
            simp only [fragment?] at hf
            split at hf <;> cases hf
  · cases n with
    | text | element => cases hn
    | comment | instruction =>
        cases hf
        rfl

theorem isOf_commandPart {p : CommandPart} (h : commandPart parent e = .ok p) : p.IsOf e := by
  unfold commandPart at h
  split at h
  next ht =>
    obtain ⟨d, hd, rfl⟩ := map_eq_ok_iff.mp h
    exact .proto ht (isOf_declaration hd)
  next ht =>
    obtain ⟨d, hd, rfl⟩ := map_eq_ok_iff.mp h
    exact .param ht (isOf_declaration hd)
  next ht =>
    obtain ⟨n, hn, rfl⟩ := map_eq_ok_iff.mp h
    exact .aliasOf ht (required_eq_ok_iff.mp hn)
  next ht =>
    obtain ⟨n, hn, rfl⟩ := map_eq_ok_iff.mp h
    exact .vectorForm ht (required_eq_ok_iff.mp hn)
  next ht =>
    cases h
    exact .opcode ht
  next => cases h

section CommandParts

variable {parts : List CommandPart} (h : List.Forall₂ CommandPart.IsOf e.elements parts)

include h

theorem isOf_protos :
    List.Forall₂ Declaration.IsOf (e.tagged "proto") (parts.filterMap CommandPart.proto?) := by
  apply forall₂_filter_filterMap h
  · rintro c _ (⟨_, hd⟩ | ⟨ht, _⟩ | ⟨ht, _⟩ | ⟨ht, _⟩ | ht) hc
    · exact ⟨_, rfl, hd⟩
    all_goals simp [ht] at hc
  · rintro c _ (⟨ht, _⟩ | _ | _ | _ | _) hc
    · simp [ht] at hc
    all_goals rfl

theorem isOf_params :
    List.Forall₂ Declaration.IsOf (e.tagged "param") (parts.filterMap CommandPart.param?) := by
  apply forall₂_filter_filterMap h
  · rintro c _ (⟨ht, _⟩ | ⟨_, hd⟩ | ⟨ht, _⟩ | ⟨ht, _⟩ | ht) hc
    · simp [ht] at hc
    · exact ⟨_, rfl, hd⟩
    all_goals simp [ht] at hc
  · rintro c _ (_ | ⟨ht, _⟩ | _ | _ | _) hc
    · rfl
    · simp [ht] at hc
    all_goals rfl

theorem isOf_aliases : List.Forall₂ (fun a n => a.attribute? "name" = some n) (e.tagged "alias")
    (parts.filterMap CommandPart.aliasOf?) := by
  apply forall₂_filter_filterMap h
  · rintro c _ (⟨ht, _⟩ | ⟨ht, _⟩ | ⟨_, hn⟩ | ⟨ht, _⟩ | ht) hc
    case aliasOf => exact ⟨_, rfl, hn⟩
    all_goals simp [ht] at hc
  · rintro c _ (_ | _ | ⟨ht, _⟩ | _ | _) hc
    case aliasOf => simp [ht] at hc
    all_goals rfl

theorem isOf_vectorForms : List.Forall₂ (fun a n => a.attribute? "name" = some n)
    (e.tagged "vecequiv") (parts.filterMap CommandPart.vectorForm?) := by
  apply forall₂_filter_filterMap h
  · rintro c _ (⟨ht, _⟩ | ⟨ht, _⟩ | ⟨ht, _⟩ | ⟨_, hn⟩ | ht) hc
    case vectorForm => exact ⟨_, rfl, hn⟩
    all_goals simp [ht] at hc
  · rintro c _ (_ | _ | _ | ⟨ht, _⟩ | _) hc
    case vectorForm => simp [ht] at hc
    all_goals rfl

end CommandParts

theorem isOf_commandEntry {c : CommandEntry} (h : commandEntry parent e = .ok c) : c.IsOf e := by
  unfold commandEntry at h
  split at h
  next =>
    obtain ⟨parts, hparts, h⟩ := bind_eq_ok_iff.mp h
    have hall : List.Forall₂ CommandPart.IsOf e.elements parts :=
      (mapM_eq_ok_iff.mp hparts).imp fun _ _ => isOf_commandPart
    have hlast := rel_getLast? (isOf_protos hall)
    split at h
    next => cases h
    next proto hproto =>
      cases h
      rw [hproto] at hlast
      exact ⟨hlast, isOf_params hall, rel_getLast? (isOf_aliases hall),
        rel_getLast? (isOf_vectorForms hall)⟩
  next => cases h

theorem isOf_commandBlock {b : CommandBlock} (h : commandBlock e = .ok b) : b.IsOf e := by
  obtain ⟨commands, hcommands, h⟩ := bind_eq_ok_iff.mp h
  cases h
  exact ⟨rfl, (mapM_eq_ok_iff.mp hcommands).imp fun _ _ => isOf_commandEntry⟩

theorem isOf_typeEntry {t : TypeEntry} (h : typeEntry parent e = .ok t) : t.IsOf e := by
  unfold typeEntry at h
  split at h
  next =>
    cases h
    exact ⟨rfl, rfl, rfl⟩
  next => cases h

theorem isOf_enumItem {i : EnumItem} (h : enumItem parent e = .ok i) : i.IsOf e := by
  unfold enumItem at h
  split at h
  next ht =>
    obtain ⟨name, hname, h⟩ := bind_eq_ok_iff.mp h
    obtain ⟨value, hvalue, h⟩ := bind_eq_ok_iff.mp h
    cases h
    exact .value ht ⟨required_eq_ok_iff.mp hname, required_eq_ok_iff.mp hvalue, rfl, rfl⟩
  next ht =>
    cases h
    exact .unused ht
  next => cases h

theorem isOf_enumBlock {b : EnumBlock} (h : enumBlock e = .ok b) : b.IsOf e := by
  obtain ⟨items, hitems, h⟩ := bind_eq_ok_iff.mp h
  cases h
  exact ⟨rfl, rfl, rfl, (mapM_eq_ok_iff.mp hitems).imp fun _ _ => isOf_enumItem⟩

theorem isOf_node {n : Node} (h : node parent e = .ok n) : n.IsOf e := by
  unfold node at h
  split at h
  next ht =>
    cases h
    exact .comment ht
  next ht =>
    obtain ⟨l, hl, rfl⟩ := map_eq_ok_iff.mp h
    exact .types ht ((mapM_eq_ok_iff.mp hl).imp fun _ _ => isOf_typeEntry)
  next ht =>
    cases h
    exact .kinds ht
  next ht =>
    cases h
    exact .groups ht
  next ht =>
    obtain ⟨b, hb, rfl⟩ := map_eq_ok_iff.mp h
    exact .enums ht (isOf_enumBlock hb)
  next ht =>
    obtain ⟨b, hb, rfl⟩ := map_eq_ok_iff.mp h
    exact .commands ht (isOf_commandBlock hb)
  next ht =>
    obtain ⟨l, hl, rfl⟩ := map_eq_ok_iff.mp h
    exact .level ht (isOf_level hl)
  next ht =>
    obtain ⟨l, hl, rfl⟩ := map_eq_ok_iff.mp h
    exact .extensions ht ((mapM_eq_ok_iff.mp hl).imp fun _ _ => isOf_extension)
  next => cases h

theorem isOf_ofElement {root : Element} {r : Registry} (h : ofElement root = .ok r) : r.IsOf root := by
  unfold ofElement at h
  split at h
  next =>
    obtain ⟨nodes, hnodes, rfl⟩ := map_eq_ok_iff.mp h
    exact ⟨(mapM_eq_ok_iff.mp hnodes).imp fun _ _ => isOf_node⟩
  next => cases h

end Registry

end GLBindings
