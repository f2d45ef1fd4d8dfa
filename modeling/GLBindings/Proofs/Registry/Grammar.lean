import GLBindings.Proofs.Registry.Reading
import Mathlib.Tactic.MkIffOfInductiveProp

namespace GLBindings

namespace Xml.Element

variable (e : Element)

def Has (key : String) : Prop := (e.attribute? key).isSome

def IsEntity : Prop := e.tag ∈ ["type", "enum", "command"] ∧ e.Has "name"

@[mk_iff] structure IsBlock : Prop where
  entities : ∀ c ∈ e.elements, c.IsEntity
  profile : ∀ s ∈ e.attribute? "profile", ∃ p : Profile, Named.Spells s p
  api : ∀ s ∈ e.attribute? "api", ∃ a : Api, Named.Spells s a

def IsChange : Prop := e.tag ∈ ["require", "remove"] ∧ e.IsBlock

@[mk_iff] structure IsLevel : Prop where
  api : ∃ s ∈ e.attribute? "api", ∃ a : Api, Named.Spells s a
  number : ∃ s ∈ e.attribute? "number", ∃ v, Version.read s = .ok v
  name : e.Has "name"
  changes : ∀ c ∈ e.elements, c.IsChange

@[mk_iff] structure IsExtension : Prop where
  tag : e.tag = "extension"
  name : e.Has "name"
  changes : ∀ c ∈ e.elements, c.IsChange

def IsDeclaration : Prop := ∀ c ∈ e.elements, c.tag ∈ ["ptype", "name"]

@[mk_iff] inductive IsCommandPart : Prop
  | declaration (ht : e.tag ∈ ["proto", "param"]) (h : e.IsDeclaration)
  | reference (ht : e.tag ∈ ["alias", "vecequiv"]) (h : e.Has "name")
  | opcode (ht : e.tag = "glx")

structure IsCommand : Prop where
  tag : e.tag = "command"
  parts : ∀ c ∈ e.elements, c.IsCommandPart
  proto : ∃ c ∈ e.elements, c.tag = "proto"

def IsEnumItem : Prop := e.tag = "unused" ∨ e.tag = "enum" ∧ e.Has "name" ∧ e.Has "value"

/-- What may stand in the root. The content of a comment, and of lists of kinds and groups, is free. -/
@[mk_iff] inductive IsNode : Prop
  | free (ht : e.tag ∈ ["comment", "kinds", "groups"])
  | types (ht : e.tag = "types") (h : ∀ c ∈ e.elements, c.tag = "type")
  | enums (ht : e.tag = "enums") (h : ∀ c ∈ e.elements, c.IsEnumItem)
  | commands (ht : e.tag = "commands") (h : ∀ c ∈ e.elements, c.IsCommand)
  | level (ht : e.tag = "feature") (h : e.IsLevel)
  | extensions (ht : e.tag = "extensions") (h : ∀ c ∈ e.elements, c.IsExtension)

structure IsRegistry : Prop where
  tag : e.tag = "registry"
  nodes : ∀ c ∈ e.elements, c.IsNode

end Xml.Element

namespace Registry

open Success
open Xml (Element)

variable {e parent : Element}

@[simp] theorem not_succeeds_unexpected {α : Type} :
    ¬ Succeeds (unexpected parent e : Checked α) := not_succeeds_error _

theorem succeeds_required_iff {key : String} : Succeeds (required e key) ↔ e.Has key := by
  unfold required Element.Has
  cases e.attribute? key <;> simp

theorem succeeds_attributeAs_iff {α : Type} {read : String → Except String α} {key : String} :
    Succeeds (attributeAs read e key) ↔ ∀ s ∈ e.attribute? key, Succeeds (read s) := by
  unfold attributeAs
  cases e.attribute? key with
  | none => simp
  | some s => simp [succeeds_mapError_iff, succeeds_map_iff]

theorem succeeds_requiredAs_iff {α : Type} {read : String → Except String α} {key : String} :
    Succeeds (requiredAs read e key) ↔ ∃ s ∈ e.attribute? key, Succeeds (read s) := by
  unfold requiredAs attributeAs
  cases e.attribute? key with
  | none => simp [succeeds_bind_iff]
  | some s =>
      cases h : read s with
      | error f => simp [succeeds_bind_iff, Except.map, Except.mapError, h]
      | ok a => simp [succeeds_bind_iff, Except.map, Except.mapError, h]

theorem succeeds_readName_iff {α : Type} [Named α] (h : Named.Distinct α) {s : String} :
    Succeeds (readName s : Except String α) ↔ ∃ a : α, Named.Spells s a := by
  refine exists_congr fun a => ?_
  rw [← Named.ofName?_eq_some_iff h, ← Named.read_eq_ok_iff]
  exact mapError_eq_ok_iff

theorem succeeds_readVersion_iff {s : String} :
    Succeeds (readVersion s) ↔ ∃ v, Version.read s = .ok v := succeeds_mapError_iff

theorem succeeds_entity_iff : Succeeds (entity parent e) ↔ e.IsEntity := by
  unfold entity Element.IsEntity
  split
  next h => simp [h, succeeds_fmap_iff, succeeds_required_iff]
  next h => simp [h, succeeds_fmap_iff, succeeds_required_iff]
  next h => simp [h, succeeds_fmap_iff, succeeds_required_iff]
  next => simp_all

theorem succeeds_block_iff : Succeeds (block e) ↔ e.IsBlock := by
  unfold block
  refine (succeeds_bind_iff_of_forall fun _ => succeeds_bind_iff_of_forall fun _ =>
    succeeds_bind_pure_iff).trans ?_
  simp only [succeeds_mapM_iff, succeeds_entity_iff, succeeds_attributeAs_iff,
    succeeds_readName_iff Profile.distinct, succeeds_readName_iff Api.distinct,
    Element.isBlock_iff]

theorem succeeds_change_iff : Succeeds (change parent e) ↔ e.IsChange := by
  unfold change Element.IsChange
  split
  next h => simp [h, succeeds_fmap_iff, succeeds_block_iff]
  next h => simp [h, succeeds_fmap_iff, succeeds_block_iff]
  next => simp_all

theorem succeeds_level_iff : Succeeds (level e) ↔ e.IsLevel := by
  unfold level
  refine (succeeds_bind_iff_of_forall fun _ => succeeds_bind_iff_of_forall fun _ =>
    succeeds_bind_iff_of_forall fun _ => succeeds_bind_pure_iff).trans ?_
  simp only [succeeds_requiredAs_iff, succeeds_readName_iff Api.distinct,
    succeeds_readVersion_iff, succeeds_required_iff, succeeds_mapM_iff, succeeds_change_iff,
    Element.isLevel_iff]

theorem succeeds_extension_iff : Succeeds (extension parent e) ↔ e.IsExtension := by
  unfold extension
  split
  next h =>
    refine (succeeds_bind_iff_of_forall fun _ => succeeds_bind_pure_iff).trans ?_
    simp only [succeeds_required_iff, succeeds_mapM_iff, succeeds_change_iff,
      Element.isExtension_iff, h, true_and]
  next h => exact iff_of_false not_succeeds_unexpected fun he => h he.tag

theorem succeeds_fragment_iff {n : Xml.Node} :
    Succeeds (fragment? parent n) ↔ ∀ c ∈ n.element?, c.tag ∈ ["ptype", "name"] := by
  cases n with
  | text | comment | instruction => simp [fragment?, Xml.Node.element?]
  | element name attributes children =>
      simp only [fragment?, Xml.Node.element?, Option.mem_some_iff, forall_eq']
      split
      next h => simp [h]
      next h => simp [h]
      next => simp_all

theorem succeeds_declaration_iff : Succeeds (declaration e) ↔ e.IsDeclaration := by
  rw [declaration, succeeds_bind_pure_iff]
  simp only [succeeds_mapM_iff, succeeds_fragment_iff]
  constructor
  · intro h c hc
    obtain ⟨n, hn, hnc⟩ := List.mem_filterMap.mp hc
    exact h n hn c hnc
  · intro h n hn c hnc
    exact h c (List.mem_filterMap.mpr ⟨n, hn, hnc⟩)

theorem succeeds_commandPart_iff : Succeeds (commandPart parent e) ↔ e.IsCommandPart := by
  rw [Element.isCommandPart_iff]
  unfold commandPart
  split
  next h => simp [h, succeeds_fmap_iff, succeeds_declaration_iff]
  next h => simp [h, succeeds_fmap_iff, succeeds_declaration_iff]
  next h => simp [h, succeeds_fmap_iff, succeeds_required_iff]
  next h => simp [h, succeeds_fmap_iff, succeeds_required_iff]
  next h => simp [h]
  next => simp_all

theorem proto?_eq_none_iff {p : CommandPart} (h : commandPart parent e = .ok p) :
    p.proto? = none ↔ e.tag ≠ "proto" := by
  cases isOf_commandPart h with
  | proto ht => simp [CommandPart.proto?, ht]
  | param ht => simp [CommandPart.proto?, ht]
  | aliasOf ht => simp [CommandPart.proto?, ht]
  | vectorForm ht => simp [CommandPart.proto?, ht]
  | opcode ht => simp [CommandPart.proto?, ht]

/-- A command without a prototype is refused only where all its children have been read. -/
theorem succeeds_commandEntry_iff : Succeeds (commandEntry parent e) ↔ e.IsCommand := by
  unfold commandEntry
  split
  next ht =>
    have hproto (parts : List CommandPart) (h : e.elements.mapM (commandPart e) = .ok parts) :
        (parts.filterMap CommandPart.proto?).getLast? = none ↔ ∀ c ∈ e.elements, c.tag ≠ "proto" := by
      have hall := mapM_eq_ok_iff.mp h
      rw [List.getLast?_eq_none_iff, List.filterMap_eq_nil_iff]
      constructor
      · intro hnone c hc
        obtain ⟨p, hp, hcp⟩ := exists_of_mem_right hall.flip hc
        exact (proto?_eq_none_iff hcp).mp (hnone p hp)
      · intro hnone p hp
        obtain ⟨c, hc, hcp⟩ := exists_of_mem_right hall hp
        exact (proto?_eq_none_iff hcp).mpr (hnone c hc)
    rw [succeeds_bind_iff]
    constructor
    · rintro ⟨parts, hparts, h⟩
      have hchildren := succeeds_mapM_iff.mp ⟨parts, hparts⟩
      refine ⟨ht, fun c hc => succeeds_commandPart_iff.mp (hchildren c hc), ?_⟩
      by_contra hnone
      push Not at hnone
      rw [(hproto parts hparts).mpr hnone] at h
      exact not_succeeds_error _ h
    · rintro ⟨_, hchildren, c, hc, hct⟩
      have hparts : Succeeds (e.elements.mapM (commandPart e)) :=
        succeeds_mapM_iff.mpr fun c hc => succeeds_commandPart_iff.mpr (hchildren c hc)
      obtain ⟨parts, hparts⟩ := hparts
      refine ⟨parts, hparts, ?_⟩
      cases hlast : (parts.filterMap CommandPart.proto?).getLast? with
      | none => exact absurd hct ((hproto parts hparts).mp hlast c hc)
      | some d => exact succeeds_ok _
  next ht => exact iff_of_false not_succeeds_unexpected fun h => ht h.tag

theorem succeeds_enumItem_iff : Succeeds (enumItem parent e) ↔ e.IsEnumItem := by
  unfold enumItem Element.IsEnumItem
  split
  next h =>
    refine (succeeds_bind_iff_of_forall fun _ => succeeds_bind_pure_iff).trans ?_
    simp [h, succeeds_required_iff]
  next h => simp [h]
  next => simp_all

theorem succeeds_typeEntry_iff : Succeeds (typeEntry parent e) ↔ e.tag = "type" := by
  unfold typeEntry
  split
  next h => simp [h]
  next h => simp [h]

theorem succeeds_enumBlock_iff : Succeeds (enumBlock e) ↔ ∀ c ∈ e.elements, c.IsEnumItem := by
  rw [enumBlock, succeeds_bind_pure_iff]
  simp only [succeeds_mapM_iff, succeeds_enumItem_iff]

theorem succeeds_commandBlock_iff : Succeeds (commandBlock e) ↔ ∀ c ∈ e.elements, c.IsCommand := by
  rw [commandBlock, succeeds_bind_pure_iff]
  simp only [succeeds_mapM_iff, succeeds_commandEntry_iff]

theorem succeeds_node_iff : Succeeds (node parent e) ↔ e.IsNode := by
  rw [Element.isNode_iff]
  unfold node
  split
  next h => simp [h]
  next h => simp [h, succeeds_fmap_iff, succeeds_mapM_iff, succeeds_typeEntry_iff]
  next h => simp [h]
  next h => simp [h]
  next h => simp [h, succeeds_fmap_iff, succeeds_enumBlock_iff]
  next h => simp [h, succeeds_fmap_iff, succeeds_commandBlock_iff]
  next h => simp [h, succeeds_fmap_iff, succeeds_level_iff]
  next h => simp [h, succeeds_fmap_iff, succeeds_mapM_iff, succeeds_extension_iff]
  next => simp_all

theorem succeeds_ofElement_iff : Succeeds (ofElement e) ↔ e.IsRegistry := by
  unfold ofElement
  split
  next h =>
    rw [succeeds_fmap_iff, succeeds_mapM_iff]
    simp only [succeeds_node_iff]
    exact ⟨fun hnodes => ⟨h, hnodes⟩, Element.IsRegistry.nodes⟩
  next h => exact iff_of_false (not_succeeds_error _) fun he => h he.tag

/-- A document is read exactly if it is in the grammar, and then into its counterpart. -/
theorem ofElement_grammatical (root : Element) :
    ((∃ r, ofElement root = .ok r) ↔ root.IsRegistry) ∧
      ∀ r, ofElement root = .ok r → r.IsOf root :=
  ⟨succeeds_ofElement_iff, fun _ h => isOf_ofElement h⟩

def glClearDocument : Element where
  name := ⟨"", "registry"⟩
  attributes := []
  children := [
    .element ⟨"", "comment"⟩ [] [.text "OpenGL"],
    .text "\n",
    .element ⟨"", "commands"⟩ [] [.element ⟨"", "command"⟩ [] [
      .element ⟨"", "proto"⟩ [] [.text "void ", .element ⟨"", "name"⟩ [] [.text "glClear"]],
      .element ⟨"", "param"⟩ [⟨⟨"", "group"⟩, "ClearBufferMask"⟩]
        [.element ⟨"", "ptype"⟩ [] [.text "GLbitfield"], .element ⟨"", "name"⟩ [] [.text "mask"]],
      .element ⟨"", "glx"⟩ [⟨⟨"", "opcode"⟩, "127"⟩] []]],
    .element ⟨"", "feature"⟩
      [⟨⟨"", "api"⟩, "gl"⟩, ⟨⟨"", "name"⟩, "GL_VERSION_1_0"⟩, ⟨⟨"", "number"⟩, "1.0"⟩]
      [.element ⟨"", "require"⟩ [] [.element ⟨"", "command"⟩ [⟨⟨"", "name"⟩, "glClear"⟩] []]]]

def glClear : Registry where
  nodes := [
    .comment "OpenGL",
    .commands ⟨none, [⟨⟨none, [.text "void ", .name "glClear"]⟩,
      [⟨some "ClearBufferMask", [.platformType "GLbitfield", .name "mask"]⟩], none, none⟩]⟩,
    .level ⟨.gl, "GL_VERSION_1_0", ⟨1, 0⟩, [⟨none, none, [.command "glClear"]⟩], []⟩]

theorem ofElement_grammatical_glClear :
    ofElement glClearDocument = .ok glClear ∧ glClearDocument.IsRegistry ∧
      glClear.IsOf glClearDocument := by
  have hread : ofElement glClearDocument = .ok glClear := rfl
  obtain ⟨hgrammar, hisOf⟩ := ofElement_grammatical glClearDocument
  exact ⟨hread, hgrammar.mp ⟨glClear, hread⟩, hisOf glClear hread⟩

end Registry

end GLBindings
