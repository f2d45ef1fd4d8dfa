import GLBindings.Binding
import GLBindings.Proofs.EnumGroup
import GLBindings.Proofs.Symbol.Constants

namespace GLBindings.Binding.Enum

open EnumGroup

def IsLastOf (blocks : List EnumBlock) (g : String) (b : EnumBlock) : Prop :=
  ∃ before after, blocks = before ++ b :: after ∧ b.group = some g ∧ ∀ c ∈ after, c.group ≠ some g

theorem isLastOf_iff {blocks : List EnumBlock} {g : String} {b : EnumBlock} :
    IsLastOf blocks g b ↔ blocks.reverse.find? (·.group = some g) = some b := by
  rw [List.find?_eq_some_iff_append]
  constructor
  · rintro ⟨before, after, rfl, hg, hafter⟩
    exact ⟨by simpa using hg, after.reverse, before.reverse, by simp, by simpa using hafter⟩
  · rintro ⟨hg, front, back, hblocks, hfront⟩
    refine ⟨back.reverse, front.reverse, ?_, by simpa using hg, by simpa using hfront⟩
    rw [← List.reverse_inj, hblocks]
    simp

theorem IsLastOf.unique {blocks : List EnumBlock} {g : String} {b c : EnumBlock}
    (hb : IsLastOf blocks g b) (hc : IsLastOf blocks g c) : b = c :=
  Option.some.inj ((isLastOf_iff.mp hb).symm.trans (isLastOf_iff.mp hc))

/-- The table has an enum for each declared group with members. -/
structure Gathers (naming : Naming) (required : List String) (blocks : List EnumBlock)
    (t : Table String Enum) : Prop where
  mem_iff : ∀ g, g ∈ t ↔ (∃ b ∈ blocks, b.group = some g) ∧ members required blocks g ≠ []
  keys_eq : t.keys =
    ((blocks.filterMap (·.group)).filter fun g => members required blocks g ≠ []).eraseDups
  names_eq : ∀ g e, t.get? g = some e → e.registryName = g ∧ e.name = naming.enumName g
  values_eq : ∀ g e, t.get? g = some e → e.values =
    (members required blocks g).map fun v => ⟨naming.enumValueName v.name, v.value⟩
  isBitmask_iff : ∀ g e, t.get? g = some e →
    ∃ b, IsLastOf blocks g b ∧ (e.isBitmask ↔ b.kind = some "bitmask")

variable {naming : Naming} {required : List String} {blocks : List EnumBlock}

theorem keys_table : (table naming (extract required blocks)).keys =
    ((blocks.filterMap (·.group)).filter fun g => members required blocks g ≠ []).eraseDups := by
  rw [table, Table.keys_ofList, List.map_map, ← names_extract]
  rfl

theorem mem_table_iff {g : String} : g ∈ table naming (extract required blocks) ↔
    (∃ b ∈ blocks, b.group = some g) ∧ members required blocks g ≠ [] := by
  show g ∈ (table naming (extract required blocks)).keys ↔ _
  rw [keys_table, List.mem_eraseDups, List.mem_filter, List.mem_filterMap, decide_eq_true_eq]

/-- The last of the groups of one name stands for the last block that declares it. -/
theorem exists_of_get?_table {g : String} {e : Enum}
    (h : (table naming (extract required blocks)).get? g = some e) :
    ∃ b, IsLastOf blocks g b ∧
      e = ofGroup naming ⟨g, decide (b.kind = some "bitmask"), members required blocks g⟩ := by
  obtain ⟨l₁, l₂, hl, hlast⟩ := Table.get?_ofList_eq_some_iff.mp h
  obtain ⟨xs, ys, hxs, _, hys⟩ := List.map_eq_append_iff.mp hl
  obtain ⟨x, zs, rfl, hx, rfl⟩ := List.map_eq_cons_iff.mp hys
  obtain ⟨rfl, rfl⟩ := Prod.mk.inj hx
  obtain ⟨before, rest, rfl, _, hrest⟩ := List.filterMap_eq_append_iff.mp hxs
  obtain ⟨skipped, b, after, rfl, _, hb, hafter⟩ := List.filterMap_eq_cons_iff.mp hrest
  obtain ⟨hgroup, hvalues, hne, hbit⟩ := ofBlock_eq_some_iff.mp hb
  refine ⟨b, ⟨before ++ skipped, after, by simp, hgroup, ?_⟩, ?_⟩
  · intro c hc hcg
    -- A later block that declares the group would give a later group of its name.
    let y : EnumGroup := ⟨x.name, decide (c.kind = some "bitmask"), x.values⟩
    have hy : y ∈ zs := by
      rw [← hafter]
      exact List.mem_filterMap.mpr ⟨c, hc, ofBlock_eq_some_iff.mpr ⟨hcg, hvalues, hne, rfl⟩⟩
    exact hlast _ (List.mem_map_of_mem hy) rfl
  · rw [← hvalues, ← hbit]

theorem exists_get?_of_subset {fewer : List String} (hsub : fewer ⊆ required) {g : String} {e : Enum}
    (h : (table naming (extract fewer blocks)).get? g = some e) :
    ∃ e', (table naming (extract required blocks)).get? g = some e' ∧ e'.name = e.name ∧
      e'.isBitmask = e.isBitmask ∧ e.values.Sublist e'.values := by
  obtain ⟨hdeclared, hne⟩ := mem_table_iff.mp (Table.isSome_get?_iff.mp (by rw [h]; rfl))
  have hmembers := members_of_subset hsub blocks g
  have hmore : members required blocks g ≠ [] := by
    intro hnil
    exact hne (by rw [hmembers, hnil, List.filter_nil])
  have hmem : g ∈ table naming (extract required blocks) := mem_table_iff.mpr ⟨hdeclared, hmore⟩
  obtain ⟨e', he'⟩ := Option.isSome_iff_exists.mp (Table.isSome_get?_iff.mpr hmem)
  obtain ⟨b, hb, rfl⟩ := exists_of_get?_table h
  obtain ⟨c, hc, rfl⟩ := exists_of_get?_table he'
  obtain rfl := hb.unique hc
  refine ⟨_, he', rfl, rfl, ?_⟩
  show (List.map _ _).Sublist (List.map _ _)
  rw [hmembers]
  exact List.filter_sublist.map _

theorem table_gathers (naming : Naming) (required : List String) (blocks : List EnumBlock) :
    Gathers naming required blocks (table naming (extract required blocks)) ∧
      ∀ x ∈ extract required blocks, ∀ y ∈ extract required blocks,
        x.name = y.name → x.values = y.values := by
  refine ⟨⟨?mem_iff, keys_table, ?names_eq, ?values_eq, ?isBitmask_iff⟩, ?same_values⟩
  case mem_iff =>
    exact fun _ => mem_table_iff
  case names_eq =>
    intro g e h
    obtain ⟨_, _, rfl⟩ := exists_of_get?_table h
    exact ⟨rfl, rfl⟩
  case values_eq =>
    intro g e h
    obtain ⟨_, _, rfl⟩ := exists_of_get?_table h
    rfl
  case isBitmask_iff =>
    intro g e h
    obtain ⟨b, hb, rfl⟩ := exists_of_get?_table h
    exact ⟨b, hb, by simp [ofGroup]⟩
  case same_values =>
    intro x hx y hy hname
    obtain ⟨_, _, hx⟩ := List.mem_filterMap.mp hx
    obtain ⟨_, _, hy⟩ := List.mem_filterMap.mp hy
    rw [(ofBlock_eq_some_iff.mp hx).2.1, (ofBlock_eq_some_iff.mp hy).2.1, hname]

section Names

open Text GLBindings.Symbol

def HaveConstants (required : List String) (blocks : List EnumBlock) : Prop :=
  ∀ b ∈ blocks, ∀ e ∈ b.entries, e.name ∈ required → IsConstant e.name.toList

theorem HaveConstants.isConstant (h : HaveConstants required blocks) {g : String} {v : EnumValue}
    (hv : v ∈ members required blocks g) : IsConstant v.name.toList := by
  obtain ⟨b, hb, e, he, hreq, rfl⟩ := exists_entry_of_mem_members hv
  exact h b hb e he hreq

theorem names_distinct (hcasing : naming.enumValueCase ∈ separating)
    (h : HaveConstants required blocks) :
    ∀ e ∈ (table naming (extract required blocks)).values, (e.values.map (·.name)).Nodup := by
  intro e he
  obtain ⟨⟨g, _⟩, hentry, rfl⟩ := List.mem_map.mp he
  obtain ⟨b, _, rfl⟩ := exists_of_get?_table (Table.get?_eq_some_iff.mpr hentry)
  have hnames : (ofGroup naming ⟨g, decide (b.kind = some "bitmask"),
      members required blocks g⟩).values.map (·.name) =
      ((members required blocks g).map (·.name)).map naming.enumValueName := by
    simp [ofGroup]
  rw [hnames]
  refine List.Nodup.map_on ?_ (nodup_names_firstOfName _)
  simp only [List.forall_mem_map]
  intro v hv w hw hname
  exact transform_inj hcasing (h.isConstant hv) (h.isConstant hw) hname

/-- One value is declared twice, and another comes from a block of another group. -/
def textureBlocks : List EnumBlock := [
  { scope := none, group := some "TextureTarget", kind := none
    items := [
      .value ⟨"GL_TEXTURE_2D", "0x0DE1", none, some "gl"⟩,
      .value ⟨"GL_TEXTURE_3D", "0x806F", none, none⟩,
      .value ⟨"GL_TEXTURE_2D", "0x0DE1", none, some "gles1"⟩] },
  { scope := none, group := some "ProxyTarget", kind := none
    items := [
      .value ⟨"GL_PROXY_TEXTURE_2D", "0x8064", some ["TextureTarget", "ProxyTarget"], none⟩,
      .unused] }]

def textureValues : List String := ["GL_TEXTURE_2D", "GL_TEXTURE_3D", "GL_PROXY_TEXTURE_2D"]

theorem isConstant_of_mem_textureValues : ∀ n ∈ textureValues, IsConstant n.toList := by
  have htwo : IsConstant "GL_TEXTURE_2D".toList :=
    ⟨["TEXTURE".toList, "2D".toList], by simp, by simp [AreCapital, IsCapital], rfl⟩
  have hthree : IsConstant "GL_TEXTURE_3D".toList :=
    ⟨["TEXTURE".toList, "3D".toList], by simp, by simp [AreCapital, IsCapital], rfl⟩
  have hproxy : IsConstant "GL_PROXY_TEXTURE_2D".toList :=
    ⟨["PROXY".toList, "TEXTURE".toList, "2D".toList], by simp, by simp [AreCapital, IsCapital], rfl⟩
  exact List.forall_mem_cons.mpr ⟨htwo, List.forall_mem_cons.mpr ⟨hthree, by simpa using hproxy⟩⟩

theorem names_distinct_textures :
    let naming : Naming := { omitPrefix := true }
    let enums := (table naming (extract textureValues textureBlocks)).values
    HaveConstants textureValues textureBlocks ∧ naming.enumValueCase ∈ separating ∧
      enums.map (fun e => e.values.map (·.name)) =
        [["texture_2d", "texture_3d", "proxy_texture_2d"], ["proxy_texture_2d"]] ∧
      ∀ e ∈ enums, (e.values.map (·.name)).Nodup := by
  have h : HaveConstants textureValues textureBlocks :=
    fun _ _ e _ hreq => isConstant_of_mem_textureValues e.name hreq
  exact ⟨h, by decide, by decide +kernel, names_distinct (by decide) h⟩

end Names

end GLBindings.Binding.Enum
