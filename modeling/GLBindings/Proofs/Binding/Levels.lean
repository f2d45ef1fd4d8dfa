import GLBindings.Proofs.Binding.Buckets
import GLBindings.Proofs.Binding.Stages
import GLBindings.Proofs.Requirements.Shared

namespace GLBindings.Binding

namespace Command

theorem get?_table_eq_some_iff {naming : Naming} {enums : Table String Enum}
    {signatures : List Signature} {n : String} {c : Command} :
    (table naming enums signatures).get? n = some c ↔
      ∃ before s after, signatures = before ++ s :: after ∧ s.name = n ∧
        (∀ t ∈ after, t.name ≠ n) ∧ ofSignature naming enums s = c := by
  rw [table, Table.get?_ofList_eq_some_iff]
  constructor
  · rintro ⟨l₁, l₂, h, hlast⟩
    obtain ⟨before, l, rfl, _, h⟩ := List.map_eq_append_iff.mp h
    obtain ⟨s, after, rfl, hs, rfl⟩ := List.map_eq_cons_iff.mp h
    cases hs
    exact ⟨before, s, after, rfl, rfl, by simpa using hlast, rfl⟩
  · rintro ⟨before, s, after, rfl, rfl, hlast, rfl⟩
    exact ⟨_, _, by rw [List.map_append, List.map_cons], by simpa using hlast⟩

theorem mem_table_iff {naming : Naming} {enums : Table String Enum} {signatures : List Signature}
    {n : String} : n ∈ table naming enums signatures ↔ n ∈ signatures.map (·.name) := by
  show n ∈ (table naming enums signatures).keys ↔ _
  rw [table, Table.keys_ofList, List.mem_eraseDups, List.map_map]
  rfl

theorem registryName_of_get?_table {naming : Naming} {enums : Table String Enum}
    {signatures : List Signature} {n : String} {c : Command}
    (h : (table naming enums signatures).get? n = some c) : c.registryName = n := by
  obtain ⟨_, s, _, _, hs, _, rfl⟩ := get?_table_eq_some_iff.mp h
  exact hs

end Command

namespace Level

theorem required_eq_ok_iff {commands : Table String Command} {r : Requirements}
    {l : List (Version × Command)} :
    required commands r = .ok l ↔
      List.Forall₂ (fun e a => a.1 = e.2 ∧ commands.get? e.1 = some a.2) r.commands.entries l := by
  have hiff (e : String × Version) (a : Version × Command) :
      ((commands.get? e.1).elim (.error ⟨e.1⟩) fun c => .ok (e.2, c)) =
          (.ok a : Except MissingCommand (Version × Command)) ↔
        a.1 = e.2 ∧ commands.get? e.1 = some a.2 := by
    cases commands.get? e.1 with
    | none => simp
    | some c => simp [Prod.ext_iff, eq_comm]
  rw [required, Success.mapM_eq_ok_iff]
  simp only [hiff]

theorem exists_group_iff {api : Api} {r : Requirements} {commands : Table String Command} :
    (∃ levels, group api r commands = .ok levels) ↔ ∀ n ∈ r.commands, n ∈ commands := by
  have hgroup : (∃ levels, group api r commands = .ok levels) ↔ ∃ l, required commands r = .ok l := by
    simp only [group_eq_ok_iff]
    constructor
    · rintro ⟨levels, l, hl, _⟩
      exact ⟨l, hl⟩
    · rintro ⟨l, hl⟩
      exact ⟨_, l, hl, rfl⟩
  simp only [hgroup, required_eq_ok_iff, Success.exists_forall₂_iff]
  constructor
  · intro h n hn
    obtain ⟨v, hv⟩ := Table.mem_iff_exists.mp hn
    obtain ⟨a, _, ha⟩ := h _ hv
    exact Table.isSome_get?_iff.mp (by simp [ha])
  · rintro h ⟨n, v⟩ he
    have hn := Table.isSome_get?_iff.mpr (h n (Table.mem_iff_exists.mpr ⟨v, he⟩))
    obtain ⟨c, hc⟩ := Option.isSome_iff_exists.mp hn
    exact ⟨(v, c), rfl, hc⟩

theorem entries_of_required {commands : Table String Command} {r : Requirements}
    {l : List (Version × Command)} (h : required commands r = .ok l)
    (hnames : ∀ n c, commands.get? n = some c → c.registryName = n) :
    r.commands.entries = l.map fun a => (a.2.registryName, a.1) := by
  have hpairs := required_eq_ok_iff.mp h
  have heq : List.Forall₂ (fun e a => e = (a.2.registryName, a.1)) r.commands.entries l := by
    refine hpairs.imp fun e a => ?_
    rintro ⟨hversion, hc⟩
    rw [hversion, hnames e.1 a.2 hc]
  rw [← List.forall₂_eq_eq_eq, List.forall₂_map_right_iff]
  exact heq

variable (l : List (Version × Command))

theorem mem_versions {v : Version} : v ∈ versions l ↔ ∃ a ∈ l, a.1 = v := by
  rw [versions, (List.mergeSort_perm _ _).mem_iff, List.mem_eraseDups, List.mem_map]

theorem pairwise_versions : (versions l).Pairwise (· < ·) := by
  have hsorted : (versions l).Pairwise (· ≤ ·) :=
    Grouping.pairwise_mergeSort id (l.map (·.1)).eraseDups
  have hnodup : (versions l).Nodup :=
    (List.mergeSort_perm _ _).nodup_iff.mpr (Positions.nodup_eraseDups _)
  exact hsorted.imp₂ (fun _ _ hle hne => lt_of_le_of_ne hle hne) hnodup

theorem flatMap_commands (api : Api) (h : l.Pairwise fun a b => a.1 ≤ b.1) :
    ((versions l).map (ofVersion api l)).flatMap (·.commands) = l.map (·.2) := by
  have hgroups := Grouping.flatMap_filter_of_sorted h (pairwise_versions l)
    fun a ha => (mem_versions l).mpr ⟨a, ha, rfl⟩
  calc ((versions l).map (ofVersion api l)).flatMap (·.commands)
      = (versions l).flatMap fun v => (l.filter (·.1 = v)).map (·.2) := List.flatMap_map ..
    _ = ((versions l).flatMap fun v => l.filter (·.1 = v)).map (·.2) := List.map_flatMap.symm
    _ = l.map (·.2) := congrArg _ hgroups

/-- The levels are the table in pieces, one for each version. -/
structure Cut (api : Api) (t : Table String Version) (levels : List Level) : Prop where
  rising : t.entries.Pairwise fun e f => e.2 ≤ f.2
  ascending : levels.Pairwise fun l m => l.version < m.version
  nonempty : ∀ l ∈ levels, l.commands ≠ []
  api_eq : ∀ l ∈ levels, l.api = api
  names_eq : (levels.flatMap (·.commands)).map (·.registryName) = t.keys
  version_eq : ∀ l ∈ levels, ∀ c ∈ l.commands, t.get? c.registryName = some l.version

theorem cut_of_group {api : Api} {r : Requirements} {commands : Table String Command}
    {levels : List Level} (h : group api r commands = .ok levels)
    (hnames : ∀ n c, commands.get? n = some c → c.registryName = n) (hr : r.Rising) :
    Cut api r.commands levels := by
  obtain ⟨l, hl, rfl⟩ := group_eq_ok_iff.mp h
  have hentries := entries_of_required hl hnames
  have hrising : r.commands.entries.Pairwise fun e f => e.2 ≤ f.2 := hr .command
  constructor
  case rising => exact hrising
  case ascending =>
    rw [List.pairwise_map]
    exact pairwise_versions l
  case nonempty =>
    intro level hlevel
    obtain ⟨v, hv, rfl⟩ := List.mem_map.mp hlevel
    obtain ⟨a, ha, hav⟩ := (mem_versions l).mp hv
    have hc : a.2 ∈ (ofVersion api l v).commands :=
      List.mem_map.mpr ⟨a, List.mem_filter.mpr ⟨ha, by simpa using hav⟩, rfl⟩
    exact List.ne_nil_of_mem hc
  case api_eq =>
    intro level hlevel
    obtain ⟨v, _, rfl⟩ := List.mem_map.mp hlevel
    rfl
  case names_eq =>
    rw [hentries, List.pairwise_map] at hrising
    rw [flatMap_commands l api hrising, Table.keys, hentries, List.map_map, List.map_map]
    rfl
  case version_eq =>
    intro level hlevel c hc
    obtain ⟨v, _, rfl⟩ := List.mem_map.mp hlevel
    obtain ⟨a, ha, rfl⟩ := List.mem_map.mp hc
    obtain ⟨ha, hav⟩ := List.mem_filter.mp ha
    have hversion : a.1 = v := by simpa using hav
    rw [Table.get?_eq_some_iff, hentries]
    exact List.mem_map.mpr ⟨a, ha, congrArg _ hversion⟩

end Level

/-- The levels of a binding hold what it requires, in the same order. -/
theorem ofRegistry_cut {r : Registry} {o : Options} {b : Binding} (h : ofRegistry r o = .ok b) :
    Level.Cut b.feature.api b.requirements.commands b.levels := by
  obtain ⟨d, hd, hb⟩ := ofRegistry_eq_ok_iff.mp h
  refine Level.cut_of_group hb.levels (fun _ _ => Command.registryName_of_get?_table) ?_
  rw [hb.requirements]
  exact Resolved.rising_ofTargets hd.resolved

/-- Two families that share some commands; one of them is declared twice. -/
def shaders : Registry where
  nodes := [
    .enums ⟨none, some "ShaderType", none, [.value ⟨"GL_VERTEX_SHADER", "0x8B31", none, none⟩]⟩,
    .commands ⟨none, [
      ⟨⟨none, [.text "void ", .name "glFlush"]⟩, [⟨none, [.platformType "GLint", .name "n"]⟩],
        none, none⟩,
      ⟨⟨none, [.platformType "GLuint", .name "glCreateShader"]⟩,
        [⟨some "ShaderType", [.platformType "GLenum", .name "type"]⟩], none, none⟩,
      ⟨⟨none, [.text "void ", .name "glFlush"]⟩, [], none, none⟩]⟩,
    .level ⟨.gles2, "GL_ES_VERSION_2_0", ⟨2, 0⟩,
      [⟨none, none, [.command "glCreateShader", .command "glFlush", .enum "GL_VERTEX_SHADER"]⟩], []⟩,
    .level ⟨.gl, "GL_VERSION_2_0", ⟨2, 0⟩,
      [⟨none, none, [.enum "GL_VERTEX_SHADER", .command "glCreateShader"]⟩], []⟩,
    .level ⟨.gl, "GL_VERSION_1_0", ⟨1, 0⟩, [⟨none, none, [.command "glFlush"]⟩], []⟩]

def sharing : Options where
  naming := { enumCase := .initial, functionCase := .initial, enumValueCase := .initial }
  targets := { apis := [.gl, .gles2], versions := [⟨2, 0⟩, ⟨2, 0⟩], intersectFeatures := true }

theorem exists_shaders :
    ∃ b, ofRegistry shaders sharing = .ok b ∧
      b.requirements.enums.keys = ["GL_VERTEX_SHADER"] ∧
      b.requirements.commands.keys = ["glFlush", "glCreateShader"] ∧
      b.levels.map (fun l => (l.version, l.commands.map (·.registryName))) =
        [(⟨1, 0⟩, ["glFlush"]), (⟨2, 0⟩, ["glCreateShader"])] ∧
      (b.levels.flatMap (·.commands)).map (fun c =>
        (c.registryName, c.implementation.params.map fun p =>
          (p.name, p.type.highLevel.map (·.registryName)))) =
        [("glFlush", []), ("glCreateShader", [("type", some "ShaderType")])] := by
  have h : (ofRegistry shaders sharing).toOption.any (fun b => decide (
      b.requirements.enums.keys = ["GL_VERTEX_SHADER"] ∧
      b.requirements.commands.keys = ["glFlush", "glCreateShader"] ∧
      b.levels.map (fun l => (l.version, l.commands.map (·.registryName))) =
        [(⟨1, 0⟩, ["glFlush"]), (⟨2, 0⟩, ["glCreateShader"])] ∧
      (b.levels.flatMap (·.commands)).map (fun c =>
        (c.registryName, c.implementation.params.map fun p =>
          (p.name, p.type.highLevel.map (·.registryName)))) =
        [("glFlush", []), ("glCreateShader", [("type", some "ShaderType")])])) = true := by
    -- The merge sort of the library does not reduce.
    simp only [ofRegistry, Definitions.ofRegistry, Resolved.ofTargets, Requirements.ofTarget,
      Requirements.byVersion, ofDefinitions, Level.group, Grouping.mergeSort_eq_insertionSort]
    decide +kernel
  obtain ⟨b, hb, hfacts⟩ := Success.exists_of_any h
  exact ⟨b, hb, of_decide_eq_true hfacts⟩

theorem ofRegistry_cut_shaders :
    ∃ b, ofRegistry shaders sharing = .ok b ∧
      b.levels.map (fun l => (l.version, l.commands.map (·.registryName))) =
        [(⟨1, 0⟩, ["glFlush"]), (⟨2, 0⟩, ["glCreateShader"])] ∧
      Level.Cut b.feature.api b.requirements.commands b.levels := by
  obtain ⟨b, hb, _, _, hlevels, _⟩ := exists_shaders
  exact ⟨b, hb, hlevels, ofRegistry_cut hb⟩

end GLBindings.Binding
