import GLBindings.Proofs.Binding.Ending

namespace GLBindings

def Requirements.introducedIn (r : Requirements) (v : Version) : List String :=
  (r.commands.entries.filter (·.2 = v)).map (·.1)

variable {r : Requirements}

theorem Requirements.mem_introducedIn_iff {n : String} {v : Version} :
    n ∈ r.introducedIn v ↔ r.commands.get? n = some v := by
  rw [introducedIn, Table.get?_eq_some_iff]
  simp

theorem Requirements.nodup_introducedIn (r : Requirements) (v : Version) :
    (r.introducedIn v).Nodup :=
  r.commands.nodup_keys.sublist (List.filter_sublist.map _)

namespace Binding.Level

open Failure (First)

variable {api : Api} {commands : Table String Command} {levels : List Level}

/-- Each required command is in one level, once: in that of the version recorded for it. -/
structure Assigned (api : Api) (r : Requirements) (commands : Table String Command)
    (levels : List Level) : Prop where
  api_eq : ∀ l ∈ levels, l.api = api
  ascending : levels.Pairwise fun l m => l.version < m.version
  version_iff : ∀ v, v ∈ levels.map (·.version) ↔ v ∈ r.commands.values
  commands_eq : ∀ l ∈ levels,
    List.Forall₂ (fun n c => commands.get? n = some c) (r.introducedIn l.version) l.commands
  once : ∀ n ∈ r.commands, ∃ before l after, levels = before ++ l :: after ∧
    (r.introducedIn l.version).count n = 1 ∧ ∀ m ∈ before ++ after, n ∉ r.introducedIn m.version

section Required

variable {l : List (Version × Command)}

theorem versions_of_required (h : required commands r = .ok l) :
    l.map (·.1) = r.commands.values := by
  rw [← List.forall₂_eq_eq_eq, Table.values, List.forall₂_map_left_iff, List.forall₂_map_right_iff]
  exact (required_eq_ok_iff.mp h).flip.imp fun _ _ hea => hea.1

theorem commands_of_required (h : required commands r = .ok l) (v : Version) :
    List.Forall₂ (fun n c => commands.get? n = some c) (r.introducedIn v)
      (ofVersion api l v).commands := by
  have hfilter := List.rel_filter (p := fun e => decide (e.2 = v)) (q := fun a => decide (a.1 = v))
    (fun e a hea => by simp [hea.1]) (required_eq_ok_iff.mp h)
  rw [Requirements.introducedIn, ofVersion, List.forall₂_map_left_iff, List.forall₂_map_right_iff]
  exact hfilter.imp fun _ _ hea => hea.2

end Required

/-- As the versions rise strictly, no second level has the version of a command. -/
theorem once_of_ascending (hascending : levels.Pairwise fun l m => l.version < m.version)
    (hversion : ∀ v, v ∈ levels.map (·.version) ↔ v ∈ r.commands.values) {n : String}
    (hn : n ∈ r.commands) : ∃ before l after, levels = before ++ l :: after ∧
      (r.introducedIn l.version).count n = 1 ∧
        ∀ m ∈ before ++ after, n ∉ r.introducedIn m.version := by
  obtain ⟨v, hv⟩ := Table.mem_iff_exists.mp hn
  obtain ⟨l, hl, rfl⟩ := List.mem_map.mp ((hversion v).mpr (List.mem_map.mpr ⟨_, hv, rfl⟩))
  have hget := Table.get?_eq_some_iff.mpr hv
  obtain ⟨before, after, rfl⟩ := List.append_of_mem hl
  refine ⟨before, l, after, rfl, ?_, fun m hm hmem => ?_⟩
  · exact List.count_eq_one_of_mem (r.nodup_introducedIn l.version)
      (Requirements.mem_introducedIn_iff.mpr hget)
  · have heq : l.version = m.version :=
      Option.some.inj (hget.symm.trans (Requirements.mem_introducedIn_iff.mp hmem))
    obtain ⟨_, hafter, hbefore⟩ := List.pairwise_append.mp hascending
    rcases List.mem_append.mp hm with hm | hm
    · exact (hbefore m hm l List.mem_cons_self).ne' heq
    · exact ((List.pairwise_cons.mp hafter).1 m hm).ne heq

theorem assigned_of_group (h : group api r commands = .ok levels) :
    Assigned api r commands levels := by
  obtain ⟨l, hl, rfl⟩ := group_eq_ok_iff.mp h
  have hascending :
      ((versions l).map (ofVersion api l)).Pairwise fun l m => l.version < m.version := by
    rw [List.pairwise_map]
    exact pairwise_versions l
  have hversion (v : Version) :
      v ∈ ((versions l).map (ofVersion api l)).map (·.version) ↔ v ∈ r.commands.values := by
    rw [List.map_map, ← versions_of_required hl]
    simp [Function.comp_def, ofVersion, mem_versions]
  refine ⟨?_, hascending, hversion, ?_, fun n hn => once_of_ascending hascending hversion hn⟩
  · intro level hlevel
    obtain ⟨v, _, rfl⟩ := List.mem_map.mp hlevel
    rfl
  · intro level hlevel
    obtain ⟨v, _, rfl⟩ := List.mem_map.mp hlevel
    exact commands_of_required hl v

namespace Assigned

theorem eq_map (h : Assigned api r commands levels) :
    levels = (levels.map (·.version)).map fun v =>
      ⟨api, v, (r.introducedIn v).filterMap commands.get?⟩ := by
  rw [List.map_map]
  refine (List.map_id' _).symm.trans (List.map_congr_left fun l hl => ?_)
  have hfound {ns : List String} {cs : List Command}
      (hcs : List.Forall₂ (fun n c => commands.get? n = some c) ns cs) :
      cs = ns.filterMap commands.get? := by
    induction hcs with
    | nil => rfl
    | cons hc _ ih => rw [List.filterMap_cons_some hc, ← ih]
  rw [Function.comp_apply, ← hfound (h.commands_eq l hl), ← h.api_eq l hl]

theorem unique {levels' : List Level} (h : Assigned api r commands levels)
    (h' : Assigned api r commands levels') : levels = levels' := by
  have hversions : levels.map (·.version) = levels'.map (·.version) := by
    refine List.Pairwise.eq_of_mem_iff (r := (· < ·)) ?_ ?_ fun v => ?_
    · exact List.pairwise_map.mpr h.ascending
    · exact List.pairwise_map.mpr h'.ascending
    · rw [h.version_iff, h'.version_iff]
  rw [h.eq_map, h'.eq_map, hversions]

theorem mem_commands (h : Assigned api r commands levels) {n : String} (hn : n ∈ r.commands) :
    n ∈ commands := by
  obtain ⟨before, l, after, rfl, hcount, _⟩ := h.once n hn
  have hmem : n ∈ r.introducedIn l.version := List.count_pos_iff.mp (by omega)
  have hfound := h.commands_eq l (by simp)
  obtain ⟨c, _, hc⟩ := Success.exists_of_mem_right hfound.flip hmem
  exact Table.isSome_get?_iff.mp (Option.isSome_iff_exists.mpr ⟨c, hc⟩)

end Assigned

/-- Grouping succeeds if the commands are all there, and then assigns them; otherwise the first that
is missing is reported. -/
theorem group_assigns (api : Api) (r : Requirements) (commands : Table String Command) :
    ((∃ levels, group api r commands = .ok levels) ↔ ∀ n ∈ r.commands, n ∈ commands) ∧
      (∀ e, group api r commands = .error e ↔ First (· ∉ commands) r.commands.keys e.name) ∧
      ∀ levels, group api r commands = .ok levels ↔ Assigned api r commands levels := by
  refine ⟨exists_group_iff, fun e => ⟨fun h => ?_, group_eq_error⟩, fun levels =>
    ⟨assigned_of_group, fun h => ?_⟩⟩
  · have hmissing : ¬ ∀ n ∈ r.commands, n ∈ commands := by
      rw [← exists_group_iff, h]
      rintro ⟨levels, hlevels⟩
      cases hlevels
    push Not at hmissing
    obtain ⟨n, hn⟩ := Failure.exists_first hmissing
    cases h.symm.trans (group_eq_error hn)
    exact hn
  · obtain ⟨levels', hlevels'⟩ := exists_group_iff.mpr fun n hn => h.mem_commands hn
    rw [hlevels', h.unique (assigned_of_group hlevels')]

end Binding.Level

end GLBindings
