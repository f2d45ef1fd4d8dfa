import GLBindings.Proofs.Grouping
import GLBindings.Proofs.Version
import GLBindings.Requirements
import GLBindings.Proofs.Sweep

namespace GLBindings

namespace Requirements

/-- The levels of the family by version, where document order breaks ties. -/
structure IsLine (api : Api) (levels line : List Level) : Prop where
  perm : line.Perm (levels.filter (·.api = api))
  sorted : line.Pairwise fun a b => a.version ≤ b.version
  stable : ∀ v, line.filter (·.version = v) = levels.filter fun l => l.api = api ∧ l.version = v

def line (api : Api) (levels : List Level) : List Level := (byVersion levels).filter (·.api = api)

theorem api_of_mem_line {api : Api} {levels : List Level} {l : Level} (h : l ∈ line api levels) :
    l.api = api := by
  simpa using (List.mem_filter.mp h).2

theorem mem_of_mem_line {api : Api} {levels : List Level} {l : Level} (h : l ∈ line api levels) :
    l ∈ levels :=
  (List.mergeSort_perm levels _).mem_iff.mp (List.mem_filter.mp h).1

theorem isLine_line (api : Api) (levels : List Level) : IsLine api levels (line api levels) where
  perm := (List.mergeSort_perm _ _).filter _
  sorted := (Grouping.pairwise_mergeSort Level.version levels).filter _
  stable v := by
    have h := congrArg (List.filter fun l : Level => l.api = api)
      (Grouping.filter_mergeSort Level.version levels v)
    rw [List.filter_filter, List.filter_filter] at h
    rw [line, List.filter_filter]
    simpa [byVersion, Bool.and_comm] using h

theorem IsLine.eq_line {api : Api} {levels other : List Level} (h : IsLine api levels other) :
    other = line api levels := by
  have hline := isLine_line api levels
  exact Grouping.eq_of_filter_eq h.sorted hline.sorted fun v => by rw [h.stable, hline.stable]

theorem line_congr {api : Api} {levels levels' : List Level}
    (h : levels.filter (·.api = api) = levels'.filter (·.api = api)) :
    line api levels = line api levels' := by
  have hline := isLine_line api levels
  have hsplit (v : Version) (ls : List Level) :
      ls.filter (fun l => l.api = api ∧ l.version = v) =
        (ls.filter (·.api = api)).filter (·.version = v) := by
    rw [List.filter_filter]
    refine List.filter_congr fun l _ => ?_
    simp [Bool.and_comm]
  apply IsLine.eq_line
  exact ⟨h ▸ hline.perm, hline.sorted, fun v => by rw [hline.stable, hsplit, hsplit, h]⟩

/-- If no two levels of the family have one version, their order does not change the line. -/
theorem line_eq_of_perm {api : Api} {levels levels' : List Level}
    (hperm : (levels.filter (·.api = api)).Perm (levels'.filter (·.api = api)))
    (hdistinct : ((levels.filter (·.api = api)).map Level.version).Nodup) :
    line api levels = line api levels' := by
  have hline := isLine_line api levels
  have hline' := isLine_line api levels'
  refine List.Perm.eq_of_pairwise ?_ hline.sorted hline'.sorted
    (hline.perm.trans (hperm.trans hline'.perm.symm))
  intro a b ha hb hab hba
  have ha' := hline.perm.mem_iff.mp ha
  have hb' := hperm.mem_iff.mpr (hline'.perm.mem_iff.mp hb)
  exact List.inj_on_of_nodup_map hdistinct ha' hb' (le_antisymm hab hba)

end Requirements

inductive Entity.Kind where
  | enum
  | command

def Block.names : Entity.Kind → Block → List String
  | .enum, b => b.enums
  | .command, b => b.commands

namespace Requirements

def table : Entity.Kind → Requirements → Table String Version
  | .enum, r => r.enums
  | .command, r => r.commands

theorem table_empty (k : Entity.Kind) : table k ∅ = ∅ := by
  cases k <;> rfl

variable (target : Feature) (profile : Profile) (k : Entity.Kind)

def sweep : Sweep Level String Version where
  value := Level.version
  adds l := (additions target profile l).flatMap (Block.names k)
  drops l := (removals target profile l).flatMap (Block.names k)

theorem table_foldl_addBlock (v : Version) (bs : List Block) (r : Requirements) :
    (bs.foldl (addBlock v) r).table k =
      (r.table k).insertAllNew ((bs.flatMap (Block.names k)).map (·, v)) := by
  induction bs generalizing r with
  | nil => rfl
  | cons b bs ih =>
      have hb : (addBlock v r b).table k = (r.table k).insertAllNew ((b.names k).map (·, v)) := by
        cases k <;> rfl
      rw [List.foldl_cons, ih, hb, List.flatMap_cons, List.map_append]
      exact (List.foldl_append ..).symm

theorem table_foldl_removeBlock (bs : List Block) (r : Requirements) :
    (bs.foldl removeBlock r).table k = (r.table k).eraseAll (bs.flatMap (Block.names k)) := by
  induction bs generalizing r with
  | nil => rfl
  | cons b bs ih =>
      have hb : (removeBlock r b).table k = (r.table k).eraseAll (b.names k) := by
        cases k <;> rfl
      rw [List.foldl_cons, ih, hb, List.flatMap_cons]
      exact (List.foldl_append ..).symm

theorem table_addLevel (r : Requirements) (l : Level) :
    (addLevel target profile r l).table k = (sweep target profile k).step (r.table k) l := by
  rw [addLevel, table_foldl_removeBlock, table_foldl_addBlock]
  rfl

theorem table_foldl_addLevel (ls : List Level) (r : Requirements) :
    (ls.foldl (addLevel target profile) r).table k =
      ls.foldl (sweep target profile k).step (r.table k) := by
  induction ls generalizing r with
  | nil => rfl
  | cons l ls ih => rw [List.foldl_cons, ih, table_addLevel, List.foldl_cons]

theorem isMerged_foldl {α : Type} {f : Requirements → α → Requirements}
    (h : ∀ r a, (f r a).isMerged = r.isMerged) (l : List α) (r : Requirements) :
    (l.foldl f r).isMerged = r.isMerged := by
  induction l generalizing r with
  | nil => rfl
  | cons a l ih => rw [List.foldl_cons, ih, h]

theorem isMerged_addLevel (r : Requirements) (l : Level) :
    (addLevel target profile r l).isMerged = r.isMerged := by
  have hadd := isMerged_foldl (f := addBlock l.version) (fun _ _ => rfl)
    (additions target profile l) r
  have hremove := isMerged_foldl (f := removeBlock) (fun _ _ => rfl) (removals target profile l)
    ((additions target profile l).foldl (addBlock l.version) r)
  exact hremove.trans hadd

theorem idle_of_api_ne {l : Level} (h : l.api ≠ target.api) :
    (sweep target profile k).adds l = [] ∧ (sweep target profile k).drops l = [] := by
  have hadd : ¬ target.Includes l.feature := fun hi => h hi.1.symm
  have hdrop : ¬ (target.api = l.api ∧ l.version.major ≤ target.version.major) := fun hd => h hd.1.symm
  simp [sweep, additions, removals, hadd, hdrop]

variable {target}

theorem ofTarget_of_declared {levels : List Level} (h : ∃ l ∈ levels, l.api = target.api) :
    ∃ r, ofTarget target profile levels = .ok r ∧ r.isMerged = false ∧
      ∀ k, r.table k = (sweep target profile k).run (line target.api levels) := by
  refine ⟨(byVersion levels).foldl (addLevel target profile) ∅, ?_, ?_, ?_⟩
  · rw [ofTarget, if_pos (by simpa using h)]
  · exact isMerged_foldl (isMerged_addLevel target profile) _ _
  · intro k
    rw [table_foldl_addLevel, table_empty, line, Sweep.run_filter]
    · rfl
    · intro l _ hl
      exact idle_of_api_ne target profile k (by simpa using hl)

theorem ofTarget_of_undeclared {levels : List Level} (h : ∀ l ∈ levels, l.api ≠ target.api) :
    ofTarget target profile levels = .error (.unknownFeature target (levels.map Level.feature)) := by
  rw [ofTarget, if_neg (by simpa using h)]

theorem declared_of_ofTarget {levels : List Level} {r : Requirements}
    (h : ofTarget target profile levels = .ok r) : ∃ l ∈ levels, l.api = target.api := by
  by_contra hdeclared
  rw [ofTarget_of_undeclared profile fun l hl ha => hdeclared ⟨l, hl, ha⟩] at h
  cases h

theorem ext_table {r s : Requirements} (hmerged : r.isMerged = s.isMerged)
    (h : ∀ k, r.table k = s.table k) : r = s := by
  cases r
  cases s
  cases hmerged
  cases h .enum
  cases h .command
  rfl

/-- The line of the family is all that a target needs of the levels. -/
theorem ofTarget_eq_of_line_eq {levels levels' : List Level}
    (h : ∃ l ∈ levels, l.api = target.api) (h' : ∃ l ∈ levels', l.api = target.api)
    (hline : line target.api levels = line target.api levels') :
    ofTarget target profile levels = ofTarget target profile levels' := by
  obtain ⟨r, hr, hm, ht⟩ := ofTarget_of_declared profile h
  obtain ⟨r', hr', hm', ht'⟩ := ofTarget_of_declared profile h'
  rw [hr, hr', ext_table (hm.trans hm'.symm) fun k => by rw [ht, ht', hline]]

end Requirements

end GLBindings
