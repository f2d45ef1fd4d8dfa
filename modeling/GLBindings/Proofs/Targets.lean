import GLBindings.Proofs.Binding.Stages
import GLBindings.Proofs.Requirements.Shared

namespace GLBindings

namespace Targets

/-- The API stands in the list a second time, and no other one does before it. -/
def Repeats (l : List Api) (a : Api) : Prop :=
  ∃ before after, l = before ++ a :: after ∧ a ∈ before ∧ before.Nodup

structure Accepted (t : Targets) : Prop where
  paired : t.apis.length = t.versions.length
  nonempty : t.apis ≠ []
  nodup : t.apis.Nodup
  shared : t.apis.length = 1 ∨ t.intersectFeatures = true

/-- What the check says of the targets. Of several faults it says the one that stands first here. -/
inductive Judged (t : Targets) : Except OptionsFault Unit → Prop
  | miscounted (h : t.apis.length ≠ t.versions.length) :
      Judged t (.error (.targetCountMismatch t.apis.length t.versions.length))
  | empty (hpaired : t.apis.length = t.versions.length) (h : t.apis = []) :
      Judged t (.error .noTargets)
  | repeated {a : Api} (hpaired : t.apis.length = t.versions.length) (h : Repeats t.apis a) :
      Judged t (.error (.duplicateApi a))
  | unshared (hpaired : t.apis.length = t.versions.length) (hnodup : t.apis.Nodup)
      (hmany : 1 < t.apis.length) (h : t.intersectFeatures = false) :
      Judged t (.error (.multipleTargetsWithoutIntersection t.apis.length))
  | accepted (h : t.Accepted) : Judged t (.ok ())

theorem exists_repeats {l : List Api} (h : ¬ l.Nodup) : ∃ a, Repeats l a := by
  induction l using List.reverseRecOn with
  | nil => exact absurd List.nodup_nil h
  | append_singleton l b ih =>
      by_cases hnodup : l.Nodup
      · have hb : b ∈ l := by
          by_contra hb
          exact h (List.concat_eq_append ▸ hnodup.concat hb)
        exact ⟨b, l, [], rfl, hb, hnodup⟩
      · obtain ⟨a, before, after, rfl, ha, hbefore⟩ := ih hnodup
        exact ⟨a, before, after ++ [b], by simp, ha, hbefore⟩

theorem firstRepeated_append {before l seen : List Api} (hnodup : before.Nodup)
    (hseen : ∀ a ∈ before, a ∉ seen) :
    firstRepeated seen (before ++ l) = firstRepeated (before.reverse ++ seen) l := by
  induction before generalizing seen with
  | nil => rfl
  | cons b before ih =>
      rw [List.nodup_cons] at hnodup
      rw [List.forall_mem_cons] at hseen
      have hrest : ∀ a ∈ before, a ∉ b :: seen := by
        intro a ha hmem
        rcases List.mem_cons.mp hmem with rfl | hmem
        · exact hnodup.1 ha
        · exact hseen.2 a ha hmem
      rw [List.cons_append, firstRepeated, if_neg hseen.1, ih hnodup.2 hrest]
      simp

theorem firstRepeated_of_repeats {l : List Api} {a : Api} (h : Repeats l a) :
    firstRepeated [] l = some a := by
  obtain ⟨before, after, rfl, ha, hnodup⟩ := h
  rw [firstRepeated_append hnodup (by simp), firstRepeated, if_pos (by simpa using ha)]

theorem firstRepeated_of_nodup {l : List Api} (h : l.Nodup) : firstRepeated [] l = none := by
  have hall : firstRepeated [] (l ++ []) = firstRepeated (l.reverse ++ []) [] :=
    firstRepeated_append h (by simp)
  rwa [List.append_nil] at hall

variable {t : Targets}

theorem check_of_judged {y : Except OptionsFault Unit} (h : Judged t y) : t.check = y := by
  cases h with
  | miscounted h => rw [check, if_pos h]
  | empty hpaired h =>
      rw [check, if_neg (not_not.mpr hpaired), h]
      rfl
  | @repeated a hpaired h =>
      have hne : t.apis ≠ [] := by
        rintro hnil
        obtain ⟨before, after, hl, -⟩ := h
        simp [hnil] at hl
      simp [check, hpaired, hne, firstRepeated_of_repeats h]
  | unshared hpaired hnodup hmany h =>
      have hne : t.apis ≠ [] := List.length_pos_iff.mp (by omega)
      simp [check, hpaired, hne, firstRepeated_of_nodup hnodup, h]
      omega
  | accepted h =>
      have hshared : ¬ (1 < t.apis.length ∧ !t.intersectFeatures) := by
        rintro ⟨hmany, hintersect⟩
        rcases h.shared with hone | hintersect'
        · omega
        · simp [hintersect'] at hintersect
      rw [check, if_neg (not_not.mpr h.paired), if_neg (by simpa using h.nonempty),
        firstRepeated_of_nodup h.nodup]
      exact if_neg hshared

theorem exists_judged (t : Targets) : ∃ y, Judged t y := by
  by_cases hpaired : t.apis.length = t.versions.length
  · by_cases hne : t.apis = []
    · exact ⟨_, .empty hpaired hne⟩
    · by_cases hnodup : t.apis.Nodup
      · by_cases hshared : t.apis.length = 1 ∨ t.intersectFeatures = true
        · exact ⟨_, .accepted ⟨hpaired, hne, hnodup, hshared⟩⟩
        · have hpos := List.length_pos_iff.mpr hne
          rw [not_or, Bool.not_eq_true] at hshared
          exact ⟨_, .unshared hpaired hnodup (by omega) hshared.2⟩
      · obtain ⟨a, ha⟩ := exists_repeats hnodup
        exact ⟨_, .repeated hpaired ha⟩
  · exact ⟨_, .miscounted hpaired⟩

theorem check_eq_iff {y : Except OptionsFault Unit} : t.check = y ↔ Judged t y := by
  constructor
  · rintro rfl
    obtain ⟨y, hy⟩ := exists_judged t
    rw [check_of_judged hy]
    exact hy
  · exact check_of_judged

theorem accepted_of_check (h : t.check = .ok ()) : t.Accepted := by
  cases check_eq_iff.mp h with
  | accepted h => exact h

theorem features_eq_map_zip (t : Targets) :
    t.features = (t.apis.zip t.versions).map fun p => ⟨p.1, p.2⟩ :=
  List.map_uncurry_zip_eq_zipWith.symm

theorem Accepted.map_api_features (h : t.Accepted) : t.features.map Feature.api = t.apis := by
  rw [features_eq_map_zip, List.map_map]
  exact List.map_fst_zip h.paired.le

theorem Accepted.map_version_features (h : t.Accepted) :
    t.features.map Feature.version = t.versions := by
  rw [features_eq_map_zip, List.map_map]
  exact List.map_snd_zip h.paired.ge

theorem length_features (h : t.check = .ok ()) : t.features.length = t.apis.length := by
  rw [← (accepted_of_check h).map_api_features, List.length_map]

theorem features_ne_nil (h : t.check = .ok ()) : t.features ≠ [] := by
  intro hnil
  apply (accepted_of_check h).nonempty
  rw [← (accepted_of_check h).map_api_features, hnil, List.map_nil]

end Targets

namespace Resolved

variable {targets : List Feature} {levels : List Level} {extensions : List Extension}
  {profile : Profile} {x : Resolved}

theorem ofTargets_ne_noTargets (h : targets ≠ []) :
    ofTargets targets levels extensions profile ≠ .error .noTargets := by
  intro hnone
  by_cases hdeclared : ∀ f ∈ targets, ∃ l ∈ levels, l.api = f.api
  · obtain ⟨x, hx⟩ := @ofTargets_of_declared _ _ extensions profile h hdeclared
    cases hx.symm.trans hnone
  · push Not at hdeclared
    obtain ⟨f, hf⟩ := Failure.exists_first hdeclared
    have hunknown := @ofTargets_of_undeclared _ _ extensions profile f
      (hf.congr fun f _ => by push Not; rfl)
    cases hunknown.symm.trans hnone

theorem merged_of_ofTargets (h : ofTargets targets levels extensions profile = .ok x)
    (hmany : 2 ≤ targets.length) : x.feature = .merged ∧ x.requirements.isMerged = true := by
  obtain ⟨results, hresults, hmerge⟩ := ofTargets_eq_ok_iff.mp h
  rw [hresults.length_eq] at hmany
  rcases results with _ | ⟨result, _ | ⟨other, rest⟩⟩
  · cases hmerge
  · simp at hmany
  · cases hmerge
    exact ⟨rfl, rfl⟩

theorem single_of_ofTargets (h : ofTargets targets levels extensions profile = .ok x)
    (hone : targets.length = 1) : targets = [x.feature] ∧ x.requirements.isMerged = false := by
  obtain ⟨target, rfl⟩ := List.length_eq_one_iff.mp hone
  obtain ⟨rfl, hr⟩ := ofTargets_singleton.mp h
  obtain ⟨r, hr', hmerged, -⟩ := Requirements.ofTarget_of_declared profile
    (Requirements.declared_of_ofTarget profile hr)
  cases hr.symm.trans hr'
  exact ⟨rfl, hmerged⟩

end Resolved

namespace Targets

/-- What any registry defines for the targets. -/
structure Served (t : Targets) : Prop where
  apis : t.features.map Feature.api = t.apis
  versions : t.features.map Feature.version = t.versions
  targeted : ∀ r, Definitions.ofRegistry r t ≠ .error (.resolve .noTargets)
  several : ∀ r d, Definitions.ofRegistry r t = .ok d → 2 ≤ t.apis.length →
    d.feature = .merged ∧ d.requirements.isMerged = true
  single : ∀ r d, Definitions.ofRegistry r t = .ok d → ¬ 2 ≤ t.apis.length →
    t.features = [d.feature] ∧ d.requirements.isMerged = false

theorem served_of_check {t : Targets} (h : t.check = .ok ()) : t.Served where
  apis := (accepted_of_check h).map_api_features
  versions := (accepted_of_check h).map_version_features
  targeted r hnone := by
    rw [Definitions.ofRegistry_eq] at hnone
    rcases hx : Resolved.ofTargets t.features r.levels r.extensions t.profile with e | x
    · rw [hx] at hnone
      cases hnone
      exact Resolved.ofTargets_ne_noTargets (features_ne_nil h) hx
    · rw [hx] at hnone
      rcases hl : Signature.extract x.requirements.commands.keys r.commandEntries with e | l <;>
        simp [hl, Except.mapError, bind, Except.bind, pure, Except.pure] at hnone
  several r d hd hmany := by
    rw [← length_features h] at hmany
    exact Resolved.merged_of_ofTargets (Definitions.ofRegistry_eq_ok_iff.mp hd).resolved hmany
  single r d hd hfew := by
    have hpos := List.length_pos_iff.mpr (accepted_of_check h).nonempty
    rw [← length_features h] at hfew hpos
    exact Resolved.single_of_ofTargets (Definitions.ofRegistry_eq_ok_iff.mp hd).resolved (by omega)

/-- The check says of any targets what is wrong with them first, and those with which nothing is
wrong are served by every registry that has definitions for them. -/
theorem check_judges (t : Targets) :
    (∀ y, t.check = y ↔ Judged t y) ∧ (t.check = .ok () → Served t) :=
  ⟨fun _ => check_eq_iff, served_of_check⟩

def twoFamilies : Targets where
  apis := [.gles2, .gl]
  versions := [⟨2, 0⟩, ⟨3, 3⟩]
  intersectFeatures := true

theorem check_judges_twoFamilies :
    Served twoFamilies ∧
      Judged { twoFamilies with apis := [.gles2, .gl, .gl, .gles2], versions := List.replicate 4 ⟨2, 0⟩ }
        (.error (.duplicateApi .gl)) :=
  ⟨(check_judges _).2 (by decide), ((check_judges _).1 _).mp (by decide)⟩

end Targets

end GLBindings
