import GLBindings.Proofs.Failure
import GLBindings.Definitions

namespace GLBindings

open Failure (First)

theorem Declaration.nameIn_eq_ok_iff {d : Declaration} {parent n : String} :
    d.nameIn parent = .ok n ↔ d.name? = some n := by
  unfold nameIn
  cases d.name? <;> simp

theorem Declaration.nameIn_of_none {d : Declaration} {parent : String} (h : d.name? = none) :
    d.nameIn parent = .error (.missingElement parent "name") := by
  simp [nameIn, h]

namespace Signature

def Declares (d : Declaration) (p : Parameter) : Prop :=
  d.name? = some p.name ∧ p.type = CType.ofDeclaration d

theorem parameter_eq_ok_iff {d : Declaration} {p : Parameter} :
    Parameter.ofDeclaration d = .ok p ↔ Declares d p := by
  rw [Parameter.ofDeclaration, Success.bind_eq_ok_iff]
  constructor
  · rintro ⟨n, hn, h⟩
    cases h
    exact ⟨Declaration.nameIn_eq_ok_iff.mp hn, rfl⟩
  · rintro ⟨hn, htype⟩
    refine ⟨p.name, Declaration.nameIn_eq_ok_iff.mpr hn, ?_⟩
    rw [← htype]
    rfl

structure IsOf (e : CommandEntry) (s : Signature) : Prop where
  name : e.proto.name? = some s.name
  returnType : s.returnType = CType.ofDeclaration e.proto
  params : List.Forall₂ Declares e.params s.params

theorem ofEntry_eq_ok_iff {e : CommandEntry} {s : Signature} : ofEntry e = .ok s ↔ IsOf e s := by
  rw [ofEntry, Success.bind_eq_ok_iff]
  constructor
  · rintro ⟨n, hn, h⟩
    obtain ⟨params, hparams, h⟩ := Success.bind_eq_ok_iff.mp h
    cases h
    refine ⟨Declaration.nameIn_eq_ok_iff.mp hn, rfl, ?_⟩
    exact (Success.mapM_eq_ok_iff.mp hparams).imp fun _ _ => parameter_eq_ok_iff.mp
  · rintro ⟨hn, htype, hparams⟩
    have hmap : e.params.mapM Parameter.ofDeclaration = .ok s.params :=
      Success.mapM_eq_ok_iff.mpr (hparams.imp fun _ _ => parameter_eq_ok_iff.mpr)
    refine ⟨s.name, Declaration.nameIn_eq_ok_iff.mpr hn, Success.bind_eq_ok_iff.mpr ⟨_, hmap, ?_⟩⟩
    rw [← htype]
    rfl

def isRequired (required : List String) (e : CommandEntry) : Bool :=
  e.proto.name?.any (· ∈ required)

theorem extract_eq_ok_iff {required : List String} {entries : List CommandEntry}
    {l : List Signature} :
    extract required entries = .ok l ↔ (∀ e ∈ entries, e.proto.name?.isSome) ∧
      List.Forall₂ IsOf (entries.filter (isRequired required)) l := by
  induction entries generalizing l with
  | nil =>
      rw [List.filter_nil, List.forall₂_nil_left_iff]
      constructor
      · intro h
        cases h
        exact ⟨by simp, rfl⟩
      · rintro ⟨_, rfl⟩
        rfl
  | cons e entries ih =>
      rw [extract, Success.bind_eq_ok_iff, List.forall_mem_cons]
      simp only [Declaration.nameIn_eq_ok_iff]
      constructor
      · rintro ⟨n, hn, h⟩
        by_cases hreq : n ∈ required
        · rw [if_pos hreq] at h
          obtain ⟨s, hs, h⟩ := Success.bind_eq_ok_iff.mp h
          obtain ⟨later, hlater, h⟩ := Success.bind_eq_ok_iff.mp h
          cases h
          obtain ⟨hnames, hrest⟩ := ih.mp hlater
          rw [List.filter_cons_of_pos (by simpa [isRequired, hn] using hreq)]
          exact ⟨⟨by simp [hn], hnames⟩, .cons (ofEntry_eq_ok_iff.mp hs) hrest⟩
        · rw [if_neg hreq] at h
          obtain ⟨hnames, hrest⟩ := ih.mp h
          rw [List.filter_cons_of_neg (by simpa [isRequired, hn] using hreq)]
          exact ⟨⟨by simp [hn], hnames⟩, hrest⟩
      · rintro ⟨⟨hname, hnames⟩, hall⟩
        obtain ⟨n, hn⟩ := Option.isSome_iff_exists.mp hname
        refine ⟨n, hn, ?_⟩
        by_cases hreq : n ∈ required
        · rw [List.filter_cons_of_pos (by simpa [isRequired, hn] using hreq)] at hall
          obtain ⟨s, later, hs, hlater, rfl⟩ := List.forall₂_cons_left_iff.mp hall
          rw [if_pos hreq]
          exact Success.bind_eq_ok_iff.mpr ⟨s, ofEntry_eq_ok_iff.mpr hs,
            Success.bind_eq_ok_iff.mpr ⟨later, ih.mpr ⟨hnames, hlater⟩, rfl⟩⟩
        · rw [List.filter_cons_of_neg (by simpa [isRequired, hn] using hreq)] at hall
          rw [if_neg hreq]
          exact ih.mpr ⟨hnames, hall⟩

theorem isRequired_iff {required : List String} {e : CommandEntry} :
    isRequired required e ↔ ∃ n, e.proto.name? = some n ∧ n ∈ required := by
  simp [isRequired, Option.any_eq_true]

theorem mem_names_extract {required : List String} {entries : List CommandEntry}
    {l : List Signature} (h : extract required entries = .ok l) {n : String} :
    n ∈ l.map (·.name) ↔ n ∈ required ∧ ∃ e ∈ entries, e.proto.name? = some n := by
  obtain ⟨_, hall⟩ := extract_eq_ok_iff.mp h
  rw [List.mem_map]
  constructor
  · rintro ⟨s, hs, rfl⟩
    obtain ⟨e, he, hes⟩ := Success.exists_of_mem_right hall hs
    obtain ⟨he, hreq⟩ := List.mem_filter.mp he
    obtain ⟨m, hm, hreq⟩ := isRequired_iff.mp hreq
    cases hes.name.symm.trans hm
    exact ⟨hreq, e, he, hes.name⟩
  · rintro ⟨hreq, e, he, hn⟩
    have hmem := List.mem_filter.mpr ⟨he, isRequired_iff.mpr ⟨n, hn, hreq⟩⟩
    obtain ⟨s, hs, hes⟩ := Success.exists_of_mem_right hall.flip hmem
    exact ⟨s, hs, Option.some.inj (hes.name.symm.trans hn)⟩

theorem exists_extract_of_subset {required fewer : List String} {entries : List CommandEntry}
    {l : List Signature} (h : extract required entries = .ok l) (hsub : fewer ⊆ required) :
    ∃ m, extract fewer entries = .ok m := by
  obtain ⟨hnames, hall⟩ := extract_eq_ok_iff.mp h
  have hmore := Success.exists_forall₂_iff.mp ⟨l, hall⟩
  have hfewer : ∀ e ∈ entries.filter (isRequired fewer), ∃ s, IsOf e s := by
    intro e he
    obtain ⟨he, hreq⟩ := List.mem_filter.mp he
    obtain ⟨n, hn, hmem⟩ := isRequired_iff.mp hreq
    exact hmore e (List.mem_filter.mpr ⟨he, isRequired_iff.mpr ⟨n, hn, hsub hmem⟩⟩)
  obtain ⟨m, hm⟩ := Success.exists_forall₂_iff.mpr hfewer
  exact ⟨m, extract_eq_ok_iff.mpr ⟨hnames, hm⟩⟩

/-- An entry that is not required only has to have a name. -/
theorem extract_insert {required : List String} {e : CommandEntry} {n : String}
    (hn : e.proto.name? = some n) (h : n ∉ required) (before after : List CommandEntry) :
    extract required (before ++ e :: after) = extract required (before ++ after) := by
  induction before with
  | nil =>
      rw [List.nil_append, List.nil_append, extract, Declaration.nameIn_eq_ok_iff.mpr hn]
      exact if_neg h
  | cons c before ih => rw [List.cons_append, List.cons_append, extract, extract, ih]

/-- The entry declares the name, and no later one does. -/
def IsLastNamed (entries : List CommandEntry) (n : String) (e : CommandEntry) : Prop :=
  ∃ before after, entries = before ++ e :: after ∧ e.proto.name? = some n ∧
    ∀ d ∈ after, d.proto.name? ≠ some n

theorem isLastNamed_of_extract {required : List String} {entries : List CommandEntry}
    {before after : List Signature} {s : Signature}
    (h : extract required entries = .ok (before ++ s :: after))
    (hlast : ∀ t ∈ after, t.name ≠ s.name) :
    ∃ e, IsLastNamed entries s.name e ∧ IsOf e s := by
  obtain ⟨_, hall⟩ := extract_eq_ok_iff.mp h
  obtain ⟨_, _, hsplit, _, hrest⟩ := Success.forall₂_append_right_iff.mp hall
  obtain ⟨e, _, he, hafter, rfl⟩ := List.forall₂_cons_right_iff.mp hrest
  obtain ⟨l₁, l₂, rfl, _, hl₂⟩ := List.filter_eq_append_iff.mp hsplit
  obtain ⟨skipped, post, rfl, _, hreq, rfl⟩ := List.filter_eq_cons_iff.mp hl₂
  refine ⟨e, ⟨l₁ ++ skipped, post, by simp, he.name, ?_⟩, he⟩
  intro d hd hname
  -- A later entry of the same name would be required too, and would have a signature in `after`.
  have hd' : d ∈ post.filter (isRequired required) := by
    refine List.mem_filter.mpr ⟨hd, ?_⟩
    rw [isRequired, hname, ← he.name]
    exact hreq
  obtain ⟨t, ht, hdt⟩ := Success.exists_of_mem_right hafter.flip hd'
  exact hlast t ht (Option.some.inj (hdt.name.symm.trans hname))

/-- What is wrong with an entry. Every prototype needs a name; the parameters do only where the command
is required. -/
inductive HasFault (required : List String) (e : CommandEntry) : RegistryFault → Prop
  | proto (h : e.proto.name? = none) : HasFault required e (.missingElement "proto" "name")
  | param {n : String} {d : Declaration} (hn : e.proto.name? = some n) (hreq : n ∈ required)
      (hd : d ∈ e.params) (h : d.name? = none) :
      HasFault required e (.missingElement "param" "name")

def Faulty (required : List String) (e : CommandEntry) : Prop := ∃ f, HasFault required e f

theorem exists_ofEntry {required : List String} {e : CommandEntry} {n : String}
    (h : ¬ Faulty required e) (hn : e.proto.name? = some n) (hreq : n ∈ required) :
    ∃ s, ofEntry e = .ok s := by
  have hnamed : ∀ d ∈ e.params, ∃ p, Declares d p := by
    intro d hd
    cases hname : d.name? with
    | none => exact absurd ⟨_, .param hn hreq hd hname⟩ h
    | some m => exact ⟨⟨m, .ofDeclaration d⟩, hname, rfl⟩
  obtain ⟨params, hparams⟩ := Success.exists_forall₂_iff.mpr hnamed
  exact ⟨⟨n, .ofDeclaration e.proto, params⟩, ofEntry_eq_ok_iff.mpr ⟨hn, rfl, hparams⟩⟩

theorem ofEntry_of_nameless_param {e : CommandEntry} {n : String} {d : Declaration}
    (hn : e.proto.name? = some n) (hd : d ∈ e.params) (h : d.name? = none) :
    ofEntry e = .error (.missingElement "param" "name") := by
  have hnameless (c : Declaration) :
      (¬ ∃ p, Parameter.ofDeclaration c = .ok p) → c.name? = none := by
    intro hc
    by_contra hname
    obtain ⟨m, hm⟩ := Option.ne_none_iff_exists'.mp hname
    exact hc ⟨⟨m, .ofDeclaration c⟩, parameter_eq_ok_iff.mpr ⟨hm, rfl⟩⟩
  have hfails : ∃ c ∈ e.params, ¬ ∃ p, Parameter.ofDeclaration c = .ok p := by
    refine ⟨d, hd, ?_⟩
    rintro ⟨p, hp⟩
    have hname := (parameter_eq_ok_iff.mp hp).1
    rw [h] at hname
    cases hname
  obtain ⟨c, hc⟩ := Failure.exists_first hfails
  have hfault : Parameter.ofDeclaration c = .error (.missingElement "param" "name") := by
    rw [Parameter.ofDeclaration, Declaration.nameIn_of_none (hnameless c hc.prop)]
    rfl
  rw [ofEntry, Declaration.nameIn_eq_ok_iff.mpr hn, Failure.mapM_eq_error hc hfault]
  rfl

theorem extract_eq_error {required : List String} {entries : List CommandEntry} {e : CommandEntry}
    {f : RegistryFault} (h : First (Faulty required) entries e) (hf : HasFault required e f) :
    extract required entries = .error f := by
  obtain ⟨before, after, rfl, hbefore, _⟩ := h
  induction before with
  | nil =>
      rw [List.nil_append, extract]
      cases hf with
      | proto hn =>
          rw [Declaration.nameIn_of_none hn]
          rfl
      | param hn hreq hd hname =>
          rw [Declaration.nameIn_eq_ok_iff.mpr hn, ofEntry_of_nameless_param hn hd hname]
          show (if _ then _ else _) = _
          rw [if_pos hreq]
          rfl
  | cons c before ih =>
      have hc := hbefore c List.mem_cons_self
      rw [List.cons_append, extract, ih fun d hd => hbefore d (List.mem_cons_of_mem c hd)]
      cases hn : c.proto.name? with
      | none => exact absurd ⟨_, .proto hn⟩ hc
      | some n =>
          rw [Declaration.nameIn_eq_ok_iff.mpr hn]
          show (if _ then _ else _) = _
          by_cases hreq : n ∈ required
          · obtain ⟨s, hs⟩ := exists_ofEntry hc hn hreq
            rw [if_pos hreq, hs]
            rfl
          · rw [if_neg hreq]

theorem exists_extract_of_faultless {required : List String} {entries : List CommandEntry}
    (h : ∀ e ∈ entries, ¬ Faulty required e) : ∃ l, extract required entries = .ok l := by
  have hnames : ∀ e ∈ entries, e.proto.name?.isSome := by
    intro e he
    by_contra hn
    exact h e he ⟨_, .proto (by simpa using hn)⟩
  have hall : ∀ e ∈ entries.filter (isRequired required), ∃ s, IsOf e s := by
    intro e he
    obtain ⟨he, hreq⟩ := List.mem_filter.mp he
    obtain ⟨n, hn, hreq⟩ := isRequired_iff.mp hreq
    obtain ⟨s, hs⟩ := exists_ofEntry (h e he) hn hreq
    exact ⟨s, ofEntry_eq_ok_iff.mp hs⟩
  obtain ⟨l, hl⟩ := Success.exists_forall₂_iff.mpr hall
  exact ⟨l, extract_eq_ok_iff.mpr ⟨hnames, hl⟩⟩

end Signature

end GLBindings
