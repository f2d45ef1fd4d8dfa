import GLBindings.Proofs.Failure
import GLBindings.Proofs.Options
import GLBindings.Run

namespace GLBindings

open Failure (bind_eq_error_iff mapError_eq_error_iff bind_of_ok stage_of_ok stage_of_error)
open Success (bind_eq_ok_iff mapError_eq_ok_iff)

def Machine.readText (s : Machine) (path : String) : Except FileFault String :=
  (s.readFile path).bind Run.textOf

namespace Run

/-- The fields that the file of options gives, which is readable as options. Without such a file
there are none. -/
inductive Configured (s : Machine) (i : Invocation) : Json → Prop
  | byDefault (h : i.configFile = none) : Configured s i (.object [])
  | byFile {path text : String} {n : Yaml.Node} {j : Json} {o : Options}
      (h : i.configFile = some path) (htext : s.readText path = .ok text)
      (hn : Yaml.read? text = some n) (hj : Options.shape.ofNode n = some j)
      (ho : Options.ofJson j = .ok o) : Configured s i j

def Loads (s : Machine) (i : Invocation) (o : Options) : Prop :=
  ∃ j, Configured s i j ∧ Options.InEffect i j o

/-- All is in order up to the binding that the run is to write. -/
structure Prepares (s : Machine) (i : Invocation) (o : Options) (b : Binding) : Prop where
  options : Loads s i o
  check : o.targets.check = .ok ()
  binding : ∃ text r, s.readText i.specFile = .ok text ∧ Registry.read text = .ok r ∧
    Binding.ofRegistry r o = .ok b

/-- What is wrong first, if something is wrong before the run writes. -/
inductive Fails (s : Machine) (i : Invocation) : RunFault → Prop
  | configFile {path : String} {e : FileFault} (h : i.configFile = some path)
      (he : s.readText path = .error e) : Fails s i (.configFile path e)
  | unreadable {path text : String} {e : OptionsFault} (h : i.configFile = some path)
      (htext : s.readText path = .ok text) (he : Options.ofYaml text = .error e) :
      Fails s i (.options e)
  | options {o : Options} {e : OptionsFault} (ho : Loads s i o) (he : o.targets.check = .error e) :
      Fails s i (.options e)
  | specFile {o : Options} {e : FileFault} (ho : Loads s i o) (hcheck : o.targets.check = .ok ())
      (he : s.readText i.specFile = .error e) : Fails s i (.specFile i.specFile e)
  | registry {o : Options} {text : String} {e : RegistryFault} (ho : Loads s i o)
      (hcheck : o.targets.check = .ok ()) (htext : s.readText i.specFile = .ok text)
      (he : Registry.read text = .error e) : Fails s i (.registry e)
  | binding {o : Options} {text : String} {r : Registry} {e : BindingFault} (ho : Loads s i o)
      (hcheck : o.targets.check = .ok ()) (htext : s.readText i.specFile = .ok text)
      (hr : Registry.read text = .ok r) (he : Binding.ofRegistry r o = .error e) :
      Fails s i (.binding e)

def loaded (s : Machine) (i : Invocation) : Except RunFault Options :=
  match i.configFile with
  | none => .ok (i.override {})
  | some path => do
    let text ← (s.readText path).mapError (.configFile path)
    let o ← (Options.ofYaml text).mapError .options
    return i.override o

def prepared (s : Machine) (i : Invocation) : Except RunFault (Options × Binding) := do
  let o ← loaded s i
  o.targets.check.mapError .options
  let text ← (s.readText i.specFile).mapError (.specFile i.specFile)
  let r ← (Registry.read text).mapError .registry
  let b ← (Binding.ofRegistry r o).mapError .binding
  return (o, b)

section Looking

variable {α β : Type}

/-- The computation looks at the machine and leaves it as it is. -/
def Looks (x : ExceptT RunFault (StateM Machine) α) (look : Machine → Except RunFault α) : Prop :=
  ∀ s, x.run.run s = (look s, s)

theorem run_bind (x : ExceptT RunFault (StateM Machine) α)
    (f : α → ExceptT RunFault (StateM Machine) β) (s : Machine) :
    (x >>= f).run.run s =
      match x.run.run s with
      | (.ok a, s') => (f a).run.run s'
      | (.error e, s') => (.error e, s') := by
  rw [ExceptT.run_bind, StateT.run_bind]
  rcases hx : x.run.run s with ⟨_ | a, s'⟩ <;> rfl

theorem Looks.bind {x : ExceptT RunFault (StateM Machine) α} {look : Machine → Except RunFault α}
    {f : α → ExceptT RunFault (StateM Machine) β} {next : α → Machine → Except RunFault β}
    (hx : Looks x look) (hf : ∀ a, Looks (f a) (next a)) :
    Looks (x >>= f) fun s => look s >>= (next · s) := by
  intro s
  change (x >>= f).run.run s = (look s >>= (next · s), s)
  rw [run_bind, hx s]
  cases look s with
  | error e => rfl
  | ok a => exact hf a s

theorem looks_pure (x : Except RunFault α) : Looks (ExceptT.mk (return x)) fun _ => x := fun _ => rfl

theorem looks_text (path : String) (fault : FileFault → RunFault) :
    Looks (ExceptT.mk (do return (← readText path).mapError fault))
      fun s => (s.readText path).mapError fault :=
  fun _ => rfl

theorem looks_options (i : Invocation) : Looks (options i) (loaded · i) := by
  unfold options loaded
  cases i.configFile with
  | none => exact looks_pure _
  | some path =>
      exact (looks_text path _).bind fun text => (looks_pure _).bind fun o => looks_pure (.ok _)

theorem looks_prepare (i : Invocation) : Looks (prepare i) (prepared · i) :=
  (looks_options i).bind fun _ => (looks_pure _).bind fun _ => (looks_text _ _).bind fun _ =>
    (looks_pure _).bind fun _ => (looks_pure _).bind fun _ => looks_pure (.ok _)

end Looking

variable {s : Machine} {i : Invocation} {o : Options} {b : Binding}

theorem ofYaml_eq_ok_iff {text : String} :
    Options.ofYaml text = .ok o ↔
      ∃ n j, Yaml.read? text = some n ∧ Options.shape.ofNode n = some j ∧ Options.ofJson j = .ok o := by
  rw [Options.ofYaml]
  constructor
  · intro h
    split at h
    next => cases h
    next j hj =>
      obtain ⟨n, hn, hj⟩ := Option.bind_eq_some_iff.mp hj
      exact ⟨n, j, hn, hj, mapError_eq_ok_iff.mp h⟩
  · rintro ⟨n, j, hn, hj, ho⟩
    have hread : (Yaml.read? text >>= Options.shape.ofNode) = some j :=
      Option.bind_eq_some_iff.mpr ⟨n, hn, hj⟩
    rw [hread]
    exact mapError_eq_ok_iff.mpr ho

theorem loaded_of_configured {j : Json} (h : Configured s i j) :
    ∃ o, loaded s i = .ok (i.override o) ∧ j.IsSectioned ∧ Options.ofJson j = .ok o := by
  cases h with
  | byDefault h => exact ⟨{}, by rw [loaded, h], ⟨[], rfl, by simp⟩, rfl⟩
  | @byFile path text n j o h htext hn hj ho =>
      refine ⟨o, ?_, Options.isSectioned_of_shape hj, ho⟩
      rw [loaded, h]
      exact bind_eq_ok_iff.mpr ⟨text, mapError_eq_ok_iff.mpr htext, bind_eq_ok_iff.mpr
        ⟨o, mapError_eq_ok_iff.mpr (ofYaml_eq_ok_iff.mpr ⟨n, j, hn, hj, ho⟩), rfl⟩⟩

theorem exists_configured (h : loaded s i = .ok o) : ∃ j, Configured s i j := by
  rw [loaded] at h
  split at h
  next hnone => exact ⟨_, .byDefault hnone⟩
  next path hpath =>
    obtain ⟨text, htext, h⟩ := bind_eq_ok_iff.mp h
    obtain ⟨f, hf, h⟩ := bind_eq_ok_iff.mp h
    obtain ⟨n, j, hn, hj, ho⟩ := ofYaml_eq_ok_iff.mp (mapError_eq_ok_iff.mp hf)
    exact ⟨j, .byFile hpath (mapError_eq_ok_iff.mp htext) hn hj ho⟩

theorem loaded_eq_ok_iff : loaded s i = .ok o ↔ Loads s i o := by
  constructor
  · intro h
    obtain ⟨j, hj⟩ := exists_configured h
    obtain ⟨f, hf, hsections, hread⟩ := loaded_of_configured hj
    cases hf.symm.trans h
    exact ⟨j, hj, Options.inEffect_override hsections hread i⟩
  · rintro ⟨j, hj, heffect⟩
    obtain ⟨f, hf, hsections, hread⟩ := loaded_of_configured hj
    rw [hf, (Options.inEffect_override hsections hread i).unique heffect]

theorem prepared_eq_ok_iff : prepared s i = .ok (o, b) ↔ Prepares s i o b := by
  constructor
  · intro h
    obtain ⟨o', ho, h⟩ := bind_eq_ok_iff.mp h
    obtain ⟨_, hcheck, h⟩ := bind_eq_ok_iff.mp h
    obtain ⟨text, htext, h⟩ := bind_eq_ok_iff.mp h
    obtain ⟨r, hr, h⟩ := bind_eq_ok_iff.mp h
    obtain ⟨b', hb, h⟩ := bind_eq_ok_iff.mp h
    cases h
    exact ⟨loaded_eq_ok_iff.mp ho, mapError_eq_ok_iff.mp hcheck, text, r,
      mapError_eq_ok_iff.mp htext, mapError_eq_ok_iff.mp hr, mapError_eq_ok_iff.mp hb⟩
  · rintro ⟨ho, hcheck, text, r, htext, hr, hb⟩
    rw [prepared, loaded_eq_ok_iff.mpr ho]
    refine bind_eq_ok_iff.mpr ⟨o, rfl, bind_eq_ok_iff.mpr ⟨(), mapError_eq_ok_iff.mpr hcheck, ?_⟩⟩
    refine bind_eq_ok_iff.mpr ⟨text, mapError_eq_ok_iff.mpr htext, ?_⟩
    refine bind_eq_ok_iff.mpr ⟨r, mapError_eq_ok_iff.mpr hr, ?_⟩
    exact bind_eq_ok_iff.mpr ⟨b, mapError_eq_ok_iff.mpr hb, rfl⟩

theorem fails_of_loaded {e : RunFault} (h : loaded s i = .error e) : Fails s i e := by
  rw [loaded] at h
  split at h
  next => cases h
  next path hpath =>
    rcases bind_eq_error_iff.mp h with h | ⟨text, htext, h⟩
    · obtain ⟨e, he, rfl⟩ := mapError_eq_error_iff.mp h
      exact .configFile hpath he
    · rcases bind_eq_error_iff.mp h with h | ⟨_, _, h⟩
      · obtain ⟨e, he, rfl⟩ := mapError_eq_error_iff.mp h
        exact .unreadable hpath (mapError_eq_ok_iff.mp htext) he
      · cases h

theorem fails_of_prepared {e : RunFault} (h : prepared s i = .error e) : Fails s i e := by
  rcases bind_eq_error_iff.mp h with h | ⟨o, ho, h⟩
  · exact fails_of_loaded h
  rw [loaded_eq_ok_iff] at ho
  rcases bind_eq_error_iff.mp h with h | ⟨_, hcheck, h⟩
  · obtain ⟨e, he, rfl⟩ := mapError_eq_error_iff.mp h
    exact .options ho he
  rw [mapError_eq_ok_iff] at hcheck
  rcases bind_eq_error_iff.mp h with h | ⟨text, htext, h⟩
  · obtain ⟨e, he, rfl⟩ := mapError_eq_error_iff.mp h
    exact .specFile ho hcheck he
  rw [mapError_eq_ok_iff] at htext
  rcases bind_eq_error_iff.mp h with h | ⟨r, hr, h⟩
  · obtain ⟨e, he, rfl⟩ := mapError_eq_error_iff.mp h
    exact .registry ho hcheck htext he
  rw [mapError_eq_ok_iff] at hr
  rcases bind_eq_error_iff.mp h with h | ⟨_, _, h⟩
  · obtain ⟨e, he, rfl⟩ := mapError_eq_error_iff.mp h
    exact .binding ho hcheck htext hr he
  · cases h

theorem prepared_of_fails {e : RunFault} (h : Fails s i e) : prepared s i = .error e := by
  -- A stage is reached only if those before it succeed, which is what its fault comes with.
  cases h with
  | @configFile path e h he =>
      have hloaded : loaded s i = .error (.configFile path e) := by
        rw [loaded, h]
        exact stage_of_error he
      exact bind_eq_error_iff.mpr (.inl hloaded)
  | @unreadable path text e h htext he =>
      have hloaded : loaded s i = .error (.options e) := by
        rw [loaded, h]
        exact (stage_of_ok htext).trans (stage_of_error he)
      exact bind_eq_error_iff.mpr (.inl hloaded)
  | options ho he => exact (bind_of_ok (loaded_eq_ok_iff.mpr ho)).trans (stage_of_error he)
  | specFile ho hcheck he =>
      refine (bind_of_ok (loaded_eq_ok_iff.mpr ho)).trans ((stage_of_ok hcheck).trans ?_)
      exact stage_of_error he
  | registry ho hcheck htext he =>
      refine (bind_of_ok (loaded_eq_ok_iff.mpr ho)).trans ((stage_of_ok hcheck).trans ?_)
      exact (stage_of_ok htext).trans (stage_of_error he)
  | binding ho hcheck htext hr he =>
      refine (bind_of_ok (loaded_eq_ok_iff.mpr ho)).trans ((stage_of_ok hcheck).trans ?_)
      exact (stage_of_ok htext).trans ((stage_of_ok hr).trans (stage_of_error he))

theorem Prepares.not_fails {e : RunFault} (hb : Prepares s i o b) : ¬ Fails s i e := by
  intro he
  cases (prepared_eq_ok_iff.mpr hb).symm.trans (prepared_of_fails he)

theorem Prepares.unique {o' : Options} {b' : Binding} (h : Prepares s i o b)
    (h' : Prepares s i o' b') : o' = o ∧ b' = b := by
  cases (prepared_eq_ok_iff.mpr h).symm.trans (prepared_eq_ok_iff.mpr h')
  exact ⟨rfl, rfl⟩

theorem fails_or_prepares (s : Machine) (i : Invocation) :
    (∃ e, Fails s i e) ∨ ∃ o b, Prepares s i o b := by
  rcases h : prepared s i with e | ⟨o, b⟩
  · exact .inl ⟨e, fails_of_prepared h⟩
  · exact .inr ⟨o, b, prepared_eq_ok_iff.mp h⟩

theorem options_eq_ok_iff :
    ((options i : ExceptT RunFault (StateM Machine) Options).run.run s).1 = .ok o ↔
      Loads s i o := by
  rw [looks_options i s]
  exact loaded_eq_ok_iff

end Run

end GLBindings
