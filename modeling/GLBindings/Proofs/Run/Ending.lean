import GLBindings.Proofs.Invocation
import GLBindings.Proofs.Run.Stages
import GLBindings.Proofs.Run.Storing

namespace GLBindings

namespace Run

open Invocation (Asks AsksHelp read_eq_run_iff read_eq_help_iff)

variable {i : Invocation} {s s' : Machine} {o : Options} {b : Binding}

/-- What an invocation does on a machine: how it ends, and what the machine is like afterwards. -/
structure Obeys (i : Invocation) (s : Machine) (x : Outcome) (s' : Machine) : Prop where
  options : ∀ o, ((Run.options i : ExceptT RunFault (StateM Machine) Options).run.run s).1 = .ok o ↔
    Loads s i o
  success : x.exitCode = 0 ↔ ∃ o b bytes, Prepares s i o b ∧
    Writes b o.output.format bytes ∧ s.Accepts bytes o.output.path
  output : ∀ o b bytes, x.exitCode = 0 → Prepares s i o b →
    Writes b o.output.format bytes → s.Holds bytes o.output.path s'
  decided : (∃ e, Fails s i e) ∨ ∃ o b, Prepares s i o b
  fault : ∀ e, Fails s i e → x = .failed e ∧ s' = s
  outputFault : ∀ o b bytes, Prepares s i o b → Writes b o.output.format bytes →
    ¬ s.Accepts bytes o.output.path → ∃ e, x = .failed (.output e)
  spares : ∀ o b, Prepares s i o b → s.Spares o.output.path s'

theorem run_invoke (i : Invocation) (s : Machine) :
    (invoke i : ExceptT RunFault (StateM Machine) Unit).run.run s =
      match prepared s i with
      | .error e => (.error e, s)
      | .ok (o, b) =>
        let (x, s') := (write o b : StateM Machine _).run s
        (x.mapError .output, s') := by
  rw [invoke, run_bind, looks_prepare i s]
  dsimp only
  rcases prepared s i with _ | ⟨o, b⟩ <;> rfl

theorem run_perform {args : List String} (h : Invocation.read args = some (.run i)) :
    (perform args : StateM Machine Outcome).run s =
      match (invoke i : ExceptT RunFault (StateM Machine) Unit).run.run s with
      | (.ok (), s') => (.done, s')
      | (.error e, s') => (.failed e, s') := by
  rw [perform, h]
  change StateT.run ((invoke i).run >>= _) s = _
  rw [StateT.run_bind]
  rcases (invoke i : ExceptT RunFault (StateM Machine) Unit).run.run s with ⟨_ | _, s'⟩ <;> rfl

section Perform

variable {args : List String} (h : Invocation.read args = some (.run i))
include h

theorem perform_of_fails {e : RunFault} (he : Fails s i e) :
    (perform args : StateM Machine Outcome).run s = (.failed e, s) := by
  rw [run_perform h, run_invoke, prepared_of_fails he]

theorem perform_of_stores (hb : Prepares s i o b)
    (hs : s.Stores (b.bytes o.output.format) o.output.path s') :
    (perform args : StateM Machine Outcome).run s = (.done, s') := by
  rw [run_perform h, run_invoke, prepared_eq_ok_iff.mpr hb]
  dsimp only
  rw [Machine.write_eq_ok_iff.mpr hs]
  rfl

theorem perform_of_not_accepts (hb : Prepares s i o b)
    (hs : ¬ s.Accepts (b.bytes o.output.format) o.output.path) :
    ∃ e s', (perform args : StateM Machine Outcome).run s = (.failed (.output e), s') ∧
      s.Spares o.output.path s' := by
  have hspares := s.spares_write b o
  rw [run_perform h, run_invoke, prepared_eq_ok_iff.mpr hb]
  dsimp only
  rcases hw : (write o b : StateM Machine _).run s with ⟨e | _, s'⟩
  · rw [hw] at hspares
    exact ⟨e, s', rfl, hspares⟩
  · exact absurd (Machine.accepts_iff_exists_stores.mpr ⟨s', Machine.write_eq_ok_iff.mp hw⟩) hs

end Perform

theorem exitCode_failed_ne_zero (e : RunFault) : (Outcome.failed e).exitCode ≠ 0 :=
  (by decide : (1 : UInt32) ≠ 0)

theorem obeys_of_fails {e : RunFault} (he : Fails s i e) : Obeys i s (.failed e) s where
  options _ := options_eq_ok_iff
  success := by
    refine iff_of_false (exitCode_failed_ne_zero e) ?_
    rintro ⟨o, b, _, hb, -⟩
    exact absurd he hb.not_fails
  output o b _ _ hb := absurd he hb.not_fails
  decided := .inl ⟨e, he⟩
  fault e' he' := by
    cases (prepared_of_fails he).symm.trans (prepared_of_fails he')
    exact ⟨rfl, rfl⟩
  outputFault o b _ hb := absurd he hb.not_fails
  spares o b hb := absurd he hb.not_fails

theorem obeys_of_stores (hb : Prepares s i o b)
    (hs : s.Stores (b.bytes o.output.format) o.output.path s') : Obeys i s .done s' where
  options _ := options_eq_ok_iff
  success := iff_of_true rfl
    ⟨o, b, _, hb, writes_iff.mpr rfl, Machine.accepts_iff_exists_stores.mpr ⟨s', hs⟩⟩
  output o' b' _ _ hb' hw := by
    obtain ⟨rfl, rfl⟩ := hb.unique hb'
    rw [writes_iff.mp hw]
    exact hs.holds
  decided := .inr ⟨o, b, hb⟩
  fault _ he := absurd he hb.not_fails
  outputFault o' b' _ hb' hw hnot := by
    obtain ⟨rfl, rfl⟩ := hb.unique hb'
    rw [writes_iff.mp hw] at hnot
    exact absurd (Machine.accepts_iff_exists_stores.mpr ⟨s', hs⟩) hnot
  spares o' b' hb' := by
    obtain ⟨rfl, rfl⟩ := hb.unique hb'
    have hspares := s.spares_write b' o'
    rw [Machine.write_eq_ok_iff.mpr hs] at hspares
    exact hspares

theorem obeys_of_not_accepts {e : OutputFault} (hb : Prepares s i o b)
    (hs : ¬ s.Accepts (b.bytes o.output.format) o.output.path) (hspares : s.Spares o.output.path s') :
    Obeys i s (.failed (.output e)) s' where
  options _ := options_eq_ok_iff
  success := by
    refine iff_of_false (exitCode_failed_ne_zero _) ?_
    rintro ⟨o', b', bytes, hb', hw, haccepts⟩
    obtain ⟨rfl, rfl⟩ := hb.unique hb'
    rw [writes_iff.mp hw] at haccepts
    exact hs haccepts
  output _ _ _ h := absurd h (exitCode_failed_ne_zero _)
  decided := .inr ⟨o, b, hb⟩
  fault _ he := absurd he hb.not_fails
  outputFault _ _ _ _ _ _ := ⟨e, rfl⟩
  spares o' b' hb' := by
    obtain ⟨rfl, rfl⟩ := hb.unique hb'
    exact hspares

theorem perform_help {args : List String} (h : AsksHelp args) (s : Machine) :
    (perform args : StateM Machine Outcome).run s =
      (.helped, { s with output := (s.output.putText Help.text).2 }) := by
  rw [perform, read_eq_help_iff.mpr h]
  rfl

theorem obeys_perform {args : List String} (h : Asks args i) (s : Machine) :
    Obeys i s ((perform args : StateM Machine Outcome).run s).1
      ((perform args : StateM Machine Outcome).run s).2 := by
  rw [← read_eq_run_iff] at h
  rcases fails_or_prepares s i with ⟨e, he⟩ | ⟨o, b, hb⟩
  · rw [perform_of_fails h he]
    exact obeys_of_fails he
  by_cases haccepts : s.Accepts (b.bytes o.output.format) o.output.path
  · obtain ⟨s', hs⟩ := Machine.accepts_iff_exists_stores.mp haccepts
    rw [perform_of_stores h hb hs]
    exact obeys_of_stores hb hs
  · obtain ⟨e, s', hrun, hspares⟩ := perform_of_not_accepts h hb haccepts
    rw [hrun]
    exact obeys_of_not_accepts hb haccepts hspares

theorem perform_rejected {args : List String} (h : ∀ i, ¬ Asks args i) (hhelp : ¬ AsksHelp args)
    (s : Machine) : (perform args : StateM Machine Outcome).run s = (.rejected, s) := by
  rw [perform]
  split
  next => rfl
  next hread => exact absurd (read_eq_help_iff.mp hread) hhelp
  next i hread => exact absurd (read_eq_run_iff.mp hread) (h i)

/-- What arguments come to on a machine. Help is a success and goes to the standard output alone;
arguments that ask neither for it nor for a run are rejected with nothing done. -/
structure Follows (args : List String) (s : Machine) (x : Outcome) (s' : Machine) : Prop where
  obeys : ∀ i, Asks args i → Obeys i s x s'
  helps : AsksHelp args →
    x = .helped ∧ x.exitCode = 0 ∧ s' = { s with output := (s.output.putText Help.text).2 }
  rejects : (∀ i, ¬ Asks args i) → ¬ AsksHelp args → x = .rejected ∧ x.exitCode = 2 ∧ s' = s

theorem perform_obeys (args : List String) (s : Machine) :
    let r := (perform args : StateM Machine Outcome).run s
    Follows args s r.1 r.2 := by
  intro r
  constructor
  case obeys => exact fun i h => obeys_perform h s
  case helps =>
    intro h
    have hr : r = _ := perform_help h s
    rw [hr]
    exact ⟨rfl, rfl, rfl⟩
  case rejects =>
    intro h hhelp
    have hr : r = _ := perform_rejected h hhelp s
    rw [hr]
    exact ⟨rfl, rfl, rfl⟩

/-- A run without targets, a request for help, and arguments without a registry file, on a machine
without files. -/
theorem perform_obeys_empty :
    let s : Machine := { directory := ⟨∅⟩ }
    (Asks ["--spec-file=gl.xml"] { specFile := "gl.xml" } ∧
      (perform ["--spec-file=gl.xml"] : StateM Machine Outcome).run s =
        (.failed (.options .noTargets), s)) ∧
    (AsksHelp ["--omit-prefix", "-h"] ∧
      ((perform ["--omit-prefix", "-h"] : StateM Machine Outcome).run s).1 = .helped) ∧
    (perform ["--api", "gl"] : StateM Machine Outcome).run s = (.rejected, s) := by
  intro s
  refine ⟨?_, ?_, ?_⟩
  · let i : Invocation := { specFile := "gl.xml" }
    have hasks : Asks ["--spec-file=gl.xml"] i := read_eq_run_iff.mp (by decide)
    have hloads : Loads s i (i.override {}) := options_eq_ok_iff.mp rfl
    have hfails : Fails s i (.options .noTargets) := .options hloads (by decide)
    obtain ⟨houtcome, hkept⟩ := ((perform_obeys _ s).obeys i hasks).fault _ hfails
    exact ⟨hasks, Prod.ext houtcome hkept⟩
  · have hasks : AsksHelp ["--omit-prefix", "-h"] := read_eq_help_iff.mp (by decide)
    exact ⟨hasks, ((perform_obeys _ s).helps hasks).1⟩
  · have hread : Invocation.read ["--api", "gl"] = none := by decide
    have hnone (i : Invocation) : ¬ Asks ["--api", "gl"] i := by
      rw [← read_eq_run_iff, hread]
      exact nofun
    have hhelp : ¬ AsksHelp ["--api", "gl"] := by
      rw [← read_eq_help_iff, hread]
      exact nofun
    obtain ⟨houtcome, _, hkept⟩ := (perform_obeys _ s).rejects hnone hhelp
    exact Prod.ext houtcome hkept

end Run

end GLBindings
