import GLBindings.Proofs.Directory
import GLBindings.Proofs.Output.Sinks
import GLBindings.Run

namespace GLBindings

namespace Machine

variable {s s' : Machine} {b : Binding}

/-- The bytes go to the place that is chosen, which takes all of them. -/
inductive Stores (s : Machine) (bytes : List UInt8) : Option String → Machine → Prop
  | output (h : s.output.Takes bytes) :
      Stores s bytes none { s with output := s.output.holding bytes }
  | file {path : String} {d : Directory} (h : s.disk.Takes bytes)
      (hd : s.directory.create s.home path bytes = (.ok (), d)) :
      Stores s bytes (some path) { s with directory := d }

theorem writeOutput_eq_ok_iff {w : Sink → Written} :
    s.writeOutput w = (.ok (), s') ↔
      ∃ sink, w s.output = (.ok (), sink) ∧ s' = { s with output := sink } := by
  rw [writeOutput]
  rcases w s.output with ⟨result, sink⟩
  constructor
  · intro h
    cases h
    exact ⟨sink, rfl, rfl⟩
  · rintro ⟨_, hw, rfl⟩
    cases hw
    rfl

theorem writeFile_eq_ok_iff {path : String} {w : Sink → Written} :
    s.writeFile path w = (.ok (), s') ↔
      ∃ sink d, w s.newFile = (.ok (), sink) ∧
        s.directory.create s.home path sink.taken = (.ok (), d) ∧ s' = { s with directory := d } := by
  rw [writeFile]
  rcases w s.newFile with ⟨result, sink⟩
  dsimp only
  constructor
  · rcases hd : s.directory.create s.home path sink.taken with ⟨_ | _, d⟩
    · intro h
      cases h
    · intro h
      cases h
      exact ⟨sink, d, rfl, hd, rfl⟩
  · rintro ⟨_, d, hw, hd, rfl⟩
    cases hw
    rw [hd]

theorem write_eq_ok_iff {o : Options} :
    (Run.write o b : StateM Machine _).run s = (.ok (), s') ↔
      s.Stores (b.bytes o.output.format) o.output.path s' := by
  rw [Run.write]
  cases o.output.path with
  | none =>
      change s.writeOutput (·.writeBinding b o.output.format) = (.ok (), s') ↔ _
      rw [writeOutput_eq_ok_iff]
      simp only [Binding.writeBinding_eq_ok_iff]
      constructor
      · rintro ⟨_, ⟨htakes, rfl⟩, rfl⟩
        exact .output htakes
      · rintro (⟨htakes⟩ | _)
        exact ⟨_, ⟨htakes, rfl⟩, rfl⟩
  | some path =>
      change s.writeFile path (·.writeBinding b o.output.format) = (.ok (), s') ↔ _
      rw [writeFile_eq_ok_iff]
      simp only [Binding.writeBinding_eq_ok_iff]
      constructor
      · rintro ⟨_, d, ⟨htakes, rfl⟩, hd, rfl⟩
        exact .file htakes hd
      · rintro (_ | ⟨htakes, hd⟩)
        exact ⟨_, _, ⟨htakes, rfl⟩, hd, rfl⟩

/-- The place that is chosen takes the bytes. A file must be one that can be created. -/
def Accepts (s : Machine) (bytes : List UInt8) : Option String → Prop
  | none => s.output.Takes bytes
  | some path => s.disk.Takes bytes ∧ ∃ d, s.directory.create s.home path bytes = (.ok (), d)

/-- Every file is as it was, unless its path leads to the same place as the one that is given. -/
def SparesOthers (s : Machine) (path : String) (d : Directory) : Prop :=
  ∀ other content, s.directory.read s.home other = .ok content →
    d.read s.home other = .ok content ∨
      ∃ place, d.Leads s.home path place ∧ d.Leads s.home other place

/-- Afterwards the bytes are in the place that is chosen, and everything else is as it was. -/
inductive Holds (s : Machine) (bytes : List UInt8) : Option String → Machine → Prop
  | output : Holds s bytes none { s with output := s.output.holding bytes }
  | file {path : String} {d : Directory} (hread : d.read s.home path = .ok bytes)
      (hothers : s.SparesOthers path d) : Holds s bytes (some path) { s with directory := d }

/-- Whatever has become of the place that is chosen, everything else is as it was. -/
inductive Spares (s : Machine) : Option String → Machine → Prop
  | output (sink : Sink) : Spares s none { s with output := sink }
  | file {path : String} {d : Directory} (hothers : s.SparesOthers path d) :
      Spares s (some path) { s with directory := d }

variable {bytes : List UInt8} {path : Option String}

theorem accepts_iff_exists_stores : s.Accepts bytes path ↔ ∃ s', s.Stores bytes path s' := by
  cases path with
  | none =>
      constructor
      · intro h
        exact ⟨_, .output h⟩
      · rintro ⟨_, _ | _⟩
        assumption
  | some path =>
      constructor
      · rintro ⟨htakes, d, hd⟩
        exact ⟨_, .file htakes hd⟩
      · rintro ⟨_, _ | ⟨htakes, hd⟩⟩
        exact ⟨htakes, _, hd⟩

theorem Stores.holds (h : s.Stores bytes path s') : s.Holds bytes path s' := by
  cases h with
  | output => exact .output
  | file _ hd =>
      exact .file (Directory.read_of_create hd) fun _ _ => Directory.read_other_of_create hd

theorem spares_write (s : Machine) (b : Binding) (o : Options) :
    s.Spares o.output.path ((Run.write o b : StateM Machine _).run s).2 := by
  rw [Run.write]
  cases o.output.path with
  | none => exact .output _
  | some path =>
      change s.Spares (some path) (s.writeFile path (·.writeBinding b o.output.format)).2
      rw [writeFile]
      dsimp only
      rcases hd : s.directory.create s.home path _ with ⟨e | _, d⟩ <;>
        exact .file fun _ _ => Directory.read_other_of_create hd

end Machine

namespace Run

variable {b : Binding}

def Writes (b : Binding) (f : Format) (bytes : List UInt8) : Prop :=
  Sink.writeBinding {} b f = (.ok (), { taken := bytes })

theorem writes_iff {f : Format} {bytes : List UInt8} : Writes b f bytes ↔ bytes = b.bytes f := by
  rw [Writes, Binding.writeBinding_eq_ok_iff]
  constructor
  · rintro ⟨_, h⟩
    exact congrArg Sink.taken h
  · rintro rfl
    exact ⟨Sink.takes_of_endless rfl rfl _, rfl⟩

end Run

end GLBindings
