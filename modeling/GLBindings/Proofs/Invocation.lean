import GLBindings.Invocation
import GLBindings.Proofs.Version
import Mathlib.Data.List.TakeWhile

namespace GLBindings

namespace Switch

variable {s : Switch} {cs : List Char} {c : Char}

theorem ofName?_eq_some_iff : ofName? cs = some s ↔ cs = s.name.toList := by
  rw [ofName?]
  constructor
  · intro h
    have hname := List.find?_some h
    exact (of_decide_eq_true hname).symm
  · rintro rfl
    cases s <;> decide

theorem ofLetter?_eq_some_iff : ofLetter? c = some s ↔ s.letter? = some c := by
  rw [ofLetter?]
  constructor
  · intro h
    have hletter := List.find?_some h
    exact of_decide_eq_true hletter
  · intro h
    cases s with
    | configFile | format | output =>
        cases h
        decide
    | _ => cases h

theorem takesValue_of_letter? (h : s.letter? = some c) : s.takesValue := by
  cases s with
  | configFile | format | output => rfl
  | _ => cases h

theorem name_ne_help (s : Switch) : s.name.toList ≠ "help".toList := by cases s <;> decide

theorem letter?_ne_help (s : Switch) : s.letter? ≠ some 'h' := by cases s <;> decide

theorem not_mem_name (s : Switch) : '=' ∉ s.name.toList := by cases s <;> decide

theorem forall_mem_name (s : Switch) : ∀ c ∈ s.name.toList, decide (c ≠ '=') = true :=
  fun _ hc => decide_eq_true (ne_of_mem_of_not_mem hc s.not_mem_name)

end Switch

namespace Argument

/-- How an argument is written that asks for help, is a whole switch, or has its value to come. -/
inductive Spelled : List Char → Argument → Prop
  | help : Spelled "--help".toList .help
  | shortHelp (rest : List Char) : Spelled ('-' :: 'h' :: rest) .help
  | flag {s : Switch} (hs : s.takesValue = false) :
      Spelled ('-' :: '-' :: s.name.toList) (.complete s "")
  | joined {s : Switch} (hs : s.takesValue) (value : List Char) :
      Spelled ('-' :: '-' :: (s.name.toList ++ '=' :: value)) (.complete s (String.ofList value))
  | shortJoined {s : Switch} {c : Char} (hc : s.letter? = some c) (value : List Char) :
      Spelled ('-' :: c :: '=' :: value) (.complete s (String.ofList value))
  | shortAdjacent {s : Switch} {c d : Char} (hc : s.letter? = some c) (hd : d ≠ '=')
      (value : List Char) : Spelled ('-' :: c :: d :: value) (.complete s (String.ofList (d :: value)))
  | awaiting {s : Switch} (hs : s.takesValue) : Spelled ('-' :: '-' :: s.name.toList) (.awaiting s)
  | shortAwaiting {s : Switch} {c : Char} (hc : s.letter? = some c) : Spelled ['-', c] (.awaiting s)

variable {s : Switch} {cs rest : List Char} {c : Char} {a : Argument}

theorem ofSwitch_none_of_takesValue (hs : s.takesValue) : ofSwitch s none = some (.awaiting s) := by
  rw [ofSwitch, if_pos hs]

theorem ofSwitch_some_of_takesValue (hs : s.takesValue) (value : List Char) :
    ofSwitch s (some value) = some (.complete s (String.ofList value)) := by
  rw [ofSwitch, if_pos hs]

theorem ofSwitch_flag (hs : s.takesValue = false) (text? : Option (List Char)) :
    ofSwitch s text? = match text? with
      | none => some (.complete s "")
      | some _ => none := by
  cases text? <;> simp [ofSwitch, hs]

theorem ofLong_name (s : Switch) : ofLong s.name.toList = ofSwitch s none := by
  have hall := s.forall_mem_name
  rw [ofLong, if_neg s.name_ne_help, List.takeWhile_eq_self_iff.mpr hall,
    List.dropWhile_eq_nil_iff.mpr hall, Switch.ofName?_eq_some_iff.mpr rfl]
  rfl

theorem ofLong_joined (s : Switch) (value : List Char) :
    ofLong (s.name.toList ++ '=' :: value) = ofSwitch s (some value) := by
  have hall := s.forall_mem_name
  have hhelp : s.name.toList ++ '=' :: value ≠ "help".toList := by
    intro h
    have hmem : '=' ∈ "help".toList := h ▸ by simp
    exact absurd hmem (by decide)
  rw [ofLong, if_neg hhelp, List.takeWhile_append_of_pos hall, List.dropWhile_append_of_pos hall]
  simp [Switch.ofName?_eq_some_iff.mpr rfl]

theorem ofShort_eq (hc : s.letter? = some c) (rest : List Char) :
    ofShort c rest = ofSwitch s (joined? rest) := by
  have hhelp : c ≠ 'h' := by
    rintro rfl
    exact s.letter?_ne_help hc
  rw [ofShort, if_neg hhelp, Switch.ofLetter?_eq_some_iff.mpr hc]
  rfl

theorem joined?_cons {d : Char} (hd : d ≠ '=') (value : List Char) :
    joined? (d :: value) = some (d :: value) := by
  rw [joined?]
  · rintro h
    cases h
  · rintro v h
    exact hd (List.cons.inj h).1

theorem ofChars_short {d : Char} (hd : d ≠ '-') (rest : List Char) :
    ofChars ('-' :: d :: rest) = ofShort d rest := by
  unfold ofChars
  split
  next h => exact absurd (List.cons.inj (List.cons.inj h).2).1 hd
  next h =>
    obtain ⟨rfl, rfl⟩ := List.cons.inj (List.cons.inj h).2
    rfl
  next h => exact absurd rfl (h _ _)

theorem letter?_ne_hyphen (s : Switch) : s.letter? ≠ some '-' := by cases s <;> decide

theorem ofChars_letter (hc : s.letter? = some c) (rest : List Char) :
    ofChars ('-' :: c :: rest) = ofSwitch s (joined? rest) := by
  have hhyphen : c ≠ '-' := by
    rintro rfl
    exact letter?_ne_hyphen s hc
  rw [ofChars_short hhyphen, ofShort_eq hc]

theorem ofChars_of_spelled (h : Spelled cs a) : ofChars cs = some a := by
  cases h with
  | help | shortHelp => rfl
  | flag hs => exact (ofLong_name _).trans (ofSwitch_flag hs _)
  | awaiting hs => exact (ofLong_name _).trans (ofSwitch_none_of_takesValue hs)
  | joined hs value => exact (ofLong_joined _ _).trans (ofSwitch_some_of_takesValue hs _)
  | shortJoined hc value =>
      rw [ofChars_letter hc]
      exact ofSwitch_some_of_takesValue (Switch.takesValue_of_letter? hc) _
  | shortAdjacent hc hd value =>
      rw [ofChars_letter hc, joined?_cons hd]
      exact ofSwitch_some_of_takesValue (Switch.takesValue_of_letter? hc) _
  | shortAwaiting hc =>
      rw [ofChars_letter hc]
      exact ofSwitch_none_of_takesValue (Switch.takesValue_of_letter? hc)

theorem eq_or_eq_of_mark (cs : List Char) :
    ((cs.dropWhile (· ≠ '=')).tail? = none ∧ cs = cs.takeWhile (· ≠ '=')) ∨
      ∃ value, (cs.dropWhile (· ≠ '=')).tail? = some value ∧
        cs = cs.takeWhile (· ≠ '=') ++ '=' :: value := by
  have hcs := List.takeWhile_append_dropWhile (p := fun c => decide (c ≠ '=')) (l := cs)
  cases hdrop : cs.dropWhile (· ≠ '=') with
  | nil =>
      rw [hdrop, List.append_nil] at hcs
      exact .inl ⟨rfl, hcs.symm⟩
  | cons d value =>
      have hd : d = '=' := by
        have hne : cs.dropWhile (· ≠ '=') ≠ [] := hdrop ▸ List.cons_ne_nil d value
        have hhead := List.head_dropWhile_not _ hne
        simpa only [hdrop, List.head_cons, decide_eq_false_iff_not, not_not] using hhead
      rw [hdrop, hd] at hcs
      exact .inr ⟨value, rfl, hcs.symm⟩

theorem spelled_name (h : ofSwitch s none = some a) : Spelled ('-' :: '-' :: s.name.toList) a := by
  cases hs : s.takesValue with
  | true =>
      cases (ofSwitch_none_of_takesValue hs).symm.trans h
      exact .awaiting hs
  | false =>
      cases (ofSwitch_flag hs none).symm.trans h
      exact .flag hs

theorem spelled_joined {value : List Char} (h : ofSwitch s (some value) = some a) :
    Spelled ('-' :: '-' :: (s.name.toList ++ '=' :: value)) a := by
  cases hs : s.takesValue with
  | true =>
      cases (ofSwitch_some_of_takesValue hs value).symm.trans h
      exact .joined hs value
  | false => cases (ofSwitch_flag hs (some value)).symm.trans h

theorem spelled_of_ofLong (h : ofLong cs = some a) : Spelled ('-' :: '-' :: cs) a := by
  rw [ofLong] at h
  split at h
  next hhelp =>
    cases h
    rw [hhelp]
    exact .help
  obtain ⟨s, hs, hswitch⟩ := Option.bind_eq_some_iff.mp h
  have hname := Switch.ofName?_eq_some_iff.mp hs
  -- The text before the first equals sign is the name, as no name has one in it.
  rcases eq_or_eq_of_mark cs with ⟨htext, hcs⟩ | ⟨value, htext, hcs⟩
  · rw [hcs, hname]
    rw [htext] at hswitch
    exact spelled_name hswitch
  · rw [hcs, hname]
    rw [htext] at hswitch
    exact spelled_joined hswitch

theorem spelled_of_ofShort (h : ofShort c rest = some a) : Spelled ('-' :: c :: rest) a := by
  rw [ofShort] at h
  split at h
  next hhelp =>
    cases h
    rw [hhelp]
    exact .shortHelp rest
  obtain ⟨s, hs, hswitch⟩ := Option.bind_eq_some_iff.mp h
  have hc := Switch.ofLetter?_eq_some_iff.mp hs
  have hvalue := Switch.takesValue_of_letter? hc
  cases rest with
  | nil =>
      cases (ofSwitch_none_of_takesValue hvalue).symm.trans hswitch
      exact .shortAwaiting hc
  | cons d value =>
      by_cases hd : d = '='
      · subst hd
        cases (ofSwitch_some_of_takesValue hvalue value).symm.trans hswitch
        exact .shortJoined hc value
      · rw [joined?_cons hd, ofSwitch_some_of_takesValue hvalue] at hswitch
        cases hswitch
        exact .shortAdjacent hc hd value

theorem spelled_of_ofChars (h : ofChars cs = some a) : Spelled cs a := by
  unfold ofChars at h
  split at h
  next => exact spelled_of_ofLong h
  next => exact spelled_of_ofShort h
  next => cases h

theorem ofChars_eq_some_iff : ofChars cs = some a ↔ Spelled cs a :=
  ⟨spelled_of_ofChars, ofChars_of_spelled⟩

end Argument

namespace Invocation

open Argument (Spelled ofChars_eq_some_iff)
open Named (ofName?_eq_some_iff)

/-- What the arguments spell: switches with their values, and perhaps a request for help behind
them, with which reading ends. -/
inductive Spells : List String → List (Switch × String) → Bool → Prop
  | nil : Spells [] [] false
  | hyphens : Spells ["--"] [] false
  | help {arg : String} (harg : Spelled arg.toList .help) (rest : List String) :
      Spells (arg :: rest) [] true
  | complete {arg value : String} {rest : List String} {s : Switch} {l : List (Switch × String)}
      {help : Bool} (harg : Spelled arg.toList (.complete s value)) (hrest : Spells rest l help) :
      Spells (arg :: rest) ((s, value) :: l) help
  | awaiting {arg value : String} {rest : List String} {s : Switch} {l : List (Switch × String)}
      {help : Bool} (harg : Spelled arg.toList (.awaiting s))
      (hvalue : value.toList.head? = some '-' → value = "-") (hrest : Spells rest l help) :
      Spells (arg :: value :: rest) ((s, value) :: l) help

variable {args : List String} {l : List (Switch × String)} {help : Bool}

theorem isValue_iff {value : String} :
    Argument.isValue value ↔ (value.toList.head? = some '-' → value = "-") := by
  rw [Argument.isValue]
  simp [imp_iff_not_or]

theorem ne_hyphens_of_spelled {arg : String} {a : Argument} (h : Spelled arg.toList a) :
    arg ≠ "--" := by
  rintro rfl
  cases (ofChars_eq_some_iff.mpr h).symm.trans (rfl : Argument.ofChars "--".toList = none)

theorem given_cons_of_spelled {arg : String} {a : Argument} (h : Spelled arg.toList a)
    (rest : List String) :
    given (arg :: rest) = match a with
      | .help => some ([], true)
      | .complete s value => (given rest).map fun g => ((s, value) :: g.1, g.2)
      | .awaiting s =>
        match rest with
        | [] => none
        | value :: rest =>
          if Argument.isValue value then (given rest).map fun g => ((s, value) :: g.1, g.2)
          else none := by
  rw [given, if_neg fun hend => ne_hyphens_of_spelled h hend.1, ofChars_eq_some_iff.mpr h]
  cases a <;> rfl

theorem spells_of_given (h : given args = some (l, help)) : Spells args l help := by
  -- Reading goes on behind one argument, or behind two where the first awaits its value.
  induction args using given.induct generalizing l with
  | case1 =>
      cases h
      exact .nil
  | case2 arg rest hend =>
      obtain ⟨rfl, rfl⟩ := hend
      cases h
      exact .hyphens
  | case3 arg rest hend harg =>
      rw [given, if_neg hend, harg] at h
      cases h
  | case4 arg rest hend harg =>
      have hspelled := ofChars_eq_some_iff.mp harg
      cases (given_cons_of_spelled hspelled rest).symm.trans h
      exact .help hspelled rest
  | case5 arg rest hend s value harg ih =>
      have hspelled := ofChars_eq_some_iff.mp harg
      rw [given_cons_of_spelled hspelled] at h
      obtain ⟨⟨m, _⟩, hm, hl⟩ := Option.map_eq_some_iff.mp h
      cases hl
      exact .complete hspelled (ih hm)
  | case6 arg s harg hend => cases (given_cons_of_spelled (ofChars_eq_some_iff.mp harg) []).symm.trans h
  | case7 arg s harg value rest hvalue hend ih =>
      have hspelled := ofChars_eq_some_iff.mp harg
      rw [given_cons_of_spelled hspelled] at h
      simp only [if_pos hvalue] at h
      obtain ⟨⟨m, _⟩, hm, hl⟩ := Option.map_eq_some_iff.mp h
      cases hl
      exact .awaiting hspelled (isValue_iff.mp hvalue) (ih hm)
  | case8 arg s harg value rest hvalue hend =>
      rw [given_cons_of_spelled (ofChars_eq_some_iff.mp harg)] at h
      simp only [if_neg hvalue] at h
      cases h

theorem given_of_spells (h : Spells args l help) : given args = some (l, help) := by
  induction h with
  | nil | hyphens => rfl
  | help harg rest => exact given_cons_of_spelled harg rest
  | complete harg _ ih =>
      rw [given_cons_of_spelled harg]
      exact Option.map_eq_some_iff.mpr ⟨_, ih, rfl⟩
  | awaiting harg hvalue _ ih =>
      rw [given_cons_of_spelled harg]
      simp only [if_pos (isValue_iff.mpr hvalue)]
      exact Option.map_eq_some_iff.mpr ⟨_, ih, rfl⟩

theorem given_eq_some_iff : given args = some (l, help) ↔ Spells args l help :=
  ⟨spells_of_given, given_of_spells⟩

def IsPath (text path : String) : Prop := text = path ∧ text ≠ ""

def IsVersion (text : String) (v : Version) : Prop := Version.ReadAs text (.ok v)

/-- The fields of an invocation are what the values of the switches stand for. Only the switches for
families and versions may be given more than once. -/
structure Sets (l : List (Switch × String)) (specFile : Option String) (i : Invocation) : Prop where
  specFile : List.Forall₂ IsPath (values l .specFile) specFile.toList
  configFile : List.Forall₂ IsPath (values l .configFile) i.configFile.toList
  apis : List.Forall₂ Named.Spells (values l .api) i.apis
  versions : List.Forall₂ IsVersion (values l .version) i.versions
  intersectFeatures : (values l .intersectFeatures).length = i.intersectFeatures.toNat
  profile : List.Forall₂ Named.Spells (values l .profile) i.profile.toList
  enumCase : List.Forall₂ Named.Spells (values l .enumCase) i.enumCase.toList
  functionCase : List.Forall₂ Named.Spells (values l .functionCase) i.functionCase.toList
  enumValueCase : List.Forall₂ Named.Spells (values l .enumValueCase) i.enumValueCase.toList
  omitPrefix : (values l .omitPrefix).length = i.omitPrefix.toNat
  enumNamespace : values l .enumNamespace = i.enumNamespace.toList
  commandNamespace : values l .commandNamespace = i.commandNamespace.toList
  format : List.Forall₂ Named.Spells (values l .format) i.format.toList
  output : List.Forall₂ IsPath (values l .output) i.output.toList

/-- The arguments ask for the run, with all that belongs to it. -/
def Asks (args : List String) (i : Invocation) : Prop :=
  ∃ l, Spells args l false ∧ Sets l (some i.specFile) i

/-- The arguments ask for help. The switches in front of it are in order, though a registry file may
be missing. -/
def AsksHelp (args : List String) : Prop := ∃ l specFile i, Spells args l true ∧ Sets l specFile i

section Values

variable {α : Type} {read : String → Option α} {R : String → α → Prop}

theorem readAll_eq_some_iff (hread : ∀ text a, read text = some a ↔ R text a) {s : Switch}
    {as : List α} : readAll read l s = some as ↔ List.Forall₂ R (values l s) as := by
  rw [readAll]
  induction values l s generalizing as with
  | nil => simp [eq_comm]
  | cons text texts ih =>
      rw [List.mapM_cons, Option.bind_eq_bind, Option.bind_eq_some_iff]
      constructor
      · rintro ⟨a, ha, h⟩
        obtain ⟨as, has, h⟩ := Option.bind_eq_some_iff.mp h
        cases h
        exact .cons ((hread text a).mp ha) (ih.mp has)
      · rintro (_ | ⟨ha, has⟩)
        exact ⟨_, (hread text _).mpr ha, Option.bind_eq_some_iff.mpr ⟨_, ih.mpr has, rfl⟩⟩

theorem readOne_eq_some_iff (hread : ∀ text a, read text = some a ↔ R text a) {s : Switch}
    {a? : Option α} : readOne read l s = some a? ↔ List.Forall₂ R (values l s) a?.toList := by
  rw [readOne, ← readAll_eq_some_iff hread]
  rcases readAll read l s with _ | _ | ⟨a, _ | ⟨b, as⟩⟩ <;> cases a? <;> simp [failure]

theorem readFlag_eq_some_iff {s : Switch} {b : Bool} :
    readFlag l s = some b ↔ (values l s).length = b.toNat := by
  rw [readFlag]
  rcases values l s with _ | ⟨_, _ | _⟩ <;> cases b <;> simp

end Values

theorem readText_eq_some_iff {s : Switch} {text? : Option String} :
    readOne some l s = some text? ↔ values l s = text?.toList := by
  rw [readOne_eq_some_iff (R := (· = ·)) (by simp), List.forall₂_eq_eq_eq]

theorem path?_eq_some_iff (text path : String) : path? text = some path ↔ IsPath text path := by
  rw [path?, IsPath]
  split
  next h => simp_all
  next h => simp_all

theorem version?_eq_some_iff (text : String) (v : Version) :
    version? text = some v ↔ IsVersion text v := by
  rw [version?, IsVersion, ← Version.read_eq_iff]
  cases Version.read text <;> simp [Except.toOption]

theorem ofGiven_eq_some_iff {i : Invocation} {path : String} {specFile : Option String}
    (hspecFile : List.Forall₂ IsPath (values l .specFile) specFile.toList) :
    ofGiven path l = some i ↔ i.specFile = path ∧ Sets l specFile i := by
  constructor
  · intro h
    obtain ⟨_, h₁, h⟩ := Option.bind_eq_some_iff.mp h
    obtain ⟨_, h₂, h⟩ := Option.bind_eq_some_iff.mp h
    obtain ⟨_, h₃, h⟩ := Option.bind_eq_some_iff.mp h
    obtain ⟨_, h₄, h⟩ := Option.bind_eq_some_iff.mp h
    obtain ⟨_, h₅, h⟩ := Option.bind_eq_some_iff.mp h
    obtain ⟨_, h₆, h⟩ := Option.bind_eq_some_iff.mp h
    obtain ⟨_, h₇, h⟩ := Option.bind_eq_some_iff.mp h
    obtain ⟨_, h₈, h⟩ := Option.bind_eq_some_iff.mp h
    obtain ⟨_, h₉, h⟩ := Option.bind_eq_some_iff.mp h
    obtain ⟨_, h₁₀, h⟩ := Option.bind_eq_some_iff.mp h
    obtain ⟨_, h₁₁, h⟩ := Option.bind_eq_some_iff.mp h
    obtain ⟨_, h₁₂, h⟩ := Option.bind_eq_some_iff.mp h
    obtain ⟨_, h₁₃, h⟩ := Option.bind_eq_some_iff.mp h
    cases h
    refine ⟨rfl, ?_⟩
    constructor
    case specFile => exact hspecFile
    case configFile => exact (readOne_eq_some_iff path?_eq_some_iff).mp h₁
    case apis => exact (readAll_eq_some_iff (ofName?_eq_some_iff Api.distinct)).mp h₂
    case versions => exact (readAll_eq_some_iff version?_eq_some_iff).mp h₃
    case intersectFeatures => exact readFlag_eq_some_iff.mp h₄
    case profile => exact (readOne_eq_some_iff (ofName?_eq_some_iff Profile.distinct)).mp h₅
    case enumCase => exact (readOne_eq_some_iff (ofName?_eq_some_iff Casing.distinct)).mp h₆
    case functionCase => exact (readOne_eq_some_iff (ofName?_eq_some_iff Casing.distinct)).mp h₇
    case enumValueCase => exact (readOne_eq_some_iff (ofName?_eq_some_iff Casing.distinct)).mp h₈
    case omitPrefix => exact readFlag_eq_some_iff.mp h₉
    case enumNamespace => exact readText_eq_some_iff.mp h₁₀
    case commandNamespace => exact readText_eq_some_iff.mp h₁₁
    case format => exact (readOne_eq_some_iff (ofName?_eq_some_iff Format.distinct)).mp h₁₂
    case output => exact (readOne_eq_some_iff path?_eq_some_iff).mp h₁₃
  · rintro ⟨rfl, h⟩
    have h₁ := (readOne_eq_some_iff path?_eq_some_iff).mpr h.configFile
    have h₂ := (readAll_eq_some_iff (ofName?_eq_some_iff Api.distinct)).mpr h.apis
    have h₃ := (readAll_eq_some_iff version?_eq_some_iff).mpr h.versions
    have h₄ := readFlag_eq_some_iff.mpr h.intersectFeatures
    have h₅ := (readOne_eq_some_iff (ofName?_eq_some_iff Profile.distinct)).mpr h.profile
    have h₆ := (readOne_eq_some_iff (ofName?_eq_some_iff Casing.distinct)).mpr h.enumCase
    have h₇ := (readOne_eq_some_iff (ofName?_eq_some_iff Casing.distinct)).mpr h.functionCase
    have h₈ := (readOne_eq_some_iff (ofName?_eq_some_iff Casing.distinct)).mpr h.enumValueCase
    have h₉ := readFlag_eq_some_iff.mpr h.omitPrefix
    have h₁₀ := readText_eq_some_iff.mpr h.enumNamespace
    have h₁₁ := readText_eq_some_iff.mpr h.commandNamespace
    have h₁₂ := (readOne_eq_some_iff (ofName?_eq_some_iff Format.distinct)).mpr h.format
    have h₁₃ := (readOne_eq_some_iff path?_eq_some_iff).mpr h.output
    simp only [ofGiven, h₁, h₂, h₃, h₄, h₅, h₆, h₇, h₈, h₉, h₁₀, h₁₁, h₁₂, h₁₃,
      Option.bind_eq_bind, Option.bind_some]
    rfl

theorem Sets.of_path {specFile : Option String} {i : Invocation} (h : Sets l specFile i)
    (path : String) : Sets l specFile { i with specFile := path } := { h with }

theorem read_eq_some_iff {q : Request} :
    read args = some q ↔ ∃ l help specFile i, Spells args l help ∧ Sets l specFile i ∧
      i.specFile = specFile.getD "" ∧
      (if help then some .help else specFile.map fun _ => .run i) = some q := by
  constructor
  · intro h
    obtain ⟨⟨l, help⟩, hl, h⟩ := Option.bind_eq_some_iff.mp h
    obtain ⟨specFile, hpath, h⟩ := Option.bind_eq_some_iff.mp h
    obtain ⟨i, hi, h⟩ := Option.bind_eq_some_iff.mp h
    obtain ⟨hspecFile, hsets⟩ :=
      (ofGiven_eq_some_iff ((readOne_eq_some_iff path?_eq_some_iff).mp hpath)).mp hi
    refine ⟨l, help, specFile, i, given_eq_some_iff.mp hl, hsets, hspecFile, ?_⟩
    cases help <;> cases specFile <;> exact h
  · rintro ⟨l, help, specFile, i, hl, hsets, hspecFile, h⟩
    refine Option.bind_eq_some_iff.mpr ⟨(l, help), given_eq_some_iff.mpr hl, ?_⟩
    have hpath := (readOne_eq_some_iff path?_eq_some_iff).mpr hsets.specFile
    refine Option.bind_eq_some_iff.mpr ⟨specFile, hpath, ?_⟩
    have hi := (ofGiven_eq_some_iff hsets.specFile).mpr ⟨hspecFile, hsets⟩
    refine Option.bind_eq_some_iff.mpr ⟨i, hi, ?_⟩
    cases help <;> cases specFile <;> exact h

theorem read_eq_run_iff {i : Invocation} : read args = some (.run i) ↔ Asks args i := by
  rw [read_eq_some_iff]
  constructor
  · rintro ⟨l, _ | _, _ | path, i, hl, hsets, hpath, h⟩ <;> cases h
    obtain rfl : i.specFile = path := hpath
    exact ⟨l, hl, hsets⟩
  · rintro ⟨l, hl, hsets⟩
    exact ⟨l, false, _, i, hl, hsets, rfl, rfl⟩

theorem read_eq_help_iff : read args = some .help ↔ AsksHelp args := by
  rw [read_eq_some_iff]
  constructor
  · rintro ⟨l, _ | _, specFile, i, hl, hsets, -, h⟩
    · cases specFile <;> cases h
    · exact ⟨l, specFile, i, hl, hsets⟩
  · rintro ⟨l, specFile, i, hl, hsets⟩
    exact ⟨l, true, specFile, _, hl, hsets.of_path _, rfl, rfl⟩

example : read ["--api", "gl", "--spec-file=gl.xml", "--version", "3.3", "-fndjson"] =
    some (.run {
      specFile := "gl.xml", apis := [.gl], versions := [⟨3, 3⟩], format := some .ndjson }) := by
  decide

example : read ["--omit-prefix", "-h"] = some .help := by decide

end Invocation

end GLBindings
