namespace GLBindings

class Named (α : Type) where
  label : String
  choices : List α
  name : α → String

structure UnknownName where
  label : String
  given : String
  expected : List String
deriving DecidableEq, Repr

def UnknownName.message (e : UnknownName) : String :=
  "unknown " ++ e.label ++ " '" ++ e.given ++ "' (expected one of: "
    ++ ", ".intercalate e.expected ++ ")"

variable {α : Type} [Named α]

def Named.ofName? (s : String) : Option α :=
  (Named.choices : List α).find? fun a => Named.name a == s

def Named.read (s : String) : Except UnknownName α :=
  match Named.ofName? s with
  | some a => .ok a
  | none => .error ⟨Named.label α, s, (Named.choices : List α).map Named.name⟩

def Named.Spells (s : String) (a : α) : Prop :=
  a ∈ (Named.choices : List α) ∧ Named.name a = s

def Named.Distinct (α : Type) [Named α] : Prop :=
  ∀ a ∈ (Named.choices : List α), ∀ b ∈ (Named.choices : List α),
    Named.name a = Named.name b → a = b

namespace Named

variable {s : String} {a : α}

theorem spells_of_ofName? (h : ofName? s = some a) : Spells s a :=
  ⟨List.mem_of_find?_eq_some h, by simpa using List.find?_some h⟩

theorem ofName?_eq_some_iff (hdistinct : Distinct α) (s : String) (a : α) :
    ofName? s = some a ↔ Spells s a := by
  constructor
  · exact spells_of_ofName?
  · rintro ⟨hmem, rfl⟩
    cases hs : (ofName? (name a) : Option α) with
    | none => simpa using List.find?_eq_none.mp hs a hmem
    | some b =>
        obtain ⟨hb, hname⟩ := spells_of_ofName? hs
        rw [hdistinct b hb a hmem hname]

theorem read_eq_ok_iff : (Named.read s : Except UnknownName α) = .ok a ↔ ofName? s = some a := by
  unfold Named.read
  cases (ofName? s : Option α) <;> simp

theorem spells_of_read (h : (Named.read s : Except UnknownName α) = .ok a) : Spells s a :=
  spells_of_ofName? (read_eq_ok_iff.mp h)

end Named

end GLBindings
