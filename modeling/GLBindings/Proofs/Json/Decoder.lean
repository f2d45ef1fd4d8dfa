import GLBindings.Json
import GLBindings.Proofs.Success
import GLBindings.Proofs.Version

namespace GLBindings

namespace Json

def HasFields (j : Json) (fields : List (String × Json)) : Prop := ∀ f ∈ fields, j.get f.1 = f.2

theorem lookup_eq_some_of_nodup {fields : List (String × Json)} (h : (fields.map Prod.fst).Nodup)
    {f : String × Json} (hf : f ∈ fields) : fields.lookup f.1 = some f.2 := by
  induction fields with
  | nil => cases hf
  | cons g fields ih =>
      obtain ⟨hg, hfields⟩ := List.nodup_cons.mp h
      rcases List.mem_cons.mp hf with rfl | hf
      · rw [List.lookup_cons_self]
      · have hne : (f.1 == g.1) = false := by
          rw [beq_eq_false_iff_ne]
          intro hfg
          exact hg (hfg ▸ List.mem_map_of_mem hf)
        rw [List.lookup_cons, hne, ih hfields hf]

theorem hasFields_object {fields : List (String × Json)} (h : (fields.map Prod.fst).Nodup) :
    HasFields (.object fields) fields := by
  intro f hf
  rw [get, lookup_eq_some_of_nodup h hf, Option.getD_some]

/-- The decoder takes back what is written. -/
def Reads {α : Type} (read : Decoder α) (write : α → Json) : Prop := ∀ a, read (write a) = .ok a

theorem readList_map {α : Type} {read : Decoder α} {write : α → Json} {l : List α}
    (h : ∀ a ∈ l, read (write a) = .ok a) : readList read (.array (l.map write)) = .ok l := by
  refine Success.mapM_eq_ok_iff.mpr ?_
  rw [List.forall₂_map_left_iff, List.forall₂_same]
  exact h

theorem Reads.list {α : Type} {read : Decoder α} {write : α → Json} (h : Reads read write)
    (l : List α) : orDefault [] (readList read) (.array (l.map write)) = .ok l :=
  readList_map fun a _ => h a

theorem reads_text : Reads readText .string := fun _ => rfl

theorem reads_flag : Reads readFlag .bool := fun _ => rfl

theorem reads_ofString? : Reads (orNone readText) ofString? := by
  intro s
  cases s <;> rfl

theorem reads_versionText : Reads readVersion fun v => .string v.text := by
  intro v
  rw [readVersion, readText, Success.bind_eq_ok_iff]
  exact ⟨v.text, rfl, Success.mapError_eq_ok_iff.mpr (Version.read_text v)⟩

end Json

end GLBindings
