import GLBindings.Binding
import GLBindings.Proofs.Grouping
import GLBindings.Proofs.Success
import GLBindings.Proofs.Table
import GLBindings.Proofs.Version

namespace GLBindings.Binding.Level

def required (commands : Table String Command) (r : Requirements) :
    Except MissingCommand (List (Version × Command)) :=
  r.commands.entries.mapM fun e =>
    (commands.get? e.1).elim (.error ⟨e.1⟩) fun c => .ok (e.2, c)

def versions (l : List (Version × Command)) : List Version :=
  (l.map (·.1)).eraseDups.mergeSort fun a b => decide (a ≤ b)

def ofVersion (api : Api) (l : List (Version × Command)) (v : Version) : Level :=
  ⟨api, v, (l.filter (·.1 = v)).map (·.2)⟩

def commandsOf (t : Table Version (List Command)) (v : Version) : List Command := (t.get? v).getD []

theorem commandsOf_enter (t : Table Version (List Command)) (a : Version × Command) (v : Version) :
    commandsOf (enter t a) v = if v = a.1 then commandsOf t v ++ [a.2] else commandsOf t v := by
  rw [commandsOf, enter, Table.get?_insert]
  split
  next hv =>
    rw [hv]
    rfl
  next => rfl

theorem commandsOf_foldl_enter (l : List (Version × Command)) (t : Table Version (List Command))
    (v : Version) :
    commandsOf (l.foldl enter t) v = commandsOf t v ++ (l.filter (·.1 = v)).map (·.2) := by
  induction l generalizing t with
  | nil => simp
  | cons a l ih =>
      rw [List.foldl_cons, ih, commandsOf_enter]
      by_cases hv : a.1 = v
      · rw [if_pos hv.symm, List.filter_cons_of_pos (by simpa using hv), List.map_cons,
          List.append_assoc, List.singleton_append]
      · rw [if_neg (Ne.symm hv), List.filter_cons_of_neg (by simpa using hv)]

theorem entries_foldl_enter (l : List (Version × Command)) :
    (l.foldl enter ∅).entries =
      (l.map (·.1)).eraseDups.map fun v => (v, (l.filter (·.1 = v)).map (·.2)) := by
  have hkeys : (l.foldl enter ∅).keys = (l.map (·.1)).eraseDups :=
    Table.keys_foldl_insert Prod.fst (fun t a => (t.get? a.1).getD [] ++ [a.2]) l
  rw [Table.entries_eq_map_keys _ [], hkeys]
  refine List.map_congr_left fun v _ => ?_
  rw [← commandsOf, commandsOf_foldl_enter]
  rfl

theorem foldlM_enterRequired (commands : Table String Command) (r : Requirements) :
    r.commands.entries.foldlM (enterRequired commands) ∅ =
      (required commands r).map (List.foldl enter ∅) := by
  refine Success.foldlM_eq_map_mapM (fun t e => ?_) _ _
  rw [enterRequired]
  cases commands.get? e.1 <;> rfl

theorem group_eq (api : Api) (r : Requirements) (commands : Table String Command) :
    group api r commands =
      (required commands r).map fun l => (versions l).map (ofVersion api l) := by
  rw [group, foldlM_enterRequired]
  cases required commands r with
  | error e => rfl
  | ok l =>
      have hlevels : (l.foldl enter ∅).entries.map (fun e => Level.mk api e.1 e.2) =
          (l.map (·.1)).eraseDups.map (ofVersion api l) := by
        rw [entries_foldl_enter, List.map_map]
        rfl
      have hsorted : (versions l).map (ofVersion api l) =
          ((l.map (·.1)).eraseDups.map (ofVersion api l)).mergeSort
            fun l m => decide (l.version ≤ m.version) := by
        rw [versions]
        apply List.map_mergeSort
        intro v _ w _
        rfl
      exact congrArg Except.ok ((congrArg (List.mergeSort · _) hlevels).trans hsorted.symm)

theorem group_eq_ok_iff {api : Api} {r : Requirements} {commands : Table String Command}
    {levels : List Level} :
    group api r commands = .ok levels ↔
      ∃ l, required commands r = .ok l ∧ (versions l).map (ofVersion api l) = levels := by
  rw [group_eq, Success.map_eq_ok_iff]

end GLBindings.Binding.Level
