import GLBindings.Definitions
import GLBindings.Proofs.Table

namespace GLBindings.EnumGroup

/-- The value names the group itself, or it names no groups and its block declares this one. -/
def BelongsTo (g : String) (b : EnumBlock) (e : EnumEntry) : Prop :=
  (∃ own, e.groups = some own ∧ g ∈ own) ∨ e.groups = none ∧ b.group = some g

theorem mem_groupsOf {g : String} {b : EnumBlock} {e : EnumEntry} :
    g ∈ groupsOf b e ↔ BelongsTo g b e := by
  unfold groupsOf BelongsTo
  cases e.groups <;> simp

instance (g : String) (b : EnumBlock) (e : EnumEntry) : Decidable (BelongsTo g b e) :=
  decidable_of_iff _ mem_groupsOf

def firstOfName : List EnumValue → List EnumValue
  | [] => []
  | v :: vs => v :: (firstOfName vs).filter (·.name ≠ v.name)

/-- The required values of a block that belong to a group. -/
def declared (required : List String) (g : String) (b : EnumBlock) : List EnumValue :=
  (b.entries.filter fun e => e.name ∈ required ∧ BelongsTo g b e).map fun e => ⟨e.name, e.value⟩

def members (required : List String) (blocks : List EnumBlock) (g : String) : List EnumValue :=
  firstOfName (blocks.flatMap (declared required g))

theorem firstOfName_filter {p : EnumValue → Bool} (hp : ∀ v w, v.name = w.name → p v = p w)
    (vs : List EnumValue) : firstOfName (vs.filter p) = (firstOfName vs).filter p := by
  induction vs with
  | nil => rfl
  | cons v vs ih =>
      cases hv : p v with
      | true =>
          rw [List.filter_cons_of_pos hv, firstOfName, firstOfName, List.filter_cons_of_pos hv, ih,
            List.filter_comm]
      | false =>
          -- What goes with `v` for its name is refused by the test as well.
          rw [List.filter_cons_of_neg (by simp [hv]), firstOfName,
            List.filter_cons_of_neg (by simp [hv]), ih, List.filter_filter]
          refine List.filter_congr fun w _ => ?_
          by_cases hw : w.name = v.name
          · simp [hp w v hw, hv]
          · simp [hw]

theorem nodup_names_firstOfName (vs : List EnumValue) : ((firstOfName vs).map (·.name)).Nodup := by
  induction vs with
  | nil => exact List.nodup_nil
  | cons v vs ih =>
      rw [firstOfName, List.map_cons, List.nodup_cons]
      exact ⟨by simp, (List.filter_sublist.map _).nodup ih⟩

theorem firstOfName_subset (vs : List EnumValue) : firstOfName vs ⊆ vs := by
  induction vs with
  | nil => exact List.Subset.refl []
  | cons v vs ih => exact List.cons_subset_cons v (List.Subset.trans (List.filter_subset_self _) ih)

theorem exists_entry_of_mem_members {required : List String} {blocks : List EnumBlock} {g : String}
    {v : EnumValue} (h : v ∈ members required blocks g) :
    ∃ b ∈ blocks, ∃ e ∈ b.entries, e.name ∈ required ∧ v = ⟨e.name, e.value⟩ := by
  obtain ⟨b, hb, hv⟩ := List.mem_flatMap.mp (firstOfName_subset _ h)
  obtain ⟨e, he, rfl⟩ := List.mem_map.mp hv
  obtain ⟨he, hreq⟩ := List.mem_filter.mp he
  exact ⟨b, hb, e, he, (of_decide_eq_true hreq).1, rfl⟩

theorem members_of_subset {required fewer : List String} (h : fewer ⊆ required)
    (blocks : List EnumBlock) (g : String) :
    members fewer blocks g = (members required blocks g).filter (·.name ∈ fewer) := by
  have hdeclared (b : EnumBlock) :
      declared fewer g b = (declared required g b).filter (·.name ∈ fewer) := by
    rw [declared, declared, List.filter_map, List.filter_filter]
    congr 1
    refine List.filter_congr fun e _ => ?_
    by_cases he : e.name ∈ fewer <;> simp [he, @h e.name]
  rw [members, members, ← firstOfName_filter (fun _ _ hname => by rw [hname]), List.filter_flatMap,
    funext hdeclared]

theorem addValue_addValue (vs : List EnumValue) (v : EnumValue) :
    addValue (addValue vs v) v = addValue vs v := by
  cases h : vs.any (·.name = v.name) <;> simp [addValue, h]

theorem addValue_ne_nil (vs : List EnumValue) (v : EnumValue) : addValue vs v ≠ [] := by
  cases vs with
  | nil => simp [addValue]
  | cons w vs =>
      unfold addValue
      split <;> simp

theorem foldl_addValue (vs acc : List EnumValue) :
    vs.foldl addValue acc =
      acc ++ firstOfName (vs.filter fun v => !acc.any (·.name = v.name)) := by
  induction vs generalizing acc with
  | nil => simp [firstOfName]
  | cons v vs ih =>
      rw [List.foldl_cons, ih]
      cases hv : acc.any (·.name = v.name) with
      | true => rw [addValue, if_pos hv, List.filter_cons_of_neg (by simp [hv])]
      | false =>
          have hnew : (vs.filter fun w => !(acc ++ [v]).any (·.name = w.name)) =
              (vs.filter fun w => !acc.any (·.name = w.name)).filter (·.name ≠ v.name) := by
            rw [List.filter_filter]
            refine List.filter_congr fun w _ => ?_
            simp [Bool.and_comm, eq_comm]
          rw [addValue, if_neg (by simp [hv]), List.filter_cons_of_pos (by simp [hv]), firstOfName,
            hnew, firstOfName_filter (fun _ _ h => by simp [h]), List.append_assoc,
            List.singleton_append]

def valuesOf (t : Table String (List EnumValue)) (g : String) : List EnumValue :=
  (t.get? g).getD []

theorem valuesOf_enter (v : EnumValue) (t : Table String (List EnumValue)) (h g : String) :
    valuesOf (enter v t h) g = if g = h then addValue (valuesOf t g) v else valuesOf t g := by
  rw [valuesOf, enter, Table.get?_insert]
  split
  next he =>
    subst he
    rfl
  next => rfl

theorem valuesOf_foldl_enter (v : EnumValue) (hs : List String) (t : Table String (List EnumValue))
    (g : String) : valuesOf (hs.foldl (enter v) t) g =
      if g ∈ hs then addValue (valuesOf t g) v else valuesOf t g := by
  induction hs generalizing t with
  | nil => simp
  | cons h hs ih =>
      rw [List.foldl_cons, ih, valuesOf_enter]
      by_cases hg : g = h <;> by_cases hmem : g ∈ hs <;> simp [hg, hmem, addValue_addValue]

theorem valuesOf_enterEntry (required : List String) (b : EnumBlock) (t : Table String (List EnumValue))
    (e : EnumEntry) (g : String) : valuesOf (enterEntry required b t e) g =
      if e.name ∈ required ∧ BelongsTo g b e then addValue (valuesOf t g) ⟨e.name, e.value⟩
      else valuesOf t g := by
  by_cases hreq : e.name ∈ required
  · simp [enterEntry, hreq, valuesOf_foldl_enter, mem_groupsOf]
  · simp [enterEntry, hreq]

theorem valuesOf_enterBlock (required : List String) (t : Table String (List EnumValue))
    (b : EnumBlock) (g : String) :
    valuesOf (enterBlock required t b) g = (declared required g b).foldl addValue (valuesOf t g) := by
  unfold enterBlock declared
  induction b.entries generalizing t with
  | nil => rfl
  | cons e es ih =>
      rw [List.foldl_cons, ih, valuesOf_enterEntry, List.filter_cons]
      by_cases he : e.name ∈ required ∧ BelongsTo g b e <;> simp [he]

theorem valuesOf_foldl_enterBlock (required : List String) (blocks : List EnumBlock)
    (t : Table String (List EnumValue)) (g : String) :
    valuesOf (blocks.foldl (enterBlock required) t) g =
      (blocks.flatMap (declared required g)).foldl addValue (valuesOf t g) := by
  induction blocks generalizing t with
  | nil => rfl
  | cons b blocks ih =>
      rw [List.foldl_cons, ih, valuesOf_enterBlock, List.flatMap_cons, List.foldl_append]

theorem valuesOf_collect (required : List String) (blocks : List EnumBlock) (g : String) :
    valuesOf (collect required blocks) g = members required blocks g := by
  rw [collect, valuesOf_foldl_enterBlock]
  exact (foldl_addValue _ []).trans (by simp [members])

def NoneEmpty (t : Table String (List EnumValue)) : Prop := ∀ g, t.get? g ≠ some []

theorem NoneEmpty.enter {t : Table String (List EnumValue)} (h : NoneEmpty t) (v : EnumValue)
    (g : String) : NoneEmpty (enter v t g) := by
  intro j
  rw [EnumGroup.enter, Table.get?_insert]
  split
  · simpa using addValue_ne_nil _ v
  · exact h j

theorem NoneEmpty.enterEntry {t : Table String (List EnumValue)} (h : NoneEmpty t)
    (required : List String) (b : EnumBlock) (e : EnumEntry) :
    NoneEmpty (enterEntry required b t e) := by
  unfold EnumGroup.enterEntry
  split
  · exact List.foldlRecOn _ _ h fun _ ht g _ => ht.enter _ g
  · exact h

theorem noneEmpty_collect (required : List String) (blocks : List EnumBlock) :
    NoneEmpty (collect required blocks) := by
  refine List.foldlRecOn _ _ ?_ fun _ ht b _ => ?_
  · intro g hg
    cases hg
  · exact List.foldlRecOn _ _ ht fun _ ht e _ => ht.enterEntry required b e

theorem get?_collect_eq_some_iff {required : List String} {blocks : List EnumBlock} {g : String}
    {vs : List EnumValue} :
    (collect required blocks).get? g = some vs ↔ members required blocks g = vs ∧ vs ≠ [] := by
  rw [← valuesOf_collect, valuesOf]
  have hne := noneEmpty_collect required blocks g
  cases hget : (collect required blocks).get? g with
  | none => simp [eq_comm]
  | some ws =>
      rw [hget] at hne
      simp only [Option.some.injEq, Option.getD_some]
      constructor
      · rintro rfl
        exact ⟨rfl, fun h => hne (h ▸ rfl)⟩
      · exact And.left

/-- The group of a block has the members of that group, whichever blocks declare them. -/
theorem ofBlock_eq_some_iff {required : List String} {blocks : List EnumBlock} {b : EnumBlock}
    {x : EnumGroup} : ofBlock (collect required blocks) b = some x ↔
      b.group = some x.name ∧ x.values = members required blocks x.name ∧ x.values ≠ [] ∧
        x.isBitmask = decide (b.kind = some "bitmask") := by
  unfold ofBlock
  cases b.group with
  | none => simp
  | some g =>
      simp only [Option.bind_eq_bind, Option.bind_some, Option.bind_eq_some_iff,
        get?_collect_eq_some_iff, Option.pure_def, Option.some.injEq]
      constructor
      · rintro ⟨vs, ⟨rfl, hne⟩, rfl⟩
        exact ⟨rfl, rfl, hne, rfl⟩
      · rintro ⟨rfl, hvalues, hne, hbit⟩
        refine ⟨x.values, ⟨hvalues.symm, hne⟩, ?_⟩
        rw [← hbit]

theorem names_extract (required : List String) (blocks : List EnumBlock) :
    (extract required blocks).map (·.name) =
      (blocks.filterMap (·.group)).filter fun g => members required blocks g ≠ [] := by
  rw [extract, List.map_filterMap, List.filter_filterMap]
  refine List.filterMap_congr fun b _ => ?_
  apply Option.ext
  intro g
  simp only [Option.map_eq_some_iff, ofBlock_eq_some_iff, Option.filter_eq_some_iff,
    decide_eq_true_eq]
  constructor
  · rintro ⟨x, ⟨hg, hvalues, hne, _⟩, rfl⟩
    exact ⟨hg, hvalues ▸ hne⟩
  · rintro ⟨hg, hne⟩
    exact ⟨⟨g, decide (b.kind = some "bitmask"), members required blocks g⟩, ⟨hg, rfl, hne, rfl⟩, rfl⟩

theorem extract_insert {required : List String} {b : EnumBlock} {front back : List EnumItem}
    {e : EnumEntry} (h : e.name ∉ required) (before after : List EnumBlock) :
    extract required (before ++ { b with items := front ++ .value e :: back } :: after) =
      extract required (before ++ { b with items := front ++ back } :: after) := by
  have henter (t : Table String (List EnumValue)) :
      enterBlock required t { b with items := front ++ .value e :: back } =
        enterBlock required t { b with items := front ++ back } := by
    have hskip (u : Table String (List EnumValue)) : enterEntry required b u e = u := if_neg h
    simp only [enterBlock, EnumBlock.entries, List.filterMap_append, List.filterMap_cons,
      EnumItem.entry?, List.foldl_append, List.foldl_cons]
    exact congrArg (List.foldl _ · _) (hskip _)
  have hcollect :
      collect required (before ++ { b with items := front ++ .value e :: back } :: after) =
        collect required (before ++ { b with items := front ++ back } :: after) := by
    simp only [collect, List.foldl_append, List.foldl_cons, henter]
  rw [extract, extract, hcollect, List.filterMap_append, List.filterMap_append, List.filterMap_cons,
    List.filterMap_cons]
  rfl

end GLBindings.EnumGroup
