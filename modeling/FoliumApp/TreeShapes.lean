import FoliumApp.PathTree

/-!
# What a store looks like

Two facts about a store say that it holds what was written to it and nothing
else.  Every scalar and every list lies at a place that is written to, or
below one; and every map has each of its names once, none with a null value,
and is not empty.  Both hold of the empty store and are kept by every write
of a pruned value.
-/

namespace PathTree

namespace Json

/-! ## Leaves -/

def isLeaf : Json → Bool
  | .null => false
  | .obj _ => false
  | _ => true

/-- Every leaf lies at one of the places or below one. -/
def LeavesIn (places : List String → Prop) (tree : Json) : Prop :=
  ∀ path, (tree.get path).isLeaf = true →
    ∃ place, places place ∧ place <+: path

theorem isLeaf_ofFields (fields : List (String × Json)) :
    (ofFields fields).isLeaf = false := by
  cases fields <;> rfl

theorem leavesIn_null (places : List String → Prop) :
    LeavesIn places .null := by
  intro path hleaf
  rw [get_null] at hleaf
  cases hleaf

/-- A write is at the path read or above it, strictly below it, or apart
from it. -/
theorem written_cases (written read : List String) :
    written <+: read ∨
      (∃ key rest, written = read ++ key :: rest) ∨ Apart written read := by
  by_cases habove : written <+: read
  · exact Or.inl habove
  · by_cases hbelow : read <+: written
    · obtain ⟨below, rfl⟩ := hbelow
      cases below with
      | nil => exact absurd (by simp) habove
      | cons key rest => exact Or.inr (Or.inl ⟨key, rest, rfl⟩)
    · exact Or.inr (Or.inr ⟨habove, hbelow⟩)

theorem LeavesIn.setAt {places : List String → Prop} {tree : Json}
    (hleaves : LeavesIn places tree) {path : List String}
    (hplace : places path) (value : Json) :
    LeavesIn places (Json.setAt path value tree) := by
  intro read hleaf
  rcases written_cases path read with habove | ⟨key, rest, rfl⟩ | hapart
  · exact ⟨path, hplace, habove⟩
  · rw [get_setAt_of_above, Json.setAt, isLeaf_ofFields] at hleaf
    cases hleaf
  · rw [get_setAt_of_apart hapart] at hleaf
    exact hleaves read hleaf

/-! ## Maps -/

/-- A map as a store keeps it: every name once, no null value, not empty. -/
structure Kept (node : Json) : Prop where
  distinct : (node.fieldsOf.map Prod.fst).Nodup
  nonNull : ∀ field ∈ node.fieldsOf, field.2 ≠ .null
  nonempty : node ≠ .obj []

def Canonical (tree : Json) : Prop := ∀ path, (tree.get path).Kept

theorem kept_of_fieldsOf_nil {node : Json} (hfields : node.fieldsOf = [])
    (hnode : node ≠ .obj []) : node.Kept := by
  constructor
  · simp [hfields]
  · simp [hfields]
  · exact hnode

theorem canonical_null : Canonical .null := by
  intro path
  rw [get_null]
  exact kept_of_fieldsOf_nil rfl (by simp)

theorem kept_ofFields {fields : List (String × Json)}
    (hdistinct : (fields.map Prod.fst).Nodup)
    (hnonNull : ∀ field ∈ fields, field.2 ≠ .null) :
    (ofFields fields).Kept := by
  constructor
  · rw [fieldsOf_ofFields]
    exact hdistinct
  · rw [fieldsOf_ofFields]
    exact hnonNull
  · cases fields <;> simp [ofFields]

theorem mem_dropField {key : String} {fields : List (String × Json)}
    {field : String × Json} (hmem : field ∈ dropField key fields) :
    field ∈ fields := by
  rw [dropField_eq_filter] at hmem
  exact (List.mem_filter.mp hmem).1

theorem nodup_dropField {fields : List (String × Json)}
    (hdistinct : (fields.map Prod.fst).Nodup) (key : String) :
    ((dropField key fields).map Prod.fst).Nodup := by
  rw [dropField_eq_filter]
  exact hdistinct.sublist (List.filter_sublist.map _)

theorem mem_replaceField {key : String} {value : Json}
    {fields : List (String × Json)} {field : String × Json}
    (hmem : field ∈ replaceField key value fields) :
    field = (key, value) ∨ field ∈ fields := by
  induction fields with
  | nil => exact Or.inl (List.mem_singleton.mp hmem)
  | cons first rest ih =>
      obtain ⟨name, old⟩ := first
      simp only [replaceField] at hmem
      split_ifs at hmem with hname
      · rcases List.mem_cons.mp hmem with heq | hrest
        · exact Or.inl heq
        · exact Or.inr (List.mem_cons_of_mem _ hrest)
      · rcases List.mem_cons.mp hmem with heq | hrest
        · exact Or.inr (List.mem_cons.mpr (Or.inl heq))
        · rcases ih hrest with heq | hold
          · exact Or.inl heq
          · exact Or.inr (List.mem_cons_of_mem _ hold)

theorem nodup_replaceField {fields : List (String × Json)}
    (hdistinct : (fields.map Prod.fst).Nodup) (key : String)
    (value : Json) :
    ((replaceField key value fields).map Prod.fst).Nodup := by
  induction fields with
  | nil => simp [replaceField]
  | cons first rest ih =>
      obtain ⟨name, old⟩ := first
      simp only [List.map_cons, List.nodup_cons] at hdistinct
      simp only [replaceField]
      split_ifs with hname
      · subst hname
        simpa using hdistinct
      · simp only [List.map_cons, List.nodup_cons]
        refine ⟨?_, ih hdistinct.2⟩
        intro hmem
        obtain ⟨field, hfield, hfst⟩ := List.mem_map.mp hmem
        rcases mem_replaceField hfield with rfl | hold
        · exact hname hfst
        · exact hdistinct.1 (List.mem_map.mpr ⟨field, hold, hfst⟩)

theorem Kept.putField {node : Json} (hkept : node.Kept) (key : String)
    (value : Json) :
    (ofFields (Json.putField key value node.fieldsOf)).Kept := by
  have hdrop : (ofFields (dropField key node.fieldsOf)).Kept := by
    apply kept_ofFields (nodup_dropField hkept.distinct key)
    intro field hmem
    exact hkept.nonNull field (mem_dropField hmem)
  have hreplace : value ≠ .null →
      (ofFields (replaceField key value node.fieldsOf)).Kept := by
    intro hvalue
    apply kept_ofFields (nodup_replaceField hkept.distinct key value)
    intro field hmem
    rcases mem_replaceField hmem with rfl | hold
    · exact hvalue
    · exact hkept.nonNull field hold
  cases value with
  | null => exact hdrop
  | _ => exact hreplace (by simp)

theorem Canonical.setAt {tree value : Json} (htree : tree.Canonical)
    (hvalue : value.Canonical) (path : List String) :
    (Json.setAt path value tree).Canonical := by
  intro read
  rcases written_cases path read with ⟨below, rfl⟩ | ⟨key, rest, rfl⟩ | hapart
  · rw [get_setAt_append]
    exact hvalue below
  · rw [get_setAt_of_above, Json.setAt]
    exact (htree read).putField key _
  · rw [get_setAt_of_apart hapart]
    exact htree read

theorem Canonical.child_of_mem {tree : Json} (htree : tree.Canonical)
    {field : String × Json} (hmem : field ∈ tree.fieldsOf) :
    tree.child field.1 = field.2 :=
  lookup_of_mem (htree []).distinct hmem

theorem get_append (tree : Json) (path below : List String) :
    tree.get (path ++ below) = (tree.get path).get below := by
  induction path generalizing tree with
  | nil => rfl
  | cons key rest ih => exact ih (tree.child key)

theorem Canonical.get {tree : Json} (htree : tree.Canonical)
    (path : List String) : (tree.get path).Canonical := by
  intro below
  rw [← get_append]
  exact htree (path ++ below)

/-- What is not null holds a leaf. -/
theorem Canonical.exists_leaf : (tree : Json) → tree.Canonical →
    tree ≠ .null → ∃ path, (tree.get path).isLeaf = true
  | .null, _, hne => absurd rfl hne
  | .obj [], htree, _ => absurd rfl (htree []).nonempty
  | .obj ((key, value) :: rest), htree, _ => by
      have hmem : (key, value) ∈ (Json.obj ((key, value) :: rest)).fieldsOf :=
        List.mem_cons_self
      have hvalue : (Json.obj ((key, value) :: rest)).child key = value :=
        htree.child_of_mem hmem
      have hcanonical : value.Canonical := by
        rw [← hvalue]
        exact htree.get [key]
      have hne : value ≠ .null := (htree []).nonNull (key, value) hmem
      obtain ⟨path, hleaf⟩ := Canonical.exists_leaf value hcanonical hne
      refine ⟨key :: path, ?_⟩
      rw [get_cons, hvalue]
      exact hleaf
  | .bool _, _, _ => ⟨[], rfl⟩
  | .int _, _, _ => ⟨[], rfl⟩
  | .double _, _, _ => ⟨[], rfl⟩
  | .str _, _, _ => ⟨[], rfl⟩
  | .list _, _, _ => ⟨[], rfl⟩

/-! ## Pruned values -/

/-- Every map in the value has each name once. -/
def DistinctNames (value : Json) : Prop :=
  ∀ path, ((value.get path).fieldsOf.map Prod.fst).Nodup

theorem distinctNames_of_fieldsOf_nil {value : Json}
    (hfields : value.fieldsOf = []) : value.DistinctNames := by
  intro path
  cases path with
  | nil => simp [hfields]
  | cons key rest =>
      have hchild : value.child key = .null := by
        rw [child, hfields]
        rfl
      rw [get_cons, hchild, get_null]
      exact List.nodup_nil

theorem lookup_eq_null_or_mem (key : String)
    (fields : List (String × Json)) :
    lookup key fields = .null ∨ (key, lookup key fields) ∈ fields := by
  induction fields with
  | nil => exact Or.inl rfl
  | cons first rest ih =>
      obtain ⟨name, value⟩ := first
      simp only [lookup]
      split_ifs with hname
      · subst hname
        exact Or.inr List.mem_cons_self
      · rcases ih with hnull | hmem
        · exact Or.inl hnull
        · exact Or.inr (List.mem_cons_of_mem _ hmem)

theorem distinctNames_obj {fields : List (String × Json)}
    (hdistinct : (fields.map Prod.fst).Nodup)
    (hfields : ∀ field ∈ fields, field.2.DistinctNames) :
    (Json.obj fields).DistinctNames := by
  intro path
  cases path with
  | nil => exact hdistinct
  | cons key rest =>
      rw [get_cons]
      rcases lookup_eq_null_or_mem key fields with hnull | hmem
      · have hchild : (Json.obj fields).child key = .null := hnull
        rw [hchild, get_null]
        exact List.nodup_nil
      · exact hfields _ hmem rest

theorem pruneFields_sublist (fields : List (String × Json)) :
    ((pruneFields fields).map Prod.fst).Sublist (fields.map Prod.fst) := by
  induction fields with
  | nil => exact .slnil
  | cons first rest ih =>
      obtain ⟨name, value⟩ := first
      cases hvalue : prune value with
      | null =>
          simp only [pruneFields, hvalue, List.map_cons]
          exact ih.cons name
      | _ =>
          simp only [pruneFields, hvalue, List.map_cons]
          exact ih.cons_cons name

theorem ne_null_of_mem_pruneFields {fields : List (String × Json)}
    {field : String × Json} (hmem : field ∈ pruneFields fields) :
    field.2 ≠ .null := by
  induction fields with
  | nil => cases hmem
  | cons first rest ih =>
      obtain ⟨name, value⟩ := first
      cases hvalue : prune value with
      | null =>
          simp only [pruneFields, hvalue] at hmem
          exact ih hmem
      | _ =>
          simp only [pruneFields, hvalue] at hmem
          rcases List.mem_cons.mp hmem with rfl | hrest
          · simp
          · exact ih hrest

theorem DistinctNames.kept_prune {value : Json}
    (hdistinct : value.DistinctNames) : value.prune.Kept := by
  cases value with
  | obj fields =>
      rw [prune]
      apply kept_ofFields ((hdistinct []).sublist (pruneFields_sublist fields))
      intro field hmem
      exact ne_null_of_mem_pruneFields hmem
  | _ => exact kept_of_fieldsOf_nil rfl (by simp [prune])

theorem child_prune {value : Json} (hdistinct : value.DistinctNames)
    (key : String) : value.prune.child key = (value.child key).prune := by
  cases value with
  | obj fields => exact child_prune_obj (hdistinct []) key
  | _ => rfl

/-- What is kept of a value with distinct names has the shape of a store. -/
theorem DistinctNames.canonical_prune {value : Json}
    (hdistinct : value.DistinctNames) : value.prune.Canonical := by
  intro path
  induction path generalizing value with
  | nil => exact hdistinct.kept_prune
  | cons key rest ih =>
      rw [get_cons, child_prune hdistinct]
      apply ih
      intro below
      exact hdistinct (key :: below)

end Json

end PathTree
