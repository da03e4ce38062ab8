import FoliumApp.SplitLists
import Mathlib.Data.List.Basic
import Mathlib.Tactic

/-!
# Trees of named values addressed by slash-separated paths

A value is a scalar, a list or a map from names to values.  A whole store is
one such value, and a path of names addresses a subtree of it; lists are
opaque.  Writing at a path replaces the whole subtree there; a name whose
value is null, or a map left without names, does not exist.

The second half reads paths from text.  A text is cut at every slash and the
empty pieces are dropped, so a name which is non-empty and has no slash is a
piece of its own wherever it is interpolated.
-/

namespace PathTree

inductive Json where
  | null
  | bool (value : Bool)
  | int (value : ℤ)
  | double (value : ℚ)
  | str (value : String)
  | list (items : List Json)
  | obj (fields : List (String × Json))

namespace Json

/-! ## The fields of a map -/

def fieldsOf : Json → List (String × Json)
  | .obj fields => fields
  | _ => []

/-- A map without fields is not stored at all. -/
def ofFields : List (String × Json) → Json
  | [] => .null
  | field :: rest => .obj (field :: rest)

def lookup (key : String) : List (String × Json) → Json
  | [] => .null
  | (other, value) :: rest =>
      if key = other then value else lookup key rest

def dropField (key : String) : List (String × Json) → List (String × Json)
  | [] => []
  | (other, value) :: rest =>
      if key = other then dropField key rest
      else (other, value) :: dropField key rest

def replaceField (key : String) (value : Json) :
    List (String × Json) → List (String × Json)
  | [] => [(key, value)]
  | (other, old) :: rest =>
      if key = other then (key, value) :: rest
      else (other, old) :: replaceField key value rest

def putField (key : String) (value : Json)
    (fields : List (String × Json)) : List (String × Json) :=
  match value with
  | .null => dropField key fields
  | value => replaceField key value fields

def child (tree : Json) (key : String) : Json :=
  lookup key tree.fieldsOf

theorem lookup_dropField
    (key other : String) (fields : List (String × Json)) :
    lookup other (dropField key fields) =
      if other = key then .null else lookup other fields := by
  induction fields with
  | nil => simp [dropField, lookup]
  | cons field rest ih =>
      obtain ⟨name, value⟩ := field
      by_cases hname : key = name
      · subst name
        simp only [dropField, if_true, ih, lookup]
        split_ifs <;> rfl
      · simp only [dropField, if_neg hname, lookup, ih]
        by_cases hother : other = name
        · subst other
          simp [Ne.symm hname]
        · simp [hother]

theorem lookup_replaceField
    (key other : String) (value : Json) (fields : List (String × Json)) :
    lookup other (replaceField key value fields) =
      if other = key then value else lookup other fields := by
  induction fields with
  | nil => simp [replaceField, lookup]
  | cons field rest ih =>
      obtain ⟨name, old⟩ := field
      by_cases hname : key = name
      · subst name
        simp only [replaceField, if_true, lookup]
        split_ifs <;> rfl
      · simp only [replaceField, if_neg hname, lookup, ih]
        by_cases hother : other = name
        · subst other
          simp [Ne.symm hname]
        · simp [hother]

@[simp] theorem lookup_putField
    (key other : String) (value : Json) (fields : List (String × Json)) :
    lookup other (putField key value fields) =
      if other = key then value else lookup other fields := by
  cases value <;>
    simp only [putField, lookup_dropField, lookup_replaceField]

@[simp] theorem child_ofFields
    (fields : List (String × Json)) (key : String) :
    (ofFields fields).child key = lookup key fields := by
  cases fields <;> rfl

@[simp] theorem child_null (key : String) :
    Json.null.child key = .null := rfl

@[simp] theorem fieldsOf_ofFields (fields : List (String × Json)) :
    (ofFields fields).fieldsOf = fields := by
  cases fields <;> rfl

theorem replaceField_of_not_mem
    {key : String} {fields : List (String × Json)}
    (hkey : key ∉ fields.map Prod.fst) (value : Json) :
    replaceField key value fields = fields ++ [(key, value)] := by
  induction fields with
  | nil => rfl
  | cons field rest ih =>
      simp only [List.map_cons, List.mem_cons, not_or] at hkey
      rw [replaceField, if_neg hkey.1, ih hkey.2, List.cons_append]

theorem dropField_eq_filter
    (key : String) (fields : List (String × Json)) :
    dropField key fields = fields.filter fun field => field.1 ≠ key := by
  induction fields with
  | nil => rfl
  | cons field rest ih =>
      obtain ⟨name, value⟩ := field
      by_cases hname : key = name
      · subst name
        simp [dropField, ih]
      · simp [dropField, hname, Ne.symm hname, ih]

/-! ## Reading and writing at a path -/

def get (tree : Json) : List String → Json
  | [] => tree
  | key :: rest => (tree.child key).get rest

/-- Replace the whole subtree at a path.  Writing null removes it, together
with every map above it that this leaves empty. -/
def setAt : List String → Json → Json → Json
  | [], value, _ => value
  | key :: rest, value, tree =>
      ofFields
        (putField key (setAt rest value (tree.child key)) tree.fieldsOf)

@[simp] theorem get_nil (tree : Json) : tree.get [] = tree := rfl

@[simp] theorem get_cons (tree : Json) (key : String) (rest : List String) :
    tree.get (key :: rest) = (tree.child key).get rest := rfl

@[simp] theorem get_null (path : List String) :
    Json.null.get path = .null := by
  induction path with
  | nil => rfl
  | cons key rest ih => simpa using ih

@[simp] theorem child_setAt_cons
    (key other : String) (rest : List String) (value tree : Json) :
    (setAt (key :: rest) value tree).child other =
      if other = key then setAt rest value (tree.child key)
      else tree.child other := by
  rw [setAt, child_ofFields, lookup_putField]
  rfl

theorem get_setAt_append
    (path below : List String) (value tree : Json) :
    (setAt path value tree).get (path ++ below) = value.get below := by
  induction path generalizing tree with
  | nil => rfl
  | cons key rest ih =>
      simp only [List.cons_append, get_cons, child_setAt_cons, if_true]
      exact ih (tree.child key)

@[simp] theorem get_setAt_self
    (path : List String) (value tree : Json) :
    (setAt path value tree).get path = value := by
  simpa using get_setAt_append path [] value tree

/-- Above the written path the write acts inside the subtree read. -/
theorem get_setAt_of_above
    (above below : List String) (value tree : Json) :
    (setAt (above ++ below) value tree).get above =
      setAt below value (tree.get above) := by
  induction above generalizing tree with
  | nil => rfl
  | cons key rest ih =>
      simp only [List.cons_append, get_cons, child_setAt_cons, if_true]
      exact ih (tree.child key)

/-- Two paths neither of which lies at or above the other. -/
def Apart (left right : List String) : Prop :=
  ¬ left <+: right ∧ ¬ right <+: left

theorem Apart.symm {left right : List String} (h : Apart left right) :
    Apart right left :=
  ⟨h.2, h.1⟩

theorem Apart.of_cons {key : String} {left right : List String}
    (h : Apart (key :: left) (key :: right)) : Apart left right := by
  constructor
  · intro hprefix
    exact h.1 (List.cons_prefix_cons.mpr ⟨rfl, hprefix⟩)
  · intro hprefix
    exact h.2 (List.cons_prefix_cons.mpr ⟨rfl, hprefix⟩)

theorem apart_of_getElem_ne
    {left right : List String} (depth : ℕ)
    (hleft : depth < left.length) (hright : depth < right.length)
    (hne : left[depth] ≠ right[depth]) :
    Apart left right := by
  constructor
  · rintro ⟨back, rfl⟩
    exact hne (List.getElem_append_left hleft).symm
  · rintro ⟨back, rfl⟩
    exact hne (List.getElem_append_left hright)

theorem apart_of_length_eq {left right : List String}
    (hlength : left.length = right.length) (hne : left ≠ right) :
    Apart left right := by
  constructor
  · intro hbefore
    exact hne (hbefore.eq_of_length hlength)
  · intro hbefore
    exact hne (hbefore.eq_of_length hlength.symm).symm

/-- A write leaves every path apart from it as it was. -/
theorem get_setAt_of_apart
    {written read : List String} (hapart : Apart written read)
    (value tree : Json) :
    (setAt written value tree).get read = tree.get read := by
  induction written generalizing read tree with
  | nil => exact (hapart.1 List.nil_prefix).elim
  | cons key rest ih =>
      cases read with
      | nil => exact (hapart.2 List.nil_prefix).elim
      | cons other back =>
          simp only [get_cons, child_setAt_cons]
          by_cases heq : other = key
          · subst other
            rw [if_pos rfl]
            exact ih hapart.of_cons (tree.child key)
          · rw [if_neg heq]

@[simp] theorem setAt_null_null (path : List String) :
    setAt path .null .null = .null := by
  induction path with
  | nil => rfl
  | cons key rest ih =>
      simp only [setAt, child_null, ih, putField, fieldsOf, dropField,
        ofFields]

theorem get_ne_null_of_setAt_null
    (removed read : List String) (tree : Json)
    (hread : (setAt removed .null tree).get read ≠ .null) :
    tree.get read ≠ .null := by
  induction removed generalizing read tree with
  | nil =>
      rw [setAt, get_null] at hread
      exact (hread rfl).elim
  | cons key rest ih =>
      cases read with
      | nil =>
          intro htree
          rw [get_nil] at htree
          subst tree
          apply hread
          rw [setAt_null_null, get_nil]
      | cons other back =>
          simp only [get_cons, child_setAt_cons] at hread ⊢
          by_cases heq : other = key
          · subst other
            rw [if_pos rfl] at hread
            exact ih back (tree.child key) hread
          · rw [if_neg heq] at hread
            exact hread

/-! ## What a store keeps of a written value -/

mutual

/-- Names with null values and maps without names are dropped on a write. -/
def prune : Json → Json
  | .obj fields => ofFields (pruneFields fields)
  | .null => .null
  | .bool value => .bool value
  | .int value => .int value
  | .double value => .double value
  | .str value => .str value
  | .list items => .list items

def pruneFields : List (String × Json) → List (String × Json)
  | [] => []
  | (key, value) :: rest =>
      match prune value with
      | .null => pruneFields rest
      | kept => (key, kept) :: pruneFields rest

end

theorem lookup_eq_null_of_not_mem
    {key : String} {fields : List (String × Json)}
    (hkey : key ∉ fields.map Prod.fst) :
    lookup key fields = .null := by
  induction fields with
  | nil => rfl
  | cons field rest ih =>
      simp only [List.map_cons, List.mem_cons, not_or] at hkey
      simp only [lookup, if_neg hkey.1]
      exact ih hkey.2

theorem lookup_of_mem
    {key : String} {value : Json} {fields : List (String × Json)}
    (hnodup : (fields.map Prod.fst).Nodup) (hmem : (key, value) ∈ fields) :
    lookup key fields = value := by
  induction fields with
  | nil => cases hmem
  | cons field rest ih =>
      simp only [List.map_cons, List.nodup_cons] at hnodup
      rcases List.mem_cons.mp hmem with rfl | hrest
      · rw [lookup, if_pos rfl]
      · have hne : key ≠ field.1 := by
          intro heq
          apply hnodup.1
          rw [← heq]
          exact List.mem_map.mpr ⟨_, hrest, rfl⟩
        rw [lookup, if_neg hne]
        exact ih hnodup.2 hrest

theorem lookup_pruneFields_cons
    (key name : String) (value : Json) (rest : List (String × Json))
    (hrest : key = name → lookup key (pruneFields rest) = .null) :
    lookup key (pruneFields ((name, value) :: rest)) =
      if key = name then prune value else lookup key (pruneFields rest) := by
  by_cases heq : key = name
  · subst name
    cases hvalue : prune value <;>
      simp [pruneFields, hvalue, lookup, hrest rfl]
  · cases hvalue : prune value <;>
      simp [pruneFields, hvalue, lookup, heq]

theorem lookup_pruneFields
    {fields : List (String × Json)} (hnodup : (fields.map Prod.fst).Nodup)
    (key : String) :
    lookup key (pruneFields fields) = (lookup key fields).prune := by
  induction fields with
  | nil => rfl
  | cons field rest ih =>
      obtain ⟨name, value⟩ := field
      simp only [List.map_cons, List.nodup_cons] at hnodup
      rw [lookup_pruneFields_cons, ih hnodup.2, lookup]
      · split_ifs <;> rfl
      · rintro rfl
        rw [ih hnodup.2, lookup_eq_null_of_not_mem hnodup.1]
        rfl

theorem child_prune_obj
    {fields : List (String × Json)} (hnodup : (fields.map Prod.fst).Nodup)
    (key : String) :
    ((Json.obj fields).prune).child key = (lookup key fields).prune := by
  rw [prune, child_ofFields, lookup_pruneFields hnodup]

theorem prune_obj_eq_obj_of_child
    {fields : List (String × Json)} {key : String}
    (hchild : ((Json.obj fields).prune).child key ≠ .null) :
    (Json.obj fields).prune = .obj (pruneFields fields) := by
  rw [prune] at hchild ⊢
  cases hfields : pruneFields fields with
  | nil =>
      rw [hfields] at hchild
      exact (hchild rfl).elim
  | cons field rest => rfl

end Json

/-! ## Paths written as text -/

/-- The pieces of a slash-separated text; empty pieces are dropped. -/
def pieces (path : String) : List String :=
  ((path.toList.splitOn '/').map String.ofList).filter (· ≠ "")

/-- A name that is one whole piece of any path it is interpolated in. -/
def IsSegment (name : String) : Prop :=
  name ≠ "" ∧ '/' ∉ name.toList

instance (name : String) : Decidable (IsSegment name) :=
  inferInstanceAs (Decidable (_ ∧ _))

abbrev Segment := { name : String // IsSegment name }

theorem pieces_segment {name : String} (hname : IsSegment name) :
    pieces name = [name] := by
  unfold pieces
  rw [List.splitOn_eq_singleton hname.2]
  simp [hname.1]

theorem pieces_slash (front back : String) :
    pieces (front ++ "/" ++ back) = pieces front ++ pieces back := by
  have hlist :
      (front ++ "/" ++ back).toList =
        front.toList ++ '/' :: back.toList := by simp
  unfold pieces
  rw [hlist, List.splitOn_append_cons_self, List.map_append,
    List.filter_append]

theorem pieces_segment_slash {name : String} (hname : IsSegment name)
    (back : String) :
    pieces (name ++ "/" ++ back) = name :: pieces back := by
  rw [pieces_slash, pieces_segment hname]
  rfl

theorem isSegment_of_mem_pieces {path name : String}
    (hmem : name ∈ pieces path) : IsSegment name := by
  unfold pieces at hmem
  obtain ⟨hsplit, hne⟩ := List.mem_filter.mp hmem
  obtain ⟨chars, hchars, rfl⟩ := List.mem_map.mp hsplit
  refine ⟨by simpa using hne, ?_⟩
  rw [String.toList_ofList]
  exact SplitLists.not_mem_of_mem_splitOn hchars

theorem slash_not_mem_or_last_slash (text : String) :
    '/' ∉ text.toList ∨
      ∃ front back, text = front ++ "/" ++ back ∧ '/' ∉ back.toList := by
  have hchars : ∀ chars : List Char,
      '/' ∉ chars ∨
        ∃ front back, chars = front ++ '/' :: back ∧ '/' ∉ back := by
    intro chars
    induction chars with
    | nil => exact Or.inl (List.not_mem_nil)
    | cons c rest ih =>
        rcases ih with hnone | ⟨front, back, rfl, hback⟩
        · by_cases hc : c = '/'
          · subst c
            exact Or.inr ⟨[], rest, rfl, hnone⟩
          · left
            simp only [List.mem_cons, not_or]
            exact ⟨Ne.symm hc, hnone⟩
        · exact Or.inr ⟨c :: front, back, rfl, hback⟩
  rcases hchars text.toList with hnone | ⟨front, back, heq, hback⟩
  · exact Or.inl hnone
  · refine Or.inr ⟨String.ofList front, String.ofList back, ?_, ?_⟩
    · apply String.toList_injective
      simp [heq]
    · simpa using hback

/-- When a text and a suffix make up one piece, the suffix ends a piece of
the text or stands alone. -/
theorem pieces_of_pieces_append
    {text suffix name : String} (hsuffix : IsSegment suffix)
    (hpieces : pieces (text ++ suffix) = [name ++ suffix]) :
    pieces text = [name] ∨ pieces text = [] := by
  have hend : ∀ back : String, '/' ∉ back.toList →
      IsSegment (back ++ suffix) := by
    intro back hback
    constructor
    · intro hempty
      apply hsuffix.1
      have hlist : back.toList ++ suffix.toList = [] := by
        rw [← String.toList_append, hempty]
        rfl
      exact String.toList_injective (List.append_eq_nil_iff.mp hlist).2
    · rw [String.toList_append, List.mem_append]
      rintro (hmem | hmem)
      · exact hback hmem
      · exact hsuffix.2 hmem
  have hcancel : ∀ back : String,
      back ++ suffix = name ++ suffix → back = name := by
    intro back heq
    have hlist := congrArg String.toList heq
    simp only [String.toList_append] at hlist
    exact String.toList_injective (List.append_cancel_right hlist)
  have hname : ∀ back : String, '/' ∉ back.toList →
      back = name → pieces back = [name] ∨ pieces back = [] := by
    intro back hback heq
    subst heq
    by_cases hempty : back = ""
    · right
      subst hempty
      rfl
    · exact Or.inl (pieces_segment ⟨hempty, hback⟩)
  rcases slash_not_mem_or_last_slash text with
    hnone | ⟨front, back, rfl, hback⟩
  · rw [pieces_segment (hend text hnone)] at hpieces
    simp only [List.cons.injEq, and_true] at hpieces
    exact hname text hnone (hcancel text hpieces)
  · rw [String.append_assoc, pieces_slash,
      pieces_segment (hend back hback)] at hpieces
    have hfront : pieces front = [] := by
      cases hcut : pieces front with
      | nil => rfl
      | cons first rest => simp [hcut] at hpieces
    rw [hfront] at hpieces
    simp only [List.nil_append, List.cons.injEq, and_true] at hpieces
    rw [pieces_slash, hfront, List.nil_append]
    exact hname back hback (hcancel back hpieces)

/-- A text without pieces adds nothing to the suffix that follows it. -/
theorem pieces_append_of_pieces_nil {text suffix : String}
    (hsuffix : IsSegment suffix) (htext : pieces text = []) :
    pieces (text ++ suffix) = [suffix] := by
  have hempty : ∀ back : String, '/' ∉ back.toList → pieces back = [] →
      back = "" := by
    intro back hback hpieces
    by_contra hne
    rw [pieces_segment ⟨hne, hback⟩] at hpieces
    cases hpieces
  rcases slash_not_mem_or_last_slash text with
    hnone | ⟨front, back, rfl, hback⟩
  · rw [hempty text hnone htext, String.empty_append, pieces_segment hsuffix]
  · rw [pieces_slash] at htext
    obtain ⟨hfront, hlast⟩ := List.append_eq_nil_iff.mp htext
    rw [hempty back hback hlast, String.append_empty, pieces_slash, hfront,
      pieces_segment hsuffix]
    rfl

/-- When a text and a suffix make up a piece that starts with a name, the
text has that name for its piece. -/
theorem pieces_of_pieces_append_segment
    {text suffix name : String} (hsuffix : IsSegment suffix)
    (hname : name ≠ "")
    (hpieces : pieces (text ++ suffix) = [name ++ suffix]) :
    pieces text = [name] := by
  rcases pieces_of_pieces_append hsuffix hpieces with htext | hnone
  · exact htext
  · rw [pieces_append_of_pieces_nil hsuffix hnone] at hpieces
    simp only [List.cons.injEq, and_true] at hpieces
    have hlist := congrArg String.toList hpieces
    rw [String.toList_append] at hlist
    have hnil : name.toList = [] := List.self_eq_append_left.mp hlist
    exact absurd (String.toList_injective hnil) hname

theorem IsSegment.append {front back : String}
    (hfront : IsSegment front) (hback : '/' ∉ back.toList) :
    IsSegment (front ++ back) := by
  refine ⟨?_, ?_⟩
  · intro hempty
    apply hfront.1
    have hlist : front.toList ++ back.toList = [] := by
      rw [← String.toList_append, hempty]
      rfl
    exact String.toList_injective (List.append_eq_nil_iff.mp hlist).1
  · rw [String.toList_append, List.mem_append]
    rintro (hmem | hmem)
    · exact hfront.2 hmem
    · exact hback hmem

end PathTree
