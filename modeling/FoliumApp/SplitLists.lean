import Mathlib.Data.List.Basic
import Mathlib.Tactic

/-!
# Lists cut at a separator

A list is cut at the first occurrence of a mark, or at every occurrence of a
separator.  No part has the separator, the first part is empty when the list
is or begins with the separator, and the parts behind it are not empty
exactly if every separator is followed by something else.
-/

namespace SplitLists

variable {α : Type} [DecidableEq α]

/-! ## Around the first mark -/

def beforeFirst (mark : α) (items : List α) : List α :=
  items.takeWhile (· ≠ mark)

def afterFirst (mark : α) (items : List α) : List α :=
  (items.dropWhile (· ≠ mark)).tail

section Around

variable {mark : α} {front : List α} (back : List α)

omit [DecidableEq α] in
theorem ne_of_mem_of_not_mem (hfront : mark ∉ front) :
    ∀ item ∈ front, item ≠ mark := by
  rintro item hmem rfl
  exact hfront hmem

theorem beforeFirst_append (hfront : mark ∉ front) :
    beforeFirst mark (front ++ mark :: back) = front := by
  have hall : ∀ item ∈ front, decide (item ≠ mark) = true := by
    intro item hmem
    exact decide_eq_true (ne_of_mem_of_not_mem hfront item hmem)
  unfold beforeFirst
  rw [List.takeWhile_append_of_pos hall]
  simp

theorem afterFirst_append (hfront : mark ∉ front) :
    afterFirst mark (front ++ mark :: back) = back := by
  have hall : ∀ item ∈ front, decide (item ≠ mark) = true := by
    intro item hmem
    exact decide_eq_true (ne_of_mem_of_not_mem hfront item hmem)
  unfold afterFirst
  rw [List.dropWhile_append_of_pos hall]
  simp

end Around

/-! ## The parts between separators -/

/-- Every separator is followed by an item that is none. -/
def Separated (sep : α) (items : List α) : Prop :=
  ∀ front back, items = front ++ sep :: back →
    ∃ item rest, back = item :: rest ∧ item ≠ sep

section Parts

variable {sep : α}

omit [DecidableEq α] in
theorem separated_cons_iff (item : α) (rest : List α) :
    Separated sep (item :: rest) ↔
      (item = sep → ∃ next others, rest = next :: others ∧ next ≠ sep) ∧
        Separated sep rest := by
  constructor
  · intro hseparated
    refine ⟨?_, ?_⟩
    · rintro rfl
      exact hseparated [] rest rfl
    · intro front back hrest
      exact hseparated (item :: front) back (by rw [hrest, List.cons_append])
  · rintro ⟨hfirst, hrest⟩ front back hitems
    cases front with
    | nil =>
        rw [List.nil_append, List.cons.injEq] at hitems
        obtain ⟨hsep, rfl⟩ := hitems
        exact hfirst hsep
    | cons first front =>
        rw [List.cons_append, List.cons.injEq] at hitems
        exact hrest front back hitems.2

theorem splitOn_cons_self (rest : List α) :
    (sep :: rest).splitOn sep = [] :: rest.splitOn sep := by
  rw [List.splitOn_cons_eq_if_modifyHead, if_pos (by simp)]

theorem splitOn_cons_of_ne {item : α} (hne : item ≠ sep) (rest : List α) :
    ∃ first others, rest.splitOn sep = first :: others ∧
      (item :: rest).splitOn sep = (item :: first) :: others := by
  cases hparts : rest.splitOn sep with
  | nil => exact absurd hparts (List.splitOn_ne_nil sep rest)
  | cons first others =>
      refine ⟨first, others, rfl, ?_⟩
      rw [List.splitOn_cons_eq_if_modifyHead, if_neg (by simpa using hne),
        hparts]
      rfl

theorem not_mem_of_mem_splitOn {items part : List α}
    (hmem : part ∈ items.splitOn sep) : sep ∉ part := by
  induction items generalizing part with
  | nil =>
      rcases List.mem_singleton.mp hmem with rfl
      exact List.not_mem_nil
  | cons item rest ih =>
      by_cases hsep : item = sep
      · subst item
        rw [splitOn_cons_self] at hmem
        rcases List.mem_cons.mp hmem with rfl | hmem
        · exact List.not_mem_nil
        · exact ih hmem
      · obtain ⟨first, others, hrest, hcut⟩ := splitOn_cons_of_ne hsep rest
        rw [hcut] at hmem
        rw [hrest] at ih
        rcases List.mem_cons.mp hmem with rfl | hmem
        · have hfirst : sep ∉ first := ih List.mem_cons_self
          rw [List.mem_cons, not_or]
          exact ⟨Ne.symm hsep, hfirst⟩
        · exact ih (List.mem_cons_of_mem first hmem)

/-- The first part is not empty exactly if the list begins with an item that
is no separator. -/
theorem splitOn_first (sep : α) (items : List α) :
    ∃ first others, items.splitOn sep = first :: others ∧
      (first ≠ [] ↔ ∃ item rest, items = item :: rest ∧ item ≠ sep) := by
  cases items with
  | nil => exact ⟨[], [], rfl, by simp⟩
  | cons item rest =>
      by_cases hsep : item = sep
      · subst item
        refine ⟨[], rest.splitOn sep, splitOn_cons_self rest, ?_⟩
        simp
      · obtain ⟨first, others, -, hcut⟩ := splitOn_cons_of_ne hsep rest
        refine ⟨item :: first, others, hcut, ?_⟩
        simp [hsep]

/-- The parts behind the first one are not empty exactly if the separators
separate. -/
theorem tail_parts_iff (sep : α) (items : List α) :
    (∀ part ∈ (items.splitOn sep).tail, part ≠ []) ↔
      Separated sep items := by
  induction items with
  | nil =>
      apply iff_of_true
      · intro part hmem
        cases hmem
      · intro front back hnil
        simp at hnil
  | cons item rest ih =>
      rw [separated_cons_iff, ← ih]
      by_cases hsep : item = sep
      · subst item
        obtain ⟨first, others, hcut, hfirst⟩ := splitOn_first sep rest
        rw [splitOn_cons_self, List.tail_cons, ← hfirst, hcut,
          List.forall_mem_cons]
        simp
      · obtain ⟨first, others, hrest, hcut⟩ := splitOn_cons_of_ne hsep rest
        rw [hcut, hrest]
        simp [hsep]

end Parts

end SplitLists
