import FoliumApp.Screens

/-!
# What the e-mail check accepts

The pattern of the registration form is anchored at the start of the text
and not at its end, so a match says nothing about the text behind it.  What
it accepts is a local part, an at sign, a label, a dot and a letter, with
anything after that.
-/

namespace FoliumApp

open SplitLists

/-! ## Anchored matching -/

theorem matchesFrom_one_iff (accepts : Char → Bool)
    (items : List PatternItem) (text : List Char) :
    matchesFrom (.one accepts :: items) text = true ↔
      ∃ c rest, text = c :: rest ∧ accepts c = true ∧
        matchesFrom items rest = true := by
  cases text with
  | nil => simp [matchesFrom]
  | cons c rest => simp [matchesFrom]

theorem matchesFrom_many_iff (accepts : Char → Bool)
    (items : List PatternItem) (text : List Char) :
    matchesFrom (.many accepts :: items) text = true ↔
      ∃ matched rest, text = matched ++ rest ∧ matched ≠ [] ∧
        (∀ c ∈ matched, accepts c = true) ∧
          matchesFrom items rest = true := by
  induction text with
  | nil =>
      constructor
      · intro hmatches
        cases hmatches
      · rintro ⟨matched, rest, htext, hne, -, -⟩
        exact absurd (List.append_eq_nil_iff.mp htext.symm).1 hne
  | cons c back ih =>
      simp only [matchesFrom, Bool.and_eq_true, Bool.or_eq_true]
      rw [ih]
      constructor
      · rintro ⟨hc, hback | ⟨matched, rest, rfl, -, hall, hrest⟩⟩
        · refine ⟨[c], back, rfl, by simp, ?_, hback⟩
          simpa using hc
        · refine ⟨c :: matched, rest, rfl, by simp, ?_, hrest⟩
          intro other hmem
          rcases List.mem_cons.mp hmem with rfl | hmem
          · exact hc
          · exact hall other hmem
      · rintro ⟨matched, rest, htext, hne, hall, hrest⟩
        cases matched with
        | nil => exact absurd rfl hne
        | cons first others =>
            rw [List.cons_append, List.cons.injEq] at htext
            obtain ⟨rfl, rfl⟩ := htext
            refine ⟨hall c List.mem_cons_self, ?_⟩
            cases others with
            | nil => exact Or.inl hrest
            | cons second more =>
                refine Or.inr ⟨second :: more, rest, rfl, by simp, ?_, hrest⟩
                intro other hmem
                exact hall other (List.mem_cons_of_mem c hmem)

/-! ## Letters and digits -/

/-- A letter, a digit or a dot. -/
def PlainChar (c : Char) : Prop :=
  isLetter c = true ∨ isDigit c = true ∨ c = '.'

theorem PlainChar.code {c : Char} (hplain : PlainChar c) :
    46 ≤ c.val.toNat ∧ c.val.toNat ≤ 122 := by
  simp only [PlainChar, isLetter, isDigit, Bool.or_eq_true,
    Bool.and_eq_true, decide_eq_true_eq, Char.le_def,
    UInt32.le_iff_toNat_le] at hplain
  rcases hplain with (⟨hlow, hhigh⟩ | ⟨hlow, hhigh⟩) | ⟨hlow, hhigh⟩ | rfl
  · have ha : 'a'.val.toNat = 97 := rfl
    have hz : 'z'.val.toNat = 122 := rfl
    omega
  · have ha : 'A'.val.toNat = 65 := rfl
    have hz : 'Z'.val.toNat = 90 := rfl
    omega
  · have hzero : '0'.val.toNat = 48 := rfl
    have hnine : '9'.val.toNat = 57 := rfl
    omega
  · decide

theorem PlainChar.not_whitespace {c : Char} (hplain : PlainChar c) :
    whitespace c = false := by
  have hcode := hplain.code
  unfold whitespace
  simp only [Bool.or_eq_false_iff, Bool.and_eq_false_iff,
    decide_eq_false_iff_not, UInt32.le_iff_toNat_le, ← UInt32.toNat_inj,
    UInt32.reduceToNat]
  omega

theorem PlainChar.not_at : ¬ PlainChar '@' := by
  unfold PlainChar
  decide

/-! ## Well-formed and accepted texts -/

/-- One at sign and no white space; something before it, and behind it at
least two labels, none of them empty. -/
structure WellFormedEmail (text : List Char) : Prop where
  oneAt : text.count '@' = 1
  noSpace : ∀ c ∈ text, whitespace c = false
  beforeAt : beforeFirst '@' text ≠ []
  twoLabels : 2 ≤ ((afterFirst '@' text).splitOn '.').length
  nonempty : ∀ label ∈ (afterFirst '@' text).splitOn '.', label ≠ []

/-- What follows the first dot after the first at sign. -/
def emailEnding (text : List Char) : List Char :=
  afterFirst '.' (afterFirst '@' text)

/-- The parts the pattern finds; of the ending it looks at one letter. -/
structure EmailParts (text localPart label ending : List Char) : Prop where
  text_eq : text = localPart ++ '@' :: (label ++ '.' :: ending)
  local_ne : localPart ≠ []
  local_chars : ∀ c ∈ localPart, PlainChar c
  label_ne : label ≠ []
  label_chars : ∀ c ∈ label, isLetter c = true ∨ isDigit c = true
  letter : ∃ c rest, ending = c :: rest ∧ isLetter c = true

theorem accepted_iff_parts (text : List Char) :
    matchesFrom SimpleRegister.emailPattern text = true ↔
      ∃ localPart label ending,
        EmailParts text localPart label ending := by
  unfold SimpleRegister.emailPattern
  simp only [matchesFrom_many_iff, matchesFrom_one_iff, Bool.or_eq_true,
    decide_eq_true_eq]
  constructor
  · rintro ⟨localPart, behind, rfl, hlocal, hlocalChars, c, afterAt, rfl,
      rfl, label, afterLabel, rfl, hlabel, hlabelChars, d, ending, rfl, rfl,
      letters, rest, rfl, hletters, hletterChars, -⟩
    refine ⟨localPart, label, letters ++ rest, rfl, hlocal, ?_, hlabel,
      hlabelChars, ?_⟩
    · intro c hmem
      exact or_assoc.mp (hlocalChars c hmem)
    · cases letters with
      | nil => exact absurd rfl hletters
      | cons first others =>
          exact ⟨first, others ++ rest, rfl,
            hletterChars first List.mem_cons_self⟩
  · rintro ⟨localPart, label, ending, htext, hlocal, hlocalChars, hlabel,
      hlabelChars, c, rest, hending, hletter⟩
    refine ⟨localPart, _, htext, hlocal, ?_, '@', _, rfl, rfl, label, _, rfl,
      hlabel, hlabelChars, '.', ending, rfl, rfl, [c], rest, ?_, by simp, ?_,
      by cases rest <;> rfl⟩
    · intro c hmem
      exact or_assoc.mpr (hlocalChars c hmem)
    · rw [hending]
      rfl
    · simpa using hletter

/-! ## The parts of an accepted text -/

section Parts

variable {text localPart label ending : List Char}

theorem EmailParts.label_plain
    (hparts : EmailParts text localPart label ending) :
    ∀ c ∈ label, PlainChar c := by
  intro c hmem
  rcases hparts.label_chars c hmem with hletter | hdigit
  · exact Or.inl hletter
  · exact Or.inr (Or.inl hdigit)

theorem EmailParts.dot_not_mem_label
    (hparts : EmailParts text localPart label ending) : '.' ∉ label := by
  intro hmem
  have hneither : ¬ (isLetter '.' = true ∨ isDigit '.' = true) := by decide
  exact hneither (hparts.label_chars '.' hmem)

theorem EmailParts.at_not_mem_local
    (hparts : EmailParts text localPart label ending) :
    '@' ∉ localPart :=
  fun hmem => PlainChar.not_at (hparts.local_chars '@' hmem)

theorem EmailParts.at_not_mem_label
    (hparts : EmailParts text localPart label ending) : '@' ∉ label :=
  fun hmem => PlainChar.not_at (hparts.label_plain '@' hmem)

theorem EmailParts.beforeAt
    (hparts : EmailParts text localPart label ending) :
    beforeFirst '@' text = localPart := by
  rw [hparts.text_eq]
  exact beforeFirst_append _ hparts.at_not_mem_local

theorem EmailParts.afterAt
    (hparts : EmailParts text localPart label ending) :
    afterFirst '@' text = label ++ '.' :: ending := by
  rw [hparts.text_eq]
  exact afterFirst_append _ hparts.at_not_mem_local

theorem EmailParts.emailEnding_eq
    (hparts : EmailParts text localPart label ending) :
    emailEnding text = ending := by
  unfold emailEnding
  rw [hparts.afterAt]
  exact afterFirst_append _ hparts.dot_not_mem_label

theorem EmailParts.count_at
    (hparts : EmailParts text localPart label ending) :
    text.count '@' = 1 + ending.count '@' := by
  have hlocal := List.count_eq_zero.mpr hparts.at_not_mem_local
  have hlabel := List.count_eq_zero.mpr hparts.at_not_mem_label
  rw [hparts.text_eq, List.count_append, List.count_cons_self,
    List.count_append, hlocal, hlabel,
    List.count_cons_of_ne (by decide)]
  omega

theorem EmailParts.noSpace_iff
    (hparts : EmailParts text localPart label ending) :
    (∀ c ∈ text, whitespace c = false) ↔
      ∀ c ∈ ending, whitespace c = false := by
  have hlocal : ∀ c ∈ localPart, whitespace c = false := by
    intro c hmem
    exact PlainChar.not_whitespace (hparts.local_chars c hmem)
  have hlabel : ∀ c ∈ label, whitespace c = false := by
    intro c hmem
    exact PlainChar.not_whitespace (hparts.label_plain c hmem)
  have hat : whitespace '@' = false := by decide
  have hdot : whitespace '.' = false := by decide
  rw [hparts.text_eq]
  simp only [List.forall_mem_append, List.forall_mem_cons]
  constructor
  · rintro ⟨-, -, -, -, hending⟩
    exact hending
  · intro hending
    exact ⟨hlocal, hat, hlabel, hdot, hending⟩

theorem EmailParts.splitOn_eq
    (hparts : EmailParts text localPart label ending) :
    (afterFirst '@' text).splitOn '.' = label :: ending.splitOn '.' := by
  rw [hparts.afterAt]
  exact List.splitOn_append_cons_self_of_not_mem hparts.dot_not_mem_label _

/-- The labels are not empty exactly if the dots of the ending separate: the
ending begins with a letter. -/
theorem EmailParts.nonempty_iff
    (hparts : EmailParts text localPart label ending) :
    (∀ part ∈ (afterFirst '@' text).splitOn '.', part ≠ []) ↔
      Separated '.' ending := by
  obtain ⟨c, rest, hending, hletter⟩ := hparts.letter
  obtain ⟨first, others, hsplit, hfirst⟩ := splitOn_first '.' ending
  have hne : first ≠ [] := by
    rw [hfirst]
    refine ⟨c, rest, hending, ?_⟩
    rintro rfl
    exact absurd hletter (by decide)
  rw [hparts.splitOn_eq, ← tail_parts_iff, hsplit, List.forall_mem_cons,
    List.forall_mem_cons, List.tail_cons]
  constructor
  · rintro ⟨-, -, hothers⟩
    exact hothers
  · intro hothers
    exact ⟨hparts.label_ne, hne, hothers⟩

end Parts

/-- An accepted text is a well-formed address exactly if what follows the
first dot of its domain has no at sign, no white space, and no dot that is
the last character or is followed by another dot. -/
theorem accepted_email_wellFormed_iff {email : String}
    (haccepted : matchesFrom SimpleRegister.emailPattern email.toList =
      true) :
    WellFormedEmail email.toList ↔
      '@' ∉ emailEnding email.toList ∧
        (∀ c ∈ emailEnding email.toList, whitespace c = false) ∧
          Separated '.' (emailEnding email.toList) := by
  obtain ⟨localPart, label, ending, hparts⟩ :=
    (accepted_iff_parts _).mp haccepted
  have hcount := hparts.count_at
  rw [hparts.emailEnding_eq, ← hparts.noSpace_iff, ← hparts.nonempty_iff]
  constructor
  · intro hwell
    refine ⟨?_, hwell.noSpace, hwell.nonempty⟩
    apply List.count_eq_zero.mp
    have hone := hwell.oneAt
    omega
  · rintro ⟨hat, hspace, hnonempty⟩
    have hzero := List.count_eq_zero.mpr hat
    refine ⟨by omega, hspace, ?_, ?_, hnonempty⟩
    · rw [hparts.beforeAt]
      exact hparts.local_ne
    · obtain ⟨first, others, hsplit, -⟩ := splitOn_first '.' ending
      rw [hparts.splitOn_eq, hsplit]
      simp

theorem accepted_email_wellFormed_ana :
    WellFormedEmail "ana@folium.work".toList ↔
      '@' ∉ emailEnding "ana@folium.work".toList ∧
        (∀ c ∈ emailEnding "ana@folium.work".toList,
          whitespace c = false) ∧
          Separated '.' (emailEnding "ana@folium.work".toList) :=
  accepted_email_wellFormed_iff (by decide)

/-- Two at signs, a space and an empty label, and the check lets it pass. -/
theorem trailing_text_accepted :
    matchesFrom SimpleRegister.emailPattern
        "ana@folium.work e @..".toList = true ∧
      ¬ WellFormedEmail "ana@folium.work e @..".toList := by
  refine ⟨by decide, ?_⟩
  intro hwell
  have hone := hwell.oneAt
  exact absurd hone (by decide)

end FoliumApp
