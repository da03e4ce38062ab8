import Mathlib.Tactic

/-!
# Two stores that hold the same items

An item is put into the first store and then into the second, and taken from
the first and then from the second; between the two an agent is under way
with it.  Agents share the stores and work at once.  If no agent starts to
put an item that another has been told to take, and no agent is told to take
one that another is putting, then the stores differ only in items that some
agent is under way with, in the direction it is working in.

Agents are told to take an item by its name, which several items may share.
-/

namespace PairedStores

/-- How far an agent is: about to put an item into the first store, between
the two stores with it, or having taken it from the first one only. -/
inductive Stage (Item : Type) where
  | quiet
  | putting (item : Item)
  | halfway (item : Item)
  | taking (item : Item)

def Stage.Puts {Item : Type} (item : Item) : Stage Item → Prop
  | .putting other => other = item
  | .halfway other => other = item
  | _ => False

structure State (Agent Item Name : Type) where
  first : Item → Prop
  second : Item → Prop
  stage : Agent → Stage Item
  told : Agent → Option Name

section Protocol

variable {Agent Item Name : Type} {name : Item → Name}

/-! ## Changes -/

/-- What one agent may do.  The stores are described item by item. -/
inductive Change (name : Item → Name) (agent : Agent)
    (before after : State Agent Item Name) : Prop where
  | wait (hbefore : before.stage agent = .quiet)
      (hafter : after.stage agent = .quiet)
      (hfirst : ∀ item, after.first item ↔ before.first item)
      (hsecond : ∀ item, after.second item ↔ before.second item)
      (htold : ∀ target, after.told agent = some target →
        before.told agent = some target ∨
          ∀ other item, (before.stage other).Puts item →
            name item ≠ target)
  | start (item : Item) (hbefore : before.stage agent = .quiet)
      (hafter : after.stage agent = .putting item)
      (hfirst : ∀ item, after.first item ↔ before.first item)
      (hsecond : ∀ item, after.second item ↔ before.second item)
      (htold : ∀ target, after.told agent = some target →
        before.told agent = some target)
      (hfree : ∀ other, before.told other ≠ some (name item))
  | putFirst (item : Item) (hbefore : before.stage agent = .putting item)
      (hafter : after.stage agent = .halfway item)
      (hfirst : ∀ other, after.first other ↔
        other = item ∨ before.first other)
      (hsecond : ∀ item, after.second item ↔ before.second item)
      (htold : ∀ target, after.told agent = some target →
        before.told agent = some target)
  | carry (item : Item) (hbefore : before.stage agent = .halfway item)
      (hafter : after.stage agent = .halfway item)
      (hfirst : ∀ item, after.first item ↔ before.first item)
      (hsecond : ∀ item, after.second item ↔ before.second item)
      (htold : ∀ target, after.told agent = some target →
        before.told agent = some target)
  | putSecond (item : Item) (hbefore : before.stage agent = .halfway item)
      (hafter : after.stage agent = .quiet)
      (hfirst : ∀ item, after.first item ↔ before.first item)
      (hsecond : ∀ other, after.second other ↔
        other = item ∨ before.second other)
      (htold : ∀ target, after.told agent = some target →
        before.told agent = some target)
  | takeFirst (item : Item) (hbefore : before.stage agent = .quiet)
      (hafter : after.stage agent = .taking item)
      (hfirst : ∀ other, after.first other ↔
        other ≠ item ∧ before.first other)
      (hsecond : ∀ item, after.second item ↔ before.second item)
      (htold : before.told agent = some (name item))
      (hkept : after.told agent = some (name item))
  | takeSecond (item : Item) (hbefore : before.stage agent = .taking item)
      (hafter : after.stage agent = .quiet)
      (hfirst : ∀ item, after.first item ↔ before.first item)
      (hsecond : ∀ other, after.second other ↔
        other ≠ item ∧ before.second other)
      (htold : ∀ target, after.told agent = some target →
        before.told agent = some target)

/-- The agent alone is concerned. -/
structure Frame (agent : Agent) (before after : State Agent Item Name) :
    Prop where
  stage : ∀ other, other ≠ agent → after.stage other = before.stage other
  told : ∀ other, other ≠ agent → after.told other = before.told other

/-! ## The invariant -/

structure InStep (name : Item → Name) (state : State Agent Item Name) :
    Prop where
  apart : ∀ agent other item, (state.stage agent).Puts item →
    state.told other ≠ some (name item)
  told : ∀ agent item, state.stage agent = .taking item →
    state.told agent = some (name item)
  present : ∀ agent item, state.stage agent = .halfway item →
    state.first item
  absent : ∀ agent item, state.stage agent = .taking item →
    ¬ state.first item
  firstOnly : ∀ item, state.first item →
    state.second item ∨ ∃ agent, state.stage agent = .halfway item
  secondOnly : ∀ item, state.second item →
    state.first item ∨ ∃ agent, state.stage agent = .taking item

variable {agent : Agent} {before after : State Agent Item Name}

/-- An item newly put was free, and then nobody is told anything new. -/
theorem Change.puts_of (hchange : Change name agent before after)
    {item : Item} (hputs : (after.stage agent).Puts item) :
    (before.stage agent).Puts item ∨
      (∀ other, before.told other ≠ some (name item)) ∧
        ∀ target, after.told agent = some target →
          before.told agent = some target := by
  cases hchange with
  | wait hbefore hafter =>
      rw [hafter] at hputs
      exact hputs.elim
  | start other hbefore hafter hfirst hsecond htold hfree =>
      rw [hafter] at hputs
      have heq : other = item := hputs
      subst heq
      exact Or.inr ⟨hfree, htold⟩
  | putFirst other hbefore hafter =>
      rw [hafter] at hputs
      rw [hbefore]
      exact Or.inl hputs
  | carry other hbefore hafter =>
      rw [hafter] at hputs
      rw [hbefore]
      exact Or.inl hputs
  | putSecond other hbefore hafter =>
      rw [hafter] at hputs
      exact hputs.elim
  | takeFirst other hbefore hafter =>
      rw [hafter] at hputs
      exact hputs.elim
  | takeSecond other hbefore hafter =>
      rw [hafter] at hputs
      exact hputs.elim

/-- A target newly told is the name of no item that is being put. -/
theorem Change.told_of (hchange : Change name agent before after)
    {target : Name} (htold : after.told agent = some target) :
    before.told agent = some target ∨
      ∀ other item, (before.stage other).Puts item → name item ≠ target := by
  cases hchange with
  | wait hbefore hafter hfirst hsecond hnew => exact hnew target htold
  | start item hbefore hafter hfirst hsecond hold =>
      exact Or.inl (hold target htold)
  | putFirst item hbefore hafter hfirst hsecond hold =>
      exact Or.inl (hold target htold)
  | carry item hbefore hafter hfirst hsecond hold =>
      exact Or.inl (hold target htold)
  | putSecond item hbefore hafter hfirst hsecond hold =>
      exact Or.inl (hold target htold)
  | takeFirst item hbefore hafter hfirst hsecond hold hkept =>
      rw [hkept] at htold
      exact Or.inl (hold.trans htold)
  | takeSecond item hbefore hafter hfirst hsecond hold =>
      exact Or.inl (hold target htold)

theorem InStep.apart_change (hinv : InStep name before)
    (hframe : Frame agent before after)
    (hchange : Change name agent before after) {left right : Agent}
    {item : Item} (hputs : (after.stage left).Puts item) :
    after.told right ≠ some (name item) := by
  intro htold
  have hleft : (before.stage left).Puts item ∨
      (∀ other, before.told other ≠ some (name item)) ∧
        ∀ target, after.told agent = some target →
          before.told agent = some target := by
    by_cases heq : left = agent
    · subst heq
      exact hchange.puts_of hputs
    · rw [hframe.stage left heq] at hputs
      exact Or.inl hputs
  have hright : before.told right = some (name item) ∨
      right = agent ∧ ∀ other item', (before.stage other).Puts item' →
        name item' ≠ name item := by
    by_cases heq : right = agent
    · subst heq
      exact (hchange.told_of htold).imp_right (fun hnew => ⟨rfl, hnew⟩)
    · rw [hframe.told right heq] at htold
      exact Or.inl htold
  rcases hleft with hold | ⟨hfree, hkept⟩
  · rcases hright with htold' | ⟨-, hnew⟩
    · exact hinv.apart left right item hold htold'
    · exact hnew left item hold rfl
  · rcases hright with htold' | ⟨rfl, -⟩
    · exact hfree right htold'
    · exact hfree right (hkept _ htold)

theorem InStep.told_change (hinv : InStep name before)
    (hframe : Frame agent before after)
    (hchange : Change name agent before after) {other : Agent} {item : Item}
    (hstage : after.stage other = .taking item) :
    after.told other = some (name item) := by
  by_cases heq : other = agent
  · subst heq
    cases hchange with
    | takeFirst taken hbefore hafter hfirst hsecond htold hkept =>
        rw [hafter, Stage.taking.injEq] at hstage
        subst hstage
        exact hkept
    | _ => grind
  · rw [hframe.stage other heq] at hstage
    rw [hframe.told other heq]
    exact hinv.told other item hstage

/-- Halfway items stay in the first store: they are taken by nobody. -/
theorem InStep.present_change (hinv : InStep name before)
    (hframe : Frame agent before after)
    (hchange : Change name agent before after) {other : Agent} {item : Item}
    (hstage : after.stage other = .halfway item) : after.first item := by
  by_cases heq : other = agent
  · subst heq
    cases hchange with
    | putFirst put hbefore hafter hfirst =>
        rw [hafter, Stage.halfway.injEq] at hstage
        exact (hfirst item).mpr (Or.inl hstage.symm)
    | carry carried hbefore hafter hfirst =>
        rw [hafter, Stage.halfway.injEq] at hstage
        subst hstage
        exact (hfirst carried).mpr (hinv.present other carried hbefore)
    | _ => grind
  · rw [hframe.stage other heq] at hstage
    have hpresent := hinv.present other item hstage
    cases hchange with
    | takeFirst taken hbefore hafter hfirst hsecond htold =>
        rw [hfirst]
        refine ⟨?_, hpresent⟩
        rintro rfl
        have hputs : (before.stage other).Puts item := by
          rw [hstage]
          rfl
        exact hinv.apart other agent item hputs htold
    | putFirst put hbefore hafter hfirst =>
        exact (hfirst item).mpr (Or.inr hpresent)
    | _ => grind

/-- Items being taken do not come back: they are put by nobody. -/
theorem InStep.absent_change (hinv : InStep name before)
    (hframe : Frame agent before after)
    (hchange : Change name agent before after) {other : Agent} {item : Item}
    (hstage : after.stage other = .taking item) : ¬ after.first item := by
  by_cases heq : other = agent
  · subst heq
    cases hchange with
    | takeFirst taken hbefore hafter hfirst =>
        rw [hafter, Stage.taking.injEq] at hstage
        intro hpresent
        exact ((hfirst item).mp hpresent).1 hstage.symm
    | _ => grind
  · rw [hframe.stage other heq] at hstage
    have habsent := hinv.absent other item hstage
    cases hchange with
    | putFirst put hbefore hafter hfirst =>
        rw [hfirst]
        rintro (rfl | hpresent)
        · have hputs : (before.stage agent).Puts item := by
            rw [hbefore]
            rfl
          exact hinv.apart agent other item hputs
            (hinv.told other item hstage)
        · exact habsent hpresent
    | takeFirst taken hbefore hafter hfirst =>
        intro hpresent
        exact habsent ((hfirst item).mp hpresent).2
    | _ => grind

theorem Frame.exists_stage (hframe : Frame agent before after)
    {stage : Stage Item}
    (hagent : before.stage agent = stage → after.stage agent = stage)
    (hbefore : ∃ other, before.stage other = stage) :
    ∃ other, after.stage other = stage := by
  obtain ⟨other, hother⟩ := hbefore
  by_cases heq : other = agent
  · subst heq
    exact ⟨other, hagent hother⟩
  · exact ⟨other, (hframe.stage other heq).trans hother⟩

theorem InStep.firstOnly_change (hinv : InStep name before)
    (hframe : Frame agent before after)
    (hchange : Change name agent before after) {item : Item}
    (hitem : after.first item) :
    after.second item ∨ ∃ other, after.stage other = .halfway item := by
  -- an item that was there before stays or is carried on
  have hkeep (hfirst : before.first item)
      (hsecond : before.second item → after.second item)
      (hagent : before.stage agent = .halfway item →
        after.stage agent = .halfway item) :
      after.second item ∨ ∃ other, after.stage other = .halfway item :=
    (hinv.firstOnly item hfirst).imp hsecond (hframe.exists_stage hagent)
  cases hchange with
  | wait hbefore hafter hfirst hsecond =>
      exact hkeep ((hfirst item).mp hitem) (hsecond item).mpr
        (by simp [hbefore])
  | start new hbefore hafter hfirst hsecond =>
      exact hkeep ((hfirst item).mp hitem) (hsecond item).mpr
        (by simp [hbefore])
  | putFirst put hbefore hafter hfirst hsecond =>
      rcases (hfirst item).mp hitem with rfl | hold
      · exact Or.inr ⟨agent, hafter⟩
      · exact hkeep hold (hsecond item).mpr (by simp [hbefore])
  | carry carried hbefore hafter hfirst hsecond =>
      exact hkeep ((hfirst item).mp hitem) (hsecond item).mpr
        (by simp [hbefore, hafter])
  | putSecond put hbefore hafter hfirst hsecond =>
      by_cases heq : item = put
      · exact Or.inl ((hsecond item).mpr (Or.inl heq))
      · refine hkeep ((hfirst item).mp hitem)
          (fun hold => (hsecond item).mpr (Or.inr hold)) ?_
        intro hstage
        rw [hbefore, Stage.halfway.injEq] at hstage
        exact absurd hstage.symm heq
  | takeFirst taken hbefore hafter hfirst hsecond =>
      exact hkeep ((hfirst item).mp hitem).2 (hsecond item).mpr
        (by simp [hbefore])
  | takeSecond taken hbefore hafter hfirst hsecond =>
      have hold := (hfirst item).mp hitem
      refine hkeep hold (fun hsec => (hsecond item).mpr ⟨?_, hsec⟩)
        (by simp [hbefore])
      rintro rfl
      exact hinv.absent agent item hbefore hold

theorem InStep.secondOnly_change (hinv : InStep name before)
    (hframe : Frame agent before after)
    (hchange : Change name agent before after) {item : Item}
    (hitem : after.second item) :
    after.first item ∨ ∃ other, after.stage other = .taking item := by
  have hkeep (hsecond : before.second item)
      (hfirst : before.first item → after.first item)
      (hagent : before.stage agent = .taking item →
        after.stage agent = .taking item) :
      after.first item ∨ ∃ other, after.stage other = .taking item :=
    (hinv.secondOnly item hsecond).imp hfirst (hframe.exists_stage hagent)
  cases hchange with
  | wait hbefore hafter hfirst hsecond =>
      exact hkeep ((hsecond item).mp hitem) (hfirst item).mpr
        (by simp [hbefore])
  | start new hbefore hafter hfirst hsecond =>
      exact hkeep ((hsecond item).mp hitem) (hfirst item).mpr
        (by simp [hbefore])
  | putFirst put hbefore hafter hfirst hsecond =>
      exact hkeep ((hsecond item).mp hitem)
        (fun hold => (hfirst item).mpr (Or.inr hold)) (by simp [hbefore])
  | carry carried hbefore hafter hfirst hsecond =>
      exact hkeep ((hsecond item).mp hitem) (hfirst item).mpr
        (by simp [hbefore])
  | putSecond put hbefore hafter hfirst hsecond =>
      rcases (hsecond item).mp hitem with rfl | hold
      · exact Or.inl ((hfirst item).mpr (hinv.present agent item hbefore))
      · exact hkeep hold (hfirst item).mpr (by simp [hbefore])
  | takeFirst taken hbefore hafter hfirst hsecond =>
      by_cases heq : item = taken
      · subst heq
        exact Or.inr ⟨agent, hafter⟩
      · exact hkeep ((hsecond item).mp hitem)
          (fun hold => (hfirst item).mpr ⟨heq, hold⟩) (by simp [hbefore])
  | takeSecond taken hbefore hafter hfirst hsecond =>
      obtain ⟨hne, hold⟩ := (hsecond item).mp hitem
      refine hkeep hold (hfirst item).mpr ?_
      intro hstage
      rw [hbefore, Stage.taking.injEq] at hstage
      exact absurd hstage.symm hne

/-- A change of one agent keeps the stores in step. -/
theorem InStep.change (hinv : InStep name before)
    (hframe : Frame agent before after)
    (hchange : Change name agent before after) : InStep name after :=
  { apart := fun _ _ _ => hinv.apart_change hframe hchange
    told := fun _ _ => hinv.told_change hframe hchange
    present := fun _ _ => hinv.present_change hframe hchange
    absent := fun _ _ => hinv.absent_change hframe hchange
    firstOnly := fun _ => hinv.firstOnly_change hframe hchange
    secondOnly := fun _ => hinv.secondOnly_change hframe hchange }

/-- Nothing is stored and nobody has been told anything. -/
def State.initial (Agent Item Name : Type) : State Agent Item Name :=
  { first := fun _ => False, second := fun _ => False
    stage := fun _ => .quiet, told := fun _ => none }

theorem inStep_initial (name : Item → Name) :
    InStep name (State.initial Agent Item Name) := by
  constructor <;> simp [State.initial, Stage.Puts]

end Protocol

end PairedStores
