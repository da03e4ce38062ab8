import Mathlib.Data.List.Basic
import Mathlib.Tactic

/-!
# Sequences of calls on a state

Calls are made one after the other.  When one call keeps an invariant exactly
under a condition on the state before it, a whole sequence keeps the
invariant all along exactly when every one of its calls meets the condition.

The last section is about steps that are not possible in every state, and
about the states reached when each step is allowed where it is taken.
-/

namespace CallSequences

variable {State Call : Type}

def after (next : State → Call → State) (initial : State)
    (calls : List Call) : State :=
  calls.foldl next initial

/-- The invariant holds before, between and after the calls. -/
def HoldsAlong (next : State → Call → State) (inv : State → Prop)
    (initial : State) (calls : List Call) : Prop :=
  ∀ front, front <+: calls → inv (after next initial front)

def EachMeets (next : State → Call → State) (condition : State → Call → Prop)
    (initial : State) (calls : List Call) : Prop :=
  ∀ front call, front ++ [call] <+: calls →
    condition (after next initial front) call

variable {next : State → Call → State} {initial : State}

@[simp] theorem after_concat (front : List Call) (call : Call) :
    after next initial (front ++ [call]) =
      next (after next initial front) call := by
  simp [after]

theorem holdsAlong_of_preserved
    {inv : State → Prop} (hinitial : inv initial)
    (hnext : ∀ state call, inv state → inv (next state call))
    (calls : List Call) :
    HoldsAlong next inv initial calls := by
  intro front hprefix
  induction front using List.reverseRecOn with
  | nil => exact hinitial
  | append_singleton front call ih =>
      rw [after_concat]
      apply hnext
      exact ih ((List.prefix_append front [call]).trans hprefix)

/-- The rule for an invariant that one call keeps exactly under a condition.
A second invariant, kept by every call, may be used for the step. -/
theorem holdsAlong_iff_eachMeets
    (support : State → Prop) {inv : State → Prop}
    {condition : State → Call → Prop}
    (hsupport : support initial) (hinv : inv initial)
    (hnext : ∀ state call, support state → support (next state call))
    (hstep : ∀ state call, support state → inv state →
      (inv (next state call) ↔ condition state call))
    (calls : List Call) :
    HoldsAlong next inv initial calls ↔
      EachMeets next condition initial calls := by
  have hall := holdsAlong_of_preserved hsupport hnext
  constructor
  · intro halong front call hprefix
    have hfront : front <+: calls :=
      (List.prefix_append front [call]).trans hprefix
    have hkept := halong (front ++ [call]) hprefix
    rw [after_concat] at hkept
    exact (hstep _ call (hall calls front hfront)
      (halong front hfront)).mp hkept
  · intro hmeets front hprefix
    induction front using List.reverseRecOn with
    | nil => exact hinv
    | append_singleton front call ih =>
        have hfront : front <+: calls :=
          (List.prefix_append front [call]).trans hprefix
        rw [after_concat]
        exact (hstep _ call (hall calls front hfront) (ih hfront)).mpr
          (hmeets front call hprefix)

theorem eachMeets_nil {condition : State → Call → Prop} :
    EachMeets next condition initial [] := by
  intro front call hprefix
  have hnil := List.prefix_nil.mp hprefix
  simp at hnil

theorem eachMeets_concat {condition : State → Call → Prop}
    {calls : List Call} {call : Call} :
    EachMeets next condition initial (calls ++ [call]) ↔
      EachMeets next condition initial calls ∧
        condition (after next initial calls) call := by
  constructor
  · intro hmeets
    constructor
    · intro front first hbefore
      exact hmeets front first
        (hbefore.trans (List.prefix_append calls [call]))
    · exact hmeets calls call (List.prefix_refl _)
  · rintro ⟨hcalls, hcall⟩ front first hfront
    rcases List.prefix_concat_iff.mp hfront with heq | hbefore
    · obtain ⟨rfl, hfirst⟩ := List.append_inj' heq rfl
      cases hfirst
      exact hcall
    · exact hcalls front first hbefore

/-- Calls are followed by an abstract state when each of them is, under a
condition that all of them meet. -/
theorem after_simulates {Abstract : Type}
    {advance : Abstract → Call → Abstract}
    {condition : State → Call → Prop} {rel : State → Abstract → Prop}
    (hnext : ∀ state abstract call, rel state abstract →
      condition state call →
        rel (next state call) (advance abstract call))
    {abstract : Abstract} (hinitial : rel initial abstract)
    (calls : List Call)
    (hmeets : EachMeets next condition initial calls) :
    rel (after next initial calls) (after advance abstract calls) := by
  induction calls using List.reverseRecOn with
  | nil => exact hinitial
  | append_singleton front call ih =>
      obtain ⟨hfront, hcall⟩ := eachMeets_concat.mp hmeets
      rw [after_concat, after_concat]
      exact hnext _ _ call (ih hfront) hcall

/-! ## Steps that may be impossible -/

section Steps

variable {Event : Type}

/-- The states of the runs all of whose steps are allowed. -/
inductive Reaches (step : State → Event → Option State)
    (allowed : State → Event → Prop) (initial : State) : State → Prop where
  | refl : Reaches step allowed initial initial
  | next {state state' : State} {event : Event} :
      Reaches step allowed initial state → allowed state event →
        step state event = some state' →
          Reaches step allowed initial state'

def run (step : State → Event → Option State) (state : State) :
    List Event → Option State
  | [] => some state
  | event :: rest =>
      match step state event with
      | none => none
      | some next => run step next rest

theorem run_cons {step : State → Event → Option State}
    {state middle : State} {event : Event}
    (hstep : step state event = some middle) (rest : List Event) :
    run step state (event :: rest) = run step middle rest := by
  simp only [run, hstep]

theorem run_append (step : State → Event → Option State) (state : State)
    (events later : List Event) :
    run step state (events ++ later) =
      (run step state events).bind fun middle => run step middle later := by
  induction events generalizing state with
  | nil => rfl
  | cons event rest ih =>
      simp only [List.cons_append, run]
      cases step state event with
      | none => rfl
      | some next => exact ih next

def EachAllowed (step : State → Event → Option State)
    (allowed : State → Event → Prop) (state : State) : List Event → Prop
  | [] => True
  | event :: rest =>
      allowed state event ∧
        match step state event with
        | none => True
        | some next => EachAllowed step allowed next rest

instance decidableEachAllowed {step : State → Event → Option State}
    {allowed : State → Event → Prop}
    [∀ state event, Decidable (allowed state event)] :
    ∀ (state : State) (events : List Event),
      Decidable (EachAllowed step allowed state events)
  | _, [] => inferInstanceAs (Decidable True)
  | state, event :: rest =>
      have : Decidable (match step state event with
          | none => True
          | some next => EachAllowed step allowed next rest) :=
        match step state event with
        | none => inferInstanceAs (Decidable True)
        | some next => decidableEachAllowed next rest
      inferInstanceAs (Decidable (_ ∧ _))

theorem eachAllowed_of_forall {step : State → Event → Option State}
    {allowed : State → Event → Prop}
    (hallowed : ∀ state event, allowed state event)
    (state : State) (events : List Event) :
    EachAllowed step allowed state events := by
  induction events generalizing state with
  | nil => trivial
  | cons event rest ih =>
      refine ⟨hallowed state event, ?_⟩
      cases step state event with
      | none => trivial
      | some next => exact ih next

theorem eachAllowed_of_forall_mem {step : State → Event → Option State}
    {good : Event → Prop} {events : List Event}
    (hgood : ∀ event ∈ events, good event) (state : State) :
    EachAllowed step (fun _ event => good event) state events := by
  induction events generalizing state with
  | nil => trivial
  | cons event rest ih =>
      refine ⟨hgood event List.mem_cons_self, ?_⟩
      cases step state event with
      | none => trivial
      | some next =>
          apply ih
          intro other hmem
          exact hgood other (List.mem_cons_of_mem _ hmem)

theorem Reaches.run {step : State → Event → Option State}
    {allowed : State → Event → Prop} {state state' : State}
    (hreach : Reaches step allowed initial state) (events : List Event)
    (hallowed : EachAllowed step allowed state events)
    (hrun : CallSequences.run step state events = some state') :
    Reaches step allowed initial state' := by
  induction events generalizing state with
  | nil =>
      simp only [CallSequences.run, Option.some.injEq] at hrun
      subst state'
      exact hreach
  | cons event rest ih =>
      simp only [CallSequences.run] at hrun
      cases hstep : step state event with
      | none => simp [hstep] at hrun
      | some middle =>
          rw [hstep] at hrun
          simp only [EachAllowed, hstep] at hallowed
          exact ih (hreach.next hallowed.1 hstep) hallowed.2 hrun

theorem Reaches.invariant {step : State → Event → Option State}
    {allowed : State → Event → Prop} {inv : State → Prop}
    (hinitial : inv initial)
    (hstep : ∀ state event state', inv state → allowed state event →
      step state event = some state' → inv state')
    {state : State} (hreach : Reaches step allowed initial state) :
    inv state := by
  induction hreach with
  | refl => exact hinitial
  | next _ hallowed hnext ih => exact hstep _ _ _ ih hallowed hnext

theorem Reaches.trans {step : State → Event → Option State}
    {allowed : State → Event → Prop} {state state' : State}
    (hreach : Reaches step allowed initial state)
    (hlater : Reaches step allowed state state') :
    Reaches step allowed initial state' := by
  induction hlater with
  | refl => exact hreach
  | next _ hallowed hstep ih => exact ih.next hallowed hstep

theorem Reaches.mono {step : State → Event → Option State}
    {allowed allowed' : State → Event → Prop}
    (hallowed : ∀ state event, allowed state event → allowed' state event)
    {state : State} (hreach : Reaches step allowed initial state) :
    Reaches step allowed' initial state := by
  induction hreach with
  | refl => exact .refl
  | next _ hevent hnext ih => exact ih.next (hallowed _ _ hevent) hnext

/-- Steps are made from and to states that meet the invariant. -/
theorem Reaches.within {step : State → Event → Option State}
    {allowed : State → Event → Prop} {inv : State → Prop}
    (hinitial : inv initial)
    (hstep : ∀ state event state', inv state → allowed state event →
      step state event = some state' → inv state')
    {state : State} (hreach : Reaches step allowed initial state) :
    Reaches step
      (fun state event => allowed state event ∧ inv state ∧
        ∀ state', step state event = some state' → inv state')
      initial state := by
  induction hreach with
  | refl => exact .refl
  | next hbefore hallowed hnext ih =>
      have hinv := hbefore.invariant hinitial hstep
      refine ih.next ⟨hallowed, hinv, ?_⟩ hnext
      intro state' hstate'
      exact hstep _ _ _ hinv hallowed hstate'

/-- What a state contains only grows, so the end of a run bounds what every
state before it contains. -/
theorem Reaches.bounded {Item : Type} {step : State → Event → Option State}
    {allowed : State → Event → Prop} {contains : State → Item → Prop}
    (hgrows : ∀ state event state', step state event = some state' →
      ∀ item, contains state item → contains state' item)
    {state : State} (hreach : Reaches step allowed initial state)
    {bound : Item → Prop}
    (hbound : ∀ item, contains state item → bound item) :
    Reaches step
      (fun state event => allowed state event ∧
        ∀ state', step state event = some state' →
          ∀ item, contains state' item → bound item)
      initial state := by
  induction hreach with
  | refl => exact .refl
  | @next state state' event _ hallowed hstep ih =>
      have hbefore : ∀ item, contains state item → bound item := by
        intro item hitem
        exact hbound item (hgrows _ _ _ hstep item hitem)
      refine .next (ih hbefore) ⟨hallowed, ?_⟩ hstep
      intro other hother
      rw [hstep, Option.some.injEq] at hother
      subst hother
      exact hbound

/-- A run is followed by an abstract one when each of its steps is. -/
theorem run_simulates {Abstract : Type}
    {step : State → Event → Option State}
    {allowed : State → Event → Prop}
    {advance : Abstract → Event → Abstract}
    {rel : State → Abstract → Prop}
    (hstep : ∀ state abstract event state', rel state abstract →
      allowed state event → step state event = some state' →
        rel state' (advance abstract event))
    {state state' : State} {abstract : Abstract}
    (hrel : rel state abstract) (events : List Event)
    (hallowed : EachAllowed step allowed state events)
    (hrun : CallSequences.run step state events = some state') :
    rel state' (after advance abstract events) := by
  induction events generalizing state abstract with
  | nil =>
      simp only [CallSequences.run, Option.some.injEq] at hrun
      subst state'
      exact hrel
  | cons event rest ih =>
      simp only [CallSequences.run] at hrun
      cases hnext : step state event with
      | none => simp [hnext] at hrun
      | some middle =>
          rw [hnext] at hrun
          simp only [EachAllowed, hnext] at hallowed
          exact ih (hstep _ _ _ _ hrel hallowed.1 hnext) hallowed.2 hrun

/-- The invariant holds in every state a run comes through. -/
def HoldsThroughout (step : State → Event → Option State)
    (inv : State → Prop) (state : State) : List Event → Prop
  | [] => inv state
  | event :: rest =>
      inv state ∧
        match step state event with
        | none => True
        | some next => HoldsThroughout step inv next rest

/-- The rule for an invariant that one step keeps exactly under a condition,
when keeping it also needs a stronger one. -/
theorem holdsThroughout_iff_eachAllowed
    {step : State → Event → Option State}
    {allowed condition : State → Event → Prop} {inv strong : State → Prop}
    (hweaker : ∀ state, strong state → inv state)
    (hkept : ∀ state event state', strong state → allowed state event →
      step state event = some state' → condition state event →
        strong state')
    (hneeded : ∀ state event state', strong state → allowed state event →
      step state event = some state' → inv state' → condition state event)
    {state state' : State} (hstrong : strong state) (events : List Event)
    (hallowed : EachAllowed step allowed state events)
    (hrun : CallSequences.run step state events = some state') :
    HoldsThroughout step inv state events ↔
      EachAllowed step condition state events := by
  induction events generalizing state with
  | nil => exact iff_of_true (hweaker state hstrong) trivial
  | cons event rest ih =>
      simp only [CallSequences.run] at hrun
      cases hnext : step state event with
      | none => simp [hnext] at hrun
      | some middle =>
          rw [hnext] at hrun
          simp only [EachAllowed, hnext] at hallowed
          simp only [HoldsThroughout, EachAllowed, hnext]
          have hrest : condition state event →
              (HoldsThroughout step inv middle rest ↔
                EachAllowed step condition middle rest) := by
            intro hmeets
            exact ih (hkept _ _ _ hstrong hallowed.1 hnext hmeets)
              hallowed.2 hrun
          constructor
          · intro hholds
            have hinv : inv middle := by
              cases rest with
              | nil => exact hholds.2
              | cons _ _ => exact hholds.2.1
            have hmeets := hneeded _ _ _ hstrong hallowed.1 hnext hinv
            exact ⟨hmeets, (hrest hmeets).mp hholds.2⟩
          · intro hall
            exact ⟨hweaker state hstrong, (hrest hall.1).mpr hall.2⟩

/-- What is noted of the steps of a run, in their order. -/
def noted {Entry : Type} (step : State → Event → Option State)
    (note : State → Event → Option Entry) (state : State) :
    List Event → List Entry
  | [] => []
  | event :: rest =>
      match step state event with
      | none => []
      | some next => (note state event).toList ++ noted step note next rest

/-- An invariant of the state together with what was noted on the way. -/
theorem run_noted {Entry : Type} {step : State → Event → Option State}
    {note : State → Event → Option Entry}
    {inv : State → List Entry → Prop}
    (hstep : ∀ state entries event state', inv state entries →
      step state event = some state' →
        inv state' (entries ++ (note state event).toList))
    {state state' : State} {entries : List Entry}
    (hinv : inv state entries) (events : List Event)
    (hrun : CallSequences.run step state events = some state') :
    inv state' (entries ++ noted step note state events) := by
  induction events generalizing state entries with
  | nil =>
      simp only [CallSequences.run, Option.some.injEq] at hrun
      subst state'
      rw [noted, List.append_nil]
      exact hinv
  | cons event rest ih =>
      simp only [CallSequences.run] at hrun
      cases hnext : step state event with
      | none => simp [hnext] at hrun
      | some middle =>
          rw [hnext] at hrun
          simp only [noted, hnext]
          rw [← List.append_assoc]
          exact ih (hstep _ _ _ _ hinv hnext) hrun

/-- The steps with a log of them beside the state, which they do not see. -/
def logging {Log : Type} (step : State → Event → Option State)
    (write : Log → State → Event → Log) (entry : State × Log)
    (event : Event) : Option (State × Log) :=
  (step entry.1 event).map fun next =>
    (next, write entry.2 entry.1 event)

theorem step_of_logging {Log : Type} {step : State → Event → Option State}
    {write : Log → State → Event → Log} {entry entry' : State × Log}
    {event : Event} (hstep : logging step write entry event = some entry') :
    step entry.1 event = some entry'.1 ∧
      entry'.2 = write entry.2 entry.1 event := by
  obtain ⟨next, hnext, rfl⟩ := Option.map_eq_some_iff.mp hstep
  exact ⟨hnext, rfl⟩

end Steps

end CallSequences
