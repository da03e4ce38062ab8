import FoliumApp.AsyncProgram

/-!
# Actions that run without interruption

While the other agents do nothing, an agent that acts and is answered does
what its handler does when it is run on its own.  So what is known about a
handler on its own holds of the machine, from any configuration the agent is
idle in, and a sequence of actions is as good as a sequence of handlers.
-/

namespace AsyncProgram

open CallSequences

/-! ## Where a program ends -/

namespace Async

variable {Op : Type} {Ans : Op → Type} {Err α β : Type} {Oracle State : Type}

/-- The program ends in the state, after so many requests. -/
def EndsIn (exec : (op : Op) → Oracle → State → Except Err (Ans op) × State)
    (program : Async Op Ans Err α) (oracle : ℕ → Oracle) (state : State)
    (requests : ℕ) (final : State) : Prop :=
  (run exec program oracle state).2 = final ∧
    awaited exec program oracle state = requests

/-- The program returns the value, in the state, after so many requests. -/
def Returns (exec : (op : Op) → Oracle → State → Except Err (Ans op) × State)
    (program : Async Op Ans Err α) (oracle : ℕ → Oracle) (state : State)
    (requests : ℕ) (value : α) (final : State) : Prop :=
  run exec program oracle state = (.ok value, final) ∧
    awaited exec program oracle state = requests

variable {exec : (op : Op) → Oracle → State → Except Err (Ans op) × State}
  {oracle : ℕ → Oracle} {state final : State} {requests : ℕ}

theorem Returns.endsIn {program : Async Op Ans Err α} {value : α}
    (hreturns : Returns exec program oracle state requests value final) :
    EndsIn exec program oracle state requests final :=
  ⟨congrArg Prod.snd hreturns.1, hreturns.2⟩

theorem returns_await {op : Op}
    {next : Except Err (Ans op) → Async Op Ans Err α} {value : α} :
    Returns exec (.await op next) oracle state (requests + 1) value final ↔
      Returns exec (next (exec op (oracle 0) state).1)
        (fun index => oracle (index + 1)) (exec op (oracle 0) state).2
        requests value final := by
  unfold Returns
  simp only [run, awaited, Nat.add_right_cancel_iff]

theorem Returns.bind {program : Async Op Ans Err β}
    {next : β → Async Op Ans Err α} {given : β} {value : α} {middle : State}
    {first : ℕ}
    (hreturns : Returns exec program oracle state first given middle)
    (hnext : Returns exec (next given) (fun index => oracle (index + first))
      middle requests value final) :
    Returns exec (program >>= next) oracle state (first + requests) value
      final := by
  induction program generalizing oracle state first with
  | done result =>
      obtain ⟨hrun, rfl⟩ := hreturns
      cases hrun
      change Returns exec (next given) oracle _ (0 + requests) value final
      rw [Nat.zero_add]
      exact hnext
  | raise error =>
      cases hreturns.1
  | await op rest ih =>
      obtain ⟨later, rfl⟩ : ∃ later, first = later + 1 :=
        ⟨_, hreturns.2.symm⟩
      rw [await_bind, Nat.add_right_comm]
      apply returns_await.mpr
      apply ih _ (returns_await.mp hreturns)
      simpa only [Nat.add_assoc] using hnext

theorem endsIn_await {op : Op}
    {next : Except Err (Ans op) → Async Op Ans Err α} :
    EndsIn exec (.await op next) oracle state (requests + 1) final ↔
      EndsIn exec (next (exec op (oracle 0) state).1)
        (fun index => oracle (index + 1)) (exec op (oracle 0) state).2
        requests final := by
  unfold EndsIn
  simp only [run, awaited, Nat.add_right_cancel_iff]

end Async

/-! ## One agent at work -/

section Solo

variable {Agent : Type} {Op : Type} {Ans : Op → Type}
variable {Err Act Oracle Shared Local : Type}

/-- Answers to the next requests of an agent. -/
def resumes (agent : Agent) :
    ℕ → (ℕ → Oracle) → List (Event Agent Act Oracle)
  | 0, _ => []
  | requests + 1, oracle =>
      .resume agent (oracle 0) ::
        resumes agent requests fun index => oracle (index + 1)

/-- Actions of one agent, each with the number of its requests, on answers
that follow each other. -/
def sitting (agent : Agent) :
    (ℕ → Oracle) → List (Act × ℕ) → List (Event Agent Act Oracle)
  | _, [] => []
  | oracle, (action, requests) :: rest =>
      .act agent action ::
        (resumes agent requests oracle ++
          sitting agent (fun index => oracle (index + requests)) rest)

variable [DecidableEq Agent]

/-- The agent has gone on to another state, and nothing else has changed. -/
def Config.withState (config : Config Agent Op Ans Err Act Shared Local)
    (agent : Agent) (state : Shared × Local) :
    Config Agent Op Ans Err Act Shared Local :=
  { config with
    shared := state.1
    locals := Function.update config.locals agent state.2 }

namespace Machine

variable {machine : Machine Op Ans Err Act Oracle Shared Local}
  {config : Config Agent Op Ans Err Act Shared Local} {agent : Agent}
  {action : Act} {program : Async Op Ans Err Unit}

variable (machine) in
/-- A request served to an agent on its own. -/
def alone (op : Op) (oracle : Oracle) (state : Shared × Local) :
    Except Err (Ans op) × Shared × Local :=
  machine.exec op oracle state.1 state.2

theorem withState_self (hidle : config.tasks agent = none) :
    { config.withState agent (config.shared, config.locals agent) with
      tasks := Function.update config.tasks agent none } = config := by
  have htasks : Function.update config.tasks agent none = config.tasks := by
    rw [← hidle]
    exact Function.update_eq_self _ _
  simp [Config.withState, htasks]

/-- Once its requests are answered, a handler has done what it does on its
own. -/
theorem run_resumes (htask : config.tasks agent = settle action program)
    {oracle : ℕ → Oracle} {requests : ℕ} {final : Shared × Local}
    (hends : Async.EndsIn machine.alone program oracle
      (config.shared, config.locals agent) requests final) :
    machine.run config (resumes agent requests oracle) =
      some { config.withState agent final with
        tasks := Function.update config.tasks agent none } := by
  induction program generalizing config oracle requests with
  | done value =>
      obtain ⟨rfl, rfl⟩ := hends
      exact congrArg some (withState_self htask).symm
  | raise error =>
      obtain ⟨rfl, rfl⟩ := hends
      exact congrArg some (withState_self htask).symm
  | await op next ih =>
      obtain ⟨rest, rfl⟩ : ∃ rest, requests = rest + 1 :=
        ⟨_, hends.2.symm⟩
      have hmoves : machine.Moves config (.resume agent (oracle 0)) _ :=
        .resume htask
      have hrest := Async.endsIn_await.mp hends
      refine (run_cons hmoves.step _).trans ?_
      refine (ih _ (Function.update_self _ _ _) ?_).trans ?_
      · simp only [Function.update_self]
        exact hrest
      · simp [Config.withState]

/-- An action of an idle agent, run to its end. -/
theorem run_uninterrupted (hidle : config.tasks agent = none)
    (hstart : machine.start action (config.locals agent) = some program)
    {oracle : ℕ → Oracle} {requests : ℕ} {final : Shared × Local}
    (hends : Async.EndsIn machine.alone program oracle
      (config.shared, config.locals agent) requests final) :
    machine.run config
        (.act agent action :: resumes agent requests oracle) =
      some (config.withState agent final) := by
  have hmoves : machine.Moves config (.act agent action) _ :=
    .act hidle hstart
  have hresumes : machine.run
      { config with
        tasks := Function.update config.tasks agent (settle action program) }
      (resumes agent requests oracle) = _ :=
    run_resumes (Function.update_self _ _ _) hends
  refine (run_cons hmoves.step _).trans (hresumes.trans ?_)
  have htasks : Function.update config.tasks agent none = config.tasks := by
    rw [← hidle]
    exact Function.update_eq_self _ _
  simp [Config.withState, htasks]

variable (machine) in
/-- The actions take an agent on its own from one state to another. -/
inductive Sits : (ℕ → Oracle) → Shared × Local → List (Act × ℕ) →
    Shared × Local → Prop where
  | nil {oracle : ℕ → Oracle} {state : Shared × Local} :
      Sits oracle state [] state
  | cons {oracle : ℕ → Oracle} {state after final : Shared × Local}
      {action : Act} {program : Async Op Ans Err Unit} {requests : ℕ}
      {rest : List (Act × ℕ)}
      (hstart : machine.start action state.2 = some program)
      (hends : Async.EndsIn machine.alone program oracle state requests
        after)
      (hrest : Sits (fun index => oracle (index + requests)) after rest
        final) :
      Sits oracle state ((action, requests) :: rest) final

theorem Sits.append {oracle : ℕ → Oracle}
    {state middle final : Shared × Local} {actions later : List (Act × ℕ)}
    (hsits : machine.Sits oracle state actions middle)
    (hlater : ∀ shift,
      machine.Sits (fun index => oracle (index + shift)) middle later
        final) :
    machine.Sits oracle state (actions ++ later) final := by
  induction hsits with
  | nil => exact hlater 0
  | cons hstart hends hrest ih =>
      refine .cons hstart hends (ih ?_)
      intro shift
      simpa only [Nat.add_assoc] using hlater (shift + _)

/-- The machine follows an agent that is idle and on its own. -/
theorem Sits.run {oracle : ℕ → Oracle} {state final : Shared × Local}
    {actions : List (Act × ℕ)}
    (hsits : machine.Sits oracle state actions final)
    (hidle : config.tasks agent = none) (hshared : config.shared = state.1)
    (hlocal : config.locals agent = state.2) :
    machine.run config (sitting agent oracle actions) =
      some (config.withState agent final) := by
  induction hsits generalizing config with
  | @nil oracle state =>
      have hsame : config.withState agent state = config := by
        simp [Config.withState, ← hshared, ← hlocal]
      rw [hsame]
      rfl
  | @cons oracle state after final action program requests rest hstart hends
      hrest ih =>
      rw [← hlocal] at hstart
      have hfirst : machine.run config
          (.act agent action :: resumes agent requests oracle) =
            some (config.withState agent after) := by
        apply run_uninterrupted hidle hstart
        rw [hshared, hlocal]
        exact hends
      have hothers : machine.run (config.withState agent after)
          (sitting agent (fun index => oracle (index + requests)) rest) =
            some ((config.withState agent after).withState agent final) :=
        ih hidle rfl (Function.update_self _ _ _)
      have hsame : (config.withState agent after).withState agent final =
          config.withState agent final := by
        simp [Config.withState]
      rw [hsame] at hothers
      rw [sitting, ← List.cons_append]
      refine (run_append _ _ _ _).trans ?_
      exact (congrArg (Option.bind · _) hfirst).trans hothers

end Machine

end Solo

end AsyncProgram
