import FoliumApp.CallSequences
import Mathlib.Logic.Function.Basic

/-!
# Sequential programs that await requests

A program asks an environment for one request after another and continues
with each answer; a failed request is an exception raised at its await.
`Safe` is the rely/guarantee reading of such a program: every request it
makes is guaranteed, whatever answers the rely allows.

The second half lets any number of agents run programs over one shared
state.  Each agent handles one action at a time, and the requests of
different agents interleave freely.  Two rules are proved for all runs: an
invariant rule, and a rule by which an agent with a private part of the
shared state cannot notice the others.
-/

namespace AsyncProgram

inductive Async (Op : Type) (Ans : Op → Type) (Err : Type) (α : Type) where
  | done (value : α)
  | raise (error : Err)
  | await (op : Op) (next : Except Err (Ans op) → Async Op Ans Err α)

section Programs

variable {Op : Type} {Ans : Op → Type} {Err α β : Type}

namespace Async

def bind : Async Op Ans Err α → (α → Async Op Ans Err β) →
    Async Op Ans Err β
  | .done value, next => next value
  | .raise error, _ => .raise error
  | .await op rest, next => .await op (fun answer => (rest answer).bind next)

def handle : Async Op Ans Err α → (Err → Async Op Ans Err α) →
    Async Op Ans Err α
  | .done value, _ => .done value
  | .raise error, handler => handler error
  | .await op rest, handler =>
      .await op (fun answer => (rest answer).handle handler)

instance : Monad (Async Op Ans Err) where
  pure := .done
  bind := bind

instance : MonadExcept Err (Async Op Ans Err) where
  throw := .raise
  tryCatch := handle

def ofExcept : Except Err α → Async Op Ans Err α
  | .ok value => .done value
  | .error error => .raise error

/-- Make one request; its failure is raised where it is awaited. -/
def request (op : Op) : Async Op Ans Err (Ans op) :=
  .await op ofExcept

def pending : Async Op Ans Err α → Option Op
  | .await op _ => some op
  | _ => none

@[simp] theorem pure_eq_done (value : α) :
    (pure value : Async Op Ans Err α) = .done value := rfl

@[simp] theorem done_bind (value : α) (next : α → Async Op Ans Err β) :
    (Async.done value >>= next) = next value := rfl

@[simp] theorem raise_bind (error : Err) (next : α → Async Op Ans Err β) :
    (Async.raise error >>= next) = .raise error := rfl

@[simp] theorem await_bind (op : Op)
    (rest : Except Err (Ans op) → Async Op Ans Err α)
    (next : α → Async Op Ans Err β) :
    (Async.await op rest >>= next) =
      .await op (fun answer => rest answer >>= next) := rfl

@[simp] theorem request_bind (op : Op)
    (next : Ans op → Async Op Ans Err β) :
    (request op >>= next) =
      .await op (fun answer => ofExcept answer >>= next) := rfl

@[simp] theorem done_handle (value : α)
    (handler : Err → Async Op Ans Err α) :
    tryCatch (Async.done value) handler = .done value := rfl

@[simp] theorem raise_handle (error : Err)
    (handler : Err → Async Op Ans Err α) :
    tryCatch (Async.raise error) handler = handler error := rfl

@[simp] theorem await_handle (op : Op)
    (rest : Except Err (Ans op) → Async Op Ans Err α)
    (handler : Err → Async Op Ans Err α) :
    tryCatch (Async.await op rest) handler =
      .await op (fun answer => tryCatch (rest answer) handler) := rfl

/-! ## Running a program on its own -/

/-- Run a program to its end.  The oracle decides, request by request, what
the environment leaves open. -/
def run {Oracle State : Type}
    (exec : (op : Op) → Oracle → State → Except Err (Ans op) × State) :
    Async Op Ans Err α → (ℕ → Oracle) → State → Except Err α × State
  | .done value, _, state => (.ok value, state)
  | .raise error, _, state => (.error error, state)
  | .await op next, oracle, state =>
      run exec (next (exec op (oracle 0) state).1)
        (fun index => oracle (index + 1)) (exec op (oracle 0) state).2

def awaited {Oracle State : Type}
    (exec : (op : Op) → Oracle → State → Except Err (Ans op) × State) :
    Async Op Ans Err α → (ℕ → Oracle) → State → ℕ
  | .await op next, oracle, state =>
      awaited exec (next (exec op (oracle 0) state).1)
        (fun index => oracle (index + 1)) (exec op (oracle 0) state).2 + 1
  | _, _, _ => 0

/-- A continuation runs from where the program ended, on what is left of the
oracle. -/
theorem run_bind {Oracle State : Type}
    (exec : (op : Op) → Oracle → State → Except Err (Ans op) × State)
    (program : Async Op Ans Err α) (next : α → Async Op Ans Err β)
    (oracle : ℕ → Oracle) (state : State) :
    run exec (program >>= next) oracle state =
      match run exec program oracle state with
      | (.ok value, state') =>
          run exec (next value)
            (fun index => oracle (index + awaited exec program oracle state))
            state'
      | (.error error, state') => (.error error, state') := by
  induction program generalizing oracle state with
  | done value => rfl
  | raise error => rfl
  | await op rest ih =>
      simp only [await_bind, run, awaited]
      rw [ih]
      simp only [Nat.add_assoc]

/-- A handler runs only when the program raised. -/
theorem run_tryCatch {Oracle State : Type}
    (exec : (op : Op) → Oracle → State → Except Err (Ans op) × State)
    (program : Async Op Ans Err α) (handler : Err → Async Op Ans Err α)
    (oracle : ℕ → Oracle) (state : State) :
    run exec (tryCatch program handler) oracle state =
      match run exec program oracle state with
      | (.ok value, state') => (.ok value, state')
      | (.error error, state') =>
          run exec (handler error)
            (fun index => oracle (index + awaited exec program oracle state))
            state' := by
  induction program generalizing oracle state with
  | done value => rfl
  | raise error => rfl
  | await op rest ih =>
      simp only [await_handle, run, awaited]
      rw [ih]
      simp only [Nat.add_assoc]

/-! ## Rely/guarantee reading of a program -/

variable {Local : Type}

/-- Every request made from a local state the rely allows is guaranteed, and
every end of the program, normal or exceptional, meets the postcondition. -/
def Safe (rely : Local → (op : Op) → Except Err (Ans op) → Local → Prop)
    (guar : Local → Op → Prop) (post : Except Err α → Local → Prop) :
    Async Op Ans Err α → Local → Prop
  | .done value, state => post (.ok value) state
  | .raise error, state => post (.error error) state
  | .await op next, state =>
      guar state op ∧
        ∀ answer state', rely state op answer state' →
          Safe rely guar post (next answer) state'

variable {rely : Local → (op : Op) → Except Err (Ans op) → Local → Prop}
  {guar : Local → Op → Prop}

def Then (rely : Local → (op : Op) → Except Err (Ans op) → Local → Prop)
    (guar : Local → Op → Prop) (post : Except Err β → Local → Prop)
    (next : α → Async Op Ans Err β) : Except Err α → Local → Prop
  | .ok value, state => Safe rely guar post (next value) state
  | .error error, state => post (.error error) state

def Else (rely : Local → (op : Op) → Except Err (Ans op) → Local → Prop)
    (guar : Local → Op → Prop) (post : Except Err α → Local → Prop)
    (handler : Err → Async Op Ans Err α) : Except Err α → Local → Prop
  | .ok value, state => post (.ok value) state
  | .error error, state => Safe rely guar post (handler error) state

@[simp] theorem safe_raise (post : Except Err α → Local → Prop)
    (error : Err) (state : Local) :
    Safe rely guar post (.raise error : Async Op Ans Err α) state ↔
      post (.error error) state := Iff.rfl

@[simp] theorem safe_ofExcept (post : Except Err α → Local → Prop)
    (result : Except Err α) (state : Local) :
    Safe rely guar post (ofExcept result : Async Op Ans Err α) state ↔
      post result state := by
  cases result <;> rfl

@[simp] theorem safe_request (op : Op)
    (post : Except Err (Ans op) → Local → Prop) (state : Local) :
    Safe rely guar post (request op) state ↔
      guar state op ∧
        ∀ answer state', rely state op answer state' →
          post answer state' := by
  simp [request, Safe]

@[simp] theorem safe_bind (post : Except Err β → Local → Prop)
    (program : Async Op Ans Err α) (next : α → Async Op Ans Err β)
    (state : Local) :
    Safe rely guar post (program >>= next) state ↔
      Safe rely guar (Then rely guar post next) program state := by
  induction program generalizing state with
  | done value => exact Iff.rfl
  | raise error => exact Iff.rfl
  | await op rest ih =>
      simp only [await_bind, Safe]
      refine and_congr_right fun _ => ?_
      exact forall_congr' fun answer => forall_congr' fun state' =>
        imp_congr_right fun _ => ih answer state'

@[simp] theorem safe_tryCatch (post : Except Err α → Local → Prop)
    (program : Async Op Ans Err α) (handler : Err → Async Op Ans Err α)
    (state : Local) :
    Safe rely guar post (tryCatch program handler) state ↔
      Safe rely guar (Else rely guar post handler) program state := by
  induction program generalizing state with
  | done value => exact Iff.rfl
  | raise error => exact Iff.rfl
  | await op rest ih =>
      simp only [await_handle, Safe]
      refine and_congr_right fun _ => ?_
      exact forall_congr' fun answer => forall_congr' fun state' =>
        imp_congr_right fun _ => ih answer state'

theorem Safe.mono {post post' : Except Err α → Local → Prop}
    (hpost : ∀ result state, post result state → post' result state)
    {program : Async Op Ans Err α} {state : Local}
    (hsafe : Safe rely guar post program state) :
    Safe rely guar post' program state := by
  induction program generalizing state with
  | done value => exact hpost _ _ hsafe
  | raise error => exact hpost _ _ hsafe
  | await op rest ih =>
      refine ⟨hsafe.1, ?_⟩
      intro answer state' hrely
      exact ih answer (hsafe.2 answer state' hrely)

/-- A safe program keeps whatever its guaranteed requests keep. -/
theorem Safe.keeping {guar' : Local → Op → Prop} {inv : Local → Prop}
    {post : Except Err α → Local → Prop}
    (hguar : ∀ state op, inv state → guar state op → guar' state op)
    (hkeeps : ∀ state op answer state', inv state → guar state op →
      rely state op answer state' → inv state')
    {program : Async Op Ans Err α} {state : Local}
    (hsafe : Safe rely guar post program state) (hinv : inv state) :
    Safe rely guar' (fun result next => post result next ∧ inv next)
      program state := by
  induction program generalizing state with
  | done value => exact ⟨hsafe, hinv⟩
  | raise error => exact ⟨hsafe, hinv⟩
  | await op rest ih =>
      refine ⟨hguar state op hinv hsafe.1, ?_⟩
      intro answer state' hrely
      exact ih answer (hsafe.2 answer state' hrely)
        (hkeeps state op answer state' hinv hsafe.1 hrely)

theorem Safe.then {post : Except Err α → Local → Prop}
    {post' : Except Err β → Local → Prop}
    {program : Async Op Ans Err α} {next : α → Async Op Ans Err β}
    {state : Local}
    (hsafe : Safe rely guar post program state)
    (hok : ∀ value state', post (.ok value) state' →
      Safe rely guar post' (next value) state')
    (herror : ∀ error state', post (.error error) state' →
      post' (.error error) state') :
    Safe rely guar post' (program >>= next) state := by
  rw [safe_bind]
  apply hsafe.mono
  intro result state' hresult
  cases result with
  | ok value => exact hok value state' hresult
  | error error => exact herror error state' hresult

/-! ## Programs that keep an invariant -/

/-- From every state of the invariant the program is safe and ends in the
invariant, and the values it ends with are as described. -/
def Keeps (rely : Local → (op : Op) → Except Err (Ans op) → Local → Prop)
    (guar : Local → Op → Prop) (inv : Local → Prop) (result : α → Prop)
    (program : Async Op Ans Err α) : Prop :=
  ∀ state, inv state →
    Safe rely guar
      (fun answer next =>
        inv next ∧ ∀ value, answer = .ok value → result value)
      program state

variable {inv : Local → Prop}

theorem keeps_ofExcept {result : α → Prop} {answer : Except Err α}
    (hanswer : ∀ value, answer = .ok value → result value) :
    Keeps rely guar inv result (ofExcept answer : Async Op Ans Err α) := by
  intro state hstate
  rw [safe_ofExcept]
  exact ⟨hstate, hanswer⟩

theorem keeps_ofExcept_any (answer : Except Err α) :
    Keeps rely guar inv (fun _ => True)
      (ofExcept answer : Async Op Ans Err α) :=
  keeps_ofExcept (fun _ _ => trivial)

theorem keeps_done {result : α → Prop} {value : α} (hvalue : result value) :
    Keeps rely guar inv result (.done value : Async Op Ans Err α) := by
  intro state hstate
  refine ⟨hstate, ?_⟩
  intro other heq
  cases heq
  exact hvalue

theorem keeps_request {op : Op} {result : Ans op → Prop}
    (hguar : ∀ state, inv state → guar state op)
    (hinv : ∀ state answer next, inv state → rely state op answer next →
      inv next ∧ ∀ value, answer = .ok value → result value) :
    Keeps rely guar inv result (request op) := by
  intro state hstate
  rw [safe_request]
  refine ⟨hguar state hstate, ?_⟩
  intro answer next hanswer
  exact hinv state answer next hstate hanswer

theorem Keeps.bind {middle : α → Prop} {result : β → Prop}
    {program : Async Op Ans Err α} {next : α → Async Op Ans Err β}
    (hprogram : Keeps rely guar inv middle program)
    (hnext : ∀ value, middle value →
      Keeps rely guar inv result (next value)) :
    Keeps rely guar inv result (program >>= next) := by
  intro state hstate
  apply (hprogram state hstate).then
  · intro value state' hvalue
    exact hnext value (hvalue.2 value rfl) state' hvalue.1
  · intro error state' herror
    refine ⟨herror.1, ?_⟩
    intro value heq
    cases heq

theorem Keeps.tryCatch {result : α → Prop}
    {program : Async Op Ans Err α} {handler : Err → Async Op Ans Err α}
    (hprogram : Keeps rely guar inv result program)
    (hhandler : ∀ error, Keeps rely guar inv result (handler error)) :
    Keeps rely guar inv result (MonadExcept.tryCatch program handler) := by
  intro state hstate
  rw [safe_tryCatch]
  apply (hprogram state hstate).mono
  intro answer state' hanswer
  cases answer with
  | ok value => exact hanswer
  | error error => exact hhandler error state' hanswer.1

theorem Keeps.ignore {result : α → Prop} {program : Async Op Ans Err α}
    (hprogram : Keeps rely guar inv result program) :
    Keeps rely guar inv (fun _ => True)
      (program >>= fun _ => (pure () : Async Op Ans Err Unit)) :=
  hprogram.bind (fun _ _ => keeps_done trivial)

/-- Whatever it is answered, the program makes requests of one kind. -/
abbrev AsksOnly (kind : Op → Prop) (program : Async Op Ans Err α) : Prop :=
  Keeps (fun (_ : Unit) _ _ _ => True) (fun _ op => kind op)
    (fun _ => True) (fun _ => True) program

theorem asksOnly_request {kind : Op → Prop} {op : Op} (hkind : kind op) :
    AsksOnly kind (request op : Async Op Ans Err (Ans op)) :=
  keeps_request (fun _ _ => hkind)
    (fun _ _ _ _ _ => ⟨trivial, fun _ _ => trivial⟩)

/-- A program keeps an invariant that each of its requests keeps. -/
theorem AsksOnly.keeps {kind : Op → Prop} {program : Async Op Ans Err α}
    (hasks : AsksOnly kind program)
    (hkeeps : ∀ op, kind op →
      Keeps rely guar inv (fun _ => True)
        (request op : Async Op Ans Err (Ans op))) :
    Keeps rely guar inv (fun _ => True) program := by
  intro state hstate
  have hsafe := hasks () trivial
  clear hasks
  induction program generalizing state with
  | done value => exact ⟨hstate, fun _ _ => trivial⟩
  | raise error => exact ⟨hstate, fun _ _ => trivial⟩
  | await op next ih =>
      obtain ⟨hkind, hnext⟩ := hsafe
      obtain ⟨hguar, hanswer⟩ :=
        (safe_request _ _ _).mp (hkeeps op hkind state hstate)
      refine ⟨hguar, ?_⟩
      intro answer state' hrely
      have hstate' : inv state' := (hanswer answer state' hrely).1
      exact ih answer state' hstate' (hnext answer () trivial)

end Async

end Programs

/-! ## Agents over a shared state -/

inductive Event (Agent Act Oracle : Type) where
  | act (agent : Agent) (action : Act)
  | resume (agent : Agent) (oracle : Oracle)
  | kill (agent : Agent)

def Event.agent {Agent Act Oracle : Type} : Event Agent Act Oracle → Agent
  | .act agent _ => agent
  | .resume agent _ => agent
  | .kill agent => agent

structure Machine (Op : Type) (Ans : Op → Type)
    (Err Act Oracle Shared Local : Type) where
  exec : (op : Op) → Oracle → Shared → Local →
    Except Err (Ans op) × Shared × Local
  start : Act → Local → Option (Async Op Ans Err Unit)
  reset : Local → Local

structure Config (Agent : Type) (Op : Type) (Ans : Op → Type)
    (Err Act Shared Local : Type) where
  shared : Shared
  locals : Agent → Local
  tasks : Agent → Option (Act × Async Op Ans Err Unit)

section Machines

variable {Agent : Type} {Op : Type} {Ans : Op → Type}
variable {Err Act Oracle Shared Local : Type}

/-- A handler that has ended, normally or by an uncaught exception, leaves
its agent idle. -/
def settle (action : Act) (program : Async Op Ans Err Unit) :
    Option (Act × Async Op Ans Err Unit) :=
  match program with
  | .await op next => some (action, .await op next)
  | _ => none

namespace Config

def pending (config : Config Agent Op Ans Err Act Shared Local)
    (agent : Agent) : Option (Act × Op) :=
  match config.tasks agent with
  | some (action, .await op _) => some (action, op)
  | _ => none

/-- An idle agent keeps its local invariant; a busy one is suspended in a
program which is safe and ends in the invariant. -/
def AgentInv
    (rely : Act → Local → (op : Op) → Except Err (Ans op) → Local → Prop)
    (guar : Agent → Local → Op → Prop) (inv : Agent → Local → Prop)
    (config : Config Agent Op Ans Err Act Shared Local)
    (agent : Agent) : Prop :=
  match config.tasks agent with
  | none => inv agent (config.locals agent)
  | some (action, program) =>
      Async.Safe (rely action) (guar agent) (fun _ => inv agent) program
        (config.locals agent)

theorem exists_task_of_pending
    {config : Config Agent Op Ans Err Act Shared Local} {agent : Agent}
    {action : Act} {op : Op}
    (hpending : config.pending agent = some (action, op)) :
    ∃ rest, config.tasks agent = some (action, .await op rest) := by
  unfold Config.pending at hpending
  split at hpending
  next found op' rest htask =>
    simp only [Option.some.injEq, Prod.mk.injEq] at hpending
    obtain ⟨rfl, rfl⟩ := hpending
    exact ⟨rest, htask⟩
  next => cases hpending

/-- The same with a guarantee that may depend on the action handled. -/
def TaskInv
    (rely : Act → Local → (op : Op) → Except Err (Ans op) → Local → Prop)
    (guar : Agent → Act → Local → Op → Prop) (inv : Agent → Local → Prop)
    (config : Config Agent Op Ans Err Act Shared Local)
    (agent : Agent) : Prop :=
  match config.tasks agent with
  | none => inv agent (config.locals agent)
  | some (action, program) =>
      Async.Safe (rely action) (guar agent action) (fun _ => inv agent)
        program (config.locals agent)

section TaskInv

variable
  {rely : Act → Local → (op : Op) → Except Err (Ans op) → Local → Prop}
  {guar : Agent → Act → Local → Op → Prop} {inv : Agent → Local → Prop}
  {config next : Config Agent Op Ans Err Act Shared Local} {agent : Agent}

theorem safe_settle
    {action : Act} {program : Async Op Ans Err Unit} {state : Local}
    (hsafe : Async.Safe (rely action) (guar agent action)
      (fun _ => inv agent) program state) :
    match settle action program with
    | none => inv agent state
    | some (action', rest) =>
        Async.Safe (rely action') (guar agent action') (fun _ => inv agent)
          rest state := by
  cases program with
  | done value => exact hsafe
  | raise error => exact hsafe
  | await op next => exact hsafe

theorem TaskInv.guarantee
    (hinv : TaskInv rely guar inv config agent) {action : Act} {op : Op}
    (hpending : config.pending agent = some (action, op)) :
    guar agent action (config.locals agent) op := by
  unfold TaskInv at hinv
  unfold Config.pending at hpending
  split at hpending
  next action' op' next htask =>
    rw [htask] at hinv
    simp only [Option.some.injEq, Prod.mk.injEq] at hpending
    obtain ⟨rfl, rfl⟩ := hpending
    exact hinv.1
  next => cases hpending

theorem TaskInv.inv_or_guarantee
    (hinv : TaskInv rely guar inv config agent) :
    inv agent (config.locals agent) ∨
      ∃ action op, guar agent action (config.locals agent) op := by
  unfold TaskInv at hinv
  cases htask : config.tasks agent with
  | none =>
      rw [htask] at hinv
      exact Or.inl hinv
  | some task =>
      obtain ⟨action, program⟩ := task
      rw [htask] at hinv
      cases program with
      | done value => exact Or.inl hinv
      | raise error => exact Or.inl hinv
      | await op next => exact Or.inr ⟨action, op, hinv.1⟩

theorem TaskInv.inv_or_awaits
    (hinv : TaskInv rely guar inv config agent) :
    inv agent (config.locals agent) ∨
      ∃ action op rest,
        config.tasks agent = some (action, .await op rest) ∧
          guar agent action (config.locals agent) op := by
  unfold TaskInv at hinv
  cases htask : config.tasks agent with
  | none =>
      rw [htask] at hinv
      exact Or.inl hinv
  | some task =>
      obtain ⟨action, program⟩ := task
      rw [htask] at hinv
      cases program with
      | done value => exact Or.inl hinv
      | raise error => exact Or.inl hinv
      | await op rest => exact Or.inr ⟨action, op, rest, rfl, hinv.1⟩

theorem TaskInv.congr
    (hinv : TaskInv rely guar inv config agent)
    (hlocals : next.locals agent = config.locals agent)
    (htasks : next.tasks agent = config.tasks agent) :
    TaskInv rely guar inv next agent := by
  unfold TaskInv at hinv ⊢
  rw [hlocals, htasks]
  exact hinv

end TaskInv

theorem AgentInv.guarantee
    {rely : Act → Local → (op : Op) → Except Err (Ans op) → Local → Prop}
    {guar : Agent → Local → Op → Prop} {inv : Agent → Local → Prop}
    {config : Config Agent Op Ans Err Act Shared Local} {agent : Agent}
    (hinv : AgentInv rely guar inv config agent)
    {action : Act} {op : Op}
    (hpending : config.pending agent = some (action, op)) :
    guar agent (config.locals agent) op := by
  have htask : TaskInv rely (fun agent _ => guar agent) inv config agent :=
    hinv
  exact htask.guarantee hpending

/-- Two configurations one agent cannot tell apart: it sees the same of the
shared state and is itself in the same state and at the same point. -/
structure AgreesFor {View : Type} (view : Shared → View) (agent : Agent)
    (left right : Config Agent Op Ans Err Act Shared Local) : Prop where
  view_eq : view left.shared = view right.shared
  locals_eq : left.locals agent = right.locals agent
  tasks_eq : left.tasks agent = right.tasks agent

end Config

namespace Machine

variable [DecidableEq Agent]

variable (machine : Machine Op Ans Err Act Oracle Shared Local)

def step (config : Config Agent Op Ans Err Act Shared Local) :
    Event Agent Act Oracle →
      Option (Config Agent Op Ans Err Act Shared Local)
  | .act agent action =>
      match config.tasks agent with
      | some _ => none
      | none =>
          match machine.start action (config.locals agent) with
          | none => none
          | some program =>
              some { config with
                tasks :=
                  Function.update config.tasks agent
                    (settle action program) }
  | .resume agent oracle =>
      match config.tasks agent with
      | some (action, .await op next) =>
          let out :=
            machine.exec op oracle config.shared (config.locals agent)
          some
            { shared := out.2.1
              locals := Function.update config.locals agent out.2.2
              tasks :=
                Function.update config.tasks agent
                  (settle action (next out.1)) }
      | _ => none
  | .kill agent =>
      some { config with
        locals :=
          Function.update config.locals agent
            (machine.reset (config.locals agent))
        tasks := Function.update config.tasks agent none }

/-- The request a step serves, with the action it is made for; a refused
one is not counted. -/
def served (config : Config Agent Op Ans Err Act Shared Local) :
    Event Agent Act Oracle → Option (Act × Op)
  | .resume agent oracle =>
      match config.tasks agent with
      | some (action, .await op _) =>
          match
            (machine.exec op oracle config.shared
              (config.locals agent)).1 with
          | .ok _ => some (action, op)
          | .error _ => none
      | _ => none
  | _ => none

abbrev run (config : Config Agent Op Ans Err Act Shared Local)
    (events : List (Event Agent Act Oracle)) :
    Option (Config Agent Op Ans Err Act Shared Local) :=
  CallSequences.run machine.step config events

/-- The configurations of the runs all of whose steps are allowed. -/
abbrev Reaches
    (allowed : Config Agent Op Ans Err Act Shared Local →
      Event Agent Act Oracle → Prop)
    (initial config : Config Agent Op Ans Err Act Shared Local) : Prop :=
  CallSequences.Reaches machine.step allowed initial config

/-- What a step can do, with what it takes for granted. -/
inductive Moves (config : Config Agent Op Ans Err Act Shared Local) :
    Event Agent Act Oracle →
      Config Agent Op Ans Err Act Shared Local → Prop where
  | act {agent : Agent} {action : Act} {program : Async Op Ans Err Unit}
      (htask : config.tasks agent = none)
      (hprogram :
        machine.start action (config.locals agent) = some program) :
      Moves config (.act agent action)
        { config with
          tasks :=
            Function.update config.tasks agent (settle action program) }
  | resume {agent : Agent} {oracle : Oracle} {action : Act} {op : Op}
      {rest : Except Err (Ans op) → Async Op Ans Err Unit}
      (htask : config.tasks agent = some (action, .await op rest)) :
      Moves config (.resume agent oracle)
        { shared :=
            (machine.exec op oracle config.shared
              (config.locals agent)).2.1
          locals :=
            Function.update config.locals agent
              (machine.exec op oracle config.shared
                (config.locals agent)).2.2
          tasks :=
            Function.update config.tasks agent
              (settle action
                (rest (machine.exec op oracle config.shared
                  (config.locals agent)).1)) }
  | kill {agent : Agent} :
      Moves config (.kill agent)
        { config with
          locals :=
            Function.update config.locals agent
              (machine.reset (config.locals agent))
          tasks := Function.update config.tasks agent none }

variable {machine}

theorem moves_of_step
    {config next : Config Agent Op Ans Err Act Shared Local}
    {event : Event Agent Act Oracle}
    (hstep : machine.step config event = some next) :
    machine.Moves config event next := by
  cases event with
  | act agent action =>
      simp only [step] at hstep
      cases htask : config.tasks agent with
      | some task => simp [htask] at hstep
      | none =>
          cases hprogram :
              machine.start action (config.locals agent) with
          | none => simp [htask, hprogram] at hstep
          | some program =>
              simp only [htask, hprogram, Option.some.injEq] at hstep
              subst next
              exact .act htask hprogram
  | resume agent oracle =>
      simp only [step] at hstep
      split at hstep
      next action op rest htask =>
        simp only [Option.some.injEq] at hstep
        subst next
        exact .resume htask
      next => cases hstep
  | kill agent =>
      simp only [step, Option.some.injEq] at hstep
      subst next
      exact .kill

theorem Moves.step
    {config next : Config Agent Op Ans Err Act Shared Local}
    {event : Event Agent Act Oracle}
    (hmoves : machine.Moves config event next) :
    machine.step config event = some next := by
  cases hmoves with
  | act htask hprogram => simp only [Machine.step, htask, hprogram]
  | resume htask => simp only [Machine.step, htask]
  | kill => rfl

/-- A step concerns the agent of its event alone. -/
theorem Moves.frame
    {config next : Config Agent Op Ans Err Act Shared Local}
    {event : Event Agent Act Oracle} {other : Agent}
    (hmoves : machine.Moves config event next)
    (hne : other ≠ event.agent) :
    next.locals other = config.locals other ∧
      next.tasks other = config.tasks other := by
  cases hmoves with
  | act htask hprogram =>
      exact ⟨rfl, Function.update_of_ne hne _ _⟩
  | resume htask =>
      exact ⟨Function.update_of_ne hne _ _, Function.update_of_ne hne _ _⟩
  | kill =>
      exact ⟨Function.update_of_ne hne _ _, Function.update_of_ne hne _ _⟩

/-- The shared state changes only where a request is served. -/
theorem Moves.shared_cases
    {config next : Config Agent Op Ans Err Act Shared Local}
    {event : Event Agent Act Oracle}
    (hmoves : machine.Moves config event next) :
    next.shared = config.shared ∨
      ∃ agent oracle action op,
        event = .resume agent oracle ∧
          config.pending agent = some (action, op) ∧
          next.shared = (machine.exec op oracle config.shared
            (config.locals agent)).2.1 := by
  cases hmoves with
  | act htask hprogram => exact Or.inl rfl
  | @resume agent oracle action op rest htask =>
      exact Or.inr ⟨agent, oracle, action, op, rfl,
        by simp [Config.pending, htask], rfl⟩
  | kill => exact Or.inl rfl

/-- An agent's own state changes only where its process ends or its request is
served. -/
theorem Moves.local_cases
    {config next : Config Agent Op Ans Err Act Shared Local}
    {event : Event Agent Act Oracle}
    (hmoves : machine.Moves config event next) (agent : Agent) :
    next.locals agent = config.locals agent ∨
      next.locals agent = machine.reset (config.locals agent) ∨
      ∃ oracle action op,
        event = .resume agent oracle ∧
          config.pending agent = some (action, op) ∧
          next.shared = (machine.exec op oracle config.shared
            (config.locals agent)).2.1 ∧
          next.locals agent = (machine.exec op oracle config.shared
            (config.locals agent)).2.2 := by
  by_cases heq : agent = event.agent
  · subst heq
    cases hmoves with
    | act htask hprogram => exact Or.inl rfl
    | @resume agent oracle action op rest htask =>
        exact Or.inr (Or.inr ⟨oracle, action, op, rfl,
          by simp [Event.agent, Config.pending, htask], rfl,
          Function.update_self _ _ _⟩)
    | kill => exact Or.inr (Or.inl (Function.update_self _ _ _))
  · exact Or.inl (hmoves.frame heq).1

theorem action_of_settle {action found : Act}
    {program running : Async Op Ans Err Unit}
    (hsettle : settle action program = some (found, running)) :
    action = found := by
  unfold settle at hsettle
  split at hsettle
  · cases hsettle
    rfl
  · cases hsettle

/-- An action an agent is at is started by the step or was under way. -/
theorem Moves.running_cases
    {config next : Config Agent Op Ans Err Act Shared Local}
    {event : Event Agent Act Oracle}
    (hmoves : machine.Moves config event next) {agent : Agent} {action : Act}
    {program : Async Op Ans Err Unit}
    (htask : next.tasks agent = some (action, program)) :
    event = .act agent action ∨
      ∃ running, config.tasks agent = some (action, running) := by
  by_cases heq : agent = event.agent
  · subst heq
    cases hmoves with
    | act hidle hprogram =>
        simp only [Event.agent, Function.update_self] at htask
        rw [action_of_settle htask]
        exact Or.inl rfl
    | resume hbusy =>
        simp only [Event.agent, Function.update_self] at htask
        rw [← action_of_settle htask]
        exact Or.inr ⟨_, hbusy⟩
    | kill =>
        simp only [Event.agent, Function.update_self] at htask
        cases htask
  · rw [(hmoves.frame heq).2] at htask
    exact Or.inr ⟨program, htask⟩

/-! ## The invariant rule -/

section Invariant

variable
  {rely : Act → Local → (op : Op) → Except Err (Ans op) → Local → Prop}
  {inv : Agent → Local → Prop}

/-- One step keeps an agent's invariant when the handler it starts is safe
and the rely covers what the environment answers it. -/
theorem taskInv_step
    {guar : Agent → Act → Local → Op → Prop} {agent : Agent}
    {config next : Config Agent Op Ans Err Act Shared Local}
    {event : Event Agent Act Oracle}
    (hinv : config.TaskInv rely guar inv agent)
    (hstart : ∀ action program,
      event = .act agent action → config.tasks agent = none →
        inv agent (config.locals agent) →
          machine.start action (config.locals agent) = some program →
            Async.Safe (rely action) (guar agent action)
              (fun _ => inv agent) program (config.locals agent))
    (hrely : ∀ oracle action op,
      event = .resume agent oracle →
        config.pending agent = some (action, op) →
          rely action (config.locals agent) op
            (machine.exec op oracle config.shared
              (config.locals agent)).1
            (machine.exec op oracle config.shared
              (config.locals agent)).2.2)
    (hreset : ∀ state,
      inv agent state ∨ (∃ action op, guar agent action state op) →
        inv agent (machine.reset state))
    (hstep : machine.step config event = some next) :
    next.TaskInv rely guar inv agent := by
  have hmoves := moves_of_step hstep
  by_cases heq : agent = event.agent
  · subst agent
    cases hmoves with
    | @act agent action program htask hprogram =>
        rw [Event.agent, Config.TaskInv, htask] at hinv
        have hsafe := hstart action program rfl htask hinv hprogram
        unfold Config.TaskInv
        simp only [Event.agent, Function.update_self]
        exact Config.safe_settle hsafe
    | @resume agent oracle action op rest htask =>
        rw [Event.agent, Config.TaskInv, htask] at hinv
        have hpending : config.pending agent = some (action, op) := by
          simp [Config.pending, htask]
        have hnext := hinv.2 _ _ (hrely oracle action op rfl hpending)
        unfold Config.TaskInv
        simp only [Event.agent, Function.update_self]
        exact Config.safe_settle hnext
    | @kill agent =>
        unfold Config.TaskInv
        simp only [Event.agent, Function.update_self]
        exact hreset _ hinv.inv_or_guarantee
  · obtain ⟨hlocals, htasks⟩ := hmoves.frame heq
    exact hinv.congr hlocals htasks

theorem agentInv_step
    {guar : Agent → Local → Op → Prop}
    {config next : Config Agent Op Ans Err Act Shared Local}
    {event : Event Agent Act Oracle}
    (hinv : ∀ agent, config.AgentInv rely guar inv agent)
    (hstart : ∀ agent action program,
      event = .act agent action → inv agent (config.locals agent) →
        machine.start action (config.locals agent) = some program →
          Async.Safe (rely action) (guar agent) (fun _ => inv agent) program
            (config.locals agent))
    (hrely : ∀ agent oracle action op,
      event = .resume agent oracle →
        config.pending agent = some (action, op) →
          rely action (config.locals agent) op
            (machine.exec op oracle config.shared
              (config.locals agent)).1
            (machine.exec op oracle config.shared
              (config.locals agent)).2.2)
    (hreset : ∀ agent state,
      inv agent state ∨ (∃ op, guar agent state op) →
        inv agent (machine.reset state))
    (hstep : machine.step config event = some next) :
    ∀ agent, next.AgentInv rely guar inv agent := by
  intro agent
  have htask :
      config.TaskInv rely (fun agent _ => guar agent) inv agent :=
    hinv agent
  refine taskInv_step htask ?_ (hrely agent) ?_ hstep
  · intro action program hevent _
    exact hstart agent action program hevent
  · intro state hstate
    apply hreset agent state
    rcases hstate with hidle | ⟨action, op, hguar⟩
    · exact Or.inl hidle
    · exact Or.inr ⟨op, hguar⟩

theorem Reaches.agentInv
    {guar : Agent → Local → Op → Prop}
    {allowed : Config Agent Op Ans Err Act Shared Local →
      Event Agent Act Oracle → Prop}
    {initial config : Config Agent Op Ans Err Act Shared Local}
    (hinitial : ∀ agent, initial.AgentInv rely guar inv agent)
    (hstart : ∀ config agent action program,
      allowed config (.act agent action) → inv agent (config.locals agent) →
        machine.start action (config.locals agent) = some program →
          Async.Safe (rely action) (guar agent) (fun _ => inv agent) program
            (config.locals agent))
    (hrely : ∀ config agent oracle action op,
      allowed config (.resume agent oracle) →
        config.pending agent = some (action, op) →
          rely action (config.locals agent) op
            (machine.exec op oracle config.shared
              (config.locals agent)).1
            (machine.exec op oracle config.shared
              (config.locals agent)).2.2)
    (hreset : ∀ agent state,
      inv agent state ∨ (∃ op, guar agent state op) →
        inv agent (machine.reset state))
    (hreach : machine.Reaches allowed initial config) :
    ∀ agent, config.AgentInv rely guar inv agent := by
  apply hreach.invariant hinitial
  intro config event next hconfig hallowed hstep
  refine agentInv_step hconfig ?_ ?_ hreset hstep
  · rintro agent action program rfl
    exact hstart config agent action program hallowed
  · rintro agent oracle action op rfl
    exact hrely config agent oracle action op hallowed

end Invariant

/-! ## The isolation rule -/

section Isolation

variable
  {rely : Act → Local → (op : Op) → Except Err (Ans op) → Local → Prop}
  {guar : Agent → Local → Op → Prop} {inv : Agent → Local → Prop}
  {View : Type} {view : Shared → View} {agent : Agent}

theorem agreesFor_step_of_ne
    (hother : ∀ other op oracle shared state, other ≠ agent →
      guar other state op →
        view (machine.exec op oracle shared state).2.1 = view shared)
    {left right next : Config Agent Op Ans Err Act Shared Local}
    {event : Event Agent Act Oracle}
    (hinv : left.AgentInv rely guar inv event.agent)
    (hne : event.agent ≠ agent) (hagrees : left.AgreesFor view agent right)
    (hstep : machine.step left event = some next) :
    next.AgreesFor view agent right := by
  have hmoves := moves_of_step hstep
  obtain ⟨hlocals, htasks⟩ := hmoves.frame hne.symm
  have hview : view next.shared = view left.shared := by
    cases hmoves with
    | act htask hprogram => rfl
    | @resume other oracle action op rest htask =>
        have hpending : left.pending other = some (action, op) := by
          simp [Config.pending, htask]
        exact hother other op oracle left.shared (left.locals other) hne
          (hinv.guarantee hpending)
    | kill => rfl
  exact ⟨hview.trans hagrees.view_eq, hlocals.trans hagrees.locals_eq,
    htasks.trans hagrees.tasks_eq⟩

theorem agreesFor_step_self
    (hown : ∀ op oracle shared shared' state, guar agent state op →
      view shared = view shared' →
        (machine.exec op oracle shared state).1 =
            (machine.exec op oracle shared' state).1 ∧
          view (machine.exec op oracle shared state).2.1 =
            view (machine.exec op oracle shared' state).2.1 ∧
          (machine.exec op oracle shared state).2.2 =
            (machine.exec op oracle shared' state).2.2)
    {left right next : Config Agent Op Ans Err Act Shared Local}
    {event : Event Agent Act Oracle}
    (hinv : left.AgentInv rely guar inv agent)
    (heq : event.agent = agent) (hagrees : left.AgreesFor view agent right)
    (hstep : machine.step left event = some next) :
    ∃ next', machine.step right event = some next' ∧
      next.AgreesFor view agent next' := by
  obtain ⟨hview, hlocals, htasks⟩ := hagrees
  subst heq
  cases moves_of_step hstep with
  | @act agent action program htask hprogram =>
      simp only [Event.agent] at hlocals htasks
      rw [hlocals] at hprogram
      rw [htask] at htasks
      have hmoves' := Moves.act htasks.symm hprogram
      refine ⟨_, hmoves'.step, hview, hlocals, ?_⟩
      simp [Event.agent]
  | @resume agent oracle action op rest htask =>
      simp only [Event.agent] at hinv hown hlocals htasks
      have hpending : left.pending agent = some (action, op) := by
        simp [Config.pending, htask]
      obtain ⟨hanswer, hviews, hstates⟩ :=
        hown op oracle left.shared right.shared (left.locals agent)
          (hinv.guarantee hpending) hview
      rw [hlocals] at hanswer hviews hstates
      rw [htask] at htasks
      have hmoves' : machine.Moves right (.resume agent oracle) _ :=
        Moves.resume htasks.symm
      refine ⟨_, hmoves'.step, ?_, ?_, ?_⟩
      · simpa [hlocals] using hviews
      · simpa [Event.agent, hlocals] using hstates
      · simp [Event.agent, hlocals, hanswer]
  | @kill agent =>
      simp only [Event.agent] at hlocals htasks
      refine ⟨_, Moves.kill.step, hview, ?_, ?_⟩
      · simp [Event.agent, hlocals]
      · simp [Event.agent]

/-- An agent whose requests depend only on its view, among agents whose
requests leave that view alone, ends in any interleaving as it does when its
own events are run without the others. -/
theorem run_isolated
    (hown : ∀ op oracle shared shared' state, guar agent state op →
      view shared = view shared' →
        (machine.exec op oracle shared state).1 =
            (machine.exec op oracle shared' state).1 ∧
          view (machine.exec op oracle shared state).2.1 =
            view (machine.exec op oracle shared' state).2.1 ∧
          (machine.exec op oracle shared state).2.2 =
            (machine.exec op oracle shared' state).2.2)
    (hother : ∀ other op oracle shared state, other ≠ agent →
      guar other state op →
        view (machine.exec op oracle shared state).2.1 = view shared)
    (hstart : ∀ agent action program state, inv agent state →
      machine.start action state = some program →
        Async.Safe (rely action) (guar agent) (fun _ => inv agent) program
          state)
    (hrely : ∀ action op oracle shared state,
      rely action state op (machine.exec op oracle shared state).1
        (machine.exec op oracle shared state).2.2)
    (hreset : ∀ agent state,
      inv agent state ∨ (∃ op, guar agent state op) →
        inv agent (machine.reset state))
    {left right next : Config Agent Op Ans Err Act Shared Local}
    (events : List (Event Agent Act Oracle))
    (hinv : ∀ other, left.AgentInv rely guar inv other)
    (hagrees : left.AgreesFor view agent right)
    (hrun : machine.run left events = some next) :
    ∃ next',
      machine.run right (events.filter fun event => event.agent = agent) =
          some next' ∧
        next.AgreesFor view agent next' := by
  induction events generalizing left right with
  | nil =>
      simp only [run, CallSequences.run, Option.some.injEq] at hrun
      subst next
      exact ⟨right, rfl, hagrees⟩
  | cons event rest ih =>
      simp only [run, CallSequences.run] at hrun
      cases hstep : machine.step left event with
      | none => simp [hstep] at hrun
      | some middle =>
          rw [hstep] at hrun
          have hmiddle : ∀ other, middle.AgentInv rely guar inv other := by
            refine agentInv_step hinv ?_ ?_ hreset hstep
            · intro other action program _ hidle hprogram
              exact hstart other action program _ hidle hprogram
            · intro other oracle action op _ _
              exact hrely action op oracle _ _
          by_cases heq : event.agent = agent
          · obtain ⟨middle', hstep', hagrees'⟩ :=
              agreesFor_step_self hown (hinv agent) heq hagrees hstep
            obtain ⟨next', hrun', hnext⟩ := ih hmiddle hagrees' hrun
            refine ⟨next', ?_, hnext⟩
            rw [List.filter_cons_of_pos (by simpa using heq)]
            simp only [run, CallSequences.run, hstep']
            exact hrun'
          · have hagrees' :=
              agreesFor_step_of_ne hother (hinv event.agent) heq hagrees
                hstep
            rw [List.filter_cons_of_neg (by simpa using heq)]
            exact ih hmiddle hagrees' hrun

end Isolation

end Machine

end Machines

end AsyncProgram
