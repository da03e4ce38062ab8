import FoliumApp.AsyncProgram

/-!
# Agents with a note beside their state

What an agent will ask for next depends on what it has been answered, and an
invariant of the shared state may have to speak of it.  A note is kept beside
the state of each agent: it changes with every answer and is lost with the
process.  The machine does not see it, so every run of the machine is the
trace of a run with notes.
-/

namespace AsyncProgram

variable {Agent : Type} {Op : Type} {Ans : Op → Type}
variable {Err Act Oracle Shared Local Note : Type}

namespace Machine

/-- The machine with a note beside the state of each agent. -/
def noting (machine : Machine Op Ans Err Act Oracle Shared Local)
    (advance : Note → (op : Op) → Except Err (Ans op) → Note)
    (blank : Note) :
    Machine Op Ans Err Act Oracle Shared (Local × Note) where
  exec op oracle shared state :=
    let out := machine.exec op oracle shared state.1
    (out.1, out.2.1, (out.2.2, advance state.2 op out.1))
  start action state := machine.start action state.1
  reset state := (machine.reset state.1, blank)

end Machine

namespace Config

/-- The configuration without the notes. -/
def plain (config : Config Agent Op Ans Err Act Shared (Local × Note)) :
    Config Agent Op Ans Err Act Shared Local :=
  { shared := config.shared
    locals := fun agent => (config.locals agent).1
    tasks := config.tasks }

/-- The configuration with the same note for every agent. -/
def noted (note : Note)
    (config : Config Agent Op Ans Err Act Shared Local) :
    Config Agent Op Ans Err Act Shared (Local × Note) :=
  { shared := config.shared
    locals := fun agent => (config.locals agent, note)
    tasks := config.tasks }

@[simp] theorem plain_noted (note : Note)
    (config : Config Agent Op Ans Err Act Shared Local) :
    (config.noted note).plain = config := rfl

end Config

namespace Machine

section Erasure

variable [DecidableEq Agent]
  {machine : Machine Op Ans Err Act Oracle Shared Local}
  (advance : Note → (op : Op) → Except Err (Ans op) → Note) (blank : Note)

theorem fst_update (locals : Agent → Local × Note)
    (agent : Agent) (state : Local × Note) :
    (fun other => (Function.update locals agent state other).1) =
      Function.update (fun other => (locals other).1) agent state.1 := by
  funext other
  by_cases heq : other = agent
  · subst heq
    simp
  · simp [heq]

/-- The notes follow every step of the machine. -/
theorem noting_step
    {config : Config Agent Op Ans Err Act Shared (Local × Note)}
    {next : Config Agent Op Ans Err Act Shared Local}
    {event : Event Agent Act Oracle}
    (hstep : machine.step config.plain event = some next) :
    ∃ next', (machine.noting advance blank).step config event = some next' ∧
      next'.plain = next := by
  cases moves_of_step hstep with
  | @act agent action program htask hprogram =>
      have hmoves :
          (machine.noting advance blank).Moves config (.act agent action) _ :=
        .act htask hprogram
      exact ⟨_, hmoves.step, rfl⟩
  | @resume agent oracle action op rest htask =>
      have hmoves :
          (machine.noting advance blank).Moves config
            (.resume agent oracle) _ :=
        .resume htask
      refine ⟨_, hmoves.step, ?_⟩
      unfold Config.plain
      simp only [fst_update]
      rfl
  | @kill agent =>
      have hmoves :
          (machine.noting advance blank).Moves config (.kill agent) _ := .kill
      refine ⟨_, hmoves.step, ?_⟩
      unfold Config.plain
      simp only [fst_update]
      rfl

/-- Whatever the machine reaches, it reaches with notes. -/
theorem Reaches.noting
    {allowed : Config Agent Op Ans Err Act Shared Local →
      Event Agent Act Oracle → Prop}
    {initial config : Config Agent Op Ans Err Act Shared Local}
    (hreach : machine.Reaches allowed initial config) :
    ∃ noted : Config Agent Op Ans Err Act Shared (Local × Note),
      (machine.noting advance blank).Reaches
        (fun config event => allowed config.plain event ∧
          ∃ next, machine.step config.plain event = some next)
        (initial.noted blank) noted ∧
      noted.plain = config := by
  induction hreach with
  | refl => exact ⟨_, .refl, rfl⟩
  | @next config next event _ hallowed hstep ih =>
      obtain ⟨noted, hnoted, rfl⟩ := ih
      obtain ⟨next', hstep', rfl⟩ :=
        noting_step advance blank hstep
      exact ⟨next', hnoted.next ⟨hallowed, _, hstep⟩ hstep', rfl⟩

end Erasure

end Machine

end AsyncProgram
