import FoliumApp.AsyncProgram

/-!
# Traces of programs, and two runs beside each other

A run of a program is read as the list of its requests with their answers;
the environment may answer whatever the rely allows.  Two programs are
coupled when they ask alike and go on alike after the same answer.  Two runs
of coupled programs that are answered alike cannot drift apart.
-/

namespace AsyncProgram

structure Entry (Op : Type) (Ans : Op → Type) (Err Local : Type) where
  op : Op
  answer : Except Err (Ans op)
  state : Local

namespace Async

section Traces

variable {Op : Type} {Ans : Op → Type} {Err Local α β : Type}
variable {rely : Local → (op : Op) → Except Err (Ans op) → Local → Prop}

/-- The runs of a program, with the state each request leaves behind. -/
inductive Runs
    (rely : Local → (op : Op) → Except Err (Ans op) → Local → Prop) :
    Async Op Ans Err α → Local → List (Entry Op Ans Err Local) →
      Except Err α → Local → Prop where
  | done (value : α) (state : Local) :
      Runs rely (.done value) state [] (.ok value) state
  | raise (error : Err) (state : Local) :
      Runs rely (.raise error) state [] (.error error) state
  | await {op : Op} {next : Except Err (Ans op) → Async Op Ans Err α}
      {state state' last : Local} {answer : Except Err (Ans op)}
      {trace : List (Entry Op Ans Err Local)} {result : Except Err α}
      (hanswer : rely state op answer state')
      (hrest : Runs rely (next answer) state' trace result last) :
      Runs rely (.await op next) state (⟨op, answer, state'⟩ :: trace)
        result last

/-- The trace of a program run on its own, seen through what the rely is
about. -/
def traceOf {Oracle State : Type}
    (exec : (op : Op) → Oracle → State → Except Err (Ans op) × State)
    (view : State → Local) :
    Async Op Ans Err α → (ℕ → Oracle) → State →
      List (Entry Op Ans Err Local)
  | .await op next, oracle, state =>
      ⟨op, (exec op (oracle 0) state).1,
        view (exec op (oracle 0) state).2⟩ ::
        traceOf exec view (next (exec op (oracle 0) state).1)
          (fun index => oracle (index + 1)) (exec op (oracle 0) state).2
  | _, _, _ => []

theorem runs_run {Oracle State : Type}
    {exec : (op : Op) → Oracle → State → Except Err (Ans op) × State}
    {view : State → Local}
    (hrely : ∀ op oracle state,
      rely (view state) op (exec op oracle state).1
        (view (exec op oracle state).2))
    (program : Async Op Ans Err α) (oracle : ℕ → Oracle) (state : State) :
    Runs rely program (view state) (traceOf exec view program oracle state)
      (run exec program oracle state).1
      (view (run exec program oracle state).2) := by
  induction program generalizing oracle state with
  | done value => exact Runs.done value _
  | raise error => exact Runs.raise error _
  | await op next ih =>
      exact Runs.await (hrely op (oracle 0) state) (ih _ _ _)

/-! ## Coupled programs -/

variable {alike : Op → Op → Prop}

/-- Two programs that make alike requests and are again coupled after the
same answer. -/
inductive Coupled (alike : Op → Op → Prop) :
    Async Op Ans Err α → Async Op Ans Err α → Prop where
  | refl (program : Async Op Ans Err α) : Coupled alike program program
  | await {op op' : Op} {next : Except Err (Ans op) → Async Op Ans Err α}
      {next' : Except Err (Ans op') → Async Op Ans Err α}
      (halike : alike op op')
      (hnext : ∀ answer answer', HEq answer answer' →
        Coupled alike (next answer) (next' answer')) :
      Coupled alike (.await op next) (.await op' next')

theorem Coupled.bind_right (halike : ∀ op, alike op op)
    (program : Async Op Ans Err α) {next next' : α → Async Op Ans Err β}
    (hnext : ∀ value, Coupled alike (next value) (next' value)) :
    Coupled alike (program >>= next) (program >>= next') := by
  induction program with
  | done value => exact hnext value
  | raise error => exact Coupled.refl _
  | await op rest ih =>
      simp only [await_bind]
      apply Coupled.await (halike op)
      intro answer answer' hanswer
      obtain rfl := eq_of_heq hanswer
      exact ih answer

theorem Coupled.bind (halike : ∀ op, alike op op)
    {program program' : Async Op Ans Err α}
    (hprogram : Coupled alike program program')
    {next next' : α → Async Op Ans Err β}
    (hnext : ∀ value, Coupled alike (next value) (next' value)) :
    Coupled alike (program >>= next) (program' >>= next') := by
  induction hprogram with
  | refl program => exact Coupled.bind_right halike program hnext
  | await hops _ ih =>
      simp only [await_bind]
      exact Coupled.await hops ih

theorem Coupled.tryCatch {program program' : Async Op Ans Err α}
    (hprogram : Coupled alike program program')
    (handler : Err → Async Op Ans Err α) :
    Coupled alike (MonadExcept.tryCatch program handler)
      (MonadExcept.tryCatch program' handler) := by
  induction hprogram with
  | refl program => exact Coupled.refl _
  | await hops _ ih =>
      simp only [await_handle]
      exact Coupled.await hops ih

/-! ## Runs that are answered alike -/

/-- As far as both traces go, the answers are the same and the states left
look the same. -/
def AnsweredAlike (same : Local → Local → Prop) :
    List (Entry Op Ans Err Local) → List (Entry Op Ans Err Local) → Prop
  | first :: rest, first' :: rest' =>
      HEq first.answer first'.answer ∧ same first.state first'.state ∧
        AnsweredAlike same rest rest'
  | _, _ => True

/-- Requests that are alike, with the same answer. -/
def Entry.Alike (alike : Op → Op → Prop)
    (entry entry' : Entry Op Ans Err Local) : Prop :=
  alike entry.op entry'.op ∧ HEq entry.answer entry'.answer

theorem Coupled.of_await (halike : ∀ op, alike op op) {op : Op}
    {next : Except Err (Ans op) → Async Op Ans Err α}
    {program' : Async Op Ans Err α}
    (hcoupled : Coupled alike (.await op next) program') :
    ∃ op' next', program' = .await op' next' ∧ alike op op' ∧
      ∀ answer answer', HEq answer answer' →
        Coupled alike (next answer) (next' answer') := by
  cases hcoupled with
  | refl =>
      refine ⟨op, next, rfl, halike op, ?_⟩
      intro answer answer' hanswer
      obtain rfl := eq_of_heq hanswer
      exact Coupled.refl _
  | await hops hnext => exact ⟨_, _, rfl, hops, hnext⟩

/-- Coupled programs that are answered alike make alike requests to the end,
and end alike. -/
theorem Coupled.runs {same : Local → Local → Prop}
    (halike : ∀ op, alike op op)
    (hsettled : ∀ state op op' answer answer' next next', alike op op' →
      HEq answer answer' → rely state op answer next →
        rely state op' answer' next' → same next next' → next = next')
    {program program' : Async Op Ans Err α}
    (hcoupled : Coupled alike program program') {state last last' : Local}
    {trace trace' : List (Entry Op Ans Err Local)}
    {result result' : Except Err α}
    (hruns : Runs rely program state trace result last)
    (hruns' : Runs rely program' state trace' result' last')
    (hanswers : AnsweredAlike same trace trace') :
    List.Forall₂ (Entry.Alike alike) trace trace' ∧ result = result' ∧
      last = last' := by
  induction hruns generalizing program' trace' with
  | done value state =>
      cases hcoupled
      cases hruns'
      exact ⟨List.Forall₂.nil, rfl, rfl⟩
  | raise error state =>
      cases hcoupled
      cases hruns'
      exact ⟨List.Forall₂.nil, rfl, rfl⟩
  | await hanswer hrest ih =>
      obtain ⟨op', next', rfl, hops, hnext⟩ := hcoupled.of_await halike
      cases hruns' with
      | await hanswer' hrest' =>
          obtain ⟨hsame, hstates, hrests⟩ := hanswers
          obtain rfl := hsettled _ _ _ _ _ _ _ hops hsame hanswer hanswer'
            hstates
          obtain ⟨htraces, hresults, hlasts⟩ :=
            ih (hnext _ _ hsame) hrest' hrests
          exact ⟨List.Forall₂.cons ⟨hops, hsame⟩ htraces, hresults, hlasts⟩

end Traces

end Async

end AsyncProgram
