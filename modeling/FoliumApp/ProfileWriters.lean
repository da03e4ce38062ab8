import FoliumApp.HandlerRequests

/-!
# Who wrote a profile

`workerChoice` takes an account for a worker's when its record decodes as
one.  A client's record has no attendance, on which the decoder raises; a
completed worker's always decodes.  So over every run of the app the decoder
tells the last writer of a record.
-/

namespace FoliumApp

open PathTree AsyncProgram CallSequences

/-! ## Writers along a run -/

def Request.writesRecord (uid : Segment) : Request → Bool
  | .set path _ => pieces path = recordPieces uid
  | .remove path => pieces path = recordPieces uid
  | _ => false

def noteWriter (uid : Segment) (last : Option Writer)
    (entry : Action × Request) : Option Writer :=
  if entry.2.writesRecord uid then some entry.1.writer else last

/-- The function that made the last successful write of the record. -/
def lastWriter (uid : Segment) (entries : List (Action × Request)) :
    Option Writer :=
  after (noteWriter uid) none entries

/-! ## All runs -/

def Request.writesDatabase : Request → Bool
  | .set _ _ => true
  | .remove _ => true
  | _ => false

theorem Request.exec_database {request : Request}
    (hrequest : request.writesDatabase = false) (oracle : Oracle)
    (backend : Backend) (device : Device) :
    (request.exec oracle backend device).2.1.database =
      backend.database := by
  cases request with
  | set path value => cases hrequest
  | remove path => cases hrequest
  | signInWithEmailAndPassword email password =>
      simp only [Request.exec]
      split
      · split_ifs <;> rfl
      · rfl
  | pushKey => rfl
  | now => rfl
  | getSession => rfl
  | setSession user => rfl
  | navigate navigation => rfl
  | setLoad load => rfl
  | showSnackBar text => rfl
  | _ =>
      simp only [Request.exec]
      split_ifs <;> rfl

section Runs

variable {uid : Segment} {last : Option Writer} {backend : Backend}

/-- A write, made or refused, leaves the record as its last writer makes
it. -/
theorem recordOf_write {path : String} (action : Action) (value : Json)
    (hrecord : RecordOf last (backend.read (dataPath uid.val)))
    (hwrite : (∃ user : Segment, pieces path = recordPieces user ∧
        RecordOf (some action.writer) value.prune) ∨
      ∀ user : Segment, Json.Apart (pieces path) (recordPieces user)) :
    RecordOf
      (if pieces path = recordPieces uid then some action.writer else last)
      ((backend.write path value).read (dataPath uid.val)) := by
  by_cases heq : pieces path = recordPieces uid
  · rw [if_pos heq]
    have hread :
        (backend.write path value).read (dataPath uid.val) =
          value.prune := by
      unfold Backend.read Backend.write
      rw [pieces_dataPath_segment, ← heq]
      exact Json.get_setAt_self _ _ _
    rw [hread]
    rcases hwrite with ⟨user, -, hvalue⟩ | hapart
    · exact hvalue
    · have hself := (hapart uid).1
      rw [heq] at hself
      exact absurd (List.prefix_refl _) hself
  · rw [if_neg heq]
    have hapart : Json.Apart (pieces path) (pieces (dataPath uid.val)) := by
      rw [pieces_dataPath_segment]
      rcases hwrite with ⟨user, hpath, -⟩ | hapart
      · exact Json.apart_of_length_eq (by rw [hpath]; rfl) heq
      · exact hapart uid
    rw [Backend.read_write_of_apart _ hapart]
    exact hrecord

theorem recordOf_exec {action : Action} {request : Request}
    (oracle : Oracle) (device : Device)
    (hrecord : RecordOf last (backend.read (dataPath uid.val)))
    (hrequest : request.MadeFor action) :
    RecordOf
      (match (request.exec oracle backend device).1 with
      | .ok _ => noteWriter uid last (action, request)
      | .error _ => last)
      ((request.exec oracle backend device).2.1.read
        (dataPath uid.val)) := by
  cases hwrites : request.writesDatabase with
  | false =>
      have hnote : noteWriter uid last (action, request) = last := by
        cases request <;> first | rfl | cases hwrites
      have hread :
          (request.exec oracle backend device).2.1.read
              (dataPath uid.val) =
            backend.read (dataPath uid.val) := by
        unfold Backend.read
        rw [Request.exec_database hwrites]
      rw [hread, hnote]
      split <;> exact hrecord
  | true =>
      cases request with
      | set path value =>
          simp only [Request.exec]
          split_ifs
          · have hwritten := recordOf_write action value hrecord hrequest
            simpa [noteWriter, Request.writesRecord] using hwritten
          · exact hrecord
      | remove path =>
          simp only [Request.exec]
          split_ifs
          · have hwritten :=
              recordOf_write action .null hrecord (Or.inr hrequest)
            simpa [noteWriter, Request.writesRecord] using hwritten
          · exact hrecord
      | _ => cases hwrites

end Runs

/-- The requests served along a run, with the actions they were made for. -/
def servedAlong {DeviceId : Type} [DecidableEq DeviceId]
    (events : List (Event DeviceId Action Oracle)) :
    List (Action × Request) :=
  noted app.step app.served (World.initial DeviceId) events

/-- Every record is as its last writer makes it, and every device goes on as
the writer of its action does. -/
structure Classified {DeviceId : Type} (world : World DeviceId)
    (entries : List (Action × Request)) : Prop where
  records : ∀ uid : Segment,
    RecordOf (lastWriter uid entries) (world.shared.read (dataPath uid.val))
  devices : ∀ device,
    world.TaskInv (fun _ => namedOutcomes)
      (fun _ action _ request => request.MadeFor action)
      (fun _ => Device.SessionNamed) device

section Classified

variable {DeviceId : Type} [DecidableEq DeviceId]
  {world next : World DeviceId} {entries : List (Action × Request)}

theorem sessionNamed_reset (device : Device) : device.reset.SessionNamed := by
  intro worker hworker
  cases hworker

omit [DecidableEq DeviceId] in
theorem Classified.initial : Classified (World.initial DeviceId) [] := by
  constructor
  · intro uid
    have hread : Backend.empty.read (dataPath uid.val) = .null := by
      unfold Backend.read
      rw [pieces_dataPath_segment]
      rfl
    change RecordOf none (Backend.empty.read _)
    rw [hread]
    exact decodedWorker_error_of_attendance rfl
  · intro device
    exact sessionNamed_reset Device.fresh

omit [DecidableEq DeviceId] in
/-- What a role choice reads is as the last writer left it. -/
theorem Classified.findsNamed (hclassified : Classified world entries)
    (request : Request) (oracle : Oracle) (device : Device) :
    request.FindsNamed (request.exec oracle world.shared device).1 := by
  cases request with
  | once path =>
      simp only [Request.exec]
      split_ifs
      · intro uid hpath worker hworker
        have hrecord := hclassified.records uid
        subst hpath
        cases hlast : lastWriter uid entries with
        | none =>
            rw [hlast] at hrecord
            obtain ⟨error, herror⟩ := hrecord
            rw [herror] at hworker
            cases hworker
        | some writer =>
            rw [hlast] at hrecord
            cases writer with
            | registerClient =>
                obtain ⟨error, herror⟩ := hrecord
                rw [herror] at hworker
                cases hworker
            | registerCompleteWorker =>
                obtain ⟨found, hfound, hnamed⟩ := hrecord
                rw [hfound] at hworker
                cases hworker
                exact hnamed
            | other => exact hrecord.elim
      · trivial
  | _ => trivial

theorem Classified.step (hclassified : Classified world entries)
    {event : Event DeviceId Action Oracle}
    (hstep : app.step world event = some next) :
    Classified next (entries ++ (app.served world event).toList) := by
  constructor
  · intro uid
    have hrecord := hclassified.records uid
    cases Machine.moves_of_step hstep with
    | act htask hprogram =>
        simp only [Machine.served, Option.toList_none, List.append_nil]
        exact hrecord
    | kill =>
        simp only [Machine.served, Option.toList_none, List.append_nil]
        exact hrecord
    | @resume device oracle action request rest htask =>
        have hpending :
            world.pending device = some (action, request) := by
          simp [Config.pending, htask]
        have hafter := recordOf_exec oracle (world.locals device) hrecord
          ((hclassified.devices device).guarantee hpending)
        cases hanswer : (request.exec oracle world.shared
            (world.locals device)).1 with
        | ok answer =>
            have hserved : app.served world (.resume device oracle) =
                some (action, request) := by
              simp [Machine.served, htask, app, hanswer]
            rw [hanswer] at hafter
            rw [hserved, Option.toList_some]
            unfold lastWriter
            rw [after_concat]
            exact hafter
        | error error =>
            have hserved :
                app.served world (.resume device oracle) = none := by
              simp [Machine.served, htask, app, hanswer]
            rw [hanswer] at hafter
            rw [hserved, Option.toList_none, List.append_nil]
            exact hafter
  · intro device
    refine Machine.taskInv_step (hclassified.devices device) ?_ ?_ ?_ hstep
    · intro action program _ _ hnamed hstart
      apply Async.Safe.mono _
        (worksFor_of_starts (starts_of_startAction hstart) _ hnamed)
      intro answer last hlast
      exact hlast.1
    · intro oracle action request _ _
      exact ⟨Request.exec_outcome request oracle world.shared _,
        hclassified.findsNamed request oracle _⟩
    · intro state _
      exact sessionNamed_reset state

/-- Every state the app reaches is classified by what was served on the
way. -/
theorem classified_of_reaches
    {allowed : World DeviceId → Event DeviceId Action Oracle → Prop}
    (hreach : app.Reaches allowed (World.initial DeviceId) world) :
    ∃ entries, Classified world entries := by
  apply hreach.invariant ⟨[], Classified.initial⟩
  rintro world event next ⟨entries, hclassified⟩ _ hstep
  exact ⟨_, hclassified.step hstep⟩

/-- In every state the app reaches, `workerChoice` reports true exactly when
the last write of the record was made by `registerCompleteWorker`.  Otherwise
it was made by `registerClient` or never, false is reported, and the session
stays as it was. -/
theorem workerChoice_tells_last_writer
    (events : List (Event DeviceId Action Oracle))
    (hrun : app.run (World.initial DeviceId) events = some world)
    {oracle : ℕ → Oracle} {device : Device} {uid : Segment}
    (hread : RecordRead oracle device uid) (success : Bool → App Unit)
    (hreturns : ReturnsNormally (success true)) :
    (lastWriter uid (servedAlong events) = some .registerCompleteWorker ∧
      ∃ worker,
        App.run (UserChoiceController.workerChoice success) oracle
            world.shared device =
          App.run (success true) (fun index => oracle (index + 3))
            world.shared
            { device with currentUser := some (.worker worker) }) ∨
    ((lastWriter uid (servedAlong events) = some .registerClient ∨
        lastWriter uid (servedAlong events) = none) ∧
      App.run (UserChoiceController.workerChoice success) oracle
          world.shared device =
        App.run (success false) (fun index => oracle (index + 2))
          world.shared device) := by
  have hclassified : Classified world ([] ++ servedAlong events) :=
    run_noted (fun _ _ _ _ hinv hstep => hinv.step hstep)
      Classified.initial events hrun
  rw [List.nil_append] at hclassified
  have hrecord := hclassified.records uid
  cases hlast : lastWriter uid (servedAlong events) with
  | none =>
      rw [hlast] at hrecord
      obtain ⟨error, herror⟩ := hrecord
      right
      exact ⟨Or.inr rfl, workerChoice_of_error hread herror success⟩
  | some writer =>
      rw [hlast] at hrecord
      cases writer with
      | registerClient =>
          obtain ⟨error, herror⟩ := hrecord
          right
          exact ⟨Or.inl rfl, workerChoice_of_error hread herror success⟩
      | registerCompleteWorker =>
          obtain ⟨worker, hworker, -⟩ := hrecord
          left
          exact ⟨rfl, worker, workerChoice_of_ok hread hworker hreturns⟩
      | other => exact hrecord.elim

end Classified

/-- A worker registers and completes the profile. -/
def completedRegistration : List (Event Unit Action Oracle) :=
  toRegisterForm .trabalhador ++
    perform (registers (picturedForm "Ana Souza" "ana@folium.work"))
      firstUid 8 ++
    perform (.finishComplement complementForm) firstUid 7

theorem workerChoice_tells_last_writer_completedRegistration :
    ∃ world worker,
      app.run (World.initial Unit) completedRegistration = some world ∧
      lastWriter firstUid (servedAlong completedRegistration) =
        some .registerCompleteWorker ∧
      App.run (UserChoiceController.workerChoice fun _ => pure ())
          (failingAt 9) world.shared signedInDevice =
        (.ok (), world.shared,
          { signedInDevice with currentUser := some (.worker worker) }) := by
  have hrun :
      (app.run (World.initial Unit) completedRegistration).isSome = true := by
    decide +kernel
  have hwriter : lastWriter firstUid (servedAlong completedRegistration) =
      some .registerCompleteWorker := by
    decide +kernel
  obtain ⟨world, hworld⟩ := Option.isSome_iff_exists.mp hrun
  rcases workerChoice_tells_last_writer completedRegistration hworld
      recordRead_signedInDevice (fun _ => pure ()) (fun _ _ _ => rfl) with
    ⟨-, worker, hchoice⟩ | ⟨hother, -⟩
  · exact ⟨world, worker, hworld, hwriter, hchoice⟩
  · rw [hwriter] at hother
    rcases hother with hclient | hnone
    · cases hclient
    · cases hnone

end FoliumApp
