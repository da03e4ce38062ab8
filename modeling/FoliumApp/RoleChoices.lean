import FoliumApp.Controllers

/-!
# The two role choices

`workerChoice` and `clientChoice` read the record of the account signed in,
decode it as a profile of the role chosen and hand over to their callback.
The callback is the only way off the loading screen.  `workerChoice` tells
its callback when the decoder raised; `clientChoice` lets the error through,
and its callback is then never called.
-/

namespace FoliumApp

open PathTree AsyncProgram UserChoiceController

/-! ## Decoding the record -/

def decodedWorker (data : Json) : Except DartError Worker := do
  Worker.fromDB (← Snapshot.ofValue data)

def decodedClient (data : Json) : Except DartError Client := do
  Client.fromDB (← Snapshot.ofValue data)

/-- The profile a role choice makes the session's, if it finds one. -/
def foundWorker (data : Json) : Option AnyUser :=
  match decodedWorker data with
  | .ok worker => some (.worker worker)
  | .error _ => none

def foundClient (data : Json) : Option AnyUser :=
  match decodedClient data with
  | .ok client => some (.client client)
  | .error _ => none

def isTextOrNull : Json → Bool
  | .null => true
  | .str _ => true
  | _ => false

def isMapOfTexts (keys : List String) : Json → Bool
  | .obj fields => keys.all fun key => isTextOrNull (Json.lookup key fields)
  | _ => false

def isUserRecord (data : Json) : Bool :=
  isMapOfTexts ["email", "name", "password", "birth", "image_url", "uid"]
      data &&
    isMapOfTexts ["city", "state", "country", "address"]
      (data.child "location")

/-- The records that decode as a client: maps with texts where the decoders
read texts, a map of texts for the location, and no list of favourites. -/
def isClientRecord (data : Json) : Bool :=
  isUserRecord data && data.child "favorite_list" matches .null

theorem asString_isOk_iff {value : Json} :
    (∃ text, asString value = .ok text) ↔ isTextOrNull value = true := by
  cases value <;> simp [asString, isTextOrNull]

theorem asStringMap_isOk_iff {value : Json} :
    (∃ entries, asStringMap value = .ok entries) ↔
      (value matches .null) = true := by
  cases value <;> simp [asStringMap]

theorem Snapshot.getData_map (fields : List (String × Json))
    (param : String) :
    (⟨some fields⟩ : Snapshot).getData param =
      .ok (Json.lookup param fields) := rfl

/-- Only a map or null is a snapshot's data. -/
theorem Snapshot.exists_ofValue_iff {accepts : Snapshot → Prop}
    (value : Json) :
    (∃ snapshot, Snapshot.ofValue value = .ok snapshot ∧
      accepts snapshot) ↔
      (∃ fields, value = .obj fields ∧ accepts ⟨some fields⟩) ∨
        (value = .null ∧ accepts ⟨none⟩) := by
  cases value <;>
    simp [Snapshot.ofValue, asMap, bind, Except.bind, pure, Except.pure]

theorem isMapOfTexts.isObj {keys : List String} {value : Json}
    (htexts : isMapOfTexts keys value = true) :
    ∃ fields, value = .obj fields := by
  cases value with
  | obj fields => exact ⟨fields, rfl⟩
  | _ => cases htexts

theorem isClientRecord.isObj {data : Json}
    (hclient : isClientRecord data = true) :
    ∃ fields, data = .obj fields := by
  unfold isClientRecord isUserRecord at hclient
  rw [Bool.and_eq_true, Bool.and_eq_true] at hclient
  exact isMapOfTexts.isObj hclient.1.1

theorem Location.fromBD_isOk_iff {fields : List (String × Json)} :
    (∃ location, Location.fromBD ⟨some fields⟩ = .ok location) ↔
      isMapOfTexts ["city", "state", "country", "address"] (.obj fields) =
        true := by
  simp [Location.fromBD, Snapshot.getData_map, except_bind_isOk_iff,
    asString_isOk_iff, isMapOfTexts, pure, Except.pure]

/-- A location that is missing or no map raises as well. -/
theorem Location.ofValue_isOk_iff (value : Json) :
    (∃ snapshot, Snapshot.ofValue value = .ok snapshot ∧
      ∃ location, Location.fromBD snapshot = .ok location) ↔
      isMapOfTexts ["city", "state", "country", "address"] value = true := by
  rw [Snapshot.exists_ofValue_iff]
  constructor
  · intro hok
    rcases hok with ⟨fields, rfl, hlocation⟩ | ⟨-, location, hlocation⟩
    · exact Location.fromBD_isOk_iff.mp hlocation
    · cases hlocation
  · intro htexts
    obtain ⟨fields, rfl⟩ := isMapOfTexts.isObj htexts
    exact Or.inl ⟨fields, rfl, Location.fromBD_isOk_iff.mpr htexts⟩

theorem User.fromDB_isOk_iff {fields : List (String × Json)} :
    (∃ user, User.fromDB ⟨some fields⟩ = .ok user) ↔
      isUserRecord (.obj fields) = true := by
  unfold isUserRecord
  rw [Bool.and_eq_true, ← Location.ofValue_isOk_iff]
  simp [User.fromDB, Snapshot.getData_map, except_bind_isOk_iff,
    asString_isOk_iff, isMapOfTexts, Json.child, Json.fieldsOf, and_assoc,
    pure, Except.pure]

theorem Client.fromDB_isOk_iff {fields : List (String × Json)} :
    (∃ client, Client.fromDB ⟨some fields⟩ = .ok client) ↔
      isClientRecord (.obj fields) = true := by
  unfold isClientRecord
  rw [Bool.and_eq_true, ← User.fromDB_isOk_iff, ← asStringMap_isOk_iff]
  simp [Client.fromDB, Snapshot.getData_map, except_bind_isOk_iff,
    Json.child, Json.fieldsOf, pure, Except.pure]

theorem decodedClient_isOk_iff (data : Json) :
    (∃ client, decodedClient data = .ok client) ↔
      isClientRecord data = true := by
  unfold decodedClient
  rw [except_bind_isOk_iff, Snapshot.exists_ofValue_iff]
  constructor
  · intro hok
    rcases hok with ⟨fields, rfl, hclient⟩ | ⟨-, client, hclient⟩
    · exact Client.fromDB_isOk_iff.mp hclient
    · cases hclient
  · intro hrecord
    obtain ⟨fields, rfl⟩ := isClientRecord.isObj hrecord
    exact Or.inl ⟨fields, rfl, Client.fromDB_isOk_iff.mpr hrecord⟩

/-! ## The choices on a decoded record -/

theorem workerChoice_eq (success : Bool → App Unit) :
    workerChoice success = (do
      let user ← FirebaseAuth.currentUser
      let uid ← Async.ofExcept (nonNull user)
      let data ← FirebaseDatabase.once (dataPath uid.val)
      match decodedWorker data with
      | .ok worker =>
          try
            LoginController.setCurrentUser (.worker worker)
            success true
          catch _ => success false
      | .error _ => success false) := by
  unfold workerChoice
  congr
  funext user
  congr
  funext uid
  congr
  funext data
  cases hsnapshot : Snapshot.ofValue data with
  | error error =>
      have hdecoded : decodedWorker data = .error error := by
        unfold decodedWorker
        rw [hsnapshot]
        rfl
      rw [hdecoded]
      rfl
  | ok snapshot =>
      have hdecoded : decodedWorker data = Worker.fromDB snapshot := by
        unfold decodedWorker
        rw [hsnapshot]
        rfl
      simp only [hdecoded, Async.ofExcept, Async.done_bind]
      cases Worker.fromDB snapshot with
      | error error => rfl
      | ok worker => rfl

theorem clientChoice_eq (success : App Unit) :
    clientChoice success = (do
      let user ← FirebaseAuth.currentUser
      let uid ← Async.ofExcept (nonNull user)
      let data ← FirebaseDatabase.once (dataPath uid.val)
      let client ← Async.ofExcept (decodedClient data)
      LoginController.setCurrentUser (.client client)
      success) := by
  unfold clientChoice
  congr
  funext user
  congr
  funext uid
  congr
  funext data
  unfold decodedClient
  cases Snapshot.ofValue data with
  | error error => rfl
  | ok snapshot => rfl

/-! ## One answer -/

/-- The account is signed in and its record can be read. -/
structure RecordRead (oracle : ℕ → Oracle) (device : Device)
    (uid : Segment) : Prop where
  signedIn : device.signedIn = some uid
  user : (oracle 0).ok = true
  read : (oracle 1).ok = true
  path : isValidPathString (dataPath uid.val) = true

def ReturnsNormally (program : App Unit) : Prop :=
  ∀ oracle backend device,
    (App.run program oracle backend device).1 = .ok ()

/-- The choice ends as one call of its callback does, made after a number of
requests that left the services alone; the session is the profile found, if
one was. -/
def AnswersOnce (choice : (α → App Unit) → App Unit) (answer : α)
    (found : Option AnyUser) (oracle : ℕ → Oracle) (backend : Backend)
    (device : Device) : Prop :=
  ∃ requests, ∀ success : α → App Unit,
    (∀ answer, ReturnsNormally (success answer)) →
      App.run (choice success) oracle backend device =
        App.run (success answer) (fun index => oracle (index + requests))
          backend
          { device with currentUser := found.or device.currentUser }

theorem ReturnsNormally.afterSession {program : App Unit}
    (hreturns : ReturnsNormally program) (user : AnyUser) :
    ReturnsNormally
      (LoginController.setCurrentUser user >>= fun _ => program) :=
  fun _ backend _ => hreturns _ backend _

section Choices

variable {oracle : ℕ → Oracle} {backend : Backend} {device : Device}
  {uid : Segment}

/-- Both choices get as far as the record. -/
theorem run_recordRead (hread : RecordRead oracle device uid)
    (next : Json → App α) :
    App.run
        (do
          let user ← FirebaseAuth.currentUser
          let uid ← Async.ofExcept (nonNull user)
          let data ← FirebaseDatabase.once (dataPath uid.val)
          next data)
        oracle backend device =
      App.run (next (backend.read (dataPath uid.val)))
        (fun index => oracle (index + 2)) backend device := by
  simp only [FirebaseAuth.currentUser, FirebaseDatabase.once,
    Async.request_bind, App.run_await, Request.exec, hread.user,
    hread.signedIn, Async.ofExcept, Async.done_bind, nonNull, hread.read,
    hread.path, Bool.and_self, if_true]

theorem workerChoice_of_ok (hread : RecordRead oracle device uid)
    {worker : Worker}
    (hworker : decodedWorker (backend.read (dataPath uid.val)) = .ok worker)
    {success : Bool → App Unit}
    (hreturns : ReturnsNormally (success true)) :
    App.run (workerChoice success) oracle backend device =
      App.run (success true) (fun index => oracle (index + 3)) backend
        { device with currentUser := some (.worker worker) } := by
  rw [workerChoice_eq, run_recordRead hread, hworker]
  exact App.run_tryCatch_of_ok (hreturns.afterSession _ _ _ _) _

theorem workerChoice_of_error (hread : RecordRead oracle device uid)
    {error : DartError}
    (hworker :
      decodedWorker (backend.read (dataPath uid.val)) = .error error)
    (success : Bool → App Unit) :
    App.run (workerChoice success) oracle backend device =
      App.run (success false) (fun index => oracle (index + 2)) backend
        device := by
  rw [workerChoice_eq, run_recordRead hread, hworker]

theorem clientChoice_of_ok (hread : RecordRead oracle device uid)
    {client : Client}
    (hclient : decodedClient (backend.read (dataPath uid.val)) = .ok client)
    (success : App Unit) :
    App.run (clientChoice success) oracle backend device =
      App.run success (fun index => oracle (index + 3)) backend
        { device with currentUser := some (.client client) } := by
  rw [clientChoice_eq, run_recordRead hread, hclient]
  rfl

theorem clientChoice_of_error (hread : RecordRead oracle device uid)
    {error : DartError}
    (hclient :
      decodedClient (backend.read (dataPath uid.val)) = .error error)
    (success : App Unit) :
    App.run (clientChoice success) oracle backend device =
      (.error error, backend, device) := by
  rw [clientChoice_eq, run_recordRead hread, hclient]
  rfl

theorem workerChoice_answersOnce (hread : RecordRead oracle device uid) :
    AnswersOnce workerChoice
      (foundWorker (backend.read (dataPath uid.val))).isSome
      (foundWorker (backend.read (dataPath uid.val))) oracle backend
      device := by
  unfold foundWorker
  cases hworker : decodedWorker (backend.read (dataPath uid.val)) with
  | ok worker =>
      refine ⟨3, ?_⟩
      intro success hreturns
      exact workerChoice_of_ok hread hworker (hreturns true)
  | error error =>
      refine ⟨2, ?_⟩
      intro success _
      exact workerChoice_of_error hread hworker success

theorem clientChoice_answersOnce_iff
    (hread : RecordRead oracle device uid) :
    AnswersOnce (fun success => clientChoice (success ())) ()
        (foundClient (backend.read (dataPath uid.val))) oracle backend
        device ↔
      isClientRecord (backend.read (dataPath uid.val)) = true := by
  rw [← decodedClient_isOk_iff]
  unfold foundClient
  cases hclient : decodedClient (backend.read (dataPath uid.val)) with
  | ok client =>
      refine iff_of_true ⟨3, ?_⟩ ⟨client, rfl⟩
      intro success _
      exact clientChoice_of_ok hread hclient (success ())
  | error error =>
      apply iff_of_false
      · intro hanswers
        obtain ⟨requests, hruns⟩ := hanswers
        have hrun := hruns (fun _ => pure ()) (fun _ _ _ _ => rfl)
        simp only [clientChoice_of_error hread hclient] at hrun
        cases congrArg Prod.fst hrun
      · intro hok
        obtain ⟨client, hclient⟩ := hok
        cases hclient

/-- Both choices end in one call of their callback, with the session
replaced exactly when the record decoded, if and only if the record has the
shape of a client's. -/
theorem role_choices_answer_once_iff
    (backend : Backend) (hread : RecordRead oracle device uid) :
    (AnswersOnce workerChoice
        (foundWorker (backend.read (dataPath uid.val))).isSome
        (foundWorker (backend.read (dataPath uid.val))) oracle backend
        device ∧
      AnswersOnce (fun success => clientChoice (success ())) ()
        (foundClient (backend.read (dataPath uid.val))) oracle backend
        device) ↔
      isClientRecord (backend.read (dataPath uid.val)) = true := by
  rw [clientChoice_answersOnce_iff hread]
  exact and_iff_right (workerChoice_answersOnce hread)

end Choices

def signedInDevice : Device :=
  { Device.fresh with signedIn := some firstUid }

/-- No call fails within a run this short. -/
theorem recordRead_signedInDevice :
    RecordRead (failingAt 9) signedInDevice firstUid :=
  ⟨rfl, rfl, rfl, by decide⟩

/-- A record with a location and no text at all. -/
def bareRecord : Backend :=
  Backend.empty.write (dataPath firstUid.val)
    (.obj [("location", .obj [("city", .str "Xapuri")])])

theorem role_choices_answer_once_bareRecord :
    AnswersOnce workerChoice false none (failingAt 9) bareRecord
        signedInDevice ∧
      AnswersOnce (fun success => clientChoice (success ())) ()
        (foundClient (bareRecord.read (dataPath firstUid.val)))
        (failingAt 9) bareRecord signedInDevice :=
  (role_choices_answer_once_iff bareRecord recordRead_signedInDevice).mpr
    (by decide +kernel)

theorem clientChoice_silent_without_record :
    ¬ ∀ (oracle : ℕ → Oracle) (backend : Backend) (device : Device)
        (uid : Segment), RecordRead oracle device uid →
      AnswersOnce workerChoice
          (foundWorker (backend.read (dataPath uid.val))).isSome
          (foundWorker (backend.read (dataPath uid.val))) oracle backend
          device ∧
        AnswersOnce (fun success => clientChoice (success ())) ()
          (foundClient (backend.read (dataPath uid.val))) oracle backend
          device := by
  intro hall
  obtain ⟨-, requests, hruns⟩ :=
    hall (failingAt 9) Backend.empty signedInDevice firstUid
      recordRead_signedInDevice
  have hrun := hruns (fun _ => pure ()) (fun _ _ _ _ => rfl)
  have hraised : App.run (clientChoice (pure ())) (failingAt 9)
      Backend.empty signedInDevice =
        (.error .noSuchMethod, Backend.empty, signedInDevice) := rfl
  rw [hraised] at hrun
  cases congrArg Prod.fst hrun

end FoliumApp
