import FoliumApp.Controllers

/-!
# Storing a profile and reading it back

A profile is written to `users/<uid>/data` by its encoder and read by its
decoder on a later login.  The store drops nulls and empty maps; that costs
the client its empty list of favourites.  The rest of the loss is in the
encoders and decoders themselves: the birth date is read but never written,
and the coordinates are written, one of them under a misspelt key, but never
read.
-/

namespace FoliumApp

open PathTree AsyncProgram

/-- The client is stored at `users/<uid>/data` and decoded again. -/
def Client.storedAndRead (backend : Backend) (client : Client) :
    Except DartError Client := do
  let path := dataPath (interpolate client.uid)
  let data ← client.toJson
  Client.fromDB (← Snapshot.ofValue ((backend.write path data).read path))

def Worker.storedAndRead (backend : Backend) (worker : Worker) :
    Except DartError Worker := do
  let path := dataPath (interpolate worker.uid)
  let data ← worker.toJson
  Worker.fromDB (← Snapshot.ofValue ((backend.write path data).read path))

/-! ## Clients -/

theorem Client.storedAndRead_eq
    (backend : Backend) {client : Client} {location : Location}
    (hlocation : client.location = some location)
    (haddress : location.address ≠ none)
    (hname : client.name ≠ none)
    (hfavorites : client.favoriteList = some []) :
    client.storedAndRead backend =
      .ok
        { toUser := client.toUser.readBack location
          favoriteList := none } := by
  have hjson :
      client.toJson = .ok (.obj (client.fields location)) := by
    simp only [Client.toJson, hlocation, nonNull, bind, Except.bind]
    rfl
  have hsnapshot :
      Snapshot.ofValue (Json.obj (client.fields location)).prune =
        .ok (Snapshot.stored (client.fields location)) :=
    Snapshot.ofValue_stored_text (client.fields_nodup location)
      "name" rfl hname
  simp only [Client.storedAndRead, hjson, bind, Except.bind,
    Backend.read_write, hsnapshot]
  exact Client.fromDB_stored client location haddress hfavorites

theorem newClient_toJson
    (name email country city state : String) (birth : DateTime)
    (uid imageUrl : String) :
    (SimpleRegisterController.newClient name email country city state birth
        uid imageUrl).toJson =
      .ok (.obj
        ((SimpleRegisterController.newClient name email country city state
          birth uid imageUrl).fields
          (SimpleRegisterController.newLocation country city state))) := rfl

/-- A registered client comes back without birth date, coordinates and list
of favourites. -/
theorem newClient_storedAndRead
    (backend : Backend) (name email country city state : String)
    (birth : DateTime) (uid imageUrl : String) :
    (SimpleRegisterController.newClient name email country city state
        birth uid imageUrl).storedAndRead backend =
      .ok
        { email := some email, name := some name, password := some ""
          birth := none, imageUrl := some imageUrl, uid := some uid
          location := some
            { city := some city, state := some state
              country := some country, address := some ""
              latitude := none, longitude := none }
          favoriteList := none } := by
  rw [Client.storedAndRead_eq backend rfl
    (by simp [SimpleRegisterController.newLocation])
    (by simp [SimpleRegisterController.newClient, Client.new]) rfl]
  rfl

/-! ## Workers -/

theorem Worker.Completed.storedAndRead_eq
    {worker : Worker} {location : Location} {attendance : Attendance}
    {social : Social} {occupation : Occupation}
    (h : worker.Completed location attendance social occupation)
    (backend : Backend) :
    worker.storedAndRead backend =
      .ok { worker with
        toUser := worker.toUser.readBack location } := by
  have hsnapshot :
      Snapshot.ofValue
          (Json.obj
            (worker.fields location attendance social occupation)).prune =
        .ok
          (Snapshot.stored
            (worker.fields location attendance social occupation)) := by
    apply Snapshot.ofValue_prune_obj
      (worker.fields_nodup location attendance social occupation)
      "occupation"
    rw [show Json.lookup "occupation"
        (worker.fields location attendance social occupation) =
          .obj occupation.fields from rfl]
    intro hnull
    have hchild :=
      Json.child_prune_obj occupation.fields_nodup "description"
    rw [hnull] at hchild
    obtain ⟨text, htext⟩ := Option.ne_none_iff_exists'.mp h.description
    rw [show Json.lookup "description" occupation.fields =
        ofString occupation.description from rfl, htext] at hchild
    simp [ofString, Json.prune] at hchild
  simp only [Worker.storedAndRead, h.toJson_eq, bind, Except.bind,
    Backend.read_write, hsnapshot]
  exact h.fromDB_stored

theorem complete_completed
    (worker : Worker) (location : Location) (form : Complement) :
    (WorkerComplementController.complete worker location form).Completed
      { location with address := some form.address }
      { cash := some form.cash, check := some form.check
        creditCard := some form.creditCard
        homeCare := some form.homeCare
        freeBudget := some form.freeBudget }
      { facebook := some form.facebook, instagram := some form.instagram
        whatsApp := some form.whatsApp, link := some "" }
      { area := some form.category.uid
        description := some form.description } := by
  constructor <;> simp [WorkerComplementController.complete]

theorem complete_storedAndRead
    (backend : Backend) (worker : Worker) (location : Location)
    (form : Complement) :
    (WorkerComplementController.complete worker location
        form).storedAndRead backend =
      .ok { WorkerComplementController.complete worker location form with
        birth := none
        location := some
          { location with
            address := some form.address
            latitude := none, longitude := none } } := by
  rw [(complete_completed worker location form).storedAndRead_eq backend]
  rfl

/-- What `registerCompleteWorker` stores for a worker. -/
def completedProfile (worker : Worker) (location : Location)
    (form : Complement) : Json :=
  .obj ((WorkerComplementController.complete worker location form).fields
    { location with address := some form.address }
    { cash := some form.cash, check := some form.check
      creditCard := some form.creditCard
      homeCare := some form.homeCare
      freeBudget := some form.freeBudget }
    { facebook := some form.facebook, instagram := some form.instagram
      whatsApp := some form.whatsApp, link := some "" }
    { area := some form.category.uid
      description := some form.description })

section Completed

variable (worker : Worker) (location : Location) (form : Complement)

theorem complete_toJson :
    (WorkerComplementController.complete worker location form).toJson =
      .ok (completedProfile worker location form) :=
  (complete_completed worker location form).toJson_eq

/-- The profile stored is decoded as the completed worker, up to the fields
that no profile keeps. -/
theorem completedProfile_decoded :
    (Snapshot.ofValue (completedProfile worker location form).prune >>=
        Worker.fromDB) =
      .ok { WorkerComplementController.complete worker location form with
        birth := none
        location := some
          { location with
            address := some form.address
            latitude := none, longitude := none } } := by
  have hread := complete_storedAndRead Backend.empty worker location form
  simp only [Worker.storedAndRead, complete_toJson, bind, Except.bind,
    Backend.read_write] at hread
  exact hread

variable {worker location}

theorem registerCompleteWorker_of_location
    (hlocation : worker.location = some location) :
    WorkerComplementController.registerCompleteWorker (some worker) form =
      (do
        LoginController.setCurrentUser
          (.worker
            (WorkerComplementController.complete worker location form))
        let data ←
          sendData (completedProfile worker location form)
            (dataPath (interpolate worker.uid))
        let time ← DateTime.now
        let reference ←
          sendData (.obj [("time", .str time.toString)])
            (WorkerComplementController.workerDirectoryPath worker location
              form.category.uid)
        return data && reference) := by
  unfold WorkerComplementController.registerCompleteWorker
  simp only [hlocation, nonNull, Async.ofExcept, Async.done_bind]
  rw [complete_toJson]
  rfl

/-- Both writes are tried, each on its own, and the session holds the
completed worker whatever they do. -/
theorem run_registerCompleteWorker
    (hlocation : worker.location = some location) (oracle : ℕ → Oracle)
    (backend : Backend) (device : Device) :
    App.run
        (WorkerComplementController.registerCompleteWorker (some worker)
          form)
        oracle backend device =
      let dataPath := dataPath (interpolate worker.uid)
      let entryPath :=
        WorkerComplementController.workerDirectoryPath worker location
          form.category.uid
      let dataWritten := (oracle 1).ok && isValidPathString dataPath
      let entryWritten := (oracle 3).ok && isValidPathString entryPath
      let stored :=
        if dataWritten then
          backend.write dataPath (completedProfile worker location form)
        else backend
      (.ok (dataWritten && entryWritten),
        if entryWritten then
          stored.write entryPath
            (.obj [("time", .str (oracle 2).time.toString)])
        else stored,
        { device with
          currentUser := some (.worker
            (WorkerComplementController.complete worker location
              form)) }) := by
  rw [registerCompleteWorker_of_location form hlocation]
  simp only [LoginController.setCurrentUser, DateTime.now,
    Async.request_bind, App.run_await, Request.exec, Async.ofExcept,
    Async.done_bind, run_sendData_bind]
  rfl

end Completed

/-! ## No profile comes back unchanged -/

/-- The worker that a registration builds and the form then completes. -/
def completedWorker (name email country city state : String)
    (birth : DateTime) (uid imageUrl : String) (form : Complement) :
    Worker :=
  WorkerComplementController.complete
    (SimpleRegisterController.newWorker name email country city state birth
      uid imageUrl)
    (SimpleRegisterController.newLocation country city state) form

/-- No client a registration builds and no worker a registration and a
completion build is read back equal to what was stored. -/
theorem stored_profiles_never_read_back_unchanged
    (backend : Backend) (name email country city state : String)
    (birth : DateTime) (uid imageUrl : String) (form : Complement) :
    (SimpleRegisterController.newClient name email country city state
        birth uid imageUrl).storedAndRead backend ≠
      .ok (SimpleRegisterController.newClient name email country city state
        birth uid imageUrl) ∧
    (completedWorker name email country city state birth uid imageUrl
        form).storedAndRead backend ≠
      .ok (completedWorker name email country city state birth uid imageUrl
        form) := by
  constructor
  · rw [newClient_storedAndRead]
    intro heq
    have hclient := Except.ok.inj heq
    have hbirth := congrArg (fun client : Client => client.birth) hclient
    simp [SimpleRegisterController.newClient, Client.new] at hbirth
  · rw [completedWorker, complete_storedAndRead]
    intro heq
    have hworker := Except.ok.inj heq
    have hbirth := congrArg (fun worker : Worker => worker.birth) hworker
    simp [SimpleRegisterController.newWorker,
      WorkerComplementController.complete] at hbirth

theorem stored_client_loses_birth :
    let client :=
      SimpleRegisterController.newClient "Ana Souza" "ana@folium.work" "BR"
        "Xapuri" "Acre" ⟨1990, 5, 17, 0, 0, 0, 0, 0⟩ "a1" ""
    client.storedAndRead Backend.empty ≠ .ok client ∧
      client.birth = some "1990-05-17 00:00:00.000" := by
  intro client
  refine ⟨?_, rfl⟩
  rw [newClient_storedAndRead]
  intro heq
  have hclient := Except.ok.inj heq
  have hbirth := congrArg (fun client : Client => client.birth) hclient
  simp [client, SimpleRegisterController.newClient, Client.new] at hbirth

end FoliumApp
