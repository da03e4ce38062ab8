import FoliumApp.ProfileRoundTrip
import FoliumApp.RoleChoices
import FoliumApp.Screens

/-!
# What the handlers ask of the services

Said once for every handler: which account requests it makes, where it writes
to the database and what it puts in the session.  Two functions write
profiles, `registerClient` and `registerCompleteWorker`; photos lie next to
the profile and directory entries elsewhere; only `logOut` signs out.  The
rule needs one fact about the session, that a worker in it has the uid of an
account, and keeps it.
-/

namespace FoliumApp

open PathTree AsyncProgram

/-! ## Writers -/

inductive Writer where
  | registerClient
  | registerCompleteWorker
  | other
  deriving DecidableEq

/-- The function that makes the database writes of an action. -/
def Action.writer : Action → Writer
  | .register _ _ => .registerClient
  | .finishComplement _ => .registerCompleteWorker
  | _ => .other

def recordPieces (uid : Segment) : List String := ["users", uid.val, "data"]

/-! ## Records and their writers -/

def Worker.Named (worker : Worker) : Prop :=
  ∃ uid : Segment, worker.uid = some uid.val

/-- What a record is like after its last write; no other function writes
any. -/
def RecordOf : Option Writer → Json → Prop
  | some .registerCompleteWorker, data =>
      ∃ worker, decodedWorker data = .ok worker ∧ worker.Named
  | some .other, _ => False
  | _, data => ∃ error, decodedWorker data = .error error

theorem decodedWorker_error_of_attendance {data : Json}
    (hattendance : data.child "attendance" = .null) :
    ∃ error, decodedWorker data = .error error := by
  cases hdata : decodedWorker data with
  | error error => exact ⟨error, rfl⟩
  | ok worker =>
      obtain ⟨snapshot, hsnapshot, hworker⟩ := except_bind_ok hdata
      obtain ⟨entries, hentries, hsnapshot⟩ := except_bind_ok hsnapshot
      cases hsnapshot
      unfold Worker.fromDB at hworker
      obtain ⟨_, -, hworker⟩ := except_bind_ok hworker
      obtain ⟨value, hvalue, hworker⟩ := except_bind_ok hworker
      obtain ⟨part, hpart, hworker⟩ := except_bind_ok hworker
      obtain ⟨attendance, hraises, -⟩ := except_bind_ok hworker
      have hnull : value = .null := by
        cases entries with
        | none => cases hvalue
        | some fields =>
            have hfields : data = .obj fields := by
              cases data <;> simp_all [asMap]
            subst hfields
            cases hvalue
            exact hattendance
      subst hnull
      cases hpart
      cases hraises

theorem recordOf_newClient
    (name email country city state : String) (birth : DateTime)
    (uid imageUrl : String) :
    RecordOf (some .registerClient)
      (Json.obj
        ((SimpleRegisterController.newClient name email country city state
          birth uid imageUrl).fields
          (SimpleRegisterController.newLocation country city
            state))).prune := by
  apply decodedWorker_error_of_attendance
  rw [Json.child_prune_obj (Client.fields_nodup _ _)]
  rfl

theorem recordOf_completedProfile {worker : Worker} (hnamed : worker.Named)
    (location : Location) (form : Complement) :
    RecordOf (some .registerCompleteWorker)
      (completedProfile worker location form).prune :=
  ⟨_, completedProfile_decoded worker location form, hnamed⟩

/-! ## The requests of a handler -/

/-- A profile written is one the writer of the action makes, every other
write lies elsewhere, a worker put in the session has the uid of an account,
and nothing but `logOut` signs out. -/
def Request.MadeFor (action : Action) : Request → Prop
  | .signOut => action = .logOut
  | .set path value =>
      (∃ uid : Segment, pieces path = recordPieces uid ∧
        RecordOf (some action.writer) value.prune) ∨
      ∀ uid : Segment, Json.Apart (pieces path) (recordPieces uid)
  | .remove path =>
      ∀ uid : Segment, Json.Apart (pieces path) (recordPieces uid)
  | .setSession (.worker worker) => worker.Named
  | _ => True

/-- A record that decodes as a worker's names an account. -/
def Request.FindsNamed : (request : Request) →
    Except DartError request.Answer → Prop
  | .once path, .ok data =>
      ∀ uid : Segment, path = dataPath uid.val →
        ∀ worker, decodedWorker data = .ok worker → worker.Named
  | _, _ => True

def Device.SessionNamed (device : Device) : Prop :=
  ∀ worker, device.currentUser = some (.worker worker) → worker.Named

abbrev namedOutcomes (device : Device) (request : Request)
    (answer : Except DartError request.Answer) (next : Device) : Prop :=
  request.Outcome device answer next ∧ request.FindsNamed answer

/-- From a device with a named session the program makes requests of its
action alone, and keeps the session named. -/
abbrev WorksFor (action : Action) (result : α → Prop) (program : App α) :
    Prop :=
  Async.Keeps namedOutcomes (fun _ request => request.MadeFor action)
    Device.SessionNamed result program

section Programs

variable {action : Action}

theorem sessionNamed_of_outcome {request : Request}
    (hmade : request.MadeFor action) {device next : Device}
    (hnamed : device.SessionNamed)
    {answer : Except DartError request.Answer}
    (houtcome : request.Outcome device answer next) :
    next.SessionNamed := by
  intro worker hworker
  cases hsets : request.changesSession with
  | false =>
      rw [houtcome.currentUser_eq hsets] at hworker
      exact hnamed worker hworker
  | true =>
      cases request with
      | setSession user =>
          obtain ⟨-, rfl⟩ := houtcome
          cases hworker
          exact hmade
      | _ => cases hsets

theorem worksFor_request (request : Request)
    (hmade : request.MadeFor action) :
    WorksFor action (fun _ => True) (Async.request request : App _) := by
  apply Async.keeps_request
  · intro _ _
    exact hmade
  · intro device answer next hnamed houtcome
    refine ⟨sessionNamed_of_outcome hmade hnamed houtcome.1, ?_⟩
    intro _ _
    trivial

theorem worksFor_of_onlyReads {program : App α}
    (hreads : App.OnlyReads program) :
    WorksFor action (fun _ => True) program := by
  apply hreads.keeps
  intro request hrequest
  apply worksFor_request
  cases hrequest <;> trivial

theorem worksFor_navigate (navigation : Navigation) :
    WorksFor action (fun _ => True) (Navigator.navigate navigation) :=
  worksFor_request (.navigate navigation) trivial

theorem worksFor_setLoad (load : Bool) :
    WorksFor action (fun _ => True) (setLoad load) :=
  worksFor_request (.setLoad load) trivial

theorem worksFor_showSnackBar (text : String) :
    WorksFor action (fun _ => True) (showSnackBar text) :=
  worksFor_request (.showSnackBar text) trivial

theorem worksFor_setCurrentUser_worker {worker : Worker}
    (hnamed : worker.Named) :
    WorksFor action (fun _ => True)
      (LoginController.setCurrentUser (.worker worker)) :=
  worksFor_request (.setSession (.worker worker)) hnamed

theorem worksFor_currentUid :
    WorksFor action (fun uid => ∃ user : Segment, uid = user.val)
      currentUid := by
  apply Async.Keeps.bind (worksFor_request .currentUser trivial)
  intro user _
  apply Async.Keeps.bind (Async.keeps_ofExcept_any (nonNull user))
  intro uid _
  exact Async.keeps_done ⟨uid, rfl⟩

theorem pieces_dataPath_segment (uid : Segment) :
    pieces (dataPath uid.val) = recordPieces uid :=
  pieces_dataPath_user uid.property

theorem worksFor_sendRecord {uid : Segment} {data : Json}
    (hrecord : RecordOf (some action.writer) data.prune) :
    WorksFor action (fun _ => True) (sendData data (dataPath uid.val)) :=
  keeps_sendData (worksFor_request (.set _ data)
    (Or.inl ⟨uid, pieces_dataPath_segment uid, hrecord⟩))

theorem worksFor_sendElsewhere {path : String} {data : Json}
    (hapart : ∀ uid : Segment, Json.Apart (pieces path) (recordPieces uid)) :
    WorksFor action (fun _ => True) (sendData data path) :=
  keeps_sendData (worksFor_request (.set path data) (Or.inr hapart))

/-! ## Registration -/

theorem worksFor_createUid (email password : String) :
    WorksFor action (fun uid => ∃ user : Segment, uid = user.val)
      (SimpleRegisterController.createUid email password) := by
  apply Async.Keeps.bind
    (worksFor_request (.createUserWithEmailAndPassword email password)
      trivial)
  intro uid _
  exact Async.keeps_done ⟨uid, rfl⟩

theorem worksFor_uploadProfilePicture (file : File) (uid : String) :
    WorksFor action (fun _ => True)
      (SimpleRegisterController.uploadProfilePicture file uid) := by
  apply Async.Keeps.bind (worksFor_request (.putFile _ file) trivial)
  intro _ _
  exact worksFor_request (.getDownloadURL _) trivial

/-- The uid reported by a registration that succeeded is an account's. -/
theorem worksFor_registerUser (email password : String)
    (profilePicture : Option File) :
    WorksFor action
      (fun user => user.result = true → ∃ uid : Segment, user.uid = uid.val)
      (SimpleRegisterController.registerUser email password
        profilePicture) := by
  apply Async.Keeps.tryCatch
  · apply Async.Keeps.bind (worksFor_createUid email password)
    intro uid huid
    cases profilePicture with
    | none => exact Async.keeps_done (fun _ => huid)
    | some file =>
        apply Async.Keeps.bind (worksFor_uploadProfilePicture file uid)
        intro imageUrl _
        exact Async.keeps_done (fun _ => huid)
  · intro error
    apply Async.keeps_done
    intro hfalse
    cases hfalse

theorem worksFor_registerClient (form : RegisterForm)
    (agrees : Option Selection) (name email country city state : String) (birth : DateTime)
    (uid : Segment) (imageUrl : String) :
    WorksFor (.register form agrees) (fun _ => True)
      (SimpleRegisterController.registerClient name email country city state
        birth uid.val imageUrl) := by
  apply Async.Keeps.tryCatch
  · have hsend : WorksFor (.register form agrees) (fun _ => True)
        (SimpleRegisterController.sendUser
          (.client
            (SimpleRegisterController.newClient name email country city
              state birth uid.val imageUrl))) := by
      unfold SimpleRegisterController.sendUser
      simp only [AnyUser.toJson, newClient_toJson, Async.ofExcept,
        Async.done_bind]
      exact worksFor_sendRecord (recordOf_newClient _ _ _ _ _ _ _ _)
    apply Async.Keeps.bind hsend
    intro _ _
    apply Async.Keeps.bind
      (worksFor_request (.setSession (.client _)) trivial)
    intro _ _
    exact Async.keeps_done trivial
  · intro error
    exact Async.keeps_done trivial

theorem worksFor_registerWorker
    (name email country city state : String) (birth : DateTime)
    (uid : Segment) (imageUrl : String) :
    WorksFor action (fun _ => True)
      (SimpleRegisterController.registerWorker name email country city state
        birth uid.val imageUrl) := by
  apply Async.Keeps.tryCatch
  · apply Async.Keeps.bind (worksFor_setCurrentUser_worker ⟨uid, rfl⟩)
    intro _ _
    exact Async.keeps_done trivial
  · intro error
    exact Async.keeps_done trivial

theorem worksFor_registerAccount (typeUser : TypeUser)
    (form read : RegisterForm) (agrees : Option Selection)
    (date : DateTime) :
    WorksFor (.register form agrees) (fun _ => True)
      (SimpleRegister.registerAccount typeUser read date) := by
  apply Async.Keeps.bind
    (worksFor_registerUser read.email read.password read.image)
  intro user huser
  cases hresult : user.result with
  | false =>
      simp only [Bool.false_eq_true, if_false]
      exact Async.keeps_done trivial
  | true =>
      obtain ⟨uid, huid⟩ := huser hresult
      simp only [if_true, huid]
      cases typeUser with
      | cliente =>
          apply Async.Keeps.bind
            (worksFor_registerClient form agrees _ _ _ _ _ _ uid _)
          intro profile _
          exact Async.keeps_done trivial
      | trabalhador =>
          apply Async.Keeps.bind
            (worksFor_registerWorker _ _ _ _ _ _ uid _)
          intro profile _
          exact Async.keeps_done trivial

theorem worksFor_agree (typeUser : TypeUser) (form read : RegisterForm)
    (agrees : Option Selection) (date : DateTime) :
    WorksFor (.register form agrees) (fun _ => True)
      (SimpleRegister.agree typeUser read date) := by
  apply Async.Keeps.bind (worksFor_setLoad true)
  intro _ _
  apply Async.Keeps.bind
    (worksFor_registerAccount typeUser form read agrees date)
  intro result _
  cases result with
  | false => exact worksFor_showSnackBar _
  | true =>
      cases typeUser with
      | cliente => exact worksFor_navigate _
      | trabalhador => exact worksFor_navigate _

theorem worksFor_btnRegisterClicked (typeUser : TypeUser)
    (form : RegisterForm) (agrees : Option Selection) :
    WorksFor (.register form agrees) (fun _ => True)
      (SimpleRegister.btnRegisterClicked typeUser form agrees) := by
  apply SimpleRegister.btnRegisterClicked_rule
  · exact worksFor_showSnackBar
  · exact Async.keeps_done trivial
  · intro date next hnext
    apply Async.Keeps.bind
      (worksFor_of_onlyReads (SimpleRegister.onlyReads_ageRefused date))
    intro refused _
    exact hnext refused
  · intro held
    exact worksFor_agree typeUser form (form.holding held) agrees

/-! ## The other handlers -/

theorem worksFor_checkHome : WorksFor action (fun _ => True) Home.check := by
  apply Async.Keeps.bind
    (worksFor_of_onlyReads LoginController.onlyReads_checkUserLogged)
  intro signedIn _
  split_ifs
  · exact worksFor_navigate _
  · exact Async.keeps_done trivial

theorem worksFor_launch : WorksFor action (fun _ => True) launch := by
  apply Async.Keeps.bind (worksFor_navigate _)
  intro _ _
  exact worksFor_checkHome

theorem worksFor_login (email password : String) :
    WorksFor action (fun _ => True) (Login.login email password) := by
  have hlogin : WorksFor action (fun _ => True)
      (LoginController.login email password) := by
    apply Async.Keeps.tryCatch
    · apply Async.Keeps.bind
        (worksFor_request (.signInWithEmailAndPassword email password)
          trivial)
      intro _ _
      exact Async.keeps_done trivial
    · intro error
      exact Async.keeps_done trivial
  apply Async.Keeps.bind (worksFor_setLoad true)
  intro _ _
  apply Async.Keeps.bind hlogin
  intro result _
  split_ifs
  · apply Async.Keeps.bind (worksFor_setLoad false)
    intro _ _
    exact worksFor_navigate _
  · apply Async.Keeps.bind (worksFor_setLoad false)
    intro _ _
    exact worksFor_showSnackBar _

theorem worksFor_userChoice_client :
    WorksFor action (fun _ => True) UserChoice.client := by
  unfold UserChoice.client
  rw [clientChoice_eq]
  apply Async.Keeps.bind (worksFor_setLoad true)
  intro _ _
  apply Async.Keeps.bind (worksFor_request .currentUser trivial)
  intro user _
  apply Async.Keeps.bind (Async.keeps_ofExcept_any _)
  intro uid _
  apply Async.Keeps.bind (worksFor_request (.once _) trivial)
  intro data _
  apply Async.Keeps.bind (Async.keeps_ofExcept_any _)
  intro client _
  apply Async.Keeps.bind
    (worksFor_request (.setSession (.client client)) trivial)
  intro _ _
  exact worksFor_navigate _

/-- A record read by a role choice names an account if it is a worker's. -/
theorem worksFor_once (uid : Segment) :
    WorksFor action
      (fun data => ∀ worker, decodedWorker data = .ok worker →
        worker.Named)
      (FirebaseDatabase.once (dataPath uid.val)) := by
  apply Async.keeps_request
  · intro _ _
    trivial
  · intro device answer next hnamed houtcome
    have hmade : (Request.once (dataPath uid.val)).MadeFor action :=
      trivial
    refine ⟨sessionNamed_of_outcome hmade hnamed houtcome.1, ?_⟩
    intro data heq
    subst heq
    exact houtcome.2 uid rfl

theorem worksFor_userChoice_worker :
    WorksFor action (fun _ => True) UserChoice.worker := by
  unfold UserChoice.worker
  rw [workerChoice_eq]
  apply Async.Keeps.bind (worksFor_setLoad true)
  intro _ _
  apply Async.Keeps.bind (worksFor_request .currentUser trivial)
  intro user _
  apply Async.Keeps.bind (Async.keeps_ofExcept_any _)
  intro uid _
  apply Async.Keeps.bind (worksFor_once uid)
  intro data hdata
  cases hworker : decodedWorker data with
  | error error => exact worksFor_navigate _
  | ok worker =>
      apply Async.Keeps.tryCatch
      · apply Async.Keeps.bind
          (worksFor_setCurrentUser_worker (hdata worker hworker))
        intro _ _
        exact worksFor_navigate _
      · intro error
        exact worksFor_navigate _

theorem worksFor_registerCompleteWorker {worker : Worker}
    (hnamed : worker.Named) (form : Complement) :
    WorksFor (.finishComplement form) (fun _ => True)
      (WorkerComplementController.registerCompleteWorker (some worker)
        form) := by
  cases hlocation : worker.location with
  | none =>
      unfold WorkerComplementController.registerCompleteWorker
      simp only [nonNull, Async.ofExcept, Async.done_bind, hlocation]
      exact Async.keeps_ofExcept_any (.error DartError.noSuchMethod)
  | some location =>
      have hcompleted :
          (WorkerComplementController.complete worker location
            form).Named := hnamed
      have hrecord :
          RecordOf (some (Action.finishComplement form).writer)
            (completedProfile worker location form).prune :=
        recordOf_completedProfile hnamed location form
      obtain ⟨uid, huid⟩ := hnamed
      rw [registerCompleteWorker_of_location form hlocation, huid]
      apply Async.Keeps.bind (worksFor_setCurrentUser_worker hcompleted)
      intro _ _
      apply Async.Keeps.bind (worksFor_sendRecord hrecord)
      intro _ _
      apply Async.Keeps.bind (worksFor_request .now trivial)
      intro time _
      have hentry : WorksFor (.finishComplement form) (fun _ => True)
          (sendData (.obj [("time", .str time.toString)])
            (WorkerComplementController.workerDirectoryPath worker location
              form.category.uid)) := by
        apply worksFor_sendElsewhere
        intro other
        rw [← pieces_dataPath_segment]
        exact apart_directoryPath_dataPath _ _ _ _ _ _
      apply Async.Keeps.bind hentry
      intro _ _
      exact Async.keeps_done trivial

theorem worksFor_finishComplement (form : Complement) :
    WorksFor (.finishComplement form) (fun _ => True)
      (WorkerComplement.finishComplement form) := by
  have hworker : WorksFor (.finishComplement form)
      (fun worker => ∀ profile, worker = some profile → profile.Named)
      LoginController.getCurrentWorker := by
    have hsession : WorksFor (.finishComplement form)
        (fun user => ∀ profile, user = some (.worker profile) →
          profile.Named)
        (Async.request Request.getSession : App _) := by
      apply Async.keeps_request
      · intro _ _
        trivial
      · intro device answer next hnamed houtcome
        obtain ⟨⟨hanswer, rfl⟩, -⟩ := houtcome
        refine ⟨hnamed, ?_⟩
        intro user heq
        rw [hanswer] at heq
        cases heq
        exact hnamed
    apply Async.Keeps.bind hsession
    intro user huser
    apply Async.keeps_ofExcept
    intro worker hworker profile hprofile
    subst hprofile
    cases user with
    | none => cases hworker
    | some user =>
        cases user with
        | client client => cases hworker
        | worker found =>
            cases hworker
            exact huser _ rfl
  unfold WorkerComplement.finishComplement
  cases WorkerComplement.refusal form with
  | some text => exact worksFor_showSnackBar text
  | none =>
      apply Async.Keeps.bind (worksFor_setLoad true)
      intro _ _
      apply Async.Keeps.bind hworker
      intro worker hnamed
      have hregister : WorksFor (.finishComplement form) (fun _ => True)
          (WorkerComplementController.registerCompleteWorker worker
            form) := by
        cases worker with
        | none => exact Async.keeps_ofExcept_any (.error DartError.noSuchMethod)
        | some profile =>
            exact worksFor_registerCompleteWorker (hnamed profile rfl) form
      apply Async.Keeps.bind hregister
      intro result _
      split_ifs
      · exact worksFor_navigate _
      · exact worksFor_showSnackBar _

theorem apart_photoPath {uid : Segment} (key : String) (other : Segment) :
    Json.Apart (pieces (photoPath uid.val key)) (recordPieces other) := by
  rw [pieces_photoPath_user uid.property]
  exact Json.apart_of_getElem_ne 2 (by simp) (by simp [recordPieces])
    (by simp [recordPieces])

theorem worksFor_loadPictures :
    WorksFor action (fun _ => True) PhotosController.loadPictures :=
  worksFor_of_onlyReads PhotosController.onlyReads_loadPictures

theorem worksFor_updatePhotosList :
    WorksFor action (fun _ => True) PhotosWorker.updatePhotosList := by
  apply Async.Keeps.bind (worksFor_setLoad false)
  intro _ _
  exact worksFor_loadPictures.ignore

theorem worksFor_photosWorker_delete (uidImage : String) :
    WorksFor action (fun _ => True) (PhotosWorker.delete uidImage) := by
  have hdelete : WorksFor action (fun _ => True)
      (PhotosController.deletePicture uidImage) := by
    apply Async.Keeps.bind worksFor_currentUid
    intro uid huid
    obtain ⟨user, rfl⟩ := huid
    apply Async.Keeps.bind (worksFor_request (.delete _) trivial)
    intro _ _
    apply Async.Keeps.bind
      (worksFor_request (.remove _) (apart_photoPath uidImage))
    intro _ _
    exact Async.keeps_done trivial
  apply Async.Keeps.bind (worksFor_setLoad true)
  intro _ _
  apply Async.Keeps.bind hdelete
  intro _ _
  exact worksFor_updatePhotosList

theorem worksFor_addPicture (description : String) (file : File) :
    WorksFor action (fun _ => True)
      (PhotosController.addPicture description file) := by
  apply Async.Keeps.tryCatch
  · apply Async.Keeps.bind worksFor_currentUid
    intro uid huid
    obtain ⟨user, rfl⟩ := huid
    apply Async.Keeps.bind (worksFor_request .pushKey trivial)
    intro key _
    have hupload : WorksFor action (fun _ => True)
        (PhotosController.uploadImage file user.val key.val) := by
      apply Async.Keeps.bind (worksFor_request (.putFile _ file) trivial)
      intro _ _
      exact worksFor_request (.getDownloadURL _) trivial
    apply Async.Keeps.bind hupload
    intro url _
    exact worksFor_sendElsewhere (apart_photoPath key.val)
  · intro error
    exact Async.keeps_done trivial

theorem worksFor_addPhoto_send (description : String)
    (image : Option File) :
    WorksFor action (fun _ => True) (AddPhoto.send description image) := by
  cases image with
  | none => exact Async.keeps_done trivial
  | some file =>
      apply Async.Keeps.bind (worksFor_setLoad true)
      intro _ _
      apply Async.Keeps.bind (worksFor_addPicture description file)
      intro complete _
      split_ifs
      · apply Async.Keeps.bind (worksFor_navigate _)
        intro _ _
        exact worksFor_updatePhotosList
      · exact Async.keeps_done trivial

theorem worksFor_logOut :
    WorksFor .logOut (fun _ => True) MenuConfig.logOut := by
  apply Async.Keeps.bind (worksFor_request .signOut rfl)
  intro _ _
  apply Async.Keeps.bind (worksFor_navigate _)
  intro _ _
  exact worksFor_checkHome

theorem worksFor_goBack (screen : Screen) :
    WorksFor action (fun _ => True) (goBack screen) := by
  apply Async.Keeps.bind (worksFor_navigate _)
  intro _ _
  split_ifs
  · exact worksFor_updatePhotosList
  · exact Async.keeps_done trivial

/-- Every handler works for its action. -/
theorem worksFor_of_starts {device : Device} {program : App Unit}
    (hstarts : Starts device action program) :
    WorksFor action (fun _ => True) program := by
  cases hstarts with
  | launch hroutes => exact worksFor_launch
  | back hroutes => exact worksFor_goBack _
  | handler hroutes hload hhandles =>
      generalize Route.screen _ = screen at hhandles
      cases hhandles with
      | participe => exact worksFor_navigate _
      | login email password => exact worksFor_login email password
      | cadastrese => exact worksFor_navigate _
      | chooseType typeUser => exact worksFor_navigate _
      | register typeUser form agrees =>
          exact worksFor_btnRegisterClicked typeUser form agrees
      | clientChoice => exact worksFor_userChoice_client
      | workerChoice => exact worksFor_userChoice_worker
      | finishComplement form => exact worksFor_finishComplement form
      | clientSettings => exact worksFor_navigate _
      | workerSettings => exact worksFor_navigate _
      | changeView => exact worksFor_navigate _
      | logOut => exact worksFor_logOut
      | photos =>
          apply Async.Keeps.bind (worksFor_navigate _)
          intro _ _
          exact worksFor_loadPictures.ignore
      | deletePhoto uidImage => exact worksFor_photosWorker_delete uidImage
      | addPhoto => exact worksFor_navigate _
      | sendPhoto description image =>
          exact worksFor_addPhoto_send description image

end Programs

end FoliumApp
