import FoliumApp.ProfileRoundTrip
import FoliumApp.RoleChoices
import FoliumApp.Screens

/-!
# Loading screens and what they wait for

One screen object on its own, from the moment it is opened, in an app and
among services that may do anything: operations it started are outstanding
side by side, each is answered in any order and in any way, and the screen
may be left at any time, also while it is loading.  An operation that has put
the loading content up owes the screen its form until it takes the content
down or navigates.

`Login` pays on every path.  The other screens pay when their calls succeed;
a failed call leaves them loading with nothing outstanding, and a
registration form that has pushed the completion form is still loading when
the user comes back to it.
-/

namespace FoliumApp

open PathTree AsyncProgram CallSequences

/-! ## A screen object -/

inductive Place where
  | top
  | covered
  | left
  deriving DecidableEq, Repr

/-- An operation that has not ended, with the action it was started by, if
the user started it. -/
structure Operation where
  action : Option Action
  owes : Bool
  rest : App Unit

structure ScreenObject where
  screen : Screen
  place : Place
  load : Bool
  operations : List Operation

/-- `initState` of the screens that start something there.  The menus of the
two forms are loaded there too; they have nothing to do with the flag. -/
def Screen.initState : Screen → List (App Unit)
  | .home => [Home.check]
  | .photosWorker =>
      [do
        let _ ← PhotosController.loadPictures]
  | _ => []

def Operation.settled (operation : Operation) : List Operation :=
  if operation.rest.pending.isSome then [operation] else []

def ScreenObject.opened (screen : Screen) : ScreenObject :=
  { screen, place := .top, load := false
    operations :=
      screen.initState.map fun program => ⟨none, false, program⟩ }

/-! ## Answers -/

def Request.isRemote : Request → Bool
  | .createUserWithEmailAndPassword _ _ => true
  | .signInWithEmailAndPassword _ _ => true
  | .signOut => true
  | .currentUser => true
  | .once _ => true
  | .set _ _ => true
  | .remove _ => true
  | .putFile _ _ => true
  | .getDownloadURL _ => true
  | .delete _ => true
  | _ => false

/-- Whether a remote call succeeds, and the value for any request. -/
structure Reply where
  ok : Bool
  value : (request : Request) → request.Answer

def Reply.answer (reply : Reply) (request : Request) :
    Except DartError request.Answer :=
  if request.isRemote && !reply.ok then .error .remote
  else .ok (reply.value request)

/-- Where a screen is after a navigation of its own.  A screen that is
covered stays so when the route on top is replaced or popped. -/
def Navigation.placeAfter : Navigation → Place → Place
  | .push _, _ => .covered
  | .pushAndRemoveUntil _, _ => .left
  | _, .covered => .covered
  | _, _ => .left

def Request.owesAfter : Request → Bool → Bool
  | .setLoad load, _ => load
  | .navigate _, _ => false
  | _, owes => owes

/-- Serve a request of one of the screen's operations.  What belongs to the
screen raises once it has been left. -/
def ScreenObject.serve (object : ScreenObject) (reply : Reply) :
    (request : Request) →
      Except DartError request.Answer × Place × Bool
  | .setLoad load =>
      if object.place = .left then
        (.error .noSuchMethod, object.place, object.load)
      else (.ok (), object.place, load)
  | .navigate navigation =>
      if object.place = .left then
        (.error .noSuchMethod, object.place, object.load)
      else (.ok (), navigation.placeAfter object.place, object.load)
  | .showSnackBar _ =>
      if object.place = .left then
        (.error .noSuchMethod, object.place, object.load)
      else (.ok (), object.place, object.load)
  | request => (reply.answer request, object.place, object.load)

/-! ## Runs of a screen -/

inductive ScreenEvent where
  | act (action : Action)
  | resume (index : ℕ) (reply : Reply)
  | uncover
  | leave

/-- `PhotosWorker` refreshes itself when the route it pushed is gone. -/
def Screen.uncovered : Screen → List (App Unit)
  | .photosWorker => [PhotosWorker.updatePhotosList]
  | _ => []

def ScreenObject.step (object : ScreenObject) :
    ScreenEvent → Option ScreenObject
  | .act action =>
      if object.place = .top && !object.load then
        match object.screen.handler action with
        | none => none
        | some program =>
            some { object with
              operations :=
                object.operations ++
                  Operation.settled ⟨some action, false, program⟩ }
      else none
  | .resume index reply =>
      match object.operations.drop index with
      | ⟨action, owes, .await request next⟩ :: back =>
          let out := object.serve reply request
          some { object with
            place := out.2.1
            load := out.2.2
            operations :=
              object.operations.take index ++
                Operation.settled
                  ⟨action, request.owesAfter owes, next out.1⟩ ++ back }
      | _ => none
  | .uncover =>
      if object.place = .covered then
        some { object with
          place := .top
          operations :=
            object.operations ++
              object.screen.uncovered.map fun program =>
                ⟨none, false, program⟩ }
      else none
  | .leave =>
      if object.place = .left then none
      else some { object with place := .left }

/-! ## When a call goes well -/

/-- What an operation that owes the screen its form has to be answered.  A
refused sign-in is dealt with, and the write of a registration is not looked
at. -/
def Request.GoesWell (action : Option Action) : (request : Request) →
    Except DartError request.Answer → Prop
  | .signInWithEmailAndPassword _ _, _ => True
  | .currentUser, answer => ∃ uid, answer = .ok (some uid)
  | .once _, answer =>
      ∃ data, answer = .ok data ∧
        (action = some .clientChoice → isClientRecord data = true)
  | .set _ _, answer =>
      (∃ form agrees, action = some (.register form agrees)) ∨
        answer = .ok ()
  | .getSession, answer =>
      ∃ worker location, answer = .ok (some (.worker worker)) ∧
        worker.location = some location
  | _, answer => ∃ value, answer = .ok value

/-- Calls made under the loading content go well, and no screen is gone back
to that was pushed over while loading. -/
def ScreenObject.Spared (object : ScreenObject) : ScreenEvent → Prop
  | .resume index reply =>
      match object.place, object.operations.drop index with
      | .left, _ => True
      | _, ⟨action, true, .await request _⟩ :: _ =>
          request.GoesWell action (reply.answer request)
      | _, _ => True
  | .uncover => object.load = false
  | _ => True

/-! ## Operations that pay -/

/-- What an operation is answered in a run that is spared. -/
def answered (action : Option Action) (owes : Bool) (request : Request)
    (answer : Except DartError request.Answer) (owes' : Bool) : Prop :=
  owes' = request.owesAfter owes ∧
    (request.isRemote = false → ∃ value, answer = .ok value) ∧
    (owes = true → request.GoesWell action answer)

/-- However it ends, the operation owes nothing then. -/
abbrev Pays (action : Option Action) (program : App α) (owes : Bool) :
    Prop :=
  Async.Safe (answered action) (fun _ _ => True)
    (fun _ owes => owes = false) program owes

theorem Pays.pending {action : Option Action} {program : App Unit}
    (hpays : Pays action program true) : program.pending.isSome = true := by
  cases program with
  | done value => cases hpays
  | raise error => cases hpays
  | await request next => rfl

structure ScreenObject.Sound (object : ScreenObject) : Prop where
  pays : ∀ operation ∈ object.operations,
    Pays operation.action operation.rest operation.owes
  waits : object.place = .top → object.load = true →
    ∃ operation ∈ object.operations, operation.owes = true

theorem ScreenObject.serve_answer {object : ScreenObject}
    (hplace : object.place ≠ .left) (reply : Reply) (request : Request) :
    (object.serve reply request).1 = reply.answer request := by
  cases request with
  | setLoad load =>
      simp only [ScreenObject.serve, if_neg hplace]
      rfl
  | navigate navigation =>
      simp only [ScreenObject.serve, if_neg hplace]
      rfl
  | showSnackBar text =>
      simp only [ScreenObject.serve, if_neg hplace]
      rfl
  | _ => rfl

theorem ScreenObject.serve_left {object : ScreenObject}
    (hplace : object.place = .left) (reply : Reply) (request : Request) :
    (object.serve reply request).2.1 = .left := by
  cases request <;> simp [ScreenObject.serve, hplace]

/-- The screen comes to load on top only by a request after which the
operation owes, or was loading there before. -/
theorem ScreenObject.serve_loads {object : ScreenObject}
    (hplace : object.place ≠ .left) (reply : Reply) (request : Request)
    (owes : Bool) (htop : (object.serve reply request).2.1 = .top)
    (hload : (object.serve reply request).2.2 = true) :
    request.owesAfter owes = true ∨
      (object.place = .top ∧ object.load = true ∧
        request.owesAfter owes = owes) := by
  cases request with
  | setLoad load =>
      simp only [ScreenObject.serve, if_neg hplace] at hload
      exact Or.inl hload
  | navigate navigation =>
      simp only [ScreenObject.serve, if_neg hplace] at htop
      cases navigation <;> cases hobject : object.place <;>
        simp [hobject, Navigation.placeAfter] at htop
  | showSnackBar text =>
      simp only [ScreenObject.serve, if_neg hplace] at htop hload
      exact Or.inr ⟨htop, hload, rfl⟩
  | _ => exact Or.inr ⟨htop, hload, rfl⟩

theorem Reply.answer_local (reply : Reply) {request : Request}
    (hlocal : request.isRemote = false) :
    ∃ value, reply.answer request = .ok value := by
  unfold Reply.answer
  rw [hlocal]
  exact ⟨reply.value request, rfl⟩

theorem Operation.mem_settled {operation other : Operation}
    (hmem : other ∈ operation.settled) : other = operation := by
  unfold Operation.settled at hmem
  split_ifs at hmem
  · exact List.mem_singleton.mp hmem
  · cases hmem

theorem Operation.mem_settled_self {operation : Operation}
    (hpays : Pays operation.action operation.rest operation.owes)
    (howes : operation.owes = true) : operation ∈ operation.settled := by
  unfold Operation.settled
  rw [howes] at hpays
  rw [if_pos hpays.pending]
  exact List.mem_singleton.mpr rfl

section Programs

variable {action : Option Action}

theorem safe_of_answer {request : Request} {owes : Bool}
    {post : Except DartError request.Answer → Bool → Prop}
    (hpost : ∀ answer,
      (request.isRemote = false → ∃ value, answer = .ok value) →
        (owes = true → request.GoesWell action answer) →
          post answer (request.owesAfter owes)) :
    Async.Safe (answered action) (fun _ _ => True) post
      (Async.request request) owes := by
  apply (Async.safe_request _ _ _).mpr
  refine ⟨trivial, ?_⟩
  rintro answer owes' ⟨rfl, hlocal, hwell⟩
  exact hpost answer hlocal hwell

theorem safe_screenRequest {request : Request} {owes : Bool}
    {post : Except DartError request.Answer → Bool → Prop}
    (hlocal : request.isRemote = false)
    (hpost : ∀ value, post (.ok value) (request.owesAfter owes)) :
    Async.Safe (answered action) (fun _ _ => True) post
      (Async.request request) owes := by
  apply safe_of_answer
  intro answer hanswer _
  obtain ⟨value, rfl⟩ := hanswer hlocal
  exact hpost value

/-! ## Operations that never owe -/

abbrev Quiet (action : Option Action) (program : App α) : Prop :=
  Async.Keeps (answered action) (fun _ _ => True)
    (fun owes => owes = false) (fun _ => True) program

theorem quiet_request {request : Request}
    (howes : request.owesAfter false = false) :
    Quiet action (Async.request request : App _) := by
  rintro owes rfl
  apply safe_of_answer
  intro answer _ _
  exact ⟨howes, fun _ _ => trivial⟩

theorem Quiet.pays {program : App α} (hquiet : Quiet action program) :
    Pays action program false := by
  apply (hquiet false rfl).mono
  intro _ _ hend
  exact hend.1

theorem quiet_navigate (navigation : Navigation) :
    Quiet action (Navigator.navigate navigation) :=
  quiet_request rfl

theorem quiet_showSnackBar (text : String) :
    Quiet action (showSnackBar text) :=
  quiet_request rfl

theorem quiet_of_onlyReads {program : App α}
    (hreads : App.OnlyReads program) : Quiet action program := by
  apply hreads.keeps
  intro request hrequest
  apply quiet_request
  cases hrequest <;> rfl

theorem quiet_loadPictures : Quiet action PhotosController.loadPictures :=
  quiet_of_onlyReads PhotosController.onlyReads_loadPictures

theorem quiet_checkHome : Quiet action Home.check := by
  apply Async.Keeps.bind
    (quiet_of_onlyReads LoginController.onlyReads_checkUserLogged)
  intro signedIn _
  split_ifs
  · exact quiet_navigate _
  · exact Async.keeps_done trivial

theorem quiet_logOut : Quiet action MenuConfig.logOut := by
  apply Async.Keeps.bind (quiet_request rfl)
  intro _ _
  apply (quiet_navigate _).bind
  intro _ _
  exact quiet_checkHome

/-- The refresh takes the loading content down before anything else. -/
theorem pays_updatePhotosList (owes : Bool) :
    Pays action PhotosWorker.updatePhotosList owes := by
  apply (Async.safe_bind _ _ _ _).mpr
  apply safe_screenRequest rfl
  intro _
  exact Quiet.pays quiet_loadPictures.ignore

/-! ## Operations while they owe -/

/-- The program returns, with a value as described, and still owes. -/
abbrev Succeeds (action : Option Action) (result : α → Prop)
    (program : App α) : Prop :=
  Async.Safe (answered action) (fun _ _ => True)
    (fun answer owes =>
      owes = true ∧ ∃ value, answer = .ok value ∧ result value)
    program true

theorem Succeeds.then {result : α → Prop} {program : App α}
    (hprogram : Succeeds action result program) {next : α → App β}
    {post : Except DartError β → Bool → Prop}
    (hnext : ∀ value, result value →
      Async.Safe (answered action) (fun _ _ => True) post (next value)
        true) :
    Async.Safe (answered action) (fun _ _ => True) post (program >>= next)
      true := by
  rw [Async.safe_bind]
  apply hprogram.mono
  rintro answer owes ⟨rfl, value, rfl, hvalue⟩
  exact hnext value hvalue

theorem Succeeds.tryCatch {result : α → Prop} {program : App α}
    (hprogram : Succeeds action result program)
    (handler : DartError → App α) :
    Succeeds action result (MonadExcept.tryCatch program handler) := by
  unfold Succeeds
  rw [Async.safe_tryCatch]
  apply hprogram.mono
  rintro answer owes ⟨rfl, value, rfl, hvalue⟩
  exact ⟨rfl, value, rfl, hvalue⟩

theorem succeeds_done {result : α → Prop} {value : α}
    (hvalue : result value) :
    Succeeds action result (.done value : App α) :=
  ⟨rfl, value, rfl, hvalue⟩

theorem succeeds_request {request : Request} {result : request.Answer → Prop}
    (howes : request.owesAfter true = true)
    (hwell : ∀ answer, request.GoesWell action answer →
      ∃ value, answer = .ok value ∧ result value) :
    Succeeds action result (Async.request request : App _) := by
  apply safe_of_answer
  intro answer _ hanswer
  exact ⟨howes, hwell answer (hanswer rfl)⟩

/-- A request of which nothing but its success is looked at. -/
theorem succeeds_call (request : Request)
    (howes : request.owesAfter true = true)
    (hwell : ∀ answer, request.GoesWell action answer →
      ∃ value, answer = .ok value) :
    Succeeds action (fun _ => True) (Async.request request : App _) := by
  apply succeeds_request howes
  intro answer hanswer
  obtain ⟨value, hvalue⟩ := hwell answer hanswer
  exact ⟨value, hvalue, trivial⟩

theorem succeeds_currentUser :
    Succeeds action (fun user => ∃ uid, user = some uid)
      FirebaseAuth.currentUser := by
  apply succeeds_request rfl
  rintro answer ⟨uid, rfl⟩
  exact ⟨some uid, rfl, uid, rfl⟩

theorem succeeds_currentUid :
    Succeeds action (fun _ => True) currentUid := by
  apply succeeds_currentUser.then
  rintro user ⟨uid, rfl⟩
  exact succeeds_done trivial

/-- A write is tried, and the program goes on with what became of it. -/
theorem succeeds_sendData_any (data : Json) (path : String) :
    Succeeds action (fun _ => True) (sendData data path) := by
  unfold Succeeds sendData
  rw [Async.safe_tryCatch, Async.safe_bind]
  apply safe_of_answer
  intro answer _ _
  cases answer with
  | ok value => exact ⟨rfl, true, rfl, trivial⟩
  | error error => exact ⟨rfl, false, rfl, trivial⟩

theorem succeeds_sendData
    (haction : ∀ form agrees, action ≠ some (.register form agrees))
    (data : Json) (path : String) :
    Succeeds action (fun written => written = true) (sendData data path) := by
  apply Succeeds.tryCatch
  have hset : Succeeds action (fun _ => True)
      (FirebaseDatabase.set path data) := by
    apply succeeds_call (.set path data) rfl
    rintro answer (⟨form, agrees, heq⟩ | rfl)
    · exact absurd heq (haction form agrees)
    · exact ⟨(), rfl⟩
  apply hset.then
  intro _ _
  exact succeeds_done rfl

/-! ## Login and registration -/

theorem pays_loading {program : App β} (hpays : Pays action program true) :
    Pays action (setLoad true >>= fun _ => program) false := by
  apply (Async.safe_bind _ _ _ _).mpr
  apply safe_screenRequest rfl
  intro _
  exact hpays

theorem pays_navigate (navigation : Navigation) (owes : Bool) :
    Pays action (Navigator.navigate navigation) owes := by
  apply safe_screenRequest rfl
  intro _
  rfl

theorem pays_unloading {program : App β} (hquiet : Quiet action program)
    (owes : Bool) : Pays action (setLoad false >>= fun _ => program) owes := by
  apply (Async.safe_bind _ _ _ _).mpr
  apply safe_screenRequest rfl
  intro _
  exact hquiet.pays

theorem pays_login (email password : String) :
    Pays action (Login.login email password) false := by
  have hlogin : Succeeds action (fun _ => True)
      (LoginController.login email password) := by
    unfold Succeeds LoginController.login
    rw [Async.safe_tryCatch, Async.safe_bind]
    apply safe_of_answer
    intro answer _ _
    cases answer with
    | ok value => exact ⟨rfl, true, rfl, trivial⟩
    | error error => exact ⟨rfl, false, rfl, trivial⟩
  apply pays_loading
  apply hlogin.then
  intro result _
  cases result with
  | true => exact pays_unloading (quiet_navigate _) true
  | false => exact pays_unloading (quiet_showSnackBar _) true

theorem succeeds_uploadProfilePicture (file : File) (uid : String) :
    Succeeds action (fun _ => True)
      (SimpleRegisterController.uploadProfilePicture file uid) := by
  apply Succeeds.then
    (succeeds_call (.putFile _ file) rfl (fun _ hwell => hwell))
  intro _ _
  exact succeeds_call (.getDownloadURL _) rfl (fun _ hwell => hwell)

theorem succeeds_registerUser (email password : String)
    (profilePicture : Option File) :
    Succeeds action (fun user => user.result = true)
      (SimpleRegisterController.registerUser email password
        profilePicture) := by
  apply Succeeds.tryCatch
  have hcreate : Succeeds action (fun _ => True)
      (SimpleRegisterController.createUid email password) := by
    apply Succeeds.then
      (succeeds_call (.createUserWithEmailAndPassword email password) rfl
        (fun _ hwell => hwell))
    intro uid _
    exact succeeds_done trivial
  apply hcreate.then
  intro uid _
  cases profilePicture with
  | none => exact succeeds_done rfl
  | some file =>
      apply (succeeds_uploadProfilePicture file uid).then
      intro imageUrl _
      exact succeeds_done rfl

theorem succeeds_setCurrentUser (user : AnyUser) :
    Succeeds action (fun _ => True) (LoginController.setCurrentUser user) :=
  succeeds_call (.setSession user) rfl (fun _ hwell => hwell)

theorem succeeds_registerClient (name email country city state : String)
    (birth : DateTime) (uid imageUrl : String) :
    Succeeds action (fun profile => profile.result = true)
      (SimpleRegisterController.registerClient name email country city state
        birth uid imageUrl) := by
  apply Succeeds.tryCatch
  have hsend : Succeeds action (fun _ => True)
      (SimpleRegisterController.sendUser
        (.client
          (SimpleRegisterController.newClient name email country city state
            birth uid imageUrl))) := by
    simp only [SimpleRegisterController.sendUser, AnyUser.toJson,
      newClient_toJson]
    exact succeeds_sendData_any _ _
  apply hsend.then
  intro _ _
  apply (succeeds_setCurrentUser _).then
  intro _ _
  exact succeeds_done rfl

theorem succeeds_registerWorker (name email country city state : String)
    (birth : DateTime) (uid imageUrl : String) :
    Succeeds action (fun profile => profile.result = true)
      (SimpleRegisterController.registerWorker name email country city state
        birth uid imageUrl) := by
  apply Succeeds.tryCatch
  apply (succeeds_setCurrentUser _).then
  intro _ _
  exact succeeds_done rfl

theorem succeeds_registerAccount (typeUser : TypeUser) (form : RegisterForm)
    (date : DateTime) :
    Succeeds action (fun result => result = true)
      (SimpleRegister.registerAccount typeUser form date) := by
  apply (succeeds_registerUser form.email form.password form.image).then
  intro user huser
  rw [if_pos huser]
  cases typeUser with
  | cliente =>
      apply (succeeds_registerClient _ _ _ _ _ _ _ _).then
      intro profile hprofile
      exact succeeds_done hprofile
  | trabalhador =>
      apply (succeeds_registerWorker _ _ _ _ _ _ _ _).then
      intro profile hprofile
      exact succeeds_done hprofile

theorem pays_agree (typeUser : TypeUser) (form : RegisterForm)
    (date : DateTime) :
    Pays action (SimpleRegister.agree typeUser form date) false := by
  apply pays_loading
  apply (succeeds_registerAccount typeUser form date).then
  intro result hresult
  subst hresult
  cases typeUser with
  | cliente => exact pays_navigate _ true
  | trabalhador => exact pays_navigate _ true

theorem pays_btnRegisterClicked (typeUser : TypeUser) (form : RegisterForm)
    (agrees : Option Selection) :
    Pays action (SimpleRegister.btnRegisterClicked typeUser form agrees)
      false := by
  refine SimpleRegister.btnRegisterClicked_rule
    (motive := fun program => Pays action program false) ?_ ?_ ?_ ?_
  · intro text
    exact (quiet_showSnackBar text).pays
  · rfl
  · intro date next hnext
    have hquiet : Quiet action (SimpleRegister.ageRefused date) :=
      quiet_of_onlyReads (SimpleRegister.onlyReads_ageRefused date)
    apply (hquiet false rfl).then
    · intro refused owes hend
      rw [hend.1]
      exact hnext refused
    · intro error owes hend
      exact hend.1
  · intro held
    exact pays_agree typeUser (form.holding held)

/-! ## Role choice and completion -/

theorem succeeds_once (path : String) :
    Succeeds action
      (fun data => action = some .clientChoice → isClientRecord data = true)
      (FirebaseDatabase.once path) :=
  succeeds_request rfl (fun _ hwell => hwell)

theorem pays_userChoice_client :
    Pays (some .clientChoice) UserChoice.client false := by
  unfold UserChoice.client
  rw [clientChoice_eq]
  apply pays_loading
  apply succeeds_currentUser.then
  rintro user ⟨uid, rfl⟩
  apply (succeeds_once (dataPath uid.val)).then
  intro data hdata
  obtain ⟨client, hclient⟩ := (decodedClient_isOk_iff data).mpr (hdata rfl)
  simp only [hclient, Async.ofExcept, Async.done_bind]
  apply (succeeds_setCurrentUser _).then
  intro _ _
  exact pays_navigate _ true

theorem pays_userChoice_worker :
    Pays action UserChoice.worker false := by
  unfold UserChoice.worker
  rw [workerChoice_eq]
  apply pays_loading
  apply succeeds_currentUser.then
  rintro user ⟨uid, rfl⟩
  apply (succeeds_once (dataPath uid.val)).then
  intro data _
  cases decodedWorker data with
  | error error => exact pays_navigate _ true
  | ok worker =>
      simp only
      rw [Async.safe_tryCatch]
      apply (succeeds_setCurrentUser _).then
      intro _ _
      apply safe_screenRequest rfl
      intro _
      rfl

theorem succeeds_registerCompleteWorker
    (haction : ∀ form agrees, action ≠ some (.register form agrees))
    {worker : Worker} {location : Location}
    (hlocation : worker.location = some location) (form : Complement) :
    Succeeds action (fun result => result = true)
      (WorkerComplementController.registerCompleteWorker (some worker)
        form) := by
  rw [registerCompleteWorker_of_location form hlocation]
  apply (succeeds_setCurrentUser _).then
  intro _ _
  apply (succeeds_sendData haction _ _).then
  intro data hdata
  apply Succeeds.then (succeeds_call .now rfl (fun _ hwell => hwell))
  intro time _
  apply (succeeds_sendData haction _ _).then
  intro reference hreference
  subst hdata hreference
  exact succeeds_done rfl

theorem pays_finishComplement
    (haction : ∀ form agrees, action ≠ some (.register form agrees))
    (form : Complement) :
    Pays action (WorkerComplement.finishComplement form) false := by
  unfold WorkerComplement.finishComplement
  cases WorkerComplement.refusal form with
  | some text => exact (quiet_showSnackBar text).pays
  | none =>
      have hworker : Succeeds action
          (fun worker : Option Worker => ∃ found location,
            worker = some found ∧ found.location = some location)
          LoginController.getCurrentWorker := by
        have hsession : Succeeds action
            (fun user : Option AnyUser => ∃ worker location,
              user = some (.worker worker) ∧
                worker.location = some location)
            (Async.request Request.getSession) := by
          apply succeeds_request rfl
          rintro answer ⟨worker, location, rfl, hlocation⟩
          exact ⟨_, rfl, worker, location, rfl, hlocation⟩
        apply hsession.then
        rintro user ⟨worker, location, rfl, hlocation⟩
        exact succeeds_done ⟨worker, location, rfl, hlocation⟩
      apply pays_loading
      apply hworker.then
      rintro worker ⟨found, location, rfl, hlocation⟩
      apply (succeeds_registerCompleteWorker haction hlocation form).then
      intro result hresult
      subst hresult
      exact pays_navigate _ true

/-! ## Photos -/

theorem pays_photosWorker_delete (uidImage : String) :
    Pays action (PhotosWorker.delete uidImage) false := by
  have hdelete : Succeeds action (fun _ => True)
      (PhotosController.deletePicture uidImage) := by
    apply succeeds_currentUid.then
    intro uid _
    apply Succeeds.then
      (succeeds_call (.delete _) rfl (fun _ hwell => hwell))
    intro _ _
    apply Succeeds.then
      (succeeds_call (.remove _) rfl (fun _ hwell => hwell))
    intro _ _
    exact succeeds_done trivial
  apply pays_loading
  apply hdelete.then
  intro _ _
  exact pays_updatePhotosList true

theorem pays_addPhoto_send
    (haction : ∀ form agrees, action ≠ some (.register form agrees))
    (description : String) (image : Option File) :
    Pays action (AddPhoto.send description image) false := by
  cases image with
  | none => rfl
  | some file =>
      have hupload (uidUser uidPhoto : String) : Succeeds action
          (fun _ => True)
          (PhotosController.uploadImage file uidUser uidPhoto) := by
        apply Succeeds.then
          (succeeds_call (.putFile _ file) rfl (fun _ hwell => hwell))
        intro _ _
        exact succeeds_call (.getDownloadURL _) rfl (fun _ hwell => hwell)
      have hadd : Succeeds action (fun complete => complete = true)
          (PhotosController.addPicture description file) := by
        apply Succeeds.tryCatch
        apply succeeds_currentUid.then
        intro uidUser _
        apply Succeeds.then
          (succeeds_call .pushKey rfl (fun _ hwell => hwell))
        intro uidPhoto _
        apply (hupload uidUser uidPhoto.val).then
        intro url _
        exact succeeds_sendData haction _ _
      apply pays_loading
      apply hadd.then
      intro complete hcomplete
      subst hcomplete
      apply (Async.safe_bind _ _ _ _).mpr
      apply safe_screenRequest rfl
      intro _
      exact pays_updatePhotosList false

/-- Every operation a screen starts pays before it ends. -/
theorem pays_of_handles {screen : Screen} {trigger : Action}
    {program : App Unit} (hhandles : Handles screen trigger program) :
    Pays (some trigger) program false := by
  cases hhandles with
  | participe => exact (quiet_navigate _).pays
  | login email password => exact pays_login email password
  | cadastrese => exact (quiet_navigate _).pays
  | chooseType typeUser => exact (quiet_navigate _).pays
  | register typeUser form agrees =>
      exact pays_btnRegisterClicked typeUser form agrees
  | clientChoice => exact pays_userChoice_client
  | workerChoice => exact pays_userChoice_worker
  | finishComplement form => exact pays_finishComplement (by simp) form
  | clientSettings => exact (quiet_navigate _).pays
  | workerSettings => exact (quiet_navigate _).pays
  | changeView => exact (quiet_navigate _).pays
  | logOut => exact quiet_logOut.pays
  | photos =>
      apply Quiet.pays
      apply (quiet_navigate _).bind
      intro _ _
      exact quiet_loadPictures.ignore
  | deletePhoto uidImage => exact pays_photosWorker_delete uidImage
  | addPhoto => exact (quiet_navigate _).pays
  | sendPhoto description image =>
      exact pays_addPhoto_send (by simp) description image

end Programs

/-! ## All runs of a screen -/

/-- A screen that is not loading may start anything that pays. -/
theorem ScreenObject.Sound.append {object : ScreenObject}
    (hsound : object.Sound) (hload : object.load = false) (place : Place)
    {operations : List Operation}
    (hpays : ∀ operation ∈ operations,
      Pays operation.action operation.rest operation.owes) :
    ScreenObject.Sound
      { object with
        place, operations := object.operations ++ operations } := by
  constructor
  · intro operation hmem
    rcases List.mem_append.mp hmem with hold | hnew
    · exact hsound.pays operation hold
    · exact hpays operation hnew
  · intro _ hloading
    rw [hload] at hloading
    cases hloading

/-- One answer keeps the object sound. -/
theorem ScreenObject.Sound.resume {object : ScreenObject}
    (hsound : object.Sound) (hplace : object.place ≠ .left)
    {front back : List Operation} {action : Option Action} {owes : Bool}
    {request : Request}
    {next : Except DartError request.Answer → App Unit}
    (hoperations : object.operations =
      front ++ ⟨action, owes, .await request next⟩ :: back)
    (reply : Reply)
    (hwell : owes = true → request.GoesWell action (reply.answer request)) :
    ScreenObject.Sound
      { object with
        place := (object.serve reply request).2.1
        load := (object.serve reply request).2.2
        operations :=
          front ++
            Operation.settled
              ⟨action, request.owesAfter owes,
                next (object.serve reply request).1⟩ ++ back } := by
  have hpays : Pays action
      (next (object.serve reply request).1) (request.owesAfter owes) := by
    have hmem : (⟨action, owes, .await request next⟩ : Operation) ∈
        object.operations := by
      rw [hoperations]
      exact List.mem_append_right _ List.mem_cons_self
    apply (hsound.pays _ hmem).2
    rw [ScreenObject.serve_answer hplace]
    exact ⟨rfl, reply.answer_local, hwell⟩
  constructor
  · intro operation hmem
    simp only [List.mem_append] at hmem
    rcases hmem with (hfront | hsettled) | hback
    · apply hsound.pays
      rw [hoperations]
      exact List.mem_append_left _ hfront
    · rw [Operation.mem_settled hsettled]
      exact hpays
    · apply hsound.pays
      rw [hoperations]
      exact List.mem_append_right _ (List.mem_cons_of_mem _ hback)
  · intro htop hload
    have hself : request.owesAfter owes = true →
        ∃ operation ∈ front ++
            Operation.settled
              ⟨action, request.owesAfter owes,
                next (object.serve reply request).1⟩ ++ back,
          operation.owes = true := by
      intro howes
      refine ⟨⟨action, request.owesAfter owes,
        next (object.serve reply request).1⟩, ?_, howes⟩
      apply List.mem_append_left
      apply List.mem_append_right
      exact Operation.mem_settled_self hpays howes
    rcases object.serve_loads hplace reply request owes htop hload with
      howes | ⟨htop', hload', hsame⟩
    · exact hself howes
    · obtain ⟨operation, hmem, howes⟩ := hsound.waits htop' hload'
      rw [hoperations] at hmem
      rcases List.mem_append.mp hmem with hfront | hrest
      · exact ⟨operation,
          List.mem_append_left _ (List.mem_append_left _ hfront), howes⟩
      · rcases List.mem_cons.mp hrest with rfl | hback
        · exact hself (hsame.trans howes)
        · exact ⟨operation, List.mem_append_right _ hback, howes⟩

theorem ScreenObject.Spared.goesWell {object : ScreenObject} {index : ℕ}
    {reply : Reply} (hspared : object.Spared (.resume index reply))
    (hplace : object.place ≠ .left) {action : Option Action} {owes : Bool}
    {request : Request}
    {next : Except DartError request.Answer → App Unit}
    {back : List Operation}
    (hdrop : object.operations.drop index =
      ⟨action, owes, .await request next⟩ :: back)
    (howes : owes = true) :
    request.GoesWell action (reply.answer request) := by
  subst howes
  simp only [ScreenObject.Spared, hdrop] at hspared
  cases hobject : object.place with
  | left => exact absurd hobject hplace
  | top => exact hspared
  | covered => exact hspared

theorem pays_uncovered {screen : Screen} {program : App Unit}
    (hmem : program ∈ screen.uncovered) : Pays none program false := by
  cases screen with
  | photosWorker =>
      rcases List.mem_singleton.mp hmem with rfl
      exact pays_updatePhotosList false
  | _ => cases hmem

theorem pays_initState {screen : Screen} {program : App Unit}
    (hmem : program ∈ screen.initState) : Pays none program false := by
  cases screen with
  | home =>
      rcases List.mem_singleton.mp hmem with rfl
      exact quiet_checkHome.pays
  | photosWorker =>
      rcases List.mem_singleton.mp hmem with rfl
      exact Quiet.pays quiet_loadPictures.ignore
  | _ => cases hmem

theorem ScreenObject.sound_opened (screen : Screen) :
    (ScreenObject.opened screen).Sound := by
  constructor
  · intro operation hmem
    obtain ⟨program, hprogram, rfl⟩ := List.mem_map.mp hmem
    exact pays_initState hprogram
  · intro _ hload
    cases hload

/-- A screen that has been left stays so; any other is sound. -/
theorem ScreenObject.sound_step {object next : ScreenObject}
    {event : ScreenEvent} (hsound : object.place = .left ∨ object.Sound)
    (hspared : object.Spared event)
    (hstep : object.step event = some next) :
    next.place = .left ∨ next.Sound := by
  cases event with
  | act action =>
      simp only [ScreenObject.step] at hstep
      split_ifs at hstep with hfree
      simp only [Bool.and_eq_true, decide_eq_true_eq,
        Bool.not_eq_true'] at hfree
      cases hhandler : object.screen.handler action with
      | none => simp [hhandler] at hstep
      | some program =>
          simp only [hhandler, Option.some.injEq] at hstep
          subst next
          rcases hsound with hleft | hsound
          · exact Or.inl hleft
          · right
            apply hsound.append hfree.2
            intro operation hmem
            rw [Operation.mem_settled hmem]
            exact pays_of_handles (handles_of_handler hhandler)
  | resume index reply =>
      simp only [ScreenObject.step] at hstep
      split at hstep
      next action owes request rest back hdrop =>
        simp only [Option.some.injEq] at hstep
        subst next
        by_cases hplace : object.place = .left
        · left
          exact object.serve_left hplace reply request
        · have hoperations : object.operations =
              object.operations.take index ++
                ⟨action, owes, .await request rest⟩ :: back := by
            rw [← hdrop]
            exact (List.take_append_drop index object.operations).symm
          right
          exact (hsound.resolve_left hplace).resume hplace
            hoperations reply (hspared.goesWell hplace hdrop)
      next => cases hstep
  | uncover =>
      simp only [ScreenObject.step] at hstep
      split_ifs at hstep with hcovered
      simp only [Option.some.injEq] at hstep
      subst next
      rcases hsound with hleft | hsound
      · rw [hcovered] at hleft
        cases hleft
      · right
        apply hsound.append hspared
        intro operation hmem
        obtain ⟨program, hprogram, rfl⟩ := List.mem_map.mp hmem
        exact pays_uncovered hprogram
  | leave =>
      simp only [ScreenObject.step] at hstep
      split_ifs at hstep
      simp only [Option.some.injEq] at hstep
      subst next
      exact Or.inl rfl

/-- In every run of a screen in which its calls under the loading content
go well and no screen pushed over while loading is gone back to, the screen
loads on top only while an operation that owes it its form is outstanding. -/
theorem loading_screen_waits {screen : Screen} {object : ScreenObject}
    (hreach : Reaches ScreenObject.step ScreenObject.Spared
      (ScreenObject.opened screen) object)
    (htop : object.place = .top) (hload : object.load = true) :
    ∃ operation ∈ object.operations, operation.owes = true := by
  have hsound : object.place = .left ∨ object.Sound := by
    apply hreach.invariant
    · exact Or.inr (ScreenObject.sound_opened screen)
    · intro object event next hsound hspared hstep
      exact ScreenObject.sound_step hsound hspared hstep
  rcases hsound with hleft | hsound
  · rw [htop] at hleft
    cases hleft
  · exact hsound.waits htop hload

/-- A reply with values a service may give. -/
def usualReply (ok : Bool) : Reply where
  ok := ok
  value := fun request =>
    match request with
    | .createUserWithEmailAndPassword _ _ => firstUid
    | .currentUser => some firstUid
    | .once _ => .null
    | .getDownloadURL _ => "url"
    | .pushKey => firstKey
    | .now => ⟨2019, 7, 1, 12, 0, 0, 0, 0⟩
    | .getSession => none
    | .signInWithEmailAndPassword _ _ => ()
    | .signOut => ()
    | .set _ _ => ()
    | .remove _ => ()
    | .putFile _ _ => ()
    | .delete _ => ()
    | .setSession _ => ()
    | .navigate _ => ()
    | .setLoad _ => ()
    | .showSnackBar _ => ()

/-- The place, the flag and for each outstanding operation whether it
owes. -/
def ScreenObject.summary (object : ScreenObject) :
    Place × Bool × List Bool :=
  (object.place, object.load, object.operations.map Operation.owes)

def waitingLogin : List ScreenEvent :=
  [.act (.login "ana@folium.work" "secret"), .resume 0 (usualReply true)]

theorem loading_screen_waits_waitingLogin :
    ∃ object,
      Reaches ScreenObject.step ScreenObject.Spared
        (ScreenObject.opened .login) object ∧
      object.place = .top ∧ object.load = true ∧
      ∃ operation ∈ object.operations, operation.owes = true := by
  have hrun : ∃ object,
      run ScreenObject.step (ScreenObject.opened .login) waitingLogin =
        some object ∧ object.place = .top ∧ object.load = true :=
    ⟨_, rfl, rfl, rfl⟩
  have hallowed :
      EachAllowed ScreenObject.step ScreenObject.Spared
        (ScreenObject.opened .login) waitingLogin :=
    ⟨trivial, trivial, trivial⟩
  obtain ⟨object, hrun, htop, hload⟩ := hrun
  have hreach := Reaches.refl.run waitingLogin hallowed hrun
  exact ⟨object, hreach, htop, hload,
    loading_screen_waits hreach htop hload⟩

/-- The auth service refuses the account. -/
def refusedRegistration : List ScreenEvent :=
  [.act (registers (registerForm "Bruno Lima" "bruno@folium.work")),
    .resume 0 (usualReply true), .resume 0 (usualReply true),
    .resume 0 (usualReply true), .resume 0 (usualReply false),
    .resume 0 (usualReply true)]

theorem summary_refusedRegistration :
    (run ScreenObject.step (ScreenObject.opened (.simpleRegister .cliente))
        refusedRegistration).map ScreenObject.summary =
      some (.top, true, []) := by
  decide +kernel

/-- After a refused registration the form is on top, loading, and nothing is
outstanding. -/
theorem refused_registration_loads_forever :
    ¬ ∀ (screen : Screen) (object : ScreenObject),
      Reaches ScreenObject.step (fun _ _ => True)
          (ScreenObject.opened screen) object →
        object.place = .top → object.load = true →
          object.operations ≠ [] := by
  intro hall
  obtain ⟨object, hrun, hsummary⟩ :=
    Option.map_eq_some_iff.mp summary_refusedRegistration
  have hreach :=
    Reaches.refl.run refusedRegistration
      (eachAllowed_of_forall (fun _ _ => trivial) _ _) hrun
  simp only [ScreenObject.summary, Prod.mk.injEq,
    List.map_eq_nil_iff] at hsummary
  exact hall _ object hreach hsummary.1 hsummary.2.1 hsummary.2.2

end FoliumApp
