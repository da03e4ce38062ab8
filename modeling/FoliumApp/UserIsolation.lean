import FoliumApp.DirectoryAgreement
import FoliumApp.PhotoRecords

/-!
# Isolation between users

Every path the operations of a user write or read is built from that user's
uid.  Cut into pieces, it lies below `users/<uid>` or `images/user/<uid>`, or
it is an entry of the directory that ends in the uid.  Such paths of two
users are never above, below or equal to each other, so the requests of one
user leave alone what the other sees, in any interleaving.
-/

namespace FoliumApp

open PathTree AsyncProgram

/-! ## What belongs to a user -/

/-- Everything the services hold of one user. -/
structure UserView where
  profile : Json
  images : List String → Option File
  entries : DirectoryPlace → Json

def Backend.viewOf (uid : Segment) (backend : Backend) : UserView :=
  { profile := backend.database.get ["users", uid.val]
    images := fun name =>
      backend.storage ("images" :: "user" :: uid.val :: name)
    entries := fun place => backend.database.get (place.entry uid.val) }

def OwnNode (uid : Segment) (path : List String) : Prop :=
  (∃ rest, path = "users" :: uid.val :: rest) ∨
    ∃ place : DirectoryPlace, path = place.entry uid.val

def OwnObject (uid : Segment) (path : List String) : Prop :=
  ∃ rest, path = "images" :: "user" :: uid.val :: rest

/-- The requests that stay with what belongs to the user. -/
def Request.Within (uid : Segment) : Request → Prop
  | .createUserWithEmailAndPassword _ _ => False
  | .signInWithEmailAndPassword _ _ => False
  | .signOut => False
  | .once _ => False
  | .set path _ => OwnNode uid (pieces path)
  | .remove path => OwnNode uid (pieces path)
  | .putFile path _ => OwnObject uid (pieces path)
  | .getDownloadURL path => OwnObject uid (pieces path)
  | .delete path => OwnObject uid (pieces path)
  | _ => True

section Views

variable {uid : Segment}

theorem viewOf_write_own
    {path : String} (hown : OwnNode uid (pieces path)) (value : Json)
    {backend backend' : Backend}
    (hview : backend.viewOf uid = backend'.viewOf uid) :
    (backend.write path value).viewOf uid =
      (backend'.write path value).viewOf uid := by
  unfold Backend.viewOf at hview
  simp only [UserView.mk.injEq] at hview
  obtain ⟨hprofile, himages, hentries⟩ := hview
  unfold Backend.viewOf Backend.write
  simp only [UserView.mk.injEq]
  refine ⟨?_, himages, ?_⟩
  · rcases hown with ⟨rest, hpath⟩ | ⟨place, hpath⟩
    · have habove := Json.get_setAt_of_above ["users", uid.val] rest
      rw [hpath]
      simp only [List.cons_append, List.nil_append] at habove
      rw [habove, habove, hprofile]
    · have hapart : Json.Apart (pieces path) ["users", uid.val] := by
        rw [hpath]
        exact Json.apart_of_getElem_ne 0 (by simp [DirectoryPlace.entry])
          (by simp) (by simp [DirectoryPlace.entry])
      rw [Json.get_setAt_of_apart hapart, Json.get_setAt_of_apart hapart,
        hprofile]
  · funext place
    have hentry := congrFun hentries place
    by_cases heq : pieces path = place.entry uid.val
    · rw [heq, Json.get_setAt_self, Json.get_setAt_self]
    · have hapart :
          Json.Apart (pieces path) (place.entry uid.val) := by
        rcases hown with ⟨rest, hpath⟩ | ⟨other, hpath⟩
        · rw [hpath]
          exact Json.apart_of_getElem_ne 0 (by simp)
            (by simp [DirectoryPlace.entry])
            (by simp [DirectoryPlace.entry])
        · apply Json.apart_of_length_eq _ heq
          rw [hpath]
          simp [DirectoryPlace.entry]
      rw [Json.get_setAt_of_apart hapart, Json.get_setAt_of_apart hapart]
      exact hentry

theorem viewOf_write_other
    {other : Segment} (hne : other ≠ uid)
    {path : String} (hown : OwnNode other (pieces path)) (value : Json)
    (backend : Backend) :
    (backend.write path value).viewOf uid = backend.viewOf uid := by
  have hval : other.val ≠ uid.val := by
    intro heq
    exact hne (Subtype.ext heq)
  have hprofile : Json.Apart (pieces path) ["users", uid.val] := by
    rcases hown with ⟨rest, hpath⟩ | ⟨place, hpath⟩
    · rw [hpath]
      exact Json.apart_of_getElem_ne 1 (by simp) (by simp)
        (by simpa using hval)
    · rw [hpath]
      exact Json.apart_of_getElem_ne 0 (by simp [DirectoryPlace.entry])
        (by simp) (by simp [DirectoryPlace.entry])
  have hentries : ∀ place : DirectoryPlace,
      Json.Apart (pieces path) (place.entry uid.val) := by
    intro place
    rcases hown with ⟨rest, hpath⟩ | ⟨otherPlace, hpath⟩
    · rw [hpath]
      exact Json.apart_of_getElem_ne 0 (by simp)
        (by simp [DirectoryPlace.entry]) (by simp [DirectoryPlace.entry])
    · rw [hpath]
      exact Json.apart_of_getElem_ne 5 (by simp [DirectoryPlace.entry])
        (by simp [DirectoryPlace.entry])
        (by simpa [DirectoryPlace.entry] using hval)
  unfold Backend.viewOf Backend.write
  simp only [UserView.mk.injEq, true_and]
  refine ⟨Json.get_setAt_of_apart hprofile _ _, ?_⟩
  funext place
  exact Json.get_setAt_of_apart (hentries place) _ _

theorem storage_eq_of_viewOf
    {path : List String} (hown : OwnObject uid path)
    {backend backend' : Backend}
    (hview : backend.viewOf uid = backend'.viewOf uid) :
    backend.storage path = backend'.storage path := by
  obtain ⟨rest, rfl⟩ := hown
  unfold Backend.viewOf at hview
  simp only [UserView.mk.injEq] at hview
  exact congrFun hview.2.1 rest

theorem viewOf_putObject_own
    (path : String) (content : Option File) {backend backend' : Backend}
    (hview : backend.viewOf uid = backend'.viewOf uid) :
    (backend.putObject path content).viewOf uid =
      (backend'.putObject path content).viewOf uid := by
  unfold Backend.viewOf at hview
  simp only [UserView.mk.injEq] at hview
  obtain ⟨hprofile, himages, hentries⟩ := hview
  unfold Backend.viewOf Backend.putObject
  simp only [UserView.mk.injEq]
  refine ⟨hprofile, ?_, hentries⟩
  funext name
  have himage := congrFun himages name
  by_cases heq : "images" :: "user" :: uid.val :: name = pieces path
  · rw [heq, Function.update_self, Function.update_self]
  · rw [Function.update_of_ne heq, Function.update_of_ne heq]
    exact himage

theorem viewOf_putObject_other
    {other : Segment} (hne : other ≠ uid)
    {path : String} (hown : OwnObject other (pieces path))
    (content : Option File) (backend : Backend) :
    (backend.putObject path content).viewOf uid = backend.viewOf uid := by
  obtain ⟨rest, hpath⟩ := hown
  unfold Backend.viewOf Backend.putObject
  simp only [UserView.mk.injEq, true_and, and_true]
  funext name
  apply Function.update_of_ne
  rw [hpath]
  intro heq
  simp only [List.cons.injEq, true_and] at heq
  exact hne (Subtype.ext heq.1.symm)

end Views

/-! ## Requests that stay with their user -/

/-- Such a request answers and acts by the user's own view alone. -/
theorem exec_within
    {uid : Segment} {request : Request} (hwithin : request.Within uid)
    (oracle : Oracle) {backend backend' : Backend} (device : Device)
    (hview : backend.viewOf uid = backend'.viewOf uid) :
    (request.exec oracle backend device).1 =
        (request.exec oracle backend' device).1 ∧
      (request.exec oracle backend device).2.1.viewOf uid =
        (request.exec oracle backend' device).2.1.viewOf uid ∧
      (request.exec oracle backend device).2.2 =
        (request.exec oracle backend' device).2.2 := by
  cases request with
  | createUserWithEmailAndPassword email password => exact hwithin.elim
  | signInWithEmailAndPassword email password => exact hwithin.elim
  | signOut => exact hwithin.elim
  | once path => exact hwithin.elim
  | currentUser =>
      simp only [Request.exec]
      split_ifs
      · exact ⟨rfl, hview, rfl⟩
      · exact ⟨rfl, hview, rfl⟩
  | set path value =>
      simp only [Request.exec]
      split_ifs
      · exact ⟨rfl, viewOf_write_own hwithin value hview, rfl⟩
      · exact ⟨rfl, hview, rfl⟩
  | remove path =>
      simp only [Request.exec]
      split_ifs
      · exact ⟨rfl, viewOf_write_own hwithin .null hview, rfl⟩
      · exact ⟨rfl, hview, rfl⟩
  | putFile path file =>
      simp only [Request.exec]
      split_ifs
      · exact ⟨rfl, viewOf_putObject_own path (some file) hview, rfl⟩
      · exact ⟨rfl, hview, rfl⟩
  | getDownloadURL path =>
      have hobject := storage_eq_of_viewOf hwithin hview
      simp only [Request.exec, hobject]
      split_ifs
      · exact ⟨rfl, hview, rfl⟩
      · exact ⟨rfl, hview, rfl⟩
  | delete path =>
      have hobject := storage_eq_of_viewOf hwithin hview
      simp only [Request.exec, hobject]
      split_ifs
      · exact ⟨rfl, viewOf_putObject_own path none hview, rfl⟩
      · exact ⟨rfl, hview, rfl⟩
  | pushKey => exact ⟨rfl, hview, rfl⟩
  | now => exact ⟨rfl, hview, rfl⟩
  | getSession => exact ⟨rfl, hview, rfl⟩
  | setSession user => exact ⟨rfl, hview, rfl⟩
  | navigate navigation => exact ⟨rfl, hview, rfl⟩
  | setLoad load => exact ⟨rfl, hview, rfl⟩
  | showSnackBar text => exact ⟨rfl, hview, rfl⟩

theorem exec_within_other
    {uid other : Segment} (hne : other ≠ uid) {request : Request}
    (hwithin : request.Within other) (oracle : Oracle)
    (backend : Backend) (device : Device) :
    (request.exec oracle backend device).2.1.viewOf uid =
      backend.viewOf uid := by
  cases request with
  | createUserWithEmailAndPassword email password => exact hwithin.elim
  | signInWithEmailAndPassword email password => exact hwithin.elim
  | signOut => exact hwithin.elim
  | once path => exact hwithin.elim
  | currentUser =>
      simp only [Request.exec]
      split_ifs <;> rfl
  | set path value =>
      simp only [Request.exec]
      split_ifs
      · exact viewOf_write_other hne hwithin value backend
      · rfl
  | remove path =>
      simp only [Request.exec]
      split_ifs
      · exact viewOf_write_other hne hwithin .null backend
      · rfl
  | putFile path file =>
      simp only [Request.exec]
      split_ifs
      · exact viewOf_putObject_other hne hwithin (some file) backend
      · rfl
  | getDownloadURL path =>
      simp only [Request.exec]
      split_ifs <;> rfl
  | delete path =>
      simp only [Request.exec]
      split_ifs
      · exact viewOf_putObject_other hne hwithin none backend
      · rfl
  | pushKey => rfl
  | now => rfl
  | getSession => rfl
  | setSession user => rfl
  | navigate navigation => rfl
  | setLoad load => rfl
  | showSnackBar text => rfl

/-! ## The operations of a user -/

/-- An operation a signed-in user performs on the device at hand. -/
inductive UserOperation where
  | uploadProfilePicture (file : File)
  | registerClient (name email country city state : String)
      (birth : DateTime) (imageUrl : String)
  | registerCompleteWorker (session : ListableWorker) (form : Complement)
  | addPicture (description : String) (file : File)
  | deletePicture (uidPhoto : String)

/-- Its program; the session worker has to be the user's own. -/
def UserOperation.program (uid : Segment) :
    UserOperation → Option (App Unit)
  | .uploadProfilePicture file => some do
      let _ ← SimpleRegisterController.uploadProfilePicture file uid.val
  | .registerClient name email country city state birth imageUrl => some do
      let _ ←
        SimpleRegisterController.registerClient name email country city
          state birth uid.val imageUrl
  | .registerCompleteWorker session form =>
      if session.uid = uid then some do
        let _ ←
          WorkerComplementController.registerCompleteWorker
            (some session.worker) form
      else none
  | .addPicture description file => some do
      let _ ← PhotosController.addPicture description file
  | .deletePicture uidPhoto => some do
      let _ ← PhotosController.deletePicture uidPhoto

/-- Every user on a device of their own, over the same services. -/
def users : Machine Request Request.Answer DartError UserOperation Oracle
    Backend Device where
  exec := Request.exec
  start := fun operation device =>
    match device.signedIn with
    | none => none
    | some uid => operation.program uid
  reset := Device.reset

def StaysWith (uid : Segment) (device : Device) (request : Request) : Prop :=
  device.signedIn = some uid ∧ request.Within uid

abbrev outcomes (device : Device) (request : Request)
    (answer : Except DartError request.Answer) (next : Device) : Prop :=
  request.Outcome device answer next

theorem signedIn_of_outcome
    {uid : Segment} {device : Device}
    {request : Request} (hwithin : request.Within uid)
    (hdevice : device.signedIn = some uid)
    {answer : Except DartError request.Answer} {next : Device}
    (houtcome : request.Outcome device answer next) :
    next.signedIn = some uid := by
  have hkeeps : request.changesAccount = false := by
    cases request <;> first | exact hwithin.elim | rfl
  rw [houtcome.signedIn_eq hkeeps]
  exact hdevice

/-- From the user's device a program makes only requests that stay with the
user, and its values are as described. -/
abbrev Stays (uid : Segment) (result : α → Prop) (program : App α) : Prop :=
  Async.Keeps outcomes (StaysWith uid)
    (fun device => device.signedIn = some uid) result program

section Programs

variable {uid : Segment}

theorem stays_request (request : Request)
    (hwithin : request.Within uid) :
    Stays uid (fun _ => True) (Async.request request : App _) := by
  apply Async.keeps_request
  · intro device hdevice
    exact ⟨hdevice, hwithin⟩
  · intro device answer next hdevice houtcome
    refine ⟨signedIn_of_outcome hwithin hdevice houtcome, ?_⟩
    intro value _
    trivial

/-! ## Each operation stays with its user -/

theorem ownNode_dataPath : OwnNode uid (pieces (dataPath uid.val)) :=
  Or.inl ⟨["data"], pieces_dataPath_user uid.property⟩

theorem ownNode_photoPath (key : String) :
    OwnNode uid (pieces (photoPath uid.val key)) :=
  Or.inl ⟨_, pieces_photoPath_user uid.property key⟩

theorem ownObject_imagesUser (name : String) :
    OwnObject uid (pieces ("images/user/" ++ uid.val ++ "/" ++ name)) := by
  rw [pieces_imagesUser, pieces_segment uid.property]
  exact ⟨pieces name, rfl⟩

theorem stays_currentUid :
    Stays uid (fun value => value = uid.val) currentUid := by
  have hrequest :
      Stays uid (fun user => user = some uid) FirebaseAuth.currentUser := by
    apply Async.keeps_request
    · intro device hdevice
      exact ⟨hdevice, trivial⟩
    · intro device answer next hdevice houtcome
      have hwithin : Request.currentUser.Within uid := trivial
      refine ⟨signedIn_of_outcome hwithin hdevice houtcome, ?_⟩
      intro user heq
      subst answer
      rw [houtcome.1, hdevice]
  apply hrequest.bind
  intro user huser
  subst huser
  exact Async.keeps_done rfl

theorem stays_sendData (data : Json) {path : String}
    (hown : OwnNode uid (pieces path)) :
    Stays uid (fun _ => True) (sendData data path) :=
  keeps_sendData (stays_request (.set path data) hown)

theorem stays_uploadProfilePicture (file : File) :
    Stays uid (fun _ => True)
      (SimpleRegisterController.uploadProfilePicture file uid.val) := by
  have hown : OwnObject uid (pieces (profileImagePath uid.val)) :=
    ownObject_imagesUser _
  unfold SimpleRegisterController.uploadProfilePicture
  apply Async.Keeps.bind (stays_request (.putFile _ file) hown)
  intro _ _
  exact stays_request (.getDownloadURL _) hown

theorem stays_registerClient
    (name email country city state : String) (birth : DateTime)
    (imageUrl : String) :
    Stays uid (fun _ => True)
      (SimpleRegisterController.registerClient name email country city state
        birth uid.val imageUrl) := by
  unfold SimpleRegisterController.registerClient
  apply Async.Keeps.tryCatch
  · have hsend : Stays uid (fun _ => True)
        (SimpleRegisterController.sendUser
          (.client
            (SimpleRegisterController.newClient name email country city
              state birth uid.val imageUrl))) := by
      unfold SimpleRegisterController.sendUser
      apply Async.Keeps.bind (Async.keeps_ofExcept_any _)
      intro data _
      exact stays_sendData data ownNode_dataPath
    apply Async.Keeps.bind hsend
    intro _ _
    apply Async.Keeps.bind (stays_request (.setSession _) trivial)
    intro _ _
    exact Async.keeps_done trivial
  · intro error
    exact Async.keeps_done trivial

theorem stays_registerCompleteWorker
    (session : ListableWorker) (form : Complement)
    (huid : session.uid = uid) :
    Stays uid (fun _ => True)
      (WorkerComplementController.registerCompleteWorker
        (some session.worker) form) := by
  subst huid
  have hentry : ∀ oracle,
      OwnNode session.uid
        (pieces (CompletionCall.mk session form oracle).entryPath) := by
    intro oracle
    exact Or.inr ⟨_, pieces_entryPath ⟨session, form, oracle⟩⟩
  rw [registerCompleteWorker_eq ⟨session, form, failingAt 0⟩]
  apply Async.Keeps.bind (stays_request (.setSession _) trivial)
  intro _ _
  apply Async.Keeps.bind (stays_sendData _ ownNode_dataPath)
  intro _ _
  apply Async.Keeps.bind (stays_request .now trivial)
  intro time _
  apply Async.Keeps.bind (stays_sendData _ (hentry _))
  intro _ _
  exact Async.keeps_done trivial

theorem stays_addPicture (description : String) (file : File) :
    Stays uid (fun _ => True)
      (PhotosController.addPicture description file) := by
  unfold PhotosController.addPicture
  apply Async.Keeps.tryCatch
  · apply Async.Keeps.bind stays_currentUid
    intro uidUser huser
    subst huser
    apply Async.Keeps.bind (stays_request .pushKey trivial)
    intro uidPhoto _
    have hown : OwnObject uid
        (pieces (imagePath uid.val uidPhoto.val)) :=
      ownObject_imagesUser _
    have hupload : Stays uid (fun _ => True)
        (PhotosController.uploadImage file uid.val uidPhoto.val) := by
      unfold PhotosController.uploadImage
      apply Async.Keeps.bind (stays_request (.putFile _ file) hown)
      intro _ _
      exact stays_request (.getDownloadURL _) hown
    apply Async.Keeps.bind hupload
    intro url _
    exact stays_sendData _ (ownNode_photoPath _)
  · intro error
    exact Async.keeps_done trivial

theorem stays_deletePicture (uidPhoto : String) :
    Stays uid (fun _ => True)
      (PhotosController.deletePicture uidPhoto) := by
  have hown : OwnObject uid (pieces (imagePath uid.val uidPhoto)) :=
    ownObject_imagesUser _
  unfold PhotosController.deletePicture
  apply Async.Keeps.bind stays_currentUid
  intro uidUser huser
  subst huser
  apply Async.Keeps.bind (stays_request (.delete _) hown)
  intro _ _
  apply Async.Keeps.bind (stays_request (.remove _) (ownNode_photoPath _))
  intro _ _
  exact Async.keeps_done trivial

theorem stays_program {operation : UserOperation} {program : App Unit}
    (hprogram : operation.program uid = some program) :
    Stays uid (fun _ => True) program := by
  cases operation with
  | uploadProfilePicture file =>
      simp only [UserOperation.program, Option.some.injEq] at hprogram
      subst program
      exact Async.Keeps.ignore (stays_uploadProfilePicture file)
  | registerClient name email country city state birth imageUrl =>
      simp only [UserOperation.program, Option.some.injEq] at hprogram
      subst program
      exact Async.Keeps.ignore
        (stays_registerClient name email country city state birth imageUrl)
  | registerCompleteWorker session form =>
      simp only [UserOperation.program] at hprogram
      split_ifs at hprogram with huid
      simp only [Option.some.injEq] at hprogram
      subst program
      exact Async.Keeps.ignore (stays_registerCompleteWorker session form huid)
  | addPicture description file =>
      simp only [UserOperation.program, Option.some.injEq] at hprogram
      subst program
      exact Async.Keeps.ignore (stays_addPicture description file)
  | deletePicture uidPhoto =>
      simp only [UserOperation.program, Option.some.injEq] at hprogram
      subst program
      exact Async.Keeps.ignore (stays_deletePicture uidPhoto)

end Programs

/-! ## Isolation -/

/-- Every user has signed in on a device of their own and none is busy. -/
def usersReady (devices : Segment → Device) (backend : Backend) :
    Config Segment Request Request.Answer DartError UserOperation Backend
      Device :=
  { shared := backend
    locals := fun uid => (devices uid).signedInAs uid
    tasks := fun _ => none }

/-- In any interleaving of the remote calls of any number of users, each
user ends with the profile, the images and the directory entries that this
user's own operations produce when they are run alone. -/
theorem users_isolated
    (uid : Segment) (devices : Segment → Device) (backend : Backend)
    (events : List (Event Segment UserOperation Oracle))
    (final : Config Segment Request Request.Answer DartError UserOperation
      Backend Device)
    (hrun : users.run (usersReady devices backend) events = some final) :
    ∃ alone,
      users.run (usersReady devices backend)
          (events.filter fun event => event.agent = uid) = some alone ∧
        final.shared.viewOf uid = alone.shared.viewOf uid := by
  have hstart : ∀ (agent : Segment) (operation : UserOperation)
      (program : App Unit) (device : Device),
      device.signedIn = some agent →
        users.start operation device = some program →
          Async.Safe outcomes (StaysWith agent)
            (fun _ next => next.signedIn = some agent) program device := by
    intro agent operation program device hdevice hprogram
    simp only [users, hdevice] at hprogram
    apply (stays_program hprogram device hdevice).mono
    intro answer next hnext
    exact hnext.1
  have hreset : ∀ (agent : Segment) (device : Device),
      device.signedIn = some agent ∨
          (∃ request, StaysWith agent device request) →
        (users.reset device).signedIn = some agent := by
    intro agent device hvouched
    rcases hvouched with hdevice | ⟨request, hstays⟩
    · exact hdevice
    · exact hstays.1
  have hready : ∀ agent : Segment,
      (usersReady devices backend).AgentInv (fun _ => outcomes) StaysWith
        (fun agent device => device.signedIn = some agent) agent := by
    intro agent
    rfl
  obtain ⟨alone, halone, hagrees⟩ :=
    Machine.run_isolated
      (fun request oracle shared shared' device hstays hview =>
        exec_within hstays.2 oracle device hview)
      (fun other request oracle shared device hne hstays =>
        exec_within_other hne hstays.2 oracle shared device)
      hstart
      (fun operation request oracle shared device =>
        Request.exec_outcome request oracle shared device)
      hreset events hready ⟨rfl, rfl, rfl⟩ hrun
  exact ⟨alone, halone, hagrees.view_eq⟩

/-- One user registers with a picture while another adds a photo; uploads and
writes of the two alternate. -/
def twoUsers : List (Event Segment UserOperation Oracle) :=
  [.act firstUid (.uploadProfilePicture ⟨[1]⟩),
    .act secondUid (.addPicture "fachada" ⟨[2]⟩),
    .resume secondUid (failingAt 9 0),
    .resume firstUid (failingAt 9 0),
    .resume secondUid (failingAt 9 1),
    .resume secondUid (failingAt 9 2),
    .resume firstUid (failingAt 9 1),
    .act firstUid
      (.registerClient "Ana Souza" "ana@folium.work" "BR" "Xapuri" "Acre"
        ⟨1990, 5, 17, 0, 0, 0, 0, 0⟩ "url"),
    .resume secondUid (failingAt 9 3),
    .resume firstUid (failingAt 9 0),
    .resume secondUid (failingAt 9 4)]

theorem users_isolated_twoUsers :
    ∃ final alone,
      users.run (usersReady (fun _ => Device.fresh) Backend.empty)
          twoUsers = some final ∧
      final.shared.read (photoPath secondUid.val firstKey.val) ≠ .null ∧
      users.run (usersReady (fun _ => Device.fresh) Backend.empty)
          (twoUsers.filter fun event => event.agent = firstUid) =
        some alone ∧
      final.shared.viewOf firstUid =
        alone.shared.viewOf firstUid := by
  have hrun : (users.run (usersReady (fun _ => Device.fresh) Backend.empty)
      twoUsers).any (fun final =>
        !(final.shared.read
          (photoPath secondUid.val firstKey.val)).fieldsOf.isEmpty) =
      true := by
    decide +kernel
  obtain ⟨final, hrun, hadded⟩ := (Option.any_eq_true _ _).mp hrun
  obtain ⟨alone, halone, hview⟩ :=
    users_isolated firstUid (fun _ => Device.fresh) Backend.empty
      twoUsers final hrun
  refine ⟨final, alone, hrun, ?_, halone, hview⟩
  intro hnull
  rw [hnull] at hadded
  cases hadded

end FoliumApp
