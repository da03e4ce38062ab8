import FoliumApp.AdmittedProfiles
import FoliumApp.NotedAgents
import FoliumApp.PhotoRecords

/-!
# How far a handler is with requests that belong together

An image is stored, its address asked for and the record of the photo written
last; an image is deleted before its record; a profile is written before the
entry that lists it.  Between such requests the services are in a state that
no single request explains, so the phase of every device is noted: which
requests it still owes.

The pass over the handlers below says what each of them may ask for in which
phase, what the requests carry, and that a handler ends without owing any.
-/

namespace FoliumApp

open PathTree AsyncProgram

/-! ## Phases -/

/-- The account is the one last asked for, since that of the device changed
last. -/
inductive Phase where
  | free (account : Option Segment)
  | uploading (uid key : Segment)
  | addressing (uid key : Segment)
  | recording (uid key : Segment)
  | removing (uid : Segment) (image : String)
  | listing (account : Option Segment) (path : String) (profile : Json)

namespace Phase

def account : Phase → Option Segment
  | .free account => account
  | .uploading uid _ => some uid
  | .addressing uid _ => some uid
  | .recording uid _ => some uid
  | .removing uid _ => some uid
  | .listing account _ _ => account

def keyGiven (key : Segment) : Phase → Phase
  | .free (some uid) => .uploading uid key
  | phase => .free phase.account

def imageStored : Phase → Phase
  | .uploading uid key => .addressing uid key
  | phase => .free phase.account

def addressGiven : Phase → Phase
  | .addressing uid key => .recording uid key
  | phase => .free phase.account

def imageDeleted (image : String) : Phase → Phase
  | .free (some uid) => .removing uid image
  | phase => .free phase.account

/-- Only a completed profile has an occupation, and only it is listed. -/
def written (path : String) (value : Json) : Phase → Phase
  | .free account =>
      match value.child "occupation" with
      | .null => .free account
      | _ => .listing account path value
  | phase => .free phase.account

/-- The phase after a request is answered. -/
def advance (phase : Phase) : (request : Request) →
    Except DartError request.Answer → Phase
  | .createUserWithEmailAndPassword _ _, .ok uid => .free (some uid)
  | .signInWithEmailAndPassword _ _, .ok _ => .free none
  | .signOut, .ok _ => .free none
  | .currentUser, .ok user => .free user
  | .pushKey, .ok key => phase.keyGiven key
  | .putFile _ _, .ok _ => phase.imageStored
  | .getDownloadURL _, .ok _ => phase.addressGiven
  | .delete path, .ok _ => phase.imageDeleted path
  | .set path value, .ok _ => phase.written path value
  | .now, .ok _ => phase
  | _, _ => .free phase.account

end Phase

/-! ## What may be asked for -/

/-- The object of an image, a photo or the picture of a profile. -/
def imageObject (uid name : Segment) : List String :=
  ["images", "user", uid.val, name.val ++ ".jpg"]

/-- The entry that lists a worker. -/
def entryValue (time : DateTime) : Json :=
  .obj [("time", .str time.toString)]

/-- The record of a photo, complete and under its own key. -/
def photoValue (description url : String) (key : Segment) : Json :=
  Photo.toJson
    { description := some description, imageUrl := some url
      uidImage := some key.val }

/-- The requests a handler of the action makes in each phase. -/
inductive Registry.Lawful (registry : Registry) (action : Action)
    (device : Device) : Phase → Request → Prop where
  | createUser (account : Option Segment) (email password : String) :
      Lawful registry action device (.free account)
        (.createUserWithEmailAndPassword email password)
  | signIn (account : Option Segment) (email password : String) :
      Lawful registry action device (.free account)
        (.signInWithEmailAndPassword email password)
  | signOut (account : Option Segment) :
      Lawful registry action device (.free account) .signOut
  | currentUser (account : Option Segment) :
      Lawful registry action device (.free account) .currentUser
  | readRecord {uid : Segment} (hsigned : device.signedIn = some uid) :
      Lawful registry action device (.free (some uid))
        (.once (dataPath uid.val))
  | readPhotos {uid : Segment} (hsigned : device.signedIn = some uid) :
      Lawful registry action device (.free (some uid))
        (.once (photosPath uid.val))
  | writeClient (account : Option Segment) {uid : Segment}
      {client : Client} {location : Location}
      (hadmits : registry.Admits uid client.toUser)
      (hlocation : client.location = some location)
      (haddress : location.address ≠ none)
      (hfavorites : client.favoriteList = some []) :
      Lawful registry action device (.free account)
        (.set (dataPath uid.val) (.obj (client.fields location)))
  | writeWorker (account : Option Segment) {uid : Segment}
      {worker : Worker} {location : Location} {form : Complement}
      (hcompletion : registry.Completion uid worker location form) :
      Lawful registry action device (.free account)
        (.set (dataPath uid.val) (completedProfile worker location form))
  | putProfilePicture {uid : Segment} (file : File)
      (hsigned : device.signedIn = some uid) :
      Lawful registry action device (.free (some uid))
        (.putFile (profileImagePath uid.val) file)
  | addressProfilePicture {uid : Segment}
      (hsigned : device.signedIn = some uid) :
      Lawful registry action device (.free (some uid))
        (.getDownloadURL (profileImagePath uid.val))
  | pushKey {uid : Segment} (hsigned : device.signedIn = some uid) :
      Lawful registry action device (.free (some uid)) .pushKey
  | putImage {uid key : Segment} (file : File)
      (hsigned : device.signedIn = some uid) :
      Lawful registry action device (.uploading uid key)
        (.putFile (imagePath uid.val key.val) file)
  | addressImage {uid key : Segment}
      (hsigned : device.signedIn = some uid) :
      Lawful registry action device (.addressing uid key)
        (.getDownloadURL (imagePath uid.val key.val))
  | writePhoto {uid key : Segment} (description url : String)
      (huid : registry.HasUid uid) (hsigned : device.signedIn = some uid) :
      Lawful registry action device (.recording uid key)
        (.set (photoPath uid.val key.val) (photoValue description url key))
  | deleteImage {uid : Segment} {uidPhoto : String}
      (haction : action = .deletePhoto uidPhoto)
      (hsigned : device.signedIn = some uid) :
      Lawful registry action device (.free (some uid))
        (.delete (imagePath uid.val uidPhoto))
  | removePhoto {uid name : Segment} {uidPhoto : String}
      (haction : action = .deletePhoto uidPhoto)
      (hname : pieces uidPhoto = [name.val])
      (hsigned : device.signedIn = some uid) :
      Lawful registry action device
        (.removing uid (imagePath uid.val uidPhoto))
        (.remove (photoPath uid.val uidPhoto))
  | timeEntry (account : Option Segment) (path : String) (profile : Json) :
      Lawful registry action device (.listing account path profile) .now
  | listWorker (account : Option Segment) (time : DateTime)
      {uid : Segment} {worker : Worker} {location : Location}
      {form : Complement}
      (hcompletion : registry.Completion uid worker location form) :
      Lawful registry action device
        (.listing account (dataPath uid.val)
          (completedProfile worker location form))
        (.set
          (WorkerComplementController.workerDirectoryPath worker location
            form.category.uid)
          (entryValue time))
  | listUnsaved (account : Option Segment) (time : DateTime)
      {uid : Segment} {worker : Worker} {location : Location}
      {form : Complement}
      (hcompletion : registry.Completion uid worker location form) :
      Lawful registry action device (.free account)
        (.set
          (WorkerComplementController.workerDirectoryPath worker location
            form.category.uid)
          (entryValue time))
  | now (account : Option Segment) :
      Lawful registry action device (.free account) .now
  | getSession (account : Option Segment) :
      Lawful registry action device (.free account) .getSession
  | setSession (account : Option Segment) {uid : Segment} {user : AnyUser}
      (hadmits : registry.Admits uid user.toUser) :
      Lawful registry action device (.free account) (.setSession user)
  | navigate (account : Option Segment) (navigation : Navigation) :
      Lawful registry action device (.free account) (.navigate navigation)
  | setLoad (account : Option Segment) (load : Bool) :
      Lawful registry action device (.free account) (.setLoad load)
  | showSnackBar (account : Option Segment) (text : String) :
      Lawful registry action device (.free account) (.showSnackBar text)

/-- What a handler is told about the accounts, the records and the objects
there are. -/
def Registry.Tells (registry : Registry) : (request : Request) →
    Except DartError request.Answer → Prop
  | .createUserWithEmailAndPassword email _, .ok uid =>
      registry.account uid email
  | .currentUser, .ok user =>
      ∀ uid, user = some uid → registry.HasUid uid
  | .once path, .ok data =>
      ∀ uid : Segment, path = dataPath uid.val →
        data = .null ∨ registry.Record uid data
  | .delete path, .ok _ =>
      ∃ owner name : Segment, pieces path = imageObject owner name
  | _, _ => True

/-- The state of a device with the phase of its handler. -/
abbrev Phased := Device × Phase

abbrev Registry.rely (registry : Registry) (state : Phased)
    (request : Request) (answer : Except DartError request.Answer)
    (next : Phased) : Prop :=
  request.Outcome state.1 answer next.1 ∧ registry.Tells request answer ∧
    next.2 = state.2.advance request answer

abbrev Registry.guar (registry : Registry) (action : Action)
    (state : Phased) (request : Request) : Prop :=
  registry.Lawful action state.1 state.2 request

def Registry.AdmitsSession (registry : Registry) (device : Device) : Prop :=
  ∀ user, device.currentUser = some user →
    ∃ uid, registry.Admits uid user.toUser

/-- The phase, and what is known of the device in it. -/
structure Registry.InPhase (registry : Registry)
    (account : Option Segment) (phase : Phase) (state : Phased) : Prop where
  session : registry.AdmitsSession state.1
  phase : state.2 = phase
  signedIn : ∀ uid, account = some uid →
    state.1.signedIn = some uid ∧ registry.HasUid uid

/-- Nothing is owed, and the account noted is that of the device. -/
abbrev Registry.SettledAs (registry : Registry) (account : Option Segment)
    (state : Phased) : Prop :=
  registry.InPhase account (.free account) state

def Registry.Settled (registry : Registry) (state : Phased) : Prop :=
  ∃ account, registry.SettledAs account state

/-! ## Rules for single requests -/

section Programs

variable {registry : Registry} {action : Action}

abbrev Registry.KeepsAs (registry : Registry) (action : Action)
    (account : Option Segment) (result : α → Prop) (program : App α) :
    Prop :=
  Async.Keeps registry.rely (registry.guar action)
    (registry.SettledAs account) result program

/-- From a device that owes nothing the program makes lawful requests, and
leaves it owing nothing. -/
abbrev Registry.Works (registry : Registry) (action : Action)
    (result : α → Prop) (program : App α) : Prop :=
  Async.Keeps registry.rely (registry.guar action) registry.Settled result
    program

theorem works_of_keepsAs {result : α → Prop} {program : App α}
    (hprogram : ∀ account, registry.KeepsAs action account result program) :
    registry.Works action result program := by
  rintro state ⟨account, hsettled⟩
  apply (hprogram account state hsettled).mono
  intro answer next hnext
  exact ⟨⟨account, hnext.1⟩, hnext.2⟩

variable {account : Option Segment} {state : Phased}

theorem inPhase_of_eq {phase after : Phase}
    (hphase : registry.InPhase account phase state) {next : Phased}
    (hdevice : next.1.signedIn = state.1.signedIn)
    (hsession : next.1.currentUser = state.1.currentUser)
    (hafter : next.2 = after) : registry.InPhase account after next := by
  refine ⟨?_, hafter, ?_⟩
  · unfold Registry.AdmitsSession
    rw [hsession]
    exact hphase.session
  · rw [hdevice]
    exact hphase.signedIn

/-- A request that leaves account and session alone moves the phase. -/
theorem safe_inPhase {phase : Phase} {request : Request}
    {post : Except DartError request.Answer → Phased → Prop}
    (hphase : registry.InPhase account phase state)
    (hlawful : ∀ device, (∀ uid, account = some uid →
      device.signedIn = some uid ∧ registry.HasUid uid) →
        registry.Lawful action device phase request)
    (haccount : request.changesAccount = false)
    (hsession : request.changesSession = false)
    (hpost : ∀ answer next, registry.Tells request answer →
      registry.InPhase account (phase.advance request answer) next →
        post answer next) :
    Async.Safe registry.rely (registry.guar action) post
      (Async.request request) state := by
  obtain ⟨device, found⟩ := state
  have hfound : found = phase := hphase.phase
  subst hfound
  apply (Async.safe_request _ _ _).mpr
  refine ⟨hlawful device hphase.signedIn, ?_⟩
  rintro answer ⟨device', phase'⟩ ⟨houtcome, htells, hnext⟩
  apply hpost answer _ htells
  exact inPhase_of_eq hphase (houtcome.signedIn_eq haccount)
    (houtcome.currentUser_eq hsession) hnext

/-- A request after which as much is known as before. -/
theorem keepsAs_request {request : Request} {result : request.Answer → Prop}
    (hlawful : ∀ device, (∀ uid, account = some uid →
      device.signedIn = some uid) →
        registry.Lawful action device (.free account) request)
    (haccount : request.changesAccount = false)
    (hsession : request.changesSession = false)
    (hphase : ∀ answer,
      (Phase.free account).advance request answer = .free account)
    (hresult : ∀ value, registry.Tells request (.ok value) → result value) :
    registry.KeepsAs action account result (Async.request request) := by
  intro state hsettled
  apply safe_inPhase hsettled _ haccount hsession
  · intro answer next htells hnext
    rw [hphase answer] at hnext
    refine ⟨hnext, ?_⟩
    rintro value rfl
    exact hresult value htells
  · intro device hsigned
    exact hlawful device (fun uid huid => (hsigned uid huid).1)

theorem keepsAs_navigate (navigation : Navigation) :
    registry.KeepsAs action account (fun _ => True)
      (Navigator.navigate navigation) :=
  keepsAs_request (fun _ _ => .navigate account navigation) rfl rfl
    (fun _ => rfl) (fun _ _ => trivial)

theorem keepsAs_setLoad (load : Bool) :
    registry.KeepsAs action account (fun _ => True) (setLoad load) :=
  keepsAs_request (fun _ _ => .setLoad account load) rfl rfl (fun _ => rfl)
    (fun _ _ => trivial)

theorem keepsAs_showSnackBar (text : String) :
    registry.KeepsAs action account (fun _ => True) (showSnackBar text) :=
  keepsAs_request (fun _ _ => .showSnackBar account text) rfl rfl
    (fun _ => rfl) (fun _ _ => trivial)

theorem keepsAs_now :
    registry.KeepsAs action account (fun _ => True) DateTime.now :=
  keepsAs_request (fun _ _ => .now account) rfl rfl
    (fun answer => by cases answer <;> rfl) (fun _ _ => trivial)

theorem works_navigate (navigation : Navigation) :
    registry.Works action (fun _ => True) (Navigator.navigate navigation) :=
  works_of_keepsAs (fun _ => keepsAs_navigate navigation)

theorem works_setLoad (load : Bool) :
    registry.Works action (fun _ => True) (setLoad load) :=
  works_of_keepsAs (fun _ => keepsAs_setLoad load)

theorem works_showSnackBar (text : String) :
    registry.Works action (fun _ => True) (showSnackBar text) :=
  works_of_keepsAs (fun _ => keepsAs_showSnackBar text)

theorem keepsAs_setCurrentUser {uid : Segment} {user : AnyUser}
    (hadmits : registry.Admits uid user.toUser) :
    registry.KeepsAs action account (fun _ => True)
      (LoginController.setCurrentUser user) := by
  apply Async.keeps_request
  · rintro ⟨device, phase⟩ hsettled
    have hfree : phase = .free account := hsettled.phase
    subst hfree
    exact .setSession account hadmits
  · rintro ⟨device, phase⟩ answer ⟨device', phase'⟩ hsettled
      ⟨⟨-, hdevice⟩, -, hnext⟩
    have hfree : phase = .free account := hsettled.phase
    subst hfree
    dsimp only at hdevice hnext
    subst hdevice
    refine ⟨⟨?_, ?_, hsettled.signedIn⟩, fun _ _ => trivial⟩
    · rintro found hfound
      cases hfound
      exact ⟨uid, hadmits⟩
    · rw [hnext]
      cases answer <;> rfl

/-! ## Requests that change what is known of the account -/

/-- The account is asked for; there is one, none, or no answer. -/
theorem safe_currentUser
    {post : Except DartError (Option Segment) → Phased → Prop}
    (hsettled : registry.Settled state)
    (hnone : ∀ next, registry.Settled next → post (.ok none) next)
    (herror : ∀ error next, registry.Settled next → post (.error error) next)
    (hsome : ∀ uid next, registry.HasUid uid →
      registry.SettledAs (some uid) next → post (.ok (some uid)) next) :
    Async.Safe registry.rely (registry.guar action) post
      FirebaseAuth.currentUser state := by
  obtain ⟨account, hsettled⟩ := hsettled
  obtain ⟨device, phase⟩ := state
  have hfree : phase = .free account := hsettled.phase
  subst hfree
  apply (Async.safe_request _ _ _).mpr
  refine ⟨.currentUser account, ?_⟩
  rintro answer ⟨device', phase'⟩ ⟨houtcome, htells, hnext⟩
  dsimp only at houtcome hnext
  cases answer with
  | error error =>
      apply herror
      have hdevice : device' = device := houtcome
      subst hdevice
      exact ⟨account, inPhase_of_eq hsettled rfl rfl hnext⟩
  | ok user =>
      obtain ⟨huser, hdevice⟩ := houtcome
      subst hdevice
      have hsession : registry.AdmitsSession device' := hsettled.session
      cases user with
      | none =>
          apply hnone
          refine ⟨none, hsession, hnext, ?_⟩
          rintro uid huid
          cases huid
      | some uid =>
          have huid : registry.HasUid uid := htells uid rfl
          apply hsome uid _ huid
          refine ⟨hsession, hnext, ?_⟩
          rintro other hother
          cases hother
          exact ⟨huser.symm, huid⟩

theorem works_account_bind {result : α → Prop} {next : Segment → App α}
    (hnext : ∀ uid, registry.HasUid uid →
      registry.KeepsAs action (some uid) result (next uid)) :
    registry.Works action result
      (do
        let user ← FirebaseAuth.currentUser
        let uid ← Async.ofExcept (nonNull user)
        next uid) := by
  intro state hsettled
  rw [Async.safe_bind]
  apply safe_currentUser hsettled
  · intro after hafter
    refine ⟨hafter, ?_⟩
    intro value hvalue
    cases hvalue
  · intro error after hafter
    refine ⟨hafter, ?_⟩
    intro value hvalue
    cases hvalue
  · intro uid after huid hafter
    apply (hnext uid huid after hafter).mono
    intro answer last hlast
    exact ⟨⟨_, hlast.1⟩, hlast.2⟩

theorem works_currentUid_bind {result : α → Prop} {next : String → App α}
    (hnext : ∀ uid, registry.HasUid uid →
      registry.KeepsAs action (some uid) result (next uid.val)) :
    registry.Works action result (currentUid >>= next) := by
  intro state hsettled
  unfold currentUid
  rw [Async.safe_bind, Async.safe_bind]
  apply safe_currentUser hsettled
  · intro after hafter
    refine ⟨hafter, ?_⟩
    intro value hvalue
    cases hvalue
  · intro error after hafter
    refine ⟨hafter, ?_⟩
    intro value hvalue
    cases hvalue
  · intro uid after huid hafter
    apply (hnext uid huid after hafter).mono
    intro answer last hlast
    exact ⟨⟨_, hlast.1⟩, hlast.2⟩

/-- A new account comes with the e-mail address it was asked for with. -/
theorem safe_createUid
    {post : Except DartError String → Phased → Prop}
    (email password : String) (hsettled : registry.Settled state)
    (herror : ∀ error next, registry.Settled next → post (.error error) next)
    (hcreated : ∀ uid next, registry.account uid email →
      registry.SettledAs (some uid) next → post (.ok uid.val) next) :
    Async.Safe registry.rely (registry.guar action) post
      (SimpleRegisterController.createUid email password) state := by
  obtain ⟨account, hsettled⟩ := hsettled
  obtain ⟨device, phase⟩ := state
  have hfree : phase = .free account := hsettled.phase
  subst hfree
  unfold SimpleRegisterController.createUid
  rw [Async.safe_bind]
  apply (Async.safe_request
    (Request.createUserWithEmailAndPassword email password) _ _).mpr
  refine ⟨.createUser account email password, ?_⟩
  rintro answer ⟨device', phase'⟩ ⟨houtcome, htells, hnext⟩
  dsimp only at houtcome hnext
  cases answer with
  | error error =>
      apply herror
      have hdevice : device' = device := houtcome
      subst hdevice
      exact ⟨account, inPhase_of_eq hsettled rfl rfl hnext⟩
  | ok uid =>
      have hdevice : device' = { device with signedIn := some uid } :=
        houtcome
      subst hdevice
      have hsession : registry.AdmitsSession device := hsettled.session
      apply hcreated uid _ htells
      refine ⟨hsession, hnext, ?_⟩
      rintro other hother
      cases hother
      exact ⟨rfl, email, htells⟩

theorem works_signIn (email password : String) :
    registry.Works action (fun _ => True)
      (FirebaseAuth.signInWithEmailAndPassword email password) := by
  apply Async.keeps_request
  · rintro ⟨device, phase⟩ ⟨account, hsettled⟩
    have hfree : phase = .free account := hsettled.phase
    subst hfree
    exact .signIn account email password
  · rintro ⟨device, phase⟩ answer ⟨device', phase'⟩ ⟨account, hsettled⟩
      ⟨houtcome, -, hnext⟩
    have hfree : phase = .free account := hsettled.phase
    subst hfree
    refine ⟨?_, fun _ _ => trivial⟩
    dsimp only at houtcome hnext
    cases answer with
    | error error =>
        have hdevice : device' = device := houtcome
        subst hdevice
        exact ⟨account, inPhase_of_eq hsettled rfl rfl hnext⟩
    | ok value =>
        obtain ⟨uid, rfl⟩ := houtcome
        have hsession : registry.AdmitsSession device := hsettled.session
        refine ⟨none, hsession, hnext, ?_⟩
        rintro other hother
        cases hother

theorem works_signOut :
    registry.Works action (fun _ => True) FirebaseAuth.signOut := by
  apply Async.keeps_request
  · rintro ⟨device, phase⟩ ⟨account, hsettled⟩
    have hfree : phase = .free account := hsettled.phase
    subst hfree
    exact .signOut account
  · rintro ⟨device, phase⟩ answer ⟨device', phase'⟩ ⟨account, hsettled⟩
      ⟨houtcome, -, hnext⟩
    have hfree : phase = .free account := hsettled.phase
    subst hfree
    refine ⟨?_, fun _ _ => trivial⟩
    dsimp only at houtcome hnext
    cases answer with
    | error error =>
        have hdevice : device' = device := houtcome
        subst hdevice
        exact ⟨account, inPhase_of_eq hsettled rfl rfl hnext⟩
    | ok value =>
        have hdevice : device' = { device with signedIn := none } := houtcome
        subst hdevice
        have hsession : registry.AdmitsSession device := hsettled.session
        refine ⟨none, hsession, hnext, ?_⟩
        rintro other hother
        cases hother

/-! ## Registration -/

theorem keepsAs_uploadProfilePicture (file : File) (uid : Segment) :
    registry.KeepsAs action (some uid) (fun _ => True)
      (SimpleRegisterController.uploadProfilePicture file uid.val) := by
  have hput : registry.KeepsAs action (some uid) (fun _ => True)
      (FirebaseStorage.putFile (profileImagePath uid.val) file) :=
    keepsAs_request
      (fun device hsigned => .putProfilePicture file (hsigned uid rfl))
      rfl rfl (fun answer => by cases answer <;> rfl) (fun _ _ => trivial)
  have haddress : registry.KeepsAs action (some uid) (fun _ => True)
      (FirebaseStorage.getDownloadURL (profileImagePath uid.val)) :=
    keepsAs_request
      (fun device hsigned => .addressProfilePicture (hsigned uid rfl))
      rfl rfl (fun answer => by cases answer <;> rfl) (fun _ _ => trivial)
  exact hput.bind (fun _ _ => haddress)

/-- A registration that reports true has an account for its address. -/
theorem works_registerUser (email password : String)
    (profilePicture : Option File) :
    registry.Works action
      (fun user => user.result = true →
        ∃ uid : Segment, user.uid = uid.val ∧ registry.account uid email)
      (SimpleRegisterController.registerUser email password
        profilePicture) := by
  intro state hsettled
  unfold SimpleRegisterController.registerUser
  rw [Async.safe_tryCatch, Async.safe_bind]
  apply safe_createUid email password hsettled
  · intro error next hnext
    refine ⟨hnext, ?_⟩
    intro user huser hresult
    cases huser
    cases hresult
  · intro uid next haccount hnext
    cases profilePicture with
    | none =>
        refine ⟨⟨_, hnext⟩, ?_⟩
        intro user huser _
        cases huser
        exact ⟨uid, rfl, haccount⟩
    | some file =>
        apply (keepsAs_uploadProfilePicture file uid next hnext).then
        · intro imageUrl last hlast
          refine ⟨⟨_, hlast.1⟩, ?_⟩
          intro user huser _
          cases huser
          exact ⟨uid, rfl, haccount⟩
        · intro error last hlast
          refine ⟨⟨_, hlast.1⟩, ?_⟩
          intro user huser hresult
          cases huser
          cases hresult

/-- A client's record leaves nothing to be listed. -/
theorem keepsAs_sendClient {uid : Segment} {client : Client}
    {location : Location} (hadmits : registry.Admits uid client.toUser)
    (hlocation : client.location = some location)
    (haddress : location.address ≠ none)
    (hfavorites : client.favoriteList = some []) :
    registry.KeepsAs action account (fun _ => True)
      (sendData (.obj (client.fields location)) (dataPath uid.val)) := by
  have hset : registry.KeepsAs action account (fun _ => True)
      (FirebaseDatabase.set (dataPath uid.val)
        (.obj (client.fields location))) := by
    apply keepsAs_request
    · intro _ _
      exact .writeClient account hadmits hlocation haddress hfavorites
    · rfl
    · rfl
    · intro answer
      cases answer <;> rfl
    · intro _ _
      trivial
  unfold sendData
  apply Async.Keeps.tryCatch
  · apply hset.bind
    intro _ _
    exact Async.keeps_done trivial
  · intro error
    exact Async.keeps_done trivial

section Form

variable {form : RegisterForm} {uid : Segment}

theorem keepsAs_registerClient (hentered : SimpleRegister.Entered form)
    (hoffered : registry.offered form.selectedCountry form.selectedState
      form.selectedCity)
    (haccount : registry.account uid form.email) (birth : DateTime)
    (imageUrl : String) :
    registry.KeepsAs action account (fun _ => True)
      (SimpleRegisterController.registerClient form.name form.email
        form.selectedCountry form.selectedCity form.selectedState birth
        uid.val imageUrl) := by
  have hadmits :=
    admits_newClient hentered hoffered haccount birth imageUrl
  apply Async.Keeps.tryCatch
  · have hsend : registry.KeepsAs action account (fun _ => True)
        (SimpleRegisterController.sendUser
          (.client
            (SimpleRegisterController.newClient form.name form.email
              form.selectedCountry form.selectedCity form.selectedState
              birth uid.val imageUrl))) := by
      unfold SimpleRegisterController.sendUser
      simp only [AnyUser.toJson, newClient_toJson, Async.ofExcept,
        Async.done_bind]
      exact keepsAs_sendClient hadmits rfl
        (by simp [SimpleRegisterController.newLocation]) rfl
    apply Async.Keeps.bind hsend
    intro _ _
    apply Async.Keeps.bind (keepsAs_setCurrentUser hadmits)
    intro _ _
    exact Async.keeps_done trivial
  · intro error
    exact Async.keeps_done trivial

theorem keepsAs_registerWorker (hentered : SimpleRegister.Entered form)
    (hoffered : registry.offered form.selectedCountry form.selectedState
      form.selectedCity)
    (haccount : registry.account uid form.email) (birth : DateTime)
    (imageUrl : String) :
    registry.KeepsAs action account (fun _ => True)
      (SimpleRegisterController.registerWorker form.name form.email
        form.selectedCountry form.selectedCity form.selectedState birth
        uid.val imageUrl) := by
  have hadmits :=
    admits_newClient hentered hoffered haccount birth imageUrl
  apply Async.Keeps.tryCatch
  · apply Async.Keeps.bind (keepsAs_setCurrentUser hadmits)
    intro _ _
    exact Async.keeps_done trivial
  · intro error
    exact Async.keeps_done trivial

theorem works_registerAccount (hentered : SimpleRegister.Entered form)
    (hoffered : registry.offered form.selectedCountry form.selectedState
      form.selectedCity) (typeUser : TypeUser) (date : DateTime) :
    registry.Works action (fun _ => True)
      (SimpleRegister.registerAccount typeUser form date) := by
  apply Async.Keeps.bind
    (works_registerUser form.email form.password form.image)
  intro user huser
  cases hresult : user.result with
  | false =>
      simp only [Bool.false_eq_true, if_false]
      exact Async.keeps_done trivial
  | true =>
      obtain ⟨uid, huid, haccount⟩ := huser hresult
      simp only [if_true, huid]
      cases typeUser with
      | cliente =>
          apply Async.Keeps.bind (works_of_keepsAs (fun _ =>
            keepsAs_registerClient hentered hoffered haccount date _))
          intro profile _
          exact Async.keeps_done trivial
      | trabalhador =>
          apply Async.Keeps.bind (works_of_keepsAs (fun _ =>
            keepsAs_registerWorker hentered hoffered haccount date _))
          intro profile _
          exact Async.keeps_done trivial

theorem works_agree (hentered : SimpleRegister.Entered form)
    (hoffered : registry.offered form.selectedCountry form.selectedState
      form.selectedCity) (typeUser : TypeUser) (date : DateTime) :
    registry.Works action (fun _ => True)
      (SimpleRegister.agree typeUser form date) := by
  apply Async.Keeps.bind (works_setLoad true)
  intro _ _
  apply Async.Keeps.bind
    (works_registerAccount hentered hoffered typeUser date)
  intro result _
  cases result with
  | false => exact works_showSnackBar _
  | true =>
      cases typeUser with
      | cliente => exact works_navigate _
      | trabalhador => exact works_navigate _

theorem works_btnRegisterClicked {agrees : Option Selection}
    (hoffered : ∀ held, agrees = some held →
      registry.offered held.country held.state held.city)
    (typeUser : TypeUser) :
    registry.Works action (fun _ => True)
      (SimpleRegister.btnRegisterClicked typeUser form agrees) := by
  apply SimpleRegister.btnRegisterClicked_rule_of_passes
  · exact works_showSnackBar
  · exact Async.keeps_done trivial
  · intro date next hnext
    have hage : registry.Works action (fun _ => True)
        (SimpleRegister.ageRefused date) := by
      apply Async.Keeps.bind (works_of_keepsAs (fun _ => keepsAs_now))
      intro first _
      split_ifs
      · exact Async.keeps_done trivial
      · apply Async.Keeps.bind (works_of_keepsAs (fun _ => keepsAs_now))
        intro second _
        exact Async.keeps_done trivial
    apply Async.Keeps.bind hage
    intro refused _
    exact hnext refused
  · intro hpasses held hagrees date
    exact works_agree (hpasses.toEntered.holding held)
      (hoffered held hagrees) typeUser date

end Form

/-! ## Signing in and choosing a role -/

theorem works_checkHome :
    registry.Works action (fun _ => True) Home.check := by
  have hlogged : registry.Works action (fun _ => True)
      LoginController.checkUserLogged := by
    intro state hsettled
    unfold LoginController.checkUserLogged
    rw [Async.safe_bind]
    apply safe_currentUser hsettled
    · intro next hnext
      exact ⟨hnext, fun _ _ => trivial⟩
    · intro error next hnext
      exact ⟨hnext, fun _ _ => trivial⟩
    · intro uid next _ hnext
      exact ⟨⟨_, hnext⟩, fun _ _ => trivial⟩
  apply Async.Keeps.bind hlogged
  intro signedIn _
  split_ifs
  · exact works_navigate _
  · exact Async.keeps_done trivial

theorem works_launch : registry.Works action (fun _ => True) launch := by
  apply Async.Keeps.bind (works_navigate _)
  intro _ _
  exact works_checkHome

theorem works_login (email password : String) :
    registry.Works action (fun _ => True) (Login.login email password) := by
  have hlogin : registry.Works action (fun _ => True)
      (LoginController.login email password) := by
    apply Async.Keeps.tryCatch
    · apply Async.Keeps.bind (works_signIn email password)
      intro _ _
      exact Async.keeps_done trivial
    · intro error
      exact Async.keeps_done trivial
  apply Async.Keeps.bind (works_setLoad true)
  intro _ _
  apply Async.Keeps.bind hlogin
  intro result _
  split_ifs
  · apply Async.Keeps.bind (works_setLoad false)
    intro _ _
    exact works_navigate _
  · apply Async.Keeps.bind (works_setLoad false)
    intro _ _
    exact works_showSnackBar _

theorem works_logOut :
    registry.Works action (fun _ => True) MenuConfig.logOut := by
  apply Async.Keeps.bind works_signOut
  intro _ _
  apply Async.Keeps.bind (works_navigate _)
  intro _ _
  exact works_checkHome

/-- A role choice finds no record or one of its own account. -/
theorem keepsAs_onceRecord (uid : Segment) :
    registry.KeepsAs action (some uid)
      (fun data => data = .null ∨ registry.Record uid data)
      (FirebaseDatabase.once (dataPath uid.val)) :=
  keepsAs_request (fun device hsigned => .readRecord (hsigned uid rfl))
    rfl rfl (fun answer => by cases answer <;> rfl)
    (fun _ htells => htells uid rfl)

theorem works_userChoice_client :
    registry.Works action (fun _ => True) UserChoice.client := by
  unfold UserChoice.client
  rw [clientChoice_eq]
  apply Async.Keeps.bind (works_setLoad true)
  intro _ _
  apply works_account_bind
  intro uid huid
  apply Async.Keeps.bind (keepsAs_onceRecord uid)
  intro data hdata
  have hclient : registry.KeepsAs action (some uid)
      (fun client => registry.Admits uid client.toUser)
      (Async.ofExcept (decodedClient data)) := by
    apply Async.keeps_ofExcept
    intro client hclient
    rcases hdata with rfl | hrecord
    · cases hclient
    · obtain ⟨found, hfound, hadmits⟩ := hrecord.decodedClient
      rw [hclient, Except.ok.injEq] at hfound
      subst hfound
      exact hadmits
  apply Async.Keeps.bind hclient
  intro client hadmits
  have hsession : registry.KeepsAs action (some uid) (fun _ => True)
      (LoginController.setCurrentUser (.client client)) :=
    keepsAs_setCurrentUser hadmits
  apply Async.Keeps.bind hsession
  intro _ _
  exact keepsAs_navigate _

theorem works_userChoice_worker :
    registry.Works action (fun _ => True) UserChoice.worker := by
  unfold UserChoice.worker
  rw [workerChoice_eq]
  apply Async.Keeps.bind (works_setLoad true)
  intro _ _
  apply works_account_bind
  intro uid huid
  apply Async.Keeps.bind (keepsAs_onceRecord uid)
  intro data hdata
  cases hworker : decodedWorker data with
  | error error => exact keepsAs_navigate _
  | ok worker =>
      have hadmits : registry.Admits uid worker.toUser := by
        rcases hdata with rfl | hrecord
        · cases hworker
        · exact (hrecord.of_decodedWorker hworker).1
      have hsession : registry.KeepsAs action (some uid) (fun _ => True)
          (LoginController.setCurrentUser (.worker worker)) :=
        keepsAs_setCurrentUser hadmits
      apply Async.Keeps.tryCatch
      · apply Async.Keeps.bind hsession
        intro _ _
        exact keepsAs_navigate _
      · intro error
        exact keepsAs_navigate _

/-! ## Photos -/

theorem works_loadPictures :
    registry.Works action (fun _ => True) PhotosController.loadPictures := by
  unfold PhotosController.loadPictures
  apply works_currentUid_bind
  intro uid _
  have hread : registry.KeepsAs action (some uid) (fun _ => True)
      (FirebaseDatabase.once (photosPath uid.val)) :=
    keepsAs_request (fun device hsigned => .readPhotos (hsigned uid rfl))
      rfl rfl (fun answer => by cases answer <;> rfl) (fun _ _ => trivial)
  apply Async.Keeps.bind hread
  intro data _
  apply Async.Keeps.bind (Async.keeps_ofExcept_any (asMap data))
  intro names _
  cases names with
  | none => exact Async.keeps_done trivial
  | some entries =>
      apply Async.Keeps.bind (Async.keeps_ofExcept_any _)
      intro photos _
      exact Async.keeps_done trivial

theorem works_updatePhotosList :
    registry.Works action (fun _ => True) PhotosWorker.updatePhotosList := by
  apply Async.Keeps.bind (works_setLoad false)
  intro _ _
  exact works_loadPictures.ignore

theorem works_goBack (screen : Screen) :
    registry.Works action (fun _ => True) (goBack screen) := by
  apply Async.Keeps.bind (works_navigate _)
  intro _ _
  split_ifs
  · exact works_updatePhotosList
  · exact Async.keeps_done trivial

/-- A picture is added in three requests after its key is given. -/
theorem keepsAs_addUnder (uid : Segment) (description : String)
    (file : File) :
    registry.KeepsAs action (some uid) (fun _ => True)
      (do
        let uidPhoto ← FirebaseDatabase.pushKey
        let url ← PhotosController.uploadImage file uid.val uidPhoto.val
        sendData
          (Photo.toJson
            { description := some description, imageUrl := some url
              uidImage := some uidPhoto.val })
          (photoPath uid.val uidPhoto.val)) := by
  intro state hsettled
  rw [Async.safe_bind]
  apply safe_inPhase hsettled
    (fun device hsigned => .pushKey (hsigned uid rfl).1) rfl rfl
  intro answer next _ hnext
  cases answer with
  | error error => exact ⟨hnext, fun _ _ => trivial⟩
  | ok key =>
      change Async.Safe _ _ _ _ next
      unfold PhotosController.uploadImage
      rw [Async.safe_bind, Async.safe_bind]
      apply safe_inPhase hnext
        (fun device hsigned => .putImage file (hsigned uid rfl).1) rfl rfl
      intro answer next _ hnext
      cases answer with
      | error error => exact ⟨hnext, fun _ _ => trivial⟩
      | ok value =>
          apply safe_inPhase hnext
            (fun device hsigned => .addressImage (hsigned uid rfl).1) rfl rfl
          intro answer next _ hnext
          cases answer with
          | error error => exact ⟨hnext, fun _ _ => trivial⟩
          | ok url =>
              change Async.Safe _ _ _ (sendData _ _) next
              unfold sendData
              rw [Async.safe_tryCatch, Async.safe_bind]
              apply safe_inPhase hnext
                (fun device hsigned =>
                  .writePhoto description url (hsigned uid rfl).2
                    (hsigned uid rfl).1) rfl rfl
              intro answer next _ hnext
              cases answer with
              | error error => exact ⟨hnext, fun _ _ => trivial⟩
              | ok value => exact ⟨hnext, fun _ _ => trivial⟩

theorem works_addPicture (description : String) (file : File) :
    registry.Works action (fun _ => True)
      (PhotosController.addPicture description file) := by
  apply Async.Keeps.tryCatch
  · apply works_currentUid_bind
    intro uid _
    exact keepsAs_addUnder uid description file
  · intro error
    exact Async.keeps_done trivial

theorem works_addPhoto_send (description : String) (image : Option File) :
    registry.Works action (fun _ => True)
      (AddPhoto.send description image) := by
  cases image with
  | none => exact Async.keeps_done trivial
  | some file =>
      apply Async.Keeps.bind (works_setLoad true)
      intro _ _
      apply Async.Keeps.bind (works_addPicture description file)
      intro complete _
      split_ifs
      · apply Async.Keeps.bind (works_navigate _)
        intro _ _
        exact works_updatePhotosList
      · exact Async.keeps_done trivial

/-- The key of an image that was there is one piece. -/
theorem pieces_of_imageObject {uid owner name : Segment} {uidPhoto : String}
    (hobject : pieces (imagePath uid.val uidPhoto) =
      imageObject owner name) :
    pieces uidPhoto = [name.val] := by
  rw [pieces_imagePath uid.property] at hobject
  unfold imageObject at hobject
  simp only [List.cons.injEq, true_and] at hobject
  exact pieces_of_pieces_append_segment (by decide) name.property.1
    hobject.2

/-- The record is removed only after its image has been deleted. -/
theorem works_deletePicture (uidPhoto : String) :
    registry.Works (.deletePhoto uidPhoto) (fun _ => True)
      (PhotosController.deletePicture uidPhoto) := by
  unfold PhotosController.deletePicture
  apply works_currentUid_bind
  intro uid _ state hsettled
  rw [Async.safe_bind]
  apply safe_inPhase hsettled
    (fun device hsigned => .deleteImage rfl (hsigned uid rfl).1) rfl rfl
  intro answer next htells hnext
  cases answer with
  | error error => exact ⟨hnext, fun _ _ => trivial⟩
  | ok value =>
      obtain ⟨owner, name, hobject⟩ := htells
      change Async.Safe _ _ _ (_ >>= _) next
      rw [Async.safe_bind]
      apply safe_inPhase hnext
        (fun device hsigned =>
          .removePhoto rfl (pieces_of_imageObject hobject)
            (hsigned uid rfl).1) rfl rfl
      intro answer next _ hnext
      cases answer with
      | error error => exact ⟨hnext, fun _ _ => trivial⟩
      | ok value => exact ⟨hnext, fun _ _ => trivial⟩

theorem works_photosWorker_delete (uidPhoto : String) :
    registry.Works (.deletePhoto uidPhoto) (fun _ => True)
      (PhotosWorker.delete uidPhoto) := by
  apply Async.Keeps.bind (works_setLoad true)
  intro _ _
  apply Async.Keeps.bind (works_deletePicture uidPhoto)
  intro _ _
  exact works_updatePhotosList

/-! ## Completion of a worker's profile -/

section Completion

variable {uid : Segment} {worker : Worker} {location : Location}
  {form : Complement}

/-- The entry is written whether or not the profile was. -/
theorem safe_listWorker
    (hcompletion : registry.Completion uid worker location form)
    {phase : Phase}
    (hphase : phase = .free account ∨
      phase = .listing account (dataPath uid.val)
        (completedProfile worker location form))
    (hstate : registry.InPhase account phase state) (data : Bool) :
    Async.Safe registry.rely (registry.guar action)
      (fun answer next => registry.SettledAs account next ∧
        ∀ value, answer = .ok value → True)
      (do
        let time ← DateTime.now
        let reference ←
          sendData (.obj [("time", .str time.toString)])
            (WorkerComplementController.workerDirectoryPath worker location
              form.category.uid)
        return data && reference) state := by
  rw [Async.safe_bind]
  apply safe_inPhase hstate _ rfl rfl
  · intro answer next _ hnext
    cases answer with
    | error error =>
        refine ⟨?_, fun _ _ => trivial⟩
        rcases hphase with rfl | rfl <;> exact hnext
    | ok time =>
        change registry.InPhase account phase next at hnext
        change Async.Safe _ _ _ (sendData _ _ >>= _) next
        unfold sendData
        rw [Async.safe_bind, Async.safe_tryCatch, Async.safe_bind]
        apply safe_inPhase hnext _ rfl rfl
        · intro answer last _ hlast
          rcases hphase with rfl | rfl <;> cases answer <;>
            exact ⟨hlast, fun _ _ => trivial⟩
        · intro device _
          rcases hphase with rfl | rfl
          · exact .listUnsaved account time hcompletion
          · exact .listWorker account time hcompletion
  · intro device _
    rcases hphase with rfl | rfl
    · exact .now account
    · exact .timeEntry account _ _

theorem keepsAs_registerCompleteWorker
    (hcompletion : registry.Completion uid worker location form) :
    registry.KeepsAs action account (fun _ => True)
      (WorkerComplementController.registerCompleteWorker (some worker)
        form) := by
  have huid : interpolate worker.uid = uid.val := by
    rw [show worker.uid = some uid.val from hcompletion.admits.uid_eq]
    rfl
  have hcomplete := hcompletion.admits.complete hcompletion.location_eq form
  rw [registerCompleteWorker_of_location form hcompletion.location_eq, huid]
  apply Async.Keeps.bind (keepsAs_setCurrentUser hcomplete)
  intro _ _ state hsettled
  rw [Async.safe_bind]
  unfold sendData
  rw [Async.safe_tryCatch, Async.safe_bind]
  apply safe_inPhase hsettled
    (fun _ _ => .writeWorker account hcompletion) rfl rfl
  intro answer next _ hnext
  cases answer with
  | error error => exact safe_listWorker hcompletion (Or.inl rfl) hnext false
  | ok value => exact safe_listWorker hcompletion (Or.inr rfl) hnext true

end Completion

/-- A worker the session holds passed the forms of an account. -/
theorem works_getCurrentWorker :
    registry.Works action
      (fun worker => ∀ profile, worker = some profile →
        ∃ uid, registry.Admits uid profile.toUser)
      LoginController.getCurrentWorker := by
  rintro state ⟨account, hsettled⟩
  obtain ⟨device, phase⟩ := state
  have hfree : phase = .free account := hsettled.phase
  subst hfree
  unfold LoginController.getCurrentWorker
  rw [Async.safe_bind]
  apply (Async.safe_request Request.getSession _ _).mpr
  refine ⟨.getSession account, ?_⟩
  rintro answer ⟨device', phase'⟩ ⟨⟨hanswer, hdevice⟩, -, hnext⟩
  dsimp only at hanswer hdevice hnext
  subst hanswer
  subst hdevice
  change Async.Safe _ _ _ (Async.ofExcept _) _
  rw [Async.safe_ofExcept]
  refine ⟨⟨account, inPhase_of_eq hsettled rfl rfl hnext⟩, ?_⟩
  intro worker hcast profile hprofile
  subst hprofile
  have hadmits : registry.AdmitsSession device' := hsettled.session
  cases hsession : device'.currentUser with
  | none =>
      rw [hsession] at hcast
      cases hcast
  | some user =>
      rw [hsession] at hcast
      cases user with
      | client client => cases hcast
      | worker found =>
          cases hcast
          exact hadmits _ hsession

/-- The completion of a worker who passed the registration form. -/
theorem works_registerCompleteWorker {form : Complement}
    (hrefusal : WorkerComplement.refusal form = none)
    {worker : Option Worker}
    (hadmits : ∀ profile, worker = some profile →
      ∃ uid, registry.Admits uid profile.toUser) :
    registry.Works action (fun _ => True)
      (WorkerComplementController.registerCompleteWorker worker form) := by
  cases worker with
  | none => exact Async.keeps_ofExcept_any (.error DartError.noSuchMethod)
  | some profile =>
      obtain ⟨uid, huser⟩ := hadmits profile rfl
      obtain ⟨location, hlocation, -⟩ := huser.location
      exact works_of_keepsAs (fun _ =>
        keepsAs_registerCompleteWorker ⟨huser, hlocation, hrefusal⟩)

theorem works_finishComplement (form : Complement) :
    registry.Works action (fun _ => True)
      (WorkerComplement.finishComplement form) := by
  unfold WorkerComplement.finishComplement
  cases hrefusal : WorkerComplement.refusal form with
  | some text => exact works_showSnackBar text
  | none =>
      apply Async.Keeps.bind (works_setLoad true)
      intro _ _
      apply Async.Keeps.bind works_getCurrentWorker
      intro worker hadmits
      apply Async.Keeps.bind (works_registerCompleteWorker hrefusal hadmits)
      intro result _
      split_ifs
      · exact works_navigate _
      · exact works_showSnackBar _

/-! ## Every handler -/

/-- The place a registration reads is on offer. -/
def Registry.Permits (registry : Registry) : Action → Prop
  | .register _ agrees => ∀ held, agrees = some held →
      registry.offered held.country held.state held.city
  | _ => True

theorem works_of_starts {device : Device} {program : App Unit}
    (hpermits : registry.Permits action)
    (hstarts : Starts device action program) :
    registry.Works action (fun _ => True) program := by
  cases hstarts with
  | launch hroutes => exact works_launch
  | back hroutes => exact works_goBack _
  | handler hroutes hload hhandles =>
      generalize Route.screen _ = screen at hhandles
      cases hhandles with
      | participe => exact works_navigate _
      | login email password => exact works_login email password
      | cadastrese => exact works_navigate _
      | chooseType typeUser => exact works_navigate _
      | register typeUser form agrees =>
          exact works_btnRegisterClicked hpermits typeUser
      | clientChoice => exact works_userChoice_client
      | workerChoice => exact works_userChoice_worker
      | finishComplement form => exact works_finishComplement form
      | clientSettings => exact works_navigate _
      | workerSettings => exact works_navigate _
      | changeView => exact works_navigate _
      | logOut => exact works_logOut
      | photos =>
          apply Async.Keeps.bind (works_navigate _)
          intro _ _
          exact works_loadPictures.ignore
      | deletePhoto uidImage => exact works_photosWorker_delete uidImage
      | addPhoto => exact works_navigate _
      | sendPhoto description image =>
          exact works_addPhoto_send description image

end Programs

end FoliumApp
