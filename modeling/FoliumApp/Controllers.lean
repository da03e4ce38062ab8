import FoliumApp.RemoteServices

/-!
# The controllers

The operations of `lib/controllers` as programs over the services.  Paths are
interpolated texts, as in the source; the lemmas beside them say which pieces
they are cut into.
-/

namespace FoliumApp

open PathTree AsyncProgram

/-! ## Paths -/

def dataPath (uid : String) : String :=
  "users/" ++ uid ++ "/data"

def photosPath (uid : String) : String :=
  "users/" ++ uid ++ "/photos"

def photoPath (uid key : String) : String :=
  "users/" ++ uid ++ "/photos/" ++ key

def imagePath (uid key : String) : String :=
  "images/user/" ++ uid ++ "/" ++ (key ++ ".jpg")

def profileImagePath (uid : String) : String :=
  "images/user/" ++ uid ++ "/" ++ (uid ++ "profile_image.jpg")

def directoryPath (country state city area uid : String) : String :=
  "workers/" ++ country ++ "/" ++ state ++ "/" ++ city ++ "/" ++ area ++
    "/" ++ uid

theorem pieces_dataPath (uid : String) :
    pieces (dataPath uid) = "users" :: pieces uid ++ ["data"] := by
  have hpath :
      dataPath uid = "users" ++ "/" ++ (uid ++ "/" ++ "data") := by
    unfold dataPath
    rw [show "users/" = "users" ++ "/" from rfl,
      show "/data" = "/" ++ "data" from rfl]
    simp only [String.append_assoc]
  rw [hpath, pieces_segment_slash (by decide : IsSegment "users"),
    pieces_slash uid, pieces_segment (by decide : IsSegment "data")]
  rfl

theorem pieces_photoPath (uid key : String) :
    pieces (photoPath uid key) =
      "users" :: pieces uid ++ "photos" :: pieces key := by
  have hpath :
      photoPath uid key =
        "users" ++ "/" ++ (uid ++ "/" ++ ("photos" ++ "/" ++ key)) := by
    unfold photoPath
    rw [show "users/" = "users" ++ "/" from rfl,
      show "/photos/" = "/" ++ "photos" ++ "/" from rfl]
    simp only [String.append_assoc]
  rw [hpath, pieces_segment_slash (by decide : IsSegment "users"),
    pieces_slash uid, pieces_segment_slash (by decide : IsSegment "photos")]
  rfl

theorem pieces_dataPath_user {uid : String} (huid : IsSegment uid) :
    pieces (dataPath uid) = ["users", uid, "data"] := by
  rw [pieces_dataPath, pieces_segment huid]
  rfl

theorem pieces_photoPath_user {uid : String} (huid : IsSegment uid)
    (key : String) :
    pieces (photoPath uid key) = "users" :: uid :: "photos" :: pieces key := by
  rw [pieces_photoPath, pieces_segment huid]
  rfl

theorem pieces_imagesUser (uid name : String) :
    pieces ("images/user/" ++ uid ++ "/" ++ name) =
      "images" :: "user" :: pieces uid ++ pieces name := by
  have hpath :
      "images/user/" ++ uid ++ "/" ++ name =
        "images" ++ "/" ++ ("user" ++ "/" ++ (uid ++ "/" ++ name)) := by
    rw [show "images/user/" = "images" ++ "/" ++ "user" ++ "/" from rfl]
    simp only [String.append_assoc]
  rw [hpath, pieces_segment_slash (by decide : IsSegment "images"),
    pieces_segment_slash (by decide : IsSegment "user"), pieces_slash uid]
  rfl

theorem pieces_directoryPath (country state city area uid : String) :
    pieces (directoryPath country state city area uid) =
      "workers" :: pieces country ++ pieces state ++ pieces city ++
        pieces area ++ pieces uid := by
  have hpath :
      directoryPath country state city area uid =
        "workers" ++ "/" ++ (country ++ "/" ++ (state ++ "/" ++
          (city ++ "/" ++ (area ++ "/" ++ uid)))) := by
    unfold directoryPath
    rw [show "workers/" = "workers" ++ "/" from rfl]
    simp only [String.append_assoc]
  rw [hpath, pieces_segment_slash (by decide : IsSegment "workers"),
    pieces_slash country,
    pieces_slash state, pieces_slash city, pieces_slash area]
  simp only [List.cons_append, List.append_assoc]

theorem apart_of_head_ne {left right : String} {lefts rights : List String}
    (hne : left ≠ right) : Json.Apart (left :: lefts) (right :: rights) :=
  Json.apart_of_getElem_ne 0 (by simp) (by simp) (by simpa using hne)

theorem apart_directoryPath_dataPath
    (country state city area uid other : String) :
    Json.Apart (pieces (directoryPath country state city area uid))
      (pieces (dataPath other)) := by
  rw [pieces_directoryPath, pieces_dataPath]
  simp only [List.cons_append]
  exact apart_of_head_ne (by decide)

/-! ## Shared steps -/

/-- `Snapshot.sendData`: a failed write is reported by the result. -/
def sendData (data : Json) (path : String) : App Bool :=
  try
    FirebaseDatabase.set path data
    pure true
  catch _ => pure false

/-- A write is tried, and what follows is told whether it was made. -/
theorem run_sendData_bind (data : Json) (path : String)
    (next : Bool → App α) (oracle : ℕ → Oracle) (backend : Backend)
    (device : Device) :
    App.run (sendData data path >>= next) oracle backend device =
      App.run (next ((oracle 0).ok && isValidPathString path))
        (fun index => oracle (index + 1))
        (if (oracle 0).ok && isValidPathString path then
          backend.write path data
        else backend)
        device := by
  unfold sendData FirebaseDatabase.set
  cases hwritten : (oracle 0).ok && isValidPathString path with
  | false => simp [Request.exec, hwritten, Async.ofExcept]
  | true => simp [Request.exec, hwritten, Async.ofExcept]

theorem keeps_sendData
    {rely : Device → (request : Request) →
      Except DartError request.Answer → Device → Prop}
    {guar : Device → Request → Prop} {inv : Device → Prop}
    {data : Json} {path : String}
    (hset : Async.Keeps rely guar inv (fun _ => True)
      (FirebaseDatabase.set path data)) :
    Async.Keeps rely guar inv (fun _ => True) (sendData data path) := by
  unfold sendData
  apply Async.Keeps.tryCatch
  · apply hset.bind
    intro _ _
    exact Async.keeps_done trivial
  · intro error
    exact Async.keeps_done trivial

/-- `getAuth().currentUser().then((user) => user.uid)` -/
def currentUid : App String := do
  let user ← FirebaseAuth.currentUser
  let uid ← Async.ofExcept (nonNull user)
  return uid.val

theorem onlyReads_currentUid : App.OnlyReads currentUid := by
  apply Async.Keeps.bind (Async.asksOnly_request .currentUser)
  intro user _
  apply Async.Keeps.bind (Async.keeps_ofExcept_any (nonNull user))
  intro uid _
  exact Async.keeps_done trivial

def AnyUser.toJson : AnyUser → Except DartError Json
  | .client profile => profile.toJson
  | .worker profile => profile.toJson

def AnyUser.toUser : AnyUser → User
  | .client profile => profile.toUser
  | .worker profile => profile.toUser

/-! ## LoginController -/

namespace LoginController

def login (email password : String) : App Bool :=
  try
    FirebaseAuth.signInWithEmailAndPassword email password
    pure true
  catch _ => pure false

def logOut (success : App Unit) : App Unit := do
  FirebaseAuth.signOut
  success

def setCurrentUser (user : AnyUser) : App Unit :=
  Async.request (Request.setSession user)

def checkUserLogged : App Bool := do
  let user ← FirebaseAuth.currentUser
  return user.isSome

theorem onlyReads_checkUserLogged : App.OnlyReads checkUserLogged := by
  apply Async.Keeps.bind (Async.asksOnly_request .currentUser)
  intro user _
  exact Async.keeps_done trivial

/-- `currentUser as Worker`: null passes the cast, a client does not. -/
def asWorker : Option AnyUser → Except DartError (Option Worker)
  | none => .ok none
  | some (.worker worker) => .ok (some worker)
  | some (.client _) => .error .typeError

def getCurrentWorker : App (Option Worker) := do
  let user ← Async.request Request.getSession
  Async.ofExcept (asWorker user)

end LoginController

/-! ## SimpleRegisterController -/

namespace SimpleRegisterController

structure UserResult where
  result : Bool
  uid : String
  imageUrl : String

structure ProfileResult where
  result : Bool
  message : Except DartError String

def createUid (email password : String) : App String := do
  let uid ← FirebaseAuth.createUserWithEmailAndPassword email password
  return uid.val

def uploadProfilePicture (file : File) (uid : String) : App String := do
  FirebaseStorage.putFile (profileImagePath uid) file
  FirebaseStorage.getDownloadURL (profileImagePath uid)

def registerUser (email password : String)
    (profilePicture : Option File) : App UserResult :=
  try
    let uid ← createUid email password
    let imageUrl ←
      match profilePicture with
      | some file => uploadProfilePicture file uid
      | none => pure ""
    pure { result := true, uid, imageUrl }
  catch _ => pure { result := false, uid := "", imageUrl := "" }

/-- The requests of `registerUser`. -/
inductive SignsUp : Request → Prop where
  | createUser (email password : String) :
      SignsUp (.createUserWithEmailAndPassword email password)
  | putFile (path : String) (file : File) : SignsUp (.putFile path file)
  | getDownloadURL (path : String) : SignsUp (.getDownloadURL path)

section SignsUp

variable
  {rely : Device → (request : Request) →
    Except DartError request.Answer → Device → Prop}

theorem keeps_uploadProfilePicture (hrefines : RefinesOutcome rely)
    (account : Option Segment) (file : File) (uid : String) :
    Async.Keeps rely (fun _ request => SignsUp request)
      (fun device => device.signedIn = account) (fun _ => True)
      (uploadProfilePicture file uid) := by
  have hrequest {request : Request} (hsignsUp : SignsUp request)
      (hchanges : request.changesAccount = false) :
      Async.Keeps rely (fun _ request => SignsUp request)
        (fun device => device.signedIn = account) (fun _ => True)
        (Async.request request) := by
    apply Async.keeps_request
    · intro _ _
      exact hsignsUp
    · intro device answer next hdevice hrely
      refine ⟨?_, fun _ _ => trivial⟩
      rw [(hrefines _ _ _ _ hrely).signedIn_eq hchanges]
      exact hdevice
  apply Async.Keeps.bind (hrequest (.putFile _ file) rfl)
  intro _ _
  exact hrequest (.getDownloadURL _) rfl

/-- A registration that reports true has signed its account in. -/
theorem registerUser_signsIn (hrefines : RefinesOutcome rely)
    (email password : String) (profilePicture : Option File)
    (device : Device) :
    Async.Safe rely (fun _ request => SignsUp request)
      (fun answer next =>
        ∀ user, answer = .ok user → user.result = true →
          ∃ uid : Segment, next.signedIn = some uid ∧ user.uid = uid.val)
      (registerUser email password profilePicture) device := by
  unfold registerUser createUid
  rw [Async.safe_tryCatch, Async.safe_bind, Async.safe_bind]
  apply (Async.safe_request
    (Request.createUserWithEmailAndPassword email password) _ _).mpr
  refine ⟨.createUser email password, ?_⟩
  intro answer next hrely
  have houtcome := hrefines _ _ _ _ hrely
  cases answer with
  | error error =>
      intro user huser hresult
      cases huser
      cases hresult
  | ok uid =>
      have hsigned : next.signedIn = some uid := by
        rw [houtcome]
      cases profilePicture with
      | none =>
          intro user huser _
          cases huser
          exact ⟨uid, hsigned, rfl⟩
      | some file =>
          apply (keeps_uploadProfilePicture hrefines (some uid) file uid.val
            next hsigned).then
          · intro imageUrl last hlast user huser _
            cases huser
            exact ⟨uid, hlast.1, rfl⟩
          · intro error last _ user huser hresult
            cases huser
            cases hresult

end SignsUp

/-- `_sendData` -/
def sendUser (user : AnyUser) : App Bool := do
  let data ← Async.ofExcept user.toJson
  sendData data (dataPath (interpolate user.toUser.uid))

def newLocation (country city state : String) : Location :=
  { city := some city, state := some state, country := some country
    address := some "", latitude := some "", longitude := some "" }

def newClient (name email country city state : String) (birth : DateTime)
    (uid imageUrl : String) : Client :=
  Client.new (some email) (some name) (some "") (some birth.toString)
    (some imageUrl) (some uid) (some (newLocation country city state))

/-- The worker a registration builds; the completion form adds the rest. -/
def newWorker (name email country city state : String) (birth : DateTime)
    (uid imageUrl : String) : Worker :=
  { email := some email, name := some name, password := some ""
    birth := some birth.toString, imageUrl := some imageUrl
    uid := some uid, location := some (newLocation country city state)
    attendance := none, social := none, occupation := none }

/-- The result of the write is dropped here, as in the source. -/
def registerClient (name email country city state : String)
    (birth : DateTime) (uid imageUrl : String) : App ProfileResult :=
  try
    let client :=
      newClient name email country city state birth uid imageUrl
    let _ ← sendUser (.client client)
    LoginController.setCurrentUser (.client client)
    pure { result := true, message := .ok "success" }
  catch error => pure { result := false, message := .error error }

def registerWorker (name email country city state : String)
    (birth : DateTime) (uid imageUrl : String) : App ProfileResult :=
  try
    let worker :=
      newWorker name email country city state birth uid imageUrl
    LoginController.setCurrentUser (.worker worker)
    pure { result := true, message := .ok "success" }
  catch error => pure { result := false, message := .error error }

end SimpleRegisterController

/-! ## UserChoiceController -/

namespace UserChoiceController

def workerChoice (success : Bool → App Unit) : App Unit := do
  let user ← FirebaseAuth.currentUser
  let uid ← Async.ofExcept (nonNull user)
  let data ← FirebaseDatabase.once (dataPath uid.val)
  try
    let snapshot ← Async.ofExcept (Snapshot.ofValue data)
    let worker ← Async.ofExcept (Worker.fromDB snapshot)
    LoginController.setCurrentUser (.worker worker)
    success true
  catch _ => success false

def clientChoice (success : App Unit) : App Unit := do
  let user ← FirebaseAuth.currentUser
  let uid ← Async.ofExcept (nonNull user)
  let data ← FirebaseDatabase.once (dataPath uid.val)
  let snapshot ← Async.ofExcept (Snapshot.ofValue data)
  let client ← Async.ofExcept (Client.fromDB snapshot)
  LoginController.setCurrentUser (.client client)
  success

end UserChoiceController

/-! ## WorkerComplementController -/

structure Category where
  uid : ℤ
  content : String
  deriving DecidableEq

/-- The arguments the completion form hands over. -/
structure Complement where
  category : Category
  address : String
  description : String
  creditCard : Bool
  check : Bool
  cash : Bool
  homeCare : Bool
  freeBudget : Bool
  whatsApp : String
  instagram : String
  facebook : String

namespace WorkerComplementController

/-- The worker after the four assignments of `registerCompleteWorker`. -/
def complete (worker : Worker) (location : Location)
    (form : Complement) : Worker :=
  { worker with
    location := some { location with address := some form.address }
    occupation := some
      { area := some form.category.uid
        description := some form.description }
    attendance := some
      { cash := some form.cash, check := some form.check
        creditCard := some form.creditCard
        homeCare := some form.homeCare
        freeBudget := some form.freeBudget }
    social := some
      { facebook := some form.facebook, instagram := some form.instagram
        whatsApp := some form.whatsApp, link := some "" } }

def workerDirectoryPath (worker : Worker) (location : Location)
    (area : ℤ) : String :=
  directoryPath (interpolate location.country)
    (interpolate location.state) (interpolate location.city)
    (toString area) (interpolate worker.uid)

/-- The controller's worker is the very object the session holds, so the
assignments are seen by the session too, whatever the writes then do. -/
def registerCompleteWorker (worker : Option Worker) (form : Complement) :
    App Bool := do
  let worker ← Async.ofExcept (nonNull worker)
  let location ← Async.ofExcept (nonNull worker.location)
  let worker := complete worker location form
  LoginController.setCurrentUser (.worker worker)
  let profile ← Async.ofExcept worker.toJson
  let data ← sendData profile (dataPath (interpolate worker.uid))
  let time ← DateTime.now
  let reference ←
    sendData (.obj [("time", .str time.toString)])
      (workerDirectoryPath worker location form.category.uid)
  return data && reference

end WorkerComplementController

/-! ## PhotosController -/

namespace PhotosController

/-- The photos handed to the listeners; none if they are not called. -/
def loadPictures : App (Option (List Photo)) := do
  let uid ← currentUid
  let data ← FirebaseDatabase.once (photosPath uid)
  let names ← Async.ofExcept (asMap data)
  match names with
  | none => return none
  | some entries =>
      let photos ← Async.ofExcept (entries.mapM fun entry => do
        Photo.fromDB (← Snapshot.ofValue entry.2))
      return some photos

theorem onlyReads_loadPictures : App.OnlyReads loadPictures := by
  apply Async.Keeps.bind onlyReads_currentUid
  intro uid _
  apply Async.Keeps.bind (Async.asksOnly_request (.once _))
  intro data _
  apply Async.Keeps.bind (Async.keeps_ofExcept_any (asMap data))
  intro names _
  cases names with
  | none => exact Async.keeps_done trivial
  | some entries =>
      apply Async.Keeps.bind (Async.keeps_ofExcept_any _)
      intro photos _
      exact Async.keeps_done trivial

def uploadImage (file : File) (uidUser uidPhoto : String) :
    App String := do
  FirebaseStorage.putFile (imagePath uidUser uidPhoto) file
  FirebaseStorage.getDownloadURL (imagePath uidUser uidPhoto)

def addPicture (description : String) (file : File) : App Bool :=
  try
    let uidUser ← currentUid
    let uidPhoto ← FirebaseDatabase.pushKey
    let url ← uploadImage file uidUser uidPhoto.val
    sendData
      (Photo.toJson
        { description := some description, imageUrl := some url
          uidImage := some uidPhoto.val })
      (photoPath uidUser uidPhoto.val)
  catch _ => pure false

def deletePicture (uidPhoto : String) : App Bool := do
  let uidUser ← currentUid
  FirebaseStorage.delete (imagePath uidUser uidPhoto)
  FirebaseDatabase.remove (photoPath uidUser uidPhoto)
  return true

end PhotosController

end FoliumApp
