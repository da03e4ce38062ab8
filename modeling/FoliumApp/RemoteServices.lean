import FoliumApp.AsyncProgram
import FoliumApp.Profiles

/-!
# The services behind the app and the state of one device

`Backend` is what all devices share: the accounts of the auth service, the
database and the object storage.  `Device` is what one running copy of the
app holds: the account its auth client is signed in with, the process-wide
`LoginController.currentUser`, and the navigator's routes.

A handler reaches both through requests.  What the services leave open, a
failure for an outside reason, a new identifier, a clock reading, is supplied
by an `Oracle` at each request; everything else is decided by the state.
-/

namespace FoliumApp

open PathTree AsyncProgram

/-! ## Shared state -/

structure File where
  bytes : List UInt8
  deriving DecidableEq

structure Account where
  email : String
  password : String
  uid : Segment

/-- Accounts, the database as one tree, and the stored objects by name. -/
structure Backend where
  accounts : List Account
  database : Json
  storage : List String → Option File

def Backend.empty : Backend :=
  { accounts := [], database := .null, storage := fun _ => none }

def Backend.emailUsed (backend : Backend) (email : String) : Bool :=
  backend.accounts.any fun account => account.email = email

def Backend.uidUsed (backend : Backend) (uid : Segment) : Bool :=
  backend.accounts.any fun account => account.uid = uid

/-- The auth service refuses an email in use; the uid it gives is new. -/
def Backend.acceptsAccount (backend : Backend) (email : String)
    (uid : Segment) : Bool :=
  !backend.emailUsed email && !backend.uidUsed uid

def Backend.addAccount (backend : Backend) (email password : String)
    (uid : Segment) : Backend :=
  { backend with accounts := backend.accounts ++ [⟨email, password, uid⟩] }

/-- The client library's check of a path before it is sent. -/
def isValidPathString (path : String) : Bool :=
  path ≠ "" && path.toList.all fun c => c ∉ ['[', ']', '.', '#', '$']

def Backend.read (backend : Backend) (path : String) : Json :=
  backend.database.get (pieces path)

/-- A write replaces the subtree at its path and drops nulls. -/
def Backend.write (backend : Backend) (path : String) (value : Json) :
    Backend :=
  { backend with
    database := Json.setAt (pieces path) value.prune backend.database }

def Backend.putObject (backend : Backend) (path : String)
    (content : Option File) : Backend :=
  { backend with
    storage := Function.update backend.storage (pieces path) content }

theorem Backend.read_write (backend : Backend) (path : String)
    (value : Json) :
    (backend.write path value).read path = value.prune := by
  unfold Backend.read Backend.write
  exact Json.get_setAt_self _ _ _

theorem Backend.read_write_of_apart (backend : Backend)
    {written path : String}
    (hapart : Json.Apart (pieces written) (pieces path)) (value : Json) :
    (backend.write written value).read path = backend.read path := by
  unfold Backend.read Backend.write
  exact Json.get_setAt_of_apart hapart _ _

@[simp] theorem Backend.storage_write (backend : Backend) (path : String)
    (value : Json) : (backend.write path value).storage = backend.storage :=
  rfl

@[simp] theorem Backend.storage_putObject (backend : Backend)
    (path : String) (content : Option File) :
    (backend.putObject path content).storage (pieces path) = content := by
  simp [Backend.putObject]

/-! ## The state of a device -/

inductive TypeUser where
  | cliente
  | trabalhador
  deriving DecidableEq, Repr

inductive Screen where
  | home
  | login
  | userChoiceRegister
  | simpleRegister (typeUser : TypeUser)
  | userChoice
  | mainClient
  | mainWorker
  | workerComplement
  | menuConfig
  | photosWorker
  | addPhoto
  deriving DecidableEq, Repr

structure Route where
  screen : Screen
  load : Bool
  deriving DecidableEq, Repr

/-- The uses the app makes of the navigator.  Its predicate for
`pushAndRemoveUntil` is constantly false, so all routes below are removed. -/
inductive Navigation where
  | push (screen : Screen)
  | pushReplacement (screen : Screen)
  | pushAndRemoveUntil (screen : Screen)
  | pop
  deriving DecidableEq, Repr

def Navigation.apply : Navigation → List Route → List Route
  | .push screen, routes => ⟨screen, false⟩ :: routes
  | .pushReplacement screen, routes => ⟨screen, false⟩ :: routes.tail
  | .pushAndRemoveUntil screen, _ => [⟨screen, false⟩]
  | .pop, routes => routes.tail

def Navigation.shows : Navigation → Option Screen
  | .push screen => some screen
  | .pushReplacement screen => some screen
  | .pushAndRemoveUntil screen => some screen
  | .pop => none

/-- `setState` of the loading flag by the screen on top. -/
def setTopLoad (load : Bool) : List Route → List Route
  | [] => []
  | route :: below => { route with load } :: below

theorem Navigation.forall_apply (good : Screen → Prop)
    {navigation : Navigation}
    (hshows : ∀ screen, navigation.shows = some screen → good screen)
    {routes : List Route} (hroutes : ∀ route ∈ routes, good route.screen) :
    ∀ route ∈ navigation.apply routes, good route.screen := by
  have htail : ∀ route ∈ routes.tail, good route.screen := by
    intro route hmem
    exact hroutes route (List.mem_of_mem_tail hmem)
  cases navigation with
  | push screen =>
      intro route hmem
      rcases List.mem_cons.mp hmem with rfl | hmem
      · exact hshows screen rfl
      · exact hroutes route hmem
  | pushReplacement screen =>
      intro route hmem
      rcases List.mem_cons.mp hmem with rfl | hmem
      · exact hshows screen rfl
      · exact htail route hmem
  | pushAndRemoveUntil screen =>
      intro route hmem
      rcases List.mem_singleton.mp hmem with rfl
      exact hshows screen rfl
  | pop => exact htail

theorem forall_setTopLoad (good : Screen → Prop) {routes : List Route}
    (hroutes : ∀ route ∈ routes, good route.screen) (load : Bool) :
    ∀ route ∈ setTopLoad load routes, good route.screen := by
  cases routes with
  | nil => exact hroutes
  | cons top below =>
      intro route hmem
      rcases List.mem_cons.mp hmem with rfl | hmem
      · exact hroutes top List.mem_cons_self
      · exact hroutes route (List.mem_cons_of_mem top hmem)

structure Device where
  signedIn : Option Segment
  currentUser : Option AnyUser
  routes : List Route
  snackBars : List String

def Device.fresh : Device :=
  { signedIn := none, currentUser := none, routes := [], snackBars := [] }

/-- The process ends: the auth client remembers its account, the rest is
gone. -/
def Device.reset (device : Device) : Device :=
  { Device.fresh with signedIn := device.signedIn }

/-! ## Requests -/

inductive Request where
  | createUserWithEmailAndPassword (email password : String)
  | signInWithEmailAndPassword (email password : String)
  | signOut
  | currentUser
  | once (path : String)
  | set (path : String) (value : Json)
  | remove (path : String)
  | putFile (path : String) (file : File)
  | getDownloadURL (path : String)
  | delete (path : String)
  | pushKey
  | now
  | getSession
  | setSession (user : AnyUser)
  | navigate (navigation : Navigation)
  | setLoad (load : Bool)
  | showSnackBar (text : String)

@[reducible] def Request.Answer : Request → Type
  | .createUserWithEmailAndPassword _ _ => Segment
  | .currentUser => Option Segment
  | .once _ => Json
  | .getDownloadURL _ => String
  | .pushKey => Segment
  | .now => DateTime
  | .getSession => Option AnyUser
  | _ => Unit

/-- What one request finds open: whether it succeeds, and the identifier,
address, key or time it is given if it asks for one. -/
structure Oracle where
  ok : Bool
  uid : Segment
  url : String
  key : Segment
  time : DateTime

def firstUid : Segment := ⟨"u1", by decide⟩

def secondUid : Segment := ⟨"u2", by decide⟩

def firstKey : Segment := ⟨"k1", by decide⟩

/-- Answers in which only the call with the given index fails. -/
def failingAt (failing : ℕ) (index : ℕ) : Oracle :=
  { ok := index ≠ failing, uid := firstUid, url := "url"
    key := firstKey, time := ⟨2019, 7, 1, 12, 0, 0, 0, 0⟩ }

/-- Serve one request.  A refused request changes nothing. -/
def Request.exec : (request : Request) → Oracle → Backend → Device →
    Except DartError request.Answer × Backend × Device
  | .createUserWithEmailAndPassword email password,
      oracle, backend, device =>
      if oracle.ok && backend.acceptsAccount email oracle.uid then
        (.ok oracle.uid, backend.addAccount email password oracle.uid,
          { device with signedIn := some oracle.uid })
      else (.error .remote, backend, device)
  | .signInWithEmailAndPassword email password, oracle, backend, device =>
      match backend.accounts.find? fun account =>
          account.email = email && account.password = password with
      | some account =>
          if oracle.ok then
            (.ok (), backend, { device with signedIn := some account.uid })
          else (.error .remote, backend, device)
      | none => (.error .remote, backend, device)
  | .signOut, oracle, backend, device =>
      if oracle.ok then (.ok (), backend, { device with signedIn := none })
      else (.error .remote, backend, device)
  | .currentUser, oracle, backend, device =>
      if oracle.ok then (.ok device.signedIn, backend, device)
      else (.error .remote, backend, device)
  | .once path, oracle, backend, device =>
      if oracle.ok && isValidPathString path then
        (.ok (backend.read path), backend, device)
      else (.error .remote, backend, device)
  | .set path value, oracle, backend, device =>
      if oracle.ok && isValidPathString path then
        (.ok (), backend.write path value, device)
      else (.error .remote, backend, device)
  | .remove path, oracle, backend, device =>
      if oracle.ok && isValidPathString path then
        (.ok (), backend.write path .null, device)
      else (.error .remote, backend, device)
  | .putFile path file, oracle, backend, device =>
      if oracle.ok then (.ok (), backend.putObject path (some file), device)
      else (.error .remote, backend, device)
  | .getDownloadURL path, oracle, backend, device =>
      if oracle.ok && (backend.storage (pieces path)).isSome then
        (.ok oracle.url, backend, device)
      else (.error .remote, backend, device)
  | .delete path, oracle, backend, device =>
      if oracle.ok && (backend.storage (pieces path)).isSome then
        (.ok (), backend.putObject path none, device)
      else (.error .remote, backend, device)
  | .pushKey, oracle, backend, device => (.ok oracle.key, backend, device)
  | .now, oracle, backend, device => (.ok oracle.time, backend, device)
  | .getSession, _, backend, device =>
      (.ok device.currentUser, backend, device)
  | .setSession user, _, backend, device =>
      (.ok (), backend, { device with currentUser := some user })
  | .navigate navigation, _, backend, device =>
      (.ok (), backend,
        { device with routes := navigation.apply device.routes })
  | .setLoad load, _, backend, device =>
      (.ok (), backend,
        { device with routes := setTopLoad load device.routes })
  | .showSnackBar text, _, backend, device =>
      (.ok (), backend,
        { device with snackBars := device.snackBars ++ [text] })

/-- What a request can do to its device, whatever the services hold. -/
def Request.Outcome (device : Device) : (request : Request) →
    Except DartError request.Answer → Device → Prop
  | .createUserWithEmailAndPassword _ _, .ok uid, next =>
      next = { device with signedIn := some uid }
  | .signInWithEmailAndPassword _ _, .ok _, next =>
      ∃ uid, next = { device with signedIn := some uid }
  | .signOut, .ok _, next => next = { device with signedIn := none }
  | .currentUser, .ok user, next => user = device.signedIn ∧ next = device
  | .getSession, answer, next =>
      answer = .ok device.currentUser ∧ next = device
  | .setSession user, answer, next =>
      answer = .ok () ∧ next = { device with currentUser := some user }
  | .navigate navigation, answer, next =>
      answer = .ok () ∧
        next = { device with routes := navigation.apply device.routes }
  | .setLoad load, answer, next =>
      answer = .ok () ∧
        next = { device with routes := setTopLoad load device.routes }
  | .showSnackBar text, answer, next =>
      answer = .ok () ∧
        next = { device with snackBars := device.snackBars ++ [text] }
  | _, _, next => next = device

theorem Request.exec_outcome
    (request : Request) (oracle : Oracle) (backend : Backend)
    (device : Device) :
    request.Outcome device (request.exec oracle backend device).1
      (request.exec oracle backend device).2.2 := by
  cases request with
  | createUserWithEmailAndPassword email password =>
      simp only [Request.exec]
      split_ifs <;> simp [Request.Outcome]
  | signInWithEmailAndPassword email password =>
      simp only [Request.exec]
      split
      · split_ifs
        · exact ⟨_, rfl⟩
        · simp [Request.Outcome]
      · simp [Request.Outcome]
  | signOut =>
      simp only [Request.exec]
      split_ifs <;> simp [Request.Outcome]
  | currentUser =>
      simp only [Request.exec]
      split_ifs
      · exact ⟨rfl, rfl⟩
      · simp [Request.Outcome]
  | once path =>
      simp only [Request.exec]
      split_ifs <;> simp [Request.Outcome]
  | set path value =>
      simp only [Request.exec]
      split_ifs <;> simp [Request.Outcome]
  | remove path =>
      simp only [Request.exec]
      split_ifs <;> simp [Request.Outcome]
  | putFile path file =>
      simp only [Request.exec]
      split_ifs <;> simp [Request.Outcome]
  | getDownloadURL path =>
      simp only [Request.exec]
      split_ifs <;> simp [Request.Outcome]
  | delete path =>
      simp only [Request.exec]
      split_ifs <;> simp [Request.Outcome]
  | pushKey => simp [Request.exec, Request.Outcome]
  | now => simp [Request.exec, Request.Outcome]
  | getSession => exact ⟨rfl, rfl⟩
  | setSession user => exact ⟨rfl, rfl⟩
  | navigate navigation => exact ⟨rfl, rfl⟩
  | setLoad load => exact ⟨rfl, rfl⟩
  | showSnackBar text => exact ⟨rfl, rfl⟩

def Request.changesAccount : Request → Bool
  | .createUserWithEmailAndPassword _ _ => true
  | .signInWithEmailAndPassword _ _ => true
  | .signOut => true
  | _ => false

def Request.changesSession : Request → Bool
  | .setSession _ => true
  | _ => false

def Request.changesRoutes : Request → Bool
  | .navigate _ => true
  | .setLoad _ => true
  | _ => false

/-- The parts of a device a request leaves alone. -/
theorem Request.Outcome.frame {device next : Device} {request : Request}
    {answer : Except DartError request.Answer}
    (houtcome : request.Outcome device answer next) :
    (request.changesAccount = false → next.signedIn = device.signedIn) ∧
      (request.changesSession = false →
        next.currentUser = device.currentUser) ∧
      (request.changesRoutes = false → next.routes = device.routes) := by
  have hsame : next = device →
      next.signedIn = device.signedIn ∧
        next.currentUser = device.currentUser ∧
        next.routes = device.routes := by
    intro heq
    subst heq
    exact ⟨rfl, rfl, rfl⟩
  cases request <;> cases answer <;>
    simp_all [Request.Outcome, Request.changesAccount,
      Request.changesSession, Request.changesRoutes]
  case signInWithEmailAndPassword.ok =>
    obtain ⟨uid, hsegment, rfl⟩ := houtcome
    exact ⟨rfl, rfl⟩

theorem Request.Outcome.signedIn_eq {device next : Device}
    {request : Request} {answer : Except DartError request.Answer}
    (houtcome : request.Outcome device answer next)
    (hrequest : request.changesAccount = false) :
    next.signedIn = device.signedIn :=
  houtcome.frame.1 hrequest

theorem Request.Outcome.currentUser_eq {device next : Device}
    {request : Request} {answer : Except DartError request.Answer}
    (houtcome : request.Outcome device answer next)
    (hrequest : request.changesSession = false) :
    next.currentUser = device.currentUser :=
  houtcome.frame.2.1 hrequest

theorem Request.Outcome.routes_eq {device next : Device}
    {request : Request} {answer : Except DartError request.Answer}
    (houtcome : request.Outcome device answer next)
    (hrequest : request.changesRoutes = false) :
    next.routes = device.routes :=
  houtcome.frame.2.2 hrequest

/-- Requests that look something up and change nothing. -/
inductive Request.Reads : Request → Prop where
  | currentUser : Reads .currentUser
  | once (path : String) : Reads (.once path)
  | now : Reads .now

/-! ## The programs of the app -/

abbrev App := Async Request Request.Answer DartError

/-- A program that asks for nothing but to look things up. -/
abbrev App.OnlyReads (program : App α) : Prop :=
  Async.AsksOnly Request.Reads program

def FirebaseAuth.createUserWithEmailAndPassword (email password : String) :
    App Segment :=
  Async.request (Request.createUserWithEmailAndPassword email password)

def FirebaseAuth.signInWithEmailAndPassword (email password : String) :
    App Unit :=
  Async.request (Request.signInWithEmailAndPassword email password)

def FirebaseAuth.signOut : App Unit := Async.request Request.signOut

def FirebaseAuth.currentUser : App (Option Segment) :=
  Async.request Request.currentUser

def FirebaseDatabase.once (path : String) : App Json :=
  Async.request (Request.once path)

def FirebaseDatabase.set (path : String) (value : Json) : App Unit :=
  Async.request (Request.set path value)

def FirebaseDatabase.remove (path : String) : App Unit :=
  Async.request (Request.remove path)

def FirebaseDatabase.pushKey : App Segment := Async.request Request.pushKey

def FirebaseStorage.putFile (path : String) (file : File) : App Unit :=
  Async.request (Request.putFile path file)

def FirebaseStorage.getDownloadURL (path : String) : App String :=
  Async.request (Request.getDownloadURL path)

def FirebaseStorage.delete (path : String) : App Unit :=
  Async.request (Request.delete path)

def DateTime.now : App DateTime := Async.request Request.now

def Navigator.navigate (navigation : Navigation) : App Unit :=
  Async.request (Request.navigate navigation)

def setLoad (load : Bool) : App Unit := Async.request (Request.setLoad load)

def showSnackBar (text : String) : App Unit :=
  Async.request (Request.showSnackBar text)

def App.run (program : App α) (oracle : ℕ → Oracle)
    (backend : Backend) (device : Device) :
    Except DartError α × Backend × Device :=
  Async.run
    (fun request oracle (state : Backend × Device) =>
      request.exec oracle state.1 state.2)
    program oracle (backend, device)

def App.awaited (program : App α) (oracle : ℕ → Oracle)
    (backend : Backend) (device : Device) : ℕ :=
  Async.awaited
    (fun request oracle (state : Backend × Device) =>
      request.exec oracle state.1 state.2)
    program oracle (backend, device)

@[simp] theorem App.run_done (value : α) (oracle : ℕ → Oracle)
    (backend : Backend) (device : Device) :
    App.run (.done value) oracle backend device =
      (.ok value, backend, device) := rfl

@[simp] theorem App.run_raise (error : DartError) (oracle : ℕ → Oracle)
    (backend : Backend) (device : Device) :
    App.run (.raise error : App α) oracle backend device =
      (.error error, backend, device) := rfl

@[simp] theorem App.run_await (request : Request)
    (next : Except DartError request.Answer → App α)
    (oracle : ℕ → Oracle) (backend : Backend) (device : Device) :
    App.run (.await request next) oracle backend device =
      App.run (next (request.exec (oracle 0) backend device).1)
        (fun index => oracle (index + 1))
        (request.exec (oracle 0) backend device).2.1
        (request.exec (oracle 0) backend device).2.2 := rfl

@[simp] theorem App.awaited_done (value : α) (oracle : ℕ → Oracle)
    (backend : Backend) (device : Device) :
    App.awaited (.done value) oracle backend device = 0 := rfl

@[simp] theorem App.awaited_await (request : Request)
    (next : Except DartError request.Answer → App α)
    (oracle : ℕ → Oracle) (backend : Backend) (device : Device) :
    App.awaited (.await request next) oracle backend device =
      App.awaited (next (request.exec (oracle 0) backend device).1)
        (fun index => oracle (index + 1))
        (request.exec (oracle 0) backend device).2.1
        (request.exec (oracle 0) backend device).2.2 + 1 := rfl

theorem App.run_bind_of_ok
    {program : App α} {next : α → App β} {oracle : ℕ → Oracle}
    {backend backend' : Backend} {device device' : Device} {value : α}
    (hrun : App.run program oracle backend device =
      (.ok value, backend', device')) :
    App.run (program >>= next) oracle backend device =
      App.run (next value)
        (fun index =>
          oracle (index + App.awaited program oracle backend device))
        backend' device' := by
  unfold App.run at hrun ⊢
  rw [Async.run_bind, hrun]
  rfl

theorem App.run_tryCatch_of_ok
    {program : App α} {oracle : ℕ → Oracle} {backend : Backend}
    {device : Device} {value : α}
    (hok : (App.run program oracle backend device).1 = .ok value)
    (handler : DartError → App α) :
    App.run (tryCatch program handler) oracle backend device =
      App.run program oracle backend device := by
  unfold App.run at hok ⊢
  rw [Async.run_tryCatch]
  rcases hrun : Async.run _ program oracle (backend, device) with
    ⟨result, state⟩
  rw [hrun] at hok
  cases hok
  rfl

/-! ## Single requests on a known device -/

/-- A rely that says at least what a request can do to its device. -/
def RefinesOutcome
    (rely : Device → (request : Request) →
      Except DartError request.Answer → Device → Prop) : Prop :=
  ∀ device request answer next, rely device request answer next →
    request.Outcome device answer next

section Rules

variable
  {rely : Device → (request : Request) →
    Except DartError request.Answer → Device → Prop}
  {guar : Device → Request → Prop} {device : Device}

/-- A request the device itself answers, in the one way it can. -/
theorem App.safe_local (hrefines : RefinesOutcome rely)
    {request : Request} {value : request.Answer}
    {after : Device} {post : Except DartError request.Answer → Device → Prop}
    (hguar : guar device request)
    (houtcome : ∀ answer next, request.Outcome device answer next →
      answer = .ok value ∧ next = after)
    (hpost : post (.ok value) after) :
    Async.Safe rely guar post (Async.request request) device := by
  apply (Async.safe_request _ _ _).mpr
  refine ⟨hguar, ?_⟩
  intro answer next hrely
  obtain ⟨hanswer, hnext⟩ :=
    houtcome answer next (hrefines _ _ _ _ hrely)
  rw [hanswer, hnext]
  exact hpost

variable {post : Except DartError Unit → Device → Prop}

theorem App.safe_setSession (hrefines : RefinesOutcome rely)
    {user : AnyUser} (hguar : guar device (.setSession user))
    (hpost : post (.ok ()) { device with currentUser := some user }) :
    Async.Safe rely guar post (Async.request (Request.setSession user))
      device :=
  App.safe_local hrefines hguar (fun _ _ houtcome => houtcome) hpost

theorem App.safe_navigate (hrefines : RefinesOutcome rely)
    {navigation : Navigation} (hguar : guar device (.navigate navigation))
    (hpost : post (.ok ())
      { device with routes := navigation.apply device.routes }) :
    Async.Safe rely guar post (Navigator.navigate navigation) device :=
  App.safe_local hrefines hguar (fun _ _ houtcome => houtcome) hpost

theorem App.safe_setLoad (hrefines : RefinesOutcome rely)
    {load : Bool} (hguar : guar device (.setLoad load))
    (hpost : post (.ok ())
      { device with routes := setTopLoad load device.routes }) :
    Async.Safe rely guar post (setLoad load) device :=
  App.safe_local hrefines hguar (fun _ _ houtcome => houtcome) hpost

theorem App.safe_showSnackBar (hrefines : RefinesOutcome rely)
    {text : String} (hguar : guar device (.showSnackBar text))
    (hpost : post (.ok ())
      { device with snackBars := device.snackBars ++ [text] }) :
    Async.Safe rely guar post (showSnackBar text) device :=
  App.safe_local hrefines hguar (fun _ _ houtcome => houtcome) hpost

end Rules

end FoliumApp
