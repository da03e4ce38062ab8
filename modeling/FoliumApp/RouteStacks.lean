import FoliumApp.PageStacks
import FoliumApp.PrivateScreens
import FoliumApp.ReachedStates

/-!
# What the routes of a device look like

The stack of a device only ever has a screen on the one that opens it, so it
is never higher than five screens, and a home screen is always at the bottom.
A home screen reads the user of the session whenever it is built, also long
after it was opened; a session is only replaced where no home screen is on
the stack, or right before the stack is.
-/

namespace FoliumApp

open PathTree AsyncProgram CallSequences PageStacks

/-! ## Which screen opens which -/

inductive Screen.Opens : Screen → Screen → Prop where
  | login : Opens .home .login
  | userChoiceRegister : Opens .login .userChoiceRegister
  | simpleRegister (typeUser : TypeUser) :
      Opens .userChoiceRegister (.simpleRegister typeUser)
  | workerComplement :
      Opens (.simpleRegister .trabalhador) .workerComplement
  | clientSettings : Opens .mainClient .menuConfig
  | workerSettings : Opens .mainWorker .menuConfig
  | userChoice : Opens .menuConfig .userChoice
  | photosWorker : Opens .mainWorker .photosWorker
  | addPhoto : Opens .photosWorker .addPhoto

/-- The screens that are shown with nothing below them. -/
def Screen.isRoot : Screen → Bool
  | .home => true
  | .userChoice => true
  | .mainClient => true
  | .mainWorker => true
  | .workerComplement => true
  | _ => false

def screenGraph : Graph Screen :=
  { root := fun screen => screen.isRoot = true
    opens := Screen.Opens }

/-- The most screens there are from a screen down. -/
def Screen.rank : Screen → ℕ
  | .home => 1
  | .login => 2
  | .userChoiceRegister => 3
  | .simpleRegister _ => 4
  | .workerComplement => 5
  | .mainClient => 1
  | .mainWorker => 1
  | .menuConfig => 2
  | .userChoice => 3
  | .photosWorker => 2
  | .addPhoto => 3

theorem Screen.rank_le (screen : Screen) : screen.rank ≤ 5 := by
  cases screen <;> simp [Screen.rank]

theorem Screen.Opens.rank_lt {below above : Screen}
    (hopens : Screen.Opens below above) : below.rank < above.rank := by
  cases hopens <;> simp [Screen.rank]

/-- The screens of a visitor on the way to a profile; home screens are not
among them, nor below them. -/
def Screen.isEntrance : Screen → Bool
  | .home => true
  | .login => true
  | .userChoiceRegister => true
  | .simpleRegister _ => true
  | .workerComplement => true
  | _ => false

theorem Screen.Opens.isEntrance {below above : Screen}
    (hopens : Screen.Opens below above)
    (habove : above.isEntrance = true) : below.isEntrance = true := by
  cases hopens with
  | userChoice => cases habove
  | _ => first | rfl | cases habove

def Device.screens (device : Device) : List Screen :=
  device.routes.map Route.screen

theorem stacked_length_le {screens : List Screen}
    (hstacked : Stacked screenGraph screens) : screens.length ≤ 5 := by
  cases screens with
  | nil => exact Nat.zero_le 5
  | cons top rest =>
      have hroot : ∀ screen, screenGraph.root screen → 0 < screen.rank := by
        intro screen _
        cases screen <;> simp [Screen.rank]
      exact (hstacked.length_le hroot
        (fun _ _ => Screen.Opens.rank_lt)).trans top.rank_le

theorem forall_isEntrance {top : Screen} {rest : List Screen}
    (hstacked : Stacked screenGraph (top :: rest))
    (htop : top.isEntrance = true) :
    ∀ screen ∈ top :: rest, screen.isEntrance = true :=
  hstacked.forall_mem (fun _ _ => Screen.Opens.isEntrance) htop

/-! ## Devices -/

/-- What a screen casts the user of the session to. -/
def Screen.FitsUser (user : Option AnyUser) : Screen → Prop
  | .mainClient => ∃ client, user = some (.client client)
  | .mainWorker => ∃ worker, user = some (.worker worker)
  | _ => True

theorem Screen.fitsUser_of_isEntrance {screen : Screen}
    (hentrance : screen.isEntrance = true) (user : Option AnyUser) :
    screen.FitsUser user := by
  cases screen with
  | mainClient => cases hentrance
  | mainWorker => cases hentrance
  | _ => trivial

structure Device.Orderly (device : Device) : Prop where
  stacked : Stacked screenGraph device.screens
  fits : ∀ screen ∈ device.screens, screen.FitsUser device.currentUser

/-- A device is orderly at every request, but that its session may have been
replaced right before its stack is. -/
def OrderlyAt (device : Device) (request : Request) : Prop :=
  Stacked screenGraph device.screens ∧
    (device.Orderly ∨
      ∃ screen, request = .navigate (.pushAndRemoveUntil screen))

theorem Device.Orderly.at {device : Device} (horderly : device.Orderly)
    (request : Request) : OrderlyAt device request :=
  ⟨horderly.stacked, Or.inl horderly⟩

theorem orderly_of_isEntrance {device : Device}
    (hstacked : Stacked screenGraph device.screens)
    (hentrance : ∀ screen ∈ device.screens, screen.isEntrance = true) :
    device.Orderly :=
  ⟨hstacked, fun screen hmem =>
    Screen.fitsUser_of_isEntrance (hentrance screen hmem) _⟩

theorem Device.Orderly.congr {device after : Device}
    (horderly : device.Orderly) (hscreens : after.screens = device.screens)
    (huser : after.currentUser = device.currentUser) : after.Orderly := by
  constructor
  · rw [hscreens]
    exact horderly.stacked
  · rw [hscreens, huser]
    exact horderly.fits

/-! ## Calls that leave screens and session alone -/

def Request.isCalm : Request → Bool
  | .setSession _ => false
  | .navigate _ => false
  | _ => true

/-- The screens and the user of the session are as they were. -/
def Device.Alike (device after : Device) : Prop :=
  after.screens = device.screens ∧ after.currentUser = device.currentUser

theorem screens_setTopLoad (load : Bool) (routes : List Route) :
    (setTopLoad load routes).map Route.screen =
      routes.map Route.screen := by
  cases routes <;> rfl

/-- Only navigation changes which screens there are. -/
theorem Request.Outcome.screens_eq {request : Request}
    {device after : Device} {answer : Except DartError request.Answer}
    (houtcome : request.Outcome device answer after)
    (hrequest : ∀ navigation, request ≠ .navigate navigation) :
    after.screens = device.screens := by
  cases hroutes : request.changesRoutes with
  | false =>
      unfold Device.screens
      rw [houtcome.routes_eq hroutes]
  | true =>
      cases request with
      | setLoad load =>
          obtain ⟨-, rfl⟩ := houtcome
          exact screens_setTopLoad load device.routes
      | navigate navigation => exact absurd rfl (hrequest navigation)
      | _ => cases hroutes

theorem alike_of_calm {request : Request} (hcalm : request.isCalm = true)
    {device after : Device} {answer : Except DartError request.Answer}
    (houtcome : request.Outcome device answer after) :
    device.Alike after := by
  constructor
  · apply houtcome.screens_eq
    rintro navigation rfl
    cases hcalm
  · apply houtcome.currentUser_eq
    cases request with
    | setSession user => cases hcalm
    | _ => rfl

abbrev Calm (program : App α) : Prop :=
  Async.AsksOnly (fun request => request.isCalm = true) program

section Calm

theorem calm_request {request : Request} (hcalm : request.isCalm = true) :
    Calm (Async.request request : App _) :=
  Async.asksOnly_request hcalm

theorem calm_of_onlyReads {program : App α}
    (hreads : App.OnlyReads program) : Calm program := by
  apply Async.AsksOnly.keeps hreads
  intro request hrequest
  cases hrequest <;> exact calm_request rfl

theorem calm_sendData (data : Json) (path : String) :
    Calm (sendData data path) := by
  apply Async.Keeps.tryCatch
  · apply Async.Keeps.bind (calm_request rfl)
    intro _ _
    exact Async.keeps_done trivial
  · intro error
    exact Async.keeps_done trivial

theorem calm_login (email password : String) :
    Calm (LoginController.login email password) := by
  apply Async.Keeps.tryCatch
  · apply Async.Keeps.bind (calm_request rfl)
    intro _ _
    exact Async.keeps_done trivial
  · intro error
    exact Async.keeps_done trivial

theorem calm_uploadProfilePicture (file : File) (uid : String) :
    Calm (SimpleRegisterController.uploadProfilePicture file uid) := by
  apply Async.Keeps.bind (calm_request rfl)
  intro _ _
  exact calm_request rfl

theorem calm_registerUser (email password : String)
    (profilePicture : Option File) :
    Calm
      (SimpleRegisterController.registerUser email password
        profilePicture) := by
  have huid : Calm (SimpleRegisterController.createUid email password) := by
    apply Async.Keeps.bind (calm_request rfl)
    intro _ _
    exact Async.keeps_done trivial
  apply Async.Keeps.tryCatch
  · apply Async.Keeps.bind huid
    intro uid _
    cases profilePicture with
    | none => exact Async.keeps_done trivial
    | some file =>
        apply Async.Keeps.bind (calm_uploadProfilePicture file uid)
        intro _ _
        exact Async.keeps_done trivial
  · intro error
    exact Async.keeps_done trivial

theorem calm_addPicture (description : String) (file : File) :
    Calm (PhotosController.addPicture description file) := by
  apply Async.Keeps.tryCatch
  · apply Async.Keeps.bind (calm_of_onlyReads onlyReads_currentUid)
    intro uidUser _
    apply Async.Keeps.bind (calm_request rfl)
    intro uidPhoto _
    have hupload : Calm
        (PhotosController.uploadImage file uidUser uidPhoto.val) := by
      apply Async.Keeps.bind (calm_request rfl)
      intro _ _
      exact calm_request rfl
    apply Async.Keeps.bind hupload
    intro url _
    exact calm_sendData _ _
  · intro error
    exact Async.keeps_done trivial

theorem calm_deletePicture (uidPhoto : String) :
    Calm (PhotosController.deletePicture uidPhoto) := by
  apply Async.Keeps.bind (calm_of_onlyReads onlyReads_currentUid)
  intro uidUser _
  apply Async.Keeps.bind (calm_request rfl)
  intro _ _
  apply Async.Keeps.bind (calm_request rfl)
  intro _ _
  exact Async.keeps_done trivial

theorem calm_loadPictures : Calm PhotosController.loadPictures :=
  calm_of_onlyReads PhotosController.onlyReads_loadPictures

theorem calm_updatePhotosList : Calm PhotosWorker.updatePhotosList := by
  apply Async.Keeps.bind (calm_request rfl)
  intro _ _
  exact calm_loadPictures.ignore

theorem calm_photosWorker_delete (uidImage : String) :
    Calm (PhotosWorker.delete uidImage) := by
  apply Async.Keeps.bind (calm_request rfl)
  intro _ _
  apply Async.Keeps.bind (calm_deletePicture uidImage)
  intro _ _
  exact calm_updatePhotosList

end Calm

/-! ## Navigation -/

section Navigation

variable {device : Device} {screen top : Screen} {rest : List Screen}

theorem Screen.Opens.fitsUser {below above : Screen}
    (hopens : Screen.Opens below above) (user : Option AnyUser) :
    above.FitsUser user := by
  cases hopens <;> trivial

theorem orderly_push (horderly : device.Orderly)
    (hscreens : device.screens = top :: rest)
    (hopens : Screen.Opens top screen) :
    Device.Orderly
      { device with
        routes := (Navigation.push screen).apply device.routes } := by
  have hpushed : Device.screens
      { device with
        routes := (Navigation.push screen).apply device.routes } =
          screen :: top :: rest := by
    rw [← hscreens]
    rfl
  constructor
  · rw [hpushed]
    apply Stacked.opened hopens
    rw [← hscreens]
    exact horderly.stacked
  · rw [hpushed, ← hscreens]
    intro shown hmem
    rcases List.mem_cons.mp hmem with rfl | hmem
    · exact hopens.fitsUser _
    · exact horderly.fits shown hmem

theorem orderly_root (hroot : screen.isRoot = true)
    (hfits : screen.FitsUser device.currentUser) :
    Device.Orderly { device with routes := [⟨screen, false⟩] } := by
  constructor
  · exact Stacked.root hroot
  · intro shown hmem
    rw [List.mem_singleton.mp hmem]
    exact hfits

theorem orderly_pop (horderly : device.Orderly) :
    Device.Orderly
      { device with routes := (Navigation.pop).apply device.routes } := by
  have hpopped : Device.screens
      { device with routes := (Navigation.pop).apply device.routes } =
        device.screens.tail := List.map_tail
  constructor
  · rw [hpopped]
    exact horderly.stacked.tail
  · rw [hpopped]
    intro shown hmem
    exact horderly.fits shown (List.mem_of_mem_tail hmem)

end Navigation

/-! ## Handlers -/

section Handlers

variable {device : Device} {top : Screen} {rest : List Screen}

theorem refinesOutcome_outcome :
    RefinesOutcome (fun device request => request.Outcome device) :=
  fun _ _ _ _ houtcome => houtcome

/-- From the device the program is orderly at every request. -/
abbrev RunsOrderly (post : Except DartError α → Device → Prop)
    (program : App α) (device : Device) : Prop :=
  Async.Safe (fun device request => request.Outcome device) OrderlyAt post
    program device

abbrev EndsOrderly (program : App Unit) (device : Device) : Prop :=
  RunsOrderly (fun _ after => after.Orderly) program device

theorem Calm.runsOrderly {program : App α} (hcalm : Calm program)
    (horderly : device.Orderly) :
    RunsOrderly (fun _ after => device.Alike after) program device := by
  have hkeeps : Async.Keeps
      (fun device request => Request.Outcome device request) OrderlyAt
      device.Alike (fun _ => True) program := by
    apply Async.AsksOnly.keeps hcalm
    intro request hrequest
    apply Async.keeps_request
    · intro after halike
      exact (horderly.congr halike.1 halike.2).at request
    · intro after answer next halike houtcome
      obtain ⟨hscreens, huser⟩ := alike_of_calm hrequest houtcome
      exact ⟨⟨hscreens.trans halike.1, huser.trans halike.2⟩,
        fun _ _ => trivial⟩
  apply (hkeeps device ⟨rfl, rfl⟩).mono
  intro answer after hafter
  exact hafter.1

theorem Calm.endsOrderly {program : App Unit} (hcalm : Calm program)
    (horderly : device.Orderly) : EndsOrderly program device := by
  apply (hcalm.runsOrderly horderly).mono
  intro answer after halike
  exact horderly.congr halike.1 halike.2

/-- What follows a calm program starts where it did. -/
theorem Calm.then {program : App α} (hcalm : Calm program)
    {next : α → App β} {post : Except DartError β → Device → Prop}
    (horderly : device.Orderly)
    (hnext : ∀ value after, device.Alike after →
      RunsOrderly post (next value) after)
    (herror : ∀ error after, device.Alike after →
      post (.error error) after) :
    RunsOrderly post (program >>= next) device := by
  apply (hcalm.runsOrderly horderly).then
  · exact hnext
  · exact herror

theorem Calm.thenEnds {program : App α} (hcalm : Calm program)
    {next : α → App Unit} (horderly : device.Orderly)
    (hnext : ∀ value after, after.Orderly → device.Alike after →
      EndsOrderly (next value) after) :
    EndsOrderly (program >>= next) device := by
  apply hcalm.then horderly
  · intro value after halike
    exact hnext value after (horderly.congr halike.1 halike.2) halike
  · intro error after halike
    exact horderly.congr halike.1 halike.2

theorem endsOrderly_push {screen : Screen} (horderly : device.Orderly)
    (hscreens : device.screens = top :: rest)
    (hopens : Screen.Opens top screen) :
    EndsOrderly (Navigator.navigate (.push screen)) device :=
  App.safe_navigate refinesOutcome_outcome (horderly.at _)
    (orderly_push horderly hscreens hopens)

/-- The session may have been replaced for the screen to come. -/
theorem endsOrderly_root {screen : Screen}
    (hstacked : Stacked screenGraph device.screens)
    (hroot : screen.isRoot = true)
    (hfits : screen.FitsUser device.currentUser) :
    EndsOrderly (Navigator.navigate (.pushAndRemoveUntil screen)) device :=
  App.safe_navigate refinesOutcome_outcome
    ⟨hstacked, Or.inr ⟨screen, rfl⟩⟩ (orderly_root hroot hfits)

theorem endsOrderly_checkHome (horderly : device.Orderly)
    (hscreens : device.screens = [.home]) :
    EndsOrderly Home.check device := by
  apply (calm_of_onlyReads
    LoginController.onlyReads_checkUserLogged).thenEnds horderly
  intro signedIn after hafter halike
  cases signedIn with
  | false => exact hafter
  | true =>
      apply App.safe_navigate refinesOutcome_outcome (hafter.at _)
      have htail : after.routes.tail.map Route.screen = [] := by
        have hroutes : after.routes.map Route.screen = [.home] :=
          halike.1.trans hscreens
        rw [List.map_tail, hroutes]
        rfl
      have hshown : after.routes.tail = [] := List.map_eq_nil_iff.mp htail
      simp only [Navigation.apply]
      rw [hshown]
      exact orderly_root rfl trivial

theorem endsOrderly_launch (hroutes : device.routes = []) :
    EndsOrderly launch device := by
  have hempty : device.screens = [] := by
    unfold Device.screens
    rw [hroutes]
    rfl
  have horderly : device.Orderly := by
    constructor
    · rw [hempty]
      exact .empty
    · rw [hempty]
      intro screen hmem
      cases hmem
  unfold launch
  apply (Async.safe_bind _ _ _ _).mpr
  apply App.safe_navigate refinesOutcome_outcome (horderly.at _)
  simp only [Navigation.apply, hroutes]
  exact endsOrderly_checkHome (orderly_root rfl trivial) rfl

theorem endsOrderly_login (email password : String)
    (horderly : device.Orderly) :
    EndsOrderly (Login.login email password) device := by
  apply Calm.thenEnds (calm_request rfl) horderly
  intro _ loading hloading _
  apply (calm_login email password).thenEnds hloading
  intro result shown hshown _
  have hload : Calm (setLoad false) := calm_request rfl
  cases result with
  | true =>
      apply hload.thenEnds hshown
      intro _ last hlast _
      exact endsOrderly_root hlast.stacked rfl trivial
  | false =>
      apply hload.thenEnds hshown
      intro _ last hlast _
      exact Calm.endsOrderly (calm_request rfl) hlast

theorem endsOrderly_logOut (horderly : device.Orderly) :
    EndsOrderly MenuConfig.logOut device := by
  apply Calm.thenEnds (calm_request rfl) horderly
  intro _ out hout _
  apply (Async.safe_bind _ _ _ _).mpr
  apply App.safe_navigate refinesOutcome_outcome (hout.at _)
  exact endsOrderly_checkHome (orderly_root rfl trivial) rfl

/-! ### Registration and completion -/

/-- The entrance of the app is on the screen, whoever is in the session. -/
structure Entering (screens : List Screen) (device : Device) : Prop where
  screens_eq : device.screens = screens
  stacked : Stacked screenGraph screens
  entrance : ∀ screen ∈ screens, screen.isEntrance = true

theorem Entering.orderly {screens : List Screen}
    (hentering : Entering screens device) : device.Orderly := by
  apply orderly_of_isEntrance
  · rw [hentering.screens_eq]
    exact hentering.stacked
  · rw [hentering.screens_eq]
    exact hentering.entrance

theorem entering_of_top (horderly : device.Orderly)
    (hscreens : device.screens = top :: rest)
    (htop : top.isEntrance = true) : Entering (top :: rest) device := by
  have hstacked := horderly.stacked
  rw [hscreens] at hstacked
  exact ⟨hscreens, hstacked, forall_isEntrance hstacked htop⟩

theorem Entering.alike {screens : List Screen}
    (hentering : Entering screens device) {after : Device}
    (halike : device.Alike after) : Entering screens after :=
  ⟨halike.1.trans hentering.screens_eq, hentering.stacked,
    hentering.entrance⟩

theorem Entering.withUser {screens : List Screen}
    (hentering : Entering screens device) (user : AnyUser) :
    Entering screens { device with currentUser := some user } :=
  ⟨hentering.screens_eq, hentering.stacked, hentering.entrance⟩

theorem safe_setCurrentUser_entering {screens : List Screen}
    (hentering : Entering screens device) {user : AnyUser}
    {post : Except DartError Unit → Device → Prop}
    (hpost : post (.ok ()) { device with currentUser := some user }) :
    RunsOrderly post (LoginController.setCurrentUser user) device :=
  App.safe_setSession refinesOutcome_outcome (hentering.orderly.at _) hpost

/-- The user a finished registration has left in the session. -/
def RegisteredAs (typeUser : TypeUser) (device : Device) : Prop :=
  match typeUser with
  | .cliente => ∃ client, device.currentUser = some (.client client)
  | .trabalhador => ∃ worker, device.currentUser = some (.worker worker)

theorem runsOrderly_registerClient
    (name email country city state : String) (birth : DateTime)
    (uid imageUrl : String) {screens : List Screen}
    (hentering : Entering screens device) :
    RunsOrderly
      (fun answer after => Entering screens after ∧
        ∀ profile, answer = .ok profile → profile.result = true →
          RegisteredAs .cliente after)
      (SimpleRegisterController.registerClient name email country city state
        birth uid imageUrl)
      device := by
  have hsend (user : AnyUser) :
      Calm (SimpleRegisterController.sendUser user) := by
    apply Async.Keeps.bind (Async.keeps_ofExcept_any user.toJson)
    intro data _
    exact calm_sendData data _
  unfold SimpleRegisterController.registerClient
  apply (Async.safe_tryCatch _ _ _ _).mpr
  apply (hsend _).then hentering.orderly
  · intro sent after halike
    apply (Async.safe_bind _ _ _ _).mpr
    have hafter := hentering.alike halike
    apply safe_setCurrentUser_entering hafter
    exact ⟨hafter.withUser _, fun _ _ _ => ⟨_, rfl⟩⟩
  · intro error after halike
    refine ⟨hentering.alike halike, ?_⟩
    intro profile heq hresult
    cases heq
    cases hresult

theorem runsOrderly_registerWorker
    (name email country city state : String) (birth : DateTime)
    (uid imageUrl : String) {screens : List Screen}
    (hentering : Entering screens device) :
    RunsOrderly
      (fun answer after => Entering screens after ∧
        ∀ profile, answer = .ok profile → profile.result = true →
          RegisteredAs .trabalhador after)
      (SimpleRegisterController.registerWorker name email country city state
        birth uid imageUrl)
      device := by
  unfold SimpleRegisterController.registerWorker
  apply (Async.safe_tryCatch _ _ _ _).mpr
  apply (Async.safe_bind _ _ _ _).mpr
  apply safe_setCurrentUser_entering hentering
  exact ⟨hentering.withUser _, fun _ _ _ => ⟨_, rfl⟩⟩

theorem runsOrderly_profileResult {ready : Device → Prop}
    {screens : List Screen}
    {program : App SimpleRegisterController.ProfileResult}
    (hprogram : RunsOrderly
      (fun answer after => Entering screens after ∧
        ∀ profile, answer = .ok profile → profile.result = true →
          ready after) program device) :
    RunsOrderly
      (fun answer after => Entering screens after ∧
        (answer = .ok true → ready after))
      (program >>= fun profile => pure profile.result) device := by
  apply hprogram.then
  · rintro profile after ⟨hafter, hready⟩
    exact ⟨hafter, fun heq => hready profile rfl (Except.ok.inj heq)⟩
  · rintro error after ⟨hafter, -⟩
    exact ⟨hafter, nofun⟩

theorem runsOrderly_registerAccount (typeUser : TypeUser)
    (form : RegisterForm) (date : DateTime) {screens : List Screen}
    (hentering : Entering screens device) :
    RunsOrderly
      (fun answer after => Entering screens after ∧
        (answer = .ok true → RegisteredAs typeUser after))
      (SimpleRegister.registerAccount typeUser form date) device := by
  unfold SimpleRegister.registerAccount
  apply (calm_registerUser _ _ _).then hentering.orderly
  · intro user after halike
    have hafter := hentering.alike halike
    split_ifs
    · cases typeUser with
      | cliente =>
          exact runsOrderly_profileResult
            (runsOrderly_registerClient _ _ _ _ _ _ _ _ hafter)
      | trabalhador =>
          exact runsOrderly_profileResult
            (runsOrderly_registerWorker _ _ _ _ _ _ _ _ hafter)
    · exact ⟨hafter, nofun⟩
  · intro error after halike
    exact ⟨hentering.alike halike, nofun⟩

theorem endsOrderly_agree (typeUser : TypeUser) (form : RegisterForm)
    (date : DateTime) (horderly : device.Orderly)
    (hscreens : device.screens = .simpleRegister typeUser :: rest) :
    EndsOrderly (SimpleRegister.agree typeUser form date) device := by
  apply Calm.thenEnds (calm_request rfl) horderly
  intro _ loading hloading halike
  have hentering := entering_of_top hloading (halike.1.trans hscreens) rfl
  apply (runsOrderly_registerAccount typeUser form date hentering).then
  · rintro result after ⟨hafter, hregistered⟩
    cases result with
    | false => exact Calm.endsOrderly (calm_request rfl) hafter.orderly
    | true =>
        have hready := hregistered rfl
        cases typeUser with
        | cliente =>
            exact endsOrderly_root hafter.orderly.stacked rfl hready
        | trabalhador =>
            exact endsOrderly_push hafter.orderly hafter.screens_eq
              .workerComplement
  · rintro error after ⟨hafter, -⟩
    exact hafter.orderly

/-- The two writes of a completion, after the session is set. -/
theorem calm_completionWrites (worker : Worker) (location : Location)
    (area : ℤ) :
    Calm (do
      let profile ← Async.ofExcept worker.toJson
      let data ← sendData profile (dataPath (interpolate worker.uid))
      let time ← DateTime.now
      let reference ←
        sendData (.obj [("time", .str time.toString)])
          (WorkerComplementController.workerDirectoryPath worker location
            area)
      return data && reference : App Bool) := by
  apply Async.Keeps.bind (Async.keeps_ofExcept_any _)
  intro profile _
  apply Async.Keeps.bind (calm_sendData profile _)
  intro data _
  apply Async.Keeps.bind (calm_request rfl)
  intro time _
  apply Async.Keeps.bind (calm_sendData _ _)
  intro reference _
  exact Async.keeps_done trivial

/-- A completion reported as done has left a worker in the session. -/
theorem runsOrderly_registerCompleteWorker (worker : Option Worker)
    (form : Complement) {screens : List Screen}
    (hentering : Entering screens device) :
    RunsOrderly
      (fun answer after => Entering screens after ∧
        (answer = .ok true → RegisteredAs .trabalhador after))
      (WorkerComplementController.registerCompleteWorker worker form)
      device := by
  unfold WorkerComplementController.registerCompleteWorker
  apply (Async.safe_bind _ _ _ _).mpr
  rw [Async.safe_ofExcept]
  cases worker with
  | none => exact ⟨hentering, nofun⟩
  | some worker =>
      apply (Async.safe_bind _ _ _ _).mpr
      rw [Async.safe_ofExcept]
      cases worker.location with
      | none => exact ⟨hentering, nofun⟩
      | some location =>
          apply (Async.safe_bind _ _ _ _).mpr
          apply safe_setCurrentUser_entering hentering
          have hset := hentering.withUser (.worker
            (WorkerComplementController.complete worker location form))
          apply ((calm_completionWrites _ location
            form.category.uid).runsOrderly hset.orderly).mono
          intro answer after halike
          exact ⟨hset.alike halike, fun _ => ⟨_, halike.2⟩⟩

theorem endsOrderly_submit (form : Complement) (horderly : device.Orderly)
    (hscreens : device.screens = .workerComplement :: rest) :
    EndsOrderly (WorkerComplement.submit form) device := by
  apply Calm.thenEnds (calm_request rfl) horderly
  intro _ loading hloading halike
  have hentering := entering_of_top hloading (halike.1.trans hscreens) rfl
  have hworker : Calm LoginController.getCurrentWorker := by
    apply Async.Keeps.bind (calm_request rfl)
    intro user _
    exact Async.keeps_ofExcept_any _
  apply hworker.thenEnds hloading
  intro worker found hfound halike
  apply (runsOrderly_registerCompleteWorker worker form
    (hentering.alike halike)).then
  · rintro result after ⟨hafter, hregistered⟩
    cases result with
    | false => exact Calm.endsOrderly (calm_request rfl) hafter.orderly
    | true =>
        exact endsOrderly_root hafter.orderly.stacked rfl (hregistered rfl)
  · rintro error after ⟨hafter, -⟩
    exact hafter.orderly

theorem endsOrderly_finishComplement (form : Complement)
    (horderly : device.Orderly)
    (hscreens : device.screens = .workerComplement :: rest) :
    EndsOrderly (WorkerComplement.finishComplement form) device := by
  unfold WorkerComplement.finishComplement
  cases WorkerComplement.refusal form with
  | some text => exact Calm.endsOrderly (calm_request rfl) horderly
  | none => exact endsOrderly_submit form horderly hscreens

/-! ### Role choices -/

/-- The session is replaced right before the stack is. -/
theorem endsOrderly_setAndShow {user : AnyUser} {screen : Screen}
    (horderly : device.Orderly) (hroot : screen.isRoot = true)
    (hfits : screen.FitsUser (some user)) :
    EndsOrderly
      (do
        LoginController.setCurrentUser user
        Navigator.navigate (.pushAndRemoveUntil screen)) device := by
  apply (Async.safe_bind _ _ _ _).mpr
  apply App.safe_setSession refinesOutcome_outcome (horderly.at _)
  exact endsOrderly_root horderly.stacked hroot hfits

theorem endsOrderly_userChoice_client (horderly : device.Orderly) :
    EndsOrderly UserChoice.client device := by
  unfold UserChoice.client
  rw [clientChoice_eq]
  apply Calm.thenEnds (calm_request rfl) horderly
  intro _ loading hloading _
  apply Calm.thenEnds (calm_request rfl) hloading
  intro user asked hasked _
  apply Calm.thenEnds (Async.keeps_ofExcept_any _) hasked
  intro uid named hnamed _
  apply Calm.thenEnds (calm_request rfl) hnamed
  intro data read hread _
  apply Calm.thenEnds (Async.keeps_ofExcept_any _) hread
  intro client decoded hdecoded _
  exact endsOrderly_setAndShow hdecoded rfl ⟨client, rfl⟩

theorem endsOrderly_userChoice_worker (horderly : device.Orderly) :
    EndsOrderly UserChoice.worker device := by
  unfold UserChoice.worker
  rw [workerChoice_eq]
  apply Calm.thenEnds (calm_request rfl) horderly
  intro _ loading hloading _
  apply Calm.thenEnds (calm_request rfl) hloading
  intro user asked hasked _
  apply Calm.thenEnds (Async.keeps_ofExcept_any _) hasked
  intro uid named hnamed _
  apply Calm.thenEnds (calm_request rfl) hnamed
  intro data read hread _
  have hmissing (after : Device) (hafter : after.Orderly) :
      EndsOrderly
        (Navigator.navigate (.pushAndRemoveUntil .workerComplement))
        after :=
    endsOrderly_root hafter.stacked rfl trivial
  cases hworker : decodedWorker data with
  | error error => exact hmissing read hread
  | ok worker =>
      have hfound : EndsOrderly
          (do
            LoginController.setCurrentUser (.worker worker)
            Navigator.navigate (.pushAndRemoveUntil .mainWorker)) read :=
        endsOrderly_setAndShow hread rfl ⟨worker, rfl⟩
      apply (Async.safe_tryCatch _ _ _ _).mpr
      apply hfound.mono
      intro answer after hafter
      cases answer with
      | ok value => exact hafter
      | error error => exact hmissing after hafter

/-! ### Every handler -/

theorem endsOrderly_photos (horderly : device.Orderly)
    (hscreens : device.screens = .mainWorker :: rest) :
    EndsOrderly
      (do
        Navigator.navigate (.push .photosWorker)
        let _ ← PhotosController.loadPictures) device := by
  apply (Async.safe_bind _ _ _ _).mpr
  apply App.safe_navigate refinesOutcome_outcome (horderly.at _)
  exact Calm.endsOrderly calm_loadPictures.ignore
    (orderly_push horderly hscreens .photosWorker)

theorem endsOrderly_addPhoto_send (description : String)
    (image : Option File) (horderly : device.Orderly) :
    EndsOrderly (AddPhoto.send description image) device := by
  cases image with
  | none => exact horderly
  | some file =>
      apply Calm.thenEnds (calm_request rfl) horderly
      intro _ loading hloading _
      apply (calm_addPicture description file).thenEnds hloading
      intro complete after hafter _
      cases complete with
      | false => exact hafter
      | true =>
          apply (Async.safe_bind _ _ _ _).mpr
          apply App.safe_navigate refinesOutcome_outcome (hafter.at _)
          exact Calm.endsOrderly calm_updatePhotosList (orderly_pop hafter)

theorem endsOrderly_goBack (screen : Screen) (horderly : device.Orderly) :
    EndsOrderly (goBack screen) device := by
  unfold goBack
  apply (Async.safe_bind _ _ _ _).mpr
  apply App.safe_navigate refinesOutcome_outcome (horderly.at _)
  change EndsOrderly (if screen = .addPhoto then _ else _) _
  split_ifs
  · exact Calm.endsOrderly calm_updatePhotosList (orderly_pop horderly)
  · exact orderly_pop horderly

def EndsOrderlyFrom (screens : List Screen) (program : App Unit) : Prop :=
  ∀ device : Device, device.Orderly → device.screens = screens →
    EndsOrderly program device

theorem endsOrderlyFrom_btnRegisterClicked (typeUser : TypeUser)
    (form : RegisterForm) (agrees : Option Selection) :
    EndsOrderlyFrom (.simpleRegister typeUser :: rest)
      (SimpleRegister.btnRegisterClicked typeUser form agrees) := by
  apply SimpleRegister.btnRegisterClicked_rule
  · intro text device horderly _
    exact Calm.endsOrderly (calm_request rfl) horderly
  · intro device horderly _
    exact horderly
  · intro date next hnext device horderly hscreens
    apply (calm_of_onlyReads
      (SimpleRegister.onlyReads_ageRefused date)).thenEnds horderly
    intro refused after hafter halike
    exact hnext refused after hafter (halike.1.trans hscreens)
  · intro held date device horderly hscreens
    exact endsOrderly_agree typeUser (form.holding held) date horderly
      hscreens

theorem endsOrderly_of_handles {action : Action} {program : App Unit}
    (hhandles : Handles top action program) (horderly : device.Orderly)
    (hscreens : device.screens = top :: rest) :
    EndsOrderly program device := by
  cases hhandles with
  | participe => exact endsOrderly_push horderly hscreens .login
  | login email password => exact endsOrderly_login email password horderly
  | cadastrese =>
      exact endsOrderly_push horderly hscreens .userChoiceRegister
  | chooseType typeUser =>
      exact endsOrderly_push horderly hscreens (.simpleRegister typeUser)
  | register typeUser form agrees =>
      exact endsOrderlyFrom_btnRegisterClicked typeUser form agrees device
        horderly hscreens
  | clientChoice => exact endsOrderly_userChoice_client horderly
  | workerChoice => exact endsOrderly_userChoice_worker horderly
  | finishComplement form =>
      exact endsOrderly_finishComplement form horderly hscreens
  | clientSettings =>
      exact endsOrderly_push horderly hscreens .clientSettings
  | workerSettings =>
      exact endsOrderly_push horderly hscreens .workerSettings
  | changeView => exact endsOrderly_push horderly hscreens .userChoice
  | logOut => exact endsOrderly_logOut horderly
  | photos => exact endsOrderly_photos horderly hscreens
  | deletePhoto uidImage =>
      exact Calm.endsOrderly (calm_photosWorker_delete uidImage) horderly
  | addPhoto => exact endsOrderly_push horderly hscreens .addPhoto
  | sendPhoto description image =>
      exact endsOrderly_addPhoto_send description image horderly

theorem endsOrderly_of_starts {action : Action} {program : App Unit}
    (hstarts : Starts device action program) (horderly : device.Orderly) :
    EndsOrderly program device := by
  cases hstarts with
  | launch hroutes => exact endsOrderly_launch hroutes
  | back hroutes => exact endsOrderly_goBack _ horderly
  | @handler shown below action program hroutes hload hhandles =>
      apply endsOrderly_of_handles hhandles horderly
      unfold Device.screens
      rw [hroutes]
      rfl

end Handlers

/-! ## Home screens -/

/-- What a home screen builds: its loading content, or the picture of its
user with a greeting over it. -/
inductive HomePage where
  | loading
  | shown (imageUrl greeting : String)

/-- `name.split(" ")[0]` -/
def firstName (name : String) : String :=
  String.ofList (SplitLists.beforeFirst ' ' name.toList)

section Pages

variable (toUpperCase : String → String)

/-- The picture is asked for when the screen is made; `load` is lowered when
it has come, and only then the name is looked at. -/
def homePage (welcome : String) (load : Bool) (image : Option String)
    (user : Option User) : Except DartError HomePage := do
  let imageUrl ← nonNull image
  if load then return .loading
  else
    let user ← nonNull user
    let name ← nonNull user.name
    return .shown imageUrl (welcome ++ toUpperCase (firstName name))

def HomeWorker.page (load : Bool) (session : Option AnyUser) :
    Except DartError HomePage := do
  let image ← HomeWorker.image session
  let worker ← LoginController.asWorker session
  homePage toUpperCase "OLÁ, " load image (worker.map Worker.toUser)

def HomeClient.page (load : Bool) (session : Option AnyUser) :
    Except DartError HomePage := do
  let image ← HomeClient.image session
  let client ← LoginController.asClient session
  homePage toUpperCase "BEM VINDO, " load image (client.map Client.toUser)

end Pages

/-! ## Every run -/

section Runs

variable {DeviceId : Type} [DecidableEq DeviceId] {world : World DeviceId}
  {allowed : World DeviceId → Event DeviceId Action Oracle → Prop}

/-- The devices are orderly, at rest and at every request. -/
theorem orderly_of_reaches
    (hreach : app.Reaches allowed (World.initial DeviceId) world)
    (device : DeviceId) :
    world.TaskInv (fun _ device request => request.Outcome device)
      (fun _ _ => OrderlyAt) (fun _ => Device.Orderly) device := by
  have hempty (device : Device) (hroutes : device.routes = []) :
      device.Orderly := by
    have hscreens : device.screens = [] := by
      unfold Device.screens
      rw [hroutes]
      rfl
    apply orderly_of_isEntrance
    · rw [hscreens]
      exact .empty
    · rw [hscreens]
      intro screen hmem
      cases hmem
  apply hreach.invariant
  · exact hempty _ rfl
  · intro before event after hbefore _ hstep
    refine Machine.taskInv_step hbefore ?_ ?_ ?_ hstep
    · intro action program _ _ horderly hstart
      exact endsOrderly_of_starts (starts_of_startAction hstart) horderly
    · intro oracle action request _ _
      exact Request.exec_outcome request oracle before.shared _
    · intro state _
      exact hempty state.reset rfl

/-- On every device, at every moment, each screen lies on the one it was
opened from, and no more than five lie on each other. -/
theorem screens_stay_stacked
    (hreach : app.Reaches (fun _ _ => True) (World.initial DeviceId) world)
    (device : DeviceId) :
    Stacked screenGraph (world.locals device).screens ∧
      (world.locals device).screens.length ≤ 5 := by
  have hstacked : Stacked screenGraph (world.locals device).screens := by
    rcases (orderly_of_reaches hreach device).inv_or_guarantee with
      horderly | ⟨_, _, hat⟩
    · exact horderly.stacked
    · exact hat.1
  exact ⟨hstacked, stacked_length_le hstacked⟩

theorem orderly_unless_replaced
    (hreach : app.Reaches allowed (World.initial DeviceId) world)
    {device : DeviceId}
    (hmoment : ∀ action screen, world.pending device ≠
      some (action, .navigate (.pushAndRemoveUntil screen))) :
    (world.locals device).Orderly := by
  rcases (orderly_of_reaches hreach device).inv_or_awaits with
    horderly | ⟨action, request, rest, htask, -, hat⟩
  · exact horderly
  · rcases hat with horderly | ⟨screen, rfl⟩
    · exact horderly
    · exact absurd (by simp [Config.pending, htask])
        (hmoment action screen)

/-- The two pages of a user who passed the forms. -/
structure Builds (welcome : String) (toUpperCase : String → String)
    (page : Bool → Except DartError HomePage) : Prop where
  loading : page true = .ok .loading
  shown : ∃ name imageUrl, 6 ≤ utf16Length (trim name) ∧
    page false =
      .ok (.shown imageUrl (welcome ++ toUpperCase (firstName name)))

theorem builds_homePage {registry : Registry} {uid : Segment} {user : User}
    (hadmits : registry.Admits uid user) (toUpperCase : String → String)
    (welcome : String) :
    Builds welcome toUpperCase fun load =>
      homePage toUpperCase welcome load user.imageUrl (some user) := by
  obtain ⟨name, hname, hlength⟩ := hadmits.name
  obtain ⟨imageUrl, himage⟩ := hadmits.imageUrl
  constructor
  · simp only [homePage, nonNull, himage, except_ok_bind]
    rfl
  · refine ⟨name, imageUrl, hlength, ?_⟩
    simp only [homePage, nonNull, himage, except_ok_bind, hname]
    rfl

/-- A worker opens the form for a photo over the album and the home
screen. -/
def coveredHome : List (Event Unit Action Oracle) :=
  completedRegistration ++ perform .photos firstUid 3 ++
    perform .addPhoto firstUid 1

theorem coveredHome_reached :
    ∃ world : World Unit,
      app.run (World.initial Unit) coveredHome = some world ∧
      world.tasks () = none ∧
      (world.locals ()).screens = [.addPhoto, .photosWorker, .mainWorker] ∧
      app.Reaches (fun _ _ => True) (World.initial Unit) world := by
  have hrun : (app.run (World.initial Unit) coveredHome).map
      (fun world => (world.tasks ()).isNone &&
        decide ((world.locals ()).screens =
          [.addPhoto, .photosWorker, .mainWorker])) = some true := by
    decide +kernel
  obtain ⟨world, hworld, hshown⟩ := Option.map_eq_some_iff.mp hrun
  rw [Bool.and_eq_true, Option.isNone_iff_eq_none, decide_eq_true_eq]
    at hshown
  exact ⟨world, hworld, hshown.1, hshown.2,
    Reaches.refl.run coveredHome
      (eachAllowed_of_forall (fun _ _ => trivial) _ _) hworld⟩

theorem screens_stay_stacked_coveredHome :
    ∃ world : World Unit,
      app.run (World.initial Unit) coveredHome = some world ∧
      Stacked screenGraph (world.locals ()).screens ∧
      (world.locals ()).screens.length ≤ 5 := by
  obtain ⟨world, hworld, -, -, hreach⟩ := coveredHome_reached
  exact ⟨world, hworld, screens_stay_stacked hreach ()⟩

/-- A home screen on the stack, covered or not, can be built at any moment
but the one at which the stack is about to be replaced: the session has a
user of its kind with an address of a picture, so the loading content can be
shown, and with a name to greet once the picture has come. -/
theorem home_screens_build
    (hreach : app.Reaches (fun _ _ => True) (World.initial DeviceId) world)
    {device : DeviceId}
    (hmoment : ∀ action screen, world.pending device ≠
      some (action, .navigate (.pushAndRemoveUntil screen)))
    (toUpperCase : String → String) :
    (.mainWorker ∈ (world.locals device).screens →
      Builds "OLÁ, " toUpperCase fun load =>
        HomeWorker.page toUpperCase load
          (world.locals device).currentUser) ∧
    (.mainClient ∈ (world.locals device).screens →
      Builds "BEM VINDO, " toUpperCase fun load =>
        HomeClient.page toUpperCase load
          (world.locals device).currentUser) := by
  have horderly := orderly_unless_replaced hreach hmoment
  obtain ⟨noted, rfl, -, hconsistent⟩ :=
    noted_of_reaches (fun _ event _ => namesOffered_any event) hreach
  constructor
  · intro hmem
    obtain ⟨worker, hworker⟩ := horderly.fits _ hmem
    obtain ⟨uid, hadmits⟩ := hconsistent.sessions device _ hworker
    rw [hworker]
    exact builds_homePage hadmits toUpperCase "OLÁ, "
  · intro hmem
    obtain ⟨client, hclient⟩ := horderly.fits _ hmem
    obtain ⟨uid, hadmits⟩ := hconsistent.sessions device _ hclient
    rw [hclient]
    exact builds_homePage hadmits toUpperCase "BEM VINDO, "

theorem home_screens_build_coveredHome :
    ∃ world : World Unit,
      app.run (World.initial Unit) coveredHome = some world ∧
      Builds "OLÁ, " String.toUpper fun load =>
        HomeWorker.page String.toUpper load
          (world.locals ()).currentUser := by
  obtain ⟨world, hworld, htask, hscreens, hreach⟩ := coveredHome_reached
  refine ⟨world, hworld,
    (home_screens_build hreach ?_ String.toUpper).1 ?_⟩
  · intro action screen hpending
    simp [Config.pending, htask] at hpending
  · rw [hscreens]
    simp

end Runs

end FoliumApp
