import FoliumApp.RoleChoices
import FoliumApp.Screens

/-!
# Policies on the session, for all runs of the app

`LoginController.currentUser` is set by registrations and role choices and
is read where a profile is completed.  The failure branch of `workerChoice`
is the only place that shows the completion form without having set it.

A `SessionPolicy` says which requests are in order, what has to hold of a
device whose completion form is shown, and what is assumed where that branch
is taken.  Every policy is kept in every run in which the assumption is met:
the form is never left below another screen, and every other handler sets the
session itself before it relies on it.
-/

namespace FoliumApp

open PathTree AsyncProgram

/-! ## The parts of a device that matter -/

def Device.SessionLocated (device : Device) : Prop :=
  ∀ worker, device.currentUser = some (.worker worker) →
    worker.location ≠ none

def Device.NoComplement (device : Device) : Prop :=
  ∀ route ∈ device.routes, route.screen ≠ .workerComplement

structure Device.Clean (device : Device) : Prop where
  located : device.SessionLocated
  noComplement : device.NoComplement

structure Device.CleanAs (account : Option Segment) (device : Device) :
    Prop where
  clean : device.Clean
  signedIn : device.signedIn = account

/-- The requests that leave the account, the session and the screens of the
two roles alone and write nothing. -/
def Request.Ordinary : Request → Prop
  | .createUserWithEmailAndPassword _ _ => False
  | .signInWithEmailAndPassword _ _ => False
  | .signOut => False
  | .set _ _ => False
  | .remove _ => False
  | .getSession => False
  | .setSession _ => False
  | .navigate navigation =>
      navigation.shows ≠ some .mainClient ∧
        navigation.shows ≠ some .mainWorker ∧
        navigation.shows ≠ some .workerComplement
  | _ => True

def UnderUser (uid : Segment) (path : String) : Prop :=
  ∃ rest, pieces path = "users" :: uid.val :: rest

/-- The value read is a complete worker record. -/
def DecodesAsWorker (data : Json) : Prop :=
  ∃ worker, (Snapshot.ofValue data >>= Worker.fromDB) = .ok worker

/-! ## Policies -/

structure SessionPolicy where
  guar : Device → Request → Prop
  /-- What holds of a device that shows the completion form. -/
  good : Device → Prop
  /-- What is assumed of a device whose role choice finds no worker. -/
  choice : Device → Prop
  good_congr : ∀ (device next : Device),
    next.signedIn = device.signedIn →
      next.currentUser = device.currentUser → good device → good next
  good_of_choice : ∀ {device : Device},
    device.SessionLocated → choice device → good device
  good_registered : ∀ {device : Device} {uid : Segment} {worker : Worker},
    device.signedIn = some uid →
      device.currentUser = some (.worker worker) →
        worker.uid = some uid.val → worker.location ≠ none → good device
  good_completed : ∀ {device : Device} {worker worker' : Worker},
    good device → device.currentUser = some (.worker worker) →
      worker'.uid = worker.uid → worker'.location ≠ none →
        good { device with currentUser := some (.worker worker') }
  ordinary : ∀ {device : Device} {request : Request},
    request.Ordinary → guar device request
  account : ∀ (device : Device) (email password : String),
    guar device (.createUserWithEmailAndPassword email password) ∧
      guar device (.signInWithEmailAndPassword email password) ∧
      guar device .signOut
  session : ∀ (device : Device) (user : AnyUser),
    guar device (.setSession user)
  ownSet : ∀ {device : Device} {uid : Segment} {path : String}
    (value : Json), device.signedIn = some uid → UnderUser uid path →
      guar device (.set path value)
  ownRemove : ∀ {device : Device} {uid : Segment} {path : String},
    device.signedIn = some uid → UnderUser uid path →
      guar device (.remove path)
  completedSet : ∀ {device : Device} {worker : Worker} (value : Json),
    good device → device.currentUser = some (.worker worker) →
      guar device (.set (dataPath (interpolate worker.uid)) value)
  completedEntry : ∀ {device : Device} {worker : Worker}
    (country state city area : String) (value : Json),
    good device → device.currentUser = some (.worker worker) →
      guar device
        (.set (directoryPath country state city area
          (interpolate worker.uid)) value)
  toClient : ∀ {device : Device} {client : Client},
    device.currentUser = some (.client client) →
      guar device (.navigate (.pushAndRemoveUntil .mainClient))
  toWorker : ∀ {device : Device} {worker : Worker},
    device.currentUser = some (.worker worker) → worker.location ≠ none →
      guar device (.navigate (.pushAndRemoveUntil .mainWorker))
  toComplement : ∀ (device : Device),
    guar device (.navigate (.push .workerComplement)) ∧
      guar device (.navigate (.pushAndRemoveUntil .workerComplement))
  submit : ∀ {device : Device}, good device → guar device .getSession

namespace SessionPolicy

variable (policy : SessionPolicy)

/-- The assumption: a role choice that finds no worker record is made only
where the policy allows it. -/
def ChoiceMet (device : Device) : Action → (request : Request) →
    Except DartError request.Answer → Prop
  | .workerChoice, .once _, .ok data =>
      ¬ DecodesAsWorker data → policy.choice device
  | _, _, _ => True

/-- What a handler may rely on at each of its requests. -/
def rely (action : Action) (device : Device) (request : Request)
    (answer : Except DartError request.Answer) (next : Device) : Prop :=
  request.Outcome device answer next ∧
    policy.ChoiceMet device action request answer

/-- An idle device: the completion form is at most on top, and then the
session is as the policy wants it. -/
structure Idle (device : Device) : Prop where
  located : device.SessionLocated
  below : ∀ route ∈ device.routes.tail, route.screen ≠ .workerComplement
  top : ∀ route below, device.routes = route :: below →
    route.screen = .workerComplement → policy.good device

theorem idle_of_clean {device : Device} (hclean : device.Clean) :
    policy.Idle device := by
  refine ⟨hclean.located, ?_, ?_⟩
  · intro route hmem
    exact hclean.noComplement route (List.mem_of_mem_tail hmem)
  · intro route below hroutes htop
    have hmem : route ∈ device.routes := by
      rw [hroutes]
      exact List.mem_cons_self
    exact absurd htop (hclean.noComplement route hmem)

def Allowed {DeviceId : Type} (config : World DeviceId) :
    Event DeviceId Action Oracle → Prop
  | .resume device oracle =>
      match config.pending device with
      | some (action, request) =>
          policy.ChoiceMet (config.locals device) action request
            (request.exec oracle config.shared (config.locals device)).1
      | none => True
  | _ => True

end SessionPolicy

/-! ## What ordinary requests keep -/

theorem Navigation.noComplement_apply {navigation : Navigation}
    (hshows : navigation.shows ≠ some .workerComplement)
    {routes : List Route}
    (hroutes : ∀ route ∈ routes, route.screen ≠ .workerComplement) :
    ∀ route ∈ navigation.apply routes,
      route.screen ≠ .workerComplement := by
  apply Navigation.forall_apply (fun screen => screen ≠ .workerComplement)
    _ hroutes
  intro screen hscreen heq
  rw [heq] at hscreen
  exact hshows hscreen

theorem noComplement_setTopLoad {routes : List Route}
    (hroutes : ∀ route ∈ routes, route.screen ≠ .workerComplement)
    (load : Bool) :
    ∀ route ∈ setTopLoad load routes, route.screen ≠ .workerComplement :=
  forall_setTopLoad (fun screen => screen ≠ .workerComplement) hroutes load

theorem Device.Clean.withRoutes {device : Device} (hclean : device.Clean)
    {routes : List Route}
    (hroutes : ∀ route ∈ routes, route.screen ≠ .workerComplement) :
    Device.Clean { device with routes } :=
  ⟨hclean.located, hroutes⟩

theorem Request.Ordinary.leavesSession {request : Request}
    (hordinary : request.Ordinary) :
    request.changesAccount = false ∧ request.changesSession = false := by
  cases request <;> first | exact hordinary.elim | exact ⟨rfl, rfl⟩

theorem noComplement_of_outcome {request : Request}
    (hordinary : request.Ordinary) {device next : Device}
    (hdevice : device.NoComplement)
    {answer : Except DartError request.Answer}
    (houtcome : request.Outcome device answer next) :
    next.NoComplement := by
  cases hchanges : request.changesRoutes with
  | false =>
      unfold Device.NoComplement
      rw [houtcome.routes_eq hchanges]
      exact hdevice
  | true =>
      cases request with
      | navigate navigation =>
          obtain ⟨-, rfl⟩ := houtcome
          exact Navigation.noComplement_apply hordinary.2.2 hdevice
      | setLoad load =>
          obtain ⟨-, rfl⟩ := houtcome
          exact noComplement_setTopLoad hdevice load
      | _ => cases hchanges

theorem cleanAs_of_outcome
    {account : Option Segment} {request : Request}
    (hordinary : request.Ordinary) {device next : Device}
    (hdevice : device.CleanAs account)
    {answer : Except DartError request.Answer}
    (houtcome : request.Outcome device answer next) :
    next.CleanAs account := by
  obtain ⟨⟨hlocated, hnoComplement⟩, hsigned⟩ := hdevice
  have hleaves := hordinary.leavesSession
  refine ⟨⟨?_, noComplement_of_outcome hordinary hnoComplement houtcome⟩,
    ?_⟩
  · intro worker hworker
    rw [houtcome.currentUser_eq hleaves.2] at hworker
    exact hlocated worker hworker
  · rw [houtcome.signedIn_eq hleaves.1]
    exact hsigned

/-! ## Handlers that leave the session alone -/

namespace SessionPolicy

section Handlers

variable (policy : SessionPolicy) (action : Action)

abbrev KeepsAs (account : Option Segment) (result : α → Prop)
    (program : App α) : Prop :=
  Async.Keeps (policy.rely action) policy.guar (Device.CleanAs account)
    result program

abbrev KeepsClean (program : App α) : Prop :=
  Async.Keeps (policy.rely action) policy.guar Device.Clean
    (fun _ => True) program

variable {policy action} {account : Option Segment}

theorem keeps_ordinary (request : Request)
    (hordinary : request.Ordinary) :
    policy.KeepsAs action account (fun _ => True)
      (Async.request request) := by
  apply Async.keeps_request
  · intro device _
    exact policy.ordinary hordinary
  · intro device answer next hdevice hrely
    refine ⟨cleanAs_of_outcome hordinary hdevice hrely.1, ?_⟩
    intro value _
    trivial

theorem keeps_of_onlyReads {program : App α}
    (hreads : App.OnlyReads program) :
    policy.KeepsAs action account (fun _ => True) program := by
  apply hreads.keeps
  intro request hrequest
  apply keeps_ordinary
  cases hrequest <;> trivial

theorem keepsClean_of_keepsAs {program : App α}
    (hprogram : ∀ account,
      policy.KeepsAs action account (fun _ => True) program) :
    policy.KeepsClean action program := by
  intro device hclean
  apply (hprogram device.signedIn device ⟨hclean, rfl⟩).mono
  intro answer next hnext
  exact ⟨hnext.1.clean, hnext.2⟩

theorem keepsClean_ordinary (request : Request)
    (hordinary : request.Ordinary) :
    policy.KeepsClean action (Async.request request : App _) :=
  keepsClean_of_keepsAs (fun _ => keeps_ordinary request hordinary)

theorem keepsClean_of_onlyReads {program : App α}
    (hreads : App.OnlyReads program) :
    policy.KeepsClean action program :=
  keepsClean_of_keepsAs (fun _ => keeps_of_onlyReads hreads)

theorem keeps_currentUid :
    policy.KeepsAs action account
      (fun value => ∃ uid : Segment, account = some uid ∧ value = uid.val)
      currentUid := by
  have hrequest : policy.KeepsAs action account
      (fun user => user = account) FirebaseAuth.currentUser := by
    apply Async.keeps_request
    · intro device _
      exact policy.ordinary trivial
    · intro device answer next hdevice hrely
      have hordinary : Request.currentUser.Ordinary := trivial
      refine ⟨cleanAs_of_outcome hordinary hdevice hrely.1, ?_⟩
      intro user heq
      subst answer
      rw [hrely.1.1, hdevice.signedIn]
  apply hrequest.bind
  intro user huser
  rw [huser]
  cases account with
  | none =>
      have hnull : policy.KeepsAs action none (fun _ => False)
          (Async.ofExcept (nonNull (none : Option Segment))) := by
        apply Async.keeps_ofExcept
        intro value heq
        cases heq
      apply hnull.bind
      intro value hfalse
      exact hfalse.elim
  | some uid => exact Async.keeps_done ⟨uid, rfl, rfl⟩

theorem keeps_remove_own {uid : Segment} {path : String}
    (hpath : UnderUser uid path) :
    policy.KeepsAs action (some uid) (fun _ => True)
      (FirebaseDatabase.remove path) := by
  apply Async.keeps_request
  · intro device hdevice
    exact policy.ownRemove hdevice.signedIn hpath
  · intro device answer next hdevice hrely
    obtain rfl : next = device := hrely.1
    exact ⟨hdevice, fun _ _ => trivial⟩

theorem keeps_sendData_own {uid : Segment} {path : String}
    (hpath : UnderUser uid path) (data : Json) :
    policy.KeepsAs action (some uid) (fun _ => True)
      (sendData data path) := by
  apply keeps_sendData
  apply Async.keeps_request
  · intro device hdevice
    exact policy.ownSet data hdevice.signedIn hpath
  · intro device answer next hdevice hrely
    obtain rfl : next = device := hrely.1
    exact ⟨hdevice, fun _ _ => trivial⟩

theorem underUser_dataPath (uid : Segment) :
    UnderUser uid (dataPath uid.val) :=
  ⟨["data"], pieces_dataPath_user uid.property⟩

theorem underUser_photoPath (uid : Segment) (key : String) :
    UnderUser uid (photoPath uid.val key) :=
  ⟨"photos" :: pieces key, pieces_photoPath_user uid.property key⟩

theorem keeps_addPicture (description : String) (file : File) :
    policy.KeepsAs action account (fun _ => True)
      (PhotosController.addPicture description file) := by
  unfold PhotosController.addPicture
  apply Async.Keeps.tryCatch
  · apply keeps_currentUid.bind
    rintro uidUser ⟨uid, rfl, rfl⟩
    apply (keeps_ordinary .pushKey trivial).bind
    intro uidPhoto _
    have hupload : policy.KeepsAs action (some uid) (fun _ => True)
        (PhotosController.uploadImage file uid.val uidPhoto.val) := by
      apply (keeps_ordinary (.putFile _ file) trivial).bind
      intro _ _
      exact keeps_ordinary (.getDownloadURL _) trivial
    apply hupload.bind
    intro url _
    exact keeps_sendData_own (underUser_photoPath uid _) _
  · intro error
    exact Async.keeps_done trivial

theorem keeps_deletePicture (uidPhoto : String) :
    policy.KeepsAs action account (fun _ => True)
      (PhotosController.deletePicture uidPhoto) := by
  unfold PhotosController.deletePicture
  apply keeps_currentUid.bind
  rintro uidUser ⟨uid, rfl, rfl⟩
  apply (keeps_ordinary (.delete _) trivial).bind
  intro _ _
  apply (keeps_remove_own (underUser_photoPath uid uidPhoto)).bind
  intro _ _
  exact Async.keeps_done trivial

theorem keeps_loadPictures :
    policy.KeepsAs action account (fun _ => True)
      PhotosController.loadPictures :=
  keeps_of_onlyReads PhotosController.onlyReads_loadPictures

theorem keeps_updatePhotosList :
    policy.KeepsAs action account (fun _ => True)
      PhotosWorker.updatePhotosList := by
  apply (keeps_ordinary (.setLoad false) trivial).bind
  intro _ _
  exact keeps_loadPictures.ignore

theorem keeps_photosWorker_delete (uidImage : String) :
    policy.KeepsAs action account (fun _ => True)
      (PhotosWorker.delete uidImage) := by
  apply (keeps_ordinary (.setLoad true) trivial).bind
  intro _ _
  apply (keeps_deletePicture uidImage).bind
  intro _ _
  exact keeps_updatePhotosList

theorem keeps_addPhoto_send (description : String) (image : Option File) :
    policy.KeepsAs action account (fun _ => True)
      (AddPhoto.send description image) := by
  cases image with
  | none => exact Async.keeps_done trivial
  | some file =>
      apply (keeps_ordinary (.setLoad true) trivial).bind
      intro _ _
      apply (keeps_addPicture description file).bind
      intro complete _
      cases complete with
      | false => exact Async.keeps_done trivial
      | true =>
          apply (keeps_ordinary (.navigate .pop)
            (by simp [Request.Ordinary, Navigation.shows])).bind
          intro _ _
          exact keeps_updatePhotosList

theorem keepsClean_navigate (navigation : Navigation)
    (hordinary : (Request.navigate navigation).Ordinary) :
    policy.KeepsClean action (Navigator.navigate navigation) :=
  keepsClean_ordinary (.navigate navigation) hordinary

theorem keepsClean_signIn (email password : String) :
    policy.KeepsClean action
      (FirebaseAuth.signInWithEmailAndPassword email password) := by
  apply Async.keeps_request
  · intro device _
    exact (policy.account device email password).2.1
  · intro device answer next hclean hrely
    refine ⟨?_, fun _ _ => trivial⟩
    cases answer with
    | ok value =>
        obtain ⟨uid, rfl⟩ := hrely.1
        exact ⟨hclean.located, hclean.noComplement⟩
    | error error =>
        obtain rfl : next = device := hrely.1
        exact hclean

theorem keepsClean_signOut :
    policy.KeepsClean action FirebaseAuth.signOut := by
  apply Async.keeps_request
  · intro device _
    exact (policy.account device "" "").2.2
  · intro device answer next hclean hrely
    refine ⟨?_, fun _ _ => trivial⟩
    cases answer with
    | ok value =>
        obtain rfl : next = { device with signedIn := none } := hrely.1
        exact ⟨hclean.located, hclean.noComplement⟩
    | error error =>
        obtain rfl : next = device := hrely.1
        exact hclean

theorem keepsClean_homeCheck : policy.KeepsClean action Home.check := by
  apply Async.Keeps.bind
    (keepsClean_of_onlyReads LoginController.onlyReads_checkUserLogged)
  intro signedIn _
  cases signedIn with
  | false => exact Async.keeps_done trivial
  | true =>
      exact keepsClean_navigate _
        (by simp [Request.Ordinary, Navigation.shows])

theorem keepsClean_launch : policy.KeepsClean action launch := by
  apply (keepsClean_navigate (.push .home)
    (by simp [Request.Ordinary, Navigation.shows])).bind
  intro _ _
  exact keepsClean_homeCheck

theorem keepsClean_login (email password : String) :
    policy.KeepsClean action (Login.login email password) := by
  have hlogin : policy.KeepsClean action
      (LoginController.login email password) := by
    apply Async.Keeps.tryCatch
    · apply (keepsClean_signIn email password).bind
      intro _ _
      exact Async.keeps_done trivial
    · intro error
      exact Async.keeps_done trivial
  apply (keepsClean_ordinary (.setLoad true) trivial).bind
  intro _ _
  apply hlogin.bind
  intro result _
  cases result with
  | false =>
      apply (keepsClean_ordinary (.setLoad false) trivial).bind
      intro _ _
      exact keepsClean_ordinary (.showSnackBar _) trivial
  | true =>
      apply (keepsClean_ordinary (.setLoad false) trivial).bind
      intro _ _
      exact keepsClean_navigate _
        (by simp [Request.Ordinary, Navigation.shows])

theorem keepsClean_logOut : policy.KeepsClean action MenuConfig.logOut := by
  apply keepsClean_signOut.bind
  intro _ _
  apply (keepsClean_navigate (.pushAndRemoveUntil .home)
    (by simp [Request.Ordinary, Navigation.shows])).bind
  intro _ _
  exact keepsClean_homeCheck

/-! ## Single requests on a known device -/

section Requests

variable {device : Device}

theorem refinesOutcome_rely : RefinesOutcome (policy.rely action) :=
  fun _ _ _ _ hrely => hrely.1

variable {post : Except DartError Unit → Device → Prop}

theorem safe_setCurrentUser {user : AnyUser}
    (hpost : post (.ok ()) { device with currentUser := some user }) :
    Async.Safe (policy.rely action) policy.guar post
      (LoginController.setCurrentUser user) device :=
  App.safe_setSession refinesOutcome_rely (policy.session device user) hpost

theorem safe_navigate {navigation : Navigation}
    (hguar : policy.guar device (.navigate navigation))
    (hpost : post (.ok ())
      { device with routes := navigation.apply device.routes }) :
    Async.Safe (policy.rely action) policy.guar post
      (Navigator.navigate navigation) device :=
  App.safe_navigate refinesOutcome_rely hguar hpost

theorem safe_setLoad {load : Bool}
    (hpost : post (.ok ())
      { device with routes := setTopLoad load device.routes }) :
    Async.Safe (policy.rely action) policy.guar post
      (setLoad load) device :=
  App.safe_setLoad refinesOutcome_rely (policy.ordinary trivial) hpost

theorem safe_showSnackBar {text : String}
    (hpost : post (.ok ())
      { device with snackBars := device.snackBars ++ [text] }) :
    Async.Safe (policy.rely action) policy.guar post
      (showSnackBar text) device :=
  App.safe_showSnackBar refinesOutcome_rely (policy.ordinary trivial) hpost

end Requests

/-! ## Registration -/

theorem clean_of_signsUp {request : Request}
    (hrequest : SimpleRegisterController.SignsUp request)
    {device next : Device} (hclean : device.Clean)
    {answer : Except DartError request.Answer}
    (houtcome : request.Outcome device answer next) : next.Clean := by
  have hordinary : request.Ordinary → next.Clean := by
    intro hordinary
    exact (cleanAs_of_outcome hordinary ⟨hclean, rfl⟩ houtcome).clean
  cases hrequest with
  | createUser email password =>
      cases answer with
      | ok uid =>
          obtain rfl : next = { device with signedIn := some uid } :=
            houtcome
          exact ⟨hclean.located, hclean.noComplement⟩
      | error error =>
          obtain rfl : next = device := houtcome
          exact hclean
  | putFile path file => exact hordinary trivial
  | getDownloadURL path => exact hordinary trivial

/-- A registration answered with `true` has signed its account in. -/
theorem safe_registerUser (email password : String)
    (picture : Option File) {device : Device} (hclean : device.Clean) :
    Async.Safe (policy.rely action) policy.guar
      (fun answer next =>
        (∀ user, answer = .ok user → user.result = true →
          ∃ uid : Segment, next.signedIn = some uid ∧ user.uid = uid.val) ∧
        next.Clean)
      (SimpleRegisterController.registerUser email password picture)
      device := by
  refine Async.Safe.keeping ?_ ?_
    (SimpleRegisterController.registerUser_signsIn refinesOutcome_rely
      email password picture device) hclean
  · intro device request _ hrequest
    cases hrequest with
    | createUser email password =>
        exact (policy.account device email password).1
    | putFile path file => exact policy.ordinary trivial
    | getDownloadURL path => exact policy.ordinary trivial
  · intro device request answer next hdevice hrequest hrely
    exact clean_of_signsUp hrequest hdevice hrely.1

theorem safe_registerClient
    (name email country city state : String) (birth : DateTime)
    (imageUrl : String) {uid : Segment} {device : Device}
    (hdevice : device.CleanAs (some uid)) :
    Async.Safe (policy.rely action) policy.guar
      (fun answer next =>
        next.Clean ∧ ∀ profile, answer = .ok profile →
          profile.result = true →
            ∃ client, next.currentUser = some (.client client))
      (SimpleRegisterController.registerClient name email country city state
        birth uid.val imageUrl)
      device := by
  have hsend : policy.KeepsAs action (some uid) (fun _ => True)
      (SimpleRegisterController.sendUser
        (.client
          (SimpleRegisterController.newClient name email country city state
            birth uid.val imageUrl))) := by
    unfold SimpleRegisterController.sendUser
    apply (Async.keeps_ofExcept_any _).bind
    intro data _
    exact keeps_sendData_own (underUser_dataPath uid) data
  unfold SimpleRegisterController.registerClient
  rw [Async.safe_tryCatch]
  apply (hsend device hdevice).then
  · rintro sent next ⟨hnext, -⟩
    rw [Async.safe_bind]
    apply safe_setCurrentUser
    refine ⟨⟨?_, hnext.clean.noComplement⟩, ?_⟩
    · intro worker heq
      cases heq
    · intro profile heq _
      exact ⟨_, rfl⟩
  · rintro error next ⟨hnext, -⟩
    refine ⟨hnext.clean, ?_⟩
    intro profile heq hresult
    cases heq
    cases hresult

theorem safe_registerWorker
    (name email country city state : String) (birth : DateTime)
    (imageUrl : String) {uid : Segment} {device : Device}
    (hdevice : device.CleanAs (some uid)) :
    Async.Safe (policy.rely action) policy.guar
      (fun answer next =>
        next.Clean ∧ ∀ profile, answer = .ok profile →
          profile.result = true → policy.good next)
      (SimpleRegisterController.registerWorker name email country city state
        birth uid.val imageUrl)
      device := by
  unfold SimpleRegisterController.registerWorker
  rw [Async.safe_tryCatch, Async.safe_bind]
  apply safe_setCurrentUser
  refine ⟨⟨?_, hdevice.clean.noComplement⟩, ?_⟩
  · intro worker heq
    cases heq
    simp [SimpleRegisterController.newWorker]
  · intro profile _ _
    exact policy.good_registered hdevice.signedIn rfl rfl
      (by simp [SimpleRegisterController.newWorker])

/-- What a successful registration has left for the screen shown next. -/
def registeredFor (policy : SessionPolicy) (typeUser : TypeUser)
    (device : Device) : Prop :=
  match typeUser with
  | .cliente => ∃ client, device.currentUser = some (.client client)
  | .trabalhador => policy.good device

theorem safe_profileResult {program : App
      SimpleRegisterController.ProfileResult}
    {ready : Device → Prop} {device : Device}
    (hprogram : Async.Safe (policy.rely action) policy.guar
      (fun answer next =>
        next.Clean ∧ ∀ profile, answer = .ok profile →
          profile.result = true → ready next)
      program device) :
    Async.Safe (policy.rely action) policy.guar
      (fun answer next =>
        next.Clean ∧ (answer = .ok true → ready next))
      (program >>= fun profile => pure profile.result) device := by
  apply hprogram.then
  · intro profile next hnext
    refine ⟨hnext.1, ?_⟩
    intro heq
    exact hnext.2 profile rfl (Except.ok.inj heq)
  · intro error next hnext
    refine ⟨hnext.1, ?_⟩
    intro heq
    cases heq

theorem safe_registerAccount (typeUser : TypeUser) (form : RegisterForm)
    (date : DateTime) {device : Device} (hclean : device.Clean) :
    Async.Safe (policy.rely action) policy.guar
      (fun answer next =>
        next.Clean ∧ (answer = .ok true →
          policy.registeredFor typeUser next))
      (SimpleRegister.registerAccount typeUser form date) device := by
  unfold SimpleRegister.registerAccount
  apply (safe_registerUser form.email form.password form.image
    hclean).then
  · rintro user next ⟨huser, hnext⟩
    cases hresult : user.result with
    | false =>
        refine ⟨hnext, ?_⟩
        intro heq
        cases heq
    | true =>
        obtain ⟨uid, hsigned, huid⟩ := huser user rfl hresult
        simp only [if_true, huid]
        cases typeUser with
        | cliente =>
            exact safe_profileResult
              (safe_registerClient form.name form.email
                form.selectedCountry form.selectedCity form.selectedState
                date user.imageUrl ⟨hnext, hsigned⟩)
        | trabalhador =>
            exact safe_profileResult
              (safe_registerWorker form.name form.email
                form.selectedCountry form.selectedCity form.selectedState
                date user.imageUrl ⟨hnext, hsigned⟩)
  · rintro error next ⟨-, hnext⟩
    refine ⟨hnext, ?_⟩
    intro heq
    cases heq

theorem idle_push_complement {device : Device} (hclean : device.Clean)
    (hgood : policy.good device) :
    policy.Idle
      { device with
        routes := (Navigation.push .workerComplement).apply
          device.routes } := by
  refine ⟨hclean.located, hclean.noComplement, ?_⟩
  intro _ _ _ _
  exact policy.good_congr device _ rfl rfl hgood

theorem safe_agree (typeUser : TypeUser) (form : RegisterForm)
    (date : DateTime) {device : Device} (hclean : device.Clean) :
    Async.Safe (policy.rely action) policy.guar (fun _ => policy.Idle)
      (SimpleRegister.agree typeUser form date) device := by
  unfold SimpleRegister.agree
  rw [Async.safe_bind]
  apply safe_setLoad
  apply (safe_registerAccount typeUser form date
    (hclean.withRoutes
      (noComplement_setTopLoad hclean.noComplement true))).then
  · rintro result next ⟨hnext, hregistered⟩
    cases result with
    | false =>
        apply safe_showSnackBar
        exact policy.idle_of_clean ⟨hnext.located, hnext.noComplement⟩
    | true =>
        have hready := hregistered rfl
        cases typeUser with
        | cliente =>
            obtain ⟨client, hclient⟩ := hready
            apply safe_navigate (policy.toClient hclient)
            apply policy.idle_of_clean
            exact hnext.withRoutes
              (Navigation.noComplement_apply (by simp [Navigation.shows])
                hnext.noComplement)
        | trabalhador =>
            apply safe_navigate (policy.toComplement next).1
            exact idle_push_complement hnext hready
  · intro error next hnext
    exact policy.idle_of_clean hnext.1

theorem safe_of_keepsClean {program : App Unit} {device : Device}
    (hkeeps : policy.KeepsClean action program) (hclean : device.Clean) :
    Async.Safe (policy.rely action) policy.guar (fun _ => policy.Idle)
      program device := by
  apply (hkeeps device hclean).mono
  intro answer next hnext
  exact policy.idle_of_clean hnext.1

/-- From a clean device the program leaves an idle one. -/
abbrev LeavesIdle (policy : SessionPolicy) (action : Action)
    (program : App Unit) : Prop :=
  ∀ device, device.Clean →
    Async.Safe (policy.rely action) policy.guar (fun _ => policy.Idle)
      program device

theorem leavesIdle_btnRegisterClicked (typeUser : TypeUser)
    (form : RegisterForm) (agrees : Option Selection) :
    policy.LeavesIdle action
      (SimpleRegister.btnRegisterClicked typeUser form agrees) := by
  refine SimpleRegister.btnRegisterClicked_rule
    (motive := policy.LeavesIdle action) ?_ ?_ ?_ ?_
  · intro text device hclean
    exact safe_of_keepsClean
      (keepsClean_ordinary (.showSnackBar text) trivial) hclean
  · intro device hclean
    exact policy.idle_of_clean hclean
  · intro date next hnext device hclean
    have hage : policy.KeepsClean action
        (SimpleRegister.ageRefused date) :=
      keepsClean_of_onlyReads (SimpleRegister.onlyReads_ageRefused date)
    apply (hage device hclean).then
    · intro refused after hafter
      exact hnext refused after hafter.1
    · intro error after hafter
      exact policy.idle_of_clean hafter.1
  · intro held date device hclean
    exact safe_agree typeUser (form.holding held) date hclean

/-! ## Role choices -/

theorem Clean.withUser {device : Device} (hclean : device.Clean)
    {user : AnyUser}
    (huser : ∀ worker, user = .worker worker → worker.location ≠ none) :
    Device.Clean { device with currentUser := some user } := by
  refine ⟨?_, hclean.noComplement⟩
  intro worker heq
  exact huser worker (Option.some.inj heq)

theorem safe_userChoice_client {device : Device} (hclean : device.Clean) :
    Async.Safe (policy.rely action) policy.guar (fun _ => policy.Idle)
      UserChoice.client device := by
  have hidle : ∀ {result : Prop} (next : Device),
      next.Clean ∧ result → policy.Idle next := by
    intro result next hnext
    exact policy.idle_of_clean hnext.1
  unfold UserChoice.client
  rw [clientChoice_eq]
  apply (keepsClean_ordinary (.setLoad true) trivial device hclean).then
    _ (fun _ => hidle)
  intro _ device₁ h₁
  apply (keepsClean_ordinary .currentUser trivial device₁ h₁.1).then
    _ (fun _ => hidle)
  intro user device₂ h₂
  apply (Async.keeps_ofExcept_any _ device₂ h₂.1).then _ (fun _ => hidle)
  intro uid device₃ h₃
  apply (keepsClean_ordinary (.once _) trivial device₃ h₃.1).then
    _ (fun _ => hidle)
  intro data device₄ h₄
  apply (Async.keeps_ofExcept_any _ device₄ h₄.1).then _ (fun _ => hidle)
  intro client next hnext
  rw [Async.safe_bind]
  apply safe_setCurrentUser
  apply safe_navigate (policy.toClient rfl)
  apply policy.idle_of_clean
  have hclient : Device.Clean
      { next with currentUser := some (.client client) } := by
    apply Clean.withUser hnext.1
    intro worker heq
    cases heq
  exact hclient.withRoutes
    (Navigation.noComplement_apply (by simp [Navigation.shows])
      hclient.noComplement)

theorem safe_workerFound {worker : Worker}
    (hlocation : worker.location ≠ none) {device : Device}
    (hclean : device.Clean) :
    Async.Safe (policy.rely action) policy.guar
      (fun answer next => answer = .ok () ∧ policy.Idle next)
      (do
        LoginController.setCurrentUser (.worker worker)
        Navigator.navigate (.pushAndRemoveUntil .mainWorker)) device := by
  have hworker : Device.Clean
      { device with currentUser := some (.worker worker) } := by
    apply Clean.withUser hclean
    intro other heq
    cases heq
    exact hlocation
  rw [Async.safe_bind]
  apply safe_setCurrentUser
  apply safe_navigate (policy.toWorker rfl hlocation)
  refine ⟨rfl, policy.idle_of_clean ?_⟩
  exact hworker.withRoutes
    (Navigation.noComplement_apply (by simp [Navigation.shows])
      hworker.noComplement)

theorem safe_workerMissing {device : Device} (hclean : device.Clean)
    (hchoice : policy.choice device) :
    Async.Safe (policy.rely action) policy.guar (fun _ => policy.Idle)
      (Navigator.navigate (.pushAndRemoveUntil .workerComplement))
      device := by
  apply safe_navigate (policy.toComplement device).2
  refine ⟨hclean.located, ?_, ?_⟩
  · intro route hmem
    cases hmem
  · intro _ _ _ _
    exact policy.good_congr device _ rfl rfl
      (policy.good_of_choice hclean.located hchoice)

theorem safe_userChoice_worker {device : Device} (hclean : device.Clean) :
    Async.Safe (policy.rely .workerChoice) policy.guar
      (fun _ => policy.Idle) UserChoice.worker device := by
  have hidle : ∀ {result : Prop} (next : Device),
      next.Clean ∧ result → policy.Idle next := by
    intro result next hnext
    exact policy.idle_of_clean hnext.1
  unfold UserChoice.worker
  rw [workerChoice_eq]
  apply (keepsClean_ordinary (.setLoad true) trivial device hclean).then
    _ (fun _ => hidle)
  intro _ device₁ h₁
  apply (keepsClean_ordinary .currentUser trivial device₁ h₁.1).then
    _ (fun _ => hidle)
  intro user device₂ h₂
  apply (Async.keeps_ofExcept_any _ device₂ h₂.1).then _ (fun _ => hidle)
  intro uid device₃ h₃
  rw [Async.safe_bind]
  apply (Async.safe_request _ _ _).mpr
  refine ⟨policy.ordinary trivial, ?_⟩
  rintro answer next ⟨houtcome, hchoice⟩
  obtain rfl : next = device₃ := houtcome
  cases answer with
  | error error => exact policy.idle_of_clean h₃.1
  | ok data =>
      cases hworker : decodedWorker data with
      | error error =>
          have hmissing : ¬ DecodesAsWorker data := by
            rintro ⟨worker, hdecoded⟩
            change decodedWorker data = .ok worker at hdecoded
            rw [hworker] at hdecoded
            cases hdecoded
          simp only [Async.Then, hworker]
          exact safe_workerMissing h₃.1 (hchoice hmissing)
      | ok worker =>
          obtain ⟨snapshot, -, hdecoded⟩ := except_bind_ok hworker
          have hlocation := Worker.location_of_fromDB hdecoded
          simp only [Async.Then, hworker, Async.safe_tryCatch]
          apply (safe_workerFound hlocation h₃.1).mono
          rintro answer last ⟨rfl, hlast⟩
          exact hlast

/-! ## Profile completion -/

/-- A device that shows the completion form. -/
structure Completing (policy : SessionPolicy) (device : Device) : Prop where
  located : device.SessionLocated
  below : ∀ route ∈ device.routes.tail, route.screen ≠ .workerComplement
  good : policy.good device

theorem Completing.idle {device : Device}
    (hdevice : policy.Completing device) : policy.Idle device :=
  ⟨hdevice.located, hdevice.below, fun _ _ _ _ => hdevice.good⟩

theorem Completing.congr {device next : Device}
    (hdevice : policy.Completing device)
    (hsigned : next.signedIn = device.signedIn)
    (huser : next.currentUser = device.currentUser)
    (hroutes : next.routes.tail = device.routes.tail) :
    policy.Completing next := by
  refine ⟨?_, ?_, policy.good_congr device next hsigned huser hdevice.good⟩
  · intro worker heq
    rw [huser] at heq
    exact hdevice.located worker heq
  · rw [hroutes]
    exact hdevice.below

theorem tail_setTopLoad (load : Bool) (routes : List Route) :
    (setTopLoad load routes).tail = routes.tail := by
  cases routes <;> rfl

structure CompletingAs (policy : SessionPolicy) (worker : Worker)
    (device : Device) : Prop where
  completing : policy.Completing device
  session : device.currentUser = some (.worker worker)

theorem keeps_sendData_completing {worker : Worker} {path : String}
    (data : Json)
    (hguar : ∀ device, policy.CompletingAs worker device →
      policy.guar device (.set path data)) :
    Async.Keeps (policy.rely action) policy.guar
      (policy.CompletingAs worker) (fun _ => True)
      (sendData data path) := by
  apply keeps_sendData
  apply Async.keeps_request hguar
  intro device answer next hdevice hrely
  obtain rfl : next = device := hrely.1
  exact ⟨hdevice, fun _ _ => trivial⟩

/-- Both writes of a completion are made in the name of the session's
worker. -/
theorem keeps_completionWrites {worker : Worker} (location : Location)
    (area : ℤ) :
    Async.Keeps (policy.rely action) policy.guar
      (policy.CompletingAs worker) (fun _ => True)
      (do
        let profile ← Async.ofExcept worker.toJson
        let data ← sendData profile (dataPath (interpolate worker.uid))
        let time ← DateTime.now
        let reference ←
          sendData (.obj [("time", .str time.toString)])
            (WorkerComplementController.workerDirectoryPath worker location
              area)
        return data && reference) := by
  apply (Async.keeps_ofExcept_any _).bind
  intro profile _
  have hdata : Async.Keeps (policy.rely action) policy.guar
      (policy.CompletingAs worker) (fun _ => True)
      (sendData profile (dataPath (interpolate worker.uid))) := by
    apply keeps_sendData_completing
    intro device hdevice
    exact policy.completedSet profile hdevice.completing.good
      hdevice.session
  apply hdata.bind
  intro data _
  have hnow : Async.Keeps (policy.rely action) policy.guar
      (policy.CompletingAs worker) (fun _ => True) DateTime.now := by
    apply Async.keeps_request
    · intro device _
      exact policy.ordinary trivial
    · intro device answer next hdevice hrely
      obtain rfl : next = device := hrely.1
      exact ⟨hdevice, fun _ _ => trivial⟩
  apply hnow.bind
  intro time _
  have hentry : Async.Keeps (policy.rely action) policy.guar
      (policy.CompletingAs worker) (fun _ => True)
      (sendData (.obj [("time", .str time.toString)])
        (WorkerComplementController.workerDirectoryPath worker location
          area)) := by
    apply keeps_sendData_completing
    intro device hdevice
    exact policy.completedEntry _ _ _ _ _ hdevice.completing.good
      hdevice.session
  apply hentry.bind
  intro reference _
  exact Async.keeps_done trivial

theorem safe_registerCompleteWorker (form : Complement) {worker : Worker}
    {device : Device} (hdevice : policy.CompletingAs worker device) :
    Async.Safe (policy.rely action) policy.guar
      (fun answer next =>
        policy.Completing next ∧ (answer = .ok true →
          ∃ worker, next.currentUser = some (.worker worker) ∧
            worker.location ≠ none))
      (WorkerComplementController.registerCompleteWorker (some worker) form)
      device := by
  unfold WorkerComplementController.registerCompleteWorker
  cases hlocation : worker.location with
  | none =>
      simp only [nonNull, Async.ofExcept, Async.done_bind, hlocation,
        Async.raise_bind, Async.safe_raise]
      refine ⟨hdevice.completing, ?_⟩
      intro heq
      cases heq
  | some location =>
      simp only [nonNull, Async.ofExcept, Async.done_bind, hlocation]
      have hcompleted :
          (WorkerComplementController.complete worker location
            form).location ≠ none := by
        simp [WorkerComplementController.complete]
      rw [Async.safe_bind]
      apply safe_setCurrentUser
      have hnext : policy.CompletingAs
          (WorkerComplementController.complete worker location form)
          { device with
            currentUser := some (.worker
              (WorkerComplementController.complete worker location
                form)) } := by
        refine ⟨⟨?_, hdevice.completing.below, ?_⟩, rfl⟩
        · intro other heq
          cases heq
          exact hcompleted
        · exact policy.good_completed hdevice.completing.good
            hdevice.session rfl hcompleted
      apply (keeps_completionWrites location form.category.uid _
        hnext).mono
      rintro answer last ⟨hlast, -⟩
      refine ⟨hlast.completing, ?_⟩
      intro _
      exact ⟨_, hlast.session, hcompleted⟩

theorem safe_submit (form : Complement) {device : Device}
    (hdevice : policy.Completing device) :
    Async.Safe (policy.rely action) policy.guar (fun _ => policy.Idle)
      (WorkerComplement.submit form) device := by
  unfold WorkerComplement.submit LoginController.getCurrentWorker
  rw [Async.safe_bind]
  apply safe_setLoad
  have hloading : policy.Completing
      { device with routes := setTopLoad true device.routes } :=
    hdevice.congr rfl rfl (tail_setTopLoad true device.routes)
  generalize { device with routes := setTopLoad true device.routes } =
    loading at hloading
  change Async.Safe _ _ _ (_ >>= _) _
  rw [Async.safe_bind, Async.safe_bind]
  apply (Async.safe_request _ _ _).mpr
  refine ⟨policy.submit hloading.good, ?_⟩
  rintro answer next ⟨⟨rfl, rfl⟩, -⟩
  cases huser : next.currentUser with
  | none => exact hloading.idle
  | some user =>
      cases user with
      | client profile => exact hloading.idle
      | worker profile =>
          apply (safe_registerCompleteWorker form
            ⟨hloading, huser⟩).then
          · rintro result last ⟨hlast, hresult⟩
            cases result with
            | false =>
                apply safe_showSnackBar
                apply Completing.idle
                exact hlast.congr rfl rfl rfl
            | true =>
                obtain ⟨worker, hworker, hlocation⟩ := hresult rfl
                apply safe_navigate (policy.toWorker hworker hlocation)
                apply policy.idle_of_clean
                refine ⟨hlast.located, ?_⟩
                intro route hmem
                rcases List.mem_singleton.mp hmem with rfl
                simp
          · intro error last hlast
            exact hlast.1.idle

theorem safe_finishComplement (form : Complement) {device : Device}
    (hdevice : policy.Completing device) :
    Async.Safe (policy.rely action) policy.guar (fun _ => policy.Idle)
      (WorkerComplement.finishComplement form) device := by
  unfold WorkerComplement.finishComplement
  cases WorkerComplement.refusal form with
  | some text =>
      apply safe_showSnackBar
      apply Completing.idle
      exact hdevice.congr rfl rfl rfl
  | none => exact safe_submit form hdevice

/-! ## Every handler -/

theorem safe_goBack (screen : Screen) {device : Device}
    (hidle : policy.Idle device) :
    Async.Safe (policy.rely action) policy.guar (fun _ => policy.Idle)
      (goBack screen) device := by
  have hclean : Device.Clean
      { device with routes := device.routes.tail } :=
    ⟨hidle.located, hidle.below⟩
  unfold goBack
  rw [Async.safe_bind]
  apply safe_navigate
    (policy.ordinary (by simp [Request.Ordinary, Navigation.shows]))
  change Async.Safe _ _ _ (if screen = .addPhoto then _ else _) _
  split_ifs
  · exact safe_of_keepsClean
      (keepsClean_of_keepsAs (fun _ => keeps_updatePhotosList)) hclean
  · exact policy.idle_of_clean hclean

theorem safe_push {screen : Screen}
    (hordinary : (Request.navigate (.push screen)).Ordinary)
    {device : Device} (hclean : device.Clean) :
    Async.Safe (policy.rely action) policy.guar (fun _ => policy.Idle)
      (Navigator.navigate (.push screen)) device :=
  safe_of_keepsClean (keepsClean_navigate (.push screen) hordinary) hclean

/-- The handlers of every screen but the completion form start on a clean
device. -/
theorem safe_of_handles {screen : Screen} {action : Action}
    {program : App Unit} (hhandles : Handles screen action program)
    (hscreen : screen ≠ .workerComplement) {device : Device}
    (hclean : device.Clean) :
    Async.Safe (policy.rely action) policy.guar (fun _ => policy.Idle)
      program device := by
  cases hhandles with
  | participe =>
      exact safe_push (by simp [Request.Ordinary, Navigation.shows]) hclean
  | login email password =>
      exact safe_of_keepsClean (keepsClean_login email password) hclean
  | cadastrese =>
      exact safe_push (by simp [Request.Ordinary, Navigation.shows]) hclean
  | chooseType typeUser =>
      exact safe_push (by simp [Request.Ordinary, Navigation.shows]) hclean
  | register typeUser form agrees =>
      exact leavesIdle_btnRegisterClicked typeUser form agrees device hclean
  | clientChoice => exact safe_userChoice_client hclean
  | workerChoice => exact safe_userChoice_worker hclean
  | finishComplement form => exact absurd rfl hscreen
  | clientSettings =>
      exact safe_push (by simp [Request.Ordinary, Navigation.shows]) hclean
  | workerSettings =>
      exact safe_push (by simp [Request.Ordinary, Navigation.shows]) hclean
  | changeView =>
      exact safe_push (by simp [Request.Ordinary, Navigation.shows]) hclean
  | logOut => exact safe_of_keepsClean keepsClean_logOut hclean
  | photos =>
      apply safe_of_keepsClean _ hclean
      apply (keepsClean_navigate (.push .photosWorker)
        (by simp [Request.Ordinary, Navigation.shows])).bind
      intro _ _
      exact (keepsClean_of_keepsAs (fun _ => keeps_loadPictures)).ignore
  | deletePhoto uidImage =>
      exact safe_of_keepsClean
        (keepsClean_of_keepsAs (fun _ => keeps_photosWorker_delete uidImage))
        hclean
  | addPhoto =>
      exact safe_push (by simp [Request.Ordinary, Navigation.shows]) hclean
  | sendPhoto description image =>
      exact safe_of_keepsClean
        (keepsClean_of_keepsAs
          (fun _ => keeps_addPhoto_send description image))
        hclean

theorem safe_of_starts {action : Action} {program : App Unit}
    {device : Device} (hidle : policy.Idle device)
    (hstarts : Starts device action program) :
    Async.Safe (policy.rely action) policy.guar (fun _ => policy.Idle)
      program device := by
  cases hstarts with
  | launch hroutes =>
      apply safe_of_keepsClean keepsClean_launch
      refine ⟨hidle.located, ?_⟩
      intro route hmem
      rw [hroutes] at hmem
      cases hmem
  | back hroutes => exact safe_goBack _ hidle
  | @handler top below _ _ hroutes hload hhandles =>
      by_cases hscreen : top.screen = .workerComplement
      · have hcompleting : policy.Completing device :=
          ⟨hidle.located, hidle.below, hidle.top top below hroutes hscreen⟩
        rw [hscreen] at hhandles
        cases hhandles with
        | finishComplement form => exact safe_finishComplement form hcompleting
      · apply safe_of_handles hhandles hscreen
        refine ⟨hidle.located, ?_⟩
        intro route hmem
        rw [hroutes] at hmem
        rcases List.mem_cons.mp hmem with rfl | hmem
        · exact hscreen
        · apply hidle.below
          rw [hroutes]
          exact hmem

end Handlers

/-! ## All runs -/

/-- In every run whose role choices meet the assumption, every request a
device waits for is in order. -/
theorem guar_of_reaches {DeviceId : Type} [DecidableEq DeviceId]
    (policy : SessionPolicy) {config : World DeviceId}
    (hreach : app.Reaches policy.Allowed (World.initial DeviceId) config)
    {device : DeviceId} {action : Action} {request : Request}
    (hpending : config.pending device = some (action, request)) :
    policy.guar (config.locals device) request := by
  have hfresh : ∀ state : Device, policy.Idle state.reset := by
    intro state
    refine ⟨?_, ?_, ?_⟩
    · intro worker heq
      cases heq
    · intro route hmem
      cases hmem
    · intro route below heq
      cases heq
  have hinitial : ∀ device,
      (World.initial DeviceId).AgentInv policy.rely (fun _ => policy.guar)
        (fun _ => policy.Idle) device := by
    intro device
    exact hfresh Device.fresh
  have hinv : ∀ device,
      config.AgentInv policy.rely (fun _ => policy.guar)
        (fun _ => policy.Idle) device := by
    refine Machine.Reaches.agentInv hinitial ?_ ?_ ?_ hreach
    · intro config device action program _ hidle hstart
      exact safe_of_starts hidle (starts_of_startAction hstart)
    · intro config device oracle action request hallowed hpending
      simp only [Allowed, hpending] at hallowed
      exact ⟨Request.exec_outcome request oracle config.shared _, hallowed⟩
    · intro device state _
      exact hfresh state
  exact (hinv device).guarantee hpending

end SessionPolicy

end FoliumApp
