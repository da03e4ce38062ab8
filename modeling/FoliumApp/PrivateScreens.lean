import FoliumApp.ProfileWriters

/-!
# No private screen while signed out

Some screens are meant for a user who is signed in.  They are pushed, put in
place of others and left underneath, so the invariant is about the whole
stack: while it holds a private screen, the auth client has an account.  Most
handlers keep an account once there is one; what is left are the few that run
without, and `logOut`.
-/

namespace FoliumApp

open PathTree AsyncProgram CallSequences

/-! ## Private screens -/

def Screen.isPrivate : Screen → Bool
  | .userChoice => true
  | .mainClient => true
  | .mainWorker => true
  | .workerComplement => true
  | .menuConfig => true
  | .photosWorker => true
  | .addPhoto => true
  | _ => false

def Device.Guarded (device : Device) : Prop :=
  ∀ route ∈ device.routes, route.screen.isPrivate = true →
    device.signedIn ≠ none

/-- A device is guarded at every request, but for the one by which `logOut`
clears the stack after the account is gone. -/
def GuardedAt (action : Action) (device : Device) (request : Request) :
    Prop :=
  device.Guarded ∨
    (action = .logOut ∧ request = .navigate (.pushAndRemoveUntil .home))

def Device.HasAccount (device : Device) : Prop := device.signedIn ≠ none

theorem Device.HasAccount.guarded {device : Device}
    (haccount : device.HasAccount) : device.Guarded :=
  fun _ _ _ => haccount

theorem guarded_of_public {device : Device}
    (hroutes : ∀ route ∈ device.routes, route.screen.isPrivate = false) :
    device.Guarded := by
  intro route hmem hprivate
  rw [hroutes route hmem] at hprivate
  cases hprivate

theorem Device.Guarded.noPrivate {device : Device} (hguarded : device.Guarded)
    (hsigned : device.signedIn = none) :
    ∀ route ∈ device.routes, route.screen.isPrivate = false := by
  intro route hmem
  cases hprivate : route.screen.isPrivate with
  | false => rfl
  | true => exact absurd hsigned (hguarded route hmem hprivate)

theorem Device.Guarded.setTopLoad {device : Device}
    (hguarded : device.Guarded) (load : Bool) :
    Device.Guarded
      { device with routes := FoliumApp.setTopLoad load device.routes } :=
  forall_setTopLoad
    (fun screen => screen.isPrivate = true → device.signedIn ≠ none)
    hguarded load

theorem Device.Guarded.navigate {device : Device}
    (hguarded : device.Guarded) {navigation : Navigation}
    (hshows : ∀ screen, navigation.shows = some screen →
      screen.isPrivate = false) :
    Device.Guarded
      { device with routes := navigation.apply device.routes } := by
  apply Navigation.forall_apply
    (fun screen => screen.isPrivate = true → device.signedIn ≠ none)
    _ hguarded
  intro screen hscreen hprivate
  rw [hshows screen hscreen] at hprivate
  cases hprivate

/-! ## Programs that run with an account -/

section Programs

variable {action : Action}

theorem hasAccount_of_outcome {request : Request} (hmade : request ≠ .signOut)
    {device next : Device} (haccount : device.HasAccount)
    {answer : Except DartError request.Answer}
    (houtcome : request.Outcome device answer next) :
    next.HasAccount := by
  cases hchanges : request.changesAccount with
  | false =>
      unfold Device.HasAccount
      rw [houtcome.signedIn_eq hchanges]
      exact haccount
  | true =>
      cases request with
      | createUserWithEmailAndPassword email password =>
          cases answer with
          | ok uid => rw [houtcome]; simp [Device.HasAccount]
          | error error => rw [houtcome]; exact haccount
      | signInWithEmailAndPassword email password =>
          cases answer with
          | ok value =>
              obtain ⟨uid, rfl⟩ := houtcome
              simp [Device.HasAccount]
          | error error => rw [houtcome]; exact haccount
      | signOut => exact absurd rfl hmade
      | _ => cases hchanges

/-- A handler other than `logOut` keeps the account it starts with. -/
theorem WorksFor.safe_of_hasAccount {result : Unit → Prop}
    {program : App Unit} (hworks : WorksFor action result program)
    (haction : action ≠ .logOut) {device : Device}
    (hnamed : device.SessionNamed) (haccount : device.HasAccount) :
    Async.Safe namedOutcomes (GuardedAt action)
      (fun _ => Device.Guarded) program device := by
  have hkept :
      Async.Safe namedOutcomes (GuardedAt action)
        (fun answer next =>
          (next.SessionNamed ∧ ∀ value, answer = .ok value → result value) ∧
            next.HasAccount)
        program device := by
    refine Async.Safe.keeping ?_ ?_ (hworks device hnamed) haccount
    · intro device request haccount _
      exact Or.inl haccount.guarded
    · intro device request answer next haccount hmade houtcome
      apply hasAccount_of_outcome _ haccount houtcome.1
      intro hsignOut
      subst hsignOut
      exact haction hmade
  apply hkept.mono
  intro answer next hnext
  exact hnext.2.guarded

/-! ## Programs that may start without one -/

theorem refinesOutcome_namedOutcomes : RefinesOutcome namedOutcomes :=
  fun _ _ _ _ hrely => hrely.1

abbrev KeepsAccount (action : Action) (program : App α) : Prop :=
  Async.Keeps namedOutcomes (GuardedAt action) Device.HasAccount
    (fun _ => True) program

theorem keepsAccount_request {request : Request}
    (hrequest : request ≠ .signOut) :
    KeepsAccount action (Async.request request : App _) := by
  apply Async.keeps_request
  · intro device haccount
    exact Or.inl haccount.guarded
  · intro device answer next haccount houtcome
    exact ⟨hasAccount_of_outcome hrequest haccount houtcome.1,
      fun _ _ => trivial⟩

/-- A program that leaves the routes and the account alone. -/
abbrev KeepsGuarded (action : Action) (program : App α) : Prop :=
  Async.Keeps namedOutcomes (GuardedAt action) Device.Guarded
    (fun _ => True) program

theorem keepsGuarded_request {request : Request}
    (haccount : request.changesAccount = false)
    (hroutes : request.changesRoutes = false) :
    KeepsGuarded action (Async.request request : App _) := by
  apply Async.keeps_request
  · intro device hguarded
    exact Or.inl hguarded
  · intro device answer next hguarded houtcome
    refine ⟨?_, fun _ _ => trivial⟩
    unfold Device.Guarded
    rw [houtcome.1.routes_eq hroutes, houtcome.1.signedIn_eq haccount]
    exact hguarded

theorem keepsGuarded_of_onlyReads {program : App α}
    (hreads : App.OnlyReads program) : KeepsGuarded action program := by
  apply hreads.keeps
  intro request hrequest
  cases hrequest <;> exact keepsGuarded_request rfl rfl

theorem keepsGuarded_navigate {navigation : Navigation}
    (hshows : ∀ screen, navigation.shows = some screen →
      screen.isPrivate = false) :
    KeepsGuarded action (Navigator.navigate navigation) := by
  intro device hguarded
  apply App.safe_navigate refinesOutcome_namedOutcomes (Or.inl hguarded)
  exact ⟨hguarded.navigate hshows, fun _ _ => trivial⟩

theorem keepsGuarded_setLoad (load : Bool) :
    KeepsGuarded action (setLoad load) := by
  intro device hguarded
  apply App.safe_setLoad refinesOutcome_namedOutcomes (Or.inl hguarded)
  exact ⟨hguarded.setTopLoad load, fun _ _ => trivial⟩

theorem safe_navigate_of_hasAccount (navigation : Navigation)
    {device : Device} (haccount : device.HasAccount) :
    Async.Safe namedOutcomes (GuardedAt action)
      (fun _ => Device.Guarded) (Navigator.navigate navigation) device := by
  apply App.safe_navigate refinesOutcome_namedOutcomes
    (Or.inl haccount.guarded)
  exact fun _ _ _ => haccount

theorem safe_checkHome {device : Device} (hguarded : device.Guarded) :
    Async.Safe namedOutcomes (GuardedAt action)
      (fun _ => Device.Guarded) Home.check device := by
  unfold Home.check LoginController.checkUserLogged
  rw [Async.safe_bind, Async.safe_bind]
  apply (Async.safe_request _ _ _).mpr
  refine ⟨Or.inl hguarded, ?_⟩
  intro answer next houtcome
  cases answer with
  | error error =>
      have hnext : next = device := houtcome.1
      rw [hnext]
      exact hguarded
  | ok user =>
      obtain ⟨huser, hnext⟩ := houtcome.1
      subst hnext
      cases user with
      | none => exact hguarded
      | some uid =>
          have haccount : next.HasAccount := by
            unfold Device.HasAccount
            rw [← huser]
            simp
          exact safe_navigate_of_hasAccount _ haccount

theorem safe_launch {device : Device} (hguarded : device.Guarded) :
    Async.Safe namedOutcomes (GuardedAt action)
      (fun _ => Device.Guarded) launch device := by
  have hhome : KeepsGuarded action (Navigator.navigate (.push .home)) := by
    apply keepsGuarded_navigate
    intro screen hscreen
    cases hscreen
    rfl
  apply (hhome device hguarded).then
  · intro _ next hnext
    exact safe_checkHome hnext.1
  · intro _ next hnext
    exact hnext.1

/-- A program that reports true only with an account. -/
def SignsIn (action : Action) (program : App Bool) : Prop :=
  ∀ device, device.Guarded →
    Async.Safe namedOutcomes (GuardedAt action)
      (fun answer next =>
        next.Guarded ∧ (answer = .ok true → next.HasAccount))
      program device

theorem signsIn_login (email password : String) :
    SignsIn action (LoginController.login email password) := by
  intro device hguarded
  unfold LoginController.login
  rw [Async.safe_tryCatch, Async.safe_bind]
  apply (Async.safe_request _ _ _).mpr
  refine ⟨Or.inl hguarded, ?_⟩
  intro answer next houtcome
  cases answer with
  | error error =>
      have hnext : next = device := houtcome.1
      rw [hnext]
      refine ⟨hguarded, ?_⟩
      intro hfalse
      cases hfalse
  | ok value =>
      obtain ⟨⟨uid, rfl⟩, -⟩ := houtcome
      have haccount :
          Device.HasAccount { device with signedIn := some uid } := by
        simp [Device.HasAccount]
      exact ⟨haccount.guarded, fun _ => haccount⟩

theorem keepsGuarded_showSnackBar (text : String) :
    KeepsGuarded action (showSnackBar text) :=
  keepsGuarded_request rfl rfl

theorem safe_login (email password : String) {device : Device}
    (hguarded : device.Guarded) :
    Async.Safe namedOutcomes (GuardedAt action)
      (fun _ => Device.Guarded) (Login.login email password) device := by
  apply (keepsGuarded_setLoad true device hguarded).then
  · intro _ loading hloading
    apply (signsIn_login email password loading hloading.1).then
    · rintro result next ⟨hnext, hsigned⟩
      cases result with
      | true =>
          have hload : KeepsAccount action (setLoad false) :=
            keepsAccount_request (by simp)
          apply (hload next (hsigned rfl)).then
          · intro _ last hlast
            exact safe_navigate_of_hasAccount _ hlast.1
          · intro _ last hlast
            exact hlast.1.guarded
      | false =>
          apply (keepsGuarded_setLoad false next hnext).then
          · intro _ last hlast
            apply (keepsGuarded_showSnackBar _ last hlast.1).mono
            intro _ _ hend
            exact hend.1
          · intro _ last hlast
            exact hlast.1
    · intro _ next hnext
      exact hnext.1
  · intro _ loading hloading
    exact hloading.1

/-! ## Registration -/

theorem keepsAccount_sendData (data : Json) (path : String) :
    KeepsAccount action (sendData data path) :=
  keeps_sendData (keepsAccount_request (by simp))

theorem keepsAccount_registerClient (name email country city state : String)
    (birth : DateTime) (uid imageUrl : String) :
    KeepsAccount action
      (SimpleRegisterController.registerClient name email country city state
        birth uid imageUrl) := by
  apply Async.Keeps.tryCatch
  · have hsend (user : AnyUser) :
        KeepsAccount action (SimpleRegisterController.sendUser user) := by
      apply Async.Keeps.bind (Async.keeps_ofExcept_any user.toJson)
      intro data _
      exact keepsAccount_sendData data _
    apply Async.Keeps.bind (hsend _)
    intro _ _
    apply Async.Keeps.bind (keepsAccount_request (by simp))
    intro _ _
    exact Async.keeps_done trivial
  · intro error
    exact Async.keeps_done trivial

theorem keepsAccount_registerWorker (name email country city state : String)
    (birth : DateTime) (uid imageUrl : String) :
    KeepsAccount action
      (SimpleRegisterController.registerWorker name email country city state
        birth uid imageUrl) := by
  apply Async.Keeps.tryCatch
  · apply Async.Keeps.bind (keepsAccount_request (by simp))
    intro _ _
    exact Async.keeps_done trivial
  · intro error
    exact Async.keeps_done trivial

theorem guarded_of_signsUp {request : Request}
    (hrequest : SimpleRegisterController.SignsUp request)
    {device next : Device} (hguarded : device.Guarded)
    {answer : Except DartError request.Answer}
    (houtcome : request.Outcome device answer next) : next.Guarded := by
  cases hrequest with
  | createUser email password =>
      cases answer with
      | ok uid =>
          have haccount : next.HasAccount := by
            rw [houtcome]
            simp [Device.HasAccount]
          exact haccount.guarded
      | error error =>
          have hnext : next = device := houtcome
          rw [hnext]
          exact hguarded
  | putFile path file =>
      have hnext : next = device := houtcome
      rw [hnext]
      exact hguarded
  | getDownloadURL path =>
      have hnext : next = device := houtcome
      rw [hnext]
      exact hguarded

/-- A result that says true was reported with an account. -/
theorem safe_registerUser (email password : String)
    (profilePicture : Option File) {device : Device}
    (hguarded : device.Guarded) :
    Async.Safe namedOutcomes (GuardedAt action)
      (fun answer next =>
        (∀ user, answer = .ok user → user.result = true →
          ∃ uid : Segment, next.signedIn = some uid ∧ user.uid = uid.val) ∧
        next.Guarded)
      (SimpleRegisterController.registerUser email password profilePicture)
      device := by
  refine Async.Safe.keeping ?_ ?_
    (SimpleRegisterController.registerUser_signsIn
      refinesOutcome_namedOutcomes email password profilePicture device)
    hguarded
  · intro device request hdevice _
    exact Or.inl hdevice
  · intro device request answer next hdevice hrequest houtcome
    exact guarded_of_signsUp hrequest hdevice houtcome.1

theorem signsIn_registerAccount (typeUser : TypeUser) (form : RegisterForm)
    (date : DateTime) :
    SignsIn action (SimpleRegister.registerAccount typeUser form date) := by
  intro device hguarded
  unfold SimpleRegister.registerAccount
  apply (safe_registerUser form.email form.password form.image hguarded).then
  · rintro user next ⟨huser, hnext⟩
    cases hsucceeded : user.result with
    | false =>
        simp only [Bool.false_eq_true, if_false]
        refine ⟨hnext, ?_⟩
        intro hfalse
        cases hfalse
    | true =>
        have haccount : next.HasAccount := by
          obtain ⟨uid, hsigned, -⟩ := huser user rfl hsucceeded
          simp [Device.HasAccount, hsigned]
        simp only [if_true]
        cases typeUser with
        | cliente =>
            apply (keepsAccount_registerClient _ _ _ _ _ _ _ _ next
              haccount).then
            · intro profile last hlast
              exact ⟨hlast.1.guarded, fun _ => hlast.1⟩
            · intro error last hlast
              exact ⟨hlast.1.guarded, fun _ => hlast.1⟩
        | trabalhador =>
            apply (keepsAccount_registerWorker _ _ _ _ _ _ _ _ next
              haccount).then
            · intro profile last hlast
              exact ⟨hlast.1.guarded, fun _ => hlast.1⟩
            · intro error last hlast
              exact ⟨hlast.1.guarded, fun _ => hlast.1⟩
  · intro error next hnext
    refine ⟨hnext.2, ?_⟩
    intro hfalse
    cases hfalse

theorem keepsGuarded_agree (typeUser : TypeUser) (form : RegisterForm)
    (date : DateTime) :
    KeepsGuarded action (SimpleRegister.agree typeUser form date) := by
  intro device hguarded
  apply (keepsGuarded_setLoad true device hguarded).then
  · intro _ loading hloading
    apply (signsIn_registerAccount typeUser form date loading
      hloading.1).then
    · rintro result next ⟨hnext, hsigned⟩
      cases result with
      | true =>
          have hnavigate (navigation : Navigation) :
              KeepsAccount action (Navigator.navigate navigation) :=
            keepsAccount_request (by simp)
          cases typeUser with
          | cliente =>
              apply (hnavigate _ next (hsigned rfl)).mono
              intro _ last hlast
              exact ⟨hlast.1.guarded, hlast.2⟩
          | trabalhador =>
              apply (hnavigate _ next (hsigned rfl)).mono
              intro _ last hlast
              exact ⟨hlast.1.guarded, hlast.2⟩
      | false => exact keepsGuarded_showSnackBar _ next hnext
    · intro _ next hnext
      exact ⟨hnext.1, fun _ _ => trivial⟩
  · intro _ loading hloading
    exact ⟨hloading.1, fun _ _ => trivial⟩

theorem keepsGuarded_btnRegisterClicked (typeUser : TypeUser)
    (form : RegisterForm) (agrees : Option Selection) :
    KeepsGuarded action
      (SimpleRegister.btnRegisterClicked typeUser form agrees) := by
  apply SimpleRegister.btnRegisterClicked_rule
  · exact keepsGuarded_showSnackBar
  · exact Async.keeps_done trivial
  · intro date next hnext
    apply Async.Keeps.bind
      (keepsGuarded_of_onlyReads (SimpleRegister.onlyReads_ageRefused date))
    intro refused _
    exact hnext refused
  · intro held
    exact keepsGuarded_agree typeUser (form.holding held)

/-! ## Every handler -/

theorem safe_logOut {device : Device} (hguarded : device.Guarded) :
    Async.Safe namedOutcomes (GuardedAt .logOut)
      (fun _ => Device.Guarded) MenuConfig.logOut device := by
  unfold MenuConfig.logOut LoginController.logOut
  rw [Async.safe_bind]
  apply (Async.safe_request _ _ _).mpr
  refine ⟨Or.inl hguarded, ?_⟩
  intro answer next houtcome
  cases answer with
  | error error =>
      have hnext : next = device := houtcome.1
      rw [hnext]
      exact hguarded
  | ok value =>
      apply (Async.safe_bind _ _ _ _).mpr
      apply App.safe_navigate refinesOutcome_namedOutcomes
        (Or.inr ⟨rfl, rfl⟩)
      apply safe_checkHome
      apply guarded_of_public
      intro route hmem
      rcases List.mem_singleton.mp hmem with rfl
      rfl

theorem keepsGuarded_pop : KeepsGuarded action (Navigator.navigate .pop) := by
  apply keepsGuarded_navigate
  intro screen hscreen
  cases hscreen

theorem keepsGuarded_push {screen : Screen}
    (hpublic : screen.isPrivate = false) :
    KeepsGuarded action (Navigator.navigate (.push screen)) := by
  apply keepsGuarded_navigate
  intro shown hshown
  cases hshown
  exact hpublic

theorem KeepsGuarded.safe {program : App Unit}
    (hkeeps : KeepsGuarded action program) {device : Device}
    (hguarded : device.Guarded) :
    Async.Safe namedOutcomes (GuardedAt action) (fun _ => Device.Guarded)
      program device := by
  apply (hkeeps device hguarded).mono
  intro _ next hnext
  exact hnext.1

/-- Without an account, only the handlers of public screens can start. -/
theorem safe_of_signedOut {device : Device} {program : App Unit}
    (hstarts : Starts device action program) (hguarded : device.Guarded)
    (hsigned : device.signedIn = none) :
    Async.Safe namedOutcomes (GuardedAt action)
      (fun _ => Device.Guarded) program device := by
  have hpublic := hguarded.noPrivate hsigned
  cases hstarts with
  | launch hroutes => exact safe_launch hguarded
  | @back top second below hroutes =>
      have htop : top.screen.isPrivate = false := by
        apply hpublic
        rw [hroutes]
        exact List.mem_cons_self
      have hscreen : top.screen ≠ .addPhoto := by
        intro heq
        rw [heq] at htop
        cases htop
      unfold goBack
      rw [if_neg hscreen]
      exact KeepsGuarded.safe keepsGuarded_pop.ignore hguarded
  | @handler top below action program hroutes hload hhandles =>
      have htop : top.screen.isPrivate = false := by
        apply hpublic
        rw [hroutes]
        exact List.mem_cons_self
      generalize top.screen = screen at hhandles htop
      cases hhandles with
      | participe => exact (keepsGuarded_push rfl).safe hguarded
      | login email password => exact safe_login email password hguarded
      | cadastrese => exact (keepsGuarded_push rfl).safe hguarded
      | chooseType typeUser => exact (keepsGuarded_push rfl).safe hguarded
      | register typeUser form agrees =>
          exact (keepsGuarded_btnRegisterClicked typeUser form agrees).safe
            hguarded
      | _ => cases htop

theorem safe_of_starts {device : Device} {program : App Unit}
    (hstarts : Starts device action program) (hguarded : device.Guarded)
    (hnamed : device.SessionNamed) :
    Async.Safe namedOutcomes (GuardedAt action)
      (fun _ => Device.Guarded) program device := by
  by_cases hsigned : device.signedIn = none
  · exact safe_of_signedOut hstarts hguarded hsigned
  · by_cases haction : action = .logOut
    · subst haction
      cases hstarts with
      | handler hroutes hload hhandles =>
          generalize Route.screen _ = screen at hhandles
          cases hhandles with
          | logOut => exact safe_logOut hguarded
    · exact (worksFor_of_starts hstarts).safe_of_hasAccount haction hnamed
        hsigned

end Programs

/-! ## All runs -/

section Runs

variable {DeviceId : Type} [DecidableEq DeviceId]

/-- The devices are guarded, at rest and at every request they wait for. -/
def AllGuarded (world : World DeviceId) : Prop :=
  ∀ device,
    world.TaskInv (fun _ => namedOutcomes) (fun _ => GuardedAt)
      (fun _ => Device.Guarded) device

theorem allGuarded_of_reaches
    {allowed : World DeviceId → Event DeviceId Action Oracle → Prop}
    {world : World DeviceId}
    (hreach : app.Reaches allowed (World.initial DeviceId) world) :
    AllGuarded world := by
  induction hreach with
  | refl =>
      intro device route hmem
      cases hmem
  | @next world next event hreach _ hstep ih =>
      obtain ⟨entries, hclassified⟩ := classified_of_reaches hreach
      intro device
      refine Machine.taskInv_step (ih device) ?_ ?_ ?_ hstep
      · intro action program _ htask hidle hstart
        have hnamed := hclassified.devices device
        rw [Config.TaskInv, htask] at hnamed
        exact safe_of_starts (starts_of_startAction hstart) hidle hnamed
      · intro oracle action request _ _
        exact ⟨Request.exec_outcome request oracle world.shared _,
          hclassified.findsNamed request oracle _⟩
      · intro state _ route hmem
        cases hmem

/-! ## Going back without an account -/

structure Device.SignedOut (device : Device) : Prop where
  noAccount : device.signedIn = none
  noPrivate : ∀ route ∈ device.routes, route.screen.isPrivate = false

theorem Device.SignedOut.reset {device : Device} (hout : device.SignedOut) :
    device.reset.SignedOut := by
  refine ⟨hout.noAccount, ?_⟩
  intro route hmem
  cases hmem

/-- The user of the device does nothing but go back. -/
def OnlyBack (device : DeviceId) (event : Event DeviceId Action Oracle) :
    Prop :=
  ∀ action, event = .act device action → action = .back

theorem signedOut_goBack {device : Device} {program : App Unit}
    (hstarts : Starts device .back program) (hout : device.SignedOut) :
    Async.Safe (fun device request => request.Outcome device)
      (fun device _ => device.SignedOut) (fun _ => Device.SignedOut) program
      device := by
  cases hstarts with
  | @back top second below hroutes =>
      have hscreen : top.screen ≠ .addPhoto := by
        intro heq
        have htop : top.screen.isPrivate = false := by
          apply hout.noPrivate
          rw [hroutes]
          exact List.mem_cons_self
        rw [heq] at htop
        cases htop
      unfold goBack
      rw [if_neg hscreen, Async.safe_bind]
      apply App.safe_navigate (fun _ _ _ _ houtcome => houtcome) hout
      refine ⟨hout.noAccount, ?_⟩
      intro route hmem
      exact hout.noPrivate route (List.mem_of_mem_tail hmem)
  | handler hroutes hload hhandles =>
      generalize Route.screen _ = screen at hhandles
      cases hhandles

theorem signedOut_of_onlyBack {world next : World DeviceId}
    {device : DeviceId} (htask : world.tasks device = none)
    (hout : (world.locals device).SignedOut)
    (hreach : app.Reaches (fun _ => OnlyBack device) world next) :
    (next.locals device).SignedOut := by
  have hinv :
      next.TaskInv (fun _ device request => request.Outcome device)
        (fun _ _ device _ => device.SignedOut)
        (fun _ => Device.SignedOut) device := by
    apply hreach.invariant
    · rw [Config.TaskInv, htask]
      exact hout
    · intro config event config' hconfig hback hstep
      refine Machine.taskInv_step hconfig ?_ ?_ ?_ hstep
      · intro action program hevent _ hidle hstart
        rw [hback action hevent] at hstart
        exact signedOut_goBack (starts_of_startAction hstart) hidle
      · intro oracle action request _ _
        exact Request.exec_outcome request oracle config.shared _
      · rintro state (hidle | ⟨_, _, hbusy⟩)
        · exact hidle.reset
        · exact hbusy.reset
  rcases hinv.inv_or_guarantee with hidle | ⟨_, _, hbusy⟩
  · exact hidle
  · exact hbusy

/-- In every run of the app a device whose stack holds a private screen has
an account, at rest and at every request but the one by which `logOut` clears
the stack.  From a device at rest without an account, going back never leads
to a private screen. -/
theorem private_screens_need_account {world : World DeviceId}
    (hreach : app.Reaches (fun _ _ => True) (World.initial DeviceId) world)
    (device : DeviceId) :
    (world.tasks device = none → (world.locals device).Guarded) ∧
    (∀ action request, world.pending device = some (action, request) →
      GuardedAt action (world.locals device) request) ∧
    (world.tasks device = none → (world.locals device).signedIn = none →
      ∀ next, app.Reaches (fun _ => OnlyBack device) world next →
        ∀ route ∈ (next.locals device).routes,
          route.screen.isPrivate = false) := by
  have hinv := allGuarded_of_reaches hreach device
  have hrest : world.tasks device = none →
      (world.locals device).Guarded := by
    intro htask
    rw [Config.TaskInv, htask] at hinv
    exact hinv
  refine ⟨hrest, ?_, ?_⟩
  · intro action request hpending
    exact hinv.guarantee hpending
  · intro htask hsigned next hback
    have hout : (world.locals device).SignedOut :=
      ⟨hsigned, (hrest htask).noPrivate hsigned⟩
    exact (signedOut_of_onlyBack htask hout hback).noPrivate

end Runs

/-- A client registers and opens the settings. -/
def clientOpensSettings : List (Event Unit Action Oracle) :=
  toRegisterForm .cliente ++
    perform (registers (picturedForm "Bruno Lima" "bruno@folium.work"))
      firstUid 9 ++
    perform .settings firstUid 1

def clientLogsOut : List (Event Unit Action Oracle) :=
  clientOpensSettings ++ perform .logOut firstUid 3

def atRest (config : World Unit) : Option (List Route × Option Segment) :=
  match config.tasks () with
  | none => some ((config.locals ()).routes, (config.locals ()).signedIn)
  | some _ => none

theorem atRest_some {config : World Unit} {routes : List Route}
    {signedIn : Option Segment} (hrest : atRest config = some (routes, signedIn)) :
    config.tasks () = none ∧ (config.locals ()).routes = routes ∧
      (config.locals ()).signedIn = signedIn := by
  unfold atRest at hrest
  split at hrest
  next htask =>
    simp only [Option.some.injEq, Prod.mk.injEq] at hrest
    exact ⟨htask, hrest.1, hrest.2⟩
  next => cases hrest

theorem atRest_clientOpensSettings :
    (app.run (World.initial Unit) clientOpensSettings).map atRest =
      some (some ([⟨.menuConfig, false⟩, ⟨.mainClient, false⟩],
        some firstUid)) := by
  decide +kernel

theorem atRest_clientLogsOut :
    (app.run (World.initial Unit) clientLogsOut).map atRest =
      some (some ([⟨.home, false⟩], none)) := by
  decide +kernel

theorem private_screens_need_account_clientLogsOut :
    ∃ shown left : World Unit,
      app.Reaches (fun _ _ => True) (World.initial Unit) shown ∧
      (shown.locals ()).routes =
        [⟨.menuConfig, false⟩, ⟨.mainClient, false⟩] ∧
      (shown.locals ()).signedIn ≠ none ∧
      app.Reaches (fun _ _ => True) (World.initial Unit) left ∧
      (left.locals ()).signedIn = none ∧
      ∀ next, app.Reaches (fun _ => OnlyBack ()) left next →
        ∀ route ∈ (next.locals ()).routes,
          route.screen.isPrivate = false := by
  obtain ⟨shown, hshown, hrest⟩ :=
    Option.map_eq_some_iff.mp atRest_clientOpensSettings
  obtain ⟨htask, hroutes, -⟩ := atRest_some hrest
  have hreach :=
    Reaches.refl.run clientOpensSettings
      (eachAllowed_of_forall (fun _ _ => trivial) _ _) hshown
  obtain ⟨left, hleft, hrest'⟩ :=
    Option.map_eq_some_iff.mp atRest_clientLogsOut
  obtain ⟨htask', -, hsigned⟩ := atRest_some hrest'
  have hreach' :=
    Reaches.refl.run clientLogsOut
      (eachAllowed_of_forall (fun _ _ => trivial) _ _) hleft
  refine ⟨shown, left, hreach, hroutes, ?_, hreach', hsigned, ?_⟩
  · apply (private_screens_need_account hreach ()).1 htask
      ⟨.menuConfig, false⟩ _ rfl
    rw [hroutes]
    exact List.mem_cons_self
  · exact (private_screens_need_account hreach' ()).2.2 htask' hsigned

end FoliumApp
