import FoliumApp.AccountRoles
import FoliumApp.DirectoryPaths
import FoliumApp.SoloRuns

/-!
# Coming back

A user with a stored profile can always come back: whatever the device was
doing, once the app is closed and started again, signing in and choosing a
role lead to the home screen of that role, if the services answer and the
other devices are at rest meanwhile.  What was left of the session before
does not matter.
-/

namespace FoliumApp

open PathTree AsyncProgram CallSequences

/-! ## What the handlers leave -/

/-- Signed in and before the choice of a role. -/
def Device.choosing (uid : Segment) : Device :=
  { Device.fresh with
    signedIn := some uid
    routes := [⟨.userChoice, false⟩] }

/-- Signed in, with the user in the session and only the screen shown. -/
def Device.showing (uid : Segment) (user : AnyUser) (screen : Screen) :
    Device :=
  { Device.fresh with
    signedIn := some uid
    currentUser := some user
    routes := [⟨screen, false⟩] }

/-- What a handler makes of its device, by how many requests, if it leaves
the services as they are. -/
def App.EndsIn (program : App Unit) (oracle : ℕ → Oracle)
    (backend : Backend) (device : Device) (requests : ℕ) (after : Device) :
    Prop :=
  Async.EndsIn app.alone program oracle (backend, device) requests
    (backend, after)

section Handlers

variable {oracle : ℕ → Oracle} {backend : Backend} {device : Device}
  {uid : Segment}

theorem unfailing_shift (hok : Unfailing oracle) (requests : ℕ) :
    Unfailing fun index => oracle (index + requests) := by
  intro index
  exact hok (index + requests)

theorem endsIn_iff {program : App Unit} {requests : ℕ} {after : Device} :
    App.EndsIn program oracle backend device requests after ↔
      (App.run program oracle backend device).2 = (backend, after) ∧
        App.awaited program oracle backend device = requests := Iff.rfl

theorem endsIn_navigate (navigation : Navigation) :
    App.EndsIn (Navigator.navigate navigation) oracle backend device 1
      { device with routes := navigation.apply device.routes } :=
  ⟨rfl, rfl⟩

theorem endsIn_launch_signedIn (hok : Unfailing oracle) :
    App.EndsIn launch oracle backend
      { Device.fresh with signedIn := some uid } 3 (Device.choosing uid) := by
  simp [endsIn_iff, launch, Home.check, LoginController.checkUserLogged,
    FirebaseAuth.currentUser, Navigator.navigate, Request.exec, hok _,
    Navigation.apply, Async.ofExcept, Async.request, Device.fresh,
    Device.choosing]

theorem endsIn_launch_signedOut (hok : Unfailing oracle) :
    App.EndsIn launch oracle backend Device.fresh 2
      { Device.fresh with routes := [⟨.home, false⟩] } := by
  simp [endsIn_iff, launch, Home.check, LoginController.checkUserLogged,
    FirebaseAuth.currentUser, Navigator.navigate, Request.exec, hok _,
    Navigation.apply, Async.ofExcept, Async.request, Device.fresh]

/-- With distinct addresses the auth service finds the account that signs
in. -/
theorem find_account {account : Account}
    (hmem : account ∈ backend.accounts)
    (hemails : (backend.accounts.map Account.email).Nodup) :
    (backend.accounts.find? fun found =>
      found.email = account.email && found.password = account.password) =
        some account := by
  have hfinds : (backend.accounts.find? fun found =>
      found.email = account.email &&
        found.password = account.password).isSome = true := by
    apply List.find?_isSome.mpr
    exact ⟨account, hmem, by simp⟩
  obtain ⟨found, hfound⟩ := Option.isSome_iff_exists.mp hfinds
  have hsame : found.email = account.email := by
    have hmatch := List.find?_some hfound
    simp only [Bool.and_eq_true, decide_eq_true_eq] at hmatch
    exact hmatch.1
  rw [hfound, List.inj_on_of_nodup_map hemails
    (List.mem_of_find?_eq_some hfound) hmem hsame]

theorem endsIn_login (hok : Unfailing oracle) {account : Account}
    (hmem : account ∈ backend.accounts)
    (hemails : (backend.accounts.map Account.email).Nodup) :
    App.EndsIn (Login.login account.email account.password) oracle backend
      device 4
      { device with
        signedIn := some account.uid
        routes := [⟨.userChoice, false⟩] } := by
  simp [endsIn_iff, Login.login, LoginController.login,
    FirebaseAuth.signInWithEmailAndPassword, setLoad, Navigator.navigate,
    Request.exec, hok _, find_account hmem hemails, Navigation.apply,
    Async.ofExcept, Async.request]

theorem endsIn_client (hok : Unfailing oracle)
    (hpath : isValidPathString (dataPath uid.val) = true) {client : Client}
    (hclient : decodedClient (backend.read (dataPath uid.val)) =
      .ok client) :
    App.EndsIn UserChoice.client oracle backend (Device.choosing uid) 5
      (Device.showing uid (.client client) .mainClient) := by
  unfold UserChoice.client
  rw [clientChoice_eq]
  simp [endsIn_iff, FirebaseAuth.currentUser, FirebaseDatabase.once,
    LoginController.setCurrentUser, nonNull, setLoad, Navigator.navigate,
    Request.exec, hok _, hpath, hclient, Navigation.apply, Async.ofExcept,
    Async.request, Device.choosing, Device.showing]

theorem endsIn_worker (hok : Unfailing oracle)
    (hpath : isValidPathString (dataPath uid.val) = true) {worker : Worker}
    (hworker : decodedWorker (backend.read (dataPath uid.val)) =
      .ok worker) :
    App.EndsIn UserChoice.worker oracle backend (Device.choosing uid) 5
      (Device.showing uid (.worker worker) .mainWorker) := by
  unfold UserChoice.worker
  rw [workerChoice_eq]
  simp [endsIn_iff, FirebaseAuth.currentUser, FirebaseDatabase.once,
    LoginController.setCurrentUser, nonNull, setLoad, Navigator.navigate,
    Request.exec, hok _, hpath, hworker, Navigation.apply, Async.ofExcept,
    Async.request, Device.choosing, Device.showing]

end Handlers

/-! ## The way back -/

/-- What the user does up to the choice of a role; to a user who is signed in
the choice is shown at once. -/
def wayBack (account : Account) : Option Segment → List (Action × ℕ)
  | some _ => [(.launch, 3)]
  | none =>
      [(.launch, 2), (.participe, 1),
        (.login account.email account.password, 4)]

theorem sits_wayBack {oracle : ℕ → Oracle} {backend : Backend}
    (hok : Unfailing oracle) {account : Account}
    (hmem : account ∈ backend.accounts)
    (hemails : (backend.accounts.map Account.email).Nodup)
    {signedIn : Option Segment}
    (hsigned : signedIn = none ∨ signedIn = some account.uid) :
    app.Sits oracle (backend, { Device.fresh with signedIn })
      (wayBack account signedIn)
      (backend, Device.choosing account.uid) := by
  rcases hsigned with rfl | rfl
  · have hparticipe : App.EndsIn (Navigator.navigate (.push .login))
        (fun index => oracle (index + 2)) backend
        { Device.fresh with routes := [⟨.home, false⟩] } 1 _ :=
      endsIn_navigate (.push .login)
    exact .cons rfl (endsIn_launch_signedOut hok)
      (.cons rfl hparticipe
        (.cons rfl (endsIn_login (fun index => hok _) hmem hemails) .nil))
  · exact .cons rfl (endsIn_launch_signedIn hok) .nil

section World

variable {DeviceId : Type} [DecidableEq DeviceId] {world : World DeviceId}
  {device : DeviceId} {oracle : ℕ → Oracle}

/-- One device is at rest in the state, everything else is as before. -/
def World.resting (world : World DeviceId) (device : DeviceId)
    (state : Device) : World DeviceId :=
  { world with
    locals := Function.update world.locals device state
    tasks := Function.update world.tasks device none }

/-- An app that is closed and started again, while nothing else happens. -/
theorem run_kill_sitting {actions : List (Action × ℕ)} {shared : Backend}
    {final : Device}
    (hsits : app.Sits oracle
      (world.shared, (world.locals device).reset) actions (shared, final)) :
    app.run world (.kill device :: sitting device oracle actions) =
      some { world.resting device final with shared } := by
  have hmoves : app.Moves world (.kill device)
      (world.resting device (world.locals device).reset) := .kill
  have hsitting : app.run
      (world.resting device (world.locals device).reset)
      (sitting device oracle actions) = _ :=
    hsits.run (Function.update_self _ _ _) rfl (Function.update_self _ _ _)
  refine (run_cons hmoves.step _).trans (hsitting.trans ?_)
  simp [Config.withState, World.resting]

/-- After the way back, one choice more. -/
theorem run_comeBack (hok : Unfailing oracle) {account : Account}
    (hmem : account ∈ world.shared.accounts)
    (hemails : (world.shared.accounts.map Account.email).Nodup)
    (hsigned : (world.locals device).signedIn = none ∨
      (world.locals device).signedIn = some account.uid)
    {choice : Action} {program : App Unit} {requests : ℕ} {final : Device}
    (hstart : startAction choice (Device.choosing account.uid) =
      some program)
    (hends : ∀ oracle, Unfailing oracle →
      App.EndsIn program oracle world.shared (Device.choosing account.uid)
        requests final) :
    app.run world
        (.kill device :: sitting device oracle
          (wayBack account (world.locals device).signedIn ++
            [(choice, requests)])) =
      some (world.resting device final) := by
  refine (run_kill_sitting ?_).trans rfl
  apply (sits_wayBack hok hmem hemails hsigned).append
  intro shift
  exact .cons hstart (hends _ (unfailing_shift hok shift)) .nil

variable {offered : String → String → String → Prop}

/-- Whatever the devices did and the device is doing, a user with a stored
profile who starts the app afresh gets to the home screen of a client, and of
a worker if the profile is one, with the stored profile in the session. -/
theorem returning_users_reach_home
    (hreach : app.Reaches (fun _ event => NamesOffered offered event)
      (World.initial DeviceId) world)
    {account : Account} (hmem : account ∈ world.shared.accounts)
    (huid : Unreserved account.uid.val)
    (hprofile : world.shared.read (dataPath account.uid.val) ≠ .null)
    (hsigned : (world.locals device).signedIn = none ∨
      (world.locals device).signedIn = some account.uid)
    (hok : Unfailing oracle) :
    (∃ client,
      decodedClient (world.shared.read (dataPath account.uid.val)) =
          .ok client ∧
        (world.registry offered).Admits account.uid client.toUser ∧
        app.run world
          (.kill device :: sitting device oracle
            (wayBack account (world.locals device).signedIn ++
              [(.clientChoice, 5)])) =
        some (world.resting device
          (.showing account.uid (.client client) .mainClient))) ∧
    ∀ worker,
      decodedWorker (world.shared.read (dataPath account.uid.val)) =
          .ok worker →
        (world.registry offered).Admits account.uid worker.toUser ∧
        app.run world
            (.kill device :: sitting device oracle
              (wayBack account (world.locals device).signedIn ++
                [(.workerChoice, 5)])) =
          some (world.resting device
            (.showing account.uid (.worker worker) .mainWorker)) := by
  have hsound := sound_of_reaches hreach
  have hpath := (isValidPathString_dataPath_iff account.uid.val).mpr huid
  obtain ⟨⟨client, hclient, hadmits⟩, hworkers⟩ :=
    (hsound.profile account.uid).resolve_left hprofile
  constructor
  · refine ⟨client, hclient, hadmits, ?_⟩
    apply run_comeBack hok hmem hsound.emails hsigned rfl
    intro later hlater
    exact endsIn_client hlater hpath hclient
  · intro worker hworker
    refine ⟨(hworkers worker hworker).1, ?_⟩
    apply run_comeBack hok hmem hsound.emails hsigned rfl
    intro later hlater
    exact endsIn_worker hlater hpath hworker

end World

/-- The painter's phone is closed while she looks at her photos. -/
theorem returning_users_reach_home_photographedWork :
    ∃ world : World Unit,
      app.run (World.initial Unit) photographedWork = some world ∧
      ∃ account ∈ world.shared.accounts,
        (∃ client,
          decodedClient (world.shared.read (dataPath account.uid.val)) =
              .ok client ∧
            (world.registry inXapuri).Admits account.uid client.toUser ∧
            app.run world
              (.kill () :: sitting () (fun _ => failingAt 1 0)
                (wayBack account (world.locals ()).signedIn ++
                  [(.clientChoice, 5)])) =
            some (world.resting ()
              (.showing account.uid (.client client) .mainClient))) ∧
        ∀ worker,
          decodedWorker (world.shared.read (dataPath account.uid.val)) =
              .ok worker →
            (world.registry inXapuri).Admits account.uid worker.toUser ∧
            app.run world
                (.kill () :: sitting () (fun _ => failingAt 1 0)
                  (wayBack account (world.locals ()).signedIn ++
                    [(.workerChoice, 5)])) =
              some (world.resting ()
                (.showing account.uid (.worker worker) .mainWorker)) := by
  obtain ⟨world, hworld, hreach⟩ := photographedWork_reached
  have hrun : (app.run (World.initial Unit) photographedWork).any
      (fun world => world.shared.accounts.any fun account =>
        decide (Unreserved account.uid.val) &&
        decide ((world.locals ()).signedIn = some account.uid) &&
        !world.shared.lacksRecord account) = true := by
    decide +kernel
  rw [hworld] at hrun
  simp only [Option.any_some, List.any_eq_true, Bool.and_eq_true,
    decide_eq_true_eq, Bool.not_eq_true'] at hrun
  obtain ⟨account, hmem, ⟨huid, hsigned⟩, hrecord⟩ := hrun
  have hprofile : world.shared.read (dataPath account.uid.val) ≠ .null := by
    intro hnull
    rw [Backend.lacksRecord, hnull] at hrecord
    cases hrecord
  exact ⟨world, hworld, account, hmem,
    returning_users_reach_home hreach hmem huid hprofile (Or.inr hsigned)
      (fun _ => rfl)⟩

end FoliumApp
