import FoliumApp.AgeGate
import FoliumApp.DirectoryAgreement
import FoliumApp.RegistrationOutcome
import FoliumApp.ReturningUsers

/-!
# Starting out

A user without an account can always get one: whatever state the services and
the devices are in, on a device nobody is signed in on, the app started again
leads an adult through the registration to the home screen, if the services
answer and the other devices are at rest meanwhile.  A worker fills in the
completion form as well and is then listed in the directory.
-/

namespace FoliumApp

open PathTree AsyncProgram CallSequences

/-- The services answer, the account gets the uid, and the user has lived
through 6570 days. -/
structure Welcomes (oracle : ℕ → Oracle) (date : DateTime) (uid : Segment) :
    Prop where
  ok : Unfailing oracle
  uid_eq : ∀ index, (oracle index).uid = uid
  adult : ∀ index, 6570 ≤ (oracle index).time.differenceInDays date

/-- What a program returns and leaves, and after how many requests. -/
def App.Returns {α : Type} (program : App α) (oracle : ℕ → Oracle)
    (before : Backend × Device) (requests : ℕ) (value : α)
    (after : Backend × Device) : Prop :=
  Async.Returns app.alone program oracle before requests value after

section Handlers

variable {oracle : ℕ → Oracle} {backend : Backend} {device : Device}
  {date : DateTime} {uid : Segment}

theorem Welcomes.shift (hwelcomes : Welcomes oracle date uid)
    (requests : ℕ) :
    Welcomes (fun index => oracle (index + requests)) date uid where
  ok index := hwelcomes.ok (index + requests)
  uid_eq index := hwelcomes.uid_eq (index + requests)
  adult index := hwelcomes.adult (index + requests)

theorem returns_navigate (navigation : Navigation) :
    App.Returns (Navigator.navigate navigation) oracle (backend, device) 1 ()
      (backend,
        { device with routes := navigation.apply device.routes }) :=
  ⟨rfl, rfl⟩

theorem returns_setLoad (load : Bool) :
    App.Returns (setLoad load) oracle (backend, device) 1 ()
      (backend, { device with routes := setTopLoad load device.routes }) :=
  ⟨rfl, rfl⟩

/-! ## The registration form -/

theorem returns_ageRefused (hwelcomes : Welcomes oracle date uid) :
    App.Returns (SimpleRegister.ageRefused date) oracle (backend, device) 2
      false (backend, device) := by
  have hlower : ¬ (oracle 0).time.differenceInDays date / 365 < 18 := by
    have hadult := hwelcomes.adult 0
    omega
  have hupper : ¬ date.differenceInDays (oracle 1).time / 365 > 70 := by
    have hborn : date.microseconds ≤ (oracle 1).time.microseconds := by
      by_contra hlater
      have hnegative := differenceInDays_nonpos (not_le.mp hlater).le
      have hadult := hwelcomes.adult 1
      omega
    have hnonpos := differenceInDays_nonpos hborn
    omega
  have hrun : App.run (SimpleRegister.ageRefused date) oracle backend
      device = (.ok false, backend, device) := by
    simp [SimpleRegister.ageRefused, DateTime.now, Request.exec,
      Async.ofExcept, hlower, hupper]
  have hawaited : App.awaited (SimpleRegister.ageRefused date) oracle
      backend device = 2 := by
    simp [SimpleRegister.ageRefused, DateTime.now, Request.exec,
      Async.ofExcept, hlower]
  exact ⟨hrun, hawaited⟩

theorem returns_registerUser {form : RegisterForm}
    (hwelcomes : Welcomes oracle date uid)
    (haccepts : backend.acceptsAccount form.email uid = true) :
    App.Returns
      (SimpleRegisterController.registerUser form.email form.password
        form.image)
      oracle (backend, device) (registerUserCalls form.image)
      ⟨true, uid.val, pictureUrl oracle form.image⟩
      (backend.registered form uid, { device with signedIn := some uid }) := by
  have huid := hwelcomes.uid_eq 0
  have hcreated : accountCreated oracle backend form.email = true := by
    simp [accountCreated, hwelcomes.ok _, huid, haccepts]
  have hpicture : pictureStored oracle form.image = true := by
    cases himage : form.image with
    | none => rfl
    | some file => simp [pictureStored, hwelcomes.ok _]
  have hrun := registerUser_run_made form.password device hcreated hpicture
  rw [huid] at hrun
  exact ⟨hrun,
    registerUser_awaited_made form.password device hcreated hpicture⟩

theorem returns_sendData (hok : Unfailing oracle) (data : Json)
    {path : String} (hvalid : isValidPathString path = true) :
    App.Returns (sendData data path) oracle (backend, device) 1 true
      (backend.write path data, device) := by
  have hrun : App.run (sendData data path) oracle backend device =
      (.ok true, backend.write path data, device) := by
    simp [sendData, FirebaseDatabase.set, Request.exec, hok _, hvalid,
      Async.ofExcept, Async.request]
  have hawaited : App.awaited (sendData data path) oracle backend device =
      1 := by
    simp [sendData, FirebaseDatabase.set, Request.exec, hok _, hvalid,
      Async.ofExcept, Async.request]
  exact ⟨hrun, hawaited⟩

theorem returns_registerClient (hok : Unfailing oracle)
    (name email country city state : String) {uid : String}
    (imageUrl : String) (hpath : isValidPathString (dataPath uid) = true) :
    App.Returns
      (SimpleRegisterController.registerClient name email country city state
        date uid imageUrl)
      oracle (backend, device) 2 ⟨true, .ok "success"⟩
      (backend.write (dataPath uid)
          (.obj ((SimpleRegisterController.newClient name email country city
            state date uid imageUrl).fields
              (SimpleRegisterController.newLocation country city state))),
        { device with
          currentUser := some (.client
            (SimpleRegisterController.newClient name email country city
              state date uid imageUrl)) }) := by
  have hwritten : profileWritten (oracle 0) uid = true := by
    simp [profileWritten, hok _, hpath]
  have hrun := registerClient_run name email country city state date uid
    imageUrl oracle backend device
  simp only [hwritten, if_true] at hrun
  have huid : interpolate (SimpleRegisterController.newClient name email
      country city state date uid imageUrl).uid = uid := rfl
  have hawaited : App.awaited
      (SimpleRegisterController.registerClient name email country city state
        date uid imageUrl) oracle backend device = 2 := by
    simp [SimpleRegisterController.registerClient,
      SimpleRegisterController.sendUser, AnyUser.toJson, AnyUser.toUser,
      newClient_toJson, huid, sendData, FirebaseDatabase.set,
      LoginController.setCurrentUser, Request.exec, hok _, hpath,
      Async.ofExcept, Async.request]
  exact ⟨hrun, hawaited⟩

theorem returns_registerAccount_worker (form : RegisterForm)
    (hwelcomes : Welcomes oracle date uid)
    (haccepts : backend.acceptsAccount form.email uid = true) :
    App.Returns (SimpleRegister.registerAccount .trabalhador form date)
      oracle (backend, device) (registerUserCalls form.image + 1) true
      (backend.registered form uid,
        { device with
          signedIn := some uid
          currentUser := some (.worker
            (SimpleRegisterController.newWorker form.name form.email
              form.selectedCountry form.selectedCity form.selectedState
              date uid.val (pictureUrl oracle form.image))) }) := by
  unfold SimpleRegister.registerAccount
  exact (returns_registerUser hwelcomes haccepts).bind ⟨rfl, rfl⟩

theorem returns_registerAccount_client (form : RegisterForm)
    (hwelcomes : Welcomes oracle date uid)
    (haccepts : backend.acceptsAccount form.email uid = true)
    (hpath : isValidPathString (dataPath uid.val) = true) :
    App.Returns (SimpleRegister.registerAccount .cliente form date)
      oracle (backend, device) (registerUserCalls form.image + 2) true
      ((backend.registered form uid).write (dataPath uid.val)
          (registeredData form date oracle),
        { device with
          signedIn := some uid
          currentUser := some (.client
            (registeredClient form date oracle)) }) := by
  have huid : (oracle 0).uid = uid := hwelcomes.uid_eq 0
  unfold SimpleRegister.registerAccount registeredData registeredClient
  rw [huid]
  exact (returns_registerUser hwelcomes haccepts).bind
    ((returns_registerClient (hwelcomes.shift _).ok _ _ _ _ _ _
      hpath).bind ⟨rfl, rfl⟩)

/-! ## The button -/

theorem btnRegisterClicked_eq {typeUser : TypeUser} {form : RegisterForm}
    (hpasses : SimpleRegister.Passes form) (hdate : form.date = some date)
    (held : Selection) :
    SimpleRegister.btnRegisterClicked typeUser form (some held) =
      (do
        let refused ← SimpleRegister.ageRefused date
        if refused then
          showSnackBar
            "A aplicação é restrita apenas para maiores de 18 anos e menores de 70 anos"
        else
          SimpleRegister.agree typeUser (form.holding held) date) := by
  have hpassword : ¬ utf16Length (trim form.confirmPassword) < 6 := by
    rw [← hpasses.confirmed]
    exact not_lt.mpr hpasses.password
  simp [SimpleRegister.btnRegisterClicked, not_lt.mpr hpasses.name,
    hpasses.email, hpassword, hpasses.confirmed, hdate, hpasses.country,
    hpasses.state, hpasses.city]

theorem returns_register_worker {form : RegisterForm}
    (hpasses : SimpleRegister.Passes form) (hdate : form.date = some date)
    (held : Selection) (hwelcomes : Welcomes oracle date uid)
    (haccepts : backend.acceptsAccount form.email uid = true) :
    App.Returns
      (SimpleRegister.btnRegisterClicked .trabalhador form (some held))
      oracle (backend, device) (registerUserCalls form.image + 5) ()
      (backend.registered form uid,
        { device with
          signedIn := some uid
          currentUser := some (.worker
            (SimpleRegisterController.newWorker form.name form.email
              held.country held.city held.state date uid.val
              (pictureUrl (fun index => oracle (index + 3)) form.image)))
          routes := ⟨.workerComplement, false⟩ ::
            setTopLoad true device.routes }) := by
  rw [btnRegisterClicked_eq hpasses hdate held,
    show registerUserCalls form.image + 5 =
      2 + (1 + (registerUserCalls form.image + 1 + 1)) by omega]
  apply Async.Returns.bind (returns_ageRefused hwelcomes)
  exact (returns_setLoad true).bind
    ((returns_registerAccount_worker (form.holding held)
      (hwelcomes.shift 3) haccepts).bind (returns_navigate _))

theorem returns_register_client {form : RegisterForm}
    (hpasses : SimpleRegister.Passes form) (hdate : form.date = some date)
    (held : Selection) (hwelcomes : Welcomes oracle date uid)
    (haccepts : backend.acceptsAccount form.email uid = true)
    (hpath : isValidPathString (dataPath uid.val) = true) :
    App.Returns
      (SimpleRegister.btnRegisterClicked .cliente form (some held))
      oracle (backend, device) (registerUserCalls form.image + 6) ()
      ((backend.registered form uid).write (dataPath uid.val)
          (registeredData (form.holding held) date
            fun index => oracle (index + 3)),
        { device with
          signedIn := some uid
          currentUser := some (.client
            (registeredClient (form.holding held) date
              fun index => oracle (index + 3)))
          routes := [⟨.mainClient, false⟩] }) := by
  rw [btnRegisterClicked_eq hpasses hdate held,
    show registerUserCalls form.image + 6 =
      2 + (1 + (registerUserCalls form.image + 2 + 1)) by omega]
  apply Async.Returns.bind (returns_ageRefused hwelcomes)
  exact (returns_setLoad true).bind
    ((returns_registerAccount_client (form.holding held)
      (hwelcomes.shift 3) haccepts hpath).bind (returns_navigate _))

/-! ## The completion form -/

theorem returns_getCurrentWorker {worker : Worker}
    (hsession : device.currentUser = some (.worker worker)) :
    App.Returns LoginController.getCurrentWorker oracle (backend, device) 1
      (some worker) (backend, device) := by
  have hrun : App.run LoginController.getCurrentWorker oracle backend
      device = (.ok (some worker), backend, device) := by
    simp [LoginController.getCurrentWorker, Request.exec,
      LoginController.asWorker, hsession, Async.ofExcept]
  have hawaited : App.awaited LoginController.getCurrentWorker oracle
      backend device = 1 := by
    simp [LoginController.getCurrentWorker, Request.exec,
      LoginController.asWorker, hsession, Async.ofExcept]
  exact ⟨hrun, hawaited⟩

theorem returns_registerCompleteWorker (hok : Unfailing oracle)
    {form : Complement} {worker : Worker} {location : Location}
    (hlocation : worker.location = some location)
    (hdata : isValidPathString (dataPath (interpolate worker.uid)) = true)
    (hentry : isValidPathString
      (WorkerComplementController.workerDirectoryPath worker location
        form.category.uid) = true) :
    App.Returns
      (WorkerComplementController.registerCompleteWorker (some worker) form)
      oracle (backend, device) 4 true
      ((backend.write (dataPath (interpolate worker.uid))
          (completedProfile worker location form)).write
            (WorkerComplementController.workerDirectoryPath worker location
              form.category.uid)
            (.obj [("time", .str (oracle 2).time.toString)]),
        { device with
          currentUser := some (.worker
            (WorkerComplementController.complete worker location
              form)) }) := by
  rw [registerCompleteWorker_of_location form hlocation]
  change App.Returns _ _ _ (1 + (1 + (1 + (1 + 0)))) _ _
  apply Async.Returns.bind
  · exact ⟨rfl, rfl⟩
  · apply Async.Returns.bind (returns_sendData (fun _ => hok _) _ hdata)
    apply Async.Returns.bind
    · exact ⟨rfl, rfl⟩
    · apply Async.Returns.bind (returns_sendData (fun _ => hok _) _ hentry)
      exact ⟨rfl, rfl⟩

theorem returns_finishComplement (backend : Backend)
    (hok : Unfailing oracle) {form : Complement}
    (haccepted : WorkerComplement.refusal form = none)
    {worker : Worker} (hsession : device.currentUser = some (.worker worker))
    {location : Location} (hlocation : worker.location = some location)
    (hdata : isValidPathString (dataPath (interpolate worker.uid)) = true)
    (hentry : isValidPathString
      (WorkerComplementController.workerDirectoryPath worker location
        form.category.uid) = true) :
    App.Returns (WorkerComplement.finishComplement form) oracle
      (backend, device) 7 ()
      ((backend.write (dataPath (interpolate worker.uid))
          (completedProfile worker location form)).write
            (WorkerComplementController.workerDirectoryPath worker location
              form.category.uid)
            (.obj [("time", .str (oracle 4).time.toString)]),
        { device with
          currentUser := some (.worker
            (WorkerComplementController.complete worker location form))
          routes := [⟨.mainWorker, false⟩] }) := by
  unfold WorkerComplement.finishComplement
  rw [haccepted]
  change App.Returns (WorkerComplement.submit form) _ _ (1 + (1 + (4 + 1)))
    _ _
  unfold WorkerComplement.submit
  have hloading : ({ device with
      routes := setTopLoad true device.routes } : Device).currentUser =
        some (.worker worker) := hsession
  apply Async.Returns.bind (returns_setLoad true)
  apply Async.Returns.bind (returns_getCurrentWorker hloading)
  apply Async.Returns.bind (returns_registerCompleteWorker
    (fun index => hok (index + 2)) hlocation hdata hentry)
  exact returns_navigate _

end Handlers

/-! ## The way to an account -/

def toForm (typeUser : TypeUser) : List (Action × ℕ) :=
  [(.launch, 2), (.participe, 1), (.cadastrese, 1),
    (.chooseType typeUser, 1)]

/-- Before the registration form, with the screens it was reached through. -/
def Device.filling (typeUser : TypeUser) : Device :=
  { Device.fresh with
    routes :=
      [⟨.simpleRegister typeUser, false⟩, ⟨.userChoiceRegister, false⟩,
        ⟨.login, false⟩, ⟨.home, false⟩] }

/-- Registered as a worker and before the completion form. -/
def Device.completing (uid : Segment) (worker : Worker) : Device :=
  { Device.filling .trabalhador with
    signedIn := some uid
    currentUser := some (.worker worker)
    routes := ⟨.workerComplement, false⟩ ::
      setTopLoad true (Device.filling .trabalhador).routes }

theorem sits_toForm {oracle : ℕ → Oracle} {backend : Backend}
    (hok : Unfailing oracle) {typeUser : TypeUser}
    {rest : List (Action × ℕ)} {final : Backend × Device}
    (hrest : app.Sits (fun index => oracle (index + 5))
      (backend, Device.filling typeUser) rest final) :
    app.Sits oracle (backend, Device.fresh) (toForm typeUser ++ rest)
      final :=
  .cons rfl (endsIn_launch_signedOut hok)
    (.cons rfl (endsIn_navigate (.push .login))
      (.cons rfl (endsIn_navigate (.push .userChoiceRegister))
        (.cons rfl
          (endsIn_navigate (.push (.simpleRegister typeUser))) hrest)))

theorem accounts_write (backend : Backend) (path : String) (value : Json) :
    (backend.write path value).accounts = backend.accounts := rfl

theorem mem_registered_accounts (backend : Backend) (form : RegisterForm)
    (uid : Segment) :
    ⟨form.email, form.password, uid⟩ ∈
      (backend.registered form uid).accounts := by
  simp [Backend.registered, Backend.addAccount]

theorem completing_currentUser (uid : Segment) (worker : Worker) :
    (Device.completing uid worker).currentUser = some (.worker worker) := rfl

theorem newWorker_location (name email country city state : String)
    (birth : DateTime) (uid imageUrl : String) :
    (SimpleRegisterController.newWorker name email country city state birth
      uid imageUrl).location =
        some (SimpleRegisterController.newLocation country city state) := rfl

/-- The completion form ends the registration of a worker. -/
theorem returns_finish_registered {oracle : ℕ → Oracle} {uid : Segment}
    {complement : Complement} (backend : Backend)
    (name email country city state imageUrl : String) (date : DateTime)
    (hok : Unfailing oracle)
    (haccepted : WorkerComplement.refusal complement = none)
    (huid : Unreserved uid.val) (hcountry : Unreserved country)
    (hstate : Unreserved state) (hcity : Unreserved city) :
    App.Returns (WorkerComplement.finishComplement complement) oracle
      (backend,
        .completing uid
          (SimpleRegisterController.newWorker name email country city state
            date uid.val imageUrl))
      7 ()
      ((backend.write (dataPath uid.val)
          (completedProfile
            (SimpleRegisterController.newWorker name email country city
              state date uid.val imageUrl)
            (SimpleRegisterController.newLocation country city state)
            complement)).write
              (directoryPath country state city
                (toString complement.category.uid) uid.val)
              (.obj [("time", .str (oracle 4).time.toString)]),
        .showing uid
          (.worker (completedWorker name email country city state date
            uid.val imageUrl complement))
          .mainWorker) := by
  have hdata := (isValidPathString_dataPath_iff uid.val).mpr huid
  have hentry := (isValidPathString_directoryPath_iff country state city
    (toString complement.category.uid) uid.val).mpr
      ⟨hcountry, hstate, hcity, unreserved_toString_int _, huid⟩
  exact returns_finishComplement backend hok haccepted
    (completing_currentUser _ _) (newWorker_location _ _ _ _ _ _ _ _) hdata
    hentry

section World

variable {DeviceId : Type} {world : World DeviceId} {device : DeviceId}
  {oracle : ℕ → Oracle} {form : RegisterForm} {date : DateTime}
  {uid : Segment}

/-- The device is signed out and the user fills in a form that passes, with
an address that is free. -/
structure StartsOut (world : World DeviceId) (device : DeviceId)
    (oracle : ℕ → Oracle) (form : RegisterForm) (date : DateTime)
    (uid : Segment) : Prop where
  signedOut : (world.locals device).signedIn = none
  passes : SimpleRegister.Passes form
  date_eq : form.date = some date
  accepts : world.shared.acceptsAccount form.email uid = true
  unreserved : Unreserved uid.val
  welcomes : Welcomes oracle date uid

theorem StartsOut.reset_eq
    (hstarts : StartsOut world device oracle form date uid) :
    (world.locals device).reset = Device.fresh := by
  rw [Device.reset, hstarts.signedOut]
  rfl

variable [DecidableEq DeviceId]

/-- Ana is the first user. -/
def anaRegisters : RegisterForm := registerForm "Ana Souza" "ana@folium.work"

theorem startsOut_ana :
    StartsOut (World.initial Unit) () (fun _ => failingAt 1 0) anaRegisters
      (midnight 1990 5 17) firstUid where
  signedOut := rfl
  passes :=
    ⟨by constructor <;> decide, by decide, by decide, by decide⟩
  date_eq := rfl
  accepts := rfl
  unreserved := by decide
  welcomes :=
    { ok := fun _ => rfl
      uid_eq := fun _ => rfl
      adult := fun _ => by decide }

/-- A new client gets to the home screen and has a stored profile, with the
place the menus hold when it is read; it decodes as the client in the session
but for the birth date, the favourites and the coordinates. -/
theorem new_clients_reach_home
    (hstarts : StartsOut world device oracle form date uid)
    (held : Selection) :
    ∃ imageUrl shared,
      app.run world
          (.kill device :: sitting device oracle
            (toForm .cliente ++
              [(.register form (some held),
                registerUserCalls form.image + 6)])) =
        some { world.resting device
          (.showing uid
            (.client (SimpleRegisterController.newClient form.name form.email
              held.country held.city held.state date uid.val imageUrl))
            .mainClient) with shared } ∧
      ⟨form.email, form.password, uid⟩ ∈ shared.accounts ∧
      decodedClient (shared.read (dataPath uid.val)) =
        .ok
          { toUser := (SimpleRegisterController.newClient form.name
              form.email held.country held.city held.state date uid.val
              imageUrl).toUser.readBack
                (SimpleRegisterController.newLocation held.country held.city
                  held.state)
            favoriteList := none } := by
  have hwelcomes := hstarts.welcomes
  have hpath := (isValidPathString_dataPath_iff uid.val).mpr
    hstarts.unreserved
  have hgiven : (oracle 8).uid = uid := hwelcomes.uid_eq 8
  have hregister : App.Returns
      (SimpleRegister.btnRegisterClicked .cliente form (some held))
      (fun index => oracle (index + 5))
      (world.shared, Device.filling .cliente)
      (registerUserCalls form.image + 6) () _ :=
    returns_register_client hstarts.passes hstarts.date_eq held
      (hwelcomes.shift 5) hstarts.accepts hpath
  simp only [registeredData, registeredClient, Nat.zero_add,
    hgiven] at hregister
  have hpressed : app.Sits (fun index => oracle (index + 5))
      (world.shared, Device.filling .cliente)
      [(.register form (some held), registerUserCalls form.image + 6)] _ :=
    .cons rfl hregister.endsIn .nil
  have hsits := sits_toForm hwelcomes.ok hpressed
  rw [← hstarts.reset_eq] at hsits
  refine ⟨_, _, run_kill_sitting hsits, ?_, ?_⟩
  · rw [accounts_write]
    exact mem_registered_accounts world.shared form uid
  · rw [Backend.read_write]
    exact decodedClient_client (Option.some_ne_none _)
      (Option.some_ne_none _) rfl

theorem new_clients_reach_home_ana :
    ∃ imageUrl shared,
      app.run (World.initial Unit)
          (.kill () :: sitting () (fun _ => failingAt 1 0)
            (toForm .cliente ++
              [(.register anaRegisters (some xapuri),
                registerUserCalls anaRegisters.image + 6)])) =
        some { (World.initial Unit).resting ()
          (.showing firstUid
            (.client (SimpleRegisterController.newClient anaRegisters.name
              anaRegisters.email "BR" "Xapuri" "Acre" (midnight 1990 5 17)
              firstUid.val imageUrl))
            .mainClient) with shared } ∧
      ⟨anaRegisters.email, anaRegisters.password, firstUid⟩ ∈
        shared.accounts ∧
      decodedClient (shared.read (dataPath firstUid.val)) =
        .ok
          { toUser := (SimpleRegisterController.newClient anaRegisters.name
              anaRegisters.email "BR" "Xapuri" "Acre" (midnight 1990 5 17)
              firstUid.val imageUrl).toUser.readBack
                (SimpleRegisterController.newLocation "BR" "Xapuri" "Acre")
            favoriteList := none } :=
  new_clients_reach_home startsOut_ana xapuri

/-- A new worker gets to the home screen, has a stored profile and, if the
names of the place the menus hold can stand in a path as pieces of their own,
is listed there in the directory. -/
theorem new_workers_reach_home
    (hstarts : StartsOut world device oracle form date uid)
    (held : Selection) {complement : Complement}
    (haccepted : WorkerComplement.refusal complement = none)
    (hcountry : Listable held.country) (hstate : Listable held.state)
    (hcity : Listable held.city) :
    ∃ imageUrl shared,
      app.run world
          (.kill device :: sitting device oracle
            (toForm .trabalhador ++
              [(.register form (some held),
                registerUserCalls form.image + 5),
                (.finishComplement complement, 7)])) =
        some { world.resting device
          (.showing uid
            (.worker (completedWorker form.name form.email held.country
              held.city held.state date uid.val imageUrl complement))
            .mainWorker) with shared } ∧
      ⟨form.email, form.password, uid⟩ ∈ shared.accounts ∧
      (∃ worker,
        decodedWorker (shared.read (dataPath uid.val)) = .ok worker ∧
          worker.FilledIn complement) ∧
      shared.directory.listed uid.val
        ⟨held.country, held.state, held.city,
          toString complement.category.uid⟩ := by
  have hwelcomes := hstarts.welcomes
  obtain ⟨imageUrl, hregister⟩ : ∃ imageUrl, App.Returns
      (SimpleRegister.btnRegisterClicked .trabalhador form (some held))
      (fun index => oracle (index + 5))
      (world.shared, Device.filling .trabalhador)
      (registerUserCalls form.image + 5) ()
      (world.shared.registered form uid,
        .completing uid
          (SimpleRegisterController.newWorker form.name form.email
            held.country held.city held.state date uid.val imageUrl)) :=
    ⟨_, returns_register_worker hstarts.passes hstarts.date_eq held
      (hwelcomes.shift 5) hstarts.accepts⟩
  have hcompletes := returns_finish_registered
    (world.shared.registered form uid) form.name form.email held.country
    held.city held.state imageUrl date
    ((hwelcomes.shift 5).shift (registerUserCalls form.image + 5)).ok
    haccepted hstarts.unreserved hcountry.2 hstate.2 hcity.2
  have hpressed : app.Sits (fun index => oracle (index + 5))
      (world.shared, Device.filling .trabalhador)
      [(.register form (some held), registerUserCalls form.image + 5),
        (.finishComplement complement, 7)] _ :=
    .cons rfl hregister.endsIn (.cons rfl hcompletes.endsIn .nil)
  have hsits := sits_toForm hwelcomes.ok hpressed
  rw [← hstarts.reset_eq] at hsits
  refine ⟨imageUrl, _, run_kill_sitting hsits, ?_, ?_, ?_⟩
  · rw [accounts_write, accounts_write]
    exact mem_registered_accounts world.shared form uid
  · rw [Backend.read_write_of_apart _
      (apart_directoryPath_dataPath _ _ _ _ _ _), Backend.read_write]
    exact ⟨_, completedProfile_decoded _ _ complement,
      rfl, rfl, rfl, _, rfl, rfl⟩
  · have hentry := (pieces_directoryPath_eq_iff held.country held.state
      held.city (toString complement.category.uid) uid.val).mpr
        ⟨hcountry.1, hstate.1, hcity.1, isSegment_toString _, uid.property⟩
    simp only [Backend.directory, DirectoryPlace.entry]
    rw [← hentry]
    change Backend.read (Backend.write _ _ _) _ ≠ .null
    rw [Backend.read_write]
    intro hnull
    cases hnull

theorem new_workers_reach_home_ana :
    ∃ imageUrl shared,
      app.run (World.initial Unit)
          (.kill () :: sitting () (fun _ => failingAt 1 0)
            (toForm .trabalhador ++
              [(.register anaRegisters (some xapuri),
                registerUserCalls anaRegisters.image + 5),
                (.finishComplement complementForm, 7)])) =
        some { (World.initial Unit).resting ()
          (.showing firstUid
            (.worker (completedWorker anaRegisters.name anaRegisters.email
              "BR" "Xapuri" "Acre" (midnight 1990 5 17) firstUid.val imageUrl
              complementForm))
            .mainWorker) with shared } ∧
      ⟨anaRegisters.email, anaRegisters.password, firstUid⟩ ∈
        shared.accounts ∧
      (∃ worker,
        decodedWorker (shared.read (dataPath firstUid.val)) = .ok worker ∧
          worker.FilledIn complementForm) ∧
      shared.directory.listed firstUid.val ⟨"BR", "Acre", "Xapuri", "3"⟩ :=
  new_workers_reach_home startsOut_ana xapuri rfl (by decide) (by decide)
    (by decide)

end World

end FoliumApp
