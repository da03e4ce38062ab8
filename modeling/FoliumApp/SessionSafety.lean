import FoliumApp.SessionPolicy

/-!
# Two policies on the session

The first policy wants every write to go to the account that is signed in,
the second wants the session to be of the kind the next screen casts it to.
Both are kept by the whole app but for one branch: a role choice that finds
no worker record shows the completion form with whatever the session holds.
For each policy the assumption about that branch is stated, every run that
meets it is shown to keep the policy, and a run that does not is given.
-/

namespace FoliumApp

open PathTree AsyncProgram

/-! ## Writes stay with the account signed in -/

/-- The node lies below `users/<uid>` or is a directory entry of the uid: the
last piece of a path below `workers`, which an empty name makes shorter. -/
def AddressesUser (path uid : String) : Prop :=
  (∃ rest, pieces path = "users" :: uid :: rest) ∨
    ∃ place, pieces path = "workers" :: (place ++ [uid])

/-- A write to a user's nodes is made with that user's account. -/
def OwnWrite (device : Device) : Request → Prop
  | .set path _ => ∀ uid, AddressesUser path uid →
      ∃ account, device.signedIn = some account ∧ uid = account.val
  | .remove path => ∀ uid, AddressesUser path uid →
      ∃ account, device.signedIn = some account ∧ uid = account.val
  | _ => True

def Device.SessionOwn (device : Device) : Prop :=
  ∀ worker, device.currentUser = some (.worker worker) →
    ∃ account, device.signedIn = some account ∧
      worker.uid = some account.val

theorem addressesUser_underUser {uid : Segment} {path other : String}
    (hpath : UnderUser uid path) (haddress : AddressesUser path other) :
    other = uid.val := by
  obtain ⟨rest, hrest⟩ := hpath
  rcases haddress with ⟨back, hback⟩ | ⟨place, hback⟩
  · rw [hrest] at hback
    simp only [List.cons.injEq, true_and] at hback
    exact hback.1.symm
  · rw [hrest] at hback
    simp at hback

theorem addressesUser_directoryPath {uid : Segment}
    {country state city area other : String}
    (haddress : AddressesUser
      (directoryPath country state city area uid.val) other) :
    other = uid.val := by
  have hpieces := pieces_directoryPath country state city area uid.val
  rw [pieces_segment uid.property] at hpieces
  rcases haddress with ⟨back, hback⟩ | ⟨place, hback⟩
  · rw [hpieces] at hback
    simp at hback
  · rw [hpieces] at hback
    have hlast := congrArg List.getLast? hback
    rw [List.getLast?_concat, ← List.cons_append, List.getLast?_concat,
      Option.some.injEq] at hlast
    exact hlast.symm

def ownWrites : SessionPolicy where
  guar := OwnWrite
  good := Device.SessionOwn
  choice := Device.SessionOwn
  good_congr := by
    intro device next hsigned huser hgood worker hworker
    rw [huser] at hworker
    rw [hsigned]
    exact hgood worker hworker
  good_of_choice := by
    intro device _ hchoice
    exact hchoice
  good_registered := by
    intro device uid worker hsigned huser huid _ other hother
    rw [huser] at hother
    cases hother
    exact ⟨uid, hsigned, huid⟩
  good_completed := by
    intro device worker worker' hgood huser huid _ other hother
    cases hother
    rw [huid]
    exact hgood worker huser
  ordinary := by
    intro device request hordinary
    cases request <;> trivial
  account := by
    intro device email password
    exact ⟨trivial, trivial, trivial⟩
  session := by
    intro device user
    trivial
  ownSet := by
    intro device uid path value hsigned hpath other haddress
    exact ⟨uid, hsigned, addressesUser_underUser hpath haddress⟩
  ownRemove := by
    intro device uid path hsigned hpath other haddress
    exact ⟨uid, hsigned, addressesUser_underUser hpath haddress⟩
  completedSet := by
    intro device worker value hgood huser other haddress
    obtain ⟨account, hsigned, huid⟩ := hgood worker huser
    rw [huid] at haddress
    exact ⟨account, hsigned, addressesUser_underUser
      (SessionPolicy.underUser_dataPath account) haddress⟩
  completedEntry := by
    intro device worker country state city area value hgood huser other
      haddress
    obtain ⟨account, hsigned, huid⟩ := hgood worker huser
    rw [huid] at haddress
    exact ⟨account, hsigned, addressesUser_directoryPath haddress⟩
  toClient := by
    intro device client _
    trivial
  toWorker := by
    intro device worker _ _
    trivial
  toComplement := by
    intro device
    exact ⟨trivial, trivial⟩
  submit := by
    intro device _
    trivial

/-- In every run in which a role choice that finds no worker record is made
only while the session holds no worker of another account, every write goes
to the account signed in. -/
theorem no_cross_account_write {DeviceId : Type} [DecidableEq DeviceId]
    {config : World DeviceId}
    (hreach : app.Reaches ownWrites.Allowed (World.initial DeviceId) config)
    (device : DeviceId) (action : Action) (request : Request)
    (hpending : config.pending device = some (action, request)) :
    OwnWrite (config.locals device) request :=
  ownWrites.guar_of_reaches hreach hpending

def clientWrite : List (Event Unit Action Oracle) :=
  toRegisterForm .cliente ++
    perform (registers (registerForm "Bruno Lima" "bruno@folium.work"))
      firstUid 4

theorem no_cross_account_write_clientWrite :
    ∃ config data,
      app.Reaches ownWrites.Allowed (World.initial Unit) config ∧
      config.pending () =
        some (registers (registerForm "Bruno Lima" "bruno@folium.work"),
          .set "users/u1/data" data) ∧
      OwnWrite (config.locals ()) (.set "users/u1/data" data) := by
  have hrun : ∃ config data,
      app.run (World.initial Unit) clientWrite = some config ∧
      config.pending () =
        some (registers (registerForm "Bruno Lima" "bruno@folium.work"),
          .set "users/u1/data" data) := ⟨_, _, rfl, rfl⟩
  have hallowed :
      CallSequences.EachAllowed app.step ownWrites.Allowed (World.initial Unit) clientWrite :=
    ⟨trivial, trivial, trivial, trivial, trivial, trivial, trivial, trivial,
      trivial, trivial, trivial, trivial, trivial, trivial, trivial⟩
  obtain ⟨config, data, hrun, hpending⟩ := hrun
  have hreach := CallSequences.Reaches.refl.run clientWrite hallowed hrun
  exact ⟨config, data, hreach, hpending,
    no_cross_account_write hreach () _ _ hpending⟩

/-- Two registrations as workers on one device; then the first account logs
in, finds no record of itself and completes the profile that the session
still holds. -/
def staleSession : List (Event Unit Action Oracle) :=
  toRegisterForm .trabalhador ++
    perform (registers (registerForm "Bruno Lima" "bruno@folium.work"))
      firstUid 6 ++
    perform .back firstUid 1 ++ perform .back firstUid 1 ++
    perform (.chooseType .trabalhador) firstUid 1 ++
    perform (registers (registerForm "Ana Souza" "ana@folium.work"))
      secondUid 6 ++
    perform .back firstUid 1 ++ perform .back firstUid 1 ++
    perform .back firstUid 1 ++
    perform (.login "bruno@folium.work" "secret") firstUid 4 ++
    perform .workerChoice firstUid 4 ++
    perform (.finishComplement complementForm) firstUid 3

def pendingWrite (config : World Unit) : Option (String × Option Segment) :=
  match config.pending () with
  | some (_, .set path _) => some (path, (config.locals ()).signedIn)
  | _ => none

theorem pendingWrite_staleSession :
    (app.run (World.initial Unit) staleSession).map pendingWrite =
      some (some ("users/u2/data", some firstUid)) := by
  decide +kernel

/-- The second account's profile is about to be written while the first is
signed in. -/
theorem stale_session_writes_other_account :
    ¬ ∀ config : World Unit,
      app.Reaches (fun _ _ => True) (World.initial Unit) config →
        ∀ device action request,
          config.pending device = some (action, request) →
            OwnWrite (config.locals device) request := by
  intro hall
  obtain ⟨config, hrun, hwrite⟩ :=
    Option.map_eq_some_iff.mp pendingWrite_staleSession
  have hreach :=
    CallSequences.Reaches.refl.run staleSession
      (CallSequences.eachAllowed_of_forall (fun _ _ => trivial) _ _) hrun
  unfold pendingWrite at hwrite
  split at hwrite
  next action path data hpending =>
    simp only [Option.some.injEq, Prod.mk.injEq] at hwrite
    obtain ⟨rfl, hsigned⟩ := hwrite
    have hown := hall config hreach () action _ hpending
    obtain ⟨account, haccount, huid⟩ := hown "u2" (Or.inl ⟨["data"], rfl⟩)
    rw [hsigned] at haccount
    cases haccount
    exact absurd huid (by decide)
  next => cases hwrite

/-! ## The session is of the kind a screen casts it to -/

def Device.SessionIsClient (device : Device) : Prop :=
  ∃ client, device.currentUser = some (.client client)

def Device.SessionIsWorker (device : Device) : Prop :=
  ∃ worker, device.currentUser = some (.worker worker)

def Device.SessionIsLocatedWorker (device : Device) : Prop :=
  ∃ worker, device.currentUser = some (.worker worker) ∧
    worker.location ≠ none

/-- The session as each screen needs it: the main screens when they are
shown, the completion form when its controller reads the worker. -/
def RoleReady (device : Device) : Request → Prop
  | .navigate navigation =>
      (navigation.shows = some .mainWorker →
        device.SessionIsLocatedWorker) ∧
      (navigation.shows = some .mainClient → device.SessionIsClient)
  | .getSession => device.SessionIsLocatedWorker
  | _ => True

def roleCasts : SessionPolicy where
  guar := RoleReady
  good := Device.SessionIsLocatedWorker
  choice := Device.SessionIsWorker
  good_congr := by
    intro device next _ huser hgood
    obtain ⟨worker, hworker, hlocation⟩ := hgood
    exact ⟨worker, huser.trans hworker, hlocation⟩
  good_of_choice := by
    intro device hlocated hchoice
    obtain ⟨worker, hworker⟩ := hchoice
    exact ⟨worker, hworker, hlocated worker hworker⟩
  good_registered := by
    intro device uid worker _ huser _ hlocation
    exact ⟨worker, huser, hlocation⟩
  good_completed := by
    intro device worker worker' _ _ _ hlocation
    exact ⟨worker', rfl, hlocation⟩
  ordinary := by
    intro device request hordinary
    cases request with
    | navigate navigation =>
        constructor
        · intro hshows
          exact absurd hshows hordinary.2.1
        · intro hshows
          exact absurd hshows hordinary.1
    | getSession => exact hordinary.elim
    | _ => trivial
  account := by
    intro device email password
    exact ⟨trivial, trivial, trivial⟩
  session := by
    intro device user
    trivial
  ownSet := by
    intro device uid path value _ _
    trivial
  ownRemove := by
    intro device uid path _ _
    trivial
  completedSet := by
    intro device worker value _ _
    trivial
  completedEntry := by
    intro device worker country state city area value _ _
    trivial
  toClient := by
    intro device client huser
    refine ⟨?_, fun _ => ⟨client, huser⟩⟩
    intro hshows
    cases hshows
  toWorker := by
    intro device worker huser hlocation
    refine ⟨fun _ => ⟨worker, huser, hlocation⟩, ?_⟩
    intro hshows
    cases hshows
  toComplement := by
    intro device
    simp [RoleReady, Navigation.shows]
  submit := by
    intro device hgood
    exact hgood

/-- In every run in which a role choice that finds no worker record is made
only while the session holds a worker, no cast of the session fails. -/
theorem role_casts_never_fail {DeviceId : Type} [DecidableEq DeviceId]
    {config : World DeviceId}
    (hreach : app.Reaches roleCasts.Allowed (World.initial DeviceId) config)
    (device : DeviceId) (action : Action) (request : Request)
    (hpending : config.pending device = some (action, request)) :
    RoleReady (config.locals device) request :=
  roleCasts.guar_of_reaches hreach hpending

def clientRegistration : List (Event Unit Action Oracle) :=
  toRegisterForm .cliente ++
    perform (registers (registerForm "Bruno Lima" "bruno@folium.work"))
      firstUid 6

theorem role_casts_never_fail_clientRegistration :
    ∃ config,
      app.Reaches roleCasts.Allowed (World.initial Unit) config ∧
      config.pending () =
        some (registers (registerForm "Bruno Lima" "bruno@folium.work"),
          .navigate (.pushAndRemoveUntil .mainClient)) ∧
      RoleReady (config.locals ())
        (.navigate (.pushAndRemoveUntil .mainClient)) := by
  have hrun : ∃ config,
      app.run (World.initial Unit) clientRegistration = some config ∧
      config.pending () =
        some (registers (registerForm "Bruno Lima" "bruno@folium.work"),
          .navigate (.pushAndRemoveUntil .mainClient)) :=
    ⟨_, rfl, rfl⟩
  have hallowed :
      CallSequences.EachAllowed app.step roleCasts.Allowed (World.initial Unit)
        clientRegistration :=
    ⟨trivial, trivial, trivial, trivial, trivial, trivial, trivial, trivial,
      trivial, trivial, trivial, trivial, trivial, trivial, trivial, trivial,
      trivial⟩
  obtain ⟨config, hrun, hpending⟩ := hrun
  have hreach := CallSequences.Reaches.refl.run clientRegistration hallowed hrun
  exact ⟨config, hreach, hpending,
    role_casts_never_fail hreach () _ _ hpending⟩

/-- A client asks for the other role and fills in the completion form. -/
def clientTurnsWorker : List (Event Unit Action Oracle) :=
  toRegisterForm .cliente ++
    perform (registers (picturedForm "Bruno Lima" "bruno@folium.work"))
      firstUid 9 ++
    perform .settings firstUid 1 ++ perform .changeView firstUid 1 ++
    perform .workerChoice firstUid 4 ++
    perform (.finishComplement complementForm) firstUid 1

def castsClient (config : World Unit) : Bool :=
  match config.pending (), (config.locals ()).currentUser with
  | some (_, .getSession), some (.client _) => true
  | _, _ => false

theorem castsClient_clientTurnsWorker :
    (app.run (World.initial Unit) clientTurnsWorker).map castsClient =
      some true := by
  decide +kernel

theorem client_turning_worker_fails_cast :
    ¬ ∀ config : World Unit,
      app.Reaches (fun _ _ => True) (World.initial Unit) config →
        ∀ device action request,
          config.pending device = some (action, request) →
            RoleReady (config.locals device) request := by
  intro hall
  obtain ⟨config, hrun, hcast⟩ :=
    Option.map_eq_some_iff.mp castsClient_clientTurnsWorker
  have hreach :=
    CallSequences.Reaches.refl.run clientTurnsWorker
      (CallSequences.eachAllowed_of_forall (fun _ _ => trivial) _ _) hrun
  unfold castsClient at hcast
  split at hcast
  next action client hpending huser =>
    have hready := hall config hreach () action _ hpending
    obtain ⟨worker, hworker, -⟩ := hready
    rw [huser] at hworker
    cases hworker
  next => cases hcast

end FoliumApp
