import FoliumApp.AlbumScreen
import FoliumApp.SystemState

/-!
# What holds in every state

Any number of devices run the app over the same services; their requests are
served in any order and may fail, and a device may be killed at any time.  In
every state reached so the store holds profiles that passed the forms, albums
that load and nothing else, and whatever a device asks for is its account's.
-/

namespace FoliumApp

open PathTree AsyncProgram CallSequences

/-! ## A run -/

def inXapuri (country state city : String) : Prop :=
  country = "BR" ∧ state = "Acre" ∧ city = "Xapuri"

/-- A worker registers, completes the profile and adds a photo. -/
def photographedWork : List (Event Unit Action Oracle) :=
  completedRegistration ++ perform .photos firstUid 3 ++
    perform .addPhoto firstUid 1 ++
    perform (.sendPhoto "Jardim" (some ⟨[]⟩)) firstUid 10

/-- The same up to the reading of the album. -/
def openedAlbum : List (Event Unit Action Oracle) :=
  completedRegistration ++ perform .photos firstUid 2

theorem photographedWork_reached :
    ∃ world : World Unit,
      app.run (World.initial Unit) photographedWork = some world ∧
      app.Reaches (fun _ event => NamesOffered inXapuri event)
        (World.initial Unit) world := by
  have hrun :
      (app.run (World.initial Unit) photographedWork).isSome = true := by
    decide +kernel
  obtain ⟨world, hworld⟩ := Option.isSome_iff_exists.mp hrun
  have hoffered : ∀ event ∈ photographedWork,
      NamesOffered inXapuri event := by
    simp [photographedWork, completedRegistration, toRegisterForm, perform,
      NamesOffered, inXapuri, registers, picturedForm, registerForm]
  exact ⟨world, hworld, Reaches.refl.run photographedWork
    (eachAllowed_of_forall_mem hoffered _) hworld⟩

section Reached

variable {DeviceId : Type} [DecidableEq DeviceId] {world : World DeviceId}
  {offered : String → String → String → Prop}

theorem sound_of_reaches
    (hreach : app.Reaches (fun _ event => NamesOffered offered event)
      (World.initial DeviceId) world) :
    (world.registry offered).Sound world.shared := by
  obtain ⟨noted, rfl, -, hconsistent⟩ :=
    noted_of_reaches (fun _ _ hallowed => hallowed) hreach
  exact hconsistent.sound

/-! ## Profiles -/

theorem Registry.Sound.profile {registry : Registry} {shared : Backend}
    (hsound : registry.Sound shared) (uid : Segment) :
    shared.read (dataPath uid.val) = .null ∨
      (∃ client,
        decodedClient (shared.read (dataPath uid.val)) = .ok client ∧
          registry.Admits uid client.toUser) ∧
      ∀ worker,
        decodedWorker (shared.read (dataPath uid.val)) = .ok worker →
          registry.Admits uid worker.toUser ∧
            ∃ form, WorkerComplement.refusal form = none ∧
              worker.FilledIn form := by
  rcases hsound.records uid with hnull | hrecord
  · exact Or.inl hnull
  · right
    refine ⟨hrecord.decodedClient, ?_⟩
    intro worker hworker
    exact hrecord.of_decodedWorker hworker

/-- A stored profile is one the registration form let through, for the
account it lies with and under its e-mail address; if it is a worker's, the
completion form let it through as well. -/
theorem stored_profiles_passed_forms
    (hreach : app.Reaches (fun _ event => NamesOffered offered event)
      (World.initial DeviceId) world) (uid : Segment) :
    world.shared.read (dataPath uid.val) = .null ∨
      (∃ client,
        decodedClient (world.shared.read (dataPath uid.val)) = .ok client ∧
          (world.registry offered).Admits uid client.toUser) ∧
      ∀ worker,
        decodedWorker (world.shared.read (dataPath uid.val)) = .ok worker →
          (world.registry offered).Admits uid worker.toUser ∧
            ∃ form, WorkerComplement.refusal form = none ∧
              worker.FilledIn form :=
  (sound_of_reaches hreach).profile uid

theorem stored_profiles_passed_forms_photographedWork :
    ∃ world : World Unit,
      app.run (World.initial Unit) photographedWork = some world ∧
      (world.shared.read (dataPath firstUid.val) = .null ∨
        (∃ client,
          decodedClient (world.shared.read (dataPath firstUid.val)) =
              .ok client ∧
            (world.registry inXapuri).Admits firstUid client.toUser) ∧
        ∀ worker,
          decodedWorker (world.shared.read (dataPath firstUid.val)) =
              .ok worker →
            (world.registry inXapuri).Admits firstUid worker.toUser ∧
              ∃ form, WorkerComplement.refusal form = none ∧
                worker.FilledIn form) := by
  obtain ⟨world, hworld, hreach⟩ := photographedWork_reached
  exact ⟨world, hworld, stored_profiles_passed_forms hreach firstUid⟩

/-- With the account signed in and the record read, the client choice goes on
exactly when there is a record, the worker choice always; and the profile
either puts in the session passed the forms for that account. -/
theorem role_choices_in_reached_states
    (hreach : app.Reaches (fun _ event => NamesOffered offered event)
      (World.initial DeviceId) world)
    {oracle : ℕ → Oracle} {device : Device} {uid : Segment}
    (hread : RecordRead oracle device uid) :
    ((world.shared.read (dataPath uid.val) = .null ∧
        ∃ error, ∀ success,
          App.run (UserChoiceController.clientChoice success) oracle
              world.shared device =
            (.error error, world.shared, device)) ∨
      (world.shared.read (dataPath uid.val) ≠ .null ∧
        ∃ client, (world.registry offered).Admits uid client.toUser ∧
          ∀ success,
            App.run (UserChoiceController.clientChoice success) oracle
                world.shared device =
              App.run success (fun index => oracle (index + 3)) world.shared
                { device with currentUser := some (.client client) })) ∧
    ((∀ success,
        App.run (UserChoiceController.workerChoice success) oracle
            world.shared device =
          App.run (success false) (fun index => oracle (index + 2))
            world.shared device) ∨
      ∃ worker form, (world.registry offered).Admits uid worker.toUser ∧
        WorkerComplement.refusal form = none ∧ worker.FilledIn form ∧
        ∀ success : Bool → App Unit, ReturnsNormally (success true) →
          App.run (UserChoiceController.workerChoice success) oracle
              world.shared device =
            App.run (success true) (fun index => oracle (index + 3))
              world.shared
              { device with currentUser := some (.worker worker) }) := by
  have hprofile := (sound_of_reaches hreach).profile uid
  constructor
  · by_cases hnull : world.shared.read (dataPath uid.val) = .null
    · left
      obtain ⟨error, herror⟩ : ∃ error,
          decodedClient (world.shared.read (dataPath uid.val)) =
            .error error := by
        rw [hnull]
        exact ⟨_, rfl⟩
      exact ⟨hnull, error, clientChoice_of_error hread herror⟩
    · right
      obtain ⟨⟨client, hclient, hadmits⟩, -⟩ := hprofile.resolve_left hnull
      exact ⟨hnull, client, hadmits, clientChoice_of_ok hread hclient⟩
  · cases hworker :
        decodedWorker (world.shared.read (dataPath uid.val)) with
    | error error => exact Or.inl (workerChoice_of_error hread hworker)
    | ok worker =>
        rcases hprofile with hnull | ⟨-, hfilled⟩
        · rw [hnull] at hworker
          cases hworker
        · obtain ⟨hadmits, form, haccepted, hfields⟩ :=
            hfilled worker hworker
          exact Or.inr ⟨worker, form, hadmits, haccepted, hfields,
            fun success => workerChoice_of_ok hread hworker⟩

theorem role_choices_in_reached_states_photographedWork :
    ∃ world : World Unit,
      app.run (World.initial Unit) photographedWork = some world ∧
      ((world.shared.read (dataPath firstUid.val) = .null ∧
          ∃ error, ∀ success,
            App.run (UserChoiceController.clientChoice success)
                (failingAt 9) world.shared signedInDevice =
              (.error error, world.shared, signedInDevice)) ∨
        (world.shared.read (dataPath firstUid.val) ≠ .null ∧
          ∃ client, (world.registry inXapuri).Admits firstUid client.toUser ∧
            ∀ success,
              App.run (UserChoiceController.clientChoice success)
                  (failingAt 9) world.shared signedInDevice =
                App.run success (fun index => failingAt 9 (index + 3))
                  world.shared
                  { signedInDevice with
                    currentUser := some (.client client) })) := by
  obtain ⟨world, hworld, hreach⟩ := photographedWork_reached
  exact ⟨world, hworld,
    (role_choices_in_reached_states hreach recordRead_signedInDevice).1⟩

/-! ## Sessions -/

/-- E-mail addresses and uids tell the accounts apart; whoever is signed in
has one, and whoever is in a session has the uid and the address of one. -/
theorem sessions_have_accounts
    (hreach : app.Reaches (fun _ event => NamesOffered offered event)
      (World.initial DeviceId) world) :
    (world.shared.accounts.map Account.email).Nodup ∧
      (world.shared.accounts.map Account.uid).Nodup ∧
      (∀ device uid, (world.locals device).signedIn = some uid →
        ∃ account ∈ world.shared.accounts, account.uid = uid) ∧
      ∀ device user, (world.locals device).currentUser = some user →
        ∃ account ∈ world.shared.accounts,
          (world.registry offered).Admits account.uid user.toUser ∧
            user.toUser.email = some account.email := by
  obtain ⟨noted, rfl, -, hconsistent⟩ :=
    noted_of_reaches (fun _ _ hallowed => hallowed) hreach
  refine ⟨hconsistent.sound.emails, hconsistent.sound.uids, ?_, ?_⟩
  · intro device uid huid
    obtain ⟨email, account, hmem, hfound, -⟩ :=
      hconsistent.knows device uid huid
    exact ⟨account, hmem, hfound⟩
  · intro device user huser
    obtain ⟨uid, hadmits⟩ := hconsistent.sessions device user huser
    obtain ⟨email, hemail, ⟨account, hmem, rfl, rfl⟩, -⟩ := hadmits.email
    exact ⟨account, hmem, hadmits, hemail⟩

theorem sessions_have_accounts_photographedWork :
    ∃ world : World Unit,
      app.run (World.initial Unit) photographedWork = some world ∧
      (world.shared.accounts.map Account.email).Nodup ∧
      (world.shared.accounts.map Account.uid).Nodup ∧
      (∀ device uid, (world.locals device).signedIn = some uid →
        ∃ account ∈ world.shared.accounts, account.uid = uid) ∧
      ∀ device user, (world.locals device).currentUser = some user →
        ∃ account ∈ world.shared.accounts,
          (world.registry inXapuri).Admits account.uid user.toUser ∧
            user.toUser.email = some account.email := by
  obtain ⟨world, hworld, hreach⟩ := photographedWork_reached
  exact ⟨world, hworld, sessions_have_accounts hreach⟩

/-! ## Requests -/

/-- Requests for data of one account.  Profiles and directory entries are
written for whoever is in the session. -/
def Request.ForAccount : Request → Prop
  | .once _ => True
  | .putFile _ _ => True
  | .getDownloadURL _ => True
  | .delete _ => True
  | .remove _ => True
  | .set path _ => ∃ (owner : Segment) (key : String),
      ¬ Json.Apart (pieces path) (photosNode owner ++ [key])
  | _ => False

/-- The request is within the data of the account. -/
def Request.OfAccount (uid : Segment) : Request → Prop
  | .once path => path = dataPath uid.val ∨ path = photosPath uid.val
  | .putFile path _ => ∃ name, pieces path = imageObject uid name
  | .getDownloadURL path => ∃ name, pieces path = imageObject uid name
  | .delete path => ∃ key, path = imagePath uid.val key
  | .remove path =>
      ∃ key : Segment, pieces path = photosNode uid ++ [key.val]
  | .set path value =>
      ∃ (key : Segment) (description url : String),
        pieces path = photosNode uid ++ [key.val] ∧
          value = photoValue description url key
  | _ => True

theorem Registry.Lawful.ofAccount {registry : Registry} {action : Action}
    {device : Device} {phase : Phase} {request : Request}
    (hlawful : registry.Lawful action device phase request)
    (hfor : request.ForAccount) :
    ∃ uid, device.signedIn = some uid ∧ request.OfAccount uid := by
  have hentry : ∀ (worker : Worker) (location : Location)
      (form : Complement), ¬ ∃ (owner : Segment) (key : String),
        ¬ Json.Apart (entryNode worker location form)
          (photosNode owner ++ [key]) := by
    rintro worker location form ⟨owner, key, hnot⟩
    exact hnot (apart_entryNode _ _ _ _)
  have hprofile : ∀ uid : Segment, ¬ ∃ (owner : Segment) (key : String),
      ¬ Json.Apart (pieces (dataPath uid.val))
        (photosNode owner ++ [key]) := by
    rintro uid ⟨owner, key, hnot⟩
    rw [pieces_dataPath_segment] at hnot
    exact hnot (apart_photosNode_recordPieces owner uid key).symm
  cases hlawful with
  | readRecord hsigned => exact ⟨_, hsigned, Or.inl rfl⟩
  | readPhotos hsigned => exact ⟨_, hsigned, Or.inr rfl⟩
  | @putProfilePicture uid file hsigned =>
      exact ⟨uid, hsigned, pieces_profileImagePath uid⟩
  | @addressProfilePicture uid hsigned =>
      exact ⟨uid, hsigned, pieces_profileImagePath uid⟩
  | @putImage uid key file hsigned =>
      exact ⟨uid, hsigned, key, pieces_imagePath_segment uid key⟩
  | @addressImage uid key hsigned =>
      exact ⟨uid, hsigned, key, pieces_imagePath_segment uid key⟩
  | deleteImage haction hsigned => exact ⟨_, hsigned, _, rfl⟩
  | @removePhoto uid name uidPhoto haction hname hsigned =>
      refine ⟨uid, hsigned, name, ?_⟩
      rw [pieces_photoPath_user uid.property, hname]
      rfl
  | @writePhoto uid key description url huid hsigned =>
      exact ⟨uid, hsigned, key, description, url,
        pieces_photoPath_segment uid key, rfl⟩
  | writeClient account hadmits hlocation haddress hfavorites =>
      exact absurd hfor (hprofile _)
  | writeWorker account hcompletion => exact absurd hfor (hprofile _)
  | listWorker account time hcompletion => exact absurd hfor (hentry _ _ _)
  | listUnsaved account time hcompletion => exact absurd hfor (hentry _ _ _)
  | _ => exact hfor.elim

/-- What a device reads, what it stores, asks the address of, deletes or
removes, and every photo it writes is of the account it is signed in with at
that moment. -/
theorem requests_stay_in_account
    (hreach : app.Reaches (fun _ event => NamesOffered offered event)
      (World.initial DeviceId) world) {device : DeviceId} {action : Action}
    {request : Request}
    (hpending : world.pending device = some (action, request))
    (hfor : request.ForAccount) :
    ∃ uid, (world.locals device).signedIn = some uid ∧
      request.OfAccount uid := by
  obtain ⟨noted, rfl, -, hconsistent⟩ :=
    noted_of_reaches (fun _ _ hallowed => hallowed) hreach
  exact (hconsistent.lawful hpending).ofAccount hfor

def awaitsPhotos (world : World Unit) : Bool :=
  match world.pending () with
  | some (.photos, .once _) => true
  | _ => false

theorem requests_stay_in_account_openedAlbum :
    ∃ world path,
      app.run (World.initial Unit) openedAlbum = some world ∧
      world.pending () = some (.photos, .once path) ∧
      ∃ uid, (world.locals ()).signedIn = some uid ∧
        (Request.once path).OfAccount uid := by
  have hrun :
      (app.run (World.initial Unit) openedAlbum).any awaitsPhotos = true := by
    decide +kernel
  have hoffered : ∀ event ∈ openedAlbum, NamesOffered inXapuri event := by
    simp [openedAlbum, completedRegistration, toRegisterForm, perform,
      NamesOffered, inXapuri, registers, picturedForm, registerForm]
  cases hworld : app.run (World.initial Unit) openedAlbum with
  | none =>
      rw [hworld] at hrun
      cases hrun
  | some world =>
      rw [hworld, Option.any_some] at hrun
      unfold awaitsPhotos at hrun
      split at hrun
      next path hpending =>
        have hreach := Reaches.refl.run openedAlbum
          (eachAllowed_of_forall_mem hoffered _) hworld
        exact ⟨world, path, rfl, hpending,
          requests_stay_in_account hreach hpending trivial⟩
      next => cases hrun

/-! ## Albums -/

/-- A photo as it is recorded. -/
structure StoredPhoto where
  key : Segment
  description : String
  imageUrl : String

def StoredPhoto.photo (photo : StoredPhoto) : Photo :=
  { description := some photo.description
    imageUrl := some photo.imageUrl, uidImage := some photo.key.val }

def StoredPhoto.field (photo : StoredPhoto) : String × Json :=
  (photo.key.val, photo.photo.toJson)

theorem StoredPhoto.map_fst_field (photos : List StoredPhoto) :
    (photos.map StoredPhoto.field).map Prod.fst =
      (photos.map StoredPhoto.key).map Subtype.val := by
  rw [List.map_map, List.map_map]
  rfl

theorem StoredPhoto.mapM_decodedPhoto (photos : List StoredPhoto) :
    (photos.map StoredPhoto.field).mapM decodedPhoto =
      .ok (photos.map StoredPhoto.photo) := by
  induction photos with
  | nil => rfl
  | cons photo rest ih =>
      have hphoto : decodedPhoto photo.field = .ok photo.photo := rfl
      rw [List.map_cons, List.mapM_cons, hphoto, ih]
      rfl

/-- What a load delivers; an empty album is not delivered. -/
def StoredPhoto.delivered (photos : List StoredPhoto) :
    Option (List Photo) :=
  if photos = [] then none else some (photos.map StoredPhoto.photo)

theorem StoredPhoto.decodedPhotos (photos : List StoredPhoto) :
    FoliumApp.decodedPhotos (Json.ofFields (photos.map StoredPhoto.field)) =
      .ok (StoredPhoto.delivered photos) := by
  cases photos with
  | nil => rfl
  | cons photo rest =>
      unfold FoliumApp.decodedPhotos
      have hmap := StoredPhoto.mapM_decodedPhoto (photo :: rest)
      rw [List.map_cons] at hmap ⊢
      simp only [Json.ofFields, asMap, hmap]
      rfl

theorem photosNode_not_leaf {registry : Registry} {backend : Backend}
    (hsound : registry.Sound backend) (uid : Segment) :
    (backend.database.get (photosNode uid)).isLeaf = false := by
  by_contra hleaf
  rw [Bool.not_eq_false] at hleaf
  obtain ⟨place, hplace, habove⟩ := hsound.layout _ hleaf
  cases hplace with
  | @record owner huid =>
      exact (apart_photosNode_recordPieces uid owner "").symm.1
        (habove.trans (List.prefix_append _ _))
  | @photo owner huid key =>
      have hlength := habove.length_le
      simp [photosNode] at hlength
  | entry hcompletion => exact (apart_entryNode _ _ _ _).1 habove

/-- The photos of a sound store, one for each record and under its key. -/
theorem photos_of_sound {registry : Registry} {backend : Backend}
    (hsound : registry.Sound backend) (uid : Segment) :
    ∃ photos : List StoredPhoto,
      (photos.map StoredPhoto.key).Nodup ∧
        backend.database.get (photosNode uid) =
          Json.ofFields (photos.map StoredPhoto.field) := by
  have hkept := hsound.canonical (photosNode uid)
  have hstored : ∀ field ∈
      (backend.database.get (photosNode uid)).fieldsOf,
        ∃ photo : StoredPhoto, photo.field = field := by
    rintro ⟨key, value⟩ hmem
    have hrecord : backend.photoRecord uid key = value := by
      rw [photoRecord_eq_child]
      exact Json.lookup_of_mem hkept.distinct hmem
    have hholds := hsound.photos uid key
    rw [hrecord] at hholds
    rcases hholds with hnull | ⟨name, rfl, description, url, rfl⟩
    · exact absurd hnull (hkept.nonNull _ hmem)
    · exact ⟨⟨name, description, url⟩, rfl⟩
  have hrange : (backend.database.get (photosNode uid)).fieldsOf ∈
      Set.range (List.map StoredPhoto.field) := by
    rw [Set.range_list_map]
    exact hstored
  obtain ⟨photos, hphotos⟩ := hrange
  refine ⟨photos, ?_, ?_⟩
  · have hdistinct := hkept.distinct
    rw [← hphotos, StoredPhoto.map_fst_field] at hdistinct
    exact List.Nodup.of_map _ hdistinct
  · rw [hphotos]
    have hleaf := photosNode_not_leaf hsound uid
    cases hnode : backend.database.get (photosNode uid) with
    | null => rfl
    | obj fields =>
        cases fields with
        | nil =>
            rw [hnode] at hkept
            exact absurd rfl hkept.nonempty
        | cons field rest => rfl
    | _ =>
        rw [hnode] at hleaf
        cases hleaf

/-- Whatever has happened, an album loads: the photos of the account are
those of its records, each complete and under its own key, and a load of the
account delivers them. -/
theorem albums_load_in_every_state
    (hreach : app.Reaches (fun _ event => NamesOffered offered event)
      (World.initial DeviceId) world) (uid : Segment) :
    Reading (world.shared.read (photosPath uid.val)) ∧
      ∃ photos : List StoredPhoto,
        (photos.map StoredPhoto.key).Nodup ∧
        (∀ key, world.shared.photoRecord uid key ≠ .null ↔
          ∃ photo ∈ photos, photo.key.val = key ∧
            world.shared.photoRecord uid key = photo.photo.toJson) ∧
        ∀ (oracle : ℕ → Oracle) (device : Device),
          (oracle 0).ok = true → (oracle 1).ok = true →
            isValidPathString (photosPath uid.val) = true →
              App.run PhotosController.loadPictures oracle world.shared
                  (device.signedInAs uid) =
                (.ok (StoredPhoto.delivered photos), world.shared,
                  device.signedInAs uid) := by
  have hsound := sound_of_reaches hreach
  have hkept := hsound.canonical (photosNode uid)
  have hread : world.shared.read (photosPath uid.val) =
      world.shared.database.get (photosNode uid) := by
    unfold Backend.read
    rw [pieces_photosPath]
  obtain ⟨photos, hdistinct, hnode⟩ := photos_of_sound hsound uid
  have hlookup : ∀ key, world.shared.photoRecord uid key =
      Json.lookup key (photos.map StoredPhoto.field) := by
    intro key
    rw [photoRecord_eq_child, hnode, Json.child_ofFields]
  refine ⟨?_, photos, hdistinct, ?_, ?_⟩
  · rw [hread]
    exact ⟨hkept.distinct, hkept.nonempty⟩
  · intro key
    constructor
    · intro hrecord
      rw [hlookup] at hrecord ⊢
      rcases Json.lookup_eq_null_or_mem key
        (photos.map StoredPhoto.field) with hnull | hmem
      · exact absurd hnull hrecord
      · obtain ⟨photo, hphoto, hfield⟩ := List.mem_map.mp hmem
        rw [StoredPhoto.field, Prod.mk.injEq] at hfield
        exact ⟨photo, hphoto, hfield.1, hfield.2.symm⟩
    · rintro ⟨photo, -, -, hrecord⟩
      rw [hrecord]
      simp [Photo.toJson]
  · intro oracle device huser hload hpath
    rw [loadPictures_run, huser, hload, hpath, hread, hnode,
      StoredPhoto.decodedPhotos]
    rfl

theorem albums_load_in_every_state_photographedWork :
    ∃ world : World Unit,
      app.run (World.initial Unit) photographedWork = some world ∧
      Reading (world.shared.read (photosPath firstUid.val)) ∧
      ∃ photos : List StoredPhoto,
        (photos.map StoredPhoto.key).Nodup ∧
        (∀ key, world.shared.photoRecord firstUid key ≠ .null ↔
          ∃ photo ∈ photos, photo.key.val = key ∧
            world.shared.photoRecord firstUid key = photo.photo.toJson) ∧
        ∀ (oracle : ℕ → Oracle) (device : Device),
          (oracle 0).ok = true → (oracle 1).ok = true →
            isValidPathString (photosPath firstUid.val) = true →
              App.run PhotosController.loadPictures oracle world.shared
                  (device.signedInAs firstUid) =
                (.ok (StoredPhoto.delivered photos), world.shared,
                  device.signedInAs firstUid) := by
  obtain ⟨world, hworld, hreach⟩ := photographedWork_reached
  exact ⟨world, hworld, albums_load_in_every_state hreach firstUid⟩

/-! ## The store as a whole -/

/-- The store has no leaf outside the places written for accounts, every map
in it is proper, and every object is an image of an account. -/
theorem services_hold_only_own_data
    (hreach : app.Reaches (fun _ event => NamesOffered offered event)
      (World.initial DeviceId) world) :
    world.shared.database.LeavesIn (world.registry offered).Place ∧
      world.shared.database.Canonical ∧
      ∀ path file, world.shared.storage path = some file →
        ∃ account ∈ world.shared.accounts, ∃ name : Segment,
          path = imageObject account.uid name := by
  have hsound := sound_of_reaches hreach
  refine ⟨hsound.layout, hsound.canonical, ?_⟩
  intro path file hstored
  obtain ⟨uid, name, ⟨email, account, hmem, rfl, -⟩, hpath⟩ :=
    hsound.objects path (by simp [hstored])
  exact ⟨account, hmem, name, hpath⟩

theorem services_hold_only_own_data_photographedWork :
    ∃ world : World Unit,
      app.run (World.initial Unit) photographedWork = some world ∧
      world.shared.database.LeavesIn (world.registry inXapuri).Place ∧
      world.shared.database.Canonical ∧
      ∀ path file, world.shared.storage path = some file →
        ∃ account ∈ world.shared.accounts, ∃ name : Segment,
          path = imageObject account.uid name := by
  obtain ⟨world, hworld, hreach⟩ := photographedWork_reached
  exact ⟨world, hworld, services_hold_only_own_data hreach⟩

end Reached

end FoliumApp
