import FoliumApp.AlbumAcrossDevices

/-!
# The directory filled from several devices at once

With names of places that make paths of their own, the directory lists
nobody but accounts whose profile was completed, at a place that was on
offer, and never forgets an entry.  If besides no request fails for an
outside reason and no busy device is killed, whoever has a completed profile
is listed at its place, or a device is about to list it.
-/

namespace FoliumApp

open PathTree AsyncProgram CallSequences

/-! ## Places of completed profiles -/

/-- The names on offer make paths of their own. -/
def AllListable (offered : String → String → String → Prop) : Prop :=
  ∀ country state city, offered country state city →
    Listable country ∧ Listable state ∧ Listable city

/-- The place a completed profile names. -/
def completedPlace (location : Location) (form : Complement) :
    DirectoryPlace :=
  { country := interpolate location.country
    state := interpolate location.state
    city := interpolate location.city
    area := toString form.category.uid }

section Places

variable {registry : Registry} {uid : Segment} {worker : Worker}
  {location : Location} {form : Complement} {backend : Backend}

theorem Registry.Completion.offered
    (hcompletion : registry.Completion uid worker location form) :
    registry.offered (completedPlace location form).country
      (completedPlace location form).state
      (completedPlace location form).city := by
  obtain ⟨country, state, city, hcountry, hstate, hcity, hoffered⟩ :=
    hcompletion.admits.located hcompletion.location_eq
  unfold completedPlace
  rw [hcountry, hstate, hcity]
  exact hoffered

theorem Registry.Completion.workerDirectoryPath_eq
    (hcompletion : registry.Completion uid worker location form) :
    WorkerComplementController.workerDirectoryPath worker location
        form.category.uid =
      directoryPath (completedPlace location form).country
        (completedPlace location form).state
        (completedPlace location form).city
        (completedPlace location form).area uid.val := by
  have huid : worker.uid = some uid.val := hcompletion.admits.uid_eq
  unfold WorkerComplementController.workerDirectoryPath
  rw [huid]
  rfl

theorem Registry.Completion.entryNode_eq
    (hlistable : AllListable registry.offered)
    (hcompletion : registry.Completion uid worker location form) :
    entryNode worker location form =
      (completedPlace location form).entry uid.val := by
  obtain ⟨hcountry, hstate, hcity⟩ := hlistable _ _ _ hcompletion.offered
  unfold entryNode
  rw [hcompletion.workerDirectoryPath_eq]
  exact (pieces_directoryPath_eq_iff _ _ _ _ _).mpr
    ⟨hcountry.1, hstate.1, hcity.1, isSegment_toString _, uid.property⟩

theorem Registry.Completion.valid
    (hlistable : AllListable registry.offered)
    (hcompletion : registry.Completion uid worker location form)
    (huid : Unreserved uid.val) :
    isValidPathString
      (WorkerComplementController.workerDirectoryPath worker location
        form.category.uid) = true := by
  obtain ⟨hcountry, hstate, hcity⟩ := hlistable _ _ _ hcompletion.offered
  rw [hcompletion.workerDirectoryPath_eq]
  exact (isValidPathString_directoryPath_iff _ _ _ _ _).mpr
    ⟨hcountry.2, hstate.2, hcity.2, unreserved_toString_int _, huid⟩

theorem profilePlace_eq (backend : Backend) (uid : Segment) :
    backend.profilePlace uid.val =
      match decodedWorker (backend.read (dataPath uid.val)) with
      | .ok worker => worker.place
      | .error _ => none := by
  unfold Backend.read
  rw [pieces_dataPath_segment]
  rfl

theorem profilePlace_of_completed
    (hcompletion : registry.Completion uid worker location form)
    (hread : backend.read (dataPath uid.val) =
      (completedProfile worker location form).prune) :
    backend.profilePlace uid.val = some (completedPlace location form) := by
  obtain ⟨country, state, city, hcountry, hstate, hcity, -⟩ :=
    hcompletion.admits.located hcompletion.location_eq
  have hdecoded := completedProfile_decoded worker location form
  change decodedWorker _ = _ at hdecoded
  rw [profilePlace_eq, hread, hdecoded]
  simp [Worker.place, completedPlace, hcountry, hstate, hcity, interpolate,
    WorkerComplementController.complete]

end Places

/-! ## Entries stay -/

theorem DirectoryPlace.entry_inj {place other : DirectoryPlace}
    {uid user : String} (heq : place.entry uid = other.entry user) :
    place = other ∧ uid = user := by
  obtain ⟨country, state, city, area⟩ := place
  obtain ⟨country', state', city', area'⟩ := other
  simp only [DirectoryPlace.entry, List.cons.injEq, true_and, and_true]
    at heq
  obtain ⟨rfl, rfl, rfl, rfl, rfl⟩ := heq
  exact ⟨rfl, rfl⟩

section Entries

variable {registry : Registry} {path : List String} {value : Json}

/-- A write at an entry is of an entry, and all others are apart. -/
theorem Registry.Written.at_entry (hlistable : AllListable registry.offered)
    (hwritten : registry.Written path value) (place : DirectoryPlace)
    (uid : String) :
    path = place.entry uid ∧ value ≠ .null ∨
      Json.Apart path (place.entry uid) := by
  have husers : ∀ rest, Json.Apart ("users" :: rest) (place.entry uid) :=
    fun rest => apart_of_head_ne (by decide)
  cases hwritten with
  | record hrecord => exact Or.inr (husers _)
  | photo huid key description url => exact Or.inr (husers _)
  | removal huid key => exact Or.inr (husers _)
  | @entry owner worker location form hcompletion time =>
      rw [hcompletion.entryNode_eq hlistable]
      by_cases heq : (completedPlace location form).entry owner.val =
          place.entry uid
      · exact Or.inl ⟨heq, by simp [entryValue]⟩
      · exact Or.inr (Json.apart_of_length_eq (by
          simp [DirectoryPlace.entry]) heq)

theorem Registry.Written.listed (hlistable : AllListable registry.offered)
    {backend : Backend} {target : String} {data : Json}
    (hwritten : registry.Written (pieces target) data.prune)
    {uid : String} {place : DirectoryPlace}
    (hlisted : backend.directory.listed uid place) :
    (backend.write target data).directory.listed uid place := by
  change (Json.setAt _ _ _).get (place.entry uid) ≠ .null
  rcases hwritten.at_entry hlistable place uid with ⟨hpath, hvalue⟩ | hapart
  · rw [← hpath, Json.get_setAt_self]
    exact hvalue
  · rw [Json.get_setAt_of_apart hapart]
    exact hlisted

/-- A lawful request forgets no entry. -/
theorem Registry.Lawful.listed (hlistable : AllListable registry.offered)
    {action : Action} {device : Device} {phase : Phase} {request : Request}
    (hlawful : registry.Lawful action device phase request)
    (hknows : registry.Knows device) (oracle : Oracle) {backend : Backend}
    {uid : String} {place : DirectoryPlace}
    (hlisted : backend.directory.listed uid place) :
    (request.exec oracle backend device).2.1.directory.listed uid place := by
  cases hwrites : request.writesDatabase with
  | false =>
      change (request.exec oracle backend device).2.1.database.get _ ≠ _
      rw [Request.exec_database hwrites]
      exact hlisted
  | true =>
      cases request with
      | set target data =>
          simp only [Request.exec]
          split_ifs
          · exact hlawful.written_set.listed hlistable hlisted
          · exact hlisted
      | remove target =>
          simp only [Request.exec]
          split_ifs
          · exact (hlawful.written_remove hknows).listed hlistable hlisted
          · exact hlisted
      | _ => cases hwrites

end Entries

section Runs

variable {DeviceId : Type} [DecidableEq DeviceId]
  {world next : World DeviceId} {offered : String → String → String → Prop}

/-- An entry that has been made stays. -/
theorem listed_of_reaches (hlistable : AllListable offered)
    (hreach : app.Reaches (fun _ event => NamesOffered offered event)
      (World.initial DeviceId) world)
    (hlater : app.Reaches (fun _ event => NamesOffered offered event)
      world next) {uid : String} {place : DirectoryPlace}
    (hlisted : world.shared.directory.listed uid place) :
    next.shared.directory.listed uid place := by
  induction hlater with
  | refl => exact hlisted
  | @next before after event hbefore hallowed hstep ih =>
      obtain ⟨noted, rfl, -, hconsistent⟩ :=
        noted_of_reaches (fun _ _ hoffered => hoffered)
          (hreach.trans hbefore)
      rcases (Machine.moves_of_step hstep).shared_cases with
        hshared | ⟨device, oracle, action, request, -, hpending, hshared⟩
      · rw [hshared]
        exact ih
      · rw [hshared]
        have hlawful := hconsistent.lawful hpending
        exact hlawful.listed hlistable (hconsistent.knows device) oracle ih

theorem completion_of_listed (hlistable : AllListable offered)
    (hreach : app.Reaches (fun _ event => NamesOffered offered event)
      (World.initial DeviceId) world) {uid : String}
    {place : DirectoryPlace}
    (hlisted : world.shared.directory.listed uid place) :
    ∃ owner worker location form,
      (world.registry offered).Completion owner worker location form ∧
        uid = owner.val ∧ place = completedPlace location form := by
  have hsound := sound_of_reaches hreach
  obtain ⟨below, hleaf⟩ := Json.Canonical.exists_leaf _
    (hsound.canonical.get (place.entry uid)) hlisted
  rw [← Json.get_append] at hleaf
  obtain ⟨node, hnode, hprefix⟩ := hsound.layout _ hleaf
  have hhead : ∀ rest : List String,
      ¬ "users" :: rest <+: place.entry uid ++ below := by
    intro rest hbefore
    have hfirst := (List.cons_prefix_cons.mp hbefore).1
    exact absurd hfirst (by decide)
  cases hnode with
  | record huid => exact absurd hprefix (hhead _)
  | photo huid key => exact absurd hprefix (hhead _)
  | @entry owner worker location form hcompletion =>
      rw [hcompletion.entryNode_eq hlistable] at hprefix
      have hentry : (completedPlace location form).entry owner.val =
          place.entry uid := by
        have hlength : ((completedPlace location form).entry
            owner.val).length = (place.entry uid).length := by
          simp [DirectoryPlace.entry]
        exact (List.prefix_of_prefix_length_le hprefix
          (List.prefix_append _ _) hlength.le).eq_of_length hlength
      obtain ⟨rfl, rfl⟩ := DirectoryPlace.entry_inj hentry
      exact ⟨owner, worker, location, form, hcompletion, rfl, rfl⟩

/-- Whoever is listed has an account, and a completion form was accepted for
the worker registered with it: the entry is at the worker's place, one on
offer, under the category of the form, and it stays. -/
theorem directory_lists_accounts (hlistable : AllListable offered)
    (hreach : app.Reaches (fun _ event => NamesOffered offered event)
      (World.initial DeviceId) world) {uid : String}
    {place : DirectoryPlace}
    (hlisted : world.shared.directory.listed uid place) :
    (∃ account ∈ world.shared.accounts, account.uid.val = uid ∧
      ∃ worker location form,
        (world.registry offered).Completion account.uid worker location
          form ∧
        place = completedPlace location form ∧
        offered place.country place.state place.city ∧
        form.category.uid ≠ -1) ∧
    ∀ next, app.Reaches (fun _ event => NamesOffered offered event)
        world next →
      next.shared.directory.listed uid place := by
  refine ⟨?_, fun next hlater =>
    listed_of_reaches hlistable hreach hlater hlisted⟩
  obtain ⟨owner, worker, location, form, hcompletion, rfl, rfl⟩ :=
    completion_of_listed hlistable hreach hlisted
  obtain ⟨email, account, hmem, huid, -⟩ := hcompletion.admits.hasUid
  subst huid
  refine ⟨account, hmem, rfl, worker, location, form, hcompletion, rfl,
    hcompletion.offered, ?_⟩
  intro hcategory
  have haccepted := hcompletion.accepted
  unfold WorkerComplement.refusal at haccepted
  rw [hcategory] at haccepted
  split_ifs at haccepted with _ hnone
  exact hnone rfl

end Runs

theorem allListable_inXapuri : AllListable inXapuri := by
  rintro country state city ⟨rfl, rfl, rfl⟩
  decide

def paintersInXapuri : DirectoryPlace := ⟨"BR", "Acre", "Xapuri", "3"⟩

theorem directory_lists_accounts_completedRegistration :
    ∃ world : World Unit,
      app.run (World.initial Unit) completedRegistration = some world ∧
      world.shared.directory.listed firstUid.val paintersInXapuri ∧
      (∃ account ∈ world.shared.accounts, account.uid.val = firstUid.val ∧
        ∃ worker location form,
          (world.registry inXapuri).Completion account.uid worker location
            form ∧
          paintersInXapuri = completedPlace location form ∧
          inXapuri paintersInXapuri.country paintersInXapuri.state
            paintersInXapuri.city ∧
          form.category.uid ≠ -1) ∧
      ∀ next, app.Reaches (fun _ event => NamesOffered inXapuri event)
          world next →
        next.shared.directory.listed firstUid.val paintersInXapuri := by
  have hrun : ((app.run (World.initial Unit) completedRegistration).any
      fun world => !(world.shared.database.get
        (paintersInXapuri.entry firstUid.val)).fieldsOf.isEmpty) = true := by
    decide +kernel
  have hoffered : ∀ event ∈ completedRegistration,
      NamesOffered inXapuri event := by
    simp [completedRegistration, toRegisterForm, perform, NamesOffered,
      inXapuri, registers, picturedForm, registerForm]
  cases hworld : app.run (World.initial Unit) completedRegistration with
  | none =>
      rw [hworld] at hrun
      cases hrun
  | some world =>
      rw [hworld, Option.any_some] at hrun
      have hlisted : world.shared.directory.listed firstUid.val
          paintersInXapuri := by
        intro hnull
        rw [hnull] at hrun
        cases hrun
      have hreach := Reaches.refl.run completedRegistration
        (eachAllowed_of_forall_mem hoffered _) hworld
      exact ⟨world, rfl, hlisted,
        directory_lists_accounts allListable_inXapuri hreach hlisted⟩

/-! ## Who is about to be listed -/

/-- A device is between the profile and the entry that lists it. -/
def Registry.Listing (registry : Registry) (uid : Segment)
    (place : DirectoryPlace) (phase : Phase) : Prop :=
  ∃ account worker location form,
    registry.Completion uid worker location form ∧
      phase = .listing account (dataPath uid.val)
        (completedProfile worker location form) ∧
      place = completedPlace location form

section Listing

variable {registry : Registry} {backend : Backend} {action : Action}
  {device : Device} {phase : Phase} {request : Request} {uid : Segment}
  {place : DirectoryPlace}

theorem not_listing_free (account : Option Segment) :
    ¬ registry.Listing uid place (.free account) := by
  rintro ⟨_, _, _, _, -, hphase, -⟩
  cases hphase

theorem dataPath_injective {owner user : Segment}
    (heq : dataPath owner.val = dataPath user.val) : owner = user := by
  apply recordPieces_inj
  rw [← pieces_dataPath_segment, heq, pieces_dataPath_segment]

/-- The place of a completed profile can be told from the profile. -/
theorem completedPlace_eq {worker other : Worker}
    {location elsewhere : Location} {form another : Complement}
    (hcompletion : registry.Completion uid worker location form)
    (hother : registry.Completion uid other elsewhere another)
    (heq : completedProfile worker location form =
      completedProfile other elsewhere another) :
    completedPlace location form = completedPlace elsewhere another := by
  have hread : (Backend.empty.write (dataPath uid.val)
      (completedProfile worker location form)).read (dataPath uid.val) =
        (completedProfile worker location form).prune :=
    Backend.read_write _ _ _
  have hplace := profilePlace_of_completed hcompletion hread
  rw [heq] at hread hplace
  rw [profilePlace_of_completed hother hread] at hplace
  exact (Option.some.inj hplace).symm

theorem profilePlace_congr {before after : Backend}
    (hread : after.read (dataPath uid.val) =
      before.read (dataPath uid.val)) :
    after.profilePlace uid.val = before.profilePlace uid.val := by
  rw [profilePlace_eq, profilePlace_eq, hread]

theorem profilePlace_write_of_apart {target : String} {data : Json}
    (hapart : Json.Apart (pieces target) (recordPieces uid)) :
    (backend.write target data).profilePlace uid.val =
      backend.profilePlace uid.val := by
  apply profilePlace_congr
  apply Backend.read_write_of_apart
  rw [pieces_dataPath_segment]
  exact hapart

/-- A client's record names no place. -/
theorem profilePlace_of_client {client : Client} {location : Location}
    (hread : backend.read (dataPath uid.val) =
      (Json.obj (client.fields location)).prune) :
    backend.profilePlace uid.val = none := by
  have hattendance :
      ((Json.obj (client.fields location)).prune).child "attendance" =
        .null := by
    rw [Json.child_prune_obj (client.fields_nodup location)]
    rfl
  obtain ⟨error, herror⟩ := decodedWorker_error_of_attendance hattendance
  rw [profilePlace_eq, hread, herror]

/-- A profile that is written names the place its writer is about to fill. -/
theorem listing_of_written {worker : Worker} {location : Location}
    {form : Complement} (account : Option Segment)
    (hcompletion : registry.Completion uid worker location form) :
    registry.Listing uid (completedPlace location form)
      ((Phase.free account).written (dataPath uid.val)
        (completedProfile worker location form)) := by
  refine ⟨account, worker, location, form, hcompletion, ?_, rfl⟩
  rfl

/-- What one request does to the profile of an account and to who is about to
list it: nothing, or it writes the profile and its device is about to list
it, or its device was about to and lists it. -/
structure Registry.Advances (registry : Registry) (uid : Segment)
    (place : DirectoryPlace) (before after : Backend)
    (phase next : Phase) : Prop where
  profile : after.profilePlace uid.val = some place →
    before.profilePlace uid.val = some place ∨
      registry.Listing uid place next
  listing : registry.Listing uid place phase →
    registry.Listing uid place next ∨ after.directory.listed uid.val place

theorem advances_of_profile_eq {after : Backend} {next : Phase}
    (hprofile : after.profilePlace uid.val = backend.profilePlace uid.val)
    (hphase : ¬ registry.Listing uid place phase) :
    registry.Advances uid place backend after phase next := by
  refine ⟨?_, fun hlisting => absurd hlisting hphase⟩
  rw [hprofile]
  exact Or.inl

/-- A write away from the profiles. -/
theorem advances_set_of_apart {target : String} {data : Json}
    (hapart : Json.Apart (pieces target) (recordPieces uid))
    (hphase : ¬ registry.Listing uid place phase) (oracle : Oracle) :
    registry.Advances uid place backend
      ((Request.set target data).exec oracle backend device).2.1 phase
      (phase.advance (.set target data)
        ((Request.set target data).exec oracle backend device).1) := by
  apply advances_of_profile_eq _ hphase
  simp only [Request.exec]
  split_ifs
  · exact profilePlace_write_of_apart hapart
  · rfl

theorem apart_recordPieces {owner : Segment} (hne : owner ≠ uid) :
    Json.Apart (pieces (dataPath owner.val)) (recordPieces uid) := by
  rw [pieces_dataPath_segment]
  apply Json.apart_of_length_eq (by simp [recordPieces])
  intro hpath
  exact hne (recordPieces_inj hpath)

theorem listed_write_entry (hlistable : AllListable registry.offered)
    {worker : Worker} {location : Location} {form : Complement}
    (hcompletion : registry.Completion uid worker location form)
    (time : DateTime) :
    (backend.write
      (WorkerComplementController.workerDirectoryPath worker location
        form.category.uid) (entryValue time)).directory.listed uid.val
      (completedPlace location form) := by
  have hentry := hcompletion.entryNode_eq hlistable
  unfold entryNode at hentry
  simp only [Backend.directory, Backend.write]
  rw [← hentry, Json.get_setAt_self, entryValue_prune]
  simp [entryValue]

/-- A write of a profile: the place it names is one its device is about to
fill. -/
theorem advances_set_record (account : Option Segment) {owner : Segment}
    {data : Json} (oracle : Oracle)
    (hplace : ∀ after : Backend,
      after.read (dataPath owner.val) = data.prune →
        after.profilePlace owner.val = some place →
          registry.Listing owner place
            ((Phase.free account).written (dataPath owner.val) data)) :
    registry.Advances uid place backend
      ((Request.set (dataPath owner.val) data).exec oracle backend
        device).2.1
      (.free account)
      ((Phase.free account).advance (.set (dataPath owner.val) data)
        ((Request.set (dataPath owner.val) data).exec oracle backend
          device).1) := by
  by_cases heq : owner = uid
  · subst heq
    refine ⟨?_, fun hlisting => absurd hlisting (not_listing_free _)⟩
    simp only [Request.exec]
    split_ifs
    · intro hafter
      exact Or.inr (hplace _ (Backend.read_write _ _ _) hafter)
    · exact Or.inl
  · exact advances_set_of_apart (apart_recordPieces heq)
      (not_listing_free _) oracle

/-- The entry is written by the device that was about to. -/
theorem advances_set_entry (hlistable : AllListable registry.offered)
    (account : Option Segment) {owner : Segment} {worker : Worker}
    {location : Location} {form : Complement}
    (hcompletion : registry.Completion owner worker location form)
    (time : DateTime) (next : Phase) :
    registry.Advances uid place backend
      (backend.write
        (WorkerComplementController.workerDirectoryPath worker location
          form.category.uid) (entryValue time))
      (.listing account (dataPath owner.val)
        (completedProfile worker location form)) next := by
  refine ⟨?_, fun hlisting => Or.inr ?_⟩
  · rw [profilePlace_write_of_apart (apart_entryNode _ _ _ _)]
    exact Or.inl
  · obtain ⟨_, worker', location', form', hother, hphase, rfl⟩ := hlisting
    rw [Phase.listing.injEq] at hphase
    obtain ⟨rfl, hpath, hprofile⟩ := hphase
    have hsame := dataPath_injective hpath
    subst hsame
    rw [← completedPlace_eq hcompletion hother hprofile]
    exact listed_write_entry hlistable hcompletion time

theorem Registry.Lawful.advances
    (hlistable : AllListable registry.offered)
    (hunreserved : ∀ uid, registry.HasUid uid → Unreserved uid.val)
    (hlawful : registry.Lawful action device phase request)
    {oracle : Oracle} (hok : oracle.ok = true) :
    registry.Advances uid place backend
      (request.exec oracle backend device).2.1 phase
      (phase.advance request (request.exec oracle backend device).1) := by
  cases hlawful with
  | @writeClient account owner client location hadmits hlocation haddress
      hfavorites =>
      apply advances_set_record account oracle
      intro after hread hplace
      rw [profilePlace_of_client hread] at hplace
      cases hplace
  | @writeWorker account owner worker location form hcompletion =>
      apply advances_set_record account oracle
      intro after hread hplace
      rw [profilePlace_of_completed hcompletion hread,
        Option.some.injEq] at hplace
      subst hplace
      exact listing_of_written account hcompletion
  | @writePhoto owner key description url huid hsigned =>
      apply advances_set_of_apart
      · rw [pieces_photoPath_segment]
        exact apart_photosNode_recordPieces _ uid key.val
      · rintro ⟨_, _, _, _, -, hphase, -⟩
        cases hphase
  | @removePhoto owner name uidPhoto haction hname hsigned =>
      apply advances_of_profile_eq
      · simp only [Request.exec]
        split_ifs
        · apply profilePlace_write_of_apart
          rw [pieces_photoPath_user owner.property, hname]
          exact apart_photosNode_recordPieces _ uid name.val
        · rfl
      · rintro ⟨_, _, _, _, -, hphase, -⟩
        cases hphase
  | timeEntry account path profile =>
      refine ⟨Or.inl, fun hlisting => Or.inl ?_⟩
      simp only [Request.exec]
      exact hlisting
  | @listWorker account time owner worker location form hcompletion =>
      have hpath := hcompletion.valid hlistable
        (hunreserved owner hcompletion.admits.hasUid)
      simp only [Request.exec, hok, hpath, Bool.and_self, if_true]
      exact advances_set_entry hlistable account hcompletion time _
  | @listUnsaved account time owner worker location form hcompletion =>
      exact advances_set_of_apart (apart_entryNode _ _ _ _)
        (not_listing_free _) oracle
  | _ =>
      apply advances_of_profile_eq
      · apply profilePlace_congr
        unfold Backend.read
        rw [Request.exec_database rfl]
      · rintro ⟨_, _, _, _, -, hphase, -⟩
        cases hphase

end Listing

/-! ## Runs nothing interferes with -/

/-- Registrations read places on offer, no request fails for an outside
reason, a uid that is given can stand in a path, and busy devices are not
killed. -/
def Unhindered {DeviceId : Type} (offered : String → String → String → Prop)
    (world : World DeviceId) (event : Event DeviceId Action Oracle) : Prop :=
  NamesOffered offered event ∧
    match event with
    | .act _ _ => True
    | .resume device oracle => oracle.ok = true ∧
        ∀ action email password,
          world.pending device =
              some (action, .createUserWithEmailAndPassword email password) →
            Unreserved oracle.uid.val
    | .kill device => world.tasks device = none

/-- A completed profile is listed, or some device is about to list it. -/
def Registry.ListsProfiles {DeviceId : Type} (registry : Registry)
    (world : NotedWorld DeviceId) : Prop :=
  ∀ (uid : Segment) (place : DirectoryPlace),
    world.shared.profilePlace uid.val = some place →
      world.shared.directory.listed uid.val place ∨
        ∃ device, registry.Listing uid place (world.locals device).2

section Unhindered

variable {DeviceId : Type} [DecidableEq DeviceId]
  {offered : String → String → String → Prop}

theorem unreserved_of_reaches {world : World DeviceId}
    (hreach : app.Reaches (Unhindered offered) (World.initial DeviceId)
      world) :
    ∀ account ∈ world.shared.accounts, Unreserved account.uid.val := by
  induction hreach with
  | refl =>
      rintro account hmem
      cases hmem
  | @next before after event hbefore hallowed hstep ih =>
      intro account hmem
      rcases (Machine.moves_of_step hstep).shared_cases with
        hshared | ⟨device, oracle, action, request, rfl, hpending, hshared⟩
      · rw [hshared] at hmem
        exact ih account hmem
      · rw [hshared] at hmem
        rcases Request.exec_accounts request oracle before.shared _ hmem with
          hold | ⟨⟨email, password, rfl⟩, huid⟩
        · exact ih account hold
        · rw [huid]
          exact hallowed.2.2 action email password hpending

variable {registry : Registry} {world next : NotedWorld DeviceId}

omit [DecidableEq DeviceId] in
theorem listsProfiles_initial :
    registry.ListsProfiles (NotedWorld.initial DeviceId) := by
  intro uid place hplace
  have hnull : (NotedWorld.initial DeviceId).shared.read
      (dataPath uid.val) = .null := Json.get_null _
  rw [profilePlace_eq, hnull] at hplace
  cases hplace

omit [DecidableEq DeviceId] in
theorem listsProfiles_of_advances
    (hlists : registry.ListsProfiles world) (device : DeviceId)
    (hadvances : ∀ uid place,
      registry.Advances uid place world.shared next.shared
        (world.locals device).2 (next.locals device).2)
    (hframe : ∀ other, other ≠ device →
      next.locals other = world.locals other)
    (hkept : ∀ (uid : Segment) (place : DirectoryPlace),
      world.shared.directory.listed uid.val place →
        next.shared.directory.listed uid.val place) :
    registry.ListsProfiles next := by
  intro uid place hplace
  rcases (hadvances uid place).profile hplace with hbefore | hlisting
  · rcases hlists uid place hbefore with hlisted | ⟨other, hother⟩
    · exact Or.inl (hkept uid place hlisted)
    · by_cases heq : other = device
      · subst heq
        rcases (hadvances uid place).listing hother with
          hlisting | hlisted
        · exact Or.inr ⟨other, hlisting⟩
        · exact Or.inl hlisted
      · refine Or.inr ⟨other, ?_⟩
        rw [hframe other heq]
        exact hother
  · exact Or.inr ⟨device, hlisting⟩

theorem Registry.ListsProfiles.step (hlists : registry.ListsProfiles world)
    (hlistable : AllListable registry.offered)
    (hunreserved : ∀ uid, registry.HasUid uid → Unreserved uid.val)
    (hconsistent : registry.Consistent world)
    {event : Event DeviceId Action Oracle}
    (hunhindered : Unhindered offered world.plain event)
    (hstep : notedApp.step world event = some next) :
    registry.ListsProfiles next := by
  have hmoves := Machine.moves_of_step hstep
  apply listsProfiles_of_advances hlists event.agent _
    (fun other hne => (hmoves.frame hne).1) _
  · intro uid place
    cases hmoves with
    | act htask hprogram =>
        exact ⟨Or.inl, Or.inl⟩
    | @kill device =>
        -- the killed device was idle, so it was not about to list anybody
        obtain ⟨account, hfree⟩ := hconsistent.idle hunhindered.2
        apply advances_of_profile_eq rfl
        simp only [Event.agent]
        rw [hfree]
        exact not_listing_free account
    | @resume device oracle action request rest htask =>
        have hpending : world.pending device = some (action, request) := by
          simp [Config.pending, htask]
        simp only [Event.agent, Function.update_self]
        exact (hconsistent.lawful hpending).advances hlistable hunreserved
          hunhindered.2.1
  · intro uid place hlisted
    rcases hmoves.shared_cases with
      hshared | ⟨device, oracle, action, request, -, hpending, hshared⟩
    · rw [hshared]
      exact hlisted
    · rw [hshared]
      exact (hconsistent.lawful hpending).listed hlistable
        (hconsistent.knows device) oracle hlisted

omit [DecidableEq DeviceId] in
/-- Who is about to list a worker asks for the time or writes the entry. -/
theorem pending_of_listing (hlistable : AllListable registry.offered)
    (hconsistent : registry.Consistent world) {device : DeviceId}
    {uid : Segment} {place : DirectoryPlace}
    (hlisting : registry.Listing uid place (world.locals device).2) :
    ∃ action request, world.pending device = some (action, request) ∧
      (request = .now ∨ ∃ path value, request = .set path value ∧
        pieces path = place.entry uid.val) := by
  have hbusy : ∀ account, (world.locals device).2 ≠ .free account := by
    intro account hfree
    rw [hfree] at hlisting
    exact not_listing_free account hlisting
  obtain ⟨action, request, rest, htask, hlawful⟩ := hconsistent.busy hbusy
  refine ⟨action, request, by simp [Config.pending, htask], ?_⟩
  obtain ⟨account, worker, location, form, hcompletion, hphase, rfl⟩ :=
    hlisting
  generalize (world.locals device).2 = phase at hphase hlawful
  subst hphase
  generalize hprofile : completedProfile worker location form = profile
    at hlawful
  generalize hpath : dataPath uid.val = path at hlawful
  cases hlawful with
  | timeEntry account path profile => exact Or.inl rfl
  | @listWorker account time owner worker' location' form' hother =>
      have hsame := dataPath_injective hpath
      subst hsame
      refine Or.inr ⟨_, _, rfl, ?_⟩
      rw [completedPlace_eq hcompletion hother hprofile]
      exact hother.entryNode_eq hlistable

/-- The device has written this profile, and before it can do anything else
it asks for the time and writes the entry of the place. -/
def AboutToList {DeviceId : Type} (offered : String → String → String → Prop)
    (world : NotedWorld DeviceId) (device : DeviceId) (uid : Segment)
    (place : DirectoryPlace) : Prop :=
  (World.registry world.plain offered).Listing uid place
      (world.locals device).2 ∧
    ∃ action request, world.plain.pending device = some (action, request) ∧
      (request = .now ∨ ∃ path value, request = .set path value ∧
        pieces path = place.entry uid.val)

/-- However the requests of the devices are interleaved, a completed profile
is listed at its place, or the device that wrote it is about to list it; the
notes of the run tell which device that is. -/
theorem profiles_listed_across_devices (hlistable : AllListable offered)
    {world : World DeviceId}
    (hreach : app.Reaches (Unhindered offered) (World.initial DeviceId)
      world) :
    ∃ noted : NotedWorld DeviceId, noted.plain = world ∧
      notedApp.Reaches (fun state => Unhindered offered state.plain)
        (NotedWorld.initial DeviceId) noted ∧
      ∀ (uid : Segment) (place : DirectoryPlace),
        world.shared.profilePlace uid.val = some place →
          world.shared.directory.listed uid.val place ∨
            ∃ device, AboutToList offered noted device uid place := by
  obtain ⟨noted, rfl, hnoted, hconsistent⟩ :=
    noted_of_reaches (fun _ _ hallowed => hallowed.1) hreach
  have hunreserved : ∀ uid,
      (World.registry noted.plain offered).HasUid uid →
        Unreserved uid.val := by
    rintro uid ⟨email, account, hmem, rfl, -⟩
    exact unreserved_of_reaches hreach account hmem
  have hlists :
      (World.registry noted.plain offered).ListsProfiles noted := by
    apply hnoted.invariant listsProfiles_initial
    rintro state event next hlists ⟨hunhindered, hstate, -⟩ hstep
    exact hlists.step hlistable hunreserved hstate hunhindered hstep
  refine ⟨noted, rfl, hnoted.mono fun _ _ hallowed => hallowed.1, ?_⟩
  intro uid place hplace
  rcases hlists uid place hplace with hlisted | ⟨device, hlisting⟩
  · exact Or.inl hlisted
  · exact Or.inr ⟨device, hlisting,
      pending_of_listing hlistable hconsistent hlisting⟩

end Unhindered

/-- A worker whose profile has been written and who is not listed yet. -/
def writtenProfile : List (Event Unit Action Oracle) :=
  toRegisterForm .trabalhador ++
    perform (registers (registerForm "Ana Souza" "ana@folium.work"))
      firstUid 6 ++
    perform (.finishComplement complementForm) firstUid 5

theorem profiles_listed_across_devices_writtenProfile :
    ∃ world : World Unit,
      app.run (World.initial Unit) writtenProfile = some world ∧
      world.shared.profilePlace firstUid.val = some paintersInXapuri ∧
      ∃ noted : NotedWorld Unit, noted.plain = world ∧
        (world.shared.directory.listed firstUid.val paintersInXapuri ∨
          ∃ device,
            AboutToList inXapuri noted device firstUid paintersInXapuri) := by
  have hrun : ((app.run (World.initial Unit) writtenProfile).any
      fun world => decide (world.shared.profilePlace firstUid.val =
        some paintersInXapuri)) = true := by
    decide +kernel
  have hevents : ∀ event ∈ writtenProfile,
      NamesOffered inXapuri event ∧
        match event with
        | .act _ _ => True
        | .resume _ oracle => oracle.ok = true ∧ Unreserved oracle.uid.val
        | .kill _ => False := by
    have huid : Unreserved firstUid.val := by decide
    simp [writtenProfile, toRegisterForm, perform, NamesOffered, inXapuri,
      registers, registerForm, huid]
  cases hworld : app.run (World.initial Unit) writtenProfile with
  | none =>
      rw [hworld] at hrun
      cases hrun
  | some world =>
      rw [hworld, Option.any_some, decide_eq_true_eq] at hrun
      have hreach : app.Reaches (Unhindered inXapuri) (World.initial Unit)
          world := by
        apply (Reaches.refl.run writtenProfile
          (eachAllowed_of_forall_mem hevents _) hworld).mono
        rintro state event ⟨hoffered, hevent⟩
        refine ⟨hoffered, ?_⟩
        cases event with
        | act device action => trivial
        | resume device oracle =>
            exact ⟨hevent.1, fun _ _ _ _ => hevent.2⟩
        | kill device => exact hevent.elim
      obtain ⟨noted, hplain, -, hlists⟩ :=
        profiles_listed_across_devices allListable_inXapuri hreach
      exact ⟨world, rfl, hrun, noted, hplain, hlists _ _ hrun⟩

end FoliumApp
