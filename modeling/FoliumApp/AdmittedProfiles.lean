import FoliumApp.HandlerRequests
import FoliumApp.TreeShapes

/-!
# Profiles that have passed the forms

The registration form checks a name and an e-mail address, and the completion
form an area, a way of payment and an address.  Nothing is checked again
later: a record is decoded as it is found and put in the session.  So what the
forms checked has to be carried along, from the form through the session to
the record and back.  It is said here once, for a user in the session and for
a record, relative to a registry of the accounts there are and the places the
forms hold.  The guards on the place are not part of it: they look at the
menus before the terms are shown, and what is registered is read afterwards.
-/

namespace FoliumApp

open PathTree AsyncProgram

/-- The accounts there are, each with its e-mail address, and the places the
registration forms hold when they are read. -/
structure Registry where
  account : Segment → String → Prop
  offered : String → String → String → Prop

namespace Registry

variable (registry : Registry)

def HasUid (uid : Segment) : Prop := ∃ email, registry.account uid email

/-! ## Users in the session -/

def Located (location : Location) : Prop :=
  ∃ country state city, location.country = some country ∧
    location.state = some state ∧ location.city = some city ∧
    registry.offered country state city

/-- The user of an account as the registration form lets it through; the
password is never part of it. -/
structure Admits (uid : Segment) (user : User) : Prop where
  uid_eq : user.uid = some uid.val
  email : ∃ email, user.email = some email ∧ registry.account uid email ∧
    matchesFrom SimpleRegister.emailPattern email.toList = true
  name : ∃ name, user.name = some name ∧ 6 ≤ utf16Length (trim name)
  password : user.password = some ""
  imageUrl : ∃ imageUrl, user.imageUrl = some imageUrl
  location : ∃ location, user.location = some location ∧
    registry.Located location

end Registry

/-- A worker's profile with the values of a form. -/
structure Worker.FilledIn (form : Complement) (worker : Worker) : Prop where
  attendance : worker.attendance =
    some
      { cash := some form.cash, check := some form.check
        creditCard := some form.creditCard
        homeCare := some form.homeCare
        freeBudget := some form.freeBudget }
  social : worker.social =
    some
      { facebook := some form.facebook, instagram := some form.instagram
        whatsApp := some form.whatsApp, link := some "" }
  occupation : worker.occupation =
    some
      { area := some form.category.uid
        description := some form.description }
  address : ∃ location, worker.location = some location ∧
    location.address = some form.address

section Users

variable {registry : Registry} {uid : Segment}

theorem Registry.Admits.hasUid {user : User}
    (hadmits : registry.Admits uid user) : registry.HasUid uid := by
  obtain ⟨email, -, haccount, -⟩ := hadmits.email
  exact ⟨email, haccount⟩

theorem Registry.Located.of_names {location other : Location}
    (hlocated : registry.Located location)
    (hcountry : other.country = location.country)
    (hstate : other.state = location.state)
    (hcity : other.city = location.city) : registry.Located other := by
  unfold Registry.Located
  rw [hcountry, hstate, hcity]
  exact hlocated

theorem Registry.Admits.withLocation {user : User}
    (hadmits : registry.Admits uid user) {location : Location}
    (hlocated : registry.Located location) (birth : Option String) :
    registry.Admits uid { user with birth, location := some location } :=
  ⟨hadmits.uid_eq, hadmits.email, hadmits.name, hadmits.password,
    hadmits.imageUrl, ⟨location, rfl, hlocated⟩⟩

theorem Registry.Admits.located {user : User}
    (hadmits : registry.Admits uid user) {location : Location}
    (hlocation : user.location = some location) :
    registry.Located location := by
  obtain ⟨found, hfound, hlocated⟩ := hadmits.location
  rw [hlocation, Option.some.injEq] at hfound
  subst hfound
  exact hlocated

/-- A registration whose text fields pass builds an admitted user. -/
theorem admits_newClient {form : RegisterForm}
    (hentered : SimpleRegister.Entered form)
    (hoffered : registry.offered form.selectedCountry form.selectedState
      form.selectedCity)
    (haccount : registry.account uid form.email) (birth : DateTime)
    (imageUrl : String) :
    registry.Admits uid
      (SimpleRegisterController.newClient form.name form.email
        form.selectedCountry form.selectedCity form.selectedState birth
        uid.val imageUrl).toUser :=
  { uid_eq := rfl
    email := ⟨form.email, rfl, haccount, hentered.email⟩
    name := ⟨form.name, rfl, hentered.name⟩
    password := rfl
    imageUrl := ⟨imageUrl, rfl⟩
    location := ⟨_, rfl, _, _, _, rfl, rfl, rfl, hoffered⟩ }

theorem Registry.Admits.complete {worker : Worker}
    (hadmits : registry.Admits uid worker.toUser) {location : Location}
    (hlocation : worker.location = some location) (form : Complement) :
    registry.Admits uid
      (WorkerComplementController.complete worker location form).toUser := by
  have hlocated :
      registry.Located { location with address := some form.address } :=
    (hadmits.located hlocation).of_names rfl rfl rfl
  exact hadmits.withLocation hlocated worker.birth

/-- The address and the coordinates are not looked at. -/
theorem Registry.Admits.readBack {user : User}
    (hadmits : registry.Admits uid user) {location : Location}
    (hlocation : user.location = some location) (address : Option String) :
    registry.Admits uid (user.readBack { location with address }) := by
  have hlocated :
      registry.Located (Location.readBack { location with address }) :=
    (hadmits.located hlocation).of_names rfl rfl rfl
  exact hadmits.withLocation hlocated none

end Users

/-! ## Records -/

/-- A worker of the account, with the form that completes the profile. -/
structure Registry.Completion (registry : Registry) (uid : Segment)
    (worker : Worker) (location : Location) (form : Complement) :
    Prop where
  admits : registry.Admits uid worker.toUser
  location_eq : worker.location = some location
  accepted : WorkerComplement.refusal form = none

/-- The records the two writers make for admitted users. -/
inductive Registry.Record (registry : Registry) (uid : Segment) :
    Json → Prop where
  | client {client : Client} {location : Location}
      (hadmits : registry.Admits uid client.toUser)
      (hlocation : client.location = some location)
      (haddress : location.address ≠ none)
      (hfavorites : client.favoriteList = some []) :
      Record registry uid (Json.obj (client.fields location)).prune
  | worker {worker : Worker} {location : Location} {form : Complement}
      (hcompletion : registry.Completion uid worker location form) :
      Record registry uid (completedProfile worker location form).prune

section Records

variable {registry : Registry} {uid : Segment} {data : Json}

theorem decodedClient_client {client : Client} {location : Location}
    (hname : client.name ≠ none) (haddress : location.address ≠ none)
    (hfavorites : client.favoriteList = some []) :
    decodedClient (Json.obj (client.fields location)).prune =
      .ok
        { toUser := client.toUser.readBack location
          favoriteList := none } := by
  unfold decodedClient
  rw [Snapshot.ofValue_stored_text (client.fields_nodup location) "name" rfl
    hname]
  exact Client.fromDB_stored client location haddress hfavorites

/-- A completed worker's record has everything a client's decoder reads. -/
theorem decodedClient_completedProfile (worker : Worker)
    (location : Location) (form : Complement) (hname : worker.name ≠ none) :
    decodedClient (completedProfile worker location form).prune =
      .ok
        { toUser := worker.toUser.readBack
            { location with address := some form.address }
          favoriteList := none } := by
  have hnodup :=
    (WorkerComplementController.complete worker location form).fields_nodup
      { location with address := some form.address }
      { cash := some form.cash, check := some form.check
        creditCard := some form.creditCard
        homeCare := some form.homeCare
        freeBudget := some form.freeBudget }
      { facebook := some form.facebook, instagram := some form.instagram
        whatsApp := some form.whatsApp, link := some "" }
      { area := some form.category.uid
        description := some form.description }
  unfold decodedClient completedProfile
  rw [Snapshot.ofValue_stored_text hnodup "name" rfl hname]
  rw [except_ok_bind]
  unfold Client.fromDB
  rw [User.fromDB_stored hnodup (by simp) rfl rfl rfl rfl rfl rfl rfl,
    except_ok_bind, Snapshot.getData_stored hnodup]
  rfl

/-- A record decodes as a client of its account, whoever wrote it. -/
theorem Registry.Record.decodedClient (hrecord : registry.Record uid data) :
    ∃ client, FoliumApp.decodedClient data = .ok client ∧
      registry.Admits uid client.toUser := by
  cases hrecord with
  | @client client location hadmits hlocation haddress hfavorites =>
      obtain ⟨name, hname, -⟩ := hadmits.name
      exact ⟨_, decodedClient_client (by simp [hname]) haddress hfavorites,
        hadmits.readBack hlocation location.address⟩
  | @worker worker location form hcompletion =>
      have hadmits := hcompletion.admits
      have hlocation := hcompletion.location_eq
      obtain ⟨name, hname, -⟩ := hadmits.name
      exact ⟨_, decodedClient_completedProfile worker location form
        (by simp [hname]), hadmits.readBack hlocation (some form.address)⟩

/-- Only a completed profile decodes as a worker's. -/
theorem Registry.Record.error_or_completed
    (hrecord : registry.Record uid data) :
    (∃ error, decodedWorker data = .error error) ∨
      ∃ worker location form,
        registry.Completion uid worker location form ∧
          data = (completedProfile worker location form).prune := by
  cases hrecord with
  | @client client location hadmits hlocation haddress hfavorites =>
      left
      apply decodedWorker_error_of_attendance
      rw [Json.child_prune_obj (client.fields_nodup location)]
      rfl
  | @worker worker location form hcompletion =>
      exact Or.inr ⟨worker, location, form, hcompletion, rfl⟩

/-- A record that decodes as a worker's has passed both forms. -/
theorem Registry.Record.of_decodedWorker
    (hrecord : registry.Record uid data) {worker : Worker}
    (hworker : decodedWorker data = .ok worker) :
    registry.Admits uid worker.toUser ∧
      ∃ form, WorkerComplement.refusal form = none ∧
        worker.FilledIn form := by
  rcases hrecord.error_or_completed with
    ⟨error, herror⟩ | ⟨filed, location, form, hcompletion, rfl⟩
  · rw [herror] at hworker
    cases hworker
  · have hdecoded := completedProfile_decoded filed location form
    change decodedWorker _ = _ at hdecoded
    rw [hworker, Except.ok.injEq] at hdecoded
    subst hdecoded
    exact ⟨hcompletion.admits.readBack hcompletion.location_eq
        (some form.address),
      form, hcompletion.accepted, ⟨rfl, rfl, rfl, _, rfl, rfl⟩⟩

theorem Registry.Record.hasUid (hrecord : registry.Record uid data) :
    registry.HasUid uid := by
  cases hrecord with
  | client hadmits => exact hadmits.hasUid
  | worker hcompletion => exact hcompletion.admits.hasUid

/-! ## The shape of records -/

theorem distinctNames_ofString (text : Option String) :
    (ofString text).DistinctNames :=
  Json.distinctNames_of_fieldsOf_nil (by cases text <;> rfl)

theorem distinctNames_ofBool (value : Option Bool) :
    (ofBool value).DistinctNames :=
  Json.distinctNames_of_fieldsOf_nil (by cases value <;> rfl)

theorem distinctNames_ofInt (value : Option ℤ) :
    (ofInt value).DistinctNames :=
  Json.distinctNames_of_fieldsOf_nil (by cases value <;> rfl)

theorem Location.distinctNames (location : Location) :
    location.toJson.DistinctNames := by
  apply Json.distinctNames_obj location.fields_nodup
  simp only [Location.fields, List.forall_mem_cons, distinctNames_ofString,
    List.not_mem_nil, false_implies, implies_true, and_self]

theorem Attendance.distinctNames (attendance : Attendance) :
    attendance.toJson.DistinctNames := by
  apply Json.distinctNames_obj attendance.fields_nodup
  simp only [Attendance.fields, List.forall_mem_cons, distinctNames_ofBool,
    List.not_mem_nil, false_implies, implies_true, and_self]

theorem Social.distinctNames (social : Social) :
    social.toJson.DistinctNames := by
  apply Json.distinctNames_obj social.fields_nodup
  simp only [Social.fields, List.forall_mem_cons, distinctNames_ofString,
    List.not_mem_nil, false_implies, implies_true, and_self]

theorem Occupation.distinctNames (occupation : Occupation) :
    occupation.toJson.DistinctNames := by
  apply Json.distinctNames_obj occupation.fields_nodup
  simp only [Occupation.fields, List.forall_mem_cons, distinctNames_ofString,
    distinctNames_ofInt, List.not_mem_nil, false_implies, implies_true,
    and_self]

theorem Client.distinctNames {client : Client} (location : Location)
    (hfavorites : client.favoriteList = some []) :
    (Json.obj (client.fields location)).DistinctNames := by
  have hlist : (ofMap client.favoriteList).DistinctNames := by
    rw [hfavorites]
    exact Json.distinctNames_of_fieldsOf_nil rfl
  apply Json.distinctNames_obj (client.fields_nodup location)
  simp only [Client.fields, List.forall_mem_cons, distinctNames_ofString,
    location.distinctNames, hlist, List.not_mem_nil, false_implies,
    implies_true, and_self]

theorem Worker.distinctNames (worker : Worker) (location : Location)
    (attendance : Attendance) (social : Social) (occupation : Occupation) :
    (Json.obj
      (worker.fields location attendance social
        occupation)).DistinctNames := by
  apply Json.distinctNames_obj
    (worker.fields_nodup location attendance social occupation)
  simp only [Worker.fields, List.forall_mem_cons, distinctNames_ofString,
    location.distinctNames, attendance.distinctNames, social.distinctNames,
    occupation.distinctNames, List.not_mem_nil, false_implies, implies_true,
    and_self]

theorem Registry.Record.canonical (hrecord : registry.Record uid data) :
    data.Canonical := by
  cases hrecord with
  | client hadmits hlocation haddress hfavorites =>
      exact (Client.distinctNames _ hfavorites).canonical_prune
  | worker hcompletion =>
      exact (Worker.distinctNames _ _ _ _ _).canonical_prune

end Records

end FoliumApp
