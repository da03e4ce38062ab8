import FoliumApp.DartValues

/-!
# Profiles and their stored form

The classes of `lib/pojo`: the abstract `User` with its two kinds, the parts
a worker's profile is made of, and photos.  Every field is nullable.  The
encoders list their keys by hand and the decoders read them back by hand, so
the keys are kept here exactly as they are spelled in the source.
-/

namespace FoliumApp

open PathTree

/-! ## Snapshots -/

structure Snapshot where
  data : Option (List (String × Json))

/-- `new Snapshot(value)` for a dynamic value: it must be a map or null. -/
def Snapshot.ofValue (value : Json) : Except DartError Snapshot := do
  return ⟨← asMap value⟩

def Snapshot.getData (snapshot : Snapshot) (param : String) :
    Except DartError Json := do
  return Json.lookup param (← nonNull snapshot.data)

/-! ## The classes -/

structure Location where
  city : Option String
  state : Option String
  country : Option String
  address : Option String
  latitude : Option String
  longitude : Option String
  deriving DecidableEq

structure Attendance where
  cash : Option Bool
  check : Option Bool
  creditCard : Option Bool
  homeCare : Option Bool
  freeBudget : Option Bool
  deriving DecidableEq

structure Social where
  facebook : Option String
  instagram : Option String
  whatsApp : Option String
  link : Option String
  deriving DecidableEq

structure Occupation where
  area : Option ℤ
  description : Option String
  deriving DecidableEq

structure User where
  email : Option String
  name : Option String
  password : Option String
  birth : Option String
  imageUrl : Option String
  uid : Option String
  location : Option Location

structure Client extends User where
  favoriteList : Option (List (String × Json))

structure Worker extends User where
  attendance : Option Attendance
  social : Option Social
  occupation : Option Occupation

/-- A reference of static type `User`; the class is abstract, so the object
is of one of the two kinds. -/
inductive AnyUser where
  | client (client : Client)
  | worker (worker : Worker)

structure Photo where
  description : Option String
  imageUrl : Option String
  uidImage : Option String

/-- `new Client(...)`: the list of favourites starts empty. -/
def Client.new (email name password birth imageUrl uid : Option String)
    (location : Option Location) : Client :=
  { email, name, password, birth, imageUrl, uid, location
    favoriteList := some [] }

/-! ## Encoders -/

/-- The entries of `toJson`, with the keys as the encoder spells them. -/
def Location.fields (location : Location) : List (String × Json) :=
  [("city", ofString location.city),
    ("state", ofString location.state),
    ("country", ofString location.country),
    ("address", ofString location.address),
    ("latitude", ofString location.latitude),
    ("longidute", ofString location.longitude)]

def Location.toJson (location : Location) : Json :=
  .obj location.fields

def Attendance.fields (attendance : Attendance) : List (String × Json) :=
  [("cash", ofBool attendance.cash),
    ("check", ofBool attendance.check),
    ("credit_card", ofBool attendance.creditCard),
    ("home_care", ofBool attendance.homeCare),
    ("free_budget", ofBool attendance.freeBudget)]

def Attendance.toJson (attendance : Attendance) : Json :=
  .obj attendance.fields

def Social.fields (social : Social) : List (String × Json) :=
  [("facebook", ofString social.facebook),
    ("whatsapp", ofString social.whatsApp),
    ("instagram", ofString social.instagram),
    ("link", ofString social.link)]

def Social.toJson (social : Social) : Json :=
  .obj social.fields

def Occupation.fields (occupation : Occupation) : List (String × Json) :=
  [("area", ofInt occupation.area),
    ("description", ofString occupation.description)]

def Occupation.toJson (occupation : Occupation) : Json :=
  .obj occupation.fields

def Client.fields (client : Client) (location : Location) :
    List (String × Json) :=
  [("name", ofString client.name),
    ("email", ofString client.email),
    ("password", ofString client.password),
    ("image_url", ofString client.imageUrl),
    ("uid", ofString client.uid),
    ("location", location.toJson),
    ("favorite_list", ofMap client.favoriteList)]

def Client.toJson (client : Client) : Except DartError Json := do
  let location ← nonNull client.location
  return .obj (client.fields location)

def Worker.fields (worker : Worker) (location : Location)
    (attendance : Attendance) (social : Social) (occupation : Occupation) :
    List (String × Json) :=
  [("name", ofString worker.name),
    ("email", ofString worker.email),
    ("password", ofString worker.password),
    ("image_url", ofString worker.imageUrl),
    ("uid", ofString worker.uid),
    ("location", location.toJson),
    ("attendance", attendance.toJson),
    ("social", social.toJson),
    ("occupation", occupation.toJson)]

def Worker.toJson (worker : Worker) : Except DartError Json := do
  let location ← nonNull worker.location
  let attendance ← nonNull worker.attendance
  let social ← nonNull worker.social
  let occupation ← nonNull worker.occupation
  return .obj (worker.fields location attendance social occupation)

def Photo.toJson (photo : Photo) : Json :=
  .obj
    [("description", ofString photo.description),
      ("image_url", ofString photo.imageUrl),
      ("uid_image", ofString photo.uidImage)]

/-! ## Decoders -/

def Location.fromBD (data : Snapshot) : Except DartError Location := do
  let city ← asString (← data.getData "city")
  let state ← asString (← data.getData "state")
  let country ← asString (← data.getData "country")
  let address ← asString (← data.getData "address")
  return { city, state, country, address, latitude := none, longitude := none }

def Attendance.fromDB (data : Snapshot) : Except DartError Attendance := do
  let cash ← asBool (← data.getData "cash")
  let check ← asBool (← data.getData "check")
  let creditCard ← asBool (← data.getData "credit_card")
  let homeCare ← asBool (← data.getData "home_care")
  let freeBudget ← asBool (← data.getData "free_budget")
  return { cash, check, creditCard, homeCare, freeBudget }

def Social.fromDB (snapshot : Snapshot) : Except DartError Social := do
  let facebook ← asString (← snapshot.getData "facebook")
  let instagram ← asString (← snapshot.getData "instagram")
  let whatsApp ← asString (← snapshot.getData "whatsapp")
  let link ← asString (← snapshot.getData "link")
  return { facebook, instagram, whatsApp, link }

/-- `int.fromEnvironment(name)`: the value of a compile-time definition.
The app is built with none, so the answer is null for every name. -/
def intFromEnvironment (_name : String) : Option ℤ := none

def Occupation.fromDB (snapshot : Snapshot) :
    Except DartError Occupation := do
  let area ←
    match ← snapshot.getData "area" with
    | .str name => pure (intFromEnvironment name)
    | value => asInt value
  let description ← asString (← snapshot.getData "description")
  return { area, description }

def User.fromDB (data : Snapshot) : Except DartError User := do
  let email ← asString (← data.getData "email")
  let name ← asString (← data.getData "name")
  let password ← asString (← data.getData "password")
  let birth ← asString (← data.getData "birth")
  let imageUrl ← asString (← data.getData "image_url")
  let uid ← asString (← data.getData "uid")
  let location ←
    Location.fromBD (← Snapshot.ofValue (← data.getData "location"))
  return {
    email, name, password, birth, imageUrl, uid
    location := some location }

def Client.fromDB (data : Snapshot) : Except DartError Client := do
  let user ← User.fromDB data
  let favoriteList ← asStringMap (← data.getData "favorite_list")
  return { user with favoriteList }

def Worker.fromDB (data : Snapshot) : Except DartError Worker := do
  let user ← User.fromDB data
  let attendance ←
    Attendance.fromDB (← Snapshot.ofValue (← data.getData "attendance"))
  let social ←
    Social.fromDB (← Snapshot.ofValue (← data.getData "social"))
  let occupation ←
    Occupation.fromDB (← Snapshot.ofValue (← data.getData "occupation"))
  return { user with
    attendance := some attendance
    social := some social
    occupation := some occupation }

def Photo.fromDB (snapshot : Snapshot) : Except DartError Photo := do
  let description ← asString (← snapshot.getData "description")
  let imageUrl ← asString (← snapshot.getData "image_url")
  let uidImage ← asString (← snapshot.getData "uid_image")
  return { description, imageUrl, uidImage }

/-! ## What a decoded profile has -/

theorem User.location_of_fromDB {data : Snapshot} {user : User}
    (huser : User.fromDB data = .ok user) : user.location ≠ none := by
  unfold User.fromDB at huser
  iterate 15 obtain ⟨_, -, huser⟩ := except_bind_ok huser
  cases huser
  simp

theorem Worker.location_of_fromDB {data : Snapshot} {worker : Worker}
    (hworker : Worker.fromDB data = .ok worker) :
    worker.location ≠ none := by
  unfold Worker.fromDB at hworker
  obtain ⟨user, huser, hworker⟩ := except_bind_ok hworker
  iterate 9 obtain ⟨_, -, hworker⟩ := except_bind_ok hworker
  cases hworker
  exact User.location_of_fromDB huser

/-! ## Reading a stored map -/

/-- The snapshot of a map whose null and empty fields were dropped. -/
def Snapshot.stored (fields : List (String × Json)) : Snapshot :=
  ⟨some (Json.pruneFields fields)⟩

theorem Snapshot.getData_stored
    {fields : List (String × Json)}
    (hnodup : (fields.map Prod.fst).Nodup) (param : String) :
    (Snapshot.stored fields).getData param =
      .ok (Json.lookup param fields).prune := by
  have hlookup := Json.lookup_pruneFields hnodup param
  simp only [Snapshot.getData, Snapshot.stored, nonNull]
  exact congrArg Except.ok hlookup

theorem Snapshot.ofValue_prune_obj
    {fields : List (String × Json)}
    (hnodup : (fields.map Prod.fst).Nodup)
    (key : String) (hkey : (Json.lookup key fields).prune ≠ .null) :
    Snapshot.ofValue (Json.obj fields).prune =
      .ok (Snapshot.stored fields) := by
  have hchild : ((Json.obj fields).prune).child key ≠ .null := by
    rw [Json.child_prune_obj hnodup]
    exact hkey
  rw [Json.prune_obj_eq_obj_of_child hchild]
  rfl

/-! ## What the decoders recover -/

theorem Location.fields_nodup (location : Location) :
    (location.fields.map Prod.fst).Nodup := by
  simp [Location.fields]

theorem Attendance.fields_nodup (attendance : Attendance) :
    (attendance.fields.map Prod.fst).Nodup := by
  simp [Attendance.fields]

theorem Social.fields_nodup (social : Social) :
    (social.fields.map Prod.fst).Nodup := by
  simp [Social.fields]

theorem Occupation.fields_nodup (occupation : Occupation) :
    (occupation.fields.map Prod.fst).Nodup := by
  simp [Occupation.fields]

theorem Client.fields_nodup (client : Client) (location : Location) :
    ((client.fields location).map Prod.fst).Nodup := by
  simp [Client.fields]

theorem Worker.fields_nodup (worker : Worker) (location : Location)
    (attendance : Attendance) (social : Social) (occupation : Occupation) :
    ((worker.fields location attendance social occupation).map
      Prod.fst).Nodup := by
  simp [Worker.fields]

/-- What is left of a location: the decoder reads four of its fields. -/
def Location.readBack (location : Location) : Location :=
  { location with latitude := none, longitude := none }

theorem Location.fromBD_stored (location : Location) :
    Location.fromBD (Snapshot.stored location.fields) =
      .ok location.readBack := by
  simp only [Location.fromBD,
    Snapshot.getData_stored location.fields_nodup, bind, Except.bind]
  simp [Location.fields, Json.lookup, Location.readBack, pure, Except.pure]

theorem Attendance.fromDB_stored (attendance : Attendance) :
    Attendance.fromDB (Snapshot.stored attendance.fields) =
      .ok attendance := by
  simp only [Attendance.fromDB,
    Snapshot.getData_stored attendance.fields_nodup, bind, Except.bind]
  simp [Attendance.fields, Json.lookup, pure, Except.pure]

theorem Social.fromDB_stored (social : Social) :
    Social.fromDB (Snapshot.stored social.fields) = .ok social := by
  simp only [Social.fromDB,
    Snapshot.getData_stored social.fields_nodup, bind, Except.bind]
  simp [Social.fields, Json.lookup, pure, Except.pure]

theorem Occupation.fromDB_stored (occupation : Occupation) :
    Occupation.fromDB (Snapshot.stored occupation.fields) =
      .ok occupation := by
  simp only [Occupation.fromDB,
    Snapshot.getData_stored occupation.fields_nodup, bind, Except.bind]
  obtain ⟨area, description⟩ := occupation
  cases area <;>
    simp [Occupation.fields, Json.lookup, ofInt, Json.prune, asInt, pure,
      Except.pure]

theorem Snapshot.ofValue_stored_text
    {fields : List (String × Json)}
    (hnodup : (fields.map Prod.fst).Nodup)
    (key : String) {text : Option String}
    (hkey : Json.lookup key fields = ofString text) (htext : text ≠ none) :
    Snapshot.ofValue (Json.obj fields).prune =
      .ok (Snapshot.stored fields) := by
  apply Snapshot.ofValue_prune_obj hnodup key
  rw [hkey, prune_ofString]
  cases text with
  | none => exact (htext rfl).elim
  | some text => simp [ofString]

/-- The fields of a user that survive being stored: the encoders never write
the birth date. -/
def User.readBack (user : User) (location : Location) : User :=
  { user with birth := none, location := some location.readBack }

theorem User.fromDB_stored
    {fields : List (String × Json)}
    (hnodup : (fields.map Prod.fst).Nodup)
    {user : User} {location : Location}
    (haddress : location.address ≠ none)
    (hemail : Json.lookup "email" fields = ofString user.email)
    (hname : Json.lookup "name" fields = ofString user.name)
    (hpassword : Json.lookup "password" fields = ofString user.password)
    (hbirth : Json.lookup "birth" fields = .null)
    (himage : Json.lookup "image_url" fields = ofString user.imageUrl)
    (huid : Json.lookup "uid" fields = ofString user.uid)
    (hlocation : Json.lookup "location" fields = location.toJson) :
    User.fromDB (Snapshot.stored fields) =
      .ok (user.readBack location) := by
  have hstored :
      Snapshot.ofValue location.toJson.prune =
        .ok (Snapshot.stored location.fields) :=
    Snapshot.ofValue_stored_text location.fields_nodup
      "address" rfl haddress
  simp only [User.fromDB, Snapshot.getData_stored hnodup, bind,
    Except.bind, hemail, hname, hpassword, hbirth, himage, huid, hlocation,
    prune_ofString, asString_ofString, hstored, Location.fromBD_stored]
  rfl

/-- A client as it comes back from the database: the empty list of
favourites was not stored. -/
theorem Client.fromDB_stored
    (client : Client) (location : Location)
    (haddress : location.address ≠ none)
    (hfavorites : client.favoriteList = some []) :
    Client.fromDB (Snapshot.stored (client.fields location)) =
      .ok
        { toUser := client.toUser.readBack location
          favoriteList := none } := by
  have hnodup := client.fields_nodup location
  have huser :
      User.fromDB (Snapshot.stored (client.fields location)) =
        .ok (client.toUser.readBack location) :=
    User.fromDB_stored hnodup haddress rfl rfl rfl rfl rfl rfl rfl
  have hlist :
      Json.lookup "favorite_list" (client.fields location) =
        .obj [] := by
    simp [Client.fields, Json.lookup, hfavorites, ofMap]
  simp only [Client.fromDB, huser, Snapshot.getData_stored hnodup, hlist,
    bind, Except.bind]
  rfl

/-- The parts of a worker's profile that the completion form fills in. -/
structure Worker.Completed (worker : Worker) (location : Location)
    (attendance : Attendance) (social : Social)
    (occupation : Occupation) : Prop where
  location_eq : worker.location = some location
  attendance_eq : worker.attendance = some attendance
  social_eq : worker.social = some social
  occupation_eq : worker.occupation = some occupation
  address : location.address ≠ none
  cash : attendance.cash ≠ none
  facebook : social.facebook ≠ none
  description : occupation.description ≠ none

section Completed

variable {worker : Worker} {location : Location} {attendance : Attendance}
  {social : Social} {occupation : Occupation}

theorem Worker.Completed.toJson_eq
    (h : worker.Completed location attendance social occupation) :
    worker.toJson =
      .ok (.obj (worker.fields location attendance social occupation)) := by
  simp only [Worker.toJson, h.location_eq, h.attendance_eq, h.social_eq,
    h.occupation_eq, nonNull, bind, Except.bind]
  rfl

theorem Worker.Completed.fromDB_stored
    (h : worker.Completed location attendance social occupation) :
    Worker.fromDB
        (Snapshot.stored
          (worker.fields location attendance social occupation)) =
      .ok { worker with
        toUser := worker.toUser.readBack location } := by
  have hnodup :=
    worker.fields_nodup location attendance social occupation
  have huser :
      User.fromDB
          (Snapshot.stored
            (worker.fields location attendance social occupation)) =
        .ok (worker.toUser.readBack location) :=
    User.fromDB_stored hnodup h.address rfl rfl rfl rfl rfl rfl rfl
  have hattendance :
      Snapshot.ofValue attendance.toJson.prune =
        .ok (Snapshot.stored attendance.fields) := by
    apply Snapshot.ofValue_prune_obj attendance.fields_nodup "cash"
    obtain ⟨cash, hcash⟩ := Option.ne_none_iff_exists'.mp h.cash
    simp [Attendance.fields, Json.lookup, hcash, ofBool, Json.prune]
  have hsocial :
      Snapshot.ofValue social.toJson.prune =
        .ok (Snapshot.stored social.fields) :=
    Snapshot.ofValue_stored_text social.fields_nodup
      "facebook" rfl h.facebook
  have hoccupation :
      Snapshot.ofValue occupation.toJson.prune =
        .ok (Snapshot.stored occupation.fields) :=
    Snapshot.ofValue_stored_text occupation.fields_nodup
      "description" rfl h.description
  have hattendanceKey :
      Json.lookup "attendance"
          (worker.fields location attendance social occupation) =
        attendance.toJson := rfl
  have hsocialKey :
      Json.lookup "social"
          (worker.fields location attendance social occupation) =
        social.toJson := rfl
  have hoccupationKey :
      Json.lookup "occupation"
          (worker.fields location attendance social occupation) =
        occupation.toJson := rfl
  simp only [Worker.fromDB, huser, Snapshot.getData_stored hnodup,
    hattendanceKey, hsocialKey, hoccupationKey, hattendance, hsocial,
    hoccupation, Attendance.fromDB_stored, Social.fromDB_stored,
    Occupation.fromDB_stored, bind, Except.bind]
  rw [← h.attendance_eq, ← h.social_eq, ← h.occupation_eq]
  rfl

end Completed

end FoliumApp
