import FoliumApp.RegisterFormMenus

/-!
# The file of places

The countries, states and cities of the registration form are read from one
file by dynamic look-ups, with nothing checked before it is used: an entry of
another shape than expected is only noticed by the load that comes across it.
A file no load of the menus fails on is a catalogue, and the other way round,
also for names that the file does not have.
-/

namespace FoliumApp

open PathTree

/-! ## Look-ups on values of unknown type -/

inductive AssetError where
  | dart (error : DartError)
  | range
  deriving DecidableEq

namespace Asset

def dart {α : Type} : Except DartError α → Except AssetError α :=
  Except.mapError .dart

/-- `value[key]` for a text; lists and texts have no such index. -/
def atKey : Json → String → Except AssetError Json
  | .obj fields, key => .ok (Json.lookup key fields)
  | .list _, _ | .str _, _ => .error (.dart .typeError)
  | _, _ => .error (.dart .noSuchMethod)

/-- `value[0]`; a map has no number among its keys. -/
def atZero : Json → Except AssetError Json
  | .list [] => .error .range
  | .list (first :: _) => .ok first
  | .obj _ => .ok .null
  | .str text =>
      match text.toList with
      | [] => .error .range
      | first :: _ => .ok (.str first.toString)
  | _ => .error (.dart .noSuchMethod)

/-- A value assigned to a `Map` and used as one; a null passes the
assignment. -/
def usedMap (value : Json) : Except AssetError (List (String × Json)) := do
  let map ← dart (asMap value)
  dart (nonNull map)

/-- What a `for` loop goes through. -/
def elements : Json → Except AssetError (List Json)
  | .list items => .ok items
  | .null => .error (.dart .noSuchMethod)
  | _ => .error (.dart .typeError)

end Asset

/-! ## The loads -/

namespace LocationController

open Asset

/-- The file once it is awaited and used.  Asserts are off, as in an app that
is shipped. -/
def loadAsset (asset : Json) : Except AssetError (List (String × Json)) :=
  usedMap asset

def readCountries (asset : Json) : Except AssetError (List String) := do
  let data ← loadAsset asset
  return data.map Prod.fst

def readStates (asset : Json) (country : String) :
    Except AssetError (List String) := do
  let data ← loadAsset asset
  let first ← atZero (Json.lookup country data)
  let statesMap ← usedMap first
  return statesMap.map Prod.fst

def readCities (asset : Json) (country state : String) :
    Except AssetError (List (Option String)) := do
  let data ← loadAsset asset
  let first ← atZero (Json.lookup country data)
  let cities ← atKey first state
  let items ← elements cities
  items.mapM fun item => dart (asString item)

end LocationController

/-- What `jsonDecode` makes: of equal names in a map only one is kept. -/
inductive Decoded : Json → Prop where
  | null : Decoded .null
  | bool (value : Bool) : Decoded (.bool value)
  | int (value : ℤ) : Decoded (.int value)
  | double (value : ℚ) : Decoded (.double value)
  | str (value : String) : Decoded (.str value)
  | list {items : List Json} (hitems : ∀ item ∈ items, Decoded item) :
      Decoded (.list items)
  | obj {fields : List (String × Json)}
      (hnames : (fields.map Prod.fst).Nodup)
      (hvalues : ∀ field ∈ fields, Decoded field.2) :
      Decoded (.obj fields)

/-! ## What the loads take -/

section Loads

open LocationController Asset

variable {asset : Json} {country state : String}

theorem asset_bind_ok {α β : Type} {first : Except AssetError α}
    {next : α → Except AssetError β} {value : β} :
    (first >>= next) = .ok value ↔
      ∃ middle, first = .ok middle ∧ next middle = .ok value := by
  cases first <;> simp [bind, Except.bind]

theorem dart_ok_iff {α : Type} {result : Except DartError α} {value : α} :
    dart result = .ok value ↔ result = .ok value := by
  cases result <;> simp [dart, Except.mapError]

theorem usedMap_ok_iff {value : Json} {fields : List (String × Json)} :
    usedMap value = .ok fields ↔ value = .obj fields := by
  cases value <;>
    simp [usedMap, dart, asMap, nonNull, bind, Except.bind, Except.mapError]

theorem atZero_ok_obj_iff {value : Json} {fields : List (String × Json)} :
    atZero value = .ok (.obj fields) ↔
      ∃ rest, value = .list (.obj fields :: rest) := by
  cases value with
  | list items => cases items <;> simp [atZero]
  | str text => cases htext : text.toList <;> simp [atZero, htext]
  | _ => simp [atZero]

theorem elements_ok_iff {value : Json} {items : List Json} :
    elements value = .ok items ↔ value = .list items := by
  cases value <;> simp [elements]

theorem texts_ok_iff {items : List Json} {texts : List String} :
    (items.mapM fun item => dart (asString item)) = .ok (texts.map some) ↔
      items = texts.map .str := by
  induction items generalizing texts with
  | nil => cases texts <;> simp [pure, Except.pure]
  | cons item rest ih =>
      rw [List.mapM_cons]
      simp only [asset_bind_ok, dart_ok_iff, pure, Except.pure,
        Except.ok.injEq]
      constructor
      · rintro ⟨text, htext, found, hfound, heq⟩
        cases texts with
        | nil => cases heq
        | cons first others =>
            rw [List.map_cons, List.cons.injEq] at heq
            obtain ⟨rfl, rfl⟩ := heq
            rw [List.map_cons, ih.mp hfound]
            cases item <;> simp_all [asString]
      · intro heq
        cases texts with
        | nil => cases heq
        | cons first others =>
            rw [List.map_cons, List.cons.injEq] at heq
            obtain ⟨rfl, hrest⟩ := heq
            exact ⟨some first, rfl, others.map some, ih.mpr hrest, rfl⟩

theorem readCountries_ok_iff {countries : List String} :
    readCountries asset = .ok countries ↔
      ∃ data, asset = .obj data ∧ data.map Prod.fst = countries := by
  unfold readCountries loadAsset
  simp only [asset_bind_ok, usedMap_ok_iff, pure, Except.pure,
    Except.ok.injEq]

theorem readStates_ok_iff {data : List (String × Json)}
    {states : List String} :
    readStates (.obj data) country = .ok states ↔
      ∃ statesMap rest,
        Json.lookup country data = .list (.obj statesMap :: rest) ∧
          statesMap.map Prod.fst = states := by
  unfold readStates loadAsset
  simp only [asset_bind_ok, usedMap_ok_iff, Json.obj.injEq, exists_eq_left',
    pure, Except.pure, Except.ok.injEq]
  constructor
  · rintro ⟨_, hzero, statesMap, rfl, hstates⟩
    obtain ⟨rest, hrest⟩ := atZero_ok_obj_iff.mp hzero
    exact ⟨statesMap, rest, hrest, hstates⟩
  · rintro ⟨statesMap, rest, hrest, hstates⟩
    exact ⟨_, atZero_ok_obj_iff.mpr ⟨rest, hrest⟩, statesMap, rfl, hstates⟩

theorem readCities_ok_iff {data statesMap : List (String × Json)}
    {rest : List Json} {cities : List String}
    (hcountry : Json.lookup country data = .list (.obj statesMap :: rest)) :
    readCities (.obj data) country state = .ok (cities.map some) ↔
      Json.lookup state statesMap = .list (cities.map .str) := by
  unfold readCities loadAsset
  simp only [asset_bind_ok, usedMap_ok_iff, Json.obj.injEq, exists_eq_left',
    hcountry, atZero, atKey, Except.ok.injEq, elements_ok_iff, texts_ok_iff]
  constructor
  · rintro ⟨items, hitems, rfl⟩
    exact hitems
  · intro hitems
    exact ⟨_, hitems, rfl⟩

/-- A name the file does not have. -/
theorem readStates_of_not_mem {data : List (String × Json)}
    (hcountry : country ∉ data.map Prod.fst) :
    readStates (.obj data) country = .error (.dart .noSuchMethod) := by
  change (atZero (Json.lookup country data) >>= _) = _
  rw [Json.lookup_eq_null_of_not_mem hcountry]
  rfl

theorem readCities_of_country_not_mem {data : List (String × Json)}
    (hcountry : country ∉ data.map Prod.fst) :
    readCities (.obj data) country state =
      .error (.dart .noSuchMethod) := by
  change (atZero (Json.lookup country data) >>= _) = _
  rw [Json.lookup_eq_null_of_not_mem hcountry]
  rfl

theorem readCities_of_state_not_mem {data statesMap : List (String × Json)}
    {rest : List Json}
    (hcountry : Json.lookup country data = .list (.obj statesMap :: rest))
    (hstate : state ∉ statesMap.map Prod.fst) :
    readCities (.obj data) country state =
      .error (.dart .noSuchMethod) := by
  change (atZero (Json.lookup country data) >>= _) = _
  rw [hcountry]
  change (elements (Json.lookup state statesMap) >>= _) = _
  rw [Json.lookup_eq_null_of_not_mem hstate]
  rfl

end Loads

/-! ## The catalogue in a file -/

section Files

open LocationController Asset

/-- The loads of the countries, of the states of a country of the file and of
the cities of a state it has do not fail, and every city has a name. -/
def Serves (asset : Json) : Prop :=
  ∃ countries, readCountries asset = .ok countries ∧
    ∀ country ∈ countries, ∃ states,
      readStates asset country = .ok states ∧
        ∀ state ∈ states, ∃ cities : List String,
          readCities asset country state = .ok (cities.map some)

/-- Whatever is asked for, the file gives what the catalogue gives. -/
structure Catalogue.Describes (catalogue : Catalogue) (asset : Json) :
    Prop where
  countries : readCountries asset = .ok (getCountries catalogue)
  states : ∀ country,
    readStates asset country = dart (getStates catalogue country)
  cities : ∀ country state,
    readCities asset country state =
      dart ((getCities catalogue country state).map
        fun cities => cities.map some)

def citiesIn : Json → List String
  | .list items => items.filterMap fun item =>
      match item with
      | .str text => some text
      | _ => none
  | _ => []

def statesIn : Json → List (String × List String)
  | .list (.obj statesMap :: _) =>
      statesMap.map fun field => (field.1, citiesIn field.2)
  | _ => []

def countriesIn : Json → List (String × List (String × List String))
  | .obj data => data.map fun field => (field.1, statesIn field.2)
  | _ => []

theorem statesIn_nodup {value : Json} (hdecoded : Decoded value) :
    ((statesIn value).map Prod.fst).Nodup := by
  unfold statesIn
  split
  · rename_i statesMap rest
    cases hdecoded with
    | list hitems =>
        cases hitems _ List.mem_cons_self with
        | obj hnames _ =>
            rw [List.map_map]
            exact hnames
  · exact List.nodup_nil

/-- The catalogue of a decoded file. -/
def catalogueIn (asset : Json) (hdecoded : Decoded asset) : Catalogue where
  countries := countriesIn asset
  countries_nodup := by
    unfold countriesIn
    split
    · cases hdecoded with
      | obj hnames _ =>
          rw [List.map_map]
          exact hnames
    · exact List.nodup_nil
  states_nodup := by
    intro country hcountry
    unfold countriesIn at hcountry
    split at hcountry
    · cases hdecoded with
      | obj _ hvalues =>
          obtain ⟨field, hfield, rfl⟩ := List.mem_map.mp hcountry
          exact statesIn_nodup (hvalues field hfield)
    · cases hcountry

theorem lookup_map_fields {α : Type} (change : Json → α) (key : String)
    (fields : List (String × Json)) :
    (fields.map fun field => (field.1, change field.2)).lookup key =
      if key ∈ fields.map Prod.fst then
        some (change (Json.lookup key fields))
      else none := by
  induction fields with
  | nil => rfl
  | cons field rest ih =>
      obtain ⟨name, value⟩ := field
      simp only [List.map_cons, List.lookup_cons, Json.lookup]
      by_cases hname : key = name
      · subst hname
        simp
      · rw [beq_eq_false_iff_ne.mpr hname, ih]
        simp only [List.mem_cons, hname, false_or, if_false]

theorem citiesIn_texts (cities : List String) :
    citiesIn (.list (cities.map .str)) = cities := by
  unfold citiesIn
  induction cities with
  | nil => rfl
  | cons city rest ih => simp [ih]

theorem lookup_countriesIn (data : List (String × Json))
    (country : String) :
    (countriesIn (.obj data)).lookup country =
      if country ∈ data.map Prod.fst then
        some (statesIn (Json.lookup country data))
      else none :=
  lookup_map_fields statesIn country data

theorem Serves.states_of_mem {data : List (String × Json)}
    (hserves : Serves (.obj data)) {country : String}
    (hmem : country ∈ data.map Prod.fst) :
    ∃ states, readStates (.obj data) country = .ok states ∧
      ∀ state ∈ states, ∃ cities : List String,
        readCities (.obj data) country state = .ok (cities.map some) := by
  obtain ⟨countries, hcountries, hstates⟩ := hserves
  obtain ⟨found, hfound, rfl⟩ := readCountries_ok_iff.mp hcountries
  cases hfound
  exact hstates country hmem

theorem Serves.readStates_eq {data : List (String × Json)}
    (hserves : Serves (.obj data)) (hdecoded : Decoded (.obj data))
    (country : String) :
    readStates (.obj data) country =
      dart (getStates (catalogueIn (.obj data) hdecoded) country) := by
  unfold getStates
  change _ = dart (nonNull ((countriesIn (.obj data)).lookup country) >>= _)
  rw [lookup_countriesIn]
  by_cases hmem : country ∈ data.map Prod.fst
  · obtain ⟨states, hread, -⟩ := hserves.states_of_mem hmem
    obtain ⟨statesMap, rest, hcountry, rfl⟩ := readStates_ok_iff.mp hread
    rw [hread, if_pos hmem, hcountry]
    change _ = Except.ok ((statesIn _).map Prod.fst)
    rw [statesIn, List.map_map]
    rfl
  · rw [readStates_of_not_mem hmem, if_neg hmem]
    rfl

theorem Serves.readCities_eq {data : List (String × Json)}
    (hserves : Serves (.obj data)) (hdecoded : Decoded (.obj data))
    (country state : String) :
    readCities (.obj data) country state =
      dart ((getCities (catalogueIn (.obj data) hdecoded) country state).map
        fun cities => cities.map some) := by
  unfold getCities
  change _ = dart
    ((nonNull ((countriesIn (.obj data)).lookup country) >>= _).map _)
  rw [lookup_countriesIn]
  by_cases hmem : country ∈ data.map Prod.fst
  · obtain ⟨states, hread, hcities⟩ := hserves.states_of_mem hmem
    obtain ⟨statesMap, rest, hcountry, rfl⟩ := readStates_ok_iff.mp hread
    rw [if_pos hmem, hcountry]
    change _ = dart ((nonNull ((statesIn _).lookup state)).map _)
    rw [statesIn, lookup_map_fields]
    by_cases hstate : state ∈ statesMap.map Prod.fst
    · obtain ⟨cities, hfound⟩ := hcities state hstate
      rw [hfound, if_pos hstate, (readCities_ok_iff hcountry).mp hfound,
        citiesIn_texts]
      rfl
    · rw [readCities_of_state_not_mem hcountry hstate, if_neg hstate]
      rfl
  · rw [readCities_of_country_not_mem hmem, if_neg hmem]
    rfl

theorem Serves.describes {asset : Json} (hserves : Serves asset)
    (hdecoded : Decoded asset) :
    (catalogueIn asset hdecoded).Describes asset := by
  have ⟨countries, hcountries, _⟩ := hserves
  obtain ⟨data, rfl, rfl⟩ := readCountries_ok_iff.mp hcountries
  constructor
  · rw [hcountries]
    simp [getCountries, catalogueIn, countriesIn]
  · exact hserves.readStates_eq hdecoded
  · exact hserves.readCities_eq hdecoded

theorem Catalogue.Describes.serves {catalogue : Catalogue} {asset : Json}
    (hdescribes : catalogue.Describes asset) : Serves asset := by
  refine ⟨_, hdescribes.countries, ?_⟩
  intro country hcountry
  obtain ⟨states, hstates, -⟩ := getStates_of_mem hcountry
  refine ⟨states, ?_, ?_⟩
  · rw [hdescribes.states, hstates]
    rfl
  · intro state hstate
    obtain ⟨cities, hcities⟩ := getCities_of_mem hstates hstate
    refine ⟨cities, ?_⟩
    rw [hdescribes.cities, hcities]
    rfl

/-- A file no load of the menus fails on is one that a catalogue describes,
down to what happens to names it does not have. -/
theorem served_asset_is_catalogue {asset : Json}
    (hdecoded : Decoded asset) :
    Serves asset ↔
      ∃ catalogue : Catalogue, catalogue.Describes asset := by
  constructor
  · intro hserves
    exact ⟨_, hserves.describes hdecoded⟩
  · rintro ⟨catalogue, hdescribes⟩
    exact hdescribes.serves

def acreFile : Json :=
  .obj [("BR", .list [.obj [("Acre", .list [.str "Xapuri"])]])]

theorem served_asset_is_catalogue_acreFile :
    Serves acreFile ∧
      ∃ catalogue : Catalogue, catalogue.Describes acreFile := by
  have hdecoded : Decoded acreFile := by
    have hcities : Decoded (.list [.str "Xapuri"]) := by
      apply Decoded.list
      simp [Decoded.str]
    have hstates :
        Decoded (.list [.obj [("Acre", .list [.str "Xapuri"])]]) := by
      apply Decoded.list
      intro item hitem
      rw [List.mem_singleton.mp hitem]
      apply Decoded.obj (by simp)
      simpa using hcities
    apply Decoded.obj (by simp)
    simpa using hstates
  have hserves : Serves acreFile := by
    refine ⟨["BR"], rfl, ?_⟩
    intro country hcountry
    rw [List.mem_singleton.mp hcountry]
    refine ⟨["Acre"], rfl, ?_⟩
    intro state hstate
    rw [List.mem_singleton.mp hstate]
    exact ⟨["Xapuri"], rfl⟩
  exact ⟨hserves, (served_asset_is_catalogue hdecoded).mp hserves⟩

end Files

end FoliumApp
