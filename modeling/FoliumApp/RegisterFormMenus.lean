import FoliumApp.CallSequences
import FoliumApp.Screens

/-!
# The location menus of the registration form

Picking a country empties the menu of states at once and fills it again when
the states have been loaded; picking a state does the same to the cities.
Selections are reset only when a load ends, loads end in any order, and every
load appends to the list its menu shows at that time.

The first item of a menu is its placeholder and is never removed, so a menu
is modelled as the placeholder with the items after it.
-/

namespace FoliumApp

open CallSequences

/-! ## The catalogue -/

/-- Countries with their states and the cities of each, as the asset file
lists them.  Names of one level are the keys of one map. -/
structure Catalogue where
  countries : List (String × List (String × List String))
  countries_nodup : (countries.map Prod.fst).Nodup
  states_nodup : ∀ country ∈ countries, (country.2.map Prod.fst).Nodup

namespace LocationController

def getCountries (catalogue : Catalogue) : List String :=
  catalogue.countries.map Prod.fst

def getStates (catalogue : Catalogue) (country : String) :
    Except DartError (List String) := do
  let statesMap ← nonNull (catalogue.countries.lookup country)
  return statesMap.map Prod.fst

def getCities (catalogue : Catalogue) (country state : String) :
    Except DartError (List String) := do
  let statesMap ← nonNull (catalogue.countries.lookup country)
  nonNull (statesMap.lookup state)

end LocationController

/-! ## The form -/

structure Menu where
  placeholder : String
  items : List String
  deriving DecidableEq

namespace Menu

def values (menu : Menu) : List String := menu.placeholder :: menu.items

/-- `removeRange(1, length)` -/
def clear (menu : Menu) : Menu := { menu with items := [] }

def add (menu : Menu) (items : List String) : Menu :=
  { menu with items := menu.items ++ items }

end Menu

/-- The menus and selections, with the loads that have not ended. -/
structure MenuForm where
  countriesMenu : Menu
  statesMenu : Menu
  citiesMenu : Menu
  selectedCountry : String
  selectedState : String
  selectedCity : String
  loadingCountries : Bool
  loadingStates : List String
  loadingCities : List (String × String)
  deriving DecidableEq

namespace MenuForm

def initial : MenuForm :=
  { countriesMenu := ⟨SimpleRegister.countryPlaceholder, []⟩
    statesMenu := ⟨SimpleRegister.statePlaceholder, []⟩
    citiesMenu := ⟨SimpleRegister.cityPlaceholder, []⟩
    selectedCountry := SimpleRegister.countryPlaceholder
    selectedState := SimpleRegister.statePlaceholder
    selectedCity := SimpleRegister.cityPlaceholder
    loadingCountries := true
    loadingStates := []
    loadingCities := [] }

def resetCity (form : MenuForm) : MenuForm :=
  { form with selectedCity := form.citiesMenu.placeholder }

def resetState (form : MenuForm) : MenuForm :=
  { form.resetCity with selectedState := form.statesMenu.placeholder }

def resetCountry (form : MenuForm) : MenuForm :=
  { form.resetState with
    selectedCountry := form.countriesMenu.placeholder }

/-- `_loadStatesMenu` up to its await; without a country to load for it ends
at once. -/
def loadStatesMenu (form : MenuForm) (country : String) : MenuForm :=
  let form := { form with statesMenu := form.statesMenu.clear }
  if form.countriesMenu.placeholder ≠ form.selectedCountry then
    { form with loadingStates := form.loadingStates ++ [country] }
  else form.resetState

/-- `_loadCitiesMenu` up to its await. -/
def loadCitiesMenu (form : MenuForm) (country state : String) : MenuForm :=
  let form := { form with citiesMenu := form.citiesMenu.clear }
  if form.statesMenu.placeholder ≠ form.selectedState ∧
      form.countriesMenu.placeholder ≠ form.selectedCountry then
    { form with loadingCities := form.loadingCities ++ [(country, state)] }
  else form.resetCity

def changedCountryDropDownItem (form : MenuForm) (country : String) :
    MenuForm :=
  loadStatesMenu { form with selectedCountry := country } country

def changedStateDropDownItem (form : MenuForm) (state : String) :
    MenuForm :=
  loadCitiesMenu { form with selectedState := state } form.selectedCountry
    state

def changedCityDropDownItem (form : MenuForm) (city : String) : MenuForm :=
  { form with selectedCity := city }

/-- The rest of `_loadCountriesMenu`. -/
def countriesLoaded (catalogue : Catalogue) (form : MenuForm) : MenuForm :=
  resetCountry
    { form with
      countriesMenu :=
        form.countriesMenu.add (LocationController.getCountries catalogue)
      loadingCountries := false }

/-- The rest of `_loadStatesMenu` once its await has ended. -/
def statesLoaded (catalogue : Catalogue) (form : MenuForm)
    (country : String) : MenuForm :=
  match LocationController.getStates catalogue country with
  | .ok states =>
      resetState { form with statesMenu := form.statesMenu.add states }
  | .error _ => form

def citiesLoaded (catalogue : Catalogue) (form : MenuForm)
    (country state : String) : MenuForm :=
  match LocationController.getCities catalogue country state with
  | .ok cities =>
      resetCity { form with citiesMenu := form.citiesMenu.add cities }
  | .error _ => form

end MenuForm

inductive MenuEvent where
  | pickCountry (country : String)
  | pickState (state : String)
  | pickCity (city : String)
  | press
  | countriesEnd
  | statesEnd (index : ℕ)
  | citiesEnd (index : ℕ)
  deriving DecidableEq

namespace MenuForm

/-- One event; a pick is of an item shown, and only a load that has not
ended can end. -/
def step (catalogue : Catalogue) (form : MenuForm) :
    MenuEvent → Option MenuForm
  | .pickCountry country =>
      if country ∈ form.countriesMenu.values then
        some (form.changedCountryDropDownItem country)
      else none
  | .pickState state =>
      if state ∈ form.statesMenu.values then
        some (form.changedStateDropDownItem state)
      else none
  | .pickCity city =>
      if city ∈ form.citiesMenu.values then
        some (form.changedCityDropDownItem city)
      else none
  | .press => some form
  | .countriesEnd =>
      if form.loadingCountries then some (form.countriesLoaded catalogue)
      else none
  | .statesEnd index =>
      match form.loadingStates[index]? with
      | some country =>
          some (statesLoaded catalogue
            { form with
              loadingStates := form.loadingStates.eraseIdx index }
            country)
      | none => none
  | .citiesEnd index =>
      match form.loadingCities[index]? with
      | some (country, state) =>
          some (citiesLoaded catalogue
            { form with
              loadingCities := form.loadingCities.eraseIdx index }
            country state)
      | none => none

def guardsPassed (form : MenuForm) : Bool :=
  form.selectedCountry ≠ form.countriesMenu.placeholder &&
    form.selectedState ≠ form.statesMenu.placeholder &&
    form.selectedCity ≠ form.citiesMenu.placeholder

end MenuForm

/-! ## The handlers by cases -/

/-- What an event can do to the form, with what it takes for granted. -/
inductive MenuForm.Moves (catalogue : Catalogue) (form : MenuForm) :
    MenuEvent → MenuForm → Prop where
  | pickCountry {country : String}
      (hshown : country ∈ form.countriesMenu.values) :
      Moves catalogue form (.pickCountry country)
        (form.changedCountryDropDownItem country)
  | pickState {state : String} (hshown : state ∈ form.statesMenu.values) :
      Moves catalogue form (.pickState state)
        (form.changedStateDropDownItem state)
  | pickCity {city : String} (hshown : city ∈ form.citiesMenu.values) :
      Moves catalogue form (.pickCity city)
        (form.changedCityDropDownItem city)
  | press : Moves catalogue form .press form
  | countriesEnd (hloading : form.loadingCountries = true) :
      Moves catalogue form .countriesEnd (form.countriesLoaded catalogue)
  | statesEnd {index : ℕ} {country : String}
      (hload : form.loadingStates[index]? = some country) :
      Moves catalogue form (.statesEnd index)
        (statesLoaded catalogue
          { form with loadingStates := form.loadingStates.eraseIdx index }
          country)
  | citiesEnd {index : ℕ} {country state : String}
      (hload : form.loadingCities[index]? = some (country, state)) :
      Moves catalogue form (.citiesEnd index)
        (citiesLoaded catalogue
          { form with loadingCities := form.loadingCities.eraseIdx index }
          country state)

namespace MenuForm

theorem moves_of_step {catalogue : Catalogue} {form next : MenuForm}
    {event : MenuEvent} (hstep : form.step catalogue event = some next) :
    form.Moves catalogue event next := by
  cases event with
  | pickCountry country =>
      simp only [step] at hstep
      split_ifs at hstep with hshown
      simp only [Option.some.injEq] at hstep
      subst next
      exact .pickCountry hshown
  | pickState state =>
      simp only [step] at hstep
      split_ifs at hstep with hshown
      simp only [Option.some.injEq] at hstep
      subst next
      exact .pickState hshown
  | pickCity city =>
      simp only [step] at hstep
      split_ifs at hstep with hshown
      simp only [Option.some.injEq] at hstep
      subst next
      exact .pickCity hshown
  | press =>
      simp only [step, Option.some.injEq] at hstep
      subst next
      exact .press
  | countriesEnd =>
      simp only [step] at hstep
      split_ifs at hstep with hloading
      simp only [Option.some.injEq] at hstep
      subst next
      exact .countriesEnd hloading
  | statesEnd index =>
      simp only [step] at hstep
      cases hload : form.loadingStates[index]? with
      | none => simp [hload] at hstep
      | some country =>
          simp only [hload, Option.some.injEq] at hstep
          subst next
          exact .statesEnd hload
  | citiesEnd index =>
      simp only [step] at hstep
      cases hload : form.loadingCities[index]? with
      | none => simp [hload] at hstep
      | some load =>
          obtain ⟨country, state⟩ := load
          simp only [hload, Option.some.injEq] at hstep
          subst next
          exact .citiesEnd hload

section Handlers

variable (catalogue : Catalogue) (form : MenuForm)

theorem changedCountry_of_ne {country : String}
    (hcountry : country ≠ form.countriesMenu.placeholder) :
    form.changedCountryDropDownItem country =
      { form with
        selectedCountry := country
        statesMenu := form.statesMenu.clear
        loadingStates := form.loadingStates ++ [country] } := by
  unfold changedCountryDropDownItem loadStatesMenu
  exact if_pos hcountry.symm

theorem changedCountry_placeholder :
    form.changedCountryDropDownItem form.countriesMenu.placeholder =
      { form with
        selectedCountry := form.countriesMenu.placeholder
        statesMenu := form.statesMenu.clear
        selectedState := form.statesMenu.placeholder
        selectedCity := form.citiesMenu.placeholder } := by
  unfold changedCountryDropDownItem loadStatesMenu
  exact if_neg (fun hne => hne rfl)

theorem changedState_of_ne {state : String}
    (hstate : state ≠ form.statesMenu.placeholder)
    (hcountry : form.selectedCountry ≠ form.countriesMenu.placeholder) :
    form.changedStateDropDownItem state =
      { form with
        selectedState := state
        citiesMenu := form.citiesMenu.clear
        loadingCities :=
          form.loadingCities ++ [(form.selectedCountry, state)] } := by
  unfold changedStateDropDownItem loadCitiesMenu
  exact if_pos ⟨hstate.symm, hcountry.symm⟩

theorem changedState_placeholder {state : String}
    (hplaceholder : state = form.statesMenu.placeholder ∨
      form.selectedCountry = form.countriesMenu.placeholder) :
    form.changedStateDropDownItem state =
      { form with
        selectedState := state
        citiesMenu := form.citiesMenu.clear
        selectedCity := form.citiesMenu.placeholder } := by
  unfold changedStateDropDownItem loadCitiesMenu
  apply if_neg
  intro hchosen
  obtain ⟨hstate, hcountry⟩ := hchosen
  rcases hplaceholder with heq | heq
  · exact hstate heq.symm
  · exact hcountry heq.symm

variable {catalogue}

theorem statesLoaded_of_ok {country : String} {states : List String}
    (hstates :
      LocationController.getStates catalogue country = .ok states) :
    form.statesLoaded catalogue country =
      { form with
        statesMenu := form.statesMenu.add states
        selectedState := form.statesMenu.placeholder
        selectedCity := form.citiesMenu.placeholder } := by
  unfold statesLoaded
  rw [hstates]
  rfl

theorem statesLoaded_of_error {country : String} {error : DartError}
    (hstates :
      LocationController.getStates catalogue country = .error error) :
    form.statesLoaded catalogue country = form := by
  unfold statesLoaded
  rw [hstates]

theorem citiesLoaded_of_ok {country state : String} {cities : List String}
    (hcities :
      LocationController.getCities catalogue country state = .ok cities) :
    form.citiesLoaded catalogue country state =
      { form with
        citiesMenu := form.citiesMenu.add cities
        selectedCity := form.citiesMenu.placeholder } := by
  unfold citiesLoaded
  rw [hcities]
  rfl

theorem citiesLoaded_of_error {country state : String} {error : DartError}
    (hcities :
      LocationController.getCities catalogue country state =
        .error error) :
    form.citiesLoaded catalogue country state = form := by
  unfold citiesLoaded
  rw [hcities]

end Handlers

end MenuForm

/-! ## What the catalogue offers -/

section Offered

variable (catalogue : Catalogue)

def Catalogue.statesOf (country : String) : List String :=
  match LocationController.getStates catalogue country with
  | .ok states => states
  | .error _ => []

/-- The states of the country selected, none for the placeholder. -/
def MenuForm.chosenStates (form : MenuForm) : List String :=
  if form.selectedCountry = form.countriesMenu.placeholder then []
  else catalogue.statesOf form.selectedCountry

/-- The selection is a country, a state of it and a city of that state. -/
def MenuForm.RealLocation (form : MenuForm) : Prop :=
  (∃ states,
    LocationController.getStates catalogue form.selectedCountry =
        .ok states ∧
      form.selectedState ∈ states) ∧
  ∃ cities,
    LocationController.getCities catalogue form.selectedCountry
        form.selectedState = .ok cities ∧
      form.selectedCity ∈ cities

variable {catalogue}

theorem lookup_eq_some_of_mem {α : Type} {key : String}
    {entries : List (String × α)} (hkey : key ∈ entries.map Prod.fst) :
    ∃ value, entries.lookup key = some value ∧ (key, value) ∈ entries := by
  induction entries with
  | nil => cases hkey
  | cons entry rest ih =>
      obtain ⟨name, value⟩ := entry
      by_cases heq : key = name
      · subst heq
        refine ⟨value, ?_, List.mem_cons_self⟩
        rw [List.lookup_cons, beq_self_eq_true]
      · simp only [List.map_cons, List.mem_cons, heq, false_or] at hkey
        obtain ⟨found, hfound, hmem⟩ := ih hkey
        refine ⟨found, ?_, List.mem_cons_of_mem _ hmem⟩
        rw [List.lookup_cons, beq_eq_false_iff_ne.mpr heq]
        exact hfound

theorem getStates_of_mem {country : String}
    (hcountry : country ∈ LocationController.getCountries catalogue) :
    ∃ states,
      LocationController.getStates catalogue country = .ok states ∧
        states.Nodup := by
  obtain ⟨statesMap, hlookup, hmem⟩ := lookup_eq_some_of_mem hcountry
  refine ⟨statesMap.map Prod.fst, ?_, catalogue.states_nodup _ hmem⟩
  simp only [LocationController.getStates, hlookup, nonNull]
  rfl

theorem getCities_of_mem {country state : String} {states : List String}
    (hstates :
      LocationController.getStates catalogue country = .ok states)
    (hstate : state ∈ states) :
    ∃ cities,
      LocationController.getCities catalogue country state =
        .ok cities := by
  unfold LocationController.getStates at hstates
  obtain ⟨statesMap, hmap, hkeys⟩ := except_bind_ok hstates
  cases hkeys
  obtain ⟨cities, hlookup, -⟩ := lookup_eq_some_of_mem hstate
  refine ⟨cities, ?_⟩
  unfold LocationController.getCities
  rw [hmap]
  change nonNull (statesMap.lookup state) = .ok cities
  rw [hlookup]
  rfl

end Offered

end FoliumApp
