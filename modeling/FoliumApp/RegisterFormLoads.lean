import FoliumApp.RegisterFormMenus

/-!
# The location menus under any order of loads

Two properties of the registration form are followed through every
interleaving of picks and ends of loads.  The menu of states shows the states
of the country selected as long as no country is picked while states of
another are still on their way.  A selection that passes the guards is a real
one as long as picks wait for the load of their own menu's successor and the
button waits for both.
-/

namespace FoliumApp

open CallSequences

/-! ## Countries -/

/-- The menu of countries is complete once it is loaded, and the country
selected is one of its values. -/
structure CountriesInvariant (catalogue : Catalogue) (form : MenuForm) :
    Prop where
  loading : form.loadingCountries = true → form.countriesMenu.items = []
  loaded : form.loadingCountries = false →
    form.countriesMenu.items = LocationController.getCountries catalogue
  selected : form.selectedCountry ∈ form.countriesMenu.values

section Countries

variable {catalogue : Catalogue} {form next : MenuForm}

theorem CountriesInvariant.mem_getCountries
    (hinv : CountriesInvariant catalogue form)
    (hselected : form.selectedCountry ≠ form.countriesMenu.placeholder) :
    form.selectedCountry ∈ LocationController.getCountries catalogue := by
  have hitem : form.selectedCountry ∈ form.countriesMenu.items := by
    rcases List.mem_cons.mp hinv.selected with heq | hmem
    · exact absurd heq hselected
    · exact hmem
  cases hloading : form.loadingCountries with
  | true =>
      rw [hinv.loading hloading] at hitem
      cases hitem
  | false =>
      rw [hinv.loaded hloading] at hitem
      exact hitem

theorem CountriesInvariant.selected_of_loading
    (hinv : CountriesInvariant catalogue form)
    (hloading : form.loadingCountries = true) :
    form.selectedCountry = form.countriesMenu.placeholder := by
  have hmem := hinv.selected
  unfold Menu.values at hmem
  rw [hinv.loading hloading] at hmem
  exact List.mem_singleton.mp hmem

theorem CountriesInvariant.congr
    (hinv : CountriesInvariant catalogue form)
    (hloading : next.loadingCountries = form.loadingCountries)
    (hmenu : next.countriesMenu = form.countriesMenu)
    (hselected : next.selectedCountry ∈ form.countriesMenu.values) :
    CountriesInvariant catalogue next := by
  refine ⟨?_, ?_, ?_⟩
  · rw [hloading, hmenu]
    exact hinv.loading
  · rw [hloading, hmenu]
    exact hinv.loaded
  · rw [hmenu]
    exact hselected

theorem CountriesInvariant.countriesLoaded
    (hinv : CountriesInvariant catalogue form)
    (hloading : form.loadingCountries = true) :
    CountriesInvariant catalogue (form.countriesLoaded catalogue) := by
  refine ⟨?_, ?_, List.mem_cons_self⟩
  · intro hfalse
    cases hfalse
  · intro _
    have hitems := hinv.loading hloading
    simp [MenuForm.countriesLoaded, MenuForm.resetCountry,
      MenuForm.resetState, MenuForm.resetCity, Menu.add, hitems]

end Countries

/-! ## The parts of the form an event leaves alone -/

/-- What the menu of states depends on is the same in both forms. -/
structure SameStates (form next : MenuForm) : Prop where
  loadingCountries : next.loadingCountries = form.loadingCountries
  countriesMenu : next.countriesMenu = form.countriesMenu
  selectedCountry : next.selectedCountry = form.selectedCountry
  statesMenu : next.statesMenu = form.statesMenu
  loadingStates : next.loadingStates = form.loadingStates

section Frames

variable {catalogue : Catalogue} {form next : MenuForm}

theorem sameStates_withCities (form : MenuForm) (state city : String)
    (menu : Menu) (loads : List (String × String)) :
    SameStates form
      { form with
        selectedState := state
        selectedCity := city
        citiesMenu := menu
        loadingCities := loads } :=
  ⟨rfl, rfl, rfl, rfl, rfl⟩

theorem sameStates_changedState (form : MenuForm) (state : String) :
    SameStates form (form.changedStateDropDownItem state) := by
  by_cases hplaceholder : state = form.statesMenu.placeholder ∨
      form.selectedCountry = form.countriesMenu.placeholder
  · rw [form.changedState_placeholder hplaceholder]
    exact sameStates_withCities form _ _ _ _
  · simp only [not_or] at hplaceholder
    rw [form.changedState_of_ne hplaceholder.1 hplaceholder.2]
    exact sameStates_withCities form _ _ _ _

theorem sameStates_citiesLoaded (catalogue : Catalogue) (form : MenuForm)
    (loads : List (String × String)) (country state : String) :
    SameStates form
      (MenuForm.citiesLoaded catalogue { form with loadingCities := loads }
        country state) := by
  unfold MenuForm.citiesLoaded
  split
  · exact sameStates_withCities form _ _ _ _
  · exact sameStates_withCities form _ _ _ _

theorem CountriesInvariant.of_sameStates
    (hinv : CountriesInvariant catalogue form)
    (hsame : SameStates form next) : CountriesInvariant catalogue next := by
  apply hinv.congr hsame.loadingCountries hsame.countriesMenu
  rw [hsame.selectedCountry]
  exact hinv.selected

theorem MenuForm.chosenStates_of_sameStates (hsame : SameStates form next) :
    next.chosenStates catalogue = form.chosenStates catalogue := by
  unfold MenuForm.chosenStates
  rw [hsame.selectedCountry, hsame.countriesMenu]

end Frames

/-! ## The menu of states -/

/-- The states shown and the states on their way are together those of the
country selected, and at most one load will append any. -/
structure StatesMenuInvariant (catalogue : Catalogue) (form : MenuForm) :
    Prop where
  countries : CountriesInvariant catalogue form
  menu : form.statesMenu.items ++
      form.loadingStates.flatMap catalogue.statesOf =
    form.chosenStates catalogue
  single : (form.loadingStates.filter fun country =>
    catalogue.statesOf country ≠ []).length ≤ 1

/-- A country is picked only while no load of states that exist is
pending. -/
def CountryPickWaits (catalogue : Catalogue) (form : MenuForm) :
    MenuEvent → Prop
  | .pickCountry _ =>
      ∀ country ∈ form.loadingStates, catalogue.statesOf country = []
  | _ => True

section StatesMenu

variable {catalogue : Catalogue} {form next : MenuForm}

theorem StatesMenuInvariant.initial (catalogue : Catalogue) :
    StatesMenuInvariant catalogue MenuForm.initial := by
  refine ⟨⟨?_, ?_, List.mem_cons_self⟩, ?_, ?_⟩
  · intro _
    rfl
  · intro hfalse
    cases hfalse
  · simp [MenuForm.initial, MenuForm.chosenStates]
  · simp [MenuForm.initial]

theorem StatesMenuInvariant.congr
    (hinv : StatesMenuInvariant catalogue form)
    (hsame : SameStates form next) :
    StatesMenuInvariant catalogue next := by
  refine ⟨hinv.countries.of_sameStates hsame, ?_, ?_⟩
  · rw [MenuForm.chosenStates_of_sameStates hsame, hsame.statesMenu,
      hsame.loadingStates]
    exact hinv.menu
  · rw [hsame.loadingStates]
    exact hinv.single

theorem flatMap_eraseIdx_of_single {statesOf : String → List String}
    {loads : List String} {index : ℕ} {country : String}
    (hsingle : (loads.filter fun country =>
      statesOf country ≠ []).length ≤ 1)
    (hload : loads[index]? = some country) :
    statesOf country ++ (loads.eraseIdx index).flatMap statesOf =
      loads.flatMap statesOf := by
  induction loads generalizing index with
  | nil => simp at hload
  | cons first rest ih =>
      cases index with
      | zero =>
          simp only [List.getElem?_cons_zero, Option.some.injEq] at hload
          subst first
          rfl
      | succ index =>
          simp only [List.getElem?_cons_succ] at hload
          by_cases hfirst : statesOf first = []
          · have hrest : (rest.filter fun country =>
                statesOf country ≠ []).length ≤ 1 := by
              simpa [hfirst] using hsingle
            simp only [List.eraseIdx_cons_succ, List.flatMap_cons, hfirst,
              List.nil_append]
            exact ih hrest hload
          · have hnone : ∀ other ∈ rest, statesOf other = [] := by
              simpa [hfirst] using hsingle
            have hcountry : statesOf country = [] :=
              hnone country (List.mem_of_getElem? hload)
            have hrest : rest.flatMap statesOf = [] := by
              simpa using hnone
            have hless : (rest.eraseIdx index).flatMap statesOf = [] := by
              rw [List.flatMap_eq_nil_iff]
              intro other hmem
              exact hnone other (List.mem_of_mem_eraseIdx hmem)
            simp [hcountry, hrest, hless]

theorem chosenStates_placeholder
    (hcountry : form.selectedCountry = form.countriesMenu.placeholder) :
    form.chosenStates catalogue = [] :=
  if_pos hcountry

theorem StatesMenuInvariant.changedCountry
    (hinv : StatesMenuInvariant catalogue form) {country : String}
    (hshown : country ∈ form.countriesMenu.values)
    (hwaits : ∀ country ∈ form.loadingStates,
      catalogue.statesOf country = []) :
    StatesMenuInvariant catalogue
      (form.changedCountryDropDownItem country) := by
  have hnone : form.loadingStates.flatMap catalogue.statesOf = [] := by
    simpa using hwaits
  have hfilter : (form.loadingStates.filter fun country =>
      catalogue.statesOf country ≠ []) = [] := by
    simpa using hwaits
  by_cases hcountry : country = form.countriesMenu.placeholder
  · subst hcountry
    rw [form.changedCountry_placeholder]
    refine ⟨hinv.countries.congr rfl rfl List.mem_cons_self, ?_, ?_⟩
    · rw [chosenStates_placeholder rfl]
      simp [Menu.clear, hnone]
    · exact hinv.single
  · rw [form.changedCountry_of_ne hcountry]
    refine ⟨hinv.countries.congr rfl rfl hshown, ?_, ?_⟩
    · simp [Menu.clear, hnone, MenuForm.chosenStates, hcountry]
    · rw [List.filter_append, hfilter, List.nil_append]
      exact List.length_filter_le _ _

theorem StatesMenuInvariant.countriesLoaded
    (hinv : StatesMenuInvariant catalogue form)
    (hloading : form.loadingCountries = true) :
    StatesMenuInvariant catalogue (form.countriesLoaded catalogue) := by
  refine ⟨hinv.countries.countriesLoaded hloading, ?_, hinv.single⟩
  have hselected := hinv.countries.selected_of_loading hloading
  have hmenu := hinv.menu
  rw [chosenStates_placeholder hselected] at hmenu
  rw [chosenStates_placeholder rfl]
  exact hmenu

theorem StatesMenuInvariant.statesLoaded
    (hinv : StatesMenuInvariant catalogue form) {index : ℕ}
    {country : String} (hload : form.loadingStates[index]? = some country) :
    StatesMenuInvariant catalogue
      (MenuForm.statesLoaded catalogue
        { form with loadingStates := form.loadingStates.eraseIdx index }
        country) := by
  have hmoved :=
    flatMap_eraseIdx_of_single hinv.single hload
  have hsingle : ((form.loadingStates.eraseIdx index).filter
      fun country => catalogue.statesOf country ≠ []).length ≤ 1 := by
    have hless := ((List.eraseIdx_sublist form.loadingStates
      index).filter fun country => catalogue.statesOf country ≠ []).length_le
    exact hless.trans hinv.single
  cases hstates : LocationController.getStates catalogue country with
  | ok states =>
      have hof : catalogue.statesOf country = states := by
        simp only [Catalogue.statesOf, hstates]
      rw [MenuForm.statesLoaded_of_ok _ hstates]
      refine ⟨hinv.countries.congr rfl rfl hinv.countries.selected, ?_,
        hsingle⟩
      have hmenu := hinv.menu
      rw [← hmoved, hof, ← List.append_assoc] at hmenu
      exact hmenu
  | error error =>
      have hof : catalogue.statesOf country = [] := by
        simp only [Catalogue.statesOf, hstates]
      rw [MenuForm.statesLoaded_of_error _ hstates]
      refine ⟨hinv.countries.congr rfl rfl hinv.countries.selected, ?_,
        hsingle⟩
      have hmenu := hinv.menu
      rw [← hmoved, hof, List.nil_append] at hmenu
      exact hmenu

theorem StatesMenuInvariant.step
    (hinv : StatesMenuInvariant catalogue form) {event : MenuEvent}
    (hwaits : CountryPickWaits catalogue form event)
    (hstep : form.step catalogue event = some next) :
    StatesMenuInvariant catalogue next := by
  cases MenuForm.moves_of_step hstep with
  | pickCountry hshown => exact hinv.changedCountry hshown hwaits
  | pickState hshown => exact hinv.congr (sameStates_changedState form _)
  | pickCity hshown =>
      exact hinv.congr (sameStates_withCities form _ _ _ _)
  | press => exact hinv
  | countriesEnd hloading => exact hinv.countriesLoaded hloading
  | statesEnd hload => exact hinv.statesLoaded hload
  | citiesEnd hload =>
      exact hinv.congr (sameStates_citiesLoaded catalogue form _ _ _)

/-- The menu of states shows the placeholder and, each once and in their
order, the states of the country selected. -/
def MenuForm.StatesShown (catalogue : Catalogue) (form : MenuForm) :
    Prop :=
  (form.selectedCountry = form.countriesMenu.placeholder ∧
    form.statesMenu.values = [form.statesMenu.placeholder]) ∨
  ∃ states,
    LocationController.getStates catalogue form.selectedCountry =
        .ok states ∧
      states.Nodup ∧
      form.statesMenu.values = form.statesMenu.placeholder :: states

/-- In every run in which a country is picked only while no load of states
is pending for a country that has any, the menu of states is right whenever
no such load is pending. -/
theorem states_menu_shows_selected_country
    (catalogue : Catalogue)
    (hreach : Reaches (MenuForm.step catalogue) (CountryPickWaits catalogue)
      MenuForm.initial form)
    (hpending : form.loadingStates = []) :
    form.StatesShown catalogue := by
  have hinv : StatesMenuInvariant catalogue form :=
    hreach.invariant (StatesMenuInvariant.initial catalogue)
      (fun _ _ _ hinv hwaits hstep => hinv.step hwaits hstep)
  have hmenu := hinv.menu
  rw [hpending, List.flatMap_nil, List.append_nil] at hmenu
  unfold MenuForm.StatesShown Menu.values
  rw [hmenu]
  by_cases hcountry :
      form.selectedCountry = form.countriesMenu.placeholder
  · left
    exact ⟨hcountry, by rw [chosenStates_placeholder hcountry]⟩
  · right
    obtain ⟨states, hstates, hnodup⟩ :=
      getStates_of_mem (hinv.countries.mem_getCountries hcountry)
    refine ⟨states, hstates, hnodup, ?_⟩
    simp [MenuForm.chosenStates, hcountry, Catalogue.statesOf, hstates]

end StatesMenu

def twoCountries : Catalogue where
  countries :=
    [("Brasil", [("Acre", ["Xapuri"])]), ("Chile", [("Maule", ["Talca"])])]
  countries_nodup := by decide
  states_nodup := by decide

def onePick : List MenuEvent :=
  [.countriesEnd, .pickCountry "Brasil", .statesEnd 0]

theorem states_menu_shows_selected_country_brasil :
    ∃ form,
      Reaches (MenuForm.step twoCountries) (CountryPickWaits twoCountries)
        MenuForm.initial form ∧
      form.loadingStates = [] ∧
      form.selectedCountry = "Brasil" ∧
      form.StatesShown twoCountries := by
  have hrun : ∃ form,
      run (MenuForm.step twoCountries) MenuForm.initial onePick =
        some form ∧
      form.loadingStates = [] ∧ form.selectedCountry = "Brasil" :=
    ⟨_, rfl, rfl, rfl⟩
  have hallowed : EachAllowed (MenuForm.step twoCountries)
      (CountryPickWaits twoCountries) MenuForm.initial onePick := by
    refine ⟨trivial, ?_, trivial, trivial⟩
    intro country hmem
    cases hmem
  obtain ⟨form, hrun, hpending, hcountry⟩ := hrun
  have hreach := Reaches.refl.run onePick hallowed hrun
  exact ⟨form, hreach, hpending, hcountry,
    states_menu_shows_selected_country twoCountries hreach hpending⟩

/-- Another country is picked while the states of the first are loaded. -/
def twoPicks : List MenuEvent :=
  [.countriesEnd, .pickCountry "Brasil", .pickCountry "Chile",
    .statesEnd 0, .statesEnd 0]

theorem two_picks_mix_states :
    ¬ ∀ form,
      Reaches (MenuForm.step twoCountries) (fun _ _ => True)
        MenuForm.initial form →
      form.loadingCountries = false → form.loadingStates = [] →
        form.loadingCities = [] → form.StatesShown twoCountries := by
  intro hall
  have hrun : ∃ form,
      run (MenuForm.step twoCountries) MenuForm.initial twoPicks =
        some form ∧
      form.loadingCountries = false ∧ form.loadingStates = [] ∧
      form.loadingCities = [] ∧ form.selectedCountry = "Chile" ∧
      form.statesMenu.items = ["Acre", "Maule"] := by
    refine ⟨_, rfl, ?_⟩
    decide
  obtain ⟨form, hrun, hcountries, hstates, hcities, hselected, hitems⟩ :=
    hrun
  have hreach :=
    Reaches.refl.run twoPicks
      (eachAllowed_of_forall (fun _ _ => trivial) _ _) hrun
  rcases hall form hreach hcountries hstates hcities with
    ⟨-, hvalues⟩ | ⟨states, hloaded, -, hvalues⟩
  · simp [Menu.values, hitems] at hvalues
  · rw [hselected] at hloaded
    have hchile : states = ["Maule"] := (Except.ok.inj hloaded).symm
    simp [Menu.values, hitems, hchile] at hvalues

/-! ## The whole selection -/

/-- What the user waits for: a country is picked with no states on their
way, a state with no cities on their way, and the button is pressed with
neither. -/
def PicksWait (form : MenuForm) : MenuEvent → Prop
  | .pickCountry _ => form.loadingStates = []
  | .pickState _ => form.loadingCities = []
  | .press => form.loadingStates = [] ∧ form.loadingCities = []
  | _ => True

structure StatesOnTheirWay (form : MenuForm) : Prop where
  loading : form.loadingStates = [form.selectedCountry]
  empty : form.statesMenu.items = []
  country : form.selectedCountry ≠ form.countriesMenu.placeholder

structure StatesReady (catalogue : Catalogue) (form : MenuForm) : Prop where
  loading : form.loadingStates = []
  menu : form.statesMenu.items = form.chosenStates catalogue
  selected : form.selectedState ∈ form.statesMenu.values

/-- No state of the country selected is selected yet. -/
def StateOpen (form : MenuForm) : Prop :=
  form.selectedState = form.statesMenu.placeholder ∨
    form.loadingStates ≠ []

/-- The cities of a state are being loaded; it is the state selected or none
is. -/
structure CitiesOnTheirWay (form : MenuForm) : Prop where
  loading : ∃ country state, form.loadingCities = [(country, state)] ∧
    (StateOpen form ∨
      (country = form.selectedCountry ∧ state = form.selectedState))
  empty : form.citiesMenu.items = []

/-- The menu of cities is that of the state selected, if one is. -/
structure CitiesReady (catalogue : Catalogue) (form : MenuForm) :
    Prop where
  loading : form.loadingCities = []
  menu : StateOpen form ∨
    (LocationController.getCities catalogue form.selectedCountry
        form.selectedState = .ok form.citiesMenu.items ∧
      form.selectedCity ∈ form.citiesMenu.values)

structure LocationInvariant (catalogue : Catalogue) (form : MenuForm) :
    Prop where
  countries : CountriesInvariant catalogue form
  states : StatesOnTheirWay form ∨ StatesReady catalogue form
  cities : CitiesOnTheirWay form ∨ CitiesReady catalogue form

section Location

variable {catalogue : Catalogue} {form next : MenuForm}

theorem LocationInvariant.initial (catalogue : Catalogue) :
    LocationInvariant catalogue MenuForm.initial := by
  refine ⟨(StatesMenuInvariant.initial catalogue).countries, ?_, ?_⟩
  · right
    exact ⟨rfl, (chosenStates_placeholder rfl).symm, List.mem_cons_self⟩
  · right
    exact ⟨rfl, Or.inl (Or.inl rfl)⟩

theorem LocationInvariant.getCities_selected
    (hinv : LocationInvariant catalogue form)
    (hready : StatesReady catalogue form)
    (hstate : form.selectedState ≠ form.statesMenu.placeholder) :
    form.selectedCountry ≠ form.countriesMenu.placeholder ∧
      ∃ states,
        LocationController.getStates catalogue form.selectedCountry =
            .ok states ∧
          form.selectedState ∈ states := by
  have hmem : form.selectedState ∈ form.chosenStates catalogue := by
    rcases List.mem_cons.mp hready.selected with heq | hitem
    · exact absurd heq hstate
    · rw [← hready.menu]
      exact hitem
  have hcountry :
      form.selectedCountry ≠ form.countriesMenu.placeholder := by
    intro heq
    rw [chosenStates_placeholder heq] at hmem
    cases hmem
  refine ⟨hcountry, ?_⟩
  obtain ⟨states, hstates, -⟩ :=
    getStates_of_mem (hinv.countries.mem_getCountries hcountry)
  refine ⟨states, hstates, ?_⟩
  simpa [MenuForm.chosenStates, hcountry, Catalogue.statesOf, hstates]
    using hmem

/-- Once no state is selected, the menu of cities does not matter. -/
theorem cities_of_stateOpen
    (hcities : CitiesOnTheirWay form ∨ CitiesReady catalogue form)
    (hopen : StateOpen next)
    (hloading : next.loadingCities = form.loadingCities)
    (hmenu : next.citiesMenu = form.citiesMenu) :
    CitiesOnTheirWay next ∨ CitiesReady catalogue next := by
  rcases hcities with hway | hready
  · left
    obtain ⟨country, state, hload, -⟩ := hway.loading
    refine ⟨⟨country, state, ?_, Or.inl hopen⟩, ?_⟩
    · rw [hloading]
      exact hload
    · rw [hmenu]
      exact hway.empty
  · right
    refine ⟨?_, Or.inl hopen⟩
    rw [hloading]
    exact hready.loading

theorem LocationInvariant.changedCountry
    (hinv : LocationInvariant catalogue form) {country : String}
    (hshown : country ∈ form.countriesMenu.values)
    (hwaits : form.loadingStates = []) :
    LocationInvariant catalogue
      (form.changedCountryDropDownItem country) := by
  by_cases hcountry : country = form.countriesMenu.placeholder
  · subst hcountry
    rw [form.changedCountry_placeholder]
    refine ⟨hinv.countries.congr rfl rfl List.mem_cons_self, Or.inr ?_, ?_⟩
    · refine ⟨hwaits, ?_, List.mem_cons_self⟩
      rw [chosenStates_placeholder rfl]
      rfl
    · exact cities_of_stateOpen hinv.cities (Or.inl rfl) rfl rfl
  · rw [form.changedCountry_of_ne hcountry]
    refine ⟨hinv.countries.congr rfl rfl hshown, Or.inl ?_, ?_⟩
    · refine ⟨?_, rfl, hcountry⟩
      rw [hwaits]
      rfl
    · exact cities_of_stateOpen hinv.cities (Or.inr (by simp)) rfl rfl

theorem states_of_sameStates
    (hstates : StatesOnTheirWay form ∨ StatesReady catalogue form)
    (hsame : SameStates form next)
    (hselected : form.selectedState ∈ form.statesMenu.values →
      next.selectedState ∈ form.statesMenu.values) :
    StatesOnTheirWay next ∨ StatesReady catalogue next := by
  rcases hstates with hway | hready
  · left
    constructor
    · rw [hsame.loadingStates, hsame.selectedCountry]
      exact hway.loading
    · rw [hsame.statesMenu]
      exact hway.empty
    · rw [hsame.selectedCountry, hsame.countriesMenu]
      exact hway.country
  · right
    constructor
    · rw [hsame.loadingStates]
      exact hready.loading
    · rw [hsame.statesMenu, MenuForm.chosenStates_of_sameStates hsame]
      exact hready.menu
    · rw [hsame.statesMenu]
      exact hselected hready.selected

theorem LocationInvariant.state_eq_placeholder
    (hinv : LocationInvariant catalogue form) {state : String}
    (hshown : state ∈ form.statesMenu.values)
    (hcountry : form.selectedCountry = form.countriesMenu.placeholder) :
    state = form.statesMenu.placeholder := by
  rcases hinv.states with hway | hready
  · exact absurd hcountry hway.country
  · have hempty : form.statesMenu.items = [] := by
      rw [hready.menu, chosenStates_placeholder hcountry]
    unfold Menu.values at hshown
    rw [hempty] at hshown
    exact List.mem_singleton.mp hshown

theorem LocationInvariant.changedState
    (hinv : LocationInvariant catalogue form) {state : String}
    (hshown : state ∈ form.statesMenu.values)
    (hwaits : form.loadingCities = []) :
    LocationInvariant catalogue
      (form.changedStateDropDownItem state) := by
  have hsame := sameStates_changedState form state
  by_cases hplaceholder : state = form.statesMenu.placeholder ∨
      form.selectedCountry = form.countriesMenu.placeholder
  · rw [form.changedState_placeholder hplaceholder] at hsame ⊢
    have hstate : state = form.statesMenu.placeholder := by
      rcases hplaceholder with heq | hcountry
      · exact heq
      · exact hinv.state_eq_placeholder hshown hcountry
    exact ⟨hinv.countries.of_sameStates hsame,
      states_of_sameStates hinv.states hsame (fun _ => hshown),
      Or.inr ⟨hwaits, Or.inl (Or.inl hstate)⟩⟩
  · simp only [not_or] at hplaceholder
    rw [form.changedState_of_ne hplaceholder.1 hplaceholder.2] at hsame ⊢
    refine ⟨hinv.countries.of_sameStates hsame,
      states_of_sameStates hinv.states hsame (fun _ => hshown),
      Or.inl ⟨⟨form.selectedCountry, state, ?_, Or.inr ⟨rfl, rfl⟩⟩, rfl⟩⟩
    rw [hwaits, List.nil_append]

theorem LocationInvariant.changedCity
    (hinv : LocationInvariant catalogue form) {city : String}
    (hshown : city ∈ form.citiesMenu.values) :
    LocationInvariant catalogue (form.changedCityDropDownItem city) := by
  have hsame : SameStates form (form.changedCityDropDownItem city) :=
    sameStates_withCities form _ _ _ _
  refine ⟨hinv.countries.of_sameStates hsame,
    states_of_sameStates hinv.states hsame id, ?_⟩
  rcases hinv.cities with hway | hready
  · exact Or.inl ⟨hway.loading, hway.empty⟩
  · right
    refine ⟨hready.loading, ?_⟩
    rcases hready.menu with hopen | ⟨hcities, -⟩
    · exact Or.inl hopen
    · exact Or.inr ⟨hcities, hshown⟩

theorem LocationInvariant.countriesLoaded
    (hinv : LocationInvariant catalogue form)
    (hloading : form.loadingCountries = true) :
    LocationInvariant catalogue (form.countriesLoaded catalogue) := by
  have hselected := hinv.countries.selected_of_loading hloading
  refine ⟨hinv.countries.countriesLoaded hloading, Or.inr ?_, ?_⟩
  · rcases hinv.states with hway | hready
    · exact absurd hselected hway.country
    · refine ⟨hready.loading, ?_, List.mem_cons_self⟩
      rw [chosenStates_placeholder rfl]
      have hmenu := hready.menu
      rw [chosenStates_placeholder hselected] at hmenu
      exact hmenu
  · exact cities_of_stateOpen hinv.cities (Or.inl rfl) rfl rfl

theorem ended_of_single {α : Type} {loads : List α} {load found : α}
    {index : ℕ} (hloads : loads = [load])
    (hfound : loads[index]? = some found) :
    found = load ∧ loads.eraseIdx index = [] := by
  subst hloads
  cases index with
  | zero =>
      have heq : load = found := Option.some.inj hfound
      exact ⟨heq.symm, rfl⟩
  | succ index => simp at hfound

theorem LocationInvariant.statesLoaded
    (hinv : LocationInvariant catalogue form) {index : ℕ}
    {country : String} (hload : form.loadingStates[index]? = some country) :
    LocationInvariant catalogue
      (MenuForm.statesLoaded catalogue
        { form with loadingStates := form.loadingStates.eraseIdx index }
        country) := by
  rcases hinv.states with hway | hready
  · obtain ⟨hcountry, hended⟩ := ended_of_single hway.loading hload
    subst hcountry
    obtain ⟨states, hstates, -⟩ :=
      getStates_of_mem (hinv.countries.mem_getCountries hway.country)
    rw [MenuForm.statesLoaded_of_ok _ hstates]
    refine ⟨hinv.countries.congr rfl rfl hinv.countries.selected,
      Or.inr ⟨hended, ?_, List.mem_cons_self⟩, ?_⟩
    · simp [Menu.add, hway.empty, MenuForm.chosenStates, hway.country,
        Catalogue.statesOf, hstates]
    · exact cities_of_stateOpen hinv.cities (Or.inl rfl) rfl rfl
  · rw [hready.loading] at hload
    simp at hload

theorem LocationInvariant.stateOpen_of_error
    (hinv : LocationInvariant catalogue form) {error : DartError}
    (hcities : LocationController.getCities catalogue form.selectedCountry
      form.selectedState = .error error) :
    StateOpen form := by
  rcases hinv.states with hway | hready
  · right
    rw [hway.loading]
    simp
  · by_contra hclosed
    simp only [StateOpen, not_or, not_not] at hclosed
    obtain ⟨-, states, hknown, hmem⟩ :=
      hinv.getCities_selected hready hclosed.1
    obtain ⟨cities, hfound⟩ := getCities_of_mem hknown hmem
    rw [hcities] at hfound
    cases hfound

theorem LocationInvariant.citiesLoaded
    (hinv : LocationInvariant catalogue form) {index : ℕ}
    {country state : String}
    (hload : form.loadingCities[index]? = some (country, state)) :
    LocationInvariant catalogue
      (MenuForm.citiesLoaded catalogue
        { form with loadingCities := form.loadingCities.eraseIdx index }
        country state) := by
  have hsame := sameStates_citiesLoaded catalogue form
    (form.loadingCities.eraseIdx index) country state
  rcases hinv.cities with hway | hready
  · obtain ⟨other, otherState, hloading, hchosen⟩ := hway.loading
    obtain ⟨heq, hended⟩ := ended_of_single hloading hload
    cases heq
    cases hcities : LocationController.getCities catalogue country
        state with
    | ok cities =>
        rw [MenuForm.citiesLoaded_of_ok _ hcities] at hsame ⊢
        refine ⟨hinv.countries.of_sameStates hsame,
          states_of_sameStates hinv.states hsame id, Or.inr ⟨hended, ?_⟩⟩
        rcases hchosen with hopen | ⟨hcountry, hstate⟩
        · exact Or.inl hopen
        · right
          subst hcountry hstate
          refine ⟨?_, List.mem_cons_self⟩
          rw [hcities]
          simp [Menu.add, hway.empty]
    | error error =>
        rw [MenuForm.citiesLoaded_of_error _ hcities] at hsame ⊢
        have hopen : StateOpen form := by
          rcases hchosen with hopen | ⟨hcountry, hstate⟩
          · exact hopen
          · subst hcountry hstate
            exact hinv.stateOpen_of_error hcities
        exact ⟨hinv.countries.of_sameStates hsame,
          states_of_sameStates hinv.states hsame id,
          Or.inr ⟨hended, Or.inl hopen⟩⟩
  · rw [hready.loading] at hload
    simp at hload

theorem LocationInvariant.step
    (hinv : LocationInvariant catalogue form) {event : MenuEvent}
    (hwaits : PicksWait form event)
    (hstep : form.step catalogue event = some next) :
    LocationInvariant catalogue next := by
  cases MenuForm.moves_of_step hstep with
  | pickCountry hshown => exact hinv.changedCountry hshown hwaits
  | pickState hshown => exact hinv.changedState hshown hwaits
  | pickCity hshown => exact hinv.changedCity hshown
  | press => exact hinv
  | countriesEnd hloading => exact hinv.countriesLoaded hloading
  | statesEnd hload => exact hinv.statesLoaded hload
  | citiesEnd hload => exact hinv.citiesLoaded hload

theorem LocationInvariant.realLocation
    (hinv : LocationInvariant catalogue form)
    (hstatesEnded : form.loadingStates = [])
    (hcitiesEnded : form.loadingCities = [])
    (hguards : form.guardsPassed = true) :
    form.RealLocation catalogue := by
  simp only [MenuForm.guardsPassed, ne_eq, decide_not, Bool.and_eq_true,
    Bool.not_eq_true', decide_eq_false_iff_not] at hguards
  obtain ⟨⟨-, hstate⟩, hcity⟩ := hguards
  have hstates : StatesReady catalogue form := by
    rcases hinv.states with hway | hready
    · rw [hway.loading] at hstatesEnded
      cases hstatesEnded
    · exact hready
  have hcities : CitiesReady catalogue form := by
    rcases hinv.cities with hway | hready
    · obtain ⟨country, state, hloading, -⟩ := hway.loading
      rw [hloading] at hcitiesEnded
      cases hcitiesEnded
    · exact hready
  obtain ⟨-, states, hknown, hmem⟩ :=
    hinv.getCities_selected hstates hstate
  refine ⟨⟨states, hknown, hmem⟩, form.citiesMenu.items, ?_⟩
  rcases hcities.menu with hopen | ⟨hfound, hselected⟩
  · rcases hopen with heq | hne
    · exact absurd heq hstate
    · exact absurd hstatesEnded hne
  · refine ⟨hfound, ?_⟩
    rcases List.mem_cons.mp hselected with heq | hitem
    · exact absurd heq hcity
    · exact hitem

/-- In every run in which picks and presses wait for the loads before them,
a press that passes the guards finds a real location. -/
theorem submitted_location_real
    (catalogue : Catalogue)
    (hreach : Reaches (MenuForm.step catalogue) PicksWait MenuForm.initial
      form)
    (hpress : PicksWait form .press)
    (hguards : form.guardsPassed = true) :
    form.RealLocation catalogue := by
  have hinv : LocationInvariant catalogue form :=
    hreach.invariant (LocationInvariant.initial catalogue)
      (fun _ _ _ hinv hwaits hstep => hinv.step hwaits hstep)
  exact hinv.realLocation hpress.1 hpress.2 hguards

def patientPicks : List MenuEvent :=
  [.countriesEnd, .pickCountry "Brasil", .statesEnd 0, .pickState "Acre",
    .citiesEnd 0, .pickCity "Xapuri"]

theorem submitted_location_real_patientPicks :
    ∃ form,
      Reaches (MenuForm.step twoCountries) PicksWait MenuForm.initial
        form ∧
      PicksWait form .press ∧ form.guardsPassed = true ∧
      form.RealLocation twoCountries := by
  have hrun : ∃ form,
      run (MenuForm.step twoCountries) MenuForm.initial patientPicks =
        some form ∧
      (form.loadingStates = [] ∧ form.loadingCities = []) ∧
      form.guardsPassed = true := by
    refine ⟨_, rfl, ?_⟩
    decide
  have hallowed : EachAllowed (MenuForm.step twoCountries) PicksWait
      MenuForm.initial patientPicks :=
    ⟨trivial, rfl, trivial, rfl, trivial, trivial, trivial⟩
  obtain ⟨form, hrun, hpress, hguards⟩ := hrun
  have hreach := Reaches.refl.run patientPicks hallowed hrun
  exact ⟨form, hreach, hpress, hguards,
    submitted_location_real twoCountries hreach hpress hguards⟩

/-- After a complete selection another country is picked, and the button is
pressed before its states are loaded. -/
def hastyPress : List MenuEvent :=
  patientPicks ++ [.pickCountry "Chile", .press]

theorem hasty_press_submits_mixed_location :
    ¬ ∀ form,
      Reaches (MenuForm.step twoCountries) (fun _ _ => True)
        MenuForm.initial form →
      form.guardsPassed = true → form.RealLocation twoCountries := by
  intro hall
  have hrun : ∃ form,
      run (MenuForm.step twoCountries) MenuForm.initial hastyPress =
        some form ∧
      form.guardsPassed = true ∧ form.selectedCountry = "Chile" ∧
      form.selectedState = "Acre" := by
    refine ⟨_, rfl, ?_⟩
    decide
  obtain ⟨form, hrun, hguards, hcountry, hstate⟩ := hrun
  have hreach :=
    Reaches.refl.run hastyPress
      (eachAllowed_of_forall (fun _ _ => trivial) _ _) hrun
  obtain ⟨⟨states, hstates, hmem⟩, -⟩ := hall form hreach hguards
  rw [hcountry] at hstates
  rw [hstate] at hmem
  have hchile : states = ["Maule"] := (Except.ok.inj hstates).symm
  rw [hchile] at hmem
  exact absurd hmem (by decide)

end Location

end FoliumApp
