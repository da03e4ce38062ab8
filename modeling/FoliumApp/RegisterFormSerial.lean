import FoliumApp.RegisterFormLoads

/-!
# The location menus, one pick after the other

When the load of every pick ends before the next pick is made, the form is a
selector of three levels: a country resets the state and the city, a state
resets the city.  The menus follow the selections less closely than that.
Picking a country leaves the cities of the earlier selection in their menu,
and a menu is emptied before the selection made from it is reset.
-/

namespace FoliumApp

open CallSequences

/-! ## Serial runs -/

/-- No load that a pick has started is pending. -/
def MenuForm.Settled (form : MenuForm) : Prop :=
  form.loadingStates = [] ∧ form.loadingCities = []

def Serial (form : MenuForm) : MenuEvent → Prop
  | .pickCountry _ => form.Settled
  | .pickState _ => form.Settled
  | .pickCity _ => form.Settled
  | _ => True

/-- The only load pending is that of the states of the country selected. -/
structure OnlyStatesLoad (form : MenuForm) : Prop where
  states : form.loadingStates = [form.selectedCountry]
  cities : form.loadingCities = []
  country : form.selectedCountry ≠ form.countriesMenu.placeholder

structure OnlyCitiesLoad (form : MenuForm) : Prop where
  states : form.loadingStates = []
  cities : form.loadingCities = [(form.selectedCountry, form.selectedState)]
  state : form.selectedState ≠ form.statesMenu.placeholder

structure SerialInvariant (catalogue : Catalogue) (form : MenuForm) :
    Prop where
  location : LocationInvariant catalogue form
  phase : form.Settled ∨ OnlyStatesLoad form ∨ OnlyCitiesLoad form
  fresh : form.loadingCountries = true →
    form.citiesMenu.items = [] ∧
      form.selectedState = form.statesMenu.placeholder ∧
      form.selectedCity = form.citiesMenu.placeholder

section Serial

variable {catalogue : Catalogue} {form next : MenuForm}

theorem LocationInvariant.step_of_serial
    (hinv : LocationInvariant catalogue form) {event : MenuEvent}
    (hserial : Serial form event)
    (hstep : form.step catalogue event = some next) :
    LocationInvariant catalogue next := by
  cases MenuForm.moves_of_step hstep with
  | pickCountry hshown => exact hinv.changedCountry hshown hserial.1
  | pickState hshown => exact hinv.changedState hshown hserial.2
  | pickCity hshown => exact hinv.changedCity hshown
  | press => exact hinv
  | countriesEnd hloading => exact hinv.countriesLoaded hloading
  | statesEnd hload => exact hinv.statesLoaded hload
  | citiesEnd hload => exact hinv.citiesLoaded hload

theorem SerialInvariant.initial (catalogue : Catalogue) :
    SerialInvariant catalogue MenuForm.initial := by
  refine ⟨LocationInvariant.initial catalogue, Or.inl ⟨rfl, rfl⟩, ?_⟩
  intro _
  exact ⟨rfl, rfl, rfl⟩

theorem SerialInvariant.country_of_loading
    (hinv : SerialInvariant catalogue form)
    (hloading : form.loadingCountries = true) :
    form.selectedCountry = form.countriesMenu.placeholder :=
  hinv.location.countries.selected_of_loading hloading

/-- Until the countries are loaded only placeholders can be picked. -/
theorem SerialInvariant.settled_of_loading
    (hinv : SerialInvariant catalogue form)
    (hloading : form.loadingCountries = true) : form.Settled := by
  rcases hinv.phase with hsettled | hstates | hcities
  · exact hsettled
  · exact absurd (hinv.country_of_loading hloading) hstates.country
  · exact absurd (hinv.fresh hloading).2.1 hcities.state

theorem SerialInvariant.shown_country_of_loading
    (hinv : SerialInvariant catalogue form)
    (hloading : form.loadingCountries = true) {country : String}
    (hshown : country ∈ form.countriesMenu.values) :
    country = form.countriesMenu.placeholder := by
  unfold Menu.values at hshown
  rw [hinv.location.countries.loading hloading] at hshown
  exact List.mem_singleton.mp hshown

theorem SerialInvariant.shown_city_of_loading
    (hinv : SerialInvariant catalogue form)
    (hloading : form.loadingCountries = true) {city : String}
    (hshown : city ∈ form.citiesMenu.values) :
    city = form.citiesMenu.placeholder := by
  unfold Menu.values at hshown
  rw [(hinv.fresh hloading).1] at hshown
  exact List.mem_singleton.mp hshown

/-- The load that ends is the one of the country selected, and it finds the
states. -/
theorem SerialInvariant.states_ended
    (hinv : SerialInvariant catalogue form) {index : ℕ} {country : String}
    (hload : form.loadingStates[index]? = some country) :
    OnlyStatesLoad form ∧ country = form.selectedCountry ∧
      form.loadingStates.eraseIdx index = [] ∧
      ∃ states,
        LocationController.getStates catalogue country = .ok states ∧
          states.Nodup := by
  have honly : OnlyStatesLoad form := by
    rcases hinv.phase with hsettled | hstates | hcities
    · rw [hsettled.1] at hload
      simp at hload
    · exact hstates
    · rw [hcities.states] at hload
      simp at hload
  obtain ⟨hcountry, hended⟩ := ended_of_single honly.states hload
  refine ⟨honly, hcountry, hended, ?_⟩
  rw [hcountry]
  exact getStates_of_mem
    (hinv.location.countries.mem_getCountries honly.country)

theorem SerialInvariant.cities_ended
    (hinv : SerialInvariant catalogue form) {index : ℕ}
    {country state : String}
    (hload : form.loadingCities[index]? = some (country, state)) :
    OnlyCitiesLoad form ∧ country = form.selectedCountry ∧
      state = form.selectedState ∧
      form.loadingCities.eraseIdx index = [] ∧
      ∃ cities,
        LocationController.getCities catalogue country state =
          .ok cities := by
  have honly : OnlyCitiesLoad form := by
    rcases hinv.phase with hsettled | hstates | hcities
    · rw [hsettled.2] at hload
      simp at hload
    · rw [hstates.cities] at hload
      simp at hload
    · exact hcities
  obtain ⟨heq, hended⟩ := ended_of_single honly.cities hload
  cases heq
  refine ⟨honly, rfl, rfl, hended, ?_⟩
  cases hcities : LocationController.getCities catalogue
      form.selectedCountry form.selectedState with
  | ok cities => exact ⟨cities, rfl⟩
  | error error =>
      rcases hinv.location.stateOpen_of_error hcities with heq | hne
      · exact absurd heq honly.state
      · exact absurd honly.states hne

/-- What a step of a serial run can do, with each result written out. -/
inductive SerialMoves (catalogue : Catalogue) (form : MenuForm) :
    MenuEvent → MenuForm → Prop where
  | noCountry (hsettled : form.Settled) :
      SerialMoves catalogue form
        (.pickCountry form.countriesMenu.placeholder)
        { form with
          selectedCountry := form.countriesMenu.placeholder
          statesMenu := form.statesMenu.clear
          selectedState := form.statesMenu.placeholder
          selectedCity := form.citiesMenu.placeholder }
  | country {country : String} (hsettled : form.Settled)
      (hshown : country ∈ form.countriesMenu.values)
      (hcountry : country ≠ form.countriesMenu.placeholder) :
      SerialMoves catalogue form (.pickCountry country)
        { form with
          selectedCountry := country
          statesMenu := form.statesMenu.clear
          loadingStates := [country] }
  | noState (hsettled : form.Settled) :
      SerialMoves catalogue form (.pickState form.statesMenu.placeholder)
        { form with
          selectedState := form.statesMenu.placeholder
          citiesMenu := form.citiesMenu.clear
          selectedCity := form.citiesMenu.placeholder }
  | state {state : String} (hsettled : form.Settled)
      (hshown : state ∈ form.statesMenu.values)
      (hstate : state ≠ form.statesMenu.placeholder)
      (hcountry : form.selectedCountry ≠ form.countriesMenu.placeholder) :
      SerialMoves catalogue form (.pickState state)
        { form with
          selectedState := state
          citiesMenu := form.citiesMenu.clear
          loadingCities := [(form.selectedCountry, state)] }
  | city {city : String} (hsettled : form.Settled)
      (hshown : city ∈ form.citiesMenu.values) :
      SerialMoves catalogue form (.pickCity city)
        { form with selectedCity := city }
  | press : SerialMoves catalogue form .press form
  | countriesEnd (hloading : form.loadingCountries = true) :
      SerialMoves catalogue form .countriesEnd
        (form.countriesLoaded catalogue)
  | statesEnd {index : ℕ} {states : List String}
      (honly : OnlyStatesLoad form)
      (hload : form.loadingStates[index]? = some form.selectedCountry)
      (hstates : LocationController.getStates catalogue
        form.selectedCountry = .ok states)
      (hdistinct : states.Nodup) :
      SerialMoves catalogue form (.statesEnd index)
        { form with
          loadingStates := []
          statesMenu := form.statesMenu.add states
          selectedState := form.statesMenu.placeholder
          selectedCity := form.citiesMenu.placeholder }
  | citiesEnd {index : ℕ} {cities : List String}
      (honly : OnlyCitiesLoad form)
      (hload : form.loadingCities[index]? =
        some (form.selectedCountry, form.selectedState))
      (hcities : LocationController.getCities catalogue
        form.selectedCountry form.selectedState = .ok cities) :
      SerialMoves catalogue form (.citiesEnd index)
        { form with
          loadingCities := []
          citiesMenu := form.citiesMenu.add cities
          selectedCity := form.citiesMenu.placeholder }

/-- Without a country only the placeholder of the states can be picked, and
a load that ends is the one pending. -/
theorem SerialInvariant.moves
    (hinv : SerialInvariant catalogue form) {event : MenuEvent}
    (hserial : Serial form event)
    (hstep : form.step catalogue event = some next) :
    SerialMoves catalogue form event next := by
  cases MenuForm.moves_of_step hstep with
  | @pickCountry country hshown =>
      by_cases hcountry : country = form.countriesMenu.placeholder
      · subst hcountry
        rw [form.changedCountry_placeholder]
        exact .noCountry hserial
      · rw [form.changedCountry_of_ne hcountry, hserial.1]
        exact .country hserial hshown hcountry
  | @pickState state hshown =>
      by_cases hplaceholder : state = form.statesMenu.placeholder ∨
          form.selectedCountry = form.countriesMenu.placeholder
      · rw [form.changedState_placeholder hplaceholder]
        have hstate : state = form.statesMenu.placeholder := by
          rcases hplaceholder with heq | hcountry
          · exact heq
          · exact hinv.location.state_eq_placeholder hshown hcountry
        subst hstate
        exact .noState hserial
      · simp only [not_or] at hplaceholder
        rw [form.changedState_of_ne hplaceholder.1 hplaceholder.2,
          hserial.2]
        exact .state hserial hshown hplaceholder.1 hplaceholder.2
  | pickCity hshown => exact .city hserial hshown
  | press => exact .press
  | countriesEnd hloading => exact .countriesEnd hloading
  | statesEnd hload =>
      obtain ⟨honly, heq, hended, states, hstates, hdistinct⟩ :=
        hinv.states_ended hload
      subst heq
      rw [MenuForm.statesLoaded_of_ok _ hstates, hended]
      exact .statesEnd honly hload hstates hdistinct
  | citiesEnd hload =>
      obtain ⟨honly, hcountry, hstate, hended, cities, hcities⟩ :=
        hinv.cities_ended hload
      subst hcountry hstate
      rw [MenuForm.citiesLoaded_of_ok _ hcities, hended]
      exact .citiesEnd honly hload hcities

theorem SerialInvariant.phase_of_moves
    (hinv : SerialInvariant catalogue form) {event : MenuEvent}
    (hmoves : SerialMoves catalogue form event next) :
    next.Settled ∨ OnlyStatesLoad next ∨ OnlyCitiesLoad next := by
  cases hmoves with
  | noCountry hsettled => exact Or.inl hsettled
  | country hsettled hshown hcountry =>
      right
      left
      exact ⟨rfl, hsettled.2, hcountry⟩
  | noState hsettled => exact Or.inl hsettled
  | state hsettled hshown hstate hcountry =>
      right
      right
      exact ⟨hsettled.1, rfl, hstate⟩
  | city hsettled hshown => exact Or.inl hsettled
  | press => exact hinv.phase
  | countriesEnd hloading =>
      exact Or.inl (hinv.settled_of_loading hloading)
  | statesEnd honly hload hstates hdistinct =>
      exact Or.inl ⟨rfl, honly.cities⟩
  | citiesEnd honly hload hcities => exact Or.inl ⟨honly.states, rfl⟩

theorem SerialInvariant.fresh_of_moves
    (hinv : SerialInvariant catalogue form) {event : MenuEvent}
    (hmoves : SerialMoves catalogue form event next) :
    next.loadingCountries = true →
      next.citiesMenu.items = [] ∧
        next.selectedState = next.statesMenu.placeholder ∧
        next.selectedCity = next.citiesMenu.placeholder := by
  cases hmoves with
  | noCountry hsettled =>
      intro hloading
      exact ⟨(hinv.fresh hloading).1, rfl, rfl⟩
  | country hsettled hshown hcountry =>
      intro hloading
      exact absurd (hinv.shown_country_of_loading hloading hshown) hcountry
  | noState hsettled =>
      intro _
      exact ⟨rfl, rfl, rfl⟩
  | state hsettled hshown hstate hcountry =>
      intro hloading
      exact absurd (hinv.country_of_loading hloading) hcountry
  | city hsettled hshown =>
      intro hloading
      obtain ⟨hitems, hstate, -⟩ := hinv.fresh hloading
      exact ⟨hitems, hstate, hinv.shown_city_of_loading hloading hshown⟩
  | press => exact hinv.fresh
  | countriesEnd hloading =>
      intro hfalse
      cases hfalse
  | statesEnd honly hload hstates hdistinct =>
      intro hloading
      exact ⟨(hinv.fresh hloading).1, rfl, rfl⟩
  | citiesEnd honly hload hcities =>
      intro hloading
      exact absurd (hinv.fresh hloading).2.1 honly.state

theorem SerialInvariant.step
    (hinv : SerialInvariant catalogue form) {event : MenuEvent}
    (hserial : Serial form event)
    (hstep : form.step catalogue event = some next) :
    SerialInvariant catalogue next :=
  ⟨hinv.location.step_of_serial hserial hstep,
    hinv.phase_of_moves (hinv.moves hserial hstep),
    hinv.fresh_of_moves (hinv.moves hserial hstep)⟩

end Serial

/-! ## The cascading selector -/

structure Selector where
  country : String
  state : String
  city : String
  deriving DecidableEq

namespace Selector

def initial : Selector :=
  ⟨SimpleRegister.countryPlaceholder, SimpleRegister.statePlaceholder,
    SimpleRegister.cityPlaceholder⟩

/-- A pick sets its own level and resets those below; the rest of what
happens to the form is not seen. -/
def next (selector : Selector) : MenuEvent → Selector
  | .pickCountry country =>
      ⟨country, SimpleRegister.statePlaceholder,
        SimpleRegister.cityPlaceholder⟩
  | .pickState state =>
      { selector with
        state := state
        city := SimpleRegister.cityPlaceholder }
  | .pickCity city => { selector with city := city }
  | _ => selector

end Selector

def MenuForm.selection (form : MenuForm) : Selector :=
  ⟨form.selectedCountry, form.selectedState, form.selectedCity⟩

/-- The selection there will be once the load pending has ended. -/
def MenuForm.outcome (form : MenuForm) : Selector :=
  if form.loadingStates ≠ [] then
    ⟨form.selectedCountry, SimpleRegister.statePlaceholder,
      SimpleRegister.cityPlaceholder⟩
  else if form.loadingCities ≠ [] then
    ⟨form.selectedCountry, form.selectedState,
      SimpleRegister.cityPlaceholder⟩
  else form.selection

structure MenuForm.Labelled (form : MenuForm) : Prop where
  country :
    form.countriesMenu.placeholder = SimpleRegister.countryPlaceholder
  state : form.statesMenu.placeholder = SimpleRegister.statePlaceholder
  city : form.citiesMenu.placeholder = SimpleRegister.cityPlaceholder

section Refinement

variable {catalogue : Catalogue} {form next : MenuForm}

theorem MenuForm.Labelled.of_moves (hlabels : form.Labelled)
    {event : MenuEvent} (hmoves : SerialMoves catalogue form event next) :
    next.Labelled := by
  cases hmoves <;> exact ⟨hlabels.country, hlabels.state, hlabels.city⟩

theorem MenuForm.outcome_of_settled (hsettled : form.Settled) :
    form.outcome = form.selection := by
  unfold MenuForm.outcome
  rw [if_neg (not_not.mpr hsettled.1), if_neg (not_not.mpr hsettled.2)]

theorem MenuForm.outcome_eq_of_settled {selector : Selector}
    (hsettled : form.Settled) (hselection : form.selection = selector) :
    form.outcome = selector :=
  (MenuForm.outcome_of_settled hsettled).trans hselection

theorem OnlyStatesLoad.outcome (honly : OnlyStatesLoad form) :
    form.outcome =
      ⟨form.selectedCountry, SimpleRegister.statePlaceholder,
        SimpleRegister.cityPlaceholder⟩ := by
  unfold MenuForm.outcome
  rw [honly.states]
  exact if_pos (List.cons_ne_nil _ _)

theorem OnlyCitiesLoad.outcome (honly : OnlyCitiesLoad form) :
    form.outcome =
      ⟨form.selectedCountry, form.selectedState,
        SimpleRegister.cityPlaceholder⟩ := by
  unfold MenuForm.outcome
  rw [if_neg (not_not.mpr honly.states), honly.cities]
  exact if_pos (List.cons_ne_nil _ _)

/-- A pick and its load end where the selector does. -/
theorem SerialInvariant.outcome_of_moves
    (hinv : SerialInvariant catalogue form) (hlabels : form.Labelled)
    {event : MenuEvent} (hmoves : SerialMoves catalogue form event next) :
    next.outcome = form.outcome.next event := by
  cases hmoves with
  | noCountry hsettled =>
      apply MenuForm.outcome_eq_of_settled
      · exact hsettled
      · simp only [MenuForm.selection, Selector.next, hlabels.state,
          hlabels.city]
  | country hsettled hshown hcountry =>
      exact OnlyStatesLoad.outcome ⟨rfl, hsettled.2, hcountry⟩
  | noState hsettled =>
      rw [MenuForm.outcome_of_settled hsettled]
      apply MenuForm.outcome_eq_of_settled
      · exact hsettled
      · simp only [MenuForm.selection, Selector.next, hlabels.city]
  | state hsettled hshown hstate hcountry =>
      rw [MenuForm.outcome_of_settled hsettled]
      exact OnlyCitiesLoad.outcome ⟨hsettled.1, rfl, hstate⟩
  | city hsettled hshown =>
      rw [MenuForm.outcome_of_settled hsettled]
      apply MenuForm.outcome_eq_of_settled
      · exact hsettled
      · rfl
  | press => rfl
  | countriesEnd hloading =>
      have hsettled := hinv.settled_of_loading hloading
      obtain ⟨-, hstate, hcity⟩ := hinv.fresh hloading
      have hcountry := hinv.country_of_loading hloading
      rw [MenuForm.outcome_of_settled hsettled]
      apply MenuForm.outcome_eq_of_settled
      · exact hsettled
      · simp only [MenuForm.selection, Selector.next, hstate, hcity,
          hcountry]
        rfl
  | statesEnd honly hload hstates hdistinct =>
      rw [honly.outcome]
      apply MenuForm.outcome_eq_of_settled
      · exact ⟨rfl, honly.cities⟩
      · simp only [MenuForm.selection, Selector.next, hlabels.state,
          hlabels.city]
  | citiesEnd honly hload hcities =>
      rw [honly.outcome]
      apply MenuForm.outcome_eq_of_settled
      · exact ⟨honly.states, rfl⟩
      · simp only [MenuForm.selection, Selector.next, hlabels.city]

structure Refines (catalogue : Catalogue) (form : MenuForm)
    (selector : Selector) : Prop where
  serial : SerialInvariant catalogue form
  labels : form.Labelled
  outcome : form.outcome = selector

theorem Refines.initial (catalogue : Catalogue) :
    Refines catalogue MenuForm.initial Selector.initial :=
  ⟨SerialInvariant.initial catalogue, ⟨rfl, rfl, rfl⟩, rfl⟩

theorem Refines.step {selector : Selector}
    (hrefines : Refines catalogue form selector) {event : MenuEvent}
    (hserial : Serial form event)
    (hstep : form.step catalogue event = some next) :
    Refines catalogue next (selector.next event) := by
  obtain ⟨hinv, hlabels, houtcome⟩ := hrefines
  have hmoves := hinv.moves hserial hstep
  refine ⟨hinv.step hserial hstep, hlabels.of_moves hmoves, ?_⟩
  rw [hinv.outcome_of_moves hlabels hmoves, houtcome]

/-- In every serial run the selection is that of the cascading selector once
the load of the last pick has ended, and a complete one is a path of the
catalogue. -/
theorem register_form_refines_selector
    (catalogue : Catalogue) (events : List MenuEvent)
    (hserial : EachAllowed (MenuForm.step catalogue) Serial
      MenuForm.initial events)
    (hrun : run (MenuForm.step catalogue) MenuForm.initial events =
      some form)
    (hsettled : form.Settled) :
    form.selection = after Selector.next Selector.initial events ∧
      (form.guardsPassed = true → form.RealLocation catalogue) := by
  have hrefines : Refines catalogue form
      (after Selector.next Selector.initial events) :=
    run_simulates
      (fun _ _ _ _ hrefines hserial hstep => hrefines.step hserial hstep)
      (Refines.initial catalogue) events hserial hrun
  constructor
  · rw [← MenuForm.outcome_of_settled hsettled]
    exact hrefines.outcome
  · intro hguards
    exact hrefines.serial.location.realLocation hsettled.1 hsettled.2
      hguards

/-- A country is picked, then a state and a city of it, and then another
country with a state of its own. -/
def picksInTurn : List MenuEvent :=
  patientPicks ++
    [.pickCountry "Chile", .statesEnd 0, .pickState "Maule", .citiesEnd 0,
      .pickCity "Talca"]

theorem register_form_refines_selector_picksInTurn :
    ∃ form,
      run (MenuForm.step twoCountries) MenuForm.initial picksInTurn =
        some form ∧
      form.selection = ⟨"Chile", "Maule", "Talca"⟩ ∧
      form.RealLocation twoCountries := by
  have hrun : ∃ form,
      run (MenuForm.step twoCountries) MenuForm.initial picksInTurn =
        some form ∧
      (form.loadingStates = [] ∧ form.loadingCities = []) ∧
      form.guardsPassed = true := by
    refine ⟨_, rfl, ?_⟩
    decide
  have hserial : EachAllowed (MenuForm.step twoCountries) Serial
      MenuForm.initial picksInTurn :=
    ⟨trivial, ⟨rfl, rfl⟩, trivial, ⟨rfl, rfl⟩, trivial, ⟨rfl, rfl⟩,
      ⟨rfl, rfl⟩, trivial, ⟨rfl, rfl⟩, trivial, ⟨rfl, rfl⟩, trivial⟩
  obtain ⟨form, hrun, hsettled, hguards⟩ := hrun
  obtain ⟨hselection, hreal⟩ :=
    register_form_refines_selector twoCountries picksInTurn hserial hrun
      hsettled
  exact ⟨form, hrun, hselection, hreal hguards⟩

end Refinement

/-! ## The menu of cities -/

/-- The menu of cities shows those of the selection, none without a country
and a state. -/
def MenuForm.CitiesShown (catalogue : Catalogue) (form : MenuForm) : Prop :=
  if form.selectedCountry ≠ form.countriesMenu.placeholder ∧
      form.selectedState ≠ form.statesMenu.placeholder then
    ∃ cities,
      LocationController.getCities catalogue form.selectedCountry
          form.selectedState = .ok cities ∧
        form.citiesMenu.values = form.citiesMenu.placeholder :: cities
  else form.citiesMenu.values = [form.citiesMenu.placeholder]

/-- A country is picked only while the menu of cities lists none. -/
def CountryBeforeCities (form : MenuForm) : MenuEvent → Prop
  | .pickCountry _ => form.citiesMenu.items = []
  | _ => True

structure CitiesInvariant (catalogue : Catalogue) (form : MenuForm) :
    Prop where
  serial : SerialInvariant catalogue form
  empty : StateOpen form → form.citiesMenu.items = []

section Cities

variable {catalogue : Catalogue} {form next : MenuForm}

theorem CitiesInvariant.initial (catalogue : Catalogue) :
    CitiesInvariant catalogue MenuForm.initial :=
  ⟨SerialInvariant.initial catalogue, fun _ => rfl⟩

theorem CitiesInvariant.step
    (hinv : CitiesInvariant catalogue form) {event : MenuEvent}
    (hserial : Serial form event)
    (hbefore : CountryBeforeCities form event)
    (hstep : form.step catalogue event = some next) :
    CitiesInvariant catalogue next := by
  refine ⟨hinv.serial.step hserial hstep, ?_⟩
  cases hinv.serial.moves hserial hstep with
  | noCountry hsettled =>
      intro _
      exact hbefore
  | country hsettled hshown hcountry =>
      intro _
      exact hbefore
  | noState hsettled =>
      intro _
      rfl
  | state hsettled hshown hstate hcountry =>
      intro _
      rfl
  | city hsettled hshown => exact hinv.empty
  | press => exact hinv.empty
  | countriesEnd hloading =>
      intro _
      exact (hinv.serial.fresh hloading).1
  | statesEnd honly hload hstates hdistinct =>
      intro _
      apply hinv.empty
      right
      rw [honly.states]
      exact List.cons_ne_nil _ _
  | citiesEnd honly hload hcities =>
      intro hopen
      rcases hopen with heq | hne
      · exact absurd heq honly.state
      · exact absurd honly.states hne

/-- In every serial run in which countries are picked only while the menu of
cities is empty, that menu follows the selection. -/
theorem cities_menu_follows_selection
    (catalogue : Catalogue)
    (hreach : Reaches (MenuForm.step catalogue)
      (fun form event => Serial form event ∧ CountryBeforeCities form event)
      MenuForm.initial form)
    (hsettled : form.Settled) :
    form.CitiesShown catalogue := by
  have hinv : CitiesInvariant catalogue form :=
    hreach.invariant (CitiesInvariant.initial catalogue)
      (fun _ _ _ hinv hallowed hstep =>
        hinv.step hallowed.1 hallowed.2 hstep)
  unfold MenuForm.CitiesShown Menu.values
  split_ifs with hchosen
  · refine ⟨form.citiesMenu.items, ?_, rfl⟩
    rcases hinv.serial.location.cities with hway | hready
    · obtain ⟨country, state, hloading, -⟩ := hway.loading
      rw [hsettled.2] at hloading
      cases hloading
    · rcases hready.menu with hopen | ⟨hcities, -⟩
      · rcases hopen with heq | hne
        · exact absurd heq hchosen.2
        · exact absurd hsettled.1 hne
      · exact hcities
  · have hopen : StateOpen form := by
      left
      by_contra hstate
      apply hchosen
      refine ⟨?_, hstate⟩
      intro hcountry
      apply hstate
      rcases hinv.serial.location.states with hway | hready
      · exact absurd hcountry hway.country
      · exact hinv.serial.location.state_eq_placeholder hready.selected
          hcountry
    rw [hinv.empty hopen]

theorem cities_menu_follows_selection_patientPicks :
    ∃ form,
      Reaches (MenuForm.step twoCountries)
        (fun form event =>
          Serial form event ∧ CountryBeforeCities form event)
        MenuForm.initial form ∧
      form.Settled ∧ form.selectedState = "Acre" ∧
      form.CitiesShown twoCountries := by
  have hrun : ∃ form,
      run (MenuForm.step twoCountries) MenuForm.initial patientPicks =
        some form ∧
      (form.loadingStates = [] ∧ form.loadingCities = []) ∧
      form.selectedState = "Acre" := by
    refine ⟨_, rfl, ?_⟩
    decide
  have hallowed : EachAllowed (MenuForm.step twoCountries)
      (fun form event => Serial form event ∧ CountryBeforeCities form event)
      MenuForm.initial patientPicks :=
    ⟨⟨trivial, trivial⟩, ⟨⟨rfl, rfl⟩, rfl⟩, ⟨trivial, trivial⟩,
      ⟨⟨rfl, rfl⟩, trivial⟩, ⟨trivial, trivial⟩, ⟨⟨rfl, rfl⟩, trivial⟩,
      trivial⟩
  obtain ⟨form, hrun, hsettled, hstate⟩ := hrun
  have hreach := Reaches.refl.run patientPicks hallowed hrun
  exact ⟨form, hreach, hsettled, hstate,
    cities_menu_follows_selection twoCountries hreach hsettled⟩

/-- Another country is picked after a complete selection, and its states are
loaded. -/
def secondCountry : List MenuEvent :=
  patientPicks ++ [.pickCountry "Chile", .statesEnd 0]

theorem serial_secondCountry :
    EachAllowed (MenuForm.step twoCountries) Serial MenuForm.initial
      secondCountry :=
  ⟨trivial, ⟨rfl, rfl⟩, trivial, ⟨rfl, rfl⟩, trivial, ⟨rfl, rfl⟩,
    ⟨rfl, rfl⟩, trivial, trivial⟩

theorem second_country_keeps_cities :
    ¬ ∀ form,
      Reaches (MenuForm.step twoCountries) Serial MenuForm.initial form →
      form.Settled → form.CitiesShown twoCountries := by
  intro hall
  have hrun : ∃ form,
      run (MenuForm.step twoCountries) MenuForm.initial secondCountry =
        some form ∧
      (form.loadingStates = [] ∧ form.loadingCities = []) ∧
      form.selectedState = form.statesMenu.placeholder ∧
      form.citiesMenu.items = ["Xapuri"] := by
    refine ⟨_, rfl, ?_⟩
    decide
  obtain ⟨form, hrun, hsettled, hstate, hitems⟩ := hrun
  have hreach := Reaches.refl.run secondCountry serial_secondCountry hrun
  have hshown := hall form hreach hsettled
  unfold MenuForm.CitiesShown Menu.values at hshown
  rw [if_neg (fun hchosen => hchosen.2 hstate), hitems] at hshown
  cases hshown

end Cities

/-! ## Frames -/

/-- What a dropdown asks of its value and its items. -/
def Menu.Offers (menu : Menu) (value : String) : Prop :=
  menu.values.count value = 1

structure MenuForm.Framed (form : MenuForm) : Prop where
  country : form.countriesMenu.Offers form.selectedCountry
  state : form.statesMenu.Offers form.selectedState
  city : form.citiesMenu.Offers form.selectedCity

/-- A country is picked while no state is selected, a state while no city is,
and a city that is listed once; and no list that is loaded holds the
placeholder of its menu. -/
def FrameKept (catalogue : Catalogue) (form : MenuForm) : MenuEvent → Prop
  | .pickCountry country =>
      country = form.countriesMenu.placeholder ∨
        form.selectedState = form.statesMenu.placeholder
  | .pickState state =>
      state = form.statesMenu.placeholder ∨
        form.selectedCity = form.citiesMenu.placeholder
  | .pickCity city => form.citiesMenu.Offers city
  | .press => True
  | .countriesEnd =>
      form.countriesMenu.placeholder ∉
        LocationController.getCountries catalogue
  | .statesEnd index =>
      ∀ country states, form.loadingStates[index]? = some country →
        LocationController.getStates catalogue country = .ok states →
          form.statesMenu.placeholder ∉ states
  | .citiesEnd index =>
      ∀ country state cities,
        form.loadingCities[index]? = some (country, state) →
        LocationController.getCities catalogue country state = .ok cities →
          form.citiesMenu.placeholder ∉ cities

structure FrameInvariant (catalogue : Catalogue) (form : MenuForm) :
    Prop where
  serial : SerialInvariant catalogue form
  framed : form.Framed
  countries : form.countriesMenu.values.Nodup
  states : form.statesMenu.values.Nodup
  cities : form.citiesMenu.placeholder ∉ form.citiesMenu.items

section Frames

variable {catalogue : Catalogue} {form next : MenuForm}

theorem Menu.offers_placeholder_iff {menu : Menu} :
    menu.Offers menu.placeholder ↔ menu.placeholder ∉ menu.items := by
  unfold Menu.Offers Menu.values
  rw [List.count_cons_self, Nat.add_eq_right, List.count_eq_zero]

theorem Menu.offers_of_nodup {menu : Menu} {value : String}
    (hnodup : menu.values.Nodup) (hmem : value ∈ menu.values) :
    menu.Offers value :=
  List.count_eq_one_of_mem hnodup hmem

theorem Menu.offers_clear_iff {menu : Menu} {value : String} :
    menu.clear.Offers value ↔ value = menu.placeholder := by
  constructor
  · intro hoffers
    have hmem : value ∈ menu.clear.values := by
      apply List.count_pos_iff.mp
      unfold Menu.Offers at hoffers
      omega
    exact List.mem_singleton.mp hmem
  · intro heq
    subst heq
    exact Menu.offers_placeholder_iff.mpr List.not_mem_nil

theorem FrameInvariant.initial (catalogue : Catalogue) :
    FrameInvariant catalogue MenuForm.initial := by
  refine ⟨SerialInvariant.initial catalogue, ⟨?_, ?_, ?_⟩, ?_, ?_, ?_⟩
  · exact Menu.offers_placeholder_iff.mpr List.not_mem_nil
  · exact Menu.offers_placeholder_iff.mpr List.not_mem_nil
  · exact Menu.offers_placeholder_iff.mpr List.not_mem_nil
  · exact List.nodup_singleton _
  · exact List.nodup_singleton _
  · exact List.not_mem_nil

theorem SerialInvariant.states_empty
    (hinv : SerialInvariant catalogue form)
    (honly : OnlyStatesLoad form) : form.statesMenu.items = [] := by
  rcases hinv.location.states with hway | hready
  · exact hway.empty
  · have hnone := hready.loading
    rw [honly.states] at hnone
    cases hnone

theorem SerialInvariant.cities_empty
    (hinv : SerialInvariant catalogue form)
    (honly : OnlyCitiesLoad form) : form.citiesMenu.items = [] := by
  rcases hinv.location.cities with hway | hready
  · exact hway.empty
  · have hnone := hready.loading
    rw [honly.cities] at hnone
    cases hnone

theorem Menu.items_add {menu : Menu} {items : List String}
    (hempty : menu.items = []) : (menu.add items).items = items := by
  simp only [Menu.add, hempty, List.nil_append]

theorem Menu.nodup_add {menu : Menu} {items : List String}
    (hempty : menu.items = []) (hnodup : items.Nodup)
    (hnew : menu.placeholder ∉ items) : (menu.add items).values.Nodup := by
  unfold Menu.values
  rw [Menu.items_add hempty]
  exact List.nodup_cons.mpr ⟨hnew, hnodup⟩

/-- A load that ends leaves the placeholder selected. -/
theorem Menu.not_mem_of_offers_add {menu : Menu} {items : List String}
    (hempty : menu.items = [])
    (hoffers : (menu.add items).Offers menu.placeholder) :
    menu.placeholder ∉ items := by
  have hnew := Menu.offers_placeholder_iff.mp hoffers
  rw [Menu.items_add hempty] at hnew
  exact hnew

theorem FrameInvariant.step
    (hinv : FrameInvariant catalogue form) {event : MenuEvent}
    (hserial : Serial form event)
    (hstep : form.step catalogue event = some next)
    (hkept : FrameKept catalogue form event) :
    FrameInvariant catalogue next := by
  have hnext := hinv.serial.step hserial hstep
  have hnoCountry := Menu.offers_of_nodup hinv.countries List.mem_cons_self
  have hnoState := Menu.offers_of_nodup hinv.states List.mem_cons_self
  have hnoCity := Menu.offers_placeholder_iff.mpr hinv.cities
  cases hinv.serial.moves hserial hstep with
  | noCountry hsettled =>
      exact ⟨hnext, ⟨hnoCountry, Menu.offers_clear_iff.mpr rfl, hnoCity⟩,
        hinv.countries, List.nodup_singleton _, hinv.cities⟩
  | country hsettled hshown hcountry =>
      have hstate : form.selectedState = form.statesMenu.placeholder :=
        hkept.resolve_left hcountry
      exact ⟨hnext,
        ⟨Menu.offers_of_nodup hinv.countries hshown,
          Menu.offers_clear_iff.mpr hstate, hinv.framed.city⟩,
        hinv.countries, List.nodup_singleton _, hinv.cities⟩
  | noState hsettled =>
      exact ⟨hnext,
        ⟨hinv.framed.country, hnoState, Menu.offers_clear_iff.mpr rfl⟩,
        hinv.countries, hinv.states, List.not_mem_nil⟩
  | state hsettled hshown hstate hcountry =>
      have hcity : form.selectedCity = form.citiesMenu.placeholder :=
        hkept.resolve_left hstate
      exact ⟨hnext,
        ⟨hinv.framed.country, Menu.offers_of_nodup hinv.states hshown,
          Menu.offers_clear_iff.mpr hcity⟩,
        hinv.countries, hinv.states, List.not_mem_nil⟩
  | city hsettled hshown =>
      exact ⟨hnext, ⟨hinv.framed.country, hinv.framed.state, hkept⟩,
        hinv.countries, hinv.states, hinv.cities⟩
  | press => exact hinv
  | countriesEnd hloading =>
      have hempty := hinv.serial.location.countries.loading hloading
      have hnodup :=
        Menu.nodup_add hempty catalogue.countries_nodup hkept
      exact ⟨hnext,
        ⟨Menu.offers_of_nodup hnodup List.mem_cons_self, hnoState,
          hnoCity⟩,
        hnodup, hinv.states, hinv.cities⟩
  | statesEnd honly hload hstates hdistinct =>
      have hempty := hinv.serial.states_empty honly
      have hnodup :=
        Menu.nodup_add hempty hdistinct (hkept _ _ hload hstates)
      exact ⟨hnext,
        ⟨hinv.framed.country,
          Menu.offers_of_nodup hnodup List.mem_cons_self, hnoCity⟩,
        hinv.countries, hnodup, hinv.cities⟩
  | @citiesEnd _ cities honly hload hcities =>
      have hempty := hinv.serial.cities_empty honly
      have hnew : form.citiesMenu.placeholder ∉
          (form.citiesMenu.add cities).items := by
        rw [Menu.items_add hempty]
        exact hkept _ _ _ hload hcities
      exact ⟨hnext,
        ⟨hinv.framed.country, hinv.framed.state,
          Menu.offers_placeholder_iff.mpr hnew⟩,
        hinv.countries, hinv.states, hnew⟩

theorem FrameInvariant.kept_of_framed
    (hinv : FrameInvariant catalogue form) {event : MenuEvent}
    (hserial : Serial form event)
    (hstep : form.step catalogue event = some next)
    (hframed : next.Framed) : FrameKept catalogue form event := by
  cases hinv.serial.moves hserial hstep with
  | noCountry hsettled => exact Or.inl rfl
  | country hsettled hshown hcountry =>
      exact Or.inr (Menu.offers_clear_iff.mp hframed.state)
  | noState hsettled => exact Or.inl rfl
  | state hsettled hshown hstate hcountry =>
      exact Or.inr (Menu.offers_clear_iff.mp hframed.city)
  | city hsettled hshown => exact hframed.city
  | press => trivial
  | countriesEnd hloading =>
      exact Menu.not_mem_of_offers_add
        (hinv.serial.location.countries.loading hloading) hframed.country
  | statesEnd honly hload hstates hdistinct =>
      intro country states hfound hfoundStates
      rw [hload] at hfound
      cases hfound
      rw [hstates] at hfoundStates
      cases hfoundStates
      exact Menu.not_mem_of_offers_add (hinv.serial.states_empty honly)
        hframed.state
  | citiesEnd honly hload hcities =>
      intro country state cities hfound hfoundCities
      rw [hload] at hfound
      cases hfound
      rw [hcities] at hfoundCities
      cases hfoundCities
      exact Menu.not_mem_of_offers_add (hinv.serial.cities_empty honly)
        hframed.city

/-- In a serial run every frame finds each selected value exactly once in
its menu, if and only if every event keeps it so. -/
theorem frames_offer_selection_iff
    (catalogue : Catalogue) (events : List MenuEvent)
    (hserial : EachAllowed (MenuForm.step catalogue) Serial
      MenuForm.initial events)
    (hrun : run (MenuForm.step catalogue) MenuForm.initial events =
      some form) :
    HoldsThroughout (MenuForm.step catalogue) MenuForm.Framed
        MenuForm.initial events ↔
      EachAllowed (MenuForm.step catalogue) (FrameKept catalogue)
        MenuForm.initial events :=
  holdsThroughout_iff_eachAllowed
    (fun _ hinv => hinv.framed)
    (fun _ _ _ hinv hserial hstep hkept => hinv.step hserial hstep hkept)
    (fun _ _ _ hinv hserial hstep hframed =>
      hinv.kept_of_framed hserial hstep hframed)
    (FrameInvariant.initial catalogue) events hserial hrun

theorem frames_offer_selection_patientPicks :
    HoldsThroughout (MenuForm.step twoCountries) MenuForm.Framed
      MenuForm.initial patientPicks := by
  have hserial : EachAllowed (MenuForm.step twoCountries) Serial
      MenuForm.initial patientPicks :=
    ⟨trivial, ⟨rfl, rfl⟩, trivial, ⟨rfl, rfl⟩, trivial, ⟨rfl, rfl⟩,
      trivial⟩
  have hrun : ∃ form,
      run (MenuForm.step twoCountries) MenuForm.initial patientPicks =
        some form :=
    ⟨_, rfl⟩
  obtain ⟨form, hrun⟩ := hrun
  rw [frames_offer_selection_iff twoCountries patientPicks hserial hrun]
  refine ⟨?_, Or.inr rfl, ?_, Or.inr rfl, ?_, rfl, trivial⟩
  · unfold FrameKept
    decide
  · intro country states hload hstates
    cases hload
    cases hstates
    decide
  · intro country state cities hload hcities
    cases hload
    cases hcities
    decide

theorem second_country_breaks_frame :
    ¬ ∀ events,
      EachAllowed (MenuForm.step twoCountries) Serial MenuForm.initial
        events →
      HoldsThroughout (MenuForm.step twoCountries) MenuForm.Framed
        MenuForm.initial events := by
  intro hall
  obtain ⟨-, -, -, -, -, -, -, hframed, -⟩ :=
    hall secondCountry serial_secondCountry
  have hstate := Menu.offers_clear_iff.mp hframed.state
  exact absurd hstate (by decide)

end Frames

end FoliumApp
