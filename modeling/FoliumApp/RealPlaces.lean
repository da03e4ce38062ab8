import FoliumApp.DirectoryAcrossDevices
import FoliumApp.RegisterFormSerial

/-!
# Places from the menus to the records

The menus of the registration form and the devices are two machines: one is
left with a selection, and what it holds when it is read again is what the
other registers an account with.  Put together, they say where the places on
record come from.  However picks and loads follow each other, every name on
record is one of the catalogue, but a load that ends after the button is
pressed can leave the placeholder of the city, or of the city and the state;
and when the user waits for the loads, the names are those of a city with its
state and country.
-/

namespace FoliumApp

open PathTree AsyncProgram CallSequences

/-! ## Names in the menus -/

/-- Whatever a menu shows is its label or a name of its kind. -/
structure MenuNames (label : String) (names : String → Prop) (menu : Menu)
    (selected : String) : Prop where
  placeholder : menu.placeholder = label
  items : ∀ item ∈ menu.items, names item
  selected : selected = label ∨ names selected

section MenuNames

variable {label selected : String} {names : String → Prop} {menu : Menu}

theorem MenuNames.clear (hnames : MenuNames label names menu selected) :
    MenuNames label names menu.clear selected :=
  ⟨hnames.placeholder, nofun, hnames.selected⟩

theorem MenuNames.reset (hnames : MenuNames label names menu selected) :
    MenuNames label names menu menu.placeholder :=
  ⟨hnames.placeholder, hnames.items, Or.inl hnames.placeholder⟩

theorem MenuNames.pick (hnames : MenuNames label names menu selected)
    {value : String} (hshown : value ∈ menu.values) :
    MenuNames label names menu value := by
  refine ⟨hnames.placeholder, hnames.items, ?_⟩
  rcases List.mem_cons.mp hshown with heq | hitem
  · exact Or.inl (heq.trans hnames.placeholder)
  · exact Or.inr (hnames.items value hitem)

theorem MenuNames.add (hnames : MenuNames label names menu selected)
    {items : List String} (hitems : ∀ item ∈ items, names item) :
    MenuNames label names (menu.add items) selected := by
  refine ⟨hnames.placeholder, ?_, hnames.selected⟩
  intro item hitem
  rcases List.mem_append.mp hitem with hold | hnew
  · exact hnames.items item hold
  · exact hitems item hnew

end MenuNames

def Catalogue.HasState (catalogue : Catalogue) (state : String) : Prop :=
  ∃ country states,
    LocationController.getStates catalogue country = .ok states ∧
      state ∈ states

def Catalogue.HasCity (catalogue : Catalogue) (city : String) : Prop :=
  ∃ country state cities,
    LocationController.getCities catalogue country state = .ok cities ∧
      city ∈ cities

/-- The menus show nothing but their labels and names of the catalogue. -/
structure NamesShown (catalogue : Catalogue) (form : MenuForm) : Prop where
  countries : MenuNames SimpleRegister.countryPlaceholder
    (· ∈ LocationController.getCountries catalogue) form.countriesMenu
    form.selectedCountry
  states : MenuNames SimpleRegister.statePlaceholder catalogue.HasState
    form.statesMenu form.selectedState
  cities : MenuNames SimpleRegister.cityPlaceholder catalogue.HasCity
    form.citiesMenu form.selectedCity

section Forms

variable {catalogue : Catalogue} {form next : MenuForm}

theorem NamesShown.initial (catalogue : Catalogue) :
    NamesShown catalogue MenuForm.initial :=
  ⟨⟨rfl, nofun, Or.inl rfl⟩, ⟨rfl, nofun, Or.inl rfl⟩,
    ⟨rfl, nofun, Or.inl rfl⟩⟩

theorem NamesShown.changedCountry (hshown : NamesShown catalogue form)
    {country : String} (hcountry : country ∈ form.countriesMenu.values) :
    NamesShown catalogue (form.changedCountryDropDownItem country) := by
  obtain ⟨hcountries, hstates, hcities⟩ := hshown
  by_cases hplaceholder : country = form.countriesMenu.placeholder
  · subst hplaceholder
    rw [MenuForm.changedCountry_placeholder]
    exact ⟨hcountries.reset, hstates.clear.reset, hcities.reset⟩
  · rw [MenuForm.changedCountry_of_ne form hplaceholder]
    exact ⟨hcountries.pick hcountry, hstates.clear, hcities⟩

theorem NamesShown.changedState (hshown : NamesShown catalogue form)
    {state : String} (hstate : state ∈ form.statesMenu.values) :
    NamesShown catalogue (form.changedStateDropDownItem state) := by
  obtain ⟨hcountries, hstates, hcities⟩ := hshown
  by_cases hplaceholder : state = form.statesMenu.placeholder ∨
      form.selectedCountry = form.countriesMenu.placeholder
  · rw [MenuForm.changedState_placeholder form hplaceholder]
    exact ⟨hcountries, hstates.pick hstate, hcities.clear.reset⟩
  · rw [not_or] at hplaceholder
    rw [MenuForm.changedState_of_ne form hplaceholder.1 hplaceholder.2]
    exact ⟨hcountries, hstates.pick hstate, hcities.clear⟩

theorem NamesShown.statesLoaded (hshown : NamesShown catalogue form)
    (country : String) :
    NamesShown catalogue (form.statesLoaded catalogue country) := by
  cases hload : LocationController.getStates catalogue country with
  | error error =>
      rw [MenuForm.statesLoaded_of_error form hload]
      exact hshown
  | ok states =>
      have hnames : ∀ state ∈ states, catalogue.HasState state :=
        fun state hmem => ⟨country, states, hload, hmem⟩
      rw [MenuForm.statesLoaded_of_ok form hload]
      exact ⟨hshown.countries, (hshown.states.add hnames).reset,
        hshown.cities.reset⟩

theorem NamesShown.citiesLoaded (hshown : NamesShown catalogue form)
    (country state : String) :
    NamesShown catalogue (form.citiesLoaded catalogue country state) := by
  cases hload : LocationController.getCities catalogue country state with
  | error error =>
      rw [MenuForm.citiesLoaded_of_error form hload]
      exact hshown
  | ok cities =>
      have hnames : ∀ city ∈ cities, catalogue.HasCity city :=
        fun city hmem => ⟨country, state, cities, hload, hmem⟩
      rw [MenuForm.citiesLoaded_of_ok form hload]
      exact ⟨hshown.countries, hshown.states,
        (hshown.cities.add hnames).reset⟩

theorem NamesShown.step (hshown : NamesShown catalogue form)
    {event : MenuEvent} (hstep : form.step catalogue event = some next) :
    NamesShown catalogue next := by
  cases MenuForm.moves_of_step hstep with
  | pickCountry hvalue => exact hshown.changedCountry hvalue
  | pickState hvalue => exact hshown.changedState hvalue
  | pickCity hvalue =>
      exact ⟨hshown.countries, hshown.states, hshown.cities.pick hvalue⟩
  | press => exact hshown
  | countriesEnd =>
      exact ⟨(hshown.countries.add fun _ hmem => hmem).reset,
        hshown.states.reset, hshown.cities.reset⟩
  | statesEnd =>
      apply NamesShown.statesLoaded
      exact ⟨hshown.countries, hshown.states, hshown.cities⟩
  | citiesEnd =>
      apply NamesShown.citiesLoaded
      exact ⟨hshown.countries, hshown.states, hshown.cities⟩

theorem NamesShown.of_reaches {allowed : MenuForm → MenuEvent → Prop}
    (hreach : Reaches (MenuForm.step catalogue) allowed MenuForm.initial
      form) :
    NamesShown catalogue form :=
  hreach.invariant (NamesShown.initial catalogue)
    fun _ _ _ hshown _ hstep => hshown.step hstep

end Forms

/-! ## Selections -/

def MenuEvent.IsLoadEnd : MenuEvent → Prop
  | .countriesEnd => True
  | .statesEnd _ => True
  | .citiesEnd _ => True
  | _ => False

/-- What a registration can read: the button is pressed with a selection that
passes the guards, and loads that were under way may end before the menus are
read again. -/
def Catalogue.Selects (catalogue : Catalogue)
    (allowed : MenuForm → MenuEvent → Prop)
    (country state city : String) : Prop :=
  ∃ pressed held,
    Reaches (MenuForm.step catalogue) allowed MenuForm.initial pressed ∧
      allowed pressed .press ∧ pressed.guardsPassed = true ∧
      Reaches (MenuForm.step catalogue) (fun _ event => event.IsLoadEnd)
        pressed held ∧
      held.selectedCountry = country ∧ held.selectedState = state ∧
      held.selectedCity = city

/-- The country is one of the catalogue; the state and the city are names of
it as well, but the city, or both, can be back at the placeholder. -/
structure Catalogue.Read (catalogue : Catalogue)
    (country state city : String) : Prop where
  country : country ∈ LocationController.getCountries catalogue
  place : catalogue.HasState state ∧ catalogue.HasCity city ∨
    catalogue.HasState state ∧ city = SimpleRegister.cityPlaceholder ∨
    state = SimpleRegister.statePlaceholder ∧
      city = SimpleRegister.cityPlaceholder

section Countries

variable {catalogue : Catalogue} {form next : MenuForm}

theorem CountriesInvariant.initial (catalogue : Catalogue) :
    CountriesInvariant catalogue MenuForm.initial :=
  ⟨fun _ => rfl, nofun, List.mem_cons_self⟩

theorem CountriesInvariant.changedCountry
    (hinv : CountriesInvariant catalogue form) {country : String}
    (hcountry : country ∈ form.countriesMenu.values) :
    CountriesInvariant catalogue
      (form.changedCountryDropDownItem country) := by
  by_cases hplaceholder : country = form.countriesMenu.placeholder
  · subst hplaceholder
    rw [MenuForm.changedCountry_placeholder]
    exact hinv.congr rfl rfl hcountry
  · rw [MenuForm.changedCountry_of_ne form hplaceholder]
    exact hinv.congr rfl rfl hcountry

theorem CountriesInvariant.statesLoaded
    (hinv : CountriesInvariant catalogue form) (loads : List String)
    (country : String) :
    CountriesInvariant catalogue
      (MenuForm.statesLoaded catalogue { form with loadingStates := loads }
        country) := by
  unfold MenuForm.statesLoaded
  split
  · exact hinv.congr rfl rfl hinv.selected
  · exact hinv.congr rfl rfl hinv.selected

theorem CountriesInvariant.step (hinv : CountriesInvariant catalogue form)
    {event : MenuEvent} (hstep : form.step catalogue event = some next) :
    CountriesInvariant catalogue next := by
  cases MenuForm.moves_of_step hstep with
  | pickCountry hshown => exact hinv.changedCountry hshown
  | pickState =>
      exact hinv.of_sameStates (sameStates_changedState form _)
  | pickCity => exact hinv.congr rfl rfl hinv.selected
  | press => exact hinv
  | countriesEnd hloading => exact hinv.countriesLoaded hloading
  | statesEnd => exact hinv.statesLoaded _ _
  | citiesEnd =>
      exact hinv.of_sameStates (sameStates_citiesLoaded catalogue form _ _ _)

end Countries

/-! ## After the button is pressed -/

/-- The form as the loads leave it: the country stays, and the city or both
other selections may have been reset. -/
structure LeftBy (catalogue : Catalogue) (pressed held : MenuForm) :
    Prop where
  shown : NamesShown catalogue held
  loaded : held.loadingCountries = false
  country : held.selectedCountry = pressed.selectedCountry
  place : held.selectedState = pressed.selectedState ∧
      held.selectedCity = pressed.selectedCity ∨
    held.selectedState = pressed.selectedState ∧
      held.selectedCity = SimpleRegister.cityPlaceholder ∨
    held.selectedState = SimpleRegister.statePlaceholder ∧
      held.selectedCity = SimpleRegister.cityPlaceholder

section Loads

variable {catalogue : Catalogue} {pressed held next : MenuForm}

theorem LeftBy.statesLoaded (hleft : LeftBy catalogue pressed held)
    (loads : List String) (country : String) :
    LeftBy catalogue pressed
      (MenuForm.statesLoaded catalogue { held with loadingStates := loads }
        country) := by
  obtain ⟨⟨hcountries, hstates, hcities⟩, hloaded, hcountry, hplace⟩ := hleft
  have hshown : NamesShown catalogue { held with loadingStates := loads } :=
    ⟨hcountries, hstates, hcities⟩
  refine ⟨hshown.statesLoaded country, ?_, ?_, ?_⟩ <;>
    cases hload : LocationController.getStates catalogue country with
    | error error =>
        rw [MenuForm.statesLoaded_of_error _ hload]
        assumption
    | ok states =>
        rw [MenuForm.statesLoaded_of_ok _ hload]
        first
          | assumption
          | exact Or.inr (Or.inr ⟨hstates.placeholder, hcities.placeholder⟩)

theorem LeftBy.citiesLoaded (hleft : LeftBy catalogue pressed held)
    (loads : List (String × String)) (country state : String) :
    LeftBy catalogue pressed
      (MenuForm.citiesLoaded catalogue { held with loadingCities := loads }
        country state) := by
  obtain ⟨⟨hcountries, hstates, hcities⟩, hloaded, hcountry, hplace⟩ := hleft
  have hshown : NamesShown catalogue { held with loadingCities := loads } :=
    ⟨hcountries, hstates, hcities⟩
  have hstate : held.selectedState = pressed.selectedState ∨
      held.selectedState = SimpleRegister.statePlaceholder := by
    rcases hplace with ⟨hstate, -⟩ | ⟨hstate, -⟩ | ⟨hstate, -⟩
    · exact Or.inl hstate
    · exact Or.inl hstate
    · exact Or.inr hstate
  refine ⟨hshown.citiesLoaded country state, ?_, ?_, ?_⟩ <;>
    cases hload : LocationController.getCities catalogue country state with
    | error error =>
        rw [MenuForm.citiesLoaded_of_error _ hload]
        assumption
    | ok cities =>
        rw [MenuForm.citiesLoaded_of_ok _ hload]
        first
          | assumption
          | exact Or.inr (hstate.imp (fun heq => ⟨heq, hcities.placeholder⟩)
              fun heq => ⟨heq, hcities.placeholder⟩)

theorem LeftBy.step (hleft : LeftBy catalogue pressed held)
    {event : MenuEvent} (hend : event.IsLoadEnd)
    (hstep : held.step catalogue event = some next) :
    LeftBy catalogue pressed next := by
  cases MenuForm.moves_of_step hstep with
  | countriesEnd hloading =>
      rw [hleft.loaded] at hloading
      cases hloading
  | statesEnd => exact hleft.statesLoaded _ _
  | citiesEnd => exact hleft.citiesLoaded _ _ _
  | _ => exact hend.elim

/-- With no load under way nothing ends. -/
theorem held_eq_of_idle
    (hloaded : pressed.loadingCountries = false)
    (hstates : pressed.loadingStates = [])
    (hcities : pressed.loadingCities = [])
    (hends : Reaches (MenuForm.step catalogue)
      (fun _ event => event.IsLoadEnd) pressed held) : held = pressed := by
  induction hends with
  | refl => rfl
  | next hbefore hend hstep ih =>
      subst ih
      cases MenuForm.moves_of_step hstep with
      | countriesEnd hloading =>
          rw [hloaded] at hloading
          cases hloading
      | statesEnd hload => simp [hstates] at hload
      | citiesEnd hload => simp [hcities] at hload
      | _ => exact hend.elim

/-- A button pressed with a selection that passes: the countries have been
loaded, and the three names are of the catalogue. -/
theorem names_of_guardsPassed {allowed : MenuForm → MenuEvent → Prop}
    (hreach : Reaches (MenuForm.step catalogue) allowed MenuForm.initial
      pressed)
    (hguards : pressed.guardsPassed = true) :
    pressed.loadingCountries = false ∧
      pressed.selectedCountry ∈ LocationController.getCountries catalogue ∧
      catalogue.HasState pressed.selectedState ∧
      catalogue.HasCity pressed.selectedCity := by
  have hshown := NamesShown.of_reaches hreach
  have hcountries : CountriesInvariant catalogue pressed :=
    hreach.invariant (CountriesInvariant.initial catalogue)
      fun _ _ _ hinv _ hstep => hinv.step hstep
  simp only [MenuForm.guardsPassed, ne_eq, decide_not, Bool.and_eq_true,
    Bool.not_eq_true', decide_eq_false_iff_not] at hguards
  obtain ⟨⟨hcountry, hstate⟩, hcity⟩ := hguards
  rw [hshown.states.placeholder] at hstate
  rw [hshown.cities.placeholder] at hcity
  refine ⟨?_, hcountries.mem_getCountries hcountry,
    hshown.states.selected.resolve_left hstate,
    hshown.cities.selected.resolve_left hcity⟩
  cases hloading : pressed.loadingCountries with
  | false => rfl
  | true => exact absurd (hcountries.selected_of_loading hloading) hcountry

variable {country state city : String}

theorem read_of_selects {allowed : MenuForm → MenuEvent → Prop}
    (hselects : catalogue.Selects allowed country state city) :
    catalogue.Read country state city := by
  obtain ⟨pressed, held, hreach, -, hguards, hends, rfl, rfl, rfl⟩ := hselects
  obtain ⟨hloaded, hcountry, hstate, hcity⟩ :=
    names_of_guardsPassed hreach hguards
  have hpressed : LeftBy catalogue pressed pressed :=
    ⟨NamesShown.of_reaches hreach, hloaded, rfl, Or.inl ⟨rfl, rfl⟩⟩
  have hleft : LeftBy catalogue pressed held :=
    hends.invariant hpressed fun _ _ _ hleft hend hstep =>
      hleft.step hend hstep
  refine ⟨by rw [hleft.country]; exact hcountry, ?_⟩
  rcases hleft.place with ⟨hsame, heq⟩ | ⟨hsame, heq⟩ | ⟨hsame, heq⟩
  · rw [hsame, heq]
    exact Or.inl ⟨hstate, hcity⟩
  · rw [hsame]
    exact Or.inr (Or.inl ⟨hstate, heq⟩)
  · exact Or.inr (Or.inr ⟨hsame, heq⟩)

/-- Whoever waits for the loads picks a city with its state and country. -/
theorem offers_of_selects
    (hselects : catalogue.Selects PicksWait country state city) :
    catalogue.Offers country state city := by
  obtain ⟨pressed, held, hreach, ⟨hstates, hcities⟩, hguards, hends, rfl, rfl,
    rfl⟩ := hselects
  obtain ⟨hloaded, hcountry, -, -⟩ := names_of_guardsPassed hreach hguards
  have hsame := held_eq_of_idle hloaded hstates hcities hends
  subst hsame
  have hinv : LocationInvariant catalogue held :=
    hreach.invariant (LocationInvariant.initial catalogue)
      fun _ _ _ hinv hwaits hstep => hinv.step hwaits hstep
  obtain ⟨hstate, hcity⟩ := hinv.realLocation hstates hcities hguards
  exact ⟨hcountry, hstate, hcity⟩

end Loads

/-! ## Records -/

/-- The user's location names such a place. -/
def User.At (place : String → String → String → Prop) (user : User) : Prop :=
  ∃ location country state city, user.location = some location ∧
    location.country = some country ∧ location.state = some state ∧
      location.city = some city ∧ place country state city

theorem Registry.Admits.at {registry : Registry} {uid : Segment}
    {user : User} (hadmits : registry.Admits uid user)
    {place : String → String → String → Prop}
    (hplace : ∀ country state city, registry.offered country state city →
      place country state city) :
    user.At place := by
  obtain ⟨location, hlocation, country, state, city, hcountry, hstate, hcity,
    hoffered⟩ := hadmits.location
  exact ⟨location, country, state, city, hlocation, hcountry, hstate, hcity,
    hplace _ _ _ hoffered⟩

section Records

variable {DeviceId : Type} [DecidableEq DeviceId]

/-- Users in the sessions and on record all name such a place. -/
structure PlacesAre (place : String → String → String → Prop)
    (world : World DeviceId) : Prop where
  sessions : ∀ device user,
    (world.locals device).currentUser = some user → user.toUser.At place
  clients : ∀ (uid : Segment) client,
    decodedClient (world.shared.read (dataPath uid.val)) = .ok client →
      client.toUser.At place
  workers : ∀ (uid : Segment) worker,
    decodedWorker (world.shared.read (dataPath uid.val)) = .ok worker →
      worker.toUser.At place

variable {world : World DeviceId}
  {offered : String → String → String → Prop}

theorem placesAre_of_reaches
    (hreach : app.Reaches (fun _ event => NamesOffered offered event)
      (World.initial DeviceId) world)
    {place : String → String → String → Prop}
    (hplace : ∀ country state city, offered country state city →
      place country state city) :
    PlacesAre place world := by
  have hrecords := (sound_of_reaches hreach).records
  constructor
  · intro device user huser
    obtain ⟨noted, rfl, -, hconsistent⟩ :=
      noted_of_reaches (fun _ _ hallowed => hallowed) hreach
    obtain ⟨uid, hadmits⟩ := hconsistent.sessions device user huser
    exact hadmits.at hplace
  · intro uid client hclient
    rcases hrecords uid with hnull | hrecord
    · rw [hnull] at hclient
      cases hclient
    · obtain ⟨found, hfound, hadmits⟩ := hrecord.decodedClient
      rw [hfound, Except.ok.injEq] at hclient
      subst hclient
      exact hadmits.at hplace
  · intro uid worker hworker
    rcases hrecords uid with hnull | hrecord
    · rw [hnull] at hworker
      cases hworker
    · exact (hrecord.of_decodedWorker hworker).1.at hplace

/-- However picks and loads follow each other in the forms, the countries in
the sessions and on record are of the catalogue, and so are the states and
cities that are not placeholders. -/
theorem recorded_names_from_catalogue (catalogue : Catalogue)
    (hreach : app.Reaches
      (fun _ event =>
        NamesOffered (catalogue.Selects fun _ _ => True) event)
      (World.initial DeviceId) world) :
    PlacesAre catalogue.Read world := by
  apply placesAre_of_reaches hreach
  intro country state city hselects
  exact read_of_selects hselects

/-- Ana picks her city; every load has ended before the next pick. -/
def picksXapuri : List MenuEvent :=
  [.countriesEnd, .pickCountry "BR", .statesEnd 0, .pickState "Acre",
    .citiesEnd 0, .pickCity "Xapuri"]

/-- She picks the country once more and presses the button before its states
have come. -/
def picksTwice : List MenuEvent := picksXapuri ++ [.pickCountry "BR"]

theorem selects_picksTwice :
    shippedPlaces.Selects (fun _ _ => True) "BR"
      SimpleRegister.statePlaceholder SimpleRegister.cityPlaceholder := by
  have hrun : ∃ pressed held,
      run (MenuForm.step shippedPlaces) MenuForm.initial picksTwice =
        some pressed ∧
      run (MenuForm.step shippedPlaces) pressed [.statesEnd 0] = some held ∧
      pressed.guardsPassed = true ∧ held.selectedCountry = "BR" ∧
      held.selectedState = SimpleRegister.statePlaceholder ∧
      held.selectedCity = SimpleRegister.cityPlaceholder := by
    refine ⟨_, _, rfl, rfl, ?_⟩
    decide
  obtain ⟨pressed, held, hpressed, hheld, hguards, hselected⟩ := hrun
  exact ⟨pressed, held,
    Reaches.refl.run picksTwice
      (eachAllowed_of_forall (fun _ _ => trivial) _ _) hpressed,
    trivial, hguards,
    Reaches.refl.run [.statesEnd 0]
      (eachAllowed_of_forall_mem (by simp [MenuEvent.IsLoadEnd]) _) hheld,
    hselected⟩

/-- The states of the second pick come while Ana reads the terms. -/
def hastyRegistration : List (Event Unit Action Oracle) :=
  toRegisterForm .cliente ++
    perform
      (.register (registerForm "Ana Souza" "ana@folium.work")
        (some
          ⟨"BR", SimpleRegister.statePlaceholder,
            SimpleRegister.cityPlaceholder⟩))
      firstUid 7

def Backend.recordedState (backend : Backend) (uid : Segment) :
    Option String := do
  let client ← (decodedClient (backend.read (dataPath uid.val))).toOption
  let location ← client.location
  location.state

/-- The placeholders do come on record. -/
theorem recorded_names_from_catalogue_hastyRegistration :
    ∃ world : World Unit,
      app.run (World.initial Unit) hastyRegistration = some world ∧
      world.shared.recordedState firstUid =
        some SimpleRegister.statePlaceholder ∧
      PlacesAre shippedPlaces.Read world := by
  have hrun : (app.run (World.initial Unit) hastyRegistration).map
      (fun world => world.shared.recordedState firstUid) =
        some (some SimpleRegister.statePlaceholder) := by
    decide +kernel
  obtain ⟨world, hworld, hstate⟩ := Option.map_eq_some_iff.mp hrun
  have hoffered : ∀ event ∈ hastyRegistration,
      NamesOffered (shippedPlaces.Selects fun _ _ => True) event := by
    simp [hastyRegistration, toRegisterForm, perform, NamesOffered,
      selects_picksTwice]
  exact ⟨world, hworld, hstate,
    recorded_names_from_catalogue shippedPlaces
      (Reaches.refl.run hastyRegistration
        (eachAllowed_of_forall_mem hoffered _) hworld)⟩

theorem selects_picksXapuri :
    shippedPlaces.Selects PicksWait "BR" "Acre" "Xapuri" := by
  have hrun : ∃ form,
      run (MenuForm.step shippedPlaces) MenuForm.initial picksXapuri =
        some form ∧
      (form.loadingStates = [] ∧ form.loadingCities = []) ∧
      form.guardsPassed = true ∧ form.selectedCountry = "BR" ∧
      form.selectedState = "Acre" ∧ form.selectedCity = "Xapuri" := by
    refine ⟨_, rfl, ?_⟩
    decide
  have hallowed : EachAllowed (MenuForm.step shippedPlaces) PicksWait
      MenuForm.initial picksXapuri :=
    ⟨trivial, rfl, trivial, rfl, trivial, trivial, trivial⟩
  obtain ⟨form, hrun, hpress, hguards, hselected⟩ := hrun
  exact ⟨form, form, Reaches.refl.run picksXapuri hallowed hrun, hpress,
    hguards, .refl, hselected⟩

/-- If the forms are filled in by users who wait for the loads, everybody in
a session or on record lives in a city of the catalogue, with its state and
country. -/
theorem recorded_places_are_real (catalogue : Catalogue)
    (hreach : app.Reaches
      (fun _ event => NamesOffered (catalogue.Selects PicksWait) event)
      (World.initial DeviceId) world) :
    PlacesAre catalogue.Offers world := by
  apply placesAre_of_reaches hreach
  intro country state city hselects
  exact offers_of_selects hselects

theorem recorded_places_are_real_photographedWork :
    ∃ world : World Unit,
      app.run (World.initial Unit) photographedWork = some world ∧
      PlacesAre shippedPlaces.Offers world := by
  obtain ⟨world, hworld, hreach⟩ := photographedWork_reached
  refine ⟨world, hworld, recorded_places_are_real shippedPlaces ?_⟩
  apply hreach.mono
  intro _ event hevent
  apply NamesOffered.mono _ hevent
  rintro country state city ⟨rfl, rfl, rfl⟩
  exact selects_picksXapuri

/-- Of such users the directory lists workers in real places only, as long as
the names they pick make paths of their own. -/
theorem directory_lists_real_places (catalogue : Catalogue)
    (hreach : app.Reaches
      (fun _ event => NamesOffered (fun country state city =>
        catalogue.Selects PicksWait country state city ∧
          Listable country ∧ Listable state ∧ Listable city) event)
      (World.initial DeviceId) world) {uid : String}
    {place : DirectoryPlace}
    (hlisted : world.shared.directory.listed uid place) :
    catalogue.Offers place.country place.state place.city := by
  have hlistable : AllListable fun country state city =>
      catalogue.Selects PicksWait country state city ∧
        Listable country ∧ Listable state ∧ Listable city :=
    fun _ _ _ hoffered => hoffered.2
  obtain ⟨owner, worker, location, form, hcompletion, rfl, rfl⟩ :=
    completion_of_listed hlistable hreach hlisted
  exact offers_of_selects hcompletion.offered.1

theorem directory_lists_real_places_photographedWork :
    ∃ world : World Unit,
      app.run (World.initial Unit) photographedWork = some world ∧
      world.shared.directory.listed firstUid.val paintersInXapuri ∧
      shippedPlaces.Offers paintersInXapuri.country paintersInXapuri.state
        paintersInXapuri.city := by
  have hrun : (app.run (World.initial Unit) photographedWork).any
      (fun world => !(world.shared.database.get
        (paintersInXapuri.entry firstUid.val)).fieldsOf.isEmpty) = true := by
    decide +kernel
  obtain ⟨world, hworld, hreach⟩ := photographedWork_reached
  rw [hworld, Option.any_some] at hrun
  have hlisted : world.shared.directory.listed firstUid.val
      paintersInXapuri := by
    intro hnull
    rw [hnull] at hrun
    cases hrun
  refine ⟨world, hworld, hlisted,
    directory_lists_real_places shippedPlaces ?_ hlisted⟩
  apply hreach.mono
  intro _ event hevent
  apply NamesOffered.mono _ hevent
  intro country state city hplace
  refine ⟨?_, allListable_inXapuri _ _ _ hplace⟩
  obtain ⟨rfl, rfl, rfl⟩ := hplace
  exact selects_picksXapuri

end Records

end FoliumApp
