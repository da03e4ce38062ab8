import FoliumApp.DirectoryAgreement
import FoliumApp.PhotoAlbum
import FoliumApp.RegisterFormMenus

/-!
# Names of places in directory paths

The completion form puts the names picked in the registration form into a
path as they are.  The database accepts the path exactly if none of the names
has a reserved character, and cuts it into the names exactly if each of them
is a piece of its own.  The catalogue that is shipped has names with dots and
one empty name, so it offers places where no worker can be listed.
-/

namespace FoliumApp

open PathTree AsyncProgram

/-! ## Paths the database accepts -/

def reservedChars : List Char := ['[', ']', '.', '#', '$']

def Unreserved (name : String) : Prop :=
  ∀ c ∈ name.toList, c ∉ reservedChars

instance (name : String) : Decidable (Unreserved name) :=
  List.decidableBAll (fun c => c ∉ reservedChars) name.toList

theorem isValidPathString_iff (path : String) :
    isValidPathString path = true ↔ path ≠ "" ∧ Unreserved path := by
  simp [isValidPathString, Unreserved, reservedChars]

theorem unreserved_append (front back : String) :
    Unreserved (front ++ back) ↔ Unreserved front ∧ Unreserved back := by
  unfold Unreserved
  rw [String.toList_append]
  exact List.forall_mem_append

theorem append_ne_empty {front : String} (hfront : front ≠ "")
    (back : String) : front ++ back ≠ "" := by
  intro hempty
  apply hfront
  have hlist := congrArg String.toList hempty
  rw [String.toList_append] at hlist
  exact String.toList_injective (List.append_eq_nil_iff.mp hlist).1

theorem isValidPathString_dataPath_iff (uid : String) :
    isValidPathString (dataPath uid) = true ↔ Unreserved uid := by
  have husers : Unreserved "users/" := by decide
  have hdata : Unreserved "/data" := by decide
  have hne : dataPath uid ≠ "" := by
    unfold dataPath
    rw [String.append_assoc]
    exact append_ne_empty (by decide) _
  rw [isValidPathString_iff, and_iff_right hne]
  unfold dataPath
  simp only [unreserved_append, husers, hdata, true_and, and_true]

theorem isValidPathString_directoryPath_iff
    (country state city area uid : String) :
    isValidPathString (directoryPath country state city area uid) = true ↔
      Unreserved country ∧ Unreserved state ∧ Unreserved city ∧
        Unreserved area ∧ Unreserved uid := by
  have hworkers : Unreserved "workers/" := by decide
  have hslash : Unreserved "/" := by decide
  have hne : directoryPath country state city area uid ≠ "" := by
    unfold directoryPath
    simp only [String.append_assoc]
    exact append_ne_empty (by decide) _
  rw [isValidPathString_iff, and_iff_right hne]
  unfold directoryPath
  simp only [unreserved_append, hworkers, hslash, true_and, and_true,
    and_assoc]

/-! ## The names in the path -/

/-- The path is cut into the names exactly if each of them is a piece. -/
theorem pieces_directoryPath_eq_iff
    (country state city area uid : String) :
    pieces (directoryPath country state city area uid) =
        ["workers", country, state, city, area, uid] ↔
      IsSegment country ∧ IsSegment state ∧ IsSegment city ∧
        IsSegment area ∧ IsSegment uid := by
  constructor
  · intro hpieces
    have hsegment : ∀ name ∈ ["workers", country, state, city, area, uid],
        IsSegment name := by
      intro name hmem
      rw [← hpieces] at hmem
      exact isSegment_of_mem_pieces hmem
    exact ⟨hsegment country (by simp), hsegment state (by simp),
      hsegment city (by simp), hsegment area (by simp),
      hsegment uid (by simp)⟩
  · rintro ⟨hcountry, hstate, hcity, harea, huid⟩
    rw [pieces_directoryPath, pieces_segment hcountry,
      pieces_segment hstate, pieces_segment hcity, pieces_segment harea,
      pieces_segment huid]
    rfl

theorem unreserved_toString_int (area : ℤ) :
    Unreserved (toString area) := by
  intro c hmem hreserved
  rcases mem_toString_int hmem with rfl | hdigit
  · exact absurd hreserved (by decide)
  · have hnone : reservedChars.all (fun c => !c.isDigit) = true := by
      decide
    have hother := List.all_eq_true.mp hnone c hreserved
    rw [hdigit] at hother
    cases hother

/-! ## Workers of the registration form -/

/-- A uid of the auth service: letters and digits, at least one. -/
structure AuthUid where
  text : String
  nonempty : text ≠ ""
  plain : text.toList.all (fun c => isLetter c || isDigit c) = true

theorem AuthUid.not_mem_of_neither (uid : AuthUid) {c : Char}
    (hneither : (isLetter c || isDigit c) = false) :
    c ∉ uid.text.toList := by
  intro hmem
  have hplain := List.all_eq_true.mp uid.plain c hmem
  rw [hneither] at hplain
  cases hplain

theorem AuthUid.isSegment (uid : AuthUid) : IsSegment uid.text :=
  ⟨uid.nonempty, uid.not_mem_of_neither (by decide)⟩

theorem AuthUid.unreserved (uid : AuthUid) : Unreserved uid.text := by
  have hreservedChars :
      reservedChars.all (fun c => !(isLetter c || isDigit c)) = true := by
    decide
  intro c hmem hreserved
  have hneither := List.all_eq_true.mp hreservedChars c hreserved
  rw [Bool.not_eq_true'] at hneither
  exact uid.not_mem_of_neither hneither hmem

/-- A worker whose location names a place. -/
structure Worker.Placed (worker : Worker) (location : Location)
    (country state city : String) (uid : AuthUid) : Prop where
  location_eq : worker.location = some location
  country_eq : location.country = some country
  state_eq : location.state = some state
  city_eq : location.city = some city
  uid_eq : worker.uid = some uid.text

/-- A name that stands in a path as a piece of its own. -/
def Listable (name : String) : Prop :=
  IsSegment name ∧ Unreserved name

instance (name : String) : Decidable (Listable name) :=
  inferInstanceAs (Decidable (_ ∧ _))

section Placed

variable {worker : Worker} {location : Location}
  {country state city : String} {uid : AuthUid}

theorem Worker.Placed.directoryPath_eq
    (hplaced : worker.Placed location country state city uid) (area : ℤ) :
    WorkerComplementController.workerDirectoryPath worker location area =
      directoryPath country state city (toString area) uid.text := by
  unfold WorkerComplementController.workerDirectoryPath
  rw [hplaced.country_eq, hplaced.state_eq, hplaced.city_eq, hplaced.uid_eq]
  rfl

/-- With no write failing for an outside reason, the answer is whether the
path of the directory is accepted. -/
theorem Worker.Placed.registerCompleteWorker_result
    (hplaced : worker.Placed location country state city uid)
    (form : Complement) {oracle : ℕ → Oracle} (hok : Unfailing oracle)
    (backend : Backend) (device : Device) :
    (App.run
      (WorkerComplementController.registerCompleteWorker (some worker) form)
      oracle backend device).1 =
      .ok (isValidPathString
        (WorkerComplementController.workerDirectoryPath worker location
          form.category.uid)) := by
  have hdata : isValidPathString (dataPath (interpolate worker.uid)) =
      true := by
    rw [hplaced.uid_eq]
    exact (isValidPathString_dataPath_iff _).mpr uid.unreserved
  rw [run_registerCompleteWorker form hplaced.location_eq]
  simp only [hok 1, hok 3, hdata, Bool.true_and]

/-- The path is accepted, is cut into the six names and the call succeeds
when nothing fails, exactly if the names of the place are not empty and have
neither a slash nor a reserved character. -/
theorem accepted_worker_listed_iff
    (hplaced : worker.Placed location country state city uid)
    (form : Complement) :
    (isValidPathString
          (WorkerComplementController.workerDirectoryPath worker location
            form.category.uid) = true ∧
        pieces
            (WorkerComplementController.workerDirectoryPath worker location
              form.category.uid) =
          ["workers", country, state, city, toString form.category.uid,
            uid.text] ∧
        ∀ oracle, Unfailing oracle → ∀ backend device,
          (App.run
            (WorkerComplementController.registerCompleteWorker (some worker)
              form) oracle backend device).1 = .ok true) ↔
      Listable country ∧ Listable state ∧ Listable city := by
  have harea := isSegment_toString form.category.uid
  have hplain := unreserved_toString_int form.category.uid
  have hvalid := isValidPathString_directoryPath_iff country state city
    (toString form.category.uid) uid.text
  have hpieces := pieces_directoryPath_eq_iff country state city
    (toString form.category.uid) uid.text
  rw [← hplaced.directoryPath_eq] at hvalid hpieces
  constructor
  · rintro ⟨haccepted, hcut, -⟩
    obtain ⟨hcountry, hstate, hcity, -⟩ := hpieces.mp hcut
    obtain ⟨hcountryChars, hstateChars, hcityChars, -⟩ :=
      hvalid.mp haccepted
    exact ⟨⟨hcountry, hcountryChars⟩, ⟨hstate, hstateChars⟩,
      ⟨hcity, hcityChars⟩⟩
  · rintro ⟨hcountry, hstate, hcity⟩
    have haccepted := hvalid.mpr
      ⟨hcountry.2, hstate.2, hcity.2, hplain, uid.unreserved⟩
    have hcut := hpieces.mpr
      ⟨hcountry.1, hstate.1, hcity.1, harea, uid.isSegment⟩
    refine ⟨haccepted, hcut, ?_⟩
    intro oracle hok backend device
    rw [hplaced.registerCompleteWorker_result form hok, haccepted]

end Placed

/-! ## Places offered where no worker can be listed -/

/-- The form can come to show this country, state and city as picked. -/
def Catalogue.Offers (catalogue : Catalogue)
    (country state city : String) : Prop :=
  country ∈ LocationController.getCountries catalogue ∧
    (∃ states,
      LocationController.getStates catalogue country = .ok states ∧
        state ∈ states) ∧
      ∃ cities,
        LocationController.getCities catalogue country state = .ok cities ∧
          city ∈ cities

/-- An excerpt of the file that is shipped. -/
def shippedPlaces : Catalogue where
  countries :=
    [("BR", [("Acre", ["Xapuri"])]),
      ("USA", [("Alaska", ["St. George"]), ("Kentucky", [""])])]
  countries_nodup := by decide
  states_nodup := by decide

def anaUid : AuthUid := ⟨"a1", by decide, by decide⟩

def bareForm : Complement :=
  { category := ⟨3, "AÇOUGUEIRO(A)"⟩, address := "Rua 1", description := ""
    creditCard := false, check := false, cash := true, homeCare := false
    freeBudget := false, whatsApp := "", instagram := "", facebook := "" }

def anaIn (country state city : String) : Worker :=
  SimpleRegisterController.newWorker "Ana Souza" "ana@folium.work" country
    city state ⟨1990, 5, 17, 0, 0, 0, 0, 0⟩ anaUid.text ""

theorem anaIn_placed (country state city : String) :
    (anaIn country state city).Placed
      (SimpleRegisterController.newLocation country city state)
      country state city anaUid :=
  ⟨rfl, rfl, rfl, rfl, rfl⟩

/-- St. George is offered, and no worker there can be listed although nothing
fails; the city without a name is offered, and its workers are listed under
five names. -/
theorem offered_places_not_listed :
    (shippedPlaces.Offers "USA" "Alaska" "St. George" ∧
        isValidPathString
            (WorkerComplementController.workerDirectoryPath
              (anaIn "USA" "Alaska" "St. George")
              (SimpleRegisterController.newLocation "USA" "St. George"
                "Alaska") 3) = false ∧
        (App.run
          (WorkerComplementController.registerCompleteWorker
            (some (anaIn "USA" "Alaska" "St. George")) bareForm)
          (fun _ => failingAt 1 0) Backend.empty Device.fresh).1 =
            .ok false) ∧
      (shippedPlaces.Offers "USA" "Kentucky" "" ∧
        pieces
            (WorkerComplementController.workerDirectoryPath
              (anaIn "USA" "Kentucky" "")
              (SimpleRegisterController.newLocation "USA" "" "Kentucky")
              3) =
          ["workers", "USA", "Kentucky", "3", "a1"]) := by
  have hdotted := (anaIn_placed "USA" "Alaska" "St. George").directoryPath_eq 3
  have hnameless := (anaIn_placed "USA" "Kentucky" "").directoryPath_eq 3
  have hrefused : isValidPathString
      (WorkerComplementController.workerDirectoryPath
        (anaIn "USA" "Alaska" "St. George")
        (SimpleRegisterController.newLocation "USA" "St. George" "Alaska")
        3) = false := by
    rw [hdotted]
    decide
  refine ⟨⟨?_, hrefused, ?_⟩, ?_, ?_⟩
  · exact ⟨by decide, ⟨["Alaska", "Kentucky"], rfl, by decide⟩,
      ["St. George"], rfl, by decide⟩
  · rw [(anaIn_placed _ _ _).registerCompleteWorker_result bareForm
      (fun _ => rfl)]
    exact congrArg Except.ok hrefused
  · exact ⟨by decide, ⟨["Alaska", "Kentucky"], rfl, by decide⟩, [""], rfl,
      by decide⟩
  · rw [hnameless]
    decide

theorem accepted_worker_listed_xapuri :
    (isValidPathString
          (WorkerComplementController.workerDirectoryPath
            (anaIn "BR" "Acre" "Xapuri")
            (SimpleRegisterController.newLocation "BR" "Xapuri" "Acre")
            bareForm.category.uid) = true ∧
        pieces
            (WorkerComplementController.workerDirectoryPath
              (anaIn "BR" "Acre" "Xapuri")
              (SimpleRegisterController.newLocation "BR" "Xapuri" "Acre")
              bareForm.category.uid) =
          ["workers", "BR", "Acre", "Xapuri", toString bareForm.category.uid,
            anaUid.text] ∧
        ∀ oracle, Unfailing oracle → ∀ backend device,
          (App.run
            (WorkerComplementController.registerCompleteWorker
              (some (anaIn "BR" "Acre" "Xapuri")) bareForm) oracle backend
            device).1 = .ok true) ↔
      Listable "BR" ∧ Listable "Acre" ∧ Listable "Xapuri" :=
  accepted_worker_listed_iff (anaIn_placed "BR" "Acre" "Xapuri") bareForm

end FoliumApp
