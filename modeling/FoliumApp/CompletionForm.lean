import FoliumApp.CallSequences
import FoliumApp.ProfileRoundTrip
import FoliumApp.RoleChoices
import FoliumApp.Screens

/-!
# From the completion form to the profile read back

The state of the completion form is handed to `registerCompleteWorker` by
position, stored by key and decoded by key on a later login.  Every value
arrives where it belongs, and what the form's guards ask for holds of the
worker that comes back.
-/

namespace FoliumApp

open PathTree AsyncProgram CallSequences

/-! ## The form -/

/-- What the screen holds; the texts are those of its controllers. -/
structure ComplementForm where
  categorySelected : Category
  address : String
  description : String
  instagram : String
  whatsApp : String
  facebook : String
  valueCreditCard : Bool
  valueCheck : Bool
  valueCash : Bool
  valueHomeCare : Bool
  valueFreeBudget : Bool

inductive ComplementEvent where
  | tapCategory (category : Category)
  | changeValueCreditCard (value : Bool)
  | changeValueCheck (value : Bool)
  | changeValueMoney (value : Bool)
  | changeHomeCare (value : Bool)
  | changeFreeBudget (value : Bool)
  | editAddress (text : String)
  | editDescription (text : String)
  | editInstagram (text : String)
  | editWhatsApp (text : String)
  | editFacebook (text : String)

namespace ComplementForm

/-- `initState` -/
def initial : ComplementForm :=
  { categorySelected := ⟨-1, "SELECIONAR PROFISSÃO"⟩
    address := "", description := "", instagram := "", whatsApp := ""
    facebook := "", valueCreditCard := false, valueCheck := false
    valueCash := false, valueHomeCare := false, valueFreeBudget := false }

/-- One event; the sheet offers the categories of the catalogue. -/
def step (categories : List Category) (form : ComplementForm) :
    ComplementEvent → Option ComplementForm
  | .tapCategory category =>
      if category ∈ categories then
        some { form with categorySelected := category }
      else none
  | .changeValueCreditCard value =>
      some { form with valueCreditCard := value }
  | .changeValueCheck value => some { form with valueCheck := value }
  | .changeValueMoney value => some { form with valueCash := value }
  | .changeHomeCare value => some { form with valueHomeCare := value }
  | .changeFreeBudget value => some { form with valueFreeBudget := value }
  | .editAddress text => some { form with address := text }
  | .editDescription text => some { form with description := text }
  | .editInstagram text => some { form with instagram := text }
  | .editWhatsApp text => some { form with whatsApp := text }
  | .editFacebook text => some { form with facebook := text }

/-- The arguments of the call, in the order of the call. -/
def arguments (form : ComplementForm) : Complement :=
  ⟨form.categorySelected, form.address, form.description,
    form.valueCreditCard, form.valueCheck, form.valueCash,
    form.valueHomeCare, form.valueFreeBudget, form.whatsApp,
    form.instagram, form.facebook⟩

end ComplementForm

def tapped (last : Option Category) : ComplementEvent → Option Category
  | .tapCategory category => some category
  | _ => last

def lastTapped (events : List ComplementEvent) : Option Category :=
  after tapped none events

/-- The category shown is the last one tapped, or the sentinel. -/
def Shows (form : ComplementForm) (last : Option Category) : Prop :=
  form.categorySelected =
    last.getD ComplementForm.initial.categorySelected

theorem Shows.step {categories : List Category}
    {form next : ComplementForm} {last : Option Category}
    {event : ComplementEvent} (hshows : Shows form last)
    (hstep : form.step categories event = some next) :
    Shows next (tapped last event) := by
  cases event with
  | tapCategory category =>
      simp only [ComplementForm.step] at hstep
      split_ifs at hstep
      cases hstep
      rfl
  | _ =>
      cases hstep
      exact hshows

theorem shows_lastTapped {categories : List Category}
    {form : ComplementForm} (events : List ComplementEvent)
    (hrun : run (ComplementForm.step categories) ComplementForm.initial
      events = some form) :
    Shows form (lastTapped events) := by
  have hinitial : Shows ComplementForm.initial none := rfl
  exact run_simulates
    (fun _ _ _ _ hshows _ hstep => hshows.step hstep) hinitial events
    (eachAllowed_of_forall (fun _ _ => trivial) _ _) hrun

/-! ## The worker that comes back -/

/-- Every value of the form stands in the worker under its own name, and the
place of the session's worker is kept. -/
structure Carries (form : ComplementForm) (area : ℤ) (session : Location)
    (worker : Worker) : Prop where
  occupation : worker.occupation =
    some { area := some area, description := some form.description }
  attendance : worker.attendance =
    some
      { cash := some form.valueCash, check := some form.valueCheck
        creditCard := some form.valueCreditCard
        homeCare := some form.valueHomeCare
        freeBudget := some form.valueFreeBudget }
  social : worker.social =
    some
      { facebook := some form.facebook, instagram := some form.instagram
        whatsApp := some form.whatsApp, link := some "" }
  location : worker.location =
    some
      { country := session.country, state := session.state
        city := session.city, address := some form.address
        latitude := none, longitude := none }

/-- What the guards ask for. -/
structure Acceptable (form : ComplementForm) (area : ℤ) : Prop where
  payment :
    (form.valueCash || form.valueCheck || form.valueCreditCard) = true
  area : area ≠ -1
  address : 5 ≤ utf16Length (trim form.address)

theorem acceptable_of_refusal {form : ComplementForm}
    (hguards : WorkerComplement.refusal form.arguments = none) :
    Acceptable form form.categorySelected.uid := by
  unfold WorkerComplement.refusal at hguards
  split_ifs at hguards with hpayment harea haddress
  refine ⟨?_, harea, not_lt.mp haddress⟩
  simp only [ComplementForm.arguments, Bool.and_eq_true,
    Bool.not_eq_true', not_and, Bool.not_eq_false] at hpayment
  cases hcash : form.valueCash with
  | true => rfl
  | false =>
      cases hcard : form.valueCreditCard with
      | true => simp
      | false => simp [hpayment ⟨hcard, hcash⟩]

/-- The call the form makes, with the controller's worker taken from the
session. -/
def completeFrom (form : ComplementForm) : App Bool := do
  let worker ← LoginController.getCurrentWorker
  WorkerComplementController.registerCompleteWorker worker form.arguments

section Stored

variable {form : ComplementForm} {worker : Worker} {uid : Segment}
  {oracle : ℕ → Oracle} {backend backend' : Backend}
  {device device' : Device}

theorem run_completeFrom
    (hsession : device.currentUser = some (.worker worker)) :
    App.run (completeFrom form) oracle backend device =
      App.run
        (WorkerComplementController.registerCompleteWorker (some worker)
          form.arguments)
        (fun index => oracle (index + 1)) backend device := by
  unfold completeFrom LoginController.getCurrentWorker
  simp only [Async.request_bind, Async.await_bind, App.run_await,
    Request.exec, hsession, Async.ofExcept, Async.done_bind,
    LoginController.asWorker]

/-- When both writes are made, the record is the completed profile: the
entry of the directory lies elsewhere. -/
theorem read_of_completeFrom
    (hsession : device.currentUser = some (.worker worker))
    (huid : worker.uid = some uid.val)
    (hwritten : App.run (completeFrom form) oracle backend device =
      (.ok true, backend', device')) :
    ∃ location, worker.location = some location ∧
      backend'.read (dataPath uid.val) =
        (completedProfile worker location form.arguments).prune := by
  rw [run_completeFrom hsession] at hwritten
  cases hlocation : worker.location with
  | none =>
      unfold WorkerComplementController.registerCompleteWorker at hwritten
      simp only [nonNull, Async.ofExcept, Async.done_bind, hlocation,
        Async.raise_bind, App.run_raise] at hwritten
      cases congrArg Prod.fst hwritten
  | some location =>
      refine ⟨location, rfl, ?_⟩
      rw [run_registerCompleteWorker _ hlocation, huid] at hwritten
      simp only [Prod.mk.injEq, Except.ok.injEq, Bool.and_eq_true]
        at hwritten
      obtain ⟨⟨⟨hdata, hdataPath⟩, hentry, hentryPath⟩, hbackend, -⟩ :=
        hwritten
      subst hbackend
      simp only [hdata, hdataPath, hentry, hentryPath, and_self, if_true]
      unfold WorkerComplementController.workerDirectoryPath
      rw [Backend.read_write_of_apart _
        (apart_directoryPath_dataPath _ _ _ _ _ _)]
      exact Backend.read_write _ _ _

/-- After a completion whose two writes were made, a later role choice for
the uid finds the form's values in the worker it installs, as long as the
record is the one written. -/
theorem completion_form_survives
    (categories : List Category) (events : List ComplementEvent)
    (hrun : run (ComplementForm.step categories) ComplementForm.initial
      events = some form)
    (hguards : WorkerComplement.refusal form.arguments = none)
    (hsession : device.currentUser = some (.worker worker))
    (huid : worker.uid = some uid.val)
    (hwritten : App.run (completeFrom form) oracle backend device =
      (.ok true, backend', device'))
    {later : Backend} {laterOracle : ℕ → Oracle} {laterDevice : Device}
    (hrecord : later.read (dataPath uid.val) =
      backend'.read (dataPath uid.val))
    (hread : RecordRead laterOracle laterDevice uid)
    (success : Bool → App Unit)
    (hreturns : ReturnsNormally (success true)) :
    ∃ category location installed,
      lastTapped events = some category ∧
      worker.location = some location ∧
      App.run (UserChoiceController.workerChoice success) laterOracle later
          laterDevice =
        App.run (success true) (fun index => laterOracle (index + 3)) later
          { laterDevice with currentUser := some (.worker installed) } ∧
      Carries form category.uid location installed ∧
      Acceptable form category.uid := by
  obtain ⟨location, hlocation, hstored⟩ :=
    read_of_completeFrom hsession huid hwritten
  have hacceptable := acceptable_of_refusal hguards
  have hselected := shows_lastTapped events hrun
  cases hlast : lastTapped events with
  | none =>
      rw [hlast] at hselected
      rw [hselected] at hacceptable
      exact absurd rfl hacceptable.area
  | some category =>
      rw [hlast] at hselected
      change form.categorySelected = category at hselected
      subst hselected
      have hdecoded :=
        completedProfile_decoded worker location form.arguments
      rw [← hstored, ← hrecord] at hdecoded
      exact ⟨form.categorySelected, location, _, rfl, hlocation,
        workerChoice_of_ok hread hdecoded hreturns, ⟨rfl, rfl, rfl, rfl⟩,
        hacceptable⟩

end Stored

def plumber : Category := ⟨7, "Encanador"⟩

def fillForm : List ComplementEvent :=
  [.tapCategory ⟨3, "Pintor"⟩, .editAddress "Rua do Comércio 10",
    .changeValueMoney true, .tapCategory plumber,
    .editWhatsApp "68999990000"]

/-- The worker a registration leaves in the session. -/
def sessionWorker : Worker :=
  SimpleRegisterController.newWorker "Ana Souza" "ana@folium.work" "Brasil"
    "Xapuri" "Acre" ⟨1990, 5, 17, 0, 0, 0, 0, 0⟩ firstUid.val ""

def completingDevice : Device :=
  { signedInDevice with currentUser := some (.worker sessionWorker) }

theorem completion_form_survives_fillForm :
    ∃ form backend' device' installed,
      run (ComplementForm.step [⟨3, "Pintor"⟩, plumber])
          ComplementForm.initial fillForm = some form ∧
      App.run (completeFrom form) (failingAt 9) Backend.empty
          completingDevice = (.ok true, backend', device') ∧
      App.run (UserChoiceController.workerChoice fun _ => pure ())
          (failingAt 9) backend' signedInDevice =
        (.ok (), backend',
          { signedInDevice with
            currentUser := some (.worker installed) }) ∧
      Carries form 7
        (SimpleRegisterController.newLocation "Brasil" "Xapuri" "Acre")
        installed := by
  have hrun : ∃ form,
      run (ComplementForm.step [⟨3, "Pintor"⟩, plumber])
        ComplementForm.initial fillForm = some form ∧
      WorkerComplement.refusal form.arguments = none ∧
      form.arguments.category.uid = 7 := by
    refine ⟨_, rfl, ?_⟩
    decide +kernel
  obtain ⟨form, hrun, hguards, harea⟩ := hrun
  have hwritten : ∃ backend' device',
      App.run (completeFrom form) (failingAt 9) Backend.empty
        completingDevice = (.ok true, backend', device') := by
    rw [run_completeFrom rfl, run_registerCompleteWorker _ rfl, harea]
    exact ⟨_, _, rfl⟩
  obtain ⟨backend', device', hwritten⟩ := hwritten
  obtain ⟨category, location, installed, hlast, hlocation, hchoice,
    hcarries, -⟩ :=
    completion_form_survives [⟨3, "Pintor"⟩, plumber] fillForm hrun hguards
      rfl rfl hwritten rfl recordRead_signedInDevice (fun _ => pure ())
      (fun _ _ _ => rfl)
  cases hlast
  cases hlocation
  exact ⟨form, backend', device', installed, hrun, hwritten, hchoice,
    hcarries⟩

end FoliumApp
