import FoliumApp.ProgramTraces
import FoliumApp.Screens

/-!
# The password reaches only the auth service

A user, a client and a worker have a password field, and their encoders write
it to the database.  Two registrations whose forms differ in nothing but the
password are run beside each other: they ask alike but for the password given
to the auth service, so what they write and upload and what they leave in the
session is the same.
-/

namespace FoliumApp

open PathTree AsyncProgram

/-! ## Two registrations -/

/-- The requests are the same, but for the password of a new account. -/
def Request.AlikeButPassword : Request → Request → Prop
  | .createUserWithEmailAndPassword email _,
      .createUserWithEmailAndPassword email' _ => email = email'
  | request, request' => request = request'

theorem Request.AlikeButPassword.refl (request : Request) :
    request.AlikeButPassword request := by
  cases request <;> rfl

/-- The forms differ in nothing but the password and its repetition. -/
def RegisterForm.SameButPassword (form form' : RegisterForm) : Prop :=
  ∃ password confirmPassword,
    form' = { form with password, confirmPassword }

/-- The two checks of `btnRegisterClicked` on the password. -/
def RegisterForm.passwordAccepted (form : RegisterForm) : Bool :=
  6 ≤ utf16Length (trim form.password) &&
    form.password = form.confirmPassword

/-- The registration of a client, or of a worker with the completion of the
profile. -/
def registration (typeUser : TypeUser) (form : RegisterForm)
    (agrees : Option Selection) (complement : Complement) : App Unit := do
  SimpleRegister.btnRegisterClicked typeUser form agrees
  match typeUser with
  | .cliente => return
  | .trabalhador => WorkerComplement.finishComplement complement

abbrev AppEntry := Entry Request Request.Answer DartError Device

/-- A write to the database: its path, its contents and whether it was
made. -/
def writeOf : AppEntry → Option (String × Json × Bool)
  | ⟨.set path value, answer, _⟩ => some (path, value, answer.isOk)
  | ⟨.remove path, answer, _⟩ => some (path, .null, answer.isOk)
  | _ => none

def uploadOf : AppEntry → Option (String × File × Bool)
  | ⟨.putFile path file, answer, _⟩ => some (path, file, answer.isOk)
  | _ => none

/-- A run of a program of the app, whatever the services answer. -/
abbrev AppRuns (program : App α) (device : Device) (trace : List AppEntry)
    (result : Except DartError α) (last : Device) : Prop :=
  Async.Runs (fun device request => request.Outcome device) program device
    trace result last

/-- The clock and the remote calls answer alike, and the auth service signs
in alike, as far as both runs go. -/
abbrev AnsweredAlike (trace trace' : List AppEntry) : Prop :=
  Async.AnsweredAlike
    (fun device device' => device.signedIn = device'.signedIn) trace trace'

/-! ## The programs are coupled -/

abbrev Coupled (program program' : App α) : Prop :=
  Async.Coupled Request.AlikeButPassword program program'

theorem coupled_registerUser (email password password' : String)
    (profilePicture : Option File) :
    Coupled
      (SimpleRegisterController.registerUser email password profilePicture)
      (SimpleRegisterController.registerUser email password'
        profilePicture) := by
  have hcreate :
      Coupled (SimpleRegisterController.createUid email password)
        (SimpleRegisterController.createUid email password') := by
    unfold SimpleRegisterController.createUid
      FirebaseAuth.createUserWithEmailAndPassword
    simp only [Async.request_bind]
    refine Async.Coupled.await ?_ ?_
    · exact rfl
    · intro answer answer' hanswer
      obtain rfl := eq_of_heq hanswer
      exact Async.Coupled.refl _
  apply Async.Coupled.tryCatch
  apply hcreate.bind Request.AlikeButPassword.refl
  intro uid
  exact Async.Coupled.refl _

theorem Coupled.bind {program program' : App α}
    (hprogram : Coupled program program') (next : α → App β) :
    Coupled (program >>= next) (program' >>= next) :=
  Async.Coupled.bind Request.AlikeButPassword.refl hprogram
    (fun _ => Async.Coupled.refl _)

theorem Coupled.bind_right (program : App α) {next next' : α → App β}
    (hnext : ∀ value, Coupled (next value) (next' value)) :
    Coupled (program >>= next) (program >>= next') :=
  Async.Coupled.bind_right Request.AlikeButPassword.refl program hnext

theorem Coupled.ite {condition : Prop} [Decidable condition]
    {program program' other other' : App α}
    (hprogram : Coupled program program') (hother : Coupled other other') :
    Coupled (if condition then program else other)
      (if condition then program' else other') := by
  split_ifs
  · exact hprogram
  · exact hother

section Forms

variable (form : RegisterForm) (password confirmPassword : String)

theorem coupled_registerAccount (typeUser : TypeUser) (date : DateTime) :
    Coupled (SimpleRegister.registerAccount typeUser form date)
      (SimpleRegister.registerAccount typeUser
        { form with password, confirmPassword } date) := by
  unfold SimpleRegister.registerAccount
  exact (coupled_registerUser form.email form.password password
    form.image).bind _

theorem coupled_agree (typeUser : TypeUser) (date : DateTime) :
    Coupled (SimpleRegister.agree typeUser form date)
      (SimpleRegister.agree typeUser
        { form with password, confirmPassword } date) := by
  unfold SimpleRegister.agree
  apply Coupled.bind_right
  intro _
  exact (coupled_registerAccount form password confirmPassword typeUser
    date).bind _

theorem coupled_btnRegisterClicked (typeUser : TypeUser)
    (agrees : Option Selection)
    (haccepted : form.passwordAccepted = true)
    (haccepted' :
      RegisterForm.passwordAccepted
        { form with password, confirmPassword } = true) :
    Coupled (SimpleRegister.btnRegisterClicked typeUser form agrees)
      (SimpleRegister.btnRegisterClicked typeUser
        { form with password, confirmPassword } agrees) := by
  simp only [RegisterForm.passwordAccepted, Bool.and_eq_true,
    decide_eq_true_eq] at haccepted haccepted'
  obtain ⟨hlength, hequal⟩ := haccepted
  obtain ⟨hlength', hequal'⟩ := haccepted'
  unfold SimpleRegister.btnRegisterClicked
  simp only [if_neg (not_lt.mpr hlength), if_neg (not_lt.mpr hlength'),
    if_neg (not_not.mpr hequal), if_neg (not_not.mpr hequal')]
  apply Coupled.ite (Async.Coupled.refl _)
  apply Coupled.ite (Async.Coupled.refl _)
  cases form.date with
  | none => exact Async.Coupled.refl _
  | some date =>
      apply Coupled.bind_right
      intro refused
      apply Coupled.ite (Async.Coupled.refl _)
      apply Coupled.ite (Async.Coupled.refl _)
      apply Coupled.ite (Async.Coupled.refl _)
      apply Coupled.ite (Async.Coupled.refl _)
      cases agrees with
      | none => exact Async.Coupled.refl _
      | some held =>
          exact coupled_agree (form.holding held) password confirmPassword
            typeUser date

end Forms

/-! ## Two runs -/

theorem Request.AlikeButPassword.eq_or_create {request request' : Request}
    (halike : request.AlikeButPassword request') :
    request = request' ∨
      ∃ email password password',
        request = .createUserWithEmailAndPassword email password ∧
          request' = .createUserWithEmailAndPassword email password' := by
  unfold Request.AlikeButPassword at halike
  split at halike
  next email password email' password' =>
    subst halike
    exact Or.inr ⟨email, password, password', rfl, rfl⟩
  next => exact Or.inl halike

/-- What a request leaves behind is settled by its answer and the account
signed in. -/
theorem outcome_settled {device next next' : Device} {request : Request}
    {answer : Except DartError request.Answer}
    (houtcome : request.Outcome device answer next)
    (houtcome' : request.Outcome device answer next')
    (hsigned : next.signedIn = next'.signedIn) : next = next' := by
  cases request with
  | signInWithEmailAndPassword email password =>
      cases answer with
      | ok value =>
          obtain ⟨uid, rfl⟩ := houtcome
          obtain ⟨uid', rfl⟩ := houtcome'
          simp only [Option.some.injEq] at hsigned
          rw [hsigned]
      | error error => exact houtcome.trans houtcome'.symm
  | getSession => exact houtcome.2.trans houtcome'.2.symm
  | setSession user => exact houtcome.2.trans houtcome'.2.symm
  | navigate navigation => exact houtcome.2.trans houtcome'.2.symm
  | setLoad load => exact houtcome.2.trans houtcome'.2.symm
  | showSnackBar text => exact houtcome.2.trans houtcome'.2.symm
  | currentUser =>
      cases answer with
      | ok user => exact houtcome.2.trans houtcome'.2.symm
      | error error => exact houtcome.trans houtcome'.symm
  | createUserWithEmailAndPassword email password =>
      cases answer with
      | ok uid => exact houtcome.trans houtcome'.symm
      | error error => exact houtcome.trans houtcome'.symm
  | signOut =>
      cases answer with
      | ok value => exact houtcome.trans houtcome'.symm
      | error error => exact houtcome.trans houtcome'.symm
  | _ => exact houtcome.trans houtcome'.symm

theorem outcome_settled_alike {device next next' : Device}
    {request request' : Request}
    {answer : Except DartError request.Answer}
    {answer' : Except DartError request'.Answer}
    (halike : request.AlikeButPassword request')
    (hanswer : HEq answer answer')
    (houtcome : request.Outcome device answer next)
    (houtcome' : request'.Outcome device answer' next')
    (hsigned : next.signedIn = next'.signedIn) : next = next' := by
  rcases halike.eq_or_create with rfl | ⟨email, password, password', rfl, rfl⟩
  · obtain rfl := eq_of_heq hanswer
    exact outcome_settled houtcome houtcome' hsigned
  · obtain rfl := eq_of_heq hanswer
    cases answer with
    | ok uid => exact houtcome.trans houtcome'.symm
    | error error => exact houtcome.trans houtcome'.symm

/-- Alike entries show the same write and the same upload. -/
theorem writeOf_uploadOf_alike {entry entry' : AppEntry}
    (halike : Async.Entry.Alike Request.AlikeButPassword entry entry') :
    writeOf entry = writeOf entry' ∧ uploadOf entry = uploadOf entry' := by
  obtain ⟨request, answer, device⟩ := entry
  obtain ⟨request', answer', device'⟩ := entry'
  obtain ⟨hrequest, hanswer⟩ := halike
  rcases hrequest.eq_or_create with
    heq | ⟨email, password, password', hleft, hright⟩
  · simp only at heq hanswer
    subst heq
    obtain rfl := eq_of_heq hanswer
    cases request with
    | _ => exact ⟨rfl, rfl⟩
  · simp only at hleft hright
    subst hleft hright
    exact ⟨rfl, rfl⟩

theorem filterMap_eq_of_forall₂ {trace trace' : List AppEntry}
    (halike : List.Forall₂ (Async.Entry.Alike Request.AlikeButPassword)
      trace trace') :
    trace.filterMap writeOf = trace'.filterMap writeOf ∧
      trace.filterMap uploadOf = trace'.filterMap uploadOf := by
  induction halike with
  | nil => exact ⟨rfl, rfl⟩
  | cons hentry _ ih =>
      obtain ⟨hwrite, hupload⟩ := writeOf_uploadOf_alike hentry
      simp only [List.filterMap_cons, hwrite, hupload, ih.1, ih.2]
      exact ⟨trivial, trivial⟩

/-- Two runs of a registration whose forms differ in nothing but the
password, both accepted, and that are answered alike: the writes to the
database, the uploads and the session they end with are the same. -/
theorem password_reaches_only_auth
    {typeUser : TypeUser} {form form' : RegisterForm}
    {agrees : Option Selection} {complement : Complement}
    {device last last' : Device} {trace trace' : List AppEntry}
    {result result' : Except DartError Unit}
    (hforms : form.SameButPassword form')
    (haccepted : form.passwordAccepted = true)
    (haccepted' : form'.passwordAccepted = true)
    (hruns : AppRuns (registration typeUser form agrees complement) device
      trace result last)
    (hruns' : AppRuns (registration typeUser form' agrees complement) device
      trace' result' last')
    (hanswers : AnsweredAlike trace trace') :
    trace.filterMap writeOf = trace'.filterMap writeOf ∧
      trace.filterMap uploadOf = trace'.filterMap uploadOf ∧
      last.currentUser = last'.currentUser := by
  obtain ⟨password, confirmPassword, rfl⟩ := hforms
  have hcoupled :
      Coupled (registration typeUser form agrees complement)
        (registration typeUser { form with password, confirmPassword }
          agrees complement) :=
    (coupled_btnRegisterClicked form password confirmPassword typeUser
      agrees haccepted haccepted').bind _
  obtain ⟨htraces, -, hlast⟩ :=
    Async.Coupled.runs Request.AlikeButPassword.refl
      (fun _ _ _ _ _ _ _ halike hanswer => outcome_settled_alike halike
        hanswer)
      hcoupled hruns hruns' hanswers
  obtain ⟨hwrites, huploads⟩ := filterMap_eq_of_forall₂ htraces
  exact ⟨hwrites, huploads, by rw [hlast]⟩

/-- Running a program of the app on its own is one of its runs. -/
def App.trace (program : App α) (oracle : ℕ → Oracle) (backend : Backend)
    (device : Device) : List AppEntry :=
  Async.traceOf
    (fun request oracle (state : Backend × Device) =>
      request.exec oracle state.1 state.2)
    Prod.snd program oracle (backend, device)

theorem appRuns_run (program : App α) (oracle : ℕ → Oracle)
    (backend : Backend) (device : Device) :
    AppRuns program device (App.trace program oracle backend device)
      (App.run program oracle backend device).1
      (App.run program oracle backend device).2.2 :=
  Async.runs_run
    (fun request oracle state =>
      Request.exec_outcome request oracle state.1 state.2)
    program oracle (backend, device)

def workerForm : RegisterForm := registerForm "Ana Souza" "ana@folium.work"

def otherPassword : RegisterForm :=
  { workerForm with password := "hunter2", confirmPassword := "hunter2" }

def workerTrace (form : RegisterForm) : List AppEntry :=
  App.trace (registration .trabalhador form (some xapuri) complementForm)
    (failingAt 20) Backend.empty Device.fresh

theorem password_reaches_only_auth_workerForm :
    (workerTrace workerForm).filterMap writeOf =
      (workerTrace otherPassword).filterMap writeOf ∧
    ((workerTrace workerForm).filterMap writeOf).length = 2 := by
  have hanswers :
      AnsweredAlike (workerTrace workerForm) (workerTrace otherPassword) :=
    ⟨HEq.rfl, rfl, HEq.rfl, rfl, HEq.rfl, rfl, HEq.rfl, rfl, HEq.rfl, rfl,
      HEq.rfl, rfl, HEq.rfl, rfl, HEq.rfl, rfl, HEq.rfl, rfl, HEq.rfl, rfl,
      HEq.rfl, rfl, HEq.rfl, rfl, HEq.rfl, rfl, trivial⟩
  have hequal := password_reaches_only_auth
    ⟨"hunter2", "hunter2", rfl⟩ (by decide) (by decide)
    (appRuns_run
      (registration .trabalhador workerForm (some xapuri) complementForm)
      (failingAt 20) Backend.empty Device.fresh)
    (appRuns_run
      (registration .trabalhador otherPassword (some xapuri) complementForm)
      (failingAt 20) Backend.empty Device.fresh) hanswers
  exact ⟨hequal.1, by decide +kernel⟩

end FoliumApp
