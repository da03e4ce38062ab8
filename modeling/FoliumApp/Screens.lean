import FoliumApp.Controllers

/-!
# The screens and the running app

The handlers of `lib/views` as programs, and the app as a machine: on every
device the user acts on the screen on top, and the requests of different
devices interleave.  A screen that shows its loading content offers nothing
but going back, and a home screen nothing at all until the picture of its user
has loaded.

One handler runs at a time on a device.  The app does not see to that: while a
handler waits for an answer the screen can still be left or, where it shows no
loading content, tapped again.  It is the users who are taken to wait, in
every result over runs of the app.
-/

namespace FoliumApp

open PathTree AsyncProgram

/-! ## Home and login -/

def Home.check : App Unit := do
  let signedIn ← LoginController.checkUserLogged
  if signedIn then Navigator.navigate (.pushReplacement .userChoice)

def launch : App Unit := do
  Navigator.navigate (.push .home)
  Home.check

def Login.login (email password : String) : App Unit := do
  setLoad true
  let result ← LoginController.login email password
  if result then
    setLoad false
    Navigator.navigate (.pushAndRemoveUntil .userChoice)
  else
    setLoad false
    showSnackBar "Email ou senha incorretos"

/-! ## Registration -/

/-- The contents of the registration form. -/
structure RegisterForm where
  name : String
  email : String
  password : String
  confirmPassword : String
  date : Option DateTime
  selectedCountry : String
  selectedState : String
  selectedCity : String
  image : Option File

/-- What the three menus hold. -/
structure Selection where
  country : String
  state : String
  city : String

/-- The same form when its menus hold something else. -/
def RegisterForm.holding (form : RegisterForm) (held : Selection) :
    RegisterForm :=
  { form with
    selectedCountry := held.country
    selectedState := held.state
    selectedCity := held.city }

namespace SimpleRegister

def countryPlaceholder : String := "SELECIONE O SEU PAÍS"

def statePlaceholder : String := "SELECIONE O SEU ESTADO"

def cityPlaceholder : String := "SELECIONE SUA CIDADE"

/-- `^[a-zA-Z0-9.]+@[a-zA-Z0-9]+\.[a-zA-Z]+` -/
def emailPattern : List PatternItem :=
  [.many fun c => isLetter c || isDigit c || c = '.',
    .one fun c => c = '@',
    .many fun c => isLetter c || isDigit c,
    .one fun c => c = '.',
    .many isLetter]

/-- The age guard; the clock is read once for each bound. -/
def ageRefused (date : DateTime) : App Bool := do
  let first ← DateTime.now
  if first.differenceInDays date / 365 < 18 then return true
  else
    let second ← DateTime.now
    return date.differenceInDays second / 365 > 70

theorem onlyReads_ageRefused (date : DateTime) :
    App.OnlyReads (ageRefused date) := by
  apply Async.Keeps.bind (Async.asksOnly_request .now)
  intro first _
  split_ifs
  · exact Async.keeps_done trivial
  · apply Async.Keeps.bind (Async.asksOnly_request .now)
    intro second _
    exact Async.keeps_done trivial

/-- The calls made once the terms are accepted, down to the success flag the
screen looks at. -/
def registerAccount (typeUser : TypeUser) (form : RegisterForm)
    (date : DateTime) : App Bool := do
  let user ←
    SimpleRegisterController.registerUser form.email form.password
      form.image
  if user.result then
    match typeUser with
    | .cliente =>
        let profile ←
          SimpleRegisterController.registerClient form.name form.email
            form.selectedCountry form.selectedCity form.selectedState date
            user.uid user.imageUrl
        return profile.result
    | .trabalhador =>
        let profile ←
          SimpleRegisterController.registerWorker form.name form.email
            form.selectedCountry form.selectedCity form.selectedState date
            user.uid user.imageUrl
        return profile.result
  else return false

/-- The callback of the terms dialog. -/
def agree (typeUser : TypeUser) (form : RegisterForm) (date : DateTime) :
    App Unit := do
  setLoad true
  let result ← registerAccount typeUser form date
  if result then
    match typeUser with
    | .cliente => Navigator.navigate (.pushAndRemoveUntil .mainClient)
    | .trabalhador => Navigator.navigate (.push .workerComplement)
  else showSnackBar "Erro"

/-- The button, followed by the user's answer to the terms dialog.  Nothing
can be entered while the dialog is open, but the menu loads go on, and the
callback reads the selections again, after the account has been created:
`agrees` is what the menus hold at that moment. -/
def btnRegisterClicked (typeUser : TypeUser) (form : RegisterForm)
    (agrees : Option Selection) : App Unit := do
  if utf16Length (trim form.name) < 6 then
    showSnackBar "Digite o seu nome completo"
  else if !matchesFrom emailPattern form.email.toList then
    showSnackBar "Email inválido"
  else if utf16Length (trim form.password) < 6 then
    showSnackBar "Senha deve conter mais de 6 dígitos"
  else if form.password ≠ form.confirmPassword then
    showSnackBar "Senhas não coincidem"
  else
    match form.date with
    | none => showSnackBar "Data de nascimento não fornecida"
    | some date =>
        let refused ← ageRefused date
        if refused then
          showSnackBar
            "A aplicação é restrita apenas para maiores de 18 anos e menores de 70 anos"
        else if form.selectedCountry = countryPlaceholder then
          showSnackBar "País não selecionado"
        else if form.selectedState = statePlaceholder then
          showSnackBar "Estado não selecionado"
        else if form.selectedCity = cityPlaceholder then
          showSnackBar "Cidade não selecionada"
        else
          match agrees with
          | some held => agree typeUser (form.holding held) date
          | none => return

/-- What the text fields have been checked for when the terms are shown. -/
structure Entered (form : RegisterForm) : Prop where
  name : 6 ≤ utf16Length (trim form.name)
  email : matchesFrom emailPattern form.email.toList = true
  password : 6 ≤ utf16Length (trim form.password)
  confirmed : form.password = form.confirmPassword

theorem Entered.holding {form : RegisterForm} (hentered : Entered form)
    (held : Selection) : Entered (form.holding held) :=
  ⟨hentered.name, hentered.email, hentered.password, hentered.confirmed⟩

/-- With the selections, as they are when the terms are shown. -/
structure Passes (form : RegisterForm) : Prop extends Entered form where
  country : form.selectedCountry ≠ countryPlaceholder
  state : form.selectedState ≠ statePlaceholder
  city : form.selectedCity ≠ cityPlaceholder

/-- What holds of every message, of the age guard before what follows it and
of the calls made for a form that passes holds of the button. -/
theorem btnRegisterClicked_rule_of_passes {typeUser : TypeUser}
    {form : RegisterForm} {agrees : Option Selection}
    {motive : App Unit → Prop} (hmessage : ∀ text, motive (showSnackBar text))
    (hrefused : motive (pure ()))
    (hage : ∀ (date : DateTime) (next : Bool → App Unit),
      (∀ refused, motive (next refused)) → motive (ageRefused date >>= next))
    (hagree : Passes form → ∀ held, agrees = some held → ∀ date,
      motive (agree typeUser (form.holding held) date)) :
    motive (btnRegisterClicked typeUser form agrees) := by
  unfold btnRegisterClicked
  split
  · exact hmessage _
  next hname =>
  split
  · exact hmessage _
  next hemail =>
  split
  · exact hmessage _
  next hpassword =>
  split
  · exact hmessage _
  next hconfirmed =>
  cases form.date with
  | none => exact hmessage _
  | some date =>
      apply hage
      intro refused
      split
      · exact hmessage _
      split
      · exact hmessage _
      next hcountry =>
      split
      · exact hmessage _
      next hstate =>
      split
      · exact hmessage _
      next hcity =>
      cases agrees with
      | none => exact hrefused
      | some held =>
          have hentered : Entered form :=
            ⟨not_lt.mp hname, by simpa using hemail, not_lt.mp hpassword,
              not_not.mp hconfirmed⟩
          exact hagree ⟨hentered, hcountry, hstate, hcity⟩ held rfl date

/-- The same for calls that do not depend on the form. -/
theorem btnRegisterClicked_rule {typeUser : TypeUser} {form : RegisterForm}
    {agrees : Option Selection} {motive : App Unit → Prop}
    (hmessage : ∀ text, motive (showSnackBar text))
    (hrefused : motive (pure ()))
    (hage : ∀ (date : DateTime) (next : Bool → App Unit),
      (∀ refused, motive (next refused)) → motive (ageRefused date >>= next))
    (hagree : ∀ held date,
      motive (agree typeUser (form.holding held) date)) :
    motive (btnRegisterClicked typeUser form agrees) :=
  btnRegisterClicked_rule_of_passes hmessage hrefused hage
    fun _ held _ => hagree held

end SimpleRegister

/-! ## Role choice -/

namespace UserChoice

def client : App Unit := do
  setLoad true
  UserChoiceController.clientChoice
    (Navigator.navigate (.pushAndRemoveUntil .mainClient))

def worker : App Unit := do
  setLoad true
  UserChoiceController.workerChoice fun result =>
    if result then Navigator.navigate (.pushAndRemoveUntil .mainWorker)
    else Navigator.navigate (.pushAndRemoveUntil .workerComplement)

end UserChoice

/-! ## Profile completion -/

namespace WorkerComplement

def refusal (form : Complement) : Option String :=
  if !form.creditCard && !form.cash && !form.check then
    some "Selecione ao menos uma forma de pagamento"
  else if form.category.uid = -1 then some "Selecione a sua profissão"
  else if utf16Length (trim form.address) < 5 then
    some "Endereço obgrigatório"
  else none

def submit (form : Complement) : App Unit := do
  setLoad true
  let worker ← LoginController.getCurrentWorker
  let result ←
    WorkerComplementController.registerCompleteWorker worker form
  if result then Navigator.navigate (.pushAndRemoveUntil .mainWorker)
  else showSnackBar "Erro"

def finishComplement (form : Complement) : App Unit :=
  match refusal form with
  | some text => showSnackBar text
  | none => submit form

end WorkerComplement

/-! ## Photos and settings -/

/-- `PhotosWorker._updatePhotosList` -/
def PhotosWorker.updatePhotosList : App Unit := do
  setLoad false
  let _ ← PhotosController.loadPictures

def PhotosWorker.delete (uidImage : String) : App Unit := do
  setLoad true
  let _ ← PhotosController.deletePicture uidImage
  PhotosWorker.updatePhotosList

def AddPhoto.send (description : String) (image : Option File) :
    App Unit :=
  match image with
  | none => return
  | some file => do
      setLoad true
      let complete ← PhotosController.addPicture description file
      if complete then
        Navigator.navigate .pop
        PhotosWorker.updatePhotosList

def MenuConfig.logOut : App Unit :=
  LoginController.logOut (do
    Navigator.navigate (.pushAndRemoveUntil .home)
    Home.check)

/-! ## Home screens -/

/-- `currentUser as Client` -/
def LoginController.asClient :
    Option AnyUser → Except DartError (Option Client)
  | none => .ok none
  | some (.client client) => .ok (some client)
  | some (.worker _) => .error .typeError

/-- The address `_image` is loaded from. -/
def HomeClient.image (session : Option AnyUser) :
    Except DartError (Option String) := do
  let client ← LoginController.asClient session
  let client ← nonNull client
  return client.imageUrl

def HomeWorker.image (session : Option AnyUser) :
    Except DartError (Option String) := do
  let worker ← LoginController.asWorker session
  let worker ← nonNull worker
  return worker.imageUrl

/-- Nothing is ever loaded from the empty address, which stands for no
picture. -/
def imageLoads : Except DartError (Option String) → Bool
  | .ok (some url) => url ≠ ""
  | _ => false

/-- A home screen shows its loading content until the picture has loaded; the
other screens need nothing. -/
def Screen.opens (session : Option AnyUser) : Screen → Bool
  | .mainClient => imageLoads (HomeClient.image session)
  | .mainWorker => imageLoads (HomeWorker.image session)
  | _ => true

/-! ## The app as a machine -/

inductive Action where
  | launch
  | participe
  | login (email password : String)
  | cadastrese
  | chooseType (typeUser : TypeUser)
  | register (form : RegisterForm) (agrees : Option Selection)
  | clientChoice
  | workerChoice
  | finishComplement (form : Complement)
  | settings
  | changeView
  | logOut
  | photos
  | deletePhoto (uidImage : String)
  | addPhoto
  | sendPhoto (description : String) (image : Option File)
  | back

/-- What the screen on top offers while it is not loading. -/
def Screen.handler : Screen → Action → Option (App Unit)
  | .home, .participe => some (Navigator.navigate (.push .login))
  | .login, .login email password => some (Login.login email password)
  | .login, .cadastrese =>
      some (Navigator.navigate (.push .userChoiceRegister))
  | .userChoiceRegister, .chooseType typeUser =>
      some (Navigator.navigate (.push (.simpleRegister typeUser)))
  | .simpleRegister typeUser, .register form agrees =>
      some (SimpleRegister.btnRegisterClicked typeUser form agrees)
  | .userChoice, .clientChoice => some UserChoice.client
  | .userChoice, .workerChoice => some UserChoice.worker
  | .workerComplement, .finishComplement form =>
      some (WorkerComplement.finishComplement form)
  | .mainClient, .settings => some (Navigator.navigate (.push .menuConfig))
  | .mainWorker, .settings => some (Navigator.navigate (.push .menuConfig))
  | .menuConfig, .changeView =>
      some (Navigator.navigate (.push .userChoice))
  | .menuConfig, .logOut => some MenuConfig.logOut
  | .mainWorker, .photos =>
      some (do
        Navigator.navigate (.push .photosWorker)
        let _ ← PhotosController.loadPictures)
  | .photosWorker, .deletePhoto uidImage =>
      some (PhotosWorker.delete uidImage)
  | .photosWorker, .addPhoto => some (Navigator.navigate (.push .addPhoto))
  | .addPhoto, .sendPhoto description image =>
      some (AddPhoto.send description image)
  | _, _ => none

/-- Leaving a screen for the one below it.  `PhotosWorker` refreshes itself
when `AddPhoto` is left in any way. -/
def goBack (screen : Screen) : App Unit := do
  Navigator.navigate .pop
  if screen = .addPhoto then PhotosWorker.updatePhotosList

/-- A user who acts on a home screen has waited for its picture. -/
def startAction (action : Action) (device : Device) : Option (App Unit) :=
  match device.routes, action with
  | [], .launch => some launch
  | [], _ => none
  | _ :: [], .back => none
  | top :: _ :: _, .back => some (goBack top.screen)
  | top :: _, action =>
      if top.load then none
      else if top.screen.opens device.currentUser then
        top.screen.handler action
      else none

/-- The handlers, one by one. -/
inductive Handles : Screen → Action → App Unit → Prop where
  | participe :
      Handles .home .participe (Navigator.navigate (.push .login))
  | login (email password : String) :
      Handles .login (.login email password) (Login.login email password)
  | cadastrese :
      Handles .login .cadastrese
        (Navigator.navigate (.push .userChoiceRegister))
  | chooseType (typeUser : TypeUser) :
      Handles .userChoiceRegister (.chooseType typeUser)
        (Navigator.navigate (.push (.simpleRegister typeUser)))
  | register (typeUser : TypeUser) (form : RegisterForm)
      (agrees : Option Selection) :
      Handles (.simpleRegister typeUser) (.register form agrees)
        (SimpleRegister.btnRegisterClicked typeUser form agrees)
  | clientChoice : Handles .userChoice .clientChoice UserChoice.client
  | workerChoice : Handles .userChoice .workerChoice UserChoice.worker
  | finishComplement (form : Complement) :
      Handles .workerComplement (.finishComplement form)
        (WorkerComplement.finishComplement form)
  | clientSettings :
      Handles .mainClient .settings (Navigator.navigate (.push .menuConfig))
  | workerSettings :
      Handles .mainWorker .settings (Navigator.navigate (.push .menuConfig))
  | changeView :
      Handles .menuConfig .changeView
        (Navigator.navigate (.push .userChoice))
  | logOut : Handles .menuConfig .logOut MenuConfig.logOut
  | photos :
      Handles .mainWorker .photos
        (do
          Navigator.navigate (.push .photosWorker)
          let _ ← PhotosController.loadPictures)
  | deletePhoto (uidImage : String) :
      Handles .photosWorker (.deletePhoto uidImage)
        (PhotosWorker.delete uidImage)
  | addPhoto :
      Handles .photosWorker .addPhoto (Navigator.navigate (.push .addPhoto))
  | sendPhoto (description : String) (image : Option File) :
      Handles .addPhoto (.sendPhoto description image)
        (AddPhoto.send description image)

theorem handles_of_handler {screen : Screen} {action : Action}
    {program : App Unit} (hhandler : screen.handler action = some program) :
    Handles screen action program := by
  unfold Screen.handler at hhandler
  split at hhandler <;>
    simp only [Option.some.injEq, reduceCtorEq] at hhandler
  all_goals
    subst program
    constructor

/-- What can be started on a device, with the routes it takes for
granted. -/
inductive Starts (device : Device) : Action → App Unit → Prop where
  | launch (hroutes : device.routes = []) : Starts device .launch launch
  | back {top second : Route} {below : List Route}
      (hroutes : device.routes = top :: second :: below) :
      Starts device .back (goBack top.screen)
  | handler {top : Route} {below : List Route} {action : Action}
      {program : App Unit} (hroutes : device.routes = top :: below)
      (hload : top.load = false)
      (hhandles : Handles top.screen action program) :
      Starts device action program

theorem starts_of_startAction {device : Device} {action : Action}
    {program : App Unit}
    (hstart : startAction action device = some program) :
    Starts device action program := by
  unfold startAction at hstart
  split at hstart
  next hroutes =>
    simp only [Option.some.injEq] at hstart
    subst program
    exact .launch hroutes
  next => cases hstart
  next => cases hstart
  next hroutes =>
    simp only [Option.some.injEq] at hstart
    subst program
    exact .back hroutes
  next action' top below hroutes _ _ =>
    split_ifs at hstart with hload hopens
    simp only [Bool.not_eq_true] at hload
    exact .handler hroutes hload (handles_of_handler hstart)

/-- Any number of devices running the app over the same services.  What a
user would do while a handler of the device is waiting is left out. -/
def app : Machine Request Request.Answer DartError Action Oracle Backend
    Device where
  exec := Request.exec
  start := startAction
  reset := Device.reset

abbrev World (DeviceId : Type) :=
  Config DeviceId Request Request.Answer DartError Action Backend Device

/-- No account exists, nothing is stored and no device has run the app. -/
def World.initial (DeviceId : Type) : World DeviceId :=
  { shared := Backend.empty
    locals := fun _ => Device.fresh
    tasks := fun _ => none }

/-! ## A device of its own -/

/-- An action and its first requests, on answers that never fail. -/
def perform (action : Action) (uid : Segment) (requests : ℕ) :
    List (Event Unit Action Oracle) :=
  .act () action ::
    List.replicate requests
      (.resume ()
        { ok := true, uid, url := "url", key := firstKey
          time := ⟨2019, 7, 1, 12, 0, 0, 0, 0⟩ })

def registerForm (name email : String) : RegisterForm :=
  { name, email, password := "secret", confirmPassword := "secret"
    date := some ⟨1990, 5, 17, 0, 0, 0, 0, 0⟩
    selectedCountry := "BR", selectedState := "Acre"
    selectedCity := "Xapuri", image := none }

/-- What `registerForm` holds. -/
def xapuri : Selection := ⟨"BR", "Acre", "Xapuri"⟩

/-- No load is under way when the button is pressed, and the terms are
accepted. -/
def registers (form : RegisterForm) : Action :=
  .register form
    (some ⟨form.selectedCountry, form.selectedState, form.selectedCity⟩)

/-- A form with a picture, whose user gets past the loading content of the
home screen. -/
def picturedForm (name email : String) : RegisterForm :=
  { registerForm name email with image := some ⟨[137, 80, 78, 71]⟩ }

def complementForm : Complement :=
  { category := ⟨3, "Pintura"⟩, address := "Rua A, 10"
    description := "Pintora", creditCard := false, check := false
    cash := true, homeCare := false, freeBudget := true, whatsApp := ""
    instagram := "", facebook := "" }

def toRegisterForm (typeUser : TypeUser) :
    List (Event Unit Action Oracle) :=
  perform .launch firstUid 2 ++ perform .participe firstUid 1 ++
    perform .cadastrese firstUid 1 ++
    perform (.chooseType typeUser) firstUid 1

end FoliumApp
