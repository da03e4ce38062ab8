import FoliumApp.ProfileRoundTrip
import FoliumApp.Screens

/-!
# What a registration leaves behind

A registration creates the account, then stores the profile picture and asks
for its address, and, for a client, writes the profile.  The calls are made
one after the other and nothing undoes an earlier one when a later one fails.
Each outcome is traced here through the three layers to the flag the screen
looks at.
-/

namespace FoliumApp

open PathTree AsyncProgram

/-! ## Which calls succeed -/

def accountCreated (oracle : ℕ → Oracle) (backend : Backend)
    (email : String) : Bool :=
  (oracle 0).ok && backend.acceptsAccount email (oracle 0).uid

/-- The picture, if there is one, is stored and its address is given. -/
def pictureStored (oracle : ℕ → Oracle) (picture : Option File) : Bool :=
  match picture with
  | none => true
  | some _ => (oracle 1).ok && (oracle 2).ok

def pictureUrl (oracle : ℕ → Oracle) (picture : Option File) : String :=
  match picture with
  | none => ""
  | some _ => (oracle 2).url

def registerUserCalls (picture : Option File) : ℕ :=
  match picture with
  | none => 1
  | some _ => 3

def Backend.storePicture (backend : Backend) (uid : String)
    (picture : Option File) : Backend :=
  match picture with
  | none => backend
  | some file => backend.putObject (profileImagePath uid) (some file)

@[simp] theorem Backend.storePicture_accounts (backend : Backend)
    (uid : String) (picture : Option File) :
    (backend.storePicture uid picture).accounts = backend.accounts := by
  cases picture <;> rfl

@[simp] theorem Backend.storePicture_database (backend : Backend)
    (uid : String) (picture : Option File) :
    (backend.storePicture uid picture).database = backend.database := by
  cases picture <;> rfl

@[simp] theorem Backend.addAccount_database (backend : Backend)
    (email password : String) (uid : Segment) :
    (backend.addAccount email password uid).database =
      backend.database := rfl

/-! ## registerUser -/

section RegisterUser

variable {email : String} (password : String) {picture : Option File}
variable {oracle : ℕ → Oracle} {backend : Backend} (device : Device)

attribute [local simp] SimpleRegisterController.registerUser
  SimpleRegisterController.createUid
  SimpleRegisterController.uploadProfilePicture
  FirebaseAuth.createUserWithEmailAndPassword FirebaseStorage.putFile
  FirebaseStorage.getDownloadURL Request.exec Async.ofExcept

theorem registerUser_run_refused
    (hcreated : accountCreated oracle backend email = false) :
    App.run (SimpleRegisterController.registerUser email password picture)
        oracle backend device =
      (.ok ⟨false, "", ""⟩, backend, device) := by
  unfold accountCreated at hcreated
  simp [hcreated]

theorem registerUser_run_made
    (hcreated : accountCreated oracle backend email = true)
    (hpicture : pictureStored oracle picture = true) :
    App.run (SimpleRegisterController.registerUser email password picture)
        oracle backend device =
      (.ok ⟨true, (oracle 0).uid.val, pictureUrl oracle picture⟩,
        (backend.addAccount email password (oracle 0).uid).storePicture
          (oracle 0).uid.val picture,
        { device with signedIn := some (oracle 0).uid }) := by
  unfold accountCreated at hcreated
  cases picture with
  | none =>
      simp [hcreated, pictureUrl, Backend.storePicture]
  | some file =>
      simp only [pictureStored, Bool.and_eq_true] at hpicture
      simp [hcreated, hpicture.1, hpicture.2, pictureUrl,
        Backend.storePicture]

theorem registerUser_awaited_made
    (hcreated : accountCreated oracle backend email = true)
    (hpicture : pictureStored oracle picture = true) :
    App.awaited
        (SimpleRegisterController.registerUser email password picture)
        oracle backend device =
      registerUserCalls picture := by
  unfold accountCreated at hcreated
  cases picture with
  | none =>
      simp [hcreated, registerUserCalls]
  | some file =>
      simp only [pictureStored, Bool.and_eq_true] at hpicture
      simp [hcreated, hpicture.1, hpicture.2, registerUserCalls]

/-- The failure of the picture is answered like a refused account, but the
account is there. -/
theorem registerUser_run_orphaned
    (hcreated : accountCreated oracle backend email = true)
    (hpicture : pictureStored oracle picture = false) :
    ∃ storage,
      App.run
          (SimpleRegisterController.registerUser email password picture)
          oracle backend device =
        (.ok ⟨false, "", ""⟩,
          { backend.addAccount email password (oracle 0).uid with storage },
          { device with signedIn := some (oracle 0).uid }) := by
  unfold accountCreated at hcreated
  cases picture with
  | none => simp [pictureStored] at hpicture
  | some file =>
      cases hupload : (oracle 1).ok with
      | false =>
          refine ⟨backend.storage, ?_⟩
          simp [hcreated, hupload, Backend.addAccount]
      | true =>
          have hurl : (oracle 2).ok = false := by
            simpa [pictureStored, hupload] using hpicture
          refine
            ⟨(backend.putObject (profileImagePath (oracle 0).uid.val)
              (some file)).storage, ?_⟩
          simp [hcreated, hupload, hurl, Backend.addAccount,
            Backend.putObject]

end RegisterUser

/-! ## Retrying a failed registration -/

/-- No call fails for an outside reason and the uid offered is new. -/
def FreshAnswers (oracle : ℕ → Oracle) (backend : Backend) : Prop :=
  (∀ index, (oracle index).ok = true) ∧
    backend.uidUsed (oracle 0).uid = false

/-- A registration answered with `false` left the accounts alone, and if the
email was free a later attempt with it succeeds. -/
def Retriable (email password : String) (picture : Option File)
    (oracle : ℕ → Oracle) (backend : Backend) (device : Device) : Prop :=
  ∀ user after device',
    App.run (SimpleRegisterController.registerUser email password picture)
        oracle backend device = (.ok user, after, device') →
    user.result = false →
      after.accounts = backend.accounts ∧
        (backend.emailUsed email = false →
          ∀ (password' : String) (picture' : Option File)
            (later : Backend) (oracle' : ℕ → Oracle) (device'' : Device),
            later.accounts = after.accounts → FreshAnswers oracle' later →
              ∃ user' end' device''',
                App.run
                    (SimpleRegisterController.registerUser email password'
                      picture')
                    oracle' later device'' =
                  (.ok user', end', device''') ∧
                user'.result = true)

theorem registerUser_run_fresh
    {email : String} (password : String) (picture : Option File)
    {oracle : ℕ → Oracle} {backend : Backend} (device : Device)
    (hfree : backend.emailUsed email = false)
    (hfresh : FreshAnswers oracle backend) :
    ∃ user after device',
      App.run (SimpleRegisterController.registerUser email password picture)
          oracle backend device = (.ok user, after, device') ∧
        user.result = true := by
  have hcreated : accountCreated oracle backend email = true := by
    simp [accountCreated, Backend.acceptsAccount, hfresh.1 0, hfresh.2,
      hfree]
  have hpicture : pictureStored oracle picture = true := by
    cases picture with
    | none => rfl
    | some file => simp [pictureStored, hfresh.1]
  exact ⟨_, _, _, registerUser_run_made password device hcreated hpicture,
    rfl⟩

/-- A failed registration can be retried exactly when its failure is not one
of the picture after the account was created. -/
theorem failed_registration_retriable_iff
    (email password : String) (picture : Option File)
    (oracle : ℕ → Oracle) (backend : Backend) (device : Device) :
    Retriable email password picture oracle backend device ↔
      (accountCreated oracle backend email = true →
        pictureStored oracle picture = true) := by
  constructor
  · intro hretriable hcreated
    by_contra hfailed
    have hpicture : pictureStored oracle picture = false := by
      simpa using hfailed
    obtain ⟨storage, hrun⟩ :=
      registerUser_run_orphaned password device hcreated hpicture
    have haccounts := (hretriable _ _ _ hrun rfl).1
    simp [Backend.addAccount] at haccounts
  · intro hcondition user after device' hrun hresult
    cases hcreated : accountCreated oracle backend email with
    | true =>
        have hpicture := hcondition hcreated
        rw [registerUser_run_made password device hcreated hpicture] at hrun
        simp only [Prod.mk.injEq, Except.ok.injEq] at hrun
        obtain ⟨rfl, -, -⟩ := hrun
        cases hresult
    | false =>
        rw [registerUser_run_refused password device hcreated] at hrun
        simp only [Prod.mk.injEq, Except.ok.injEq] at hrun
        obtain ⟨-, rfl, -⟩ := hrun
        refine ⟨rfl, ?_⟩
        intro hfree password' picture' later oracle' device'' haccounts
          hfresh
        have hfree' : later.emailUsed email = false := by
          simpa [Backend.emailUsed, haccounts] using hfree
        exact registerUser_run_fresh password' picture' device'' hfree'
          hfresh

/-- The upload of the picture fails after the account was created. -/
theorem picture_failure_keeps_account :
    ¬ Retriable "ana@folium.work" "secret" (some ⟨[1, 2]⟩) (failingAt 1)
      Backend.empty Device.fresh := by
  intro hretriable
  have hrun :
      App.run
          (SimpleRegisterController.registerUser "ana@folium.work" "secret"
            (some ⟨[1, 2]⟩))
          (failingAt 1) Backend.empty Device.fresh =
        (.ok ⟨false, "", ""⟩,
          Backend.empty.addAccount "ana@folium.work" "secret"
            firstUid,
          { Device.fresh with signedIn := some firstUid }) := rfl
  have haccounts := (hretriable _ _ _ hrun rfl).1
  simp [Backend.addAccount] at haccounts

/-! ## registerClient -/

def profileWritten (oracle : Oracle) (uid : String) : Bool :=
  oracle.ok && isValidPathString (dataPath uid)

/-- The client is installed and the answer is `true` whether or not the
profile was written. -/
theorem registerClient_run
    (name email country city state : String) (birth : DateTime)
    (uid imageUrl : String) (oracle : ℕ → Oracle) (backend : Backend)
    (device : Device) :
    let client :=
      SimpleRegisterController.newClient name email country city state birth
        uid imageUrl
    App.run
        (SimpleRegisterController.registerClient name email country city
          state birth uid imageUrl)
        oracle backend device =
      (.ok ⟨true, .ok "success"⟩,
        if profileWritten (oracle 0) uid then
          backend.write (dataPath uid)
            (.obj (client.fields
              (SimpleRegisterController.newLocation country city state)))
        else backend,
        { device with currentUser := some (.client client) }) := by
  intro client
  have hjson : client.toJson =
      .ok (.obj (client.fields
        (SimpleRegisterController.newLocation country city state))) :=
    newClient_toJson name email country city state birth uid imageUrl
  have hpath : interpolate client.uid = uid := rfl
  have hsend :
      SimpleRegisterController.sendUser (.client client) =
        sendData
          (.obj (client.fields
            (SimpleRegisterController.newLocation country city state)))
          (dataPath uid) := by
    simp only [SimpleRegisterController.sendUser, AnyUser.toJson,
      AnyUser.toUser, hjson, hpath, Async.ofExcept, Async.done_bind]
  unfold SimpleRegisterController.registerClient
  rw [show SimpleRegisterController.newClient name email country city state
    birth uid imageUrl = client from rfl]
  simp only [hsend, sendData, FirebaseDatabase.set,
    LoginController.setCurrentUser]
  cases hwritten : profileWritten (oracle 0) uid with
  | true =>
      unfold profileWritten at hwritten
      simp [Request.exec, hwritten, Async.ofExcept]
  | false =>
      unfold profileWritten at hwritten
      simp [Request.exec, hwritten, Async.ofExcept]

/-! ## Durability of a reported registration -/

/-- A reported registration left the account, the profile and the session. -/
def RegistrationDurable (form : RegisterForm) (date : DateTime)
    (oracle : ℕ → Oracle) (backend : Backend) (device : Device) : Prop :=
  ∀ after device',
    App.run (SimpleRegister.registerAccount .cliente form date) oracle
        backend device = (.ok true, after, device') →
      ∃ account ∈ after.accounts, ∃ imageUrl data,
        account.email = form.email ∧ account.password = form.password ∧
        (SimpleRegisterController.newClient form.name form.email
          form.selectedCountry form.selectedCity form.selectedState date
          account.uid imageUrl).toJson = .ok data ∧
        after.read (dataPath account.uid) = data.prune ∧
        device'.currentUser =
          some (.client
            (SimpleRegisterController.newClient form.name form.email
              form.selectedCountry form.selectedCity form.selectedState date
              account.uid imageUrl))

def registeredClient (form : RegisterForm) (date : DateTime)
    (oracle : ℕ → Oracle) : Client :=
  SimpleRegisterController.newClient form.name form.email
    form.selectedCountry form.selectedCity form.selectedState date
    (oracle 0).uid.val (pictureUrl oracle form.image)

def registeredData (form : RegisterForm) (date : DateTime)
    (oracle : ℕ → Oracle) : Json :=
  .obj ((registeredClient form date oracle).fields
    (SimpleRegisterController.newLocation form.selectedCountry
      form.selectedCity form.selectedState))

section RegisterAccount

variable (form : RegisterForm) (date : DateTime)
variable {oracle : ℕ → Oracle} {backend : Backend} (device : Device)

def Backend.registered (backend : Backend) (form : RegisterForm)
    (uid : Segment) : Backend :=
  (backend.addAccount form.email form.password uid).storePicture uid.val
    form.image

@[simp] theorem Backend.registered_holding (backend : Backend)
    (form : RegisterForm) (held : Selection) (uid : Segment) :
    backend.registered (form.holding held) uid =
      backend.registered form uid := rfl

theorem Backend.registered_read (backend : Backend) (form : RegisterForm)
    (uid : Segment) (path : String) :
    (backend.registered form uid).read path = backend.read path := by
  simp [Backend.registered, Backend.read]

theorem registerAccount_run_made
    (hcreated : accountCreated oracle backend form.email = true)
    (hpicture : pictureStored oracle form.image = true) :
    App.run (SimpleRegister.registerAccount .cliente form date) oracle
        backend device =
      (.ok true,
        if profileWritten (oracle (registerUserCalls form.image))
            (oracle 0).uid.val then
          (backend.registered form (oracle 0).uid).write
            (dataPath (oracle 0).uid.val) (registeredData form date oracle)
        else backend.registered form (oracle 0).uid,
        { device with
          signedIn := some (oracle 0).uid
          currentUser :=
            some (.client (registeredClient form date oracle)) }) := by
  unfold SimpleRegister.registerAccount
  rw [App.run_bind_of_ok
    (registerUser_run_made form.password device hcreated hpicture),
    registerUser_awaited_made form.password device hcreated hpicture]
  simp only [if_true]
  rw [App.run_bind_of_ok (registerClient_run _ _ _ _ _ _ _ _ _ _ _)]
  simp only [Async.pure_eq_done, App.run_done, Nat.zero_add]
  rfl

theorem registerAccount_run_failed
    (hfailed : ¬ (accountCreated oracle backend form.email = true ∧
      pictureStored oracle form.image = true)) :
    ∃ after device',
      App.run (SimpleRegister.registerAccount .cliente form date) oracle
          backend device = (.ok false, after, device') := by
  have hfalse : ∃ after device',
      App.run
          (SimpleRegisterController.registerUser form.email form.password
            form.image)
          oracle backend device = (.ok ⟨false, "", ""⟩, after, device') := by
    cases hcreated : accountCreated oracle backend form.email with
    | false =>
        exact ⟨_, _, registerUser_run_refused form.password device hcreated⟩
    | true =>
        have hpicture : pictureStored oracle form.image = false := by
          simpa [hcreated] using hfailed
        obtain ⟨storage, hrun⟩ :=
          registerUser_run_orphaned form.password device hcreated hpicture
        exact ⟨_, _, hrun⟩
  obtain ⟨after, device', hrun⟩ := hfalse
  refine ⟨after, device', ?_⟩
  unfold SimpleRegister.registerAccount
  rw [App.run_bind_of_ok hrun]
  rfl

end RegisterAccount

/-- A client registration that is reported is durable exactly when the write
of the profile was accepted too, or had nothing to change. -/
theorem client_registration_durable_iff
    (form : RegisterForm) (date : DateTime) (oracle : ℕ → Oracle)
    (backend : Backend) (device : Device) :
    RegistrationDurable form date oracle backend device ↔
      (accountCreated oracle backend form.email = true →
        pictureStored oracle form.image = true →
          profileWritten (oracle (registerUserCalls form.image))
              (oracle 0).uid.val = true ∨
            backend.read (dataPath (oracle 0).uid.val) =
              (registeredData form date oracle).prune) := by
  have hjson :
      (registeredClient form date oracle).toJson =
        .ok (registeredData form date oracle) :=
    newClient_toJson _ _ _ _ _ _ _ _
  constructor
  · intro hdurable hcreated hpicture
    by_contra hneither
    simp only [not_or, Bool.not_eq_true] at hneither
    obtain ⟨hrefused, hother⟩ := hneither
    have hrun := registerAccount_run_made form date device hcreated hpicture
    rw [hrefused] at hrun
    obtain ⟨account, -, imageUrl, data, -, -, hdata, hread, hsession⟩ :=
      hdurable _ _ hrun
    simp only [Option.some.injEq, AnyUser.client.injEq] at hsession
    have huid : some (oracle 0).uid.val = some account.uid.val :=
      congrArg (fun client : Client => client.uid) hsession
    rw [← hsession, hjson] at hdata
    simp only [Option.some.injEq] at huid
    simp only [Except.ok.injEq] at hdata
    rw [← huid, ← hdata] at hread
    apply hother
    rw [← hread]
    exact (Backend.registered_read _ _ _ _).symm
  · intro hcondition after device' hrun
    by_cases hmade : accountCreated oracle backend form.email = true ∧
        pictureStored oracle form.image = true
    · rw [registerAccount_run_made form date device hmade.1 hmade.2] at hrun
      simp only [Prod.mk.injEq, true_and] at hrun
      obtain ⟨hafter, hdevice⟩ := hrun
      refine ⟨⟨form.email, form.password, (oracle 0).uid⟩, ?_,
        pictureUrl oracle form.image, registeredData form date oracle,
        rfl, rfl, hjson, ?_, ?_⟩
      · rw [← hafter]
        split_ifs <;>
          simp [Backend.registered, Backend.addAccount, Backend.write]
      · rw [← hafter]
        split_ifs with hwritten
        · exact Backend.read_write _ _ _
        · rw [Backend.registered_read]
          exact (hcondition hmade.1 hmade.2).resolve_left hwritten
      · rw [← hdevice]
        rfl
    · obtain ⟨after', device'', hfailed⟩ :=
        registerAccount_run_failed form date device hmade
      rw [hfailed] at hrun
      cases hrun

def anaForm : RegisterForm :=
  { name := "Ana Souza", email := "ana@folium.work", password := "secret"
    confirmPassword := "secret", date := some ⟨1990, 5, 17, 0, 0, 0, 0, 0⟩
    selectedCountry := "BR", selectedState := "Acre"
    selectedCity := "Xapuri", image := none }

/-- The write of the profile fails, and success is reported. -/
theorem reported_client_without_profile :
    ¬ RegistrationDurable anaForm ⟨1990, 5, 17, 0, 0, 0, 0, 0⟩ (failingAt 1)
      Backend.empty Device.fresh := by
  intro hdurable
  have hcreated :
      accountCreated (failingAt 1) Backend.empty anaForm.email = true := rfl
  have hrefused :
      profileWritten (failingAt 1 (registerUserCalls anaForm.image))
        (failingAt 1 0).uid.val = false := rfl
  have hrun :=
    registerAccount_run_made anaForm ⟨1990, 5, 17, 0, 0, 0, 0, 0⟩
      Device.fresh hcreated rfl
  rw [hrefused] at hrun
  obtain ⟨account, -, imageUrl, data, -, -, hdata, hread, -⟩ :=
    hdurable _ _ hrun
  have hnull :
      (Backend.empty.registered anaForm (failingAt 1 0).uid).read
        (dataPath account.uid) = .null := by
    rw [Backend.registered_read]
    exact Json.get_null _
  rw [newClient_toJson] at hdata
  cases hdata
  have hpruned := hnull.symm.trans hread
  have hname := congrArg (fun value : Json => value.child "name") hpruned
  simp only [Json.child_null,
    Json.child_prune_obj (Client.fields_nodup _ _)] at hname
  simp [Client.fields, SimpleRegisterController.newClient, Client.new,
    Json.lookup, ofString, Json.prune] at hname

end FoliumApp
