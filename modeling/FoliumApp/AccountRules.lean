import FoliumApp.AdmittedProfiles
import FoliumApp.RouteStacks

/-!
# Rules about accounts that every handler keeps

A user gets into the session by registering, by completing a profile or from
a record that is read; a record is written by a registration or a completion.
So a rule about accounts holds of all sessions and records if it is passed on
along these ways.  Every handler is gone through once, for any such rules.
-/

namespace FoliumApp

open PathTree AsyncProgram CallSequences

/-! ## Profiles of an account -/

/-- The user is that of the account, with a name. -/
structure User.IsOf (uid : Segment) (user : User) : Prop where
  uid_eq : user.uid = some uid.val
  name : user.name ≠ none

/-- A stored profile of the account: a client of it can always be read, a
worker only from a worker's profile. -/
structure ProfileOf (typeUser : TypeUser) (uid : Segment) (data : Json) :
    Prop where
  client : ∃ client, decodedClient data = .ok client ∧
    client.toUser.IsOf uid
  worker : ∀ worker, decodedWorker data = .ok worker →
    typeUser = .trabalhador ∧ worker.toUser.IsOf uid
  decodes : typeUser = .trabalhador →
    ∃ worker, decodedWorker data = .ok worker

section Profiles

variable {uid : Segment} {typeUser : TypeUser} {data : Json}

theorem profileOf_client {client : Client} {location : Location}
    (hclient : client.toUser.IsOf uid) (haddress : location.address ≠ none)
    (hfavorites : client.favoriteList = some []) :
    ProfileOf .cliente uid (Json.obj (client.fields location)).prune := by
  have hattendance :
      ((Json.obj (client.fields location)).prune).child "attendance" =
        .null := by
    rw [Json.child_prune_obj (client.fields_nodup location)]
    rfl
  refine ⟨⟨_, decodedClient_client hclient.name haddress hfavorites,
    hclient.uid_eq, hclient.name⟩, ?_, nofun⟩
  intro worker hworker
  obtain ⟨error, herror⟩ := decodedWorker_error_of_attendance hattendance
  rw [herror] at hworker
  cases hworker

theorem profileOf_completed {worker : Worker}
    (hworker : worker.toUser.IsOf uid) (location : Location)
    (form : Complement) :
    ProfileOf .trabalhador uid
      (completedProfile worker location form).prune := by
  have hdecoded := completedProfile_decoded worker location form
  change decodedWorker _ = _ at hdecoded
  refine ⟨⟨_, decodedClient_completedProfile worker location form
    hworker.name, hworker.uid_eq, hworker.name⟩, ?_, fun _ => ⟨_, hdecoded⟩⟩
  intro found hfound
  rw [hdecoded, Except.ok.injEq] at hfound
  subst hfound
  exact ⟨rfl, hworker.uid_eq, hworker.name⟩

theorem Registry.Admits.isOf {registry : Registry} {user : User}
    (hadmits : registry.Admits uid user) : user.IsOf uid := by
  obtain ⟨name, hname, -⟩ := hadmits.name
  exact ⟨hadmits.uid_eq, by simp [hname]⟩

theorem Registry.Record.profileOf {registry : Registry}
    (hrecord : registry.Record uid data) :
    ∃ typeUser, ProfileOf typeUser uid data := by
  cases hrecord with
  | client hadmits hlocation haddress hfavorites =>
      exact ⟨_, profileOf_client hadmits.isOf haddress hfavorites⟩
  | worker hcompletion =>
      exact ⟨_, profileOf_completed hcompletion.admits.isOf _ _⟩

theorem decodedClient_null :
    ∃ error, decodedClient .null = .error error := ⟨.noSuchMethod, rfl⟩

theorem decodedWorker_null :
    ∃ error, decodedWorker .null = .error error := ⟨.noSuchMethod, rfl⟩

theorem ProfileOf.ne_null (hprofile : ProfileOf typeUser uid data) :
    data ≠ .null := by
  rintro rfl
  obtain ⟨client, hclient, -⟩ := hprofile.client
  cases hclient

/-- The kind of a profile can be told from it. -/
theorem ProfileOf.decodes_iff (hprofile : ProfileOf typeUser uid data) :
    (∃ worker, decodedWorker data = .ok worker) ↔
      typeUser = .trabalhador := by
  constructor
  · rintro ⟨worker, hworker⟩
    exact (hprofile.worker worker hworker).1
  · exact hprofile.decodes

end Profiles

/-! ## Rules -/

def AnyUser.typeUser : AnyUser → TypeUser
  | .client _ => .cliente
  | .worker _ => .trabalhador

/-- Which accounts may be registered, be in a session and have a stored
profile, each as what.  A profile is stored by the registration of a client
and by the completion of a worker; any profile can be read as a client's. -/
structure AccountRules where
  registered : TypeUser → Segment → Prop
  session : TypeUser → Segment → Prop
  stored : TypeUser → Segment → Prop
  session_of_registered : ∀ {typeUser uid},
    registered typeUser uid → session typeUser uid
  stored_of_registered : ∀ {uid},
    registered .cliente uid → stored .cliente uid
  stored_of_session : ∀ {uid},
    session .trabalhador uid → stored .trabalhador uid
  session_of_stored : ∀ {typeUser uid},
    stored typeUser uid → session typeUser uid ∧ session .cliente uid

namespace AccountRules

variable (rules : AccountRules)

def AllowsUser (user : AnyUser) : Prop :=
  ∃ uid, user.toUser.IsOf uid ∧ rules.session user.typeUser uid

def AllowsSession (device : Device) : Prop :=
  ∀ user, device.currentUser = some user → rules.AllowsUser user

def AllowsRecord (uid : Segment) (data : Json) : Prop :=
  ∃ typeUser, rules.stored typeUser uid ∧ ProfileOf typeUser uid data

/-- The requests that keep the rules. -/
def Allows : Request → Prop
  | .setSession user => rules.AllowsUser user
  | .set path value => ∀ uid,
      pieces path = recordPieces uid ∧ rules.AllowsRecord uid value.prune ∨
        Json.Apart (pieces path) (recordPieces uid)
  | .remove path => ∀ uid, Json.Apart (pieces path) (recordPieces uid)
  | _ => True

/-- An account that is created is registered as what the form on the screen
says, and records are as the rules allow. -/
def Tells (device : Device) : (request : Request) →
    Except DartError request.Answer → Prop
  | .createUserWithEmailAndPassword _ _, .ok uid =>
      ∀ typeUser rest, device.screens = .simpleRegister typeUser :: rest →
        rules.registered typeUser uid
  | .once path, .ok data => ∀ uid : Segment, path = dataPath uid.val →
      data = .null ∨ rules.AllowsRecord uid data
  | _, _ => True

abbrev rely (device : Device) (request : Request)
    (answer : Except DartError request.Answer) (next : Device) : Prop :=
  request.Outcome device answer next ∧ rules.Tells device request answer

/-- The session is allowed, and the screens are those given, if any are. -/
structure Holds (on : Option (List Screen)) (device : Device) : Prop where
  session : rules.AllowsSession device
  screens : ∀ screens, on = some screens → device.screens = screens

abbrev Keeps (on : Option (List Screen)) (result : α → Prop)
    (program : App α) : Prop :=
  Async.Keeps rules.rely (fun _ => rules.Allows) (rules.Holds on) result
    program

section Programs

variable {rules : AccountRules} {on : Option (List Screen)}

theorem holds_of_outcome {request : Request}
    (hallows : rules.Allows request)
    (hscreens : ∀ navigation, request = .navigate navigation → on = none)
    {device after : Device} (hholds : rules.Holds on device)
    {answer : Except DartError request.Answer}
    (houtcome : request.Outcome device answer after) :
    rules.Holds on after := by
  constructor
  · intro user huser
    cases hchanges : request.changesSession with
    | false =>
        rw [houtcome.currentUser_eq hchanges] at huser
        exact hholds.session user huser
    | true =>
        cases request with
        | setSession found =>
            obtain ⟨-, rfl⟩ := houtcome
            cases huser
            exact hallows
        | _ => cases hchanges
  · rintro screens rfl
    rw [houtcome.screens_eq (fun navigation heq => by
      cases hscreens navigation heq)]
    exact hholds.screens screens rfl

theorem keeps_request {request : Request} (hallows : rules.Allows request)
    (hscreens : ∀ navigation, request = .navigate navigation → on = none) :
    rules.Keeps on (fun _ => True) (Async.request request : App _) := by
  apply Async.keeps_request
  · intro _ _
    exact hallows
  · intro device answer after hholds houtcome
    exact ⟨holds_of_outcome hallows hscreens hholds houtcome.1,
      fun _ _ => trivial⟩

/-- A request about which the rules say nothing. -/
theorem keeps_plain (request : Request) (hallows : rules.Allows request)
    (hcalm : request.isCalm = true) :
    rules.Keeps on (fun _ => True) (Async.request request : App _) := by
  apply keeps_request hallows
  rintro navigation rfl
  cases hcalm

theorem keeps_navigate (navigation : Navigation) :
    rules.Keeps none (fun _ => True) (Navigator.navigate navigation) := by
  apply keeps_request
  · trivial
  · intro _ _
    rfl

theorem keeps_of_onlyReads {program : App α}
    (hreads : App.OnlyReads program) :
    rules.Keeps on (fun _ => True) program := by
  apply hreads.keeps
  intro request hrequest
  cases hrequest <;> exact keeps_plain _ trivial rfl

theorem keeps_currentUid :
    rules.Keeps on (fun uid => ∃ user : Segment, uid = user.val)
      currentUid := by
  apply Async.Keeps.bind
    (keeps_of_onlyReads (Async.asksOnly_request .currentUser))
  intro user _
  apply Async.Keeps.bind (Async.keeps_ofExcept_any (nonNull user))
  intro uid _
  exact Async.keeps_done ⟨uid, rfl⟩

theorem keeps_sendProfile {uid : Segment} {data : Json}
    (hrecord : rules.AllowsRecord uid data.prune) :
    rules.Keeps on (fun _ => True) (sendData data (dataPath uid.val)) := by
  have hallows : rules.Allows (.set (dataPath uid.val) data) := by
    intro other
    rw [pieces_dataPath_segment]
    by_cases heq : other = uid
    · subst heq
      exact Or.inl ⟨rfl, hrecord⟩
    · right
      apply Json.apart_of_length_eq (by simp [recordPieces])
      intro hpath
      exact heq (recordPieces_inj hpath).symm
  exact keeps_sendData (keeps_plain _ hallows rfl)

theorem keeps_sendElsewhere {path : String} {data : Json}
    (hapart : ∀ uid : Segment, Json.Apart (pieces path) (recordPieces uid)) :
    rules.Keeps on (fun _ => True) (sendData data path) := by
  have hallows : rules.Allows (.set path data) :=
    fun uid => Or.inr (hapart uid)
  exact keeps_sendData (keeps_plain _ hallows rfl)

theorem keeps_setCurrentUser {user : AnyUser}
    (hallows : rules.AllowsUser user) :
    rules.Keeps on (fun _ => True) (LoginController.setCurrentUser user) :=
  keeps_request hallows nofun

/-! ## Registration -/

theorem keeps_createUid {typeUser : TypeUser} {rest : List Screen}
    (email password : String) :
    rules.Keeps (some (.simpleRegister typeUser :: rest))
      (fun uid => ∃ user : Segment,
        uid = user.val ∧ rules.registered typeUser user)
      (SimpleRegisterController.createUid email password) := by
  have hcreate : rules.Keeps (some (.simpleRegister typeUser :: rest))
      (rules.registered typeUser)
      (FirebaseAuth.createUserWithEmailAndPassword email password) := by
    apply Async.keeps_request
    · intro _ _
      trivial
    · intro device answer after hholds houtcome
      have hallows : rules.Allows
          (.createUserWithEmailAndPassword email password) := trivial
      refine ⟨holds_of_outcome hallows nofun hholds houtcome.1, ?_⟩
      rintro uid rfl
      exact houtcome.2 typeUser rest (hholds.screens _ rfl)
  apply Async.Keeps.bind hcreate
  intro uid huid
  exact Async.keeps_done ⟨uid, rfl, huid⟩

theorem keeps_uploadProfilePicture (file : File) (uid : String) :
    rules.Keeps on (fun _ => True)
      (SimpleRegisterController.uploadProfilePicture file uid) := by
  apply Async.Keeps.bind (keeps_plain (.putFile _ file) trivial rfl)
  intro _ _
  exact keeps_plain (.getDownloadURL _) trivial rfl

theorem keeps_registerUser {typeUser : TypeUser} {rest : List Screen}
    (email password : String) (profilePicture : Option File) :
    rules.Keeps (some (.simpleRegister typeUser :: rest))
      (fun user => user.result = true → ∃ uid : Segment,
        user.uid = uid.val ∧ rules.registered typeUser uid)
      (SimpleRegisterController.registerUser email password
        profilePicture) := by
  apply Async.Keeps.tryCatch
  · apply Async.Keeps.bind (keeps_createUid email password)
    intro uid huid
    cases profilePicture with
    | none => exact Async.keeps_done (fun _ => huid)
    | some file =>
        apply Async.Keeps.bind (keeps_uploadProfilePicture file uid)
        intro imageUrl _
        exact Async.keeps_done (fun _ => huid)
  · intro error
    exact Async.keeps_done nofun

theorem isOf_newClient (name email country city state : String)
    (birth : DateTime) (uid : Segment) (imageUrl : String) :
    (SimpleRegisterController.newClient name email country city state birth
      uid.val imageUrl).toUser.IsOf uid := ⟨rfl, nofun⟩

theorem keeps_registerClient {uid : Segment}
    (huid : rules.registered .cliente uid)
    (name email country city state : String) (birth : DateTime)
    (imageUrl : String) :
    rules.Keeps on (fun _ => True)
      (SimpleRegisterController.registerClient name email country city state
        birth uid.val imageUrl) := by
  have hisOf := isOf_newClient name email country city state birth uid
    imageUrl
  have hallows : rules.AllowsUser
      (.client
        (SimpleRegisterController.newClient name email country city state
          birth uid.val imageUrl)) :=
    ⟨uid, hisOf, rules.session_of_registered huid⟩
  have hsend : rules.Keeps on (fun _ => True)
      (SimpleRegisterController.sendUser
        (.client
          (SimpleRegisterController.newClient name email country city state
            birth uid.val imageUrl))) := by
    unfold SimpleRegisterController.sendUser
    simp only [AnyUser.toJson, newClient_toJson, Async.ofExcept,
      Async.done_bind]
    exact keeps_sendProfile
      ⟨.cliente, rules.stored_of_registered huid,
        profileOf_client hisOf (Option.some_ne_none _) rfl⟩
  apply Async.Keeps.tryCatch
  · apply Async.Keeps.bind hsend
    intro _ _
    apply Async.Keeps.bind (keeps_setCurrentUser hallows)
    intro _ _
    exact Async.keeps_done trivial
  · intro error
    exact Async.keeps_done trivial

theorem keeps_registerWorker {uid : Segment}
    (huid : rules.registered .trabalhador uid)
    (name email country city state : String) (birth : DateTime)
    (imageUrl : String) :
    rules.Keeps on (fun _ => True)
      (SimpleRegisterController.registerWorker name email country city state
        birth uid.val imageUrl) := by
  have hallows : rules.AllowsUser
      (.worker
        (SimpleRegisterController.newWorker name email country city state
          birth uid.val imageUrl)) :=
    ⟨uid, isOf_newClient name email country city state birth uid imageUrl,
      rules.session_of_registered huid⟩
  apply Async.Keeps.tryCatch
  · apply Async.Keeps.bind (keeps_setCurrentUser hallows)
    intro _ _
    exact Async.keeps_done trivial
  · intro error
    exact Async.keeps_done trivial

theorem keeps_registerAccount {rest : List Screen} (typeUser : TypeUser)
    (form : RegisterForm) (date : DateTime) :
    rules.Keeps (some (.simpleRegister typeUser :: rest)) (fun _ => True)
      (SimpleRegister.registerAccount typeUser form date) := by
  apply Async.Keeps.bind
    (keeps_registerUser form.email form.password form.image)
  intro user huser
  cases hresult : user.result with
  | false =>
      simp only [Bool.false_eq_true, if_false]
      exact Async.keeps_done trivial
  | true =>
      obtain ⟨uid, heq, huid⟩ := huser hresult
      simp only [if_true, heq]
      cases typeUser with
      | cliente =>
          apply Async.Keeps.bind (keeps_registerClient huid _ _ _ _ _ _ _)
          intro profile _
          exact Async.keeps_done trivial
      | trabalhador =>
          apply Async.Keeps.bind (keeps_registerWorker huid _ _ _ _ _ _ _)
          intro profile _
          exact Async.keeps_done trivial

theorem Holds.free {device : Device} (hholds : rules.Holds on device) :
    rules.Holds none device := ⟨hholds.session, nofun⟩

/-- The program keeps the rules and may leave the screens. -/
abbrev EndsFree (rules : AccountRules) (program : App Unit)
    (device : Device) : Prop :=
  Async.Safe rules.rely (fun _ => rules.Allows)
    (fun _ after => rules.Holds none after) program device

theorem Keeps.endsFree {result : Unit → Prop} {program : App Unit}
    (hprogram : rules.Keeps none result program) {device : Device}
    (hholds : rules.Holds on device) : rules.EndsFree program device := by
  apply (hprogram device hholds.free).mono
  intro answer after hafter
  exact hafter.1

theorem Keeps.thenFree {result : α → Prop} {program : App α}
    (hprogram : rules.Keeps on result program) {next : α → App Unit}
    {device : Device} (hholds : rules.Holds on device)
    (hnext : ∀ value after, rules.Holds on after →
      rules.EndsFree (next value) after) :
    rules.EndsFree (program >>= next) device := by
  apply (hprogram device hholds).then
  · intro value after hafter
    exact hnext value after hafter.1
  · intro error after hafter
    exact hafter.1.free

/-- On the screens given the program keeps the rules. -/
def EndsFreeOn (rules : AccountRules) (screens : List Screen)
    (program : App Unit) : Prop :=
  ∀ device, rules.Holds (some screens) device →
    rules.EndsFree program device

theorem endsFreeOn_agree {rest : List Screen} (typeUser : TypeUser)
    (form : RegisterForm) (date : DateTime) :
    rules.EndsFreeOn (.simpleRegister typeUser :: rest)
      (SimpleRegister.agree typeUser form date) := by
  intro device hholds
  apply Keeps.thenFree (keeps_plain (.setLoad true) trivial rfl) hholds
  intro _ loading hloading
  apply Keeps.thenFree (keeps_registerAccount typeUser form date) hloading
  intro result after hafter
  cases result with
  | false =>
      exact Keeps.endsFree (keeps_plain (.showSnackBar _) trivial rfl) hafter
  | true =>
      cases typeUser with
      | cliente => exact Keeps.endsFree (keeps_navigate _) hafter
      | trabalhador => exact Keeps.endsFree (keeps_navigate _) hafter

theorem endsFreeOn_btnRegisterClicked {rest : List Screen}
    (typeUser : TypeUser) (form : RegisterForm)
    (agrees : Option Selection) :
    rules.EndsFreeOn (.simpleRegister typeUser :: rest)
      (SimpleRegister.btnRegisterClicked typeUser form agrees) := by
  apply SimpleRegister.btnRegisterClicked_rule
  · intro text device hholds
    exact Keeps.endsFree (keeps_plain (.showSnackBar text) trivial rfl)
      hholds
  · intro device hholds
    exact hholds.free
  · intro date next hnext device hholds
    apply Keeps.thenFree
      (keeps_of_onlyReads (SimpleRegister.onlyReads_ageRefused date)) hholds
    intro refused after hafter
    exact hnext refused after hafter
  · intro held
    exact endsFreeOn_agree typeUser (form.holding held)

/-! ## Role choices and completion -/

/-- A record that is read is one the rules allow. -/
theorem keeps_once (uid : Segment) :
    rules.Keeps on (fun data => data = .null ∨ rules.AllowsRecord uid data)
      (FirebaseDatabase.once (dataPath uid.val)) := by
  have hallows : rules.Allows (.once (dataPath uid.val)) := trivial
  apply Async.keeps_request
  · intro _ _
    exact hallows
  · intro device answer after hholds houtcome
    refine ⟨holds_of_outcome hallows nofun hholds houtcome.1, ?_⟩
    rintro data rfl
    exact houtcome.2 uid rfl

theorem allowsUser_of_client {uid : Segment} {data : Json} {client : Client}
    (hdata : data = .null ∨ rules.AllowsRecord uid data)
    (hclient : decodedClient data = .ok client) :
    rules.AllowsUser (.client client) := by
  rcases hdata with rfl | ⟨typeUser, hstored, hprofile⟩
  · obtain ⟨error, herror⟩ := decodedClient_null
    rw [herror] at hclient
    cases hclient
  · obtain ⟨found, hfound, hisOf⟩ := hprofile.client
    rw [hclient, Except.ok.injEq] at hfound
    subst hfound
    exact ⟨uid, hisOf, (rules.session_of_stored hstored).2⟩

theorem allowsUser_of_worker {uid : Segment} {data : Json} {worker : Worker}
    (hdata : data = .null ∨ rules.AllowsRecord uid data)
    (hworker : decodedWorker data = .ok worker) :
    rules.AllowsUser (.worker worker) := by
  rcases hdata with rfl | ⟨typeUser, hstored, hprofile⟩
  · obtain ⟨error, herror⟩ := decodedWorker_null
    rw [herror] at hworker
    cases hworker
  · obtain ⟨rfl, hisOf⟩ := hprofile.worker worker hworker
    exact ⟨uid, hisOf, (rules.session_of_stored hstored).1⟩

theorem keeps_userChoice_client :
    rules.Keeps none (fun _ => True) UserChoice.client := by
  unfold UserChoice.client
  rw [clientChoice_eq]
  apply Async.Keeps.bind (keeps_plain (.setLoad true) trivial rfl)
  intro _ _
  apply Async.Keeps.bind (keeps_plain .currentUser trivial rfl)
  intro user _
  apply Async.Keeps.bind (Async.keeps_ofExcept_any _)
  intro uid _
  apply Async.Keeps.bind (keeps_once uid)
  intro data hdata
  cases hclient : decodedClient data with
  | error error => exact Async.keeps_ofExcept_any (.error error)
  | ok client =>
      apply Async.Keeps.bind
        (keeps_setCurrentUser (allowsUser_of_client hdata hclient))
      intro _ _
      exact keeps_navigate _

theorem keeps_userChoice_worker :
    rules.Keeps none (fun _ => True) UserChoice.worker := by
  unfold UserChoice.worker
  rw [workerChoice_eq]
  apply Async.Keeps.bind (keeps_plain (.setLoad true) trivial rfl)
  intro _ _
  apply Async.Keeps.bind (keeps_plain .currentUser trivial rfl)
  intro user _
  apply Async.Keeps.bind (Async.keeps_ofExcept_any _)
  intro uid _
  apply Async.Keeps.bind (keeps_once uid)
  intro data hdata
  cases hworker : decodedWorker data with
  | error error => exact keeps_navigate _
  | ok worker =>
      apply Async.Keeps.tryCatch
      · apply Async.Keeps.bind
          (keeps_setCurrentUser (allowsUser_of_worker hdata hworker))
        intro _ _
        exact keeps_navigate _
      · intro error
        exact keeps_navigate _

theorem keeps_getCurrentWorker :
    rules.Keeps on
      (fun worker => ∀ profile, worker = some profile →
        rules.AllowsUser (.worker profile))
      LoginController.getCurrentWorker := by
  have hsession : rules.Keeps on
      (fun user => ∀ found, user = some found → rules.AllowsUser found)
      (Async.request Request.getSession : App _) := by
    have hallows : rules.Allows .getSession := trivial
    apply Async.keeps_request
    · intro _ _
      exact hallows
    · intro device answer after hholds houtcome
      refine ⟨holds_of_outcome hallows nofun hholds houtcome.1, ?_⟩
      obtain ⟨⟨rfl, rfl⟩, -⟩ := houtcome
      intro user heq
      cases heq
      exact hholds.session
  apply Async.Keeps.bind hsession
  intro user huser
  apply Async.keeps_ofExcept
  rintro worker hworker profile rfl
  cases user with
  | none => cases hworker
  | some found =>
      cases found with
      | client client => cases hworker
      | worker found =>
          cases hworker
          exact huser _ rfl

theorem keeps_registerCompleteWorker {worker : Worker}
    (hworker : rules.AllowsUser (.worker worker)) (form : Complement) :
    rules.Keeps on (fun _ => True)
      (WorkerComplementController.registerCompleteWorker (some worker)
        form) := by
  cases hlocation : worker.location with
  | none =>
      unfold WorkerComplementController.registerCompleteWorker
      simp only [nonNull, Async.ofExcept, Async.done_bind, hlocation]
      exact Async.keeps_ofExcept_any (.error DartError.noSuchMethod)
  | some location =>
      obtain ⟨uid, hisOf, hsession⟩ := hworker
      have huid : worker.uid = some uid.val := hisOf.uid_eq
      have hcompleted : rules.AllowsUser
          (.worker
            (WorkerComplementController.complete worker location form)) :=
        ⟨uid, ⟨hisOf.uid_eq, hisOf.name⟩, hsession⟩
      rw [registerCompleteWorker_of_location form hlocation, huid]
      apply Async.Keeps.bind (keeps_setCurrentUser hcompleted)
      intro _ _
      apply Async.Keeps.bind
        (keeps_sendProfile
          ⟨.trabalhador, rules.stored_of_session hsession,
            profileOf_completed hisOf location form⟩)
      intro _ _
      apply Async.Keeps.bind (keeps_plain .now trivial rfl)
      intro time _
      have hentry : rules.Keeps on (fun _ => True)
          (sendData (.obj [("time", .str time.toString)])
            (WorkerComplementController.workerDirectoryPath worker location
              form.category.uid)) := by
        apply keeps_sendElsewhere
        intro other
        rw [← pieces_dataPath_segment]
        exact apart_directoryPath_dataPath _ _ _ _ _ _
      apply Async.Keeps.bind hentry
      intro _ _
      exact Async.keeps_done trivial

theorem keeps_finishComplement (form : Complement) :
    rules.Keeps none (fun _ => True)
      (WorkerComplement.finishComplement form) := by
  unfold WorkerComplement.finishComplement
  cases WorkerComplement.refusal form with
  | some text => exact keeps_plain (.showSnackBar text) trivial rfl
  | none =>
      apply Async.Keeps.bind (keeps_plain (.setLoad true) trivial rfl)
      intro _ _
      apply Async.Keeps.bind keeps_getCurrentWorker
      intro worker hworker
      have hregister : rules.Keeps none (fun _ => True)
          (WorkerComplementController.registerCompleteWorker worker
            form) := by
        cases worker with
        | none =>
            exact Async.keeps_ofExcept_any (.error DartError.noSuchMethod)
        | some profile =>
            exact keeps_registerCompleteWorker (hworker profile rfl) form
      apply Async.Keeps.bind hregister
      intro result _
      split_ifs
      · exact keeps_navigate _
      · exact keeps_plain (.showSnackBar _) trivial rfl

/-! ## The other handlers -/

theorem keeps_checkHome : rules.Keeps none (fun _ => True) Home.check := by
  apply Async.Keeps.bind
    (keeps_of_onlyReads LoginController.onlyReads_checkUserLogged)
  intro signedIn _
  split_ifs
  · exact keeps_navigate _
  · exact Async.keeps_done trivial

theorem keeps_login (email password : String) :
    rules.Keeps none (fun _ => True) (Login.login email password) := by
  have hlogin : rules.Keeps none (fun _ => True)
      (LoginController.login email password) := by
    apply Async.Keeps.tryCatch
    · apply Async.Keeps.bind
        (keeps_plain (.signInWithEmailAndPassword email password) trivial
          rfl)
      intro _ _
      exact Async.keeps_done trivial
    · intro error
      exact Async.keeps_done trivial
  apply Async.Keeps.bind (keeps_plain (.setLoad true) trivial rfl)
  intro _ _
  apply Async.Keeps.bind hlogin
  intro result _
  split_ifs
  · apply Async.Keeps.bind (keeps_plain (.setLoad false) trivial rfl)
    intro _ _
    exact keeps_navigate _
  · apply Async.Keeps.bind (keeps_plain (.setLoad false) trivial rfl)
    intro _ _
    exact keeps_plain (.showSnackBar _) trivial rfl

theorem keeps_logOut : rules.Keeps none (fun _ => True) MenuConfig.logOut := by
  apply Async.Keeps.bind (keeps_plain .signOut trivial rfl)
  intro _ _
  apply Async.Keeps.bind (keeps_navigate _)
  intro _ _
  exact keeps_checkHome

theorem keeps_loadPictures :
    rules.Keeps on (fun _ => True) PhotosController.loadPictures :=
  keeps_of_onlyReads PhotosController.onlyReads_loadPictures

theorem keeps_updatePhotosList :
    rules.Keeps on (fun _ => True) PhotosWorker.updatePhotosList := by
  apply Async.Keeps.bind (keeps_plain (.setLoad false) trivial rfl)
  intro _ _
  exact keeps_loadPictures.ignore

theorem keeps_photosWorker_delete (uidImage : String) :
    rules.Keeps on (fun _ => True) (PhotosWorker.delete uidImage) := by
  have hdelete : rules.Keeps on (fun _ => True)
      (PhotosController.deletePicture uidImage) := by
    apply Async.Keeps.bind keeps_currentUid
    rintro _ ⟨user, rfl⟩
    apply Async.Keeps.bind (keeps_plain (.delete _) trivial rfl)
    intro _ _
    apply Async.Keeps.bind
      (keeps_plain (.remove _) (apart_photoPath uidImage) rfl)
    intro _ _
    exact Async.keeps_done trivial
  apply Async.Keeps.bind (keeps_plain (.setLoad true) trivial rfl)
  intro _ _
  apply Async.Keeps.bind hdelete
  intro _ _
  exact keeps_updatePhotosList

theorem keeps_addPicture (description : String) (file : File) :
    rules.Keeps on (fun _ => True)
      (PhotosController.addPicture description file) := by
  apply Async.Keeps.tryCatch
  · apply Async.Keeps.bind keeps_currentUid
    rintro _ ⟨user, rfl⟩
    apply Async.Keeps.bind (keeps_plain .pushKey trivial rfl)
    intro key _
    have hupload : rules.Keeps on (fun _ => True)
        (PhotosController.uploadImage file user.val key.val) := by
      apply Async.Keeps.bind (keeps_plain (.putFile _ file) trivial rfl)
      intro _ _
      exact keeps_plain (.getDownloadURL _) trivial rfl
    apply Async.Keeps.bind hupload
    intro url _
    exact keeps_sendElsewhere (apart_photoPath key.val)
  · intro error
    exact Async.keeps_done trivial

theorem keeps_addPhoto_send (description : String) (image : Option File) :
    rules.Keeps none (fun _ => True) (AddPhoto.send description image) := by
  cases image with
  | none => exact Async.keeps_done trivial
  | some file =>
      apply Async.Keeps.bind (keeps_plain (.setLoad true) trivial rfl)
      intro _ _
      apply Async.Keeps.bind (keeps_addPicture description file)
      intro complete _
      split_ifs
      · apply Async.Keeps.bind (keeps_navigate _)
        intro _ _
        exact keeps_updatePhotosList
      · exact Async.keeps_done trivial

theorem keeps_goBack (screen : Screen) :
    rules.Keeps none (fun _ => True) (goBack screen) := by
  apply Async.Keeps.bind (keeps_navigate _)
  intro _ _
  split_ifs
  · exact keeps_updatePhotosList
  · exact Async.keeps_done trivial

/-- Every handler keeps the rules. -/
theorem endsFree_of_starts {action : Action} {device : Device}
    {program : App Unit} (hstarts : Starts device action program)
    (hholds : rules.Holds none device) : rules.EndsFree program device := by
  cases hstarts with
  | launch hroutes =>
      apply Keeps.thenFree (keeps_navigate (.push .home)) hholds
      intro _ after hafter
      exact keeps_checkHome.endsFree hafter
  | back hroutes => exact (keeps_goBack _).endsFree hholds
  | @handler top below action program hroutes hload hhandles =>
      have hscreens : device.screens =
          top.screen :: below.map Route.screen := by
        unfold Device.screens
        rw [hroutes]
        rfl
      generalize top.screen = screen at hhandles hscreens
      have hnavigate (navigation : Navigation) :
          rules.EndsFree (Navigator.navigate navigation) device :=
        (keeps_navigate navigation).endsFree hholds
      cases hhandles with
      | login email password =>
          exact (keeps_login email password).endsFree hholds
      | register typeUser form agrees =>
          apply endsFreeOn_btnRegisterClicked typeUser form agrees
          exact ⟨hholds.session, fun _ heq => by
            rw [hscreens, Option.some.inj heq]⟩
      | clientChoice => exact keeps_userChoice_client.endsFree hholds
      | workerChoice => exact keeps_userChoice_worker.endsFree hholds
      | finishComplement form =>
          exact (keeps_finishComplement form).endsFree hholds
      | logOut => exact keeps_logOut.endsFree hholds
      | photos =>
          apply Keeps.thenFree (keeps_navigate _) hholds
          intro _ after hafter
          exact Keeps.endsFree keeps_loadPictures.ignore hafter
      | deletePhoto uidImage =>
          exact (keeps_photosWorker_delete uidImage).endsFree hholds
      | sendPhoto description image =>
          exact (keeps_addPhoto_send description image).endsFree hholds
      | _ => exact hnavigate _

end Programs

/-! ## Runs -/

section Runs

variable {rules} {DeviceId : Type} [DecidableEq DeviceId]

/-- Accounts are registered as what the rules allow. -/
def Registers (rules : AccountRules) (world : World DeviceId)
    (event : Event DeviceId Action Oracle) : Prop :=
  ∀ next, app.step world event = some next →
    ∀ account ∈ next.shared.accounts, account ∉ world.shared.accounts →
      ∀ typeUser rest,
        (world.locals event.agent).screens =
            .simpleRegister typeUser :: rest →
          rules.registered typeUser account.uid

/-- Records, sessions and handlers are as the rules allow. -/
structure Kept (rules : AccountRules) (world : World DeviceId) : Prop where
  records : ∀ uid, world.shared.read (dataPath uid.val) = .null ∨
    rules.AllowsRecord uid (world.shared.read (dataPath uid.val))
  devices : ∀ device,
    world.TaskInv (fun _ => rules.rely) (fun _ _ _ => rules.Allows)
      (fun _ => rules.Holds none) device

omit [DecidableEq DeviceId] in
theorem kept_initial : rules.Kept (World.initial DeviceId) := by
  constructor
  · intro uid
    exact Or.inl (Json.get_null _)
  · intro device
    constructor
    · rintro user huser
      cases huser
    · rintro screens hscreens
      cases hscreens

/-- An account that is created is new. -/
theorem new_account_of_created {email password : String} {oracle : Oracle}
    {backend : Backend} {device : Device} {uid : Segment}
    (hcreated :
      ((Request.createUserWithEmailAndPassword email password).exec oracle
        backend device).1 = .ok uid) :
    ∃ account ∈
      ((Request.createUserWithEmailAndPassword email password).exec oracle
        backend device).2.1.accounts,
      account.uid = uid ∧ account ∉ backend.accounts := by
  simp only [Request.exec] at hcreated
  split_ifs at hcreated with haccepts
  cases hcreated
  have hfresh : ∀ account ∈ backend.accounts,
      account.uid ≠ oracle.uid := by
    rw [Bool.and_eq_true, Backend.acceptsAccount, Bool.and_eq_true,
      Bool.not_eq_true', Bool.not_eq_true'] at haccepts
    have hused := haccepts.2.2
    unfold Backend.uidUsed at hused
    rw [List.any_eq_false] at hused
    intro account hmem heq
    exact hused account hmem (decide_eq_true heq)
  have hadded :
      ((Request.createUserWithEmailAndPassword email password).exec oracle
        backend device).2.1 =
          backend.addAccount email password oracle.uid := by
    simp only [Request.exec, haccepts, if_true]
  rw [hadded]
  refine ⟨⟨email, password, oracle.uid⟩,
    List.mem_append_right _ (List.mem_singleton.mpr rfl), rfl, ?_⟩
  intro hmem
  exact hfresh _ hmem rfl

theorem Kept.tells {world : World DeviceId} (hkept : rules.Kept world)
    {device : DeviceId} {oracle : Oracle}
    (hregisters : rules.Registers world (.resume device oracle))
    {action : Action} {request : Request}
    (hpending : world.pending device = some (action, request)) :
    rules.Tells (world.locals device) request
      (request.exec oracle world.shared (world.locals device)).1 := by
  obtain ⟨rest, htask⟩ := Config.exists_task_of_pending hpending
  have hmoves : app.Moves world (.resume device oracle) _ := .resume htask
  cases request with
  | createUserWithEmailAndPassword email password =>
      cases hanswer : ((Request.createUserWithEmailAndPassword email
        password).exec oracle world.shared (world.locals device)).1 with
      | error error => trivial
      | ok uid =>
          intro typeUser rest hscreens
          obtain ⟨account, hmem, rfl, hnew⟩ :=
            new_account_of_created hanswer
          exact hregisters _ hmoves.step account hmem hnew typeUser rest
            hscreens
  | once path =>
      simp only [Request.exec]
      split_ifs
      · rintro uid rfl
        exact hkept.records uid
      · trivial
  | _ => trivial

/-- A request leaves a record as it is or writes one the rules allow. -/
theorem Allows.record_exec {request : Request}
    (hallows : rules.Allows request) (oracle : Oracle) (backend : Backend)
    (device : Device) (uid : Segment) :
    (request.exec oracle backend device).2.1.read (dataPath uid.val) =
        backend.read (dataPath uid.val) ∨
      rules.AllowsRecord uid
        ((request.exec oracle backend device).2.1.read
          (dataPath uid.val)) := by
  have hwrite : ∀ path data,
      (pieces path = recordPieces uid ∧
          rules.AllowsRecord uid data.prune ∨
        Json.Apart (pieces path) (recordPieces uid)) →
      (backend.write path data).read (dataPath uid.val) =
          backend.read (dataPath uid.val) ∨
        rules.AllowsRecord uid
          ((backend.write path data).read (dataPath uid.val)) := by
    rintro path data (⟨hpath, hrecord⟩ | hapart)
    · right
      rw [← pieces_dataPath_segment] at hpath
      unfold Backend.read Backend.write
      rw [← hpath, Json.get_setAt_self]
      exact hrecord
    · left
      apply Backend.read_write_of_apart
      rw [pieces_dataPath_segment]
      exact hapart
  cases hwrites : request.writesDatabase with
  | false =>
      left
      unfold Backend.read
      rw [Request.exec_database hwrites]
  | true =>
      cases request with
      | set path data =>
          simp only [Request.exec]
          split_ifs
          · exact hwrite path data (hallows uid)
          · exact Or.inl rfl
      | remove path =>
          simp only [Request.exec]
          split_ifs
          · exact hwrite path .null (Or.inr (hallows uid))
          · exact Or.inl rfl
      | _ => cases hwrites

theorem Kept.record_step {world next : World DeviceId}
    (hkept : rules.Kept world) {event : Event DeviceId Action Oracle}
    (hstep : app.step world event = some next) (uid : Segment) :
    next.shared.read (dataPath uid.val) =
        world.shared.read (dataPath uid.val) ∨
      rules.AllowsRecord uid (next.shared.read (dataPath uid.val)) := by
  rcases (Machine.moves_of_step hstep).shared_cases with
    hshared | ⟨device, oracle, action, request, -, hpending, hshared⟩
  · rw [hshared]
    exact Or.inl rfl
  · have hallows : rules.Allows request :=
      (hkept.devices device).guarantee hpending
    rw [hshared]
    exact hallows.record_exec oracle world.shared (world.locals device) uid

/-- One step of any device keeps the rules. -/
theorem Kept.step {world next : World DeviceId} (hkept : rules.Kept world)
    {event : Event DeviceId Action Oracle}
    (hregisters : rules.Registers world event)
    (hstep : app.step world event = some next) : rules.Kept next := by
  constructor
  · intro uid
    rcases hkept.record_step hstep uid with hsame | hrecord
    · rw [hsame]
      exact hkept.records uid
    · exact Or.inr hrecord
  · intro device
    refine Machine.taskInv_step (hkept.devices device) ?_ ?_ ?_ hstep
    · intro action program _ _ hholds hstart
      exact endsFree_of_starts (starts_of_startAction hstart) hholds
    · rintro oracle action request rfl hpending
      exact ⟨Request.exec_outcome request oracle world.shared _,
        hkept.tells hregisters hpending⟩
    · intro state _
      constructor
      · rintro user huser
        cases huser
      · rintro screens hscreens
        cases hscreens

theorem Kept.of_reaches {world next : World DeviceId}
    (hkept : rules.Kept world)
    (hreach : app.Reaches rules.Registers world next) : rules.Kept next :=
  hreach.invariant hkept (fun _ _ _ hbefore hregisters hstep =>
    hbefore.step hregisters hstep)

/-- A request puts nobody else in the session than whom the rules allow. -/
theorem Allows.session {request : Request} (hallows : rules.Allows request)
    {device next : Device} (hsession : rules.AllowsSession device)
    {answer : Except DartError request.Answer}
    (houtcome : request.Outcome device answer next) :
    rules.AllowsSession next := by
  intro user huser
  cases hchanges : request.changesSession with
  | false =>
      rw [houtcome.currentUser_eq hchanges] at huser
      exact hsession user huser
  | true =>
      cases request with
      | setSession found =>
          obtain ⟨-, rfl⟩ := houtcome
          cases huser
          exact hallows
      | _ => cases hchanges

/-- Sessions stay as the rules allow, also while handlers run. -/
theorem Kept.sessions_stay {world next : World DeviceId}
    (hkept : rules.Kept world)
    (hsessions : ∀ device, rules.AllowsSession (world.locals device))
    (hreach : app.Reaches rules.Registers world next) (device : DeviceId) :
    rules.AllowsSession (next.locals device) := by
  induction hreach with
  | refl => exact hsessions device
  | @next before after event hbefore hregisters hstep ih =>
      rcases (Machine.moves_of_step hstep).local_cases device with
        hlocal | hlocal | ⟨oracle, action, request, -, hpending, -, hlocal⟩
      · rw [hlocal]
        exact ih
      · rw [hlocal]
        rintro user huser
        cases huser
      · have hallows : rules.Allows request :=
          ((hkept.of_reaches hbefore).devices device).guarantee hpending
        rw [hlocal]
        exact hallows.session ih
          (Request.exec_outcome request oracle before.shared _)

/-- A record is never removed. -/
theorem Kept.record_stays {world next : World DeviceId}
    (hkept : rules.Kept world)
    (hreach : app.Reaches rules.Registers world next) {uid : Segment}
    (hrecord : world.shared.read (dataPath uid.val) ≠ .null) :
    next.shared.read (dataPath uid.val) ≠ .null := by
  induction hreach with
  | refl => exact hrecord
  | @next before after event hbefore hregisters hstep ih =>
      rcases (hkept.of_reaches hbefore).record_step hstep uid with
        hsame | ⟨_, -, hprofile⟩
      · rw [hsame]
        exact ih
      · exact hprofile.ne_null

end Runs

end AccountRules

end FoliumApp
