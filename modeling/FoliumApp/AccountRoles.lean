import FoliumApp.AccountRules
import FoliumApp.ReachedStates

/-!
# What becomes of an account

An account is registered as a client's or as a worker's, and its profile, once
there is one, stays and stays of that kind, whatever the devices signed in
with it do.  An account that has lost its session before a profile was written
never gets one.
-/

namespace FoliumApp

open PathTree AsyncProgram CallSequences

section Accounts

variable {DeviceId : Type} [DecidableEq DeviceId]

/-! ## New accounts -/

theorem accounts_grow_along
    {allowed : World DeviceId → Event DeviceId Action Oracle → Prop}
    {world next : World DeviceId} (hreach : app.Reaches allowed world next)
    {account : Account} (hmem : account ∈ world.shared.accounts) :
    account ∈ next.shared.accounts := by
  induction hreach with
  | refl => exact hmem
  | next _ _ hstep ih => exact accounts_grow hstep ih

/-- An account that is new has a uid of its own. -/
theorem uid_ne_of_new {before after : World DeviceId}
    {event : Event DeviceId Action Oracle}
    (hreach : app.Reaches (fun _ _ => True) (World.initial DeviceId) before)
    (hstep : app.step before event = some after) {account other : Account}
    (hmem : account ∈ after.shared.accounts)
    (hnew : account ∉ before.shared.accounts)
    (hother : other ∈ before.shared.accounts) :
    other.uid ≠ account.uid := by
  have hafter : app.Reaches
      (fun _ event => NamesOffered (fun _ _ _ => True) event)
      (World.initial DeviceId) after := by
    apply (hreach.next trivial hstep).mono
    intro _ event _
    exact namesOffered_any event
  have huids := (sound_of_reaches hafter).uids
  intro heq
  have hsame := List.inj_on_of_nodup_map huids
    (accounts_grow hstep hother) hmem heq
  subst hsame
  exact hnew hother

theorem reaches_of_run {start world : World DeviceId}
    {events : List (Event DeviceId Action Oracle)}
    (hrun : app.run start events = some world) :
    app.Reaches (fun _ _ => True) start world :=
  Reaches.refl.run events
    (eachAllowed_of_forall (fun _ _ => trivial) _ _) hrun

/-! ## Roles -/

/-- Every account as what it was registered as. -/
def roleRules (role : Segment → TypeUser) : AccountRules where
  registered typeUser uid := role uid = typeUser
  session typeUser uid := typeUser = .trabalhador → role uid = .trabalhador
  stored typeUser uid := role uid = typeUser
  session_of_registered hrole htype := hrole.trans htype
  stored_of_registered hrole := hrole
  stored_of_session hsession := hsession rfl
  session_of_stored hrole := ⟨fun htype => hrole.trans htype, nofun⟩

/-- What the form on the screen registers accounts as. -/
def Device.registersAs (device : Device) : Option TypeUser :=
  match device.screens with
  | .simpleRegister typeUser :: _ => some typeUser
  | _ => none

/-- The steps of a run only look at the roles of accounts there are at its
end. -/
theorem registers_congr {role other : Segment → TypeUser}
    {start world : World DeviceId}
    (hreach : app.Reaches (roleRules role).Registers start world)
    (hagree : ∀ account ∈ world.shared.accounts,
      other account.uid = role account.uid) :
    app.Reaches (roleRules other).Registers start world := by
  have hgrows : ∀ (before : World DeviceId) event after,
      app.step before event = some after →
        ∀ account, account ∈ before.shared.accounts →
          account ∈ after.shared.accounts := by
    intro before event after hstep account hmem
    exact accounts_grow hstep hmem
  have hbounded := hreach.bounded hgrows
    (fun account (hmem : account ∈ world.shared.accounts) => hmem)
  apply hbounded.mono
  rintro before event ⟨hregisters, hbound⟩
  intro after hstep account hmem hnew typeUser rest hscreens
  have hrole := hregisters after hstep account hmem hnew typeUser rest
    hscreens
  exact (hagree account (hbound after hstep account hmem)).trans hrole

open Classical in
/-- The roles after a step: new accounts are as the form says. -/
noncomputable def rolesAfter (role : Segment → TypeUser)
    (before after : World DeviceId) (event : Event DeviceId Action Oracle)
    (uid : Segment) : TypeUser :=
  if ∃ account ∈ after.shared.accounts,
      account ∉ before.shared.accounts ∧ account.uid = uid
  then ((before.locals event.agent).registersAs).getD (role uid)
  else role uid

theorem registers_rolesAfter (role : Segment → TypeUser)
    {before after : World DeviceId}
    {event : Event DeviceId Action Oracle}
    (hstep : app.step before event = some after) :
    (roleRules (rolesAfter role before after event)).Registers before
      event := by
  intro next hnext account hmem hnew typeUser rest hscreens
  rw [hstep, Option.some.injEq] at hnext
  subst hnext
  have hshown : (before.locals event.agent).registersAs =
      some typeUser := by
    unfold Device.registersAs
    rw [hscreens]
  change rolesAfter role before after event account.uid = typeUser
  unfold rolesAfter
  rw [if_pos ⟨account, hmem, hnew, rfl⟩, hshown]
  rfl

theorem rolesAfter_eq (role : Segment → TypeUser)
    {before after : World DeviceId}
    {event : Event DeviceId Action Oracle}
    (hreach : app.Reaches (fun _ _ => True) (World.initial DeviceId) before)
    (hstep : app.step before event = some after) {account : Account}
    (hmem : account ∈ before.shared.accounts) :
    rolesAfter role before after event account.uid = role account.uid := by
  unfold rolesAfter
  apply if_neg
  rintro ⟨found, hfound, hnew, heq⟩
  exact uid_ne_of_new hreach hstep hfound hnew hmem heq.symm

/-- Every account has been registered as something, and so have the accounts
there were before. -/
theorem exists_roles {world next : World DeviceId}
    (hreach : app.Reaches (fun _ _ => True) (World.initial DeviceId) world)
    (hlater : app.Reaches (fun _ _ => True) world next)
    (role : Segment → TypeUser) :
    ∃ roles : Segment → TypeUser,
      (∀ account ∈ world.shared.accounts,
        roles account.uid = role account.uid) ∧
      app.Reaches (roleRules roles).Registers world next := by
  induction hlater with
  | refl => exact ⟨role, fun _ _ => rfl, .refl⟩
  | @next before after event hbefore _ hstep ih =>
      obtain ⟨roles, hagree, hroles⟩ := ih
      have hreached := hreach.trans hbefore
      have hsame : ∀ account ∈ before.shared.accounts,
          rolesAfter roles before after event account.uid =
            roles account.uid :=
        fun account hmem => rolesAfter_eq roles hreached hstep hmem
      refine ⟨rolesAfter roles before after event, ?_,
        (registers_congr hroles hsame).next
          (registers_rolesAfter roles hstep) hstep⟩
      intro account hmem
      exact (hsame account (accounts_grow_along hbefore hmem)).trans
        (hagree account hmem)

/-- Once an account has a profile it keeps one, and of the same kind: a
worker's stays a worker's, and a client's never becomes one. -/
theorem accounts_keep_roles {world next : World DeviceId}
    (hreach : app.Reaches (fun _ _ => True) (World.initial DeviceId) world)
    (hlater : app.Reaches (fun _ _ => True) world next) {uid : Segment}
    (hrecord : world.shared.read (dataPath uid.val) ≠ .null) :
    next.shared.read (dataPath uid.val) ≠ .null ∧
      ((∃ worker,
        decodedWorker (next.shared.read (dataPath uid.val)) =
          .ok worker) ↔
        ∃ worker,
          decodedWorker (world.shared.read (dataPath uid.val)) =
            .ok worker) := by
  obtain ⟨earlier, -, hearlier⟩ :=
    exists_roles .refl hreach (fun _ => .cliente)
  obtain ⟨role, hagree, hrole⟩ := exists_roles hreach hlater earlier
  have hkept : (roleRules role).Kept world :=
    AccountRules.kept_initial.of_reaches (registers_congr hearlier hagree)
  have hstays := hkept.record_stays hrole hrecord
  refine ⟨hstays, ?_⟩
  have hkind : ∀ state : World DeviceId, (roleRules role).Kept state →
      state.shared.read (dataPath uid.val) ≠ .null →
        ((∃ worker, decodedWorker
          (state.shared.read (dataPath uid.val)) = .ok worker) ↔
            role uid = .trabalhador) := by
    intro state hstate hfound
    rcases hstate.records uid with hnull | ⟨typeUser, rfl, hprofile⟩
    · exact absurd hnull hfound
    · exact hprofile.decodes_iff
  rw [hkind next (hkept.of_reaches hrole) hstays,
    hkind world hkept hrecord]

/-- The worker chooses the role of a client, and then works again. -/
def changesRoles : List (Event Unit Action Oracle) :=
  perform .settings firstUid 1 ++ perform .changeView firstUid 1 ++
    perform .clientChoice firstUid 5 ++
    perform .settings firstUid 1 ++ perform .changeView firstUid 1 ++
    perform .workerChoice firstUid 5

theorem accounts_keep_roles_changesRoles :
    ∃ world next : World Unit,
      app.run (World.initial Unit) completedRegistration = some world ∧
      app.run world changesRoles = some next ∧
      next.shared.read (dataPath firstUid.val) ≠ .null ∧
      ((∃ worker, decodedWorker
          (next.shared.read (dataPath firstUid.val)) = .ok worker) ↔
        ∃ worker, decodedWorker
          (world.shared.read (dataPath firstUid.val)) = .ok worker) := by
  have hrun : (app.run (World.initial Unit) completedRegistration).any
      (fun world =>
        !(world.shared.read (dataPath firstUid.val)).fieldsOf.isEmpty &&
          (app.run world changesRoles).isSome) = true := by
    decide +kernel
  obtain ⟨world, hworld, hchecks⟩ := (Option.any_eq_true _ _).mp hrun
  rw [Bool.and_eq_true, Option.isSome_iff_exists] at hchecks
  obtain ⟨hrecord, next, hnext⟩ := hchecks
  refine ⟨world, next, hworld, hnext, accounts_keep_roles
    (reaches_of_run hworld) (reaches_of_run hnext) ?_⟩
  intro hnull
  rw [hnull] at hrecord
  cases hrecord

/-! ## Lost registrations -/

/-- Everything but the one account. -/
def rulesWithout (lost : Segment) : AccountRules where
  registered _ uid := uid ≠ lost
  session _ uid := uid ≠ lost
  stored _ uid := uid ≠ lost
  session_of_registered hne := hne
  stored_of_registered hne := hne
  stored_of_session hne := hne
  session_of_stored hne := ⟨hne, hne⟩

theorem registers_without {world next : World DeviceId}
    (hreach : app.Reaches (fun _ _ => True) (World.initial DeviceId) world)
    {account : Account} (hmem : account ∈ world.shared.accounts)
    (hlater : app.Reaches (fun _ _ => True) world next) :
    app.Reaches (rulesWithout account.uid).Registers world next := by
  induction hlater with
  | refl => exact .refl
  | @next before after event hbefore _ hstep ih =>
      refine ih.next ?_ hstep
      intro found hfound other hother hnew _ _ _
      rw [hstep, Option.some.injEq] at hfound
      subst hfound
      exact (uid_ne_of_new (hreach.trans hbefore) hstep hother hnew
        (accounts_grow_along hbefore hmem)).symm

theorem allowsSession_without {world : World DeviceId}
    (hreach : app.Reaches (fun _ _ => True) (World.initial DeviceId) world)
    {uid : Segment}
    (hsessions : ∀ device user,
      (world.locals device).currentUser = some user →
        user.toUser.uid ≠ some uid.val) (device : DeviceId) :
    (rulesWithout uid).AllowsSession (world.locals device) := by
  obtain ⟨noted, rfl, -, hconsistent⟩ :=
    noted_of_reaches (fun _ event _ => namesOffered_any event) hreach
  intro user huser
  obtain ⟨other, hadmits⟩ := hconsistent.sessions device user huser
  refine ⟨other, hadmits.isOf, ?_⟩
  rintro rfl
  exact hsessions device user huser hadmits.uid_eq

theorem kept_without {world : World DeviceId}
    (hreach : app.Reaches (fun _ _ => True) (World.initial DeviceId) world)
    {uid : Segment} (hrest : ∀ device, world.tasks device = none)
    (hrecord : world.shared.read (dataPath uid.val) = .null)
    (hsessions : ∀ device,
      (rulesWithout uid).AllowsSession (world.locals device)) :
    (rulesWithout uid).Kept world := by
  obtain ⟨noted, rfl, -, hconsistent⟩ :=
    noted_of_reaches (fun _ event _ => namesOffered_any event) hreach
  constructor
  · intro other
    rcases hconsistent.sound.records other with hnull | hfound
    · exact Or.inl hnull
    · obtain ⟨typeUser, hprofile⟩ := hfound.profileOf
      refine Or.inr ⟨typeUser, ?_, hprofile⟩
      rintro rfl
      exact hprofile.ne_null hrecord
  · intro device
    unfold Config.TaskInv
    rw [hrest device]
    exact ⟨hsessions device, nofun⟩

/-- An account without a profile that no session knows any more, on devices
at rest, never has a profile again and is in no session at any later moment:
its registration cannot be finished and its user can only register anew. -/
theorem lost_registrations_stay_lost {world next : World DeviceId}
    (hreach : app.Reaches (fun _ _ => True) (World.initial DeviceId) world)
    {account : Account} (hmem : account ∈ world.shared.accounts)
    (hrest : ∀ device, world.tasks device = none)
    (hrecord : world.shared.read (dataPath account.uid.val) = .null)
    (hsessions : ∀ device user,
      (world.locals device).currentUser = some user →
        user.toUser.uid ≠ some account.uid.val)
    (hlater : app.Reaches (fun _ _ => True) world next) :
    next.shared.read (dataPath account.uid.val) = .null ∧
      ∀ device user, (next.locals device).currentUser = some user →
        user.toUser.uid ≠ some account.uid.val := by
  have hallows := allowsSession_without hreach hsessions
  have hkept := kept_without hreach hrest hrecord hallows
  have hregisters := registers_without hreach hmem hlater
  constructor
  · rcases (hkept.of_reaches hregisters).records account.uid with
      hnull | ⟨_, hne, -⟩
    · exact hnull
    · exact absurd rfl hne
  · intro device user huser heq
    obtain ⟨uid, hisOf, hne⟩ :=
      hkept.sessions_stay hallows hregisters device user huser
    rw [hisOf.uid_eq, Option.some.injEq] at heq
    exact hne (Subtype.ext heq)

/-- Ana's app is closed before she has completed her registration. -/
def closedBeforeProfile : List (Event Unit Action Oracle) :=
  toRegisterForm .trabalhador ++
    perform (registers (registerForm "Ana Souza" "ana@folium.work"))
      firstUid 6 ++
    [.kill ()]

/-- She opens it again and chooses to work. -/
def comesBack : List (Event Unit Action Oracle) :=
  perform .launch firstUid 3 ++ perform .workerChoice firstUid 4

def Backend.lacksRecord (backend : Backend) (account : Account) : Bool :=
  match backend.read (dataPath account.uid.val) with
  | .null => true
  | _ => false

theorem lost_registrations_stay_lost_closedBeforeProfile :
    ∃ world next : World Unit,
      app.run (World.initial Unit) closedBeforeProfile = some world ∧
      app.run world comesBack = some next ∧
      ∃ account ∈ world.shared.accounts,
        next.shared.read (dataPath account.uid.val) = .null ∧
        ∀ device user, (next.locals device).currentUser = some user →
          user.toUser.uid ≠ some account.uid.val := by
  have hrun : (app.run (World.initial Unit) closedBeforeProfile).any
      (fun world => (app.run world comesBack).isSome &&
        (world.tasks ()).isNone &&
        (world.locals ()).currentUser.isNone &&
        world.shared.accounts.any world.shared.lacksRecord) = true := by
    decide +kernel
  obtain ⟨world, hworld, hchecks⟩ := (Option.any_eq_true _ _).mp hrun
  simp only [Bool.and_eq_true, Option.isSome_iff_exists,
    Option.isNone_iff_eq_none, List.any_eq_true] at hchecks
  obtain ⟨⟨⟨⟨next, hnext⟩, htask⟩, hsession⟩, account, hmem, hread⟩ :=
    hchecks
  refine ⟨world, next, hworld, hnext, account, hmem,
    lost_registrations_stay_lost (reaches_of_run hworld) hmem
      (fun _ => htask) ?_ ?_ (reaches_of_run hnext)⟩
  · unfold Backend.lacksRecord at hread
    split at hread
    · assumption
    · cases hread
  · intro device user huser
    rw [hsession] at huser
    cases huser

end Accounts

end FoliumApp
