import FoliumApp.StoreContents

/-!
# The services and the devices together

A handler may only be told what the services hold, and the services only hold
what handlers ask for.  So what is known of both is carried along a run as
one invariant.  The accounts it speaks of are those of the end of the run:
accounts are never removed.
-/

namespace FoliumApp

open PathTree AsyncProgram CallSequences

/-! ## The invariant -/

abbrev NotedWorld (DeviceId : Type) :=
  Config DeviceId Request Request.Answer DartError Action Backend Phased

/-- The app with the phase of every device noted; a device that is killed
owes nothing. -/
def notedApp : Machine Request Request.Answer DartError Action Oracle Backend
    Phased :=
  app.noting Phase.advance (.free none)

/-- The services are sound, every account in use and every user in a session
is in the registry, and every device is idle and settled or in a lawful
handler. -/
structure Registry.Consistent {DeviceId : Type} (registry : Registry)
    (world : NotedWorld DeviceId) : Prop where
  sound : registry.Sound world.shared
  knows : ∀ device, registry.Knows (world.locals device).1
  sessions : ∀ device, registry.AdmitsSession (world.locals device).1
  devices : ∀ device,
    world.TaskInv (fun _ => registry.rely)
      (fun _ action => registry.guar action) (fun _ => registry.Settled)
      device

def NotedWorld.initial (DeviceId : Type) : NotedWorld DeviceId :=
  (World.initial DeviceId).noted (.free none)

section Steps

variable {DeviceId : Type} [DecidableEq DeviceId] {registry : Registry}
  {world next : NotedWorld DeviceId}

theorem Registry.settled_blank (registry : Registry) {device : Device}
    (hsession : device.currentUser = none) :
    registry.Settled (device, .free none) := by
  refine ⟨none, ?_, rfl, ?_⟩
  · rintro user huser
    rw [hsession] at huser
    cases huser
  · rintro uid huid
    cases huid

omit [DecidableEq DeviceId] in
theorem Registry.consistent_initial (registry : Registry) :
    registry.Consistent (NotedWorld.initial DeviceId) := by
  refine ⟨registry.sound_empty, ?_, ?_, ?_⟩
  · rintro device uid huid
    cases huid
  · rintro device user huser
    cases huser
  · intro device
    exact registry.settled_blank rfl

omit [DecidableEq DeviceId] in
theorem Registry.Consistent.lawful (hconsistent : registry.Consistent world)
    {device : DeviceId} {action : Action} {request : Request}
    (hpending : world.pending device = some (action, request)) :
    registry.Lawful action (world.locals device).1 (world.locals device).2
      request :=
  (hconsistent.devices device).guarantee hpending

theorem Registry.Lawful.admitsSession {action : Action} {device : Device}
    {phase : Phase} {request : Request}
    (hlawful : registry.Lawful action device phase request)
    (hadmits : registry.AdmitsSession device)
    {answer : Except DartError request.Answer} {after : Device}
    (houtcome : request.Outcome device answer after) :
    registry.AdmitsSession after := by
  rintro user huser
  cases hchanges : request.changesSession with
  | false =>
      rw [houtcome.currentUser_eq hchanges] at huser
      exact hadmits user huser
  | true =>
      cases hlawful with
      | @setSession account uid found hfound =>
          obtain ⟨-, rfl⟩ := houtcome
          cases huser
          exact ⟨uid, hfound⟩
      | _ => cases hchanges

/-- One step of any device keeps the invariant. -/
theorem Registry.Consistent.step (hconsistent : registry.Consistent world)
    {event : Event DeviceId Action Oracle}
    (hpermits : ∀ device action, event = .act device action →
      registry.Permits action)
    (hstep : notedApp.step world event = some next)
    (hregistered : ∀ account ∈ next.shared.accounts,
      registry.account account.uid account.email) :
    registry.Consistent next := by
  have hmoves := Machine.moves_of_step hstep
  refine ⟨?_, ?_, ?_, ?_⟩
  · rcases hmoves.shared_cases with
      hshared | ⟨device, oracle, action, request, -, hpending, hshared⟩
    · rw [hshared]
      exact hconsistent.sound
    · rw [hshared] at hregistered ⊢
      exact hconsistent.sound.exec (hconsistent.lawful hpending)
        (hconsistent.knows device) oracle hregistered
  · intro device
    rcases hmoves.local_cases device with hlocal | hlocal |
      ⟨oracle, action, request, -, hpending, hshared, hlocal⟩
    · rw [hlocal]
      exact hconsistent.knows device
    · rw [hlocal]
      exact hconsistent.knows device
    · rw [hshared] at hregistered
      rw [hlocal]
      exact hconsistent.sound.knows (hconsistent.knows device) request oracle
        hregistered
  · intro device
    rcases hmoves.local_cases device with hlocal | hlocal |
      ⟨oracle, action, request, -, hpending, hshared, hlocal⟩
    · rw [hlocal]
      exact hconsistent.sessions device
    · rw [hlocal]
      rintro user huser
      cases huser
    · rw [hlocal]
      exact (hconsistent.lawful hpending).admitsSession
        (hconsistent.sessions device)
        (Request.exec_outcome request oracle world.shared _)
  · intro device
    refine Machine.taskInv_step (hconsistent.devices device) ?_ ?_ ?_ hstep
    · intro action program hevent _ hsettled hstart
      apply Async.Safe.mono _
        (works_of_starts (hpermits device action hevent)
          (starts_of_startAction hstart) _ hsettled)
      intro answer last hlast
      exact hlast.1
    · rintro oracle action request rfl hpending
      obtain ⟨rest, htask⟩ := Config.exists_task_of_pending hpending
      have hshared : next.shared = (request.exec oracle world.shared
          (world.locals device).1).2.1 := by
        have hresumes : notedApp.Moves world (.resume device oracle) _ :=
          .resume htask
        rw [hresumes.step, Option.some.injEq] at hstep
        subst hstep
        rfl
      rw [hshared] at hregistered
      exact ⟨Request.exec_outcome request oracle world.shared _,
        hconsistent.sound.tells (hconsistent.knows device) request oracle
          hregistered, rfl⟩
    · rintro ⟨device, phase⟩ _
      exact registry.settled_blank rfl

end Steps

/-! ## Every run -/

/-- The accounts of a state, and the places that are on offer. -/
def World.registry {DeviceId : Type} (world : World DeviceId)
    (offered : String → String → String → Prop) : Registry :=
  { account := fun uid email =>
      ∃ account ∈ world.shared.accounts,
        account.uid = uid ∧ account.email = email
    offered }

/-- Registrations read places that are on offer. -/
def NamesOffered {DeviceId : Type}
    (offered : String → String → String → Prop) :
    Event DeviceId Action Oracle → Prop
  | .act _ (.register _ agrees) => ∀ held, agrees = some held →
      offered held.country held.state held.city
  | _ => True

theorem NamesOffered.mono {DeviceId : Type}
    {offered other : String → String → String → Prop}
    (hall : ∀ country state city, offered country state city →
      other country state city)
    {event : Event DeviceId Action Oracle}
    (hoffered : NamesOffered offered event) : NamesOffered other event := by
  cases event with
  | act device action =>
      cases action with
      | register form agrees =>
          intro held hagrees
          exact hall _ _ _ (hoffered held hagrees)
      | _ => trivial
  | _ => trivial

theorem namesOffered_any {DeviceId : Type}
    (event : Event DeviceId Action Oracle) :
    NamesOffered (fun _ _ _ => True) event := by
  cases event with
  | act device action => cases action <;> simp [NamesOffered]
  | resume device oracle => trivial
  | kill device => trivial

section Runs

variable {DeviceId : Type} [DecidableEq DeviceId] {world : World DeviceId}
  {offered : String → String → String → Prop}
  {allowed : World DeviceId → Event DeviceId Action Oracle → Prop}

theorem Request.exec_accounts_grow (request : Request) (oracle : Oracle)
    (backend : Backend) (device : Device) {account : Account}
    (hmem : account ∈ backend.accounts) :
    account ∈ (request.exec oracle backend device).2.1.accounts := by
  cases hchanges : request.changesServices with
  | false =>
      rw [Request.exec_services hchanges]
      exact hmem
  | true =>
      cases request with
      | createUserWithEmailAndPassword email password =>
          simp only [Request.exec]
          split_ifs
          · exact List.mem_append_left _ hmem
          · exact hmem
      | set path value =>
          simp only [Request.exec]
          split_ifs <;> exact hmem
      | remove path =>
          simp only [Request.exec]
          split_ifs <;> exact hmem
      | putFile path file =>
          simp only [Request.exec]
          split_ifs <;> exact hmem
      | delete path =>
          simp only [Request.exec]
          split_ifs <;> exact hmem
      | _ => cases hchanges

theorem accounts_grow {world next : World DeviceId}
    {event : Event DeviceId Action Oracle}
    (hstep : app.step world event = some next) {account : Account}
    (hmem : account ∈ world.shared.accounts) :
    account ∈ next.shared.accounts := by
  cases Machine.moves_of_step hstep with
  | act htask hprogram => exact hmem
  | kill => exact hmem
  | resume htask => exact Request.exec_accounts_grow _ _ _ _ hmem

/-- Every state the app reaches is that of a run with phases, whose states
are all consistent. -/
theorem noted_of_reaches
    (hoffered : ∀ world event, allowed world event →
      NamesOffered offered event)
    (hreach : app.Reaches allowed (World.initial DeviceId) world) :
    ∃ noted : NotedWorld DeviceId, noted.plain = world ∧
      notedApp.Reaches
        (fun state event => allowed state.plain event ∧
          (world.registry offered).Consistent state ∧
          ∀ next, notedApp.step state event = some next →
            (world.registry offered).Consistent next)
        (NotedWorld.initial DeviceId) noted ∧
      (world.registry offered).Consistent noted := by
  have hgrows : ∀ (before : World DeviceId) event after,
      app.step before event = some after →
        ∀ account, account ∈ before.shared.accounts →
          account ∈ after.shared.accounts := by
    intro before event after hstep account hmem
    exact accounts_grow hstep hmem
  have hbounded := hreach.bounded hgrows
    (fun account (hmem : account ∈ world.shared.accounts) => hmem)
  obtain ⟨noted, hnoted, hplain⟩ :=
    Machine.Reaches.noting Phase.advance (.free none) hbounded
  have hstep : ∀ (before : NotedWorld DeviceId) event after,
      (world.registry offered).Consistent before →
        ((allowed before.plain event ∧
          ∀ next, app.step before.plain event = some next →
            ∀ account, account ∈ next.shared.accounts →
              account ∈ world.shared.accounts) ∧
          ∃ next, app.step before.plain event = some next) →
        notedApp.step before event = some after →
          (world.registry offered).Consistent after := by
    rintro before event after hconsistent ⟨⟨hallowed, hbound⟩, next, hnext⟩
      hstep
    obtain ⟨found, hfound, hplain⟩ :=
      Machine.noting_step Phase.advance (.free none) hnext
    have hsame : found = after := by
      unfold notedApp at hstep
      rw [hstep, Option.some.injEq] at hfound
      exact hfound.symm
    subst hsame
    subst hplain
    apply hconsistent.step _ hstep
    · intro account hmem
      exact ⟨account, hbound _ hnext account hmem, rfl, rfl⟩
    · rintro device action rfl
      cases action with
      | register form agrees => exact hoffered _ _ hallowed
      | _ => trivial
  have hwithin := hnoted.within (Registry.consistent_initial _) hstep
  refine ⟨noted, hplain, ?_, ?_⟩
  · apply hwithin.mono
    rintro state event ⟨⟨⟨hallowed, -⟩, -⟩, hconsistent, hnext⟩
    exact ⟨hallowed, hconsistent, hnext⟩
  · exact hnoted.invariant (Registry.consistent_initial _) hstep

end Runs

end FoliumApp
