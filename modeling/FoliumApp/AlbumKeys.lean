import FoliumApp.DirectoryPaths
import FoliumApp.ReachedStates

/-!
# Keys that are given once

A push gives a key that was never given before, and a photo can only be told
to be deleted after its record was written.  With a log of the keys given and
of the paths set, both are conditions on the single step.  In a run that meets
them a key is being added by one device at most, and by none once its record
was written, so that additions and deletions never meet on a key.
-/

namespace FoliumApp

open PathTree AsyncProgram CallSequences

/-! ## The log -/

/-- A key as the database hands it out, and as the screen lists it. -/
structure OrdinaryKey (key : String) : Prop where
  segment : IsSegment key
  unreserved : Unreserved key
  notPicture : ∀ uid : String, key ≠ uid ++ "profile_image"

/-- The keys that were given and the paths that were set. -/
structure KeyLog where
  given : List String
  written : List String

namespace KeyLog

def empty : KeyLog := { given := [], written := [] }

def answered (log : KeyLog) (oracle : Oracle) : Request → KeyLog
  | .pushKey => { log with given := oracle.key.val :: log.given }
  | .set path _ => { log with written := path :: log.written }
  | _ => log

/-- Some user's record was written under the key. -/
def Recorded (log : KeyLog) (key : Segment) : Prop :=
  ∃ uid : Segment, photoPath uid.val key.val ∈ log.written

/-- What an account or a key that is given has to be like: texts for paths,
and a key was not given before. -/
def Gives (log : KeyLog) (oracle : Oracle) : Request → Prop
  | .createUserWithEmailAndPassword _ _ => Unreserved oracle.uid.val
  | .pushKey => OrdinaryKey oracle.key.val ∧ oracle.key.val ∉ log.given
  | _ => True

section Events

variable {DeviceId : Type}

/-- The log after a step: only a request that is answered is noted. -/
def after (log : KeyLog) (world : World DeviceId) :
    Event DeviceId Action Oracle → KeyLog
  | .resume device oracle =>
      match world.pending device with
      | some (_, request) => log.answered oracle request
      | none => log
  | _ => log

/-- No request fails for an outside reason, busy devices are not killed, keys
are given once, and a photo is deleted whose record was written. -/
def Undisturbed (log : KeyLog) (world : World DeviceId) :
    Event DeviceId Action Oracle → Prop
  | .act _ (.deletePhoto uidPhoto) =>
      ∃ key : Segment, key.val = uidPhoto ∧ log.Recorded key
  | .act _ _ => True
  | .resume device oracle => oracle.ok = true ∧
      ∀ action request,
        world.pending device = some (action, request) →
          log.Gives oracle request
  | .kill device => world.tasks device = none

end Events

theorem given_subset_answered (log : KeyLog) (oracle : Oracle)
    (request : Request) {key : String} (hgiven : key ∈ log.given) :
    key ∈ (log.answered oracle request).given := by
  cases request with
  | pushKey => exact List.mem_cons_of_mem _ hgiven
  | _ => exact hgiven

theorem Recorded.answered {log : KeyLog} {key : Segment}
    (hrecorded : log.Recorded key) (oracle : Oracle) (request : Request) :
    (log.answered oracle request).Recorded key := by
  obtain ⟨uid, hmem⟩ := hrecorded
  refine ⟨uid, ?_⟩
  cases request with
  | set path value => exact List.mem_cons_of_mem _ hmem
  | _ => exact hmem

end KeyLog

/-- The world is reached with this log, and nothing was disturbed. -/
def UndisturbedRun {DeviceId : Type} [DecidableEq DeviceId] :
    World DeviceId × KeyLog → Prop :=
  Reaches (logging app.step KeyLog.after)
    (fun entry => entry.2.Undisturbed entry.1)
    (World.initial DeviceId, KeyLog.empty)

/-! ## The key a device is adding -/

def Phase.adding : Phase → Option Segment
  | .uploading _ key => some key
  | .addressing _ key => some key
  | .recording _ key => some key
  | _ => none

/-- A key is being added since it was given, until its record is written. -/
theorem Phase.adding_advance (phase : Phase) (request : Request)
    (oracle : Oracle) (backend : Backend) (device : Device) {key : Segment}
    (hadding : (phase.advance request
      (request.exec oracle backend device).1).adding = some key) :
    phase.adding = some key ∧ (∀ path value, request ≠ .set path value) ∨
      request = .pushKey ∧ key = oracle.key := by
  generalize hanswer : (request.exec oracle backend device).1 = answer
    at hadding
  cases answer with
  | error error => cases request <;> cases hadding
  | ok value =>
      cases request with
      | now => exact Or.inl ⟨hadding, by simp⟩
      | pushKey =>
          right
          simp only [Request.exec, Except.ok.injEq] at hanswer
          subst hanswer
          cases phase with
          | free account =>
              cases account with
              | none => cases hadding
              | some uid =>
                  cases hadding
                  exact ⟨rfl, rfl⟩
          | _ => cases hadding
      | putFile path file =>
          cases phase with
          | uploading uid given => exact Or.inl ⟨hadding, by simp⟩
          | _ => cases hadding
      | getDownloadURL path =>
          cases phase with
          | addressing uid given => exact Or.inl ⟨hadding, by simp⟩
          | _ => cases hadding
      | delete path =>
          cases phase with
          | free account => cases account <;> cases hadding
          | _ => cases hadding
      | set path data =>
          exfalso
          cases phase with
          | free account =>
              simp only [Phase.advance, Phase.written] at hadding
              split at hadding <;> cases hadding
          | _ => cases hadding
      | _ => cases hadding

theorem ne_photoPath_of_apart {path : String} {uid key : Segment}
    (hapart : Json.Apart (pieces path) (photosNode uid ++ [key.val])) :
    photoPath uid.val key.val ≠ path := by
  rintro rfl
  rw [pieces_photoPath_segment] at hapart
  exact hapart.1 (List.prefix_refl _)

theorem apart_dataPath_photo (uid owner key : Segment) :
    Json.Apart (pieces (dataPath uid.val))
      (photosNode owner ++ [key.val]) := by
  rw [pieces_dataPath_segment]
  exact (apart_photosNode_recordPieces _ uid _).symm

/-- A record is only written of a key that is being added. -/
theorem Registry.Lawful.adding_of_recorded {registry : Registry}
    {action : Action} {device : Device} {phase : Phase} {request : Request}
    (hlawful : registry.Lawful action device phase request) {log : KeyLog}
    {oracle : Oracle} {key : Segment}
    (hrecorded : (log.answered oracle request).Recorded key) :
    log.Recorded key ∨
      phase.adding = some key ∧ ∃ path value, request = .set path value := by
  obtain ⟨owner, hmem⟩ := hrecorded
  have hold : ∀ path, Json.Apart (pieces path)
      (photosNode owner ++ [key.val]) →
        photoPath owner.val key.val ∈ path :: log.written →
          log.Recorded key := by
    intro path hapart hmem
    rcases List.mem_cons.mp hmem with heq | hmem
    · exact absurd heq (ne_photoPath_of_apart hapart)
    · exact ⟨owner, hmem⟩
  cases hlawful with
  | writeClient =>
      exact Or.inl (hold _ (apart_dataPath_photo _ _ _) hmem)
  | writeWorker =>
      exact Or.inl (hold _ (apart_dataPath_photo _ _ _) hmem)
  | listWorker => exact Or.inl (hold _ (apart_entryNode _ _ _ _) hmem)
  | listUnsaved => exact Or.inl (hold _ (apart_entryNode _ _ _ _) hmem)
  | @writePhoto uid found description url huid hsigned =>
      rcases List.mem_cons.mp hmem with heq | hmem
      · right
        have hpieces := congrArg pieces heq
        rw [pieces_photoPath_segment, pieces_photoPath_segment] at hpieces
        obtain ⟨-, hkey⟩ := photosNode_inj hpieces
        exact ⟨congrArg some (Subtype.ext hkey.symm), _, _, rfl⟩
      · exact Or.inl ⟨owner, hmem⟩
  | _ => exact Or.inl ⟨owner, hmem⟩

/-! ## The invariant -/

section Runs

variable {DeviceId : Type}

/-- No two devices add one key, none adds a key that was recorded, and only
such keys are told to be deleted. -/
structure KeysApart (world : NotedWorld DeviceId) (log : KeyLog) : Prop where
  ordinary : ∀ key ∈ log.given, OrdinaryKey key
  recorded : ∀ key : Segment, log.Recorded key → key.val ∈ log.given
  adding : ∀ device key, (world.locals device).2.adding = some key →
    key.val ∈ log.given
  unrecorded : ∀ device key, (world.locals device).2.adding = some key →
    ¬ log.Recorded key
  alone : ∀ device other key, (world.locals device).2.adding = some key →
    (world.locals other).2.adding = some key → device = other
  told : ∀ device uidPhoto program,
    world.tasks device = some (.deletePhoto uidPhoto, program) →
      ∃ key : Segment, key.val = uidPhoto ∧ log.Recorded key

theorem keysApart_initial :
    KeysApart (NotedWorld.initial DeviceId) KeyLog.empty := by
  refine ⟨?_, ?_, ?_, ?_, ?_, ?_⟩
  · intro key hmem
    cases hmem
  · rintro key ⟨uid, hmem⟩
    cases hmem
  · intro device key hadding
    cases hadding
  · intro device key hadding
    cases hadding
  · intro device other key hadding
    cases hadding
  · intro device uidPhoto program htask
    cases htask

/-- What is told to be deleted has an ordinary key. -/
theorem KeysApart.ordinary_of_told {world : NotedWorld DeviceId}
    {log : KeyLog} (hkeys : KeysApart world log) {device : DeviceId}
    {uidPhoto : String} {program : App Unit}
    (htask : world.tasks device = some (.deletePhoto uidPhoto, program)) :
    OrdinaryKey uidPhoto := by
  obtain ⟨key, rfl, hrecorded⟩ := hkeys.told device _ program htask
  exact hkeys.ordinary _ (hkeys.recorded key hrecorded)

variable {registry : Registry} {world next : NotedWorld DeviceId}
  {log : KeyLog}

/-- While no request is served the log stays, and no key begins to be
added. -/
theorem KeysApart.unserved (hkeys : KeysApart world log)
    (hadding : ∀ device key, (next.locals device).2.adding = some key →
      (world.locals device).2.adding = some key)
    (htold : ∀ device uidPhoto program,
      next.tasks device = some (.deletePhoto uidPhoto, program) →
        ∃ key : Segment, key.val = uidPhoto ∧ log.Recorded key) :
    KeysApart next log := by
  refine ⟨hkeys.ordinary, hkeys.recorded, ?_, ?_, ?_, htold⟩
  · intro device key hnext
    exact hkeys.adding device key (hadding device key hnext)
  · intro device key hnext
    exact hkeys.unrecorded device key (hadding device key hnext)
  · intro device other key hnext hother
    exact hkeys.alone device other key (hadding device key hnext)
      (hadding other key hother)

/-- A request that is served: a key that is given is new, and one that is
recorded is added no more. -/
theorem KeysApart.served (hkeys : KeysApart world log)
    {device : DeviceId} {action : Action} {oracle : Oracle}
    {request : Request}
    (hlawful : registry.Lawful action (world.locals device).1
      (world.locals device).2 request)
    (hgives : log.Gives oracle request)
    (hadding : ∀ other key, (next.locals other).2.adding = some key →
      (world.locals other).2.adding = some key ∧
          (other = device → ∀ path value, request ≠ .set path value) ∨
        other = device ∧ request = .pushKey ∧ key = oracle.key)
    (htold : ∀ other uidPhoto program,
      next.tasks other = some (.deletePhoto uidPhoto, program) →
        ∃ key : Segment, key.val = uidPhoto ∧ log.Recorded key) :
    KeysApart next (log.answered oracle request) := by
  have hfresh : request = .pushKey → oracle.key.val ∉ log.given := by
    rintro rfl
    exact hgives.2
  refine ⟨?_, ?_, ?_, ?_, ?_, ?_⟩
  · intro key hmem
    cases request with
    | pushKey =>
        rcases List.mem_cons.mp hmem with rfl | hmem
        · exact hgives.1
        · exact hkeys.ordinary key hmem
    | _ => exact hkeys.ordinary key hmem
  · intro key hrecorded
    apply log.given_subset_answered
    rcases hlawful.adding_of_recorded hrecorded with hold | ⟨hadds, -⟩
    · exact hkeys.recorded key hold
    · exact hkeys.adding device key hadds
  · intro other key hnext
    rcases hadding other key hnext with ⟨hold, -⟩ | ⟨-, rfl, rfl⟩
    · exact log.given_subset_answered _ _ (hkeys.adding other key hold)
    · exact List.mem_cons_self
  · intro other key hnext hrecorded
    rcases hadding other key hnext with ⟨hold, hnoSet⟩ | ⟨-, hpush, rfl⟩
    · rcases hlawful.adding_of_recorded hrecorded with
        hbefore | ⟨hadds, path, value, hset⟩
      · exact hkeys.unrecorded other key hold hbefore
      · have hsame := hkeys.alone other device key hold hadds
        exact hnoSet hsame path value hset
    · rcases hlawful.adding_of_recorded hrecorded with
        hbefore | ⟨-, path, value, hset⟩
      · exact hfresh hpush (hkeys.recorded _ hbefore)
      · rw [hpush] at hset
        cases hset
  · intro left right key hleft hright
    rcases hadding left key hleft with
      ⟨hleft, -⟩ | ⟨rfl, hpush, rfl⟩ <;>
      rcases hadding right _ hright with
        ⟨hright, -⟩ | ⟨rfl, hpush', hkey⟩
    · exact hkeys.alone left right key hleft hright
    · subst hkey
      exact absurd (hkeys.adding left _ hleft) (hfresh hpush')
    · exact absurd (hkeys.adding right _ hright) (hfresh hpush)
    · rfl
  · intro other uidPhoto program htask
    obtain ⟨key, hkey, hrecorded⟩ := htold other uidPhoto program htask
    exact ⟨key, hkey, hrecorded.answered oracle request⟩

theorem KeysApart.step [DecidableEq DeviceId]
    (hkeys : KeysApart world log) (hconsistent : registry.Consistent world)
    {event : Event DeviceId Action Oracle}
    (hundisturbed : log.Undisturbed world.plain event)
    (hmoves : notedApp.Moves world event next) :
    KeysApart next (log.after world.plain event) := by
  have htold : ∀ device uidPhoto program,
      next.tasks device = some (.deletePhoto uidPhoto, program) →
        ∃ key : Segment, key.val = uidPhoto ∧ log.Recorded key := by
    intro device uidPhoto program htask
    rcases hmoves.running_cases htask with rfl | ⟨running, hrunning⟩
    · exact hundisturbed
    · exact hkeys.told device uidPhoto running hrunning
  have hothers : ∀ device key, device ≠ event.agent →
      (next.locals device).2.adding = some key →
        (world.locals device).2.adding = some key := by
    intro device key hne hadding
    rw [(hmoves.frame hne).1] at hadding
    exact hadding
  cases hmoves with
  | @act device action program htask hprogram =>
      exact hkeys.unserved (fun _ _ hadding => hadding) htold
  | @kill device =>
      apply hkeys.unserved _ htold
      intro other key hadding
      by_cases hsame : other = device
      · subst hsame
        simp only [Function.update_self] at hadding
        cases hadding
      · exact hothers other key hsame hadding
  | @resume device oracle action request rest htask =>
      have hpending : world.plain.pending device = some (action, request) :=
        by simp [Config.pending, Config.plain, htask]
      have hlog : log.after world.plain (.resume device oracle) =
          log.answered oracle request := by
        simp only [KeyLog.after, hpending]
      rw [hlog]
      apply hkeys.served (hconsistent.lawful hpending)
        (hundisturbed.2 action request hpending) _ htold
      intro other key hadding
      by_cases hsame : other = device
      · subst hsame
        simp only [Function.update_self] at hadding
        rcases Phase.adding_advance _ request oracle _ _ hadding with
          ⟨hold, hnoSet⟩ | ⟨hpush, hkey⟩
        · exact Or.inl ⟨hold, fun _ => hnoSet⟩
        · exact Or.inr ⟨rfl, hpush, hkey⟩
      · exact Or.inl ⟨hothers other key hsame hadding,
          fun heq => absurd heq hsame⟩

end Runs

end FoliumApp
