import FoliumApp.AlbumKeys
import FoliumApp.PairedStores

/-!
# Albums edited from several devices at once

An album is two stores, the images and the records.  The devices work on them
as the protocol of two stores kept in step: an image is put before its record
and taken before it.  A run in which no request fails for an outside reason,
no busy device is killed and every key is given once is a run of that
protocol, so a record and an image are apart only while some device is about
to bring them together.
-/

namespace FoliumApp

open PathTree AsyncProgram CallSequences PairedStores

/-! ## Photos -/

structure PhotoItem where
  uid : Segment
  key : Segment
  ordinary : OrdinaryKey key.val

theorem PhotoItem.ext_of {left right : PhotoItem}
    (huid : left.uid = right.uid) (hkey : left.key = right.key) :
    left = right := by
  cases left
  cases right
  cases huid
  cases hkey
  rfl

def PhotoItem.name (photo : PhotoItem) : String := photo.key.val

/-! ## One request and the two stores -/

section Stores

variable (backend : Backend) (photo other : PhotoItem)

theorem photoImage_putObject_iff (content : Option File) :
    (backend.putObject (imagePath photo.uid.val photo.key.val)
        content).photoImage other.uid other.key ≠ none ↔
      other = photo ∧ content ≠ none ∨
        other ≠ photo ∧ backend.photoImage other.uid other.key ≠ none := by
  by_cases hsame : other = photo
  · subst hsame
    rw [storage_putObject_self]
    simp
  · unfold Backend.photoImage
    rw [storage_putObject_of_ne]
    · simp [hsame]
    · intro heq
      simp only [List.cons.injEq, true_and, and_true] at heq
      exact hsame (PhotoItem.ext_of (Subtype.ext heq.1)
        (Subtype.ext (jpg_injective heq.2)))

theorem photoRecord_write_iff (value : Json) :
    (backend.write (photoPath photo.uid.val photo.key.val)
        value).photoRecord other.uid other.key ≠ .null ↔
      other = photo ∧ value.prune ≠ .null ∨
        other ≠ photo ∧
          backend.photoRecord other.uid other.key ≠ .null := by
  have hnode : ["users", other.uid.val, "photos", other.key.val] =
      photosNode other.uid ++ [other.key.val] := rfl
  unfold Backend.photoRecord Backend.write
  dsimp only
  rw [pieces_photoPath_segment, hnode]
  by_cases hsame : other = photo
  · subst hsame
    rw [Json.get_setAt_self]
    simp
  · rw [Json.get_setAt_of_apart]
    · simp [hsame]
    · apply Json.apart_of_length_eq (by simp [photosNode])
      intro heq
      obtain ⟨huid, hkey⟩ := photosNode_inj heq
      exact hsame (PhotoItem.ext_of huid.symm (Subtype.ext hkey.symm))

end Stores

/-! ## Phases and stages -/

def Phase.isQuiet : Phase → Bool
  | .free _ => true
  | .listing _ _ _ => true
  | _ => false

inductive StageOf : Phase → Stage PhotoItem → Prop where
  | quiet {phase : Phase} (hquiet : phase.isQuiet = true) :
      StageOf phase .quiet
  | uploading (photo : PhotoItem) :
      StageOf (.uploading photo.uid photo.key) (.putting photo)
  | addressing (photo : PhotoItem) :
      StageOf (.addressing photo.uid photo.key) (.halfway photo)
  | recording (photo : PhotoItem) :
      StageOf (.recording photo.uid photo.key) (.halfway photo)
  | removing (photo : PhotoItem) :
      StageOf (.removing photo.uid (imagePath photo.uid.val photo.key.val))
        (.taking photo)

/-- Who puts a photo is adding its key. -/
theorem StageOf.adding {phase : Phase} {stage : Stage PhotoItem}
    (hstage : StageOf phase stage) {photo : PhotoItem}
    (hputs : stage.Puts photo) : phase.adding = some photo.key := by
  cases hstage with
  | quiet => exact hputs.elim
  | removing => exact hputs.elim
  | _ =>
      cases hputs
      rfl

theorem StageOf.eq_quiet {phase : Phase} {stage : Stage PhotoItem}
    (hstage : StageOf phase stage) (hquiet : phase.isQuiet = true) :
    stage = .quiet := by
  cases hstage with
  | quiet => rfl
  | _ => cases hquiet

/-- A quiet phase stays quiet but for a key that is given and an image that
is deleted. -/
theorem Phase.isQuiet_advance {phase : Phase}
    (hquiet : phase.isQuiet = true) {request : Request}
    (hpush : request ≠ .pushKey)
    (hdelete : ∀ path, request ≠ .delete path)
    (answer : Except DartError request.Answer) :
    (phase.advance request answer).isQuiet = true := by
  have hwritten : ∀ path value, (phase.written path value).isQuiet = true := by
    intro path value
    cases phase with
    | free account =>
        simp only [Phase.written]
        split <;> rfl
    | _ => rfl
  have hput : phase.imageStored.isQuiet = true := by
    cases phase with
    | uploading uid key => cases hquiet
    | _ => rfl
  have hgiven : phase.addressGiven.isQuiet = true := by
    cases phase with
    | addressing uid key => cases hquiet
    | _ => rfl
  cases answer with
  | error error => cases request <;> rfl
  | ok value =>
      cases request with
      | set path data => exact hwritten path data
      | putFile path file => exact hput
      | getDownloadURL path => exact hgiven
      | now => exact hquiet
      | pushKey => exact absurd rfl hpush
      | delete path => exact absurd rfl (hdelete path)
      | _ => rfl

/-! ## Requests that leave the albums alone -/

/-- The images and the records of all photos are as before. -/
structure SamePhotos (before after : Backend) : Prop where
  image : ∀ photo : PhotoItem,
    after.photoImage photo.uid photo.key =
      before.photoImage photo.uid photo.key
  record : ∀ photo : PhotoItem,
    after.photoRecord photo.uid photo.key =
      before.photoRecord photo.uid photo.key

section Kept

variable {registry : Registry} {backend : Backend} {action : Action}
  {device : Device} {phase : Phase} {request : Request}

theorem samePhotos_refl (backend : Backend) : SamePhotos backend backend :=
  ⟨fun _ => rfl, fun _ => rfl⟩

theorem samePhotos_write {path : String} (value : Json)
    (hapart : ∀ photo : PhotoItem, Json.Apart (pieces path)
      (photosNode photo.uid ++ [photo.key.val])) :
    SamePhotos backend (backend.write path value) :=
  ⟨fun _ => rfl, fun photo => Json.get_setAt_of_apart (hapart photo) _ _⟩

/-- The picture of a profile is the image of no photo. -/
theorem samePhotos_putPicture (uid : Segment) (content : Option File) :
    SamePhotos backend
      (backend.putObject (profileImagePath uid.val) content) := by
  refine ⟨?_, fun _ => rfl⟩
  intro photo
  unfold Backend.photoImage Backend.putObject
  apply Function.update_of_ne
  unfold profileImagePath
  rw [pieces_imagesUser, pieces_segment uid.property,
    pieces_segment (uid.property.append (by decide))]
  intro heq
  simp only [List.cons_append, List.nil_append, List.cons.injEq, true_and,
    and_true] at heq
  apply photo.ordinary.notPicture uid.val
  apply jpg_injective
  rw [heq.2, String.append_assoc]
  rfl

/-- A write away from the photo records. -/
theorem samePhotos_set {path : String}
    (hapart : ∀ photo : PhotoItem, Json.Apart (pieces path)
      (photosNode photo.uid ++ [photo.key.val]))
    (value : Json) (oracle : Oracle) :
    SamePhotos backend
      ((Request.set path value).exec oracle backend device).2.1 := by
  simp only [Request.exec]
  split_ifs
  · exact samePhotos_write value hapart
  · exact samePhotos_refl _

/-- From a quiet phase only the deletion of an image touches the albums. -/
theorem Registry.Lawful.samePhotos
    (hlawful : registry.Lawful action device phase request)
    (hquiet : phase.isQuiet = true)
    (hdelete : ∀ path, request ≠ .delete path) (oracle : Oracle) :
    SamePhotos backend (request.exec oracle backend device).2.1 := by
  cases hlawful with
  | createUser account email password =>
      simp only [Request.exec]
      split_ifs
      · exact ⟨fun _ => rfl, fun _ => rfl⟩
      · exact samePhotos_refl _
  | writeClient account hadmits hlocation haddress hfavorites =>
      exact samePhotos_set (fun _ => apart_dataPath_photo _ _ _) _ oracle
  | writeWorker account hcompletion =>
      exact samePhotos_set (fun _ => apart_dataPath_photo _ _ _) _ oracle
  | listWorker account time hcompletion =>
      exact samePhotos_set (fun _ => apart_entryNode _ _ _ _) _ oracle
  | listUnsaved account time hcompletion =>
      exact samePhotos_set (fun _ => apart_entryNode _ _ _ _) _ oracle
  | putProfilePicture file hsigned =>
      simp only [Request.exec]
      split_ifs
      · exact samePhotos_putPicture _ _
      · exact samePhotos_refl _
  | deleteImage haction hsigned => exact absurd rfl (hdelete _)
  | putImage file hsigned => cases hquiet
  | writePhoto description url huid hsigned => cases hquiet
  | removePhoto haction hname hsigned => cases hquiet
  | _ =>
      rw [Request.exec_services rfl]
      exact samePhotos_refl _

end Kept

/-! ## The protocol behind a state -/

section Simulation

variable {DeviceId : Type} {registry : Registry}
  {world next : NotedWorld DeviceId}
  {state : State DeviceId PhotoItem String}

/-- The key a device has been told to delete. -/
def toldOf (world : NotedWorld DeviceId) (device : DeviceId) :
    Option String :=
  match world.tasks device with
  | some (.deletePhoto uidPhoto, _) => some uidPhoto
  | _ => none

theorem toldOf_eq_some {device : DeviceId} {target : String}
    (htold : toldOf world device = some target) :
    ∃ program, world.tasks device = some (.deletePhoto target, program) := by
  unfold toldOf at htold
  split at htold
  next uidPhoto program htask =>
    cases htold
    exact ⟨program, htask⟩
  next => cases htold

theorem toldOf_of_task {device : DeviceId} {target : String}
    {program : App Unit}
    (htask : world.tasks device = some (.deletePhoto target, program)) :
    toldOf world device = some target := by
  unfold toldOf
  rw [htask]

/-- The albums of the state, and how far every device is with them. -/
structure Follows (world : NotedWorld DeviceId)
    (state : State DeviceId PhotoItem String) : Prop where
  first : ∀ photo, state.first photo ↔
    world.shared.photoImage photo.uid photo.key ≠ none
  second : ∀ photo, state.second photo ↔
    world.shared.photoRecord photo.uid photo.key ≠ .null
  stage : ∀ device, StageOf (world.locals device).2 (state.stage device)
  told : ∀ device, state.told device = toldOf world device

/-- Accounts and keys in use make valid paths. -/
structure ValidNames (world : NotedWorld DeviceId) : Prop where
  accounts : ∀ account ∈ world.shared.accounts, Unreserved account.uid.val
  signedIn : ∀ device uid, (world.locals device).1.signedIn = some uid →
    Unreserved uid.val

variable [DecidableEq DeviceId]

/-- The protocol after one device has moved. -/
def movedTo (state : State DeviceId PhotoItem String)
    (next : NotedWorld DeviceId) (device : DeviceId)
    (stage : Stage PhotoItem) : State DeviceId PhotoItem String :=
  { first := fun photo =>
      next.shared.photoImage photo.uid photo.key ≠ none
    second := fun photo =>
      next.shared.photoRecord photo.uid photo.key ≠ .null
    stage := Function.update state.stage device stage
    told := toldOf next }

theorem movedTo_stage_self (state : State DeviceId PhotoItem String)
    (next : NotedWorld DeviceId) (device : DeviceId)
    (stage : Stage PhotoItem) :
    (movedTo state next device stage).stage device = stage :=
  Function.update_self _ _ _

theorem movedTo_stage_of_ne (state : State DeviceId PhotoItem String)
    (next : NotedWorld DeviceId) {device other : DeviceId}
    (hne : other ≠ device) (stage : Stage PhotoItem) :
    (movedTo state next device stage).stage other = state.stage other :=
  Function.update_of_ne hne _ _

theorem frame_movedTo (hfollows : Follows world state)
    {event : Event DeviceId Action Oracle}
    (hmoves : notedApp.Moves world event next) (stage : Stage PhotoItem) :
    Frame event.agent state (movedTo state next event.agent stage) := by
  constructor
  · intro other hne
    exact movedTo_stage_of_ne state next hne stage
  · intro other hne
    change toldOf next other = state.told other
    rw [hfollows.told]
    unfold toldOf
    rw [(hmoves.frame hne).2]

theorem follows_movedTo (hfollows : Follows world state)
    {event : Event DeviceId Action Oracle}
    (hmoves : notedApp.Moves world event next) {stage : Stage PhotoItem}
    (hstage : StageOf (next.locals event.agent).2 stage) :
    Follows next (movedTo state next event.agent stage) := by
  refine ⟨fun _ => Iff.rfl, fun _ => Iff.rfl, ?_, fun _ => rfl⟩
  intro other
  by_cases heq : other = event.agent
  · subst heq
    rw [movedTo_stage_self]
    exact hstage
  · rw [movedTo_stage_of_ne state next heq, (hmoves.frame heq).1]
    exact hfollows.stage other

omit [DecidableEq DeviceId] in
/-- A device that is not quiet is busy with a lawful request. -/
theorem Registry.Consistent.busy (hconsistent : registry.Consistent world)
    {device : DeviceId}
    (hphase : ∀ account, (world.locals device).2 ≠ .free account) :
    ∃ action request rest,
      world.tasks device = some (action, .await request rest) ∧
        registry.Lawful action (world.locals device).1
          (world.locals device).2 request := by
  have hnot : ¬ registry.Settled (world.locals device) := by
    rintro ⟨account, hsettled⟩
    exact hphase account hsettled.phase
  rcases (hconsistent.devices device).inv_or_awaits with
    hsettled | hawaits
  · exact absurd hsettled hnot
  · exact hawaits

omit [DecidableEq DeviceId] in
theorem Registry.Consistent.idle (hconsistent : registry.Consistent world)
    {device : DeviceId} (htask : world.tasks device = none) :
    ∃ account, (world.locals device).2 = .free account := by
  have hinv := hconsistent.devices device
  unfold Config.TaskInv at hinv
  rw [htask] at hinv
  obtain ⟨account, hsettled⟩ := hinv
  exact ⟨account, hsettled.phase⟩

/-! ## The changes a request makes -/

theorem change_wait (hfollows : Follows world state) {device : DeviceId}
    (hstage : state.stage device = .quiet)
    (hsame : SamePhotos world.shared next.shared)
    (htold : ∀ target, toldOf next device = some target →
      state.told device = some target ∨
        ∀ other photo, (state.stage other).Puts photo →
          photo.name ≠ target) :
    Change PhotoItem.name device state
      (movedTo state next device .quiet) := by
  refine .wait hstage (movedTo_stage_self _ _ _ _) ?_ ?_ htold
  · intro photo
    rw [hfollows.first, ← hsame.image]
    exact Iff.rfl
  · intro photo
    rw [hfollows.second, ← hsame.record]
    exact Iff.rfl

section Resume

variable (hfollows : Follows world state) {device : DeviceId}
  (htold : ∀ target, toldOf next device = some target →
    state.told device = some target) (photo : PhotoItem)

include hfollows htold

theorem change_start (hstage : state.stage device = .quiet)
    (hshared : next.shared = world.shared)
    (hfree : ∀ other, state.told other ≠ some photo.name) :
    Change PhotoItem.name device state
      (movedTo state next device (.putting photo)) := by
  refine .start photo hstage (movedTo_stage_self _ _ _ _) ?_ ?_ htold hfree
  · intro other
    rw [hfollows.first, ← hshared]
    exact Iff.rfl
  · intro other
    rw [hfollows.second, ← hshared]
    exact Iff.rfl

theorem change_putFirst (hstage : state.stage device = .putting photo)
    {file : File}
    (hshared : next.shared = world.shared.putObject
      (imagePath photo.uid.val photo.key.val) (some file)) :
    Change PhotoItem.name device state
      (movedTo state next device (.halfway photo)) := by
  refine .putFirst photo hstage (movedTo_stage_self _ _ _ _) ?_ ?_ htold
  · intro other
    change next.shared.photoImage _ _ ≠ none ↔ _
    rw [hshared, photoImage_putObject_iff, hfollows.first]
    by_cases hsame : other = photo <;> simp [hsame]
  · intro other
    rw [hfollows.second]
    change next.shared.photoRecord _ _ ≠ .null ↔ _
    rw [hshared]
    exact Iff.rfl

theorem change_carry (hstage : state.stage device = .halfway photo)
    (hshared : next.shared = world.shared) :
    Change PhotoItem.name device state
      (movedTo state next device (.halfway photo)) := by
  refine .carry photo hstage (movedTo_stage_self _ _ _ _) ?_ ?_ htold
  · intro other
    rw [hfollows.first, ← hshared]
    exact Iff.rfl
  · intro other
    rw [hfollows.second, ← hshared]
    exact Iff.rfl

theorem change_putSecond (hstage : state.stage device = .halfway photo)
    {description url : String}
    (hshared : next.shared = world.shared.write
      (photoPath photo.uid.val photo.key.val)
      (photoValue description url photo.key)) :
    Change PhotoItem.name device state
      (movedTo state next device .quiet) := by
  have hvalue : (photoValue description url photo.key).prune ≠ .null := by
    rw [photoValue_prune]
    simp [photoValue, Photo.toJson]
  refine .putSecond photo hstage (movedTo_stage_self _ _ _ _) ?_ ?_ htold
  · intro other
    rw [hfollows.first]
    change next.shared.photoImage _ _ ≠ none ↔ _
    rw [hshared]
    exact Iff.rfl
  · intro other
    change next.shared.photoRecord _ _ ≠ .null ↔ _
    rw [hshared, photoRecord_write_iff, hfollows.second]
    by_cases hsame : other = photo <;> simp [hsame, hvalue]

theorem change_takeFirst (hstage : state.stage device = .quiet)
    (hshared : next.shared = world.shared.putObject
      (imagePath photo.uid.val photo.key.val) none)
    (hkept : toldOf next device = some photo.name) :
    Change PhotoItem.name device state
      (movedTo state next device (.taking photo)) := by
  refine .takeFirst photo hstage (movedTo_stage_self _ _ _ _) ?_ ?_
    (htold _ hkept) hkept
  · intro other
    change next.shared.photoImage _ _ ≠ none ↔ _
    rw [hshared, photoImage_putObject_iff, hfollows.first]
    simp
  · intro other
    rw [hfollows.second]
    change next.shared.photoRecord _ _ ≠ .null ↔ _
    rw [hshared]
    exact Iff.rfl

theorem change_takeSecond (hstage : state.stage device = .taking photo)
    (hshared : next.shared = world.shared.write
      (photoPath photo.uid.val photo.key.val) .null) :
    Change PhotoItem.name device state
      (movedTo state next device .quiet) := by
  refine .takeSecond photo hstage (movedTo_stage_self _ _ _ _) ?_ ?_ htold
  · intro other
    rw [hfollows.first]
    change next.shared.photoImage _ _ ≠ none ↔ _
    rw [hshared]
    exact Iff.rfl
  · intro other
    change next.shared.photoRecord _ _ ≠ .null ↔ _
    rw [hshared, photoRecord_write_iff, hfollows.second]
    simp [Json.prune]

end Resume

theorem isValidPathString_photoPath {uid key : String}
    (huid : Unreserved uid) (hkey : Unreserved key) :
    isValidPathString (photoPath uid key) = true := by
  have husers : Unreserved "users/" := by decide
  have hphotos : Unreserved "/photos/" := by decide
  have hne : photoPath uid key ≠ "" := by
    unfold photoPath
    rw [String.append_assoc, String.append_assoc]
    exact append_ne_empty (by decide) _
  rw [isValidPathString_iff, and_iff_right hne]
  unfold photoPath
  simp only [unreserved_append, husers, hphotos, huid, hkey, and_self]

theorem imagePath_injective {uid left right : String}
    (heq : imagePath uid left = imagePath uid right) : left = right := by
  unfold imagePath at heq
  have hlist := congrArg String.toList heq
  simp only [String.toList_append] at hlist
  exact String.toList_injective
    (List.append_cancel_right (List.append_cancel_left hlist))

/-- The device has moved to a stage of its phase, as the protocol allows. -/
def MovesOn (next : NotedWorld DeviceId)
    (state : State DeviceId PhotoItem String) (device : DeviceId) : Prop :=
  ∃ stage, StageOf (next.locals device).2 stage ∧
    Change PhotoItem.name device state (movedTo state next device stage)

section Resume

variable (hfollows : Follows world state) {device : DeviceId}
  (htold : ∀ target, toldOf next device = some target →
    state.told device = some target)
  {dev : Device} {oracle : Oracle} (hok : oracle.ok = true)

include hfollows htold hok

theorem movesOn_deleteImage {uid : Segment} {uidPhoto : String}
    (hkey : OrdinaryKey uidPhoto)
    (hquiet : state.stage device = .quiet)
    (hkept : (∀ account, (next.locals device).2 ≠ .free account) →
      toldOf next device = some uidPhoto)
    (hshared : next.shared =
      ((Request.delete (imagePath uid.val uidPhoto)).exec oracle world.shared
        dev).2.1)
    (hphase : (next.locals device).2 =
      (Phase.free (some uid)).advance (.delete (imagePath uid.val uidPhoto))
        ((Request.delete (imagePath uid.val uidPhoto)).exec oracle
          world.shared dev).1) :
    MovesOn next state device := by
  obtain ⟨photo, rfl, rfl⟩ : ∃ photo : PhotoItem,
      photo.uid = uid ∧ photo.key.val = uidPhoto :=
    ⟨⟨uid, ⟨uidPhoto, hkey.segment⟩, hkey⟩, rfl, rfl⟩
  simp only [Request.exec, hok, Bool.true_and] at hshared hphase
  split_ifs at hshared hphase with hstored
  · refine ⟨.taking photo, ?_, ?_⟩
    · rw [hphase]
      exact .removing photo
    · apply change_takeFirst hfollows htold photo hquiet hshared
      apply hkept
      intro account hfree
      rw [hphase] at hfree
      cases hfree
  · refine ⟨.quiet, ?_, ?_⟩
    · rw [hphase]
      exact .quiet rfl
    · apply change_wait hfollows hquiet
      · rw [hshared]
        exact samePhotos_refl _
      · intro target htarget
        exact Or.inl (htold target htarget)

theorem movesOn_putImage {photo : PhotoItem} {file : File}
    (hstage : state.stage device = .putting photo)
    (hshared : next.shared =
      ((Request.putFile (imagePath photo.uid.val photo.key.val) file).exec
        oracle world.shared dev).2.1)
    (hphase : (next.locals device).2 =
      (Phase.uploading photo.uid photo.key).advance
        (.putFile (imagePath photo.uid.val photo.key.val) file)
        ((Request.putFile (imagePath photo.uid.val photo.key.val) file).exec
          oracle world.shared dev).1) :
    MovesOn next state device := by
  simp only [Request.exec, hok, if_true] at hshared hphase
  refine ⟨.halfway photo, ?_, ?_⟩
  · rw [hphase]
    exact .addressing photo
  · exact change_putFirst hfollows htold photo hstage hshared

/-- The image is there, so its address is given. -/
theorem movesOn_addressImage {photo : PhotoItem}
    (hinStep : InStep PhotoItem.name state)
    (hstage : state.stage device = .halfway photo)
    (hshared : next.shared =
      ((Request.getDownloadURL (imagePath photo.uid.val photo.key.val)).exec
        oracle world.shared dev).2.1)
    (hphase : (next.locals device).2 =
      (Phase.addressing photo.uid photo.key).advance
        (.getDownloadURL (imagePath photo.uid.val photo.key.val))
        ((Request.getDownloadURL
          (imagePath photo.uid.val photo.key.val)).exec oracle world.shared
            dev).1) :
    MovesOn next state device := by
  have hstored : (world.shared.storage
      (pieces (imagePath photo.uid.val photo.key.val))).isSome = true := by
    have hpresent := (hfollows.first photo).mp
      (hinStep.present device photo hstage)
    rw [pieces_imagePath_segment]
    exact Option.isSome_iff_ne_none.mpr hpresent
  simp only [Request.exec, hok, hstored, Bool.and_self, if_true]
    at hshared hphase
  refine ⟨.halfway photo, ?_, ?_⟩
  · rw [hphase]
    exact .recording photo
  · exact change_carry hfollows htold photo hstage hshared

theorem movesOn_writePhoto {photo : PhotoItem} {description url : String}
    (huid : Unreserved photo.uid.val)
    (hstage : state.stage device = .halfway photo)
    (hshared : next.shared =
      ((Request.set (photoPath photo.uid.val photo.key.val)
        (photoValue description url photo.key)).exec oracle world.shared
          dev).2.1)
    (hphase : (next.locals device).2 =
      (Phase.recording photo.uid photo.key).advance
        (.set (photoPath photo.uid.val photo.key.val)
          (photoValue description url photo.key))
        ((Request.set (photoPath photo.uid.val photo.key.val)
          (photoValue description url photo.key)).exec oracle world.shared
            dev).1) :
    MovesOn next state device := by
  have hpath :=
    isValidPathString_photoPath huid photo.ordinary.unreserved
  simp only [Request.exec, hok, hpath, Bool.and_self, if_true]
    at hshared hphase
  refine ⟨.quiet, ?_, ?_⟩
  · rw [hphase]
    exact .quiet rfl
  · exact change_putSecond hfollows htold photo hstage hshared

theorem movesOn_removePhoto {photo : PhotoItem}
    (huid : Unreserved photo.uid.val)
    (hstage : state.stage device = .taking photo) {image : String}
    (hshared : next.shared =
      ((Request.remove (photoPath photo.uid.val photo.key.val)).exec oracle
        world.shared dev).2.1)
    (hphase : (next.locals device).2 =
      (Phase.removing photo.uid image).advance
        (.remove (photoPath photo.uid.val photo.key.val))
        ((Request.remove (photoPath photo.uid.val photo.key.val)).exec oracle
          world.shared dev).1) :
    MovesOn next state device := by
  have hpath :=
    isValidPathString_photoPath huid photo.ordinary.unreserved
  simp only [Request.exec, hok, hpath, Bool.and_self, if_true]
    at hshared hphase
  refine ⟨.quiet, ?_, ?_⟩
  · rw [hphase]
    exact .quiet rfl
  · exact change_takeSecond hfollows htold photo hstage hshared

end Resume

omit [DecidableEq DeviceId] in
/-- What a device is told after a request it was told before. -/
theorem told_of_settle {device : DeviceId} {action : Action}
    {before after : App Unit}
    (hbefore : world.tasks device = some (action, before))
    (hafter : next.tasks device = settle action after) {target : String}
    (htarget : toldOf next device = some target) :
    toldOf world device = some target := by
  obtain ⟨program, hprogram⟩ := toldOf_eq_some htarget
  rw [hafter] at hprogram
  rw [Machine.action_of_settle hprogram] at hbefore
  exact toldOf_of_task hbefore

/-- A request that is served moves its device on. -/
theorem movesOn_resume (hconsistent : registry.Consistent world)
    (hafter : registry.Consistent next) (hvalid : ValidNames world)
    {log : KeyLog} (hkeys : KeysApart world log)
    (hfollows : Follows world state) (hinStep : InStep PhotoItem.name state)
    {device : DeviceId} {oracle : Oracle} {action : Action}
    {request : Request} {rest : Except DartError request.Answer → App Unit}
    (htask : world.tasks device = some (action, .await request rest))
    (hok : oracle.ok = true) (hgives : log.Gives oracle request)
    (hshared : next.shared =
      (request.exec oracle world.shared (world.locals device).1).2.1)
    (hphase : (next.locals device).2 =
      (world.locals device).2.advance request
        (request.exec oracle world.shared (world.locals device).1).1)
    {after : App Unit} (hrest : next.tasks device = settle action after) :
    MovesOn next state device := by
  have htold : ∀ target, toldOf next device = some target →
      state.told device = some target := by
    intro target htarget
    rw [hfollows.told]
    exact told_of_settle htask hrest htarget
  have hpending : world.pending device = some (action, request) := by
    simp [Config.pending, htask]
  have hlawful := hconsistent.lawful hpending
  have hstage := hfollows.stage device
  have hknown := hvalid.signedIn device
  generalize (world.locals device).2 = phase at hlawful hstage hphase
  generalize (world.locals device).1 = dev at hlawful hknown hshared hphase
  have hwait : phase.isQuiet = true → request ≠ .pushKey →
      (∀ path, request ≠ .delete path) → MovesOn next state device := by
    intro hquiet hpush hdelete
    refine ⟨.quiet, ?_, ?_⟩
    · rw [hphase]
      exact .quiet (Phase.isQuiet_advance hquiet hpush hdelete _)
    · apply change_wait hfollows (hstage.eq_quiet hquiet)
      · rw [hshared]
        exact hlawful.samePhotos hquiet hdelete oracle
      · intro target htarget
        exact Or.inl (htold target htarget)
  cases hlawful with
  | @pushKey uid hsigned =>
      obtain ⟨hkey, hfresh⟩ := hgives
      refine ⟨.putting ⟨uid, oracle.key, hkey⟩, ?_, ?_⟩
      · rw [hphase]
        exact .uploading ⟨uid, oracle.key, hkey⟩
      · apply change_start hfollows htold _ (hstage.eq_quiet rfl) hshared
        intro other hother
        rw [hfollows.told] at hother
        obtain ⟨program, hprogram⟩ := toldOf_eq_some hother
        obtain ⟨key, hsame, hrecorded⟩ := hkeys.told other _ _ hprogram
        have hsameKey : key.val = oracle.key.val := hsame
        rw [← hsameKey] at hfresh
        exact hfresh (hkeys.recorded key hrecorded)
  | @deleteImage uid uidPhoto haction hsigned =>
      subst haction
      refine movesOn_deleteImage hfollows htold hok
        (hkeys.ordinary_of_told htask) (hstage.eq_quiet rfl) ?_
        hshared hphase
      intro hbusy
      obtain ⟨found, request, next', hnext, -⟩ := hafter.busy hbusy
      have hfound := hnext
      rw [hrest] at hfound
      rw [← Machine.action_of_settle hfound] at hnext
      exact toldOf_of_task hnext
  | @putImage uid key file hsigned =>
      generalize hfound : state.stage device = found at hstage
      cases hstage with
      | quiet hquiet => cases hquiet
      | uploading photo =>
          exact movesOn_putImage hfollows htold hok hfound hshared hphase
  | @addressImage uid key hsigned =>
      generalize hfound : state.stage device = found at hstage
      cases hstage with
      | quiet hquiet => cases hquiet
      | addressing photo =>
          exact movesOn_addressImage hfollows htold hok hinStep hfound
            hshared hphase
  | @writePhoto uid key description url huid hsigned =>
      generalize hfound : state.stage device = found at hstage
      cases hstage with
      | quiet hquiet => cases hquiet
      | recording photo =>
          exact movesOn_writePhoto hfollows htold hok
            (hknown photo.uid hsigned) hfound hshared hphase
  | @removePhoto uid name uidPhoto haction hname hsigned =>
      generalize hfound : state.stage device = found at hstage
      generalize himage : imagePath uid.val uidPhoto = image
        at hstage hphase
      cases hstage with
      | quiet hquiet => cases hquiet
      | removing photo =>
          have hkey := imagePath_injective himage
          subst hkey
          exact movesOn_removePhoto hfollows htold hok
            (hknown photo.uid hsigned) hfound hshared hphase
  | _ => exact hwait rfl (by simp) (by simp)

/-! ## Steps and runs -/

/-- Every step that is not disturbed is a change of the protocol. -/
theorem follows_step (hconsistent : registry.Consistent world)
    (hafter : registry.Consistent next) (hvalid : ValidNames world)
    {log : KeyLog} (hkeys : KeysApart world log)
    (hfollows : Follows world state) (hinStep : InStep PhotoItem.name state)
    {event : Event DeviceId Action Oracle}
    (hundisturbed : log.Undisturbed world.plain event)
    (hmoves : notedApp.Moves world event next) :
    MovesOn next state event.agent := by
  cases hmoves with
  | @act device action program htask hprogram =>
      obtain ⟨account, hfree⟩ := hconsistent.idle htask
      have hstage := hfollows.stage device
      rw [hfree] at hstage
      refine ⟨.quiet, ?_, ?_⟩
      · change StageOf (world.locals device).2 .quiet
        rw [hfree]
        exact .quiet rfl
      · refine change_wait hfollows (hstage.eq_quiet rfl)
          (samePhotos_refl _) ?_
        intro target htarget
        right
        rintro other photo hputs rfl
        have haction : action = .deletePhoto photo.name := by
          obtain ⟨running, hrunning⟩ := toldOf_eq_some htarget
          simp only [Event.agent, Function.update_self] at hrunning
          exact Machine.action_of_settle hrunning
        subst haction
        obtain ⟨key, hsame, hrecorded⟩ := hundisturbed
        have hkey : key = photo.key := Subtype.ext hsame
        subst hkey
        exact hkeys.unrecorded other _
          ((hfollows.stage other).adding hputs) hrecorded
  | @kill device =>
      have hidle : world.tasks device = none := hundisturbed
      obtain ⟨account, hfree⟩ := hconsistent.idle hidle
      have hstage := hfollows.stage device
      rw [hfree] at hstage
      refine ⟨.quiet, ?_, ?_⟩
      · simp only [Event.agent, Function.update_self]
        exact .quiet rfl
      · refine change_wait hfollows (hstage.eq_quiet rfl)
          (samePhotos_refl _) ?_
        intro target htarget
        obtain ⟨running, hrunning⟩ := toldOf_eq_some htarget
        simp only [Event.agent, Function.update_self] at hrunning
        cases hrunning
  | @resume device oracle action request rest htask =>
      obtain ⟨hok, hgives⟩ := hundisturbed
      have hpending : world.plain.pending device = some (action, request) :=
        by simp [Config.pending, Config.plain, htask]
      apply movesOn_resume hconsistent hafter hvalid hkeys hfollows hinStep
        htask hok (hgives action request hpending) rfl
      · simp only [Function.update_self]
        rfl
      · simp only [Function.update_self]
        rfl

/-- Accounts come from registrations alone. -/
theorem Request.exec_accounts (request : Request) (oracle : Oracle)
    (backend : Backend) (device : Device) {account : Account}
    (hmem : account ∈ (request.exec oracle backend device).2.1.accounts) :
    account ∈ backend.accounts ∨
      (∃ email password,
        request = .createUserWithEmailAndPassword email password) ∧
        account.uid = oracle.uid := by
  cases hchanges : request.changesServices with
  | false =>
      rw [Request.exec_services hchanges] at hmem
      exact Or.inl hmem
  | true =>
      cases request with
      | createUserWithEmailAndPassword email password =>
          simp only [Request.exec] at hmem
          split_ifs at hmem
          · rcases List.mem_append.mp hmem with hold | hnew
            · exact Or.inl hold
            · rw [List.mem_singleton.mp hnew]
              exact Or.inr ⟨⟨email, password, rfl⟩, rfl⟩
          · exact Or.inl hmem
      | set path value =>
          simp only [Request.exec] at hmem
          split_ifs at hmem <;> exact Or.inl hmem
      | remove path =>
          simp only [Request.exec] at hmem
          split_ifs at hmem <;> exact Or.inl hmem
      | putFile path file =>
          simp only [Request.exec] at hmem
          split_ifs at hmem <;> exact Or.inl hmem
      | delete path =>
          simp only [Request.exec] at hmem
          split_ifs at hmem <;> exact Or.inl hmem
      | _ => cases hchanges

/-- A device is signed in with its account, a new one or one there was. -/
theorem Request.exec_signedIn (request : Request) (oracle : Oracle)
    (backend : Backend) (device : Device) {uid : Segment}
    (hsigned : (request.exec oracle backend device).2.2.signedIn =
      some uid) :
    device.signedIn = some uid ∨
      (∃ email password,
        request = .createUserWithEmailAndPassword email password) ∧
        uid = oracle.uid ∨
      ∃ account ∈ backend.accounts, account.uid = uid := by
  have houtcome := Request.exec_outcome request oracle backend device
  cases hchanges : request.changesAccount with
  | false =>
      rw [houtcome.signedIn_eq hchanges] at hsigned
      exact Or.inl hsigned
  | true =>
      cases request with
      | createUserWithEmailAndPassword email password =>
          simp only [Request.exec] at hsigned
          split_ifs at hsigned
          · cases hsigned
            exact Or.inr (Or.inl ⟨⟨email, password, rfl⟩, rfl⟩)
          · exact Or.inl hsigned
      | signInWithEmailAndPassword email password =>
          simp only [Request.exec] at hsigned
          split at hsigned
          next account hfound =>
            split_ifs at hsigned
            · cases hsigned
              exact Or.inr (Or.inr
                ⟨account, List.mem_of_find?_eq_some hfound, rfl⟩)
            · exact Or.inl hsigned
          next => exact Or.inl hsigned
      | signOut =>
          simp only [Request.exec] at hsigned
          split_ifs at hsigned
          exact Or.inl hsigned
      | _ => cases hchanges

omit [DecidableEq DeviceId] in
/-- The uid of an account that is made by the step is given to it. -/
theorem given_of_undisturbed {log : KeyLog} {device : DeviceId}
    {oracle : Oracle} {action : Action} {email password : String}
    (hundisturbed : log.Undisturbed world.plain (.resume device oracle))
    (hpending : world.pending device =
      some (action, .createUserWithEmailAndPassword email password)) :
    Unreserved oracle.uid.val :=
  hundisturbed.2 action _ hpending

theorem validNames_step (hvalid : ValidNames world) {log : KeyLog}
    {event : Event DeviceId Action Oracle}
    (hundisturbed : log.Undisturbed world.plain event)
    (hmoves : notedApp.Moves world event next) : ValidNames next := by
  refine ⟨?_, ?_⟩
  · intro account hmem
    rcases hmoves.shared_cases with
      hshared | ⟨device, oracle, action, request, rfl, hpending, hshared⟩
    · rw [hshared] at hmem
      exact hvalid.accounts account hmem
    · rw [hshared] at hmem
      rcases Request.exec_accounts request oracle world.shared _ hmem with
        hold | ⟨⟨email, password, rfl⟩, huid⟩
      · exact hvalid.accounts account hold
      · rw [huid]
        exact given_of_undisturbed hundisturbed hpending
  · intro device uid hsigned
    rcases hmoves.local_cases device with hlocal | hlocal |
      ⟨oracle, action, request, rfl, hpending, -, hlocal⟩
    · rw [hlocal] at hsigned
      exact hvalid.signedIn device uid hsigned
    · rw [hlocal] at hsigned
      exact hvalid.signedIn device uid hsigned
    · rw [hlocal] at hsigned
      rcases Request.exec_signedIn request oracle world.shared _ hsigned
        with hold | ⟨⟨email, password, rfl⟩, huid⟩ | ⟨account, hmem, rfl⟩
      · exact hvalid.signedIn device uid hold
      · rw [huid]
        exact given_of_undisturbed hundisturbed hpending
      · exact hvalid.accounts account hmem

/-- The state is one of the protocol, whose stores are in step. -/
structure AlbumsFollow (world : NotedWorld DeviceId) (log : KeyLog) :
    Prop where
  names : ValidNames world
  keys : KeysApart world log
  protocol : ∃ state : State DeviceId PhotoItem String,
    Follows world state ∧ InStep PhotoItem.name state

omit [DecidableEq DeviceId] in
theorem albumsFollow_initial :
    AlbumsFollow (NotedWorld.initial DeviceId) KeyLog.empty := by
  have hnull : ∀ path, (NotedWorld.initial DeviceId).shared.database.get
      path = .null := Json.get_null
  refine ⟨⟨?_, ?_⟩, keysApart_initial,
    State.initial DeviceId PhotoItem String, ?_,
    inStep_initial PhotoItem.name⟩
  · rintro account hmem
    cases hmem
  · rintro device uid hsigned
    cases hsigned
  · refine ⟨?_, ?_, ?_, fun _ => rfl⟩
    · intro photo
      exact iff_of_false id (fun himage => himage rfl)
    · intro photo
      exact iff_of_false id (fun hrecord => hrecord (hnull _))
    · intro device
      exact .quiet rfl

theorem AlbumsFollow.step {log : KeyLog} (halbums : AlbumsFollow world log)
    (hconsistent : registry.Consistent world)
    (hafter : registry.Consistent next)
    {event : Event DeviceId Action Oracle}
    (hundisturbed : log.Undisturbed world.plain event)
    (hstep : notedApp.step world event = some next) :
    AlbumsFollow next (log.after world.plain event) := by
  have hmoves := Machine.moves_of_step hstep
  obtain ⟨hnames, hkeys, state, hfollows, hinStep⟩ := halbums
  obtain ⟨stage, hstage, hchange⟩ :=
    follows_step hconsistent hafter hnames hkeys hfollows hinStep
      hundisturbed hmoves
  exact ⟨validNames_step hnames hundisturbed hmoves,
    hkeys.step hconsistent hundisturbed hmoves, _,
    follows_movedTo hfollows hmoves hstage,
    hinStep.change (frame_movedTo hfollows hmoves stage) hchange⟩

/-- Every account may be had and every place be named. -/
def Registry.any : Registry :=
  { account := fun _ _ => True, offered := fun _ _ _ => True }

theorem albumsFollow_of_run {entry : World DeviceId × KeyLog}
    (hrun : UndisturbedRun entry) :
    ∃ noted : NotedWorld DeviceId, noted.plain = entry.1 ∧
      Registry.any.Consistent noted ∧ AlbumsFollow noted entry.2 := by
  unfold UndisturbedRun at hrun
  apply hrun.invariant
  · exact ⟨NotedWorld.initial DeviceId, rfl,
      Registry.consistent_initial _, albumsFollow_initial⟩
  · rintro entry event next ⟨noted, hplain, hconsistent, halbums⟩
      hundisturbed hstep
    obtain ⟨hnext, hlog⟩ := step_of_logging hstep
    rw [← hplain] at hundisturbed hnext hlog
    obtain ⟨found, hfound, hfoundPlain⟩ :=
      Machine.noting_step Phase.advance (.free none) hnext
    have hafter : Registry.any.Consistent found := by
      apply hconsistent.step _ hfound
      · exact fun _ _ => trivial
      · intro device action haction
        cases action with
        | register form agrees => exact fun _ _ => trivial
        | _ => trivial
    refine ⟨found, hfoundPlain, hafter, ?_⟩
    rw [hlog]
    exact halbums.step hconsistent hafter hundisturbed hfound

omit [DecidableEq DeviceId] in
/-- Who has taken the image of a photo is about to remove its record. -/
theorem pending_of_taking (hconsistent : registry.Consistent world)
    {device : DeviceId} {photo : PhotoItem}
    (hstage : StageOf (world.locals device).2 (.taking photo)) :
    world.pending device =
      some (.deletePhoto photo.key.val,
        .remove (photoPath photo.uid.val photo.key.val)) := by
  have hbusy : ∀ account, (world.locals device).2 ≠ .free account := by
    intro account hfree
    rw [hfree] at hstage
    cases hstage
  obtain ⟨action, request, rest, htask, hlawful⟩ := hconsistent.busy hbusy
  generalize (world.locals device).2 = phase at hstage hlawful
  generalize himage : imagePath photo.uid.val photo.key.val = image
  cases hstage
  rw [himage] at hlawful
  cases hlawful with
  | @removePhoto uid name uidPhoto haction hname hsigned =>
      have hkey := imagePath_injective himage
      subst hkey
      subst haction
      simp [Config.pending, htask]

omit [DecidableEq DeviceId] in
/-- Who is halfway with a photo is about to record it. -/
theorem pending_of_halfway (hconsistent : registry.Consistent world)
    {device : DeviceId} {photo : PhotoItem}
    (hstage : StageOf (world.locals device).2 (.halfway photo)) :
    ∃ action request, world.pending device = some (action, request) ∧
      (request = .getDownloadURL (imagePath photo.uid.val photo.key.val) ∨
        ∃ value,
          request = .set (photoPath photo.uid.val photo.key.val) value) := by
  have hbusy : ∀ account, (world.locals device).2 ≠ .free account := by
    intro account hfree
    rw [hfree] at hstage
    cases hstage
  obtain ⟨action, request, rest, htask, hlawful⟩ := hconsistent.busy hbusy
  refine ⟨action, request, by simp [Config.pending, htask], ?_⟩
  generalize (world.locals device).2 = phase at hstage hlawful
  cases hstage with
  | addressing photo =>
      cases hlawful with
      | addressImage hsigned => exact Or.inl rfl
  | recording photo =>
      cases hlawful with
      | writePhoto description url huid hsigned => exact Or.inr ⟨_, rfl⟩

/-- However the requests of the devices are interleaved, a photo has a record
and no image only while the record is about to be removed, and an image and no
record only while the record is about to be written. -/
theorem albums_match_across_devices {world : World DeviceId} {log : KeyLog}
    (hrun : UndisturbedRun (world, log)) (photo : PhotoItem) :
    (world.shared.photoRecord photo.uid photo.key ≠ .null →
      world.shared.photoImage photo.uid photo.key ≠ none ∨
        ∃ device, world.pending device =
          some (.deletePhoto photo.key.val,
            .remove (photoPath photo.uid.val photo.key.val))) ∧
    (world.shared.photoImage photo.uid photo.key ≠ none →
      world.shared.photoRecord photo.uid photo.key ≠ .null ∨
        ∃ device action request,
          world.pending device = some (action, request) ∧
            (request =
                .getDownloadURL (imagePath photo.uid.val photo.key.val) ∨
              ∃ value, request =
                .set (photoPath photo.uid.val photo.key.val) value)) := by
  obtain ⟨noted, rfl, hconsistent, halbums⟩ := albumsFollow_of_run hrun
  obtain ⟨-, -, state, hfollows, hinStep⟩ := halbums
  constructor
  · intro hrecord
    rcases hinStep.secondOnly photo ((hfollows.second photo).mpr hrecord)
      with himage | ⟨device, hdevice⟩
    · exact Or.inl ((hfollows.first photo).mp himage)
    · right
      have hstage := hfollows.stage device
      rw [hdevice] at hstage
      exact ⟨device, pending_of_taking hconsistent hstage⟩
  · intro himage
    rcases hinStep.firstOnly photo ((hfollows.first photo).mpr himage)
      with hrecord | ⟨device, hdevice⟩
    · exact Or.inl ((hfollows.second photo).mp hrecord)
    · right
      have hstage := hfollows.stage device
      rw [hdevice] at hstage
      exact ⟨device, pending_of_halfway hconsistent hstage⟩

end Simulation

/-! ## A phone and a tablet -/

theorem ordinaryKey_of_short {key : Segment} (hunreserved : Unreserved key.val)
    (hshort : key.val.length < 13) : OrdinaryKey key.val := by
  refine ⟨key.property, hunreserved, ?_⟩
  intro uid heq
  have hlength := congrArg String.length heq
  rw [String.length_append] at hlength
  have hpicture : "profile_image".length = 13 := by decide
  omega

theorem ordinaryKey_firstKey : OrdinaryKey firstKey.val :=
  ordinaryKey_of_short (by decide) (by decide)

theorem ordinaryKey_secondKey : OrdinaryKey secondKey.val :=
  ordinaryKey_of_short (by decide) (by decide)

/-- An action on one of two devices and its first requests; the key is what a
push gives. -/
def performOn (tablet : Bool) (action : Action) (key : Segment)
    (requests : ℕ) : List (Event Bool Action Oracle) :=
  .act tablet action ::
    List.replicate requests
      (.resume tablet
        { ok := true, uid := firstUid, url := "url", key
          time := ⟨2019, 7, 1, 12, 0, 0, 0, 0⟩ })

/-- A worker registers on the phone and adds a photo, and opens the album on
the tablet. -/
def sharedAlbum : List (Event Bool Action Oracle) :=
  performOn false .launch firstKey 2 ++
    performOn false .participe firstKey 1 ++
    performOn false .cadastrese firstKey 1 ++
    performOn false (.chooseType .trabalhador) firstKey 1 ++
    performOn false
      (registers (picturedForm "Ana Souza" "ana@folium.work")) firstKey 8 ++
    performOn false (.finishComplement complementForm) firstKey 7 ++
    performOn false .photos firstKey 3 ++
    performOn false .addPhoto firstKey 1 ++
    performOn false (.sendPhoto "Jardim" (some ⟨[]⟩)) firstKey 10 ++
    performOn true .launch firstKey 2 ++
    performOn true .participe firstKey 1 ++
    performOn true (.login "ana@folium.work" "secret") firstKey 4 ++
    performOn true .workerChoice firstKey 5 ++
    performOn true .photos firstKey 3

/-- Told to delete the photo, the tablet takes its image; before it goes on,
the phone stores the image of a second photo. -/
def deletesThenAdds : List (Event Bool Action Oracle) :=
  performOn true (.deletePhoto firstKey.val) secondKey 3 ++
    performOn false .addPhoto secondKey 1 ++
    performOn false (.sendPhoto "Muro" (some ⟨[]⟩)) secondKey 4

/-- The services give the uid and the two keys, each key once, and the first
photo is deleted after it was recorded. -/
def givesInTurn (entry : World Bool × KeyLog) :
    Event Bool Action Oracle → Bool
  | .act _ (.deletePhoto uidPhoto) =>
      uidPhoto == firstKey.val &&
        entry.2.written.contains (photoPath firstUid.val firstKey.val)
  | .act _ _ => true
  | .resume device oracle =>
      oracle.ok && oracle.uid.val == firstUid.val &&
        match entry.1.pending device with
        | some (_, .pushKey) =>
            (oracle.key.val == firstKey.val ||
              oracle.key.val == secondKey.val) &&
              !entry.2.given.contains oracle.key.val
        | _ => true
  | .kill _ => false

theorem undisturbed_of_givesInTurn {entry : World Bool × KeyLog}
    {event : Event Bool Action Oracle}
    (hgives : givesInTurn entry event = true) :
    entry.2.Undisturbed entry.1 event := by
  cases event with
  | act device action =>
      cases action with
      | deletePhoto uidPhoto =>
          simp only [givesInTurn, Bool.and_eq_true, beq_iff_eq,
            List.contains_iff_mem] at hgives
          exact ⟨firstKey, hgives.1.symm, firstUid, hgives.2⟩
      | _ => trivial
  | kill device => cases hgives
  | resume device oracle =>
      simp only [givesInTurn, Bool.and_eq_true, beq_iff_eq] at hgives
      obtain ⟨⟨hok, huid⟩, hkey⟩ := hgives
      refine ⟨hok, ?_⟩
      intro action request hpending
      rw [hpending] at hkey
      cases request with
      | createUserWithEmailAndPassword email password =>
          have hfirst : Unreserved firstUid.val := by decide
          rw [← huid] at hfirst
          exact hfirst
      | pushKey =>
          simp only [Bool.and_eq_true, Bool.or_eq_true, beq_iff_eq,
            Bool.not_eq_true', List.contains_eq_mem,
            decide_eq_false_iff_not] at hkey
          refine ⟨?_, hkey.2⟩
          rcases hkey.1 with heq | heq
          · rw [heq]
            exact ordinaryKey_firstKey
          · rw [heq]
            exact ordinaryKey_secondKey
      | _ => trivial

/-- The first photo is without its image and the second has one; each device
is about to bring the two parts of its photo together. -/
theorem albums_match_across_devices_bothAtWork :
    ∃ (world : World Bool) (log : KeyLog),
      CallSequences.run (logging app.step KeyLog.after)
        (World.initial Bool, KeyLog.empty)
        (sharedAlbum ++ deletesThenAdds) = some (world, log) ∧
      world.shared.photoImage firstUid firstKey = none ∧
      (world.shared.photoImage firstUid firstKey ≠ none ∨
        ∃ device, world.pending device =
          some (.deletePhoto firstKey.val,
            .remove (photoPath firstUid.val firstKey.val))) ∧
      world.shared.photoImage firstUid secondKey ≠ none ∧
      (world.shared.photoRecord firstUid secondKey ≠ .null ∨
        ∃ device action request,
          world.pending device = some (action, request) ∧
            (request =
                .getDownloadURL (imagePath firstUid.val secondKey.val) ∨
              ∃ value, request =
                .set (photoPath firstUid.val secondKey.val) value)) := by
  have hfacts : ((CallSequences.run (logging app.step KeyLog.after)
        (World.initial Bool, KeyLog.empty)
        (sharedAlbum ++ deletesThenAdds)).map fun entry =>
          ((entry.1.shared.photoImage firstUid firstKey).isNone &&
            !(entry.1.shared.photoRecord firstUid firstKey).fieldsOf.isEmpty
              && (entry.1.shared.photoImage firstUid secondKey).isSome)) =
      some true := by
    decide +kernel
  have hallowed : EachAllowed (logging app.step KeyLog.after)
      (fun entry event => givesInTurn entry event = true)
      (World.initial Bool, KeyLog.empty)
      (sharedAlbum ++ deletesThenAdds) := by
    decide +kernel
  obtain ⟨⟨world, log⟩, hrun, hfacts⟩ := Option.map_eq_some_iff.mp hfacts
  simp only [Bool.and_eq_true, Option.isNone_iff_eq_none,
    Option.isSome_iff_ne_none] at hfacts
  obtain ⟨⟨htaken, hrecord⟩, hstored⟩ := hfacts
  have hundisturbed : UndisturbedRun (world, log) :=
    (Reaches.refl.run _ hallowed hrun).mono
      fun _ _ => undisturbed_of_givesInTurn
  refine ⟨world, log, hrun, htaken, ?_, hstored, ?_⟩
  · apply (albums_match_across_devices hundisturbed
      ⟨firstUid, firstKey, ordinaryKey_firstKey⟩).1
    intro hnull
    rw [hnull] at hrecord
    cases hrecord
  · exact (albums_match_across_devices hundisturbed
      ⟨firstUid, secondKey, ordinaryKey_secondKey⟩).2 hstored

end FoliumApp
