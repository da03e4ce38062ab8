import FoliumApp.CallSequences
import FoliumApp.ProfileRoundTrip

/-!
# The directory of workers and their profiles

Completing a profile makes two writes: the profile at `users/<uid>/data` and
an entry in the directory below `workers`.  They are not one transaction, the
second is tried whether or not the first succeeded, and an entry is never
removed.  The first section says in the abstract when two such writes keep a
directory in agreement with the profiles; the rest shows that the code
performs exactly these abstract steps.
-/

namespace FoliumApp

open PathTree AsyncProgram CallSequences

/-! ## Directories in the abstract -/

/-- Which uids are listed at which places, and the place each profile
names. -/
@[ext] structure Directory (Uid Place : Type) where
  listed : Uid → Place → Prop
  place : Uid → Option Place

namespace Directory

variable {Uid Place : Type} [DecidableEq Uid]

def Agrees (directory : Directory Uid Place) : Prop :=
  ∀ uid place,
    directory.listed uid place ↔ directory.place uid = some place

/-- Write the profile and the entry, each only if its write succeeds. -/
def complete (directory : Directory Uid Place) (uid : Uid) (place : Place)
    (data reference : Bool) : Directory Uid Place :=
  { listed := fun other otherPlace =>
      directory.listed other otherPlace ∨
        (reference = true ∧ other = uid ∧ otherPlace = place)
    place :=
      if data then Function.update directory.place uid (some place)
      else directory.place }

/-- The steps that keep the agreement: the profile names the place already,
neither write succeeds, or both do and there was no profile. -/
def Consistent (directory : Directory Uid Place) (uid : Uid)
    (place : Place) (data reference : Bool) : Prop :=
  directory.place uid = some place ∨
    (data = false ∧ reference = false) ∨
    (data = true ∧ reference = true ∧ directory.place uid = none)

omit [DecidableEq Uid] in
/-- In a directory that agrees, a profile with a place is listed there and
nowhere else. -/
theorem Agrees.listed_unique {directory : Directory Uid Place}
    (hagrees : directory.Agrees) {uid : Uid} {place : Place}
    (hplace : directory.place uid = some place) :
    ∃! listedAt, directory.listed uid listedAt := by
  refine ⟨place, (hagrees uid place).mpr hplace, ?_⟩
  intro other hother
  have hsame := (hagrees uid other).mp hother
  rw [hplace] at hsame
  exact (Option.some.inj hsame).symm

theorem agrees_complete_of_ne
    {directory : Directory Uid Place} (hagrees : directory.Agrees)
    {uid other : Uid} (hne : other ≠ uid) (place otherPlace : Place)
    (data reference : Bool) :
    (directory.complete uid place data reference).listed other otherPlace ↔
      (directory.complete uid place data reference).place other =
        some otherPlace := by
  have hother := hagrees other otherPlace
  cases data <;> simp [complete, hne, hother]

theorem agrees_complete_iff
    {directory : Directory Uid Place} (hagrees : directory.Agrees)
    (uid : Uid) (place : Place) (data reference : Bool) :
    (directory.complete uid place data reference).Agrees ↔
      directory.Consistent uid place data reference := by
  constructor
  · intro hnext
    have hplace := hnext uid place
    by_cases hsame : directory.place uid = some place
    · exact Or.inl hsame
    · have hunlisted : ¬ directory.listed uid place := by
        intro hlisted
        exact hsame ((hagrees uid place).mp hlisted)
      cases data with
      | false =>
          cases reference with
          | false => exact Or.inr (Or.inl ⟨rfl, rfl⟩)
          | true =>
              simp [complete, hunlisted] at hplace
              exact Or.inl hplace
      | true =>
          cases reference with
          | false => simp [complete, hunlisted] at hplace
          | true =>
              right
              right
              refine ⟨rfl, rfl, ?_⟩
              by_contra hsome
              obtain ⟨old, hold⟩ := Option.ne_none_iff_exists'.mp hsome
              have hlisted := (hagrees uid old).mpr hold
              have hmoved : some place = some old := by
                have h := (hnext uid old).mp (Or.inl hlisted)
                simpa [complete] using h
              rw [← hmoved] at hold
              exact hsame hold
  · intro hconsistent other otherPlace
    by_cases heq : other = uid
    · subst other
      have hbefore := hagrees uid otherPlace
      rcases hconsistent with
        hsame | ⟨hdata, hreference⟩ | ⟨hdata, hreference, hnone⟩
      · cases data <;> cases reference <;>
          simp [complete, hbefore, hsame, eq_comm]
      · subst hdata hreference
        simpa [complete] using hbefore
      · subst hdata hreference
        simp [complete, hbefore, hnone, eq_comm]
    · exact agrees_complete_of_ne hagrees heq place otherPlace data
        reference

end Directory

/-! ## The directory of the database -/

/-- A place of the directory; the area stands in paths as its decimal
text. -/
structure DirectoryPlace where
  country : String
  state : String
  city : String
  area : String
  deriving DecidableEq

def Worker.place (worker : Worker) : Option DirectoryPlace := do
  let location ← worker.location
  let country ← location.country
  let state ← location.state
  let city ← location.city
  let occupation ← worker.occupation
  let area ← occupation.area
  return { country, state, city, area := toString area }

def Backend.profilePlace (backend : Backend) (uid : String) :
    Option DirectoryPlace :=
  match Snapshot.ofValue (backend.database.get ["users", uid, "data"]) >>=
      Worker.fromDB with
  | .ok worker => worker.place
  | .error _ => none

def DirectoryPlace.entry (place : DirectoryPlace) (uid : String) :
    List String :=
  ["workers", place.country, place.state, place.city, place.area, uid]

/-- The directory and the profiles as the database holds them. -/
def Backend.directory (backend : Backend) :
    Directory String DirectoryPlace :=
  { listed := fun uid place => backend.database.get (place.entry uid) ≠ .null
    place := backend.profilePlace }

/-! ## Completing a profile -/

/-- A session worker as the app makes them: the uid comes from the auth
service and the location names from the catalogue. -/
structure ListableWorker where
  worker : Worker
  location : Location
  uid : Segment
  country : Segment
  state : Segment
  city : Segment
  uid_eq : worker.uid = some uid.val
  location_eq : worker.location = some location
  country_eq : location.country = some country.val
  state_eq : location.state = some state.val
  city_eq : location.city = some city.val

/-- One call of `registerCompleteWorker` with the answers it meets. -/
structure CompletionCall where
  session : ListableWorker
  form : Complement
  oracle : ℕ → Oracle

namespace CompletionCall

def uid (call : CompletionCall) : String := call.session.uid.val

def completed (call : CompletionCall) : Worker :=
  WorkerComplementController.complete call.session.worker
    call.session.location call.form

def place (call : CompletionCall) : DirectoryPlace :=
  { country := call.session.country.val
    state := call.session.state.val
    city := call.session.city.val
    area := toString call.form.category.uid }

def entryPath (call : CompletionCall) : String :=
  directoryPath call.place.country call.place.state call.place.city
    call.place.area call.uid

def dataWritten (call : CompletionCall) : Bool :=
  (call.oracle 1).ok && isValidPathString (dataPath call.uid)

def referenceWritten (call : CompletionCall) : Bool :=
  (call.oracle 3).ok && isValidPathString call.entryPath

end CompletionCall

def afterCompletion (device : Device) (backend : Backend)
    (call : CompletionCall) : Backend :=
  (App.run
    (WorkerComplementController.registerCompleteWorker
      (some call.session.worker) call.form)
    call.oracle backend device).2.1

theorem mem_toString_int {area : ℤ} {c : Char}
    (hmem : c ∈ (toString area).toList) : c = '-' ∨ c.isDigit = true := by
  have hdigits : ∀ n : ℕ, c ∈ (Nat.repr n).toList → c.isDigit = true := by
    intro n hdigit
    rw [Nat.toList_repr] at hdigit
    exact Nat.isDigit_of_mem_toDigits (by decide) (by decide) hdigit
  cases area with
  | ofNat n => exact Or.inr (hdigits n hmem)
  | negSucc n =>
      have hsign : c ∈ ("-" ++ Nat.repr (n + 1)).toList := hmem
      rw [String.toList_append, List.mem_append] at hsign
      rcases hsign with hsign | hdigit
      · exact Or.inl (List.mem_singleton.mp hsign)
      · exact Or.inr (hdigits (n + 1) hdigit)

theorem isSegment_toString (area : ℤ) : IsSegment (toString area) := by
  constructor
  · cases area with
    | ofNat n =>
        intro hempty
        have hlist := congrArg String.toList hempty
        change (Nat.repr n).toList = [] at hlist
        rw [Nat.toList_repr] at hlist
        exact Nat.toDigits_ne_nil hlist
    | negSucc n =>
        intro hempty
        have hlist := congrArg String.toList hempty
        change ("-" ++ Nat.repr (n + 1)).toList = [] at hlist
        simp at hlist
  · intro hslash
    rcases mem_toString_int hslash with hsign | hdigit
    · exact absurd hsign (by decide)
    · exact absurd hdigit (by decide)

section Call

variable (call : CompletionCall) (device : Device) (backend : Backend)

theorem pieces_entryPath :
    pieces call.entryPath = call.place.entry call.uid := by
  have harea := isSegment_toString call.form.category.uid
  unfold CompletionCall.entryPath
  rw [pieces_directoryPath]
  simp only [CompletionCall.place, CompletionCall.uid,
    pieces_segment call.session.country.property,
    pieces_segment call.session.state.property,
    pieces_segment call.session.city.property,
    pieces_segment call.session.uid.property, pieces_segment harea]
  rfl

theorem pieces_dataPath_call :
    pieces (dataPath call.uid) = ["users", call.uid, "data"] :=
  pieces_dataPath_user call.session.uid.property

def CompletionCall.profile (call : CompletionCall) : Json :=
  .obj (call.completed.fields
    { call.session.location with address := some call.form.address }
    { cash := some call.form.cash, check := some call.form.check
      creditCard := some call.form.creditCard
      homeCare := some call.form.homeCare
      freeBudget := some call.form.freeBudget }
    { facebook := some call.form.facebook
      instagram := some call.form.instagram
      whatsApp := some call.form.whatsApp, link := some "" }
    { area := some call.form.category.uid
      description := some call.form.description })

/-- The profile a call writes is decoded as the completed worker, up to the
fields that no profile keeps. -/
theorem CompletionCall.decode_profile :
    (Snapshot.ofValue call.profile.prune >>= Worker.fromDB) =
      .ok { call.completed with
        birth := none
        location := some
          { call.session.location with
            address := some call.form.address
            latitude := none, longitude := none } } :=
  completedProfile_decoded call.session.worker call.session.location
    call.form

theorem interpolate_session_uid :
    interpolate call.session.worker.uid = call.uid := by
  rw [call.session.uid_eq]
  rfl

theorem workerDirectoryPath_call :
    WorkerComplementController.workerDirectoryPath call.session.worker
        call.session.location call.form.category.uid =
      call.entryPath := by
  unfold WorkerComplementController.workerDirectoryPath
  rw [interpolate_session_uid, call.session.country_eq,
    call.session.state_eq, call.session.city_eq]
  rfl

theorem registerCompleteWorker_eq :
    WorkerComplementController.registerCompleteWorker
        (some call.session.worker) call.form =
      (do
        LoginController.setCurrentUser (.worker call.completed)
        let data ← sendData call.profile (dataPath call.uid)
        let time ← DateTime.now
        let reference ←
          sendData (.obj [("time", .str time.toString)]) call.entryPath
        return data && reference) := by
  rw [registerCompleteWorker_of_location call.form
    call.session.location_eq, interpolate_session_uid,
    workerDirectoryPath_call]
  rfl

/-- Both writes are tried, each on its own. -/
theorem afterCompletion_eq :
    afterCompletion device backend call =
      let data :=
        if call.dataWritten then
          backend.write (dataPath call.uid) call.profile
        else backend
      if call.referenceWritten then
        data.write call.entryPath
          (.obj [("time", .str (call.oracle 2).time.toString)])
      else data := by
  unfold afterCompletion
  rw [run_registerCompleteWorker call.form call.session.location_eq]
  simp only [interpolate_session_uid, workerDirectoryPath_call]
  rfl

/-! ## The two writes as steps of the directory -/

theorem directory_write_profile :
    (backend.write (dataPath call.uid) call.profile).directory =
      backend.directory.complete call.uid call.place true false := by
  have hself :
      (backend.write (dataPath call.uid) call.profile).profilePlace
        call.uid = some call.place := by
    have hstored :
        (backend.write (dataPath call.uid) call.profile).database.get
          ["users", call.uid, "data"] = call.profile.prune := by
      rw [← pieces_dataPath_call]
      exact Backend.read_write _ _ _
    unfold Backend.profilePlace
    rw [hstored, call.decode_profile]
    simp only [Worker.place, CompletionCall.completed,
      WorkerComplementController.complete, call.session.country_eq,
      call.session.state_eq, call.session.city_eq]
    rfl
  ext uid place
  · have hapart :
        Json.Apart (pieces (dataPath call.uid)) (place.entry uid) := by
      rw [pieces_dataPath_call]
      exact Json.apart_of_getElem_ne 0 (by simp) (by
        simp [DirectoryPlace.entry]) (by simp [DirectoryPlace.entry])
    simp only [Backend.directory, Directory.complete, Backend.write]
    rw [Json.get_setAt_of_apart hapart]
    simp
  · simp only [Backend.directory, Directory.complete, if_true]
    by_cases heq : uid = call.uid
    · subst heq
      rw [hself, Function.update_self]
    · rw [Function.update_of_ne heq]
      have hapart :
          Json.Apart (pieces (dataPath call.uid))
            ["users", uid, "data"] := by
        rw [pieces_dataPath_call]
        exact Json.apart_of_getElem_ne 1 (by simp) (by simp)
          (by simpa using Ne.symm heq)
      unfold Backend.profilePlace Backend.write
      rw [Json.get_setAt_of_apart hapart]

theorem directory_write_entry (time : String) :
    (backend.write call.entryPath
        (.obj [("time", .str time)])).directory =
      backend.directory.complete call.uid call.place false true := by
  ext uid place
  · simp only [Backend.directory, Directory.complete, Backend.write,
      pieces_entryPath, true_and]
    by_cases heq : uid = call.uid ∧ place = call.place
    · obtain ⟨rfl, rfl⟩ := heq
      rw [Json.get_setAt_self]
      simp [Json.prune, Json.pruneFields, Json.ofFields]
    · have hapart :
          Json.Apart (call.place.entry call.uid) (place.entry uid) := by
        apply Json.apart_of_length_eq (by simp [DirectoryPlace.entry])
        intro hentry
        apply heq
        simp only [DirectoryPlace.entry, List.cons.injEq, true_and,
          and_true] at hentry
        obtain ⟨hcountry, hstate, hcity, harea, huid⟩ := hentry
        refine ⟨huid.symm, ?_⟩
        cases place with
        | mk country state city area =>
            subst hcountry hstate hcity harea
            rfl
      rw [Json.get_setAt_of_apart hapart]
      simp [heq]
  · have hapart :
        Json.Apart (pieces call.entryPath) ["users", uid, "data"] := by
      rw [pieces_entryPath]
      exact Json.apart_of_getElem_ne 0 (by simp [DirectoryPlace.entry])
        (by simp) (by simp [DirectoryPlace.entry])
    simp only [Backend.directory, Directory.complete, Bool.false_eq_true,
      if_false]
    unfold Backend.profilePlace Backend.write
    rw [Json.get_setAt_of_apart hapart]

/-- A call performs the abstract completion. -/
theorem directory_afterCompletion :
    (afterCompletion device backend call).directory =
      backend.directory.complete call.uid call.place call.dataWritten
        call.referenceWritten := by
  have hnone : backend.directory =
      backend.directory.complete call.uid call.place false false := by
    ext uid place
    · simp [Directory.complete]
    · simp [Directory.complete]
  have hboth :
      (backend.directory.complete call.uid call.place true false).complete
          call.uid call.place false true =
        backend.directory.complete call.uid call.place true true := by
    ext uid place
    · simp [Directory.complete]
    · simp [Directory.complete]
  rw [afterCompletion_eq]
  cases hdata : call.dataWritten with
  | false =>
      cases hreference : call.referenceWritten with
      | false => exact hnone
      | true => exact directory_write_entry call backend _
  | true =>
      cases hreference : call.referenceWritten with
      | false => exact directory_write_profile call backend
      | true =>
          simp only [if_true]
          rw [directory_write_entry, directory_write_profile, hboth]

end Call

/-! ## Sequences of completions -/

/-- Each uid is listed exactly where its stored profile places it; so every
stored profile is listed in exactly one place. -/
def Backend.DirectorySound (backend : Backend) : Prop :=
  (∀ uid place,
    backend.database.get (place.entry uid) ≠ .null ↔
      backend.profilePlace uid = some place) ∧
  ∀ uid place, backend.profilePlace uid = some place →
    ∃! listedAt : DirectoryPlace,
      backend.database.get (listedAt.entry uid) ≠ .null

theorem Backend.directorySound_iff (backend : Backend) :
    backend.DirectorySound ↔ backend.directory.Agrees := by
  constructor
  · intro hsound
    exact hsound.1
  · intro hagrees
    refine ⟨hagrees, ?_⟩
    intro uid place hplace
    exact hagrees.listed_unique hplace

/-- Along any sequence of completions the directory lists each uid exactly
where its stored profile places it, if and only if every call finds its
place already in the profile, or fails in both writes, or succeeds in both
for a uid without a profile. -/
theorem directory_agrees_along_iff
    (device : Device) (backend : Backend)
    (hsound : backend.DirectorySound) (calls : List CompletionCall) :
    HoldsAlong (afterCompletion device) Backend.DirectorySound backend
        calls ↔
      EachMeets (afterCompletion device)
        (fun state call =>
          state.directory.Consistent call.uid call.place call.dataWritten
            call.referenceWritten)
        backend calls := by
  refine holdsAlong_iff_eachMeets (fun _ => True) trivial hsound ?_ ?_ calls
  · intro state call _
    trivial
  · intro state call _ hstate
    rw [Backend.directorySound_iff] at hstate ⊢
    rw [directory_afterCompletion]
    exact Directory.agrees_complete_iff hstate _ _ _ _

def anaSession : ListableWorker where
  worker :=
    SimpleRegisterController.newWorker "Ana Souza" "ana@folium.work"
      "Brasil" "Xapuri" "Acre" ⟨1990, 5, 17, 0, 0, 0, 0, 0⟩ "u1" ""
  location := SimpleRegisterController.newLocation "Brasil" "Xapuri" "Acre"
  uid := firstUid
  country := ⟨"Brasil", by decide⟩
  state := ⟨"Acre", by decide⟩
  city := ⟨"Xapuri", by decide⟩
  uid_eq := rfl
  location_eq := rfl
  country_eq := rfl
  state_eq := rfl
  city_eq := rfl

def anaComplement (area : ℤ) : Complement :=
  { category := ⟨area, "Pintura"⟩, address := "Rua A, 10"
    description := "Pintora", creditCard := false, check := false
    cash := true, homeCare := false, freeBudget := true, whatsApp := ""
    instagram := "", facebook := "" }

/-- The same worker completes the profile twice, with two categories. -/
def secondCategory : List CompletionCall :=
  [⟨anaSession, anaComplement 3, failingAt 9⟩,
    ⟨anaSession, anaComplement 5, failingAt 9⟩]

theorem Backend.empty_directorySound : Backend.empty.DirectorySound := by
  rw [Backend.directorySound_iff]
  intro uid place
  have hlisted :
      Backend.empty.database.get (place.entry uid) = .null :=
    Json.get_null _
  have hplace : Backend.empty.profilePlace uid = none := by
    unfold Backend.profilePlace
    rw [show Backend.empty.database.get ["users", uid, "data"] = .null from
      Json.get_null _]
    rfl
  simp [Backend.directory, hlisted, hplace]

/-- The profile is completed, completed again under the same category, and
then under another by a call whose writes both fail. -/
def sameCategory : List CompletionCall :=
  [⟨anaSession, anaComplement 3, failingAt 9⟩,
    ⟨anaSession, anaComplement 3, failingAt 3⟩,
    ⟨anaSession, anaComplement 5, fun _ => failingAt 0 0⟩]

theorem directory_agrees_along_iff_sameCategory :
    HoldsAlong (afterCompletion Device.fresh) Backend.DirectorySound
      Backend.empty sameCategory := by
  apply (directory_agrees_along_iff Device.fresh Backend.empty
    Backend.empty_directorySound sameCategory).mpr
  refine eachMeets_concat.mpr ⟨eachMeets_concat.mpr
    ⟨eachMeets_concat.mpr ⟨eachMeets_nil, ?_⟩, ?_⟩, ?_⟩
  · exact Or.inr (Or.inr ⟨by decide, by decide, rfl⟩)
  · refine Or.inl ?_
    rw [after_concat, directory_afterCompletion]
    rfl
  · exact Or.inr (Or.inl ⟨by decide, by decide⟩)

/-- No call fails, and the worker stays listed under the first category. -/
theorem second_category_keeps_first_entry :
    ¬ HoldsAlong (afterCompletion Device.fresh) Backend.DirectorySound
      Backend.empty secondCategory := by
  intro halong
  have hsound := halong secondCategory (List.prefix_refl _)
  rw [Backend.directorySound_iff] at hsound
  have hdirectory :
      (after (afterCompletion Device.fresh) Backend.empty
          secondCategory).directory =
        (Backend.empty.directory.complete "u1"
          ⟨"Brasil", "Acre", "Xapuri", "3"⟩ true true).complete "u1"
          ⟨"Brasil", "Acre", "Xapuri", "5"⟩ true true := by
    rw [show after (afterCompletion Device.fresh) Backend.empty
        secondCategory =
      afterCompletion Device.fresh
        (afterCompletion Device.fresh Backend.empty
          ⟨anaSession, anaComplement 3, failingAt 9⟩)
        ⟨anaSession, anaComplement 5, failingAt 9⟩ from rfl,
      directory_afterCompletion, directory_afterCompletion]
    rfl
  rw [hdirectory] at hsound
  have hfirst :=
    (hsound "u1" ⟨"Brasil", "Acre", "Xapuri", "3"⟩).mp
      (Or.inl (Or.inr ⟨rfl, rfl, rfl⟩))
  simp [Directory.complete] at hfirst

end FoliumApp
