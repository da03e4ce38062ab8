import FoliumApp.HandlerPhases
import FoliumApp.PhotoAlbum
import FoliumApp.ProfileWriters

/-!
# What the services hold

The services start empty and hold what the handlers put there: records of
admitted users, photos under their own keys, the entries that list workers,
and images.  What is said of the store is kept by every lawful request; what
is said of a handler follows from its phase.  Both together hold in every
state the app reaches, whatever fails and in whatever order the requests of
the devices are served.
-/

namespace FoliumApp

open PathTree AsyncProgram CallSequences

/-! ## Writes -/

def entryNode (worker : Worker) (location : Location)
    (form : Complement) : List String :=
  pieces
    (WorkerComplementController.workerDirectoryPath worker location
      form.category.uid)

/-- Where something is written for an account. -/
inductive Registry.Place (registry : Registry) : List String → Prop where
  | record {uid : Segment} (huid : registry.HasUid uid) :
      Place registry (recordPieces uid)
  | photo {uid : Segment} (huid : registry.HasUid uid) (key : Segment) :
      Place registry (photosNode uid ++ [key.val])
  | entry {uid : Segment} {worker : Worker} {location : Location}
      {form : Complement}
      (hcompletion : registry.Completion uid worker location form) :
      Place registry (entryNode worker location form)

/-- What is written, and where. -/
inductive Registry.Written (registry : Registry) :
    List String → Json → Prop where
  | record {uid : Segment} {data : Json}
      (hrecord : registry.Record uid data) :
      Written registry (recordPieces uid) data
  | photo {uid : Segment} (huid : registry.HasUid uid) (key : Segment)
      (description url : String) :
      Written registry (photosNode uid ++ [key.val])
        (photoValue description url key)
  | removal {uid : Segment} (huid : registry.HasUid uid) (key : Segment) :
      Written registry (photosNode uid ++ [key.val]) .null
  | entry {uid : Segment} {worker : Worker} {location : Location}
      {form : Complement}
      (hcompletion : registry.Completion uid worker location form)
      (time : DateTime) :
      Written registry (entryNode worker location form) (entryValue time)

section Writes

variable {registry : Registry} {path : List String} {value : Json}

theorem Registry.Written.place (hwritten : registry.Written path value) :
    registry.Place path := by
  cases hwritten with
  | record hrecord => exact .record hrecord.hasUid
  | photo huid key description url => exact .photo huid key
  | removal huid key => exact .photo huid key
  | entry hcompletion time => exact .entry hcompletion

theorem photoValue_prune (description url : String) (key : Segment) :
    (photoValue description url key).prune =
      photoValue description url key := by
  simp [photoValue, Photo.toJson, ofString, Json.prune, Json.pruneFields,
    Json.ofFields]

theorem entryValue_prune (time : DateTime) :
    (entryValue time).prune = entryValue time := by
  simp [entryValue, Json.prune, Json.pruneFields, Json.ofFields]

theorem photoValue_distinctNames (description url : String)
    (key : Segment) : (photoValue description url key).DistinctNames := by
  apply Json.distinctNames_obj (by simp)
  simp only [List.forall_mem_cons, distinctNames_ofString,
    List.not_mem_nil, false_implies, implies_true, and_self]

theorem entryValue_distinctNames (time : DateTime) :
    (entryValue time).DistinctNames := by
  apply Json.distinctNames_obj (by simp)
  intro field hmem
  rw [List.mem_singleton.mp hmem]
  exact Json.distinctNames_of_fieldsOf_nil rfl

theorem Registry.Written.canonical (hwritten : registry.Written path value) :
    value.Canonical := by
  cases hwritten with
  | record hrecord => exact hrecord.canonical
  | photo huid key description url =>
      rw [← photoValue_prune]
      exact (photoValue_distinctNames _ _ _).canonical_prune
  | removal huid key => exact Json.canonical_null
  | entry hcompletion time =>
      rw [← entryValue_prune]
      exact (entryValue_distinctNames time).canonical_prune

theorem apart_entryNode (worker : Worker) (location : Location)
    (form : Complement) (rest : List String) :
    Json.Apart (entryNode worker location form) ("users" :: rest) := by
  unfold entryNode WorkerComplementController.workerDirectoryPath
  rw [pieces_directoryPath]
  simp only [List.cons_append]
  exact apart_of_head_ne (by decide)

theorem apart_photosNode_recordPieces (owner uid : Segment) (key : String) :
    Json.Apart (photosNode owner ++ [key]) (recordPieces uid) :=
  Json.apart_of_getElem_ne 2 (by simp [photosNode]) (by simp [recordPieces])
    (by simp [photosNode, recordPieces])

theorem photosNode_inj {owner uid : Segment} {key other : String}
    (heq : photosNode owner ++ [key] = photosNode uid ++ [other]) :
    owner = uid ∧ key = other := by
  simp only [photosNode, List.cons_append, List.nil_append, List.cons.injEq,
    true_and, and_true] at heq
  exact ⟨Subtype.ext heq.1, heq.2⟩

theorem recordPieces_inj {owner uid : Segment}
    (heq : recordPieces owner = recordPieces uid) : owner = uid := by
  simp only [recordPieces, List.cons.injEq, true_and, and_true] at heq
  exact Subtype.ext heq

/-- A write at the record of an account is of a record of that account. -/
theorem Registry.Written.at_record
    (hwritten : registry.Written path value) (uid : Segment) :
    (path = recordPieces uid ∧ registry.Record uid value) ∨
      Json.Apart path (recordPieces uid) := by
  cases hwritten with
  | @record owner _ hrecord =>
      by_cases heq : owner = uid
      · subst heq
        exact Or.inl ⟨rfl, hrecord⟩
      · right
        apply Json.apart_of_length_eq (by simp [recordPieces])
        intro hpath
        exact heq (recordPieces_inj hpath)
  | photo huid key description url =>
      exact Or.inr (apart_photosNode_recordPieces _ uid key.val)
  | removal huid key =>
      exact Or.inr (apart_photosNode_recordPieces _ uid key.val)
  | entry hcompletion time => exact Or.inr (apart_entryNode _ _ _ _)

/-- What is found at a photo's place: nothing, or the photo under its key. -/
def HoldsPhoto (key : String) (value : Json) : Prop :=
  value = .null ∨
    ∃ name : Segment, name.val = key ∧
      ∃ description url, value = photoValue description url name

theorem Registry.Written.at_photo
    (hwritten : registry.Written path value) (uid : Segment)
    (key : String) :
    (path = photosNode uid ++ [key] ∧ HoldsPhoto key value) ∨
      Json.Apart path (photosNode uid ++ [key]) := by
  have hphoto : ∀ (owner name : Segment),
      (photosNode owner ++ [name.val] = photosNode uid ++ [key] ∧
        name.val = key) ∨
      Json.Apart (photosNode owner ++ [name.val])
        (photosNode uid ++ [key]) := by
    intro owner name
    by_cases heq :
        photosNode owner ++ [name.val] = photosNode uid ++ [key]
    · exact Or.inl ⟨heq, (photosNode_inj heq).2⟩
    · exact Or.inr (Json.apart_of_length_eq (by simp [photosNode]) heq)
  cases hwritten with
  | record hrecord =>
      exact Or.inr (apart_photosNode_recordPieces uid _ key).symm
  | @photo owner huid name description url =>
      rcases hphoto owner name with ⟨hpath, hname⟩ | hapart
      · exact Or.inl ⟨hpath, Or.inr ⟨name, hname, description, url, rfl⟩⟩
      · exact Or.inr hapart
  | @removal owner huid name =>
      rcases hphoto owner name with ⟨hpath, -⟩ | hapart
      · exact Or.inl ⟨hpath, Or.inl rfl⟩
      · exact Or.inr hapart
  | entry hcompletion time => exact Or.inr (apart_entryNode _ _ _ _)

end Writes

/-! ## The services -/

/-- What the services hold of the accounts in the registry. -/
structure Registry.Sound (registry : Registry) (backend : Backend) :
    Prop where
  records : ∀ uid : Segment,
    backend.read (dataPath uid.val) = .null ∨
      registry.Record uid (backend.read (dataPath uid.val))
  photos : ∀ (uid : Segment) (key : String),
    HoldsPhoto key (backend.photoRecord uid key)
  layout : backend.database.LeavesIn registry.Place
  canonical : backend.database.Canonical
  objects : ∀ path, backend.storage path ≠ none →
    ∃ uid name : Segment, registry.HasUid uid ∧ path = imageObject uid name
  registered : ∀ account ∈ backend.accounts,
    registry.account account.uid account.email
  emails : (backend.accounts.map Account.email).Nodup
  uids : (backend.accounts.map Account.uid).Nodup

section Services

variable {registry : Registry} {backend : Backend}

theorem Registry.sound_empty (registry : Registry) :
    registry.Sound Backend.empty := by
  have hnull : ∀ path, Backend.empty.database.get path = .null :=
    Json.get_null
  constructor
  · intro uid
    exact Or.inl (hnull _)
  · intro uid key
    exact Or.inl (hnull _)
  · exact Json.leavesIn_null _
  · exact Json.canonical_null
  · intro path hstored
    exact absurd rfl hstored
  · rintro account hmem
    cases hmem
  · exact List.nodup_nil
  · exact List.nodup_nil

theorem Registry.Sound.write (hsound : registry.Sound backend)
    {path : String} {value : Json}
    (hwritten : registry.Written (pieces path) value.prune) :
    registry.Sound (backend.write path value) := by
  constructor
  · intro uid
    rcases hwritten.at_record uid with ⟨hpath, hrecord⟩ | hapart
    · have hread : (backend.write path value).read (dataPath uid.val) =
          value.prune := by
        unfold Backend.read Backend.write
        rw [pieces_dataPath_segment, ← hpath]
        exact Json.get_setAt_self _ _ _
      rw [hread]
      exact Or.inr hrecord
    · rw [Backend.read_write_of_apart _
        (by rw [pieces_dataPath_segment]; exact hapart)]
      exact hsound.records uid
  · intro uid key
    rcases hwritten.at_photo uid key with ⟨hpath, hphoto⟩ | hapart
    · have hread :
          (backend.write path value).photoRecord uid key = value.prune := by
        unfold Backend.photoRecord Backend.write
        rw [hpath]
        exact Json.get_setAt_self _ _ _
      rw [hread]
      exact hphoto
    · have hread : (backend.write path value).photoRecord uid key =
          backend.photoRecord uid key :=
        Json.get_setAt_of_apart hapart _ _
      rw [hread]
      exact hsound.photos uid key
  · exact hsound.layout.setAt hwritten.place _
  · exact hsound.canonical.setAt hwritten.canonical _
  · exact hsound.objects
  · exact hsound.registered
  · exact hsound.emails
  · exact hsound.uids

theorem Registry.Sound.putObject (hsound : registry.Sound backend)
    {path : String} {content : Option File}
    (hobject : content ≠ none →
      ∃ uid name : Segment, registry.HasUid uid ∧
        pieces path = imageObject uid name) :
    registry.Sound (backend.putObject path content) := by
  refine { hsound with objects := ?_ }
  intro other hstored
  by_cases heq : other = pieces path
  · subst heq
    rw [Backend.storage_putObject] at hstored
    exact hobject hstored
  · apply hsound.objects
    have hother : (backend.putObject path content).storage other =
        backend.storage other := Function.update_of_ne heq _ _
    rwa [hother] at hstored

theorem Registry.Sound.addAccount (hsound : registry.Sound backend)
    {email password : String} {uid : Segment}
    (haccepts : backend.acceptsAccount email uid = true)
    (haccount : registry.account uid email) :
    registry.Sound (backend.addAccount email password uid) := by
  unfold Backend.acceptsAccount at haccepts
  rw [Bool.and_eq_true, Bool.not_eq_true', Bool.not_eq_true'] at haccepts
  obtain ⟨hemail, huid⟩ := haccepts
  refine { hsound with registered := ?_, emails := ?_, uids := ?_ }
  · intro account hmem
    rcases List.mem_append.mp hmem with hold | hnew
    · exact hsound.registered account hold
    · rw [List.mem_singleton.mp hnew]
      exact haccount
  · unfold Backend.addAccount
    rw [List.map_append, List.nodup_append]
    refine ⟨hsound.emails, List.nodup_singleton _, ?_⟩
    intro used hused other hother heq
    obtain ⟨account, hmem, rfl⟩ := List.mem_map.mp hused
    rw [List.mem_singleton.mp hother] at heq
    unfold Backend.emailUsed at hemail
    rw [List.any_eq_false] at hemail
    exact hemail account hmem (by simp [heq])
  · unfold Backend.addAccount
    rw [List.map_append, List.nodup_append]
    refine ⟨hsound.uids, List.nodup_singleton _, ?_⟩
    intro used hused other hother heq
    obtain ⟨account, hmem, rfl⟩ := List.mem_map.mp hused
    rw [List.mem_singleton.mp hother] at heq
    unfold Backend.uidUsed at huid
    rw [List.any_eq_false] at huid
    exact huid account hmem (by simp [heq])

end Services

/-! ## One request -/

def Request.changesServices : Request → Bool
  | .createUserWithEmailAndPassword _ _ => true
  | .set _ _ => true
  | .remove _ => true
  | .putFile _ _ => true
  | .delete _ => true
  | _ => false

theorem Request.exec_services {request : Request}
    (hrequest : request.changesServices = false) (oracle : Oracle)
    (backend : Backend) (device : Device) :
    (request.exec oracle backend device).2.1 = backend := by
  cases request with
  | signInWithEmailAndPassword email password =>
      simp only [Request.exec]
      split
      · split_ifs <;> rfl
      · rfl
  | createUserWithEmailAndPassword email password => cases hrequest
  | set path value => cases hrequest
  | remove path => cases hrequest
  | putFile path file => cases hrequest
  | delete path => cases hrequest
  | pushKey => rfl
  | now => rfl
  | getSession => rfl
  | setSession user => rfl
  | navigate navigation => rfl
  | setLoad load => rfl
  | showSnackBar text => rfl
  | _ =>
      simp only [Request.exec]
      split_ifs <;> rfl

section Lawful

variable {registry : Registry} {backend : Backend} {action : Action}
  {device : Device} {phase : Phase}

/-- The account of a device is in the registry. -/
def Registry.Knows (registry : Registry) (device : Device) : Prop :=
  ∀ uid, device.signedIn = some uid → registry.HasUid uid

theorem Registry.Lawful.written_set {path : String} {value : Json}
    (hlawful : registry.Lawful action device phase (.set path value)) :
    registry.Written (pieces path) value.prune := by
  cases hlawful with
  | writeClient account hadmits hlocation haddress hfavorites =>
      rw [pieces_dataPath_segment]
      exact .record (.client hadmits hlocation haddress hfavorites)
  | writeWorker account hcompletion =>
      rw [pieces_dataPath_segment]
      exact .record (.worker hcompletion)
  | @writePhoto uid key description url huid hsigned =>
      rw [pieces_photoPath_segment, photoValue_prune]
      exact .photo huid key description url
  | listWorker account time hcompletion =>
      rw [entryValue_prune]
      exact .entry hcompletion time
  | listUnsaved account time hcompletion =>
      rw [entryValue_prune]
      exact .entry hcompletion time

theorem Registry.Lawful.written_remove {path : String}
    (hlawful : registry.Lawful action device phase (.remove path))
    (hknows : registry.Knows device) :
    registry.Written (pieces path) Json.null.prune := by
  cases hlawful with
  | @removePhoto uid name uidPhoto haction hname hsigned =>
      rw [pieces_photoPath_user uid.property, hname]
      exact .removal (hknows uid hsigned) name

theorem pieces_profileImagePath (uid : Segment) :
    ∃ name : Segment,
      pieces (profileImagePath uid.val) = imageObject uid name := by
  refine ⟨⟨uid.val ++ "profile_image",
    uid.property.append (by decide)⟩, ?_⟩
  unfold profileImagePath imageObject
  rw [pieces_imagesUser, pieces_segment uid.property,
    pieces_segment (uid.property.append (by decide))]
  simp only [List.cons_append, List.nil_append, String.append_assoc]
  rfl

theorem Registry.Lawful.object_putFile {path : String} {file : File}
    (hlawful : registry.Lawful action device phase (.putFile path file))
    (hknows : registry.Knows device) :
    ∃ uid name : Segment, registry.HasUid uid ∧
      pieces path = imageObject uid name := by
  cases hlawful with
  | @putProfilePicture uid file hsigned =>
      obtain ⟨name, hname⟩ := pieces_profileImagePath uid
      exact ⟨uid, name, hknows uid hsigned, hname⟩
  | @putImage uid key file hsigned =>
      exact ⟨uid, key, hknows uid hsigned, pieces_imagePath_segment uid key⟩

/-- A lawful request leaves the services sound, made or refused. -/
theorem Registry.Sound.exec (hsound : registry.Sound backend)
    {request : Request}
    (hlawful : registry.Lawful action device phase request)
    (hknows : registry.Knows device) (oracle : Oracle)
    (hregistered :
      ∀ account ∈ (request.exec oracle backend device).2.1.accounts,
        registry.account account.uid account.email) :
    registry.Sound (request.exec oracle backend device).2.1 := by
  cases hchanges : request.changesServices with
  | false =>
      rw [Request.exec_services hchanges]
      exact hsound
  | true =>
      cases request with
      | createUserWithEmailAndPassword email password =>
          simp only [Request.exec] at hregistered ⊢
          split_ifs at hregistered ⊢ with hcreates
          · rw [Bool.and_eq_true] at hcreates
            apply hsound.addAccount hcreates.2
            exact hregistered ⟨email, password, oracle.uid⟩
              (List.mem_append_right _ (List.mem_singleton.mpr rfl))
          · exact hsound
      | set path value =>
          simp only [Request.exec]
          split_ifs
          · exact hsound.write hlawful.written_set
          · exact hsound
      | remove path =>
          simp only [Request.exec]
          split_ifs
          · exact hsound.write (hlawful.written_remove hknows)
          · exact hsound
      | putFile path file =>
          simp only [Request.exec]
          split_ifs
          · exact hsound.putObject
              (fun _ => hlawful.object_putFile hknows)
          · exact hsound
      | delete path =>
          simp only [Request.exec]
          split_ifs
          · apply hsound.putObject
            intro hnone
            exact absurd rfl hnone
          · exact hsound
      | _ => cases hchanges

/-- Handlers are told the truth about the services. -/
theorem Registry.Sound.tells (hsound : registry.Sound backend)
    (hknows : registry.Knows device) (request : Request) (oracle : Oracle)
    (hregistered :
      ∀ account ∈ (request.exec oracle backend device).2.1.accounts,
        registry.account account.uid account.email) :
    registry.Tells request (request.exec oracle backend device).1 := by
  cases request with
  | createUserWithEmailAndPassword email password =>
      simp only [Request.exec] at hregistered ⊢
      split_ifs at hregistered ⊢ with hcreates
      · exact hregistered ⟨email, password, oracle.uid⟩
          (List.mem_append_right _ (List.mem_singleton.mpr rfl))
      · trivial
  | currentUser =>
      simp only [Request.exec]
      split_ifs
      · exact hknows
      · trivial
  | once path =>
      simp only [Request.exec]
      split_ifs
      · rintro uid rfl
        exact hsound.records uid
      · trivial
  | delete path =>
      simp only [Request.exec]
      split_ifs with hfound
      · rw [Bool.and_eq_true, Option.isSome_iff_ne_none] at hfound
        obtain ⟨uid, name, -, hpath⟩ := hsound.objects _ hfound.2
        exact ⟨uid, name, hpath⟩
      · trivial
  | _ => trivial

/-- A device is signed in with an account that was in the services. -/
theorem Registry.Sound.knows (hsound : registry.Sound backend)
    (hknows : registry.Knows device) (request : Request) (oracle : Oracle)
    (hregistered :
      ∀ account ∈ (request.exec oracle backend device).2.1.accounts,
        registry.account account.uid account.email) :
    registry.Knows (request.exec oracle backend device).2.2 := by
  have houtcome := Request.exec_outcome request oracle backend device
  cases hchanges : request.changesAccount with
  | false =>
      intro uid huid
      rw [houtcome.signedIn_eq hchanges] at huid
      exact hknows uid huid
  | true =>
      cases request with
      | createUserWithEmailAndPassword email password =>
          simp only [Request.exec] at hregistered ⊢
          split_ifs at hregistered ⊢ with hcreates
          · intro uid huid
            cases huid
            exact ⟨email, hregistered ⟨email, password, oracle.uid⟩
              (List.mem_append_right _ (List.mem_singleton.mpr rfl))⟩
          · exact hknows
      | signInWithEmailAndPassword email password =>
          simp only [Request.exec]
          split
          next account hfound =>
            split_ifs
            · intro uid huid
              cases huid
              exact ⟨account.email,
                hsound.registered account (List.mem_of_find?_eq_some hfound)⟩
            · exact hknows
          next => exact hknows
      | signOut =>
          simp only [Request.exec]
          split_ifs
          · intro uid huid
            cases huid
          · exact hknows
      | _ => cases hchanges

end Lawful

end FoliumApp
