import FoliumApp.PhotoAlbum

/-!
# The album on the screen

`PhotosWorker` shows a tile for adding and the photos of a load.  Every
refresh empties the list and starts a load; loads already on their way stay
on their way, are answered in any order and in any way, and each hands its
photos to the screen when it ends.  A load that reads an empty album hands
over nothing.

The list is followed through every interleaving: it is always the tile and
the photos of one load that has ended.
-/

namespace FoliumApp

open PathTree AsyncProgram CallSequences

/-! ## Answers -/

/-- A value as the database hands it over: a map has each name once, and a
map without names is not stored. -/
structure Reading (node : Json) : Prop where
  distinct : (node.fieldsOf.map Prod.fst).Nodup
  nonempty : node ≠ .obj []

/-- Any answer to any request, failures included. -/
structure Response where
  answer : (request : Request) → Except DartError request.Answer
  reading : ∀ path node, answer (.once path) = .ok node → Reading node

/-- What a request brought a load to read. -/
def nodeRead : (request : Request) → Except DartError request.Answer →
    Option Json
  | .once _, .ok node => some node
  | _, _ => none

/-! ## The state of the screen -/

/-- A load on its way.  Loads are numbered as they are issued. -/
structure PendingLoad where
  number : ℕ
  rest : App (Option (List Photo))

/-- A load that has ended: what it read, if it came to read anything, and how
many loads had been issued when it ended. -/
structure EndedLoad where
  number : ℕ
  read : Option Json
  issued : ℕ

structure AlbumScreen where
  list : List (Option Photo)
  load : Bool
  mounted : Bool
  issued : ℕ
  pending : List PendingLoad
  ended : List EndedLoad

namespace AlbumScreen

/-- `setState`.  Once the screen is left it raises: before its function is
run where assertions are checked, and after it where they are not. -/
def setState (asserts : Bool) (screen : AlbumScreen)
    (change : AlbumScreen → AlbumScreen) : AlbumScreen :=
  if screen.mounted || !asserts then change screen else screen

def issue (screen : AlbumScreen) : AlbumScreen :=
  { screen with
    issued := screen.issued + 1
    pending := screen.pending ++
      [⟨screen.issued, PhotosController.loadPictures⟩] }

def initState : AlbumScreen :=
  issue
    { list := [none], load := false, mounted := true, issued := 0
      pending := [], ended := [] }

/-- `_updatePhotosList` -/
def updatePhotosList (asserts : Bool) (screen : AlbumScreen) :
    AlbumScreen :=
  setState asserts (issue { screen with list := [none] })
    fun screen => { screen with load := false }

def action (asserts : Bool) (screen : AlbumScreen)
    (photos : List Photo) : AlbumScreen :=
  setState asserts { screen with list := [none] }
    fun screen => { screen with list := screen.list ++ photos.map some }

/-- The listener is called by a load that ends with photos for it. -/
def notified (asserts : Bool) (screen : AlbumScreen) :
    Option (List Photo) → AlbumScreen
  | some photos => screen.action asserts photos
  | none => screen

def finish (screen : AlbumScreen) (index number : ℕ)
    (read : Option Json) : AlbumScreen :=
  { screen with
    pending := screen.pending.eraseIdx index
    ended := screen.ended ++ [⟨number, read, screen.issued⟩] }

/-- The load at a place goes on to its next request, or it ends. -/
def proceed (asserts : Bool) (screen : AlbumScreen) (index number : ℕ)
    (read : Option Json) : App (Option (List Photo)) → AlbumScreen
  | .await request next =>
      { screen with
        pending := screen.pending.set index ⟨number, .await request next⟩ }
  | .done photos =>
      notified asserts (screen.finish index number read) photos
  | .raise _ => screen.finish index number read

end AlbumScreen

/-- `refresh` follows an addition or a deletion, `exclude` is the button of
the deletion dialog, `resume` answers a pending load. -/
inductive AlbumEvent where
  | refresh
  | exclude
  | resume (index : ℕ) (response : Response)
  | leave

def AlbumScreen.step (asserts : Bool) (screen : AlbumScreen) :
    AlbumEvent → Option AlbumScreen
  | .refresh => some (screen.updatePhotosList asserts)
  | .exclude =>
      some (screen.setState asserts fun screen =>
        { screen with load := true })
  | .resume index response =>
      match screen.pending[index]? with
      | none => none
      | some load =>
          match load.rest with
          | .await request next =>
              some (screen.proceed asserts index load.number
                (nodeRead request (response.answer request))
                (next (response.answer request)))
          | _ => none
  | .leave => some { screen with mounted := false }

/-! ## What is left of a load -/

/-- `loadPictures` from the read on. -/
def PhotosController.readPictures (uid : String) :
    App (Option (List Photo)) := do
  let data ← FirebaseDatabase.once (photosPath uid)
  let names ← Async.ofExcept (asMap data)
  match names with
  | none => return none
  | some entries =>
      let photos ← Async.ofExcept (entries.mapM decodedPhoto)
      return some photos

theorem loadPictures_eq :
    PhotosController.loadPictures =
      currentUid >>= PhotosController.readPictures := rfl

theorem readPictures_eq (uid : String) :
    PhotosController.readPictures uid =
      .await (.once (photosPath uid)) (fun answer =>
        Async.ofExcept (answer >>= decodedPhotos)) := by
  unfold PhotosController.readPictures FirebaseDatabase.once
  rw [Async.request_bind]
  congr 1
  funext answer
  cases answer with
  | error error => rfl
  | ok node =>
      change (Async.ofExcept (asMap node) >>= _) =
        Async.ofExcept (decodedPhotos node)
      unfold decodedPhotos
      cases asMap node with
      | error error => rfl
      | ok names =>
          cases names with
          | none => rfl
          | some entries =>
              cases hphotos : entries.mapM decodedPhoto with
              | error error => simp [Async.ofExcept, hphotos]
              | ok photos => simp [Async.ofExcept, hphotos]

inductive LoadRest : App (Option (List Photo)) → Prop where
  | issued : LoadRest PhotosController.loadPictures
  | reading (uid : String) : LoadRest (PhotosController.readPictures uid)

/-- The photos a load hands over after what it read; none if it does not
call the listener. -/
def broughtBy : Option Json → Option (List Photo)
  | none => none
  | some node =>
      match decodedPhotos node with
      | .ok photos => photos
      | .error _ => none

/-- A load that is answered asks for the photos next, or it ends. -/
theorem LoadRest.proceed {rest : App (Option (List Photo))}
    (hrest : LoadRest rest) :
    ∃ request next, rest = .await request next ∧
      ∀ (asserts : Bool) (screen : AlbumScreen) (index number : ℕ)
        (response : Response),
        (∃ uid,
          screen.proceed asserts index number
              (nodeRead request (response.answer request))
              (next (response.answer request)) =
            { screen with
              pending := screen.pending.set index
                ⟨number, PhotosController.readPictures uid⟩ }) ∨
        ∃ read, (∀ node, read = some node → Reading node) ∧
          screen.proceed asserts index number
              (nodeRead request (response.answer request))
              (next (response.answer request)) =
            (screen.finish index number read).notified asserts
              (broughtBy read) := by
  cases hrest with
  | issued =>
      refine ⟨.currentUser, _, loadPictures_eq, ?_⟩
      intro asserts screen index number response
      have hfailed : ∀ node : Json, none = some node → Reading node := by
        intro node hnode
        cases hnode
      cases huser : response.answer .currentUser with
      | error error => exact Or.inr ⟨none, hfailed, rfl⟩
      | ok user =>
          cases user with
          | none => exact Or.inr ⟨none, hfailed, rfl⟩
          | some uid => exact Or.inl ⟨uid.val, rfl⟩
  | reading uid =>
      refine ⟨.once (photosPath uid), _, readPictures_eq uid, ?_⟩
      intro asserts screen index number response
      right
      cases hnode : response.answer (.once (photosPath uid)) with
      | error error =>
          refine ⟨none, ?_, rfl⟩
          intro node hnone
          cases hnone
      | ok node =>
          refine ⟨some node, ?_, ?_⟩
          · intro other heq
            cases heq
            exact response.reading _ _ hnode
          · simp only [broughtBy, nodeRead, bind, Except.bind]
            cases decodedPhotos node with
            | error error => rfl
            | ok photos => rfl

/-! ## What a step can do -/

/-- The steps of the screen: an answered load goes on to read the photos, or
it ends with whatever it came to read. -/
inductive AlbumMoves (asserts : Bool) (screen : AlbumScreen) :
    AlbumEvent → AlbumScreen → Prop where
  | refresh : AlbumMoves asserts screen .refresh
      (screen.updatePhotosList asserts)
  | exclude : AlbumMoves asserts screen .exclude
      (screen.setState asserts fun screen => { screen with load := true })
  | leave : AlbumMoves asserts screen .leave
      { screen with mounted := false }
  | asks {index : ℕ} {response : Response} {load : PendingLoad}
      (uid : String) (hload : screen.pending[index]? = some load) :
      AlbumMoves asserts screen (.resume index response)
        { screen with
          pending := screen.pending.set index
            ⟨load.number, PhotosController.readPictures uid⟩ }
  | ends {index : ℕ} {response : Response} {load : PendingLoad}
      {read : Option Json} (hload : screen.pending[index]? = some load)
      (hread : ∀ node, read = some node → Reading node) :
      AlbumMoves asserts screen (.resume index response)
        ((screen.finish index load.number read).notified asserts
          (broughtBy read))

/-- Every pending load is one of the two rests of `loadPictures`. -/
def AlbumScreen.LoadsOnly (screen : AlbumScreen) : Prop :=
  ∀ load ∈ screen.pending, LoadRest load.rest

section Steps

variable {asserts : Bool} {screen next : AlbumScreen}

theorem AlbumScreen.moves_of_step (hloads : screen.LoadsOnly)
    {event : AlbumEvent} (hstep : screen.step asserts event = some next) :
    AlbumMoves asserts screen event next := by
  cases event with
  | refresh =>
      cases hstep
      exact .refresh
  | exclude =>
      cases hstep
      exact .exclude
  | leave =>
      cases hstep
      exact .leave
  | resume index response =>
      cases hload : screen.pending[index]? with
      | none => simp [AlbumScreen.step, hload] at hstep
      | some load =>
          have hmem : load ∈ screen.pending := List.mem_of_getElem? hload
          obtain ⟨request, rest, hrest, hproceed⟩ :=
            (hloads load hmem).proceed
          simp only [AlbumScreen.step, hload, hrest,
            Option.some.injEq] at hstep
          subst next
          rcases hproceed asserts screen index load.number response with
            ⟨uid, hasks⟩ | ⟨read, hread, hends⟩
          · rw [hasks]
            exact .asks uid hload
          · rw [hends]
            exact .ends hload hread

/-! ## Parts a change of the list leaves alone -/

/-- The loads are the same in both screens. -/
structure SameLoads (screen next : AlbumScreen) : Prop where
  issued : next.issued = screen.issued
  pending : next.pending = screen.pending
  ended : next.ended = screen.ended
  mounted : next.mounted = screen.mounted

theorem AlbumScreen.sameLoads_setState (asserts : Bool)
    (screen : AlbumScreen) {change : AlbumScreen → AlbumScreen}
    (hchange : SameLoads screen (change screen)) :
    SameLoads screen (screen.setState asserts change) := by
  unfold AlbumScreen.setState
  split_ifs
  · exact hchange
  · exact ⟨rfl, rfl, rfl, rfl⟩

theorem AlbumScreen.sameLoads_notified (asserts : Bool)
    (screen : AlbumScreen) (photos : Option (List Photo)) :
    SameLoads screen (screen.notified asserts photos) := by
  cases photos with
  | none => exact ⟨rfl, rfl, rfl, rfl⟩
  | some photos =>
      unfold AlbumScreen.notified AlbumScreen.action AlbumScreen.setState
      split_ifs
      · exact ⟨rfl, rfl, rfl, rfl⟩
      · exact ⟨rfl, rfl, rfl, rfl⟩

theorem AlbumScreen.sameLoads_updatePhotosList (asserts : Bool)
    (screen : AlbumScreen) :
    SameLoads screen.issue (screen.updatePhotosList asserts) := by
  unfold AlbumScreen.updatePhotosList AlbumScreen.setState
  split_ifs
  · exact ⟨rfl, rfl, rfl, rfl⟩
  · exact ⟨rfl, rfl, rfl, rfl⟩

end Steps

/-! ## Loads and their numbers -/

/-- Every load issued is pending or has ended, once; what a load that ended
read was as the database hands it over. -/
structure AlbumScreen.LoadsInvariant (screen : AlbumScreen) : Prop where
  rests : screen.LoadsOnly
  numbers : (screen.ended.map EndedLoad.number ++
    screen.pending.map PendingLoad.number).Perm (List.range screen.issued)
  reading : ∀ load ∈ screen.ended, ∀ node, load.read = some node →
    Reading node
  earlier : ∀ load ∈ screen.ended,
    load.number < load.issued ∧ load.issued ≤ screen.issued

section Loads

variable {asserts : Bool} {screen next : AlbumScreen}

theorem map_number_set {pending : List PendingLoad} {index : ℕ}
    {load : PendingLoad} (hload : pending[index]? = some load)
    (rest : App (Option (List Photo))) :
    (pending.set index ⟨load.number, rest⟩).map PendingLoad.number =
      pending.map PendingLoad.number := by
  obtain ⟨hindex, hget⟩ := List.getElem?_eq_some_iff.mp hload
  have hlength : index < (pending.map PendingLoad.number).length := by
    simpa using hindex
  have hself := List.set_getElem_self hlength
  rw [List.getElem_map, hget] at hself
  rw [List.map_set]
  exact hself

theorem AlbumScreen.LoadsInvariant.congr (hinv : screen.LoadsInvariant)
    (hsame : SameLoads screen next) : next.LoadsInvariant := by
  refine ⟨?_, ?_, ?_, ?_⟩
  · intro load hmem
    rw [hsame.pending] at hmem
    exact hinv.rests load hmem
  · rw [hsame.ended, hsame.pending, hsame.issued]
    exact hinv.numbers
  · rw [hsame.ended]
    exact hinv.reading
  · rw [hsame.ended, hsame.issued]
    exact hinv.earlier

theorem AlbumScreen.LoadsInvariant.issue (hinv : screen.LoadsInvariant) :
    screen.issue.LoadsInvariant := by
  refine ⟨?_, ?_, hinv.reading, ?_⟩
  · intro load hmem
    rcases List.mem_append.mp hmem with hmem | hmem
    · exact hinv.rests load hmem
    · rcases List.mem_singleton.mp hmem with rfl
      exact .issued
  · have hnumbers := hinv.numbers.append_right [screen.issued]
    rw [List.append_assoc, ← List.range_succ] at hnumbers
    simpa [AlbumScreen.issue] using hnumbers
  · intro load hmem
    have hearlier := hinv.earlier load hmem
    exact ⟨hearlier.1, Nat.le_succ_of_le hearlier.2⟩

theorem AlbumScreen.LoadsInvariant.asks (hinv : screen.LoadsInvariant)
    {index : ℕ} {load : PendingLoad}
    (hload : screen.pending[index]? = some load) (uid : String) :
    LoadsInvariant
      { screen with
        pending := screen.pending.set index
          ⟨load.number, PhotosController.readPictures uid⟩ } := by
  refine ⟨?_, ?_, hinv.reading, hinv.earlier⟩
  · intro other hmem
    rcases List.mem_or_eq_of_mem_set hmem with hmem | rfl
    · exact hinv.rests other hmem
    · exact .reading uid
  · rw [map_number_set hload]
    exact hinv.numbers

theorem AlbumScreen.LoadsInvariant.number_lt (hinv : screen.LoadsInvariant)
    {load : PendingLoad} (hmem : load ∈ screen.pending) :
    load.number < screen.issued := by
  have hnumber : load.number ∈ screen.ended.map EndedLoad.number ++
      screen.pending.map PendingLoad.number :=
    List.mem_append_right _ (List.mem_map.mpr ⟨load, hmem, rfl⟩)
  exact List.mem_range.mp (hinv.numbers.mem_iff.mp hnumber)

theorem AlbumScreen.LoadsInvariant.finish (hinv : screen.LoadsInvariant)
    {index : ℕ} {load : PendingLoad} {read : Option Json}
    (hload : screen.pending[index]? = some load)
    (hread : ∀ node, read = some node → Reading node) :
    (screen.finish index load.number read).LoadsInvariant := by
  refine ⟨?_, ?_, ?_, ?_⟩
  · intro other hmem
    exact hinv.rests other (List.mem_of_mem_eraseIdx hmem)
  · obtain ⟨hindex, hget⟩ := List.getElem?_eq_some_iff.mp hload
    have herase := (List.getElem_cons_eraseIdx_perm hindex).map
      PendingLoad.number
    rw [hget, List.map_cons] at herase
    have hnumbers := (herase.append_left
      (screen.ended.map EndedLoad.number)).trans hinv.numbers
    simpa [AlbumScreen.finish] using hnumbers
  · intro other hmem node hnode
    rcases List.mem_append.mp hmem with hmem | hmem
    · exact hinv.reading other hmem node hnode
    · rcases List.mem_singleton.mp hmem with rfl
      exact hread node hnode
  · intro other hmem
    rcases List.mem_append.mp hmem with hmem | hmem
    · exact hinv.earlier other hmem
    · rcases List.mem_singleton.mp hmem with rfl
      exact ⟨hinv.number_lt (List.mem_of_getElem? hload), le_rfl⟩

theorem AlbumScreen.LoadsInvariant.initState :
    AlbumScreen.initState.LoadsInvariant := by
  apply AlbumScreen.LoadsInvariant.issue
  refine ⟨?_, ?_, ?_, ?_⟩
  · intro load hmem
    cases hmem
  · exact List.Perm.refl []
  · intro load hmem
    cases hmem
  · intro load hmem
    cases hmem

theorem AlbumScreen.LoadsInvariant.moves (hinv : screen.LoadsInvariant)
    {event : AlbumEvent} (hmoves : AlbumMoves asserts screen event next) :
    next.LoadsInvariant := by
  cases hmoves with
  | refresh =>
      exact hinv.issue.congr (screen.sameLoads_updatePhotosList asserts)
  | exclude =>
      exact hinv.congr
        (screen.sameLoads_setState asserts ⟨rfl, rfl, rfl, rfl⟩)
  | leave => exact ⟨hinv.rests, hinv.numbers, hinv.reading, hinv.earlier⟩
  | asks uid hload => exact hinv.asks hload uid
  | ends hload hread =>
      exact (hinv.finish hload hread).congr
        (AlbumScreen.sameLoads_notified asserts _ _)

end Loads

/-! ## Records and photos -/

theorem broughtBy_eq_some {read : Option Json} {photos : List Photo}
    (hbrought : broughtBy read = some photos) :
    ∃ records, read = some (.obj records) ∧
      records.mapM decodedPhoto = .ok photos := by
  cases read with
  | none => cases hbrought
  | some node =>
      simp only [broughtBy, decodedPhotos] at hbrought
      cases node with
      | obj records =>
          refine ⟨records, rfl, ?_⟩
          simp only [asMap] at hbrought
          cases hphotos : records.mapM decodedPhoto with
          | error error => simp [hphotos] at hbrought
          | ok decoded =>
              simp only [hphotos, Option.some.injEq] at hbrought
              rw [hbrought]
      | _ => simp [asMap] at hbrought

theorem uidImage_of_decodedPhoto {record : String × Json} {photo : Photo}
    (hphoto : decodedPhoto record = .ok photo)
    (huid : record.2.child "uid_image" = .str record.1) :
    photo.uidImage = some record.1 := by
  obtain ⟨key, node⟩ := record
  unfold decodedPhoto at hphoto
  obtain ⟨snapshot, hsnapshot, hphoto⟩ := except_bind_ok hphoto
  cases node with
  | obj fields =>
      cases hsnapshot
      have hfield : Json.lookup "uid_image" fields = .str key := huid
      unfold Photo.fromDB at hphoto
      iterate 4 obtain ⟨_, -, hphoto⟩ := except_bind_ok hphoto
      obtain ⟨value, hvalue, hphoto⟩ := except_bind_ok hphoto
      obtain ⟨uidImage, hstring, hphoto⟩ := except_bind_ok hphoto
      cases hvalue
      rw [hfield] at hstring
      cases hstring
      cases hphoto
      rfl
  | _ => simp [Json.child, Json.fieldsOf, Json.lookup] at huid

/-- Records that name themselves, as `addPicture` writes them, are decoded to
photos that name their records. -/
theorem map_uidImage_of_mapM {records : List (String × Json)}
    {photos : List Photo}
    (hphotos : records.mapM decodedPhoto = .ok photos)
    (huid : ∀ record ∈ records,
      record.2.child "uid_image" = .str record.1) :
    photos.map Photo.uidImage = records.map fun record => some record.1 := by
  induction records generalizing photos with
  | nil =>
      cases hphotos
      rfl
  | cons record rest ih =>
      rw [List.mapM_cons] at hphotos
      obtain ⟨photo, hphoto, hphotos⟩ := except_bind_ok hphotos
      obtain ⟨others, hothers, hphotos⟩ := except_bind_ok hphotos
      cases hphotos
      have hfirst := uidImage_of_decodedPhoto hphoto
        (huid record List.mem_cons_self)
      have hrest := ih hothers fun other hmem =>
        huid other (List.mem_cons_of_mem record hmem)
      rw [List.map_cons, List.map_cons, hfirst, hrest]

theorem nodup_tiles {records : List (String × Json)} {photos : List Photo}
    (hdistinct : (records.map Prod.fst).Nodup)
    (hphotos : records.mapM decodedPhoto = .ok photos)
    (huid : ∀ record ∈ records,
      record.2.child "uid_image" = .str record.1) :
    ((none : Option Photo) :: photos.map some).Nodup := by
  have hnames : (photos.map Photo.uidImage).Nodup := by
    rw [map_uidImage_of_mapM hphotos huid]
    have hsome := hdistinct.map (Option.some_injective String)
    rwa [List.map_map] at hsome
  have htiles := (List.Nodup.of_map _ hnames).map
    (Option.some_injective Photo)
  rw [List.nodup_cons]
  refine ⟨?_, htiles⟩
  simp

/-! ## One load at a time -/

/-- The tile for adding and nothing else, or the tile and the photos of one
load that has ended. -/
def AlbumScreen.ShowsOneLoad (screen : AlbumScreen) : Prop :=
  screen.list = [none] ∨
    ∃ load ∈ screen.ended, ∃ photos,
      broughtBy load.read = some photos ∧
        screen.list = none :: photos.map some

section OneLoad

variable {asserts : Bool} {screen next : AlbumScreen}

theorem AlbumScreen.ShowsOneLoad.congr (hshows : screen.ShowsOneLoad)
    (hlist : next.list = screen.list) (hended : next.ended = screen.ended) :
    next.ShowsOneLoad := by
  unfold AlbumScreen.ShowsOneLoad at hshows ⊢
  rw [hlist, hended]
  exact hshows

theorem AlbumScreen.list_updatePhotosList (asserts : Bool)
    (screen : AlbumScreen) :
    (screen.updatePhotosList asserts).list = [none] := by
  unfold AlbumScreen.updatePhotosList AlbumScreen.setState
  split_ifs
  · rfl
  · rfl

theorem AlbumScreen.list_action (asserts : Bool) (screen : AlbumScreen)
    (photos : List Photo) :
    (screen.action asserts photos).list =
      if screen.mounted || !asserts then none :: photos.map some
      else [none] := by
  unfold AlbumScreen.action AlbumScreen.setState
  dsimp only
  split_ifs
  · rfl
  · rfl

theorem AlbumScreen.list_exclude (asserts : Bool) (screen : AlbumScreen) :
    (screen.setState asserts fun screen =>
      { screen with load := true }).list = screen.list := by
  unfold AlbumScreen.setState
  split_ifs
  · rfl
  · rfl

theorem AlbumScreen.ShowsOneLoad.moves (hshows : screen.ShowsOneLoad)
    {event : AlbumEvent} (hmoves : AlbumMoves asserts screen event next) :
    next.ShowsOneLoad := by
  cases hmoves with
  | refresh => exact Or.inl (screen.list_updatePhotosList asserts)
  | exclude =>
      exact hshows.congr (screen.list_exclude asserts)
        (screen.sameLoads_setState asserts ⟨rfl, rfl, rfl, rfl⟩).ended
  | leave => exact hshows.congr rfl rfl
  | asks uid hload => exact hshows.congr rfl rfl
  | @ends index response load read hload hread =>
      have hended := (AlbumScreen.sameLoads_notified asserts
        (screen.finish index load.number read) (broughtBy read)).ended
      unfold AlbumScreen.ShowsOneLoad
      rw [hended]
      cases hbrought : broughtBy read with
      | none =>
          rcases hshows with hlist | ⟨other, hmem, photos, hother, hlist⟩
          · exact Or.inl hlist
          · refine Or.inr ⟨other, ?_, photos, hother, hlist⟩
            exact List.mem_append_left _ hmem
      | some photos =>
          simp only [AlbumScreen.notified, AlbumScreen.list_action]
          split_ifs with hruns
          · refine Or.inr ⟨⟨load.number, read, screen.issued⟩, ?_, photos,
              hbrought, rfl⟩
            exact List.mem_append_right _ List.mem_cons_self
          · exact Or.inl rfl

structure AlbumScreen.AlbumInvariant (screen : AlbumScreen) : Prop where
  loads : screen.LoadsInvariant
  shows : screen.ShowsOneLoad

theorem AlbumScreen.albumInvariant_of_reaches
    (hreach : Reaches (AlbumScreen.step asserts) (fun _ _ => True)
      AlbumScreen.initState screen) :
    screen.AlbumInvariant := by
  apply hreach.invariant
  · exact ⟨.initState, Or.inl rfl⟩
  · intro state event state' hinv _ hstep
    have hmoves := AlbumScreen.moves_of_step hinv.loads.rests hstep
    exact ⟨hinv.loads.moves hmoves, hinv.shows.moves hmoves⟩

/-- In every state the loads that have ended are distinct loads, and the
list is the tile alone or the tile and the photos of one of them, one for
each record that load read, in their order. -/
theorem album_shows_one_load
    (hreach : Reaches (AlbumScreen.step asserts) (fun _ _ => True)
      AlbumScreen.initState screen) :
    (screen.ended.map EndedLoad.number).Nodup ∧
      (screen.list = [none] ∨
        ∃ load ∈ screen.ended, ∃ records photos,
          load.read = some (.obj records) ∧
            (records.map Prod.fst).Nodup ∧
            records.mapM decodedPhoto = .ok photos ∧
            screen.list = none :: photos.map some ∧
            ((∀ record ∈ records,
              record.2.child "uid_image" = .str record.1) →
                screen.list.Nodup)) := by
  obtain ⟨hloads, hshows⟩ := AlbumScreen.albumInvariant_of_reaches hreach
  constructor
  · have hall := hloads.numbers.nodup_iff.mpr List.nodup_range
    exact (List.nodup_append.mp hall).1
  · rcases hshows with hlist | ⟨load, hmem, photos, hbrought, hlist⟩
    · exact Or.inl hlist
    · obtain ⟨records, hread, hphotos⟩ := broughtBy_eq_some hbrought
      have hdistinct := (hloads.reading load hmem _ hread).distinct
      refine Or.inr ⟨load, hmem, records, photos, hread, hdistinct, hphotos,
        hlist, ?_⟩
      intro huid
      rw [hlist]
      exact nodup_tiles hdistinct hphotos huid

end OneLoad

/-- Every load asks for the account and then for the given photos. -/
def Response.reads (node : Json) (hnode : Reading node) : Response where
  answer
    | .currentUser => .ok (some firstUid)
    | .once _ => .ok node
    | _ => .error .remote
  reading := by
    intro path other hother
    cases hother
    exact hnode

def gardenPhoto : Photo :=
  { description := some "Jardim", imageUrl := some "url"
    uidImage := some "k1" }

def onePhoto : Json := .obj [("k1", gardenPhoto.toJson)]

theorem reading_onePhoto : Reading onePhoto :=
  ⟨List.nodup_singleton _, by simp [onePhoto]⟩

theorem reading_null : Reading .null := ⟨List.nodup_nil, by simp⟩

/-- The second load overtakes the first one. -/
def overtaken : List AlbumEvent :=
  [.refresh, .resume 0 (.reads .null reading_null),
    .resume 1 (.reads onePhoto reading_onePhoto),
    .resume 1 (.reads onePhoto reading_onePhoto),
    .resume 0 (.reads .null reading_null)]

def overtakenScreen : AlbumScreen :=
  { list := [none, some gardenPhoto], load := false, mounted := true
    issued := 2, pending := []
    ended := [⟨1, some onePhoto, 2⟩, ⟨0, some .null, 2⟩] }

theorem run_overtaken :
    run (AlbumScreen.step true) AlbumScreen.initState overtaken =
      some overtakenScreen := rfl

theorem album_shows_one_load_overtaken :
    (overtakenScreen.ended.map EndedLoad.number).Nodup ∧
      (overtakenScreen.list = [none] ∨
        ∃ load ∈ overtakenScreen.ended, ∃ records photos,
          load.read = some (.obj records) ∧
            (records.map Prod.fst).Nodup ∧
            records.mapM decodedPhoto = .ok photos ∧
            overtakenScreen.list = none :: photos.map some ∧
            ((∀ record ∈ records,
              record.2.child "uid_image" = .str record.1) →
                overtakenScreen.list.Nodup)) :=
  album_shows_one_load
    (Reaches.refl.run overtaken
      (eachAllowed_of_forall (fun _ _ => trivial) _ _) run_overtaken)

end FoliumApp
