import FoliumApp.PhotoRecords

/-!
# The album of a user

What the photos of a user are, said without paths: the photos added and not
deleted, in the order in which they were added.  While no remote call fails,
the database holds exactly their records, the storage exactly their images
and the profile picture, and `loadPictures` delivers exactly them.
-/

namespace FoliumApp

open PathTree AsyncProgram CallSequences

/-! ## The album -/

structure AlbumPhoto where
  key : Segment
  description : String
  imageUrl : String
  file : File

def AlbumPhoto.photo (photo : AlbumPhoto) : Photo :=
  { description := some photo.description
    imageUrl := some photo.imageUrl, uidImage := some photo.key.val }

/-- What one call does to the album; the key and the address are those the
services give. -/
def albumAfterCall (album : List AlbumPhoto) :
    PhotoCall × (ℕ → Oracle) → List AlbumPhoto
  | (.addPicture description file, oracle) =>
      album ++ [⟨(oracle 1).key, description, (oracle 3).url, file⟩]
  | (.deletePicture uidPhoto, _) =>
      album.filter fun photo => photo.key.val ≠ uidPhoto

def AlbumPhoto.field (photo : AlbumPhoto) : String × Json :=
  (photo.key.val, photo.photo.toJson)

def photosNode (uid : Segment) : List String := ["users", uid.val, "photos"]

def profilePicture (uid : Segment) : String :=
  uid.val ++ "profile_image.jpg"

/-- The services hold the album: its records, its images, and in the user's
folder nothing else but the profile picture. -/
structure Backend.HoldsAlbum (uid : Segment) (backend : Backend)
    (album : List AlbumPhoto) : Prop where
  distinct : (album.map fun photo => photo.key.val).Nodup
  records : backend.database.get (photosNode uid) =
    Json.ofFields (album.map AlbumPhoto.field)
  images : ∀ photo ∈ album,
    backend.photoImage uid photo.key = some photo.file
  noOther : ∀ rest, rest ≠ [profilePicture uid] →
    (∀ photo ∈ album, rest ≠ [photo.key.val ++ ".jpg"]) →
      backend.storage ("images" :: "user" :: uid.val :: rest) = none
  named : ∀ photo ∈ album,
    photo.key.val ≠ uid.val ++ "profile_image" ∧
      isValidPathString (photoPath uid photo.key) = true

/-! ## Records and images of an album -/

section Album

variable {uid : Segment} {backend : Backend} {album : List AlbumPhoto}

theorem photoRecord_eq_child (uid : Segment) (backend : Backend)
    (key : String) :
    backend.photoRecord uid key =
      (backend.database.get (photosNode uid)).child key := rfl

theorem map_fst_field (album : List AlbumPhoto) :
    (album.map AlbumPhoto.field).map Prod.fst =
      album.map fun photo => photo.key.val := by
  rw [List.map_map]
  rfl

theorem Backend.HoldsAlbum.record_of_mem
    (hholds : backend.HoldsAlbum uid album) {photo : AlbumPhoto}
    (hmem : photo ∈ album) :
    backend.photoRecord uid photo.key = photo.photo.toJson := by
  rw [photoRecord_eq_child, hholds.records, Json.child_ofFields]
  apply Json.lookup_of_mem
  · rw [map_fst_field]
    exact hholds.distinct
  · exact List.mem_map.mpr ⟨photo, hmem, rfl⟩

theorem Backend.HoldsAlbum.record_ne_null_iff
    (hholds : backend.HoldsAlbum uid album) (key : String) :
    backend.photoRecord uid key ≠ .null ↔
      ∃ photo ∈ album, photo.key.val = key := by
  constructor
  · intro hrecord
    by_contra hnone
    apply hrecord
    rw [photoRecord_eq_child, hholds.records, Json.child_ofFields]
    apply Json.lookup_eq_null_of_not_mem
    rw [map_fst_field]
    intro hmem
    exact hnone (List.mem_map.mp hmem)
  · rintro ⟨photo, hmem, rfl⟩
    rw [hholds.record_of_mem hmem]
    simp [Photo.toJson]

theorem Backend.HoldsAlbum.key_not_mem
    (hholds : backend.HoldsAlbum uid album) {key : String}
    (hfresh : backend.photoRecord uid key = .null) :
    key ∉ album.map fun photo => photo.key.val := by
  intro hmem
  exact (hholds.record_ne_null_iff key).mpr (List.mem_map.mp hmem) hfresh

theorem pieces_photoPath_segment (uid key : Segment) :
    pieces (photoPath uid key) = photosNode uid ++ [key.val] := by
  rw [pieces_photoPath_user uid.property, pieces_segment key.property]
  rfl

theorem pieces_imagePath_segment (uid key : Segment) :
    pieces (imagePath uid key) =
      ["images", "user", uid.val, key.val ++ ".jpg"] := by
  rw [pieces_imagePath uid.property, pieces_jpg key.property]

/-- Writing a record writes a field of the photos node. -/
theorem photosNode_write (uid key : Segment) (backend : Backend)
    (value : Json) :
    (backend.write (photoPath uid key) value).database.get
        (photosNode uid) =
      Json.ofFields
        (Json.putField key.val value.prune
          (backend.database.get (photosNode uid)).fieldsOf) := by
  unfold Backend.write
  rw [pieces_photoPath_segment]
  exact Json.get_setAt_of_above (photosNode uid) [key.val] _ _

theorem storage_putObject_of_ne (uid key : Segment) (backend : Backend)
    (content : Option File) {path : List String}
    (hne : path ≠ ["images", "user", uid.val, key.val ++ ".jpg"]) :
    (backend.putObject (imagePath uid key) content).storage path =
      backend.storage path := by
  unfold Backend.putObject
  rw [pieces_imagePath_segment]
  exact Function.update_of_ne hne _ _

theorem storage_putObject_self (uid key : Segment) (backend : Backend)
    (content : Option File) :
    (backend.putObject (imagePath uid key) content).photoImage uid key =
      content := by
  unfold Backend.photoImage
  rw [← pieces_imagePath_segment]
  exact Backend.storage_putObject _ _ _

theorem jpg_injective {left right : String}
    (heq : left ++ ".jpg" = right ++ ".jpg") : left = right := by
  have hlist := congrArg String.toList heq
  simp only [String.toList_append] at hlist
  exact String.toList_injective (List.append_cancel_right hlist)

end Album

/-! ## Calls that do not fail -/

def Unfailing (oracle : ℕ → Oracle) : Prop :=
  ∀ index, (oracle index).ok = true

section Calls

variable {uid : Segment} (device : Device) {backend : Backend}
  {album : List AlbumPhoto} {oracle : ℕ → Oracle}

attribute [local simp] currentUid FirebaseAuth.currentUser
  FirebaseDatabase.once Request.exec Async.ofExcept Device.signedInAs nonNull

theorem afterPhotoCall_addPicture (hok : Unfailing oracle)
    (hvalid : isValidPathString (photoPath uid (oracle 1).key) = true)
    (description : String) (file : File) :
    afterPhotoCall uid device backend
        (.addPicture description file, oracle) =
      (backend.withImage uid (oracle 1).key file).write
        (photoPath uid (oracle 1).key)
        (AlbumPhoto.photo
          ⟨(oracle 1).key, description, (oracle 3).url, file⟩).toJson := by
  have hupload : imageUploaded oracle = true := by
    simp [imageUploaded, hok 0, hok 2]
  have hrecord : recordWritten uid oracle = true := by
    simp [recordWritten, hok 3, hok 4, hvalid]
  unfold afterPhotoCall PhotoCall.program
  rw [addPicture_run, if_pos hupload, if_pos hrecord]
  rfl

/-- A photo of the album is deleted, object and record. -/
theorem run_deletePicture_of_mem (hholds : backend.HoldsAlbum uid album)
    {photo : AlbumPhoto} (hmem : photo ∈ album) (hok : Unfailing oracle) :
    App.run (PhotosController.deletePicture photo.key) oracle backend
        (device.signedInAs uid) =
      (.ok true,
        (backend.putObject (imagePath uid photo.key) none).write
          (photoPath uid photo.key) .null,
        device.signedInAs uid) := by
  have hdeleted : imageDeleted uid backend oracle photo.key = true := by
    have himage := hholds.images photo hmem
    unfold Backend.photoImage at himage
    simp only [imageDeleted, hok 0, hok 1, Bool.true_and]
    rw [pieces_imagePath_segment, himage]
    rfl
  have hremoved : recordRemoved uid oracle photo.key = true := by
    simp [recordRemoved, hok 2, (hholds.named photo hmem).2]
  rw [deletePicture_run, hdeleted, hremoved]
  rfl

/-! ## Listing -/

def decodedPhoto (entry : String × Json) : Except DartError Photo := do
  Photo.fromDB (← Snapshot.ofValue entry.2)

/-- What the listeners are handed for the contents of the photos node. -/
def decodedPhotos (node : Json) : Except DartError (Option (List Photo)) :=
  match asMap node with
  | .error error => .error error
  | .ok none => .ok none
  | .ok (some entries) =>
      match entries.mapM decodedPhoto with
      | .error error => .error error
      | .ok photos => .ok (some photos)

theorem loadPictures_run (uid : Segment) (device : Device)
    (backend : Backend) (oracle : ℕ → Oracle) :
    App.run PhotosController.loadPictures oracle backend
        (device.signedInAs uid) =
      (if (oracle 0).ok &&
          ((oracle 1).ok && isValidPathString (photosPath uid)) then
        decodedPhotos (backend.read (photosPath uid))
      else .error .remote, backend, device.signedInAs uid) := by
  have hdecode :
      (fun entry : String × Json => do
        Photo.fromDB (← Snapshot.ofValue entry.2)) = decodedPhoto := rfl
  unfold PhotosController.loadPictures decodedPhotos
  rw [hdecode]
  cases huser : (oracle 0).ok with
  | false => simp [huser]
  | true =>
      cases hread : (oracle 1).ok &&
          isValidPathString (photosPath uid) with
      | false => simp [huser, hread]
      | true =>
          cases hnode : asMap (backend.read (photosPath uid)) with
          | error error => simp [huser, hread, hnode]
          | ok names =>
              cases names with
              | none => simp [huser, hread, hnode]
              | some entries =>
                  cases hphotos : entries.mapM decodedPhoto with
                  | error error => simp [huser, hread, hnode, hphotos]
                  | ok photos => simp [huser, hread, hnode, hphotos]

theorem pieces_photosPath (uid : Segment) :
    pieces (photosPath uid) = photosNode uid := by
  have hpath :
      photosPath uid.val =
        "users" ++ "/" ++ (uid.val ++ "/" ++ "photos") := by
    unfold photosPath
    rw [show "users/" = "users" ++ "/" from rfl,
      show "/photos" = "/" ++ "photos" from rfl]
    simp only [String.append_assoc]
  rw [hpath, pieces_segment_slash (by decide : IsSegment "users"),
    pieces_segment_slash uid.property,
    pieces_segment (by decide : IsSegment "photos")]
  rfl

/-- The photos of an album as a listener gets them; an empty album is not
delivered. -/
def delivered (album : List AlbumPhoto) : Option (List Photo) :=
  if album = [] then none else some (album.map AlbumPhoto.photo)

theorem decodedPhoto_field (photo : AlbumPhoto) :
    decodedPhoto photo.field = .ok photo.photo := rfl

theorem mapM_decodedPhoto (album : List AlbumPhoto) :
    (album.map AlbumPhoto.field).mapM decodedPhoto =
      .ok (album.map AlbumPhoto.photo) := by
  induction album with
  | nil => rfl
  | cons photo rest ih =>
      rw [List.map_cons, List.mapM_cons, decodedPhoto_field, ih]
      rfl

theorem decodedPhotos_of_holdsAlbum (hholds : backend.HoldsAlbum uid album) :
    decodedPhotos (backend.read (photosPath uid)) =
      .ok (delivered album) := by
  unfold Backend.read
  rw [pieces_photosPath, hholds.records]
  cases album with
  | nil => rfl
  | cons photo rest =>
      unfold decodedPhotos
      have hmap := mapM_decodedPhoto (photo :: rest)
      rw [List.map_cons] at hmap ⊢
      simp only [Json.ofFields, asMap, hmap]
      rfl

/-! ## One call -/

theorem jpg_ne_profilePicture {uid : Segment} {key : String}
    (hne : key ≠ uid.val ++ "profile_image") :
    key ++ ".jpg" ≠ profilePicture uid := by
  intro heq
  apply hne
  apply jpg_injective
  rw [heq, profilePicture, String.append_assoc]
  rfl

theorem prune_photo_toJson (photo : AlbumPhoto) :
    photo.photo.toJson.prune = photo.photo.toJson := by
  simp [AlbumPhoto.photo, Photo.toJson, Json.prune, Json.pruneFields,
    ofString, Json.ofFields]

theorem Backend.HoldsAlbum.add (hholds : backend.HoldsAlbum uid album)
    (photo : AlbumPhoto)
    (hfresh : backend.photoRecord uid photo.key = .null)
    (hprofile : photo.key.val ≠ uid.val ++ "profile_image")
    (hvalid : isValidPathString (photoPath uid photo.key) = true) :
    ((backend.withImage uid photo.key photo.file).write
      (photoPath uid photo.key) photo.photo.toJson).HoldsAlbum uid
        (album ++ [photo]) := by
  have hkey := hholds.key_not_mem hfresh
  constructor
  · rw [List.map_append, List.nodup_append]
    refine ⟨hholds.distinct, List.nodup_singleton _, ?_⟩
    intro left hleft right hright heq
    subst heq
    rcases List.mem_singleton.mp hright with rfl
    exact hkey hleft
  · have hfields :
        photo.key.val ∉ (album.map AlbumPhoto.field).map Prod.fst := by
      rw [map_fst_field]
      exact hkey
    have hnode : (backend.withImage uid photo.key photo.file).database.get
        (photosNode uid) = Json.ofFields (album.map AlbumPhoto.field) :=
      hholds.records
    rw [photosNode_write, hnode, Json.fieldsOf_ofFields,
      prune_photo_toJson, List.map_append]
    exact congrArg Json.ofFields
      (Json.replaceField_of_not_mem hfields _)
  · intro other hother
    rw [photoImage_write]
    rcases List.mem_append.mp hother with hold | hnew
    · have hne : other.key.val ≠ photo.key.val := by
        intro heq
        apply hkey
        rw [← heq]
        exact List.mem_map.mpr ⟨other, hold, rfl⟩
      rw [← hholds.images other hold]
      apply storage_putObject_of_ne
      intro heq
      simp only [List.cons.injEq, and_true, true_and] at heq
      exact hne (jpg_injective heq)
    · rcases List.mem_singleton.mp hnew with rfl
      exact storage_putObject_self _ _ _ _
  · intro rest hprofile' hrest
    have hself : rest ≠ [photo.key.val ++ ".jpg"] :=
      hrest photo (List.mem_append_right _ List.mem_cons_self)
    have hsame :
        (backend.withImage uid photo.key photo.file).storage
            ("images" :: "user" :: uid.val :: rest) =
          backend.storage ("images" :: "user" :: uid.val :: rest) := by
      apply storage_putObject_of_ne
      intro heq
      simp only [List.cons.injEq, true_and] at heq
      exact hself heq
    rw [Backend.storage_write, hsame]
    apply hholds.noOther rest hprofile'
    intro other hother
    exact hrest other (List.mem_append_left _ hother)
  · intro other hother
    rcases List.mem_append.mp hother with hold | hnew
    · exact hholds.named other hold
    · rcases List.mem_singleton.mp hnew with rfl
      exact ⟨hprofile, hvalid⟩

theorem map_field_filter (album : List AlbumPhoto) (key : String) :
    (album.filter fun photo => photo.key.val ≠ key).map AlbumPhoto.field =
      (album.map AlbumPhoto.field).filter fun field => field.1 ≠ key := by
  rw [List.filter_map]
  rfl

theorem Backend.HoldsAlbum.delete (hholds : backend.HoldsAlbum uid album)
    (key : Segment) :
    ((backend.putObject (imagePath uid key) none).write
      (photoPath uid key) .null).HoldsAlbum uid
        (album.filter fun photo => photo.key.val ≠ key.val) := by
  have hkept : ∀ photo ∈ album.filter fun photo => photo.key.val ≠ key.val,
      photo ∈ album ∧ photo.key.val ≠ key.val := by
    intro photo hmem
    simpa using List.mem_filter.mp hmem
  constructor
  · exact hholds.distinct.sublist (List.filter_sublist.map _)
  · have hnode :
        (backend.putObject (imagePath uid key) none).database.get
          (photosNode uid) = Json.ofFields (album.map AlbumPhoto.field) :=
      hholds.records
    rw [photosNode_write, hnode, Json.fieldsOf_ofFields, map_field_filter,
      ← Json.dropField_eq_filter]
    rfl
  · intro photo hmem
    rw [photoImage_write, ← hholds.images photo (hkept photo hmem).1]
    apply storage_putObject_of_ne
    intro heq
    simp only [List.cons.injEq, and_true, true_and] at heq
    exact (hkept photo hmem).2 (jpg_injective heq)
  · intro rest hprofile hrest
    rw [Backend.storage_write]
    by_cases heq : rest = [key.val ++ ".jpg"]
    · subst heq
      exact storage_putObject_self uid key backend none
    · rw [storage_putObject_of_ne]
      · apply hholds.noOther rest hprofile
        intro photo hmem hphoto
        by_cases hkey : photo.key.val = key.val
        · apply heq
          rw [hphoto, hkey]
        · apply hrest photo _ hphoto
          exact List.mem_filter.mpr ⟨hmem, by simpa using hkey⟩
      · intro hpath
        simp only [List.cons.injEq, true_and] at hpath
        exact heq hpath
  · intro photo hmem
    exact hholds.named photo (hkept photo hmem).1

/-! ## Sequences of calls -/

/-- `loadPictures` hands these photos to the listeners. -/
def Delivers (uid : Segment) (device : Device) (backend : Backend)
    (photos : List Photo) : Prop :=
  ∃ oracle,
    App.run PhotosController.loadPictures oracle backend
        (device.signedInAs uid) =
      (.ok (some photos), backend, device.signedInAs uid)

def Listed (uid : Segment) (device : Device) (backend : Backend)
    (uidPhoto : String) : Prop :=
  ∃ photos, Delivers uid device backend photos ∧
    ∃ photo ∈ photos, photo.uidImage = some uidPhoto

/-- No remote call fails, a new key is fresh and does not make the name of
the profile picture, and what is deleted is listed. -/
def OrdinaryCall (uid : Segment) (device : Device) (backend : Backend) :
    PhotoCall × (ℕ → Oracle) → Prop
  | (.addPicture _ _, oracle) =>
      Unfailing oracle ∧
        isValidPathString (photoPath uid (oracle 1).key) = true ∧
        backend.photoRecord uid (oracle 1).key = .null ∧
        (oracle 1).key.val ≠ uid.val ++ "profile_image"
  | (.deletePicture uidPhoto, oracle) =>
      Unfailing oracle ∧ Listed uid device backend uidPhoto

/-- The record and the image of one photo are gone, and nothing else has
changed. -/
structure DeletesOnly (uid : Segment) (uidPhoto : String)
    (before after : Backend) : Prop where
  record : after.photoRecord uid uidPhoto = .null
  image : after.photoImage uid uidPhoto = none
  otherPhotos : ∀ key, key ≠ uidPhoto →
    after.photoRecord uid key = before.photoRecord uid key ∧
      after.photoImage uid key = before.photoImage uid key
  profilePicture :
    after.storage ["images", "user", uid.val, profilePicture uid] =
      before.storage ["images", "user", uid.val, profilePicture uid]
  otherNodes : ∀ path, Json.Apart (photosNode uid ++ [uidPhoto]) path →
    after.database.get path = before.database.get path
  otherObjects : ∀ path,
    path ≠ ["images", "user", uid.val, uidPhoto ++ ".jpg"] →
      after.storage path = before.storage path

/-- What the database, the storage and the two controllers show of an
album. -/
structure AlbumKept (uid : Segment) (device : Device) (backend : Backend)
    (album : List AlbumPhoto) : Prop where
  named : ∀ key, backend.photoRecord uid key ≠ .null →
    (backend.photoRecord uid key).child "uid_image" = .str key
  imaged : ∀ key, backend.photoRecord uid key ≠ .null →
    backend.photoImage uid key ≠ none
  noOther : ∀ rest,
    backend.storage ("images" :: "user" :: uid.val :: rest) ≠ none →
      rest = [profilePicture uid] ∨
        ∃ key, backend.photoRecord uid key ≠ .null ∧
          rest = [key ++ ".jpg"]
  distinct : (album.map fun photo => photo.key.val).Nodup
  recorded : ∀ key, backend.photoRecord uid key ≠ .null ↔
    ∃ photo ∈ album, photo.key.val = key
  listed : ∀ oracle, Unfailing oracle →
    isValidPathString (photosPath uid) = true →
      App.run PhotosController.loadPictures oracle backend
          (device.signedInAs uid) =
        (.ok (delivered album), backend, device.signedInAs uid)
  deleted : ∀ uidPhoto, Listed uid device backend uidPhoto →
    ∀ oracle, Unfailing oracle →
      ∃ after,
        App.run (PhotosController.deletePicture uidPhoto) oracle backend
            (device.signedInAs uid) =
          (.ok true, after, device.signedInAs uid) ∧
        DeletesOnly uid uidPhoto backend after

theorem mem_of_delivered {photos : List Photo}
    (hphotos : delivered album = some photos) {uidPhoto : String}
    (hlisted : ∃ photo ∈ photos, photo.uidImage = some uidPhoto) :
    ∃ photo ∈ album, photo.key.val = uidPhoto := by
  unfold delivered at hphotos
  split_ifs at hphotos
  simp only [Option.some.injEq] at hphotos
  subst hphotos
  obtain ⟨listed, hmem, huid⟩ := hlisted
  obtain ⟨photo, hphoto, rfl⟩ := List.mem_map.mp hmem
  simp only [AlbumPhoto.photo, Option.some.injEq] at huid
  exact ⟨photo, hphoto, huid⟩

/-- Only photos of the album are listed. -/
theorem Backend.HoldsAlbum.mem_of_listed
    (hholds : backend.HoldsAlbum uid album) {uidPhoto : String}
    (hlisted : Listed uid device backend uidPhoto) :
    ∃ photo ∈ album, photo.key.val = uidPhoto := by
  obtain ⟨photos, ⟨oracle, hrun⟩, hphoto⟩ := hlisted
  rw [loadPictures_run, decodedPhotos_of_holdsAlbum hholds] at hrun
  have hanswer := congrArg Prod.fst hrun
  simp only at hanswer
  split_ifs at hanswer
  simp only [Except.ok.injEq] at hanswer
  exact mem_of_delivered hanswer hphoto

theorem holdsAlbum_afterPhotoCall (hholds : backend.HoldsAlbum uid album)
    (call : PhotoCall × (ℕ → Oracle))
    (hcall : OrdinaryCall uid device backend call) :
    (afterPhotoCall uid device backend call).HoldsAlbum uid
      (albumAfterCall album call) := by
  obtain ⟨call, oracle⟩ := call
  cases call with
  | addPicture description file =>
      obtain ⟨hok, hvalid, hfresh, hprofile⟩ := hcall
      rw [afterPhotoCall_addPicture device hok hvalid]
      exact hholds.add
        ⟨(oracle 1).key, description, (oracle 3).url, file⟩ hfresh hprofile
        hvalid
  | deletePicture uidPhoto =>
      obtain ⟨hok, hlisted⟩ := hcall
      obtain ⟨photo, hmem, rfl⟩ := hholds.mem_of_listed device hlisted
      unfold afterPhotoCall PhotoCall.program
      rw [run_deletePicture_of_mem device hholds hmem hok]
      exact hholds.delete photo.key

theorem deletesOnly_of_mem (hholds : backend.HoldsAlbum uid album)
    {photo : AlbumPhoto} (hmem : photo ∈ album) :
    DeletesOnly uid photo.key backend
      ((backend.putObject (imagePath uid photo.key) none).write
        (photoPath uid photo.key) .null) := by
  have hnodes : ∀ path,
      Json.Apart (photosNode uid ++ [photo.key.val]) path →
        ((backend.putObject (imagePath uid photo.key) none).write
          (photoPath uid photo.key) .null).database.get path =
            backend.database.get path := by
    intro path hapart
    unfold Backend.write
    rw [pieces_photoPath_segment]
    exact Json.get_setAt_of_apart hapart _ _
  have hobjects : ∀ path,
      path ≠ ["images", "user", uid.val, photo.key.val ++ ".jpg"] →
        ((backend.putObject (imagePath uid photo.key) none).write
          (photoPath uid photo.key) .null).storage path =
            backend.storage path := by
    intro path hne
    rw [Backend.storage_write]
    exact storage_putObject_of_ne uid photo.key backend none hne
  have hdeleted := hholds.delete photo.key
  constructor
  · by_contra hrecord
    obtain ⟨other, hother, hkey⟩ :=
      (hdeleted.record_ne_null_iff _).mp hrecord
    have hne := (List.mem_filter.mp hother).2
    simp [hkey] at hne
  · rw [photoImage_write]
    exact storage_putObject_self uid photo.key backend none
  · intro key hne
    constructor
    · apply hnodes
      apply Json.apart_of_getElem_ne 3 (by simp [photosNode]) (by simp)
      simpa [photosNode] using hne.symm
    · apply hobjects
      intro heq
      simp only [List.cons.injEq, and_true, true_and] at heq
      exact hne (jpg_injective heq)
  · apply hobjects
    intro heq
    simp only [List.cons.injEq, and_true, true_and] at heq
    exact jpg_ne_profilePicture (hholds.named photo hmem).1 heq.symm
  · exact hnodes
  · exact hobjects

theorem albumKept_of_holdsAlbum (hholds : backend.HoldsAlbum uid album) :
    AlbumKept uid device backend album := by
  constructor
  · intro key hrecord
    obtain ⟨photo, hmem, rfl⟩ := (hholds.record_ne_null_iff key).mp hrecord
    rw [hholds.record_of_mem hmem]
    rfl
  · intro key hrecord
    obtain ⟨photo, hmem, rfl⟩ := (hholds.record_ne_null_iff key).mp hrecord
    rw [hholds.images photo hmem]
    simp
  · intro rest hobject
    by_contra hnot
    obtain ⟨hprofile, hnone⟩ := not_or.mp hnot
    apply hobject
    apply hholds.noOther rest hprofile
    intro photo hmem heq
    apply hnone
    exact ⟨photo.key.val,
      (hholds.record_ne_null_iff _).mpr ⟨photo, hmem, rfl⟩, heq⟩
  · exact hholds.distinct
  · exact hholds.record_ne_null_iff
  · intro oracle hok hvalid
    rw [loadPictures_run, decodedPhotos_of_holdsAlbum hholds, hok 0, hok 1,
      hvalid]
    rfl
  · intro uidPhoto hlisted oracle hok
    obtain ⟨photo, hmem, rfl⟩ := hholds.mem_of_listed device hlisted
    exact ⟨_, run_deletePicture_of_mem device hholds hmem hok,
      deletesOnly_of_mem hholds hmem⟩

/-- No photo is stored, as a record or as an image. -/
structure Backend.NoAlbum (uid : Segment) (backend : Backend) : Prop where
  noRecords : backend.database.get (photosNode uid) = .null
  noImages : ∀ rest, rest ≠ [profilePicture uid] →
    backend.storage ("images" :: "user" :: uid.val :: rest) = none

theorem Backend.NoAlbum.holdsAlbum (hempty : backend.NoAlbum uid) :
    backend.HoldsAlbum uid [] := by
  constructor
  · exact List.nodup_nil
  · exact hempty.noRecords
  · intro photo hmem
    cases hmem
  · intro rest hprofile _
    exact hempty.noImages rest hprofile
  · intro photo hmem
    cases hmem

/-- After any sequence of additions and deletions from an empty album in
which no remote call fails, every record is named by its key and has its
image, the folder holds nothing else, `loadPictures` delivers each photo once
as it was added, and a deletion of a listed photo removes that photo and
nothing else. -/
theorem photo_album_follows_calls (uid : Segment) (device : Device)
    (backend : Backend) (hempty : backend.NoAlbum uid)
    (calls : List (PhotoCall × (ℕ → Oracle)))
    (hcalls : EachMeets (afterPhotoCall uid device) (OrdinaryCall uid device)
      backend calls) :
    AlbumKept uid device (after (afterPhotoCall uid device) backend calls)
      (after albumAfterCall [] calls) := by
  apply albumKept_of_holdsAlbum
  apply after_simulates _ hempty.holdsAlbum calls hcalls
  intro state album call hholds hcall
  exact holdsAlbum_afterPhotoCall device hholds call hcall

end Calls

def answersWithKey (key : Segment) (_ : ℕ) : Oracle :=
  { ok := true, uid := firstUid, url := "url", key
    time := ⟨2019, 7, 1, 12, 0, 0, 0, 0⟩ }

def secondKey : Segment := ⟨"k2", by decide⟩

/-- Two photos are added and the first is deleted. -/
def albumCalls : List (PhotoCall × (ℕ → Oracle)) :=
  [(.addPicture "fachada" ⟨[1]⟩, answersWithKey firstKey),
    (.addPicture "muro" ⟨[2]⟩, answersWithKey secondKey),
    (.deletePicture "k1", answersWithKey firstKey)]

theorem noAlbum_empty (uid : Segment) : Backend.empty.NoAlbum uid :=
  ⟨Json.get_null _, fun _ _ => rfl⟩

theorem eachMeets_albumCalls :
    EachMeets (afterPhotoCall firstUid Device.fresh)
      (OrdinaryCall firstUid Device.fresh) Backend.empty albumCalls := by
  have hok (key : Segment) : Unfailing (answersWithKey key) :=
    fun _ => rfl
  change EachMeets _ _ _ ((([] ++ [_]) ++ [_]) ++ [_])
  rw [eachMeets_concat, eachMeets_concat, eachMeets_concat]
  refine ⟨⟨⟨eachMeets_nil, hok _, ?_, rfl, ?_⟩, hok _, ?_, rfl, ?_⟩,
    hok _, ?_⟩
  · decide +kernel
  · decide +kernel
  · decide +kernel
  · decide +kernel
  · refine ⟨_, ⟨answersWithKey firstKey, rfl⟩, ?_⟩
    exact ⟨_, List.mem_cons_self, rfl⟩

theorem photo_album_follows_calls_albumCalls :
    AlbumKept firstUid Device.fresh
      (after (afterPhotoCall firstUid Device.fresh) Backend.empty albumCalls)
      [⟨secondKey, "muro", "url", ⟨[2]⟩⟩] :=
  photo_album_follows_calls firstUid Device.fresh Backend.empty
    (noAlbum_empty firstUid) albumCalls eachMeets_albumCalls

end FoliumApp
