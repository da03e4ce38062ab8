import FoliumApp.PhotoAlbum

/-!
# What a failed addition leaves behind

`addPicture` reads the account, takes a new key, stores the image, asks for
its address and writes the record.  It answers whether the record was
written.  Stopped before the image it has changed nothing; stopped between
the image and the record it answers the same, and the image stays.
-/

namespace FoliumApp

open PathTree AsyncProgram

/-! ## Changes of a user's photos -/

/-- The contents of `users/<u>/photos` and of `images/user/<u>` are the
same. -/
structure Backend.SamePhotos (uid : Segment) (before after : Backend) :
    Prop where
  records : after.database.get (photosNode uid) =
    before.database.get (photosNode uid)
  images : ∀ rest,
    after.storage ("images" :: "user" :: uid.val :: rest) =
      before.storage ("images" :: "user" :: uid.val :: rest)

/-- A record and an image are new under one key, and nothing else of the
user's photos has changed. -/
structure Backend.OnlyAdds (uid key : Segment) (photo : Photo) (file : File)
    (before after : Backend) : Prop where
  freshRecord : before.photoRecord uid key = .null
  freshImage : before.photoImage uid key = none
  record : after.photoRecord uid key = photo.toJson
  image : after.photoImage uid key = some file
  records : ∀ other : String, other ≠ key →
    after.photoRecord uid other = before.photoRecord uid other
  images : ∀ rest, rest ≠ [key.val ++ ".jpg"] →
    after.storage ("images" :: "user" :: uid.val :: rest) =
      before.storage ("images" :: "user" :: uid.val :: rest)

/-- The key that is given out names neither a record nor an image yet. -/
structure Backend.FreshKey (uid key : Segment) (backend : Backend) :
    Prop where
  record : backend.photoRecord uid key = .null
  image : backend.photoImage uid key = none

section Effects

variable {uid key : Segment} {backend : Backend}

theorem images_withImage_of_ne (uid key : Segment) (backend : Backend)
    (file : File) {rest : List String} (hrest : rest ≠ [key.val ++ ".jpg"]) :
    (backend.withImage uid key file).storage
        ("images" :: "user" :: uid.val :: rest) =
      backend.storage ("images" :: "user" :: uid.val :: rest) := by
  apply storage_putObject_of_ne
  simpa using hrest

/-- An image under a key that was fresh is a change. -/
theorem not_samePhotos_withImage (hfresh : backend.FreshKey uid key)
    (file : File) :
    ¬ backend.SamePhotos uid (backend.withImage uid key file) := by
  intro hsame
  have himage := hsame.images [key.val ++ ".jpg"]
  have hstored : (backend.withImage uid key file).photoImage uid key =
      some file :=
    storage_putObject_self uid key backend (some file)
  unfold Backend.photoImage at hstored
  rw [himage] at hstored
  have hnone := hfresh.image
  unfold Backend.photoImage at hnone
  rw [hnone] at hstored
  cases hstored

theorem onlyAdds_write {photo : AlbumPhoto}
    (hfresh : backend.FreshKey uid photo.key) :
    backend.OnlyAdds uid photo.key photo.photo photo.file
      ((backend.withImage uid photo.key photo.file).write
        (photoPath uid photo.key) photo.photo.toJson) := by
  refine ⟨hfresh.record, hfresh.image, ?_, ?_, ?_, ?_⟩
  · have hread := Backend.read_write
      (backend.withImage uid photo.key photo.file)
      (photoPath uid photo.key) photo.photo.toJson
    unfold Backend.read at hread
    rw [pieces_photoPath_segment, prune_photo_toJson] at hread
    exact hread
  · rw [photoImage_write]
    exact storage_putObject_self uid photo.key backend (some photo.file)
  · intro other hne
    rw [photoRecord_write_of_ne uid.property _ photo.key.property hne]
    rfl
  · intro rest hrest
    rw [Backend.storage_write]
    exact images_withImage_of_ne uid photo.key backend photo.file hrest

end Effects

/-! ## One call -/

/-- If the call answers false, the user's photos are as they were; if it
answers true, a record and an image under one fresh key have been added and
nothing else. -/
def AddsAtomically (uid : Segment) (device : Device) (backend : Backend)
    (description : String) (file : File) (oracle : ℕ → Oracle) : Prop :=
  let run := App.run (PhotosController.addPicture description file) oracle
    backend (device.signedInAs uid)
  (run.1 = .ok false → backend.SamePhotos uid run.2.1) ∧
    (run.1 = .ok true →
      backend.OnlyAdds uid (oracle 1).key (addedPhoto oracle description)
        file run.2.1)

/-- The call is atomic exactly if it is not stopped between the image and
the record: once the account is read and the image stored, the address is
given and the record written. -/
theorem addPicture_atomic_iff (uid : Segment) (device : Device)
    {backend : Backend} (description : String) (file : File)
    {oracle : ℕ → Oracle} (hfresh : backend.FreshKey uid (oracle 1).key) :
    AddsAtomically uid device backend description file oracle ↔
      (imageUploaded oracle = true → recordWritten uid oracle = true) := by
  unfold AddsAtomically
  rw [addPicture_run]
  by_cases hupload : imageUploaded oracle = true
  · rw [if_pos hupload]
    by_cases hrecord : recordWritten uid oracle = true
    · rw [if_pos hrecord]
      refine iff_of_true ⟨?_, ?_⟩ fun _ => hrecord
      · intro hfalse
        cases hfalse
      · intro _
        have hadds : backend.FreshKey uid
            (AlbumPhoto.mk (oracle 1).key description (oracle 3).url
              file).key := hfresh
        exact onlyAdds_write hadds
    · rw [if_neg hrecord]
      apply iff_of_false
      · intro hatomic
        exact not_samePhotos_withImage hfresh file (hatomic.1 rfl)
      · intro hwritten
        exact hrecord (hwritten hupload)
  · rw [if_neg hupload]
    refine iff_of_true ⟨?_, ?_⟩ fun hstored => absurd hstored hupload
    · intro _
      exact ⟨rfl, fun _ => rfl⟩
    · intro htrue
      cases htrue

/-! ## An image without a record -/

def onlyAna : Backend :=
  Backend.empty.addAccount "ana@folium.work" "secret" firstUid

def gardenFile : File := ⟨[71, 73, 70]⟩

theorem freshKey_onlyAna : onlyAna.FreshKey firstUid firstKey := ⟨rfl, rfl⟩

/-- The address of the image cannot be read: the call answers false, and the
image is there. -/
theorem failed_addition_leaves_image :
    let run := App.run (PhotosController.addPicture "Jardim" gardenFile)
      (failingAt 3) onlyAna (Device.fresh.signedInAs firstUid)
    run.1 = .ok false ∧
      run.2.1.photoImage firstUid firstKey = some gardenFile ∧
        ¬ onlyAna.SamePhotos firstUid run.2.1 := by
  intro run
  refine ⟨rfl, ?_, ?_⟩
  · exact storage_putObject_self firstUid firstKey onlyAna (some gardenFile)
  · exact not_samePhotos_withImage freshKey_onlyAna gardenFile

/-- Nothing fails, and the photo is added as a whole. -/
theorem addPicture_atomic_garden :
    AddsAtomically firstUid Device.fresh onlyAna "Jardim" gardenFile
      (failingAt 9) :=
  (addPicture_atomic_iff firstUid Device.fresh "Jardim" gardenFile
    freshKey_onlyAna).mpr fun _ => by decide

end FoliumApp
