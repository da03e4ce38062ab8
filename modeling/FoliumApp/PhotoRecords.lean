import FoliumApp.CallSequences
import FoliumApp.Controllers

/-!
# Photo records and their images

A photo is a record `users/<u>/photos/<k>` in the database and an object
`images/user/<u>/<k>.jpg` in storage.  Adding stores the object first and
writes the record last; deleting removes the object first and the record
last.  So an interrupted addition leaves an object without a record, and an
interrupted deletion leaves a record without its object.
-/

namespace FoliumApp

open PathTree AsyncProgram CallSequences

/-! ## Records and images -/

def Backend.photoRecord (backend : Backend) (uid key : String) : Json :=
  backend.database.get ["users", uid, "photos", key]

def Backend.photoImage (backend : Backend) (uid key : String) :
    Option File :=
  backend.storage ["images", "user", uid, key ++ ".jpg"]

def Backend.RecordsHaveImages (backend : Backend) (uid : String) : Prop :=
  ∀ key, backend.photoRecord uid key ≠ .null →
    backend.photoImage uid key ≠ none

/-- Every record of the user stands under a key that makes a valid path. -/
def Backend.RecordsAddressable (backend : Backend) (uid : String) : Prop :=
  ∀ key, backend.photoRecord uid key ≠ .null →
    IsSegment key ∧ isValidPathString (photoPath uid key) = true

def Backend.AlbumEmpty (backend : Backend) (uid : String) : Prop :=
  ∀ key, backend.photoRecord uid key = .null

theorem pieces_imagePath {uid : String} (huid : IsSegment uid)
    (key : String) :
    pieces (imagePath uid key) =
      "images" :: "user" :: uid :: pieces (key ++ ".jpg") := by
  unfold imagePath
  rw [pieces_imagesUser, pieces_segment huid]
  rfl

theorem pieces_jpg {key : String} (hkey : IsSegment key) :
    pieces (key ++ ".jpg") = [key ++ ".jpg"] :=
  pieces_segment (hkey.append (by decide))

/-! ## The calls -/

def Device.signedInAs (device : Device) (uid : Segment) : Device :=
  { device with signedIn := some uid }

inductive PhotoCall where
  | addPicture (description : String) (file : File)
  | deletePicture (uidPhoto : String)

def PhotoCall.program : PhotoCall → App Bool
  | .addPicture description file =>
      PhotosController.addPicture description file
  | .deletePicture uidPhoto => PhotosController.deletePicture uidPhoto

/-- The services after one call; the oracle answers its requests. -/
def afterPhotoCall (uid : Segment) (device : Device) (backend : Backend)
    (call : PhotoCall × (ℕ → Oracle)) : Backend :=
  (App.run call.1.program call.2 backend (device.signedInAs uid)).2.1

section Calls

variable (uid : Segment) (device : Device) (backend : Backend)
variable (oracle : ℕ → Oracle)

def Backend.withImage (backend : Backend) (uid key : Segment)
    (file : File) : Backend :=
  backend.putObject (imagePath uid key) (some file)

attribute [local simp] currentUid FirebaseAuth.currentUser
  FirebaseDatabase.pushKey FirebaseDatabase.set FirebaseDatabase.remove
  FirebaseStorage.putFile FirebaseStorage.getDownloadURL
  FirebaseStorage.delete PhotosController.uploadImage sendData Request.exec
  Async.ofExcept Device.signedInAs nonNull

/-- The account is read and the image is stored. -/
def imageUploaded (oracle : ℕ → Oracle) : Bool :=
  (oracle 0).ok && (oracle 2).ok

/-- The address of the image is given and the record is written. -/
def recordWritten (uid : Segment) (oracle : ℕ → Oracle) : Bool :=
  (oracle 3).ok &&
    ((oracle 4).ok && isValidPathString (photoPath uid (oracle 1).key))

def addedPhoto (oracle : ℕ → Oracle) (description : String) : Photo :=
  { description := some description, imageUrl := some (oracle 3).url
    uidImage := some (oracle 1).key.val }

theorem addPicture_run (description : String) (file : File) :
    App.run (PhotosController.addPicture description file) oracle backend
        (device.signedInAs uid) =
      if imageUploaded oracle then
        if recordWritten uid oracle then
          (.ok true,
            (backend.withImage uid (oracle 1).key file).write
              (photoPath uid (oracle 1).key)
              (addedPhoto oracle description).toJson,
            device.signedInAs uid)
        else
          (.ok false, backend.withImage uid (oracle 1).key file,
            device.signedInAs uid)
      else (.ok false, backend, device.signedInAs uid) := by
  unfold PhotosController.addPicture
  cases huser : (oracle 0).ok with
  | false => simp [imageUploaded, huser]
  | true =>
      cases hupload : (oracle 2).ok with
      | false => simp [imageUploaded, huser, hupload]
      | true =>
          cases hurl : (oracle 3).ok with
          | false =>
              simp [imageUploaded, recordWritten, huser, hupload, hurl,
                Backend.withImage]
          | true =>
              cases hsend : (oracle 4).ok &&
                  isValidPathString (photoPath uid (oracle 1).key) with
              | false =>
                  simp [imageUploaded, recordWritten, huser, hupload, hurl,
                    hsend, Backend.withImage]
              | true =>
                  simp [imageUploaded, recordWritten, huser, hupload, hurl,
                    hsend, Backend.withImage, addedPhoto]

theorem addPicture_after (description : String) (file : File) :
    afterPhotoCall uid device backend
        (.addPicture description file, oracle) = backend ∨
      afterPhotoCall uid device backend
        (.addPicture description file, oracle) =
          backend.withImage uid (oracle 1).key file ∨
      ∃ value,
        isValidPathString (photoPath uid (oracle 1).key) = true ∧
          afterPhotoCall uid device backend
            (.addPicture description file, oracle) =
              (backend.withImage uid (oracle 1).key file).write
                (photoPath uid (oracle 1).key) value := by
  unfold afterPhotoCall PhotoCall.program
  rw [addPicture_run]
  split_ifs with hupload hrecord
  · right
    right
    refine ⟨(addedPhoto oracle description).toJson, ?_, rfl⟩
    simp only [recordWritten, Bool.and_eq_true] at hrecord
    exact hrecord.2.2
  · exact Or.inr (Or.inl rfl)
  · exact Or.inl rfl

/-- The account is read and the object is there and is deleted. -/
def imageDeleted (uid : Segment) (backend : Backend) (oracle : ℕ → Oracle)
    (uidPhoto : String) : Bool :=
  (oracle 0).ok &&
    ((oracle 1).ok &&
      (backend.storage (pieces (imagePath uid uidPhoto))).isSome)

def recordRemoved (uid : Segment) (oracle : ℕ → Oracle)
    (uidPhoto : String) : Bool :=
  (oracle 2).ok && isValidPathString (photoPath uid uidPhoto)

theorem deletePicture_run (uidPhoto : String) :
    App.run (PhotosController.deletePicture uidPhoto) oracle backend
        (device.signedInAs uid) =
      if imageDeleted uid backend oracle uidPhoto then
        if recordRemoved uid oracle uidPhoto then
          (.ok true,
            (backend.putObject (imagePath uid uidPhoto) none).write
              (photoPath uid uidPhoto) .null,
            device.signedInAs uid)
        else
          (.error .remote,
            backend.putObject (imagePath uid uidPhoto) none,
            device.signedInAs uid)
      else (.error .remote, backend, device.signedInAs uid) := by
  unfold PhotosController.deletePicture
  cases huser : (oracle 0).ok with
  | false =>
      simp [imageDeleted, huser]
  | true =>
      cases himage : (oracle 1).ok &&
          (backend.storage (pieces (imagePath uid uidPhoto))).isSome with
      | false =>
          simp [imageDeleted, huser, himage]
      | true =>
          cases hrecord : recordRemoved uid oracle uidPhoto with
          | false =>
              unfold recordRemoved at hrecord
              simp [imageDeleted, huser, himage, hrecord]
          | true =>
              unfold recordRemoved at hrecord
              simp [imageDeleted, huser, himage, hrecord]

end Calls

/-! ## What a call does to the records and the images -/

/-- The object named after one key is the image of the record at another;
this is the case for equal keys, and for keys that differ in slashes that
do not count. -/
def NamesImageOf (uidPhoto key : String) : Prop :=
  pieces (uidPhoto ++ ".jpg") = [key ++ ".jpg"]

theorem namesImageOf_segment_iff {key : String} (hkey : IsSegment key)
    (other : String) :
    NamesImageOf key other ↔ other = key := by
  unfold NamesImageOf
  rw [pieces_jpg hkey]
  constructor
  · intro heq
    simp only [List.cons.injEq, and_true] at heq
    have hlist := congrArg String.toList heq
    simp only [String.toList_append] at hlist
    exact (String.toList_injective (List.append_cancel_right hlist)).symm
  · rintro rfl
    rfl

section Effects

variable {uid : String} (huid : IsSegment uid) (backend : Backend)

@[simp] theorem photoImage_write (path : String) (value : Json)
    (key : String) :
    (backend.write path value).photoImage uid key =
      backend.photoImage uid key := rfl

include huid

theorem photoImage_putObject_of_names
    {uidPhoto key : String} (hnames : NamesImageOf uidPhoto key)
    (content : Option File) :
    (backend.putObject (imagePath uid uidPhoto) content).photoImage uid
        key = content := by
  have hpieces :
      pieces (imagePath uid uidPhoto) =
        ["images", "user", uid, key ++ ".jpg"] := by
    rw [pieces_imagePath huid, hnames]
  unfold Backend.photoImage Backend.putObject
  rw [hpieces]
  exact Function.update_self _ _ _

theorem photoImage_putObject_of_not_names
    {uidPhoto key : String} (hnames : ¬ NamesImageOf uidPhoto key)
    (content : Option File) :
    (backend.putObject (imagePath uid uidPhoto) content).photoImage uid
        key = backend.photoImage uid key := by
  unfold Backend.photoImage Backend.putObject
  apply Function.update_of_ne
  intro heq
  apply hnames
  rw [pieces_imagePath huid] at heq
  simp only [List.cons.injEq, true_and] at heq
  exact heq.symm

theorem photoRecord_write_of_ne
    {key other : String} (hkey : IsSegment key) (hne : other ≠ key)
    (value : Json) :
    (backend.write (photoPath uid key) value).photoRecord uid other =
      backend.photoRecord uid other := by
  unfold Backend.photoRecord Backend.write
  rw [pieces_photoPath_user huid, pieces_segment hkey]
  apply Json.get_setAt_of_apart
  apply Json.apart_of_getElem_ne 3 (by simp) (by simp)
  simpa using hne.symm

theorem photoRecord_remove_of_names
    {uidPhoto key : String} (hnames : NamesImageOf uidPhoto key) :
    (backend.write (photoPath uid uidPhoto) .null).photoRecord uid key =
      .null := by
  unfold Backend.photoRecord Backend.write
  rw [pieces_photoPath_user huid]
  rcases pieces_of_pieces_append (by decide) hnames with hkey | hnone
  · rw [hkey]
    exact Json.get_setAt_self _ _ _
  · rw [hnone]
    exact Json.get_setAt_append ["users", uid, "photos"] [key] _ _

omit huid in
theorem photoRecord_of_remove
    {path key : String}
    (hrecord :
      (backend.write path .null).photoRecord uid key ≠ .null) :
    backend.photoRecord uid key ≠ .null :=
  Json.get_ne_null_of_setAt_null _ _ _ hrecord

end Effects

/-! ## One call -/

section Step

variable {uid : Segment} (device : Device) {backend : Backend}

theorem recordsAddressable_afterPhotoCall
    (haddress : backend.RecordsAddressable uid)
    (call : PhotoCall × (ℕ → Oracle)) :
    (afterPhotoCall uid device backend call).RecordsAddressable uid := by
  obtain ⟨call, oracle⟩ := call
  cases call with
  | addPicture description file =>
      rcases addPicture_after uid device backend oracle description file
        with hafter | hafter | ⟨value, hvalid, hafter⟩
      · rw [hafter]
        exact haddress
      · rw [hafter]
        exact haddress
      · rw [hafter]
        intro key hrecord
        by_cases heq : key = (oracle 1).key.val
        · subst key
          exact ⟨(oracle 1).key.property, hvalid⟩
        · rw [photoRecord_write_of_ne uid.property _
            (oracle 1).key.property heq] at hrecord
          exact haddress key hrecord
  | deletePicture uidPhoto =>
      unfold afterPhotoCall PhotoCall.program
      rw [deletePicture_run]
      split_ifs
      · intro key hrecord
        exact haddress key (photoRecord_of_remove _ hrecord)
      · exact haddress
      · exact haddress

/-- A deletion stopped between the object and the record of a photo. -/
def DeletionInterrupted (uid : Segment) (backend : Backend) :
    PhotoCall × (ℕ → Oracle) → Prop
  | (.addPicture _ _, _) => False
  | (.deletePicture uidPhoto, oracle) =>
      imageDeleted uid backend oracle uidPhoto = true ∧
        recordRemoved uid oracle uidPhoto = false ∧
        ∃ key, NamesImageOf uidPhoto key ∧
          backend.photoRecord uid key ≠ .null

theorem recordsHaveImages_addPicture
    (himages : backend.RecordsHaveImages uid) (oracle : ℕ → Oracle)
    (description : String) (file : File) :
    (afterPhotoCall uid device backend
      (.addPicture description file, oracle)).RecordsHaveImages uid := by
  have hstored :
      (backend.withImage uid (oracle 1).key file).RecordsHaveImages
        uid := by
    intro key hrecord
    unfold Backend.withImage
    by_cases hnames : NamesImageOf (oracle 1).key key
    · rw [photoImage_putObject_of_names uid.property backend hnames]
      simp
    · rw [photoImage_putObject_of_not_names uid.property backend hnames]
      exact himages key hrecord
  rcases addPicture_after uid device backend oracle description file
    with hafter | hafter | ⟨value, -, hafter⟩
  · rw [hafter]
    exact himages
  · rw [hafter]
    exact hstored
  · rw [hafter]
    intro key hrecord
    by_cases heq : key = (oracle 1).key.val
    · subst key
      have hself : NamesImageOf (oracle 1).key (oracle 1).key.val :=
        (namesImageOf_segment_iff (oracle 1).key.property _).mpr rfl
      rw [photoImage_write, Backend.withImage,
        photoImage_putObject_of_names uid.property backend hself]
      simp
    · rw [photoRecord_write_of_ne uid.property _ (oracle 1).key.property
        heq] at hrecord
      rw [photoImage_write]
      exact hstored key hrecord

/-- One call keeps the records with their images exactly when it is not a
deletion interrupted between the two. -/
theorem recordsHaveImages_afterPhotoCall_iff
    (himages : backend.RecordsHaveImages uid)
    (call : PhotoCall × (ℕ → Oracle)) :
    (afterPhotoCall uid device backend call).RecordsHaveImages uid ↔
      ¬ DeletionInterrupted uid backend call := by
  obtain ⟨call, oracle⟩ := call
  cases call with
  | addPicture description file =>
      simp only [DeletionInterrupted, not_false_eq_true, iff_true]
      exact recordsHaveImages_addPicture device himages oracle description
        file
  | deletePicture uidPhoto =>
      unfold afterPhotoCall PhotoCall.program
      rw [deletePicture_run]
      simp only [DeletionInterrupted]
      cases hdeleted : imageDeleted uid backend oracle uidPhoto with
      | false => simpa using himages
      | true =>
          cases hremoved : recordRemoved uid oracle uidPhoto with
          | true =>
              simp only [if_true, Bool.true_eq_false, false_and, and_false,
                not_false_eq_true, iff_true]
              intro key hrecord
              have hnames : ¬ NamesImageOf uidPhoto key := by
                intro hnames
                exact hrecord
                  (photoRecord_remove_of_names uid.property _ hnames)
              rw [photoImage_write,
                photoImage_putObject_of_not_names uid.property _ hnames]
              exact himages key (photoRecord_of_remove _ hrecord)
          | false =>
              simp only [if_true, Bool.false_eq_true, if_false, true_and,
                not_exists, not_and, not_not]
              constructor
              · intro hkept key hnames
                by_contra hrecord
                exact hkept key hrecord
                  (photoImage_putObject_of_names uid.property _ hnames _)
              · intro hnone key hrecord
                have hnames : ¬ NamesImageOf uidPhoto key := by
                  intro hnames
                  exact hrecord (hnone key hnames)
                rw [photoImage_putObject_of_not_names uid.property _ hnames]
                exact himages key hrecord

end Step

/-! ## Sequences of calls -/

/-- A deletion of any listed photo completes and removes the record when no
call fails for an outside reason. -/
def Backend.PhotosDeletable (backend : Backend) (uid : Segment) : Prop :=
  ∀ key, backend.photoRecord uid key ≠ .null →
    ∀ (oracle : ℕ → Oracle) (device : Device),
      (∀ index, (oracle index).ok = true) →
        ∃ after,
          App.run (PhotosController.deletePicture key) oracle backend
              (device.signedInAs uid) =
            (.ok true, after, device.signedInAs uid) ∧
          after.photoRecord uid key = .null

theorem photosDeletable_of_images
    {uid : Segment} {backend : Backend}
    (haddress : backend.RecordsAddressable uid)
    (himages : backend.RecordsHaveImages uid) :
    backend.PhotosDeletable uid := by
  intro key hrecord oracle device hok
  obtain ⟨hkey, hvalid⟩ := haddress key hrecord
  have hself : NamesImageOf key key :=
    (namesImageOf_segment_iff hkey key).mpr rfl
  have hdeleted : imageDeleted uid backend oracle key = true := by
    have himage := himages key hrecord
    unfold Backend.photoImage at himage
    simp only [imageDeleted, hok, Bool.true_and]
    rw [pieces_imagePath uid.property, pieces_jpg hkey]
    exact Option.isSome_iff_ne_none.mpr himage
  have hremoved : recordRemoved uid oracle key = true := by
    simp [recordRemoved, hok, hvalid]
  refine ⟨(backend.putObject (imagePath uid key) none).write
    (photoPath uid key) .null, ?_, ?_⟩
  · rw [deletePicture_run, hdeleted, hremoved]
    rfl
  · exact photoRecord_remove_of_names uid.property _ hself

/-- Along a sequence of additions and deletions that starts from an empty
album, every record has its image and every listed photo can be deleted,
exactly when no deletion is interrupted between its image and its record. -/
theorem photo_records_have_images_iff
    (uid : Segment) (device : Device) (backend : Backend)
    (hempty : backend.AlbumEmpty uid)
    (calls : List (PhotoCall × (ℕ → Oracle))) :
    HoldsAlong (afterPhotoCall uid device)
        (fun state =>
          state.RecordsHaveImages uid ∧ state.PhotosDeletable uid)
        backend calls ↔
      EachMeets (afterPhotoCall uid device)
        (fun state call => ¬ DeletionInterrupted uid state call)
        backend calls := by
  have haddress : backend.RecordsAddressable uid := by
    intro key hrecord
    exact (hrecord (hempty key)).elim
  have himages : backend.RecordsHaveImages uid := by
    intro key hrecord
    exact (hrecord (hempty key)).elim
  apply holdsAlong_iff_eachMeets
    (fun state => state.RecordsAddressable uid) haddress
    ⟨himages, photosDeletable_of_images haddress himages⟩
  · intro state call hstate
    exact recordsAddressable_afterPhotoCall device hstate call
  · intro state call hstate hinv
    rw [← recordsHaveImages_afterPhotoCall_iff device hinv.1 call]
    constructor
    · intro hnext
      exact hnext.1
    · intro hnext
      exact ⟨hnext, photosDeletable_of_images
        (recordsAddressable_afterPhotoCall device hstate call) hnext⟩

/-- Two photos are added, the second without success; the first is deleted,
at the second attempt. -/
def deletedAtLast : List (PhotoCall × (ℕ → Oracle)) :=
  [(.addPicture "fachada" ⟨[1, 2]⟩, failingAt 5),
    (.addPicture "muro" ⟨[3]⟩, failingAt 4),
    (.deletePicture "k1", failingAt 1),
    (.deletePicture "k1", failingAt 5)]

theorem photo_records_have_images_iff_deletedAtLast :
    HoldsAlong (afterPhotoCall firstUid Device.fresh)
      (fun state =>
        state.RecordsHaveImages firstUid ∧ state.PhotosDeletable firstUid)
      Backend.empty deletedAtLast := by
  apply (photo_records_have_images_iff firstUid Device.fresh Backend.empty
    (fun _ => Json.get_null _) deletedAtLast).mpr
  refine eachMeets_concat.mpr ⟨eachMeets_concat.mpr
    ⟨eachMeets_concat.mpr ⟨eachMeets_concat.mpr ⟨eachMeets_nil, ?_⟩, ?_⟩,
      ?_⟩, ?_⟩
  · exact id
  · exact id
  · -- the image is not deleted
    rintro ⟨hdeleted, -⟩
    revert hdeleted
    decide
  · -- the record is removed
    rintro ⟨-, hkept, -⟩
    revert hkept
    decide

/-- An addition, and a deletion whose last call fails. -/
def interruptedCalls : List (PhotoCall × (ℕ → Oracle)) :=
  [(.addPicture "fachada" ⟨[1, 2]⟩, failingAt 5),
    (.deletePicture "k1", failingAt 2)]

theorem interrupted_deletion_leaves_record :
    ¬ HoldsAlong (afterPhotoCall firstUid Device.fresh)
      (fun state =>
        state.RecordsHaveImages firstUid ∧
          state.PhotosDeletable firstUid)
      Backend.empty interruptedCalls := by
  intro halong
  have himages := (halong interruptedCalls (List.prefix_refl _)).1
  have hrecord :
      (after (afterPhotoCall firstUid Device.fresh) Backend.empty
        interruptedCalls).photoRecord firstUid "k1" =
        .obj
          [("description", .str "fachada"), ("image_url", .str "url"),
            ("uid_image", .str "k1")] := rfl
  have himage :
      (after (afterPhotoCall firstUid Device.fresh) Backend.empty
        interruptedCalls).photoImage firstUid "k1" = none := rfl
  apply himages "k1" _ himage
  rw [hrecord]
  simp

end FoliumApp
