import FoliumApp.RoleChoices

/-!
# The two stored forms of an occupation's area

The area is stored as a number, and by older records as its decimal text.
The decoder looks the text up among the compile-time definitions instead of
parsing it, and finds nothing.  So a record with the text is decoded to the
worker of the same record with the number, without an area: `workerChoice`
reports success for both and leaves different sessions.
-/

namespace FoliumApp

open PathTree AsyncProgram UserChoiceController

/-- The record with its area replaced. -/
def withArea (record area : Json) : Json :=
  Json.setAt ["occupation", "area"] area record

def Worker.withoutArea (worker : Worker) : Worker :=
  { worker with
    occupation := worker.occupation.map fun occupation =>
      { occupation with area := none } }

/-! ## What the decoders look at -/

theorem eq_obj_of_child {tree : Json} (key : String)
    (hchild : tree.child key ≠ .null) : tree = .obj tree.fieldsOf := by
  cases tree with
  | obj fields => rfl
  | _ => exact absurd rfl hchild

section Decoders

variable {record area : Json}

theorem child_withArea_of_ne {key : String} (hkey : key ≠ "occupation") :
    (withArea record area).child key = record.child key := by
  unfold withArea
  rw [Json.child_setAt_cons, if_neg hkey]

theorem child_withArea_occupation (key : String) :
    ((withArea record area).child "occupation").child key =
      if key = "area" then area
      else (record.child "occupation").child key := by
  unfold withArea
  rw [Json.child_setAt_cons, if_pos rfl, Json.child_setAt_cons]
  rfl

theorem occupation_withArea_eq_obj (harea : area ≠ .null) :
    (withArea record area).child "occupation" =
      .obj ((withArea record area).child "occupation").fieldsOf := by
  apply eq_obj_of_child "area"
  rw [child_withArea_occupation, if_pos rfl]
  exact harea

theorem withArea_eq_obj (harea : area ≠ .null) :
    withArea record area = .obj (withArea record area).fieldsOf := by
  apply eq_obj_of_child "occupation"
  rw [occupation_withArea_eq_obj harea]
  simp

end Decoders

/-- Users are decoded without a look at the occupation. -/
theorem User.fromDB_congr {left right : List (String × Json)}
    (hsame : ∀ key, key ≠ "occupation" →
      Json.lookup key left = Json.lookup key right) :
    User.fromDB ⟨some left⟩ = User.fromDB ⟨some right⟩ := by
  unfold User.fromDB
  simp only [Snapshot.getData_map]
  rw [hsame "email" (by decide), hsame "name" (by decide),
    hsame "password" (by decide), hsame "birth" (by decide),
    hsame "image_url" (by decide), hsame "uid" (by decide),
    hsame "location" (by decide)]

theorem Occupation.fromDB_area {left right : List (String × Json)} {n : ℤ}
    {text : String} (hleft : Json.lookup "area" left = .int n)
    (hright : Json.lookup "area" right = .str text)
    (hsame : Json.lookup "description" left =
      Json.lookup "description" right) :
    Occupation.fromDB ⟨some right⟩ =
      (Occupation.fromDB ⟨some left⟩).map
        fun occupation => { occupation with area := none } := by
  unfold Occupation.fromDB
  simp only [Snapshot.getData_map, hleft, hright, hsame, asInt,
    intFromEnvironment, except_ok_bind, except_map_bind]
  rfl

/-- A text in place of a number costs a record its area and nothing else. -/
theorem Worker.fromDB_area {left right : List (String × Json)}
    {leftOccupation rightOccupation : List (String × Json)} {n : ℤ}
    {text : String}
    (hsame : ∀ key, key ≠ "occupation" →
      Json.lookup key left = Json.lookup key right)
    (hleft : Json.lookup "occupation" left = .obj leftOccupation)
    (hright : Json.lookup "occupation" right = .obj rightOccupation)
    (hnumber : Json.lookup "area" leftOccupation = .int n)
    (htext : Json.lookup "area" rightOccupation = .str text)
    (hdescription : Json.lookup "description" leftOccupation =
      Json.lookup "description" rightOccupation) :
    Worker.fromDB ⟨some right⟩ =
      (Worker.fromDB ⟨some left⟩).map Worker.withoutArea := by
  have hoccupation := Occupation.fromDB_area hnumber htext hdescription
  have hmap : ∀ fields : List (String × Json),
      Snapshot.ofValue (.obj fields) = .ok ⟨some fields⟩ := fun _ => rfl
  unfold Worker.fromDB
  simp only [Snapshot.getData_map, User.fromDB_congr hsame,
    hsame "attendance" (by decide), hsame "social" (by decide), hleft,
    hright, hmap, hoccupation, except_ok_bind, except_map_bind,
    except_bind_map]
  rfl

theorem Occupation.area_of_fromDB {fields : List (String × Json)} {n : ℤ}
    {occupation : Occupation} (harea : Json.lookup "area" fields = .int n)
    (hoccupation : Occupation.fromDB ⟨some fields⟩ = .ok occupation) :
    occupation.area = some n := by
  unfold Occupation.fromDB at hoccupation
  simp only [Snapshot.getData_map, bind, Except.bind, harea, asInt,
    pure, Except.pure] at hoccupation
  cases hdescription : asString (Json.lookup "description" fields) with
  | error error => simp [hdescription] at hoccupation
  | ok description =>
      simp only [hdescription, Except.ok.injEq] at hoccupation
      rw [← hoccupation]

/-! ## The two forms of one record -/

theorem decodedWorker_text (record : Json) (n : ℤ) (text : String) :
    decodedWorker (withArea record (.str text)) =
      (decodedWorker (withArea record (.int n))).map
        Worker.withoutArea := by
  have hnumber : Json.int n ≠ .null := by simp
  have htext : Json.str text ≠ .null := by simp
  have hsame : ∀ key, key ≠ "occupation" →
      (withArea record (.int n)).child key =
        (withArea record (.str text)).child key := by
    intro key hkey
    rw [child_withArea_of_ne hkey, child_withArea_of_ne hkey]
  have hdescription :
      ((withArea record (.int n)).child "occupation").child "description" =
        ((withArea record (.str text)).child "occupation").child
          "description" := by
    rw [child_withArea_occupation, child_withArea_occupation]
    rfl
  rw [withArea_eq_obj hnumber, withArea_eq_obj htext]
  exact Worker.fromDB_area hsame (occupation_withArea_eq_obj hnumber)
    (occupation_withArea_eq_obj htext) (child_withArea_occupation "area")
    (child_withArea_occupation "area") hdescription

theorem area_of_decodedWorker {record : Json} {n : ℤ} {worker : Worker}
    (hworker : decodedWorker (withArea record (.int n)) = .ok worker) :
    ∃ occupation, worker.occupation = some occupation ∧
      occupation.area = some n := by
  have hnumber : Json.int n ≠ .null := by simp
  rw [withArea_eq_obj hnumber] at hworker
  change Worker.fromDB ⟨some (withArea record (.int n)).fieldsOf⟩ =
    .ok worker at hworker
  unfold Worker.fromDB at hworker
  obtain ⟨user, -, hworker⟩ := except_bind_ok hworker
  iterate 6 obtain ⟨_, -, hworker⟩ := except_bind_ok hworker
  obtain ⟨data, hdata, hworker⟩ := except_bind_ok hworker
  obtain ⟨snapshot, hsnapshot, hworker⟩ := except_bind_ok hworker
  obtain ⟨occupation, hoccupation, hworker⟩ := except_bind_ok hworker
  cases hworker
  refine ⟨occupation, rfl, ?_⟩
  cases hdata
  have hvalue : Snapshot.ofValue
      ((withArea record (.int n)).child "occupation") = .ok snapshot :=
    hsnapshot
  rw [occupation_withArea_eq_obj hnumber] at hvalue
  cases hvalue
  exact Occupation.area_of_fromDB (child_withArea_occupation "area")
    hoccupation

theorem Worker.withoutArea_ne {worker : Worker} {occupation : Occupation}
    {n : ℤ} (hoccupation : worker.occupation = some occupation)
    (harea : occupation.area = some n) : worker.withoutArea ≠ worker := by
  intro heq
  have hboth := congrArg Worker.occupation heq
  rw [Worker.withoutArea, hoccupation] at hboth
  have hnone := congrArg Occupation.area (Option.some.inj hboth)
  rw [harea] at hnone
  cases hnone

/-- No complete record means the same with its area as a number and as the
text of that number: the text is decoded to the worker without the area.
With either form `workerChoice` reports success, and the sessions differ. -/
theorem area_forms_never_agree {record : Json} {n : ℤ} {worker : Worker}
    (hcomplete : decodedWorker (withArea record (.int n)) = .ok worker)
    {oracle : ℕ → Oracle} {device : Device} {uid : Segment}
    (hread : RecordRead oracle device uid) {newer older : Backend}
    (hnewer : newer.read (dataPath uid.val) = withArea record (.int n))
    (holder : older.read (dataPath uid.val) =
      withArea record (.str (toString n))) :
    decodedWorker (withArea record (.str (toString n))) ≠
        decodedWorker (withArea record (.int n)) ∧
      AnswersOnce workerChoice true (some (.worker worker)) oracle newer
        device ∧
      AnswersOnce workerChoice true (some (.worker worker.withoutArea))
        oracle older device ∧
      AnyUser.worker worker.withoutArea ≠ AnyUser.worker worker := by
  obtain ⟨occupation, hoccupation, harea⟩ :=
    area_of_decodedWorker hcomplete
  have hne := Worker.withoutArea_ne hoccupation harea
  have htext : decodedWorker (withArea record (.str (toString n))) =
      .ok worker.withoutArea := by
    rw [decodedWorker_text record n, hcomplete]
    rfl
  refine ⟨?_, ?_, ?_, ?_⟩
  · rw [htext, hcomplete]
    intro heq
    exact hne (Except.ok.inj heq)
  · have hanswers : AnswersOnce workerChoice
        (foundWorker (newer.read (dataPath uid.val))).isSome
        (foundWorker (newer.read (dataPath uid.val))) oracle newer device :=
      workerChoice_answersOnce hread
    rw [hnewer] at hanswers
    unfold foundWorker at hanswers
    rw [hcomplete] at hanswers
    exact hanswers
  · have hanswers : AnswersOnce workerChoice
        (foundWorker (older.read (dataPath uid.val))).isSome
        (foundWorker (older.read (dataPath uid.val))) oracle older device :=
      workerChoice_answersOnce hread
    rw [holder] at hanswers
    unfold foundWorker at hanswers
    rw [htext] at hanswers
    exact hanswers
  · intro heq
    exact hne (AnyUser.worker.inj heq)

/-! ## A gardener with both forms -/

def gardenerRecord : Json :=
  .obj
    [("uid", .str "u1"), ("location", .obj [("city", .str "Xapuri")]),
      ("attendance", .obj [("cash", .bool true)]),
      ("social", .obj [("facebook", .str "")]),
      ("occupation", .obj [("description", .str "Jardins")])]

def gardener (area : Option ℤ) : Worker :=
  { email := none, name := none, password := none, birth := none
    imageUrl := none, uid := some "u1"
    location := some ⟨some "Xapuri", none, none, none, none, none⟩
    attendance := some ⟨some true, none, none, none, none⟩
    social := some ⟨some "", none, none, none⟩
    occupation := some ⟨area, some "Jardins"⟩ }

/-- The two forms of the area 3 are decoded to different workers. -/
theorem gardener_loses_area :
    decodedWorker (withArea gardenerRecord (.int 3)) =
        .ok (gardener (some 3)) ∧
      decodedWorker (withArea gardenerRecord (.str (toString (3 : ℤ)))) =
        .ok (gardener none) ∧
      gardener (some 3) ≠ gardener none := by
  refine ⟨rfl, rfl, ?_⟩
  intro heq
  have hoccupation := congrArg Worker.occupation heq
  simp [gardener] at hoccupation

def gardenerStored (area : Json) : Backend :=
  { Backend.empty with
    database := Json.setAt ["users", "u1", "data"]
      (withArea gardenerRecord area) .null }

theorem area_forms_never_agree_gardener :
    decodedWorker (withArea gardenerRecord (.str (toString (3 : ℤ)))) ≠
        decodedWorker (withArea gardenerRecord (.int 3)) ∧
      AnswersOnce workerChoice true (some (.worker (gardener (some 3))))
        (failingAt 9) (gardenerStored (.int 3)) signedInDevice ∧
      AnswersOnce workerChoice true
        (some (.worker (gardener (some 3)).withoutArea)) (failingAt 9)
        (gardenerStored (.str (toString (3 : ℤ)))) signedInDevice ∧
      AnyUser.worker (gardener (some 3)).withoutArea ≠
        AnyUser.worker (gardener (some 3)) :=
  area_forms_never_agree rfl recordRead_signedInDevice
    (Json.get_setAt_self _ _ _) (Json.get_setAt_self _ _ _)

end FoliumApp
