import FoliumApp.AlbumScreen

/-!
# The latest load of the album

Loads that end in the order in which they were issued bring the album up to
date with one exception.  A load that reads an empty album hands nothing
over: it relies on the list being emptied when it was issued, and an older
load answered in between has filled the list again.
-/

namespace FoliumApp

open PathTree CallSequences

/-! ## Loads in order -/

/-- An answer after which fewer loads are pending is one to the oldest. -/
def AlbumScreen.InOrder (asserts : Bool) (screen : AlbumScreen) :
    AlbumEvent → Prop
  | .resume index response =>
      ∀ next, screen.step asserts (.resume index response) = some next →
        next.pending.length < screen.pending.length → index = 0
  | _ => True

/-- The photos of a node; an album that does not exist has none. -/
def photosIn (node : Json) : Except DartError (List Photo) :=
  match decodedPhotos node with
  | .ok (some photos) => .ok photos
  | .ok none => .ok []
  | .error error => .error error

/-- The load issued last has ended, and the list shows the photos it read. -/
def AlbumScreen.ShowsLatest (screen : AlbumScreen) : Prop :=
  ∃ load ∈ screen.ended, load.number + 1 = screen.issued ∧
    ∃ node photos, load.read = some node ∧ photosIn node = .ok photos ∧
      screen.list = none :: photos.map some

/-- The load issued last came to read photos, or it read an empty album and
no older load had handed photos over since that load was issued. -/
def AlbumScreen.LatestUndisturbed (screen : AlbumScreen) : Prop :=
  ∃ load ∈ screen.ended, load.number + 1 = screen.issued ∧
    ∃ node photos, load.read = some node ∧ photosIn node = .ok photos ∧
      (photos ≠ [] ∨
        ∀ older ∈ screen.ended, older.number < load.number →
          older.issued = screen.issued → broughtBy older.read = none)

/-- The photos handed over last among the loads given. -/
def lastBrought (loads : List EndedLoad) : List Photo :=
  loads.foldl (fun shown load => (broughtBy load.read).getD shown) []

/-- The loads that ended since the last refresh. -/
def AlbumScreen.endedSince (screen : AlbumScreen) : List EndedLoad :=
  screen.ended.filter fun load => load.issued = screen.issued

theorem lastBrought_concat (loads : List EndedLoad) (load : EndedLoad) :
    lastBrought (loads ++ [load]) =
      (broughtBy load.read).getD (lastBrought loads) := by
  simp [lastBrought]

theorem broughtBy_ne_nil {read : Option Json}
    (hread : ∀ node, read = some node → Reading node) :
    broughtBy read ≠ some [] := by
  intro hbrought
  obtain ⟨records, hrecords, hphotos⟩ := broughtBy_eq_some hbrought
  have hnonempty := (hread _ hrecords).nonempty
  cases records with
  | nil => exact hnonempty rfl
  | cons record rest =>
      rw [List.mapM_cons] at hphotos
      obtain ⟨photo, -, hphotos⟩ := except_bind_ok hphotos
      obtain ⟨others, -, hphotos⟩ := except_bind_ok hphotos
      cases hphotos

theorem lastBrought_eq_nil_iff {loads : List EndedLoad}
    (hnonempty : ∀ load ∈ loads, broughtBy load.read ≠ some []) :
    lastBrought loads = [] ↔
      ∀ load ∈ loads, broughtBy load.read = none := by
  induction loads using List.reverseRecOn with
  | nil => simp [lastBrought]
  | append_singleton front load ih =>
      have hfront : ∀ other ∈ front, broughtBy other.read ≠ some [] := by
        intro other hmem
        exact hnonempty other (List.mem_append_left _ hmem)
      have hlast : broughtBy load.read ≠ some [] :=
        hnonempty load (List.mem_append_right _ List.mem_cons_self)
      rw [lastBrought_concat, List.forall_mem_append,
        List.forall_mem_singleton]
      cases hbrought : broughtBy load.read with
      | none =>
          rw [Option.getD_none, ih hfront]
          simp
      | some photos =>
          rw [hbrought] at hlast
          rw [Option.getD_some]
          constructor
          · intro hnil
            rw [hnil] at hlast
            exact absurd rfl hlast
          · rintro ⟨-, hnone⟩
            cases hnone

/-- While loads end in the order in which they were issued, the list of a
screen that has not been left is what the loads ended since the last refresh
handed over last. -/
structure AlbumScreen.OrderInvariant (screen : AlbumScreen) : Prop where
  loads : screen.LoadsInvariant
  issued : 0 < screen.issued
  order : screen.ended.map EndedLoad.number ++
    screen.pending.map PendingLoad.number = List.range screen.issued
  shown : screen.mounted = true →
    screen.list = none :: (lastBrought screen.endedSince).map some

section Latest

variable {asserts : Bool} {screen next : AlbumScreen}

theorem AlbumScreen.OrderInvariant.initState :
    AlbumScreen.initState.OrderInvariant := by
  refine ⟨.initState, Nat.one_pos, rfl, ?_⟩
  intro _
  rfl

theorem AlbumScreen.OrderInvariant.congr (hinv : screen.OrderInvariant)
    (hsame : SameLoads screen next) (hlist : next.list = screen.list) :
    next.OrderInvariant := by
  refine ⟨hinv.loads.congr hsame, ?_, ?_, ?_⟩
  · rw [hsame.issued]
    exact hinv.issued
  · rw [hsame.ended, hsame.pending, hsame.issued]
    exact hinv.order
  · intro hmounted
    rw [hsame.mounted] at hmounted
    unfold AlbumScreen.endedSince
    rw [hlist, hsame.ended, hsame.issued]
    exact hinv.shown hmounted

theorem AlbumScreen.LoadsInvariant.endedSince_issue
    (hinv : screen.LoadsInvariant) : screen.issue.endedSince = [] := by
  unfold AlbumScreen.endedSince
  rw [List.filter_eq_nil_iff]
  intro load hmem
  have hearlier := (hinv.earlier load hmem).2
  have hissued : screen.issue.issued = screen.issued + 1 := rfl
  simp only [decide_eq_true_eq, hissued]
  omega

theorem AlbumScreen.OrderInvariant.issue (hinv : screen.OrderInvariant) :
    OrderInvariant { screen.issue with list := [none] } := by
  have hsame : SameLoads screen.issue { screen.issue with list := [none] } :=
    ⟨rfl, rfl, rfl, rfl⟩
  refine ⟨hinv.loads.issue.congr hsame, Nat.succ_pos _, ?_, ?_⟩
  · have horder := congrArg (· ++ [screen.issued]) hinv.order
    simp only [← List.range_succ, List.append_assoc] at horder
    simpa [AlbumScreen.issue] using horder
  · intro _
    have hnone := hinv.loads.endedSince_issue
    unfold AlbumScreen.endedSince at hnone ⊢
    rw [hnone]
    rfl

theorem AlbumScreen.endedSince_finish (screen : AlbumScreen)
    (index number : ℕ) (read : Option Json) :
    (screen.finish index number read).endedSince =
      screen.endedSince ++ [⟨number, read, screen.issued⟩] := by
  unfold AlbumScreen.endedSince AlbumScreen.finish
  dsimp only
  rw [List.filter_append]
  simp

theorem AlbumScreen.list_notified_of_mounted (asserts : Bool)
    (hmounted : screen.mounted = true) (photos : Option (List Photo)) :
    (screen.notified asserts photos).list =
      match photos with
      | some photos => none :: photos.map some
      | none => screen.list := by
  cases photos with
  | none => rfl
  | some photos =>
      simp [AlbumScreen.notified, AlbumScreen.list_action, hmounted]

theorem AlbumScreen.OrderInvariant.ends (hinv : screen.OrderInvariant)
    {load : PendingLoad} {read : Option Json}
    (hload : screen.pending[0]? = some load)
    (hread : ∀ node, read = some node → Reading node) :
    ((screen.finish 0 load.number read).notified asserts
      (broughtBy read)).OrderInvariant := by
  have hsame := AlbumScreen.sameLoads_notified asserts
    (screen.finish 0 load.number read) (broughtBy read)
  have hloads := (hinv.loads.finish hload hread).congr hsame
  have horder := hinv.order
  cases hpending : screen.pending with
  | nil => simp [hpending] at hload
  | cons first rest =>
      rw [hpending, List.getElem?_cons_zero, Option.some.injEq] at hload
      subst load
      refine ⟨hloads, ?_, ?_, ?_⟩
      · rw [hsame.issued]
        exact hinv.issued
      · rw [hsame.ended, hsame.pending, hsame.issued]
        rw [hpending, List.map_cons] at horder
        simpa [AlbumScreen.finish, hpending] using horder
      · intro hmounted
        rw [hsame.mounted] at hmounted
        have hshown := hinv.shown hmounted
        have hsince : ((screen.finish 0 first.number read).notified asserts
            (broughtBy read)).endedSince =
              screen.endedSince ++ [⟨first.number, read, screen.issued⟩] := by
          rw [← AlbumScreen.endedSince_finish screen 0]
          unfold AlbumScreen.endedSince
          rw [hsame.ended, hsame.issued]
        rw [hsince, lastBrought_concat,
          AlbumScreen.list_notified_of_mounted asserts hmounted]
        cases broughtBy read with
        | none => exact hshown
        | some photos => rfl

theorem AlbumScreen.OrderInvariant.moves (hinv : screen.OrderInvariant)
    {event : AlbumEvent} (horder : screen.InOrder asserts event)
    (hstep : screen.step asserts event = some next) :
    next.OrderInvariant := by
  have hmoves := AlbumScreen.moves_of_step hinv.loads.rests hstep
  cases hmoves with
  | refresh =>
      have hsame := screen.sameLoads_updatePhotosList asserts
      exact hinv.issue.congr
        ⟨hsame.issued, hsame.pending, hsame.ended, hsame.mounted⟩
        (screen.list_updatePhotosList asserts)
  | exclude =>
      exact hinv.congr
        (screen.sameLoads_setState asserts ⟨rfl, rfl, rfl, rfl⟩)
        (screen.list_exclude asserts)
  | leave =>
      have hloads := hinv.loads
      refine ⟨⟨hloads.rests, hloads.numbers, hloads.reading,
        hloads.earlier⟩, hinv.issued, hinv.order, ?_⟩
      intro hmounted
      cases hmounted
  | asks uid hload =>
      refine ⟨hinv.loads.asks hload uid, hinv.issued, ?_, hinv.shown⟩
      rw [map_number_set hload]
      exact hinv.order
  | @ends index response load read hload hread =>
      have hsame := AlbumScreen.sameLoads_notified asserts
        (screen.finish index load.number read) (broughtBy read)
      have hindex : index < screen.pending.length :=
        (List.getElem?_eq_some_iff.mp hload).1
      have hfewer : ((screen.finish index load.number read).notified asserts
          (broughtBy read)).pending.length < screen.pending.length := by
        rw [hsame.pending]
        simp only [AlbumScreen.finish, List.length_eraseIdx, if_pos hindex]
        omega
      have hzero := horder _ hstep hfewer
      subst index
      exact hinv.ends hload hread

theorem AlbumScreen.orderInvariant_of_run (events : List AlbumEvent)
    (horder : EachAllowed (AlbumScreen.step asserts)
      (AlbumScreen.InOrder asserts) AlbumScreen.initState events)
    (hrun : run (AlbumScreen.step asserts) AlbumScreen.initState events =
      some screen) :
    screen.OrderInvariant := by
  have hreach := Reaches.refl.run events horder hrun
  apply hreach.invariant
  · exact .initState
  · intro state event state' hinv hallowed hstep
    exact hinv.moves hallowed hstep

/-- The load issued last is the one that ended last, after the last
refresh. -/
structure AlbumScreen.EndsWith (screen : AlbumScreen)
    (front : List EndedLoad) (last : EndedLoad) : Prop where
  ended : screen.ended = front ++ [last]
  number : last.number + 1 = screen.issued
  issued : last.issued = screen.issued
  earlier : ∀ load ∈ front, load.number < last.number

theorem AlbumScreen.OrderInvariant.endsWith (hinv : screen.OrderInvariant)
    (hidle : screen.pending = []) :
    ∃ front last, screen.EndsWith front last := by
  have horder := hinv.order
  obtain ⟨count, hcount⟩ := Nat.exists_eq_succ_of_ne_zero hinv.issued.ne'
  rw [hidle, List.map_nil, List.append_nil, hcount,
    List.range_succ] at horder
  obtain ⟨front, back, hended, hfront, hback⟩ :=
    List.map_eq_append_iff.mp horder
  obtain ⟨last, rfl, hlast⟩ := List.map_eq_singleton_iff.mp hback
  have hmem : last ∈ screen.ended := by
    rw [hended]
    exact List.mem_append_right _ List.mem_cons_self
  have hearlier := hinv.loads.earlier last hmem
  refine ⟨front, last, hended, by omega, by omega, ?_⟩
  intro load hload
  have hnumber : load.number ∈ front.map EndedLoad.number :=
    List.mem_map.mpr ⟨load, hload, rfl⟩
  rw [hfront] at hnumber
  have hless := List.mem_range.mp hnumber
  omega

section LastLoad

variable {front : List EndedLoad} {last : EndedLoad}

/-- The older loads that ended since the last refresh. -/
def olderSince (issued : ℕ) (front : List EndedLoad) : List EndedLoad :=
  front.filter fun load => load.issued = issued

theorem AlbumScreen.EndsWith.mem_front (hends : screen.EndsWith front last)
    {load : EndedLoad} (hload : load ∈ front) : load ∈ screen.ended := by
  rw [hends.ended]
  exact List.mem_append_left _ hload

theorem AlbumScreen.EndsWith.eq_last (hends : screen.EndsWith front last)
    {load : EndedLoad} (hload : load ∈ screen.ended)
    (hnumber : load.number + 1 = screen.issued) : load = last := by
  rw [hends.ended] at hload
  rcases List.mem_append.mp hload with hload | hload
  · have hless := hends.earlier load hload
    have hlast := hends.number
    omega
  · exact List.mem_singleton.mp hload

theorem AlbumScreen.EndsWith.lastBrought_eq
    (hends : screen.EndsWith front last) :
    lastBrought screen.endedSince =
      (broughtBy last.read).getD
        (lastBrought (olderSince screen.issued front)) := by
  have hsince : screen.endedSince =
      olderSince screen.issued front ++ [last] := by
    unfold AlbumScreen.endedSince olderSince
    rw [hends.ended, List.filter_append]
    simp [hends.issued]
  rw [hsince, lastBrought_concat]

/-- Nothing was handed over by the older loads since the last refresh. -/
theorem AlbumScreen.EndsWith.older_iff (hends : screen.EndsWith front last)
    (hloads : screen.LoadsInvariant) :
    lastBrought (olderSince screen.issued front) = [] ↔
      ∀ older ∈ screen.ended, older.number < last.number →
        older.issued = screen.issued → broughtBy older.read = none := by
  rw [lastBrought_eq_nil_iff]
  · constructor
    · intro hnone older hmem hless hsame
      rw [hends.ended] at hmem
      rcases List.mem_append.mp hmem with hmem | hmem
      · apply hnone older
        exact List.mem_filter.mpr ⟨hmem, by simpa using hsame⟩
      · rcases List.mem_singleton.mp hmem with rfl
        exact absurd hless (lt_irrefl _)
    · intro hnone load hload
      obtain ⟨hmem, hsame⟩ := List.mem_filter.mp hload
      exact hnone load (hends.mem_front hmem) (hends.earlier load hmem)
        (by simpa using hsame)
  · intro load hload
    apply broughtBy_ne_nil
    exact hloads.reading load
      (hends.mem_front (List.mem_filter.mp hload).1)

end LastLoad

/-- An album that has photos is handed over, an empty one is not. -/
theorem getD_broughtBy {node : Json} {photos : List Photo}
    (hreading : Reading node) (hphotos : photosIn node = .ok photos)
    (shown : List Photo) :
    (broughtBy (some node)).getD shown =
      if photos = [] then shown else photos := by
  have hnonempty : broughtBy (some node) ≠ some [] := by
    apply broughtBy_ne_nil
    intro other heq
    cases heq
    exact hreading
  unfold broughtBy at hnonempty ⊢
  unfold photosIn at hphotos
  cases hnode : decodedPhotos node with
  | error error => simp [hnode] at hphotos
  | ok delivered =>
      simp only [hnode] at hphotos hnonempty ⊢
      cases delivered with
      | none =>
          cases hphotos
          rw [if_pos rfl]
          rfl
      | some brought =>
          cases hphotos
          have hne : photos ≠ [] := by
            rintro rfl
            exact hnonempty rfl
          rw [if_neg hne]
          rfl

theorem map_some_injective {left right : List Photo}
    (heq : (none : Option Photo) :: left.map some =
      none :: right.map some) : left = right := by
  have htail := List.tail_eq_of_cons_eq heq
  exact List.map_injective_iff.mpr (Option.some_injective Photo) htail

/-- Loads end in the order in which they were issued, none is pending and the
screen has not been left: the album shows what the latest load read exactly
if that load read photos, or the album it read is empty and no older load had
handed photos over since it was issued. -/
theorem album_shows_latest_iff (events : List AlbumEvent)
    (horder : EachAllowed (AlbumScreen.step asserts)
      (AlbumScreen.InOrder asserts) AlbumScreen.initState events)
    (hrun : run (AlbumScreen.step asserts) AlbumScreen.initState events =
      some screen)
    (hmounted : screen.mounted = true) (hidle : screen.pending = []) :
    screen.ShowsLatest ↔ screen.LatestUndisturbed := by
  have hinv := AlbumScreen.orderInvariant_of_run events horder hrun
  obtain ⟨front, last, hends⟩ := hinv.endsWith hidle
  have hlist := hinv.shown hmounted
  rw [hends.lastBrought_eq] at hlist
  unfold AlbumScreen.ShowsLatest AlbumScreen.LatestUndisturbed
  apply exists_congr
  intro load
  apply and_congr_right
  intro hload
  apply and_congr_right
  intro hnumber
  apply exists_congr
  intro node
  apply exists_congr
  intro photos
  apply and_congr_right
  intro hread
  apply and_congr_right
  intro hphotos
  have heq := hends.eq_last hload hnumber
  subst heq
  have hreading := hinv.loads.reading load hload node hread
  rw [hlist, hread, getD_broughtBy hreading hphotos,
    ← hends.older_iff hinv.loads]
  by_cases hempty : photos = []
  · rw [if_pos hempty, hempty]
    constructor
    · intro hshown
      exact Or.inr (map_some_injective hshown)
    · intro hnone
      rcases hnone with hne | hnone
      · exact absurd rfl hne
      · rw [hnone]
  · rw [if_neg hempty]
    exact iff_of_true rfl (Or.inl hempty)

end Latest

/-- The album was empty when it was opened, and the refresh finds a photo. -/
def filledMeanwhile : List AlbumEvent :=
  [.refresh, .resume 0 (.reads .null reading_null),
    .resume 0 (.reads .null reading_null),
    .resume 0 (.reads onePhoto reading_onePhoto),
    .resume 0 (.reads onePhoto reading_onePhoto)]

def filledScreen : AlbumScreen :=
  { list := [none, some gardenPhoto], load := false, mounted := true
    issued := 2, pending := []
    ended := [⟨0, some .null, 2⟩, ⟨1, some onePhoto, 2⟩] }

theorem run_filledMeanwhile :
    run (AlbumScreen.step true) AlbumScreen.initState filledMeanwhile =
      some filledScreen := rfl

theorem inOrder_filledMeanwhile :
    EachAllowed (AlbumScreen.step true) (AlbumScreen.InOrder true)
      AlbumScreen.initState filledMeanwhile :=
  ⟨trivial, fun _ _ _ => rfl, fun _ _ _ => rfl, fun _ _ _ => rfl,
    fun _ _ _ => rfl, trivial⟩

theorem album_shows_latest_filledMeanwhile : filledScreen.ShowsLatest := by
  apply (album_shows_latest_iff filledMeanwhile inOrder_filledMeanwhile
    run_filledMeanwhile rfl rfl).mpr
  refine ⟨⟨1, some onePhoto, 2⟩, ?_, rfl, onePhoto, [gardenPhoto], rfl, rfl,
    Or.inl (by simp)⟩
  exact List.mem_cons_of_mem _ List.mem_cons_self

/-- The refresh follows the first load before its answer, and the album was
emptied between the two reads. -/
def emptiedMeanwhile : List AlbumEvent :=
  [.refresh, .resume 0 (.reads onePhoto reading_onePhoto),
    .resume 0 (.reads onePhoto reading_onePhoto),
    .resume 0 (.reads .null reading_null),
    .resume 0 (.reads .null reading_null)]

def emptiedScreen : AlbumScreen :=
  { list := [none, some gardenPhoto], load := false, mounted := true
    issued := 2, pending := []
    ended := [⟨0, some onePhoto, 2⟩, ⟨1, some .null, 2⟩] }

theorem run_emptiedMeanwhile :
    run (AlbumScreen.step true) AlbumScreen.initState emptiedMeanwhile =
      some emptiedScreen := rfl

theorem inOrder_emptiedMeanwhile :
    EachAllowed (AlbumScreen.step true) (AlbumScreen.InOrder true)
      AlbumScreen.initState emptiedMeanwhile :=
  ⟨trivial, fun _ _ _ => rfl, fun _ _ _ => rfl, fun _ _ _ => rfl,
    fun _ _ _ => rfl, trivial⟩

/-- The latest load read an empty album, and the photo of the older load
stays on the screen. -/
theorem emptied_album_keeps_photo :
    EachAllowed (AlbumScreen.step true) (AlbumScreen.InOrder true)
        AlbumScreen.initState emptiedMeanwhile ∧
      run (AlbumScreen.step true) AlbumScreen.initState emptiedMeanwhile =
        some emptiedScreen ∧
      emptiedScreen.mounted = true ∧ emptiedScreen.pending = [] ∧
      (∃ load ∈ emptiedScreen.ended,
        load.number + 1 = emptiedScreen.issued ∧
          load.read = some .null ∧ photosIn .null = .ok []) ∧
      emptiedScreen.list = [none, some gardenPhoto] ∧
      ¬ emptiedScreen.ShowsLatest := by
  refine ⟨inOrder_emptiedMeanwhile, run_emptiedMeanwhile, rfl, rfl, ?_, rfl,
    ?_⟩
  · refine ⟨⟨1, some .null, 2⟩, ?_, rfl, rfl, rfl⟩
    exact List.mem_cons_of_mem _ List.mem_cons_self
  · rintro ⟨load, hmem, hnumber, node, photos, hread, hphotos, hlist⟩
    simp only [emptiedScreen, List.mem_cons, List.not_mem_nil,
      or_false] at hmem
    rcases hmem with rfl | rfl
    · simp [emptiedScreen] at hnumber
    · cases hread
      cases hphotos
      cases hlist

end FoliumApp
