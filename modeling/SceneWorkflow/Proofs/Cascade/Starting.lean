import SceneWorkflow.Proofs.Cascade.Lifecycle

/-!
# Starting what can start

After a tile or a scene has finished, tiles may be overdue: nothing keeps them
waiting any more. Starting exactly those restores the life cycle.
-/
namespace SceneWorkflow
namespace Store
variable {s : Store} {f t : Tile} {x : Scene} {u : StatusUpdate}
  {doomed : List Int}

/-- Where a tile may stand while those that are overdue have not been started. -/
def FitsLate (scene previous : Option Status) : Status → Prop
  | .new => previous ≠ some .failed ∧
      (scene = some .pending ∨ scene = some .retry ∨ scene = some .done)
  | st => Fits False scene previous st

/-- The life cycle but for tiles that are overdue. -/
structure Late (s : Store) : Prop where
  scene_taken_up : ∀ x ∈ s.scenes, x.status ≠ .new
  previous_lt : ∀ t ∈ s.tiles, ∀ id, t.previous = some id → id < t.id
  fits : ∀ t ∈ s.tiles, FitsLate (s.sceneStatus? t.scene) (s.previousStatus? t) t.status

/-- Nothing keeps a tile waiting that has not started. -/
def Overdue (s : Store) (t : Tile) : Prop :=
  t.status = .new ∧ s.sceneStatus? t.scene = some .done ∧
    (s.previousStatus? t = none ∨ s.previousStatus? t = some .done)

theorem Fits.late {dead : Prop} {scene previous : Option Status} {st : Status} (hdead : ¬ dead)
    (h : Fits dead scene previous st) : FitsLate scene previous st := by
  cases st with
  | new =>
    refine ⟨h.1, ?_⟩
    rcases h.2 with ⟨hd, -⟩ | ⟨-, h | h | h⟩
    · exact absurd hd hdead
    · exact .inl h
    · exact .inr (.inl h)
    · exact .inr (.inr h.1)
  | failed | pending | done | retry => exact ⟨not_false, h.2⟩

theorem FitsLate.fits {dead : Prop} {scene previous : Option Status} {st : Status}
    (hdead : ¬ dead) (h : FitsLate scene previous st)
    (hwait : ¬ (st = .new ∧ scene = some .done ∧ (previous = none ∨ previous = some .done))) :
    Fits dead scene previous st := by
  cases st with
  | new =>
    refine ⟨h.1, .inr ⟨hdead, ?_⟩⟩
    rcases h.2 with h | h | h
    · exact .inl h
    · exact .inr (.inl h)
    · refine .inr (.inr ⟨h, ?_, ?_⟩)
      · exact fun hnone => hwait ⟨rfl, h, .inl hnone⟩
      · exact fun hdone => hwait ⟨rfl, h, .inr hdone⟩
  | failed | pending | done | retry => exact ⟨hdead, h.2⟩

theorem FitsLate.congr_previous {scene previous previous' : Option Status} {st : Status}
    (h : FitsLate scene previous st) (hnone : previous' = none ↔ previous = none)
    (hdone : previous' = some .done ↔ previous = some .done)
    (hfailed : previous' = some .failed ↔ previous = some .failed) :
    FitsLate scene previous' st := by
  cases st <;> simpa only [FitsLate, Fits, hnone, hdone, hfailed, ne_eq] using h

theorem Lifecycle.late (h : Lifecycle [] s) : Late s where
  scene_taken_up := h.scene_taken_up
  previous_lt := h.previous_lt
  fits := fun t ht => (h.fits t ht).late List.not_mem_nil

theorem Lifecycle.not_overdue (h : Lifecycle [] s) (ht : t ∈ s.tiles) : ¬ s.Overdue t := by
  rintro ⟨hnew, hscene, hprevious⟩
  have hfits := h.fits t ht
  rw [hnew, hscene] at hfits
  rcases hfits.2 with ⟨hd, -⟩ | ⟨-, h | h | h⟩
  · cases hd
  · cases h
  · cases h
  · exact hprevious.elim h.2.1 h.2.2

/-- If no tile is overdue the life cycle is kept. -/
theorem Late.lifecycle (h : Late s) (hnone : ∀ t ∈ s.tiles, ¬ s.Overdue t) : Lifecycle [] s where
  scene_taken_up := h.scene_taken_up
  previous_lt := h.previous_lt
  fits := fun t ht => (h.fits t ht).fits List.not_mem_nil (hnone t ht)
  doomed_exist := fun _ hid => nomatch hid
  doomed_distinct := .nil
  doomed_together := fun _ _ _ _ hid => nomatch hid

/-! ### Starting tiles -/

def start (s : Store) (p : Tile → Bool) : Store :=
  s.modifyTiles p fun t => { t with status := .pending }

theorem start_eq (s : Store) (p : Tile → Bool) :
    s.start p = s.mapTiles fun t => { t with status := if p t then .pending else t.status } := by
  rw [start, modifyTiles_eq_mapTiles]
  congr 1
  funext t
  split <;> rfl

theorem tile?_start (s : Store) (p : Tile → Bool) (id : Int) :
    (s.start p).tile? id =
      (s.tile? id).map fun t => { t with status := if p t then .pending else t.status } := by
  rw [start_eq]
  exact tile?_mapTiles (f := fun t => { t with status := if p t then .pending else t.status })
    (fun _ => rfl) s id

theorem tileStatus?_start (s : Store) (p : Tile → Bool) (id : Int) :
    (s.start p).tileStatus? id =
      (s.tile? id).map fun t => if p t then .pending else t.status := by
  rw [tileStatus?, tile?_start, Option.map_map]
  rfl

/-- Starting new tiles makes no tile done or failed, and none that was. -/
theorem tileStatus?_start_iff {p : Tile → Bool} (hp : ∀ t ∈ s.tiles, p t → t.status = .new)
    {st : Status} (hst : st = .done ∨ st = .failed) (id : Int) :
    (s.start p).tileStatus? id = some st ↔ s.tileStatus? id = some st := by
  rw [tileStatus?_start, tileStatus?]
  cases ht : s.tile? id with
  | none => rfl
  | some t =>
    simp only [Option.map_some, Option.some.injEq]
    split
    · next h =>
      rw [hp t (mem_of_tile? ht) h]
      rcases hst with rfl | rfl <;> simp
    · exact Iff.rfl

theorem previousStatus?_start_iff {p : Tile → Bool} (hp : ∀ t ∈ s.tiles, p t → t.status = .new)
    {st : Status} (hst : st = .done ∨ st = .failed) (t : Tile) :
    (s.start p).previousStatus? t = some st ↔ s.previousStatus? t = some st := by
  unfold previousStatus?
  cases t.previous with
  | none => rfl
  | some id => exact tileStatus?_start_iff hp hst id

theorem previousStatus?_start_none (s : Store) (p : Tile → Bool) (t : Tile) :
    (s.start p).previousStatus? t = none ↔ s.previousStatus? t = none := by
  unfold previousStatus?
  cases t.previous with
  | none => rfl
  | some id =>
    show (s.start p).tileStatus? id = none ↔ s.tileStatus? id = none
    rw [tileStatus?_start, tileStatus?, Option.map_eq_none_iff, Option.map_eq_none_iff]

/-- Starting the tiles that are overdue, and no others, restores the life cycle. -/
theorem Late.start {p : Tile → Bool} (h : Late s) (hp : ∀ t ∈ s.tiles, p t = true ↔ s.Overdue t) :
    Lifecycle [] (s.start p) := by
  have hnew : ∀ t ∈ s.tiles, p t → t.status = .new := fun t ht h => ((hp t ht).1 h).1
  have hmem : ∀ t ∈ (s.start p).tiles, ∃ u ∈ s.tiles,
      { u with status := if p u then .pending else u.status } = t := by
    intro t ht
    rw [start_eq] at ht
    exact mem_mapTiles.1 ht
  have hprevious (u : Tile) (st : Status) : (s.start p).previousStatus?
      { u with status := st } = (s.start p).previousStatus? u := rfl
  refine Late.lifecycle ⟨h.scene_taken_up, ?_, ?_⟩ ?_
  · intro t ht
    obtain ⟨u, hu, rfl⟩ := hmem t ht
    exact h.previous_lt u hu
  · intro t ht
    obtain ⟨u, hu, rfl⟩ := hmem t ht
    show FitsLate (s.sceneStatus? u.scene) ((s.start p).previousStatus? u) _
    have hlate : FitsLate (s.sceneStatus? u.scene) (s.previousStatus? u)
        (if p u then .pending else u.status) := by
      split
      · next hstart =>
        obtain ⟨-, hscene, hprevious⟩ := (hp u hu).1 hstart
        exact ⟨not_false, hscene, hprevious⟩
      · exact h.fits u hu
    exact hlate.congr_previous (previousStatus?_start_none s p u)
      (previousStatus?_start_iff hnew (.inl rfl) u) (previousStatus?_start_iff hnew (.inr rfl) u)
  · intro t ht
    obtain ⟨u, hu, rfl⟩ := hmem t ht
    rintro ⟨hstatus, hscene, hprev⟩
    cases hstart : p u with
    | true =>
      simp [hstart] at hstatus
    | false =>
      have hunew : u.status = .new := by simpa [hstart] using hstatus
      refine Bool.eq_false_iff.1 hstart ((hp u hu).2 ⟨hunew, hscene, ?_⟩)
      rw [hprevious, previousStatus?_start_none, previousStatus?_start_iff hnew (.inl rfl)] at hprev
      exact hprev

/-! ### One tile moves on -/

theorem tileStatus?_setTile (s : Store) (id : Int) (u : StatusUpdate) (k : Int) :
    (s.setTile id u).tileStatus? k =
      if k = id then (s.tileStatus? k).map fun _ => u.status else s.tileStatus? k := by
  rw [tileStatus?, setTile, modifyTiles_eq_mapTiles, tile?_mapTiles, tileStatus?]
  · cases ht : s.tile? k with
    | none => simp
    | some t =>
      have hid := tile?_id ht
      by_cases hk : k = id
      · simp [hk, hid ▸ hk, Tile.update]
      · have hne : ¬ t.id = id := hid ▸ hk
        simp [hk, hne]
  · intro t
    split <;> rfl

theorem sceneStatus?_setScene (s : Store) (id : Int) (u : StatusUpdate) (k : Int) :
    (s.setScene id u).sceneStatus? k =
      if k = id then (s.sceneStatus? k).map fun _ => u.status else s.sceneStatus? k := by
  rw [sceneStatus?, setScene, scene?_modifyScenes (f := (·.update u)) fun _ => rfl, sceneStatus?]
  cases hx : s.scene? k with
  | none => simp
  | some x =>
    have hid := scene?_id hx
    by_cases hk : k = id
    · simp [hk, hid ▸ hk, Scene.update]
    · have hne : ¬ x.id = id := hid ▸ hk
      simp [hk, hne]

theorem mem_setTile {id : Int} {u : StatusUpdate} {t : Tile} (h : t ∈ (s.setTile id u).tiles) :
    ∃ v ∈ s.tiles, (if v.id = id then v.update u else v) = t := by
  obtain ⟨v, hv, rfl⟩ := List.mem_map.1 h
  exact ⟨v, hv, by simp⟩

theorem previousStatus?_setTile (hclear : u.clearPrevious = false) (s : Store) (id : Int)
    (t : Tile) :
    (s.setTile id u).previousStatus? (t.update u) = (s.setTile id u).previousStatus? t := by
  rw [previousStatus?, previousStatus?, t.previous_update hclear]

theorem previousStatus?_setTile_of_ne {id : Int} (hp : t.previous ≠ some id) (s : Store) :
    (s.setTile id u).previousStatus? t = s.previousStatus? t := by
  rw [previousStatus?, previousStatus?]
  cases hprevious : t.previous with
  | none => rfl
  | some k =>
    have hne : k ≠ id := fun he => hp (he ▸ hprevious)
    show (s.setTile id u).tileStatus? k = s.tileStatus? k
    rw [tileStatus?_setTile, if_neg hne]

theorem previousStatus?_setTile_of_eq (hf : s.tile? f.id = some f) (hp : t.previous = some f.id) :
    (s.setTile f.id u).previousStatus? t = some u.status := by
  rw [previousStatus?, hp]
  show (s.setTile f.id u).tileStatus? f.id = some u.status
  rw [tileStatus?_setTile, if_pos rfl, tileStatus?_of_tile? hf]
  rfl

/-- When a tile that is worked on moves on, its followers may be overdue. -/
theorem Lifecycle.late_setTile (h : Lifecycle [] s) (hs : s.Ordered) (hf : s.tile? f.id = some f)
    (ha : f.status.isActive = true) (hnew : u.status ≠ .new) (hfailed : u.status ≠ .failed)
    (hclear : u.clearPrevious = false) : Late (s.setTile f.id u) where
  scene_taken_up := h.scene_taken_up
  previous_lt := by
    intro t ht
    obtain ⟨v, hv, rfl⟩ := mem_setTile ht
    split
    · intro id hid
      rw [v.previous_update hclear] at hid
      exact h.previous_lt v hv id hid
    · exact h.previous_lt v hv
  fits := by
    intro t ht
    obtain ⟨v, hv, rfl⟩ := mem_setTile ht
    have hmem := mem_of_tile? hf
    split
    · next hid =>
      obtain rfl := hs.eq_of_id hv hmem hid
      obtain ⟨hscene, hprevious⟩ := (h.fits v hv).scene_of_active ha
      rw [previousStatus?_setTile hclear, previousStatus?_setTile_of_ne (h.previous_ne_self hv)]
      have hfits : Fits False (s.sceneStatus? v.scene) (s.previousStatus? v) u.status := by
        revert hnew hfailed
        cases u.status with
        | new => exact fun hnew => absurd rfl hnew
        | failed => exact fun _ hfailed => absurd rfl hfailed
        | pending | done | retry => exact fun _ _ => ⟨not_false, hscene, hprevious⟩
      exact hfits.late not_false
    · have hlate := h.late.fits v hv
      by_cases hp : v.previous = some f.id
      · have hdone := Status.ne_done_of_isActive ha
        rw [previousStatus?_setTile_of_eq hf hp]
        rw [h.follower_new hf hdone hv hp] at hlate ⊢
        exact ⟨fun he => hfailed (Option.some.inj he), hlate.2⟩
      · rw [previousStatus?_setTile_of_ne hp]
        exact hlate

/-- Only followers of a tile that moves on can be overdue. -/
theorem Lifecycle.overdue_setTile (h : Lifecycle [] s) (hnew : u.status ≠ .new)
    (ht : t ∈ (s.setTile f.id u).tiles) (hover : (s.setTile f.id u).Overdue t) :
    t.previous = some f.id := by
  obtain ⟨v, hv, rfl⟩ := mem_setTile ht
  obtain ⟨hstatus, hscene, hprevious⟩ := hover
  split at hstatus
  · exact absurd hstatus hnew
  · next hid =>
    rw [if_neg hid] at hscene hprevious ⊢
    by_cases hp : v.previous = some f.id
    · exact hp
    · rw [previousStatus?_setTile_of_ne hp] at hprevious
      exact absurd ⟨hstatus, hscene, hprevious⟩ (h.not_overdue hv)

theorem Lifecycle.setTile (h : Lifecycle [] s) (hs : s.Ordered) (hf : s.tile? f.id = some f)
    (ha : f.status.isActive = true) (hu : u.status.isActive = true)
    (hclear : u.clearPrevious = false) : Lifecycle [] (s.setTile f.id u) := by
  have hstays : u.status ≠ .new ∧ u.status ≠ .failed ∧ u.status ≠ .done := by
    revert hu
    cases u.status <;> intro hu <;> simp_all [Status.isActive]
  apply (h.late_setTile hs hf ha hstays.1 hstays.2.1 hclear).lifecycle
  intro t ht hover
  have hp := h.overdue_setTile hstays.1 ht hover
  obtain ⟨-, -, hprevious⟩ := hover
  rw [previousStatus?_setTile_of_eq hf hp] at hprevious
  rcases hprevious with hnone | hdone
  · cases hnone
  · exact hstays.2.2 (Option.some.inj hdone)

/-- The new tiles of downloaded scenes that follow a tile. -/
def waitsFor (s : Store) (id : Int) (t : Tile) : Bool :=
  t.previous == some id && t.status == .new && s.sceneStatus? t.scene == some .done

theorem waitsFor_new {id : Int} (h : s.waitsFor id t = true) : t.status = .new := by
  simp only [waitsFor, Bool.and_eq_true, beq_iff_eq] at h
  exact h.1.2

theorem waitsFor_previous {id : Int} (h : s.waitsFor id t = true) : t.previous = some id := by
  simp only [waitsFor, Bool.and_eq_true, beq_iff_eq] at h
  exact h.1.1

/-- A tile that is worked on may be done, if its followers start that waited for it. -/
theorem Lifecycle.finishTile (h : Lifecycle [] s) (hs : s.Ordered) (hf : s.tile? f.id = some f)
    (ha : f.status.isActive = true) (hu : u.status = .done) (hclear : u.clearPrevious = false) :
    Lifecycle [] ((s.setTile f.id u).start ((s.setTile f.id u).waitsFor f.id)) := by
  have hnew : u.status ≠ .new := by simp [hu]
  apply (h.late_setTile hs hf ha hnew (by simp [hu]) hclear).start
  intro t ht
  simp only [waitsFor, Bool.and_eq_true, beq_iff_eq]
  constructor
  · rintro ⟨⟨hp, hstatus⟩, hscene⟩
    refine ⟨hstatus, hscene, .inr ?_⟩
    rw [previousStatus?_setTile_of_eq hf hp, hu]
  · intro hover
    exact ⟨⟨h.overdue_setTile hnew ht hover, hover.1⟩, hover.2.1⟩

/-! ### One scene moves on -/

/-- The tiles of a scene that is worked on are new. -/
theorem Lifecycle.new_of_scene (h : Lifecycle doomed s) (hx : s.scene? x.id = some x)
    (ha : x.status.isActive = true) (ht : t ∈ s.tiles) (hscene : t.scene = x.id) :
    t.status = .new := by
  have hfits := h.fits t ht
  rw [hscene, sceneStatus?_of_scene? hx] at hfits
  exact hfits.new_of_scene ha

theorem taken_up_setScene (htaken : ∀ y ∈ s.scenes, y.status ≠ .new) (hnew : u.status ≠ .new)
    (id : Int) : ∀ y ∈ (s.setScene id u).scenes, y.status ≠ .new := by
  intro y hy
  obtain ⟨z, hz, rfl⟩ := List.mem_map.1 hy
  split
  · exact hnew
  · exact htaken z hz

theorem sceneStatus?_setScene_of_ne {id k : Int} (hne : k ≠ id) (s : Store) :
    (s.setScene id u).sceneStatus? k = s.sceneStatus? k := by
  rw [sceneStatus?_setScene, if_neg hne]

theorem sceneStatus?_setScene_of_eq (hx : s.scene? x.id = some x) :
    (s.setScene x.id u).sceneStatus? x.id = some u.status := by
  rw [sceneStatus?_setScene, if_pos rfl, sceneStatus?_of_scene? hx]
  rfl

theorem Lifecycle.setScene (h : Lifecycle [] s) (hx : s.scene? x.id = some x)
    (ha : x.status.isActive = true) (hu : u.status.isActive = true) :
    Lifecycle [] (s.setScene x.id u) where
  scene_taken_up := by
    refine taken_up_setScene h.scene_taken_up ?_ x.id
    intro hnew
    rw [hnew] at hu
    cases hu
  previous_lt := h.previous_lt
  fits := by
    intro t ht
    have hfits := h.fits t ht
    by_cases hscene : t.scene = x.id
    · rw [hscene, sceneStatus?_setScene_of_eq hx, h.new_of_scene hx ha ht hscene]
      refine ⟨hfits.previous_ne_failed, .inr ⟨List.not_mem_nil, ?_⟩⟩
      revert hu
      cases u.status <;> simp [Status.isActive]
    · rw [sceneStatus?_setScene_of_ne hscene]
      exact hfits
  doomed_exist := fun _ hid => nomatch hid
  doomed_distinct := .nil
  doomed_together := fun _ _ _ _ hid => nomatch hid

/-- When a scene is done its tiles may be overdue. -/
theorem Lifecycle.late_setScene (h : Lifecycle [] s) (hx : s.scene? x.id = some x)
    (ha : x.status.isActive = true) (hu : u.status = .done) : Late (s.setScene x.id u) where
  scene_taken_up := by
    refine taken_up_setScene h.scene_taken_up ?_ x.id
    rw [hu]
    nofun
  previous_lt := h.previous_lt
  fits := by
    intro t ht
    by_cases hscene : t.scene = x.id
    · rw [hscene, sceneStatus?_setScene_of_eq hx, h.new_of_scene hx ha ht hscene, hu]
      exact ⟨(h.fits t ht).previous_ne_failed, .inr (.inr rfl)⟩
    · rw [sceneStatus?_setScene_of_ne hscene]
      exact h.late.fits t ht

/-- The new tiles of a scene that follow no tile. -/
def isHead (scene : Int) (t : Tile) : Bool :=
  t.scene == scene && t.status == .new && t.previous.isNone

def followsDone (s : Store) (scene : Int) (t : Tile) : Bool :=
  t.scene == scene && t.status == .new && s.previousStatus? t == some .done

theorem isHead_new {scene : Int} (h : isHead scene t = true) : t.status = .new := by
  simp only [isHead, Bool.and_eq_true, beq_iff_eq] at h
  exact h.1.2

theorem followsDone_new {scene : Int} (h : s.followsDone scene t = true) : t.status = .new := by
  simp only [followsDone, Bool.and_eq_true, beq_iff_eq] at h
  exact h.1.2

theorem start_start {p q r : Tile → Bool}
    (h : ∀ t ∈ s.tiles, q { t with status := if p t then .pending else t.status } = (!p t && r t)) :
    (s.start p).start q = s.start fun t => p t || r t := by
  rw [start_eq, start_eq, start_eq, mapTiles_mapTiles]
  unfold mapTiles
  congr 1
  apply List.map_congr_left
  intro t ht
  simp only [h t ht]
  cases p t <;> simp

def startScene (s : Store) (scene : Int) : Store :=
  (s.start (isHead scene)).start ((s.start (isHead scene)).followsDone scene)

theorem startScene_eq (s : Store) (scene : Int) :
    s.startScene scene = s.start fun t => isHead scene t || s.followsDone scene t := by
  have hnew : ∀ t ∈ s.tiles, isHead scene t → t.status = .new := fun _ _ => isHead_new
  apply start_start
  intro t ht
  have hdone : ((s.start (isHead scene)).previousStatus? t == some .done) =
      (s.previousStatus? t == some .done) := by
    rw [Bool.eq_iff_iff, beq_iff_eq, beq_iff_eq]
    exact previousStatus?_start_iff hnew (.inl rfl) t
  cases hhead : isHead scene t with
  | true => simp [followsDone]
  | false =>
    show (t.scene == scene && t.status == .new &&
      (s.start (isHead scene)).previousStatus? t == some .done) = _
    rw [hdone]
    rfl

/-- A scene may be done, if those of its tiles start that follow no tile or one that is done. -/
theorem Lifecycle.finishScene (h : Lifecycle [] s) (hs : s.Schema) (hx : s.scene? x.id = some x)
    (ha : x.status.isActive = true) (hu : u.status = .done) :
    Lifecycle [] ((s.setScene x.id u).startScene x.id) := by
  rw [startScene_eq]
  apply (h.late_setScene hx ha hu).start
  intro t ht
  have hnone := previousStatus?_eq_none hs (t := t) ht
  simp only [isHead, followsDone, Bool.or_eq_true, Bool.and_eq_true, beq_iff_eq,
    Option.isNone_iff_eq_none]
  constructor
  · intro hstart
    have hscene : t.scene = x.id := hstart.elim (fun h => h.1.1) fun h => h.1.1
    refine ⟨hstart.elim (fun h => h.1.2) fun h => h.1.2, ?_, ?_⟩
    · rw [hscene, sceneStatus?_setScene_of_eq hx, hu]
    · exact hstart.imp (fun h => hnone.2 h.2) fun h => h.2
  · rintro ⟨hstatus, hdone, hprevious⟩
    have hscene : t.scene = x.id := by
      by_cases hscene : t.scene = x.id
      · exact hscene
      · rw [sceneStatus?_setScene_of_ne hscene] at hdone
        exact absurd ⟨hstatus, hdone, hprevious⟩ (h.not_overdue ht)
    exact hprevious.imp (fun h => ⟨⟨hscene, hstatus⟩, hnone.1 h⟩) fun h => ⟨⟨hscene, hstatus⟩, h⟩

/-- A scene may fail. Then all its tiles are doomed. -/
theorem Lifecycle.doom (h : Lifecycle [] s) (hs : s.Schema) (hx : s.scene? x.id = some x)
    (ha : x.status.isActive = true) (hu : u.status = .failed) :
    Lifecycle ((s.tiles.filter fun t => t.scene == x.id).map (·.id)) (s.setScene x.id u) := by
  have hmem : ∀ t ∈ s.tiles,
      (t.id ∈ (s.tiles.filter fun t => t.scene == x.id).map (·.id) ↔ t.scene = x.id) := by
    intro t ht
    constructor
    · intro hid
      obtain ⟨v, hv, he⟩ := List.mem_map.1 hid
      obtain ⟨hv, hscene⟩ := List.mem_filter.1 hv
      rw [← hs.eq_of_id hv ht he]
      exact eq_of_beq hscene
    · intro hscene
      exact List.mem_map_of_mem (List.mem_filter.2 ⟨ht, beq_iff_eq.2 hscene⟩)
  constructor
  · refine taken_up_setScene h.scene_taken_up ?_ x.id
    rw [hu]
    nofun
  · exact h.previous_lt
  · intro t ht
    have hfits := h.fits t ht
    rw [hmem t ht]
    by_cases hscene : t.scene = x.id
    · rw [hscene, sceneStatus?_setScene_of_eq hx, h.new_of_scene hx ha ht hscene, hu]
      exact ⟨hfits.previous_ne_failed, .inl ⟨rfl, rfl⟩⟩
    · rw [sceneStatus?_setScene_of_ne hscene]
      exact (hfits.late List.not_mem_nil).fits hscene (h.not_overdue ht)
  · intro id hid
    obtain ⟨t, ht, rfl⟩ := List.mem_map.1 hid
    show (s.tile? t.id).isSome
    rw [hs.tile?_of_mem (List.mem_filter.1 ht).1]
    rfl
  · refine List.pairwise_map.2 ((hs.tiles_ascend.filter _).imp ?_)
    exact fun hlt => Int.ne_of_lt hlt
  · intro t ht v hv ht' hv'
    rw [(hmem t ht).1 ht', (hmem v hv).1 hv']

end Store
end SceneWorkflow
