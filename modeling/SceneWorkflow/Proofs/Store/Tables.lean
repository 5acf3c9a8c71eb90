import SceneWorkflow.Store.Write

/-!
# Rows by their ids

Looking rows up in tables whose ids ascend, what becomes of the lookups when all
tiles are rewritten at once, and stores that hold the same rows.
-/
namespace SceneWorkflow.Store
variable {s s' : Store} {id : Int} {t : Tile} {x : Scene}

def tileStatus? (s : Store) (id : Int) : Option Status := (s.tile? id).map (·.status)

def sceneStatus? (s : Store) (id : Int) : Option Status := (s.scene? id).map (·.status)

structure Ordered (s : Store) : Prop where
  scenes_ascend : s.scenes.Pairwise fun x y => x.id < y.id
  tiles_ascend : s.tiles.Pairwise fun t u => t.id < u.id
  scene_le : ∀ x ∈ s.scenes, x.id ≤ s.lastScene
  tile_le : ∀ t ∈ s.tiles, t.id ≤ s.lastTile

theorem tile?_id (h : s.tile? id = some t) : t.id = id := by
  simpa using List.find?_some h

theorem scene?_id (h : s.scene? id = some x) : x.id = id := by
  simpa using List.find?_some h

theorem mem_of_tile? (h : s.tile? id = some t) : t ∈ s.tiles := List.mem_of_find?_eq_some h

theorem mem_of_scene? (h : s.scene? id = some x) : x ∈ s.scenes := List.mem_of_find?_eq_some h

/-- In a list with ascending keys the first element of a key is the only one. -/
theorem find?_of_ascending {α : Type} {key : α → Int} {xs : List α}
    (h : xs.Pairwise fun a b => key a < key b) {a : α} (ha : a ∈ xs) :
    xs.find? (fun b => key b == key a) = some a := by
  induction xs with
  | nil => cases ha
  | cons b xs ih =>
    obtain ⟨hb, hxs⟩ := List.pairwise_cons.1 h
    rcases List.mem_cons.1 ha with rfl | hmem
    · simp
    · have hlt := hb a hmem
      have hne : (key b == key a) = false := by simpa using Int.ne_of_lt hlt
      rw [List.find?_cons, hne]
      exact ih hxs hmem

/-- Lists with the same keys in the same order can be compared key by key. -/
theorem map_eq_map_of_keys {α β : Type} {key : α → Int} {f g : α → β} {xs ys : List α}
    (hkeys : ys.map key = xs.map key) (h : ∀ x ∈ xs, ∀ y ∈ ys, key y = key x → f y = g x) :
    ys.map f = xs.map g := by
  induction xs generalizing ys with
  | nil =>
    obtain rfl := List.map_eq_nil_iff.1 hkeys
    rfl
  | cons x xs ih =>
    obtain ⟨y, ys, rfl, hkey, hkeys⟩ := List.map_eq_cons_iff.1 hkeys
    rw [List.map_cons, List.map_cons, h x List.mem_cons_self y List.mem_cons_self hkey]
    refine congrArg _ (ih hkeys fun x' hx y' hy => ?_)
    exact h x' (List.mem_cons_of_mem _ hx) y' (List.mem_cons_of_mem _ hy)

theorem Ordered.tile?_of_mem (h : s.Ordered) (ht : t ∈ s.tiles) : s.tile? t.id = some t :=
  find?_of_ascending h.tiles_ascend ht

theorem Ordered.scene?_of_mem (h : s.Ordered) (hx : x ∈ s.scenes) : s.scene? x.id = some x :=
  find?_of_ascending h.scenes_ascend hx

theorem Ordered.tile?_eq_none (h : s.Ordered) (hid : s.lastTile < id) : s.tile? id = none := by
  refine Option.eq_none_iff_forall_ne_some.2 fun t ht => ?_
  have hle := h.tile_le t (mem_of_tile? ht)
  have hsame := tile?_id ht
  omega

theorem Ordered.scene?_eq_none (h : s.Ordered) (hid : s.lastScene < id) : s.scene? id = none := by
  refine Option.eq_none_iff_forall_ne_some.2 fun x hx => ?_
  have hle := h.scene_le x (mem_of_scene? hx)
  have hsame := scene?_id hx
  omega

theorem Ordered.eq_of_id (h : s.Ordered) {t u : Tile} (ht : t ∈ s.tiles) (hu : u ∈ s.tiles)
    (he : t.id = u.id) : t = u := by
  have h₁ := h.tile?_of_mem ht
  rw [he, h.tile?_of_mem hu] at h₁
  exact (Option.some.inj h₁).symm

theorem tileStatus?_of_tile? (h : s.tile? id = some t) : s.tileStatus? id = some t.status := by
  rw [tileStatus?, h]
  rfl

theorem sceneStatus?_of_scene? (h : s.scene? id = some x) :
    s.sceneStatus? id = some x.status := by
  rw [sceneStatus?, h]
  rfl

theorem tileStatus?_eq_some {st : Status} :
    s.tileStatus? id = some st ↔ ∃ t, s.tile? id = some t ∧ t.status = st := by
  simp [tileStatus?]

theorem hasLinked_some : s.hasLinked (some id) = (s.tile? id).isSome := rfl

theorem hasLinked_none : s.hasLinked none = true := rfl

/-! ### Rewriting all tiles -/

def mapTiles (s : Store) (f : Tile → Tile) : Store := { s with tiles := s.tiles.map f }

theorem modifyTiles_eq_mapTiles (s : Store) (p : Tile → Bool) (f : Tile → Tile) :
    s.modifyTiles p f = s.mapTiles fun t => if p t then f t else t := rfl

theorem mapTiles_mapTiles (s : Store) (f g : Tile → Tile) :
    (s.mapTiles f).mapTiles g = s.mapTiles fun t => g (f t) := by
  simp [mapTiles]

@[simp] theorem scene?_mapTiles (s : Store) (f : Tile → Tile) (id : Int) :
    (s.mapTiles f).scene? id = s.scene? id := rfl

theorem mem_mapTiles {f : Tile → Tile} :
    t ∈ (s.mapTiles f).tiles ↔ ∃ u ∈ s.tiles, f u = t := List.mem_map

/-- Rewriting that keeps ids can be done after the lookup. -/
theorem tile?_mapTiles {f : Tile → Tile} (hf : ∀ t, (f t).id = t.id) (s : Store) (id : Int) :
    (s.mapTiles f).tile? id = (s.tile? id).map f := by
  simp only [tile?, mapTiles, List.find?_map]
  congr 2
  funext t
  simp [hf]

theorem Ordered.mapTiles {f : Tile → Tile} (h : s.Ordered) (hf : ∀ t, (f t).id = t.id) :
    (s.mapTiles f).Ordered where
  scenes_ascend := h.scenes_ascend
  tiles_ascend := by
    refine List.pairwise_map.2 (h.tiles_ascend.imp ?_)
    intro t u hlt
    rwa [hf, hf]
  scene_le := h.scene_le
  tile_le := by
    intro t ht
    obtain ⟨u, hu, rfl⟩ := mem_mapTiles.1 ht
    rw [hf]
    exact h.tile_le u hu

/-! ### Rewriting one scene -/

theorem scene?_modifyScenes {p : Scene → Bool} {f : Scene → Scene} (hf : ∀ x, (f x).id = x.id)
    (s : Store) (id : Int) :
    (s.modifyScenes p f).scene? id = (s.scene? id).map fun x => if p x then f x else x := by
  simp only [scene?, modifyScenes, List.find?_map]
  congr 2
  funext x
  by_cases hp : p x <;> simp [hp, hf]

theorem Ordered.modifyScenes {p : Scene → Bool} {f : Scene → Scene} (h : s.Ordered)
    (hf : ∀ x, (f x).id = x.id) : (s.modifyScenes p f).Ordered where
  scenes_ascend := by
    refine List.pairwise_map.2 (h.scenes_ascend.imp ?_)
    intro x y hlt
    have hid (z : Scene) : (if p z then f z else z).id = z.id := by
      by_cases hp : p z <;> simp [hp, hf]
    rwa [hid, hid]
  tiles_ascend := h.tiles_ascend
  scene_le := by
    intro x hx
    obtain ⟨y, hy, rfl⟩ := List.mem_map.1 hx
    by_cases hp : p y <;> simp [hp, hf, h.scene_le y hy, Store.modifyScenes]
  tile_le := h.tile_le

/-! ### New rows -/

def addTile (s : Store) (t : Tile) : Store := { s with tiles := s.tiles ++ [t], lastTile := t.id }

def addScene (s : Store) (x : Scene) : Store :=
  { s with scenes := s.scenes ++ [x], lastScene := x.id }

theorem tile?_addTile (s : Store) (t : Tile) (id : Int) :
    (s.addTile t).tile? id = (s.tile? id).or (if t.id = id then some t else none) := by
  simp only [tile?, addTile, List.find?_append, List.find?_singleton, beq_iff_eq]

theorem scene?_addScene (s : Store) (x : Scene) (id : Int) :
    (s.addScene x).scene? id = (s.scene? id).or (if x.id = id then some x else none) := by
  simp only [scene?, addScene, List.find?_append, List.find?_singleton, beq_iff_eq]

theorem tile?_addTile_of_some (h : s.tile? id = some t) (u : Tile) :
    (s.addTile u).tile? id = some t := by
  rw [tile?_addTile, h]
  rfl

theorem scene?_addScene_of_some (h : s.scene? id = some x) (y : Scene) :
    (s.addScene y).scene? id = some x := by
  rw [scene?_addScene, h]
  rfl

/-! ### One row moves on -/

def setTile (s : Store) (id : Int) (u : StatusUpdate) : Store :=
  s.modifyTiles (·.id == id) (·.update u)

def setScene (s : Store) (id : Int) (u : StatusUpdate) : Store :=
  s.modifyScenes (·.id == id) (·.update u)

theorem tile?_setTile {f : Tile} (hf : s.tile? f.id = some f) (u : StatusUpdate) :
    (s.setTile f.id u).tile? f.id = some (f.update u) := by
  rw [setTile, modifyTiles_eq_mapTiles, tile?_mapTiles, hf]
  · simp
  · intro t
    split <;> rfl

theorem scene?_setScene (hx : s.scene? x.id = some x) (u : StatusUpdate) :
    (s.setScene x.id u).scene? x.id = some (x.update u) := by
  rw [setScene, scene?_modifyScenes (f := (·.update u)) fun _ => rfl, hx]
  simp

/-! ### The same rows -/

structure SameRows (s s' : Store) : Prop where
  aois : ∀ a, s.aois.contains a → s'.aois.contains a
  scenes : s'.scenes = s.scenes
  tiles : s'.tiles = s.tiles
  lastScene : s'.lastScene = s.lastScene
  lastTile : s'.lastTile = s.lastTile

namespace SameRows
variable {s₁ s₂ s₃ : Store}

theorem refl (s : Store) : SameRows s s := ⟨fun _ h => h, rfl, rfl, rfl, rfl⟩

theorem trans (h₁ : SameRows s₁ s₂) (h₂ : SameRows s₂ s₃) : SameRows s₁ s₃ where
  aois := fun a ha => h₂.aois a (h₁.aois a ha)
  scenes := h₂.scenes.trans h₁.scenes
  tiles := h₂.tiles.trans h₁.tiles
  lastScene := h₂.lastScene.trans h₁.lastScene
  lastTile := h₂.lastTile.trans h₁.lastTile

variable (h : SameRows s s')
include h

theorem scene? (id : Int) : s'.scene? id = s.scene? id := by
  rw [Store.scene?, h.scenes, Store.scene?]

theorem tile? (id : Int) : s'.tile? id = s.tile? id := by
  rw [Store.tile?, h.tiles, Store.tile?]

theorem sceneStatus? (id : Int) : s'.sceneStatus? id = s.sceneStatus? id := by
  rw [Store.sceneStatus?, h.scene?, Store.sceneStatus?]

theorem tileStatus? (id : Int) : s'.tileStatus? id = s.tileStatus? id := by
  rw [Store.tileStatus?, h.tile?, Store.tileStatus?]

theorem hasLinked (link : Option Int) : s'.hasLinked link = s.hasLinked link := by
  cases link with
  | none => rfl
  | some id => rw [hasLinked_some, h.tile?, hasLinked_some]

theorem ordered (ho : s.Ordered) : s'.Ordered := by
  constructor
  · rw [h.scenes]; exact ho.scenes_ascend
  · rw [h.tiles]; exact ho.tiles_ascend
  · rw [h.scenes, h.lastScene]; exact ho.scene_le
  · rw [h.tiles, h.lastTile]; exact ho.tile_le

end SameRows

theorem sameRows_enqueueJob (s : Store) (topic : Topic) (payload : String) :
    SameRows s (s.enqueueJob topic payload) := ⟨fun _ h => h, rfl, rfl, rfl, rfl⟩

theorem sameRows_ackJobs (s : Store) (ids : List Int) : SameRows s (s.ackJobs ids) :=
  ⟨fun _ h => h, rfl, rfl, rfl, rfl⟩

theorem sameRows_insert (s : Store) (aoi : String) (status : Status) :
    SameRows s { s with aois := s.aois.insert aoi status } := by
  refine ⟨?_, rfl, rfl, rfl, rfl⟩
  intro a ha
  rw [KeyMap.contains_insert, ha, Bool.or_true]

theorem sameRows_refreshAoiStatus (s : Store) (aoi : String) :
    SameRows s (s.refreshAoiStatus aoi).2 := by
  unfold refreshAoiStatus
  dsimp only
  split
  · exact sameRows_insert s aoi _
  · exact .refl s

theorem outbox_refreshAoiStatus (s : Store) (aoi : String) :
    (s.refreshAoiStatus aoi).2.outbox = s.outbox := by
  unfold refreshAoiStatus
  dsimp only
  split <;> rfl

theorem sameRows_createAoi {name : String} (h : s.createAoi name = .ok s') : SameRows s s' := by
  unfold createAoi at h
  split at h
  · cases h
  · cases h
    exact sameRows_insert s name .new

end SceneWorkflow.Store
