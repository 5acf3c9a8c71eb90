import SceneWorkflow.Proofs.Store.Changes
import SceneWorkflow.Proofs.Work.Laws

/-!
# The schema of the store

Every row that another row names exists. Each call that a unit of work may make
keeps this and the order of the ids, whatever its arguments are, and so does
every body of a unit of work.
-/
namespace SceneWorkflow
namespace Store
variable {s s' : Store} {id : Int} {t : Tile} {x : Scene}

/-- Areas, scenes and tiles that are named exist. -/
structure Linked (s : Store) : Prop where
  aoi_exists : ∀ x ∈ s.scenes, s.aois.contains x.aoi
  scene_exists : ∀ t ∈ s.tiles, (s.scene? t.scene).isSome
  previous_exists : ∀ t ∈ s.tiles, s.hasLinked t.previous
  reference_exists : ∀ t ∈ s.tiles, s.hasLinked t.reference

structure Schema (s : Store) : Prop extends Ordered s, Linked s

/-- Links stay good while tiles keep existing. -/
theorem hasLinked_of_imp {link : Option Int}
    (h : ∀ id, (s.tile? id).isSome → (s'.tile? id).isSome) (hl : s.hasLinked link) :
    s'.hasLinked link := by
  cases link with
  | none => rfl
  | some id => exact h id hl

theorem hasLinked_mapTiles {f : Tile → Tile} (hf : ∀ t, (f t).id = t.id) (s : Store)
    (link : Option Int) : (s.mapTiles f).hasLinked link = s.hasLinked link := by
  cases link with
  | none => rfl
  | some id => simp [hasLinked_some, tile?_mapTiles hf]

theorem Schema.mapTiles {f : Tile → Tile} (h : s.Schema) (hid : ∀ t, (f t).id = t.id)
    (hscene : ∀ t, (f t).scene = t.scene)
    (hlinks : ∀ t ∈ s.tiles, s.hasLinked (f t).previous ∧ s.hasLinked (f t).reference) :
    (s.mapTiles f).Schema where
  toOrdered := h.toOrdered.mapTiles hid
  aoi_exists := h.aoi_exists
  scene_exists := by
    intro t ht
    obtain ⟨u, hu, rfl⟩ := mem_mapTiles.1 ht
    rw [hscene]
    exact h.scene_exists u hu
  previous_exists := by
    intro t ht
    obtain ⟨u, hu, rfl⟩ := mem_mapTiles.1 ht
    rw [hasLinked_mapTiles hid]
    exact (hlinks u hu).1
  reference_exists := by
    intro t ht
    obtain ⟨u, hu, rfl⟩ := mem_mapTiles.1 ht
    rw [hasLinked_mapTiles hid]
    exact (hlinks u hu).2

theorem Schema.modifyTiles {p : Tile → Bool} {f : Tile → Tile} (h : s.Schema)
    (hf : ∀ t, (f t).id = t.id ∧ (f t).scene = t.scene)
    (hlinks : ∀ t ∈ s.tiles, p t → s.hasLinked (f t).previous ∧ s.hasLinked (f t).reference) :
    (s.modifyTiles p f).Schema := by
  rw [modifyTiles_eq_mapTiles]
  refine h.mapTiles ?_ ?_ ?_
  · intro t
    split
    · exact (hf t).1
    · rfl
  · intro t
    split
    · exact (hf t).2
    · rfl
  · intro t ht
    split
    · next hp => exact hlinks t ht hp
    · exact ⟨h.previous_exists t ht, h.reference_exists t ht⟩

theorem Schema.modifyScenes {p : Scene → Bool} {f : Scene → Scene} (h : s.Schema)
    (hid : ∀ x, (f x).id = x.id) (haoi : ∀ x, (f x).aoi = x.aoi) :
    (s.modifyScenes p f).Schema where
  toOrdered := h.toOrdered.modifyScenes hid
  aoi_exists := by
    intro x hx
    obtain ⟨y, hy, rfl⟩ := List.mem_map.1 hx
    have hsame : (if p y then f y else y).aoi = y.aoi := by
      split
      · exact haoi y
      · rfl
    rw [hsame]
    exact h.aoi_exists y hy
  scene_exists := by
    intro t ht
    rw [scene?_modifyScenes hid]
    simpa using h.scene_exists t ht
  previous_exists := h.previous_exists
  reference_exists := h.reference_exists

theorem Schema.of_sameRows (h : s.Schema) (hsame : SameRows s s') : s'.Schema := by
  constructor
  · exact hsame.ordered h.toOrdered
  · constructor
    · intro x hx
      exact hsame.aois x.aoi (h.aoi_exists x (hsame.scenes ▸ hx))
    · intro t ht
      rw [hsame.scene?]
      exact h.scene_exists t (hsame.tiles ▸ ht)
    · intro t ht
      rw [hsame.hasLinked]
      exact h.previous_exists t (hsame.tiles ▸ ht)
    · intro t ht
      rw [hsame.hasLinked]
      exact h.reference_exists t (hsame.tiles ▸ ht)

/-! ### Preservation by each kind of call -/

theorem schema_empty : Schema {} := by
  constructor
  · constructor <;> simp
  · constructor <;> simp

theorem Schema.createScene {d : SceneDraft} (h : s.Schema)
    (hok : s.createScene d = .ok (id, s')) : s'.Schema := by
  obtain ⟨-, haoi, hid, rfl⟩ := createScene_eq_ok hok
  have hlt : ∀ x ∈ s.scenes, x.id < id := by
    intro x hx
    have := h.scene_le x hx
    omega
  constructor
  · constructor
    · refine List.pairwise_append.2 ⟨h.scenes_ascend, List.pairwise_singleton _ _, ?_⟩
      intro x hx y hy
      rw [List.mem_singleton.1 hy]
      exact hlt x hx
    · exact h.tiles_ascend
    · intro x hx
      rcases List.mem_append.1 hx with hx | hx
      · exact Int.le_of_lt (hlt x hx)
      · rw [List.mem_singleton.1 hx]
        exact Int.le_refl _
    · exact h.tile_le
  · constructor
    · intro x hx
      rcases List.mem_append.1 hx with hx | hx
      · exact h.aoi_exists x hx
      · rw [List.mem_singleton.1 hx]
        exact haoi
    · intro t ht
      obtain ⟨x, hx⟩ := Option.isSome_iff_exists.1 (h.scene_exists t ht)
      rw [scene?_addScene_of_some hx]
      rfl
    · exact h.previous_exists
    · exact h.reference_exists

theorem Schema.hasLinked_of_resolve {aoi field : String} {link : Option TileLink}
    {found : Option Int} (h : s.Schema) (hok : s.resolve aoi field link = .ok found) :
    s.hasLinked found := by
  obtain ⟨-, rfl⟩ | ⟨l, t, -, ht, -, rfl⟩ := resolve_eq_ok hok
  · rfl
  · rw [hasLinked_some, h.tile?_of_mem (mem_of_linked? ht).1]
    rfl

theorem Schema.insertTile {d : TileDraft} {previous reference : Option Int} (h : s.Schema)
    (hp : s.hasLinked previous) (hr : s.hasLinked reference)
    (hok : s.insertTile d previous reference = .ok (id, s')) : s'.Schema := by
  obtain ⟨-, hscene, hid, rfl⟩ := insertTile_eq_ok hok
  have hlt : ∀ t ∈ s.tiles, t.id < id := by
    intro t ht
    have := h.tile_le t ht
    omega
  have hgrow (l : Option Int) (hl : s.hasLinked l) :
      (s.addTile (d.row id previous reference)).hasLinked l := by
    refine hasLinked_of_imp ?_ hl
    intro id' hid'
    obtain ⟨t, ht⟩ := Option.isSome_iff_exists.1 hid'
    rw [tile?_addTile_of_some ht]
    rfl
  constructor
  · constructor
    · exact h.scenes_ascend
    · refine List.pairwise_append.2 ⟨h.tiles_ascend, List.pairwise_singleton _ _, ?_⟩
      intro t ht u hu
      rw [List.mem_singleton.1 hu]
      exact hlt t ht
    · exact h.scene_le
    · intro t ht
      rcases List.mem_append.1 ht with ht | ht
      · exact Int.le_of_lt (hlt t ht)
      · rw [List.mem_singleton.1 ht]
        exact Int.le_refl _
  · constructor
    · exact h.aoi_exists
    · intro t ht
      rcases List.mem_append.1 ht with ht | ht
      · exact h.scene_exists t ht
      · rw [List.mem_singleton.1 ht]
        exact hscene
    · intro t ht
      rcases List.mem_append.1 ht with ht | ht
      · exact hgrow _ (h.previous_exists t ht)
      · rw [List.mem_singleton.1 ht]
        exact hgrow _ hp
    · intro t ht
      rcases List.mem_append.1 ht with ht | ht
      · exact hgrow _ (h.reference_exists t ht)
      · rw [List.mem_singleton.1 ht]
        exact hgrow _ hr

theorem Schema.createTile {d : TileDraft} (h : s.Schema)
    (hok : s.createTile d = .ok (id, s')) : s'.Schema := by
  obtain ⟨previous, reference, hp, hr, hinsert⟩ := createTile_eq_ok hok
  exact h.insertTile (h.hasLinked_of_resolve hp) (h.hasLinked_of_resolve hr) hinsert

theorem Schema.updateTile {u : StatusUpdate} (h : s.Schema) (hok : s.updateTile id u = .ok s') :
    s'.Schema := by
  obtain ⟨-, rfl⟩ := updateTile_eq_ok.1 hok
  refine h.modifyTiles (fun t => ⟨rfl, rfl⟩) ?_
  intro t ht _
  refine ⟨?_, h.reference_exists t ht⟩
  unfold Tile.update
  dsimp only
  split
  · rfl
  · exact h.previous_exists t ht

/-- Changing nothing but statuses is always possible. -/
theorem Schema.setStatus {p : Tile → Bool} {st : Status} (h : s.Schema) :
    (s.modifyTiles p fun t => { t with status := st }).Schema :=
  h.modifyTiles (fun _ => ⟨rfl, rfl⟩) fun t ht _ =>
    ⟨h.previous_exists t ht, h.reference_exists t ht⟩

theorem Schema.release {operation : String} {p : Tile → Bool} {ts : List Tile} (h : s.Schema)
    (hok : s.release operation p = .ok (ts, s')) : s'.Schema := by
  obtain ⟨-, -, rfl⟩ := release_eq_ok.1 hok
  exact h.setStatus

theorem Schema.reparentNextTiles {old : Int} {new : Option Int} {ids : List Int} (h : s.Schema)
    (hok : s.reparentNextTiles old new = .ok (ids, s')) : s'.Schema := by
  obtain ⟨hnew, -, rfl⟩ := reparentNextTiles_eq_ok.1 hok
  refine h.modifyTiles (fun t => ⟨rfl, rfl⟩) ?_
  intro t ht hp
  refine ⟨?_, h.reference_exists t ht⟩
  rcases hnew with hnone | hnew
  · have hmem : t.id ∈ s.followers old := List.mem_map_of_mem (List.mem_filter.2 ⟨ht, hp⟩)
    rw [hnone] at hmem
    cases hmem
  · exact hnew

theorem Schema.reassignReference {old new : Int} (h : s.Schema)
    (hok : s.reassignReference old new = .ok s') : s'.Schema := by
  by_cases hne : old = new
  · subst hne
    rw [reassignReference_self] at hok
    cases hok
    exact h
  · obtain ⟨hnew, rfl⟩ := (reassignReference_eq_ok hne).1 hok
    refine h.mapTiles (fun _ => rfl) (fun _ => rfl) ?_
    intro t ht
    have hp := h.previous_exists t ht
    have hr := h.reference_exists t ht
    by_cases href : t.reference = some old
    · by_cases hid : t.id = new
      · simp [handOverRow, href, hid, hp, hasLinked_none]
      · simp [handOverRow, href, hid, hp, hasLinked_some, hnew t ht href hid]
    · simp [handOverRow, href, hp, hr]

end Store

open Store

theorem Call.schema_of_perform {c : Call} {s s' : Store} {a : c.Answer} (h : s.Schema)
    (hok : c.perform s = .ok (a, s')) : s'.Schema := by
  cases c with
  | createScene draft => exact h.createScene hok
  | createTile draft => exact h.createTile hok
  | unblockNextTiles previous => exact h.release hok
  | unblockSceneTiles scene => exact h.release hok
  | unblockSceneRootTiles scene => exact h.release hok
  | reparentNextTiles old new => exact h.reparentNextTiles hok
  | updateScene id update =>
    obtain ⟨_, hok, heq⟩ := map_eq_ok.1 hok
    obtain ⟨-, rfl⟩ := updateScene_eq_ok.1 hok
    cases heq
    exact h.modifyScenes (fun _ => rfl) fun _ => rfl
  | updateSceneAttrs id attrs =>
    obtain ⟨_, hok, heq⟩ := map_eq_ok.1 hok
    obtain ⟨-, rfl⟩ := replaceSceneAttrs_eq_ok.1 hok
    cases heq
    exact h.modifyScenes (fun _ => rfl) fun _ => rfl
  | updateTile id update =>
    obtain ⟨_, hok, heq⟩ := map_eq_ok.1 hok
    cases heq
    exact h.updateTile hok
  | updateTileAttrs id attrs =>
    obtain ⟨_, hok, heq⟩ := map_eq_ok.1 hok
    obtain ⟨-, rfl⟩ := replaceTileAttrs_eq_ok.1 hok
    cases heq
    exact h.modifyTiles (fun _ => ⟨rfl, rfl⟩) fun t ht _ =>
      ⟨h.previous_exists t ht, h.reference_exists t ht⟩
  | reassignReference old new =>
    obtain ⟨_, hok, heq⟩ := map_eq_ok.1 hok
    cases heq
    exact h.reassignReference hok
  | setTilesStatus ids status =>
    cases hok
    exact h.setStatus
  | refreshAoiStatus aoi =>
    cases hok
    exact h.of_sameRows (sameRows_refreshAoiStatus s aoi)
  | enqueueJob topic payload =>
    cases hok
    exact h.of_sameRows (sameRows_enqueueJob s topic payload)
  | sceneId aoi sourceId =>
    cases hok
    exact h
  | aoi name | scene id | tile id | sceneTiles scene | referencingTiles reference =>
    obtain ⟨_, _, heq⟩ := map_eq_ok.1 hok
    cases heq
    exact h

theorem Work.schema_of_exec {α : Type} {w : Work α} {s s' : Store} {a : α} (h : s.Schema)
    (hok : w.exec s = .ok (a, s')) : s'.Schema := by
  refine exec_relates (R := fun s s' => s.Schema → s'.Schema) (P := fun _ => True)
    (fun _ h => h) (fun h₁ h₂ h => h₂ (h₁ h)) ?_ ?_ hok h
  · intro c s a s' _ hc hs
    exact Call.schema_of_perform hs hc
  · exact Program.uses_true w

end SceneWorkflow
