import SceneWorkflow.Proofs.Store.Schema

/-!
# Carrying out calls

In a store whose rows can all be read, every reading call succeeds, and so does
every writing call on rows that exist.
-/
namespace SceneWorkflow
namespace Store
variable {s s' : Store} {id : Int} {t : Tile} {x : Scene}

structure Legible (s : Store) : Prop where
  scene_legible : ∀ x ∈ s.scenes, leastBudget ≤ x.budget
  tile_legible : ∀ t ∈ s.tiles, leastBudget ≤ t.budget

theorem Legible.of_sameRows (h : s.Legible) (hsame : SameRows s s') : s'.Legible where
  scene_legible := by
    rw [hsame.scenes]
    exact h.scene_legible
  tile_legible := by
    rw [hsame.tiles]
    exact h.tile_legible

theorem Legible.mapTiles {f : Tile → Tile} (h : s.Legible)
    (hf : ∀ t ∈ s.tiles, leastBudget ≤ (f t).budget) : (s.mapTiles f).Legible where
  scene_legible := h.scene_legible
  tile_legible := by
    intro t ht
    obtain ⟨u, hu, rfl⟩ := mem_mapTiles.1 ht
    exact hf u hu

theorem Legible.getTile (h : s.Legible) (ht : s.tile? id = some t) : s.getTile id = .ok t :=
  getTile_eq_ok.2 ⟨ht, h.tile_legible t (mem_of_tile? ht)⟩

theorem Legible.getScene (h : s.Legible) (hx : s.scene? id = some x) : s.getScene id = .ok x :=
  getScene_eq_ok.2 ⟨hx, h.scene_legible x (mem_of_scene? hx)⟩

theorem Legible.readTiles (h : s.Legible) (operation : String) (p : Tile → Bool) :
    readTiles operation (s.tiles.filter p) = .ok (s.tiles.filter p) :=
  readTiles_eq_ok.2 ⟨rfl, fun t ht => h.tile_legible t (List.mem_filter.1 ht).1⟩

theorem Legible.release (h : s.Legible) (operation : String) (p : Tile → Bool) :
    s.release operation p =
      .ok ((s.tiles.filter p).map fun t => { t with status := .pending },
        s.modifyTiles p fun t => { t with status := .pending }) :=
  release_eq_ok.2 ⟨fun t ht _ => h.tile_legible t ht, rfl, rfl⟩

end Store

namespace Work
open Store
variable {s : Store} {id : Int} {t : Tile} {x : Scene}

theorem exec_tile (h : s.Legible) (ht : s.tile? id = some t) :
    (tile id).exec s = .ok (t, s) := by
  apply (exec_call (.tile id) s).trans
  show (s.getTile id).map _ = _
  rw [h.getTile ht]
  rfl

theorem exec_scene (h : s.Legible) (hx : s.scene? id = some x) :
    (scene id).exec s = .ok (x, s) := by
  apply (exec_call (.scene id) s).trans
  show (s.getScene id).map _ = _
  rw [h.getScene hx]
  rfl

theorem exec_known (h : s.Legible) (hx : s.scene? id = some x) :
    (known id).exec s = .ok (x.note, s) := by
  apply (congrFun (Program.interpret_perform execInstruction (.known id)) s).trans
  show (s.getScene id).map _ = _
  rw [h.getScene hx]
  rfl

theorem exec_sceneTiles (h : s.Legible) (id : Int) :
    (sceneTiles id).exec s = .ok (s.tiles.filter fun t => t.scene == id, s) := by
  apply (exec_call (.sceneTiles id) s).trans
  show (s.sceneTiles id).map _ = _
  rw [Store.sceneTiles, h.readTiles]
  rfl

theorem exec_referencingTiles (h : s.Legible) (id : Int) :
    (referencingTiles id).exec s = .ok (s.tiles.filter fun t => t.reference == some id, s) := by
  apply (exec_call (.referencingTiles id) s).trans
  show (s.referencingTiles id).map _ = _
  rw [Store.referencingTiles, h.readTiles]
  rfl

/-! What has been read is there, and reading leaves the store alone. -/

theorem exec_tile_eq_ok {s' : Store} (hok : (tile id).exec s = .ok (t, s')) :
    s.tile? id = some t ∧ s' = s := by
  obtain ⟨u, hget, heq⟩ := map_eq_ok.1 (exec_call (.tile id) s ▸ hok)
  cases heq
  exact ⟨(getTile_eq_ok.1 hget).1, rfl⟩

theorem exec_scene_eq_ok {s' : Store} (hok : (scene id).exec s = .ok (x, s')) :
    s.scene? id = some x ∧ s' = s := by
  obtain ⟨y, hget, heq⟩ := map_eq_ok.1 (exec_call (.scene id) s ▸ hok)
  cases heq
  exact ⟨(getScene_eq_ok.1 hget).1, rfl⟩

theorem exec_known_eq_ok {s' : Store} {note : SceneNote}
    (hok : (known id).exec s = .ok (note, s')) :
    ∃ x, s.scene? id = some x ∧ note = x.note ∧ s' = s := by
  have hexec : (known id).exec s = (s.getScene id).map fun x => (x.note, s) :=
    congrFun (Program.interpret_perform execInstruction (.known id)) s
  obtain ⟨x, hget, heq⟩ := map_eq_ok.1 (hexec ▸ hok)
  cases heq
  exact ⟨x, (getScene_eq_ok.1 hget).1, rfl, rfl⟩

theorem exec_sceneTiles_eq_ok {s' : Store} {ts : List Tile}
    (hok : (sceneTiles id).exec s = .ok (ts, s')) :
    ts = s.tiles.filter (fun t => t.scene == id) ∧ s' = s := by
  obtain ⟨rows, hread, heq⟩ := map_eq_ok.1 (exec_call (.sceneTiles id) s ▸ hok)
  cases heq
  exact ⟨(readTiles_eq_ok.1 hread).1, rfl⟩

theorem exec_updateSceneAttrs_eq_ok {s' : Store} {attrs : SceneAttrs} {a : Unit}
    (hok : (updateSceneAttrs id attrs).exec s = .ok (a, s')) :
    s' = s.modifyScenes (·.id == id) fun x => { x with attrs } := by
  obtain ⟨_, hreplace, heq⟩ := map_eq_ok.1 (exec_call (.updateSceneAttrs id attrs) s ▸ hok)
  cases heq
  exact (replaceSceneAttrs_eq_ok.1 hreplace).2

theorem exec_updateTileAttrs_eq_ok {s' : Store} {attrs : TileAttrs} {a : Unit}
    (hok : (updateTileAttrs id attrs).exec s = .ok (a, s')) :
    s' = s.modifyTiles (·.id == id) fun t => { t with attrs } := by
  obtain ⟨_, hreplace, heq⟩ := map_eq_ok.1 (exec_call (.updateTileAttrs id attrs) s ▸ hok)
  cases heq
  exact (replaceTileAttrs_eq_ok.1 hreplace).2

theorem exec_updateScene (hx : s.scene? id = some x) (u : StatusUpdate) :
    (updateScene id u).exec s = .ok ((), s.setScene id u) := by
  apply (exec_call (.updateScene id u) s).trans
  show (s.updateScene id u).map _ = _
  rw [updateScene_eq_ok.2 ⟨by rw [hx]; rfl, rfl⟩]
  rfl

theorem exec_updateTile (ht : s.tile? id = some t) (u : StatusUpdate) :
    (updateTile id u).exec s = .ok ((), s.setTile id u) := by
  apply (exec_call (.updateTile id u) s).trans
  show (s.updateTile id u).map _ = _
  rw [updateTile_eq_ok.2 ⟨by rw [ht]; rfl, rfl⟩]
  rfl

theorem exec_setTilesStatus (ids : List Int) (status : Status) :
    (setTilesStatus ids status).exec s = .ok ((), s.setTilesStatus ids status) :=
  exec_call (.setTilesStatus ids status) s

theorem exec_reparentNextTiles {new : Option Int} (old : Int) (hnew : s.hasLinked new) :
    (reparentNextTiles old new).exec s =
      .ok (s.followers old,
        s.modifyTiles (·.previous == some old) fun t => { t with previous := new }) := by
  apply (exec_call (.reparentNextTiles old new) s).trans
  exact reparentNextTiles_eq_ok.2 ⟨.inr hnew, rfl, rfl⟩

theorem exec_reassignReference {old new : Int} (hne : old ≠ new) (hnew : s.tile? new = some t) :
    (reassignReference old new).exec s = .ok ((), s.handOver old new) := by
  apply (exec_call (.reassignReference old new) s).trans
  show (s.reassignReference old new).map _ = _
  rw [(reassignReference_eq_ok hne).2 ⟨fun _ _ _ _ => by rw [hnew]; rfl, rfl⟩]
  rfl

theorem exec_refreshAoiStatus (aoi : String) :
    (refreshAoiStatus aoi).exec s = .ok (s.refreshAoiStatus aoi) :=
  exec_call (.refreshAoiStatus aoi) s

end Work

end SceneWorkflow
