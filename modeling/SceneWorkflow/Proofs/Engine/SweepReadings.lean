import SceneWorkflow.Proofs.Engine.Requeueing
import SceneWorkflow.Proofs.UnitOfWork.Calm

/-!
# What a sweep reads

A sweep by itself reads the area, the scenes of the area and, once it has requested the
scenes, the tiles of which it takes up those that can be retried. Reading leaves
everything as it is.
-/
namespace SceneWorkflow
open Store

namespace Sweep
variable {σ : Type} {w : World σ} {α : Type} {aoi : String}

theorem listTiles_of_legible {s : Store} (h : s.Legible) (f : TileFilter) :
    s.listTiles f = .ok ((s.tilesWhere fun x => f.aoi.all (x.aoi == ·)).filter fun t =>
      f.scene.all (t.scene == ·) && f.status.all (t.status == ·)) :=
  readTiles_eq_ok.2 ⟨rfl, fun t ht =>
    h.tile_legible t (List.mem_filter.1 (List.mem_filter.1 ht).1).1⟩

theorem listTiles_scene {s : Store} (h : Forest s) (scene : Int) :
    s.listTiles { scene := some scene } = .ok (s.tiles.filter fun t => t.scene == scene) := by
  rw [listTiles_of_legible h.toLegible, tilesWhere, List.filter_filter]
  refine congrArg Except.ok (List.filter_congr fun t ht => ?_)
  obtain ⟨x, hx⟩ := Option.isSome_iff_exists.1 (h.scene_exists t ht)
  simp [hx]

/-- A reading of the sweep finds this, and leaves everything as it is. -/
structure Reads (w : World σ) (found : α) (outcome : Except Error α × World σ) : Prop where
  found : outcome.1 = .ok found
  store : outcome.2.store = w.store
  sink : outcome.2.sink = w.sink
  calm : outcome.2.Calm

theorem reads_query (hw : w.Calm) {m : Method} {f : Store → Except Error α} {found : α}
    (hfound : f w.store = .ok found) : Reads w found (Operation.query m f w) where
  found := ((Operation.follows_query.meets nofun hw.meets).1.eq).trans hfound
  store := Operation.follows_query.store
  sink := Operation.follows_query.sink
  calm := (Operation.follows_query.meets nofun hw.meets).2.calm

variable [Sink σ]

theorem reads_tilesOfScenes (h : Forest w.store) (hw : w.Calm) (ids : List Int) (tally : Tally) :
    Reads w (ids.flatMap fun id => w.store.tiles.filter fun t => t.scene == id, tally)
      (carryOut (tilesOfScenes ids tally) w) := by
  induction ids generalizing w tally with
  | nil => exact ⟨rfl, rfl, rfl, hw⟩
  | cons id rest ih =>
    have hstep : Reads w _ (takeStep (.listTiles { scene := some id }) w) :=
      reads_query hw (listTiles_scene h id)
    have hsplit : carryOut (tilesOfScenes (id :: rest) tally) w = _ :=
      carryOut_attempt_bind (.listTiles { scene := some id }) _ w
    rw [hsplit, hstep.found]
    have hrest := ih (w := (takeStep (.listTiles { scene := some id }) w).2)
      (hstep.store ▸ h) hstep.calm tally
    rw [hstep.store] at hrest
    dsimp only
    rw [carryOut_bind, Operation.bind_of_ok hrest.found]
    exact ⟨rfl, hrest.store.trans hstep.store, hrest.sink.trans hstep.sink, hrest.calm⟩

/-- The tiles that a sweep looks at, of which it takes up those that can be retried. -/
theorem reads_listTiles {s : Store} {aoi : String} (h : Forest w.store) (hw : w.Calm)
    (htiles : w.store.tiles = s.tiles) (haoi : ∀ t, w.store.aoiOf? t = s.aoiOf? t) (force : Bool)
    (tally : Tally) :
    ∃ tiles, Reads w (tiles, tally) (carryOut (listTiles aoi (s.scenesOf aoi) tally force) w) ∧
      tiles.filter (fun t => isRetryable force t.status) = s.tilesToRetry aoi force := by
  cases force with
  | true =>
    refine ⟨_, reads_tilesOfScenes h hw _ tally, ?_⟩
    rw [htiles, List.flatMap_map, List.filter_flatMap]
    simp only [List.filter_filter, tilesToRetry, if_true, Bool.and_comm]
  | false =>
    have hstep : Reads w _ (takeStep (.listTiles { aoi := some aoi, status := some .retry }) w) :=
      reads_query hw (listTiles_of_legible h.toLegible _)
    have hsplit : carryOut (listTiles aoi (s.scenesOf aoi) tally false) w = _ :=
      carryOut_demand_of_ok hstep.found
    rw [hsplit]
    refine ⟨_, ⟨rfl, hstep.store, hstep.sink, hstep.calm⟩, ?_⟩
    rw [tilesWhere, List.filter_filter, List.filter_filter, htiles]
    refine List.filter_congr fun t _ => ?_
    have harea : ((w.store.scene? t.scene).any fun x => x.aoi == aoi) = (s.aoiOf? t == some aoi) := by
      rw [← haoi t, aoiOf?]
      cases w.store.scene? t.scene <;> simp
    simp [isRetryable, harea, Bool.and_comm]

/-- A sweep over an area that is there begins with what it reads. -/
theorem retryAoi_of_calm (h : Attainable w.store) (hw : w.Calm) {aoi : String}
    (haoi : w.store.aois.contains aoi = true) (force : Bool) :
    ∃ w₁ : World σ, w₁.store = w.store ∧ w₁.sink = w.sink ∧ w₁.Calm ∧
      retryAoi aoi force w = carryOut (requests aoi force (w₁.store.scenesOf aoi)) w₁ := by
  rw [KeyMap.contains_eq_isSome] at haoi
  obtain ⟨status, hstatus⟩ := Option.isSome_iff_exists.1 haoi
  have hget : w.store.getAoi aoi = .ok ⟨aoi, status⟩ := by
    rw [getAoi, hstatus]
  have harea : Reads w _ (takeStep (.findAoi aoi) w) := reads_query hw hget
  have hlist : (takeStep (.findAoi aoi) w).2.store.listScenes aoi none =
      .ok (w.store.scenesOf aoi) := by
    rw [harea.store]
    refine readable_eq_ok.2 ⟨(List.filter_eq_self.2 fun _ _ => rfl).symm, fun x hx => ?_⟩
    exact h.forest.toLegible.scene_legible x (List.mem_filter.1 (List.mem_filter.1 hx).1).1
  have hscenes : Reads _ _ (takeStep (.listScenes aoi) (takeStep (.findAoi aoi) w).2) :=
    reads_query harea.calm hlist
  refine ⟨_, hscenes.store.trans harea.store, hscenes.sink.trans harea.sink, hscenes.calm, ?_⟩
  rw [retryAoi_eq_carryOut, carryOut_plan, Operation.bind_of_ok harea.found,
    Operation.bind_of_ok hscenes.found, hscenes.store, harea.store]

end Sweep

end SceneWorkflow
