import SceneWorkflow.Proofs.Engine.SweepReadings
import SceneWorkflow.Proofs.Engine.SweepRequests

/-!
# Sweeps by themselves

A sweep that nothing disturbs and nobody interrupts hands out again all scenes that it
takes up, and then those of the tiles whose predecessor is done, and, if it is not
forced, whose scene is. None of these requests helps or hinders another, since none
of them makes anything done or undoes it. The sweep reports the first tile that it
had to leave.
-/
namespace SceneWorkflow
open Store

namespace Sweep
variable {σ : Type} [Sink σ] {w : World σ}

def taken (s : Store) (aoi : String) (force : Bool) : List (EntityKind × Int) :=
  (s.scenesToRetry aoi force).map (.scene, ·.id) ++
    ((s.tilesToRetry aoi force).filter (s.fits force)).map (.tile, ·.id)

theorem nodup_taken {s : Store} (ho : s.Ordered) (aoi : String) (force : Bool) :
    (taken s aoi force).Nodup := by
  have hscenes : ((s.scenesToRetry aoi force).map (EntityKind.scene, ·.id)).Nodup :=
    List.Nodup.of_map Prod.snd (by
      rw [List.map_map]
      exact nodup_scenesToRetry ho aoi force)
  have htiles : (((s.tilesToRetry aoi force).filter (s.fits force)).map
      (EntityKind.tile, ·.id)).Nodup :=
    List.Nodup.of_map Prod.snd (by
      rw [List.map_map]
      exact (nodup_tilesToRetry ho aoi force).sublist (List.filter_sublist.map _))
  refine List.nodup_append.2 ⟨hscenes, htiles, fun e he f hf => ?_⟩
  obtain ⟨x, -, rfl⟩ := List.mem_map.1 he
  obtain ⟨t, -, rfl⟩ := List.mem_map.1 hf
  nofun

def tileRequests (aoi : String) (force : Bool) (scenes : List Scene) (tally : Tally) :
    ExceptT Error Plan Tally := do
  let (tiles, tally) ← listTiles aoi scenes tally force
  let tally ← requeueAll .tile force
    ((tiles.filter fun t => isRetryable force t.status).map (·.id)) tally
  match tally.failure with
  | some e => throw e
  | none => return tally

/-- Once it has handed out scenes again, a sweep by itself hands out again the tiles that fitted at
its start, as the scenes have helped and hindered none. -/
theorem carryOut_tileRequests {s : Store} (hs : s.Schema) (h : Attainable w.store) (hw : w.Calm)
    {xs : List Scene} (hrows : w.store.entities = (s.requeue (xs.map (.scene, ·.id))).entities)
    (hundone : s.Undone (xs.map (.scene, ·.id))) (aoi : String) (force : Bool) {tally : Tally}
    (hnone : tally.failure = none) :
    (carryOut (tileRequests aoi force (s.scenesOf aoi) tally) w).1 =
        (match (s.requeue (xs.map (.scene, ·.id))).firstRefusal? force .tile
            ((s.tilesToRetry aoi force).map (·.id)) with
        | some e => .error e
        | none => .ok (tally.after .tile ((s.tilesToRetry aoi force).filter (s.fits force)).length
            none)) ∧
      Series HandsOut w (((s.tilesToRetry aoi force).filter (s.fits force)).map (.tile, ·.id))
        (carryOut (tileRequests aoi force (s.scenesOf aoi) tally) w).2 := by
  have hsame : w.store.tiles = s.tiles :=
    (congrArg Prod.snd hrows).trans (tiles_requeue_scenes s _)
  have haoi (t : Tile) : w.store.aoiOf? t = s.aoiOf? t := by
    rw [aoiOf?_congr hrows, aoiOf?_requeue]
  obtain ⟨tiles, ⟨hfound, hstore, hsink, hcalm⟩, htiles⟩ :=
    reads_listTiles h.forest hw hsame haoi force tally
  rw [tileRequests, carryOut_bind, Operation.bind_of_ok hfound]
  dsimp only
  rw [htiles, carryOut_bind]
  generalize (carryOut (listTiles aoi _ _ force) w).2 = w₁ at hstore hsink hcalm ⊢
  have hstatus : ∀ id ∈ (s.tilesToRetry aoi force).map (·.id),
      ∃ status, w₁.store.entityStatus? .tile id = some status ∧ isRetryable force status = true := by
    intro id hid
    obtain ⟨t, ht, rfl⟩ := List.mem_map.1 hid
    obtain ⟨hstatus, hretryable⟩ := status_of_tilesToRetry hs.toOrdered ht
    refine ⟨t.status, ?_, hretryable⟩
    rw [hstore, entityStatus?_congr hrows, entityStatus?_requeue, hstatus]
    simp
  obtain ⟨hresult, hseries, -, -⟩ := carryOut_requeueAll (hstore.symm ▸ h) hcalm
    (nodup_tilesToRetry hs.toOrdered aoi force) hstatus tally
  -- A tile that is taken up is free now if it fitted then.
  have hfree : ((s.tilesToRetry aoi force).map (·.id)).filter (w₁.store.isFree force .tile) =
      ((s.tilesToRetry aoi force).filter (s.fits force)).map (·.id) := by
    rw [List.filter_map]
    refine congrArg _ (List.filter_congr fun t ht => ?_)
    rw [Function.comp_apply, hstore, isFree_congr hrows, hundone.isFree,
      isFree_tile hs (mem_tilesToRetry ht).1]
  rw [hfree, List.length_map, hstore, firstRefusal?_congr hrows] at hresult
  rw [hfree, List.map_map] at hseries
  rw [Operation.bind_of_ok hresult]
  have hend := hseries.after_still hstore hsink
  generalize (s.requeue _).firstRefusal? force .tile _ = failure
  cases failure with
  | none =>
    rw [Tally.after, hnone]
    exact ⟨rfl, hend⟩
  | some e =>
    rw [Tally.after, hnone]
    exact ⟨rfl, hend⟩

/-- Once it has listed the scenes, a sweep by itself hands out again what fits of what it takes up. -/
theorem carryOut_requests (h : Attainable w.store) (hw : w.Calm) (aoi : String) (force : Bool) :
    (carryOut (requests aoi force (w.store.scenesOf aoi)) w).1 =
        (match (w.store.requeue
            ((w.store.scenesToRetry aoi force).map (.scene, ·.id))).firstRefusal? force .tile
              ((w.store.tilesToRetry aoi force).map (·.id)) with
        | some e => .error e
        | none => .ok {
            scenes := (w.store.scenesToRetry aoi force).length
            tiles := ((w.store.tilesToRetry aoi force).filter (w.store.fits force)).length }) ∧
      Series HandsOut w (taken w.store aoi force)
        (carryOut (requests aoi force (w.store.scenesOf aoi)) w).2 := by
  have hs := h.forest.toSchema
  -- No scene is kept from being handed out again.
  have hall : ((w.store.scenesToRetry aoi force).map (·.id)).filter
      (w.store.isFree force .scene) = (w.store.scenesToRetry aoi force).map (·.id) :=
    List.filter_eq_self.2 fun _ _ => rfl
  have hstatus : ∀ id ∈ (w.store.scenesToRetry aoi force).map (·.id),
      ∃ status, w.store.entityStatus? .scene id = some status ∧ isRetryable force status = true := by
    intro id hid
    obtain ⟨x, hx, rfl⟩ := List.mem_map.1 hid
    exact ⟨x.status, status_of_scenesToRetry hs.toOrdered hx⟩
  obtain ⟨hresult, hscenes, hcalm, hattain⟩ := carryOut_requeueAll h hw
    (nodup_scenesToRetry hs.toOrdered aoi force) hstatus {}
  rw [hall, List.length_map, firstRefusal?_scene] at hresult
  rw [hall, List.map_map] at hscenes
  have hsplit : carryOut (requests aoi force (w.store.scenesOf aoi)) w = _ :=
    (congrFun (carryOut_bind _ _) w).trans (Operation.bind_of_ok hresult)
  have hnone : (({} : Tally).after .scene (w.store.scenesToRetry aoi force).length none).failure =
      none := rfl
  obtain ⟨houtcome, htiles⟩ := carryOut_tileRequests hs hattain hcalm hscenes.entities
    (undone_scenesToRetry hs.toOrdered aoi force) aoi force hnone
  rw [hsplit]
  refine ⟨houtcome.trans ?_, hscenes.append htiles⟩
  simp [Tally.after]

end Sweep

open Sweep

/-- A sweep by itself hands out again, one after the other, all scenes that it takes up and then
those of the tiles that fit, and queues one job for each. It leaves all else as it is. If all tiles
fit then it reports how many of both there are, and else what kept the first that did not. -/
theorem Attainable.sweeps {σ : Type} [Sink σ] {w : World σ} (h : Attainable w.store) (hw : w.Calm)
    {aoi : String} (haoi : w.store.aois.contains aoi = true) (force : Bool) :
    (taken w.store aoi force).Nodup ∧
    Series HandsOut w (taken w.store aoi force) (retryAoi aoi force w).2 ∧
    (retryAoi aoi force w).2.store.entities = (w.store.requeue (taken w.store aoi force)).entities ∧
    ((∀ t ∈ w.store.tilesToRetry aoi force, w.store.fits force t = true) →
      (retryAoi aoi force w).1 = .ok {
        scenes := (w.store.scenesToRetry aoi force).length
        tiles := (w.store.tilesToRetry aoi force).length }) ∧
    ∀ before t after, w.store.tilesToRetry aoi force = before ++ t :: after →
      (∀ u ∈ before, w.store.fits force u = true) → w.store.fits force t = false →
      ∃ reason,
        (w.store.requeue ((w.store.scenesToRetry aoi force).map (.scene, ·.id) ++
          before.map (.tile, ·.id))).obstacle? force t = some reason ∧
        (retryAoi aoi force w).1 = .error (Cascade.notRequeued t reason) := by
  have hs := h.forest.toSchema
  obtain ⟨w₁, hstore, hsink, hcalm, hsweep⟩ := retryAoi_of_calm h hw haoi force
  obtain ⟨hresult, hseries⟩ := carryOut_requests (hstore.symm ▸ h) hcalm aoi force
  rw [← hsweep, hstore] at hresult
  rw [← hsweep, hstore] at hseries
  have hwhole := hseries.after_still hstore hsink
  refine ⟨nodup_taken hs.toOrdered aoi force, hwhole, hwhole.entities, fun hfit => ?_, ?_⟩
  · obtain ⟨-, hfirst⟩ := firstRefusal?_of_fits hs (List.append_nil _).symm hfit
    rw [hfirst, List.filter_eq_self.2 hfit] at hresult
    exact hresult
  · intro before t after hall hbefore hnot
    obtain ⟨reason, hreason, hfirst⟩ := firstRefusal?_of_not_fits hs hall hbefore hnot
    rw [hfirst] at hresult
    exact ⟨reason, hreason, hresult⟩

/-- A scene waits to be downloaded again. In another one two tiles in a row are worked on at once, as
work on the second has been repeated by force, and a third one is parked. -/
def jumbled : World Recorder :=
  World.after { sink := {} }
    [.createAoi "north",
      .ingestScene "north" (.ofTiles "north" "s1"
        [("a", {}), ("b", { previous := some ⟨"s1", "a"⟩ }), ("c", {})]),
      .ingestScene "north" (.ofTiles "north" "s2" [("d", {})]),
      .updateStatus .scene 1 .done none false,
      .updateStatus .tile 2 .retry none true,
      .updateStatus .tile 3 .retry (some "no space left") false,
      .updateStatus .scene 2 .retry none false]

/-- All that is worked on is handed out again, but for the tile that follows another one. -/
theorem sweeps_jumbled :
    Attainable jumbled.store ∧ jumbled.Calm ∧ jumbled.store.aois.contains "north" = true ∧
      Series HandsOut jumbled [(.scene, 2), (.tile, 1), (.tile, 3)]
        (retryAoi "north" true jumbled).2 ∧
      (retryAoi "north" true jumbled).1 =
        .error (.invalidState "tile" "2" "cannot retry while previous tile 1 is PENDING") := by
  have hattain : Attainable jumbled.store := Attainable.empty.after _
  have hcalm : jumbled.Calm := World.calm_of_isEmpty (by decide +kernel) (by decide +kernel)
  have haoi : jumbled.store.aois.contains "north" = true := by decide +kernel
  have htaken : taken jumbled.store "north" true = [(.scene, 2), (.tile, 1), (.tile, 3)] := by
    decide +kernel
  obtain ⟨before, t, after, hall, hbefore, hnot, hid, hobstacle⟩ : ∃ before t after,
      jumbled.store.tilesToRetry "north" true = before ++ t :: after ∧
      (∀ u ∈ before, jumbled.store.fits true u = true) ∧ jumbled.store.fits true t = false ∧
      toString t.id = "2" ∧
      (jumbled.store.requeue ((jumbled.store.scenesToRetry "north" true).map (.scene, ·.id) ++
        before.map (.tile, ·.id))).obstacle? true t = some "previous tile 1 is PENDING" :=
    ⟨(jumbled.store.tilesToRetry "north" true).take 1,
      (jumbled.store.tilesToRetry "north" true)[1]!,
      (jumbled.store.tilesToRetry "north" true).drop 2, by decide +kernel, by decide +kernel,
      by decide +kernel, by decide +kernel, by decide +kernel⟩
  obtain ⟨-, hseries, -, -, hrefused⟩ := hattain.sweeps hcalm haoi true
  obtain ⟨reason, hreason, hresult⟩ := hrefused before t after hall hbefore hnot
  cases hreason.symm.trans hobstacle
  rw [htaken] at hseries
  refine ⟨hattain, hcalm, haoi, hseries, hresult.trans ?_⟩
  rw [Cascade.notRequeued, hid]
  rfl

end SceneWorkflow
