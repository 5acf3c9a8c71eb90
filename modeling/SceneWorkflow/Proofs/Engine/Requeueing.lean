import Mathlib.Data.List.Nodup
import SceneWorkflow.Proofs.Engine.Interleavings

/-!
# Rows that are handed out again

What a sweep takes up, and the store in which scenes and tiles have been handed out
again: they are being worked on, without a message, and all else in all rows stays. As
nothing that a sweep takes up is done, what was done before is done after, and nothing
else is.
-/
namespace SceneWorkflow.Store

variable {s s' : Store} {kind : EntityKind} {id : Int} {force : Bool} {es : List (EntityKind × Int)}

/-! ### What is handed out -/

def entities (s : Store) : List Scene × List Tile := (s.scenes, s.tiles)

/-- These scenes and tiles have been handed out again. All else in their rows stays, but for the
message. -/
def requeue (s : Store) (es : List (EntityKind × Int)) : Store :=
  { s with
    scenes := s.scenes.map fun x =>
      if (.scene, x.id) ∈ es then { x with status := .pending, message := "" } else x
    tiles := s.tiles.map fun t =>
      if (.tile, t.id) ∈ es then { t with status := .pending, message := "" } else t }

theorem requeue_nil (s : Store) : s.requeue [] = s := by
  simp [requeue]

theorem requeue_requeue (s : Store) (es fs : List (EntityKind × Int)) :
    (s.requeue es).requeue fs = s.requeue (es ++ fs) := by
  unfold requeue
  simp only [List.map_map, List.mem_append]
  congr 1
  · refine List.map_congr_left fun x _ => ?_
    by_cases he : (EntityKind.scene, x.id) ∈ es <;> by_cases hf : (EntityKind.scene, x.id) ∈ fs <;>
      simp [he, hf]
  · refine List.map_congr_left fun t _ => ?_
    by_cases he : (EntityKind.tile, t.id) ∈ es <;> by_cases hf : (EntityKind.tile, t.id) ∈ fs <;>
      simp [he, hf]

theorem requeue_eq_moved (s : Store) (kind : EntityKind) (id : Int) :
    s.requeue [(kind, id)] = s.moved kind id { status := .pending, message := some "" } := by
  rw [moved_eq, requeue]
  congr 1
  · refine List.map_congr_left fun x _ => ?_
    cases kind <;> simp [movedScene, Scene.update]
  · refine List.map_congr_left fun t _ => ?_
    cases kind <;> simp [movedTile, Tile.update]

theorem scene?_requeue (s : Store) (es : List (EntityKind × Int)) (id : Int) :
    (s.requeue es).scene? id = (s.scene? id).map fun x =>
      if (.scene, x.id) ∈ es then { x with status := .pending, message := "" } else x := by
  simp only [scene?, requeue, List.find?_map]
  congr 2
  funext x
  by_cases hx : (EntityKind.scene, x.id) ∈ es <;> simp [hx]

theorem tile?_requeue (s : Store) (es : List (EntityKind × Int)) (id : Int) :
    (s.requeue es).tile? id = (s.tile? id).map fun t =>
      if (.tile, t.id) ∈ es then { t with status := .pending, message := "" } else t := by
  simp only [tile?, requeue, List.find?_map]
  congr 2
  funext t
  by_cases ht : (EntityKind.tile, t.id) ∈ es <;> simp [ht]

theorem tiles_requeue_scenes (s : Store) (xs : List Scene) :
    (s.requeue (xs.map (.scene, ·.id))).tiles = s.tiles := by
  refine (List.map_congr_left fun t _ => if_neg ?_).trans (List.map_id _)
  simp

theorem aoiOf?_requeue (s : Store) (es : List (EntityKind × Int)) (t : Tile) :
    (s.requeue es).aoiOf? t = s.aoiOf? t := by
  rw [aoiOf?, scene?_requeue, Option.map_map]
  refine Option.map_congr fun x _ => ?_
  rw [Function.comp_apply]
  split <;> rfl

theorem entityStatus?_requeue (s : Store) (es : List (EntityKind × Int)) (kind : EntityKind)
    (id : Int) : (s.requeue es).entityStatus? kind id =
      (s.entityStatus? kind id).map fun status => if (kind, id) ∈ es then .pending else status := by
  cases kind with
  | scene =>
    show ((s.requeue es).scene? id).map (·.status) = ((s.scene? id).map (·.status)).map _
    rw [scene?_requeue, Option.map_map, Option.map_map]
    refine Option.map_congr fun x hx => ?_
    rw [Function.comp_apply, Function.comp_apply, scene?_id hx]
    split <;> rfl
  | tile =>
    show ((s.requeue es).tile? id).map (·.status) = ((s.tile? id).map (·.status)).map _
    rw [tile?_requeue, Option.map_map, Option.map_map]
    refine Option.map_congr fun t ht => ?_
    rw [Function.comp_apply, Function.comp_apply, tile?_id ht]
    split <;> rfl

def Undone (s : Store) (es : List (EntityKind × Int)) : Prop :=
  ∀ e ∈ es, s.entityStatus? e.1 e.2 ≠ some .done

/-- What is handed out again was not done before and is not after. -/
theorem Undone.done_iff (h : s.Undone es) (kind : EntityKind) (id : Int) :
    (s.requeue es).entityStatus? kind id = some .done ↔ s.entityStatus? kind id = some .done := by
  rw [entityStatus?_requeue]
  by_cases hmem : (kind, id) ∈ es
  · simp [hmem, h (kind, id) hmem]
  · simp [hmem]

/-! ### Stores with the same rows -/

theorem requeue_congr (h : s'.entities = s.entities) (es : List (EntityKind × Int)) :
    (s'.requeue es).entities = (s.requeue es).entities := by
  obtain ⟨hscenes, htiles⟩ := Prod.mk.inj h
  rw [entities, requeue, hscenes, htiles]
  rfl

theorem entityStatus?_congr (h : s'.entities = s.entities) (kind : EntityKind) (id : Int) :
    s'.entityStatus? kind id = s.entityStatus? kind id := by
  obtain ⟨hscenes, htiles⟩ := Prod.mk.inj h
  cases kind with
  | scene =>
    show (s'.scene? id).map _ = _
    rw [scene?, hscenes]
    rfl
  | tile =>
    show (s'.tile? id).map _ = _
    rw [tile?, htiles]
    rfl

theorem aoiOf?_congr (h : s'.entities = s.entities) (t : Tile) : s'.aoiOf? t = s.aoiOf? t := by
  rw [aoiOf?, scene?, (Prod.mk.inj h).1]
  rfl

/-- What is handed out again leaves others where they are. -/
theorem entityStatus?_of_requeued {k : Int}
    (hrows : s'.entities = (s.requeue [(kind, id)]).entities) (hne : k ≠ id) :
    s'.entityStatus? kind k = s.entityStatus? kind k := by
  have hother : (kind, k) ∉ [(kind, id)] := by
    intro hmem
    cases List.mem_singleton.1 hmem
    exact hne rfl
  rw [entityStatus?_congr hrows, entityStatus?_requeue]
  simp only [if_neg hother, Option.map_id']

/-! ### What is taken up -/

def scenesToRetry (s : Store) (aoi : String) (force : Bool) : List Scene :=
  (s.scenesOf aoi).filter fun x => Sweep.isRetryable force x.status

/-- The tiles of an area that a sweep takes up: all that are parked, or, if it is forced, those that
are parked or handed out in scenes that are done, scene by scene. -/
def tilesToRetry (s : Store) (aoi : String) (force : Bool) : List Tile :=
  if force then
    ((s.scenesOf aoi).filter fun x => x.status == .done).flatMap fun x =>
      s.tiles.filter fun t => t.scene == x.id && Sweep.isRetryable true t.status
  else s.tiles.filter fun t => s.aoiOf? t == some aoi && t.status == .retry

/-- A sweep takes up only what there is, in a status in which it may be retried. -/
theorem status_of_scenesToRetry (ho : s.Ordered) {aoi : String} {x : Scene}
    (hx : x ∈ s.scenesToRetry aoi force) :
    s.entityStatus? .scene x.id = some x.status ∧ Sweep.isRetryable force x.status = true := by
  obtain ⟨hmem, hstatus⟩ := List.mem_filter.1 hx
  have hthere := (List.mem_filter.1 hmem).1
  exact ⟨sceneStatus?_of_scene? (ho.scene?_of_mem hthere), hstatus⟩

theorem mem_tilesToRetry {aoi : String} {t : Tile} (ht : t ∈ s.tilesToRetry aoi force) :
    t ∈ s.tiles ∧ Sweep.isRetryable force t.status = true := by
  unfold tilesToRetry at ht
  split at ht
  next hforce =>
    obtain ⟨x, -, hx⟩ := List.mem_flatMap.1 ht
    obtain ⟨hmem, hboth⟩ := List.mem_filter.1 hx
    rw [hforce]
    exact ⟨hmem, (Bool.and_eq_true_iff.1 hboth).2⟩
  next hforce =>
    obtain ⟨hmem, hboth⟩ := List.mem_filter.1 ht
    refine ⟨hmem, ?_⟩
    rw [eq_of_beq (Bool.and_eq_true_iff.1 hboth).2]
    rfl

theorem status_of_tilesToRetry (ho : s.Ordered) {aoi : String} {t : Tile}
    (ht : t ∈ s.tilesToRetry aoi force) :
    s.entityStatus? .tile t.id = some t.status ∧ Sweep.isRetryable force t.status = true := by
  obtain ⟨hmem, hstatus⟩ := mem_tilesToRetry ht
  exact ⟨tileStatus?_of_tile? (ho.tile?_of_mem hmem), hstatus⟩

theorem nodup_scenesToRetry (ho : s.Ordered) (aoi : String) (force : Bool) :
    ((s.scenesToRetry aoi force).map (·.id)).Nodup := by
  refine List.pairwise_map.2 (((ho.scenes_ascend.filter _).filter _).imp fun hlt => ?_)
  exact Int.ne_of_lt hlt

/-- No tile is taken up twice, as it belongs to one scene. -/
theorem nodup_tilesToRetry (ho : s.Ordered) (aoi : String) (force : Bool) :
    ((s.tilesToRetry aoi force).map (·.id)).Nodup := by
  have hids : ∀ t ∈ s.tilesToRetry aoi force, ∀ u ∈ s.tilesToRetry aoi force, t.id = u.id → t = u :=
    fun t ht u hu => ho.eq_of_id (mem_tilesToRetry ht).1 (mem_tilesToRetry hu).1
  have htiles (p : Tile → Bool) : (s.tiles.filter p).Nodup :=
    (ho.tiles_ascend.filter p).imp fun hlt heq => Int.ne_of_lt hlt (congrArg Tile.id heq)
  refine List.Nodup.map_on hids ?_
  unfold tilesToRetry
  split
  · refine List.nodup_flatMap.2 ⟨fun x _ => htiles _, ?_⟩
    refine ((ho.scenes_ascend.filter _).filter _).imp fun {x y} hlt => ?_
    intro t htx hty
    have hx := eq_of_beq (Bool.and_eq_true_iff.1 (List.mem_filter.1 htx).2).1
    have hy := eq_of_beq (Bool.and_eq_true_iff.1 (List.mem_filter.1 hty).2).1
    exact Int.ne_of_lt hlt (hx.symm.trans hy)
  · exact htiles _

theorem undone_of_isRetryable (force : Bool) (h : ∀ e ∈ es, ∃ status,
    s.entityStatus? e.1 e.2 = some status ∧ Sweep.isRetryable force status = true) :
    s.Undone es := by
  intro e he hdone
  obtain ⟨status, hstatus, hretryable⟩ := h e he
  cases hstatus.symm.trans hdone
  exact Status.ne_done_of_isActive (Status.isActive_of_isRetryable hretryable) rfl

theorem undone_scenesToRetry (ho : s.Ordered) (aoi : String) (force : Bool) :
    s.Undone ((s.scenesToRetry aoi force).map (.scene, ·.id)) := by
  refine undone_of_isRetryable force fun e he => ?_
  obtain ⟨x, hx, rfl⟩ := List.mem_map.1 he
  exact ⟨x.status, status_of_scenesToRetry ho hx⟩

theorem undone_tilesToRetry (ho : s.Ordered) {aoi : String} {ts : List Tile}
    (hts : ∀ t ∈ ts, t ∈ s.tilesToRetry aoi force) : s.Undone (ts.map (.tile, ·.id)) := by
  refine undone_of_isRetryable force fun e he => ?_
  obtain ⟨t, ht, rfl⟩ := List.mem_map.1 he
  exact ⟨t.status, status_of_tilesToRetry ho (hts t ht)⟩

end SceneWorkflow.Store
