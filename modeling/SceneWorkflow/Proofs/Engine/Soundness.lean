import SceneWorkflow.Proofs.Cascade.SceneSteps
import SceneWorkflow.Proofs.Engine.Commands
import SceneWorkflow.Proofs.Engine.Ingestion

/-!
# Reachable stores are sound

Every unit of work that is not forced advances a sound store, so every store that
comes about without force is sound.
-/
namespace SceneWorkflow
namespace Store
variable {s s' : Store} {id : Int} {late : Prop}

/-! ### Attributes -/

/-- Rewriting tiles in all but place, predecessor and status keeps the life cycle. -/
theorem Lifecycle.mapTiles_of_status {g : Tile → Tile} (h : Lifecycle [] s)
    (hid : ∀ t, (g t).id = t.id) (hscene : ∀ t, (g t).scene = t.scene)
    (hprevious : ∀ t, (g t).previous = t.previous) (hstatus : ∀ t, (g t).status = t.status) :
    Lifecycle [] (s.mapTiles g) := by
  have htile : (s.mapTiles g).tileStatus? = s.tileStatus? := by
    funext k
    rw [tileStatus?, tile?_mapTiles hid, tileStatus?, Option.map_map]
    exact Option.map_congr fun t _ => hstatus t
  refine h.mapTiles hid hscene ?_ (fun _ hmem => hmem) .nil ?_
  · intro t ht k hk
    rw [hprevious] at hk
    exact h.previous_lt t ht k hk
  · intro t ht
    rw [previousStatus?, htile, hprevious, hstatus]
    exact h.fits t ht

theorem Sound.mapTiles {g : Tile → Tile} (h : Sound [] s) (hid : ∀ t, (g t).id = t.id)
    (hscene : ∀ t, (g t).scene = t.scene) (hprevious : ∀ t, (g t).previous = t.previous)
    (hreference : ∀ t, (g t).reference = t.reference) (hstatus : ∀ t, (g t).status = t.status)
    (hbudget : ∀ t, (g t).budget = t.budget) : Advances late s (s.mapTiles g) := by
  have hschema : (s.mapTiles g).Schema := by
    apply h.toSchema.mapTiles hid hscene
    intro t ht
    rw [hprevious, hreference]
    exact ⟨h.previous_exists t ht, h.reference_exists t ht⟩
  have hlegible : (s.mapTiles g).Legible := by
    apply h.toLegible.mapTiles
    intro t ht
    rw [hbudget]
    exact h.tile_legible t ht
  have hhanded : Handed [] [] s (s.mapTiles g) :=
    .mapTiles hid hreference (fun t _ => by rw [hstatus]) []
  refine advances_of_outbox (h.of_handed hschema hlegible ?_ hhanded) hhanded rfl
  exact h.toLifecycle.mapTiles_of_status hid hscene hprevious hstatus

theorem Sound.modifyScenes {q : Scene → Bool} {g : Scene → Scene} (h : Sound [] s)
    (hid : ∀ x, (g x).id = x.id) (haoi : ∀ x, (g x).aoi = x.aoi)
    (hstatus : ∀ x, (g x).status = x.status) (hbudget : ∀ x, (g x).budget = x.budget) :
    Advances late s (s.modifyScenes q g) := by
  have hkeeps (x : Scene) : (if q x then g x else x).status = x.status ∧
      (if q x then g x else x).budget = x.budget := by
    split
    · exact ⟨hstatus x, hbudget x⟩
    · exact ⟨rfl, rfl⟩
  have htiles : (s.modifyScenes q g).tiles = s.tiles := rfl
  have hlegible : (s.modifyScenes q g).Legible := by
    refine ⟨fun y hy => ?_, h.tile_legible⟩
    obtain ⟨x, hx, rfl⟩ := List.mem_map.1 hy
    rw [(hkeeps x).2]
    exact h.scene_legible x hx
  have hlife : Lifecycle [] (s.modifyScenes q g) := by
    refine h.toLifecycle.congr htiles (fun y hy => ?_) fun t _ => ?_
    · obtain ⟨x, hx, rfl⟩ := List.mem_map.1 hy
      rw [(hkeeps x).1]
      exact h.scene_taken_up x hx
    · rw [sceneStatus?, scene?_modifyScenes hid, sceneStatus?, Option.map_map]
      exact Option.map_congr fun x _ => (hkeeps x).1
  have hhanded : Handed [] [] s (s.modifyScenes q g) := .of_tiles htiles []
  exact advances_of_outbox
    (h.of_handed (h.toSchema.modifyScenes hid haoi) hlegible hlife hhanded) hhanded rfl

theorem Sound.replaceTileAttrs {attrs : TileAttrs} (h : Sound [] s)
    (hok : s.replaceTileAttrs id attrs = .ok s') : Advances late s s' := by
  obtain ⟨-, rfl⟩ := replaceTileAttrs_eq_ok.1 hok
  rw [modifyTiles_eq_mapTiles]
  refine h.mapTiles ?_ ?_ ?_ ?_ ?_ ?_
  all_goals
    intro t
    split <;> rfl

theorem Sound.replaceSceneAttrs {attrs : SceneAttrs} (h : Sound [] s)
    (hok : s.replaceSceneAttrs id attrs = .ok s') : Advances late s s' := by
  obtain ⟨-, rfl⟩ := replaceSceneAttrs_eq_ok.1 hok
  exact h.modifyScenes (fun _ => rfl) (fun _ => rfl) (fun _ => rfl) fun _ => rfl

end Store

open Store

/-! ### Units of work -/

/-- The only unit of work in which several tiles fail. -/
def Task.failsScene : Task → Prop
  | changeScene _ requested _ _ => requested = .failed
  | _ => False

/-- A unit of work that succeeds advances a sound store, if it is not forced. -/
theorem Task.advances {task : Task} (htask : task.isForced = false) {s s' : Store}
    {a : task.Answer} (h : Sound [] s) (hok : task.body.exec s = .ok (a, s')) :
    Advances task.failsScene s s' := by
  cases task with
  | ingest r => exact Ingestion.advances_insertScene h hok
  | changeScene id requested message force =>
    obtain rfl : force = false := htask
    obtain ⟨x, s₁, hscene, -⟩ := Work.exec_bind_eq_ok hok
    obtain ⟨y, hget, heq⟩ := map_eq_ok.1 (Work.exec_call (.scene id) s ▸ hscene)
    cases heq
    obtain ⟨hx, -⟩ := getScene_eq_ok.1 hget
    obtain rfl := scene?_id hx
    obtain ⟨s₂, hexec, hadvances⟩ := Cascade.exec_changeScene h hx requested message
    cases hexec.symm.trans hok
    exact hadvances
  | changeTile id requested message force =>
    obtain rfl : force = false := htask
    obtain ⟨t, s₁, htile, -⟩ := Work.exec_bind_eq_ok hok
    obtain ⟨u, hget, heq⟩ := map_eq_ok.1 (Work.exec_call (.tile id) s ▸ htile)
    cases heq
    obtain ⟨ht, -⟩ := getTile_eq_ok.1 hget
    obtain rfl := tile?_id ht
    obtain ⟨s₂, hexec, hadvances⟩ := Cascade.exec_changeTile h ht requested message
    cases hexec.symm.trans hok
    exact hadvances
  | updateSceneAttrs id attrs =>
    obtain ⟨_, hreplace, heq⟩ := map_eq_ok.1 (Work.exec_call (.updateSceneAttrs id attrs) s ▸ hok)
    cases heq
    exact h.replaceSceneAttrs hreplace
  | updateTileAttrs id attrs =>
    obtain ⟨_, hreplace, heq⟩ := map_eq_ok.1 (Work.exec_call (.updateTileAttrs id attrs) s ▸ hok)
    cases heq
    exact h.replaceTileAttrs hreplace

theorem stable_sound : Stable (Sound []) where
  creation := fun _ _ _ h hok => h.of_sameRows (sameRows_createAoi hok)
  relay := fun s ids h => h.of_sameRows (sameRows_ackJobs s ids)
  task := fun _ htask _ _ _ h hok => (Task.advances htask h hok).sound

theorem Reachable.sound {s : Store} (h : Reachable s) : Sound [] s :=
  h.induct stable_sound sound_empty

section
variable {σ : Type} [Sink σ]

/-- A unit of work leaves a sound store, whatever disturbs it. -/
theorem sound_transact {w : World σ} (h : Sound [] w.store) (operation : String) {task : Task}
    (htask : task.isForced = false) : Sound [] (transact operation task.body w).2.store :=
  stable_sound.keeps_transact operation task htask h

theorem handed_transact {w : World σ} (h : Sound [] w.store) (operation : String) {task : Task}
    (htask : task.isForced = false) :
    ∃ failing, Handed failing [] w.store (transact operation task.body w).2.store := by
  rcases task.transact_rows operation w with ⟨-, -, hsame⟩ | ⟨a, s, hbody, -, hsame⟩
  · exact ⟨[], hsame ▸ .of_sameRows (.refl w.store) []⟩
  · obtain ⟨failing, hh⟩ := (task.advances htask h hbody).handed
    exact ⟨failing, hh.trans (.of_sameRows hsame [])⟩

end

end SceneWorkflow
