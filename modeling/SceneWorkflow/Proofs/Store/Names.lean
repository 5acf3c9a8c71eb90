import Mathlib.Data.List.Nodup
import SceneWorkflow.Proofs.Store.Schema

/-!
# Names and identities

Rows are never taken away, and they keep their ids, names and places. No area holds
two scenes of one name, and no scene two tiles of one name, so that a link names one
tile at most. Each call that a unit of work may make keeps this.
-/
namespace SceneWorkflow

def Scene.identity (x : Scene) : Int × String × String := (x.id, x.aoi, x.sourceId)

def Tile.identity (t : Tile) : Int × Int × String := (t.id, t.scene, t.sourceId)

namespace Store
variable {s s' s'' : Store} {id : Int} {t u : Tile} {x y : Scene}

/-- The areas, scenes and tiles of one store are in another, as the first of their kind. -/
structure Retains (s s' : Store) : Prop where
  aois : ∀ a, s.aois.contains a → s'.aois.contains a
  scenes : s.scenes.map Scene.identity <+: s'.scenes.map Scene.identity
  tiles : s.tiles.map Tile.identity <+: s'.tiles.map Tile.identity

/-- Names are taken once: those of scenes in their area, those of tiles in their scene. -/
structure Named (s : Store) : Prop where
  scenes : (s.scenes.map fun x => (x.aoi, x.sourceId)).Nodup
  tiles : (s.tiles.map fun t => (t.scene, t.sourceId)).Nodup

/-- No scene or tile comes or goes, or turns into another. -/
structure SameIdentities (s s' : Store) : Prop where
  aois : ∀ a, s.aois.contains a → s'.aois.contains a
  scenes : s'.scenes.map Scene.identity = s.scenes.map Scene.identity
  tiles : s'.tiles.map Tile.identity = s.tiles.map Tile.identity

namespace Retains

theorem refl (s : Store) : Retains s s :=
  ⟨fun _ h => h, List.prefix_refl _, List.prefix_refl _⟩

theorem trans (h : Retains s s') (h' : Retains s' s'') : Retains s s'' where
  aois := fun a ha => h'.aois a (h.aois a ha)
  scenes := h.scenes.trans h'.scenes
  tiles := h.tiles.trans h'.tiles

theorem addScene (s : Store) (x : Scene) : Retains s (s.addScene x) where
  aois := fun _ ha => ha
  scenes := List.map_append ▸ List.prefix_append _ _
  tiles := List.prefix_refl _

theorem addTile (s : Store) (t : Tile) : Retains s (s.addTile t) where
  aois := fun _ ha => ha
  scenes := List.prefix_refl _
  tiles := List.map_append ▸ List.prefix_append _ _

end Retains

namespace SameIdentities

theorem of_sameRows (h : SameRows s s') : SameIdentities s s' :=
  ⟨h.aois, by rw [h.scenes], by rw [h.tiles]⟩

theorem refl (s : Store) : SameIdentities s s := .of_sameRows (.refl s)

theorem mapTiles {f : Tile → Tile} (hf : ∀ t, (f t).identity = t.identity) :
    SameIdentities s (s.mapTiles f) where
  aois := fun _ ha => ha
  scenes := rfl
  tiles := by
    rw [Store.mapTiles, List.map_map]
    exact List.map_congr_left fun t _ => hf t

theorem modifyTiles {p : Tile → Bool} {f : Tile → Tile}
    (hf : ∀ t, (f t).identity = t.identity) : SameIdentities s (s.modifyTiles p f) := by
  rw [modifyTiles_eq_mapTiles]
  refine mapTiles fun t => ?_
  split
  · exact hf t
  · rfl

theorem modifyScenes {p : Scene → Bool} {f : Scene → Scene}
    (hf : ∀ x, (f x).identity = x.identity) : SameIdentities s (s.modifyScenes p f) where
  aois := fun _ ha => ha
  scenes := by
    rw [Store.modifyScenes, List.map_map]
    refine List.map_congr_left fun x _ => ?_
    dsimp only [Function.comp_apply]
    split
    · exact hf x
    · rfl
  tiles := rfl

variable (h : SameIdentities s s')
include h

theorem retains : Retains s s' where
  aois := h.aois
  scenes := h.scenes ▸ List.prefix_refl _
  tiles := h.tiles ▸ List.prefix_refl _

theorem named (hn : s.Named) : s'.Named := by
  have hscenes := congrArg (List.map Prod.snd) h.scenes
  have htiles := congrArg (List.map Prod.snd) h.tiles
  simp only [List.map_map] at hscenes htiles
  constructor
  · exact hscenes ▸ hn.scenes
  · exact htiles ▸ hn.tiles

end SameIdentities

/-! ### What calls do to names -/

theorem named_empty : Named {} := ⟨.nil, .nil⟩

theorem sceneId?_eq_none {aoi name : String} :
    s.sceneId? aoi name = none ↔ ∀ x ∈ s.scenes, ¬ (x.aoi = aoi ∧ x.sourceId = name) := by
  simp [sceneId?, List.find?_eq_none]

theorem Named.createScene {d : SceneDraft} (h : s.Named) (hok : s.createScene d = .ok (id, s')) :
    s'.Named := by
  obtain ⟨hfree, -, -, rfl⟩ := createScene_eq_ok hok
  refine ⟨?_, h.tiles⟩
  show ((s.scenes ++ [d.row id]).map _).Nodup
  rw [List.map_append]
  refine List.nodup_append.2 ⟨h.scenes, List.pairwise_singleton _ _, ?_⟩
  intro place hplace other hother hsame
  obtain ⟨x, hx, rfl⟩ := List.mem_map.1 hplace
  obtain rfl := List.mem_singleton.1 hother
  exact sceneId?_eq_none.1 hfree x hx (Prod.mk.inj hsame)

theorem Named.createTile {d : TileDraft} (h : s.Named) (hok : s.createTile d = .ok (id, s')) :
    s'.Named := by
  obtain ⟨previous, reference, -, -, hinsert⟩ := createTile_eq_ok hok
  obtain ⟨hfree, -, -, rfl⟩ := insertTile_eq_ok hinsert
  refine ⟨h.scenes, ?_⟩
  show ((s.tiles ++ [d.row id previous reference]).map _).Nodup
  rw [List.map_append]
  refine List.nodup_append.2 ⟨h.tiles, List.pairwise_singleton _ _, ?_⟩
  intro place hplace other hother hsame
  obtain ⟨t, ht, rfl⟩ := List.mem_map.1 hplace
  obtain rfl := List.mem_singleton.1 hother
  exact hfree t ht (Prod.mk.inj hsame)

end Store

open Store

/-- A call stores a scene or a tile, or leaves all identities alone. -/
theorem Call.identities_of_perform {c : Call} {s s' : Store} {a : c.Answer}
    (hok : c.perform s = .ok (a, s')) :
    SameIdentities s s' ∨ (∃ draft id, s.createScene draft = .ok (id, s')) ∨
      ∃ draft id, s.createTile draft = .ok (id, s') := by
  cases c with
  | createScene draft => exact .inr (.inl ⟨draft, a, hok⟩)
  | createTile draft => exact .inr (.inr ⟨draft, a, hok⟩)
  | unblockNextTiles key | unblockSceneTiles key | unblockSceneRootTiles key =>
    obtain ⟨-, -, rfl⟩ := release_eq_ok.1 hok
    exact .inl (.modifyTiles fun _ => rfl)
  | reparentNextTiles old new =>
    obtain ⟨-, -, rfl⟩ := reparentNextTiles_eq_ok.1 hok
    exact .inl (.modifyTiles fun _ => rfl)
  | updateScene key update =>
    obtain ⟨_, hok, heq⟩ := map_eq_ok.1 hok
    obtain ⟨-, rfl⟩ := updateScene_eq_ok.1 hok
    cases heq
    exact .inl (.modifyScenes fun _ => rfl)
  | updateSceneAttrs key attrs =>
    obtain ⟨_, hok, heq⟩ := map_eq_ok.1 hok
    obtain ⟨-, rfl⟩ := replaceSceneAttrs_eq_ok.1 hok
    cases heq
    exact .inl (.modifyScenes fun _ => rfl)
  | updateTile key update =>
    obtain ⟨_, hok, heq⟩ := map_eq_ok.1 hok
    obtain ⟨-, rfl⟩ := updateTile_eq_ok.1 hok
    cases heq
    exact .inl (.modifyTiles fun _ => rfl)
  | updateTileAttrs key attrs =>
    obtain ⟨_, hok, heq⟩ := map_eq_ok.1 hok
    obtain ⟨-, rfl⟩ := replaceTileAttrs_eq_ok.1 hok
    cases heq
    exact .inl (.modifyTiles fun _ => rfl)
  | reassignReference old new =>
    obtain ⟨_, hok, heq⟩ := map_eq_ok.1 hok
    cases heq
    by_cases hne : old = new
    · rw [hne, reassignReference_self] at hok
      cases hok
      exact .inl (.refl s)
    · obtain ⟨-, rfl⟩ := (reassignReference_eq_ok hne).1 hok
      exact .inl (.mapTiles fun _ => rfl)
  | setTilesStatus ids status =>
    cases hok
    exact .inl (.modifyTiles fun _ => rfl)
  | refreshAoiStatus aoi =>
    cases hok
    exact .inl (.of_sameRows (sameRows_refreshAoiStatus s aoi))
  | enqueueJob topic payload =>
    cases hok
    exact .inl (.of_sameRows (sameRows_enqueueJob s topic payload))
  | sceneId aoi sourceId =>
    cases hok
    exact .inl (.refl s)
  | aoi name | scene key | tile key | sceneTiles key | referencingTiles key =>
    obtain ⟨_, _, heq⟩ := map_eq_ok.1 hok
    cases heq
    exact .inl (.refl s)

theorem Call.named_of_perform {c : Call} {s s' : Store} {a : c.Answer} (h : s.Named)
    (hok : c.perform s = .ok (a, s')) : s'.Named := by
  rcases identities_of_perform hok with hsame | ⟨draft, id, hcreate⟩ | ⟨draft, id, hcreate⟩
  · exact hsame.named h
  · exact h.createScene hcreate
  · exact h.createTile hcreate

theorem Call.retains_of_perform {c : Call} {s s' : Store} {a : c.Answer}
    (hok : c.perform s = .ok (a, s')) : Retains s s' := by
  rcases identities_of_perform hok with hsame | ⟨draft, id, hcreate⟩ | ⟨draft, id, hcreate⟩
  · exact hsame.retains
  · obtain ⟨-, -, -, rfl⟩ := createScene_eq_ok hcreate
    exact .addScene s _
  · obtain ⟨previous, reference, -, -, hinsert⟩ := createTile_eq_ok hcreate
    obtain ⟨-, -, -, rfl⟩ := insertTile_eq_ok hinsert
    exact .addTile s _

theorem Work.named_of_exec {α : Type} {w : Work α} {s s' : Store} {a : α} (h : s.Named)
    (hok : w.exec s = .ok (a, s')) : s'.Named :=
  exec_relates (R := fun s s' => s.Named → s'.Named) (P := fun _ => True) (fun _ h => h)
    (fun h₁ h₂ h => h₂ (h₁ h)) (fun _ _ _ _ _ hc hs => Call.named_of_perform hs hc)
    (Program.uses_true w) hok h

/-! ### What links name -/

namespace Store
variable {s s' : Store} {aoi : String} {l : TileLink} {t u : Tile} {x y : Scene}

/-- A link, in an area, names a tile: one of that name in a scene of that name. -/
def Names (s : Store) (aoi : String) (l : TileLink) (t : Tile) : Prop :=
  t ∈ s.tiles ∧ t.sourceId = l.tile ∧
    ∃ x, s.scene? t.scene = some x ∧ x.aoi = aoi ∧ x.sourceId = l.scene

theorem Named.scene_unique (h : s.Named) (hx : x ∈ s.scenes) (hy : y ∈ s.scenes)
    (haoi : x.aoi = y.aoi) (hname : x.sourceId = y.sourceId) : x = y :=
  List.inj_on_of_nodup_map h.scenes hx hy (Prod.ext haoi hname)

theorem Named.tile_unique (h : s.Named) (ht : t ∈ s.tiles) (hu : u ∈ s.tiles)
    (hscene : t.scene = u.scene) (hname : t.sourceId = u.sourceId) : t = u :=
  List.inj_on_of_nodup_map h.tiles ht hu (Prod.ext hscene hname)

/-- A link names one tile at most. -/
theorem Names.unique (hn : s.Named) (h : s.Names aoi l t) (h' : s.Names aoi l u) : t = u := by
  obtain ⟨ht, hname, x, hx, haoi, hscene⟩ := h
  obtain ⟨hu, hname', y, hy, haoi', hscene'⟩ := h'
  obtain rfl := hn.scene_unique (mem_of_scene? hx) (mem_of_scene? hy) (haoi.trans haoi'.symm)
    (hscene.trans hscene'.symm)
  exact hn.tile_unique ht hu ((scene?_id hx).symm.trans (scene?_id hy)) (hname.trans hname'.symm)

theorem linked?_eq_some (hn : s.Named) : s.linked? aoi l = some t ↔ s.Names aoi l t := by
  have hfound {u : Tile} (h : s.linked? aoi l = some u) : s.Names aoi l u := by
    obtain ⟨hu, hscene⟩ := mem_of_linked? h
    have hname := List.find?_some (p := fun t : Tile => t.sourceId == l.tile) h
    exact ⟨hu, eq_of_beq hname, hscene⟩
  refine ⟨hfound, fun h => ?_⟩
  cases hlinked : s.linked? aoi l with
  | some u => exact congrArg some ((hfound hlinked).unique hn h)
  | none =>
    obtain ⟨ht, hname, x, hx, haoi, hscene⟩ := h
    have hnone := List.find?_eq_none.1 hlinked t (List.mem_filter.2 ⟨ht, by simp [hx, haoi, hscene]⟩)
    exact absurd (beq_iff_eq.2 hname) hnone

end Store

end SceneWorkflow
