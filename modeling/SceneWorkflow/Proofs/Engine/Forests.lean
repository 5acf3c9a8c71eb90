import SceneWorkflow.Proofs.Cascade.Chains
import SceneWorkflow.Proofs.Engine.Activities
import SceneWorkflow.Proofs.Engine.Ingestion

/-!
# Attainable stores are forests

Every unit of work keeps the forest of tiles, a forced one as well. So what tiles
follow and are compared with is in order in every store that comes about.
-/
namespace SceneWorkflow
open Store

namespace Ingestion
variable {s s' : Store}

def InArea (scene : Int) (aoi : String) (s : Store) : Prop :=
  (s.scene? scene).map (·.aoi) = some aoi

theorem InArea.of_scenes {scene : Int} {aoi : String} (h : InArea scene aoi s)
    (hscenes : s'.scenes = s.scenes) : InArea scene aoi s' := by
  rwa [InArea, scene?, hscenes]

/-- While the tiles of a scene are stored, they come to build on tiles of its area. -/
theorem forest_of_fills {scene : Int} {aoi : String} {c : Call} {a : c.Answer}
    (hc : Fills scene aoi (.call c)) (hok : c.perform s = .ok (a, s')) (h : Forest s)
    (hscene : InArea scene aoi s) : Forest s' ∧ InArea scene aoi s' := by
  rcases fills_cases hc hok with hsame | ⟨draft, id, rfl, rfl, hcreate⟩
  · exact ⟨h.of_sameRows hsame, hscene.of_scenes hsame.scenes⟩
  · obtain ⟨hforest, hscenes⟩ := h.createTile hscene hcreate
    exact ⟨hforest, hscene.of_scenes hscenes⟩

theorem forest_insertScene {r : SceneRequest} {id : Int} (h : Forest s)
    (hok : (insertScene r).exec s = .ok (id, s')) : Forest s' := by
  obtain ⟨scene, s₁, hcreate, hrest⟩ := insertScene_eq_ok hok
  obtain ⟨hforest, harea⟩ := h.createScene hcreate
  have hkept := Work.exec_relates (P := Fills scene r.aoi)
    (R := fun s s' => Forest s → InArea scene r.aoi s → Forest s' ∧ InArea scene r.aoi s')
    (fun _ h hscene => ⟨h, hscene⟩)
    (fun h₁ h₂ h hscene => h₂ (h₁ h hscene).1 (h₁ h hscene).2)
    (fun _ _ _ _ hc hok => forest_of_fills hc hok) (fills_completeScene r scene) hrest
  exact (hkept hforest harea).1

end Ingestion

/-- A unit of work that succeeds keeps the forest, forced or not. -/
theorem Task.forest {task : Task} {s s' : Store} {a : task.Answer} (h : Forest s)
    (hok : task.body.exec s = .ok (a, s')) : Forest s' := by
  cases task with
  | ingest r => exact Ingestion.forest_insertScene h hok
  | changeScene id requested message force => exact Cascade.forest_changeScene h hok
  | changeTile id requested message force => exact Cascade.forest_changeTile h hok
  | updateSceneAttrs id attrs =>
    exact Cascade.forest_of_exec h hok (Program.uses_perform trivial)
  | updateTileAttrs id attrs =>
    exact Cascade.forest_of_exec h hok (Program.uses_perform trivial)

theorem lasting_forest : Lasting Forest where
  creation := fun _ _ _ h hok => h.of_sameRows (sameRows_createAoi hok)
  relay := fun s ids h => h.of_sameRows (sameRows_ackJobs s ids)
  task := fun _ _ _ _ h hok => Task.forest h hok

theorem Attainable.forest {s : Store} (h : Attainable s) : Forest s :=
  h.induct lasting_forest forest_empty

/-- Whatever is done and forced, a tile follows at most an older tile that has not failed, and
nothing once it has failed itself. From each tile a chain of ever older tiles leads to one that
follows none. What a tile follows and what it is compared with are in its own area. -/
theorem Attainable.predecessors {s : Store} (h : Attainable s) {t : Tile} (ht : t ∈ s.tiles) :
    (∀ id, t.previous = some id → id < t.id ∧
      ∃ p, s.tile? id = some p ∧ p.status ≠ .failed ∧ s.aoiOf? p = s.aoiOf? t) ∧
    (∀ id, t.reference = some id → ∃ r, s.tile? id = some r ∧ s.aoiOf? r = s.aoiOf? t) ∧
    (t.status = .failed → t.previous = none) ∧ (s.aoiOf? t).isSome ∧
    ∃ chain, s.Chain t.id chain ∧ (t.id :: chain).Pairwise (· > ·) := by
  have hf := h.forest
  refine ⟨?_, ?_, hf.failed_detached t ht, ?_, ?_⟩
  · intro id hid
    have hlinked := hf.previous_exists t ht
    rw [hid] at hlinked
    obtain ⟨p, hp⟩ := Option.isSome_iff_exists.1 hlinked
    obtain rfl := tile?_id hp
    have hmem := mem_of_tile? hp
    exact ⟨hf.previous_lt t ht p.id hid, p, hp, hf.previous_live t ht p hmem hid,
      hf.same_area t ht p hmem (.inl hid)⟩
  · intro id hid
    have hlinked := hf.reference_exists t ht
    rw [hid] at hlinked
    obtain ⟨r, hr⟩ := Option.isSome_iff_exists.1 hlinked
    obtain rfl := tile?_id hr
    exact ⟨r, hr, hf.same_area t ht r (mem_of_tile? hr) (.inr hid)⟩
  · rw [aoiOf?, Option.isSome_map]
    exact hf.scene_exists t ht
  · obtain ⟨chain, htrail⟩ := hf.exists_trail ht
    exact ⟨chain, ⟨t, hf.tile?_of_mem ht, htrail⟩, hf.chain_descends ht htrail⟩

/-- The middle one of three tiles in a row has been made to fail before its turn, and has been made
new again. -/
def revived : World Recorder :=
  World.after { sink := {} }
    [.createAoi "north",
      .ingestScene "north" (.ofTiles "north" "s1"
        [("a", {}), ("b", { previous := some ⟨"s1", "a"⟩ }),
          ("c", { previous := some ⟨"s1", "b"⟩, reference := some ⟨"s1", "a"⟩ })]),
      .updateStatus .tile 2 .failed none true,
      .updateStatus .tile 2 .new none true,
      .retryAoi "north" true]

theorem predecessors_revived :
    Attainable revived.store ∧ ∃ t ∈ revived.store.tiles, t.id = 3 ∧ t.previous = some 1 ∧
      (∃ p, revived.store.tile? 1 = some p ∧ p.status ≠ .failed ∧
        revived.store.aoiOf? p = revived.store.aoiOf? t) ∧
      ∃ chain, revived.store.Chain 3 chain ∧ (3 :: chain).Pairwise (· > ·) := by
  have hattain : Attainable revived.store := Attainable.empty.after _
  have hthird : ∃ t ∈ revived.store.tiles, t.id = 3 ∧ t.previous = some 1 := by decide +kernel
  obtain ⟨t, ht, hid, hprevious⟩ := hthird
  obtain ⟨hfollows, -, -, -, hchain⟩ := hattain.predecessors ht
  rw [hid] at hchain
  exact ⟨hattain, t, ht, hid, hprevious, (hfollows 1 hprevious).2, hchain⟩

end SceneWorkflow
