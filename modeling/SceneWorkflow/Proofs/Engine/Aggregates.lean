import SceneWorkflow.Proofs.Engine.Requests
import SceneWorkflow.Proofs.Store.Areas

/-!
# Areas are up to date

Every unit of work changes scenes and tiles of one area at most, and brings the status
of that area up to date in the end. So the status that is kept for an area is always
the one that its scenes and tiles call for.
-/
namespace SceneWorkflow
namespace Store
variable {s s' : Store} {kind : EntityKind} {id : Int} {change : Transition} {budget : Int}
  {message : Option String} {area : String} {notices : List Notice} {gone : List Int}

/-! ### Requests -/

theorem Ripples.elsewhere (h : Ripples area gone s s') (ho : s.Ordered) : Elsewhere area s s' := by
  have hscenes : s'.scenes = s.scenes.map fun x => x := by rw [h.scenes, List.map_id']
  have htiles : s'.tiles = s.tiles.map fun t => (s'.tile? t.id).getD t := by
    refine (List.map_id' _).symm.trans (map_eq_map_of_keys h.ids fun t _ t' ht' hid => ?_)
    rw [← hid, tile?, find?_of_ascending (h.tiles_ascend ho) ht']
    rfl
  refine elsewhere_of_rows h.aois hscenes (fun _ => rfl) (fun _ _ => .inl rfl) htiles fun t ht => ?_
  obtain ⟨t', ht', hmoves⟩ := h.row t.id t (ho.tile?_of_mem ht)
  rw [ht']
  refine ⟨hmoves.scene_eq, Decidable.or_iff_not_imp_right.2 fun harea => ?_⟩
  have hrow := h.outside t.id t (ho.tile?_of_mem ht) harea
  cases hrow.symm.trans ht'
  rfl

theorem elsewhere_moved (ho : s.Ordered) (harea : s.entityAoi? kind id = some area)
    (u : StatusUpdate) : Elsewhere area s (s.moved kind id u) := by
  cases kind with
  | scene =>
    obtain ⟨x, hx, rfl⟩ := Option.map_eq_some_iff.1 harea
    obtain rfl := scene?_id hx
    exact elsewhere_setScene ho hx u
  | tile =>
    obtain ⟨t, ht, hplace⟩ := Option.bind_eq_some_iff.1 harea
    obtain rfl := tile?_id ht
    exact elsewhere_setTile ho ht hplace u

theorem Outcome.elsewhere (h : Outcome kind id change budget message area s s' notices)
    (ho : s.Ordered) (harea : s.entityAoi? kind id = some area) : Elsewhere area s s' :=
  (elsewhere_moved ho harea _).trans (h.ripples.elsewhere (ordered_moved ho kind id _))

/-- A request leaves areas up to date, however it is answered. -/
theorem Decides.fresh {requested present : Status} {force accepted : Bool}
    (h : Decides kind id requested message force s s' accepted present budget area)
    (ho : s.Ordered) (hfresh : Fresh s) : Fresh s' := by
  rcases h.effect with ⟨-, -, rfl⟩ | ⟨change, -, -, s₁, notices, houtcome, rfl⟩
  · exact hfresh
  · exact hfresh.refresh (houtcome.elsewhere ho h.area_eq)

/-! ### Areas and scenes -/

theorem Fresh.createAoi {name : String} (h : Fresh s) (hs : s.Linked)
    (hok : s.createAoi name = .ok s') : Fresh s' := by
  unfold Store.createAoi at hok
  split at hok
  · cases hok
  · next hnew =>
    cases hok
    intro other status hstatus
    show status = s.aggregate other
    change (s.aois.insert name .new).find? other = some status at hstatus
    rw [KeyMap.find?_insert] at hstatus
    split at hstatus
    · next hname =>
      subst hname
      cases hstatus
      have hnone : s.scenesOf name = [] := by
        refine List.filter_eq_nil_iff.2 fun x hx hname => hnew ?_
        rw [← eq_of_beq hname]
        exact hs.aoi_exists x hx
      rcases s.callsFor_aggregate name with ⟨-, heq⟩ | ⟨m, ⟨hmem, -⟩, -⟩
      · exact heq.symm
      · rw [hnone] at hmem
        cases hmem
    · exact h other status hstatus

theorem standings_modifyScenes {p : Scene → Bool} {f : Scene → Scene}
    (hf : ∀ x, (f x).id = x.id ∧ (f x).aoi = x.aoi ∧ (f x).status = x.status) :
    (s.modifyScenes p f).sceneStandings = s.sceneStandings := by
  show (s.scenes.map _).map _ = _
  rw [List.map_map]
  refine List.map_congr_left fun x _ => ?_
  obtain ⟨hid, haoi, hstatus⟩ := hf x
  show (fun x : Scene => (x.id, x.aoi, x.status)) (if p x then f x else x) = _
  split
  · simp only [hid, haoi, hstatus]
  · rfl

theorem standings_modifyTiles {p : Tile → Bool} {f : Tile → Tile}
    (hf : ∀ t, (f t).scene = t.scene ∧ (f t).status = t.status) :
    (s.modifyTiles p f).tileStandings = s.tileStandings := by
  show (s.tiles.map _).map _ = _
  rw [List.map_map]
  refine List.map_congr_left fun t _ => ?_
  obtain ⟨hscene, hstatus⟩ := hf t
  show (fun t : Tile => (t.scene, t.status)) (if p t then f t else t) = _
  split
  · simp only [hscene, hstatus]
  · rfl

end Store

namespace Ingestion
open Store
variable {s s' : Store}

/-- While the tiles of a scene are stored, nothing changes but in its area. -/
theorem elsewhere_of_fills {scene : Int} {aoi : String} {c : Call} {a : c.Answer}
    (hc : Fills scene aoi (.call c)) (hok : c.perform s = .ok (a, s'))
    (hscene : InArea scene aoi s) : Elsewhere aoi s s' ∧ InArea scene aoi s' := by
  cases c with
  | createTile draft =>
    obtain ⟨rfl, rfl⟩ := hc
    obtain ⟨previous, reference, -, -, hinsert⟩ := createTile_eq_ok hok
    obtain ⟨-, -, -, rfl⟩ := insertTile_eq_ok hinsert
    exact ⟨elsewhere_addTile hscene, hscene⟩
  | enqueueJob topic payload =>
    cases hok
    exact ⟨.of_sameRows rfl (sameRows_enqueueJob s topic payload), hscene⟩
  | refreshAoiStatus area =>
    cases hok
    obtain rfl : area = aoi := hc
    exact ⟨elsewhere_refreshAoiStatus s area,
      hscene.of_scenes (sameRows_refreshAoiStatus s area).scenes⟩
  | scene id =>
    obtain ⟨_, _, heq⟩ := map_eq_ok.1 hok
    cases heq
    exact ⟨.refl aoi s, hscene⟩
  | aoi _ | sceneId _ _ | createScene _ | updateScene _ _ | updateSceneAttrs _ _ | tile _
  | sceneTiles _ | updateTile _ _ | updateTileAttrs _ _ | setTilesStatus _ _ | unblockNextTiles _
  | unblockSceneTiles _ | unblockSceneRootTiles _ | reparentNextTiles _ _ | referencingTiles _
  | reassignReference _ _ => exact hc.elim

theorem elsewhere_of_exec {α : Type} {scene : Int} {aoi : String} {w : Work α} {a : α}
    (hw : w.Uses (Fills scene aoi)) (hok : w.exec s = .ok (a, s'))
    (hscene : InArea scene aoi s) : Elsewhere aoi s s' :=
  (Work.exec_relates (P := Fills scene aoi)
    (R := fun s s' => InArea scene aoi s → Elsewhere aoi s s' ∧ InArea scene aoi s')
    (fun s h => ⟨.refl aoi s, h⟩)
    (fun h₁ h₂ h => ⟨(h₁ h).1.trans (h₂ (h₁ h).2).1, (h₂ (h₁ h).2).2⟩)
    (fun _ _ _ _ hc hok => elsewhere_of_fills hc hok) hw hok hscene).1

/-- What is done for a scene ends with bringing its area up to date. -/
theorem completeScene_eq_ok {r : SceneRequest} {scene id : Int}
    (hok : (completeScene r scene).exec s = .ok (id, s')) :
    ∃ s₁, (do
        createTiles r scene r.tiles.size []
        let stored ← Work.scene scene
        Cascade.queueScene stored).exec s = .ok ((), s₁) ∧ s' = (s₁.refreshAoiStatus r.aoi).2 := by
  unfold completeScene at hok
  obtain ⟨_, s₁, hcreate, hok⟩ := Work.exec_bind_eq_ok hok
  obtain ⟨stored, s₂, hread, hok⟩ := Work.exec_bind_eq_ok hok
  obtain ⟨_, s₃, hqueue, hok⟩ := Work.exec_bind_eq_ok hok
  rw [Work.exec_bind_ok (Work.exec_refreshAoiStatus _)] at hok
  cases hok
  refine ⟨s₃, ?_, rfl⟩
  rw [Work.exec_bind_ok hcreate, Work.exec_bind_ok hread]
  exact hqueue

theorem fills_queueing (r : SceneRequest) (scene : Int) :
    (do createTiles r scene r.tiles.size []
        let stored ← Work.scene scene
        Cascade.queueScene stored).Uses (Fills scene r.aoi) :=
  Program.uses_bind (fills_createTiles r scene _ _) fun _ =>
    Program.uses_bind (Program.uses_perform trivial) fun _ => Program.uses_perform nofun

theorem fresh_insertScene {r : SceneRequest} {id : Int} (h : Forest s) (hfresh : Fresh s)
    (hok : (insertScene r).exec s = .ok (id, s')) : Fresh s' := by
  obtain ⟨scene, s₁, hcreate, hrest⟩ := insertScene_eq_ok hok
  obtain ⟨-, harea⟩ := h.createScene hcreate
  have helse : Elsewhere r.aoi s s₁ := by
    obtain ⟨-, -, -, rfl⟩ := createScene_eq_ok hcreate
    exact elsewhere_addScene h.scene_exists ((sceneDraft r).row scene)
  obtain ⟨s₂, hqueueing, rfl⟩ := completeScene_eq_ok hrest
  exact hfresh.refresh (helse.trans (elsewhere_of_exec (fills_queueing r scene) hqueueing harea))

end Ingestion

open Store

/-! ### Every change -/

theorem Task.fresh {task : Task} {s s' : Store} {a : task.Answer} (h : Forest s) (hfresh : Fresh s)
    (hok : task.body.exec s = .ok (a, s')) : Fresh s' := by
  cases task with
  | ingest r => exact Ingestion.fresh_insertScene h hfresh hok
  | changeScene id requested message force =>
    obtain ⟨present, budget, area, hdecides⟩ := Cascade.decides_changeScene h hok
    exact hdecides.fresh h.toOrdered hfresh
  | changeTile id requested message force =>
    obtain ⟨present, budget, area, hdecides⟩ := Cascade.decides_changeTile h hok
    exact hdecides.fresh h.toOrdered hfresh
  | updateSceneAttrs id attrs =>
    obtain rfl := Work.exec_updateSceneAttrs_eq_ok hok
    exact hfresh.congr rfl (standings_modifyScenes fun _ => ⟨rfl, rfl, rfl⟩) rfl
  | updateTileAttrs id attrs =>
    obtain rfl := Work.exec_updateTileAttrs_eq_ok hok
    exact hfresh.congr rfl rfl (standings_modifyTiles fun _ => ⟨rfl, rfl⟩)

theorem lasting_fresh : Lasting fun s => Forest s ∧ Fresh s where
  creation := fun s name s' h hok =>
    ⟨lasting_forest.creation s name s' h.1 hok, h.2.createAoi h.1.toLinked hok⟩
  relay := fun s ids h => ⟨lasting_forest.relay s ids h.1, h.2.congr rfl rfl rfl⟩
  task := fun _ _ _ _ h hok => ⟨Task.forest h.1 hok, Task.fresh h.1 h.2 hok⟩

theorem Attainable.fresh {s : Store} (h : Attainable s) : Fresh s :=
  (h.induct lasting_fresh ⟨forest_empty, nofun⟩).2

/-- Whatever is done and forced, the status kept for an area is the one that its scenes and tiles call
for. -/
theorem Attainable.area_status {s : Store} (h : Attainable s) {aoi : String} {status : Status}
    (hstatus : s.aois.find? aoi = some status) : s.CallsFor aoi status := by
  rw [h.fresh aoi status hstatus]
  exact s.callsFor_aggregate aoi

/-- Of two tiles that were done one has been made new again by force. -/
def reopened : World Recorder :=
  underway.after
    [.updateStatus .tile 1 .done none false,
      .updateStatus .tile 2 .done none false,
      .updateStatus .tile 1 .new none true]

theorem area_status_reopened :
    Attainable reopened.store ∧ reopened.store.aois.find? "north" = some .new ∧
      (reopened.store.scenesOf "north").map (·.status) = [.done] ∧
      reopened.store.CallsFor "north" .new := by
  have hattain : Attainable reopened.store := ((Attainable.empty.after _).after _).after _
  have hstatus : reopened.store.aois.find? "north" = some .new := by decide +kernel
  exact ⟨hattain, hstatus, by decide +kernel, hattain.area_status hstatus⟩

end SceneWorkflow
