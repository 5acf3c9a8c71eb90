import SceneWorkflow.Proofs.Cascade.Locality
import SceneWorkflow.Proofs.Engine.Aggregates
import SceneWorkflow.Proofs.Engine.Delivery

/-!
# What concerns one area

A unit of work for a scene or tile, and for a scene that is taken up, changes nothing but
in one area, and its jobs tell of that area only. So do units of work one after the other,
with whatever the relay does in between.
-/
namespace SceneWorkflow
open Store

namespace Store
variable {s s' s'' : Store} {kind : EntityKind} {id : Int} {area : String}

theorem entityAoi?_scene (s : Store) (id : Int) :
    s.entityAoi? .scene id = (s.sceneRef? id).map (·.aoi) := by
  rw [sceneRef?, Option.map_map]
  rfl

theorem entityAoi?_tile (s : Store) (id : Int) :
    s.entityAoi? .tile id = (s.tileRef? id).map (·.scene.aoi) := by
  rw [tileRef?, Option.map_bind]
  refine Option.bind_congr fun t _ => ?_
  rw [Function.comp_apply, Option.map_map]
  rfl

/-- Scenes and tiles that are there stay in their areas. -/
theorem Recalls.entityAoi? (h : Recalls s s') (harea : s.entityAoi? kind id = some area) :
    s'.entityAoi? kind id = some area := by
  cases kind with
  | scene =>
    rw [entityAoi?_scene] at harea ⊢
    obtain ⟨r, hr, rfl⟩ := Option.map_eq_some_iff.1 harea
    rw [h.scenes id r hr]
    rfl
  | tile =>
    rw [entityAoi?_tile] at harea ⊢
    obtain ⟨r, hr, rfl⟩ := Option.map_eq_some_iff.1 harea
    rw [h.tiles id r hr]
    rfl

/-- A unit of work has changed one area only, and its jobs tell of that area only. -/
structure Local (area : String) (s s' : Store) : Prop extends Announces area s s' where
  forest : Forest s'
  elsewhere : Elsewhere area s s'

end Store

/-! ### Units of work -/

namespace Cascade
variable {s s' : Store} {kind : EntityKind} {id : Int} {requested : Status}
  {message : Option String} {force accepted : Bool} {area : String}

theorem announces_change (h : Forest s) (harea : s.entityAoi? kind id = some area)
    (hok : (change kind id requested message force).exec s = .ok (accepted, s')) :
    Announces area s s' := by
  cases kind with
  | scene =>
    obtain ⟨x, hx, rfl, ⟨-, -, rfl⟩ | ⟨change, -, -, s₁, happly, rfl⟩⟩ := changeScene_eq_ok hok
    · exact .refl s'
    · cases (congrArg (Option.map Scene.aoi) hx).symm.trans harea
      exact (announces_applyToScene h hx happly).trans (announces_refreshAoiStatus s₁ _ _)
  | tile =>
    obtain ⟨t, x, ht, rfl, hx, ⟨-, -, rfl⟩ | ⟨change, -, -, s₁, happly, rfl⟩⟩ :=
      changeTile_eq_ok hok
    · exact .refl s'
    · rw [entityAoi?, ht] at harea
      exact (announces_applyToTile h ht harea happly).trans (announces_refreshAoiStatus s₁ _ _)

/-- A request concerns the area of its entity only. -/
theorem local_change (h : Forest s) (harea : s.entityAoi? kind id = some area)
    (hok : (change kind id requested message force).exec s = .ok (accepted, s')) :
    Local area s s' where
  toAnnounces := announces_change h harea hok
  forest := by
    cases kind with
    | scene => exact forest_changeScene h hok
    | tile => exact forest_changeTile h hok
  elsewhere := by
    obtain ⟨present, budget, area', hdecides⟩ := decides_change h hok
    cases hdecides.area_eq.symm.trans harea
    rcases hdecides.effect with ⟨-, -, rfl⟩ | ⟨change, -, -, s₁, notices, houtcome, rfl⟩
    · exact .refl area s'
    · exact (houtcome.elsewhere h.toOrdered harea).trans (elsewhere_refreshAoiStatus s₁ area)

end Cascade

namespace Ingestion
variable {s s' : Store} {r : SceneRequest} {scene : Int} {area : String}

theorem announces_createTiles {passes : Nat} {created : List String}
    (hok : (createTiles r scene passes created).exec s = .ok ((), s')) : Announces area s s' := by
  refine Work.exec_relates (P := fun i => ∀ c, i = .call c → ∃ draft, c = .createTile draft)
    .refl .trans ?_ (uses_createTiles ?_ (fun _ _ _ hc => nomatch hc) passes created) hok
  · intro c s a s' hc hperform
    obtain ⟨draft, rfl⟩ := hc c rfl
    obtain ⟨_, _, -, -, hinsert⟩ := createTile_eq_ok hperform
    obtain ⟨-, -, -, rfl⟩ := insertTile_eq_ok hinsert
    exact .silent (recalls_addTile s _) rfl
  · rintro draft - - c hc
    cases hc
    exact ⟨draft, rfl⟩

theorem announces_completeScene {id : Int} (harea : InArea scene r.aoi s)
    (hok : (completeScene r scene).exec s = .ok (id, s')) : Announces r.aoi s s' := by
  unfold completeScene at hok
  obtain ⟨_, s₁, hcreate, hok⟩ := Work.exec_bind_eq_ok hok
  obtain ⟨stored, s₂, hread, hok⟩ := Work.exec_bind_eq_ok hok
  obtain ⟨_, s₃, hqueue, hok⟩ := Work.exec_bind_eq_ok hok
  obtain ⟨hstored, rfl⟩ := Work.exec_scene_eq_ok hread
  obtain rfl := scene?_id hstored
  cases Work.exec_call (.enqueueJob .sceneJobs stored.ref.toJson.print) s₂ ▸ hqueue
  rw [Work.exec_bind_ok (Work.exec_refreshAoiStatus _)] at hok
  cases hok
  have htiles : Announces r.aoi s s₂ := announces_createTiles hcreate
  have hplace : s₂.entityAoi? .scene stored.id = some r.aoi := htiles.toRecalls.entityAoi? harea
  have haoi : stored.aoi = r.aoi :=
    Option.some.inj ((congrArg (Option.map Scene.aoi) hstored).symm.trans hplace)
  rw [← haoi] at htiles ⊢
  exact htiles.trans ((announces_enqueueScene hstored).trans (announces_refreshAoiStatus _ _ _))

/-- Taking up a scene concerns its area only. -/
theorem local_insertScene {id : Int} (h : Forest s) (hok : (insertScene r).exec s = .ok (id, s')) :
    Local r.aoi s s' := by
  obtain ⟨scene, s₁, hcreate, hrest⟩ := insertScene_eq_ok hok
  obtain ⟨-, harea⟩ := h.createScene hcreate
  have hcompleted := announces_completeScene harea hrest
  have helsewhere := elsewhere_of_exec (fills_completeScene r scene) hrest harea
  obtain ⟨-, -, -, rfl⟩ := createScene_eq_ok hcreate
  have hannounces : Announces r.aoi s s' :=
    (Announces.silent (recalls_addScene s _) rfl).trans hcompleted
  refine ⟨hannounces, forest_insertScene h hok, ?_⟩
  exact (elsewhere_addScene h.scene_exists ((sceneDraft r).row scene)).trans helsewhere

end Ingestion

/-! ### What operations concern -/

/-- No area but one has changed, and the jobs that have been queued tell of that one only. -/
structure Confined (area : String) (w w' : World Recorder) : Prop where
  elsewhere : Elsewhere area w.store w'.store
  jobs : ∃ log, Happens w log w' ∧ ∀ j ∈ log.queued, ∃ n : Notice,
    n.topic = j.topic ∧ n.payload = j.payload ∧ w'.store.Houses area n

/-- Besides, scenes and tiles are described as before. -/
structure Serves (area : String) (w w' : World Recorder) : Prop extends Confined area w w' where
  recalls : Recalls w.store w'.store
  forest : Forest w'.store
  queued : w'.store.Queued

section
variable {w w₁ w₂ w' : World Recorder} {area : String}

theorem Confined.trans (h : Confined area w w₁) (h' : Serves area w₁ w₂) : Confined area w w₂ where
  elsewhere := h.elsewhere.trans h'.elsewhere
  jobs := by
    obtain ⟨past, hpast, htell⟩ := h.jobs
    obtain ⟨future, hfuture, htell'⟩ := h'.jobs
    refine ⟨past ++ future, hpast.trans hfuture, fun j hj => ?_⟩
    rw [Log.queued_append, List.mem_append] at hj
    rcases hj with hj | hj
    · obtain ⟨n, htopic, hpayload, hn⟩ := htell j hj
      exact ⟨n, htopic, hpayload, h'.recalls.houses hn⟩
    · exact htell' j hj

theorem Serves.trans (h : Serves area w w₁) (h' : Serves area w₁ w₂) : Serves area w w₂ where
  toConfined := h.toConfined.trans h'
  recalls := h.recalls.trans h'.recalls
  forest := h'.forest
  queued := h'.queued

/-- What is done to a store in order concerns an area only. -/
def Serving (area : String) (w w' : World Recorder) : Prop :=
  Forest w.store → w.store.Queued → Serves area w w'

theorem passage_serving (area : String) : Passage (Serving area) where
  still := by
    intro w w' hstore hsink hforest hqueued
    refine ⟨⟨?_, [], .silent .start ⟨.inl hstore, by rw [hsink]⟩, nofun⟩, ?_, ?_, ?_⟩
    all_goals rw [hstore]
    · exact .refl area w.store
    · exact .refl w.store
    · exact hforest
    · exact hqueued
  trans := by
    intro w₁ w₂ w₃ h₁ h₂ hforest hqueued
    have hserves := h₁ hforest hqueued
    exact hserves.trans (h₂ hserves.forest hserves.queued)

theorem Serves.bind {α β : Type} {x : Operation Recorder α} {f : α → Operation Recorder β}
    (hx : Serves area w (x w).2)
    (hf : ∀ a, (x w).1 = .ok a → Serves area (x w).2 (f a (x w).2).2) :
    Serves area w ((x >>= f) w).2 := by
  cases h : (x w).1 with
  | error e =>
    rw [Operation.bind_of_error h]
    exact hx
  | ok a =>
    rw [Operation.bind_of_ok h]
    exact hx.trans (hf a h)

theorem serving_flush (area : String) (batchSize : Int) (w : World Recorder) :
    Serving area w (Outbox.flush batchSize w).2 := by
  intro hforest hqueued
  obtain ⟨log, hlog, hnone⟩ := unqueued_flush batchSize w hqueued
  obtain ⟨rest, -, hstore⟩ := Outbox.drops_flush batchSize hqueued
  have hsame := Outbox.sameRows_flush batchSize w
  refine ⟨⟨.of_sameRows (by rw [hstore]) hsame, log, hlog, ?_⟩, .of_sameRows hsame,
    hforest.of_sameRows hsame, hlog.queued hqueued⟩
  rw [hnone]
  exact nofun

theorem Store.Local.serves {task : Task} {a : task.Answer} (h : Local area w.store w'.store)
    (hqueued : w.store.Queued) (hbody : task.body.exec w.store = .ok (a, w'.store))
    (hsink : w'.sink = w.sink) : Serves area w w' where
  elsewhere := h.elsewhere
  jobs := by
    obtain ⟨jobs, hout, hhappens⟩ := happens_commit hbody hsink
    obtain ⟨js, hjs, htell⟩ := h.jobs
    obtain rfl := List.append_cancel_left (hout.symm.trans hjs)
    refine ⟨_, hhappens, fun j hj => htell j ?_⟩
    simpa [Log.queued, Event.queuedJobs] using hj
  recalls := h.toRecalls
  forest := h.forest
  queued := Work.queued_of_exec hbody hqueued

theorem serving_transact (operation : String) (task : Task)
    (hlocal : ∀ a s', Forest w.store → task.body.exec w.store = .ok (a, s') →
      Local area w.store s') :
    Serving area w (transact operation task.body w).2 := by
  rcases task.transact_cases operation w with
    ⟨-, -, hstore, hsink⟩ | ⟨a, w₁, hbody, hsink, -, hworld⟩
  · exact (passage_serving area).still hstore hsink
  · rw [hworld]
    intro hforest hqueued
    have hcommit := (hlocal a w₁.store hforest hbody).serves hqueued hbody hsink
    exact hcommit.trans (serving_flush area _ w₁ hcommit.forest hcommit.queued)

theorem serving_updateStatus {kind : EntityKind} {id : Int} {requested : Status}
    {message : Option String} {force : Bool} (harea : w.store.entityAoi? kind id = some area) :
    Serving area w (updateStatus kind id requested message force w).2 := by
  have hlocal (a : Bool) (s' : Store) (h : Forest w.store)
      (hok : (Cascade.change kind id requested message force).exec w.store = .ok (a, s')) :
      Local area w.store s' := Cascade.local_change h harea hok
  cases kind with
  | scene => exact serving_transact _ (.changeScene id requested message force) hlocal
  | tile => exact serving_transact _ (.changeTile id requested message force) hlocal

theorem SceneRequest.aoi_of_validate {r : SceneRequest} {aoi : String}
    (h : r.validate aoi = .ok ()) : r.aoi = aoi := by
  unfold validate at h
  split at h
  · cases h
  · next hsame => exact not_not.1 hsame

theorem serving_ingestScene (aoi : String) (r : SceneRequest) :
    (ingestScene aoi r).Within (Serving aoi) := by
  intro w
  cases hvalid : r.validate aoi with
  | error e =>
    have hrefused : ingestScene aoi r w = (.error e, w) := by
      rw [ingestScene, hvalid]
      rfl
    rw [hrefused]
    exact (passage_serving aoi).refl w
  | ok _ =>
    have hrun : ingestScene aoi r w = transact "ingest_scene" (Task.ingest r).body w := by
      rw [ingestScene, hvalid]
      rfl
    rw [hrun]
    refine serving_transact _ (.ingest r) fun a s' h hok => ?_
    rw [← SceneRequest.aoi_of_validate hvalid]
    exact Ingestion.local_insertScene h hok

theorem serving_ingestRemaining (aoi : String) (rs : List SceneRequest) (created : KeyMap Int) :
    (ingestRemaining aoi rs created).Within (Serving aoi) := by
  have hR := passage_serving aoi
  induction rs generalizing created with
  | nil => exact hR.within_pure _
  | cons r rest ih =>
    refine hR.within_bind (serving_ingestScene aoi r).attempt fun outcome => ?_
    cases outcome with
    | ok id => exact ih _
    | error e =>
      dsimp only
      split
      · exact ih _
      · exact hR.within_throw _

end

end SceneWorkflow
