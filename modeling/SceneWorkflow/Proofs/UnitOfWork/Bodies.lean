import SceneWorkflow.Ingestion
import SceneWorkflow.Cascade.Scene
import SceneWorkflow.Proofs.UnitOfWork.Notes

/-!
# The bodies of the workflow take notes faithfully

A cascade updates its scene before it asks for any scene, notes what it has made
of it, and updates no scene after that. So each body comes to the same with its
notes as with fresh reads.
-/
namespace SceneWorkflow
open Program

namespace Cascade

theorem steady_call {c : Call} (hscene : c.kind ≠ .updateScene)
    (hattrs : c.kind ≠ .updateSceneAttrs) : (Work.call c).Uses Instruction.Steady :=
  uses_perform ⟨hscene, hattrs⟩

theorem steady_known (scene : Int) : (Work.known scene).Uses Instruction.Steady :=
  uses_perform trivial

theorem steady_fail {α : Type} (e : Error) : (Work.fail e : Work α).Uses Instruction.Steady :=
  ⟨trivial, nofun⟩

theorem steady_tile (id : Int) : (Work.tile id).Uses Instruction.Steady :=
  steady_call nofun nofun

theorem steady_refreshAoiStatus (aoi : String) :
    (Work.refreshAoiStatus aoi).Uses Instruction.Steady :=
  steady_call nofun nofun

theorem steady_describe (t : Tile) : (describe t).Uses Instruction.Steady :=
  uses_bind (steady_known _) fun _ => uses_pure _ _

theorem steady_describeLinked (link : Option Int) :
    (describeLinked link).Uses Instruction.Steady := by
  cases link with
  | none => exact uses_pure _ _
  | some id =>
    exact uses_bind (steady_tile _) fun t => uses_bind (steady_describe t) fun _ => uses_pure _ _

theorem steady_queueTile (t : Tile) : (queueTile t).Uses Instruction.Steady :=
  uses_bind (steady_describeLinked _) fun _ => uses_bind (steady_describeLinked _) fun _ =>
    uses_bind (steady_describe _) fun _ => steady_call nofun nofun

theorem steady_queueScene (x : Scene) : (queueScene x).Uses Instruction.Steady :=
  steady_call nofun nofun

theorem steady_finishTile (t : Tile) (message : Option String) :
    (finishTile t message).Uses Instruction.Steady :=
  uses_bind (steady_call nofun nofun) fun _ => uses_bind (steady_call nofun nofun) fun next =>
    uses_forM steady_queueTile next

theorem steady_retryTile (t : Tile) (message : Option String) :
    (retryTile t message).Uses Instruction.Steady := by
  unfold retryTile
  split
  · exact uses_bind (steady_call nofun nofun) fun _ => steady_queueTile t
  · exact steady_call nofun nofun

theorem steady_requirePreviousDone (t : Tile) :
    (requirePreviousDone t).Uses Instruction.Steady := by
  unfold requirePreviousDone
  split
  · exact uses_pure _ _
  · apply uses_bind (steady_tile _)
    intro previous
    split
    · exact uses_pure _ _
    · exact steady_fail _

theorem steady_requeueTile (t : Tile) (scene : Status) (message : Option String) (force : Bool) :
    (requeueTile t scene message force).Uses Instruction.Steady := by
  apply uses_bind (steady_requirePreviousDone t)
  intro _
  split
  · exact uses_bind (steady_call nofun nofun) fun _ => steady_queueTile t
  · exact steady_fail _

theorem steady_requirePreviousAlive (t : Tile) :
    (requirePreviousAlive t).Uses Instruction.Steady := by
  unfold requirePreviousAlive
  split
  · exact uses_pure _ _
  · apply uses_bind (steady_tile _)
    intro previous
    split
    · exact steady_fail _
    · apply uses_bind (steady_known _)
      intro scene
      split
      · exact steady_fail _
      · exact uses_pure _ _

theorem steady_firstInLiveScene (ids : List Int) :
    (firstInLiveScene ids).Uses Instruction.Steady := by
  induction ids with
  | nil => exact uses_pure _ _
  | cons id rest ih =>
    refine uses_bind (steady_tile _) fun t => uses_bind (steady_known _) fun scene => ?_
    split
    · exact ih
    · exact uses_pure _ _

theorem steady_firstLive (ts : List Tile) : (firstLive ts).Uses Instruction.Steady := by
  induction ts with
  | nil => exact uses_pure _ _
  | cons t rest ih =>
    unfold firstLive
    split
    · exact ih
    · apply uses_bind (steady_known _)
      intro scene
      split
      · exact ih
      · exact uses_pure _ _

theorem steady_electReference (failed : Int) (dependents : List Int) :
    (electReference failed dependents).Uses Instruction.Steady := by
  apply uses_bind (steady_firstInLiveScene _)
  intro found
  split
  · exact uses_pure _ _
  · exact uses_bind (steady_call nofun nofun) fun candidates => steady_firstLive candidates

theorem steady_handOverReference (t : Tile) (dependents : List Int) :
    (handOverReference t dependents).Uses Instruction.Steady := by
  unfold handOverReference
  split
  · exact uses_pure _ _
  · apply uses_bind (steady_electReference _ _)
    intro new
    split
    · exact steady_call nofun nofun
    · exact uses_pure _ _

theorem steady_previousDone (t : Tile) : (previousDone t).Uses Instruction.Steady := by
  unfold previousDone
  split
  · exact uses_pure _ _
  · exact uses_bind (steady_tile _) fun _ => uses_pure _ _

theorem steady_startable (inheritedDone : Bool) (t : Tile) :
    (startable inheritedDone t).Uses Instruction.Steady := by
  unfold startable
  split
  · exact uses_bind (steady_known _) fun _ => uses_pure _ _
  · exact uses_pure _ _

theorem steady_startableDependents (failed : Int) (inheritedDone : Bool) (ids : List Int) :
    (startableDependents failed inheritedDone ids).Uses Instruction.Steady := by
  induction ids with
  | nil => exact uses_pure _ _
  | cons id rest ih =>
    apply uses_bind (steady_tile _)
    intro t
    split
    · exact steady_fail _
    · exact uses_bind (steady_startable _ _) fun _ => uses_bind ih fun _ => uses_pure _ _

theorem steady_releaseDependents (t : Tile) (dependents : List Int) :
    (releaseDependents t dependents).Uses Instruction.Steady :=
  uses_bind (steady_previousDone t) fun _ => uses_bind (steady_startableDependents _ _ _)
    fun released => uses_bind (steady_call nofun nofun) fun _ =>
      uses_forM steady_queueTile released

theorem steady_failTile (id : Int) (message : Option String) :
    (failTile id message).Uses Instruction.Steady :=
  uses_bind (steady_tile _) fun t => uses_bind (steady_requirePreviousAlive t) fun _ =>
    uses_bind (steady_call nofun nofun) fun _ => uses_bind (steady_call nofun nofun)
      fun dependents => uses_bind (steady_handOverReference t dependents) fun _ =>
        steady_releaseDependents t dependents

theorem steady_applyToTile (t : Tile) (scene : Status) (message : Option String) (force : Bool)
    (transition : Transition) :
    (applyToTile t scene message force transition).Uses Instruction.Steady := by
  cases transition with
  | finish => exact steady_finishTile t message
  | retry => exact steady_retryTile t message
  | requeue => exact steady_requeueTile t scene message force
  | fail => exact steady_failTile t.id message
  | overwrite status => exact steady_call nofun nofun

theorem steady_changeTile (id : Int) (requested : Status) (message : Option String)
    (force : Bool) : (changeTile id requested message force).Uses Instruction.Steady := by
  refine uses_bind (steady_tile _) fun t => uses_bind (steady_known _) fun scene => ?_
  split
  · exact uses_pure _ _
  · exact uses_bind (steady_applyToTile _ _ _ _ _) fun _ =>
      uses_bind (steady_refreshAoiStatus _) fun _ => uses_pure _ _

/-! ### Scenes -/

open Draft

variable {d : Draft} {x : Scene} {message : Option String}

theorem faithful_finishScene (hnotes : d.notes = []) (hx : d.store.getScene x.id = .ok x) :
    Faithful (finishScene x message) d := by
  apply Faithful.note_update hnotes hx rfl
  refine uses_bind (steady_call nofun nofun) fun heads => ?_
  apply uses_bind (uses_forM steady_queueTile heads)
  intro _
  exact uses_bind (steady_call nofun nofun) fun followers => uses_forM steady_queueTile followers

theorem faithful_updateScene (hnotes : d.notes = []) (update : StatusUpdate) {rest : Work Unit}
    (hrest : rest.Uses Instruction.Steady) :
    Faithful (do Work.updateScene x.id update; rest) d :=
  have hcall := Faithful.call_of_no_notes (.updateScene x.id update) hnotes
  hcall.bind fun a d' hok => .of_steady hrest (hcall.2 a d' hok)

theorem faithful_retryScene (hnotes : d.notes = []) : Faithful (retryScene x message) d := by
  unfold retryScene
  split
  · exact faithful_updateScene hnotes _ (steady_queueScene x)
  · exact .call_of_no_notes _ hnotes

theorem faithful_failScene (hnotes : d.notes = []) (hx : d.store.getScene x.id = .ok x) :
    Faithful (failScene x message) d := by
  apply Faithful.bind (.call_of_no_notes _ hnotes)
  intro tiles d' hok
  obtain ⟨hsame, hc⟩ := notes_of_call hok
  obtain ⟨_, _, heq⟩ := map_eq_ok.1 hc
  have hstore : d'.store = d.store := (Prod.mk.inj heq).2.symm
  split
  · exact .fail _ d'
  · exact Faithful.note_update (hsame.trans hnotes) (hstore ▸ hx) rfl
      (uses_forM (fun t => steady_failTile t.id none) tiles)

theorem faithful_applyToScene (hnotes : d.notes = []) (hx : d.store.getScene x.id = .ok x)
    (transition : Transition) : Faithful (applyToScene x message transition) d := by
  cases transition with
  | finish => exact faithful_finishScene hnotes hx
  | retry => exact faithful_retryScene hnotes
  | requeue => exact faithful_updateScene hnotes _ (steady_queueScene x)
  | fail => exact faithful_failScene hnotes hx
  | overwrite status => exact .call_of_no_notes _ hnotes

theorem faithful_changeScene (id : Int) (requested : Status) (force : Bool)
    (hnotes : d.notes = []) : Faithful (changeScene id requested message force) d := by
  apply Faithful.bind (.call_of_no_notes _ hnotes)
  intro x d' hok
  obtain ⟨hsame, hc⟩ := notes_of_call hok
  obtain ⟨y, hy, heq⟩ := map_eq_ok.1 hc
  obtain ⟨rfl, hstore⟩ := Prod.mk.inj heq
  have hread : d'.store.getScene y.id = .ok y := by
    rw [← hstore, Store.scene?_id (Store.getScene_eq_ok.1 hy).1]
    exact hy
  split
  · refine .pure _ ?_
    intro scene note hnote
    rw [hsame, hnotes] at hnote
    cases hnote
  · next transition _ =>
    have happly : Faithful (applyToScene y message transition) d' :=
      faithful_applyToScene (hsame.trans hnotes) hread transition
    apply happly.bind
    intro _ d₂ hok₂
    exact .of_steady (uses_bind (steady_refreshAoiStatus _) fun _ => uses_pure _ _)
      (happly.2 _ d₂ hok₂)

end Cascade

namespace Ingestion
open Cascade

section
variable {P : Instruction → Prop} {r : SceneRequest} {scene : Int}
  (hcreate : ∀ draft : TileDraft, draft.scene = scene → draft.aoi = r.aoi →
    P (.call (.createTile draft)))
include hcreate

theorem uses_createReady (tiles : List (String × TileRequest)) (created : List String) :
    (createReady r scene tiles created).Uses P := by
  induction tiles generalizing created with
  | nil => exact uses_pure _ _
  | cons tile rest ih =>
    unfold createReady
    split
    · refine uses_bind (uses_bind (uses_perform (hcreate _ ?_ ?_)) fun _ => uses_pure _ _) fun _ => ih _
      · rfl
      · rfl
    · exact ih _

theorem uses_createTiles (hfail : ∀ field message, P (.fail (.validation field message)))
    (passes : Nat) (created : List String) :
    (createTiles r scene passes created).Uses P := by
  induction passes generalizing created with
  | zero => exact uses_pure _ _
  | succ passes ih =>
    unfold createTiles
    split
    · apply uses_bind (uses_createReady hcreate _ _)
      intro now
      split
      · exact ⟨hfail _ _, nofun⟩
      · exact ih now
    · exact uses_pure _ _

end

theorem steady_createTiles (r : SceneRequest) (scene : Int) (passes : Nat)
    (created : List String) : (createTiles r scene passes created).Uses Instruction.Steady :=
  uses_createTiles (fun _ _ _ => ⟨nofun, nofun⟩) (fun _ _ => trivial) passes created

theorem steady_storeScene (r : SceneRequest) : (storeScene r).Uses Instruction.Steady :=
  uses_bind (steady_call nofun nofun) fun _ => uses_bind (steady_createTiles _ _ _ _) fun _ =>
    uses_bind (steady_call nofun nofun) fun stored => uses_bind (steady_queueScene stored) fun _ =>
      uses_bind (steady_call nofun nofun) fun _ => uses_pure _ _

theorem steady_insertScene (r : SceneRequest) : (insertScene r).Uses Instruction.Steady := by
  unfold insertScene
  refine uses_bind (steady_call nofun nofun) fun _ => ?_
  refine uses_bind (steady_call nofun nofun) fun found => ?_
  split
  · exact steady_fail _
  · exact steady_storeScene r

end Ingestion

end SceneWorkflow
