import SceneWorkflow.Proofs.Cascade.Bystanders
import SceneWorkflow.Proofs.Engine.Completion
import SceneWorkflow.Proofs.Engine.Requests

/-!
# Finished work

What is done or has failed stays so, however other scenes and tiles end and whatever
is forced on them. A sweep that is forced does not get at it, since it requests only
what it has seen handed out. Unforced requests for it are rejected without effect.
-/
namespace SceneWorkflow

namespace Status

/-- A sweep takes up only what has been handed out. -/
theorem isActive_of_isRetryable {status : Status} {force : Bool}
    (h : Sweep.isRetryable force status = true) : status.isActive = true := by
  cases status <;> cases force <;> first | rfl | cases h

end Status

namespace Store
variable {s s' : Store} {kind kind' : EntityKind} {id k : Int} {status : Status}

theorem SameRows.entityStatus? (h : SameRows s s') (kind : EntityKind) (id : Int) :
    s'.entityStatus? kind id = s.entityStatus? kind id := by
  cases kind with
  | scene => exact h.sceneStatus? id
  | tile => exact h.tileStatus? id

theorem entityStatus?_moved_of_ne {u : StatusUpdate} (hne : (kind, id) ≠ (kind', k)) :
    (s.moved kind id u).entityStatus? kind' k = s.entityStatus? kind' k := by
  cases kind' with
  | scene => exact congrArg (Option.map Scene.status) (scene?_moved_of_ne hne)
  | tile => exact tileStatus?_moved_of_ne hne

theorem entityStatus?_moved (h : (s.entityStatus? kind id).isSome) (u : StatusUpdate) :
    (s.moved kind id u).entityStatus? kind id = some u.status := by
  obtain ⟨status, hstatus⟩ := Option.isSome_iff_exists.1 h
  cases kind with
  | scene =>
    show (s.setScene id u).sceneStatus? id = _
    rw [sceneStatus?_setScene, if_pos rfl]
    exact congrArg (Option.map fun _ => u.status) hstatus
  | tile =>
    show (s.setTile id u).tileStatus? id = _
    rw [tileStatus?_setTile, if_pos rfl]
    exact congrArg (Option.map fun _ => u.status) hstatus

theorem map_scene?_modifyScenes {α : Type} {g : Scene → α} {p : Scene → Bool} {f : Scene → Scene}
    (hf : ∀ x, (f x).id = x.id ∧ g (f x) = g x) (s : Store) (id : Int) :
    ((s.modifyScenes p f).scene? id).map g = (s.scene? id).map g := by
  rw [scene?_modifyScenes (fun x => (hf x).1), Option.map_map]
  refine Option.map_congr fun x _ => ?_
  by_cases hp : p x <;> simp [hp, hf]

theorem map_tile?_modifyTiles {α : Type} {g : Tile → α} {p : Tile → Bool} {f : Tile → Tile}
    (hf : ∀ t, (f t).id = t.id ∧ g (f t) = g t) (s : Store) (id : Int) :
    ((s.modifyTiles p f).tile? id).map g = (s.tile? id).map g := by
  have hid (t : Tile) : (if p t then f t else t).id = t.id := by
    by_cases hp : p t <;> simp [hp, hf]
  rw [modifyTiles_eq_mapTiles, tile?_mapTiles hid, Option.map_map]
  refine Option.map_congr fun t _ => ?_
  by_cases hp : p t <;> simp [hp, hf]

theorem entityStatus?_modifyScenes {p : Scene → Bool} {f : Scene → Scene}
    (hf : ∀ x, (f x).id = x.id ∧ (f x).status = x.status) :
    (s.modifyScenes p f).entityStatus? kind id = s.entityStatus? kind id := by
  cases kind with
  | scene => exact map_scene?_modifyScenes hf s id
  | tile => rfl

theorem entityStatus?_modifyTiles {p : Tile → Bool} {f : Tile → Tile}
    (hf : ∀ t, (f t).id = t.id ∧ (f t).status = t.status) :
    (s.modifyTiles p f).entityStatus? kind id = s.entityStatus? kind id := by
  cases kind with
  | scene => rfl
  | tile => exact map_tile?_modifyTiles hf s id

namespace Outcome
variable {change : Transition} {budget : Int} {message : Option String} {area : String}
  {notices : List Notice} (h : Outcome kind id change budget message area s s' notices)
include h

/-- What has started and does not fail stays where it is, unless the request is about it. -/
theorem entityStatus?_of_ne (hne : (kind, id) ≠ (kind', k))
    (hstatus : s.entityStatus? kind' k = some status) (hstarted : status ≠ .new)
    (hstays : kind' = .tile → k ∉ s.failedBy change kind id) :
    s'.entityStatus? kind' k = some status := by
  rw [← entityStatus?_moved_of_ne (u := change.update budget message) hne] at hstatus
  cases kind' with
  | scene => exact (congrArg (Option.map Scene.status) (h.ripples.scene? k)).trans hstatus
  | tile => exact h.ripples.lasts hstatus hstarted (hstays rfl)

/-- If nothing ends then nothing but the entity moves. -/
theorem entityStatus?_of_quiet (hfinish : change ≠ .finish) (hfail : change ≠ .fail)
    (kind' : EntityKind) (k : Int) :
    s'.entityStatus? kind' k =
      (s.moved kind id (change.update budget message)).entityStatus? kind' k := by
  cases kind' with
  | scene => exact congrArg (Option.map Scene.status) (h.ripples.scene? k)
  | tile =>
    show (s'.tile? k).map _ = _
    rw [tile?, h.quiet hfinish hfail]
    rfl

end Outcome
end Store

namespace Cascade
open Store
variable {s s' : Store} {kind kind' : EntityKind} {id k : Int} {requested status : Status}
  {message : Option String} {force accepted : Bool}

/-- Only a tile that is new fails with its scene. -/
theorem new_of_failing (hok : (changeScene id .failed message force).exec s = .ok (true, s'))
    (hs : s.Ordered) (hk : k ∈ s.failing .scene id) : s.tileStatus? k = some .new := by
  obtain ⟨x, -, rfl, ⟨-, hrejected, -⟩ | ⟨change, hchange, -, s₁, happly, -⟩⟩ :=
    changeScene_eq_ok hok
  · cases hrejected
  · obtain rfl := Status.transition_failed hchange
    obtain ⟨t, ht, rfl⟩ := List.mem_map.1 hk
    obtain ⟨hmem, hscene⟩ := List.mem_filter.1 ht
    rw [tileStatus?_of_tile? (hs.tile?_of_mem hmem),
      (failScene_eq_ok happly).1 t hmem (eq_of_beq hscene)]

/-- A request leaves other entities that have started where they are. -/
theorem stays_change (h : Forest s)
    (hok : (change kind id requested message force).exec s = .ok (accepted, s'))
    (hstatus : s.entityStatus? kind' k = some status) (hstarted : status ≠ .new)
    (hne : (kind, id) ≠ (kind', k)) : s'.entityStatus? kind' k = some status := by
  obtain ⟨present, budget, area, hdecides⟩ := decides_change h hok
  rcases hdecides.effect with
    ⟨-, -, rfl⟩ | ⟨change, hchange, rfl, s₁, notices, houtcome, rfl⟩
  · exact hstatus
  rw [(sameRows_refreshAoiStatus s₁ area).entityStatus?]
  refine houtcome.entityStatus?_of_ne hne hstatus hstarted ?_
  rintro rfl hgone
  -- Only new tiles fail with their scene.
  rcases mem_failedBy hgone with ⟨rfl, rfl⟩ | ⟨rfl, -⟩
  · exact hne rfl
  · cases change with
    | fail =>
      obtain rfl := Status.eq_failed_of_transition hchange
      cases (new_of_failing hok h.toOrdered hgone).symm.trans hstatus
      exact hstarted rfl
    | finish | retry | requeue | overwrite => cases hgone

/-- A request leaves what has ended where it is, unless it is forced on it. -/
theorem spares_change (h : Forest s)
    (hok : (change kind id requested message force).exec s = .ok (accepted, s'))
    (hstatus : s.entityStatus? kind' k = some status) (hend : status.isTerminal = true)
    (hother : force = true → (kind, id) ≠ (kind', k)) :
    s'.entityStatus? kind' k = some status := by
  have hstarted : status ≠ .new := by
    rintro rfl
    cases hend
  by_cases hsame : (kind, id) = (kind', k)
  · cases hsame
    obtain ⟨present, budget, area, hdecides⟩ := decides_change h hok
    cases hdecides.present_eq.symm.trans hstatus
    rcases hdecides.effect with ⟨-, -, rfl⟩ | ⟨change, hchange, -⟩
    · exact hstatus
    · cases force with
      | true => exact absurd rfl (hother rfl)
      | false => cases (Status.unforced_terminal hend requested).symm.trans hchange
  · exact stays_change h hok hstatus hstarted hsame

/-- A request that its entity rejects has no effect. -/
theorem exec_change_of_rejected (h : Forest s) (hstatus : s.entityStatus? kind id = some status)
    (hnone : status.transition requested force = none) :
    (change kind id requested message force).exec s = .ok (false, s) := by
  cases kind with
  | scene =>
    obtain ⟨x, hx, rfl⟩ := Option.map_eq_some_iff.1 hstatus
    rw [change, changeScene, Work.exec_bind_ok (Work.exec_scene h.toLegible hx), hnone]
    rfl
  | tile =>
    obtain ⟨t, ht, rfl⟩ := Option.map_eq_some_iff.1 hstatus
    obtain ⟨x, hx⟩ := Option.isSome_iff_exists.1 (h.scene_exists t (mem_of_tile? ht))
    rw [change, changeTile, Work.exec_bind_ok (Work.exec_tile h.toLegible ht),
      Work.exec_bind_ok (Work.exec_known h.toLegible hx), hnone]
    rfl

end Cascade

/-! ### Units of work -/

namespace Ingestion
open Store
variable {s s' : Store} {kind : EntityKind} {id : Int} {status : Status}

/-- Taking up a scene adds rows behind those that are there. -/
theorem entityStatus?_insertScene {r : SceneRequest} {scene : Int}
    (hok : (insertScene r).exec s = .ok (scene, s'))
    (hstatus : s.entityStatus? kind id = some status) :
    s'.entityStatus? kind id = some status := by
  refine relates_insertScene
    (R := fun s s' => s.entityStatus? kind id = some status →
      s'.entityStatus? kind id = some status) ?_ (fun h₁ h₂ h => h₂ (h₁ h)) ?_ ?_ hok hstatus
  · intro s s' hsame hstatus
    rwa [hsame.entityStatus?]
  · intro s d scene s' hcreate hstatus
    obtain ⟨-, -, -, rfl⟩ := createScene_eq_ok hcreate
    cases kind with
    | scene =>
      obtain ⟨x, hx, -⟩ := Option.map_eq_some_iff.1 hstatus
      exact (congrArg (Option.map Scene.status) ((scene?_addScene_of_some hx _).trans hx.symm)).trans
        hstatus
    | tile => exact hstatus
  · intro s d tile s' hcreate hstatus
    obtain ⟨_, _, -, -, hinsert⟩ := createTile_eq_ok hcreate
    obtain ⟨-, -, -, rfl⟩ := insertTile_eq_ok hinsert
    cases kind with
    | scene => exact hstatus
    | tile =>
      obtain ⟨t, ht, -⟩ := Option.map_eq_some_iff.1 hstatus
      exact (tileStatus?_addTile_of_some ht _).trans hstatus

end Ingestion

open Store

theorem Task.entityStatus?_of_no_demand {kind : EntityKind} {id : Int} {status : Status} {task : Task}
    (hd : task.demand? = none) {s s' : Store} {a : task.Answer}
    (hok : task.body.exec s = .ok (a, s')) (hstatus : s.entityStatus? kind id = some status) :
    s'.entityStatus? kind id = some status := by
  cases task with
  | ingest r => exact Ingestion.entityStatus?_insertScene hok hstatus
  | updateSceneAttrs k attrs =>
    obtain rfl := Work.exec_updateSceneAttrs_eq_ok hok
    rw [← hstatus]
    exact entityStatus?_modifyScenes fun _ => ⟨rfl, rfl⟩
  | updateTileAttrs k attrs =>
    obtain rfl := Work.exec_updateTileAttrs_eq_ok hok
    rw [← hstatus]
    exact entityStatus?_modifyTiles fun _ => ⟨rfl, rfl⟩
  | changeScene _ _ _ _ | changeTile _ _ _ _ => cases hd

/-- A unit of work is not forced on an entity. -/
def Task.Spares (kind : EntityKind) (id : Int) : Task → Prop
  | changeScene k _ _ force => force = true → (.scene, k) ≠ (kind, id)
  | changeTile k _ _ force => force = true → (.tile, k) ≠ (kind, id)
  | _ => True

theorem Task.spares_change {kind kind' : EntityKind} {id k : Int} {requested : Status}
    {message : Option String} {force : Bool} :
    (Task.change kind' k requested message force).Spares kind id ↔
      (force = true → (kind', k) ≠ (kind, id)) := by
  cases kind' <;> exact Iff.rfl

/-- A scene or tile stands in some status, and the tiles form a forest. -/
def Stands (kind : EntityKind) (id : Int) (status : Status) (s : Store) : Prop :=
  Forest s ∧ s.entityStatus? kind id = some status

theorem Stands.of_sameRows {kind : EntityKind} {id : Int} {status : Status} {s s' : Store}
    (h : Stands kind id status s) (hsame : SameRows s s') : Stands kind id status s' :=
  ⟨h.1.of_sameRows hsame, (hsame.entityStatus? kind id).trans h.2⟩

section
variable {kind : EntityKind} {id : Int} {status : Status} (hend : status.isTerminal = true)
include hend

/-- A unit of work leaves what has ended where it stands, unless it is forced on it. -/
theorem Task.stands {task : Task} (htask : task.Spares kind id) {s s' : Store} {a : task.Answer}
    (h : Stands kind id status s) (hok : task.body.exec s = .ok (a, s')) :
    Stands kind id status s' := by
  refine ⟨task.forest h.1 hok, ?_⟩
  cases task with
  | ingest r => exact entityStatus?_of_no_demand rfl hok h.2
  | changeScene k requested message force =>
    have hchange : (Cascade.change .scene k requested message force).exec s = .ok (a, s') := hok
    exact Cascade.spares_change h.1 hchange h.2 hend htask
  | changeTile k requested message force =>
    have hchange : (Cascade.change .tile k requested message force).exec s = .ok (a, s') := hok
    exact Cascade.spares_change h.1 hchange h.2 hend htask
  | updateSceneAttrs _ _ | updateTileAttrs _ _ => exact entityStatus?_of_no_demand rfl hok h.2

theorem course_stands {σ : Type} [Sink σ] :
    Course (σ := σ) (Task.Spares kind id) (Kept (Stands kind id status)) where
  toPassage := passage_kept _
  creation := fun hok _ h => h.of_sameRows (sameRows_createAoi hok)
  commit := fun htask hok _ h => Task.stands hend htask h hok
  relay := Outbox.kept_flush fun s ids h => h.of_sameRows (sameRows_ackJobs s ids)

/-! ### Sweeps -/

end

theorem Sweep.isRetryable_of_shows {σ : Type} [Sink σ] {w : World σ} (hs : w.store.Ordered)
    {force : Bool} {i : Step} {kind : EntityKind} {id : Int}
    (h : (kind, id) ∈ i.shows force (takeStep i w).1) :
    ∃ status, w.store.entityStatus? kind id = some status ∧ isRetryable force status = true := by
  cases i with
  | listScenes aoi =>
    cases hanswer : (takeStep (.listScenes aoi) w).1 with
    | error e =>
      rw [hanswer] at h
      cases h
    | ok scenes =>
      rw [hanswer] at h
      obtain ⟨x, hx, heq⟩ := List.mem_map.1 h
      cases heq
      obtain ⟨hx, hstatus⟩ := List.mem_filter.1 hx
      have hmem := mem_of_listScenes (Operation.follows_query.ok _ hanswer) hx
      exact ⟨x.status, sceneStatus?_of_scene? (hs.scene?_of_mem hmem), hstatus⟩
  | listTiles filter =>
    cases hanswer : (takeStep (.listTiles filter) w).1 with
    | error e =>
      rw [hanswer] at h
      cases h
    | ok tiles =>
      rw [hanswer] at h
      obtain ⟨t, ht, heq⟩ := List.mem_map.1 h
      cases heq
      obtain ⟨ht, hstatus⟩ := List.mem_filter.1 ht
      have hmem := mem_of_listTiles (Operation.follows_query.ok _ hanswer) ht
      exact ⟨t.status, tileStatus?_of_tile? (hs.tile?_of_mem hmem), hstatus⟩
  | findAoi aoi | requeue kind id force => cases h

/-- A step that is no request leaves the store alone. -/
theorem Sweep.store_takeStep {σ : Type} [Sink σ] (i : Step) (w : World σ) :
    (∃ kind id force, i = .requeue kind id force) ∨
      (∀ kind id force, i ≠ .requeue kind id force) ∧ (takeStep i w).2.store = w.store := by
  cases i with
  | findAoi aoi => exact .inr ⟨nofun, Operation.follows_query.store⟩
  | listScenes aoi => exact .inr ⟨nofun, Operation.follows_query.store⟩
  | listTiles filter => exact .inr ⟨nofun, Operation.follows_query.store⟩
  | requeue kind id force => exact .inl ⟨kind, id, force, rfl⟩

theorem Sweep.retryAoi_eq {σ : Type} [Sink σ] (aoi : String) (force : Bool) (w : World σ) :
    (retryAoi aoi force w).2 = ((plan aoi force).run.interpret tryStep w).2 := by
  show (((plan aoi force).run.interpret tryStep >>= Operation.give) w).2 = _
  rw [Operation.bind_apply]
  split
  · next heq =>
    rw [heq]
    rfl
  · next heq => rw [heq]

section
variable {kind : EntityKind} {id : Int} {status : Status} (hend : status.isTerminal = true)
variable {σ : Type} [Sink σ] {w : World σ}
include hend

/-- A sweep that does not know of what has ended does not come to know of it. -/
theorem Stands.interpret {α : Type} {force : Bool} {p : Sweep.Plan α}
    {known : List (EntityKind × Int)} {post : List (EntityKind × Int) → α → Prop}
    (hp : Sweep.Heeds force known p post) (hknown : (kind, id) ∉ known)
    (h : Stands kind id status w.store) :
    Stands kind id status (p.interpret Sweep.tryStep w).2.store := by
  induction p generalizing known w with
  | done a => exact h
  | step i next ih =>
    obtain ⟨hi, hnext⟩ := hp
    have hstays : Stands kind id status (Sweep.takeStep i w).2.store := by
      refine (course_stands hend).within_takeStep hi (fun kind' k hmem => ?_) w h
      refine Task.spares_change.2 fun _ hsame => hknown ?_
      rwa [← hsame]
    refine ih (Sweep.takeStep i w).1 (hnext _) ?_ hstays
    rw [List.mem_append, not_or]
    refine ⟨hknown, fun hshown => ?_⟩
    obtain ⟨present, hpresent, hretryable⟩ :=
      Sweep.isRetryable_of_shows h.1.toOrdered hshown
    cases h.2.symm.trans hpresent
    exact Status.not_isTerminal_of_isActive (Status.isActive_of_isRetryable hretryable) hend

end

/-! ### What may come -/

/-- Nothing is forced on an entity by name. -/
def Command.Spares (kind : EntityKind) (id : Int) : Command → Prop
  | updateStatus kind' k _ _ force => force = true → (kind', k) ≠ (kind, id)
  | _ => True

def Activity.Spares {σ : Type} (kind : EntityKind) (id : Int) : Activity σ → Prop
  | command c => c.Spares kind id
  | _ => True

/-- Nothing but a sweep may force a request on what is spared by name. -/
theorem Activity.sweeps_or_all {σ : Type} {kind : EntityKind} {id : Int} (x : Activity σ)
    (hx : x.Spares kind id) :
    (∃ aoi force, x = .command (.retryAoi aoi force)) ∨ x.All (Task.Spares kind id) := by
  have hresult (r : WorkerResult) :
      (Task.change r.kind r.id r.status (some r.message) false).Spares kind id :=
    Task.spares_change.2 nofun
  cases x with
  | command c =>
    cases c with
    | retryAoi aoi force => exact .inl ⟨aoi, force, rfl⟩
    | updateStatus kind' k requested message force => exact .inr (Task.spares_change.2 hx)
    | handleResult r => exact .inr (hresult r)
    | ingestScenes aoi rs => exact .inr fun _ _ => trivial
    | createAoi _ | ingestScene _ _ | updateSceneAttrs _ _ | updateTileAttrs _ _ | flushOutbox =>
      exact .inr trivial
  | flush batchSize => exact .inr trivial
  | consume maxRedeliveries results isOpen patience => exact .inr fun r _ => hresult r

/-- The stores that come about from one while nothing is forced on an entity by name. -/
inductive Continues (kind : EntityKind) (id : Int) (s : Store) : Store → Prop where
  | start : Continues kind id s s
  | run {σ : Type} [Sink σ] (x : Activity σ) (w : World σ) (hx : x.Spares kind id)
      (h : Continues kind id s w.store) : Continues kind id s (x.run w).store

section
variable {kind : EntityKind} {id : Int} {status : Status} (hend : status.isTerminal = true)
include hend

/-- What has ended stands, whatever is done next. -/
theorem Stands.run {σ : Type} [Sink σ] {w : World σ} (h : Stands kind id status w.store)
    {x : Activity σ} (hx : x.Spares kind id) : Stands kind id status (x.run w).store := by
  -- A forced sweep spares the entity only because its listings do not show it.
  rcases x.sweeps_or_all hx with ⟨aoi, force, rfl⟩ | hall
  · show Stands kind id status (retryAoi aoi force w).2.store
    rw [Sweep.retryAoi_eq]
    exact h.interpret hend (Sweep.minds_plan aoi force) List.not_mem_nil
  · exact (course_stands hend).relates_activity hall w h

theorem Continues.stands {s s' : Store} (hs' : Continues kind id s s')
    (h : Stands kind id status s) : Stands kind id status s' := by
  induction hs' with
  | start => exact h
  | run x w hx _ ih => exact ih.run hend hx

end

theorem Continues.attainable {kind : EntityKind} {id : Int} {s s' : Store}
    (hs' : Continues kind id s s') (h : Attainable s) : Attainable s' := by
  induction hs' with
  | start => exact h
  | run x w _ _ ih => exact .run x w ih

theorem Continues.after {σ : Type} [Sink σ] {kind : EntityKind} {id : Int} {s : Store} {w : World σ}
    {cs : List Command} (h : Continues kind id s w.store) (hcs : ∀ c ∈ cs, c.Spares kind id) :
    Continues kind id s (w.after cs).store :=
  World.induct_after (I := fun w => Continues kind id s w.store) h fun c hc w h =>
    .run (.command c) w (hcs c hc) h

/-- An undisturbed request that its entity rejects commits the store as it is. -/
theorem Attainable.absorbs {σ : Type} [Sink σ] {w : World σ} (h : Attainable w.store) (hw : w.Calm)
    {kind : EntityKind} {id : Int} {present requested : Status} {force : Bool}
    (hpresent : w.store.entityStatus? kind id = some present)
    (hnone : present.transition requested force = none) (message : Option String) :
    (updateStatus kind id requested message force w).1 = .ok false ∧
      Commits w w.store (updateStatus kind id requested message force w).2 := by
  have hexec : (Cascade.change kind id requested message force).exec w.store =
      .ok (false, w.store) := Cascade.exec_change_of_rejected h.forest hpresent hnone
  have hresult : (updateStatus kind id requested message force w).1 = .ok false := by
    cases kind with
    | scene =>
      exact Task.transact_of_calm _ (.changeScene id requested message force) hw hexec
    | tile => exact Task.transact_of_calm _ (.changeTile id requested message force) hw hexec
  obtain ⟨committed, hexec', hcommits⟩ := updateStatus_commits h.queued hresult
  cases hexec.symm.trans hexec'
  exact ⟨hresult, hcommits⟩

/-- Once a scene or tile is done or has failed it stays so, whatever is done and whatever is forced on
others, and every later request or result for it, undisturbed and unforced, is answered with a
rejection, changes no row and queues no job. -/
theorem Attainable.ends_for_good {s : Store} (h : Attainable s) {kind : EntityKind} {id : Int}
    {status : Status} (hstatus : s.entityStatus? kind id = some status)
    (hend : status.isTerminal = true) {s' : Store} (hs' : Continues kind id s s') :
    s'.entityStatus? kind id = some status ∧
      ∀ (σ : Type) [Sink σ] (w : World σ), w.Calm → w.store = s' →
        (∀ requested message,
          (updateStatus kind id requested message false w).1 = .ok false ∧
            Commits w s' (updateStatus kind id requested message false w).2) ∧
        ∀ r : WorkerResult, r.kind = kind → r.id = id →
          (handleResult r w).1 = .ok false ∧ Commits w s' (handleResult r w).2 := by
  have hstands : s'.entityStatus? kind id = some status :=
    (hs'.stands hend ⟨h.forest, hstatus⟩).2
  have hattain := hs'.attainable h
  refine ⟨hstands, ?_⟩
  rintro σ _ w hw rfl
  have hnone (requested : Status) : status.transition requested false = none :=
    Status.unforced_terminal hend requested
  have habsorbs (requested : Status) (message : Option String) :=
    hattain.absorbs hw hstands (hnone requested) message
  refine ⟨habsorbs, ?_⟩
  rintro r rfl rfl
  exact habsorbs r.status (some r.message)

/-- The first of two tiles in a row is done. -/
def passedOn : World Recorder := underway.after [.updateStatus .tile 1 .done none false]

/-- What may come after that: the second tile is handed out again and is made to fail. -/
def aftermath : World Recorder :=
  passedOn.after [.retryAoi "north" true, .updateStatus .tile 2 .failed none true]

theorem ends_for_good_aftermath :
    Attainable passedOn.store ∧ passedOn.store.entityStatus? .tile 1 = some .done ∧
      Continues .tile 1 passedOn.store aftermath.store ∧
      aftermath.store.entityStatus? .tile 1 = some .done ∧
      (handleResult ⟨.tile, 1, .failed, ""⟩ aftermath).1 = .ok false := by
  have hattain : Attainable passedOn.store := ((Attainable.empty.after _).after _).after _
  have hdone : passedOn.store.entityStatus? .tile 1 = some .done := by decide +kernel
  have hcontinues : Continues .tile 1 passedOn.store aftermath.store :=
    Continues.start.after (w := passedOn) (by simp [Command.Spares])
  have hcalm : aftermath.Calm := World.calm_of_isEmpty (by decide +kernel) (by decide +kernel)
  obtain ⟨hstands, hrejects⟩ := hattain.ends_for_good hdone rfl hcontinues
  have hrejected := ((hrejects Recorder aftermath hcalm rfl).2 ⟨.tile, 1, .failed, ""⟩ rfl rfl).1
  exact ⟨hattain, hdone, hcontinues, hstands, hrejected⟩

end SceneWorkflow
