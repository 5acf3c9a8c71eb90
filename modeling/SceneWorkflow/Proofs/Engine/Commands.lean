import SceneWorkflow.Proofs.Engine.Sweeps
import SceneWorkflow.Proofs.UnitOfWork.Bodies
import SceneWorkflow.Proofs.UnitOfWork.Commit

/-!
# Commands and reachable stores

What may be asked of the workflow, and the stores that come about when none of it
is forced. What every unit of work keeps, and the creation of areas and the relay
of jobs keep too, holds of all of them.
-/
namespace SceneWorkflow
open Store

inductive Task where
  | ingest (r : SceneRequest)
  | changeScene (id : Int) (requested : Status) (message : Option String) (force : Bool)
  | changeTile (id : Int) (requested : Status) (message : Option String) (force : Bool)
  | updateSceneAttrs (id : Int) (attrs : SceneAttrs)
  | updateTileAttrs (id : Int) (attrs : TileAttrs)

namespace Task

def Answer : Task → Type
  | ingest _ => Int
  | changeScene _ _ _ _ => Bool
  | changeTile _ _ _ _ => Bool
  | updateSceneAttrs _ _ => Unit
  | updateTileAttrs _ _ => Unit

def body : (task : Task) → Work task.Answer
  | ingest r => Ingestion.insertScene r
  | changeScene id requested message force => Cascade.changeScene id requested message force
  | changeTile id requested message force => Cascade.changeTile id requested message force
  | updateSceneAttrs id attrs => Work.updateSceneAttrs id attrs
  | updateTileAttrs id attrs => Work.updateTileAttrs id attrs

def isForced : Task → Bool
  | changeScene _ _ _ force => force
  | changeTile _ _ _ force => force
  | _ => false

def change (kind : EntityKind) (id : Int) (requested : Status) (message : Option String)
    (force : Bool) : Task :=
  match kind with
  | .scene => changeScene id requested message force
  | .tile => changeTile id requested message force

theorem isForced_change (kind : EntityKind) (id : Int) (requested : Status)
    (message : Option String) (force : Bool) :
    (change kind id requested message force).isForced = force := by
  cases kind <;> rfl

/-- The notes that a unit of work takes do not change what it comes to. -/
theorem faithful (task : Task) (s : Store) : Draft.Faithful task.body { store := s } := by
  cases task with
  | ingest r => exact .of_steady (Ingestion.steady_insertScene r) (Draft.current_of_no_notes s)
  | changeScene id requested message force =>
    exact Cascade.faithful_changeScene id requested force rfl
  | changeTile id requested message force =>
    exact .of_steady (Cascade.steady_changeTile id requested message force)
      (Draft.current_of_no_notes s)
  | updateSceneAttrs id attrs => exact .call_of_no_notes _ rfl
  | updateTileAttrs id attrs => exact .call_of_no_notes _ rfl

section
variable {σ : Type} [Sink σ]

/-- One of the units of work changes nothing, or commits what its body makes of the store and then
has the relay run. -/
theorem transact_cases (operation : String) (task : Task) (w : World σ) :
    (∃ e, (transact operation task.body w).1 = .error e ∧
      (transact operation task.body w).2.store = w.store ∧
      (transact operation task.body w).2.sink = w.sink) ∨
    ∃ a, ∃ w₁ : World σ, task.body.exec w.store = .ok (a, w₁.store) ∧ w₁.sink = w.sink ∧
      (transact operation task.body w).1 = .ok a ∧
      (transact operation task.body w).2 = (Outbox.flush w₁.batchSize w₁).2 := by
  rcases SceneWorkflow.transact_cases operation task.body w with
    hfails | ⟨a, d, w₁, hexec, hcommitted, hsink, hresult, hworld⟩
  · exact .inl hfails
  · have hbody := (task.faithful w.store).exec_of_ok hexec
    rw [← hcommitted] at hbody
    exact .inr ⟨a, w₁, hbody, hsink, hresult, hworld⟩

/-- A unit of work leaves the rows it found, or those its body makes. -/
theorem transact_rows (operation : String) (task : Task) (w : World σ) :
    (∃ e, (transact operation task.body w).1 = .error e ∧
      (transact operation task.body w).2.store = w.store) ∨
    ∃ a s, task.body.exec w.store = .ok (a, s) ∧ (transact operation task.body w).1 = .ok a ∧
      SameRows s (transact operation task.body w).2.store := by
  rcases task.transact_cases operation w with
    ⟨e, herror, hsame, -⟩ | ⟨a, w₁, hbody, -, hresult, hworld⟩
  · exact .inl ⟨e, herror, hsame⟩
  · refine .inr ⟨a, w₁.store, hbody, hresult, ?_⟩
    rw [hworld]
    exact Outbox.sameRows_flush _ w₁

/-- Undisturbed, a unit of work results in what its body results in on the store. -/
theorem transact_of_calm (operation : String) (task : Task) {w : World σ} (hw : w.Calm)
    {a : task.Answer} {s : Store} (hexec : task.body.exec w.store = .ok (a, s)) :
    (transact operation task.body w).1 = .ok a := by
  rw [SceneWorkflow.transact_of_calm operation task.body hw, (task.faithful w.store).map_exec,
    hexec]
  rfl

end

end Task

inductive Command where
  | createAoi (name : String)
  | ingestScene (aoi : String) (r : SceneRequest)
  | ingestScenes (aoi : String) (rs : List SceneRequest)
  | updateStatus (kind : EntityKind) (id : Int) (requested : Status) (message : Option String)
      (force : Bool)
  | handleResult (r : WorkerResult)
  | updateSceneAttrs (id : Int) (attrs : SceneAttrs)
  | updateTileAttrs (id : Int) (attrs : TileAttrs)
  | retryAoi (aoi : String) (force : Bool)
  | flushOutbox

namespace Command

def isForced : Command → Bool
  | updateStatus _ _ _ _ force => force
  | retryAoi _ force => force
  | _ => false

def run {σ : Type} [Sink σ] (w : World σ) : Command → World σ
  | createAoi name => (SceneWorkflow.createAoi name w).2
  | ingestScene aoi r => (SceneWorkflow.ingestScene aoi r w).2
  | ingestScenes aoi rs => (SceneWorkflow.ingestScenes aoi rs w).2
  | updateStatus kind id requested message force =>
    (SceneWorkflow.updateStatus kind id requested message force w).2
  | handleResult r => (SceneWorkflow.handleResult r w).2
  | updateSceneAttrs id attrs => (SceneWorkflow.updateSceneAttrs id attrs w).2
  | updateTileAttrs id attrs => (SceneWorkflow.updateTileAttrs id attrs w).2
  | retryAoi aoi force => (SceneWorkflow.retryAoi aoi force w).2
  | flushOutbox => (SceneWorkflow.flushOutbox w).2

end Command

/-- The stores that come about from the empty one when nothing is forced. Any command may meet any
disturbance, any sink and any cancellation. -/
inductive Reachable : Store → Prop where
  | empty : Reachable {}
  | run {σ : Type} [Sink σ] (c : Command) (w : World σ) (hc : c.isForced = false)
      (h : Reachable w.store) : Reachable (c.run w).store

def SceneRequest.ofTiles (aoi sourceId : String) (tiles : List (String × TileRequest)) :
    SceneRequest where
  sourceId := sourceId
  aoi := aoi
  attrs := { tiles := .ofList (tiles.map fun tile => (tile.1, {})) }
  tiles := .ofList tiles

def World.after {σ : Type} [Sink σ] (w : World σ) (cs : List Command) : World σ :=
  cs.foldl (fun w c => c.run w) w

theorem World.induct_after {σ : Type} [Sink σ] {I : World σ → Prop} {w : World σ} {cs : List Command}
    (h : I w) (hstep : ∀ c ∈ cs, ∀ w, I w → I (c.run w)) : I (w.after cs) := by
  induction cs generalizing w with
  | nil => exact h
  | cons c cs ih =>
    exact ih (hstep c List.mem_cons_self w h) fun d hd => hstep d (List.mem_cons_of_mem c hd)

theorem Reachable.after {σ : Type} [Sink σ] {w : World σ} {cs : List Command}
    (h : Reachable w.store) (hcs : ∀ c ∈ cs, c.isForced = false) :
    Reachable (w.after cs).store :=
  World.induct_after (I := fun w => Reachable w.store) h fun c hc w h => h.run c w (hcs c hc)

structure Stable (I : Store → Prop) : Prop where
  creation : ∀ s name s', I s → s.createAoi name = .ok s' → I s'
  relay : ∀ s ids, I s → I (s.ackJobs ids)
  task : ∀ (task : Task), task.isForced = false → ∀ s a s', I s →
    task.body.exec s = .ok (a, s') → I s'

/-! ### The course of a command -/

namespace Command
variable {P : Task → Prop}

def All (P : Task → Prop) : Command → Prop
  | createAoi _ => True
  | ingestScene _ r => P (.ingest r)
  | ingestScenes _ rs => ∀ r ∈ rs, P (.ingest r)
  | updateStatus kind id requested message force => P (.change kind id requested message force)
  | handleResult r => P (.change r.kind r.id r.status (some r.message) false)
  | updateSceneAttrs id attrs => P (.updateSceneAttrs id attrs)
  | updateTileAttrs id attrs => P (.updateTileAttrs id attrs)
  | retryAoi _ force => ∀ kind id, P (.change kind id .pending (some "") force)
  | flushOutbox => True

theorem all_of_forall (hP : ∀ task, P task) (c : Command) : c.All P := by
  cases c with
  | createAoi _ | flushOutbox => trivial
  | ingestScenes _ rs => exact fun r _ => hP _
  | retryAoi _ _ => exact fun _ _ => hP _
  | ingestScene _ _ | updateStatus _ _ _ _ _ | handleResult _ | updateSceneAttrs _ _
  | updateTileAttrs _ _ => exact hP _

/-- A command that is not forced forces no unit of work. -/
theorem all_of_isForced {c : Command} (hc : c.isForced = false) :
    c.All fun task => task.isForced = false := by
  cases c with
  | createAoi _ | flushOutbox => trivial
  | ingestScenes _ rs => exact fun _ _ => rfl
  | retryAoi _ _ => exact fun _ _ => (Task.isForced_change ..).trans hc
  | updateStatus _ _ _ _ _ => exact (Task.isForced_change ..).trans hc
  | handleResult _ => exact Task.isForced_change ..
  | ingestScene _ _ | updateSceneAttrs _ _ | updateTileAttrs _ _ => rfl

end Command

/-- How the world changes when an area is created, a unit of work that satisfies a condition is
committed or the relay runs. -/
structure Course {σ : Type} [Sink σ] (P : Task → Prop) (R : World σ → World σ → Prop) : Prop
    extends Passage R where
  creation : ∀ {w w' name}, w.store.createAoi name = .ok w'.store → w'.sink = w.sink → R w w'
  commit : ∀ {w w'} {task : Task} {a}, P task → task.body.exec w.store = .ok (a, w'.store) →
    w'.sink = w.sink → R w w'
  relay : ∀ batchSize, (Outbox.flush batchSize).Within R

namespace Course
open Operation
variable {σ : Type} [Sink σ] {P : Task → Prop} {R : World σ → World σ → Prop} (hR : Course P R)
include hR

theorem within_createAoi (name : String) : (createAoi name).Within R := by
  unfold createAoi
  split
  · exact hR.within_throw _
  · intro w
    obtain ⟨hsink, ⟨_, -, hsame⟩ | ⟨_, -, hok⟩⟩ :=
      invoke_cases .createAoi (fun s => (s.createAoi name).map ((), ·)) w
    · exact hR.still hsame hsink
    · obtain ⟨s, hcreate, heq⟩ := map_eq_ok.1 hok
      cases heq
      exact hR.creation hcreate hsink

theorem within_transact (operation : String) (task : Task) (htask : P task) :
    (transact operation task.body).Within R := by
  intro w
  rcases task.transact_cases operation w with
    ⟨-, -, hstore, hsink⟩ | ⟨a, w₁, hbody, hsink, -, hworld⟩
  · exact hR.still hstore hsink
  · rw [hworld]
    exact hR.trans (hR.commit htask hbody hsink) (hR.relay _ w₁)

theorem within_ingestScene (aoi : String) {r : SceneRequest} (hr : P (.ingest r)) :
    (ingestScene aoi r).Within R :=
  hR.within_bind (hR.within_give _) fun _ => hR.within_transact _ (.ingest r) hr

theorem within_ingestRemaining (aoi : String) {rs : List SceneRequest}
    (hrs : ∀ r ∈ rs, P (.ingest r)) (created : KeyMap Int) :
    (ingestRemaining aoi rs created).Within R := by
  induction rs generalizing created with
  | nil => exact hR.within_pure _
  | cons r rest ih =>
    have hrest := ih fun q hq => hrs q (List.mem_cons_of_mem r hq)
    apply hR.within_bind (hR.within_ingestScene aoi (hrs r List.mem_cons_self)).attempt
    intro outcome
    cases outcome with
    | ok id => exact hrest _
    | error e =>
      dsimp only
      split
      · exact hrest _
      · exact hR.within_throw _

theorem within_updateStatus {kind : EntityKind} {id : Int} {requested : Status}
    {message : Option String} {force : Bool} (h : P (.change kind id requested message force)) :
    (updateStatus kind id requested message force).Within R := by
  cases kind with
  | scene => exact hR.within_transact _ (.changeScene id requested message force) h
  | tile => exact hR.within_transact _ (.changeTile id requested message force) h

theorem within_takeStep {force : Bool} {i : Sweep.Step} {known : List (EntityKind × Int)}
    (hi : i.Asks force known)
    (h : ∀ kind id, (kind, id) ∈ known → P (.change kind id .pending (some "") force)) :
    (Sweep.takeStep i).Within R := by
  cases i with
  | findAoi aoi => exact hR.within_query
  | listScenes aoi => exact hR.within_query
  | listTiles filter => exact hR.within_query
  | requeue kind id f =>
    obtain ⟨rfl, hknown⟩ := hi
    exact hR.within_updateStatus (h kind id hknown)

theorem within_interpret {force : Bool} {α : Type} {plan : Sweep.Plan α}
    {known : List (EntityKind × Int)} {post : List (EntityKind × Int) → α → Prop}
    (hplan : Sweep.Heeds force known plan post)
    (h : ∀ kind id, P (.change kind id .pending (some "") force)) :
    (plan.interpret Sweep.tryStep).Within R := by
  induction plan generalizing known with
  | done a => exact hR.within_pure a
  | step i next ih =>
    obtain ⟨hi, hnext⟩ := hplan
    exact hR.within_bind (hR.within_takeStep hi fun kind id _ => h kind id).attempt fun answer =>
      ih answer (hnext answer)

theorem within_retryAoi (aoi : String) {force : Bool}
    (h : ∀ kind id, P (.change kind id .pending (some "") force)) : (retryAoi aoi force).Within R :=
  hR.within_bind (hR.within_interpret (Sweep.minds_plan aoi force) h) fun _ => hR.within_give _

theorem within_flushOutbox : (flushOutbox (σ := σ)).Within R :=
  hR.within_bind hR.within_get fun _ => hR.relay _

theorem relates_run {c : Command} (hc : c.All P) (w : World σ) : R w (c.run w) := by
  cases c with
  | createAoi name => exact hR.within_createAoi name w
  | ingestScene aoi r => exact hR.within_ingestScene aoi hc w
  | ingestScenes aoi rs => exact hR.within_ingestRemaining aoi hc _ w
  | updateStatus kind id requested message forced => exact hR.within_updateStatus hc w
  | handleResult r => exact hR.within_updateStatus hc w
  | updateSceneAttrs id attrs => exact hR.within_transact _ (.updateSceneAttrs id attrs) hc w
  | updateTileAttrs id attrs => exact hR.within_transact _ (.updateTileAttrs id attrs) hc w
  | retryAoi aoi forced => exact hR.within_retryAoi aoi hc w
  | flushOutbox => exact hR.within_flushOutbox w

end Course

/-! ### What changes keep -/

namespace Stable
variable {σ : Type} [Sink σ] {I : Store → Prop}

/-- What is kept by every change is kept by every command. -/
theorem course (hI : Stable I) : Course (σ := σ) (fun task => task.isForced = false) (Kept I) where
  toPassage := passage_kept I
  creation := fun hok _ h => hI.creation _ _ _ h hok
  commit := fun htask hok _ h => hI.task _ htask _ _ _ h hok
  relay := Outbox.kept_flush hI.relay

theorem keeps_transact (hI : Stable I) (operation : String) (task : Task)
    (htask : task.isForced = false) {w : World σ} (hw : I w.store) :
    I (transact operation task.body w).2.store :=
  hI.course.within_transact operation task htask w hw

end Stable

/-- What holds of the empty store and is kept by every change holds of every reachable store. -/
theorem Reachable.induct {I : Store → Prop} (hI : Stable I) (hempty : I {}) {s : Store}
    (h : Reachable s) : I s := by
  induction h with
  | empty => exact hempty
  | run c w hc _ ih => exact hI.course.relates_run (Command.all_of_isForced hc) w ih

end SceneWorkflow
