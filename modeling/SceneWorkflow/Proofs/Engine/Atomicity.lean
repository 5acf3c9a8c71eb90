import SceneWorkflow.Proofs.Engine.Activities

/-!
# All or nothing

A change is made as a whole or not at all, whatever befalls its calls and the relay
after it. If it is made then it is the change that would have been made undisturbed.
-/
namespace SceneWorkflow
open Store

/-! ### The order of jobs in attainable stores -/

theorem lasting_queued : Lasting Queued where
  creation := fun _ _ _ h hok => (queues_createAoi hok).queued h
  relay := fun _ ids h => h.ackJobs ids
  task := fun _ _ _ _ h hok => Work.queued_of_exec hok h

theorem Attainable.queued {s : Store} (h : Attainable s) : s.Queued :=
  h.induct lasting_queued queued_empty

/-! ### Changes -/

inductive Mutation where
  | ingestScene (aoi : String) (r : SceneRequest)
  | updateSceneStatus (id : Int) (status : Status) (message : Option String) (force : Bool)
  | updateTileStatus (id : Int) (status : Status) (message : Option String) (force : Bool)
  | handleResult (r : WorkerResult)
  | updateSceneAttrs (id : Int) (attrs : SceneAttrs)
  | updateTileAttrs (id : Int) (attrs : TileAttrs)

namespace Mutation

def Answer : Mutation → Type
  | ingestScene _ _ => Int
  | updateSceneStatus _ _ _ _ => Bool
  | updateTileStatus _ _ _ _ => Bool
  | handleResult _ => Bool
  | updateSceneAttrs _ _ => Unit
  | updateTileAttrs _ _ => Unit

def perform (σ : Type) [Sink σ] : (m : Mutation) → Operation σ m.Answer
  | ingestScene aoi r => SceneWorkflow.ingestScene aoi r
  | updateSceneStatus id status message force =>
    SceneWorkflow.updateSceneStatus id status message force
  | updateTileStatus id status message force =>
    SceneWorkflow.updateTileStatus id status message force
  | handleResult r => SceneWorkflow.handleResult r
  | updateSceneAttrs id attrs => SceneWorkflow.updateSceneAttrs id attrs
  | updateTileAttrs id attrs => SceneWorkflow.updateTileAttrs id attrs

end Mutation

/-- A store has been committed, and then the relay has run. It may have taken some of the first jobs
out of the outbox. -/
structure Commits {σ : Type} [Sink σ] (w : World σ) (committed : Store) (w' : World σ) : Prop where
  relayed : ∃ w₁ : World σ, w₁.store = committed ∧ w₁.sink = w.sink ∧
    w' = (Outbox.flush w₁.batchSize w₁).2
  left : ∃ rest, rest <:+ committed.outbox ∧ w'.store = { committed with outbox := rest }

/-- Units of work are committed one after the other, each with its relay, and each is a step of the
given kind. In between the store and the sink stay as they are. -/
inductive Series {σ ι : Type} [Sink σ] (Step : ι → Store → Store → Prop) :
    World σ → List ι → World σ → Prop where
  | still {w w' : World σ} (hstore : w'.store = w.store) (hsink : w'.sink = w.sink) :
      Series Step w [] w'
  | step {w w₁ w₂ w' : World σ} {i : ι} {is : List ι} {committed : Store}
      (hstore : w₁.store = w.store) (hsink : w₁.sink = w.sink) (hstep : Step i w₁.store committed)
      (hcommits : Commits w₁ committed w₂) (hrest : Series Step w₂ is w') :
      Series Step w (i :: is) w'

namespace Series
variable {σ ι : Type} [Sink σ] {Step : ι → Store → Store → Prop} {w w₁ w' : World σ}
  {is js : List ι}

theorem after_still (hstore : w₁.store = w.store) (hsink : w₁.sink = w.sink)
    (h : Series Step w₁ is w') : Series Step w is w' := by
  cases h with
  | still hstore' hsink' => exact .still (hstore'.trans hstore) (hsink'.trans hsink)
  | step hstore' hsink' hstep hcommits hrest =>
    exact .step (hstore'.trans hstore) (hsink'.trans hsink) hstep hcommits hrest

theorem append (h : Series Step w is w₁) (h' : Series Step w₁ js w') :
    Series Step w (is ++ js) w' := by
  induction h with
  | still hstore hsink => exact h'.after_still hstore hsink
  | step hstore hsink hstep hcommits _ ih => exact .step hstore hsink hstep hcommits (ih h')

end Series

/-- If the operation fails then it has changed nothing, and nothing has been published. If it succeeds
then the same has been committed, behind the jobs that waited, as in any undisturbed run from the
same store, and the result is the same. -/
structure AllOrNothing {α : Type} (x : (σ : Type) → [Sink σ] → Operation σ α) {σ : Type} [Sink σ]
    (w : World σ) : Prop where
  nothing : ∀ e, (x σ w).1 = .error e → (x σ w).2.store = w.store ∧ (x σ w).2.sink = w.sink
  all : ∀ a, (x σ w).1 = .ok a → ∃ committed, w.store.outbox <+: committed.outbox ∧
    Commits w committed (x σ w).2 ∧
    ∀ (τ : Type) [Sink τ] (w₀ : World τ), w₀.Calm → w₀.store = w.store →
      (x τ w₀).1 = .ok a ∧ Commits w₀ committed (x τ w₀).2

section
variable {σ : Type} [Sink σ] {w : World σ}

/-- A unit of work that succeeds commits what its body makes of the store. -/
theorem Task.commits (h : w.store.Queued) {operation : String} {task : Task} {a : task.Answer}
    (hok : (transact operation task.body w).1 = .ok a) :
    ∃ committed, task.body.exec w.store = .ok (a, committed) ∧
      Commits w committed (transact operation task.body w).2 := by
  rcases task.transact_cases operation w with
    ⟨e, herror, -⟩ | ⟨b, w₁, hbody, hsink, hresult, hworld⟩
  · rw [herror] at hok
    cases hok
  · rw [hresult] at hok
    cases hok
    refine ⟨w₁.store, hbody, ⟨w₁, rfl, hsink, hworld⟩, ?_⟩
    rw [hworld]
    exact Outbox.drops_flush w₁.batchSize (Work.queued_of_exec hbody h)

theorem Task.all_or_nothing_transact (h : w.store.Queued) (operation : String) (task : Task) :
    AllOrNothing (fun σ [Sink σ] => transact (σ := σ) operation task.body) w where
  nothing := by
    intro e he
    rcases task.transact_cases operation w with ⟨-, -, hsame⟩ | ⟨a, -, -, -, hresult, -⟩
    · exact hsame
    · rw [hresult] at he
      cases he
  all := by
    intro a hok
    obtain ⟨committed, hbody, hcommits⟩ := Task.commits h hok
    obtain ⟨jobs, hqueues⟩ := Work.queues_of_exec hbody
    refine ⟨committed, ⟨jobs, hqueues.outbox_eq.symm⟩, hcommits, ?_⟩
    intro τ _ w₀ hcalm hstore
    -- Undisturbed, the same body is carried out on the same store.
    rw [← hstore] at h hbody
    have hok₀ := task.transact_of_calm operation hcalm hbody
    obtain ⟨committed₀, hbody₀, hcommits₀⟩ := Task.commits h hok₀
    cases hbody.symm.trans hbody₀
    exact ⟨hok₀, hcommits₀⟩

/-- A request is looked at before anything is done. -/
theorem all_or_nothing_ingestScene (h : w.store.Queued) (aoi : String) (r : SceneRequest) :
    AllOrNothing (fun σ [Sink σ] => ingestScene (σ := σ) aoi r) w := by
  have hrun (σ : Type) [Sink σ] : ingestScene (σ := σ) aoi r =
      Operation.give (r.validate aoi) >>= fun _ =>
        transact "ingest_scene" (Task.ingest r).body := rfl
  cases hvalid : r.validate aoi with
  | error e =>
    have hrefused (σ : Type) [Sink σ] (w : World σ) : ingestScene aoi r w = (.error e, w) := by
      rw [hrun, hvalid]
      rfl
    refine ⟨fun e' _ => by rw [hrefused]; exact ⟨rfl, rfl⟩, fun a hok => ?_⟩
    rw [hrefused] at hok
    cases hok
  | ok _ =>
    have htask (σ : Type) [Sink σ] :
        ingestScene (σ := σ) aoi r = transact "ingest_scene" (Task.ingest r).body := by
      rw [hrun, hvalid]
      rfl
    simp only [htask]
    exact Task.all_or_nothing_transact h "ingest_scene" (.ingest r)

end

/-- In every store that comes about, every change is all or nothing. -/
theorem Attainable.all_or_nothing {σ : Type} [Sink σ] {w : World σ} (h : Attainable w.store)
    (m : Mutation) : AllOrNothing (fun σ [Sink σ] => m.perform σ) w := by
  have hqueued := h.queued
  cases m with
  | ingestScene aoi r => exact all_or_nothing_ingestScene hqueued aoi r
  | updateSceneStatus id status message force =>
    exact Task.all_or_nothing_transact hqueued _ (.changeScene id status message force)
  | updateTileStatus id status message force =>
    exact Task.all_or_nothing_transact hqueued _ (.changeTile id status message force)
  | handleResult r =>
    obtain ⟨kind, id, status, message⟩ := r
    cases kind with
    | scene => exact Task.all_or_nothing_transact hqueued _ (.changeScene id status (some message) false)
    | tile => exact Task.all_or_nothing_transact hqueued _ (.changeTile id status (some message) false)
  | updateSceneAttrs id attrs => exact Task.all_or_nothing_transact hqueued _ (.updateSceneAttrs id attrs)
  | updateTileAttrs id attrs => exact Task.all_or_nothing_transact hqueued _ (.updateTileAttrs id attrs)

/-- A scene waits to be downloaded. -/
def awaited : World Recorder :=
  World.after { sink := {} }
    [.createAoi "north",
      .ingestScene "north" (.ofTiles "north" "s1"
        [("a", {}), ("b", { previous := some ⟨"s1", "a"⟩ })])]

/-- What is announced next cannot be taken out of the outbox. -/
def obstructed : World Recorder := { awaited with faults := [(.ackJobs, [(1, some .refuse)])] }

/-- The job of the tile that starts is announced, and still waits. -/
theorem all_or_nothing_obstructed :
    Attainable obstructed.store ∧
      (updateSceneStatus 1 .done none false obstructed).1 = .ok true ∧
      (updateSceneStatus 1 .done none false obstructed).2.store.outbox ≠ [] ∧
      ∃ committed, obstructed.store.outbox <+: committed.outbox ∧
        Commits obstructed committed (updateSceneStatus 1 .done none false obstructed).2 := by
  have hawaited : Attainable awaited.store := Attainable.empty.after _
  have hattain : Attainable obstructed.store := by
    dsimp only [obstructed]
    exact hawaited
  have hdecided : (updateSceneStatus 1 .done none false obstructed).1.toOption = some true := by
    decide +kernel
  have hwaits : (updateSceneStatus 1 .done none false obstructed).2.store.outbox ≠ [] := by
    decide +kernel
  have hall : AllOrNothing (fun σ [Sink σ] => updateSceneStatus (σ := σ) 1 .done none false)
      obstructed := hattain.all_or_nothing (.updateSceneStatus 1 .done none false)
  have hok := toOption_eq_some.1 hdecided
  obtain ⟨committed, hbefore, hcommits, -⟩ := hall.all true hok
  exact ⟨hattain, hok, hwaits, committed, hbefore, hcommits⟩

end SceneWorkflow
