import SceneWorkflow.Proofs.Engine.Atomicity
import SceneWorkflow.Proofs.Engine.Delivery
import SceneWorkflow.Proofs.UnitOfWork.Pairs
import SceneWorkflow.Query

/-!
# The sink cannot sway the workflow

The same operations are carried out in two worlds that differ in what their sinks
make of the batches. Jobs that one sink has refused wait on and are relayed within
later operations, so that the outboxes differ from then on. Nothing else does: the
worlds stay abreast, and the same jobs are queued in both.
-/
namespace SceneWorkflow
open Operation Store

/-! ### Operations in both worlds -/

/-- A relation between worlds abreast that holds on when both take the same step: an area is created,
a unit of work is committed, or the relay runs, whatever comes of it in either. -/
structure Tandem {σ τ : Type} [Sink σ] [Sink τ] (T : World σ → World τ → Prop) : Prop
    extends Pairing T where
  creation : ∀ {w₁ w₁' w₂ w₂' name}, T w₁ w₂ →
    w₁.store.createAoi name = .ok w₁'.store → w₁'.sink = w₁.sink →
    w₂.store.createAoi name = .ok w₂'.store → w₂'.sink = w₂.sink → Abreast w₁' w₂' → T w₁' w₂'
  commit : ∀ {w₁ w₁' w₂ w₂'} {task : Task} {a}, T w₁ w₂ →
    task.body.exec w₁.store = .ok (a, w₁'.store) → w₁'.sink = w₁.sink →
    task.body.exec w₂.store = .ok (a, w₂'.store) → w₂'.sink = w₂.sink → Abreast w₁' w₂' → T w₁' w₂'
  relay : ∀ {w₁ w₂}, T w₁ w₂ →
    T (Outbox.flush w₁.batchSize w₁).2 (Outbox.flush w₂.batchSize w₂).2

/-- To be abreast is such a relation, for any two sinks. -/
theorem tandem_abreast {σ τ : Type} [Sink σ] [Sink τ] :
    Tandem (Abreast (σ := σ) (τ := τ)) where
  abreast := fun h => h
  still := fun _ _ _ _ _ h => h
  creation := fun _ _ _ _ _ h => h
  commit := fun _ _ _ _ _ h => h
  relay := fun h => h.flush _ _

theorem flushOutbox_eq {σ : Type} [Sink σ] (w : World σ) :
    flushOutbox w = Outbox.flush w.batchSize w := by
  unfold flushOutbox
  rw [bind_apply]
  rfl

namespace Tandem
variable {σ τ : Type} [Sink σ] [Sink τ] {T : World σ → World τ → Prop} (hT : Tandem T)
  {w₁ : World σ} {w₂ : World τ}
include hT

theorem parallel_createAoi (name : String) : Parallel T (createAoi name) (createAoi name) := by
  unfold createAoi
  split
  · exact .throw _
  intro w₁ w₂ hw
  have habreast := hT.abreast hw
  have hmeet : T (w₁.meet .createAoi) (w₂.meet .createAoi) := hT.meet hw rfl
  rw [invoke_eq, invoke_eq, habreast.fault_eq rfl]
  split
  · exact .error hmeet
  have h₁ := createAoi_eq w₁.store name
  have h₂ := createAoi_eq w₂.store name
  rw [habreast.tables] at h₁
  cases hname : w₂.store.tables.createAoi name with
  | error e =>
    rw [hname] at h₁ h₂
    rw [h₁, h₂]
    exact .error hmeet
  | ok s =>
    rw [hname] at h₁ h₂
    rw [h₁, h₂]
    refine .ok rfl (hT.creation hw h₁ rfl h₂ rfl ?_)
    exact { habreast.meet rfl with tables := rfl }

/-- A unit of work that has been drafted in both is committed in both, or refused. -/
theorem alongside_conclude {task : Task} {a : task.Answer} {d₁ d₂ : Draft} (hw : T w₁ w₂)
    (hd : d₁.Like d₂) (h₁ : task.body.exec w₁.store = .ok (a, d₁.store))
    (h₂ : task.body.exec w₂.store = .ok (a, d₂.store)) :
    Alongside T Eq (conclude (.ok (a, d₁)) w₁) (conclude (.ok (a, d₂)) w₂) := by
  have habreast := hT.abreast hw
  have hcommit : Alongside T Eq (invoke .commit (fun _ => .ok ((), d₁.store)) w₁)
      (invoke .commit (fun _ => .ok ((), d₂.store)) w₂) := by
    rw [invoke_eq, invoke_eq, habreast.fault_eq rfl]
    split
    · exact .error (hT.meet hw rfl)
    · refine .ok rfl (hT.commit hw h₁ rfl h₂ rfl ?_)
      exact { habreast.meet rfl with tables := hd.tables }
  rw [conclude_eq, conclude_eq]
  exact hcommit.bind fun _ _ w₁ w₂ _ hw => .ok rfl (hT.relay hw)

theorem parallel_transact (operation : String) (task : Task) :
    Parallel T (transact operation task.body) (transact operation task.body) := by
  rw [transact_eq, transact_eq]
  refine .bind (hT.parallel_checkpoint operation) fun _ => ?_
  refine .bind (hT.parallel_signal rfl) fun _ => ?_
  intro w₁ w₂ hw
  rw [attempt_bind, attempt_bind]
  have hdraft := hT.alongside_drafting operation task.body hw
  have hfollows₁ := follows_drafting (w := w₁) operation task.body
  have hfollows₂ := follows_drafting (w := w₂) operation task.body
  have hstore₁ := hfollows₁.store
  have hstore₂ := hfollows₂.store
  have hok₁ := hfollows₁.ok
  have hok₂ := hfollows₂.ok
  generalize drafting operation task.body w₁ = o₁, drafting operation task.body w₂ = o₂ at *
  cases hdraft with
  | error hworld =>
    refine Parallel.bind (.tolerate fun w₁ w₂ hw => ?_) (fun _ => .throw _) _ _ hworld
    exact (hT.parallel_signal rfl w₁ w₂ hw).world
  | @ok r₁ r₂ _ _ hagree hworld =>
    obtain ⟨a, d₁⟩ := r₁
    obtain ⟨_, d₂⟩ := r₂
    obtain ⟨hlike, rfl⟩ := hagree
    refine hT.alongside_conclude hworld hlike ?_ ?_
    · rw [hstore₁]
      exact (task.faithful w₁.store).exec_of_ok (hok₁ _ rfl)
    · rw [hstore₂]
      exact (task.faithful w₂.store).exec_of_ok (hok₂ _ rfl)

theorem parallel_ingestScene (aoi : String) (r : SceneRequest) :
    Parallel T (ingestScene aoi r) (ingestScene aoi r) :=
  .bind (.give _) fun _ => hT.parallel_transact _ (.ingest r)

theorem parallel_ingestRemaining (aoi : String) (rs : List SceneRequest) (created : KeyMap Int) :
    Parallel T (ingestRemaining aoi rs created) (ingestRemaining aoi rs created) := by
  induction rs generalizing created with
  | nil => exact .pure _
  | cons r rest ih =>
    refine .bind (hT.parallel_ingestScene aoi r).attempt fun outcome => ?_
    cases outcome with
    | ok id => exact ih _
    | error e =>
      dsimp only
      split
      · exact ih _
      · exact .throw _

theorem parallel_updateStatus (kind : EntityKind) (id : Int) (requested : Status)
    (message : Option String) (force : Bool) :
    Parallel T (updateStatus kind id requested message force)
      (updateStatus kind id requested message force) := by
  cases kind with
  | scene => exact hT.parallel_transact _ (.changeScene id requested message force)
  | tile => exact hT.parallel_transact _ (.changeTile id requested message force)

theorem parallel_takeStep (i : Sweep.Step) : Parallel T (Sweep.takeStep i) (Sweep.takeStep i) := by
  cases i with
  | findAoi aoi => exact hT.parallel_query rfl fun _ => rfl
  | listScenes aoi => exact hT.parallel_query rfl fun _ => rfl
  | listTiles filter => exact hT.parallel_query rfl fun _ => rfl
  | requeue kind id force => exact hT.parallel_updateStatus kind id .pending (some "") force

theorem parallel_interpret {α : Type} (plan : Sweep.Plan α) :
    Parallel T (plan.interpret Sweep.tryStep) (plan.interpret Sweep.tryStep) := by
  induction plan with
  | done a => exact .pure a
  | step i next ih => exact .bind (hT.parallel_takeStep i).attempt ih

theorem parallel_retryAoi (aoi : String) (force : Bool) :
    Parallel T (retryAoi aoi force) (retryAoi aoi force) := by
  have hsweep := hT.parallel_interpret (Sweep.plan aoi force).run
  exact hsweep.bind fun result => .give result

theorem flushOutbox (hw : T w₁ w₂) : T (flushOutbox w₁).2 (flushOutbox w₂).2 := by
  rw [flushOutbox_eq, flushOutbox_eq]
  exact hT.relay hw

theorem parallel_deliver (r : WorkerResult) (attempts : Nat) :
    Parallel T (Consumer.deliver r attempts) (Consumer.deliver r attempts) := by
  induction attempts with
  | zero => exact .pure _
  | succ attempts ih =>
    refine .bind (hT.parallel_updateStatus _ _ _ _ _).attempt fun outcome => ?_
    split
    · exact .pure _
    · split
      · exact ih
      · exact .pure _

theorem parallel_deliverAll (maxRedeliveries : Nat) (results : List WorkerResult) :
    Parallel T (Consumer.deliverAll maxRedeliveries results)
      (Consumer.deliverAll maxRedeliveries results) := by
  induction results with
  | nil => exact .pure _
  | cons r rest ih =>
    have hrest := Parallel.bind (hT.parallel_deliver r (max 1 maxRedeliveries)) fun _ => ih
    intro w₁ w₂ hw
    show Alongside T Eq
      ((if w₁.cancelled then pure () else Consumer.deliver r (max 1 maxRedeliveries) >>= fun _ =>
        Consumer.deliverAll maxRedeliveries rest : Operation σ Unit) w₁)
      ((if w₂.cancelled then pure () else Consumer.deliver r (max 1 maxRedeliveries) >>= fun _ =>
        Consumer.deliverAll maxRedeliveries rest : Operation τ Unit) w₂)
    rw [(hT.abreast hw).cancelled]
    split
    · exact .ok rfl hw
    · exact hrest w₁ w₂ hw

end Tandem

/-! ### All that is asked -/

namespace Command

def Answer : Command → Type
  | createAoi _ => Unit
  | ingestScene _ _ => Int
  | ingestScenes _ _ => KeyMap Int
  | updateStatus _ _ _ _ _ => Bool
  | handleResult _ => Bool
  | updateSceneAttrs _ _ => Unit
  | updateTileAttrs _ _ => Unit
  | retryAoi _ _ => Sweep.Tally
  | flushOutbox => Nat

variable {σ : Type} [Sink σ]

def perform : (c : Command) → Operation σ c.Answer
  | createAoi name => SceneWorkflow.createAoi name
  | ingestScene aoi r => SceneWorkflow.ingestScene aoi r
  | ingestScenes aoi rs => SceneWorkflow.ingestScenes aoi rs
  | updateStatus kind id requested message force =>
    SceneWorkflow.updateStatus kind id requested message force
  | handleResult r => SceneWorkflow.handleResult r
  | updateSceneAttrs id attrs => SceneWorkflow.updateSceneAttrs id attrs
  | updateTileAttrs id attrs => SceneWorkflow.updateTileAttrs id attrs
  | retryAoi aoi force => SceneWorkflow.retryAoi aoi force
  | flushOutbox => SceneWorkflow.flushOutbox

end Command

inductive Inquiry where
  | aoi (name : String)
  | aois (pattern : Option String)
  | scene (id : Int)
  | scenes (aoi : String) (status : Option Status)
  | sceneId (aoi sourceId : String)
  | tile (id : Int)
  | tiles (filter : TileFilter)
  | sceneStatusCounts (aoi : String)
  | tileStatusCounts (aoi : String)
  | rootTiles (aoi : String)
  | leafTiles (aoi : String)
  | drawing (aoi : String)

namespace Inquiry

def Answer : Inquiry → Type
  | aoi _ => Aoi
  | aois _ => List Aoi
  | scene _ => Scene
  | scenes _ _ => List Scene
  | sceneId _ _ => Option Int
  | tile _ => Tile
  | tiles _ => List Tile
  | sceneStatusCounts _ => StatusCounts
  | tileStatusCounts _ => StatusCounts
  | rootTiles _ => List TileRef
  | leafTiles _ => List TileRef
  | drawing _ => String

def perform {σ : Type} : (q : Inquiry) → Operation σ q.Answer
  | aoi name => Query.aoi name
  | aois pattern => Query.aois pattern
  | scene id => Query.scene id
  | scenes area status => Query.scenes area status
  | sceneId area name => Query.sceneId area name
  | tile id => Query.tile id
  | tiles filter => Query.tiles filter
  | sceneStatusCounts area => Query.sceneStatusCounts area
  | tileStatusCounts area => Query.tileStatusCounts area
  | rootTiles area => Query.rootTiles area
  | leafTiles area => Query.leafTiles area
  | drawing area => Query.drawing area

end Inquiry

/-- What may be asked: commands, questions, and runs of the consumer that end with the last result. -/
inductive Errand where
  | command (c : Command)
  | inquire (q : Inquiry)
  | consume (maxRedeliveries : Nat) (results : List WorkerResult)

namespace Errand

def Answer : Errand → Type
  | command c => c.Answer
  | inquire q => q.Answer
  | consume _ _ => Unit

def perform {σ : Type} [Sink σ] : (x : Errand) → Operation σ x.Answer
  | command c => c.perform
  | inquire q => q.perform
  | consume maxRedeliveries results => Consumer.run maxRedeliveries results (fun _ => false) 0

end Errand

namespace Tandem
variable {σ τ : Type} [Sink σ] [Sink τ] {T : World σ → World τ → Prop} (hT : Tandem T)
  {w₁ : World σ} {w₂ : World τ}
include hT

theorem parallel_command {c : Command} (hc : c ≠ .flushOutbox) : Parallel T c.perform c.perform := by
  cases c with
  | createAoi name => exact hT.parallel_createAoi name
  | ingestScene aoi r => exact hT.parallel_ingestScene aoi r
  | ingestScenes aoi rs => exact hT.parallel_ingestRemaining aoi rs _
  | updateStatus kind id requested message force =>
    exact hT.parallel_updateStatus kind id requested message force
  | handleResult r => exact hT.parallel_updateStatus _ _ _ _ _
  | updateSceneAttrs id attrs => exact hT.parallel_transact _ (.updateSceneAttrs id attrs)
  | updateTileAttrs id attrs => exact hT.parallel_transact _ (.updateTileAttrs id attrs)
  | retryAoi aoi force => exact hT.parallel_retryAoi aoi force
  | flushOutbox => exact absurd rfl hc

theorem parallel_inquiry (q : Inquiry) : Parallel T q.perform q.perform := by
  cases q with
  | drawing aoi =>
    have harea : Parallel T (Query.aoi aoi) (Query.aoi aoi) := hT.parallel_query rfl fun _ => rfl
    refine harea.bind fun area => ?_
    have hscenes : Parallel T (Query.scenes area.id none) (Query.scenes area.id none) :=
      hT.parallel_query rfl fun _ => rfl
    refine hscenes.bind fun scenes => ?_
    have htiles : Parallel T (Query.tiles { aoi := some area.id })
        (Query.tiles { aoi := some area.id }) := hT.parallel_query rfl fun _ => rfl
    exact htiles.bind fun tiles => .pure _
  | aoi _ | aois _ | scene _ | scenes _ _ | sceneId _ _ | tile _ | tiles _ | sceneStatusCounts _
  | tileStatusCounts _ | rootTiles _ | leafTiles _ =>
    dsimp only [Inquiry.perform]
    exact hT.parallel_query rfl fun _ => rfl

/-- Whatever is asked is answered alike in both worlds, but for how many jobs a relay has handed on. -/
theorem parallel_errand {x : Errand} (hx : x ≠ .command .flushOutbox) :
    Parallel T x.perform x.perform := by
  cases x with
  | command c => exact hT.parallel_command fun hc => hx (congrArg _ hc)
  | inquire q => exact hT.parallel_inquiry q
  | consume maxRedeliveries results =>
    refine .bind (hT.parallel_deliverAll maxRedeliveries results) fun _ => ?_
    exact .bind (.pure ()) fun _ => .tolerate fun _ _ => hT.flushOutbox

theorem errand (x : Errand) (hw : T w₁ w₂) : T (x.perform w₁).2 (x.perform w₂).2 := by
  by_cases hx : x = .command .flushOutbox
  · rw [hx]
    exact hT.flushOutbox hw
  · exact (hT.parallel_errand hx w₁ w₂ hw).world

end Tandem

/-! ### Runs -/

/-- Something that is asked, how the calls of the store are disturbed meanwhile, and whether it is
cancelled from the start. -/
structure Round where
  errand : Errand
  faults : Faults := []
  cancelled : Bool := false

namespace World
variable {σ : Type}

def opened (s : Store) (sink : σ) (batchSize : Int) : World σ := { store := s, sink, batchSize }

def enter (w : World σ) (x : Round) : World σ :=
  { w with faults := x.faults, cancelled := x.cancelled }

def attend [Sink σ] (w : World σ) (xs : List Round) : World σ :=
  xs.foldl (fun w x => (x.errand.perform (w.enter x)).2) w

end World

theorem abreast_opened {σ τ : Type} (s : Store) (r₁ : σ) (r₂ : τ) (size₁ size₂ : Int) :
    Abreast (World.opened s r₁ size₁) (World.opened s r₂ size₂) where
  tables := rfl
  cancelled := rfl
  plan := fun _ _ => rfl
  spares₁ := Faults.spares_nil
  spares₂ := Faults.spares_nil

theorem Pairing.enter {σ τ : Type} {T : World σ → World τ → Prop} (hT : Pairing T) {w₁ : World σ}
    {w₂ : World τ} (hw : T w₁ w₂) {x : Round} (hx : x.faults.Spares) : T (w₁.enter x) (w₂.enter x) :=
  hT.still hw rfl rfl rfl rfl
    { tables := (hT.abreast hw).tables
      cancelled := rfl
      plan := fun _ _ => rfl
      spares₁ := hx
      spares₂ := hx }

theorem Tandem.attend {σ τ : Type} [Sink σ] [Sink τ] {T : World σ → World τ → Prop}
    (hT : Tandem T) {w₁ : World σ} {w₂ : World τ} (hw : T w₁ w₂) {xs : List Round}
    (hxs : ∀ x ∈ xs, x.faults.Spares) : T (w₁.attend xs) (w₂.attend xs) := by
  induction xs generalizing w₁ w₂ with
  | nil => exact hw
  | cons x xs ih =>
    have hentered := hT.enter hw (hxs x List.mem_cons_self)
    exact ih (hT.errand x.errand hentered) fun y hy => hxs y (List.mem_cons_of_mem x hy)

/-- Whatever the two sinks are, worlds stay abreast, and what is asked next is answered alike. -/
theorem Abreast.attend {σ τ : Type} [Sink σ] [Sink τ] {w₁ : World σ} {w₂ : World τ}
    (hw : Abreast w₁ w₂) {xs : List Round} (hxs : ∀ x ∈ xs, x.faults.Spares) :
    Abreast (w₁.attend xs) (w₂.attend xs) ∧
      ∀ x : Round, x.faults.Spares → x.errand ≠ .command .flushOutbox →
        (x.errand.perform ((w₁.attend xs).enter x)).1 =
          (x.errand.perform ((w₂.attend xs).enter x)).1 := by
  have hend := tandem_abreast.attend hw hxs
  refine ⟨hend, fun x hx hflush => ?_⟩
  exact (tandem_abreast.parallel_errand hflush _ _ (tandem_abreast.enter hend hx)).result_eq

/-! ### The jobs that are queued -/

/-- On the way from one world to another some jobs have been queued behind those that waited. Of all
these the first have been accepted by the sink, and the others wait. -/
def Posts (w : World Recorder) (jobs : List QueuedJob) (w' : World Recorder) : Prop :=
  ∃ log, Happens w log w' ∧ log.queued = jobs ∧
    ∃ gone, gone ++ w'.store.outbox = w.store.outbox ++ jobs ∧ ∀ j ∈ gone, j ∈ log.accepted

/-- Two worlds are abreast, and on the way to them from where they started the same jobs have been
queued. -/
structure Twins (v₁ v₂ w₁ w₂ : World Recorder) : Prop extends Abreast w₁ w₂ where
  queued : ∃ log₁ log₂ : Log, Happens v₁ log₁ w₁ ∧ Happens v₂ log₂ w₂ ∧ log₁.queued = log₂.queued

namespace Twins
variable {v₁ v₂ w₁ w₁' w₂ w₂' : World Recorder}

/-- What happens in both worlds next may queue jobs, if it queues the same in both. -/
theorem next (h : Twins v₁ v₂ w₁ w₂) {log₁ log₂ : Log} (h₁ : Happens w₁ log₁ w₁')
    (h₂ : Happens w₂ log₂ w₂') (hsame : log₁.queued = log₂.queued) (habreast : Abreast w₁' w₂') :
    Twins v₁ v₂ w₁' w₂' := by
  obtain ⟨past₁, past₂, hpast₁, hpast₂, hpast⟩ := h.queued
  refine ⟨habreast, past₁ ++ log₁, past₂ ++ log₂, hpast₁.trans h₁, hpast₂.trans h₂, ?_⟩
  rw [Log.queued_append, Log.queued_append, hpast, hsame]

theorem commit (h : Twins v₁ v₂ w₁ w₂) {task : Task} {a : task.Answer}
    (hbody₁ : task.body.exec w₁.store = .ok (a, w₁'.store)) (hsink₁ : w₁'.sink = w₁.sink)
    (hbody₂ : task.body.exec w₂.store = .ok (a, w₂'.store)) (hsink₂ : w₂'.sink = w₂.sink)
    (habreast : Abreast w₁' w₂') : Twins v₁ v₂ w₁' w₂' := by
  obtain ⟨jobs₁, hout₁, hhappens₁⟩ := happens_commit hbody₁ hsink₁
  obtain ⟨jobs₂, hout₂, hhappens₂⟩ := happens_commit hbody₂ hsink₂
  rw [Work.outbox_of_exec hbody₁] at hout₁
  rw [Work.outbox_of_exec hbody₂] at hout₂
  refine h.next hhappens₁ hhappens₂ ?_ habreast
  show jobs₁ ++ [] = jobs₂ ++ []
  rw [← List.append_cancel_left hout₁, ← List.append_cancel_left hout₂, Work.jobs, h.tables,
    Work.jobs]

theorem relay (h : Twins v₁ v₂ w₁ w₂) (hv₁ : v₁.store.Queued) (hv₂ : v₂.store.Queued)
    (size₁ size₂ : Int) :
    Twins v₁ v₂ (Outbox.flush size₁ w₁).2 (Outbox.flush size₂ w₂).2 := by
  obtain ⟨_, _, hpast₁, hpast₂, -⟩ := h.queued
  obtain ⟨log₁, hlog₁, hnone₁⟩ := unqueued_flush size₁ w₁ (hpast₁.queued hv₁)
  obtain ⟨log₂, hlog₂, hnone₂⟩ := unqueued_flush size₂ w₂ (hpast₂.queued hv₂)
  exact h.next hlog₁ hlog₂ (hnone₁.trans hnone₂.symm) (h.flush size₁ size₂)

theorem tandem (hv₁ : v₁.store.Queued) (hv₂ : v₂.store.Queued) : Tandem (Twins v₁ v₂) where
  abreast := fun h => h.toAbreast
  still := fun h hstore₁ hsink₁ hstore₂ hsink₂ habreast =>
    h.next (.silent .start ⟨.inl hstore₁, by rw [hsink₁]⟩)
      (.silent .start ⟨.inl hstore₂, by rw [hsink₂]⟩) rfl habreast
  creation := fun h hok₁ hsink₁ hok₂ hsink₂ habreast =>
    h.next (.silent .start ⟨.inr ⟨_, hok₁⟩, by rw [hsink₁]⟩)
      (.silent .start ⟨.inr ⟨_, hok₂⟩, by rw [hsink₂]⟩) rfl habreast
  commit := fun h => h.commit
  relay := fun h => h.relay hv₁ hv₂ _ _

end Twins

/-- The sink cannot sway the workflow. From a store that comes about, whatever is asked in round after
round and whatever two sinks accept and refuse, the tables are the same in the end, the same jobs have
been queued with the same ids, though fewer of them may wait in one world than in the other, and what is
asked next is answered alike, unless it is how many jobs the relay hands on. -/
theorem Attainable.unswayed {s : Store} (h : Attainable s) (r₁ r₂ : Recorder) (size₁ size₂ : Int)
    {xs : List Round} (hxs : ∀ x ∈ xs, x.faults.Spares) :
    let w₁ := World.opened s r₁ size₁
    let w₂ := World.opened s r₂ size₂
    (w₁.attend xs).store.tables = (w₂.attend xs).store.tables ∧
      (∃ jobs, Posts w₁ jobs (w₁.attend xs) ∧ Posts w₂ jobs (w₂.attend xs)) ∧
      ∀ x : Round, x.faults.Spares → x.errand ≠ .command .flushOutbox →
        (x.errand.perform ((w₁.attend xs).enter x)).1 =
          (x.errand.perform ((w₂.attend xs).enter x)).1 := by
  intro w₁ w₂
  have hqueued : s.Queued := h.queued
  have hstart : Abreast w₁ w₂ := abreast_opened s r₁ r₂ size₁ size₂
  obtain ⟨hend, hanswers⟩ := hstart.attend hxs
  refine ⟨hend.tables, ?_, hanswers⟩
  have hT : Tandem (Twins w₁ w₂) := Twins.tandem hqueued hqueued
  obtain ⟨-, log₁, log₂, hlog₁, hlog₂, hsame⟩ :=
    hT.attend ⟨hstart, [], [], .start, .start, rfl⟩ hxs
  have hleft₂ := hlog₂.left hqueued
  rw [← hsame] at hleft₂
  exact ⟨log₁.queued, ⟨log₁, hlog₁, rfl, hlog₁.left hqueued⟩, ⟨log₂, hlog₂, hsame.symm, hleft₂⟩⟩

namespace World

/-- A scene is taken up and reported done, and then its first tile is. -/
def delivery : List Round :=
  [{ errand := .command (.createAoi "north") },
    { errand := .command (.ingestScene "north"
        (.ofTiles "north" "s1" [("a", {}), ("b", { previous := some ⟨"s1", "a"⟩ })])) },
    { errand := .consume 1 [⟨.scene, 1, .done, ""⟩, ⟨.tile, 1, .done, ""⟩] }]

/-- One sink accepts every batch, and the other refuses the first four. -/
theorem unswayed_refusals :
    Attainable {} ∧ (∀ x ∈ delivery, x.faults.Spares) ∧
      ((opened {} ({} : Recorder) 100).attend delivery).store.outbox.map (·.id) = [] ∧
      ((opened {} ({ plan := [(4, false)] } : Recorder) 100).attend delivery).store.outbox.map
        (·.id) = [1, 2, 3] ∧
      ((opened {} ({} : Recorder) 100).attend delivery).store.tables =
        ((opened {} ({ plan := [(4, false)] } : Recorder) 100).attend delivery).store.tables := by
  have hquiet : ∀ x ∈ delivery, x.faults.isEmpty = true := by decide
  have hspares : ∀ x ∈ delivery, x.faults.Spares := fun x hx => .of_isEmpty (hquiet x hx)
  have hall := Attainable.empty.unswayed {} { plan := [(4, false)] } 100 100 hspares
  exact ⟨.empty, hspares, by decide +kernel, by decide +kernel, hall.1⟩

/-- If taking the jobs out of the outbox is the moment of a cancellation, it matters whether they have
been accepted: the second result is not delivered any more. -/
example :
    let reports : List Round :=
      delivery.take 2 ++
        [{ errand := .consume 1 [⟨.scene, 1, .done, ""⟩, ⟨.tile, 1, .done, ""⟩]
           faults := [(.ackJobs, [(1, some .cancel)])] }]
    ((opened {} ({} : Recorder) 100).attend reports).store.tiles.map (·.status) = [.pending, .new] ∧
      ((opened {} ({ plan := [(4, false)] } : Recorder) 100).attend reports).store.tiles.map
        (·.status) = [.done, .pending] := by
  decide +kernel

end World

end SceneWorkflow
