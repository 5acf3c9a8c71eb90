import SceneWorkflow.Consumer
import SceneWorkflow.Proofs.Engine.Commands

/-!
# Activities and attainable stores

All that may be done to a world: commands, forced ones included, relays with batches
of any size, and runs of the consumer. Attainable are the stores that come about in
this way.
-/
namespace SceneWorkflow

inductive Activity (σ : Type) where
  | command (c : Command)
  | flush (batchSize : Int)
  | consume (maxRedeliveries : Nat) (results : List WorkerResult) (isOpen : World σ → Bool)
      (patience : Nat)

def Activity.All {σ : Type} (P : Task → Prop) : Activity σ → Prop
  | command c => c.All P
  | flush _ => True
  | consume _ results _ _ =>
    ∀ r ∈ results, P (.change r.kind r.id r.status (some r.message) false)

theorem Activity.all_of_forall {σ : Type} {P : Task → Prop} (hP : ∀ task, P task) (x : Activity σ) :
    x.All P := by
  cases x with
  | command c => exact Command.all_of_forall hP c
  | flush batchSize => trivial
  | consume _ results _ _ => exact fun _ _ => hP _

def Activity.run {σ : Type} [Sink σ] (w : World σ) : Activity σ → World σ
  | command c => c.run w
  | flush batchSize => (Outbox.flush batchSize w).2
  | consume maxRedeliveries results isOpen patience =>
    (Consumer.run maxRedeliveries results isOpen patience w).2

/-- The stores that come about from the empty one, whatever is done and forced. Any activity may meet
any disturbance, any sink and any cancellation. -/
inductive Attainable : Store → Prop where
  | empty : Attainable {}
  | run {σ : Type} [Sink σ] (x : Activity σ) (w : World σ) (h : Attainable w.store) :
      Attainable (x.run w).store

theorem Reachable.attainable {s : Store} (h : Reachable s) : Attainable s := by
  induction h with
  | empty => exact .empty
  | run c w _ _ ih => exact .run (.command c) w ih

theorem Attainable.after {σ : Type} [Sink σ] {w : World σ} (h : Attainable w.store)
    (cs : List Command) : Attainable (w.after cs).store :=
  World.induct_after (I := fun w => Attainable w.store) h fun c _ w h => h.run (.command c) w

structure Lasting (I : Store → Prop) : Prop where
  creation : ∀ s name s', I s → s.createAoi name = .ok s' → I s'
  relay : ∀ s ids, I s → I (s.ackJobs ids)
  task : ∀ (task : Task) s a s', I s → task.body.exec s = .ok (a, s') → I s'

/-! ### The course of an activity -/

/-- When all results are in, the consumer does nothing but relay. -/
theorem Passage.within_relays {σ : Type} [Sink σ] {R : World σ → World σ → Prop} (hR : Passage R)
    (hrelay : (flushOutbox (σ := σ)).Within R) (isOpen : World σ → Bool) (times : Nat) :
    (Consumer.idle isOpen times >>= fun _ => Operation.tolerate flushOutbox).Within R := by
  refine hR.within_bind ?_ fun _ => hrelay.tolerate
  induction times with
  | zero => exact hR.within_pure _
  | succ times ih =>
    refine hR.within_bind hR.within_get fun w => ?_
    split
    · exact hR.within_pure _
    · exact hR.within_bind hrelay.tolerate fun _ => ih

namespace Course
open Operation
variable {σ : Type} [Sink σ] {P : Task → Prop} {R : World σ → World σ → Prop} (hR : Course P R)
include hR

theorem within_deliver {r : WorkerResult}
    (hr : P (.change r.kind r.id r.status (some r.message) false)) (attempts : Nat) :
    (Consumer.deliver r attempts).Within R := by
  induction attempts with
  | zero => exact hR.within_pure _
  | succ attempts ih =>
    have hresult : (handleResult r).Within R := hR.within_updateStatus hr
    refine hR.within_bind hresult.attempt fun outcome => ?_
    split
    · exact hR.within_pure _
    · split
      · exact ih
      · exact hR.within_pure _

theorem within_deliverAll (maxRedeliveries : Nat) {results : List WorkerResult}
    (hresults : ∀ r ∈ results, P (.change r.kind r.id r.status (some r.message) false)) :
    (Consumer.deliverAll maxRedeliveries results).Within R := by
  induction results with
  | nil => exact hR.within_pure _
  | cons r rest ih =>
    refine hR.within_bind hR.within_get fun w => ?_
    split
    · exact hR.within_pure _
    · refine hR.within_bind (hR.within_deliver (hresults r List.mem_cons_self) _) fun _ => ?_
      exact ih fun q hq => hresults q (List.mem_cons_of_mem r hq)

theorem relates_activity {x : Activity σ} (hx : x.All P) (w : World σ) : R w (x.run w) := by
  cases x with
  | command c => exact hR.relates_run hx w
  | flush batchSize => exact hR.relay batchSize w
  | consume maxRedeliveries results isOpen patience =>
    refine hR.within_bind (hR.within_deliverAll maxRedeliveries hx) (fun _ => ?_) w
    exact hR.within_relays hR.within_flushOutbox isOpen patience

end Course

/-! ### What all changes keep -/

theorem Lasting.course {σ : Type} [Sink σ] {I : Store → Prop} (hI : Lasting I) :
    Course (σ := σ) (fun _ => True) (Kept I) where
  toPassage := passage_kept I
  creation := fun hok _ h => hI.creation _ _ _ h hok
  commit := fun _ hok _ h => hI.task _ _ _ _ h hok
  relay := Outbox.kept_flush hI.relay

/-- What holds of the empty store and is kept by every change holds of every attainable store. -/
theorem Attainable.induct {I : Store → Prop} (hI : Lasting I) (hempty : I {}) {s : Store}
    (h : Attainable s) : I s := by
  induction h with
  | empty => exact hempty
  | run x w _ ih => exact hI.course.relates_activity (x.all_of_forall fun _ => trivial) w ih

end SceneWorkflow
