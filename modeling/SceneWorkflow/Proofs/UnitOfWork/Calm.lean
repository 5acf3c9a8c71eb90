import SceneWorkflow.Proofs.UnitOfWork.Commit
import SceneWorkflow.Workflow

/-!
# What worlds go on to meet

Calls use up what is planned and plan nothing, and neither does the relay. So where
nothing is cancelled, a world meets later only what it might have met before, and
where nothing is planned that would disturb the store, nothing disturbs it later
either.
-/
namespace SceneWorkflow

/-- All that is still planned satisfies a condition if it did before. -/
def StaysMeeting {σ : Type} (P : Option Fault → Prop) (w w' : World σ) : Prop :=
  w.Meets P → w'.Meets P

open Operation
variable {σ α β : Type} {P : Option Fault → Prop}

namespace StaysMeeting

theorem transit : Transit (StaysMeeting (σ := σ) P) where
  refl := fun _ hw => hw
  trans := fun h₁ h₂ hw => h₂ (h₁ hw)

variable (hP : ¬ P (some .cancel))
include hP

theorem within_invoke (m : Method) (f : Store → Except Error (α × Store)) :
    (invoke (σ := σ) m f).Within (StaysMeeting P) := by
  intro w hw
  obtain ⟨hfault, hrest⟩ := Faults.next_of_only hP hw.2 m
  unfold invoke
  rcases hfault with hfault | ⟨-, hfault⟩
  · simp only [hfault, hw.1, reduceCtorEq, if_false]
    cases f w.store with
    | error e => exact ⟨rfl, hrest⟩
    | ok r => exact ⟨rfl, hrest⟩
  · simp only [hfault, if_true]
    exact ⟨hw.1, hrest⟩

theorem within_of_follows {x : Operation σ α} {result : World σ → Except Error α}
    (h : ∀ w, x.Follows (result w) w) : x.Within (StaysMeeting P) :=
  fun w hw => ((h w).meets hP hw).2

variable [Sink σ]

theorem within_relayRun (jobs : List QueuedJob) :
    (Outbox.relayRun (σ := σ) jobs).Within (StaysMeeting P) := by
  cases jobs with
  | nil => exact fun _ hw => hw
  | cons job jobs =>
    exact transit.within_bind (fun _ hw => hw) fun _ => within_invoke hP .ackJobs _

theorem within_flush (batchSize : Int) :
    (Outbox.flush (σ := σ) batchSize).Within (StaysMeeting P) :=
  Outbox.within_flush_of_transit transit (fun _ => within_invoke hP .pendingJobs _)
    (within_relayRun hP) batchSize

theorem within_conclude (outcome : Except Error (α × Draft)) :
    (conclude (σ := σ) outcome).Within (StaysMeeting P) := by
  cases outcome with
  | error e =>
    exact transit.within_bind (within_invoke hP .rollback _).tolerate fun _ _ hw => hw
  | ok r =>
    refine transit.within_bind (within_invoke hP .commit _) fun _ => ?_
    refine transit.within_bind (fun _ hw => hw) fun w => ?_
    exact transit.within_bind (within_flush hP w.batchSize).tolerate fun _ _ hw => hw

theorem within_transact (operation : String) (body : Work α) :
    (transact (σ := σ) operation body).Within (StaysMeeting P) := by
  rw [transact_eq]
  refine transit.within_bind (within_of_follows hP fun _ => follows_checkpoint operation) fun _ => ?_
  refine transit.within_bind (within_of_follows hP fun _ => follows_signal .begin) fun _ => ?_
  refine transit.within_bind (within_of_follows hP fun _ => follows_drafting operation body).attempt ?_
  exact within_conclude hP

theorem within_updateStatus (kind : EntityKind) (id : Int) (requested : Status)
    (message : Option String) (force : Bool) :
    (updateStatus (σ := σ) kind id requested message force).Within (StaysMeeting P) := by
  cases kind with
  | scene => exact within_transact hP _ (Cascade.changeScene id requested message force)
  | tile => exact within_transact hP _ (Cascade.changeTile id requested message force)

end StaysMeeting

end SceneWorkflow
