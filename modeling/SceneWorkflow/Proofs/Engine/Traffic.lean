import SceneWorkflow.Proofs.Engine.JobLinks

/-!
# Traffic from workers

Unless it is disturbed, an unforced request for a scene or tile is never answered
with an error. It is accepted or rejected by the present status alone: what it
entails can always be carried out.
-/
namespace SceneWorkflow

def Store.entityStatus? (s : Store) : EntityKind → Int → Option Status
  | .scene => s.sceneStatus?
  | .tile => s.tileStatus?

open Store

variable {σ : Type} [Sink σ] {w : World σ}

theorem updateStatus_of_calm (h : Sound [] w.store) (hw : w.Calm) {kind : EntityKind} {id : Int}
    {present : Status} (hentity : w.store.entityStatus? kind id = some present)
    (requested : Status) (message : Option String) :
    (updateStatus kind id requested message false w).1 =
      .ok (present.transition requested false).isSome := by
  rw [Status.transition_unforced]
  cases kind with
  | scene =>
    obtain ⟨x, hx, rfl⟩ := Option.map_eq_some_iff.1 hentity
    obtain rfl := scene?_id hx
    obtain ⟨s, hexec, -⟩ := Cascade.exec_changeScene h hx requested message
    exact Task.transact_of_calm _ (.changeScene x.id requested message false) hw hexec
  | tile =>
    obtain ⟨t, ht, rfl⟩ := Option.map_eq_some_iff.1 hentity
    obtain rfl := tile?_id ht
    obtain ⟨s, hexec, -⟩ : ∃ s', (Cascade.changeTile t.id requested message false).exec w.store =
        .ok ((t.status.unforced requested).isSome, s') ∧ Advances False w.store s' :=
      Cascade.exec_changeTile h ht requested message
    exact Task.transact_of_calm _ (.changeTile t.id requested message false) hw hexec

/-- In a store that comes about without force, no undisturbed request from a worker is answered
with an error. -/
theorem Reachable.traffic_answered (h : Reachable w.store) (hw : w.Calm) {kind : EntityKind}
    {id : Int} {present : Status} (hentity : w.store.entityStatus? kind id = some present) :
    (∀ requested message, (updateStatus kind id requested message false w).1 =
      .ok (present.transition requested false).isSome) ∧
    ∀ r : WorkerResult, r.kind = kind → r.id = id →
      (handleResult r w).1 = .ok (present.transition r.status false).isSome := by
  have hanswer := updateStatus_of_calm h.sound hw hentity
  refine ⟨hanswer, ?_⟩
  rintro r rfl rfl
  exact hanswer r.status (some r.message)

/-- A scene fails tile by tile, while a tile that waits for one of its tiles cannot be done. -/
theorem traffic_answered_comparedAcross :
    Reachable comparedAcross.store ∧ comparedAcross.Calm ∧
      comparedAcross.store.entityStatus? .scene 1 = some .pending ∧
      (updateStatus .scene 1 .failed none false comparedAcross).1 = .ok true ∧
      comparedAcross.store.entityStatus? .tile 3 = some .new ∧
      (updateStatus .tile 3 .done none false comparedAcross).1 = .ok false := by
  have hreach : Reachable comparedAcross.store := Reachable.empty.after (by decide)
  have hfaults : comparedAcross.faults.isEmpty = true := by decide +kernel
  have hcalm : comparedAcross.Calm := by
    refine ⟨by decide +kernel, ?_⟩
    rw [List.isEmpty_iff.1 hfaults]
    exact Faults.quiet_nil
  have hscene : comparedAcross.store.entityStatus? .scene 1 = some .pending := by decide +kernel
  have htile : comparedAcross.store.entityStatus? .tile 3 = some .new := by decide +kernel
  have hfails := (hreach.traffic_answered hcalm hscene).1 .failed none
  have hrejected := (hreach.traffic_answered hcalm htile).1 .done none
  exact ⟨hreach, hcalm, hscene, hfails, htile, hrejected⟩

end SceneWorkflow
