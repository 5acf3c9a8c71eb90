import SceneWorkflow.Proofs.Engine.Activities
import SceneWorkflow.Proofs.Outbox.Log

/-!
# The delivery of jobs

Whatever is done to a world, and whatever disturbs it, comes down to commits of units
of work and relays of batches, one after the other. They leave a log that accounts
for the outbox and for what the sink has accepted.
-/
namespace SceneWorkflow
open Operation Store

/-! ### What happens to a world -/

structure Silent (w w' : World Recorder) : Prop where
  store : w'.store = w.store ∨ ∃ name, w.store.createAoi name = .ok w'.store
  batches_eq : w'.sink.batches = w.sink.batches

inductive Occurs : World Recorder → Event → World Recorder → Prop where
  /-- A unit of work is committed and has queued some jobs. -/
  | commit {w w' : World Recorder} {task : Task} {a : task.Answer} {jobs : List QueuedJob}
      (hbody : task.body.exec w.store = .ok (a, w'.store))
      (hjobs : w'.store.outbox = w.store.outbox ++ jobs) (hsink : w'.sink = w.sink) :
      Occurs w (.queued jobs) w'
  /-- The relay hands the first jobs that wait to the sink, which accepts them. The relay fails after
  that only if it cannot take them out of the outbox. -/
  | relay {w : World Recorder} {topic : Topic} {jobs : List QueuedJob}
      (hbatch : IsBatch topic jobs) (hfirst : jobs <+: w.store.outbox)
      (haccepted : (w.sink.publish topic (jobs.map (·.payload))).1 = .ok ()) :
      Occurs w (.accepted topic jobs (Outbox.relayRun jobs w).1.isOk) (Outbox.relayRun jobs w).2

/-- What happens on the way from one world to another, and the log of it. -/
inductive Happens (start : World Recorder) : Log → World Recorder → Prop where
  | start : Happens start [] start
  | silent {log : Log} {w w' : World Recorder} (h : Happens start log w) (hsilent : Silent w w') :
      Happens start log w'
  | event {log : Log} {e : Event} {w w' : World Recorder} (h : Happens start log w)
      (hoccurs : Occurs w e w') : Happens start (log ++ [e]) w'

namespace Happens
variable {w₁ w₂ w₃ : World Recorder} {log past future : Log}

theorem trans (h₁ : Happens w₁ past w₂) (h₂ : Happens w₂ future w₃) :
    Happens w₁ (past ++ future) w₃ := by
  induction h₂ with
  | start =>
    rw [List.append_nil]
    exact h₁
  | silent _ hsilent ih => exact .silent ih hsilent
  | event _ hoccurs ih =>
    rw [← List.append_assoc]
    exact .event ih hoccurs

theorem occurs {e : Event} (h : Happens w₁ log w₃) (hlog : log = past ++ e :: future) :
    ∃ w w₂, Happens w₁ past w ∧ Occurs w e w₂ ∧ Happens w₂ future w₃ := by
  induction h generalizing future with
  | start => exact absurd hlog.symm (List.append_ne_nil_of_right_ne_nil _ (List.cons_ne_nil _ _))
  | silent h hsilent ih =>
    obtain ⟨w, w₂, hpast, he, hfuture⟩ := ih hlog
    exact ⟨w, w₂, hpast, he, .silent hfuture hsilent⟩
  | event h hoccurs ih =>
    -- The last entry is the one in question, or the last of those behind it.
    rcases List.eq_nil_or_concat future with rfl | ⟨before, last, rfl⟩
    · obtain ⟨rfl, he⟩ := List.append_inj' hlog rfl
      cases he
      exact ⟨_, _, h, hoccurs, .start⟩
    · rw [List.concat_eq_append, ← List.cons_append, ← List.append_assoc] at hlog
      obtain ⟨hbefore, he⟩ := List.append_inj' hlog rfl
      cases he
      obtain ⟨w, w₂, hpast, hfirst, hfuture⟩ := ih hbefore
      rw [List.concat_eq_append]
      exact ⟨w, w₂, hpast, hfirst, .event hfuture hoccurs⟩

/-- Each point of a log is a point on the way. -/
theorem split (h : Happens w₁ log w₃) (hlog : log = past ++ future) :
    ∃ w₂, Happens w₁ past w₂ ∧ Happens w₂ future w₃ := by
  cases future with
  | nil =>
    rw [List.append_nil] at hlog
    subst hlog
    exact ⟨w₃, h, .start⟩
  | cons e future =>
    obtain ⟨w, w₂, hpast, hoccurs, hfuture⟩ := h.occurs hlog
    have hentry : Happens w [e] w₂ := .event .start hoccurs
    exact ⟨w, hpast, hentry.trans hfuture⟩

end Happens

/-! ### Accounts -/

theorem Recorder.batches_of_accepted {topic : Topic} {payloads : List String} {r : Recorder}
    (h : (r.publish topic payloads).1 = .ok ()) :
    (r.publish topic payloads).2.batches = r.batches ++ [(topic, payloads)] := by
  unfold publish at h ⊢
  split at h
  · cases h
  · rfl
  · rfl

theorem Recorder.batches_of_refused {topic : Topic} {payloads : List String} {r : Recorder}
    {e : Error} (h : (r.publish topic payloads).1 = .error e) :
    (r.publish topic payloads).2.batches = r.batches := by
  unfold publish at h ⊢
  split at h
  · rfl
  · cases h
  · cases h

section
variable {log : Log} {w w' : World Recorder}

theorem Silent.queues (h : Silent w w') : w.store.Queues w'.store [] := by
  obtain ⟨hsame | ⟨name, hcreate⟩, -⟩ := h
  · exact queues_nil (by rw [hsame]) (by rw [hsame])
  · exact queues_createAoi hcreate

theorem Silent.sameRows (h : Silent w w') : SameRows w.store w'.store := by
  obtain ⟨hsame | ⟨name, hcreate⟩, -⟩ := h
  · rw [hsame]
    exact .refl w.store
  · exact sameRows_createAoi hcreate

theorem Accounts.occurs {e : Event} (h : Accounts log w) (hoccurs : Occurs w e w') :
    Accounts (log ++ [e]) w' := by
  cases hoccurs with
  | commit hbody hjobs hsink =>
    obtain ⟨jobs, hqueues⟩ := Work.queues_of_exec hbody
    cases List.append_cancel_left (hjobs.symm.trans hqueues.outbox_eq)
    exact h.queue hqueues (by rw [hsink])
  | relay hbatch hfirst haccepted =>
    obtain ⟨rest, hout⟩ := hfirst
    obtain ⟨hsink, hcases⟩ := Outbox.relayRun_cases hbatch.head_topic w
    have hbatches := hsink ▸ Recorder.batches_of_accepted haccepted
    rcases hcases with ⟨e, herror, hsame⟩ | ⟨-, hok, hacked⟩
    · refine h.accept hbatch hout.symm hbatches (by rw [hsame]) ?_
      rw [herror, hsame]
      rfl
    · rw [h.queued.ackJobs_append hout.symm] at hacked
      refine h.accept hbatch hout.symm hbatches (by rw [hacked]) ?_
      rw [hok, hacked]
      rfl

theorem Accounts.happens {past : Log} (h : Accounts past w) (hhappens : Happens w log w') :
    Accounts (past ++ log) w' := by
  induction hhappens with
  | start =>
    rw [List.append_nil]
    exact h
  | silent _ hsilent ih => exact ih.still hsilent.queues hsilent.batches_eq
  | event _ hoccurs ih =>
    rw [← List.append_assoc]
    exact ih.occurs hoccurs

end

/-! ### Runs -/

/-- If the jobs wait in order, what happened can be logged. -/
def Logged (w w' : World Recorder) : Prop := w.store.Queued → ∃ log, Happens w log w'

theorem Happens.queued {log : Log} {w w' : World Recorder} (h : Happens w log w')
    (hw : w.store.Queued) : w'.store.Queued := by
  induction h with
  | start => exact hw
  | silent _ hsilent ih => exact hsilent.queues.queued ih
  | event _ hoccurs ih =>
    cases hoccurs with
    | commit hbody hjobs hsink => exact Work.queued_of_exec hbody ih
    | relay hbatch hfirst haccepted => exact Outbox.queued_relayRun ih _

/-- What leaves the outbox has just been accepted, and comes first of what waited or is queued. -/
theorem Occurs.left {e : Event} {w w' : World Recorder} (h : Occurs w e w') (hw : w.store.Queued) :
    ∃ gone, gone ++ w'.store.outbox = w.store.outbox ++ e.queuedJobs ∧
      ∀ j ∈ gone, j ∈ e.acceptedJobs := by
  cases h with
  | commit hbody hjobs hsink => exact ⟨[], hjobs, fun _ hj => nomatch hj⟩
  | @relay topic jobs hbatch hfirst haccepted =>
    rcases Outbox.store_relayRun jobs w with hsame | hacked
    · refine ⟨[], ?_, fun _ hj => nomatch hj⟩
      rw [hsame]
      exact (List.append_nil _).symm
    · obtain ⟨rest, hout⟩ := hfirst
      refine ⟨jobs, ?_, fun _ hj => hj⟩
      rw [hacked, hw.ackJobs_append hout.symm, hout]
      exact (List.append_nil _).symm

/-- Of the jobs that waited and those queued since, the first have been accepted, and the others wait. -/
theorem Happens.left {log : Log} {w w' : World Recorder} (h : Happens w log w')
    (hw : w.store.Queued) :
    ∃ gone, gone ++ w'.store.outbox = w.store.outbox ++ log.queued ∧ ∀ j ∈ gone, j ∈ log.accepted := by
  induction h with
  | start => exact ⟨[], (List.append_nil _).symm, fun _ hj => nomatch hj⟩
  | silent h hsilent ih =>
    obtain ⟨gone, heq, hgone⟩ := ih
    refine ⟨gone, ?_, hgone⟩
    rw [hsilent.queues.outbox_eq, List.append_nil, heq]
  | event h hoccurs ih =>
    obtain ⟨gone, heq, hgone⟩ := ih
    obtain ⟨gone', heq', hgone'⟩ := hoccurs.left (h.queued hw)
    refine ⟨gone ++ gone', ?_, fun j hj => ?_⟩
    · rw [List.append_assoc, heq', ← List.append_assoc, heq, List.append_assoc, Log.queued_concat]
    · rw [Log.accepted_concat]
      exact List.mem_append.2 ((List.mem_append.1 hj).imp (hgone j) (hgone' j))

theorem passage_logged : Passage Logged where
  still := fun hstore hsink _ => ⟨[], .silent .start ⟨.inl hstore, by rw [hsink]⟩⟩
  trans := by
    intro w₁ w₂ w₃ h₁ h₂ hw
    obtain ⟨past, hpast⟩ := h₁ hw
    obtain ⟨future, hfuture⟩ := h₂ (hpast.queued hw)
    exact ⟨past ++ future, hpast.trans hfuture⟩

/-- If the jobs wait in order, what happened can be logged, and nothing has been queued. -/
def Unqueued (w w' : World Recorder) : Prop :=
  w.store.Queued → ∃ log, Happens w log w' ∧ log.queued = []

theorem passage_unqueued : Passage Unqueued where
  still := fun hstore hsink _ => ⟨[], .silent .start ⟨.inl hstore, by rw [hsink]⟩, rfl⟩
  trans := by
    intro w₁ w₂ w₃ h₁ h₂ hw
    obtain ⟨past, hpast, hnone⟩ := h₁ hw
    obtain ⟨future, hfuture, hnone'⟩ := h₂ (hpast.queued hw)
    refine ⟨past ++ future, hpast.trans hfuture, ?_⟩
    rw [Log.queued_append, hnone, hnone', List.append_nil]

theorem unqueued_relayRun {w : World Recorder} {topic : Topic} {jobs : List QueuedJob}
    (hbatch : IsBatch topic jobs) (hfirst : jobs <+: w.store.outbox) :
    Unqueued w (Outbox.relayRun jobs w).2 := by
  intro _
  cases haccepted : (w.sink.publish topic (jobs.map (·.payload))).1 with
  | ok _ => exact ⟨_, .event .start (.relay hbatch hfirst haccepted), rfl⟩
  | error e =>
    obtain ⟨hsink, ⟨-, -, hsame⟩ | ⟨hok, -, -⟩⟩ := Outbox.relayRun_cases hbatch.head_topic w
    · refine ⟨[], .silent .start ⟨.inl hsame, ?_⟩, rfl⟩
      rw [hsink]
      exact Recorder.batches_of_refused haccepted
    · cases haccepted.symm.trans hok

theorem unqueued_flush (batchSize : Int) (w : World Recorder) :
    Unqueued w (Outbox.flush batchSize w).2 := fun hw =>
  Outbox.relates_flush passage_unqueued
    (fun _ _ _ _ hbatch hfirst => unqueued_relayRun hbatch hfirst) batchSize hw hw

/-- A commit leads to what the body of the unit of work makes of the store. -/
theorem happens_commit {w w' : World Recorder} {task : Task} {a : task.Answer}
    (hbody : task.body.exec w.store = .ok (a, w'.store)) (hsink : w'.sink = w.sink) :
    ∃ jobs, w'.store.outbox = w.store.outbox ++ jobs ∧ Happens w [.queued jobs] w' := by
  obtain ⟨jobs, hqueues⟩ := Work.queues_of_exec hbody
  exact ⟨jobs, hqueues.outbox_eq, .event .start (.commit hbody hqueues.outbox_eq hsink)⟩

theorem course_logged : Course (fun _ => True) Logged where
  toPassage := passage_logged
  creation := fun hok hsink _ => ⟨[], .silent .start ⟨.inr ⟨_, hok⟩, by rw [hsink]⟩⟩
  commit := by
    intro w w' task a _ hok hsink _
    obtain ⟨jobs, -, hhappens⟩ := happens_commit hok hsink
    exact ⟨[.queued jobs], hhappens⟩
  relay := by
    intro batchSize w hw
    obtain ⟨log, hlog, -⟩ := unqueued_flush batchSize w hw
    exact ⟨log, hlog⟩

/-- What may be planned for an activity: how the calls of the store are disturbed, whether it is
cancelled from the start, how many jobs are read at once, and which batches are refused. -/
structure Setting where
  faults : Faults := []
  cancelled : Bool := false
  batchSize : Int := 100
  plan : Schedule Bool := []

namespace World

def set (w : World Recorder) (c : Setting) : World Recorder :=
  { store := w.store, sink := { w.sink with plan := c.plan }, faults := c.faults,
    cancelled := c.cancelled, batchSize := c.batchSize }

def through (w : World Recorder) (xs : List (Setting × Activity Recorder)) : World Recorder :=
  xs.foldl (fun w x => x.2.run (w.set x.1)) w

theorem attainable_through {w : World Recorder} (h : Attainable w.store)
    (xs : List (Setting × Activity Recorder)) : Attainable (w.through xs).store := by
  induction xs generalizing w with
  | nil => exact h
  | cons x xs ih => exact ih (h.run x.2 (w.set x.1))

theorem logged_through (w : World Recorder) (xs : List (Setting × Activity Recorder)) :
    Logged w (w.through xs) := by
  induction xs generalizing w with
  | nil => exact passage_logged.refl w
  | cons x xs ih =>
    have hset : Logged w (w.set x.1) := fun _ => ⟨[], .silent .start ⟨.inl rfl, rfl⟩⟩
    have hrun :=
      course_logged.relates_activity (x.2.all_of_forall fun _ => trivial) (w.set x.1)
    exact passage_logged.trans hset (passage_logged.trans hrun (ih _))

/-- A job that cannot be taken out of the outbox is announced again. -/
example :
    (through { sink := {} }
      [({}, .command (.createAoi "north")),
        ({ faults := [(.ackJobs, [(1, some .refuse)])] },
          .command (.ingestScene "north" (.ofTiles "north" "s1" [("a", {})]))),
        ({}, .flush 1)]).sink.batches.map (·.1) = [.sceneJobs, .sceneJobs] := by
  decide +kernel

end World

end SceneWorkflow
