import SceneWorkflow.Proofs.Outbox.Relay

/-!
# Delivery logs

A log tells, in order, which jobs have been queued and which batches the sink has
accepted. It accounts for a world if all jobs that were queued have been accepted or
still wait, and only those. Each entry keeps the account, and so no job is lost,
invented or moved before another.
-/
namespace SceneWorkflow

inductive Event where
  /-- These jobs have been queued. -/
  | queued (jobs : List QueuedJob)
  /-- The sink has accepted these jobs, and they may have been taken out of the outbox. -/
  | accepted (topic : Topic) (jobs : List QueuedJob) (acked : Bool)

namespace Event

def queuedJobs : Event → List QueuedJob
  | queued jobs => jobs
  | accepted _ _ _ => []

def acceptedJobs : Event → List QueuedJob
  | queued _ => []
  | accepted _ jobs _ => jobs

def batch? : Event → Option (Topic × List String)
  | queued _ => none
  | accepted topic jobs _ => some (topic, jobs.map (·.payload))

def Acked : Event → Prop
  | queued _ => True
  | accepted _ _ acked => acked = true

end Event

abbrev Log := List Event

namespace Log

def queued (log : Log) : List QueuedJob := log.flatMap Event.queuedJobs

/-- All jobs that have ever been accepted, in order, and as often as they were. -/
def accepted (log : Log) : List QueuedJob := log.flatMap Event.acceptedJobs

def batches (log : Log) : List (Topic × List String) := log.filterMap Event.batch?

variable (log : Log) (e : Event)

theorem queued_append (log' : Log) : queued (log ++ log') = log.queued ++ log'.queued :=
  List.flatMap_append

@[simp]
theorem queued_concat : queued (log ++ [e]) = log.queued ++ e.queuedJobs := by
  simp [queued]

@[simp]
theorem accepted_concat : accepted (log ++ [e]) = log.accepted ++ e.acceptedJobs := by
  simp [accepted]

theorem batches_concat : batches (log ++ [e]) = log.batches ++ e.batch?.toList := by
  cases h : e.batch? <;> simp [batches, h]

end Log

theorem Log.payloads_on {log : Log} (hblock : ∀ topic jobs acked, .accepted topic jobs acked ∈ log →
    ∀ j ∈ jobs, j.topic = topic) (topic : Topic) :
    (log.batches.filter fun b => b.1 == topic).flatMap (·.2) =
      (log.accepted.filter fun j => j.topic == topic).map (·.payload) := by
  induction log with
  | nil => rfl
  | cons e log ih =>
    have ih := ih fun topic jobs acked he => hblock topic jobs acked (List.mem_cons_of_mem e he)
    cases e with
    | queued jobs => exact ih
    | accepted topic' jobs acked =>
      have hjobs := hblock topic' jobs acked List.mem_cons_self
      have hbatches : Log.batches (.accepted topic' jobs acked :: log) =
          (topic', jobs.map (·.payload)) :: Log.batches log := rfl
      have haccepted : Log.accepted (.accepted topic' jobs acked :: log) =
          jobs ++ Log.accepted log := rfl
      rw [hbatches, haccepted, List.filter_append, List.map_append, ← ih, List.filter_cons]
      by_cases htopic : topic' = topic
      · have hall : jobs.filter (fun j => j.topic == topic) = jobs :=
          List.filter_eq_self.2 fun j hj => beq_iff_eq.2 ((hjobs j hj).trans htopic)
        rw [hall, if_pos (beq_iff_eq.2 htopic), List.flatMap_cons]
      · have hnone : jobs.filter (fun j => j.topic == topic) = [] :=
          List.filter_eq_nil_iff.2 fun j hj heq =>
            htopic ((hjobs j hj).symm.trans (eq_of_beq heq))
        rw [hnone, if_neg (mt eq_of_beq htopic)]
        rfl

/-- How the log, the outbox and the sink fit together. The ids of all jobs ascend, so that no two are
the same. The batches that the sink has accepted are blocks of them, each on one topic. What waits is
the end of them, and what came before it has been accepted: once and in order, unless something that
was accepted could not be taken out of the outbox. -/
structure Accounts (log : Log) (w : World Recorder) : Prop where
  ascend : log.queued.Pairwise fun j k => j.id < k.id
  job_le : ∀ j ∈ log.queued, j.id ≤ w.store.lastJob
  batches_eq : w.sink.batches = log.batches
  block : ∀ topic jobs acked, .accepted topic jobs acked ∈ log →
    IsBatch topic jobs ∧ jobs <:+: log.queued
  left : ∃ gone, gone ++ w.store.outbox = log.queued ∧ ∀ j ∈ gone, j ∈ log.accepted
  once : (∀ e ∈ log, e.Acked) → log.accepted ++ w.store.outbox = log.queued

namespace Accounts
variable {log : Log} {w w' : World Recorder} {topic : Topic} {jobs rest : List QueuedJob}

theorem fresh : Accounts [] { sink := {} } where
  ascend := .nil
  job_le := fun _ hj => nomatch hj
  batches_eq := rfl
  block := fun _ _ _ h => nomatch h
  left := ⟨[], rfl, fun _ hj => nomatch hj⟩
  once := fun _ => rfl

theorem suffix (h : Accounts log w) : w.store.outbox <:+ log.queued := by
  obtain ⟨gone, heq, -⟩ := h.left
  exact ⟨gone, heq⟩

theorem queued (h : Accounts log w) : w.store.Queued where
  jobs_ascend := h.ascend.sublist h.suffix.sublist
  job_le := fun j hj => h.job_le j (h.suffix.subset hj)

/-- If nothing is queued and nothing leaves, the account stays as it is. -/
theorem still (h : Accounts log w) (hqueues : w.store.Queues w'.store [])
    (hsink : w'.sink.batches = w.sink.batches) : Accounts log w' := by
  have hout : w'.store.outbox = w.store.outbox := hqueues.outbox_eq.trans (List.append_nil _)
  constructor
  case ascend => exact h.ascend
  case job_le => exact fun j hj => Int.le_trans (h.job_le j hj) hqueues.last_le
  case batches_eq => exact hsink.trans h.batches_eq
  case block => exact h.block
  case left =>
    rw [hout]
    exact h.left
  case once =>
    rw [hout]
    exact h.once

theorem queue (h : Accounts log w) (hqueues : w.store.Queues w'.store jobs)
    (hsink : w'.sink.batches = w.sink.batches) : Accounts (log ++ [.queued jobs]) w' where
  ascend := by
    rw [Log.queued_concat]
    refine List.pairwise_append.2 ⟨h.ascend, hqueues.ascend, fun j hj k hk => ?_⟩
    exact Int.lt_of_le_of_lt (h.job_le j hj) (hqueues.new k hk).1
  job_le := by
    intro j hj
    rw [Log.queued_concat] at hj
    rcases List.mem_append.1 hj with hj | hj
    · exact Int.le_trans (h.job_le j hj) hqueues.last_le
    · exact (hqueues.new j hj).2
  batches_eq := by
    rw [Log.batches_concat, hsink, h.batches_eq]
    exact (List.append_nil _).symm
  block := by
    intro topic batch acked hmem
    rcases List.mem_append.1 hmem with hmem | hmem
    · obtain ⟨hbatch, hblock⟩ := h.block topic batch acked hmem
      rw [Log.queued_concat]
      exact ⟨hbatch, hblock.trans (List.prefix_append _ _).isInfix⟩
    · cases List.mem_singleton.1 hmem
  left := by
    obtain ⟨gone, heq, hgone⟩ := h.left
    refine ⟨gone, ?_, fun j hj => ?_⟩
    · rw [Log.queued_concat, hqueues.outbox_eq, ← List.append_assoc, heq]
      rfl
    · rw [Log.accepted_concat]
      exact List.mem_append_left _ (hgone j hj)
  once := by
    intro hall
    have honce := h.once fun e he => hall e (List.mem_append_left _ he)
    rw [Log.queued_concat, Log.accepted_concat, hqueues.outbox_eq, ← honce]
    simp [Event.queuedJobs, Event.acceptedJobs]

/-- What is accepted are the first jobs that wait. They wait on if they are not taken out of the
outbox. -/
theorem accept (h : Accounts log w) (hbatch : IsBatch topic jobs)
    (hout : w.store.outbox = jobs ++ rest)
    (hsink : w'.sink.batches = w.sink.batches ++ [(topic, jobs.map (·.payload))])
    (hlast : w'.store.lastJob = w.store.lastJob) {acked : Bool}
    (hleft : w'.store.outbox = if acked then rest else w.store.outbox) :
    Accounts (log ++ [.accepted topic jobs acked]) w' := by
  have hqueued : Log.queued (log ++ [.accepted topic jobs acked]) = log.queued := by
    rw [Log.queued_concat]
    exact List.append_nil _
  have haccepted : Log.accepted (log ++ [.accepted topic jobs acked]) = log.accepted ++ jobs :=
    Log.accepted_concat _ _
  obtain ⟨gone, heq, hgone⟩ := h.left
  have hblock : jobs <:+: log.queued := ⟨gone, rest, by rw [List.append_assoc, ← hout, heq]⟩
  constructor
  case ascend =>
    rw [hqueued]
    exact h.ascend
  case job_le =>
    rw [hqueued, hlast]
    exact h.job_le
  case batches_eq =>
    rw [Log.batches_concat, hsink, h.batches_eq]
    rfl
  case block =>
    intro topic' jobs' acked' hmem
    rw [hqueued]
    rcases List.mem_append.1 hmem with hmem | hmem
    · exact h.block topic' jobs' acked' hmem
    · cases List.mem_singleton.1 hmem
      exact ⟨hbatch, hblock⟩
  case left =>
    rw [hqueued, haccepted, hleft]
    cases acked with
    | true =>
      refine ⟨gone ++ jobs, ?_, fun j hj => ?_⟩
      · rw [if_pos rfl, List.append_assoc, ← hout, heq]
      · exact List.mem_append.2 ((List.mem_append.1 hj).imp_left (hgone j))
    | false => exact ⟨gone, heq, fun j hj => List.mem_append_left _ (hgone j hj)⟩
  case once =>
    intro hall
    obtain rfl : acked = true := hall _ (List.mem_append_right _ (List.mem_singleton_self _))
    have honce := h.once fun e he => hall e (List.mem_append_left _ he)
    rw [hqueued, haccepted, hleft, if_pos rfl, List.append_assoc, ← hout, honce]

/-- What the sink has published on a topic are the jobs of the topic that it has accepted. -/
theorem published_eq (h : Accounts log w) (topic : Topic) :
    w.sink.published topic =
      (log.accepted.filter fun j => j.topic == topic).map (·.payload) := by
  rw [Recorder.published, h.batches_eq]
  exact Log.payloads_on (fun topic jobs acked he => (h.block topic jobs acked he).1.topic_eq) topic

theorem queued_of_accepted (h : Accounts log w) : ∀ j ∈ log.accepted, j ∈ log.queued := by
  intro j hj
  obtain ⟨e, he, hmem⟩ := List.mem_flatMap.1 hj
  cases e with
  | queued jobs => cases hmem
  | accepted topic jobs acked => exact (h.block topic jobs acked he).2.subset hmem

end Accounts

end SceneWorkflow
