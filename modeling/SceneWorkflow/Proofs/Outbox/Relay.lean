import Mathlib.Data.List.SplitBy
import SceneWorkflow.Outbox
import SceneWorkflow.Proofs.Outbox.Order
import SceneWorkflow.Proofs.UnitOfWork.Passages

/-!
# The relay

A batch is handed to the sink and, once accepted, taken out of the outbox. If the
jobs wait in order, every batch consists of the first jobs that wait at the time,
and is of one topic.
-/
namespace SceneWorkflow

structure IsBatch (topic : Topic) (jobs : List QueuedJob) : Prop where
  nonempty : jobs ≠ []
  topic_eq : ∀ j ∈ jobs, j.topic = topic

theorem IsBatch.head_topic {topic : Topic} {jobs : List QueuedJob} (h : IsBatch topic jobs) :
    jobs.head?.map (·.topic) = some topic := by
  cases jobs with
  | nil => exact absurd rfl h.nonempty
  | cons job jobs => exact congrArg some (h.topic_eq job List.mem_cons_self)

/-- The jobs that leave are the first ones, and nothing else changes. -/
def Drops {σ : Type} (w w' : World σ) : Prop :=
  ∃ rest, rest <:+ w.store.outbox ∧ w'.store = { w.store with outbox := rest }

theorem passage_drops (σ : Type) : Passage (Drops (σ := σ)) where
  still := by
    intro w w' hstore _
    exact ⟨w.store.outbox, List.suffix_rfl, hstore⟩
  trans := by
    rintro w₁ w₂ w₃ ⟨rest₁, hsuffix₁, hstore₁⟩ ⟨rest₂, hsuffix₂, hstore₂⟩
    rw [hstore₁] at hsuffix₂ hstore₂
    exact ⟨rest₂, hsuffix₂.trans hsuffix₁, hstore₂⟩

namespace Outbox
open Operation Store
variable {σ : Type} [Sink σ] {R : World σ → World σ → Prop}

/-! ### One batch -/

/-- A batch that is refused stays, as does one that cannot be taken out of the outbox after it was
accepted. -/
theorem relayRun_cases {topic : Topic} {jobs : List QueuedJob}
    (h : jobs.head?.map (·.topic) = some topic) (w : World σ) :
    (relayRun jobs w).2.sink = (Sink.publish topic (jobs.map (·.payload)) w.sink).2 ∧
      ((∃ e, (relayRun jobs w).1 = .error e ∧ (relayRun jobs w).2.store = w.store) ∨
        (Sink.publish topic (jobs.map (·.payload)) w.sink).1 = .ok () ∧
          (relayRun jobs w).1 = .ok () ∧
          (relayRun jobs w).2.store = w.store.ackJobs (jobs.map (·.id))) := by
  cases jobs with
  | nil => cases h
  | cons job jobs =>
    obtain rfl : job.topic = topic := Option.some.inj h
    have hrun : relayRun (σ := σ) (job :: jobs) =
        publish job.topic ((job :: jobs).map (·.payload)) >>= fun _ =>
          invoke .ackJobs fun s => .ok ((), s.ackJobs ((job :: jobs).map (·.id))) := rfl
    rw [hrun]
    cases h : (publish job.topic ((job :: jobs).map (·.payload)) w).1 with
    | error e =>
      rw [bind_of_error h]
      exact ⟨rfl, .inl ⟨e, rfl, rfl⟩⟩
    | ok _ =>
      rw [bind_of_ok h]
      obtain ⟨hsink, hfails | ⟨_, hok, hstore⟩⟩ := invoke_cases .ackJobs
        (fun s => .ok ((), s.ackJobs ((job :: jobs).map (·.id))))
        (publish job.topic ((job :: jobs).map (·.payload)) w).2
      · exact ⟨hsink, .inl hfails⟩
      · exact ⟨hsink, .inr ⟨h, hok, (congrArg Prod.snd (Except.ok.inj hstore)).symm⟩⟩

/-- The relay of a batch takes it out of the outbox, or leaves the store alone. -/
theorem store_relayRun (jobs : List QueuedJob) (w : World σ) :
    (relayRun jobs w).2.store = w.store ∨
      (relayRun jobs w).2.store = w.store.ackJobs (jobs.map (·.id)) := by
  cases jobs with
  | nil => exact .inl rfl
  | cons job jobs =>
    have hhead : (job :: jobs).head?.map (·.topic) = some job.topic := rfl
    obtain ⟨-, ⟨-, -, hsame⟩ | ⟨-, -, hacked⟩⟩ := relayRun_cases hhead w
    · exact .inl hsame
    · exact .inr hacked

theorem kept_relayRun {I : Store → Prop} (hI : ∀ s ids, I s → I (s.ackJobs ids))
    (jobs : List QueuedJob) : (relayRun (σ := σ) jobs).Within (Kept I) := by
  intro w hw
  rcases store_relayRun jobs w with hsame | hacked
  · rw [hsame]
    exact hw
  · rw [hacked]
    exact hI _ _ hw

theorem queued_relayRun {w : World σ} (h : w.store.Queued) (jobs : List QueuedJob) :
    (relayRun jobs w).2.store.Queued := kept_relayRun (fun _ ids hs => hs.ackJobs ids) jobs w h

theorem sameRows_relayRun (jobs : List QueuedJob) (w : World σ) :
    SameRows w.store (relayRun jobs w).2.store :=
  kept_relayRun (I := SameRows w.store) (fun s ids h => h.trans (sameRows_ackJobs s ids)) jobs w
    (.refl w.store)

/-! ### All that waits -/

section
variable (hR : Transit R)
  (hread : ∀ size : Nat, (query .pendingJobs fun s => .ok (s.pendingJobs size)).Within R)
  (hrelay : ∀ jobs, (relayRun jobs).Within R)
include hR hread hrelay

theorem within_relayChunks (size rounds : Nat) : (relayChunks (σ := σ) size rounds).Within R := by
  induction rounds with
  | zero => exact hR.refl
  | succ rounds ih =>
    refine hR.within_bind (hread size) fun jobs => ?_
    refine hR.within_bind (hR.within_forM hrelay _) fun _ => ?_
    split
    · exact hR.refl
    · exact hR.within_bind ih fun _ => hR.refl

/-- The relay reads what waits and goes from batch to batch. -/
theorem within_flush_of_transit (batchSize : Int) : (flush (σ := σ) batchSize).Within R :=
  hR.within_bind hR.refl fun _ => within_relayChunks hR hread hrelay _ _

end

/-- What no reading changes is kept by the relay if it is by every batch. -/
theorem within_flush (hR : Passage R) (hrelay : ∀ jobs, (relayRun jobs).Within R)
    (batchSize : Int) : (flush (σ := σ) batchSize).Within R :=
  within_flush_of_transit hR.transit (fun _ => hR.within_query) hrelay batchSize

theorem kept_flush {I : Store → Prop} (hI : ∀ s ids, I s → I (s.ackJobs ids)) (batchSize : Int) :
    (flush (σ := σ) batchSize).Within (Kept I) :=
  within_flush (passage_kept I) (kept_relayRun hI) batchSize

/-- The relay has no access to scenes and tiles. -/
theorem sameRows_flush (batchSize : Int) (w : World σ) :
    SameRows w.store (flush batchSize w).2.store :=
  kept_flush (I := SameRows w.store) (fun s ids h => h.trans (sameRows_ackJobs s ids)) batchSize w
    (.refl w.store)

/-! ### The order of the batches -/

theorem pendingJobs_natCast (s : Store) (size : Nat) :
    s.pendingJobs size = s.outbox.take size := by
  rw [Store.pendingJobs, if_neg (Int.not_lt.2 (Int.natCast_nonneg size)), Int.toNat_natCast]

theorem flatten_topicRuns (jobs : List QueuedJob) : (topicRuns jobs).flatten = jobs :=
  List.flatten_splitBy _ jobs

theorem isBatch_of_mem_topicRuns {jobs run : List QueuedJob} (h : run ∈ topicRuns jobs) :
    ∃ topic, IsBatch topic run := by
  have hne : run ≠ [] := List.ne_nil_of_mem_splitBy h
  have hchain := List.isChain_of_mem_splitBy h
  cases run with
  | nil => exact absurd rfl hne
  | cons job jobs =>
    refine ⟨job.topic, hne, fun j hj => ?_⟩
    have hsame := (List.isChain_iff_pairwise (R := fun a b : QueuedJob => a.topic = b.topic)).1
      (hchain.imp fun a b hab => eq_of_beq hab)
    rcases List.mem_cons.1 hj with rfl | hj
    · rfl
    · exact ((List.pairwise_cons.1 hsame).1 j hj).symm

theorem outbox_relayRun {topic : Topic} {run rest : List QueuedJob} {w : World σ}
    (h : w.store.Queued) (hbatch : IsBatch topic run) (hout : w.store.outbox = run ++ rest)
    (hok : (relayRun run w).1 = .ok ()) : (relayRun run w).2.store.outbox = rest := by
  obtain ⟨-, ⟨e, herror, -⟩ | ⟨-, -, hacked⟩⟩ := relayRun_cases hbatch.head_topic w
  · rw [herror] at hok
    cases hok
  · rw [hacked, h.ackJobs_append hout]

section
variable (hR : Passage R)
  (hrelay : ∀ (w : World σ) topic jobs, w.store.Queued → IsBatch topic jobs →
    jobs <+: w.store.outbox → R w (relayRun jobs w).2)
include hR hrelay

theorem relates_runs {runs : List (List QueuedJob)}
    (hruns : ∀ run ∈ runs, ∃ topic, IsBatch topic run) {w : World σ} (h : w.store.Queued)
    (hfirst : runs.flatten <+: w.store.outbox) : R w (runs.forM relayRun w).2 := by
  induction runs generalizing w with
  | nil => exact hR.refl w
  | cons run runs ih =>
    obtain ⟨topic, hbatch⟩ := hruns run List.mem_cons_self
    obtain ⟨rest, hout⟩ := hfirst
    rw [List.flatten_cons, List.append_assoc] at hout
    show R w ((relayRun run >>= fun _ => runs.forM relayRun) w).2
    refine hR.relates_bind (hrelay w topic run h hbatch ⟨_, hout⟩) fun _ hok => ?_
    refine ih (fun run hrun => hruns run (List.mem_cons_of_mem _ hrun)) (queued_relayRun h run) ?_
    rw [outbox_relayRun h hbatch hout.symm hok]
    exact List.prefix_append _ _

theorem relates_relayChunks (size rounds : Nat) {w : World σ} (h : w.store.Queued) :
    R w (relayChunks size rounds w).2 := by
  induction rounds generalizing w with
  | zero => exact hR.refl w
  | succ rounds ih =>
    unfold relayChunks
    have hread := follows_query (m := .pendingJobs) (w := w)
      (f := fun s => .ok (s.pendingJobs size))
    refine hR.relates_bind (hR.still hread.store hread.sink) fun jobs hjobs => ?_
    cases hread.ok jobs hjobs
    -- Reading leaves the store alone, so that the chunk comes first in the world it leads to.
    rw [← hread.store] at h ⊢
    generalize (query .pendingJobs (fun s => .ok (s.pendingJobs size)) w).2 = w at h ⊢
    have hfirst : (topicRuns (w.store.pendingJobs size)).flatten <+: w.store.outbox := by
      rw [flatten_topicRuns]
      exact List.take_prefix _ _
    have hruns := relates_runs hR hrelay (fun run hrun => isBatch_of_mem_topicRuns hrun) h hfirst
    refine hR.relates_bind hruns fun _ _ => ?_
    split
    · exact hR.refl _
    · refine hR.relates_bind (ih ?_) fun _ _ => hR.refl _
      exact (passage_kept Queued).within_forM (fun run _ hqueued => queued_relayRun hqueued run) _ w h

/-- If the jobs wait in order, the relay takes the first of them, then the next. -/
theorem relates_flush (batchSize : Int) {w : World σ} (h : w.store.Queued) :
    R w (flush batchSize w).2 :=
  relates_relayChunks hR hrelay _ _ h

end

theorem drops_flush (batchSize : Int) {w : World σ} (h : w.store.Queued) :
    Drops w (flush batchSize w).2 := by
  refine relates_flush (passage_drops σ) (fun w topic jobs hqueued _ hfirst => ?_) batchSize h
  obtain ⟨rest, hout⟩ := hfirst
  rcases store_relayRun jobs w with hsame | hacked
  · exact ⟨w.store.outbox, List.suffix_rfl, hsame⟩
  · refine ⟨rest, ⟨jobs, hout⟩, ?_⟩
    rw [hacked, hqueued.ackJobs_append hout.symm]

end Outbox

end SceneWorkflow
