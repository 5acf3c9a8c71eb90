import SceneWorkflow.Proofs.Outbox.Chunks

/-!
# The batches of a relay

A relay reads the waiting jobs chunk by chunk and hands each chunk to the sink in
batches of one topic. It comes to an end by itself: when all jobs have been taken out of
the outbox, or with the first batch that the sink refuses or that cannot be taken out.
-/
namespace SceneWorkflow

/-! ### Plans -/

def Schedule.nth? {α : Type} : Schedule α → Nat → Option α
  | plan, 0 => plan.next?.map (·.1)
  | plan, n + 1 => plan.next?.bind fun r => nth? r.2 n

theorem Schedule.Only.nth? {plan : Schedule (Option Fault)} {fault : Option Fault}
    {P : Option Fault → Prop} (h : plan.Only P) {n : Nat} (hnth : plan.nth? n = some fault) :
    P fault := by
  induction n generalizing plan with
  | zero =>
    obtain ⟨⟨_, rest⟩, hnext, rfl⟩ := Option.map_eq_some_iff.1 hnth
    exact (h.next? hnext).1
  | succ n ih =>
    obtain ⟨⟨_, rest⟩, hnext, hrest⟩ := Option.bind_eq_some_iff.1 hnth
    exact ih (h.next? hnext).2 hrest

def Faults.Refuses (faults : Faults) (m : Method) (n : Nat) : Prop :=
  (faults.plan m).nth? n = some (some .refuse)

namespace Faults
variable {faults : Faults} {m k : Method}

instance (n : Nat) : Decidable (faults.Refuses m n) := inferInstanceAs (Decidable (_ = _))

theorem not_refuses (h : (faults.plan m).Only (· ≠ some .refuse)) (n : Nat) :
    ¬ faults.Refuses m n := fun hrefuses => h.nth? hrefuses rfl

theorem next_eq_refuse : (faults.next m).1 = some .refuse ↔ faults.Refuses m 0 := by
  unfold next Refuses Schedule.nth?
  cases (faults.plan m).next? <;> simp

theorem refuses_next (n : Nat) : (faults.next m).2.Refuses m n ↔ faults.Refuses m (n + 1) := by
  unfold next Refuses
  rw [Schedule.nth?]
  cases hnext : (faults.plan m).next? with
  | none => cases n <;> simp [Schedule.nth?, hnext]
  | some r => simp [plan_set]

theorem refuses_next_of_ne (h : k ≠ m) (n : Nat) :
    (faults.next m).2.Refuses k n ↔ faults.Refuses k n := by
  unfold next Refuses
  cases (faults.plan m).next? with
  | none => exact Iff.rfl
  | some r => rw [plan_set, if_neg h]

end Faults

namespace Outbox

/-! ### What the sink is given -/

section
variable {σ : Type} [Sink σ]

def Offers (run : List QueuedJob) (sink : σ) (result : Except Error Unit) (sink' : σ) : Prop :=
  ∃ topic, IsBatch topic run ∧ Sink.publish topic (run.map (·.payload)) sink = (result, sink')

inductive Accepts : σ → List (List QueuedJob) → σ → Prop where
  | nil (sink : σ) : Accepts sink [] sink
  | cons {sink next sink' : σ} {run : List QueuedJob} {runs : List (List QueuedJob)} :
      Offers run sink (.ok ()) next → Accepts next runs sink' → Accepts sink (run :: runs) sink'

/-- What ends a relay that has these batches left: there are none, or the sink refuses the first of
them, or accepts it and it cannot be taken out of the outbox. -/
inductive Ends (unacked : Prop) (sink : σ) :
    List (List QueuedJob) → Except Error Unit → σ → Prop where
  | emptied : Ends unacked sink [] (.ok ()) sink
  | refused {run later e sink'} :
      Offers run sink (.error e) sink' → Ends unacked sink (run :: later) (.error e) sink'
  | unacked {run later sink'} : unacked → Offers run sink (.ok ()) sink' →
      Ends unacked sink (run :: later) (.error Method.ackJobs.refusal) sink'

theorem Accepts.append {sink next sink' : σ} {runs more : List (List QueuedJob)}
    (h : Accepts sink runs next) (hmore : Accepts next more sink') :
    Accepts sink (runs ++ more) sink' := by
  induction h with
  | nil => exact hmore
  | cons hoffers _ ih => exact .cons hoffers (ih hmore)

/-- From one world to another, the first batches are relayed, and the relay ends with the others left
before the rest of the outbox. -/
structure Relays (w : World σ) (done left : List (List QueuedJob)) (rest : List QueuedJob)
    (result : Except Error Unit) (w' : World σ) : Prop where
  offered : ∃ sink, Accepts w.sink done sink ∧
    Ends (w.faults.Refuses .ackJobs done.length) sink left result w'.sink
  acked : ∀ n < done.length, ¬ w.faults.Refuses .ackJobs n
  store_eq : w'.store = { w.store with outbox := left.flatten ++ rest }
  reads : (∀ n, ¬ w.faults.Refuses .pendingJobs n) → ∀ n, ¬ w'.faults.Refuses .pendingJobs n
  acks : left = [] → ∀ n,
    w'.faults.Refuses .ackJobs n ↔ w.faults.Refuses .ackJobs (done.length + n)

namespace Relays
variable {w w₁ w' : World σ} {done more left : List (List QueuedJob)} {rest others : List QueuedJob}
  {result : Except Error Unit}

theorem refl (w : World σ) : Relays w [] [] w.store.outbox (.ok ()) w where
  offered := ⟨w.sink, .nil w.sink, .emptied⟩
  acked := nofun
  store_eq := rfl
  reads := id
  acks := fun _ n => by rw [List.length_nil, Nat.zero_add]

theorem accepts (h : Relays w done [] rest (.ok ()) w₁) : Accepts w.sink done w₁.sink := by
  obtain ⟨sink, haccepts, hends⟩ := h.offered
  cases hends
  exact haccepts

theorem trans (h : Relays w done [] others (.ok ()) w₁) (h' : Relays w₁ more left rest result w') :
    Relays w (done ++ more) left rest result w' where
  offered := by
    obtain ⟨sink, haccepts, hends⟩ := h'.offered
    refine ⟨sink, h.accepts.append haccepts, ?_⟩
    rwa [List.length_append, ← h.acks rfl]
  acked := by
    intro n hn
    rw [List.length_append] at hn
    by_cases hdone : n < done.length
    · exact h.acked n hdone
    · have hmore := h'.acked (n - done.length) (by omega)
      rwa [h.acks rfl, Nat.add_sub_cancel' (Nat.le_of_not_lt hdone)] at hmore
  store_eq := by rw [h'.store_eq, h.store_eq]
  reads := fun hreads => h'.reads (h.reads hreads)
  acks := by
    intro hleft n
    rw [h'.acks hleft, h.acks rfl, List.length_append, Nat.add_assoc]

/-- To read the outbox is not yet to relay anything. -/
theorem meet (w : World σ) : Relays w [] [] w.store.outbox (.ok ()) (w.meet .pendingJobs) where
  offered := ⟨w.sink, .nil w.sink, .emptied⟩
  acked := nofun
  store_eq := rfl
  reads := fun hreads n hn => hreads (n + 1) ((Faults.refuses_next n).1 hn)
  acks := by
    intro _ n
    rw [List.length_nil, Nat.zero_add]
    exact Faults.refuses_next_of_ne (by decide) n

theorem left_eq_nil (h : Relays w done left rest (.ok ()) w') : left = [] := by
  obtain ⟨_, -, hends⟩ := h.offered
  cases hends
  rfl

theorem left_ne_nil {e : Error} (h : Relays w done left rest (.error e) w') : left ≠ [] := by
  obtain ⟨_, -, hends⟩ := h.offered
  cases hends <;> exact List.cons_ne_nil _ _

theorem before {e : Error} {later : List (List QueuedJob)}
    (h : Relays w done left (later.flatten ++ rest) (.error e) w') :
    Relays w done (left ++ later) rest (.error e) w' where
  offered := by
    obtain ⟨sink, haccepts, hends⟩ := h.offered
    refine ⟨sink, haccepts, ?_⟩
    cases hends with
    | refused hoffers => exact .refused hoffers
    | unacked hunacked hoffers => exact .unacked hunacked hoffers
  acked := h.acked
  store_eq := by rw [h.store_eq, List.flatten_append, List.append_assoc]
  reads := h.reads
  acks := fun hnil => absurd (List.append_eq_nil_iff.1 hnil).1 h.left_ne_nil

end Relays

/-! ### What is relayed -/

open Operation
variable {w : World σ}

/-- A batch is handed to the sink and taken out, or the relay ends with it. -/
theorem relays_relayRun {topic : Topic} {run rest : List QueuedJob} (hbatch : IsBatch topic run)
    (hqueued : w.store.Queued) (hout : w.store.outbox = run ++ rest) :
    ∃ done left, [run] = done ++ left ∧
      Relays w done left rest (relayRun run w).1 (relayRun run w).2 := by
  have hsame : w.store = { w.store with outbox := [run].flatten ++ rest } := by
    rw [List.flatten_singleton, ← hout]
  obtain ⟨job, jobs, rfl⟩ := List.exists_cons_of_ne_nil hbatch.nonempty
  obtain rfl : job.topic = topic := hbatch.topic_eq job List.mem_cons_self
  show ∃ done left, _ ∧ Relays w done left rest
    ((publish job.topic ((job :: jobs).map (·.payload)) >>= fun _ =>
      invoke .ackJobs fun s => .ok ((), s.ackJobs ((job :: jobs).map (·.id)))) w).1
    ((publish job.topic ((job :: jobs).map (·.payload)) >>= fun _ =>
      invoke .ackJobs fun s => .ok ((), s.ackJobs ((job :: jobs).map (·.id)))) w).2
  rw [bind_apply]
  unfold publish
  obtain ⟨result, sink, hpublish⟩ : ∃ result sink,
      Sink.publish job.topic ((job :: jobs).map (·.payload)) w.sink = (result, sink) := ⟨_, _, rfl⟩
  have hoffers : Offers (job :: jobs) w.sink result sink := ⟨job.topic, hbatch, hpublish⟩
  rw [hpublish]
  cases result with
  | error e =>
    exact ⟨[], [job :: jobs], rfl, ⟨w.sink, .nil _, .refused hoffers⟩, nofun, hsame, id, nofun⟩
  | ok _ =>
    dsimp only
    rw [invoke_eq]
    have hreads : (∀ n, ¬ w.faults.Refuses .pendingJobs n) →
        ∀ n, ¬ (w.faults.next .ackJobs).2.Refuses .pendingJobs n :=
      fun hreads n hn => hreads n ((Faults.refuses_next_of_ne (by decide) n).1 hn)
    by_cases hrefuse : (w.faults.next .ackJobs).1 = some .refuse
    · rw [if_pos hrefuse]
      have hunacked := Faults.next_eq_refuse.1 hrefuse
      exact ⟨[], [job :: jobs], rfl, ⟨w.sink, .nil _, .unacked hunacked hoffers⟩, nofun, hsame,
        hreads, nofun⟩
    · rw [if_neg hrefuse]
      refine ⟨[job :: jobs], [], rfl, ⟨sink, .cons hoffers (.nil sink), .emptied⟩, ?_, ?_, hreads, ?_⟩
      · intro n hn
        obtain rfl : n = 0 := Nat.lt_one_iff.1 hn
        exact fun hrefuses => hrefuse (Faults.next_eq_refuse.2 hrefuses)
      · exact hqueued.ackJobs_append hout
      · intro _ n
        rw [List.length_singleton, Nat.add_comm]
        exact Faults.refuses_next n

theorem relays_runs {runs : List (List QueuedJob)} {rest : List QueuedJob}
    (hruns : ∀ run ∈ runs, ∃ topic, IsBatch topic run) (hqueued : w.store.Queued)
    (hout : w.store.outbox = runs.flatten ++ rest) :
    ∃ done left, runs = done ++ left ∧
      Relays w done left rest (runs.forM relayRun w).1 (runs.forM relayRun w).2 := by
  induction runs generalizing w with
  | nil =>
    obtain rfl : w.store.outbox = rest := hout
    exact ⟨[], [], rfl, .refl w⟩
  | cons run runs ih =>
    obtain ⟨⟨topic, hbatch⟩, hruns⟩ := List.forall_mem_cons.1 hruns
    rw [List.flatten_cons, List.append_assoc] at hout
    obtain ⟨done, left, hrun, hfirst⟩ := relays_relayRun hbatch hqueued hout
    have hqueued' := queued_relayRun hqueued run
    show ∃ done left, _ ∧ Relays w done left rest
      ((relayRun run >>= fun _ => runs.forM relayRun) w).1
      ((relayRun run >>= fun _ => runs.forM relayRun) w).2
    cases hresult : (relayRun run w).1 with
    | error e =>
      rw [bind_of_error hresult]
      rw [hresult] at hfirst
      exact ⟨done, left ++ runs, by rw [← List.append_assoc, ← hrun, List.singleton_append],
        hfirst.before⟩
    | ok _ =>
      rw [bind_of_ok hresult]
      rw [hresult] at hfirst
      obtain rfl := hfirst.left_eq_nil
      have hnext : (relayRun run w).2.store.outbox = runs.flatten ++ rest := by
        rw [hfirst.store_eq]
        rfl
      obtain ⟨more, left, rfl, hothers⟩ := ih hruns hqueued' hnext
      rw [List.append_nil] at hrun
      subst hrun
      exact ⟨[run] ++ more, left, by rw [List.append_assoc, List.singleton_append],
        hfirst.trans hothers⟩

theorem queued_runs (runs : List (List QueuedJob)) :
    (runs.forM (relayRun (σ := σ))).Within (Kept Store.Queued) :=
  (passage_kept Store.Queued).within_forM (fun run _ hqueued => queued_relayRun hqueued run) runs

theorem relays_chunk (size : Nat) (hqueued : w.store.Queued) :
    ∃ done left, topicRuns (w.store.outbox.take size) = done ++ left ∧
      Relays w done left (w.store.outbox.drop size)
        ((topicRuns (w.store.outbox.take size)).forM relayRun (w.meet .pendingJobs)).1
        ((topicRuns (w.store.outbox.take size)).forM relayRun (w.meet .pendingJobs)).2 := by
  have hout : w.store.outbox = (topicRuns (w.store.outbox.take size)).flatten ++
      w.store.outbox.drop size := by
    rw [flatten_topicRuns, List.take_append_drop]
  obtain ⟨done, left, hruns, hrelays⟩ := relays_runs (w := w.meet .pendingJobs)
    (fun run hrun => isBatch_of_mem_topicRuns hrun) hqueued hout
  exact ⟨done, left, hruns, (Relays.meet w).trans hrelays⟩

theorem relayChunks_succ (size rounds : Nat) (w : World σ) :
    relayChunks size (rounds + 1) w =
      if w.faults.Refuses .pendingJobs 0 then
        (.error Method.pendingJobs.refusal, w.meet .pendingJobs)
      else
        match (topicRuns (w.store.outbox.take size)).forM relayRun (w.meet .pendingJobs) with
        | (.error e, w') => (.error e, w')
        | (.ok _, w') =>
          if w.store.outbox.length < size then (.ok w.store.outbox.length, w')
          else ((relayChunks size rounds w').1.map (size + ·), (relayChunks size rounds w').2) := by
  show (query .pendingJobs (fun s => .ok (s.pendingJobs size)) >>= fun jobs =>
    (topicRuns jobs).forM relayRun >>= fun _ =>
      if jobs.length < size then pure jobs.length
      else relayChunks size rounds >>= fun n => pure (jobs.length + n)) w = _
  rw [bind_apply, query, invoke_eq]
  by_cases hrefuse : (w.faults.next .pendingJobs).1 = some .refuse
  · rw [if_pos hrefuse, if_pos (Faults.next_eq_refuse.1 hrefuse)]
  · rw [if_neg hrefuse, if_neg fun hrefuses => hrefuse (Faults.next_eq_refuse.2 hrefuses)]
    show ((topicRuns (w.store.pendingJobs size)).forM relayRun >>= fun _ =>
      if (w.store.pendingJobs size).length < size then pure (w.store.pendingJobs size).length
      else relayChunks size rounds >>= fun n => pure ((w.store.pendingJobs size).length + n))
        (w.meet .pendingJobs) = _
    rw [pendingJobs_natCast, bind_apply]
    generalize (topicRuns (w.store.outbox.take size)).forM relayRun (w.meet .pendingJobs) = outcome
    obtain ⟨_ | _, w'⟩ := outcome
    · rfl
    dsimp only
    by_cases hlast : w.store.outbox.length < size
    · rw [List.take_of_length_le hlast.le, if_pos hlast, if_pos hlast]
      rfl
    · have hfull : (w.store.outbox.take size).length = size := by
        rw [List.length_take]
        omega
      rw [hfull, if_neg (Nat.lt_irrefl size), if_neg hlast, bind_apply]
      generalize relayChunks size rounds w' = outcome
      obtain ⟨_ | _, _⟩ := outcome <;> rfl

/-- Chunk after chunk is relayed, if there are enough rounds and the outbox can be read. -/
theorem relays_relayChunks {size rounds : Nat} {chunks : List (List (List QueuedJob))}
    (hsize : 0 < size) (hqueued : w.store.Queued)
    (hreads : ∀ n, ¬ w.faults.Refuses .pendingJobs n)
    (hcut : CutInto size w.store.outbox chunks) (hrounds : w.store.outbox.length < rounds) :
    ∃ done left result, chunks.flatten = done ++ left ∧
      Relays w done left [] result (relayChunks size rounds w).2 ∧
      (relayChunks size rounds w).1 = result.map fun _ => w.store.outbox.length := by
  induction rounds generalizing w chunks with
  | zero => exact absurd hrounds (Nat.not_lt_zero _)
  | succ rounds ih =>
    rw [relayChunks_succ, if_neg (hreads 0)]
    obtain ⟨done, left, hruns, hchunk⟩ := relays_chunk size hqueued
    obtain ⟨later, hchunks, hlater⟩ := hcut.exists_later hsize
    have hqueued' := queued_runs (topicRuns (w.store.outbox.take size)) (w.meet .pendingJobs) hqueued
    generalize (topicRuns (w.store.outbox.take size)).forM relayRun (w.meet .pendingJobs) = outcome
      at hchunk hqueued' ⊢
    obtain ⟨e | _, w'⟩ := outcome
    · refine ⟨done, left ++ later.flatten, .error e, ?_, Relays.before ?_, rfl⟩
      · rw [hchunks, hruns, List.append_assoc]
      · rw [hlater.whole, List.append_nil]
        exact hchunk
    · obtain rfl := hchunk.left_eq_nil
      rw [List.append_nil] at hruns
      subst hruns
      dsimp only
      split
      next hlast =>
        rw [List.drop_eq_nil_of_le hlast.le] at hchunk hlater
        obtain rfl := cutInto_nil_iff.1 hlater
        exact ⟨_, [], .ok (), hchunks, hchunk, rfl⟩
      next hfull =>
        have hout : w'.store.outbox = w.store.outbox.drop size := by
          rw [hchunk.store_eq]
          rfl
        rw [← hout] at hlater
        obtain ⟨more, left, result, hmore, hrelays, hresult⟩ :=
          ih hqueued' (hchunk.reads hreads) hlater (by rw [hout, List.length_drop]; omega)
        refine ⟨_, left, result, ?_, hchunk.trans hrelays, ?_⟩
        · rw [hchunks, hmore, List.append_assoc]
        · rw [hresult, hout, List.length_drop]
          cases result with
          | error e => rfl
          | ok _ => exact congrArg Except.ok (Nat.add_sub_cancel' (Nat.le_of_not_lt hfull))

/-- More rounds than there are jobs make no difference. -/
theorem relayChunks_congr {size rounds more : Nat} (hsize : 0 < size) (hqueued : w.store.Queued)
    (hrounds : w.store.outbox.length < rounds) (hmore : w.store.outbox.length < more) :
    relayChunks size rounds w = relayChunks size more w := by
  induction rounds generalizing w more with
  | zero => exact absurd hrounds (Nat.not_lt_zero _)
  | succ rounds ih =>
    obtain ⟨more, rfl⟩ := Nat.exists_eq_succ_of_ne_zero (Nat.ne_zero_of_lt hmore)
    rw [relayChunks_succ, relayChunks_succ]
    obtain ⟨_, _, -, hchunk⟩ := relays_chunk size hqueued
    have hqueued' := queued_runs (topicRuns (w.store.outbox.take size)) (w.meet .pendingJobs) hqueued
    generalize (topicRuns (w.store.outbox.take size)).forM relayRun (w.meet .pendingJobs) = outcome
      at hchunk hqueued' ⊢
    obtain ⟨e | _, w'⟩ := outcome
    · rfl
    obtain rfl := hchunk.left_eq_nil
    dsimp only
    by_cases hlast : w.store.outbox.length < size
    · rw [if_pos hlast, if_pos hlast]
    · -- A full chunk has left, and there is a round less for a shorter outbox.
      have hout : w'.store.outbox.length = w.store.outbox.length - size := by
        rw [hchunk.store_eq, ← List.length_drop]
        rfl
      have hsame : relayChunks size rounds w' = relayChunks size more w' :=
        ih hqueued' (by omega) (by omega)
      rw [hsame]

/-- A relay of jobs that wait in order comes to an end by itself, and takes out of the outbox exactly
what it has published before. What it publishes are the jobs as they are cut into chunks and runs,
and it goes on until a batch is refused, or cannot be taken out. -/
theorem flush_drains (hqueued : w.store.Queued) (hreads : ∀ n, ¬ w.faults.Refuses .pendingJobs n)
    (batchSize : Int) :
    (∀ rounds, w.store.outbox.length < rounds →
      relayChunks (max 1 batchSize).toNat rounds w = flush batchSize w) ∧
    (∃! chunks, CutInto (max 1 batchSize).toNat w.store.outbox chunks) ∧
    ∀ chunks, CutInto (max 1 batchSize).toNat w.store.outbox chunks →
      ∃ done left sink result, chunks.flatten = done ++ left ∧
        done.flatten ++ left.flatten = w.store.outbox ∧
        Accepts w.sink done sink ∧
        (∀ n < done.length, ¬ w.faults.Refuses .ackJobs n) ∧
        Ends (w.faults.Refuses .ackJobs done.length) sink left result (flush batchSize w).2.sink ∧
        (flush batchSize w).1 = result.map (fun _ => w.store.outbox.length) ∧
        (flush batchSize w).2.store = { w.store with outbox := left.flatten } := by
  have hsize : 0 < (max 1 batchSize).toNat := by omega
  have henough : w.store.outbox.length < w.store.outbox.length + 1 := Nat.lt_succ_self _
  refine ⟨fun rounds hrounds => relayChunks_congr hsize hqueued hrounds henough,
    existsUnique_cutInto hsize _, fun chunks hcut => ?_⟩
  obtain ⟨done, left, result, hbatches, hrelays, hresult⟩ :=
    relays_relayChunks hsize hqueued hreads hcut henough
  obtain ⟨sink, haccepts, hends⟩ := hrelays.offered
  refine ⟨done, left, sink, result, hbatches, ?_, haccepts, hrelays.acked, hends, hresult, ?_⟩
  · rw [← List.flatten_append, ← hbatches, hcut.whole]
  · rw [← List.append_nil left.flatten]
    exact hrelays.store_eq

end

/-! ### A batch that cannot be taken out -/

def numbered (jobs : List (Topic × String)) : List QueuedJob :=
  jobs.zipIdx.map fun job => ⟨job.2 + 1, job.1.1, job.1.2⟩

/-- Five jobs wait, and the third batch that is relayed cannot be taken out of the outbox. The sink would
refuse the fifth. -/
def lastUnacked : World Recorder where
  store :=
    { outbox := numbered [(.sceneJobs, "a"), (.sceneJobs, "b"), (.sceneJobs, "c"), (.tileJobs, "d"),
        (.tileJobs, "e")]
      lastJob := 5 }
  sink := { plan := [(4, true), (1, false)] }
  faults := [(.ackJobs, [(2, none), (1, some .refuse)]), (.pendingJobs, [(1, some .cancel)])]

/-- The first chunk is one batch, the second one two, the first of which has the topic of the first
chunk. -/
theorem flush_drains_lastUnacked :
    lastUnacked.store.Queued ∧ (∀ n, ¬ lastUnacked.faults.Refuses .pendingJobs n) ∧
      (∃ chunks done left sink result, CutInto 2 lastUnacked.store.outbox chunks ∧
        chunks.map (·.map (·.map (·.id))) = [[[1, 2]], [[3], [4]], [[5]]] ∧
        chunks.flatten = done ++ left ∧ Accepts lastUnacked.sink done sink ∧
        Ends (lastUnacked.faults.Refuses .ackJobs done.length) sink left result
          (flush 2 lastUnacked).2.sink) ∧
      (flush 2 lastUnacked).1 = .error (.database "ack_jobs" "injected fault") ∧
      (flush 2 lastUnacked).2.store.outbox.map (·.id) = [4, 5] ∧
      (flush 2 lastUnacked).2.sink.batches =
        [(.sceneJobs, ["a", "b"]), (.sceneJobs, ["c"]), (.tileJobs, ["d"])] := by
  have hqueued : lastUnacked.store.Queued := ⟨by decide, by decide⟩
  have hreads : ∀ n, ¬ lastUnacked.faults.Refuses .pendingJobs n :=
    Faults.not_refuses (by unfold Schedule.Only; decide)
  obtain ⟨-, ⟨chunks, hcut, -⟩, hends⟩ := flush_drains hqueued hreads 2
  obtain ⟨done, left, sink, result, hbatches, -, haccepts, -, hstop, -⟩ := hends chunks hcut
  refine ⟨hqueued, hreads, ⟨chunks, done, left, sink, result, hcut, ?_, hbatches, haccepts, hstop⟩,
    by decide +kernel, by decide +kernel, by decide +kernel⟩
  obtain ⟨_, rfl, hsecond⟩ := (cutInto_iff (by decide) (by decide)).1 hcut
  obtain ⟨_, rfl, hthird⟩ := (cutInto_iff (by decide) (by decide)).1 hsecond
  obtain ⟨_, rfl, hnone⟩ := (cutInto_iff (by decide) (by decide)).1 hthird
  obtain rfl := cutInto_nil_iff.1 hnone
  decide +kernel

end Outbox
end SceneWorkflow
