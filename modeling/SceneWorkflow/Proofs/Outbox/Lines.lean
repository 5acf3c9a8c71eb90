import SceneWorkflow.Proofs.Outbox.Relay
import SceneWorkflow.Proofs.UnitOfWork.Undisturbed
import SceneWorkflow.Sink.JsonLines

/-!
# The relay into lines

In an undisturbed world the relay writes the waiting jobs as lines, batch after batch,
up to the first batch with a payload that is not JSON. That batch stays, at the front
of the outbox. A relay that comes next meets it again, perhaps with more jobs in the
same batch, and so has no effect.
-/
namespace SceneWorkflow

/-- The line of a job; `none` if its payload is not JSON. -/
def QueuedJob.line? (j : QueuedJob) : Option String := JsonLines.line? j.topic j.payload

/-- The world when lines have been written and these jobs still wait. -/
def World.written (w : World JsonLines) (out : List String) (rest : List QueuedJob) :
    World JsonLines :=
  { w with store := { w.store with outbox := rest }, sink := ⟨w.sink.lines ++ out⟩ }

namespace World
variable {w : World JsonLines} {out : List String} {rest : List QueuedJob}

theorem written_nil (w : World JsonLines) : w.written [] w.store.outbox = w := by
  unfold written
  rw [List.append_nil]

theorem written_written (w : World JsonLines) (out more : List String)
    (rest later : List QueuedJob) :
    (w.written out rest).written more later = w.written (out ++ more) later := by
  unfold written
  rw [List.append_assoc]

theorem Undisturbed.written (h : w.Undisturbed) : (w.written out rest).Undisturbed :=
  ⟨h.faults, h.cancelled⟩

theorem queued_written (h : w.store.Queued) (hrest : rest <:+ w.store.outbox) :
    (w.written out rest).store.Queued where
  jobs_ascend := h.jobs_ascend.sublist hrest.sublist
  job_le := fun j hj => h.job_le j (hrest.subset hj)

end World

namespace Outbox
open Operation Store
variable {w : World JsonLines}

/-! ### What is written -/

/-- The lines of batches up to the first that is refused, and the batches from there on. -/
def write : List (List QueuedJob) → List String × List (List QueuedJob)
  | [] => ([], [])
  | run :: runs =>
    match run.mapM QueuedJob.line? with
    | none => ([], run :: runs)
    | some out => (out ++ (write runs).1, (write runs).2)

/-- The lines of waiting jobs that are read in chunks of `size`, at most `rounds` of them, and the
jobs that wait on. -/
def writeChunks (size : Nat) : Nat → List QueuedJob → List String × List QueuedJob
  | 0, jobs => ([], jobs)
  | rounds + 1, jobs =>
    let (out, left) := write (topicRuns (jobs.take size))
    if left ≠ [] ∨ jobs.length < size then (out, left.flatten ++ jobs.drop size)
    else (out ++ (writeChunks size rounds (jobs.drop size)).1,
      (writeChunks size rounds (jobs.drop size)).2)

/-- A relay in chunks of `size` has no effect on these jobs: there are none, or a batch that is
refused comes first. -/
def Blocked (size : Nat) (jobs : List QueuedJob) : Prop :=
  jobs = [] ∨ ∃ topic run, IsBatch topic run ∧ run <+: jobs ∧ run.length ≤ size ∧
    run.mapM QueuedJob.line? = none

theorem suffix_write (runs : List (List QueuedJob)) : (write runs).2 <:+ runs := by
  induction runs with
  | nil => exact List.suffix_rfl
  | cons run runs ih =>
    unfold write
    split
    · exact List.suffix_rfl
    · exact ih.trans (List.suffix_cons run runs)

/-- The batch that was refused comes first among those that are left. -/
theorem write_refused {runs left : List (List QueuedJob)} {run : List QueuedJob} {out : List String}
    (h : write runs = (out, run :: left)) : run.mapM QueuedJob.line? = none := by
  induction runs generalizing out with
  | nil => cases h
  | cons first runs ih =>
    unfold write at h
    split at h
    next hnone =>
      cases h
      exact hnone
    next => exact ih (Prod.ext rfl (Prod.mk.inj h).2)

/-- The first batch ends where the topic changes. -/
theorem isBatch_of_topicRuns {jobs first : List QueuedJob} {others : List (List QueuedJob)}
    (h : topicRuns jobs = first :: others) :
    ∃ topic, IsBatch topic first ∧ ∀ next ∈ others.flatten.head?, next.topic ≠ topic := by
  obtain ⟨topic, hbatch⟩ := isBatch_of_mem_topicRuns (h ▸ List.mem_cons_self)
  refine ⟨topic, hbatch, fun next hnext => ?_⟩
  have hnil : [] ∉ topicRuns jobs := List.nil_notMem_splitBy _ jobs
  have hchain : (topicRuns jobs).IsChain _ := List.isChain_getLast_head_splitBy _ jobs
  rw [h] at hnil hchain
  cases others with
  | nil => cases hnext
  | cons second others =>
    cases second with
    | nil => exact absurd (List.mem_cons_of_mem _ List.mem_cons_self) hnil
    | cons head second =>
      obtain rfl : head = next := Option.some.inj hnext
      obtain ⟨hne, _, hdiffer⟩ := (List.isChain_cons_cons.1 hchain).1
      have hlast := hbatch.topic_eq _ (List.getLast_mem hne)
      exact fun heq => beq_eq_false_iff_ne.1 hdiffer (hlast.trans heq.symm)

/-- The first batch holds all jobs of one topic that come first. -/
theorem prefix_topicRuns {topic : Topic} {run jobs : List QueuedJob} (hbatch : IsBatch topic run)
    (hrun : run <+: jobs) : ∃ first others, topicRuns jobs = first :: others ∧ run <+: first := by
  have hflatten := flatten_topicRuns jobs
  cases hruns : topicRuns jobs with
  | nil =>
    rw [hruns] at hflatten
    rw [← hflatten] at hrun
    exact absurd (List.prefix_nil.1 hrun) hbatch.nonempty
  | cons first others =>
    rw [hruns, List.flatten_cons] at hflatten
    refine ⟨first, others, rfl, ?_⟩
    rcases List.prefix_or_prefix_of_prefix hrun ⟨_, hflatten⟩ with hle | ⟨more, rfl⟩
    · exact hle
    cases more with
    | nil => exact ⟨[], by rw [List.append_nil, List.append_nil]⟩
    | cons next more =>
      -- The batch would end within the run, where the topic does not change.
      exfalso
      obtain ⟨later, hlater⟩ := hrun
      rw [List.append_assoc, ← hflatten] at hlater
      obtain ⟨other, hfirst, hchange⟩ := isBatch_of_topicRuns hruns
      rw [← List.append_cancel_left hlater] at hchange
      obtain ⟨job, hjob⟩ := List.exists_mem_of_ne_nil first hfirst.nonempty
      have hsame : topic = other :=
        (hbatch.topic_eq job (List.mem_append_left _ hjob)).symm.trans (hfirst.topic_eq job hjob)
      have hnext := hbatch.topic_eq next (List.mem_append_right _ List.mem_cons_self)
      exact hchange next rfl (hnext.trans hsame)

/-- Nothing is written as long as the batch that is refused comes first. -/
theorem writeChunks_blocked {size : Nat} (hsize : 0 < size) {jobs : List QueuedJob}
    (h : Blocked size jobs) (rounds : Nat) : writeChunks size rounds jobs = ([], jobs) := by
  cases rounds with
  | zero => rfl
  | succ rounds =>
    obtain rfl | ⟨topic, run, hbatch, hrun, hlength, hrefused⟩ := h
    · show (if _ ∨ 0 < size then _ else _) = _
      rw [if_pos (.inr hsize), List.drop_nil]
      simp [topicRuns, write]
    · have hchunk : run <+: jobs.take size := List.prefix_take_iff.2 ⟨hrun, hlength⟩
      obtain ⟨first, others, hruns, more, rfl⟩ := prefix_topicRuns hbatch hchunk
      have hfirst : (run ++ more).mapM QueuedJob.line? = none := by
        rw [List.mapM_append, hrefused]
        rfl
      have hwrite : write (topicRuns (jobs.take size)) = ([], (run ++ more) :: others) := by
        rw [hruns, write, hfirst]
      unfold writeChunks
      rw [hwrite]
      dsimp only
      rw [if_pos (.inl (List.cons_ne_nil _ _)), ← hruns, flatten_topicRuns, List.take_append_drop]

/-- A relay leaves nothing behind that it might have written. -/
theorem blocked_writeChunks {size rounds : Nat} (hsize : 0 < size) {jobs : List QueuedJob}
    (hrounds : jobs.length < rounds) : Blocked size (writeChunks size rounds jobs).2 := by
  induction rounds generalizing jobs with
  | zero => exact absurd hrounds (Nat.not_lt_zero _)
  | succ rounds ih =>
    unfold writeChunks
    obtain ⟨out, left, hwrite⟩ : ∃ out left, write (topicRuns (jobs.take size)) = (out, left) :=
      ⟨_, _, rfl⟩
    rw [hwrite]
    dsimp only
    split
    next hend =>
      cases left with
      | nil =>
        have hlast : jobs.length < size := hend.resolve_left fun hne => hne rfl
        exact .inl (by rw [List.flatten_nil, List.nil_append, List.drop_eq_nil_of_le hlast.le])
      | cons run left =>
        have hsuffix := suffix_write (topicRuns (jobs.take size))
        rw [hwrite] at hsuffix
        obtain ⟨topic, hbatch⟩ := isBatch_of_mem_topicRuns (hsuffix.subset List.mem_cons_self)
        refine .inr ⟨topic, run, hbatch, ?_, ?_, write_refused hwrite⟩
        · rw [List.flatten_cons, List.append_assoc]
          exact List.prefix_append _ _
        · have hmem : run ∈ topicRuns (jobs.take size) := hsuffix.subset List.mem_cons_self
          have hchunk := List.sublist_flatten_of_mem hmem
          rw [flatten_topicRuns] at hchunk
          exact hchunk.length_le.trans (List.length_take_le _ _)
    next hmore =>
      refine ih ?_
      rw [List.length_drop]
      have hfull := Nat.le_of_not_lt fun hlt => hmore (.inr hlt)
      omega

/-! ### Writing it -/

theorem mapM_line? {topic : Topic} {run : List QueuedJob} (h : ∀ j ∈ run, j.topic = topic) :
    (run.map (·.payload)).mapM (JsonLines.line? topic) = run.mapM QueuedJob.line? := by
  induction run with
  | nil => rfl
  | cons j run ih =>
    rw [List.map_cons, List.mapM_cons, List.mapM_cons, QueuedJob.line?, h j List.mem_cons_self,
      ih fun k hk => h k (List.mem_cons_of_mem j hk)]

theorem publish_lines {topic : Topic} {run : List QueuedJob} (hbatch : IsBatch topic run)
    (w : World JsonLines) :
    publish topic (run.map (·.payload)) w =
      match run.mapM QueuedJob.line? with
      | none => (.error (.publish topic.name "payload is not JSON"), w)
      | some out => (.ok (), { w with sink := ⟨w.sink.lines ++ out⟩ }) := by
  show ((JsonLines.publish topic _ w.sink).1,
    { w with sink := (JsonLines.publish topic _ w.sink).2 }) = _
  unfold JsonLines.publish
  rw [mapM_line? hbatch.topic_eq]
  cases run.mapM QueuedJob.line? <;> rfl

/-- A batch is written and leaves, or is refused and nothing changes. -/
theorem relayRun_lines {topic : Topic} {run rest : List QueuedJob} (hbatch : IsBatch topic run)
    (hw : w.Undisturbed) (hqueued : w.store.Queued) (hout : w.store.outbox = run ++ rest) :
    relayRun run w =
      match run.mapM QueuedJob.line? with
      | none => (.error (.publish topic.name "payload is not JSON"), w)
      | some out => (.ok (), w.written out rest) := by
  cases run with
  | nil => exact absurd rfl hbatch.nonempty
  | cons job jobs =>
    have htopic : job.topic = topic := hbatch.topic_eq job List.mem_cons_self
    show (publish job.topic ((job :: jobs).map (·.payload)) >>= fun _ =>
      invoke .ackJobs fun s => .ok ((), s.ackJobs ((job :: jobs).map (·.id)))) w = _
    rw [bind_apply, htopic, publish_lines hbatch]
    cases (job :: jobs).mapM QueuedJob.line? with
    | none => rfl
    | some out =>
      have hsame : ({ w with sink := ⟨w.sink.lines ++ out⟩ } : World JsonLines).Undisturbed :=
        ⟨hw.faults, hw.cancelled⟩
      refine (invoke_undisturbed hsame .ackJobs _).trans ?_
      dsimp only
      rw [hqueued.ackJobs_append hout]
      rfl

theorem forM_lines {runs : List (List QueuedJob)} {rest : List QueuedJob}
    (hruns : ∀ run ∈ runs, ∃ topic, IsBatch topic run) (hw : w.Undisturbed)
    (hqueued : w.store.Queued) (hout : w.store.outbox = runs.flatten ++ rest) :
    (runs.forM relayRun w).2 = w.written (write runs).1 ((write runs).2.flatten ++ rest) ∧
      ((runs.forM relayRun w).1 = .ok () ∧ (write runs).2 = [] ∨
        (∃ e, (runs.forM relayRun w).1 = .error e) ∧ (write runs).2 ≠ []) := by
  induction runs generalizing w with
  | nil =>
    refine ⟨?_, .inl ⟨rfl, rfl⟩⟩
    rw [List.flatten_nil, List.nil_append] at hout
    show w = w.written [] rest
    rw [← hout, World.written_nil]
  | cons run runs ih =>
    obtain ⟨topic, hbatch⟩ := hruns run List.mem_cons_self
    rw [List.flatten_cons, List.append_assoc] at hout
    have hfirst := relayRun_lines hbatch hw hqueued hout
    have hforM : (run :: runs).forM relayRun w =
        (relayRun run >>= fun _ => runs.forM relayRun) w := rfl
    rw [hforM, bind_apply, hfirst, write]
    cases run.mapM QueuedJob.line? with
    | none =>
      refine ⟨?_, .inr ⟨⟨_, rfl⟩, List.cons_ne_nil _ _⟩⟩
      show w = w.written [] ((run :: runs).flatten ++ rest)
      rw [List.flatten_cons, List.append_assoc, ← hout, World.written_nil]
    | some out =>
      have hsuffix : runs.flatten ++ rest <:+ w.store.outbox := ⟨run, hout.symm⟩
      obtain ⟨hworld, hresult⟩ := ih (w := w.written out (runs.flatten ++ rest))
        (fun run hrun => hruns run (List.mem_cons_of_mem _ hrun)) hw.written
        (World.queued_written hqueued hsuffix) rfl
      refine ⟨?_, hresult⟩
      exact hworld.trans (World.written_written w _ _ _ _)

theorem relayChunks_lines (size rounds : Nat) (hw : w.Undisturbed) (hqueued : w.store.Queued) :
    (relayChunks size rounds w).2 =
      w.written (writeChunks size rounds w.store.outbox).1
        (writeChunks size rounds w.store.outbox).2 := by
  induction rounds generalizing w with
  | zero => exact (World.written_nil w).symm
  | succ rounds ih =>
    unfold relayChunks writeChunks
    rw [bind_apply, query_undisturbed hw, pendingJobs_natCast]
    dsimp only
    have hout : w.store.outbox = (topicRuns (w.store.outbox.take size)).flatten ++
        w.store.outbox.drop size := by
      rw [flatten_topicRuns, List.take_append_drop]
    obtain ⟨hworld, hresult⟩ := forM_lines (fun run hrun => isBatch_of_mem_topicRuns hrun) hw
      hqueued hout
    generalize write (topicRuns (w.store.outbox.take size)) = written at hworld hresult ⊢
    obtain ⟨out, left⟩ := written
    dsimp only at hworld hresult ⊢
    obtain ⟨hok, rfl⟩ | ⟨⟨e, herror⟩, hleft⟩ := hresult
    · have hlength : (w.store.outbox.take size).length < size ↔ w.store.outbox.length < size := by
        rw [List.length_take]
        omega
      rw [bind_of_ok hok, hworld, List.flatten_nil, List.nil_append]
      by_cases hlast : w.store.outbox.length < size
      · rw [if_pos (hlength.2 hlast), if_pos (.inr hlast)]
        rfl
      · rw [if_neg (fun h => hlast (hlength.1 h)), if_neg (by simp [hlast])]
        have hnext := ih (w := w.written out (w.store.outbox.drop size)) hw.written
          (World.queued_written hqueued (List.drop_suffix _ _))
        refine Eq.trans ?_ (hnext.trans (World.written_written w _ _ _ _))
        rw [bind_apply]
        generalize relayChunks size rounds (w.written out (w.store.outbox.drop size)) = outcome
        obtain ⟨_ | _, _⟩ := outcome <;> rfl
    · rw [bind_of_error herror, if_pos (.inl hleft)]
      exact hworld

theorem flush_lines (batchSize : Int) (hw : w.Undisturbed) (hqueued : w.store.Queued) :
    (flush batchSize w).2 =
      w.written (writeChunks (max 1 batchSize).toNat (w.store.outbox.length + 1) w.store.outbox).1
        (writeChunks (max 1 batchSize).toNat (w.store.outbox.length + 1) w.store.outbox).2 :=
  relayChunks_lines _ _ hw hqueued

end Outbox

/-! ### Relays in a row -/

def World.following (earlier : List String) (w : World JsonLines) : World JsonLines :=
  { w with sink := ⟨earlier ++ w.sink.lines⟩ }

/-- A world that nothing disturbs and in which a relay has no effect. -/
structure World.Settled (w : World JsonLines) : Prop where
  undisturbed : w.Undisturbed
  queued : w.store.Queued
  blocked : Outbox.Blocked (max 1 w.batchSize).toNat w.store.outbox

namespace World
open Outbox
variable {w : World JsonLines}

theorem Settled.flush (h : w.Settled) : (flush w.batchSize w).2 = w := by
  have hsize : 0 < (max 1 w.batchSize).toNat := by omega
  rw [flush_lines w.batchSize h.undisturbed h.queued, writeChunks_blocked hsize h.blocked]
  exact written_nil w

/-- Nothing is kept but the store, the lines that were written and the settings. -/
theorem Undisturbed.eq_following (h : w.Undisturbed) :
    w = following w.sink.lines { store := w.store, sink := {}, batchSize := w.batchSize } := by
  obtain ⟨store, ⟨lines⟩, faults, cancelled, batchSize⟩ := w
  obtain ⟨rfl, rfl⟩ := h
  unfold following
  rw [List.append_nil]

theorem Settled.following (h : w.Settled) (earlier : List String) : (w.following earlier).Settled :=
  ⟨⟨h.undisturbed.faults, h.undisturbed.cancelled⟩, h.queued, h.blocked⟩

theorem batchSize_flush (hw : w.Undisturbed) (hqueued : w.store.Queued) (batchSize : Int) :
    (flush batchSize w).2.batchSize = w.batchSize := by
  rw [flush_lines batchSize hw hqueued]
  rfl

theorem written_following (w : World JsonLines) (earlier out : List String)
    (rest : List QueuedJob) :
    (w.following earlier).written out rest = (w.written out rest).following earlier := by
  unfold written following
  rw [List.append_assoc]

theorem following_flush (hw : w.Undisturbed) (hqueued : w.store.Queued) (earlier : List String)
    (batchSize : Int) :
    (flush batchSize (w.following earlier)).2 = (flush batchSize w).2.following earlier := by
  have hsame : (w.following earlier).Undisturbed := ⟨hw.faults, hw.cancelled⟩
  rw [flush_lines batchSize hw hqueued, flush_lines batchSize hsame hqueued]
  exact written_following w earlier _ _

/-- After a relay there is nothing left that another would write. -/
theorem settled_flush (hw : w.Undisturbed) (hqueued : w.store.Queued) :
    (flush w.batchSize w).2.Settled := by
  have hsize : 0 < (max 1 w.batchSize).toNat := by omega
  have hqueued' := kept_flush (σ := JsonLines) (I := Store.Queued) (fun _ ids hs => hs.ackJobs ids)
    w.batchSize w hqueued
  rw [flush_lines w.batchSize hw hqueued] at hqueued' ⊢
  exact ⟨hw.written, hqueued', blocked_writeChunks hsize (Nat.lt_succ_self _)⟩

end World

end SceneWorkflow
