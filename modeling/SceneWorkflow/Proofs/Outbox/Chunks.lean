import Mathlib.Data.List.SplitBy
import SceneWorkflow.Proofs.Outbox.Lines

/-!
# Chunks and runs of jobs

Waiting jobs are read in chunks of one size, and each chunk is cut into runs of jobs on
one topic. There is just one way to do so.
-/
namespace SceneWorkflow.Outbox

/-- Jobs in chunks of one size, the last of which may be shorter, and each chunk in runs of one topic
that could not be longer. -/
structure CutInto (size : Nat) (jobs : List QueuedJob) (chunks : List (List (List QueuedJob))) :
    Prop where
  whole : chunks.flatten.flatten = jobs
  full : ∀ chunk ∈ chunks.dropLast, chunk.flatten.length = size
  within : ∀ chunk ∈ chunks, chunk ≠ [] ∧ chunk.flatten.length ≤ size
  runs : ∀ chunk ∈ chunks, ∀ run ∈ chunk, ∃ topic, IsBatch topic run
  maximal : ∀ chunk ∈ chunks, chunk.IsChain fun a b => ∀ j ∈ a, ∀ k ∈ b, j.topic ≠ k.topic

variable {size : Nat} {jobs : List QueuedJob} {chunks : List (List (List QueuedJob))}

/-- Runs of one topic that could not be longer are those that the relay makes. -/
theorem topicRuns_eq_iff {runs : List (List QueuedJob)} :
    topicRuns jobs = runs ↔ runs.flatten = jobs ∧ (∀ run ∈ runs, ∃ topic, IsBatch topic run) ∧
      runs.IsChain fun a b => ∀ j ∈ a, ∀ k ∈ b, j.topic ≠ k.topic := by
  constructor
  · rintro rfl
    refine ⟨flatten_topicRuns jobs, fun run hrun => isBatch_of_mem_topicRuns hrun, ?_⟩
    refine (List.isChain_getLast_head_splitBy _ jobs).imp_of_mem_imp ?_
    rintro a b ha hb ⟨hane, hbne, hdiffer⟩ j hj k hk
    obtain ⟨_, hatopic⟩ := isBatch_of_mem_topicRuns ha
    obtain ⟨_, hbtopic⟩ := isBatch_of_mem_topicRuns hb
    rw [hatopic.topic_eq j hj, hbtopic.topic_eq k hk, ← hatopic.topic_eq _ (List.getLast_mem hane),
      ← hbtopic.topic_eq _ (List.head_mem hbne)]
    exact beq_eq_false_iff_ne.1 hdiffer
  · rintro ⟨hwhole, hruns, hchain⟩
    refine List.splitBy_eq_iff.2 ⟨hwhole.symm, fun hnil => ?_, fun run hrun => ?_, ?_⟩
    · obtain ⟨_, hbatch⟩ := hruns [] hnil
      exact hbatch.nonempty rfl
    · obtain ⟨topic, hbatch⟩ := hruns run hrun
      refine List.isChain_iff_pairwise.2 (List.pairwise_of_forall_mem_list fun j hj k hk => ?_)
      rw [hbatch.topic_eq j hj, hbatch.topic_eq k hk]
      exact beq_self_eq_true topic
    · refine hchain.imp_of_mem_imp fun a b ha hb hdiffer => ?_
      obtain ⟨_, hatopic⟩ := hruns a ha
      obtain ⟨_, hbtopic⟩ := hruns b hb
      refine ⟨hatopic.nonempty, hbtopic.nonempty, beq_eq_false_iff_ne.2 ?_⟩
      exact hdiffer _ (List.getLast_mem _) _ (List.head_mem _)

theorem cutInto_nil_iff : CutInto size [] chunks ↔ chunks = [] := by
  constructor
  · intro h
    refine List.eq_nil_iff_forall_not_mem.2 fun chunk hchunk => ?_
    obtain ⟨run, hrun⟩ := List.exists_mem_of_ne_nil chunk (h.within chunk hchunk).1
    obtain ⟨_, hbatch⟩ := h.runs chunk hchunk run hrun
    obtain ⟨j, hj⟩ := List.exists_mem_of_ne_nil run hbatch.nonempty
    have hmem : j ∈ chunks.flatten.flatten :=
      List.mem_flatten_of_mem (List.mem_flatten_of_mem hchunk hrun) hj
    rw [h.whole] at hmem
    cases hmem
  · rintro rfl
    exact ⟨rfl, nofun, nofun, nofun, nofun⟩

theorem CutInto.tail {chunk : List (List QueuedJob)} {later : List (List (List QueuedJob))}
    (h : CutInto size jobs (chunk :: later)) :
    chunk.flatten = jobs.take size ∧ CutInto size (jobs.drop size) later := by
  have hwhole := h.whole
  rw [List.flatten_cons, List.flatten_append] at hwhole
  have hlater : chunk.flatten = jobs.take size ∧ later.flatten.flatten = jobs.drop size := by
    have hle := (h.within chunk List.mem_cons_self).2
    cases later with
    | nil =>
      rw [List.flatten_nil, List.flatten_nil, List.append_nil] at hwhole
      rw [← hwhole, List.take_of_length_le hle, List.drop_eq_nil_of_le hle]
      exact ⟨rfl, rfl⟩
    | cons second later =>
      rw [← hwhole, ← h.full chunk List.mem_cons_self]
      exact ⟨List.take_left.symm, List.drop_left.symm⟩
  refine ⟨hlater.1, hlater.2, fun chunk hmem => h.full chunk ?_,
    fun chunk hmem => h.within chunk (List.mem_cons_of_mem _ hmem),
    fun chunk hmem => h.runs chunk (List.mem_cons_of_mem _ hmem),
    fun chunk hmem => h.maximal chunk (List.mem_cons_of_mem _ hmem)⟩
  cases later with
  | nil => cases hmem
  | cons second later => exact List.mem_cons_of_mem _ hmem

/-- A first chunk that is as long as it may be goes before those that cut what is left. -/
theorem CutInto.cons (hsize : 0 < size) (hjobs : jobs ≠ []) {later : List (List (List QueuedJob))}
    (h : CutInto size (jobs.drop size) later) :
    CutInto size jobs (topicRuns (jobs.take size) :: later) := by
  obtain ⟨hflatten, hruns, hchain⟩ := topicRuns_eq_iff.1 (rfl : topicRuns (jobs.take size) = _)
  refine ⟨?_, ?_, List.forall_mem_cons.2 ⟨⟨?_, ?_⟩, h.within⟩, List.forall_mem_cons.2 ⟨hruns, h.runs⟩,
    List.forall_mem_cons.2 ⟨hchain, h.maximal⟩⟩
  · rw [List.flatten_cons, List.flatten_append, hflatten, h.whole, List.take_append_drop]
  · intro chunk hchunk
    cases later with
    | nil => cases hchunk
    | cons second later =>
      rcases List.mem_cons.1 hchunk with rfl | hchunk
      · -- There is a second chunk, and so the first one is full.
        have hdrop : jobs.drop size ≠ [] := by
          intro hnil
          rw [hnil] at h
          cases cutInto_nil_iff.1 h
        have hlt : size < jobs.length := Nat.lt_of_not_le fun hle =>
          hdrop (List.drop_eq_nil_of_le hle)
        rw [hflatten, List.length_take, Nat.min_eq_left hlt.le]
      · exact h.full chunk hchunk
  · intro hnil
    rw [hnil] at hflatten
    have hlength := congrArg List.length hflatten
    rw [List.flatten_nil, List.length_nil, List.length_take] at hlength
    have hpos := List.length_pos_iff.2 hjobs
    omega
  · rw [hflatten]
    exact List.length_take_le _ _

theorem cutInto_iff (hsize : 0 < size) (hjobs : jobs ≠ []) :
    CutInto size jobs chunks ↔ ∃ later, chunks = topicRuns (jobs.take size) :: later ∧
      CutInto size (jobs.drop size) later := by
  constructor
  · intro h
    cases chunks with
    | nil => exact absurd h.whole.symm hjobs
    | cons chunk later =>
      obtain ⟨hchunk, hlater⟩ := h.tail
      have hruns := topicRuns_eq_iff.2 ⟨hchunk, h.runs chunk List.mem_cons_self,
        h.maximal chunk List.mem_cons_self⟩
      exact ⟨later, by rw [hruns], hlater⟩
  · rintro ⟨later, rfl, h⟩
    exact h.cons hsize hjobs

theorem CutInto.exists_later (hsize : 0 < size) (h : CutInto size jobs chunks) :
    ∃ later, chunks.flatten = topicRuns (jobs.take size) ++ later.flatten ∧
      CutInto size (jobs.drop size) later := by
  by_cases hjobs : jobs = []
  · subst hjobs
    obtain rfl := cutInto_nil_iff.1 h
    refine ⟨[], ?_, ?_⟩
    · rw [List.take_nil]
      rfl
    · rw [List.drop_nil]
      exact h
  · obtain ⟨later, rfl, hlater⟩ := (cutInto_iff hsize hjobs).1 h
    exact ⟨later, List.flatten_cons, hlater⟩

/-- There is one way to cut jobs into chunks and runs. -/
theorem existsUnique_cutInto (hsize : 0 < size) (jobs : List QueuedJob) :
    ∃! chunks, CutInto size jobs chunks := by
  induction hlength : jobs.length using Nat.strong_induction_on generalizing jobs with
  | h length ih =>
    by_cases hjobs : jobs = []
    · subst hjobs
      exact ⟨[], cutInto_nil_iff.2 rfl, fun chunks h => cutInto_nil_iff.1 h⟩
    · have hshorter : (jobs.drop size).length < length := by
        have hpos := List.length_pos_iff.2 hjobs
        rw [List.length_drop]
        omega
      obtain ⟨later, hlater, hunique⟩ := ih _ hshorter (jobs.drop size) rfl
      refine ⟨_, (cutInto_iff hsize hjobs).2 ⟨later, rfl, hlater⟩, fun chunks h => ?_⟩
      obtain ⟨others, rfl, hothers⟩ := (cutInto_iff hsize hjobs).1 h
      rw [hunique others hothers]

end SceneWorkflow.Outbox
