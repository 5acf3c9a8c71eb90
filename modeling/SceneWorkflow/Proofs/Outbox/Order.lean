import SceneWorkflow.Proofs.Store.Changes
import SceneWorkflow.Proofs.Work.Laws

/-!
# The order of jobs

Jobs wait in the order in which they were queued. What a unit of work queues comes
behind those that wait, and when the first of them leave, the others stay as they are.
-/
namespace SceneWorkflow
namespace Store
variable {s s' : Store} {batch rest : List QueuedJob}

structure Queued (s : Store) : Prop where
  jobs_ascend : s.outbox.Pairwise fun j k => j.id < k.id
  job_le : ∀ j ∈ s.outbox, j.id ≤ s.lastJob

theorem queued_empty : Queued {} where
  jobs_ascend := .nil
  job_le := fun _ hj => nomatch hj

theorem Queued.ackJobs (h : s.Queued) (ids : List Int) : (s.ackJobs ids).Queued where
  jobs_ascend := h.jobs_ascend.filter _
  job_le := fun j hj => h.job_le j (List.mem_filter.1 hj).1

/-- When the first jobs leave, the others wait on. -/
theorem Queued.ackJobs_append (h : s.Queued) (hout : s.outbox = batch ++ rest) :
    s.ackJobs (batch.map (·.id)) = { s with outbox := rest } := by
  have hascend := h.jobs_ascend
  rw [hout] at hascend
  obtain ⟨-, -, hlt⟩ := List.pairwise_append.1 hascend
  -- As the ids ascend, none of the rest has the id of one that leaves.
  have hgone : batch.filter (fun j => !(batch.map (·.id)).contains j.id) = [] := by
    refine List.filter_eq_nil_iff.2 fun j hj => ?_
    rw [List.contains_iff_mem.2 (List.mem_map_of_mem hj)]
    exact Bool.false_ne_true
  have hstay : rest.filter (fun j => !(batch.map (·.id)).contains j.id) = rest := by
    refine List.filter_eq_self.2 fun j hj => ?_
    rw [Bool.not_eq_true', List.contains_eq_mem, decide_eq_false_iff_not]
    intro hmem
    obtain ⟨k, hk, hid⟩ := List.mem_map.1 hmem
    exact Int.ne_of_lt (hlt k hk j hj) hid
  rw [Store.ackJobs, hout, List.filter_append, hgone, hstay]
  rfl

/-! ### Units of work -/

/-- These jobs have been queued behind those that waited, under new ids that ascend. -/
structure Queues (s s' : Store) (jobs : List QueuedJob) : Prop where
  outbox_eq : s'.outbox = s.outbox ++ jobs
  ascend : jobs.Pairwise fun j k => j.id < k.id
  new : ∀ j ∈ jobs, s.lastJob < j.id ∧ j.id ≤ s'.lastJob
  last_le : s.lastJob ≤ s'.lastJob

theorem queues_nil (hout : s'.outbox = s.outbox) (hlast : s'.lastJob = s.lastJob) :
    Queues s s' [] where
  outbox_eq := by rw [hout, List.append_nil]
  ascend := .nil
  new := fun _ hj => absurd hj List.not_mem_nil
  last_le := Int.le_of_eq hlast.symm

theorem queues_enqueueJob (s : Store) (topic : Topic) (payload : String) :
    Queues s (s.enqueueJob topic payload) [⟨s.lastJob + 1, topic, payload⟩] where
  outbox_eq := rfl
  ascend := List.pairwise_singleton _ _
  new := by
    intro j hj
    rw [List.mem_singleton.1 hj]
    exact ⟨Int.lt_succ _, Int.le_refl _⟩
  last_le := Int.le_of_lt (Int.lt_succ _)

theorem queues_createAoi {name : String} (hok : s.createAoi name = .ok s') : Queues s s' [] := by
  unfold createAoi at hok
  split at hok <;> cases hok
  exact queues_nil rfl rfl

/-- What is queued later has the higher ids. -/
theorem Queues.trans {s₁ s₂ s₃ : Store} {js ks : List QueuedJob} (h₁ : Queues s₁ s₂ js)
    (h₂ : Queues s₂ s₃ ks) : Queues s₁ s₃ (js ++ ks) where
  outbox_eq := by rw [h₂.outbox_eq, h₁.outbox_eq, List.append_assoc]
  ascend := by
    refine List.pairwise_append.2 ⟨h₁.ascend, h₂.ascend, fun j hj k hk => ?_⟩
    exact Int.lt_of_le_of_lt (h₁.new j hj).2 (h₂.new k hk).1
  new := by
    intro j hj
    rcases List.mem_append.1 hj with hj | hj
    · exact ⟨(h₁.new j hj).1, Int.le_trans (h₁.new j hj).2 h₂.last_le⟩
    · exact ⟨Int.lt_of_le_of_lt h₁.last_le (h₂.new j hj).1, (h₂.new j hj).2⟩
  last_le := Int.le_trans h₁.last_le h₂.last_le

theorem Queues.queued {jobs : List QueuedJob} (h : Queues s s' jobs) (hs : s.Queued) :
    s'.Queued where
  jobs_ascend := by
    rw [h.outbox_eq]
    refine List.pairwise_append.2 ⟨hs.jobs_ascend, h.ascend, fun j hj k hk => ?_⟩
    exact Int.lt_of_le_of_lt (hs.job_le j hj) (h.new k hk).1
  job_le := by
    intro j hj
    rw [h.outbox_eq] at hj
    rcases List.mem_append.1 hj with hj | hj
    · exact Int.le_trans (hs.job_le j hj) h.last_le
    · exact (h.new j hj).2

end Store

open Store

/-- No call takes a job away or puts one before those that wait. -/
theorem Call.queues_of_perform {c : Call} {s s' : Store} {a : c.Answer}
    (hok : c.perform s = .ok (a, s')) : ∃ jobs, Queues s s' jobs := by
  cases c with
  | enqueueJob topic payload =>
    cases hok
    exact ⟨_, queues_enqueueJob s topic payload⟩
  | createScene draft =>
    obtain ⟨-, -, -, rfl⟩ := createScene_eq_ok hok
    exact ⟨[], queues_nil rfl rfl⟩
  | createTile draft =>
    obtain ⟨_, _, -, -, hinsert⟩ := createTile_eq_ok hok
    obtain ⟨-, -, -, rfl⟩ := insertTile_eq_ok hinsert
    exact ⟨[], queues_nil rfl rfl⟩
  | unblockNextTiles id | unblockSceneTiles id | unblockSceneRootTiles id =>
    obtain ⟨-, -, rfl⟩ := release_eq_ok.1 hok
    exact ⟨[], queues_nil rfl rfl⟩
  | reparentNextTiles old new =>
    obtain ⟨-, -, rfl⟩ := reparentNextTiles_eq_ok.1 hok
    exact ⟨[], queues_nil rfl rfl⟩
  | updateScene id update =>
    obtain ⟨_, hok, heq⟩ := map_eq_ok.1 hok
    obtain ⟨-, rfl⟩ := updateScene_eq_ok.1 hok
    cases heq
    exact ⟨[], queues_nil rfl rfl⟩
  | updateSceneAttrs id attrs =>
    obtain ⟨_, hok, heq⟩ := map_eq_ok.1 hok
    obtain ⟨-, rfl⟩ := replaceSceneAttrs_eq_ok.1 hok
    cases heq
    exact ⟨[], queues_nil rfl rfl⟩
  | updateTile id update =>
    obtain ⟨_, hok, heq⟩ := map_eq_ok.1 hok
    obtain ⟨-, rfl⟩ := updateTile_eq_ok.1 hok
    cases heq
    exact ⟨[], queues_nil rfl rfl⟩
  | updateTileAttrs id attrs =>
    obtain ⟨_, hok, heq⟩ := map_eq_ok.1 hok
    obtain ⟨-, rfl⟩ := replaceTileAttrs_eq_ok.1 hok
    cases heq
    exact ⟨[], queues_nil rfl rfl⟩
  | reassignReference old new =>
    obtain ⟨_, hok, heq⟩ := map_eq_ok.1 hok
    cases heq
    by_cases hne : old = new
    · subst hne
      rw [reassignReference_self] at hok
      cases hok
      exact ⟨[], queues_nil rfl rfl⟩
    · obtain ⟨-, rfl⟩ := (reassignReference_eq_ok hne).1 hok
      exact ⟨[], queues_nil rfl rfl⟩
  | refreshAoiStatus aoi =>
    cases hok
    split <;> exact ⟨[], queues_nil rfl rfl⟩
  | setTilesStatus ids status | sceneId aoi sourceId =>
    cases hok
    exact ⟨[], queues_nil rfl rfl⟩
  | aoi name | scene id | tile id | sceneTiles scene | referencingTiles reference =>
    obtain ⟨_, _, heq⟩ := map_eq_ok.1 hok
    cases heq
    exact ⟨[], queues_nil rfl rfl⟩

theorem Work.queues_of_exec {α : Type} {w : Work α} {s s' : Store} {a : α}
    (hok : w.exec s = .ok (a, s')) : ∃ jobs, Queues s s' jobs := by
  refine exec_relates (R := fun s s' => ∃ jobs, Queues s s' jobs) (P := fun _ => True)
    (fun _ => ⟨[], queues_nil rfl rfl⟩) ?_ ?_ ?_ hok
  · rintro s₁ s₂ s₃ ⟨js, hjs⟩ ⟨ks, hks⟩
    exact ⟨js ++ ks, hjs.trans hks⟩
  · exact fun c s a s' _ hc => Call.queues_of_perform hc
  · exact Program.uses_true w

theorem Work.queued_of_exec {α : Type} {w : Work α} {s s' : Store} {a : α}
    (hok : w.exec s = .ok (a, s')) (h : s.Queued) : s'.Queued := by
  obtain ⟨_, hqueues⟩ := queues_of_exec hok
  exact hqueues.queued h

end SceneWorkflow
