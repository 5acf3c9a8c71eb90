import SceneWorkflow.Proofs.Engine.Comparisons

/-!
# Jobs and the committed graph

The job of a tile names the tiles that its tile is linked to in the store that is
committed. The one exception is a reference that fails after the job was queued and
is given up, as only the failure of a whole scene can bring it about.
-/
namespace SceneWorkflow
open Store

/-- Of the jobs that a unit of work adds, each one of a tile describes a tile that has started, and
names the tile it follows. It names the tile it is compared with unless the tile that it names has
been given up. If that tile has failed at all then the two are stranded, or it was given up while a
scene failed. -/
theorem Reachable.tileJobs_linked {σ : Type} {w : World σ} {s : Store} (h : Reachable s)
    {operation : String} {task : Task} (htask : task.isForced = false) {a : task.Answer} {d : Draft}
    (hrun : (Draft.run operation task.body s w).1 = .ok (a, d)) :
    ∃ js, d.store.outbox = s.outbox ++ js ∧ ∀ j ∈ js, j.topic = .tileJobs →
      ∃ (job : TileJob) (t : Tile), j.payload = job.toJson.print ∧
        d.store.tile? job.tile.id = some t ∧ t.status = .pending ∧
        d.store.tileRef? t.id = some job.tile ∧
        t.previous.map d.store.tileRef? = job.previous.map some ∧
        (∀ p, job.previous = some p → d.store.tileStatus? p.id = some .done) ∧
        (t.reference.map d.store.tileRef? = job.reference.map some ↔
          ¬ GivenUp d.store (job.reference.map (·.id))) ∧
        ∀ r, job.reference = some r → d.store.tileStatus? r.id = some .failed →
          d.store.Stranded job.tile.id r.id ∨
            GivenUp d.store (some r.id) ∧ task.failsScene ∧ s.tileStatus? r.id ≠ some .failed := by
  have hexec := (Draft.follows_interpret (w := w) operation task.body { store := s }).ok _ hrun
  have hbody := (task.faithful s).exec_of_ok hexec
  obtain ⟨hsound, ⟨failing, hhanded⟩, js, hout, hjs⟩ := task.advances htask h.sound hbody
  refine ⟨js, hout, fun j hj htopic => ?_⟩
  obtain ⟨job, hpayload, t, ht, hpending, hself, hprevious, hreference⟩ := hjs j hj htopic
  have hmem := mem_of_tile? ht
  have hlive : t.status ≠ .failed := by simp [hpending]
  have hexists := hsound.reference_exists t hmem
  have hlink (hsame : job.reference = t.reference.bind d.store.tileRef?) :
      job.reference.map (·.id) = t.reference := by
    rw [hsame]
    exact hsound.toSchema.map_id_tileRef? hexists
  have hkept (hsame : job.reference = t.reference.bind d.store.tileRef?) :
      ¬ GivenUp d.store (job.reference.map (·.id)) := by
    rw [hlink hsame]
    exact hsound.not_givenUp hmem hlive List.not_mem_nil
  refine ⟨job, t, hpayload, ht, hpending, hself, ?_, ?_, ?_, ?_⟩
  · rw [hprevious]
    exact hsound.toSchema.map_tileRef? (hsound.previous_exists t hmem)
  · intro p hp
    rw [hp] at hprevious
    obtain ⟨k, hk, hpk⟩ := Option.bind_eq_some_iff.1 hprevious.symm
    rw [tileRef?_id hpk]
    exact hsound.previous_done hmem (by rw [hpending]; rfl) hk
  · rw [hsound.toSchema.map_tileRef? hexists, Option.map_inj_right fun _ _ => Option.some.inj]
    constructor
    · exact fun hsame => hkept hsame.symm
    · intro hnot
      exact (hreference.resolve_right fun hlate => hnot hlate.2.1).symm
  · intro r hr hfailed
    rcases hreference with hsame | ⟨hlate, hup, hnot⟩
    · refine .inl ⟨t, ht, hlive, ?_, hfailed⟩
      rw [← hlink hsame, hr]
      rfl
    · rw [hr] at hup hnot
      exact .inr ⟨hup, hlate, fun hbefore => hnot (hhanded.givenUp_of_failed hup hbefore)⟩

/-- A scene waits to be downloaded. The one tile of another scene follows its first tile and is
compared with its second. -/
def comparedAcross : World Recorder :=
  World.after { sink := {} }
    [.createAoi "north",
      .ingestScene "north" (.ofTiles "north" "s1" [("a", {}), ("b", {})]),
      .ingestScene "north" (.ofTiles "north" "s2"
        [("c", { previous := some ⟨"s1", "a"⟩, reference := some ⟨"s1", "b"⟩ })]),
      .updateStatus .scene 2 .done none false]

theorem tileJobs_linked_comparedAcross :
    Reachable comparedAcross.store ∧ (Task.changeScene 1 .failed none false).isForced = false ∧
      ∃ r, (Draft.run "update_scene_status" (Task.changeScene 1 .failed none false).body
          comparedAcross.store comparedAcross).1 = .ok r ∧
        ∃ j ∈ r.2.store.outbox, j.topic = .tileJobs ∧ ∃ (job : TileJob) (t : Tile),
          j.payload = job.toJson.print ∧ r.2.store.tile? job.tile.id = some t ∧
            t.status = .pending ∧ t.previous.map r.2.store.tileRef? = job.previous.map some := by
  have hreach : Reachable comparedAcross.store := Reachable.empty.after (by decide)
  have hquiet : comparedAcross.store.outbox = [] := by decide +kernel
  have hdecided : (Draft.run "update_scene_status" (Task.changeScene 1 .failed none false).body
      comparedAcross.store comparedAcross).1.toOption.any
        (fun r => r.2.store.outbox.any (·.topic == .tileJobs)) = true := by
    decide +kernel
  obtain ⟨r, hr, hqueued⟩ := (Option.any_eq_true _ _).1 hdecided
  obtain ⟨j, hj, htopic⟩ := List.any_eq_true.1 hqueued
  have hrun := toOption_eq_some.1 hr
  obtain ⟨js, hout, hjs⟩ := hreach.tileJobs_linked rfl hrun
  rw [hquiet, List.nil_append] at hout
  obtain ⟨job, t, hpayload, ht, hpending, -, hprevious, -⟩ := hjs j (hout ▸ hj) (eq_of_beq htopic)
  exact ⟨hreach, rfl, r, hrun, j, hj, eq_of_beq htopic, job, t, hpayload, ht, hpending, hprevious⟩

set_option maxRecDepth 10000 in
/-- Not every job that a unit of work adds is that of a tile as the store has it then. -/
theorem job_may_differ_from_tile :
    ¬ ∀ s, Reachable s → ∀ task : Task, task.isForced = false → ∀ (w : World Recorder) a d,
      (Draft.run "update_scene_status" task.body s w).1 = .ok (a, d) →
        ∀ j ∈ d.store.outbox, j ∉ s.outbox → j.topic = .tileJobs →
          ∃ t ∈ d.store.tiles, ∃ job, d.store.jobOf? t = some job ∧
            j.payload = job.toJson.print := by
  intro hall
  have hreach : Reachable comparedAcross.store := Reachable.empty.after (by decide)
  have hquiet : comparedAcross.store.outbox = [] := by decide +kernel
  have hdecided : (Draft.run "update_scene_status" (Task.changeScene 1 .failed none false).body
      comparedAcross.store comparedAcross).1.toOption.any
        (fun r => r.2.store.outbox.any fun j => j.topic == .tileJobs &&
          r.2.store.tiles.all fun t => (r.2.store.jobOf? t).all (·.toJson.print != j.payload)) =
      true := by
    decide +kernel
  obtain ⟨⟨a, d⟩, hr, hqueued⟩ := (Option.any_eq_true _ _).1 hdecided
  obtain ⟨j, hj, hdiffers⟩ := List.any_eq_true.1 hqueued
  obtain ⟨htopic, htiles⟩ := Bool.and_eq_true_iff.1 hdiffers
  have hfresh : j ∉ comparedAcross.store.outbox := hquiet ▸ List.not_mem_nil
  obtain ⟨t, ht, job, hjob, hpayload⟩ := hall _ hreach _ rfl comparedAcross a d
    (toOption_eq_some.1 hr) j hj hfresh (eq_of_beq htopic)
  have hother := List.all_eq_true.1 htiles t ht
  rw [hjob, Option.all_some, bne_iff_ne] at hother
  exact hother hpayload.symm

end SceneWorkflow
