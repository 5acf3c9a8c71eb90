import SceneWorkflow.Proofs.Store.Changes
import SceneWorkflow.Proofs.Work.Laws

/-!
# Jobs that wait

No body of a unit of work looks at the jobs that wait. Stores that differ in nothing
else are changed in the same way, and the same jobs are queued.
-/
namespace SceneWorkflow
namespace Store
variable (waiting : List QueuedJob) (s : Store)

def behind : Store := { s with outbox := waiting ++ s.outbox }

def tables : Store := { s with outbox := [] }

theorem behind_tables : s.tables.behind s.outbox = s := by
  rw [behind, tables, List.append_nil]

/-! ### Writing behind them -/

theorem createAoi_behind (name : String) :
    (s.behind waiting).createAoi name = (s.createAoi name).map (behind waiting) := by
  unfold createAoi
  rw [apply_ite (Except.map _)]
  rfl

theorem createAoi_eq (name : String) :
    s.createAoi name = (s.tables.createAoi name).map (behind s.outbox) := by
  rw [← createAoi_behind, behind_tables]

theorem createScene_behind (d : SceneDraft) :
    (s.behind waiting).createScene d =
      (s.createScene d).map fun r => (r.1, r.2.behind waiting) := by
  unfold createScene
  rw [apply_ite (Except.map _), apply_ite (Except.map _)]
  rfl

theorem insertTile_behind (d : TileDraft) (previous reference : Option Int) :
    (s.behind waiting).insertTile d previous reference =
      (s.insertTile d previous reference).map fun r => (r.1, r.2.behind waiting) := by
  unfold insertTile
  rw [apply_ite (Except.map _), apply_ite (Except.map _)]
  rfl

theorem createTile_behind (d : TileDraft) :
    (s.behind waiting).createTile d =
      (s.createTile d).map fun r => (r.1, r.2.behind waiting) := by
  show (s.resolve d.aoi "previous" d.previous).bind (fun previous =>
      (s.resolve d.aoi "reference" d.reference).bind fun reference =>
        (s.behind waiting).insertTile d previous reference) =
    ((s.resolve d.aoi "previous" d.previous).bind fun previous =>
      (s.resolve d.aoi "reference" d.reference).bind fun reference =>
        s.insertTile d previous reference).map _
  cases s.resolve d.aoi "previous" d.previous with
  | error e => rfl
  | ok previous =>
    cases s.resolve d.aoi "reference" d.reference with
    | error e => rfl
    | ok reference => exact insertTile_behind waiting s d previous reference

theorem release_behind (operation : String) (p : Tile → Bool) :
    (s.behind waiting).release operation p =
      (s.release operation p).map fun r => (r.1, r.2.behind waiting) := by
  show (readTiles operation ((s.tiles.filter p).map fun t => { t with status := .pending })).bind _ =
    ((readTiles operation ((s.tiles.filter p).map fun t => { t with status := .pending })).bind
      _).map _
  cases readTiles operation ((s.tiles.filter p).map fun t => { t with status := .pending }) <;> rfl

theorem reparentNextTiles_behind (old : Int) (new : Option Int) :
    (s.behind waiting).reparentNextTiles old new =
      (s.reparentNextTiles old new).map fun r => (r.1, r.2.behind waiting) := by
  unfold reparentNextTiles
  dsimp only
  rw [apply_ite (Except.map _)]
  rfl

theorem reassignReference_behind (old new : Int) :
    (s.behind waiting).reassignReference old new =
      (s.reassignReference old new).map (behind waiting) := by
  unfold reassignReference
  dsimp only
  rw [apply_ite (Except.map _), apply_ite (Except.map _)]
  rfl

theorem refreshAoiStatus_behind (aoi : String) :
    (s.behind waiting).refreshAoiStatus aoi =
      ((s.refreshAoiStatus aoi).1, (s.refreshAoiStatus aoi).2.behind waiting) := by
  show (s.aggregate aoi, _) = (s.aggregate aoi, _)
  unfold refreshAoiStatus
  dsimp only
  rw [apply_ite (behind waiting)]
  rfl

theorem enqueueJob_behind (topic : Topic) (payload : String) :
    (s.behind waiting).enqueueJob topic payload = (s.enqueueJob topic payload).behind waiting := by
  simp [enqueueJob, behind]

end Store

open Store

section
variable {waiting : List QueuedJob} {s : Store}

theorem read_behind {α : Type} (result : Except Error α) :
    (result.map (·, s.behind waiting)) =
      (result.map (·, s)).map fun r => (r.1, r.2.behind waiting) := by
  cases result <;> rfl

theorem write_behind (f : Store → Except Error Store)
    (h : f (s.behind waiting) = (f s).map (behind waiting)) :
    (f (s.behind waiting)).map (fun s => ((), s)) =
      ((f s).map fun s => ((), s)).map fun r => (r.1, r.2.behind waiting) := by
  rw [h]
  cases f s <;> rfl

end

/-- A call does the same whatever waits. -/
theorem Call.perform_behind (c : Call) (waiting : List QueuedJob) (s : Store) :
    c.perform (s.behind waiting) = (c.perform s).map fun r => (r.1, r.2.behind waiting) := by
  cases c with
  | aoi name => exact read_behind (s.getAoi name)
  | scene id => exact read_behind (s.getScene id)
  | tile id => exact read_behind (s.getTile id)
  | sceneTiles id => exact read_behind (s.sceneTiles id)
  | referencingTiles id => exact read_behind (s.referencingTiles id)
  | sceneId aoi name => rfl
  | createScene draft => exact createScene_behind waiting s draft
  | createTile draft => exact createTile_behind waiting s draft
  | updateScene id u =>
    refine write_behind (·.updateScene id u) ?_
    unfold Store.updateScene
    rw [apply_ite (Except.map _)]
    rfl
  | updateSceneAttrs id attrs =>
    refine write_behind (·.replaceSceneAttrs id attrs) ?_
    unfold Store.replaceSceneAttrs
    rw [apply_ite (Except.map _)]
    rfl
  | updateTile id u =>
    refine write_behind (·.updateTile id u) ?_
    unfold Store.updateTile
    rw [apply_ite (Except.map _)]
    rfl
  | updateTileAttrs id attrs =>
    refine write_behind (·.replaceTileAttrs id attrs) ?_
    unfold Store.replaceTileAttrs
    rw [apply_ite (Except.map _)]
    rfl
  | setTilesStatus ids status => rfl
  | unblockNextTiles id | unblockSceneTiles id | unblockSceneRootTiles id =>
    exact release_behind waiting s _ _
  | reparentNextTiles old new => exact reparentNextTiles_behind waiting s old new
  | reassignReference old new =>
    exact write_behind (·.reassignReference old new) (reassignReference_behind waiting s old new)
  | refreshAoiStatus aoi => exact congrArg Except.ok (refreshAoiStatus_behind waiting s aoi)
  | enqueueJob topic payload =>
    exact congrArg (fun s => Except.ok ((), s)) (enqueueJob_behind waiting s topic payload)

namespace Work
variable {α : Type}

theorem exec_behind (w : Work α) (waiting : List QueuedJob) (s : Store) :
    w.exec (s.behind waiting) = (w.exec s).map fun r => (r.1, r.2.behind waiting) := by
  induction w generalizing s with
  | done a => rfl
  | step i next ih =>
    have hstep : execInstruction i (s.behind waiting) =
        (execInstruction i s).map fun r => (r.1, r.2.behind waiting) := by
      cases i with
      | call c => exact c.perform_behind waiting s
      | fail e => rfl
      | known scene =>
        show (s.getScene scene).map _ = ((s.getScene scene).map _).map _
        cases s.getScene scene <;> rfl
      | remember note => rfl
    show (execInstruction i (s.behind waiting)).bind (fun r => exec (next r.1) r.2) =
      ((execInstruction i s).bind fun r => exec (next r.1) r.2).map _
    rw [hstep]
    cases execInstruction i s with
    | error e => rfl
    | ok r => exact ih r.1 r.2

def jobs (w : Work α) (s : Store) : List QueuedJob :=
  match w.exec s.tables with
  | .ok r => r.2.outbox
  | .error _ => []

theorem exec_eq (w : Work α) (s : Store) :
    w.exec s = (w.exec s.tables).map fun r => (r.1, r.2.behind s.outbox) := by
  rw [← exec_behind, behind_tables]

variable {w : Work α} {s s' t : Store} {a : α}

/-- What a body queues comes behind the jobs that wait. -/
theorem outbox_of_exec (h : w.exec s = .ok (a, s')) : s'.outbox = s.outbox ++ w.jobs s := by
  rw [exec_eq] at h
  obtain ⟨r, hr, heq⟩ := map_eq_ok.1 h
  cases heq
  rw [jobs, hr]
  rfl

/-- On stores that differ in nothing but the jobs that wait, a body does the same. -/
theorem exec_of_tables (h : w.exec s = .ok (a, s')) (htables : t.tables = s.tables) :
    ∃ t', w.exec t = .ok (a, t') ∧ t'.tables = s'.tables ∧ w.jobs t = w.jobs s := by
  rw [exec_eq] at h
  obtain ⟨r, hr, heq⟩ := map_eq_ok.1 h
  cases heq
  refine ⟨r.2.behind t.outbox, ?_, rfl, by rw [jobs, htables, jobs]⟩
  rw [exec_eq, htables, hr]
  rfl

theorem map_exec_of_tables (w : Work α) (htables : t.tables = s.tables) :
    (w.exec t).map (fun r => r.1) = (w.exec s).map fun r => r.1 := by
  rw [w.exec_eq t, w.exec_eq s, htables]
  cases w.exec s.tables <;> rfl

end Work

end SceneWorkflow
