import SceneWorkflow.Proofs.Engine.Admissions
import SceneWorkflow.Proofs.UnitOfWork.Failures

/-!
# Scenes that an area holds

A request for a scene that its area holds already is refused as such and changes
nothing, and no other request is refused so. What is held stays held.
-/
namespace SceneWorkflow
open Store Operation

/-! ### What is there already -/

/-- Whatever the store, the instruction does not fail because something is there already. -/
def Instruction.FindsRoom (i : Instruction) : Prop :=
  ∀ s e, Work.execInstruction i s = .error e → e.isAlreadyExists = false

theorem Work.not_isAlreadyExists_of_exec {α : Type} {body : Work α} {s : Store} {e : Error}
    (hbody : body.Uses Instruction.FindsRoom) (hfails : body.exec s = .error e) :
    e.isAlreadyExists = false := by
  induction body generalizing s with
  | done a => cases hfails
  | step i next ih =>
    have hstep : (execInstruction i s).bind (fun r => exec (next r.1) r.2) = .error e := hfails
    cases hfirst : execInstruction i s with
    | error e' =>
      rw [hfirst] at hstep
      cases hstep
      exact hbody.1 s e hfirst
    | ok r =>
      rw [hfirst] at hstep
      exact ih r.1 (hbody.2 r.1) hstep

namespace Ingestion
open Program
variable {s s' : Store} {r : SceneRequest} {e : Error}

theorem findsRoom_createScene (d : SceneDraft) :
    Instruction.FindsRoom (.call (.createScene d)) := by
  intro s e hfails
  change s.createScene d = .error e at hfails
  unfold createScene at hfails
  split at hfails
  · cases hfails
    rfl
  · split at hfails
    · cases hfails
    · cases hfails
      rfl

theorem findsRoom_createTile (d : TileDraft) : Instruction.FindsRoom (.call (.createTile d)) := by
  have hresolve (s : Store) (field : String) (link : Option TileLink) {e : Error}
      (hfails : s.resolve d.aoi field link = .error e) : e.isAlreadyExists = false := by
    unfold resolve at hfails
    split at hfails
    · cases hfails
    · split at hfails
      · cases hfails
        rfl
      · split at hfails
        · cases hfails
          rfl
        · cases hfails
  intro s e hfails
  change (s.resolve d.aoi "previous" d.previous).bind (fun previous =>
    (s.resolve d.aoi "reference" d.reference).bind fun reference =>
      s.insertTile d previous reference) = .error e at hfails
  cases hprevious : s.resolve d.aoi "previous" d.previous with
  | error e' =>
    rw [hprevious] at hfails
    cases hfails
    exact hresolve s _ _ hprevious
  | ok previous =>
    rw [hprevious] at hfails
    cases hreference : s.resolve d.aoi "reference" d.reference with
    | error e' =>
      rw [hreference] at hfails
      cases hfails
      exact hresolve s _ _ hreference
    | ok reference =>
      rw [hreference] at hfails
      change s.insertTile d previous reference = .error e at hfails
      unfold insertTile at hfails
      split at hfails
      · cases hfails
        rfl
      · split at hfails
        · cases hfails
        · cases hfails
          rfl

theorem findsRoom_scene (id : Int) : Instruction.FindsRoom (.call (.scene id)) := by
  intro s e hfails
  change (s.getScene id).map (·, s) = .error e at hfails
  unfold getScene at hfails
  split at hfails
  · split at hfails
    · cases hfails
    · cases hfails
      rfl
  · cases hfails
    rfl

theorem findsRoom_storeScene (r : SceneRequest) : (storeScene r).Uses Instruction.FindsRoom := by
  refine uses_bind (uses_perform (findsRoom_createScene _)) fun scene => ?_
  refine uses_bind (uses_createTiles (fun d _ _ => findsRoom_createTile d) ?_ _ _) fun _ => ?_
  · intro field message s e hfails
    cases hfails
    rfl
  refine uses_bind (uses_perform (findsRoom_scene scene)) fun stored => ?_
  refine uses_bind (uses_perform (i := Instruction.call (.enqueueJob .sceneJobs _)) nofun)
    fun _ => ?_
  exact uses_bind (uses_perform nofun) fun _ => uses_pure _ _

/-- Taking up a scene first looks for its area and then for its name. -/
theorem exec_insertScene {status : Status} (haoi : s.aois.find? r.aoi = some status) :
    (insertScene r).exec s =
      match s.sceneId? r.aoi r.sourceId with
      | some _ => .error (.alreadyExists "scene" r.sourceId)
      | none => (storeScene r).exec s := by
  unfold insertScene
  rw [Work.exec_bind_ok (exec_aoi haoi), Work.exec_bind_ok (exec_sceneId s r.aoi r.sourceId)]
  cases s.sceneId? r.aoi r.sourceId <;> rfl

/-- A request is refused as one for something that is there already only if its scene is. -/
theorem holds_of_isAlreadyExists (hfails : (insertScene r).exec s = .error e)
    (he : e.isAlreadyExists = true) : (s.sceneId? r.aoi r.sourceId).isSome := by
  cases haoi : s.aois.find? r.aoi with
  | none =>
    have hnone : (Work.aoi r.aoi).exec s = .error (.aoiNotFound r.aoi) := by
      refine (Work.exec_call (.aoi r.aoi) s).trans ?_
      show (s.getAoi r.aoi).map _ = _
      rw [getAoi, haoi]
      rfl
    unfold insertScene at hfails
    rw [Work.exec_bind, hnone] at hfails
    cases hfails
    cases he
  | some status =>
    rw [exec_insertScene haoi] at hfails
    cases hholds : s.sceneId? r.aoi r.sourceId with
    | some id => rfl
    | none =>
      rw [hholds] at hfails
      have hroom := Work.not_isAlreadyExists_of_exec (findsRoom_storeScene r) hfails
      cases hroom.symm.trans he

theorem exec_insertScene_of_holds (hs : s.Schema)
    (hholds : (s.sceneId? r.aoi r.sourceId).isSome) :
    (insertScene r).exec s = .error (.alreadyExists "scene" r.sourceId) := by
  obtain ⟨id, hid⟩ := Option.isSome_iff_exists.1 hholds
  obtain ⟨x, hx, -⟩ := Option.map_eq_some_iff.1 hid
  have haoi : x.aoi = r.aoi := by
    have hfound := List.find?_some hx
    exact eq_of_beq (Bool.and_eq_true_iff.1 hfound).1
  have hexists := hs.aoi_exists x (List.mem_of_find?_eq_some hx)
  rw [haoi, KeyMap.contains_eq_isSome] at hexists
  obtain ⟨status, hstatus⟩ := Option.isSome_iff_exists.1 hexists
  rw [exec_insertScene hstatus, hid]

end Ingestion

/-! ### What an area holds -/

namespace Store
variable {s s' : Store} {aoi name : String}

def holds (s : Store) (aoi name : String) : Bool := (s.sceneId? aoi name).isSome

theorem holds_iff : s.holds aoi name = true ↔ ∃ x ∈ s.scenes, x.aoi = aoi ∧ x.sourceId = name := by
  rw [holds, Option.isSome_iff_ne_none, Ne, sceneId?_eq_none]
  simp

theorem Retains.holds (h : Retains s s') (hholds : s.holds aoi name = true) :
    s'.holds aoi name = true := by
  obtain ⟨x, hx, haoi, hname⟩ := holds_iff.1 hholds
  obtain ⟨y, hy, hsame⟩ := List.mem_map.1 (h.scenes.subset (List.mem_map_of_mem hx))
  obtain ⟨-, hplace⟩ := Prod.mk.inj hsame
  obtain ⟨haoi', hname'⟩ := Prod.mk.inj hplace
  exact holds_iff.2 ⟨y, hy, haoi'.trans haoi, hname'.trans hname⟩

theorem TakesUp.holds_eq {r : SceneRequest} {id : Int} (h : s.TakesUp r id s') (name : String) :
    s'.holds r.aoi name = (s.holds r.aoi name || r.sourceId == name) := by
  rw [Bool.eq_iff_iff, holds_iff, h.scenes, Bool.or_eq_true, holds_iff, beq_iff_eq]
  simp [or_and_right, exists_or]

/-- The names in a batch that the area does not hold yet, in the order in which they first occur. -/
def newNames (s : Store) (aoi : String) (rs : List SceneRequest) : List String :=
  ((rs.map (·.sourceId)).filter fun name => !s.holds aoi name).eraseDups

variable {r : SceneRequest} {rs : List SceneRequest}

theorem not_holds_of_mem_newNames (h : name ∈ s.newNames aoi rs) : s.holds aoi name = false := by
  have hmem := List.mem_eraseDups.1 h
  simpa using (List.mem_filter.1 hmem).2

theorem newNames_cons_of_holds (h : s.holds aoi r.sourceId = true) :
    s.newNames aoi (r :: rs) = s.newNames aoi rs := by
  rw [newNames, List.map_cons, List.filter_cons_of_neg (by simp [h]), newNames]

/-- Once the first of the new names is held, the others are still new. -/
theorem newNames_cons_of_new (h : s.holds aoi r.sourceId = false)
    (hheld : ∀ name, s'.holds aoi name = (s.holds aoi name || r.sourceId == name)) :
    s.newNames aoi (r :: rs) = r.sourceId :: s'.newNames aoi rs := by
  rw [newNames, List.map_cons, List.filter_cons_of_pos (by simp [h]), List.eraseDups_cons,
    List.filter_filter, newNames]
  congr 2
  refine List.filter_congr fun name _ => ?_
  rw [hheld, Bool.not_or, Bool.and_comm, BEq.comm]

end Store

/-! ### One request -/

theorem SceneRequest.not_isAlreadyExists_of_validate {r : SceneRequest} {aoi : String} {e : Error}
    (hfails : r.validate aoi = .error e) : e.isAlreadyExists = false := by
  unfold validate at hfails
  repeat' split at hfails
  all_goals cases hfails
  all_goals rfl

section
variable {σ : Type} [Sink σ] {w : World σ} {aoi : String} {r : SceneRequest}

theorem Task.exec_of_error {task : Task} {operation : String} {e : Error}
    (hfails : (transact operation task.body w).1 = .error e) :
    task.body.exec w.store = .error e ∨ e.FromOutside := by
  refine (failsAs_transact operation task.body e hfails).imp_left fun hbody => ?_
  rw [(task.faithful w.store).map_exec] at hbody
  exact map_eq_error.1 hbody

theorem ingestScene_of_valid (hvalid : r.validate aoi = .ok ()) (w : World σ) :
    ingestScene aoi r w = transact "ingest_scene" (Task.ingest r).body w := by
  show (give (r.validate aoi) >>= fun _ => transact "ingest_scene" (Task.ingest r).body) w = _
  rw [hvalid]
  rfl

/-- A request is carried through and its scene is new, or nothing has happened. It is said to be
there already only if it is. -/
theorem ingestScene_cases (h : Attainable w.store) (aoi : String) (r : SceneRequest) :
    (∃ id committed, (ingestScene aoi r w).1 = .ok id ∧ r.validate aoi = .ok () ∧
      w.store.holds aoi r.sourceId = false ∧ w.store.TakesUp r id committed ∧
      Commits w committed (ingestScene aoi r w).2) ∨
    ∃ e, (ingestScene aoi r w).1 = .error e ∧ (ingestScene aoi r w).2.store = w.store ∧
      (ingestScene aoi r w).2.sink = w.sink ∧
      (e.isAlreadyExists = true → r.validate aoi = .ok () ∧
        w.store.holds aoi r.sourceId = true) := by
  cases hresult : (ingestScene aoi r w).1 with
  | ok id =>
    obtain ⟨hvalid, htransact⟩ := ingestScene_eq_ok.1 hresult
    obtain ⟨committed, hexec, hcommits⟩ := Task.commits h.queued htransact
    obtain ⟨-, hnew, -, -, htakes⟩ :=
      Ingestion.insertScene_cases h.forest.toSchema h.named hexec
    obtain rfl := (SceneRequest.validate_eq_ok.1 hvalid).1
    rw [ingestScene_of_valid hvalid]
    refine .inl ⟨id, committed, rfl, hvalid, ?_, htakes, hcommits⟩
    rw [holds, sceneId?_eq_none.2 hnew]
    rfl
  | error e =>
    obtain ⟨hstore, hsink⟩ := (all_or_nothing_ingestScene h.queued aoi r).nothing e hresult
    refine .inr ⟨e, rfl, hstore, hsink, fun he => ?_⟩
    cases hvalid : r.validate aoi with
    | error e' =>
      have hrefused : ingestScene aoi r w = (.error e', w) := by
        show (give (r.validate aoi) >>= fun _ => transact "ingest_scene" (Task.ingest r).body) w = _
        rw [hvalid]
        rfl
      rw [hrefused] at hresult
      cases hresult
      cases (SceneRequest.not_isAlreadyExists_of_validate hvalid).symm.trans he
    | ok _ =>
      refine ⟨rfl, ?_⟩
      obtain rfl := (SceneRequest.validate_eq_ok.1 hvalid).1
      rw [ingestScene_of_valid hvalid] at hresult
      rcases Task.exec_of_error hresult with hbody | ⟨m, rfl⟩ | ⟨operation, rfl⟩
      · exact Ingestion.holds_of_isAlreadyExists hbody he
      · cases he
      · cases he

/-- A request for a scene that is held changes nothing, and undisturbed it is said to be there. -/
theorem ingestScene_of_holds (h : Attainable w.store) (hvalid : r.validate aoi = .ok ())
    (hholds : w.store.holds aoi r.sourceId = true) :
    ∃ e, (ingestScene aoi r w).1 = .error e ∧ (ingestScene aoi r w).2.store = w.store ∧
      (ingestScene aoi r w).2.sink = w.sink ∧ (w.Calm → e.isAlreadyExists = true) := by
  rcases ingestScene_cases h aoi r with
    ⟨id, committed, -, -, hnew, -⟩ | ⟨e, herror, hstore, hsink, -⟩
  · cases hnew.symm.trans hholds
  · refine ⟨e, herror, hstore, hsink, fun hw => ?_⟩
    obtain rfl := (SceneRequest.validate_eq_ok.1 hvalid).1
    rw [ingestScene_of_valid hvalid, transact_of_calm _ _ hw,
      ((Task.ingest r).faithful w.store).map_exec] at herror
    have hexec := Ingestion.exec_insertScene_of_holds h.forest.toSchema hholds
    cases hexec.symm.trans (map_eq_error.1 herror)
    rfl

end

end SceneWorkflow
