import SceneWorkflow.Proofs.Engine.Publishers
import SceneWorkflow.Proofs.Store.Statements

/-!
# Direct use of a store

A store may be used without the workflow, by any calls and by units of work of any calls
and any ending, whatever of it is refused. However it is used, its schema holds and
names are unique, no row that was committed is lost, and a new job has an id above all that
were ever committed. A call that fails leaves its unit of work as it was, and a unit of work
that is not committed leaves the store as it was.
-/
namespace SceneWorkflow
open Operation
variable {σ : Type}

/-- Makes a call on the rows of an open unit of work by its statements, and gives its answer and the
rows that it leaves. A call that is refused is not made. -/
def Call.make (c : Call) (rows : Store) : Operation σ (Except Error c.Answer × Store) := fun w =>
  let (fault, faults) := w.faults.next (.within c.kind)
  if fault = some .refuse then
    (.ok (.error (Method.within c.kind).refusal, rows), { w with faults })
  else
    (.ok (c.script rows),
      { w with faults, cancelled := w.cancelled || fault == some .cancel })

def Call.makeAll : List Call → Store → Operation σ Store
  | [], rows => pure rows
  | c :: rest, rows => do
    let (_, rows) ← c.make rows
    makeAll rest rows

/-- The same on the draft of a unit of work, which stays as it is if the call fails. -/
def Call.onDraft (operation : String) (c : Call) (draft : Draft) :
    Operation σ (Except Error c.Answer × Store) := fun w =>
  match Draft.call operation c draft w with
  | (.ok (answer, draft), w') => (.ok (.ok answer, draft.store), w')
  | (.error e, w') => (.ok (.error e, draft.store), w')

inductive Ending where
  | commit
  | rollback
  | drop

def Ending.run (rows : Store) : Ending → Operation σ Unit
  | commit => invoke .commit fun _ => .ok ((), rows)
  | rollback => signal .rollback
  | drop => pure ()

def unitOfCalls (calls : List Call) (ending : Ending) : Operation σ Unit := do
  signal .begin
  let rows ← Call.makeAll calls (← get).store
  ending.run rows

inductive Use where
  | createAoi (name : String)
  | inquire (q : Inquiry)
  | pendingJobs (limit : Int)
  | ackJobs (ids : List Int)
  | work (calls : List Call) (ending : Ending)

def Use.run : Use → Operation σ Unit
  | createAoi name => invoke .createAoi fun s => (s.createAoi name).map ((), ·)
  | inquire q => tolerate q.perform
  | pendingJobs limit => tolerate (Query.pendingJobs limit)
  | ackJobs ids => Query.ackJobs ids
  | work calls ending => unitOfCalls calls ending

/-- The stores that come about from the empty one by direct use, with all the stores before, the last
one first. Each use may meet any disturbance. -/
inductive Used : List Store → Store → Prop where
  | empty : Used [] {}
  | run {past : List Store} {σ : Type} (u : Use) (w : World σ) (h : Used past w.store) :
      Used (w.store :: past) (u.run w).2.store

namespace Store
variable {p s s' s'' : Store} {jobs : List QueuedJob}

/-- A store in order: rows that are named exist, names are unique, and ids ascend. -/
structure Consistent (s : Store) : Prop extends Schema s, Named s, Queued s

structure Builds (s s' : Store) : Prop where
  consistent : s'.Consistent
  retains : Retains s s'
  queues : ∃ jobs, Queues s s' jobs

/-- A store still has the rows of an earlier one, and has given out its ids of jobs. -/
structure Outlives (p s : Store) : Prop where
  retains : Retains p s
  given : ∀ k ∈ p.outbox, k.id ≤ s.lastJob

theorem consistent_empty : Consistent {} := ⟨schema_empty, named_empty, queued_empty⟩

theorem Consistent.ackJobs (h : s.Consistent) (ids : List Int) : (s.ackJobs ids).Consistent :=
  ⟨h.toSchema.of_sameRows (sameRows_ackJobs s ids), ⟨h.scenes, h.tiles⟩, h.toQueued.ackJobs ids⟩

theorem Builds.refl (h : s.Consistent) : Builds s s :=
  ⟨h, .refl s, [], queues_nil rfl rfl⟩

theorem Builds.trans (h : Builds s s') (h' : Builds s' s'') : Builds s s'' := by
  obtain ⟨js, hjs⟩ := h.queues
  obtain ⟨ks, hks⟩ := h'.queues
  exact ⟨h'.consistent, h.retains.trans h'.retains, js ++ ks, hjs.trans hks⟩

theorem Builds.of_queues (h : s.Consistent) (hschema : s'.Schema) (hnamed : s'.Named)
    (hretains : Retains s s') (hqueues : Queues s s' jobs) : Builds s s' :=
  ⟨⟨hschema, hnamed, hqueues.queued h.toQueued⟩, hretains, jobs, hqueues⟩

theorem Builds.createAoi {name : String} (h : s.Consistent) (hok : s.createAoi name = .ok s') :
    Builds s s' := by
  have hsame := SameIdentities.of_sameRows (sameRows_createAoi hok)
  exact .of_queues h (h.toSchema.of_sameRows (sameRows_createAoi hok)) (hsame.named h.toNamed)
    hsame.retains (queues_createAoi hok)

theorem Outlives.refl (h : s.Consistent) : Outlives s s := ⟨.refl s, h.job_le⟩

theorem Outlives.builds (h : Outlives p s) (hs : Builds s s') : Outlives p s' := by
  obtain ⟨jobs, hjobs⟩ := hs.queues
  exact ⟨h.retains.trans hs.retains, fun k hk => Int.le_trans (h.given k hk) hjobs.last_le⟩

theorem Outlives.ackJobs (h : Outlives p s) (ids : List Int) : Outlives p (s.ackJobs ids) :=
  ⟨⟨h.retains.aois, h.retains.scenes, h.retains.tiles⟩, h.given⟩

end Store

open Store

/-! ### Calls -/

theorem Call.builds_script {s : Store} (hs : s.Consistent) (c : Call) :
    Builds s (c.script s).2 := by
  refine relates_script hs.toSchema (.refl hs) (fun p => ?_) fun a s' hok => ?_
  · have hsame : SameIdentities s (s.modifyTiles p fun t => { t with status := .pending }) :=
      .modifyTiles fun _ => rfl
    exact .of_queues hs hs.toSchema.setStatus (hsame.named hs.toNamed) hsame.retains
      (queues_nil rfl rfl)
  · obtain ⟨jobs, hjobs⟩ := queues_of_perform hok
    exact .of_queues hs (schema_of_perform hs.toSchema hok) (named_of_perform hs.toNamed hok)
      (retains_of_perform hok) hjobs

theorem Call.builds_make {s : Store} (hs : s.Consistent) (c : Call) (w : World σ) :
    ∃ answer s' w', c.make s w = (.ok (answer, s'), w') ∧ Builds s s' ∧ w'.store = w.store := by
  unfold make
  dsimp only
  split
  · exact ⟨_, _, _, rfl, .refl hs, rfl⟩
  · exact ⟨_, _, _, rfl, builds_script hs c, rfl⟩

theorem Call.builds_makeAll {s : Store} (hs : s.Consistent) (calls : List Call) (w : World σ) :
    ∃ s' w', makeAll calls s w = (.ok s', w') ∧ Builds s s' ∧ w'.store = w.store := by
  induction calls generalizing s w with
  | nil => exact ⟨s, w, rfl, .refl hs, rfl⟩
  | cons c rest ih =>
    obtain ⟨answer, s₁, w₁, hmake, hbuilds, hstore⟩ := c.builds_make hs w
    obtain ⟨s₂, w₂, hrest, hbuilds', hstore'⟩ := ih hbuilds.consistent w₁
    refine ⟨s₂, w₂, ?_, hbuilds.trans hbuilds', hstore'.trans hstore⟩
    have hfirst : (makeAll (c :: rest) s) w = makeAll rest s₁ w₁ := by
      have hok : (c.make s w).1 = .ok (answer, s₁) := congrArg Prod.fst hmake
      rw [makeAll, bind_of_ok hok, hmake]
    exact hfirst.trans hrest

/-- If all rows can be read, a call made statement by statement comes to what it comes to on the draft
of a unit of work. -/
theorem Call.make_eq_onDraft {s : Store} (hs : s.Schema) (hl : s.Legible) (operation : String)
    (notes : Notes) (c : Call) {w : World σ} (hw : w.cancelled = false) :
    c.make s w = c.onDraft operation ⟨s, notes⟩ w := by
  unfold make onDraft Draft.call
  dsimp only
  split
  · rfl
  · rw [hw, script_of_legible hs hl]
    unfold Script.statement
    cases c.perform s <;> rfl

theorem Call.make_error {s s' : Store} (hs : s.Schema) (hl : s.Legible) {c : Call} {w w' : World σ}
    {e : Error} (h : c.make s w = (.ok (.error e, s'), w')) : s' = s := by
  unfold make at h
  dsimp only at h
  split at h
  · cases h
    rfl
  · obtain ⟨hok, -⟩ := Prod.mk.inj h
    have hscript := Except.ok.inj hok
    rw [script_of_legible hs hl] at hscript
    unfold Script.statement at hscript
    split at hscript
    · cases hscript
    · cases hscript
      rfl

/-! ### Units of work -/

/-- A unit of work leaves the store as it was, or is committed with the rows that its calls have
left. -/
theorem unitOfCalls_cases {s : Store} (hs : s.Consistent) (calls : List Call) (ending : Ending)
    {w : World σ} (hw : w.store = s) :
    (unitOfCalls calls ending w).2.store = s ∨
      ending = .commit ∧ (unitOfCalls calls ending w).1 = .ok () ∧
        ∃ w₁ w₂ : World σ,
          Call.makeAll calls s w₁ = (.ok (unitOfCalls calls ending w).2.store, w₂) := by
  have hbegin := follows_signal (w := w) .begin
  unfold unitOfCalls
  cases hbegun : (signal .begin w).1 with
  | error e =>
    rw [bind_of_error hbegun]
    exact .inl (hbegin.store.trans hw)
  | ok _ =>
    rw [bind_of_ok hbegun]
    generalize hfirst : (signal .begin w).2 = w₁
    have hstart : w₁.store = s := (hfirst ▸ hbegin.store).trans hw
    obtain ⟨rows, w₂, hmade, -, hstore⟩ := Call.builds_makeAll hs calls w₁
    have hend : (get >>= fun w₀ => Call.makeAll calls w₀.store >>= fun rows => ending.run rows) w₁ =
        ending.run rows w₂ := by
      have hok : (Call.makeAll calls w₁.store w₁).1 = .ok rows := by rw [hstart, hmade]
      show (Call.makeAll calls w₁.store >>= fun rows => ending.run rows) w₁ = _
      rw [bind_of_ok hok, hstart, hmade]
    have hleft : w₂.store = s := hstore.trans hstart
    rw [hend]
    cases ending with
    | drop => exact .inl hleft
    | rollback => exact .inl ((follows_signal .rollback).store.trans hleft)
    | commit =>
      obtain ⟨-, ⟨e, -, hsame⟩ | ⟨_, hok, hrows⟩⟩ :=
        invoke_cases .commit (fun _ => .ok ((), rows)) w₂
      · exact .inl (hsame.trans hleft)
      · refine .inr ⟨rfl, hok, w₁, w₂, ?_⟩
        rw [hmade]
        exact congrArg (fun s => (Except.ok s, w₂)) (Prod.mk.inj (Except.ok.inj hrows)).2

theorem Inquiry.store_perform (q : Inquiry) (w : World σ) :
    (q.perform w).2.store = w.store := by
  have hR := passage_kept (σ := σ) (· = w.store)
  have hwithin : Operation.Within (σ := σ) q.perform (Kept (· = w.store)) := by
    cases q with
    | drawing aoi =>
      refine hR.within_bind hR.within_query fun _ => hR.within_bind hR.within_query fun _ => ?_
      exact hR.within_bind hR.within_query fun _ => hR.within_pure _
    | aoi _ | aois _ | scene _ | scenes _ _ | sceneId _ _ | tile _ | tiles _ | sceneStatusCounts _
    | tileStatusCounts _ | rootTiles _ | leafTiles _ => exact hR.within_query
  exact hwithin w rfl

/-- A use adds to the store, takes jobs out of its outbox or leaves it as it was. -/
theorem Use.cases {s : Store} (hs : s.Consistent) (u : Use) {w : World σ} (hw : w.store = s) :
    Builds s (u.run w).2.store ∨ ∃ ids, (u.run w).2.store = s.ackJobs ids := by
  have hsame {s' : Store} (h : s' = s) : Builds s s' := by
    rw [h]
    exact .refl hs
  cases u with
  | createAoi name =>
    obtain ⟨-, ⟨e, -, h⟩ | ⟨_, -, h⟩⟩ :=
      invoke_cases .createAoi (fun s => (s.createAoi name).map ((), ·)) w
    · exact .inl (hsame (h.trans hw))
    · obtain ⟨_, hok, heq⟩ := map_eq_ok.1 h
      cases heq
      exact .inl (.createAoi hs (hw ▸ hok))
  | inquire q => exact .inl (hsame ((q.store_perform w).trans hw))
  | pendingJobs limit => exact .inl (hsame (follows_query.store.trans hw))
  | ackJobs ids =>
    obtain ⟨-, ⟨e, -, h⟩ | ⟨_, -, h⟩⟩ := invoke_cases .ackJobs (fun s => .ok ((), s.ackJobs ids)) w
    · exact .inl (hsame (h.trans hw))
    · exact .inr ⟨ids, hw ▸ (Prod.mk.inj (Except.ok.inj h)).2.symm⟩
  | work calls ending =>
    rcases unitOfCalls_cases hs calls ending hw with h | ⟨-, -, w₁, w₂, h⟩
    · exact .inl (hsame h)
    · obtain ⟨rows, _, hmade, hbuilds, -⟩ := Call.builds_makeAll hs calls w₁
      have hrows := Except.ok.inj (Prod.mk.inj (h.symm.trans hmade)).1
      exact .inl (hrows ▸ hbuilds)

/-! ### Any use -/

/-- However a store is used, it stays in order and outlives all stores that were before it. -/
theorem Used.outlives {past : List Store} {s : Store} (h : Used past s) :
    s.Consistent ∧ ∀ p ∈ s :: past, Outlives p s := by
  induction h with
  | empty =>
    refine ⟨consistent_empty, fun p hp => ?_⟩
    rw [List.mem_singleton.1 hp]
    exact .refl consistent_empty
  | @run past σ u w _ ih =>
    obtain ⟨hs, hpast⟩ := ih
    rcases u.cases hs rfl with hbuilds | ⟨ids, heq⟩
    · refine ⟨hbuilds.consistent, fun p hp => ?_⟩
      rcases List.mem_cons.1 hp with rfl | hp
      · exact .refl hbuilds.consistent
      · exact (hpast p hp).builds hbuilds
    · rw [heq]
      refine ⟨hs.ackJobs ids, fun p hp => ?_⟩
      rcases List.mem_cons.1 hp with rfl | hp
      · exact .refl (hs.ackJobs ids)
      · exact (hpast p hp).ackJobs ids

/-- What holds of the rows of a unit of work on a store, by all the stores that were committed. -/
structure Store.Upheld (committed : List Store) (s rows : Store) : Prop where
  schema : rows.Schema
  named : rows.Named
  retains : ∀ p ∈ committed, Retains p rows
  /-- New jobs have ids above all that were ever committed. -/
  above : ∀ j ∈ rows.outbox, j ∈ s.outbox ∨ ∀ p ∈ committed, ∀ k ∈ p.outbox, k.id < j.id
  /-- A call comes to what it comes to on a draft. -/
  agrees : rows.Legible → ∀ {σ : Type} (operation : String) (notes : Notes) (c : Call) (w : World σ),
    w.cancelled = false → c.make rows w = c.onDraft operation ⟨rows, notes⟩ w
  /-- A call that fails leaves the rows as they were. -/
  whole : rows.Legible → ∀ {σ : Type} (c : Call) (w w' : World σ) (e : Error) (rows' : Store),
    c.make rows w = (.ok (.error e, rows'), w') → rows' = rows

theorem Store.Builds.upheld {committed : List Store} {s rows : Store} (h : Builds s rows)
    (hcommitted : ∀ p ∈ committed, Outlives p s) : Upheld committed s rows where
  schema := h.consistent.toSchema
  named := h.consistent.toNamed
  retains := fun p hp => (hcommitted p hp).retains.trans h.retains
  above := by
    obtain ⟨jobs, hjobs⟩ := h.queues
    intro j hj
    rw [hjobs.outbox_eq] at hj
    rcases List.mem_append.1 hj with hj | hj
    · exact .inl hj
    · exact .inr fun p hp k hk =>
        Int.lt_of_le_of_lt ((hcommitted p hp).given k hk) (hjobs.new j hj).1
  agrees := fun hl _ operation notes c _ hw =>
    c.make_eq_onDraft h.consistent.toSchema hl operation notes hw
  whole := fun hl _ _ _ _ _ _ hmake => Call.make_error h.consistent.toSchema hl hmake

/-- In a store that has been used in any way, whatever calls a unit of work has made and whatever has
disturbed them, its rows are upheld. It leaves the store as it was unless it is committed, and then
its rows become the store. -/
theorem Used.upholds {past : List Store} {w : World σ} (h : Used past w.store)
    (calls : List Call) :
    (∃ rows w', Call.makeAll calls w.store w = (.ok rows, w') ∧ w'.store = w.store ∧
      Upheld (w.store :: past) w.store rows) ∧
    ∀ ending, (unitOfCalls calls ending w).2.store = w.store ∨
      ending = .commit ∧ (unitOfCalls calls ending w).1 = .ok () ∧
        (∃ w₁ w₂ : World σ,
          Call.makeAll calls w.store w₁ = (.ok (unitOfCalls calls ending w).2.store, w₂)) ∧
        Upheld (w.store :: past) w.store (unitOfCalls calls ending w).2.store := by
  obtain ⟨hs, hcommitted⟩ := h.outlives
  obtain ⟨rows, w', hmade, hbuilds, hstore⟩ := Call.builds_makeAll hs calls w
  refine ⟨⟨rows, w', hmade, hstore, hbuilds.upheld hcommitted⟩, fun ending => ?_⟩
  rcases unitOfCalls_cases hs calls ending rfl with hsame | ⟨hcommit, hok, w₁, w₂, hmade⟩
  · exact .inl hsame
  · obtain ⟨rows, _, hmade', hbuilds, -⟩ := Call.builds_makeAll hs calls w₁
    have hrows := Except.ok.inj (Prod.mk.inj (hmade.symm.trans hmade')).1
    exact .inr ⟨hcommit, hok, ⟨w₁, w₂, hmade⟩, hrows ▸ hbuilds.upheld hcommitted⟩

def northCreated : World Unit := ((Use.createAoi "north").run { sink := () }).2

/-- A scene of two tiles, of which the second builds on the first, and a job are committed. -/
def northFilled : World Unit :=
  (Use.run (.work
    [.createScene { sourceId := "s1", aoi := "north", status := .done },
      .createTile { sourceId := "a", scene := 1, aoi := "north" },
      .createTile
        { sourceId := "b", scene := 1, aoi := "north",
          previous := some ⟨"s1", "a"⟩, reference := some ⟨"s1", "a"⟩ },
      .enqueueJob .sceneJobs "{}"]
    .commit) northCreated).2

def northRelayed : World Unit := ((Use.ackJobs [1]).run northFilled).2

/-- The next job does not get the id of the one that is gone, and tiles cannot be compared with a tile
that does not exist. -/
theorem upholds_northRelayed :
    Used [northFilled.store, northCreated.store, {}] northRelayed.store ∧
      northRelayed.store.outbox = [] ∧
      ∃ rows w', Call.makeAll [.enqueueJob .tileJobs "{}"] northRelayed.store northRelayed =
          (.ok rows, w') ∧
        rows.outbox.map (·.id) = [2] ∧ rows.Legible ∧
        ∃ e, ((Call.reassignReference 1 9).make rows w').1 = .ok (.error e, rows) := by
  have hused : Used [northFilled.store, northCreated.store, {}] northRelayed.store :=
    .run _ northFilled (.run _ northCreated (.run _ { sink := () } .empty))
  obtain ⟨⟨rows, w', hmade, -, hupheld⟩, -⟩ := hused.upholds [.enqueueJob .tileJobs "{}"]
  have hrows : ((Call.makeAll [.enqueueJob .tileJobs "{}"] northRelayed.store
      northRelayed).1.toOption.any fun rows => rows.outbox.map (·.id) == [2] &&
        rows.scenes.all (fun x => decide (leastBudget ≤ x.budget)) &&
        rows.tiles.all fun t => decide (leastBudget ≤ t.budget)) = true := by
    decide +kernel
  have hrefused : ((Call.makeAll [.enqueueJob .tileJobs "{}"] northRelayed.store >>=
      (Call.reassignReference 1 9).make) northRelayed).1.toOption.any
        (fun r => r.1.toOption.isNone) = true := by
    decide +kernel
  have hok := congrArg Prod.fst hmade
  rw [bind_of_ok hok] at hrefused
  rw [hmade] at hrows hrefused
  obtain ⟨hall, htiles⟩ := Bool.and_eq_true_iff.1 hrows
  obtain ⟨hids, hscenes⟩ := Bool.and_eq_true_iff.1 hall
  have hlegible : rows.Legible :=
    ⟨fun x hx => of_decide_eq_true (List.all_eq_true.1 hscenes x hx),
      fun t ht => of_decide_eq_true (List.all_eq_true.1 htiles t ht)⟩
  refine ⟨hused, by decide +kernel, rows, w', hmade, eq_of_beq hids, hlegible, ?_⟩
  obtain ⟨⟨answer, rows'⟩, hsome, hfailed⟩ := (Option.any_eq_true _ _).1 hrefused
  have hanswer := toOption_eq_some.1 hsome
  cases answer with
  | ok a => cases hfailed
  | error e =>
    obtain rfl := hupheld.whole hlegible _ w' _ e rows' (Prod.ext hanswer rfl)
    exact ⟨e, hanswer⟩

end SceneWorkflow
