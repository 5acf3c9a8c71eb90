import SceneWorkflow.Proofs.Engine.Holdings
import SceneWorkflow.Proofs.UnitOfWork.Calm

/-!
# Batches of scenes that are sent again

A batch that has been carried through has taken up the scenes whose names its area did
not hold yet, of each name the first one, and all the names are held from then on. So
it can be sent again at any time, in whole or in part and in any order, and nothing
happens.
-/
namespace SceneWorkflow
open Store Operation

section
variable {σ : Type} [Sink σ] {w : World σ} {aoi : String} {r : SceneRequest}

/-! ### Batches -/

/-- Whatever is done, no row is taken away. -/
theorem course_retains : Course (σ := σ) (fun _ => True) fun w w' => Retains w.store w'.store where
  still := fun hstore _ => hstore ▸ .refl _
  trans := .trans
  creation := fun hok _ => (SameIdentities.of_sameRows (sameRows_createAoi hok)).retains
  commit := fun {_ _ task _} _ hok _ =>
    Work.exec_relates .refl .trans (fun _ _ _ _ _ hcall => Call.retains_of_perform hcall)
      (Program.uses_true task.body) hok
  relay := fun batchSize w => (SameIdentities.of_sameRows (Outbox.sameRows_flush batchSize w)).retains

theorem ingestRemaining_cons (aoi : String) (r : SceneRequest) (rest : List SceneRequest)
    (created : KeyMap Int) (w : World σ) :
    ingestRemaining aoi (r :: rest) created w =
      match (ingestScene aoi r w).1 with
      | .ok id =>
        ingestRemaining aoi rest (created.insert r.sourceId id) (ingestScene aoi r w).2
      | .error e =>
        if e.isAlreadyExists then ingestRemaining aoi rest created (ingestScene aoi r w).2
        else (.error e, (ingestScene aoi r w).2) := by
  have hrun : ingestRemaining (σ := σ) aoi (r :: rest) created =
      attempt (ingestScene aoi r) >>= fun outcome =>
        match outcome with
        | .ok id => ingestRemaining aoi rest (created.insert r.sourceId id)
        | .error e => if e.isAlreadyExists then ingestRemaining aoi rest created else throw e := rfl
  rw [hrun, attempt_bind]
  cases (ingestScene aoi r w).1 with
  | ok id => rfl
  | error e =>
    dsimp only
    split <;> rfl

theorem holds_ingestRemaining {name : String} (hholds : w.store.holds aoi name = true)
    (rs : List SceneRequest) (created : KeyMap Int) :
    (ingestRemaining aoi rs created w).2.store.holds aoi name = true :=
  (course_retains.within_ingestRemaining aoi (fun _ _ => trivial) created w).holds hholds

/-- The scenes of a batch that have been taken up, each with its id: those of the new names. Of several
of one name the first one counts. -/
structure TakenOf (s : Store) (aoi : String) (rs : List SceneRequest)
    (taken : List (SceneRequest × Int)) : Prop where
  names : taken.map (·.1.sourceId) = s.newNames aoi rs
  first : ∀ e ∈ taken, rs.find? (·.sourceId == e.1.sourceId) = some e.1

omit [Sink σ] in
theorem TakenOf.cons {s : Store} {rest : List SceneRequest} {taken : List (SceneRequest × Int)}
    (h : TakenOf s aoi rest taken) (hholds : s.holds aoi r.sourceId = true) :
    ∀ e ∈ taken, (r :: rest).find? (·.sourceId == e.1.sourceId) = some e.1 := by
  intro e he
  have hmem : e.1.sourceId ∈ s.newNames aoi rest := h.names ▸ List.mem_map_of_mem he
  have hne : r.sourceId ≠ e.1.sourceId := by
    intro hsame
    cases (hsame ▸ hholds).symm.trans (not_holds_of_mem_newNames hmem)
  rw [List.find?_cons_of_neg (by simpa using hne), h.first e he]

theorem ingestRemaining_eq_ok (h : Attainable w.store) {rs : List SceneRequest}
    {created result : KeyMap Int} (hok : (ingestRemaining aoi rs created w).1 = .ok result) :
    (∃ taken, TakenOf w.store aoi rs taken ∧
      result = taken.foldl (fun m e => m.insert e.1.sourceId e.2) created ∧
      Series (fun e s s' => s.TakesUp e.1 e.2 s') w taken (ingestRemaining aoi rs created w).2) ∧
    ∀ r ∈ rs, r.validate aoi = .ok () ∧
      (ingestRemaining aoi rs created w).2.store.holds aoi r.sourceId = true := by
  induction rs generalizing w created with
  | nil =>
    have hrun : ingestRemaining aoi [] created w = (.ok created, w) := rfl
    rw [hrun] at hok ⊢
    cases hok
    exact ⟨⟨[], ⟨rfl, List.forall_mem_nil _⟩, rfl, .still rfl rfl⟩, List.forall_mem_nil _⟩
  | cons r rest ih =>
    have hattain : Attainable (ingestScene aoi r w).2.store := h.run (.command (.ingestScene aoi r))
    rw [ingestRemaining_cons] at hok ⊢
    rcases ingestScene_cases h aoi r with
      ⟨id, committed, hanswer, hvalid, hnew, htakes, hcommits⟩ | ⟨e, hanswer, hstore, hsink, hthere⟩
    · obtain rfl := (SceneRequest.validate_eq_ok.1 hvalid).1
      rw [hanswer] at hok ⊢
      dsimp only at hok ⊢
      generalize (ingestScene r.aoi r w).2 = w₁ at hattain hcommits hok ⊢
      have hheld (name : String) :
          w₁.store.holds r.aoi name = (w.store.holds r.aoi name || r.sourceId == name) := by
        obtain ⟨out, -, hleft⟩ := hcommits.left
        rw [← htakes.holds_eq, hleft]
        rfl
      have hnow : w₁.store.holds r.aoi r.sourceId = true := by
        rw [hheld]
        simp
      obtain ⟨⟨taken, htaken, hresult, hseries⟩, hall⟩ := ih hattain hok
      refine ⟨⟨(r, id) :: taken, ⟨?_, ?_⟩, hresult, .step rfl rfl htakes hcommits hseries⟩, ?_⟩
      · rw [List.map_cons, htaken.names, newNames_cons_of_new hnew hheld]
      · exact List.forall_mem_cons.2 ⟨List.find?_cons_of_pos (beq_self_eq_true _), htaken.cons hnow⟩
      · exact List.forall_mem_cons.2 ⟨⟨hvalid, holds_ingestRemaining hnow rest _⟩, hall⟩
    · rw [hanswer] at hok ⊢
      dsimp only at hok ⊢
      cases he : e.isAlreadyExists with
      | false =>
        rw [he] at hok
        cases hok
      | true =>
        rw [he] at hok
        obtain ⟨hvalid, hholds⟩ := hthere he
        rw [if_pos rfl] at hok ⊢
        generalize (ingestScene aoi r w).2 = w₁ at hattain hstore hsink hok ⊢
        obtain ⟨⟨taken, htaken, hresult, hseries⟩, hall⟩ := ih hattain hok
        rw [← hstore] at hholds
        refine ⟨⟨taken, ⟨?_, htaken.cons hholds⟩, hresult, hseries.after_still hstore hsink⟩, ?_⟩
        · rw [htaken.names, hstore, newNames_cons_of_holds (hstore ▸ hholds)]
        · exact List.forall_mem_cons.2 ⟨⟨hvalid, holds_ingestRemaining hholds rest _⟩, hall⟩

theorem ingestRemaining_of_holds (h : Attainable w.store) {rs : List SceneRequest}
    (hrs : ∀ r ∈ rs, r.validate aoi = .ok () ∧ w.store.holds aoi r.sourceId = true)
    (created : KeyMap Int) :
    (ingestRemaining aoi rs created w).2.store = w.store ∧
      (ingestRemaining aoi rs created w).2.sink = w.sink ∧
      (w.Calm → (ingestRemaining aoi rs created w).1 = .ok created) := by
  induction rs generalizing w with
  | nil => exact ⟨rfl, rfl, fun _ => rfl⟩
  | cons r rest ih =>
    obtain ⟨⟨hvalid, hholds⟩, hrest⟩ := List.forall_mem_cons.1 hrs
    obtain ⟨e, hanswer, hstore, hsink, hthere⟩ := ingestScene_of_holds h hvalid hholds
    rw [ingestRemaining_cons, hanswer]
    dsimp only
    split
    next he =>
      rw [← hstore] at h hrest
      obtain ⟨hstore', hsink', hresult⟩ := ih h hrest
      refine ⟨hstore'.trans hstore, hsink'.trans hsink, fun hw => hresult ?_⟩
      have hmeets : (ingestScene aoi r w).2.Meets (· = none) := by
        rw [ingestScene_of_valid hvalid]
        exact StaysMeeting.within_transact nofun _ _ w hw.meets
      exact hmeets.calm
    next hne => exact ⟨hstore, hsink, fun hw => absurd (hthere hw) hne⟩

end

/-! ### Sending it again -/

/-- The first occurrences of names are distinct. -/
theorem nodup_eraseDups : (names : List String) → names.eraseDups.Nodup
  | [] => .nil
  | name :: rest => by
    rw [List.eraseDups_cons]
    refine List.nodup_cons.2 ⟨fun hmem => ?_, nodup_eraseDups _⟩
    have hkept := (List.mem_filter.1 (List.mem_eraseDups.1 hmem)).2
    simp at hkept
termination_by names => names.length
decreasing_by exact Nat.lt_succ_of_le (List.length_filter_le _ _)

/-- What is found after some entries of different keys have been made is in one of them, or was there
before. -/
theorem KeyMap.find?_foldl_insert {α β : Type} {key : β → String} {value : β → α} {entries : List β}
    (h : (entries.map key).Nodup) (m : KeyMap α) (k : String) (v : α) :
    (entries.foldl (fun m e => m.insert (key e) (value e)) m).find? k = some v ↔
      (∃ e ∈ entries, key e = k ∧ value e = v) ∨ k ∉ entries.map key ∧ m.find? k = some v := by
  induction entries generalizing m with
  | nil => simp
  | cons e rest ih =>
    obtain ⟨hfresh, hrest⟩ := List.nodup_cons.1 h
    rw [List.foldl_cons, ih hrest, find?_insert]
    by_cases hkey : key e = k
    · subst hkey
      rw [if_pos rfl, List.map_cons]
      constructor
      · rintro (⟨d, hd, hfound⟩ | ⟨-, hv⟩)
        · exact .inl ⟨d, List.mem_cons_of_mem e hd, hfound⟩
        · exact .inl ⟨e, List.mem_cons_self, rfl, Option.some.inj hv⟩
      · rintro (⟨d, hd, hfound⟩ | ⟨hnot, -⟩)
        · rcases List.mem_cons.1 hd with rfl | hd
          · exact .inr ⟨hfresh, congrArg some hfound.2⟩
          · exact .inl ⟨d, hd, hfound⟩
        · exact absurd List.mem_cons_self hnot
    · simp [hkey, Ne.symm hkey]

/-- The stores that come about from one, whatever is done and forced. Any activity may meet any
disturbance, any sink and any cancellation. -/
inductive Store.Later (s : Store) : Store → Prop where
  | now : Later s s
  | run {σ : Type} [Sink σ] (x : Activity σ) (w : World σ) (h : Later s w.store) :
      Later s (x.run w).store

namespace Store.Later
variable {s s' : Store}

theorem attainable (h : Later s s') (hs : Attainable s) : Attainable s' := by
  induction h with
  | now => exact hs
  | run x w _ ih => exact ih.run x w

theorem retains (h : Later s s') : Retains s s' := by
  induction h with
  | now => exact .refl s
  | run x w _ ih =>
    exact ih.trans (course_retains.relates_activity (x.all_of_forall fun _ => trivial) w)

theorem after {σ : Type} [Sink σ] {w : World σ} (h : Later s w.store) (cs : List Command) :
    Later s (w.after cs).store :=
  World.induct_after (I := fun w => Later s w.store) h fun c _ w h => .run (.command c) w h

end Store.Later

/-- A batch that is carried through has taken up the scenes of new names, each with one job, in the
order in which their names first occur, and it is answered with their ids. At any time later, it
can be sent again, in whole or in part and in any order: nothing changes, and undisturbed the
answer is that nothing is new. -/
theorem Attainable.replays {σ : Type} [Sink σ] {w : World σ} (h : Attainable w.store) {aoi : String}
    {rs : List SceneRequest} {created : KeyMap Int}
    (hok : (ingestScenes aoi rs w).1 = .ok created) :
    (∃ taken, TakenOf w.store aoi rs taken ∧ (∀ r ∈ rs, r.aoi = aoi) ∧
      (∀ name id, created.find? name = some id ↔ ∃ r, (r, id) ∈ taken ∧ r.sourceId = name) ∧
      Series (fun e s s' => s.TakesUp e.1 e.2 s') w taken (ingestScenes aoi rs w).2) ∧
    ∀ {τ : Type} [Sink τ] (w' : World τ), Later (ingestScenes aoi rs w).2.store w'.store →
      ∀ rs', rs' ⊆ rs →
        (ingestScenes aoi rs' w').2.store = w'.store ∧
        (ingestScenes aoi rs' w').2.sink = w'.sink ∧
        (w'.Calm → (ingestScenes aoi rs' w').1 = .ok .empty) := by
  obtain ⟨⟨taken, htaken, hcreated, hseries⟩, hall⟩ := ingestRemaining_eq_ok h hok
  refine ⟨⟨taken, htaken, fun r hr => ?_, fun name id => ?_, hseries⟩, ?_⟩
  · exact (SceneRequest.validate_eq_ok.1 (hall r hr).1).1
  · have hnodup : (taken.map (·.1.sourceId)).Nodup := htaken.names ▸ nodup_eraseDups _
    rw [hcreated, KeyMap.find?_foldl_insert hnodup]
    constructor
    · rintro (⟨⟨r, _⟩, hmem, hname, rfl⟩ | ⟨-, hnothing⟩)
      · exact ⟨r, hmem, hname⟩
      · cases hnothing
    · rintro ⟨r, hmem, hname⟩
      exact .inl ⟨(r, id), hmem, hname, rfl⟩
  · intro τ _ w' hlater rs' hsubset
    have hattain := hlater.attainable (h.run (.command (.ingestScenes aoi rs)))
    refine ingestRemaining_of_holds hattain (fun r hr => ?_) .empty
    obtain ⟨hvalid, hholds⟩ := hall r (hsubset hr)
    exact ⟨hvalid, hlater.retains.holds hholds⟩

/-- Scenes of which one is there already, one is sent twice and one builds on another one. -/
def batch : List SceneRequest :=
  [.ofTiles "north" "s1" [("c", {})], backwards, .ofTiles "north" "s2" [("d", {})],
    .ofTiles "north" "s3" [("e", { previous := some ⟨"s2", "a"⟩ })]]

/-- What may come after that: the tile that was built on is made to fail, so that it could not be built
on any more. -/
def lostFoundation : World Recorder :=
  (ingestScenes "north" batch awaited).2.after [.updateStatus .tile 5 .failed none true]

/-- Two scenes are new. Even now the batch can be sent again, backwards. -/
theorem replays_batch :
    Attainable awaited.store ∧
      (∃ created, (ingestScenes "north" batch awaited).1 = .ok created ∧
        created.entries = [("s2", 2), ("s3", 3)]) ∧
      lostFoundation.store.tileStatus? 5 = some .failed ∧
      (ingestScenes "north" batch.reverse lostFoundation).1 = .ok .empty := by
  have hattain : Attainable awaited.store := Attainable.empty.after _
  have hdecided : (ingestScenes "north" batch awaited).1.toOption.map (·.entries) =
      some [("s2", 2), ("s3", 3)] := by decide +kernel
  have hfailed : lostFoundation.store.tileStatus? 5 = some .failed := by decide +kernel
  have hcalm : lostFoundation.Calm := World.calm_of_isEmpty (by decide +kernel) (by decide +kernel)
  obtain ⟨created, hcreated, hentries⟩ := Option.map_eq_some_iff.1 hdecided
  have hok := toOption_eq_some.1 hcreated
  obtain ⟨-, hagain⟩ := hattain.replays hok
  have hlater : Later (ingestScenes "north" batch awaited).2.store lostFoundation.store :=
    Later.now.after _
  have hsubset : batch.reverse ⊆ batch := List.reverse_subset.2 (List.Subset.refl _)
  obtain ⟨-, -, hnothing⟩ := hagain lostFoundation hlater batch.reverse hsubset
  exact ⟨hattain, ⟨created, hok, hentries⟩, hfailed, hnothing hcalm⟩

end SceneWorkflow
