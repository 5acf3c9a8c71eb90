import SceneWorkflow.Proofs.Engine.Confinement

/-!
# Areas are isolated

What is done in one area concerns no other. Other areas keep their status, their scenes
and their tiles, and the jobs that are queued tell of scenes and tiles of the area only.
This rests on the forest, whose links stay within areas.
-/
namespace SceneWorkflow
open Store

/-! ### Sweeps -/

namespace Sweep
variable {w : World Recorder} {area : String}

theorem serving_requeueAll (force : Bool) {kind : EntityKind} {ids : List Int}
    (hids : ∀ id ∈ ids, w.store.entityAoi? kind id = some area) (tally : Tally) :
    Serving area w (carryOut (requeueAll kind force ids tally) w).2 := by
  induction ids generalizing w tally with
  | nil => exact (passage_serving area).refl w
  | cons id rest ih =>
    unfold requeueAll
    rw [carryOut_attempt_bind (.requeue kind id force)]
    intro hforest hqueued
    have hstep : Serves area w (takeStep (.requeue kind id force) w).2 :=
      serving_updateStatus (hids id List.mem_cons_self) hforest hqueued
    have hrest (tally : Tally) : Serves area w
        (carryOut (requeueAll kind force rest tally) (takeStep (.requeue kind id force) w).2).2 := by
      refine hstep.trans (ih (fun k hk => ?_) tally hstep.forest hstep.queued)
      exact hstep.recalls.entityAoi? (hids k (List.mem_cons_of_mem id hk))
    split
    · exact hrest _
    · exact hrest _
    · split
      · exact hstep
      · exact hrest _

/-- The world looks as before, and the tiles that have been found belong to an area. -/
structure Finds (area : String) (w : World Recorder)
    (outcome : Except Error (List Tile × Tally) × World Recorder) : Prop where
  store : outcome.2.store = w.store
  sink : outcome.2.sink = w.sink
  found : ∀ found, outcome.1 = .ok found →
    ∀ t ∈ found.1, w.store.entityAoi? .tile t.id = some area

theorem entityAoi?_of_listTiles (ho : w.store.Ordered) {filter : TileFilter} {tiles : List Tile}
    (hplace : filter.aoi = some area ∨
      ∃ k, filter.scene = some k ∧ w.store.entityAoi? .scene k = some area)
    (hok : (takeStep (.listTiles filter) w).1 = .ok tiles) {t : Tile} (ht : t ∈ tiles) :
    w.store.entityAoi? .tile t.id = some area := by
  have hlisted : w.store.listTiles filter = .ok tiles := Operation.follows_query.ok _ hok
  obtain ⟨haoi, hscene⟩ := places_of_listTiles hlisted ht
  rw [entityAoi?, ho.tile?_of_mem (mem_of_listTiles hlisted ht)]
  rcases hplace with hfilter | ⟨k, hfilter, harea⟩
  · exact haoi area hfilter
  · rw [Option.bind_some, aoiOf?, hscene k hfilter]
    exact harea

theorem Finds.before {w₁ : World Recorder}
    {outcome : Except Error (List Tile × Tally) × World Recorder} (h : Finds area w₁ outcome)
    (hstore : w₁.store = w.store) (hsink : w₁.sink = w.sink) : Finds area w outcome where
  store := h.store.trans hstore
  sink := h.sink.trans hsink
  found := by
    rw [← hstore]
    exact h.found

theorem finds_tilesOfScenes (ho : w.store.Ordered) {ids : List Int}
    (hids : ∀ id ∈ ids, w.store.entityAoi? .scene id = some area) (tally : Tally) :
    Finds area w (carryOut (tilesOfScenes ids tally) w) := by
  induction ids generalizing w tally with
  | nil =>
    refine ⟨rfl, rfl, fun found hok => ?_⟩
    cases hok
    exact fun t ht => absurd ht List.not_mem_nil
  | cons id rest ih =>
    have hstep : Operation.Follows (takeStep (.listTiles { scene := some id }))
        (w.store.listTiles { scene := some id }) w := Operation.follows_query
    have hrest (tally : Tally) : Finds area w (carryOut (tilesOfScenes rest tally)
        (takeStep (.listTiles { scene := some id }) w).2) := by
      refine (ih ?_ (fun k hk => ?_) tally).before hstep.store hstep.sink
      · rwa [hstep.store]
      · rw [hstep.store]
        exact hids k (List.mem_cons_of_mem id hk)
    have hsplit : carryOut (tilesOfScenes (id :: rest) tally) w = _ :=
      carryOut_attempt_bind (.listTiles { scene := some id }) _ w
    rw [hsplit]
    split
    · next tiles htiles =>
      have hothers := hrest tally
      rw [carryOut_bind, Operation.bind_apply]
      split
      · next found w₂ heq =>
        rw [heq] at hothers
        refine ⟨hothers.store, hothers.sink, fun all hok t ht => ?_⟩
        cases hok
        rcases List.mem_append.1 ht with ht | ht
        · exact entityAoi?_of_listTiles ho (.inr ⟨id, rfl, hids id List.mem_cons_self⟩) htiles ht
        · exact hothers.found found rfl t ht
      · next e w₂ heq =>
        rw [heq] at hothers
        exact ⟨hothers.store, hothers.sink, nofun⟩
    · exact hrest _

/-- Whatever its listing is, a sweep looks only at tiles of its area. -/
theorem finds_listTiles (force : Bool) (ho : w.store.Ordered) {scenes : List Scene}
    (hscenes : ∀ x ∈ scenes, w.store.entityAoi? .scene x.id = some area) (tally : Tally) :
    Finds area w (carryOut (listTiles area scenes tally force) w) := by
  unfold listTiles
  split
  · refine finds_tilesOfScenes ho (fun id hid => ?_) tally
    obtain ⟨x, hx, rfl⟩ := List.mem_map.1 hid
    exact hscenes x (List.mem_filter.1 hx).1
  · have hstep : Operation.Follows (takeStep (.listTiles { aoi := some area, status := some .retry }))
        (w.store.listTiles { aoi := some area, status := some .retry }) w := Operation.follows_query
    cases hanswer : (takeStep (.listTiles { aoi := some area, status := some .retry }) w).1 with
    | ok tiles =>
      refine (congrArg (Finds area w) (carryOut_demand_of_ok hanswer)).mpr ?_
      refine ⟨hstep.store, hstep.sink, fun found hok t ht => ?_⟩
      cases hok
      exact entityAoi?_of_listTiles ho (.inl rfl) hanswer ht
    | error e =>
      refine (congrArg (Finds area w) (carryOut_demand_of_error hanswer)).mpr ?_
      exact ⟨hstep.store, hstep.sink, nofun⟩

theorem serves_requests (force : Bool) (hforest : Forest w.store) (hqueued : w.store.Queued)
    {scenes : List Scene} (hscenes : ∀ x ∈ scenes, w.store.entityAoi? .scene x.id = some area) :
    Serves area w (carryOut (requests area force scenes) w).2 := by
  have hids : ∀ id ∈ (scenes.filter fun x => isRetryable force x.status).map (·.id),
      w.store.entityAoi? .scene id = some area := by
    intro id hid
    obtain ⟨x, hx, rfl⟩ := List.mem_map.1 hid
    exact hscenes x (List.mem_filter.1 hx).1
  have hfirst := serving_requeueAll force hids {} hforest hqueued
  rw [requests, carryOut_bind]
  refine hfirst.bind fun tally₁ _ => ?_
  generalize (carryOut (requeueAll .scene force _ {}) w).2 = w₁ at hfirst ⊢
  have hfinds : Finds area w₁ (carryOut (listTiles area scenes tally₁ force) w₁) :=
    finds_listTiles force hfirst.forest.toOrdered
      (fun x hx => hfirst.recalls.entityAoi? (hscenes x hx)) tally₁
  have hlisted : Serves area w₁ (carryOut (listTiles area scenes tally₁ force) w₁).2 :=
    (passage_serving area).still hfinds.store hfinds.sink hfirst.forest hfirst.queued
  rw [carryOut_bind]
  refine hlisted.bind fun found hfound => ?_
  have htiles := hfinds.found found hfound
  generalize (carryOut (listTiles area scenes tally₁ force) w₁).2 = w₂ at hlisted ⊢
  have hids₂ : ∀ id ∈ (found.1.filter fun t => isRetryable force t.status).map (·.id),
      w₂.store.entityAoi? .tile id = some area := by
    intro id hid
    obtain ⟨t, ht, rfl⟩ := List.mem_map.1 hid
    exact hlisted.recalls.entityAoi? (htiles t (List.mem_filter.1 ht).1)
  have hlast := serving_requeueAll force hids₂ found.2 hlisted.forest hlisted.queued
  rw [carryOut_bind]
  refine hlast.bind fun tally₂ _ => ?_
  have hend := (passage_serving area).refl
    (carryOut (requeueAll .tile force _ found.2) w₂).2 hlast.forest hlast.queued
  split
  · exact hend
  · exact hend

/-- All that a sweep over an area does concerns that area only. -/
theorem serving_retryAoi (area : String) (force : Bool) :
    (retryAoi area force).Within (Serving area) := by
  intro w hforest hqueued
  have hfound : Serves area w (takeStep (.findAoi area) w).2 :=
    (passage_serving area).within_query w hforest hqueued
  rw [retryAoi_eq_carryOut, carryOut_plan]
  refine hfound.bind fun _ _ => ?_
  generalize (takeStep (.findAoi area) w).2 = w₁ at hfound ⊢
  have hfollows : Operation.Follows (takeStep (.listScenes area))
      (w₁.store.listScenes area none) w₁ := Operation.follows_query
  have hlisted : Serves area w₁ (takeStep (.listScenes area) w₁).2 :=
    (passage_serving area).still hfollows.store hfollows.sink hfound.forest hfound.queued
  refine hlisted.bind fun scenes hscenes => ?_
  refine serves_requests force hlisted.forest hlisted.queued fun x hx => ?_
  have hshown : w₁.store.listScenes area none = .ok scenes := hfollows.ok scenes hscenes
  have hplace : w₁.store.entityAoi? .scene x.id = some area := by
    rw [entityAoi?, hfound.forest.scene?_of_mem (mem_of_listScenes hshown hx),
      ← aoi_of_listScenes hshown hx]
    rfl
  exact hlisted.recalls.entityAoi? hplace

end Sweep

/-! ### Commands -/

section
variable {w : World Recorder} {area : String}

theorem confined_transact (hforest : Forest w.store) (hqueued : w.store.Queued) (operation : String)
    (task : Task) (hsilent : ∀ a s', task.body.exec w.store = .ok (a, s') →
      Elsewhere area w.store s' ∧ s'.outbox = w.store.outbox) :
    Confined area w (transact operation task.body w).2 := by
  rcases task.transact_cases operation w with
    ⟨-, -, hstore, hsink⟩ | ⟨a, w₁, hbody, hsink, -, hworld⟩
  · exact ((passage_serving area).still hstore hsink hforest hqueued).toConfined
  · obtain ⟨helsewhere, hout⟩ := hsilent a w₁.store hbody
    obtain ⟨jobs, hjobs, hhappens⟩ := happens_commit hbody hsink
    obtain rfl : jobs = [] := List.append_right_eq_self.1 (hjobs.symm.trans hout)
    have hcommit : Confined area w w₁ := ⟨helsewhere, _, hhappens, nofun⟩
    rw [hworld]
    exact hcommit.trans (serving_flush area _ w₁ (task.forest hforest hbody)
      (Work.queued_of_exec hbody hqueued))

theorem confined_updateSceneAttrs (hforest : Forest w.store) (hqueued : w.store.Queued) {id : Int}
    (harea : w.store.entityAoi? .scene id = some area) (attrs : SceneAttrs) :
    Confined area w (updateSceneAttrs id attrs w).2 := by
  refine confined_transact hforest hqueued _ (.updateSceneAttrs id attrs) fun a s' hok => ?_
  obtain rfl := Work.exec_updateSceneAttrs_eq_ok hok
  obtain ⟨x, hx, rfl⟩ := Option.map_eq_some_iff.1 harea
  refine ⟨elsewhere_of_rows (f := fun y => if y.id == id then { y with attrs } else y) (g := fun t => t)
    rfl rfl (fun y => ?_) (fun y hy => ?_) (List.map_id' _).symm fun t _ => ⟨rfl, .inl rfl⟩, rfl⟩
  · split <;> rfl
  · split
    · next hid =>
      have hfind := hforest.scene?_of_mem hy
      rw [eq_of_beq hid, hx] at hfind
      cases hfind
      exact .inr ⟨rfl, rfl⟩
    · exact .inl rfl

theorem confined_updateTileAttrs (hforest : Forest w.store) (hqueued : w.store.Queued) {id : Int}
    (harea : w.store.entityAoi? .tile id = some area) (attrs : TileAttrs) :
    Confined area w (updateTileAttrs id attrs w).2 := by
  refine confined_transact hforest hqueued _ (.updateTileAttrs id attrs) fun a s' hok => ?_
  obtain rfl := Work.exec_updateTileAttrs_eq_ok hok
  obtain ⟨t, ht, hplace⟩ := Option.bind_eq_some_iff.1 harea
  refine ⟨elsewhere_of_rows (f := fun x => x) (g := fun v => if v.id == id then { v with attrs } else v)
    rfl (List.map_id' _).symm (fun _ => rfl) (fun _ _ => .inl rfl) rfl fun v hv => ?_, rfl⟩
  split
  · next hid =>
    have hfind := hforest.tile?_of_mem hv
    rw [eq_of_beq hid, ht] at hfind
    cases hfind
    exact ⟨rfl, .inr hplace⟩
  · exact ⟨rfl, .inl rfl⟩

end

/-- The command is for one area, or for a scene or tile of it. -/
def Command.Addresses (s : Store) (area : String) : Command → Prop
  | ingestScene aoi _ => aoi = area
  | ingestScenes aoi _ => aoi = area
  | updateStatus kind id _ _ _ => s.entityAoi? kind id = some area
  | handleResult r => s.entityAoi? r.kind r.id = some area
  | updateSceneAttrs id _ => s.entityAoi? .scene id = some area
  | updateTileAttrs id _ => s.entityAoi? .tile id = some area
  | retryAoi aoi _ => aoi = area
  | createAoi _ => False
  | flushOutbox => False

/-- In every store that comes about, what is asked of one area leaves every other area with its scenes
and tiles as it is, whether it succeeds or not, and all jobs that it queues tell of scenes and tiles of
that area only, the tiles that others follow and are compared with included. -/
theorem Attainable.isolates {w : World Recorder} (h : Attainable w.store) {area : String}
    {c : Command} (hc : c.Addresses w.store area) : Confined area w (c.run w) := by
  have hforest := h.forest
  have hqueued := h.queued
  cases c with
  | createAoi name => exact hc.elim
  | flushOutbox => exact hc.elim
  | ingestScene aoi r =>
    cases hc
    exact (serving_ingestScene area r w hforest hqueued).toConfined
  | ingestScenes aoi rs =>
    cases hc
    exact (serving_ingestRemaining area rs .empty w hforest hqueued).toConfined
  | updateStatus kind id requested message force =>
    exact (serving_updateStatus hc hforest hqueued).toConfined
  | handleResult r => exact (serving_updateStatus hc hforest hqueued).toConfined
  | updateSceneAttrs id attrs => exact confined_updateSceneAttrs hforest hqueued hc attrs
  | updateTileAttrs id attrs => exact confined_updateTileAttrs hforest hqueued hc attrs
  | retryAoi aoi force =>
    cases hc
    exact (Sweep.serving_retryAoi area force w hforest hqueued).toConfined

/-- Two areas hold scenes and tiles under the same names. -/
def namesakes : World Recorder :=
  World.after { sink := {} }
    [.createAoi "north", .createAoi "south",
      .ingestScene "north" (.ofTiles "north" "s1"
        [("a", {}), ("b", { previous := some ⟨"s1", "a"⟩, reference := some ⟨"s1", "a"⟩ })]),
      .ingestScene "south" (.ofTiles "south" "s1"
        [("a", {}), ("b", { previous := some ⟨"s1", "a"⟩, reference := some ⟨"s1", "a"⟩ })]),
      .updateStatus .scene 2 .done none false]

/-- The first tile of the southern scene fails, which starts the second. -/
theorem isolates_namesakes :
    Attainable namesakes.store ∧
      (Command.updateStatus .tile 3 .failed none false).Addresses namesakes.store "south" ∧
      (Command.run namesakes (.updateStatus .tile 3 .failed none false)).store.tiles.map
        (fun t => (t.id, t.status)) = [(1, .new), (2, .new), (3, .failed), (4, .pending)] ∧
      Confined "south" namesakes (Command.run namesakes (.updateStatus .tile 3 .failed none false)) := by
  have hattain : Attainable namesakes.store := Attainable.empty.after _
  have haddressed : (Command.updateStatus .tile 3 .failed none false).Addresses namesakes.store
      "south" := by
    show namesakes.store.entityAoi? .tile 3 = some "south"
    decide +kernel
  exact ⟨hattain, haddressed, by decide +kernel, hattain.isolates haddressed⟩

end SceneWorkflow
