import SceneWorkflow.Proofs.Engine.Requeueing

/-!
# What keeps tiles from being handed out again

A request to hand out a tile again is refused if the tile follows one that is not done
and, unless it is forced, if its scene is not done. What has been handed out again
before neither helps nor hinders, so the first refusal of many requests in a row can be
told from the store before them.
-/
namespace SceneWorkflow.Store

variable {s s' : Store} {kind : EntityKind} {id : Int} {force : Bool} {es : List (EntityKind × Int)}
  {ids : List Int} {t : Tile} {aoi : String}

/-- A tile may be handed out again: it follows none or one that is done, and unless that is forced its
scene is done. -/
def fits (s : Store) (force : Bool) (t : Tile) : Bool :=
  (t.previous.all fun p => s.tileStatus? p == some .done) &&
    (force || s.sceneStatus? t.scene == some .done)

def previousObstacle? (s : Store) (t : Tile) : Option String :=
  (t.previous.bind s.tile?).bind fun p =>
    if p.status = .done then none else some s!"previous tile {p.id} is {p.status.name}"

/-- What keeps a tile from being handed out again: the tile that it follows, or its scene. -/
def obstacle? (s : Store) (force : Bool) (t : Tile) : Option String :=
  (s.previousObstacle? t).or <|
    if force then none
    else (s.scene? t.scene).bind fun x =>
      if x.status = .done then none else some s!"its scene is {x.status.name}"

/-- The error of a request to hand out a scene or tile again, if something keeps it from that. -/
def refusal? (s : Store) (force : Bool) : EntityKind → Int → Option Error
  | .scene, _ => none
  | .tile, id => (s.tile? id).bind fun t => (s.obstacle? force t).map (Cascade.notRequeued t)

def isFree (s : Store) (force : Bool) (kind : EntityKind) (id : Int) : Bool :=
  (s.refusal? force kind id).isNone

/-! ### Refusals and the rows -/

theorem obstacle?_congr (h : s'.entities = s.entities) (force : Bool) (t : Tile) :
    s'.obstacle? force t = s.obstacle? force t := by
  obtain ⟨hscenes, htiles⟩ := Prod.mk.inj h
  have htile : s'.tile? = s.tile? := by
    funext id
    rw [tile?, htiles, tile?]
  have hscene : s'.scene? = s.scene? := by
    funext id
    rw [scene?, hscenes, scene?]
  rw [obstacle?, previousObstacle?, htile, hscene, obstacle?, previousObstacle?]

/-- The tiles that nothing keeps from it are those that may be handed out again. -/
theorem obstacle?_eq_none (hs : s.Schema) (ht : t ∈ s.tiles) :
    s.obstacle? force t = none ↔ s.fits force t = true := by
  obtain ⟨x, hx⟩ := Option.isSome_iff_exists.1 (hs.scene_exists t ht)
  have hprevious := hs.previous_exists t ht
  rw [obstacle?, Option.or_eq_none_iff, fits, Bool.and_eq_true, hx, sceneStatus?, hx,
    previousObstacle?]
  refine and_congr ?_ ?_
  · cases hlink : t.previous with
    | none => simp
    | some id =>
      rw [hlink, hasLinked_some] at hprevious
      obtain ⟨p, hp⟩ := Option.isSome_iff_exists.1 hprevious
      simp [hp, tileStatus?]
  · cases force <;> simp

theorem refusal?_congr (h : s'.entities = s.entities) (force : Bool) (kind : EntityKind) (id : Int) :
    s'.refusal? force kind id = s.refusal? force kind id := by
  cases kind with
  | scene => rfl
  | tile =>
    have htile : s'.tile? id = s.tile? id := by
      rw [tile?, (Prod.mk.inj h).2, tile?]
    rw [refusal?, htile, refusal?]
    exact congrArg _ (funext fun t => by rw [obstacle?_congr h])

/-- Nothing is said against a row that is missing or done. -/
theorem reason_eq_none {α : Type} {status : α → Status} {reason : α → String} {row : Option α} :
    (row.bind fun a => if status a = .done then none else some (reason a)) = none ↔
      row.map status = none ∨ row.map status = some .done := by
  cases row <;> simp

/-- What is handed out again keeps no tile from it that was not kept from it before. -/
theorem Undone.obstacle?_eq_none (h : s.Undone es) (force : Bool) {t u : Tile}
    (hprevious : u.previous = t.previous) (hscene : u.scene = t.scene) :
    (s.requeue es).obstacle? force u = none ↔ s.obstacle? force t = none := by
  have hstatus (kind : EntityKind) (id : Int) :
      (s.requeue es).entityStatus? kind id = none ∨
          (s.requeue es).entityStatus? kind id = some .done ↔
        s.entityStatus? kind id = none ∨ s.entityStatus? kind id = some .done := by
    rw [h.done_iff, entityStatus?_requeue, Option.map_eq_none_iff]
  rw [obstacle?, obstacle?, Option.or_eq_none_iff, Option.or_eq_none_iff, previousObstacle?,
    previousObstacle?, hprevious, hscene]
  refine and_congr ?_ ?_
  · cases t.previous with
    | none => exact Iff.rfl
    | some id => exact reason_eq_none.trans ((hstatus .tile id).trans reason_eq_none.symm)
  · cases force with
    | true => exact Iff.rfl
    | false => exact reason_eq_none.trans ((hstatus .scene t.scene).trans reason_eq_none.symm)

theorem Undone.refusal?_eq_none (h : s.Undone es) (force : Bool) (kind : EntityKind) (id : Int) :
    (s.requeue es).refusal? force kind id = none ↔ s.refusal? force kind id = none := by
  cases kind with
  | scene => exact Iff.rfl
  | tile =>
    rw [refusal?, refusal?, tile?_requeue]
    cases s.tile? id with
    | none => exact Iff.rfl
    | some t =>
      rw [Option.map_some, Option.bind_some, Option.bind_some, Option.map_eq_none_iff,
        Option.map_eq_none_iff]
      refine h.obstacle?_eq_none force ?_ ?_ <;> split <;> rfl

theorem not_isCancelled_of_refusal? {e : Error} (h : s.refusal? force kind id = some e) :
    e.isCancelled = false := by
  cases kind with
  | scene => cases h
  | tile =>
    obtain ⟨t, -, hreason⟩ := Option.bind_eq_some_iff.1 h
    obtain ⟨reason, -, rfl⟩ := Option.map_eq_some_iff.1 hreason
    rfl

theorem isFree_congr (h : s'.entities = s.entities) (force : Bool) (kind : EntityKind) :
    s'.isFree force kind = s.isFree force kind := by
  funext id
  rw [isFree, refusal?_congr h, isFree]

theorem isFree_tile (hs : s.Schema) {t : Tile} (ht : t ∈ s.tiles) :
    s.isFree force .tile t.id = s.fits force t := by
  rw [Bool.eq_iff_iff, ← obstacle?_eq_none hs ht, isFree, refusal?, hs.tile?_of_mem ht,
    Option.bind_some, Option.isNone_iff_eq_none, Option.map_eq_none_iff]

theorem Undone.isFree (h : s.Undone es) (force : Bool) (kind : EntityKind) :
    (s.requeue es).isFree force kind = s.isFree force kind := by
  funext id
  rw [Store.isFree, Bool.eq_iff_iff, Option.isNone_iff_eq_none, Store.isFree,
    Option.isNone_iff_eq_none]
  exact h.refusal?_eq_none force kind id

/-! ### The first refusal -/

/-- The first error of requests to hand out entities again that are made one after the other. -/
def firstRefusal? (s : Store) (force : Bool) (kind : EntityKind) : List Int → Option Error
  | [] => none
  | id :: rest =>
    (s.refusal? force kind id).or (firstRefusal? (s.requeue [(kind, id)]) force kind rest)

theorem firstRefusal?_congr (h : s'.entities = s.entities) (force : Bool) (kind : EntityKind)
    (ids : List Int) : s'.firstRefusal? force kind ids = s.firstRefusal? force kind ids := by
  induction ids generalizing s s' with
  | nil => rfl
  | cons id rest ih =>
    rw [firstRefusal?, refusal?_congr h, ih (requeue_congr h _), firstRefusal?]

theorem firstRefusal?_scene (s : Store) (force : Bool) (ids : List Int) :
    s.firstRefusal? force .scene ids = none := by
  induction ids generalizing s with
  | nil => rfl
  | cons id rest ih => exact ih _

/-- As long as nothing keeps entities from it, they are handed out again. -/
theorem firstRefusal?_append (hundone : s.Undone (ids.map (kind, ·)))
    (hfree : ∀ id ∈ ids, s.refusal? force kind id = none) (rest : List Int) :
    s.firstRefusal? force kind (ids ++ rest) =
      (s.requeue (ids.map (kind, ·))).firstRefusal? force kind rest := by
  induction ids generalizing s with
  | nil => rw [List.map_nil, requeue_nil, List.nil_append]
  | cons id ids ih =>
    obtain ⟨hfirst, hothers⟩ := List.forall_mem_cons.1 hfree
    obtain ⟨hid, hids⟩ := List.forall_mem_cons.1 hundone
    have hone : s.Undone [(kind, id)] := fun e he => List.mem_singleton.1 he ▸ hid
    have hnext : (s.requeue [(kind, id)]).Undone (ids.map (kind, ·)) :=
      fun e he => mt (hone.done_iff e.1 e.2).1 (hids e he)
    rw [List.cons_append, firstRefusal?, hfirst, Option.none_or,
      ih hnext fun k hk => (hone.refusal?_eq_none force kind k).2 (hothers k hk), requeue_requeue]
    rfl

/-- As long as the tiles that a sweep takes up fit, all that it requests is handed out again. -/
theorem firstRefusal?_of_fits {s : Store} (hs : s.Schema) {aoi : String} {force : Bool}
    {before rest : List Tile} (hall : s.tilesToRetry aoi force = before ++ rest)
    (hbefore : ∀ u ∈ before, s.fits force u = true) :
    s.Undone ((s.scenesToRetry aoi force).map (.scene, ·.id) ++ before.map (.tile, ·.id)) ∧
    (s.requeue ((s.scenesToRetry aoi force).map (.scene, ·.id))).firstRefusal? force .tile
        ((s.tilesToRetry aoi force).map (·.id)) =
      (s.requeue ((s.scenesToRetry aoi force).map (.scene, ·.id) ++
        before.map (.tile, ·.id))).firstRefusal? force .tile (rest.map (·.id)) := by
  have hscenes := undone_scenesToRetry hs.toOrdered aoi force
  have hmem (u : Tile) (hu : u ∈ before) : u ∈ s.tilesToRetry aoi force := by
    rw [hall]
    exact List.mem_append_left _ hu
  have htiles := undone_tilesToRetry hs.toOrdered hmem
  refine ⟨fun e he => (List.mem_append.1 he).elim (hscenes e) (htiles e), ?_⟩
  have hlabels : (before.map (·.id)).map (EntityKind.tile, ·) = before.map (.tile, ·.id) :=
    List.map_map
  rw [hall, List.map_append, firstRefusal?_append, requeue_requeue, hlabels]
  · rw [hlabels]
    exact fun e he => mt (hscenes.done_iff e.1 e.2).1 (htiles e he)
  · intro id hid
    obtain ⟨u, hu, rfl⟩ := List.mem_map.1 hid
    rw [hscenes.refusal?_eq_none, ← Option.isNone_iff_eq_none]
    exact (isFree_tile hs (mem_tilesToRetry (hmem u hu)).1).trans (hbefore u hu)

/-- The first tile that does not fit is the first one that something keeps from being handed out
again, once all before it have been. -/
theorem firstRefusal?_of_not_fits {s : Store} (hs : s.Schema) {aoi : String} {force : Bool}
    {before after : List Tile} {t : Tile} (hall : s.tilesToRetry aoi force = before ++ t :: after)
    (hbefore : ∀ u ∈ before, s.fits force u = true) (hnot : s.fits force t = false) :
    ∃ reason,
      (s.requeue ((s.scenesToRetry aoi force).map (.scene, ·.id) ++
        before.map (.tile, ·.id))).obstacle? force t = some reason ∧
      (s.requeue ((s.scenesToRetry aoi force).map (.scene, ·.id))).firstRefusal? force .tile
        ((s.tilesToRetry aoi force).map (·.id)) = some (Cascade.notRequeued t reason) := by
  obtain ⟨hundone, hfirst⟩ := firstRefusal?_of_fits hs hall hbefore
  generalize hes : (s.scenesToRetry aoi force).map (EntityKind.scene, ·.id) ++
    before.map (EntityKind.tile, ·.id) = es at hundone hfirst ⊢
  have hmem : t ∈ s.tilesToRetry aoi force := by
    rw [hall]
    exact List.mem_append_right _ List.mem_cons_self
  have hthere := (mem_tilesToRetry hmem).1
  have hobstacle : (s.requeue es).obstacle? force t ≠ none := by
    rw [Ne, hundone.obstacle?_eq_none force rfl rfl, obstacle?_eq_none hs hthere, hnot]
    exact Bool.false_ne_true
  obtain ⟨reason, hreason⟩ := Option.ne_none_iff_exists'.1 hobstacle
  refine ⟨reason, hreason, ?_⟩
  -- The tile has not been handed out again before, as none is taken up twice.
  have hnodup := nodup_tilesToRetry hs.toOrdered aoi force
  rw [hall, List.map_append, List.map_cons] at hnodup
  have hfresh : (EntityKind.tile, t.id) ∉ es := by
    rw [← hes]
    intro he
    rcases List.mem_append.1 he with he | he
    · obtain ⟨x, -, hx⟩ := List.mem_map.1 he
      cases hx
    · obtain ⟨u, hu, heq⟩ := List.mem_map.1 he
      refine (List.nodup_append.1 hnodup).2.2 u.id (List.mem_map_of_mem hu) t.id
        List.mem_cons_self ?_
      exact (Prod.mk.inj heq).2
  rw [hfirst, List.map_cons, firstRefusal?, refusal?, tile?_requeue, hs.tile?_of_mem hthere,
    Option.map_some, if_neg hfresh, Option.bind_some, hreason]
  rfl

end SceneWorkflow.Store
