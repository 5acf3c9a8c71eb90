import SceneWorkflow.Proofs.UnitOfWork.Disturbance
import SceneWorkflow.Sweep

/-!
# What a sweep asks for

However its steps are answered, a sweep requests only what one of its listings has
shown it, in a status that it takes up, and it forces either all of its requests or
none. To carry it out is to carry out its parts in turn.
-/
namespace SceneWorkflow.Sweep

def Step.shows (force : Bool) : (i : Step) → Except Error i.Answer → List (EntityKind × Int)
  | .listScenes _, .ok scenes =>
    (scenes.filter fun x => isRetryable force x.status).map fun x => (.scene, x.id)
  | .listTiles _, .ok tiles =>
    (tiles.filter fun t => isRetryable force t.status).map fun t => (.tile, t.id)
  | _, _ => []

/-- If the step is a request, it is for a known entity and forced or not as given. -/
def Step.Asks (force : Bool) (known : List (EntityKind × Int)) : Step → Prop
  | requeue kind id f => f = force ∧ (kind, id) ∈ known
  | _ => True

variable {α β : Type} {force : Bool} {known : List (EntityKind × Int)}

/-- However the steps of a plan are answered, it requests only what is known at the start or has been
shown before. What is known in the end, and what the plan results in, satisfy a condition. -/
def Heeds (force : Bool) (known : List (EntityKind × Int)) (p : Plan α)
    (post : List (EntityKind × Int) → α → Prop) : Prop :=
  match p with
  | .done a => post known a
  | .step i next =>
    i.Asks force known ∧ ∀ answer, Heeds force (known ++ i.shows force answer) (next answer) post

namespace Heeds
variable {p : Plan α} {mid post : List (EntityKind × Int) → α → Prop}

theorem mono (h : Heeds force known p mid) (hpost : ∀ ks a, mid ks a → post ks a) :
    Heeds force known p post := by
  induction p generalizing known with
  | done a => exact hpost known a h
  | step i next ih => exact ⟨h.1, fun answer => ih answer (h.2 answer)⟩

theorem bind {f : α → Plan β} {post : List (EntityKind × Int) → β → Prop}
    (h : Heeds force known p mid) (hf : ∀ ks a, mid ks a → Heeds force ks (f a) post) :
    Heeds force known (p >>= f) post := by
  induction p generalizing known with
  | done a => exact hf known a h
  | step i next ih => exact ⟨h.1, fun answer => ih answer (h.2 answer)⟩

/-- Nothing that is known is forgotten. -/
theorem grows (h : Heeds force known p post) :
    Heeds force known p fun ks a => known ⊆ ks ∧ post ks a := by
  induction p generalizing known with
  | done a => exact ⟨List.Subset.refl _, h⟩
  | step i next ih =>
    refine ⟨h.1, fun answer => (ih answer (h.2 answer)).mono fun ks a hks => ?_⟩
    exact ⟨List.Subset.trans (List.subset_append_left ..) hks.1, hks.2⟩

end Heeds

/-! ### Plans that may fail -/

/-- The same for a plan that may fail; the condition is one on its success. -/
def Minds (force : Bool) (known : List (EntityKind × Int)) (x : ExceptT Error Plan α)
    (post : List (EntityKind × Int) → α → Prop) : Prop :=
  Heeds force known x.run fun ks result => ∀ a, result = .ok a → post ks a

theorem minds_pure {post : List (EntityKind × Int) → α → Prop} {a : α} (h : post known a) :
    Minds force known (pure a) post := by
  intro b hb
  cases hb
  exact h

theorem minds_throw {post : List (EntityKind × Int) → α → Prop} (e : Error) :
    Minds force known (throw e) post := nofun

theorem Minds.bind {x : ExceptT Error Plan α} {f : α → ExceptT Error Plan β}
    {mid : List (EntityKind × Int) → α → Prop} {post : List (EntityKind × Int) → β → Prop}
    (hx : Minds force known x mid) (hf : ∀ ks a, mid ks a → Minds force ks (f a) post) :
    Minds force known (x >>= f) post := by
  apply Heeds.bind hx
  intro ks result hmid
  cases result with
  | ok a => exact hf ks a (hmid a rfl)
  | error e => exact minds_throw e

theorem Minds.grows {x : ExceptT Error Plan α} {post : List (EntityKind × Int) → α → Prop}
    (hx : Minds force known x post) :
    Minds force known x fun ks a => known ⊆ ks ∧ post ks a :=
  (Heeds.grows hx).mono fun _ _ h a ha => ⟨h.1, h.2 a ha⟩

theorem minds_demand {i : Step} (hi : i.Asks force known) :
    Minds force known (demand i) fun ks a => ks = known ++ i.shows force (.ok a) := by
  refine ⟨hi, fun answer a ha => ?_⟩
  rw [ha]

theorem minds_attempt {i : Step} (hi : i.Asks force known) :
    Minds force known (attempt i) fun ks answer => ks = known ++ i.shows force answer := by
  refine ⟨hi, fun answer a ha => ?_⟩
  cases ha
  rfl

/-! ### The sweep -/

theorem minds_requeueAll {kind : EntityKind} {ids : List Int}
    (hids : ∀ id ∈ ids, (kind, id) ∈ known) (tally : Tally) :
    Minds force known (requeueAll kind force ids tally) fun _ _ => True := by
  induction ids generalizing tally with
  | nil => exact minds_pure trivial
  | cons id rest ih =>
    have hrest := ih fun k hk => hids k (List.mem_cons_of_mem _ hk)
    refine (minds_attempt (i := .requeue kind id force) ⟨rfl, hids id List.mem_cons_self⟩).bind ?_
    intro ks outcome hks
    obtain rfl : ks = known := hks.trans (List.append_nil known)
    split
    · exact hrest _
    · exact hrest _
    · split
      · exact minds_throw _
      · exact hrest _

def Covers (force : Bool) (known : List (EntityKind × Int)) (tiles : List Tile) : Prop :=
  ∀ t ∈ tiles, isRetryable force t.status = true → (.tile, t.id) ∈ known

theorem covers_shows (filter : TileFilter) (tiles : List Tile) :
    Covers force ((Step.listTiles filter).shows force (.ok tiles)) tiles :=
  fun _ ht hstatus => List.mem_map_of_mem (List.mem_filter.2 ⟨ht, hstatus⟩)

theorem Covers.mono {more : List (EntityKind × Int)} {tiles : List Tile}
    (h : Covers force known tiles) (hmore : known ⊆ more) : Covers force more tiles :=
  fun t ht hstatus => hmore (h t ht hstatus)

theorem Covers.append {tiles others : List Tile} (h : Covers force known tiles)
    (h' : Covers force known others) : Covers force known (tiles ++ others) :=
  fun t ht => (List.mem_append.1 ht).elim (h t) (h' t)

theorem minds_tilesOfScenes (ids : List Int) (tally : Tally) :
    Minds force known (tilesOfScenes ids tally) fun ks found => Covers force ks found.1 := by
  induction ids generalizing known tally with
  | nil => exact minds_pure fun _ ht => absurd ht List.not_mem_nil
  | cons id rest ih =>
    refine (minds_attempt (i := .listTiles { scene := some id }) trivial).bind ?_
    intro ks found hks
    cases found with
    | error e => exact ih _
    | ok tiles =>
      have hshown : Covers force ks tiles := by
        rw [hks]
        exact (covers_shows _ tiles).mono (List.subset_append_right ..)
      refine (ih tally).grows.bind fun more others hothers => minds_pure ?_
      exact (hshown.mono hothers.1).append hothers.2

theorem minds_listTiles (aoi : String) (scenes : List Scene) (tally : Tally) :
    Minds force known (listTiles aoi scenes tally force) fun ks found =>
      Covers force ks found.1 := by
  unfold listTiles
  split
  · exact minds_tilesOfScenes _ _
  · refine (minds_demand (i := .listTiles { aoi := some aoi, status := some .retry }) trivial).bind ?_
    intro ks tiles hks
    refine minds_pure ?_
    rw [hks]
    exact (covers_shows _ tiles).mono (List.subset_append_right ..)

/-- A sweep requests only what it has been shown. -/
theorem minds_plan (aoi : String) (force : Bool) :
    Minds force [] (plan aoi force) fun _ _ => True := by
  refine (minds_demand (i := .findAoi aoi) trivial).bind fun ks _ hks => ?_
  obtain rfl : ks = [] := hks
  refine (minds_demand (i := .listScenes aoi) trivial).bind fun ks scenes hks => ?_
  have hscenes : ∀ id ∈ (scenes.filter fun x => isRetryable force x.status).map (·.id),
      (EntityKind.scene, id) ∈ ks := by
    intro id hid
    obtain ⟨x, hx, rfl⟩ := List.mem_map.1 hid
    rw [hks]
    exact List.mem_map_of_mem hx
  refine (minds_requeueAll hscenes _).bind fun ks tally _ => ?_
  refine (minds_listTiles aoi scenes tally).bind fun ks found hfound => ?_
  have htiles : ∀ id ∈ (found.1.filter fun t => isRetryable force t.status).map (·.id),
      (EntityKind.tile, id) ∈ ks := by
    intro id hid
    obtain ⟨t, ht, rfl⟩ := List.mem_map.1 hid
    obtain ⟨ht, hstatus⟩ := List.mem_filter.1 ht
    exact hfound t ht hstatus
  refine (minds_requeueAll htiles _).bind fun ks total _ => ?_
  split
  · exact minds_throw _
  · exact minds_pure trivial

/-! ### Carrying it out -/

variable {σ : Type} [Sink σ]

def carryOut (x : ExceptT Error Plan α) : Operation σ α := do
  Operation.give (← x.run.interpret tryStep)

theorem retryAoi_eq_carryOut (aoi : String) (force : Bool) :
    retryAoi (σ := σ) aoi force = carryOut (plan aoi force) := rfl

theorem carryOut_bind (x : ExceptT Error Plan α) (f : α → ExceptT Error Plan β) :
    carryOut (σ := σ) (x >>= f) = carryOut x >>= fun a => carryOut (f a) := by
  unfold carryOut
  rw [ExceptT.run_bind, Program.interpret_bind, bind_assoc, bind_assoc]
  congr 1
  funext result
  cases result with
  | ok a => rfl
  | error e => rfl

theorem carryOut_demand (i : Step) : carryOut (σ := σ) (demand i) = takeStep i := by
  unfold carryOut demand
  rw [ExceptT.run_mk, Program.interpret_perform]
  funext w
  rfl

section
variable {i : Step} {f : i.Answer → ExceptT Error Plan β} {w : World σ}

theorem carryOut_demand_of_ok {a : i.Answer} (h : (takeStep i w).1 = .ok a) :
    carryOut (demand i >>= f) w = carryOut (f a) (takeStep i w).2 := by
  rw [← carryOut_demand] at h ⊢
  rw [carryOut_bind, Operation.bind_of_ok h]

theorem carryOut_demand_of_error {e : Error} (h : (takeStep i w).1 = .error e) :
    carryOut (demand i >>= f) w = (.error e, (takeStep i w).2) := by
  rw [← carryOut_demand] at h ⊢
  rw [carryOut_bind, Operation.bind_of_error h]

end

theorem carryOut_attempt_bind (i : Step) (f : Except Error i.Answer → ExceptT Error Plan β)
    (w : World σ) :
    carryOut (attempt i >>= f) w = carryOut (f (takeStep i w).1) (takeStep i w).2 := by
  rw [carryOut_bind]
  rfl

def requests (aoi : String) (force : Bool) (scenes : List Scene) : ExceptT Error Plan Tally := do
  let tally ← requeueAll .scene force
    ((scenes.filter fun x => isRetryable force x.status).map (·.id)) {}
  let (tiles, tally) ← listTiles aoi scenes tally force
  let tally ← requeueAll .tile force
    ((tiles.filter fun t => isRetryable force t.status).map (·.id)) tally
  match tally.failure with
  | some e => throw e
  | none => return tally

theorem carryOut_plan (aoi : String) (force : Bool) :
    carryOut (σ := σ) (plan aoi force) = takeStep (.findAoi aoi) >>= fun _ =>
      takeStep (.listScenes aoi) >>= fun scenes => carryOut (requests aoi force scenes) := by
  have hplan : plan aoi force = demand (.findAoi aoi) >>= fun _ =>
      demand (.listScenes aoi) >>= fun scenes => requests aoi force scenes := rfl
  rw [hplan, carryOut_bind, carryOut_demand]
  congr 1
  funext _
  rw [carryOut_bind, carryOut_demand]

end SceneWorkflow.Sweep
