import SceneWorkflow.Proofs.Cascade.Handover

/-!
# Sound stores

The invariant of unforced work: the schema, rows that can be read, the life cycle
and the rule on references. Each change of the store that a cascade consists of
keeps it.
-/
namespace SceneWorkflow
namespace Store
variable {s s' : Store} {f t : Tile} {x : Scene} {u : StatusUpdate} {message : Option String}
  {doomed rest : List Int} {p : Tile → Bool}

/-- A store that unforced work may leave. Doomed tiles are about to fail with their scene. -/
structure Sound (doomed : List Int) (s : Store) : Prop
    extends Schema s, Legible s, Lifecycle doomed s where
  compared : Compared doomed s

theorem Sound.of_sameRows (h : Sound doomed s) (hsame : SameRows s s') : Sound doomed s' where
  toSchema := h.toSchema.of_sameRows hsame
  toLegible := h.toLegible.of_sameRows hsame
  toLifecycle := h.toLifecycle.of_sameRows hsame
  compared := h.compared.of_sameRows hsame

theorem sound_empty : Sound [] {} where
  toSchema := schema_empty
  toLegible := by constructor <;> simp
  toLifecycle := by constructor <;> simp
  compared := by
    intro t ht
    cases ht

/-- A tile that goes on is compared with none that has been given up. -/
theorem Sound.not_givenUp (h : Sound doomed s) (ht : t ∈ s.tiles) (hlive : t.status ≠ .failed)
    (hd : t.id ∉ doomed) : ¬ GivenUp s t.reference := by
  rintro ⟨id, r, href, hr, hfailed, hnone⟩
  exact h.compared t ht hlive hd id r href hr hfailed hnone

/-- What a tile follows that has been started is done. -/
theorem Sound.previous_done (h : Sound doomed s) (ht : t ∈ s.tiles)
    (ha : t.status.isActive = true) {id : Int} (hid : t.previous = some id) :
    s.tileStatus? id = some .done := by
  have hready := ((h.fits t ht).scene_of_active ha).2
  have hlinked := h.previous_exists t ht
  rw [hid] at hlinked
  obtain ⟨p, hp⟩ := Option.isSome_iff_exists.1 hlinked
  rw [previousStatus?_of_tile? hid hp] at hready
  rw [tileStatus?_of_tile? hp]
  exact hready.resolve_left (Option.some_ne_none _)

/-! ### Rows that can be read -/

theorem Legible.start (h : s.Legible) (p : Tile → Bool) : (s.start p).Legible := by
  rw [start_eq]
  exact h.mapTiles h.tile_legible

/-- Taking one off a budget that is not used up leaves one that can be read. -/
theorem legible_consumed {consume : Bool} {budget : Int} (h : leastBudget ≤ budget)
    (hpos : consume = true → 0 < budget) :
    leastBudget ≤ if consume then budget - 1 else budget := by
  unfold leastBudget at *
  split
  · next hc =>
    have := hpos hc
    omega
  · exact h

theorem Legible.setTile (h : s.Legible) (hs : s.Ordered) (hf : s.tile? f.id = some f)
    (hpos : u.consume = true → 0 < f.budget) : (s.setTile f.id u).Legible := by
  apply Legible.mapTiles h
  intro t ht
  have hread := h.tile_legible t ht
  split
  · next hid =>
    obtain rfl := hs.eq_of_id ht (mem_of_tile? hf) (eq_of_beq hid)
    exact legible_consumed hread hpos
  · exact hread

theorem Legible.setScene (h : s.Legible) (hs : s.Ordered) (hx : s.scene? x.id = some x)
    (hpos : u.consume = true → 0 < x.budget) : (s.setScene x.id u).Legible where
  scene_legible := by
    intro y hy
    obtain ⟨z, hz, rfl⟩ := List.mem_map.1 hy
    have hread := h.scene_legible z hz
    split
    · next hid =>
      have hzx := hs.scene?_of_mem hz
      rw [eq_of_beq hid, hx] at hzx
      cases hzx
      exact legible_consumed hread hpos
    · exact hread
  tile_legible := h.tile_legible

theorem Legible.failTile (h : s.Legible) (f : Tile) (message : Option String) :
    (s.failTile f message).Legible :=
  h.mapTiles h.tile_legible

/-! ### Rows that name each other -/

theorem Schema.start (h : s.Schema) (p : Tile → Bool) : (s.start p).Schema := h.setStatus

theorem Schema.setTile (h : s.Schema) (hf : s.tile? f.id = some f) (u : StatusUpdate) :
    (s.setTile f.id u).Schema :=
  h.updateTile (updateTile_eq_ok.2 ⟨by rw [hf]; rfl, rfl⟩)

theorem Schema.setScene (h : s.Schema) (id : Int) (u : StatusUpdate) : (s.setScene id u).Schema :=
  h.modifyScenes (fun _ => rfl) fun _ => rfl

theorem Schema.failTile (h : s.Schema) (hf : s.tile? f.id = some f)
    (hself : f.previous ≠ some f.id) (message : Option String) : (s.failTile f message).Schema := by
  rw [← Cascade.setTilesStatus_splice h.toOrdered]
  exact (Cascade.schema_splice h hf hself).setStatus

/-! ### Each change -/

namespace Sound

/-- Changes that make no tile fail keep what is sound but for the life cycle. -/
theorem of_handed (h : Sound [] s) (hs : s'.Schema) (hl : s'.Legible) (hlife : Lifecycle [] s')
    (hh : Handed [] [] s s') : Sound [] s' where
  toSchema := hs
  toLegible := hl
  toLifecycle := hlife
  compared := h.compared.of_handed hh hs.toOrdered

variable (h : Sound [] s)
include h

/-- A tile that is worked on and does not fail hands nothing over. -/
theorem handed_setTile (hf : s.tile? f.id = some f) (ha : f.status.isActive = true)
    (hu : u.status ≠ .failed) : Handed [] [] s (s.setTile f.id u) :=
  .setTile h.toOrdered hf (Status.ne_failed_of_isActive ha) hu []

theorem setTile (hf : s.tile? f.id = some f) (ha : f.status.isActive = true)
    (hu : u.status.isActive = true) (hclear : u.clearPrevious = false)
    (hpos : u.consume = true → 0 < f.budget) : Sound [] (s.setTile f.id u) :=
  h.of_handed (h.toSchema.setTile hf u) (h.toLegible.setTile h.toOrdered hf hpos)
    (h.toLifecycle.setTile h.toOrdered hf ha hu hclear)
    (h.handed_setTile hf ha (Status.ne_failed_of_isActive hu))

theorem handed_finishTile (hf : s.tile? f.id = some f) (ha : f.status.isActive = true)
    (hu : u.status = .done) :
    Handed [] [] s ((s.setTile f.id u).start ((s.setTile f.id u).waitsFor f.id)) :=
  (h.handed_setTile hf ha (by simp [hu])).trans (.start (fun _ _ => waitsFor_new) [])

/-- A tile that is worked on is done, and those that waited for it start. -/
theorem finishTile (hf : s.tile? f.id = some f) (ha : f.status.isActive = true)
    (hu : u.status = .done) (hclear : u.clearPrevious = false) (hconsume : u.consume = false) :
    Sound [] ((s.setTile f.id u).start ((s.setTile f.id u).waitsFor f.id)) := by
  refine h.of_handed ((h.toSchema.setTile hf u).start _) ?_
    (h.toLifecycle.finishTile h.toOrdered hf ha hu hclear) (h.handed_finishTile hf ha hu)
  refine Legible.start (h.toLegible.setTile h.toOrdered hf ?_) _
  rw [hconsume]
  nofun

omit h in
theorem handed_setScene (s : Store) (id : Int) (u : StatusUpdate) (doomed : List Int) :
    Handed doomed doomed s (s.setScene id u) :=
  .of_tiles (modifyScenes_tiles s _ _) doomed

theorem setScene (hx : s.scene? x.id = some x) (ha : x.status.isActive = true)
    (hu : u.status.isActive = true) (hpos : u.consume = true → 0 < x.budget) :
    Sound [] (s.setScene x.id u) :=
  h.of_handed (h.toSchema.setScene x.id u) (h.toLegible.setScene h.toOrdered hx hpos)
    (h.toLifecycle.setScene hx ha hu) (handed_setScene s x.id u [])

omit h in
theorem handed_finishScene (s : Store) (id : Int) (u : StatusUpdate) :
    Handed [] [] s ((s.setScene id u).startScene id) :=
  (handed_setScene s id u []).trans
    (.trans (.start (fun _ _ => isHead_new) []) (.start (fun _ _ => followsDone_new) []))

/-- A scene that is worked on is done, and those of its tiles start that wait for nothing else. -/
theorem finishScene (hx : s.scene? x.id = some x) (ha : x.status.isActive = true)
    (hu : u.status = .done) (hconsume : u.consume = false) :
    Sound [] ((s.setScene x.id u).startScene x.id) := by
  refine h.of_handed (((h.toSchema.setScene x.id u).start _).start _) ?_
    (h.toLifecycle.finishScene h.toSchema hx ha hu) (handed_finishScene s x.id u)
  refine Legible.start (Legible.start (h.toLegible.setScene h.toOrdered hx ?_) _) _
  rw [hconsume]
  nofun

/-- A scene that is worked on fails, and its tiles are doomed. -/
theorem doom (hx : s.scene? x.id = some x) (ha : x.status.isActive = true)
    (hu : u.status = .failed) (hconsume : u.consume = false) :
    Sound ((s.tiles.filter fun t => t.scene == x.id).map (·.id)) (s.setScene x.id u) where
  toSchema := h.toSchema.setScene x.id u
  toLegible := by
    apply h.toLegible.setScene h.toOrdered hx
    rw [hconsume]
    nofun
  toLifecycle := h.toLifecycle.doom h.toSchema hx ha hu
  compared := fun t ht hlive _ => h.compared t ht hlive List.not_mem_nil

end Sound

theorem Sound.failTile (h : Sound doomed s) (hf : s.tile? f.id = some f)
    (hdue : f.id ∈ doomed ∨ f.status.isActive = true)
    (hrest : ∀ id, id ∈ rest ↔ id ∈ doomed ∧ id ≠ f.id) (hdistinct : rest.Nodup)
    (message : Option String) : Sound rest (s.failTile f message) := by
  have hmem := mem_of_tile? hf
  have hdone := h.toLifecycle.ne_done hmem hdue
  exact {
    toSchema := h.toSchema.failTile hf (h.toLifecycle.previous_ne_self hmem) message
    toLegible := h.toLegible.failTile f message
    toLifecycle := h.toLifecycle.failTile h.toSchema hf hdue hrest hdistinct
    compared := h.compared.failTile h.toLifecycle h.toSchema hf hdone hrest }

end Store
end SceneWorkflow
