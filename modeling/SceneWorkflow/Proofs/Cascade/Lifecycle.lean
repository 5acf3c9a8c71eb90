import SceneWorkflow.Proofs.Cascade.Failure

/-!
# Where tiles stand

A tile starts when its scene is done and the tile it follows is done, not before
and not later. While a scene takes its tiles with it one after the other, those that
have yet to fail are exempt: they are doomed.
-/
namespace SceneWorkflow
namespace Store
variable {s s' : Store} {f t : Tile} {message : Option String} {doomed rest : List Int}

def previousStatus? (s : Store) (t : Tile) : Option Status := t.previous.bind s.tileStatus?

/-- Where a tile may stand, given where its scene and the tile it follows stand. -/
def Fits (doomed : Prop) (scene previous : Option Status) : Status → Prop
  | .new => previous ≠ some .failed ∧
      (doomed ∧ scene = some .failed ∨
        ¬ doomed ∧ (scene = some .pending ∨ scene = some .retry ∨
          scene = some .done ∧ previous ≠ none ∧ previous ≠ some .done))
  | .failed => ¬ doomed ∧ previous = none ∧ (scene = some .done ∨ scene = some .failed)
  | _ => ¬ doomed ∧ scene = some .done ∧ (previous = none ∨ previous = some .done)

/-- Every tile stands where it may, and tiles follow older ones. The doomed tiles are those of one
scene. -/
structure Lifecycle (doomed : List Int) (s : Store) : Prop where
  scene_taken_up : ∀ x ∈ s.scenes, x.status ≠ .new
  previous_lt : ∀ t ∈ s.tiles, ∀ id, t.previous = some id → id < t.id
  fits : ∀ t ∈ s.tiles,
    Fits (t.id ∈ doomed) (s.sceneStatus? t.scene) (s.previousStatus? t) t.status
  doomed_exist : ∀ id ∈ doomed, (s.tile? id).isSome
  doomed_distinct : doomed.Nodup
  doomed_together : ∀ t ∈ s.tiles, ∀ u ∈ s.tiles, t.id ∈ doomed → u.id ∈ doomed →
    t.scene = u.scene

theorem SameRows.previousStatus? (h : SameRows s s') (t : Tile) :
    s'.previousStatus? t = s.previousStatus? t := by
  have hstatus : s'.tileStatus? = s.tileStatus? := funext h.tileStatus?
  rw [Store.previousStatus?, hstatus, Store.previousStatus?]

/-- The life cycle does not depend on more of the scenes than where they stand. -/
theorem Lifecycle.congr (h : Lifecycle doomed s) (htiles : s'.tiles = s.tiles)
    (htaken : ∀ x ∈ s'.scenes, x.status ≠ .new)
    (hscene : ∀ t ∈ s.tiles, s'.sceneStatus? t.scene = s.sceneStatus? t.scene) :
    Lifecycle doomed s' := by
  have htile (id : Int) : s'.tile? id = s.tile? id := by
    rw [tile?, htiles, tile?]
  have hstatus : s'.tileStatus? = s.tileStatus? := by
    funext id
    rw [tileStatus?, htile, tileStatus?]
  constructor
  · exact htaken
  · rw [htiles]
    exact h.previous_lt
  · intro t ht
    rw [htiles] at ht
    rw [hscene t ht, previousStatus?, hstatus]
    exact h.fits t ht
  · intro id hid
    rw [htile]
    exact h.doomed_exist id hid
  · exact h.doomed_distinct
  · rw [htiles]
    exact h.doomed_together

theorem Lifecycle.of_sameRows (h : Lifecycle doomed s) (hsame : SameRows s s') :
    Lifecycle doomed s' := by
  refine h.congr hsame.tiles ?_ fun t _ => hsame.sceneStatus? t.scene
  rw [hsame.scenes]
  exact h.scene_taken_up

theorem previousStatus?_eq_none (hs : s.Schema) (ht : t ∈ s.tiles) :
    s.previousStatus? t = none ↔ t.previous = none := by
  have hlinked := hs.previous_exists t ht
  unfold previousStatus?
  cases hp : t.previous with
  | none => simp
  | some id =>
    rw [hp] at hlinked
    obtain ⟨p, hp⟩ := Option.isSome_iff_exists.1 hlinked
    simp [tileStatus?_of_tile? hp]

/-- A rewriting of tiles that keeps ids, scenes and the order of links keeps the life cycle if every
row it makes fits. -/
theorem Lifecycle.mapTiles {g : Tile → Tile} (h : Lifecycle doomed s) (hid : ∀ t, (g t).id = t.id)
    (hscene : ∀ t, (g t).scene = t.scene)
    (hlt : ∀ t ∈ s.tiles, ∀ id, (g t).previous = some id → id < t.id)
    (hrest : ∀ id ∈ rest, id ∈ doomed) (hdistinct : rest.Nodup)
    (hfits : ∀ t ∈ s.tiles,
      Fits (t.id ∈ rest) (s.sceneStatus? t.scene) ((s.mapTiles g).previousStatus? (g t))
        (g t).status) :
    Lifecycle rest (s.mapTiles g) where
  scene_taken_up := h.scene_taken_up
  previous_lt := by
    intro t ht
    obtain ⟨u, hu, rfl⟩ := mem_mapTiles.1 ht
    rw [hid]
    exact hlt u hu
  fits := by
    intro t ht
    obtain ⟨u, hu, rfl⟩ := mem_mapTiles.1 ht
    rw [hid, hscene]
    exact hfits u hu
  doomed_exist := by
    intro id hmem
    rw [tile?_mapTiles hid, Option.isSome_map]
    exact h.doomed_exist id (hrest id hmem)
  doomed_distinct := hdistinct
  doomed_together := by
    intro t ht u hu
    obtain ⟨t, ht', rfl⟩ := mem_mapTiles.1 ht
    obtain ⟨u, hu', rfl⟩ := mem_mapTiles.1 hu
    rw [hid, hid, hscene, hscene]
    exact fun h₁ h₂ => h.doomed_together t ht' u hu' (hrest _ h₁) (hrest _ h₂)

/-! ### What fits -/

/-- Of the predecessor it only counts whether it is done or failed. -/
theorem Fits.congr_previous {dead : Prop} {scene previous previous' : Option Status} {st : Status}
    (h : Fits dead scene previous st) (hnone : previous' = none ↔ previous = none)
    (hdone : previous' = some .done ↔ previous = some .done)
    (hfailed : previous' = some .failed ↔ previous = some .failed) :
    Fits dead scene previous' st := by
  cases st <;> simpa only [Fits, hnone, hdone, hfailed, ne_eq] using h

theorem Fits.new_of_previous {dead : Prop} {scene : Option Status} {p st : Status}
    (h : Fits dead scene (some p) st) (hp : p ≠ .done) : st = .new := by
  cases st with
  | new => rfl
  | failed => exact absurd h.2.1 (Option.some_ne_none p)
  | pending | done | retry =>
    rcases h.2.2 with h | h
    · exact absurd h (Option.some_ne_none p)
    · exact absurd (Option.some.inj h) hp

theorem Fits.new_of_scene {dead : Prop} {scene st : Status} {previous : Option Status}
    (h : Fits dead (some scene) previous st) (ha : scene.isActive = true) : st = .new := by
  cases st with
  | new => rfl
  | failed =>
    rcases h.2.2 with h | h <;> cases h <;> cases ha
  | pending | done | retry =>
    cases h.2.1
    cases ha

theorem Fits.previous_ne_failed {dead : Prop} {scene previous : Option Status} {st : Status}
    (h : Fits dead scene previous st) : previous ≠ some .failed := by
  intro hp
  subst hp
  cases st with
  | new => exact h.1 rfl
  | failed => exact absurd h.2.1 (Option.some_ne_none _)
  | pending | done | retry =>
    rcases h.2.2 with h | h <;> cases h

theorem Fits.of_doomed {dead : Prop} {scene previous : Option Status} {st : Status}
    (h : Fits dead scene previous st) (hd : dead) : st = .new ∧ scene = some .failed := by
  cases st with
  | new => exact ⟨rfl, (h.2.resolve_right fun hn => hn.1 hd).2⟩
  | failed | pending | done | retry => exact absurd hd h.1

/-- Work on a tile is handed out once its scene is done. -/
theorem Fits.scene_of_active {dead : Prop} {scene previous : Option Status} {st : Status}
    (h : Fits dead scene previous st) (ha : st.isActive = true) :
    scene = some .done ∧ (previous = none ∨ previous = some .done) := by
  cases st with
  | new | failed | done => cases ha
  | pending | retry => exact ⟨h.2.1, h.2.2⟩

/-- A tile of a failed scene has failed or is doomed. -/
theorem Fits.of_scene_failed {dead : Prop} {previous : Option Status} {st : Status}
    (h : Fits dead (some .failed) previous st) : st = .failed ∨ dead := by
  cases st with
  | new =>
    refine .inr ?_
    rcases h.2 with h | ⟨-, h | h | h⟩
    · exact h.1
    · cases h
    · cases h
    · cases h.1
  | failed => exact .inl rfl
  | pending | done | retry => cases h.2.1

/-- A tile that goes on is in a scene that goes on. -/
theorem Lifecycle.inLiveScene (h : Lifecycle doomed s) (ht : t ∈ s.tiles)
    (hlive : t.status ≠ .failed) (hd : t.id ∉ doomed) : s.inLiveScene t = true := by
  have hfits := h.fits t ht
  rw [Store.inLiveScene, bne_iff_ne]
  intro hscene
  rw [hscene] at hfits
  exact hfits.of_scene_failed.elim hlive hd

/-! ### The failure of a tile -/

theorem previousStatus?_of_tile? {p : Tile} {id : Int} (hprevious : t.previous = some id)
    (hp : s.tile? id = some p) : s.previousStatus? t = some p.status := by
  rw [previousStatus?, hprevious]
  exact tileStatus?_of_tile? hp

theorem Lifecycle.previous_ne_self (h : Lifecycle doomed s) (hf : f ∈ s.tiles) :
    f.previous ≠ some f.id :=
  fun hself => Int.lt_irrefl _ (h.previous_lt f hf f.id hself)

/-- The followers of a tile that is not done have not started. -/
theorem Lifecycle.follower_new (h : Lifecycle doomed s) (hf : s.tile? f.id = some f)
    (hdone : f.status ≠ .done) (ht : t ∈ s.tiles) (hp : t.previous = some f.id) :
    t.status = .new := by
  have hfits := h.fits t ht
  rw [previousStatus?_of_tile? hp hf] at hfits
  exact hfits.new_of_previous hdone

theorem Lifecycle.ne_done (h : Lifecycle doomed s) (hf : f ∈ s.tiles)
    (hdue : f.id ∈ doomed ∨ f.status.isActive = true) : f.status ≠ .done := by
  rcases hdue with hd | ha
  · rw [((h.fits f hf).of_doomed hd).1]
    nofun
  · exact Status.ne_done_of_isActive ha

/-- The predecessor of a tile that may fail now goes on, or fails with it. -/
theorem Lifecycle.previous_alive (h : Lifecycle doomed s) (hf : f ∈ s.tiles)
    (hdue : f.id ∈ doomed ∨ f.status.isActive = true) {id : Int} {p : Tile}
    (hprevious : f.previous = some id) (hp : s.tile? id = some p) :
    p.status ≠ .failed ∧ (p.scene = f.scene ∨ s.sceneStatus? p.scene ≠ some .failed) := by
  have hfits := h.fits f hf
  rw [previousStatus?_of_tile? hprevious hp] at hfits
  have hlive : p.status ≠ .failed := fun he => hfits.previous_ne_failed (congrArg some he)
  refine ⟨hlive, ?_⟩
  by_cases hscene : s.sceneStatus? p.scene = some .failed
  · have hpfits := h.fits p (mem_of_tile? hp)
    rw [hscene] at hpfits
    have hd := hpfits.of_scene_failed.resolve_left hlive
    rcases hdue with hfd | ha
    · exact .inl (h.doomed_together p (mem_of_tile? hp) f hf hd hfd)
    · rcases (hfits.scene_of_active ha).2 with hnone | hdone
      · cases hnone
      · rw [(hpfits.of_doomed hd).1] at hdone
        cases hdone
  · exact .inr hscene

theorem failRow_status (s : Store) (f : Tile) (message : Option String) (t : Tile) :
    (s.failRow f message t).status =
      if s.frees f t then .pending else if t.id = f.id then .failed else t.status := rfl

theorem failRow_previous (s : Store) (f : Tile) (message : Option String) (t : Tile) :
    (s.failRow f message t).previous =
      if t.id = f.id then none
      else if t.previous = some f.id then f.previous
      else t.previous := rfl

theorem tile?_failTile (s : Store) (f : Tile) (message : Option String) (id : Int) :
    (s.failTile f message).tile? id = (s.tile? id).map (s.failRow f message) :=
  tile?_mapTiles (f := s.failRow f message) (fun _ => rfl) s id

theorem frees_eq_true : s.frees f t = true ↔
    t.previous = some f.id ∧ (∀ id, f.previous = some id → s.tileStatus? id = some .done) ∧
      s.sceneStatus? t.scene = some .done := by
  cases hp : f.previous <;> simp [frees, hp, and_assoc]

theorem tileStatus?_failTile (s : Store) (f : Tile) (message : Option String) (id : Int) :
    (s.failTile f message).tileStatus? id =
      (s.tile? id).map fun t => (s.failRow f message t).status := by
  rw [tileStatus?, tile?_failTile, Option.map_map]
  rfl

/-- Another tile stands where it stood, unless it has just started. -/
theorem Lifecycle.tileStatus?_failTile (h : Lifecycle doomed s) (hf : s.tile? f.id = some f)
    (hdone : f.status ≠ .done) (message : Option String) {id : Int} (hne : id ≠ f.id) :
    (s.failTile f message).tileStatus? id = s.tileStatus? id ∨
      s.tileStatus? id = some .new ∧ (s.failTile f message).tileStatus? id = some .pending := by
  rw [Store.tileStatus?_failTile, tileStatus?]
  cases ht : s.tile? id with
  | none => exact .inl rfl
  | some t =>
    have hid : t.id ≠ f.id := by
      rw [tile?_id ht]
      exact hne
    simp only [Option.map_some, failRow_status, hid, if_false]
    split
    · next hfrees =>
      have hnew := h.follower_new hf hdone (mem_of_tile? ht) (frees_eq_true.1 hfrees).1
      exact .inr ⟨congrArg some hnew, rfl⟩
    · exact .inl rfl

/-- The follower of a tile that fails starts if nothing else keeps it waiting, and stands where it
may then. -/
theorem Fits.inherit {dead : Prop} {scene previous : Option Status} {st : Status}
    (h : Fits dead scene (some st) .new) (hprevious : previous ≠ some .failed) :
    Fits dead scene previous
      (if (previous = none ∨ previous = some .done) ∧ scene = some .done then .pending
        else .new) := by
  split
  · next hstart =>
    refine ⟨?_, hstart.2, hstart.1⟩
    intro hd
    have hfailed := (h.of_doomed hd).2
    rw [hstart.2] at hfailed
    cases hfailed
  · next hwait =>
    refine ⟨hprevious, ?_⟩
    rcases h.2 with h | ⟨hd, h | h | h⟩
    · exact .inl h
    · exact .inr ⟨hd, .inl h⟩
    · exact .inr ⟨hd, .inr (.inl h)⟩
    · refine .inr ⟨hd, .inr (.inr ⟨h.1, ?_, ?_⟩)⟩
      · exact fun hnone => hwait ⟨.inl hnone, h.1⟩
      · exact fun hdone => hwait ⟨.inr hdone, h.1⟩

theorem frees_of_follower (hs : s.Schema) (hf : f ∈ s.tiles) (hp : t.previous = some f.id) :
    s.frees f t = true ↔
      (s.previousStatus? f = none ∨ s.previousStatus? f = some .done) ∧
        s.sceneStatus? t.scene = some .done := by
  rw [frees_eq_true, previousStatus?_eq_none hs hf]
  constructor
  · rintro ⟨-, hdone, hscene⟩
    refine ⟨?_, hscene⟩
    cases hprevious : f.previous with
    | none => exact .inl rfl
    | some id =>
      rw [previousStatus?, hprevious]
      exact .inr (hdone id hprevious)
  · rintro ⟨hprevious, hscene⟩
    refine ⟨hp, ?_, hscene⟩
    intro id hid
    rcases hprevious with hnone | hdone
    · rw [hid] at hnone
      cases hnone
    · rwa [previousStatus?, hid] at hdone

theorem Lifecycle.inherited_previous (h : Lifecycle doomed s) (hf : s.tile? f.id = some f)
    {id : Int} (hid : f.previous = some id) :
    (s.failTile f message).tileStatus? id = s.tileStatus? id := by
  have hlt := h.previous_lt f (mem_of_tile? hf) id hid
  rw [Store.tileStatus?_failTile, tileStatus?]
  cases hp : s.tile? id with
  | none => rfl
  | some p =>
    have hpid := tile?_id hp
    have hne : p.id ≠ f.id := by omega
    have hstays : s.frees f p = false := by
      apply Bool.eq_false_iff.2
      intro hfrees
      have := h.previous_lt p (mem_of_tile? hp) f.id (frees_eq_true.1 hfrees).1
      omega
    simp only [Option.map_some, failRow_status, hstays, hne, if_false, Bool.false_eq_true]

theorem Lifecycle.previous_lt_failRow (h : Lifecycle doomed s) (hf : f ∈ s.tiles) (ht : t ∈ s.tiles)
    {id : Int} (hid : (s.failRow f message t).previous = some id) : id < t.id := by
  rw [failRow_previous] at hid
  split at hid
  · cases hid
  · split at hid
    · next hp => exact Int.lt_trans (h.previous_lt f hf id hid) (h.previous_lt t ht f.id hp)
    · exact h.previous_lt t ht id hid

/-- The failing tile stands where it may once it is off the doomed ones. -/
theorem Lifecycle.fits_failing (h : Lifecycle doomed s) (hf : f ∈ s.tiles)
    (hdue : f.id ∈ doomed ∨ f.status.isActive = true) (hoff : f.id ∉ rest) :
    Fits (f.id ∈ rest) (s.sceneStatus? f.scene)
      ((s.failTile f message).previousStatus? (s.failRow f message f))
      (s.failRow f message f).status := by
  have hstays : s.frees f f = false :=
    Bool.eq_false_iff.2 fun hfrees => h.previous_ne_self hf (frees_eq_true.1 hfrees).1
  have hprevious : (s.failRow f message f).previous = none := by
    rw [failRow_previous, if_pos rfl]
  rw [previousStatus?, hprevious, failRow_status, hstays, if_neg Bool.false_ne_true, if_pos rfl]
  refine ⟨hoff, rfl, ?_⟩
  rcases hdue with hd | ha
  · exact .inr ((h.fits f hf).of_doomed hd).2
  · exact .inl ((h.fits f hf).scene_of_active ha).1

/-- A follower of the failing tile follows its predecessor, and starts if that one let it. -/
theorem Lifecycle.fits_follower (h : Lifecycle doomed s) (hs : s.Schema)
    (hf : s.tile? f.id = some f) (hdone : f.status ≠ .done) (ht : t ∈ s.tiles)
    (hp : t.previous = some f.id) :
    Fits (t.id ∈ doomed) (s.sceneStatus? t.scene)
      ((s.failTile f message).previousStatus? (s.failRow f message t))
      (s.failRow f message t).status := by
  have hmem := mem_of_tile? hf
  have hne : t.id ≠ f.id := by
    intro hid
    rw [hs.eq_of_id ht hmem hid] at hp
    exact h.previous_ne_self hmem hp
  have hnew := h.follower_new hf hdone ht hp
  have hinherited : f.previous.bind (s.failTile f message).tileStatus? = s.previousStatus? f := by
    rw [previousStatus?]
    cases hprevious : f.previous with
    | none => rfl
    | some id => exact h.inherited_previous hf hprevious
  have hfits := h.fits t ht
  rw [previousStatus?_of_tile? hp hf, hnew] at hfits
  rw [previousStatus?, failRow_previous, if_neg hne, if_pos hp, hinherited, failRow_status,
    if_neg hne, hnew]
  have hstart := hfits.inherit (h.fits f hmem).previous_ne_failed
  simpa only [frees_of_follower hs hmem hp] using hstart

/-- Any other tile stands where it stood. What it follows may have started. -/
theorem Lifecycle.fits_bystander (h : Lifecycle doomed s) (hf : s.tile? f.id = some f)
    (hdone : f.status ≠ .done) (ht : t ∈ s.tiles) (hne : t.id ≠ f.id)
    (hp : t.previous ≠ some f.id) :
    Fits (t.id ∈ doomed) (s.sceneStatus? t.scene)
      ((s.failTile f message).previousStatus? (s.failRow f message t))
      (s.failRow f message t).status := by
  have hstays : s.frees f t = false :=
    Bool.eq_false_iff.2 fun hfrees => hp (frees_eq_true.1 hfrees).1
  have hfits := h.fits t ht
  rw [previousStatus?, failRow_previous, if_neg hne, if_neg hp, failRow_status, hstays,
    if_neg Bool.false_ne_true, if_neg hne]
  rw [previousStatus?] at hfits
  cases hprevious : t.previous with
  | none =>
    rw [hprevious] at hfits
    exact hfits
  | some id =>
    rw [hprevious] at hfits hp
    have hother : id ≠ f.id := fun he => hp (congrArg some he)
    show Fits _ _ ((s.failTile f message).tileStatus? id) _
    change Fits _ _ (s.tileStatus? id) _ at hfits
    rcases h.tileStatus?_failTile hf hdone message hother with hsame | ⟨hnew, hstarted⟩
    · rw [hsame]
      exact hfits
    · rw [hstarted]
      rw [hnew] at hfits
      exact hfits.congr_previous (by simp) (by simp) (by simp)

/-- The failure of a tile keeps the life cycle, and takes the tile off the doomed ones. -/
theorem Lifecycle.failTile (h : Lifecycle doomed s) (hs : s.Schema) (hf : s.tile? f.id = some f)
    (hdue : f.id ∈ doomed ∨ f.status.isActive = true)
    (hrest : ∀ id, id ∈ rest ↔ id ∈ doomed ∧ id ≠ f.id) (hdistinct : rest.Nodup) :
    Lifecycle rest (s.failTile f message) := by
  have hmem := mem_of_tile? hf
  have hdone := h.ne_done hmem hdue
  refine h.mapTiles (fun _ => rfl) (fun _ => rfl)
    (fun t ht id hid => h.previous_lt_failRow hmem ht hid)
    (fun id hid => ((hrest id).1 hid).1) hdistinct ?_
  intro t ht
  by_cases hid : t.id = f.id
  · obtain rfl := hs.eq_of_id ht hmem hid
    exact h.fits_failing hmem hdue fun hoff => ((hrest t.id).1 hoff).2 rfl
  · have hdoomed : t.id ∈ rest ↔ t.id ∈ doomed := by
      rw [hrest]
      exact and_iff_left hid
    rw [hdoomed]
    by_cases hp : t.previous = some f.id
    · exact h.fits_follower hs hf hdone ht hp
    · exact h.fits_bystander hf hdone ht hid hp

end Store
end SceneWorkflow
