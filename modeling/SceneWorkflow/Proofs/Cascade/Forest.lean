import SceneWorkflow.Proofs.Cascade.Sound

/-!
# The forest of tiles

Tiles follow older tiles that have not failed, and build on tiles of their own area
only; a failed tile follows none. Unlike where tiles stand, this does not depend on
requests being unforced.
-/
namespace SceneWorkflow
namespace Store
variable {s s' : Store} {f t : Tile} {x : Scene} {message : Option String} {u : StatusUpdate}

structure Forest (s : Store) : Prop extends Schema s, Legible s where
  previous_lt : ∀ t ∈ s.tiles, ∀ id, t.previous = some id → id < t.id
  previous_live : ∀ t ∈ s.tiles, ∀ p ∈ s.tiles, t.previous = some p.id → p.status ≠ .failed
  failed_detached : ∀ t ∈ s.tiles, t.status = .failed → t.previous = none
  same_area : ∀ t ∈ s.tiles, ∀ v ∈ s.tiles,
    t.previous = some v.id ∨ t.reference = some v.id → s.aoiOf? v = s.aoiOf? t

theorem forest_empty : Forest {} where
  toSchema := schema_empty
  toLegible := by constructor <;> simp
  previous_lt := by simp
  previous_live := by simp
  failed_detached := by simp
  same_area := by simp

theorem Forest.previous_ne_self (h : Forest s) (ht : t ∈ s.tiles) : t.previous ≠ some t.id :=
  fun hself => Int.lt_irrefl _ (h.previous_lt t ht t.id hself)

/-! ### Rewriting tiles -/

structure KeepsLinks (g : Tile → Tile) : Prop where
  id_eq : ∀ t, (g t).id = t.id
  scene_eq : ∀ t, (g t).scene = t.scene
  previous_eq : ∀ t, (g t).previous = t.previous
  reference_eq : ∀ t, (g t).reference = t.reference

theorem KeepsLinks.ite {g : Tile → Tile} (h : KeepsLinks g) (p : Tile → Bool) :
    KeepsLinks fun t => if p t then g t else t := by
  constructor
  · intro t
    split
    · exact h.id_eq t
    · rfl
  · intro t
    split
    · exact h.scene_eq t
    · rfl
  · intro t
    split
    · exact h.previous_eq t
    · rfl
  · intro t
    split
    · exact h.reference_eq t
    · rfl

theorem Forest.mapTiles {g : Tile → Tile} (h : Forest s) (hg : KeepsLinks g)
    (hstatus : ∀ t ∈ s.tiles, (g t).status = .failed → t.status = .failed)
    (hbudget : ∀ t ∈ s.tiles, leastBudget ≤ (g t).budget) : Forest (s.mapTiles g) where
  toSchema := by
    refine h.toSchema.mapTiles hg.id_eq hg.scene_eq fun t ht => ?_
    rw [hg.previous_eq, hg.reference_eq]
    exact ⟨h.previous_exists t ht, h.reference_exists t ht⟩
  toLegible := h.toLegible.mapTiles hbudget
  previous_lt := by
    intro t ht
    obtain ⟨t, hmem, rfl⟩ := mem_mapTiles.1 ht
    rw [hg.previous_eq, hg.id_eq]
    exact h.previous_lt t hmem
  previous_live := by
    intro t ht p hp
    obtain ⟨t, hmem, rfl⟩ := mem_mapTiles.1 ht
    obtain ⟨p, hpmem, rfl⟩ := mem_mapTiles.1 hp
    rw [hg.previous_eq, hg.id_eq]
    exact fun hlink hfailed => h.previous_live t hmem p hpmem hlink (hstatus p hpmem hfailed)
  failed_detached := by
    intro t ht hfailed
    obtain ⟨t, hmem, rfl⟩ := mem_mapTiles.1 ht
    rw [hg.previous_eq]
    exact h.failed_detached t hmem (hstatus t hmem hfailed)
  same_area := by
    intro t ht v hv
    obtain ⟨t, hmem, rfl⟩ := mem_mapTiles.1 ht
    obtain ⟨v, hvmem, rfl⟩ := mem_mapTiles.1 hv
    rw [hg.previous_eq, hg.reference_eq, hg.id_eq, aoiOf?, aoiOf?, hg.scene_eq, hg.scene_eq]
    exact h.same_area t hmem v hvmem

/-- Some tiles may be rewritten in all but links and place, as long as none fails. -/
theorem Forest.modifyTiles {p : Tile → Bool} {g : Tile → Tile} (h : Forest s) (hg : KeepsLinks g)
    (hstatus : ∀ t ∈ s.tiles, p t → (g t).status = .failed → t.status = .failed)
    (hbudget : ∀ t ∈ s.tiles, p t → leastBudget ≤ (g t).budget) : Forest (s.modifyTiles p g) := by
  rw [modifyTiles_eq_mapTiles]
  refine h.mapTiles (hg.ite p) (fun t ht => ?_) fun t ht => ?_
  · split
    · next hp => exact hstatus t ht hp
    · exact fun hfailed => hfailed
  · split
    · next hp => exact hbudget t ht hp
    · exact h.tile_legible t ht

/-- Tiles may be put to any status but that of a failure. -/
theorem Forest.setStatus {p : Tile → Bool} {status : Status} (h : Forest s)
    (hlive : status ≠ .failed) : Forest (s.modifyTiles p fun t => { t with status }) :=
  h.modifyTiles ⟨fun _ => rfl, fun _ => rfl, fun _ => rfl, fun _ => rfl⟩
    (fun _ _ _ hfailed => absurd hfailed hlive) fun t ht _ => h.tile_legible t ht

theorem Forest.setTile (h : Forest s) (hf : s.tile? f.id = some f) (hlive : u.status ≠ .failed)
    (hclear : u.clearPrevious = false) (hpos : u.consume = true → 0 < f.budget) :
    Forest (s.setTile f.id u) := by
  refine h.modifyTiles ⟨fun _ => rfl, fun _ => rfl, Tile.previous_update hclear, fun _ => rfl⟩
    (fun _ _ _ hfailed => absurd hfailed hlive) fun t ht hid => ?_
  obtain rfl := h.eq_of_id ht (mem_of_tile? hf) (eq_of_beq hid)
  exact legible_consumed (h.tile_legible t ht) hpos

theorem Forest.replaceTileAttrs {id : Int} {attrs : TileAttrs} (h : Forest s)
    (hok : s.replaceTileAttrs id attrs = .ok s') : Forest s' := by
  obtain ⟨-, rfl⟩ := replaceTileAttrs_eq_ok.1 hok
  exact h.modifyTiles ⟨fun _ => rfl, fun _ => rfl, fun _ => rfl, fun _ => rfl⟩
    (fun _ _ _ hfailed => hfailed) fun t ht _ => h.tile_legible t ht

/-! ### The failure of a tile -/

theorem aoiOf?_failRow (s : Store) (f : Tile) (message : Option String) (t : Tile) :
    (s.failTile f message).aoiOf? (s.failRow f message t) = s.aoiOf? t := rfl

/-- What a tile follows after another has failed, it followed before, at one remove at most. -/
theorem failRow_previous_eq_some {id : Int} (h : (s.failRow f message t).previous = some id) :
    t.id ≠ f.id ∧ (t.previous = some id ∧ id ≠ f.id ∨
      t.previous = some f.id ∧ f.previous = some id) := by
  rw [failRow_previous] at h
  split at h
  · cases h
  · next hid =>
    refine ⟨hid, ?_⟩
    split at h
    · next hfollows => exact .inr ⟨hfollows, h⟩
    · next hother =>
      refine .inl ⟨h, ?_⟩
      rintro rfl
      exact hother h

/-- What a tile is compared with after another has failed it was compared with before, or it is the
heir in place of the failed tile. -/
theorem failRow_reference_eq_some {id : Int} (h : (s.failRow f message t).reference = some id) :
    t.reference = some id ∨ t.reference = some f.id ∧ s.heir? f = some id := by
  rw [failRow_reference] at h
  split at h
  · exact .inl h
  · next heir hheir =>
    split at h
    · next href =>
      split at h
      · cases h
      · cases h
        exact .inr ⟨href, hheir⟩
    · exact .inl h

/-- An heir is in the area of the failed tile. -/
theorem Forest.same_area_of_heir (h : Forest s) (hf : s.tile? f.id = some f) {v : Tile}
    (hv : v ∈ s.tiles) (hheir : s.heir? f = some v.id) : s.aoiOf? v = s.aoiOf? f := by
  have hmem := mem_of_tile? hf
  obtain ⟨-, w, hw, hid, -, -, hrole⟩ :=
    heir?_eq_some h.toOrdered hf (h.previous_ne_self hmem) hheir
  obtain rfl := h.eq_of_id hw hv hid
  exact (h.same_area w hw f hmem (hrole.imp_right And.left)).symm

theorem Forest.failTile (h : Forest s) (hf : s.tile? f.id = some f) (message : Option String) :
    Forest (s.failTile f message) where
  toSchema := h.toSchema.failTile hf (h.previous_ne_self (mem_of_tile? hf)) message
  toLegible := h.toLegible.failTile f message
  previous_lt := by
    intro t ht id hid
    obtain ⟨t, hmem, rfl⟩ := mem_mapTiles.1 ht
    obtain ⟨-, ⟨hprevious, -⟩ | ⟨hfollows, hprevious⟩⟩ := failRow_previous_eq_some hid
    · exact h.previous_lt t hmem id hprevious
    · exact Int.lt_trans (h.previous_lt f (mem_of_tile? hf) id hprevious)
        (h.previous_lt t hmem f.id hfollows)
  previous_live := by
    intro t ht p hp hlink hfailed
    obtain ⟨t, hmem, rfl⟩ := mem_mapTiles.1 ht
    obtain ⟨p, hpmem, rfl⟩ := mem_mapTiles.1 hp
    obtain ⟨-, hprevious⟩ := failRow_previous_eq_some hlink
    have hne : p.id ≠ f.id := by
      rcases hprevious with ⟨-, hne⟩ | ⟨-, hprevious⟩
      · exact hne
      · exact fun hid => h.previous_ne_self (mem_of_tile? hf) (hprevious.trans (congrArg some hid))
    have hbefore : p.status = .failed := by
      rw [failRow_status, if_neg hne] at hfailed
      split at hfailed
      · cases hfailed
      · exact hfailed
    rcases hprevious with ⟨hprevious, -⟩ | ⟨-, hprevious⟩
    · exact h.previous_live t hmem p hpmem hprevious hbefore
    · exact h.previous_live f (mem_of_tile? hf) p hpmem hprevious hbefore
  failed_detached := by
    intro t ht hfailed
    obtain ⟨t, hmem, rfl⟩ := mem_mapTiles.1 ht
    rw [failRow_status] at hfailed
    rw [failRow_previous]
    split at hfailed
    · cases hfailed
    · split at hfailed
      · next hid => exact if_pos hid
      · next hid =>
        have hnone := h.failed_detached t hmem hfailed
        rw [if_neg hid, hnone]
        rfl
  same_area := by
    intro t ht v hv
    obtain ⟨t, hmem, rfl⟩ := mem_mapTiles.1 ht
    obtain ⟨v, hvmem, rfl⟩ := mem_mapTiles.1 hv
    rw [aoiOf?_failRow, aoiOf?_failRow]
    rintro (hlink | hlink)
    · obtain ⟨-, ⟨hprevious, -⟩ | ⟨hfollows, hprevious⟩⟩ := failRow_previous_eq_some hlink
      · exact h.same_area t hmem v hvmem (.inl hprevious)
      · exact (h.same_area f (mem_of_tile? hf) v hvmem (.inl hprevious)).trans
          (h.same_area t hmem f (mem_of_tile? hf) (.inl hfollows))
    · rcases failRow_reference_eq_some hlink with href | ⟨href, hheir⟩
      · exact h.same_area t hmem v hvmem (.inr href)
      · exact (h.same_area_of_heir hf hvmem hheir).trans
          (h.same_area t hmem f (mem_of_tile? hf) (.inr href))

/-! ### Scenes and new tiles -/

/-- Nothing else of the scenes counts but the areas that they are in. -/
theorem Forest.congr (h : Forest s) (htiles : s'.tiles = s.tiles) (hschema : s'.Schema)
    (hlegible : s'.Legible) (haoi : ∀ t ∈ s.tiles, s'.aoiOf? t = s.aoiOf? t) : Forest s' where
  toSchema := hschema
  toLegible := hlegible
  previous_lt := by
    rw [htiles]
    exact h.previous_lt
  previous_live := by
    rw [htiles]
    exact h.previous_live
  failed_detached := by
    rw [htiles]
    exact h.failed_detached
  same_area := by
    rw [htiles]
    intro t ht v hv hlink
    rw [haoi t ht, haoi v hv]
    exact h.same_area t ht v hv hlink

theorem Forest.of_sameRows (h : Forest s) (hsame : SameRows s s') : Forest s' :=
  h.congr hsame.tiles (h.toSchema.of_sameRows hsame) (h.toLegible.of_sameRows hsame) fun t _ => by
    rw [aoiOf?, hsame.scene?, aoiOf?]

theorem aoiOf?_modifyScenes {p : Scene → Bool} {g : Scene → Scene} (hid : ∀ x, (g x).id = x.id)
    (haoi : ∀ x, (g x).aoi = x.aoi) (t : Tile) : (s.modifyScenes p g).aoiOf? t = s.aoiOf? t := by
  rw [aoiOf?, scene?_modifyScenes hid, aoiOf?, Option.map_map]
  refine Option.map_congr fun x _ => ?_
  show (if p x then g x else x).aoi = x.aoi
  split
  · exact haoi x
  · rfl

theorem Forest.setScene (h : Forest s) (hx : s.scene? x.id = some x)
    (hpos : u.consume = true → 0 < x.budget) : Forest (s.setScene x.id u) :=
  h.congr rfl (h.toSchema.setScene x.id u) (h.toLegible.setScene h.toOrdered hx hpos) fun t _ =>
    aoiOf?_modifyScenes (g := (·.update u)) (fun _ => rfl) (fun _ => rfl) t

theorem Forest.replaceSceneAttrs {id : Int} {attrs : SceneAttrs} (h : Forest s)
    (hok : s.replaceSceneAttrs id attrs = .ok s') : Forest s' := by
  obtain ⟨-, rfl⟩ := replaceSceneAttrs_eq_ok.1 hok
  refine h.congr rfl (h.toSchema.modifyScenes (fun _ => rfl) fun _ => rfl) ⟨?_, h.tile_legible⟩
    fun t _ => aoiOf?_modifyScenes (g := fun x => { x with attrs }) (fun _ => rfl)
      (fun _ => rfl) t
  intro y hy
  obtain ⟨x, hx, rfl⟩ := List.mem_map.1 hy
  split <;> exact h.scene_legible x hx

theorem Forest.createScene {d : SceneDraft} {id : Int} (h : Forest s)
    (hok : s.createScene d = .ok (id, s')) :
    Forest s' ∧ (s'.scene? id).map (·.aoi) = some d.aoi := by
  have hschema := h.toSchema.createScene hok
  obtain ⟨-, -, hid, rfl⟩ := createScene_eq_ok hok
  have hfound : (s.addScene (d.row id)).scene? id = some (d.row id) :=
    hschema.scene?_of_mem (List.mem_append_right _ (List.mem_singleton_self _))
  refine ⟨h.congr rfl hschema ⟨?_, h.tile_legible⟩ fun t ht => ?_, by rw [hfound]; rfl⟩
  · intro y hy
    rcases List.mem_append.1 hy with hy | hy
    · exact h.scene_legible y hy
    · rw [List.mem_singleton.1 hy]
      exact Int32.le_toInt d.budget
  · obtain ⟨y, hy⟩ := Option.isSome_iff_exists.1 (h.scene_exists t ht)
    rw [aoiOf?, scene?_addScene_of_some hy, aoiOf?, hy]

/-- A link of a new tile names a tile of its area that has not failed. -/
def Grounded (s : Store) (aoi : String) (link : Option Int) : Prop :=
  ∀ id, link = some id → ∃ v ∈ s.tiles, v.id = id ∧ v.status ≠ .failed ∧ s.aoiOf? v = some aoi

theorem grounded_of_resolve {aoi field : String} {l : Option TileLink} {link : Option Int}
    (h : s.resolve aoi field l = .ok link) : s.Grounded aoi link := by
  intro id hid
  obtain ⟨-, rfl⟩ | ⟨l, v, -, hv, hlive, rfl⟩ := resolve_eq_ok h
  · cases hid
  · cases hid
    obtain ⟨hmem, x, hx, rfl, -⟩ := mem_of_linked? hv
    refine ⟨v, hmem, rfl, hlive, ?_⟩
    rw [aoiOf?, hx]
    rfl

/-- A new tile comes after all others, so that none builds on it yet. -/
theorem Forest.addTile {aoi : String} (h : Forest s) (hschema : (s.addTile t).Schema)
    (hlast : ∀ v ∈ s.tiles, v.id < t.id) (hbudget : leastBudget ≤ t.budget)
    (hlive : t.status ≠ .failed) (haoi : s.aoiOf? t = some aoi)
    (hprevious : s.Grounded aoi t.previous) (hreference : s.Grounded aoi t.reference) :
    Forest (s.addTile t) := by
  have hlt : ∀ v ∈ (s.addTile t).tiles, ∀ id, v.previous = some id → id < v.id := by
    intro v hv id hid
    rcases List.mem_append.1 hv with hv | hv
    · exact h.previous_lt v hv id hid
    · rw [List.mem_singleton.1 hv] at hid ⊢
      obtain ⟨p, hp, rfl, -⟩ := hprevious id hid
      exact hlast p hp
  have hold : ∀ v ∈ s.tiles, ∀ w ∈ (s.addTile t).tiles,
      v.previous = some w.id ∨ v.reference = some w.id → w ∈ s.tiles := by
    intro v hv w hw hlink
    refine (List.mem_append.1 hw).resolve_right fun hnew => ?_
    rw [List.mem_singleton.1 hnew] at hlink
    have hexists : (s.tile? t.id).isSome := by
      rcases hlink with hlink | hlink
      · exact hasLinked_some ▸ hlink ▸ h.previous_exists v hv
      · exact hasLinked_some ▸ hlink ▸ h.reference_exists v hv
    obtain ⟨p, hp⟩ := Option.isSome_iff_exists.1 hexists
    exact Int.ne_of_lt (hlast p (mem_of_tile? hp)) (tile?_id hp)
  have hground : ∀ w ∈ (s.addTile t).tiles, t.previous = some w.id ∨ t.reference = some w.id →
      w ∈ s.tiles ∧ w.status ≠ .failed ∧ s.aoiOf? w = some aoi := by
    intro w hw hlink
    obtain ⟨v, hv, hid, hvlive, hvaoi⟩ : ∃ v ∈ s.tiles, v.id = w.id ∧ v.status ≠ .failed ∧
        s.aoiOf? v = some aoi := by
      rcases hlink with hlink | hlink
      · exact hprevious w.id hlink
      · exact hreference w.id hlink
    obtain rfl := hschema.eq_of_id (List.mem_append_left _ hv) hw hid
    exact ⟨hv, hvlive, hvaoi⟩
  refine ⟨hschema, ⟨h.scene_legible, ?_⟩, hlt, ?_, ?_, ?_⟩
  · intro v hv
    rcases List.mem_append.1 hv with hv | hv
    · exact h.tile_legible v hv
    · rw [List.mem_singleton.1 hv]
      exact hbudget
  · intro v hv w hw hlink
    rcases List.mem_append.1 hv with hv | hv
    · exact h.previous_live v hv w (hold v hv w hw (.inl hlink)) hlink
    · rw [List.mem_singleton.1 hv] at hlink
      exact (hground w hw (.inl hlink)).2.1
  · intro v hv hfailed
    rcases List.mem_append.1 hv with hv | hv
    · exact h.failed_detached v hv hfailed
    · rw [List.mem_singleton.1 hv] at hfailed
      exact absurd hfailed hlive
  · intro v hv w hw hlink
    rcases List.mem_append.1 hv with hv | hv
    · exact h.same_area v hv w (hold v hv w hw hlink) hlink
    · rw [List.mem_singleton.1 hv] at hlink ⊢
      exact (hground w hw hlink).2.2.trans haoi.symm

theorem Forest.createTile {d : TileDraft} {id : Int} (h : Forest s)
    (hscene : (s.scene? d.scene).map (·.aoi) = some d.aoi) (hok : s.createTile d = .ok (id, s')) :
    Forest s' ∧ s'.scenes = s.scenes := by
  have hschema := h.toSchema.createTile hok
  obtain ⟨previous, reference, hprevious, hreference, hinsert⟩ := createTile_eq_ok hok
  obtain ⟨-, -, hid, rfl⟩ := insertTile_eq_ok hinsert
  refine ⟨h.addTile hschema ?_ (Int32.le_toInt d.budget) nofun hscene
    (grounded_of_resolve hprevious) (grounded_of_resolve hreference), rfl⟩
  intro v hv
  show v.id < id
  rw [hid]
  exact Int.lt_add_one_of_le (h.tile_le v hv)

end Store

end SceneWorkflow
