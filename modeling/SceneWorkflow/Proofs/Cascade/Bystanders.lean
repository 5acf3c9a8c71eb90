import SceneWorkflow.Proofs.Cascade.Outcomes

/-!
# Rows that stay

When the row of an entity moves on, the rows of others stay as they are, so that different
entities may move on in any order. Which tiles fail with an entity is not affected either.
-/
namespace SceneWorkflow
namespace Store
variable {s s' m : Store} {kind kind' : EntityKind} {id id' k : Int} {u v : StatusUpdate}
  {gone : List Int} {t t' : Tile} {change : Transition}

/-! ### Rows that move on -/

theorem tile?_moved_of_ne (hne : (kind, id) ≠ (.tile, k)) :
    (s.moved kind id u).tile? k = s.tile? k := by
  have hstays : ∀ t, s.tile? k = some t → movedTile kind id u t = t := by
    intro t ht
    refine if_neg fun hsame => hne ?_
    rw [hsame.1, ← hsame.2, tile?_id ht]
  rw [tile?_moved, Option.map_congr hstays, Option.map_id']

theorem tileStatus?_moved_of_ne (hne : (kind, id) ≠ (.tile, k)) :
    (s.moved kind id u).tileStatus? k = s.tileStatus? k := by
  rw [tileStatus?, tile?_moved_of_ne hne, tileStatus?]

theorem scene?_moved_of_ne (hne : (kind, id) ≠ (.scene, k)) :
    (s.moved kind id u).scene? k = s.scene? k := by
  have hstays : ∀ x, s.scene? k = some x → movedScene kind id u x = x := by
    intro x hx
    refine if_neg fun hsame => hne ?_
    rw [hsame.1, ← hsame.2, scene?_id hx]
  rw [scene?_moved, Option.map_congr hstays, Option.map_id']

theorem movedTile_comm (hne : (kind, id) ≠ (kind', id')) (t : Tile) :
    movedTile kind' id' v (movedTile kind id u t) =
      movedTile kind id u (movedTile kind' id' v t) := by
  by_cases h : kind = .tile ∧ t.id = id
  · have h' : ¬ (kind' = .tile ∧ t.id = id') := fun h' =>
      hne (by rw [h.1, ← h.2, h'.1, ← h'.2])
    have hstays : movedTile kind' id' v t = t := if_neg h'
    rw [hstays, movedTile, movedTile_id, if_neg h']
  · have hstays : movedTile kind id u t = t := if_neg h
    have hstays' : movedTile kind id u (movedTile kind' id' v t) = movedTile kind' id' v t := by
      rw [movedTile, movedTile_id, if_neg h]
    rw [hstays, hstays']

theorem movedScene_comm (hne : (kind, id) ≠ (kind', id')) (x : Scene) :
    movedScene kind' id' v (movedScene kind id u x) =
      movedScene kind id u (movedScene kind' id' v x) := by
  by_cases h : kind = .scene ∧ x.id = id
  · have h' : ¬ (kind' = .scene ∧ x.id = id') := fun h' =>
      hne (by rw [h.1, ← h.2, h'.1, ← h'.2])
    have hstays : movedScene kind' id' v x = x := if_neg h'
    rw [hstays, movedScene, movedScene_id, if_neg h']
  · have hstays : movedScene kind id u x = x := if_neg h
    have hstays' : movedScene kind id u (movedScene kind' id' v x) = movedScene kind' id' v x := by
      rw [movedScene, movedScene_id, if_neg h]
    rw [hstays, hstays']

/-- The rows of different entities move on independently. -/
theorem moved_comm (hne : (kind, id) ≠ (kind', id')) :
    (s.moved kind id u).moved kind' id' v = (s.moved kind' id' v).moved kind id u := by
  simp only [moved_eq, List.map_map]
  congr 1
  · exact List.map_congr_left fun x _ => movedScene_comm hne x
  · exact List.map_congr_left fun t _ => movedTile_comm hne t

/-! ### What others entail -/

/-- What others entail for a tile does not depend on whether it has moved on. -/
theorem Moves.update (h : Moves gone t t') (hstays : t.id ∉ gone) (hstarted : t.status ≠ .new)
    (hclear : u.clearPrevious = false) : Moves gone (t.update u) (t'.update u) := by
  have hprevious : (t'.update u).previous = (t.update u).previous := by
    rw [t.previous_update hclear, t'.previous_update hclear]
    exact h.settled hstays hstarted
  refine ⟨?_, fun hgone => absurd hgone hstays, fun _ => .inl rfl, fun _ _ => hprevious,
    fun _ _ => hprevious⟩
  simp only [Tile.update]
  rw [h.same]

/-- A tile that goes on and has started may move on before others change or after. -/
theorem Shifts.moved (h : Shifts gone m s) (hclear : u.clearPrevious = false)
    (hrow : kind = .tile → id ∉ gone ∧ m.tileStatus? id ≠ some .new) :
    Shifts gone (m.moved kind id u) (s.moved kind id u) where
  scenes := by rw [moved_eq, moved_eq, h.scenes]
  ids := by
    have hids (s : Store) : (s.moved kind id u).tiles.map (·.id) = s.tiles.map (·.id) := by
      rw [moved_eq, List.map_map]
      exact List.map_congr_left fun t _ => movedTile_id kind id u t
    rw [hids, hids, h.ids]
  row := by
    intro k t₀ ht₀
    rw [tile?_moved, Option.map_eq_some_iff] at ht₀
    obtain ⟨t, ht, rfl⟩ := ht₀
    obtain ⟨t', ht', hmoves⟩ := h.row k t ht
    refine ⟨movedTile kind id u t', by rw [tile?_moved, ht']; rfl, ?_⟩
    unfold movedTile
    rw [hmoves.id_eq]
    split
    · next hsame =>
      obtain ⟨hstays, hstarted⟩ := hrow hsame.1
      rw [← hsame.2] at hstays hstarted
      refine hmoves.update hstays (fun hnew => hstarted ?_) hclear
      rw [tile?_id ht, tileStatus?_of_tile? ht, hnew]
    · exact hmoves

/-! ### Tiles that fail -/

theorem mem_failedBy (h : k ∈ s.failedBy change kind id) :
    kind = .tile ∧ k = id ∨ kind = .scene ∧ ∃ t ∈ s.tiles, t.scene = id ∧ t.id = k := by
  cases change with
  | fail =>
    cases kind with
    | tile => exact .inl ⟨rfl, List.mem_singleton.1 h⟩
    | scene =>
      obtain ⟨t, ht, rfl⟩ := List.mem_map.1 h
      obtain ⟨hmem, hscene⟩ := List.mem_filter.1 ht
      exact .inr ⟨rfl, t, hmem, eq_of_beq hscene, rfl⟩
  | finish | retry | requeue | overwrite => cases h

theorem failedBy_congr
    (hplaces : s'.tiles.map (fun t => (t.id, t.scene)) = s.tiles.map fun t => (t.id, t.scene)) :
    s'.failedBy change kind id = s.failedBy change kind id := by
  have hfailing (s : Store) : s.failing .scene id =
      ((s.tiles.map fun t => (t.id, t.scene)).filter fun p => p.2 == id).map (·.1) := by
    rw [List.filter_map, List.map_map]
    rfl
  cases change with
  | fail =>
    cases kind with
    | tile => rfl
    | scene =>
      show s'.failing .scene id = s.failing .scene id
      rw [hfailing, hfailing, hplaces]
  | finish | retry | requeue | overwrite => rfl

theorem Shifts.places_eq (h : Shifts gone m s) (ho : m.Ordered) :
    s.tiles.map (fun t => (t.id, t.scene)) = m.tiles.map fun t => (t.id, t.scene) := by
  refine map_eq_map_of_keys h.ids fun t ht t' ht' hid => ?_
  rw [hid, (h.moves_of_mem ho ht ht' hid).scene_eq]

theorem places_moved (s : Store) (kind : EntityKind) (id : Int) (u : StatusUpdate) :
    (s.moved kind id u).tiles.map (fun t => (t.id, t.scene)) =
      s.tiles.map fun t => (t.id, t.scene) := by
  rw [moved_eq, List.map_map]
  refine List.map_congr_left fun t _ => ?_
  unfold movedTile
  dsimp only [Function.comp_apply]
  split <;> rfl

end Store
end SceneWorkflow
