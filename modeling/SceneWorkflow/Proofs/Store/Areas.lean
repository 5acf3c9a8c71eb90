import SceneWorkflow.Proofs.Store.Tables

/-!
# What stands for an area

The status of an area is the heaviest one among its scenes, and once those are done the
heaviest one among the tiles of the scenes that were downloaded. It does not depend on
anything outside the area.
-/
namespace SceneWorkflow

def Status.Heaviest (xs : List Status) (status : Status) : Prop :=
  status ∈ xs ∧ ∀ x ∈ xs, x.weight ≤ status.weight

namespace StatusCounts
variable {xs : List Status} {status : Status}

theorem aggregate_ofList_eq_none : (ofList xs).aggregate = none ↔ xs = [] := by
  rw [aggregate_eq_none_iff, List.eq_nil_iff_forall_not_mem]
  refine forall_congr' fun status => ?_
  rw [get_ofList, ← List.count_pos_iff]
  omega

/-- The statuses are tried from the heaviest to the lightest. -/
theorem heaviest_of_aggregate (h : (ofList xs).aggregate = some status) : status.Heaviest xs := by
  have hdescends : [Status.retry, .pending, .new, .done, .failed].Pairwise
      fun a b => b.weight ≤ a.weight := by decide
  have hall (x : Status) : x ∈ [Status.retry, .pending, .new, .done, .failed] := by
    cases x <;> decide
  obtain ⟨hoccurs, before, after, hlist, hnone⟩ := List.find?_eq_some_iff_append.1 h
  have hcount (x : Status) : decide (0 < (ofList xs).get x) = true ↔ x ∈ xs := by
    rw [decide_eq_true_iff, get_ofList, ← List.count_pos_iff]
    omega
  refine ⟨(hcount status).1 hoccurs, fun x hx => ?_⟩
  have hsplit := hall x
  rw [hlist] at hsplit hdescends
  rcases List.mem_append.1 hsplit with hbefore | hafter
  · have hmissing := hnone x hbefore
    rw [(hcount x).2 hx] at hmissing
    cases hmissing
  · rcases List.mem_cons.1 hafter with rfl | hafter
    · exact Nat.le_refl _
    · exact (List.pairwise_cons.1 (List.pairwise_append.1 hdescends).2.1).1 x hafter

end StatusCounts

namespace Store
variable {s s' s'' : Store} {name area : String} {status : Status} {x : Scene} {t : Tile}

def tilesOfDone (s : Store) (aoi : String) : List Tile :=
  s.tilesWhere fun x => x.aoi == aoi && x.status == .done

def CallsFor (s : Store) (aoi : String) (status : Status) : Prop :=
  s.scenesOf aoi = [] ∧ status = .new ∨
  ∃ heaviest, Status.Heaviest ((s.scenesOf aoi).map (·.status)) heaviest ∧
    (heaviest ≠ .done ∧ status = heaviest ∨
      heaviest = .done ∧ (s.tilesOfDone aoi = [] ∧ status = .done ∨
        Status.Heaviest ((s.tilesOfDone aoi).map (·.status)) status))

theorem callsFor_aggregate (s : Store) (aoi : String) : s.CallsFor aoi (s.aggregate aoi) := by
  unfold aggregate
  cases hscenes : (s.sceneCounts aoi).aggregate with
  | none =>
    exact .inl ⟨List.map_eq_nil_iff.1 (StatusCounts.aggregate_ofList_eq_none.1 hscenes), rfl⟩
  | some heaviest =>
    refine .inr ⟨heaviest, StatusCounts.heaviest_of_aggregate hscenes, ?_⟩
    cases heaviest with
    | new | pending | retry | failed => exact .inl ⟨nofun, rfl⟩
    | done =>
      refine .inr ⟨rfl, ?_⟩
      cases htiles : (s.tileCountsIn aoi .done).aggregate with
      | none =>
        have hnone := StatusCounts.aggregate_ofList_eq_none.1 htiles
        exact .inl ⟨List.map_eq_nil_iff.1 hnone, rfl⟩
      | some status => exact .inr (StatusCounts.heaviest_of_aggregate htiles)

def sceneStandings (s : Store) : List (Int × String × Status) :=
  s.scenes.map fun x => (x.id, x.aoi, x.status)

def tileStandings (s : Store) : List (Int × Status) := s.tiles.map fun t => (t.scene, t.status)

theorem aggregate_congr (hscenes : s'.sceneStandings = s.sceneStandings)
    (htiles : s'.tileStandings = s.tileStandings) (aoi : String) :
    s'.aggregate aoi = s.aggregate aoi := by
  have hcounts (s : Store) : s.sceneCounts aoi =
      .ofList ((s.sceneStandings.filter fun x => x.2.1 == aoi).map (·.2.2)) := by
    rw [sceneStandings, List.filter_map, List.map_map]
    rfl
  have hdone (s : Store) : s.tileCountsIn aoi .done =
      .ofList ((s.tileStandings.filter fun t => (s.sceneStandings.find? fun x => x.1 == t.1).any
        fun x => x.2.1 == aoi && x.2.2 == .done).map (·.2)) := by
    have hany (t : Tile) : (s.scene? t.scene).any (fun x => x.aoi == aoi && x.status == .done) =
        (s.sceneStandings.find? fun x => x.1 == t.scene).any
          fun x => x.2.1 == aoi && x.2.2 == .done := by
      rw [sceneStandings, List.find?_map, Option.any_map]
      rfl
    rw [tileStandings, List.filter_map, List.map_map, tileCountsIn, tilesWhere]
    simp only [hany]
    rfl
  rw [aggregate, aggregate, hcounts, hcounts, hdone, hdone, hscenes, htiles]

/-! ### Outside an area -/

structure Elsewhere (area : String) (s s' : Store) : Prop where
  aois : ∀ name, name ≠ area → s'.aois.find? name = s.aois.find? name
  scenes : ∀ name, name ≠ area → s'.scenesOf name = s.scenesOf name
  tiles : ∀ name, name ≠ area → ∀ p : Scene → Bool,
    (s'.tilesWhere fun x => x.aoi == name && p x) = s.tilesWhere fun x => x.aoi == name && p x

namespace Elsewhere

theorem refl (area : String) (s : Store) : Elsewhere area s s :=
  ⟨fun _ _ => rfl, fun _ _ => rfl, fun _ _ _ => rfl⟩

theorem trans (h : Elsewhere area s s') (h' : Elsewhere area s' s'') : Elsewhere area s s'' where
  aois := fun name hne => (h'.aois name hne).trans (h.aois name hne)
  scenes := fun name hne => (h'.scenes name hne).trans (h.scenes name hne)
  tiles := fun name hne p => (h'.tiles name hne p).trans (h.tiles name hne p)

theorem of_sameRows (haois : s'.aois = s.aois) (hsame : SameRows s s') : Elsewhere area s s' where
  aois := fun name _ => by rw [haois]
  scenes := fun name _ => by rw [scenesOf, hsame.scenes, scenesOf]
  tiles := fun name _ p => by
    simp only [tilesWhere, hsame.tiles, hsame.scene?]

/-- Other areas call for what they called for. -/
theorem aggregate (h : Elsewhere area s s') (hne : name ≠ area) :
    s'.aggregate name = s.aggregate name := by
  simp only [Store.aggregate, sceneCounts, tileCountsIn, h.scenes name hne, h.tiles name hne]

end Elsewhere

theorem filter_map_of_outside {α : Type} {p q : α → Bool} {g : α → α} {as : List α}
    (h : ∀ a ∈ as, q (g a) = p a ∧ (p a = true → g a = a)) : (as.map g).filter q = as.filter p := by
  have hsame : as.filter (q ∘ g) = as.filter p := List.filter_congr fun a ha => (h a ha).1
  rw [List.filter_map, hsame]
  refine (List.map_congr_left fun a ha => ?_).trans (List.map_id _)
  obtain ⟨hmem, hp⟩ := List.mem_filter.1 ha
  exact (h a hmem).2 hp

theorem elsewhere_of_rows {f : Scene → Scene} {g : Tile → Tile} (haois : s'.aois = s.aois)
    (hscenes : s'.scenes = s.scenes.map f) (hid : ∀ x, (f x).id = x.id)
    (hf : ∀ x ∈ s.scenes, f x = x ∨ x.aoi = area ∧ (f x).aoi = area)
    (htiles : s'.tiles = s.tiles.map g)
    (hg : ∀ t ∈ s.tiles, (g t).scene = t.scene ∧ (g t = t ∨ s.aoiOf? t = some area)) :
    Elsewhere area s s' where
  aois := fun name _ => by rw [haois]
  scenes := by
    intro name hne
    rw [scenesOf, hscenes, scenesOf]
    refine filter_map_of_outside fun x hx => ?_
    rcases hf x hx with hsame | ⟨harea, harea'⟩
    · exact ⟨by rw [hsame], fun _ => hsame⟩
    · rw [harea, harea', beq_eq_false_iff_ne.2 (Ne.symm hne)]
      exact ⟨rfl, nofun⟩
  tiles := by
    intro name hne p
    rw [tilesWhere, htiles, tilesWhere]
    refine filter_map_of_outside fun t ht => ?_
    obtain ⟨hplace, hrow⟩ := hg t ht
    have hfind : s'.scene? t.scene = (s.scene? t.scene).map f := by
      simp only [scene?, hscenes, List.find?_map]
      congr 2
      funext x
      simp [hid]
    rw [hplace, hfind]
    cases hx : s.scene? t.scene with
    | none =>
      refine ⟨rfl, fun hany => ?_⟩
      cases hany
    | some x =>
      have harea : s.aoiOf? t = some x.aoi := by
        rw [aoiOf?, hx]
        rfl
      rw [harea] at hrow
      simp only [Option.map_some, Option.any_some]
      constructor
      · rcases hf x (mem_of_scene? hx) with hsame | ⟨harea, harea'⟩
        · rw [hsame]
        · rw [harea', harea, beq_eq_false_iff_ne.2 (Ne.symm hne), Bool.false_and, Bool.false_and]
      · intro hp
        refine hrow.resolve_right fun hsame => hne ?_
        simp only [Bool.and_eq_true, beq_iff_eq] at hp
        rw [← hp.1, Option.some.inj hsame]

theorem elsewhere_setScene (ho : s.Ordered) (hx : s.scene? x.id = some x) (u : StatusUpdate) :
    Elsewhere x.aoi s (s.setScene x.id u) := by
  refine elsewhere_of_rows (f := fun y => if y.id == x.id then y.update u else y) (g := id) rfl rfl
    (fun y => ?_) (fun y hy => ?_) (List.map_id _).symm fun t _ => ⟨rfl, .inl rfl⟩
  · split <;> rfl
  · split
    · next hid =>
      have hfind := ho.scene?_of_mem hy
      rw [eq_of_beq hid, hx] at hfind
      cases hfind
      exact .inr ⟨rfl, rfl⟩
    · exact .inl rfl

theorem elsewhere_setTile (ho : s.Ordered) (ht : s.tile? t.id = some t)
    (harea : s.aoiOf? t = some area) (u : StatusUpdate) : Elsewhere area s (s.setTile t.id u) := by
  refine elsewhere_of_rows (f := id) (g := fun v => if v.id == t.id then v.update u else v) rfl
    (List.map_id _).symm (fun _ => rfl) (fun _ _ => .inl rfl) rfl fun v hv => ?_
  split
  · next hid =>
    rw [ho.eq_of_id hv (mem_of_tile? ht) (eq_of_beq hid)]
    exact ⟨rfl, .inr harea⟩
  · exact ⟨rfl, .inl rfl⟩

/-- A new scene, in a store whose tiles are all in scenes. -/
theorem elsewhere_addScene (hscenes : ∀ t ∈ s.tiles, (s.scene? t.scene).isSome) (x : Scene) :
    Elsewhere x.aoi s (s.addScene x) where
  aois := fun _ _ => rfl
  scenes := by
    intro name hne
    simp [scenesOf, addScene, Ne.symm hne]
  tiles := by
    intro name _ p
    refine List.filter_congr fun t ht => ?_
    obtain ⟨y, hy⟩ := Option.isSome_iff_exists.1 (hscenes t ht)
    rw [scene?_addScene_of_some hy, hy]

theorem elsewhere_addTile (harea : s.aoiOf? t = some area) : Elsewhere area s (s.addTile t) where
  aois := fun _ _ => rfl
  scenes := fun _ _ => rfl
  tiles := by
    intro name hne p
    obtain ⟨x, hx, rfl⟩ := Option.map_eq_some_iff.1 harea
    show (s.tiles ++ [t]).filter (fun v => (s.scene? v.scene).any _) = _
    rw [List.filter_append, List.filter_cons_of_neg (by simp [hx, Ne.symm hne])]
    exact List.append_nil _

/-! ### Statuses that are up to date -/

/-- The status that is kept for every area is the one that it calls for. -/
def Fresh (s : Store) : Prop :=
  ∀ name status, s.aois.find? name = some status → status = s.aggregate name

theorem aggregate_refreshAoiStatus (s : Store) (area name : String) :
    (s.refreshAoiStatus area).2.aggregate name = s.aggregate name := by
  unfold refreshAoiStatus
  dsimp only
  split <;> rfl

theorem find?_refreshAoiStatus (s : Store) (area name : String) :
    (s.refreshAoiStatus area).2.aois.find? name =
      if name = area then (s.aois.find? area).map fun _ => s.aggregate area
      else s.aois.find? name := by
  unfold refreshAoiStatus
  dsimp only
  rw [KeyMap.contains_eq_isSome]
  by_cases hname : name = area
  · subst hname
    cases hfind : s.aois.find? name with
    | none => simpa using hfind
    | some status => simp [KeyMap.find?_insert]
  · rw [if_neg hname]
    split
    · exact (KeyMap.find?_insert _ _ _ _).trans (if_neg (Ne.symm hname))
    · rfl

theorem elsewhere_refreshAoiStatus (s : Store) (area : String) :
    Elsewhere area s (s.refreshAoiStatus area).2 where
  aois := fun name hne => by rw [find?_refreshAoiStatus, if_neg hne]
  scenes := fun name _ => by
    rw [scenesOf, (sameRows_refreshAoiStatus s area).scenes, scenesOf]
  tiles := fun name _ p => by
    have hsame := sameRows_refreshAoiStatus s area
    simp only [tilesWhere, hsame.tiles, hsame.scene?]

/-- A change within one area that ends with bringing its status up to date. -/
theorem Fresh.refresh (h : Fresh s) (helse : Elsewhere area s s') :
    Fresh (s'.refreshAoiStatus area).2 := by
  intro name status hstatus
  rw [aggregate_refreshAoiStatus]
  rw [find?_refreshAoiStatus] at hstatus
  split at hstatus
  · next hname =>
    obtain ⟨_, -, rfl⟩ := Option.map_eq_some_iff.1 hstatus
    rw [hname]
  · next hname =>
    rw [helse.aois name hname] at hstatus
    rw [helse.aggregate hname]
    exact h name status hstatus

theorem Fresh.congr (h : Fresh s) (haois : s'.aois = s.aois)
    (hscenes : s'.sceneStandings = s.sceneStandings)
    (htiles : s'.tileStandings = s.tileStandings) : Fresh s' := by
  intro name status hstatus
  rw [aggregate_congr hscenes htiles]
  exact h name status (haois ▸ hstatus)

end Store
end SceneWorkflow
