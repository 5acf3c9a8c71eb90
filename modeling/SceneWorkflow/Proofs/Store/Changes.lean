import SceneWorkflow.Proofs.Store.Tables
import SceneWorkflow.Store.Call

/-!
# What calls do when they succeed

One lemma per operation on the store: when it is carried out, what it answers,
and which store it leaves.
-/
namespace SceneWorkflow

theorem map_eq_ok {ε α β : Type} {x : Except ε α} {f : α → β} {b : β} :
    x.map f = .ok b ↔ ∃ a, x = .ok a ∧ f a = b := by
  cases x with
  | error e => simp [Except.map]
  | ok a => simp [Except.map]

theorem map_eq_error {ε α β : Type} {x : Except ε α} {f : α → β} {e : ε} :
    x.map f = .error e ↔ x = .error e := by
  cases x with
  | error e' => simp [Except.map]
  | ok a => simp [Except.map]

theorem bind_eq_ok {ε α β : Type} {x : Except ε α} {f : α → Except ε β} {b : β} :
    x >>= f = .ok b ↔ ∃ a, x = .ok a ∧ f a = .ok b := by
  cases x with
  | error e => simp [bind, Except.bind]
  | ok a => simp [bind, Except.bind]

theorem toOption_eq_some {ε α : Type} {x : Except ε α} {a : α} :
    x.toOption = some a ↔ x = .ok a := by
  cases x with
  | error e => simp [Except.toOption]
  | ok a => simp [Except.toOption]

def SceneDraft.row (d : SceneDraft) (id : Int) : Scene :=
  { id, sourceId := d.sourceId, aoi := d.aoi, status := d.status, attrs := d.attrs,
    budget := d.budget.toInt }

/-- The row that a draft of a tile becomes, once its links are looked up. -/
def TileDraft.row (d : TileDraft) (id : Int) (previous reference : Option Int) : Tile :=
  { id, sourceId := d.sourceId, scene := d.scene, previous, reference, status := .new,
    attrs := d.attrs, budget := d.budget.toInt }

namespace Store
variable {s s' : Store} {id : Int} {t : Tile} {x : Scene}

/-! ### Reading -/

theorem getScene_eq_ok : s.getScene id = .ok x ↔ s.scene? id = some x ∧ leastBudget ≤ x.budget := by
  unfold getScene
  cases h : s.scene? id with
  | none => simp
  | some y =>
    by_cases hb : leastBudget ≤ y.budget
    · simp only [hb, if_true, Except.ok.injEq, Option.some.injEq]
      constructor
      · rintro rfl
        exact ⟨rfl, hb⟩
      · exact fun h => h.1
    · simp only [hb, if_false, Option.some.injEq, reduceCtorEq, false_iff, not_and]
      rintro rfl
      exact hb

theorem getTile_eq_ok : s.getTile id = .ok t ↔ s.tile? id = some t ∧ leastBudget ≤ t.budget := by
  unfold getTile
  cases h : s.tile? id with
  | none => simp
  | some u =>
    by_cases hb : leastBudget ≤ u.budget
    · simp only [hb, if_true, Except.ok.injEq, Option.some.injEq]
      constructor
      · rintro rfl
        exact ⟨rfl, hb⟩
      · exact fun h => h.1
    · simp only [hb, if_false, Option.some.injEq, reduceCtorEq, false_iff, not_and]
      rintro rfl
      exact hb

theorem readable_eq_ok {α : Type} {operation : String} {budget : α → Int} {rows found : List α} :
    readable operation budget rows = .ok found ↔
      found = rows ∧ ∀ row ∈ rows, leastBudget ≤ budget row := by
  unfold readable
  split
  · next h =>
    have hall : ∀ row ∈ rows, leastBudget ≤ budget row := by simpa using h
    simp only [Except.ok.injEq]
    exact ⟨fun e => ⟨e.symm, hall⟩, fun e => e.1.symm⟩
  · next h =>
    have hnot : ¬ ∀ row ∈ rows, leastBudget ≤ budget row := by simpa using h
    simp only [reduceCtorEq, false_iff]
    exact fun e => hnot e.2

theorem readTiles_eq_ok {operation : String} {rows ts : List Tile} :
    readTiles operation rows = .ok ts ↔ ts = rows ∧ ∀ t ∈ rows, leastBudget ≤ t.budget :=
  readable_eq_ok

theorem mem_of_listScenes {aoi : String} {status : Option Status} {xs : List Scene}
    (h : s.listScenes aoi status = .ok xs) {x : Scene} (hx : x ∈ xs) : x ∈ s.scenes := by
  obtain ⟨rfl, -⟩ := readable_eq_ok.1 h
  exact (List.mem_filter.1 (List.mem_filter.1 hx).1).1

theorem mem_of_listTiles {f : TileFilter} {ts : List Tile} (h : s.listTiles f = .ok ts) {t : Tile}
    (ht : t ∈ ts) : t ∈ s.tiles := by
  obtain ⟨rfl, -⟩ := readTiles_eq_ok.1 h
  exact (List.mem_filter.1 (List.mem_filter.1 ht).1).1

theorem aoi_of_listScenes {aoi : String} {status : Option Status} {xs : List Scene}
    (h : s.listScenes aoi status = .ok xs) {x : Scene} (hx : x ∈ xs) : x.aoi = aoi := by
  obtain ⟨rfl, -⟩ := readable_eq_ok.1 h
  exact eq_of_beq (List.mem_filter.1 (List.mem_filter.1 hx).1).2

theorem places_of_listTiles {f : TileFilter} {ts : List Tile} (h : s.listTiles f = .ok ts)
    {t : Tile} (ht : t ∈ ts) :
    (∀ aoi, f.aoi = some aoi → s.aoiOf? t = some aoi) ∧ ∀ k, f.scene = some k → t.scene = k := by
  obtain ⟨rfl, -⟩ := readTiles_eq_ok.1 h
  obtain ⟨hwhere, hfilter⟩ := List.mem_filter.1 ht
  obtain ⟨x, hx, haoi⟩ := (Option.any_eq_true _ _).1 (List.mem_filter.1 hwhere).2
  rw [Bool.and_eq_true] at hfilter
  constructor
  · rintro aoi hf
    rw [hf] at haoi
    rw [aoiOf?, hx, ← eq_of_beq haoi]
    rfl
  · rintro k hf
    rw [hf] at hfilter
    exact eq_of_beq hfilter.1

/-! ### Writing scenes -/

theorem createScene_eq_ok {d : SceneDraft} (h : s.createScene d = .ok (id, s')) :
    s.sceneId? d.aoi d.sourceId = none ∧ s.aois.contains d.aoi = true ∧ id = s.lastScene + 1 ∧
      s' = s.addScene (d.row id) := by
  unfold createScene at h
  split at h
  · cases h
  · next hfree =>
    split at h
    · next haoi =>
      cases h
      exact ⟨by simpa using hfree, haoi, rfl, rfl⟩
    · cases h

theorem updateScene_eq_ok {u : StatusUpdate} :
    s.updateScene id u = .ok s' ↔
      (s.scene? id).isSome ∧ s' = s.setScene id u := by
  unfold updateScene setScene
  split
  · next h => simp only [h, Except.ok.injEq, true_and, eq_comm]
  · next h => simp [h]

theorem replaceSceneAttrs_eq_ok {attrs : SceneAttrs} :
    s.replaceSceneAttrs id attrs = .ok s' ↔
      (s.scene? id).isSome ∧ s' = s.modifyScenes (·.id == id) fun x => { x with attrs } := by
  unfold replaceSceneAttrs
  split
  · next h => simp only [h, Except.ok.injEq, true_and, eq_comm]
  · next h => simp [h]

/-! ### Writing tiles -/

/-- A link that is looked up names a tile of its area that has not failed. -/
theorem resolve_eq_ok {aoi field : String} {link : Option TileLink} {found : Option Int}
    (h : s.resolve aoi field link = .ok found) :
    (link = none ∧ found = none) ∨
      ∃ l t, link = some l ∧ s.linked? aoi l = some t ∧ t.status ≠ .failed ∧ found = some t.id := by
  unfold resolve at h
  split at h
  · cases h
    exact .inl ⟨rfl, rfl⟩
  · next l =>
    split at h
    · cases h
    · next t ht =>
      split at h
      · cases h
      · next hlive =>
        cases h
        exact .inr ⟨l, t, rfl, ht, hlive, rfl⟩

theorem mem_of_linked? {aoi : String} {l : TileLink} (h : s.linked? aoi l = some t) :
    t ∈ s.tiles ∧ ∃ x, s.scene? t.scene = some x ∧ x.aoi = aoi ∧ x.sourceId = l.scene := by
  have hmem := List.mem_of_find?_eq_some h
  obtain ⟨ht, hscene⟩ := List.mem_filter.1 hmem
  refine ⟨ht, ?_⟩
  cases hx : s.scene? t.scene with
  | none =>
    rw [hx] at hscene
    cases hscene
  | some x =>
    rw [hx] at hscene
    exact ⟨x, rfl, by simpa using hscene⟩

theorem insertTile_eq_ok {d : TileDraft} {previous reference : Option Int}
    (h : s.insertTile d previous reference = .ok (id, s')) :
    (∀ t ∈ s.tiles, ¬ (t.scene = d.scene ∧ t.sourceId = d.sourceId)) ∧
      (s.scene? d.scene).isSome ∧ id = s.lastTile + 1 ∧
      s' = s.addTile (d.row id previous reference) := by
  unfold insertTile at h
  split at h
  · cases h
  · next hfree =>
    split at h
    · next hscene =>
      cases h
      exact ⟨by simpa using hfree, hscene, rfl, rfl⟩
    · cases h

theorem createTile_eq_ok {d : TileDraft} (h : s.createTile d = .ok (id, s')) :
    ∃ previous reference, s.resolve d.aoi "previous" d.previous = .ok previous ∧
      s.resolve d.aoi "reference" d.reference = .ok reference ∧
      s.insertTile d previous reference = .ok (id, s') := by
  unfold createTile at h
  obtain ⟨previous, hprevious, h⟩ := bind_eq_ok.1 h
  obtain ⟨reference, hreference, h⟩ := bind_eq_ok.1 h
  exact ⟨previous, reference, hprevious, hreference, h⟩

theorem updateTile_eq_ok {u : StatusUpdate} :
    s.updateTile id u = .ok s' ↔
      (s.tile? id).isSome ∧ s' = s.setTile id u := by
  unfold updateTile setTile
  split
  · next h => simp only [h, Except.ok.injEq, true_and, eq_comm]
  · next h => simp [h]

theorem replaceTileAttrs_eq_ok {attrs : TileAttrs} :
    s.replaceTileAttrs id attrs = .ok s' ↔
      (s.tile? id).isSome ∧ s' = s.modifyTiles (·.id == id) fun t => { t with attrs } := by
  unfold replaceTileAttrs
  split
  · next h => simp only [h, Except.ok.injEq, true_and, eq_comm]
  · next h => simp [h]

theorem release_eq_ok {operation : String} {p : Tile → Bool} {ts : List Tile} :
    s.release operation p = .ok (ts, s') ↔
      (∀ t ∈ s.tiles, p t → leastBudget ≤ t.budget) ∧
      ts = (s.tiles.filter p).map (fun t => { t with status := .pending }) ∧
      s' = s.modifyTiles p fun t => { t with status := .pending } := by
  unfold release
  constructor
  · intro h
    obtain ⟨rows, hrows, h⟩ := bind_eq_ok.1 h
    obtain ⟨rfl, hb⟩ := readTiles_eq_ok.1 hrows
    cases h
    refine ⟨?_, rfl, rfl⟩
    intro t ht hp
    exact hb { t with status := .pending } (List.mem_map.2 ⟨t, List.mem_filter.2 ⟨ht, hp⟩, rfl⟩)
  · rintro ⟨hb, rfl, rfl⟩
    refine bind_eq_ok.2 ⟨_, readTiles_eq_ok.2 ⟨rfl, ?_⟩, rfl⟩
    intro t ht
    obtain ⟨u, hu, rfl⟩ := List.mem_map.1 ht
    obtain ⟨hmem, hp⟩ := List.mem_filter.1 hu
    exact hb u hmem hp

def followers (s : Store) (id : Int) : List Int :=
  (s.tiles.filter fun t => t.previous == some id).map (·.id)

theorem reparentNextTiles_eq_ok {old : Int} {new : Option Int} {ids : List Int} :
    s.reparentNextTiles old new = .ok (ids, s') ↔
      (s.followers old = [] ∨ s.hasLinked new) ∧ ids = s.followers old ∧
      s' = s.modifyTiles (·.previous == some old) fun t => { t with previous := new } := by
  have hdef : s.reparentNextTiles old new =
      if (s.followers old).isEmpty || s.hasLinked new then
        .ok (s.followers old,
          s.modifyTiles (·.previous == some old) fun t => { t with previous := new })
      else .error (missingKey "reparent_next_tiles") := rfl
  rw [hdef]
  split
  · next h =>
    simp only [Bool.or_eq_true, List.isEmpty_iff] at h
    simp only [h, true_and, Except.ok.injEq, Prod.mk.injEq]
    exact ⟨fun e => ⟨e.1.symm, e.2.symm⟩, fun e => ⟨e.1.symm, e.2.symm⟩⟩
  · next h =>
    simp only [Bool.or_eq_true, List.isEmpty_iff] at h
    simp [h]

/-- Comparisons with one tile become comparisons with another, if there is one. The other gives up
its own comparison with the old one. -/
def handOverRow (old : Int) (new : Option Int) (t : Tile) : Tile :=
  { t with
    reference :=
      match new with
      | none => t.reference
      | some id =>
        if t.reference = some old then if t.id = id then none else some id else t.reference }

def handOver (s : Store) (old new : Int) : Store := s.mapTiles (handOverRow old (some new))

/-- The two steps of handing over, as they are carried out. -/
theorem handOver_eq (s : Store) (old new : Int) :
    (s.modifyTiles (fun t => t.id == new && t.reference == some old)
      fun t => { t with reference := none }).modifyTiles (·.reference == some old)
      (fun t => { t with reference := some new }) = s.handOver old new := by
  rw [modifyTiles_eq_mapTiles, modifyTiles_eq_mapTiles, mapTiles_mapTiles, handOver]
  congr 1
  funext t
  by_cases href : t.reference = some old
  · by_cases hid : t.id = new
    · simp [handOverRow, href, hid]
    · simp [handOverRow, href, hid]
  · simp [handOverRow, href]

theorem reassignReference_self (s : Store) (old : Int) : s.reassignReference old old = .ok s := by
  simp [reassignReference]

theorem reassignReference_eq_ok {old new : Int} (hne : old ≠ new) :
    s.reassignReference old new = .ok s' ↔
      (∀ t ∈ s.tiles, t.reference = some old → t.id ≠ new → (s.tile? new).isSome) ∧
        s' = s.handOver old new := by
  have hused : ((s.modifyTiles (fun t => t.id == new && t.reference == some old)
      fun t => { t with reference := none }).tiles.any fun t => t.reference == some old) = true ↔
      ∃ t ∈ s.tiles, t.reference = some old ∧ t.id ≠ new := by
    simp only [modifyTiles, List.any_map, List.any_eq_true, Function.comp_apply]
    refine exists_congr fun t => and_congr_right fun _ => ?_
    by_cases hid : t.id = new <;> by_cases href : t.reference = some old <;> simp [hid, href]
  unfold reassignReference
  simp only [hne, if_false, handOver_eq]
  split
  · next h =>
    simp only [Bool.and_eq_true, hused, Bool.not_eq_true', hasLinked_some] at h
    obtain ⟨⟨t, ht, href, hid⟩, hnone⟩ := h
    simp only [reduceCtorEq, false_iff]
    intro e
    rw [e.1 t ht href hid] at hnone
    cases hnone
  · next h =>
    have hgood : ∀ t ∈ s.tiles, t.reference = some old → t.id ≠ new → (s.tile? new).isSome := by
      intro t ht href hid
      cases hnew : (s.tile? new).isSome with
      | true => rfl
      | false =>
        refine absurd ?_ h
        rw [Bool.and_eq_true, hused, hasLinked_some, hnew]
        exact ⟨⟨t, ht, href, hid⟩, rfl⟩
    simp only [Except.ok.injEq]
    exact ⟨fun e => ⟨hgood, e.symm⟩, fun e => e.2.symm⟩

end Store
end SceneWorkflow
