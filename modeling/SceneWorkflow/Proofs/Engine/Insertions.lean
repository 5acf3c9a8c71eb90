import Mathlib.Data.Fintype.Card
import Mathlib.Data.Fintype.EquivFin
import Mathlib.Data.Fintype.Sets
import Mathlib.Data.List.Perm.Subperm
import Mathlib.Logic.Relation
import Mathlib.Order.WellFounded
import SceneWorkflow.Proofs.Engine.Ingestion
import SceneWorkflow.Proofs.KeyMap.Lookup
import SceneWorkflow.Proofs.Store.Names

/-!
# The order in which tiles are stored

The tiles of a scene are stored in passes over all of them, each tile once the tiles of
its scene that it builds on are there. A pass that stores no tile ends this with an
error. If no tile builds on itself, directly or not, then every pass stores one.
-/
namespace SceneWorkflow

def TileRequest.links (q : TileRequest) : List TileLink := q.previous.toList ++ q.reference.toList

def SceneRequest.BuildsOn (r : SceneRequest) (a b : String) : Prop :=
  ∃ q, r.tiles.find? a = some q ∧ ⟨r.sourceId, b⟩ ∈ q.links

namespace Store
variable {s : Store} {aoi : String} {l : TileLink} {t : Tile}

/-- The link of a tile tells the tile that a requested link names, an older one that has not failed. -/
def Points (s : Store) (aoi : String) (id : Int) : Option TileLink → Option Int → Prop
  | none, link => link = none
  | some l, link => ∃ t, s.Names aoi l t ∧ t.status ≠ .failed ∧ t.id < id ∧ link = some t.id

structure Fulfils (s : Store) (r : SceneRequest) (scene : Int) (t : Tile) (q : TileRequest) : Prop where
  row : t =
    { id := t.id, sourceId := t.sourceId, scene, previous := t.previous, reference := t.reference,
      status := .new, attrs := q.attrs, budget := r.budget.toInt }
  previous : s.Points r.aoi t.id q.previous t.previous
  reference : s.Points r.aoi t.id q.reference t.reference

theorem Names.addTile (h : s.Names aoi l t) (u : Tile) : (s.addTile u).Names aoi l t :=
  ⟨List.mem_append_left _ h.1, h.2⟩

theorem Points.mono {s' : Store} (hnames : ∀ l t, s.Names aoi l t → s'.Names aoi l t) {id : Int}
    {request : Option TileLink} {link : Option Int} (h : s.Points aoi id request link) :
    s'.Points aoi id request link := by
  cases request with
  | none => exact h
  | some l =>
    obtain ⟨t, ht, hrest⟩ := h
    exact ⟨t, hnames l t ht, hrest⟩

theorem Fulfils.mono {s' : Store} {r : SceneRequest} {scene : Int} {q : TileRequest}
    (hnames : ∀ l t, s.Names r.aoi l t → s'.Names r.aoi l t) (h : s.Fulfils r scene t q) :
    s'.Fulfils r scene t q :=
  ⟨h.row, h.previous.mono hnames, h.reference.mono hnames⟩

theorem Fulfils.names {r : SceneRequest} {scene : Int} {q : TileRequest}
    (h : s.Fulfils r scene t q) (hl : l ∈ q.links) :
    ∃ u, s.Names r.aoi l u ∧ u.status ≠ .failed ∧ u.id < t.id := by
  have hpoints {request : Option TileLink} {link : Option Int}
      (h : s.Points r.aoi t.id request link) (hl : l ∈ request.toList) :
      ∃ u, s.Names r.aoi l u ∧ u.status ≠ .failed ∧ u.id < t.id := by
    obtain rfl := Option.mem_toList.1 hl
    obtain ⟨u, hu, hlive, hlt, -⟩ := h
    exact ⟨u, hu, hlive, hlt⟩
  rcases List.mem_append.1 hl with hl | hl
  · exact hpoints h.previous hl
  · exact hpoints h.reference hl

theorem points_of_resolve (hs : s.Ordered) (hn : s.Named) {field : String}
    {request : Option TileLink} {link : Option Int} (h : s.resolve aoi field request = .ok link) :
    s.Points aoi (s.lastTile + 1) request link := by
  obtain ⟨rfl, rfl⟩ | ⟨l, t, rfl, ht, hlive, rfl⟩ := resolve_eq_ok h
  · exact rfl
  · have hnames := (linked?_eq_some hn).1 ht
    have hle := hs.tile_le t hnames.1
    exact ⟨t, hnames, hlive, by omega, rfl⟩

theorem resolve_of_names (hn : s.Named) (field : String) (request : Option TileLink)
    (h : ∀ l ∈ request.toList, ∃ t, s.Names aoi l t ∧ t.status ≠ .failed) :
    ∃ link, s.resolve aoi field request = .ok link := by
  cases request with
  | none => exact ⟨none, rfl⟩
  | some l =>
    obtain ⟨t, ht, hlive⟩ := h l (Option.mem_toList.2 rfl)
    refine ⟨some t.id, ?_⟩
    rw [resolve, (linked?_eq_some hn).2 ht]
    exact if_neg hlive

/-- A tile is stored if its links are found, its name is not taken and its scene is there. -/
theorem exists_createTile {d : TileDraft} {previous reference : Option Int}
    (hprevious : s.resolve d.aoi "previous" d.previous = .ok previous)
    (hreference : s.resolve d.aoi "reference" d.reference = .ok reference)
    (hfree : ∀ t ∈ s.tiles, ¬ (t.scene = d.scene ∧ t.sourceId = d.sourceId))
    (hscene : (s.scene? d.scene).isSome) : ∃ stored, s.createTile d = .ok stored := by
  have htaken : ¬ (s.tiles.any fun t => t.scene == d.scene && t.sourceId == d.sourceId) := by
    simpa using hfree
  have hinsert : ∃ stored, s.insertTile d previous reference = .ok stored := by
    rw [insertTile, if_neg htaken, if_pos hscene]
    exact ⟨_, rfl⟩
  obtain ⟨stored, hinsert⟩ := hinsert
  exact ⟨stored, bind_eq_ok.2 ⟨previous, hprevious, bind_eq_ok.2 ⟨reference, hreference, hinsert⟩⟩⟩

end Store

namespace Ingestion
open Store Relation
variable {r : SceneRequest} {x : Scene} {s s₁ s₂ : Store} {created now : List String}
  {name : String} {q : TileRequest}

theorem isReady_iff {scene : String} :
    isReady scene created q = true ↔ ∀ l ∈ q.links, l.scene = scene → l.tile ∈ created := by
  have hlinks : q.linksInto scene = q.links.filter fun l => l.scene == scene := rfl
  rw [isReady, hlinks]
  simp [Decidable.imp_iff_not_or]

structure Opened (r : SceneRequest) (x : Scene) (s : Store) : Prop where
  schema : s.Schema
  named : s.Named
  row : s.scene? x.id = some x
  aoi_eq : x.aoi = r.aoi
  name_eq : x.sourceId = r.sourceId
  bare : ∀ t ∈ s.tiles, t.scene ≠ x.id

/-- Some of the tiles of a scene have been stored as requested, and nothing else has been done. -/
structure Filled (r : SceneRequest) (x : Scene) (s : Store) (created : List String)
    (s' : Store) : Prop where
  schema : s'.Schema
  named : s'.Named
  rest : s' = { s with tiles := s'.tiles, lastTile := s'.lastTile }
  tiles : ∃ ts, s'.tiles = s.tiles ++ ts ∧ ts.map (·.sourceId) = created.reverse ∧
    ∀ t ∈ ts, ∃ q, r.tiles.find? t.sourceId = some q ∧ s'.Fulfils r x.id t q

theorem Opened.filled (h : Opened r x s) : Filled r x s [] s where
  schema := h.schema
  named := h.named
  rest := rfl
  tiles := ⟨[], (List.append_nil _).symm, rfl, fun _ ht => absurd ht List.not_mem_nil⟩

/-- The tiles that have been stored bear the names of those created. -/
theorem mem_created {ts : List Tile} (hnames : ts.map (·.sourceId) = created.reverse) :
    name ∈ created ↔ ∃ t ∈ ts, t.sourceId = name := by
  rw [← List.mem_reverse, ← hnames, List.mem_map]

namespace Filled

theorem scene? (h : Filled r x s created s₁) (id : Int) : s₁.scene? id = s.scene? id := by
  rw [h.rest]
  rfl

theorem subset_keys (h : Filled r x s created s₁) : created ⊆ r.tiles.keys := by
  obtain ⟨ts, -, hnames, hts⟩ := h.tiles
  intro name hname
  obtain ⟨t, ht, rfl⟩ := (mem_created hnames).1 hname
  obtain ⟨q, hq, -⟩ := hts t ht
  exact KeyMap.mem_keys.2 ⟨q, hq⟩

theorem nodup (h : Filled r x s created s₁) : created.Nodup := by
  obtain ⟨ts, htiles, hnames, hts⟩ := h.tiles
  have hplaces := h.named.tiles
  rw [htiles, List.map_append] at hplaces
  have hscene : ∀ t ∈ ts, t.scene = x.id := by
    intro t ht
    obtain ⟨q, -, hfulfils⟩ := hts t ht
    rw [hfulfils.row]
  have hmap : ts.map (fun t => (t.scene, t.sourceId)) = (ts.map (·.sourceId)).map (x.id, ·) := by
    rw [List.map_map]
    exact List.map_congr_left fun t ht => by rw [hscene t ht]; rfl
  have hnodup := (List.nodup_append.1 hplaces).2.1
  rw [hmap] at hnodup
  exact List.nodup_reverse.1 (hnames ▸ hnodup.of_map _)

theorem names (h : Filled r x s created s₁) {aoi : String} {l : TileLink} {t : Tile}
    (ht : s.Names aoi l t) : s₁.Names aoi l t := by
  obtain ⟨ts, htiles, -⟩ := h.tiles
  obtain ⟨hmem, hname, hscene⟩ := ht
  refine ⟨htiles ▸ List.mem_append_left _ hmem, hname, ?_⟩
  simpa only [h.scene?] using hscene

/-- What has been stored can be built on. -/
theorem names_created (h : Filled r x s created s₁) (ho : Opened r x s) (hname : name ∈ created) :
    ∃ t, s₁.Names r.aoi ⟨r.sourceId, name⟩ t ∧ t.status ≠ .failed := by
  obtain ⟨ts, htiles, hnames, hts⟩ := h.tiles
  obtain ⟨t, ht, rfl⟩ := (mem_created hnames).1 hname
  obtain ⟨q, -, hfulfils⟩ := hts t ht
  have hrow := hfulfils.row
  refine ⟨t, ⟨htiles ▸ List.mem_append_right _ ht, rfl, x, ?_, ho.aoi_eq, ho.name_eq⟩, ?_⟩
  · rw [h.scene?, hrow]
    exact ho.row
  · rw [hrow]
    nofun

/-- A tile that a link into the scene names has been stored with it. -/
theorem mem_of_names (ho : Opened r x s) {ts : List Tile} (htiles : s₁.tiles = s.tiles ++ ts)
    (h : Filled r x s created s₁) {u : Tile} (hu : s₁.Names r.aoi ⟨r.sourceId, name⟩ u) :
    u ∈ ts ∧ u.sourceId = name := by
  obtain ⟨hmem, hname, y, hy, haoi, hscene⟩ := hu
  refine ⟨?_, hname⟩
  rw [h.scene?] at hy
  obtain rfl := ho.named.scene_unique (mem_of_scene? hy) (mem_of_scene? ho.row)
    (haoi.trans ho.aoi_eq.symm) (hscene.trans ho.name_eq.symm)
  rw [htiles] at hmem
  exact (List.mem_append.1 hmem).resolve_left fun hold => ho.bare u hold (scene?_id hy).symm

end Filled

/-! ### One tile -/

def tileDraft (r : SceneRequest) (scene : Int) (name : String) (q : TileRequest) : TileDraft where
  sourceId := name
  scene := scene
  aoi := r.aoi
  previous := q.previous
  reference := q.reference
  attrs := q.attrs
  budget := r.budget

theorem exec_createTile (r : SceneRequest) (scene : Int) (name : String) (q : TileRequest)
    (s : Store) :
    (createTile r scene name q).exec s =
      (s.createTile (tileDraft r scene name q)).map fun stored => ((), stored.2) := by
  unfold createTile
  rw [Work.exec_bind]
  show ((Work.call (.createTile (tileDraft r scene name q))).exec s).bind _ = _
  rw [Work.exec_call]
  rfl

theorem Filled.addTile {t : Tile} (h : Filled r x s created s₁) (hschema : (s₁.addTile t).Schema)
    (hnamed : (s₁.addTile t).Named) (hq : r.tiles.find? t.sourceId = some q)
    (hfulfils : s₁.Fulfils r x.id t q) :
    Filled r x s (t.sourceId :: created) (s₁.addTile t) := by
  obtain ⟨ts, htiles, hnames, hts⟩ := h.tiles
  refine ⟨hschema, hnamed, congrArg (fun s' : Store => s'.addTile t) h.rest, ts ++ [t], ?_, ?_, ?_⟩
  · show s₁.tiles ++ [t] = _
    rw [htiles, List.append_assoc]
  · rw [List.map_append, hnames, List.reverse_cons]
    rfl
  · intro u hu
    rcases List.mem_append.1 hu with hu | hu
    · obtain ⟨p, hp, hfulfils⟩ := hts u hu
      exact ⟨p, hp, hfulfils.mono fun _ _ ht => ht.addTile t⟩
    · obtain rfl := List.mem_singleton.1 hu
      exact ⟨q, hq, hfulfils.mono fun _ _ ht => ht.addTile u⟩

theorem Filled.createTile (h : Filled r x s created s₁) (hq : r.tiles.find? name = some q)
    (hok : (createTile r x.id name q).exec s₁ = .ok ((), s₂)) :
    Filled r x s (name :: created) s₂ := by
  rw [exec_createTile] at hok
  obtain ⟨⟨id, s₂⟩, hcreate, heq⟩ := map_eq_ok.1 hok
  cases heq
  have hschema := h.schema.createTile hcreate
  have hnamed := h.named.createTile hcreate
  obtain ⟨previous, reference, hprevious, hreference, hinsert⟩ := createTile_eq_ok hcreate
  obtain ⟨-, -, rfl, rfl⟩ := insertTile_eq_ok hinsert
  exact h.addTile hschema hnamed hq
    ⟨rfl, points_of_resolve h.schema.toOrdered h.named hprevious,
      points_of_resolve h.schema.toOrdered h.named hreference⟩

/-- A tile whose links name tiles that have not failed can be stored. -/
theorem Filled.exists_createTile (h : Filled r x s created s₁) (ho : Opened r x s)
    (hname : name ∉ created)
    (hlinks : ∀ l ∈ q.links, ∃ t, s₁.Names r.aoi l t ∧ t.status ≠ .failed) :
    ∃ s₂, (Ingestion.createTile r x.id name q).exec s₁ = .ok ((), s₂) := by
  obtain ⟨previous, hprevious⟩ := resolve_of_names h.named "previous" q.previous
    fun l hl => hlinks l (List.mem_append_left _ hl)
  obtain ⟨reference, hreference⟩ := resolve_of_names h.named "reference" q.reference
    fun l hl => hlinks l (List.mem_append_right _ hl)
  have hfree : ∀ t ∈ s₁.tiles, ¬ (t.scene = x.id ∧ t.sourceId = name) := by
    obtain ⟨ts, htiles, hnames, -⟩ := h.tiles
    rintro t ht ⟨hscene, rfl⟩
    rcases List.mem_append.1 (htiles ▸ ht) with hold | hnew
    · exact ho.bare t hold hscene
    · exact hname ((mem_created hnames).2 ⟨t, hnew, rfl⟩)
  have hscene : (s₁.scene? x.id).isSome := by
    rw [h.scene?, ho.row]
    rfl
  obtain ⟨stored, hcreate⟩ :=
    Store.exists_createTile (d := tileDraft r x.id name q) hprevious hreference hfree hscene
  rw [exec_createTile, hcreate]
  exact ⟨stored.2, rfl⟩

/-! ### One pass -/

/-- A pass only adds to what has been created. -/
theorem suffix_of_createReady {scene : Int} {es : List (String × TileRequest)}
    (hok : (createReady r scene es created).exec s₁ = .ok (now, s₂)) : created <:+ now := by
  induction es generalizing created s₁ with
  | nil =>
    cases hok
    exact List.suffix_refl _
  | cons e es ih =>
    unfold createReady at hok
    split at hok
    · obtain ⟨_, s₃, -, hok⟩ := Work.exec_bind_eq_ok hok
      exact (List.suffix_cons e.1 created).trans (ih hok)
    · exact ih hok

/-- What a pass has stored is stored as requested, and no tile that was ready before it is left out. -/
theorem createReady_eq_ok {es : List (String × TileRequest)}
    (hes : ∀ e ∈ es, r.tiles.find? e.1 = some e.2) (h : Filled r x s created s₁)
    (hok : (createReady r x.id es created).exec s₁ = .ok (now, s₂)) :
    Filled r x s now s₂ ∧ ∀ e ∈ es, isReady r.sourceId created e.2 → e.1 ∈ now := by
  induction es generalizing created s₁ with
  | nil =>
    cases hok
    exact ⟨h, nofun⟩
  | cons e es ih =>
    obtain ⟨name, q⟩ := e
    have hrest := fun e he => hes e (List.mem_cons_of_mem _ he)
    unfold createReady at hok
    split at hok
    · obtain ⟨_, s₃, hcreate, hok⟩ := Work.exec_bind_eq_ok hok
      have hfilled := h.createTile (hes (name, q) List.mem_cons_self) hcreate
      obtain ⟨hnow, hready⟩ := ih hrest hfilled hok
      refine ⟨hnow, ?_⟩
      intro e he heready
      rcases List.mem_cons.1 he with rfl | he
      · exact (suffix_of_createReady hok).subset List.mem_cons_self
      · refine hready e he (isReady_iff.2 fun l hl hscene => ?_)
        exact List.mem_cons_of_mem _ (isReady_iff.1 heready l hl hscene)
    · next hcond =>
      obtain ⟨hnow, hready⟩ := ih hrest h hok
      refine ⟨hnow, ?_⟩
      intro e he heready
      rcases List.mem_cons.1 he with rfl | he
      · refine (suffix_of_createReady hok).subset (Decidable.byContradiction fun hnot => hcond ?_)
        simpa [heready] using hnot
      · exact hready e he heready

/-- The links of the tiles that lead out of the scene name tiles that have not failed. -/
def Supported (r : SceneRequest) (s : Store) : Prop :=
  ∀ name q, r.tiles.find? name = some q → ∀ l ∈ q.links, l.scene ≠ r.sourceId →
    ∃ t, s.Names r.aoi l t ∧ t.status ≠ .failed

theorem exists_createReady (ho : Opened r x s) (hsupported : Supported r s)
    {es : List (String × TileRequest)} (hes : ∀ e ∈ es, r.tiles.find? e.1 = some e.2)
    (h : Filled r x s created s₁) :
    ∃ now s₂, (createReady r x.id es created).exec s₁ = .ok (now, s₂) := by
  induction es generalizing created s₁ with
  | nil => exact ⟨created, s₁, rfl⟩
  | cons e es ih =>
    obtain ⟨name, q⟩ := e
    have hq := hes (name, q) List.mem_cons_self
    have hrest := fun e he => hes e (List.mem_cons_of_mem _ he)
    unfold createReady
    split
    · next hcond =>
      obtain ⟨hname, hready⟩ := Bool.and_eq_true_iff.1 hcond
      have hlinks : ∀ l ∈ q.links, ∃ t, s₁.Names r.aoi l t ∧ t.status ≠ .failed := by
        intro l hl
        by_cases hscene : l.scene = r.sourceId
        · have hcreated := isReady_iff.1 hready l hl hscene
          have hnames := h.names_created ho hcreated
          rwa [← hscene] at hnames
        · obtain ⟨t, ht, hlive⟩ := hsupported name q hq l hl hscene
          exact ⟨t, h.names ht, hlive⟩
      obtain ⟨s₂, hcreate⟩ := h.exists_createTile ho (by simpa using hname) hlinks
      rw [Work.exec_bind_ok hcreate]
      exact ih hrest (h.createTile hq hcreate)
    · exact ih hrest h

/-! ### All passes -/

/-- No tile of the scene builds on itself, and links into the scene name tiles of the request. -/
structure Orderly (r : SceneRequest) : Prop where
  declared : ∀ a b, r.BuildsOn a b → b ∈ r.tiles.keys
  acyclic : ∀ a, ¬ TransGen r.BuildsOn a a

/-- While tiles of an orderly scene are missing, one of them is ready. -/
theorem Orderly.exists_ready (h : Orderly r) {missing : String} (hmissing : missing ∈ r.tiles.keys)
    (hnot : missing ∉ created) :
    ∃ name q, r.tiles.find? name = some q ∧ name ∉ created ∧ isReady r.sourceId created q := by
  let builds : { a // a ∈ r.tiles.keys } → { a // a ∈ r.tiles.keys } → Prop :=
    fun b a => TransGen r.BuildsOn a.1 b.1
  have : IsTrans _ builds := ⟨fun _ _ _ hab hbc => hbc.trans hab⟩
  have : Std.Irrefl builds := ⟨fun a hcycle => h.acyclic a.1 hcycle⟩
  have hfounded : WellFounded builds := Finite.wellFounded_of_trans_of_irrefl builds
  obtain ⟨⟨name, hname⟩, hleft, hleast⟩ :=
    hfounded.has_min { a | a.1 ∉ created } ⟨⟨missing, hmissing⟩, hnot⟩
  obtain ⟨q, hq⟩ := KeyMap.mem_keys.1 hname
  refine ⟨name, q, hq, hleft, isReady_iff.2 fun l hl hscene => ?_⟩
  refine Decidable.byContradiction fun hopen => ?_
  have hbuilds : r.BuildsOn name l.tile := ⟨q, hq, hscene ▸ hl⟩
  exact hleast ⟨l.tile, h.declared _ _ hbuilds⟩ hopen (.single hbuilds)

theorem find?_entries (r : SceneRequest) : ∀ e ∈ r.tiles.entries, r.tiles.find? e.1 = some e.2 :=
  fun _ he => KeyMap.find?_of_mem he

/-- When all passes have succeeded, all tiles are stored. -/
theorem createTiles_eq_ok {passes : Nat} (hpasses : r.tiles.size ≤ passes + created.length)
    (h : Filled r x s created s₁)
    (hok : (createTiles r x.id passes created).exec s₁ = .ok ((), s₂)) :
    ∃ all, all.Perm r.tiles.keys ∧ Filled r x s all s₂ := by
  have hall {all : List String} {s' : Store} (h : Filled r x s all s')
      (hsize : r.tiles.size ≤ all.length) : all.Perm r.tiles.keys := by
    refine (h.nodup.subperm h.subset_keys).perm_of_length_le ?_
    rwa [KeyMap.length_keys]
  induction passes generalizing created s₁ with
  | zero =>
    cases hok
    exact ⟨created, hall h (by omega), h⟩
  | succ passes ih =>
    unfold createTiles at hok
    split at hok
    · obtain ⟨now, s₃, hpass, hok⟩ := Work.exec_bind_eq_ok hok
      obtain ⟨hnow, -⟩ := createReady_eq_ok (find?_entries r) h hpass
      have hle := (suffix_of_createReady hpass).length_le
      split at hok
      · cases hok
      · exact ih (by omega) hnow hok
    · next hfull =>
      cases hok
      exact ⟨created, hall h (by omega), h⟩

theorem exists_createTiles (ho : Opened r x s) (hsupported : Supported r s) (horderly : Orderly r)
    (passes : Nat) (h : Filled r x s created s₁) :
    ∃ s₂, (createTiles r x.id passes created).exec s₁ = .ok ((), s₂) := by
  induction passes generalizing created s₁ with
  | zero => exact ⟨s₁, rfl⟩
  | succ passes ih =>
    unfold createTiles
    split
    · next hopen =>
      obtain ⟨now, s₂, hpass⟩ := exists_createReady ho hsupported (find?_entries r) h
      obtain ⟨hnow, hready⟩ := createReady_eq_ok (find?_entries r) h hpass
      have hmissing : ∃ name ∈ r.tiles.keys, name ∉ created := by
        refine Decidable.byContradiction fun hnone => ?_
        have hsubset : r.tiles.keys ⊆ created := fun name hname =>
          Decidable.byContradiction fun hnot => hnone ⟨name, hname, hnot⟩
        have hle := (r.tiles.nodup_keys.subperm hsubset).length_le
        rw [KeyMap.length_keys] at hle
        omega
      obtain ⟨missing, hkey, hnot⟩ := hmissing
      obtain ⟨name, q, hq, hname, hisReady⟩ := horderly.exists_ready hkey hnot
      have hgrown : now.length ≠ created.length := by
        intro hlength
        refine hname ?_
        rw [(suffix_of_createReady hpass).eq_of_length hlength.symm]
        exact hready (name, q) (KeyMap.mem_of_find? hq) hisReady
      rw [Work.exec_bind_ok hpass, if_neg hgrown]
      exact ih hnow
    · exact ⟨s₁, rfl⟩

/-- More passes than there are tiles make no difference: the tiles run out, or a pass stores none. -/
theorem createTiles_succ {scene : Int} {passes : Nat}
    (hpasses : r.tiles.size ≤ passes + created.length) :
    (createTiles r scene (passes + 1) created).exec s₁ =
      (createTiles r scene passes created).exec s₁ := by
  induction passes generalizing created s₁ with
  | zero =>
    unfold createTiles
    rw [if_neg (by omega)]
  | succ passes ih =>
    rw [createTiles, createTiles]
    split
    · rw [Work.exec_bind, Work.exec_bind]
      cases hpass : (createReady r scene r.tiles.entries created).exec s₁ with
      | error e => rfl
      | ok pass =>
        obtain ⟨now, s₂⟩ := pass
        have hle := (suffix_of_createReady hpass).length_le
        show (if now.length = created.length then _ else createTiles r scene (passes + 1) now).exec s₂ =
          (if now.length = created.length then _ else createTiles r scene passes now).exec s₂
        split
        · rfl
        · exact ih (by omega)
    · rfl

theorem createTiles_of_size_le (r : SceneRequest) (scene : Int) {passes : Nat}
    (hpasses : r.tiles.size ≤ passes) (s : Store) :
    (createTiles r scene passes []).exec s = (createTiles r scene r.tiles.size []).exec s := by
  induction hpasses with
  | refl => rfl
  | step hle ih => exact (createTiles_succ (by simpa using hle)).trans ih

end Ingestion

end SceneWorkflow
