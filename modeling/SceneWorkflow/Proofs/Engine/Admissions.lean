import SceneWorkflow.Proofs.Engine.Atomicity
import SceneWorkflow.Proofs.Engine.Forests
import SceneWorkflow.Proofs.Engine.Insertions

/-!
# Which requests are taken up

A request for a scene is taken up exactly if it is consistent: it fits its area and
itself, the links out of the scene name tiles that have not failed, and the links within
it lead to tiles of the request and never in a cycle. Its scene and its tiles are stored
then, with one job, and nothing else is.
-/
namespace SceneWorkflow
open Store Relation

theorem lasting_named : Lasting Named where
  creation := fun _ _ _ h hok => (SameIdentities.of_sameRows (sameRows_createAoi hok)).named h
  relay := fun s ids h => (SameIdentities.of_sameRows (sameRows_ackJobs s ids)).named h
  task := fun _ _ _ _ h hok => Work.named_of_exec h hok

theorem Attainable.named {s : Store} (h : Attainable s) : s.Named :=
  h.induct lasting_named named_empty

namespace Store

/-- A request is consistent, and with what the store holds. -/
structure Admits (s : Store) (aoi : String) (r : SceneRequest) : Prop where
  aoi_eq : r.aoi = aoi
  has_name : r.sourceId ≠ ""
  has_tiles : r.tiles.keys ≠ []
  mapped : ∀ name, name ∈ r.tiles.keys ↔ name ∈ r.attrs.tiles.keys
  aoi_exists : s.aois.contains r.aoi
  is_new : ∀ x ∈ s.scenes, ¬ (x.aoi = r.aoi ∧ x.sourceId = r.sourceId)
  supported : Ingestion.Supported r s
  orderly : Ingestion.Orderly r

/-- A pending scene has been stored with one new tile for each one requested, and one job that
describes it. -/
structure TakesUp (s : Store) (r : SceneRequest) (id : Int) (s' : Store) : Prop where
  id_eq : id = s.lastScene + 1
  scenes : s'.scenes = s.scenes ++
    [{ id, sourceId := r.sourceId, aoi := r.aoi, status := .pending, attrs := r.attrs,
       budget := r.budget.toInt }]
  tiles : ∃ ts, s'.tiles = s.tiles ++ ts ∧ (ts.map (·.sourceId)).Perm r.tiles.keys ∧
    ∀ t ∈ ts, ∃ q, r.tiles.find? t.sourceId = some q ∧ s'.Fulfils r id t q
  outbox : s'.outbox = s.outbox ++
    [⟨s.lastJob + 1, .sceneJobs, (SceneRef.mk id r.sourceId r.aoi r.attrs).toJson.print⟩]

variable {s s' : Store} {aoi : String} {l : TileLink} {t : Tile}

theorem Names.addScene (h : s.Names aoi l t) (x : Scene) : (s.addScene x).Names aoi l t := by
  obtain ⟨ht, hname, y, hy, hscene⟩ := h
  exact ⟨ht, hname, y, scene?_addScene_of_some hy x, hscene⟩

/-- A link names no tile of a scene that is just stored. -/
theorem Schema.names_of_addScene (hs : s.Schema) {x : Scene}
    (h : (s.addScene x).Names aoi l t) : s.Names aoi l t := by
  obtain ⟨ht, hname, y, hy, hscene⟩ := h
  obtain ⟨z, hz⟩ := Option.isSome_iff_exists.1 (hs.scene_exists t ht)
  rw [scene?_addScene_of_some hz] at hy
  cases hy
  exact ⟨ht, hname, y, hz, hscene⟩

theorem createScene_of_new {d : SceneDraft} (hfree : s.sceneId? d.aoi d.sourceId = none)
    (haoi : s.aois.contains d.aoi) :
    s.createScene d = .ok (s.lastScene + 1, s.addScene (d.row (s.lastScene + 1))) := by
  rw [createScene, hfree, if_pos haoi]
  rfl

theorem SameRows.names (h : SameRows s s') (hn : s.Names aoi l t) : s'.Names aoi l t := by
  obtain ⟨ht, hname, hscene⟩ := hn
  refine ⟨h.tiles ▸ ht, hname, ?_⟩
  simpa only [h.scene?] using hscene

end Store

/-- What a request has to be like by itself. -/
theorem SceneRequest.validate_eq_ok {r : SceneRequest} {aoi : String} :
    r.validate aoi = .ok () ↔ r.aoi = aoi ∧ r.sourceId ≠ "" ∧ r.tiles.keys ≠ [] ∧
      ∀ name, name ∈ r.tiles.keys ↔ name ∈ r.attrs.tiles.keys := by
  have hempty : r.tiles.size = 0 ↔ r.tiles.keys = [] := by
    rw [← KeyMap.length_keys, List.length_eq_zero_iff]
  have hmapped : (∀ name, name ∈ r.tiles.keys ↔ name ∈ r.attrs.tiles.keys) ↔
      r.tiles.size = r.attrs.tiles.size ∧ ∀ name ∈ r.tiles.keys, r.attrs.tiles.contains name := by
    simp only [KeyMap.contains_iff_mem_keys, ← KeyMap.length_keys]
    constructor
    · intro hsame
      have hperm := (List.perm_ext_iff_of_nodup r.tiles.nodup_keys r.attrs.tiles.nodup_keys).2 hsame
      exact ⟨hperm.length_eq, fun name hname => (hsame name).1 hname⟩
    · rintro ⟨hlength, hsubset⟩ name
      have hperm := (r.tiles.nodup_keys.subperm hsubset).perm_of_length_le hlength.ge
      exact hperm.mem_iff
  rw [hmapped, validate]
  split
  · next hother => simp [hother]
  · next haoi =>
    split
    · next hname => simp [hname]
    · next hname =>
      split
      · next hsize => simp [hempty.1 hsize]
      · next hsize =>
        split
        · next hsizes => simp [hsizes]
        · next hsizes =>
          have hgood := And.intro (not_not.1 haoi) (And.intro hname (mt hempty.2 hsize))
          split
          · next name hfind =>
            have hmem := List.mem_of_find?_eq_some hfind
            have hnot : r.attrs.tiles.contains name = false := by
              simpa using List.find?_some hfind
            simp only [reduceCtorEq, false_iff]
            rintro ⟨-, -, -, -, hall⟩
            rw [hall name hmem] at hnot
            cases hnot
          · next hfind =>
            refine ⟨fun _ => ⟨hgood.1, hgood.2.1, hgood.2.2, not_not.1 hsizes, ?_⟩, fun _ => rfl⟩
            simpa using hfind

namespace Ingestion
variable {r : SceneRequest} {x : Scene} {s s' s₁ s₂ : Store} {all : List String}

/-! ### What has been stored -/

/-- In a scene that is stored, links within it lead to tiles with smaller ids. -/
theorem Filled.older_of_transGen (ho : Opened r x s) (h : Filled r x s all s₁) {ts : List Tile}
    (htiles : s₁.tiles = s.tiles ++ ts)
    (hts : ∀ t ∈ ts, ∃ q, r.tiles.find? t.sourceId = some q ∧ s₁.Fulfils r x.id t q) {a b : String}
    (hpath : TransGen r.BuildsOn a b) {t : Tile} (ht : t ∈ ts) (hname : t.sourceId = a) :
    ∃ u ∈ ts, u.sourceId = b ∧ u.id < t.id := by
  have hstep {a b : String} (hbuilds : r.BuildsOn a b) {t : Tile} (ht : t ∈ ts)
      (hname : t.sourceId = a) : ∃ u ∈ ts, u.sourceId = b ∧ u.id < t.id := by
    obtain ⟨q, hq, hl⟩ := hbuilds
    obtain ⟨p, hp, hfulfils⟩ := hts t ht
    obtain rfl := Option.some.inj (hq.symm.trans (hname ▸ hp))
    obtain ⟨u, hu, -, hlt⟩ := hfulfils.names hl
    obtain ⟨hmem, hsource⟩ := Filled.mem_of_names ho htiles h hu
    exact ⟨u, hmem, hsource, hlt⟩
  induction hpath with
  | single hbuilds => exact hstep hbuilds ht hname
  | tail _ hbuilds ih =>
    obtain ⟨u, hu, hsource, hlt⟩ := ih
    obtain ⟨v, hv, hsource', hlt'⟩ := hstep hbuilds hu hsource
    exact ⟨v, hv, hsource', hlt'.trans hlt⟩

theorem Filled.orderly (ho : Opened r x s) (h : Filled r x s all s₁) (hall : all.Perm r.tiles.keys) :
    Orderly r := by
  obtain ⟨ts, htiles, hnames, hts⟩ := h.tiles
  have hstored {a b : String} (hbuilds : r.BuildsOn a b) : ∃ t ∈ ts, t.sourceId = a := by
    obtain ⟨q, hq, -⟩ := hbuilds
    exact (mem_created hnames).1 (hall.mem_iff.2 (KeyMap.mem_keys.2 ⟨q, hq⟩))
  constructor
  · intro a b hbuilds
    obtain ⟨t, ht, hname⟩ := hstored hbuilds
    obtain ⟨u, hu, rfl, -⟩ := h.older_of_transGen ho htiles hts (.single hbuilds) ht hname
    obtain ⟨q, hq, -⟩ := hts u hu
    exact KeyMap.mem_keys.2 ⟨q, hq⟩
  · intro a hcycle
    obtain ⟨b, hbuilds, -⟩ := TransGen.head'_iff.1 hcycle
    obtain ⟨t, ht, hname⟩ := hstored hbuilds
    obtain ⟨u, hu, hname', hlt⟩ := h.older_of_transGen ho htiles hts hcycle ht hname
    have hscene {v : Tile} (hv : v ∈ ts) : v ∈ s₁.tiles ∧ v.scene = x.id := by
      obtain ⟨q, -, hfulfils⟩ := hts v hv
      exact ⟨htiles ▸ List.mem_append_right _ hv, by rw [hfulfils.row]⟩
    obtain rfl := h.named.tile_unique (hscene ht).1 (hscene hu).1
      ((hscene ht).2.trans (hscene hu).2.symm) (hname.trans hname'.symm)
    exact Int.lt_irrefl _ hlt

/-- Links out of a scene that is stored name tiles that were there before. -/
theorem Filled.supported (ho : Opened r x s) (h : Filled r x s all s₁)
    (hall : all.Perm r.tiles.keys) : Supported r s := by
  obtain ⟨ts, htiles, hnames, hts⟩ := h.tiles
  intro name q hq l hl hother
  have hname : name ∈ all := hall.mem_iff.2 (KeyMap.mem_keys.2 ⟨q, hq⟩)
  obtain ⟨t, ht, rfl⟩ := (mem_created hnames).1 hname
  obtain ⟨p, hp, hfulfils⟩ := hts t ht
  obtain rfl := Option.some.inj (hq.symm.trans hp)
  obtain ⟨u, ⟨hu, hsource, y, hy, haoi, hscene⟩, hlive, -⟩ := hfulfils.names hl
  rw [h.scene?] at hy
  refine ⟨u, ⟨?_, hsource, y, hy, haoi, hscene⟩, hlive⟩
  refine (List.mem_append.1 (htiles ▸ hu)).resolve_right fun hnew => hother ?_
  obtain ⟨p, -, hfulfils⟩ := hts u hnew
  rw [hfulfils.row] at hy
  obtain rfl := Option.some.inj (ho.row.symm.trans hy)
  exact hscene.symm.trans ho.name_eq

/-! ### The whole of it -/

theorem exec_aoi {name : String} {status : Status} (h : s.aois.find? name = some status) :
    (Work.aoi name).exec s = .ok (⟨name, status⟩, s) := by
  refine (Work.exec_call (.aoi name) s).trans ?_
  show (s.getAoi name).map _ = _
  rw [getAoi, h]
  rfl

theorem exec_sceneId (s : Store) (aoi name : String) :
    (Work.sceneId aoi name).exec s = .ok (s.sceneId? aoi name, s) :=
  Work.exec_call (.sceneId aoi name) s

theorem exec_scene_of_legible {id : Int} (hx : s.scene? id = some x)
    (hbudget : leastBudget ≤ x.budget) : (Work.scene id).exec s = .ok (x, s) := by
  refine (Work.exec_call (.scene id) s).trans ?_
  show (s.getScene id).map _ = _
  rw [getScene_eq_ok.2 ⟨hx, hbudget⟩]
  rfl

theorem opened_of_createScene (hs : s.Schema) (hn : s.Named) {scene : Int}
    (hcreate : s.createScene (sceneDraft r) = .ok (scene, s₁)) :
    Opened r ((sceneDraft r).row scene) s₁ := by
  have hschema := hs.createScene hcreate
  have hnamed := hn.createScene hcreate
  obtain ⟨-, -, hid, rfl⟩ := createScene_eq_ok hcreate
  refine ⟨hschema, hnamed, ?_, rfl, rfl, ?_⟩
  · rw [scene?_addScene]
    have hnone : s.scene? scene = none := hs.scene?_eq_none (by omega)
    show (s.scene? scene).or (if scene = scene then _ else none) = _
    rw [hnone, if_pos rfl, Option.none_or]
  · intro t ht hscene
    obtain ⟨y, hy⟩ := Option.isSome_iff_exists.1 (hs.scene_exists t ht)
    have hle := hs.scene_le y (mem_of_scene? hy)
    have hsame := scene?_id hy
    change t.scene = scene at hscene
    omega

/-- What a request that is taken up comes to, and what it must have been like. -/
theorem insertScene_cases (hs : s.Schema) (hn : s.Named) {id : Int}
    (hok : (insertScene r).exec s = .ok (id, s')) :
    s.aois.contains r.aoi ∧ (∀ x ∈ s.scenes, ¬ (x.aoi = r.aoi ∧ x.sourceId = r.sourceId)) ∧
      Supported r s ∧ Orderly r ∧ s.TakesUp r id s' := by
  obtain ⟨scene, s₁, hcreate, hrest⟩ := insertScene_eq_ok hok
  have ho := opened_of_createScene hs hn hcreate
  obtain ⟨hfree, haoi, hscene, rfl⟩ := createScene_eq_ok hcreate
  unfold completeScene at hrest
  obtain ⟨_, s₂, htiles, hrest⟩ := Work.exec_bind_eq_ok hrest
  obtain ⟨stored, s₃, hread, hrest⟩ := Work.exec_bind_eq_ok hrest
  obtain ⟨_, s₄, hqueue, hrest⟩ := Work.exec_bind_eq_ok hrest
  rw [Work.exec_bind_ok (Work.exec_refreshAoiStatus _), Work.exec_pure] at hrest
  have hend : scene = id ∧ (s₄.refreshAoiStatus r.aoi).2 = s' :=
    Prod.mk.inj (Except.ok.inj hrest)
  obtain ⟨rfl, rfl⟩ := hend
  obtain ⟨all, hall, hfilled⟩ := createTiles_eq_ok (x := (sceneDraft r).row scene)
    (Nat.le_add_right _ _) ho.filled htiles
  obtain ⟨hstored, rfl⟩ := Work.exec_scene_eq_ok hread
  obtain rfl := Option.some.inj (ho.row.symm.trans (hfilled.scene? _ ▸ hstored))
  cases (Work.exec_call _ _).symm.trans hqueue
  have hrows := (sameRows_enqueueJob s₃ .sceneJobs
    ((sceneDraft r).row scene).ref.toJson.print).trans (sameRows_refreshAoiStatus _ r.aoi)
  have hsupported : Supported r s := by
    intro name q hq l hl hother
    obtain ⟨t, ht, hlive⟩ := hfilled.supported ho hall name q hq l hl hother
    exact ⟨t, hs.names_of_addScene ht, hlive⟩
  refine ⟨haoi, sceneId?_eq_none.1 hfree, hsupported, hfilled.orderly ho hall, hscene, ?_, ?_, ?_⟩
  · rw [hrows.scenes, hfilled.rest]
    rfl
  · obtain ⟨ts, hts, hnames, hfulfils⟩ := hfilled.tiles
    refine ⟨ts, hrows.tiles.trans hts, ?_, fun t ht => ?_⟩
    · rw [hnames]
      exact all.reverse_perm.trans hall
    · obtain ⟨q, hq, hrow⟩ := hfulfils t ht
      exact ⟨q, hq, hrow.mono fun _ _ hnames => hrows.names hnames⟩
  · rw [outbox_refreshAoiStatus, Store.enqueueJob, hfilled.rest]
    rfl

/-- A consistent request for a scene that its area does not hold yet is taken up. -/
theorem exists_insertScene (hs : s.Schema) (hn : s.Named) (haoi : s.aois.contains r.aoi)
    (hnew : ∀ x ∈ s.scenes, ¬ (x.aoi = r.aoi ∧ x.sourceId = r.sourceId))
    (hsupported : Supported r s) (horderly : Orderly r) :
    ∃ id s', (insertScene r).exec s = .ok (id, s') := by
  have hfree : s.sceneId? r.aoi r.sourceId = none := sceneId?_eq_none.2 hnew
  obtain ⟨status, hstatus⟩ := Option.isSome_iff_exists.1 (KeyMap.contains_eq_isSome s.aois r.aoi ▸ haoi)
  have hcreate := createScene_of_new (d := sceneDraft r) hfree haoi
  have ho := opened_of_createScene hs hn hcreate
  have hsupported' : Supported r (s.addScene ((sceneDraft r).row (s.lastScene + 1))) := by
    intro name q hq l hl hother
    obtain ⟨t, ht, hlive⟩ := hsupported name q hq l hl hother
    exact ⟨t, ht.addScene _, hlive⟩
  obtain ⟨s₂, htiles⟩ : ∃ s₂, (createTiles r (s.lastScene + 1) r.tiles.size []).exec
      (s.addScene ((sceneDraft r).row (s.lastScene + 1))) = .ok ((), s₂) :=
    exists_createTiles ho hsupported' horderly r.tiles.size ho.filled
  obtain ⟨all, -, hfilled⟩ := createTiles_eq_ok (Nat.le_add_right _ _) ho.filled htiles
  have hstored : s₂.scene? (s.lastScene + 1) = some ((sceneDraft r).row (s.lastScene + 1)) :=
    (hfilled.scene? _).trans ho.row
  have hstores : (Work.createScene (sceneDraft r)).exec s = _ :=
    (Work.exec_call (.createScene (sceneDraft r)) s).trans hcreate
  unfold insertScene
  rw [Work.exec_bind_ok (exec_aoi hstatus), Work.exec_bind_ok (exec_sceneId s r.aoi r.sourceId), hfree]
  show ∃ id s', (Work.createScene (sceneDraft r) >>= completeScene r).exec s = .ok (id, s')
  rw [Work.exec_bind_ok hstores]
  unfold completeScene
  rw [Work.exec_bind_ok htiles,
    Work.exec_bind_ok (exec_scene_of_legible hstored (legible_budget r.budget))]
  exact ⟨_, _, rfl⟩

end Ingestion

open Operation

/-- A request that does not contradict itself is carried out as a unit of work. -/
theorem ingestScene_eq_ok {σ : Type} [Sink σ] {w : World σ} {aoi : String} {r : SceneRequest}
    {id : Int} :
    (ingestScene aoi r w).1 = .ok id ↔ r.validate aoi = .ok () ∧
      (transact "ingest_scene" (Task.ingest r).body w).1 = .ok id := by
  have hrun : ingestScene (σ := σ) aoi r = give (r.validate aoi) >>= fun _ =>
      transact "ingest_scene" (Task.ingest r).body := rfl
  rw [hrun]
  cases hvalid : r.validate aoi with
  | error e =>
    have herror : (give (σ := σ) (Except.error (α := Unit) e) w).1 = .error e := rfl
    rw [bind_of_error herror]
    simp
  | ok _ =>
    have hok : (give (σ := σ) (Except.ok ()) w).1 = .ok () := rfl
    rw [bind_of_ok hok]
    exact (and_iff_right rfl).symm

/-- Undisturbed, exactly the consistent requests are taken up, and no more passes are made over the
tiles of a request than it has tiles. A request that is taken up commits one pending scene, one new
tile for each one requested, and one job, and changes no scene or tile that was there. -/
theorem Attainable.admits {σ : Type} [Sink σ] {w : World σ} (h : Attainable w.store) (hw : w.Calm)
    (aoi : String) (r : SceneRequest) :
    ((∃ id, (ingestScene aoi r w).1 = .ok id) ↔ w.store.Admits aoi r) ∧
    (∀ scene passes s, r.tiles.size ≤ passes → (Ingestion.createTiles r scene passes []).exec s =
      (Ingestion.createTiles r scene r.tiles.size []).exec s) ∧
    ∀ id, (ingestScene aoi r w).1 = .ok id → ∃ committed,
      Commits w committed (ingestScene aoi r w).2 ∧ w.store.TakesUp r id committed := by
  have hs := h.forest.toSchema
  have hn := h.named
  have hworld (hvalid : r.validate aoi = .ok ()) :
      ingestScene aoi r w = transact "ingest_scene" (Task.ingest r).body w := by
    show (give (r.validate aoi) >>= fun _ => transact "ingest_scene" (Task.ingest r).body) w = _
    rw [hvalid]
    rfl
  refine ⟨⟨?_, fun hadmits => ?_⟩, ?_, fun id hok => ?_⟩
  · rintro ⟨id, hok⟩
    obtain ⟨hvalid, htransact⟩ := ingestScene_eq_ok.1 hok
    obtain ⟨committed, hexec, -⟩ := Task.commits h.queued htransact
    obtain ⟨haoi, hname, htiles, hmapped⟩ := SceneRequest.validate_eq_ok.1 hvalid
    obtain ⟨hexists, hnew, hsupported, horderly, -⟩ := Ingestion.insertScene_cases hs hn hexec
    exact ⟨haoi, hname, htiles, hmapped, hexists, hnew, hsupported, horderly⟩
  · obtain ⟨id, s', hexec⟩ := Ingestion.exists_insertScene hs hn hadmits.aoi_exists hadmits.is_new
      hadmits.supported hadmits.orderly
    refine ⟨id, ingestScene_eq_ok.2 ⟨?_, ?_⟩⟩
    · exact SceneRequest.validate_eq_ok.2
        ⟨hadmits.aoi_eq, hadmits.has_name, hadmits.has_tiles, hadmits.mapped⟩
    · exact (Task.ingest r).transact_of_calm _ hw hexec
  · exact fun scene passes s hpasses => Ingestion.createTiles_of_size_le r scene hpasses s
  · obtain ⟨hvalid, htransact⟩ := ingestScene_eq_ok.1 hok
    obtain ⟨committed, hexec, hcommits⟩ := Task.commits h.queued htransact
    rw [hworld hvalid]
    exact ⟨committed, hcommits, (Ingestion.insertScene_cases hs hn hexec).2.2.2.2⟩

/-- A request whose tiles wait for each other against the order of their names. -/
def backwards : SceneRequest :=
  .ofTiles "north" "s2"
    [("a", { previous := some ⟨"s2", "b"⟩, reference := some ⟨"s1", "a"⟩ }),
      ("b", { previous := some ⟨"s2", "c"⟩ }), ("c", {})]

/-- It is consistent, and so taken up. -/
theorem admits_backwards :
    Attainable awaited.store ∧ awaited.Calm ∧ awaited.store.Admits "north" backwards ∧
      ∃ committed, Commits awaited committed (ingestScene "north" backwards awaited).2 ∧
        awaited.store.TakesUp backwards 2 committed := by
  have hattain : Attainable awaited.store := Attainable.empty.after _
  have hcalm : awaited.Calm := World.calm_of_isEmpty (by decide +kernel) (by decide +kernel)
  have hok : (ingestScene "north" backwards awaited).1.toOption = some 2 := by decide +kernel
  obtain ⟨hiff, -, htakes⟩ := hattain.admits hcalm "north" backwards
  have hanswer := toOption_eq_some.1 hok
  exact ⟨hattain, hcalm, hiff.1 ⟨2, hanswer⟩, htakes 2 hanswer⟩

end SceneWorkflow
