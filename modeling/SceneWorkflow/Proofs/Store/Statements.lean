import SceneWorkflow.Proofs.Outbox.Order
import SceneWorkflow.Proofs.Store.Names
import SceneWorkflow.Proofs.Work.Calls

/-!
# Calls as statements

A call comes to one statement on the rows or to several, and what the statements
before a failure have written stays written. Whether a call then fails is settled
before it has written anything, unless a row that it has put to PENDING cannot be read
back. So if all rows can be read, a call takes effect as a whole or not at all.
-/
namespace SceneWorkflow

/-- Statements on rows, one after the other. A failure does not undo what was written before it. -/
abbrev Script := ExceptT Error (StateM Store)

namespace Script
variable {α β : Type}

def statement (f : Store → Except Error (α × Store)) : Script α := fun s =>
  match f s with
  | .ok (a, s') => (.ok a, s')
  | .error e => (.error e, s)

def read (f : Store → Except Error α) : Script α := statement fun s => (f s).map (·, s)

def updateScenes (p : Scene → Bool) (f : Scene → Scene) : Script (List Scene) :=
  statement fun s => .ok ((s.scenes.filter p).map f, s.modifyScenes p f)

/-- Rewrites the tiles that satisfy a condition, and gives them. A row may not be written with a link
to a tile that does not exist. -/
def updateTiles (operation : String) (p : Store → Tile → Bool) (f : Tile → Tile) :
    Script (List Tile) :=
  statement fun s =>
    let rows := (s.tiles.filter (p s)).map f
    if rows.all fun t => s.hasLinked t.previous && s.hasLinked t.reference then
      .ok (rows, s.modifyTiles (p s) f)
    else .error (Store.missingKey operation)

def requireRow (e : Error) (written : List α) : Script Unit :=
  if written.isEmpty then throw e else pure ()

def rewriteScene (id : Int) (f : Scene → Scene) : Script Unit := do
  requireRow (.sceneNotFound (toString id)) (← updateScenes (·.id == id) f)

def rewriteTile (operation : String) (id : Int) (f : Tile → Tile) : Script Unit := do
  requireRow (.tileNotFound (toString id)) (← updateTiles operation (fun _ t => t.id == id) f)

/-- Puts tiles to PENDING and only then reads what has been written. -/
def release (operation : String) (p : Store → Tile → Bool) : Script (List Tile) := do
  let written ← updateTiles operation p fun t => { t with status := .pending }
  MonadExcept.ofExcept (Store.readTiles operation written)

/-- The links of a new tile are looked up before it is stored. -/
def createTile (d : TileDraft) : Script Int := do
  let previous ← read (·.resolve d.aoi "previous" d.previous)
  let reference ← read (·.resolve d.aoi "reference" d.reference)
  statement (·.insertTile d previous reference)

/-- The new tile stops being compared with the old one, and then takes its place. -/
def reassignReference (old new : Int) : Script Unit := do
  if old = new then pure ()
  else
    let _ ← updateTiles "reassign_reference" (fun _ t => t.id == new && t.reference == some old)
      fun t => { t with reference := none }
    let _ ← updateTiles "reassign_reference" (fun _ t => t.reference == some old)
      fun t => { t with reference := some new }

/-- The tiles are counted only if the scenes do not decide. -/
def aggregate (aoi : String) : Script Status := do
  let scenes ← read fun s => .ok (s.sceneCounts aoi)
  match scenes.aggregate with
  | none => pure .new
  | some .done => do
    let tiles ← read fun s => .ok (s.tileCountsIn aoi .done)
    pure (tiles.aggregate.getD .done)
  | some status => pure status

def refreshAoiStatus (aoi : String) : Script Status := do
  let status ← aggregate aoi
  statement fun s =>
    .ok (status, if s.aois.contains aoi then { s with aois := s.aois.insert aoi status } else s)

end Script

open Script in
def Call.script : (c : Call) → Script c.Answer
  | aoi name => read (·.getAoi name)
  | scene id => read (·.getScene id)
  | sceneId area name => read fun s => .ok (s.sceneId? area name)
  | createScene draft => statement (·.createScene draft)
  | updateScene id update => rewriteScene id (·.update update)
  | updateSceneAttrs id attrs => rewriteScene id fun x => { x with attrs }
  | tile id => read (·.getTile id)
  | sceneTiles id => read (·.sceneTiles id)
  | createTile draft => Script.createTile draft
  | updateTile id update => rewriteTile "update_tile" id (·.update update)
  | updateTileAttrs id attrs => rewriteTile "update_tile_attrs" id fun t => { t with attrs }
  | setTilesStatus ids status => do
    let _ ← updateTiles "set_tiles_status" (fun _ t => ids.contains t.id) fun t => { t with status }
  | unblockNextTiles id =>
    release "unblock_next_tiles" fun s t =>
      t.previous == some id && t.status == .new &&
        (s.scene? t.scene).any fun x => x.status == .done
  | unblockSceneTiles id =>
    release "unblock_scene_tiles" fun s t =>
      t.scene == id && t.status == .new &&
        (t.previous.bind s.tile?).any fun previous => previous.status == .done
  | unblockSceneRootTiles id =>
    release "unblock_scene_root_tiles" fun _ t =>
      t.scene == id && t.status == .new && t.previous.isNone
  | reparentNextTiles old new => do
    let written ← updateTiles "reparent_next_tiles" (fun _ t => t.previous == some old)
      fun t => { t with previous := new }
    return written.map (·.id)
  | referencingTiles id => read (·.referencingTiles id)
  | reassignReference old new => Script.reassignReference old new
  | refreshAoiStatus area => Script.refreshAoiStatus area
  | enqueueJob topic payload => statement fun s => .ok ((), s.enqueueJob topic payload)

namespace Script
variable {α β : Type} {s s' : Store} {operation : String}

theorem bind_of_ok {x : Script α} {f : α → Script β} {a : α} (h : x s = (.ok a, s')) :
    (x >>= f) s = f a s' := by
  show (ExceptT.bindCont f (x s).1) (x s).2 = _
  rw [h]
  rfl

theorem bind_of_error {x : Script α} {f : α → Script β} {e : Error} (h : x s = (.error e, s')) :
    (x >>= f) s = (.error e, s') := by
  show (ExceptT.bindCont f (x s).1) (x s).2 = _
  rw [h]
  rfl

theorem statement_ok {f : Store → Except Error (α × Store)} {a : α} (h : f s = .ok (a, s')) :
    statement f s = (.ok a, s') := by
  rw [statement, h]

theorem statement_error {f : Store → Except Error (α × Store)} {e : Error} (h : f s = .error e) :
    statement f s = (.error e, s) := by
  rw [statement, h]

theorem read_ok {f : Store → Except Error α} {a : α} (h : f s = .ok a) : read f s = (.ok a, s) :=
  statement_ok (by rw [h]; rfl)

theorem read_error {f : Store → Except Error α} {e : Error} (h : f s = .error e) :
    read f s = (.error e, s) :=
  statement_error (by rw [h]; rfl)

/-! ### Updates -/

variable {p : Store → Tile → Bool} {f : Tile → Tile}

theorem updateTiles_ok
    (h : ∀ t ∈ s.tiles, p s t → s.hasLinked (f t).previous ∧ s.hasLinked (f t).reference) :
    updateTiles operation p f s =
      (.ok ((s.tiles.filter (p s)).map f), s.modifyTiles (p s) f) := by
  refine statement_ok (if_pos (List.all_eq_true.2 fun t ht => ?_))
  obtain ⟨u, hu, rfl⟩ := List.mem_map.1 ht
  obtain ⟨hmem, hp⟩ := List.mem_filter.1 hu
  exact Bool.and_eq_true_iff.2 (h u hmem hp)

theorem updateTiles_error {t : Tile} (ht : t ∈ s.tiles) (hp : p s t)
    (h : ¬ (s.hasLinked (f t).previous ∧ s.hasLinked (f t).reference)) :
    updateTiles operation p f s = (.error (Store.missingKey operation), s) := by
  refine statement_error (if_neg fun hall => h ?_)
  have hrow := List.all_eq_true.1 hall (f t) (List.mem_map_of_mem (List.mem_filter.2 ⟨ht, hp⟩))
  exact Bool.and_eq_true_iff.1 hrow

/-- Links that exist may be written again. -/
theorem updateTiles_of_schema (hs : s.Schema)
    (hprevious : ∀ t, (f t).previous = t.previous ∨ (f t).previous = none)
    (hreference : ∀ t, (f t).reference = t.reference ∨ (f t).reference = none) :
    updateTiles operation p f s =
      (.ok ((s.tiles.filter (p s)).map f), s.modifyTiles (p s) f) := by
  refine updateTiles_ok fun t ht _ => ⟨?_, ?_⟩
  · rcases hprevious t with h | h
    · exact h ▸ hs.previous_exists t ht
    · exact h ▸ Store.hasLinked_none
  · rcases hreference t with h | h
    · exact h ▸ hs.reference_exists t ht
    · exact h ▸ Store.hasLinked_none

/-! ### Calls -/

theorem requireRow_of_find? {q : α → Bool} {xs : List α} (h : (xs.find? q).isSome) (e : Error)
    (g : α → β) : requireRow e ((xs.filter q).map g) = pure () := by
  refine if_neg fun hempty => ?_
  rw [List.isEmpty_map, List.isEmpty_iff, List.filter_eq_nil_iff] at hempty
  obtain ⟨x, hx, hq⟩ := List.find?_isSome.1 h
  exact hempty x hx hq

theorem filter_of_find? {q : α → Bool} {xs : List α} (h : ¬ (xs.find? q).isSome) :
    xs.filter q = [] :=
  List.filter_eq_nil_iff.2 fun x hx hq => h (List.find?_isSome.2 ⟨x, hx, hq⟩)

theorem map_of_filter {q : α → Bool} {xs : List α} (h : xs.filter q = []) (g : α → α) :
    (xs.map fun x => if q x then g x else x) = xs :=
  (List.map_congr_left fun x hx => if_neg (List.filter_eq_nil_iff.1 h x hx)).trans (List.map_id xs)

theorem modifyTiles_of_filter {q : Tile → Bool} (h : s.tiles.filter q = []) (g : Tile → Tile) :
    s.modifyTiles q g = s := by
  rw [Store.modifyTiles, map_of_filter h]

theorem rewriteScene_eq (id : Int) (g : Scene → Scene) (s : Store) :
    rewriteScene id g s =
      statement (fun s => Except.map ((), ·) (if (s.scene? id).isSome
        then .ok (s.modifyScenes (·.id == id) g) else .error (.sceneNotFound (toString id)))) s := by
  have hupdate : updateScenes (·.id == id) g s =
      (.ok ((s.scenes.filter (·.id == id)).map g), s.modifyScenes (·.id == id) g) := rfl
  rw [rewriteScene, bind_of_ok hupdate]
  by_cases hfound : (s.scene? id).isSome
  · rw [statement_ok (by rw [if_pos hfound]; rfl), requireRow_of_find? hfound]
    rfl
  · have hnone := filter_of_find? hfound
    rw [statement_error (by rw [if_neg hfound]; rfl), hnone, Store.modifyScenes, map_of_filter hnone]
    rfl

theorem rewriteTile_eq (hs : s.Schema) (id : Int) {g : Tile → Tile}
    (hprevious : ∀ t, (g t).previous = t.previous ∨ (g t).previous = none)
    (hreference : ∀ t, (g t).reference = t.reference ∨ (g t).reference = none) :
    rewriteTile operation id g s =
      statement (fun s => Except.map ((), ·) (if (s.tile? id).isSome
        then .ok (s.modifyTiles (·.id == id) g) else .error (.tileNotFound (toString id)))) s := by
  rw [rewriteTile, bind_of_ok (updateTiles_of_schema hs hprevious hreference)]
  by_cases hfound : (s.tile? id).isSome
  · rw [statement_ok (by rw [if_pos hfound]; rfl), requireRow_of_find? hfound]
    rfl
  · have hnone := filter_of_find? hfound
    rw [statement_error (by rw [if_neg hfound]; rfl), hnone, modifyTiles_of_filter hnone]
    rfl

theorem createTile_eq (d : TileDraft) (s : Store) :
    Script.createTile d s = statement (·.createTile d) s := by
  unfold Script.createTile Store.createTile statement
  dsimp only
  cases hprevious : s.resolve d.aoi "previous" d.previous with
  | error e =>
    rw [bind_of_error (read_error hprevious)]
    rfl
  | ok previous =>
    rw [bind_of_ok (read_ok hprevious)]
    cases hreference : s.resolve d.aoi "reference" d.reference with
    | error e =>
      rw [bind_of_error (read_error hreference)]
      rfl
    | ok reference =>
      rw [bind_of_ok (read_ok hreference)]
      rfl

theorem release_eq (hs : s.Schema) (p : Store → Tile → Bool) :
    Script.release operation p s =
      (Store.readTiles operation ((s.tiles.filter (p s)).map fun t => { t with status := .pending }),
        s.modifyTiles (p s) fun t => { t with status := .pending }) := by
  have hupdate : updateTiles operation p (fun t => { t with status := .pending }) s = _ :=
    updateTiles_of_schema hs (fun _ => .inl rfl) fun _ => .inl rfl
  rw [release, bind_of_ok hupdate]
  cases Store.readTiles operation _ <;> rfl

theorem reparentNextTiles_eq (hs : s.Schema) (old : Int) (new : Option Int) :
    (Call.reparentNextTiles old new).script s = statement (·.reparentNextTiles old new) s := by
  show ((updateTiles _ (fun _ t => t.previous == some old) fun t => { t with previous := new }) >>=
    fun written => pure (written.map (·.id))) s = _
  by_cases hnew : s.followers old = [] ∨ s.hasLinked new
  · rw [statement_ok (Store.reparentNextTiles_eq_ok.2 ⟨hnew, rfl, rfl⟩)]
    have hlinks : ∀ t ∈ s.tiles, t.previous == some old →
        s.hasLinked new ∧ s.hasLinked t.reference := by
      intro t ht hp
      refine ⟨hnew.resolve_left fun hnone => ?_, hs.reference_exists t ht⟩
      have hmem : t.id ∈ s.followers old := List.mem_map_of_mem (List.mem_filter.2 ⟨ht, hp⟩)
      rw [hnone] at hmem
      cases hmem
    rw [bind_of_ok (updateTiles_ok hlinks)]
    show (Except.ok _, _) = _
    rw [List.map_map]
    rfl
  · obtain ⟨hsome, hnew⟩ := not_or.1 hnew
    obtain ⟨_, hmem⟩ := List.exists_mem_of_ne_nil _ hsome
    obtain ⟨t, ht, -⟩ := List.mem_map.1 hmem
    obtain ⟨ht, hp⟩ := List.mem_filter.1 ht
    have hrefused : s.reparentNextTiles old new =
        .error (Store.missingKey "reparent_next_tiles") := by
      refine if_neg fun h => ?_
      rw [Bool.or_eq_true, List.isEmpty_iff] at h
      exact h.elim hsome hnew
    rw [statement_error hrefused]
    exact bind_of_error (updateTiles_error ht hp fun h => hnew h.1)

def freed (s : Store) (old new : Int) : Store :=
  s.modifyTiles (fun t => t.id == new && t.reference == some old)
    fun t => { t with reference := none }

theorem reassignReference_of_ne {old new : Int} (hne : old ≠ new) :
    s.reassignReference old new =
      if ((freed s old new).tiles.any fun t => t.reference == some old) &&
          !s.hasLinked (some new) then
        .error (Store.missingKey "reassign_reference")
      else .ok ((freed s old new).modifyTiles (·.reference == some old)
        fun t => { t with reference := some new }) :=
  if_neg hne

theorem schema_freed (hs : s.Schema) (old new : Int) : (freed s old new).Schema :=
  hs.modifyTiles (fun _ => ⟨rfl, rfl⟩) fun t ht _ => ⟨hs.previous_exists t ht, rfl⟩

theorem hasLinked_freed (s : Store) (old new : Int) (link : Option Int) :
    (freed s old new).hasLinked link = s.hasLinked link := by
  rw [freed, Store.modifyTiles_eq_mapTiles]
  exact Store.hasLinked_mapTiles (fun t => by split <;> rfl) s _

theorem freed_of_missing {old new : Int} (h : s.hasLinked (some new) = false) :
    freed s old new = s := by
  have hnone : s.tiles.filter (·.id == new) = [] := filter_of_find? (Bool.eq_false_iff.1 h)
  refine modifyTiles_of_filter (List.filter_eq_nil_iff.2 fun u hu hq => ?_) _
  exact List.filter_eq_nil_iff.1 hnone u hu (Bool.and_eq_true_iff.1 hq).1

/-- If tiles cannot be compared with the new one, there is no tile under its id, so that nothing has
been written before. -/
theorem reassignReference_eq (hs : s.Schema) (old new : Int) :
    Script.reassignReference old new s =
      statement (fun s => (s.reassignReference old new).map ((), ·)) s := by
  by_cases heq : old = new
  · rw [Script.reassignReference, if_pos heq, heq,
      statement_ok (by rw [Store.reassignReference_self]; rfl)]
    rfl
  have hfree : updateTiles "reassign_reference"
      (fun _ t => t.id == new && t.reference == some old) (fun t => { t with reference := none }) s
        = (.ok _, freed s old new) := updateTiles_of_schema hs (fun _ => .inl rfl) fun _ => .inr rfl
  rw [Script.reassignReference, if_neg heq, bind_of_ok hfree]
  have hdef := reassignReference_of_ne (s := s) heq
  cases hrefused : ((freed s old new).tiles.any fun t => t.reference == some old) &&
      !s.hasLinked (some new) with
  | true =>
    obtain ⟨hused, hmissing⟩ := Bool.and_eq_true_iff.1 hrefused
    obtain ⟨t, ht, hp⟩ := List.any_eq_true.1 hused
    rw [Bool.not_eq_true'] at hmissing
    have hwhole : ¬ ((freed s old new).hasLinked t.previous ∧
        (freed s old new).hasLinked (some new)) := by
      rw [hasLinked_freed s old new (some new), hmissing]
      exact fun h => Bool.false_ne_true h.2
    rw [statement_error (by rw [hdef, hrefused]; rfl)]
    refine (bind_of_error (updateTiles_error ht hp hwhole)).trans ?_
    rw [freed_of_missing hmissing]
  | false =>
    have hlinks : ∀ t ∈ (freed s old new).tiles, t.reference == some old →
        (freed s old new).hasLinked t.previous ∧ (freed s old new).hasLinked (some new) := by
      intro t ht hp
      refine ⟨(schema_freed hs old new).previous_exists t ht, (hasLinked_freed s _ _ _).trans ?_⟩
      have hused : ((freed s old new).tiles.any fun t => t.reference == some old) = true :=
        List.any_eq_true.2 ⟨t, ht, hp⟩
      rw [hused, Bool.true_and] at hrefused
      simpa using hrefused
    rw [statement_ok (by rw [hdef, hrefused]; rfl)]
    exact bind_of_ok (updateTiles_ok hlinks)

theorem aggregate_eq (aoi : String) (s : Store) :
    Script.aggregate aoi s = (.ok (s.aggregate aoi), s) := by
  have hread : read (fun s => .ok (s.sceneCounts aoi)) s = (.ok (s.sceneCounts aoi), s) :=
    read_ok rfl
  rw [Script.aggregate, bind_of_ok hread, Store.aggregate]
  cases (s.sceneCounts aoi).aggregate with
  | none => rfl
  | some status => cases status <;> rfl

theorem refreshAoiStatus_eq (aoi : String) (s : Store) :
    Script.refreshAoiStatus aoi s = (.ok (s.aggregate aoi), (s.refreshAoiStatus aoi).2) :=
  bind_of_ok (aggregate_eq aoi s)

end Script

open Store Script

/-- A call takes effect as a whole or not at all, unless it has released a tile that cannot be
read. -/
theorem Call.script_cases {s : Store} (hs : s.Schema) (c : Call) :
    c.script s = statement c.perform s ∨
      ¬ s.Legible ∧ ∃ e p, c.script s = (.error e, s.modifyTiles p fun t =>
        { t with status := .pending }) := by
  have hrelease (operation : String) (p : Store → Tile → Bool) :
      Script.release operation p s = statement (fun s => s.release operation (p s)) s ∨
        ¬ s.Legible ∧ ∃ e q, Script.release operation p s = (.error e, s.modifyTiles q fun t =>
          { t with status := .pending }) := by
    rw [release_eq hs]
    cases hread : readTiles operation
      ((s.tiles.filter (p s)).map fun t => { t with status := .pending }) with
    | error e =>
      refine .inr ⟨fun hl => ?_, e, p s, rfl⟩
      obtain ⟨_, hrows, -⟩ := bind_eq_ok.1 (hl.release operation (p s))
      cases hread.symm.trans hrows
    | ok rows =>
      refine .inl (statement_ok ?_).symm
      exact bind_eq_ok.2 ⟨rows, hread, rfl⟩
  cases c with
  | unblockNextTiles id | unblockSceneTiles id | unblockSceneRootTiles id => exact hrelease _ _
  | updateScene id update | updateSceneAttrs id attrs => exact .inl (rewriteScene_eq id _ s)
  | updateTileAttrs id attrs =>
    exact .inl (rewriteTile_eq hs id (fun _ => .inl rfl) fun _ => .inl rfl)
  | updateTile id update =>
    refine .inl (rewriteTile_eq hs id (fun t => ?_) fun _ => .inl rfl)
    unfold Tile.update
    dsimp only
    split
    · exact .inr rfl
    · exact .inl rfl
  | createTile draft => exact .inl (createTile_eq draft s)
  | reparentNextTiles old new => exact .inl (reparentNextTiles_eq hs old new)
  | reassignReference old new => exact .inl (reassignReference_eq hs old new)
  | refreshAoiStatus aoi => exact .inl (refreshAoiStatus_eq aoi s)
  | setTilesStatus ids status =>
    have hupdate : updateTiles "set_tiles_status" (fun _ t => ids.contains t.id)
        (fun t => { t with status }) s = _ :=
      updateTiles_of_schema hs (fun _ => .inl rfl) fun _ => .inl rfl
    exact .inl (bind_of_ok hupdate)
  | aoi name | scene id | sceneId aoi name | createScene draft | tile id | sceneTiles id
  | referencingTiles id | enqueueJob topic payload => exact .inl rfl

/-- If all rows can be read, a call takes effect as a whole or not at all. -/
theorem Call.script_of_legible {s : Store} (hs : s.Schema) (hl : s.Legible) (c : Call) :
    c.script s = statement c.perform s :=
  (script_cases hs c).resolve_right fun h => h.1 hl

/-- A change from store to store that all calls make, and the release of tiles makes, is made by the
statements of every call. -/
theorem Call.relates_script {R : Store → Store → Prop} {s : Store} (hs : s.Schema) (refl : R s s)
    (hrelease : ∀ p, R s (s.modifyTiles p fun t => { t with status := .pending })) {c : Call}
    (hcall : ∀ a s', c.perform s = .ok (a, s') → R s s') : R s (c.script s).2 := by
  rcases script_cases hs c with h | ⟨-, e, p, h⟩
  · rw [h]
    cases hperform : c.perform s with
    | error e =>
      rw [statement_error hperform]
      exact refl
    | ok r =>
      rw [statement_ok hperform]
      exact hcall r.1 r.2 hperform
  · rw [h]
    exact hrelease p

end SceneWorkflow
