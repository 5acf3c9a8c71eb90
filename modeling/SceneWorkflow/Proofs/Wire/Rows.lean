import SceneWorkflow.Proofs.Store.Changes
import SceneWorkflow.Proofs.Wire.Texts
import SceneWorkflow.Store.Rows

/-!
# Rows that are read back

A row is read as the scene or tile that it was written for, so that the store can keep
these in place of the rows. What the columns of attributes hold is what has been
written to them last: each call leaves them as they are unless it writes attributes.
-/
namespace SceneWorkflow
open Json

theorem Status.parse_name (s : Status) : Status.parse s.name = .ok s := by
  rw [Status.parse, s.ofName?_name]

/-! ### Rows -/

section
variable {α : Type} {f : α → Json} {d : Json → Option α} {depth : Nat}

theorem readColumn_print {a : α} (hplain : Plain depth (f a)) (hread : d (f a) = some a) :
    readColumn d (f a).print = .ok a := by
  rw [readColumn, hplain.parse_print, Option.bind_some, hread]

end

theorem SceneAttrs.readColumn_print (a : SceneAttrs) :
    readColumn SceneAttrs.ofJson? a.toJson.print = .ok a :=
  SceneWorkflow.readColumn_print (a.plain_toJson 0) a.ofJson?_toJson

theorem TileAttrs.readColumn_print (a : TileAttrs) :
    readColumn TileAttrs.ofJson? a.toJson.print = .ok a :=
  SceneWorkflow.readColumn_print (a.plain_toJson 0) a.ofJson?_toJson

theorem Scene.read_row (x : Scene) (operation : String) :
    x.row.read operation =
      if Store.leastBudget ≤ x.budget then .ok x else .error (Store.unreadable operation) := by
  unfold SceneRow.read Scene.row
  dsimp only
  rw [Status.parse_name, x.attrs.readColumn_print]
  rfl

theorem Tile.read_row (t : Tile) (operation : String) :
    t.row.read operation =
      if Store.leastBudget ≤ t.budget then .ok t else .error (Store.unreadable operation) := by
  unfold TileRow.read Tile.row
  dsimp only
  rw [Status.parse_name, t.attrs.readColumn_print]
  rfl

theorem Tile.read_refRow (t : Tile) (x : Scene) : (t.refRow x).read = .ok (t.refIn x.ref) := by
  unfold TileRefRow.read Tile.refRow
  dsimp only
  rw [t.attrs.readColumn_print, x.attrs.readColumn_print]
  rfl

theorem Store.mapM_read {α ρ : Type} {budget : α → Int} {row : α → ρ}
    {read : ρ → Except Error α} {operation : String}
    (hread : ∀ a, read (row a) =
      if leastBudget ≤ budget a then .ok a else .error (unreadable operation)) (as : List α) :
    (as.map row).mapM read = readable operation budget as := by
  induction as with
  | nil => rfl
  | cons a as ih =>
    rw [List.map_cons, List.mapM_cons, hread, ih]
    unfold readable
    rw [List.all_cons]
    by_cases hbudget : leastBudget ≤ budget a
    · rw [if_pos hbudget, decide_eq_true hbudget, Bool.true_and]
      split <;> rfl
    · rw [if_neg hbudget, decide_eq_false hbudget, Bool.false_and]
      rfl

structure Store.ReadsRows (s : Store) : Prop where
  scene : ∀ id, s.getScene id =
    ((s.scene? id).map Scene.row).elim (.error (.sceneNotFound (toString id))) (·.read "get_scene")
  tile : ∀ id, s.getTile id =
    ((s.tile? id).map Tile.row).elim (.error (.tileNotFound (toString id))) (·.read "get_tile")
  scenes : ∀ operation xs, readScenes operation xs = (xs.map Scene.row).mapM (·.read operation)
  tiles : ∀ operation ts, readTiles operation ts = (ts.map Tile.row).mapM (·.read operation)
  refs : ∀ ts : List Tile,
    (ts.filterMap fun t => (s.scene? t.scene).map t.refRow).mapM (·.read) = .ok (s.describe ts)

theorem Store.readsRows (s : Store) : s.ReadsRows where
  scene := by
    intro id
    unfold getScene
    cases s.scene? id with
    | none => rfl
    | some x => exact (x.read_row _).symm
  tile := by
    intro id
    unfold getTile
    cases s.tile? id with
    | none => rfl
    | some t => exact (t.read_row _).symm
  scenes := fun operation xs => (mapM_read (fun x => x.read_row operation) xs).symm
  tiles := fun operation ts => (mapM_read (fun t => t.read_row operation) ts).symm
  refs := by
    intro ts
    induction ts with
    | nil => rfl
    | cons t ts ih =>
      unfold describe at ih ⊢
      rw [List.filterMap_cons, List.filterMap_cons]
      cases s.scene? t.scene with
      | none => exact ih
      | some x =>
        rw [Option.map_some, Option.map_some, List.mapM_cons, t.read_refRow x, ih]
        rfl

/-! ### Columns of attributes -/

namespace Store
variable {s s' : Store} {id : Int}

def sceneData? (s : Store) (id : Int) : Option String := (s.scene? id).map (·.row.data)

def tileData? (s : Store) (id : Int) : Option String := (s.tile? id).map (·.row.data)

theorem SameRows.sceneData? (h : SameRows s s') (id : Int) : s'.sceneData? id = s.sceneData? id := by
  rw [Store.sceneData?, h.scene?, Store.sceneData?]

theorem SameRows.tileData? (h : SameRows s s') (id : Int) : s'.tileData? id = s.tileData? id := by
  rw [Store.tileData?, h.tile?, Store.tileData?]

theorem sceneData?_setScene (s : Store) (key : Int) (u : StatusUpdate) (id : Int) :
    (s.setScene key u).sceneData? id = s.sceneData? id := by
  rw [sceneData?, setScene, scene?_modifyScenes (f := (·.update u)) fun _ => rfl, Option.map_map,
    sceneData?]
  refine Option.map_congr fun x _ => ?_
  rw [Function.comp_apply]
  split <;> rfl

/-- Tiles may be rewritten in all but id and attributes. -/
theorem tileData?_mapTiles {f : Tile → Tile} (hf : ∀ t, (f t).id = t.id ∧ (f t).attrs = t.attrs)
    (s : Store) (id : Int) : (s.mapTiles f).tileData? id = s.tileData? id := by
  rw [tileData?, tile?_mapTiles fun t => (hf t).1, Option.map_map, tileData?]
  refine Option.map_congr fun t _ => ?_
  rw [Function.comp_apply, Tile.row, (hf t).2, Tile.row]

theorem tileData?_modifyTiles {p : Tile → Bool} {f : Tile → Tile}
    (hf : ∀ t, (f t).id = t.id ∧ (f t).attrs = t.attrs) (s : Store) (id : Int) :
    (s.modifyTiles p f).tileData? id = s.tileData? id := by
  rw [modifyTiles_eq_mapTiles]
  refine tileData?_mapTiles (fun t => ?_) s id
  split
  · exact hf t
  · exact ⟨rfl, rfl⟩

/-! ### What is written -/

def textAt (key : Int) (text : String) (id : Int) : Option String :=
  if id = key then some text else none

theorem textAt_self (key : Int) (text : String) : textAt key text key = some text := if_pos rfl

theorem textAt_of_ne {key : Int} (h : id ≠ key) (text : String) : textAt key text id = none :=
  if_neg h

theorem sceneData?_addScene (ho : s.Ordered) {x : Scene} (hx : x.id = s.lastScene + 1) (id : Int) :
    (s.addScene x).sceneData? id = (textAt x.id x.row.data id).or (s.sceneData? id) := by
  rw [sceneData?, scene?_addScene, sceneData?]
  by_cases hid : id = x.id
  · have hnone : s.scene? id = none := ho.scene?_eq_none (by omega)
    rw [hnone, if_pos hid.symm, hid, textAt_self]
    rfl
  · rw [textAt_of_ne hid, if_neg (Ne.symm hid), Option.or_none, Option.none_or]

theorem tileData?_addTile (ho : s.Ordered) {t : Tile} (ht : t.id = s.lastTile + 1) (id : Int) :
    (s.addTile t).tileData? id = (textAt t.id t.row.data id).or (s.tileData? id) := by
  rw [tileData?, tile?_addTile, tileData?]
  by_cases hid : id = t.id
  · have hnone : s.tile? id = none := ho.tile?_eq_none (by omega)
    rw [hnone, if_pos hid.symm, hid, textAt_self]
    rfl
  · rw [textAt_of_ne hid, if_neg (Ne.symm hid), Option.or_none, Option.none_or]

theorem sceneData?_replaceSceneAttrs {key : Int} {attrs : SceneAttrs}
    (hok : s.replaceSceneAttrs key attrs = .ok s') (id : Int) :
    s'.sceneData? id = (textAt key attrs.toJson.print id).or (s.sceneData? id) := by
  obtain ⟨hkey, rfl⟩ := replaceSceneAttrs_eq_ok.1 hok
  rw [sceneData?, scene?_modifyScenes (f := fun x => { x with attrs }) fun _ => rfl, sceneData?]
  by_cases hid : id = key
  · obtain ⟨x, hx⟩ := Option.isSome_iff_exists.1 hkey
    rw [hid, hx, textAt_self, Option.map_some, if_pos (beq_iff_eq.2 (scene?_id hx))]
    rfl
  · rw [textAt_of_ne hid, Option.none_or, Option.map_map]
    refine Option.map_congr fun x hx => ?_
    obtain rfl := scene?_id hx
    rw [Function.comp_apply, if_neg (mt eq_of_beq hid)]

theorem tileData?_replaceTileAttrs {key : Int} {attrs : TileAttrs}
    (hok : s.replaceTileAttrs key attrs = .ok s') (id : Int) :
    s'.tileData? id = (textAt key attrs.toJson.print id).or (s.tileData? id) := by
  obtain ⟨hkey, rfl⟩ := replaceTileAttrs_eq_ok.1 hok
  rw [tileData?, modifyTiles_eq_mapTiles, tile?_mapTiles fun t => by split <;> rfl, tileData?]
  by_cases hid : id = key
  · obtain ⟨t, ht⟩ := Option.isSome_iff_exists.1 hkey
    rw [hid, ht, textAt_self, Option.map_some, if_pos (beq_iff_eq.2 (tile?_id ht))]
    rfl
  · rw [textAt_of_ne hid, Option.none_or, Option.map_map]
    refine Option.map_congr fun t ht => ?_
    obtain rfl := tile?_id ht
    rw [Function.comp_apply, if_neg (mt eq_of_beq hid)]

end Store

/-! ### Calls -/

namespace Call
open Store

def sceneText? : (c : Call) → c.Answer → Int → Option String
  | createScene draft, key => textAt key draft.attrs.toJson.print
  | updateSceneAttrs key attrs, _ => textAt key attrs.toJson.print
  | _, _ => fun _ => none

def tileText? : (c : Call) → c.Answer → Int → Option String
  | createTile draft, key => textAt key draft.attrs.toJson.print
  | updateTileAttrs key attrs, _ => textAt key attrs.toJson.print
  | _, _ => fun _ => none

/-- After a call, the columns of attributes hold what it has written, and what they held before. -/
theorem data_of_perform {c : Call} {s s' : Store} {a : c.Answer} (ho : s.Ordered)
    (hok : c.perform s = .ok (a, s')) (id : Int) :
    s'.sceneData? id = (c.sceneText? a id).or (s.sceneData? id) ∧
      s'.tileData? id = (c.tileText? a id).or (s.tileData? id) := by
  cases c with
  | createScene draft =>
    obtain ⟨-, -, hid, rfl⟩ := createScene_eq_ok hok
    exact ⟨sceneData?_addScene ho hid id, rfl⟩
  | updateSceneAttrs key attrs =>
    obtain ⟨_, hok, heq⟩ := map_eq_ok.1 hok
    cases heq
    refine ⟨sceneData?_replaceSceneAttrs hok id, ?_⟩
    obtain ⟨-, rfl⟩ := replaceSceneAttrs_eq_ok.1 hok
    rfl
  | createTile draft =>
    obtain ⟨previous, reference, -, -, hinsert⟩ := createTile_eq_ok hok
    obtain ⟨-, -, hid, rfl⟩ := insertTile_eq_ok hinsert
    exact ⟨rfl, tileData?_addTile ho hid id⟩
  | updateTileAttrs key attrs =>
    obtain ⟨_, hok, heq⟩ := map_eq_ok.1 hok
    cases heq
    refine ⟨?_, tileData?_replaceTileAttrs hok id⟩
    obtain ⟨-, rfl⟩ := replaceTileAttrs_eq_ok.1 hok
    rfl
  | updateScene key update =>
    obtain ⟨_, hok, heq⟩ := map_eq_ok.1 hok
    obtain ⟨-, rfl⟩ := updateScene_eq_ok.1 hok
    cases heq
    exact ⟨sceneData?_setScene s key update id, rfl⟩
  | updateTile key update =>
    obtain ⟨_, hok, heq⟩ := map_eq_ok.1 hok
    obtain ⟨-, rfl⟩ := updateTile_eq_ok.1 hok
    cases heq
    refine ⟨rfl, tileData?_modifyTiles (fun t => ?_) s id⟩
    exact ⟨rfl, rfl⟩
  | unblockNextTiles key | unblockSceneTiles key | unblockSceneRootTiles key =>
    obtain ⟨-, -, rfl⟩ := release_eq_ok.1 hok
    refine ⟨rfl, tileData?_modifyTiles (fun t => ?_) s id⟩
    exact ⟨rfl, rfl⟩
  | reparentNextTiles old new =>
    obtain ⟨-, -, rfl⟩ := reparentNextTiles_eq_ok.1 hok
    refine ⟨rfl, tileData?_modifyTiles (fun t => ?_) s id⟩
    exact ⟨rfl, rfl⟩
  | reassignReference old new =>
    obtain ⟨_, hok, heq⟩ := map_eq_ok.1 hok
    cases heq
    by_cases hne : old = new
    · rw [hne, reassignReference_self] at hok
      cases hok
      exact ⟨rfl, rfl⟩
    · obtain ⟨-, rfl⟩ := (reassignReference_eq_ok hne).1 hok
      refine ⟨rfl, tileData?_mapTiles (fun t => ?_) s id⟩
      exact ⟨rfl, rfl⟩
  | setTilesStatus ids status =>
    cases hok
    refine ⟨rfl, tileData?_modifyTiles (fun t => ?_) s id⟩
    exact ⟨rfl, rfl⟩
  | refreshAoiStatus aoi =>
    cases hok
    have hsame := sameRows_refreshAoiStatus s aoi
    exact ⟨hsame.sceneData? id, hsame.tileData? id⟩
  | enqueueJob topic payload | sceneId aoi sourceId =>
    cases hok
    exact ⟨rfl, rfl⟩
  | aoi name | scene key | tile key | sceneTiles key | referencingTiles key =>
    obtain ⟨_, _, heq⟩ := map_eq_ok.1 hok
    cases heq
    exact ⟨rfl, rfl⟩

end Call

end SceneWorkflow
