import SceneWorkflow.Proofs.Cascade.Baselines
import SceneWorkflow.Proofs.Cascade.Chains

/-!
# Elections of baselines

Tiles are compared with others than before only when a tile fails or a whole scene
does, tile by tile. Of such a request it can be said beforehand which tiles become
baselines, and whether it misleads one.
-/
namespace SceneWorkflow
namespace Store
variable {s s' s'' : Store} {f : Tile} {P : Store → Tile → Prop} {misled : Prop}
  {rises : Int → Prop}

theorem sameReferences_createScene {d : SceneDraft} {id : Int}
    (hok : s.createScene d = .ok (id, s')) : SameReferences s s' := by
  obtain ⟨-, -, -, rfl⟩ := createScene_eq_ok hok
  exact .of_tiles rfl

/-! ### Failures one after the other -/

/-- Something can be said of one of several tiles when its turn to fail has come. -/
def FailureAmong (P : Store → Tile → Prop) : List Int → Store → Prop
  | [], _ => False
  | id :: rest, s => ∃ f, s.tile? id = some f ∧ (P s f ∨ FailureAmong P rest (s.failTile f none))

/-- The same of the tiles that a request to fail is about. A scene fails before its tiles. -/
def FailureOf (P : Store → Tile → Prop) (kind : EntityKind) (id : Int) (s : Store) : Prop :=
  FailureAmong P (s.failing kind id) <|
    match kind with
    | .scene => s.setScene id { status := .failed }
    | .tile => s

/-- Failures do not tell the stores apart. -/
structure Alike (s s' : Store) : Prop where
  tiles : s'.tiles = s.tiles
  scenes : ∀ id, s'.sceneStatus? id = s.sceneStatus? id

theorem alike_of_sameRows (h : SameRows s s') : Alike s s' := ⟨h.tiles, h.sceneStatus?⟩

namespace Alike
variable (h : Alike s s')
include h

theorem heir? (f : Tile) : s'.heir? f = s.heir? f := by
  have hlive : s'.inLiveScene = s.inLiveScene := by
    funext t
    rw [inLiveScene, h.scenes, inLiveScene]
  rw [Store.heir?, h.tiles, hlive, Store.heir?]

theorem failTile (f : Tile) (message : Option String) :
    Alike (s.failTile f message) (s'.failTile f message) := by
  refine ⟨?_, h.scenes⟩
  have hfrees : s'.frees f = s.frees f := by
    funext t
    simp only [frees, tileStatus?, tile?, h.tiles, h.scenes]
  have hrow : s'.failRow f message = s.failRow f message := by
    funext t
    rw [failRow, spliceRow, h.heir?, hfrees, failRow, spliceRow]
  show s'.tiles.map _ = s.tiles.map _
  rw [h.tiles, hrow]

theorem misleads (f : Tile) : s'.Misleads f ↔ s.Misleads f := by
  simp only [Misleads, h.heir?, (SameReferences.of_tiles h.tiles).compares]

theorem succeeds (k : Int) (f : Tile) : s'.Succeeds k f ↔ s.Succeeds k f := by
  rw [Succeeds, h.heir?, (SameReferences.of_tiles h.tiles).compares, Succeeds]

end Alike

theorem FailureAmong.congr (hP : ∀ {s s'}, Alike s s' → ∀ f, P s' f ↔ P s f) (h : Alike s s')
    (ids : List Int) : FailureAmong P ids s' ↔ FailureAmong P ids s := by
  induction ids generalizing s s' with
  | nil => exact Iff.rfl
  | cons id rest ih =>
    have hrow : s'.tile? id = s.tile? id := by
      rw [tile?, h.tiles, tile?]
    simp only [FailureAmong, hrow]
    refine exists_congr fun f => and_congr_right fun _ => ?_
    exact or_congr (hP h f) (ih (h.failTile f none))

theorem alike_setScene (s : Store) (id : Int) (message : Option String) :
    Alike (s.setScene id { status := .failed }) (s.setScene id { status := .failed, message }) := by
  refine ⟨rfl, fun k => ?_⟩
  rw [sceneStatus?_setScene, sceneStatus?_setScene]

end Store

namespace Cascade
open Store Program
variable {s s' : Store} {t : Tile} {x : Scene} {id : Int} {message : Option String}
  {requested : Status} {force accepted : Bool}

/-! ### Changes that are no failures -/

def KeepsReferences : Instruction → Prop
  | .call (.createTile _) => False
  | .call (.reassignReference _ _) => False
  | _ => True

theorem Gentle.keepsReferences {i : Instruction} (h : Gentle i) : KeepsReferences i := by
  cases i with
  | call c =>
    cases c with
    | createTile _ | reassignReference _ _ => exact h.elim
    | _ => trivial
  | fail _ | known _ | remember _ => trivial

theorem sameReferences_of_perform {c : Call} {a : c.Answer} (hc : KeepsReferences (.call c))
    (hok : c.perform s = .ok (a, s')) : SameReferences s s' := by
  cases c with
  | createTile _ | reassignReference _ _ => exact hc.elim
  | createScene draft => exact sameReferences_createScene hok
  | updateScene id u =>
    obtain ⟨_, hok, heq⟩ := map_eq_ok.1 hok
    cases heq
    obtain ⟨-, rfl⟩ := updateScene_eq_ok.1 hok
    exact .of_tiles rfl
  | updateSceneAttrs id attrs =>
    obtain ⟨_, hok, heq⟩ := map_eq_ok.1 hok
    cases heq
    obtain ⟨-, rfl⟩ := replaceSceneAttrs_eq_ok.1 hok
    exact .of_tiles rfl
  | updateTile id u =>
    obtain ⟨_, hok, heq⟩ := map_eq_ok.1 hok
    cases heq
    obtain ⟨-, rfl⟩ := updateTile_eq_ok.1 hok
    exact .modifyTiles (fun _ => rfl) fun _ => rfl
  | updateTileAttrs id attrs =>
    obtain ⟨_, hok, heq⟩ := map_eq_ok.1 hok
    cases heq
    obtain ⟨-, rfl⟩ := replaceTileAttrs_eq_ok.1 hok
    exact .modifyTiles (fun _ => rfl) fun _ => rfl
  | setTilesStatus ids status =>
    cases hok
    exact .modifyTiles (fun _ => rfl) fun _ => rfl
  | unblockNextTiles id | unblockSceneTiles id | unblockSceneRootTiles id =>
    obtain ⟨-, -, rfl⟩ := release_eq_ok.1 hok
    exact .modifyTiles (fun _ => rfl) fun _ => rfl
  | reparentNextTiles old new =>
    obtain ⟨-, -, rfl⟩ := reparentNextTiles_eq_ok.1 hok
    exact .modifyTiles (fun _ => rfl) fun _ => rfl
  | refreshAoiStatus aoi =>
    cases hok
    exact .of_tiles (sameRows_refreshAoiStatus s aoi).tiles
  | enqueueJob topic payload | sceneId aoi sourceId =>
    cases hok
    exact .of_tiles rfl
  | aoi name | scene id | tile id | sceneTiles scene | referencingTiles reference =>
    obtain ⟨_, _, heq⟩ := map_eq_ok.1 hok
    cases heq
    exact .refl s

theorem sameReferences_of_exec {α : Type} {w : Work α} {a : α} (hw : w.Uses KeepsReferences)
    (hok : w.exec s = .ok (a, s')) : SameReferences s s' :=
  Work.exec_relates .refl .trans (fun _ _ _ _ hc hok => sameReferences_of_perform hc hok) hw hok

theorem sameReferences_applyToTile {scene : Status} {change : Transition} (hlive : change ≠ .fail)
    (hok : (applyToTile t scene message force change).exec s = .ok ((), s')) :
    SameReferences s s' := by
  refine sameReferences_of_exec ?_ hok
  cases change with
  | finish => exact (gentle_finishTile t message).mono fun _ => Gentle.keepsReferences
  | retry =>
    show (retryTile t message).Uses KeepsReferences
    unfold retryTile
    split
    · have hqueue := (gentle_queueTile t).mono fun _ => Gentle.keepsReferences
      exact uses_bind (uses_perform trivial) fun _ => hqueue
    · exact uses_perform trivial
  | requeue =>
    exact (gentle_requeueTile t scene message force).mono fun _ => Gentle.keepsReferences
  | fail => exact absurd rfl hlive
  | overwrite status => exact uses_perform trivial

theorem sameReferences_applyToScene {change : Transition} (hlive : change ≠ .fail)
    (hok : (applyToScene x message change).exec s = .ok ((), s')) : SameReferences s s' := by
  refine sameReferences_of_exec ?_ hok
  cases change with
  | finish => exact (gentle_finishScene x message).mono fun _ => Gentle.keepsReferences
  | retry =>
    show (retryScene x message).Uses KeepsReferences
    unfold retryScene
    split
    · exact uses_bind (uses_perform trivial) fun _ => uses_perform trivial
    · exact uses_perform trivial
  | requeue => exact (gentle_requeueScene x message).mono fun _ => Gentle.keepsReferences
  | fail => exact absurd rfl hlive
  | overwrite status => exact uses_perform trivial

/-- A request that does not ask for a failure, or is rejected, changes no comparison. -/
theorem sameReferences_changeTile (hnot : ¬ (accepted = true ∧ requested = .failed))
    (hok : (changeTile id requested message force).exec s = .ok (accepted, s')) :
    SameReferences s s' := by
  obtain ⟨t, x, -, -, -, ⟨-, -, rfl⟩ | ⟨change, hchange, rfl, s₁, happly, rfl⟩⟩ :=
    changeTile_eq_ok hok
  · exact .refl s'
  · have hlive : change ≠ .fail := by
      rintro rfl
      exact hnot ⟨rfl, Status.eq_failed_of_transition hchange⟩
    exact (sameReferences_applyToTile hlive happly).trans
      (.of_tiles (sameRows_refreshAoiStatus s₁ x.aoi).tiles)

theorem sameReferences_changeScene (hnot : ¬ (accepted = true ∧ requested = .failed))
    (hok : (changeScene id requested message force).exec s = .ok (accepted, s')) :
    SameReferences s s' := by
  obtain ⟨x, -, -, ⟨-, -, rfl⟩ | ⟨change, hchange, rfl, s₁, happly, rfl⟩⟩ := changeScene_eq_ok hok
  · exact .refl s'
  · have hlive : change ≠ .fail := by
      rintro rfl
      exact hnot ⟨rfl, Status.eq_failed_of_transition hchange⟩
    exact (sameReferences_applyToScene hlive happly).trans
      (.of_tiles (sameRows_refreshAoiStatus s₁ x.aoi).tiles)

/-! ### Failures -/

/-- What the failure of one tile makes of comparisons, as the cascade carries it out. -/
theorem rebases_failTile (h : Forest s)
    (hok : (failTile id message).exec s = .ok ((), s')) :
    ∃ f, s.tile? id = some f ∧ Forest s' ∧ Alike (s.failTile f message) s' ∧
      Rebases (s.Misleads f) (s.Succeeds · f) s s' := by
  have hforest := forest_failTile h hok
  obtain ⟨f, hf, -, rfl⟩ := failTile_eq_ok h hok
  obtain rfl := tile?_id hf
  have hsame := sameRows_announce (s.failTile f message) (s.freed f message)
  refine ⟨f, hf, hforest, alike_of_sameRows hsame, ?_⟩
  have hrebases :=
    Store.rebases_failTile h.toOrdered hf (h.previous_ne_self (mem_of_tile? hf)) message
  exact hrebases.after (.of_tiles hsame.tiles)

theorem rebases_failTiles (h : Forest s) {ts : List Tile}
    (hok : (ts.forM fun t => failTile t.id none).exec s = .ok (⟨⟩, s')) :
    Rebases (FailureAmong Misleads (ts.map (·.id)) s)
      (fun k => FailureAmong (Succeeds k) (ts.map (·.id)) s) s s' := by
  induction ts generalizing s with
  | nil =>
    cases hok
    exact (SameReferences.refl s').rebases
  | cons t rest ih =>
    obtain ⟨_, s₁, hstep, hrest⟩ := Work.exec_bind_eq_ok (w := failTile t.id none)
      (f := fun _ => rest.forM fun t => failTile t.id none) hok
    obtain ⟨f, hf, hforest, halike, hfirst⟩ := rebases_failTile h hstep
    have hthen (P : Store → Tile → Prop) (hP : ∀ {u v}, Alike u v → ∀ f, P v f ↔ P u f) :
        P s f ∨ FailureAmong P (rest.map (·.id)) s₁ ↔
          FailureAmong P ((t :: rest).map (·.id)) s := by
      rw [FailureAmong.congr hP halike]
      refine ⟨fun hsome => ⟨f, hf, hsome⟩, ?_⟩
      rintro ⟨f', hf', hsome⟩
      cases hf.symm.trans hf'
      exact hsome
    exact (hfirst.trans (ih hforest hrest)).congr (hthen _ Alike.misleads)
      fun k => hthen _ fun h => h.succeeds k

theorem rebases_failScene (h : Forest s) (hx : s.scene? x.id = some x)
    (hok : (failScene x message).exec s = .ok ((), s')) :
    Rebases (FailureOf Misleads .scene x.id s) (fun k => FailureOf (Succeeds k) .scene x.id s)
      s s' := by
  have hset : Forest (s.setScene x.id { status := .failed, message }) := h.setScene hx nofun
  have hrebases := rebases_failTiles hset (failScene_eq_ok hok).2
  have halike := alike_setScene s x.id message
  have hsame : SameReferences s (s.setScene x.id { status := .failed, message }) := .of_tiles rfl
  refine (hrebases.before hsame).congr ?_ fun k => ?_
  · exact FailureAmong.congr Alike.misleads halike _
  · exact FailureAmong.congr (fun h => h.succeeds k) halike _

theorem rebases_changeTile (h : Forest s)
    (hok : (changeTile id .failed message force).exec s = .ok (true, s')) :
    Rebases (FailureOf Misleads .tile id s) (fun k => FailureOf (Succeeds k) .tile id s) s s' := by
  obtain ⟨t, x, ht, rfl, -, ⟨-, hrejected, -⟩ | ⟨change, hchange, -, s₁, happly, rfl⟩⟩ :=
    changeTile_eq_ok hok
  · cases hrejected
  · obtain rfl := Status.transition_failed hchange
    obtain ⟨f, hf, -, -, hrebases⟩ := rebases_failTile h happly
    have hone (P : Store → Tile → Prop) : P s f ↔ FailureOf P .tile t.id s := by
      simp [FailureOf, failing, FailureAmong, hf]
    have hafter := hrebases.after (.of_tiles (sameRows_refreshAoiStatus s₁ x.aoi).tiles)
    exact hafter.congr (hone _) fun k => hone _

theorem rebases_changeScene (h : Forest s)
    (hok : (changeScene id .failed message force).exec s = .ok (true, s')) :
    Rebases (FailureOf Misleads .scene id s) (fun k => FailureOf (Succeeds k) .scene id s)
      s s' := by
  obtain ⟨x, hx, rfl, ⟨-, hrejected, -⟩ | ⟨change, hchange, -, s₁, happly, rfl⟩⟩ :=
    changeScene_eq_ok hok
  · cases hrejected
  · obtain rfl := Status.transition_failed hchange
    exact (rebases_failScene h hx happly).after
      (.of_tiles (sameRows_refreshAoiStatus s₁ x.aoi).tiles)

end Cascade
end SceneWorkflow
