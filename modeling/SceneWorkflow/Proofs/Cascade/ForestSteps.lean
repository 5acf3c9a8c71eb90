import SceneWorkflow.Cascade.Scene
import SceneWorkflow.Proofs.Cascade.Forest

/-!
# Requests keep the forest

A tile that fails is spliced out as described, however its tiles stand and whether
or not the request is forced. Every other change for a scene or tile leaves all
links as they are and lets no tile fail.
-/
namespace SceneWorkflow

namespace Status

theorem transition_failed {present : Status} {force : Bool} {change : Transition}
    (h : present.transition failed force = some change) : change = .fail := by
  cases force <;> cases present <;> cases h <;> rfl

theorem eq_failed_of_transition {present requested : Status} {force : Bool}
    (h : present.transition requested force = some .fail) : requested = failed := by
  cases force with
  | false => exact eq_failed_of_unforced h
  | true => cases requested <;> first | rfl | cases h

/-- No status is overwritten with that of a failure. -/
theorem overwrite_ne_failed {present requested status : Status} {force : Bool}
    (h : present.transition requested force = some (.overwrite status)) : status ≠ failed := by
  cases force with
  | false => exact absurd h (unforced_ne_overwrite present requested status)
  | true => cases requested <;> cases h <;> nofun

end Status

namespace Cascade
open Store Program
variable {s s' : Store} {f t : Tile} {x : Scene} {message : Option String}

/-! ### What requests come to -/

/-- A request for a tile that is carried out is rejected, or its transition is applied to the tile as
it stood. -/
theorem changeTile_eq_ok {id : Int} {requested : Status} {force accepted : Bool}
    (hok : (changeTile id requested message force).exec s = .ok (accepted, s')) :
    ∃ t x, s.tile? id = some t ∧ t.id = id ∧ s.scene? t.scene = some x ∧
      (t.status.transition requested force = none ∧ accepted = false ∧ s' = s ∨
        ∃ change, t.status.transition requested force = some change ∧ accepted = true ∧
          ∃ s₁, (applyToTile t x.status message force change).exec s = .ok ((), s₁) ∧
            s' = (s₁.refreshAoiStatus x.aoi).2) := by
  unfold changeTile at hok
  obtain ⟨t, s₁, htile, hread⟩ := Work.exec_bind_eq_ok hok
  obtain ⟨ht, rfl⟩ := Work.exec_tile_eq_ok htile
  obtain ⟨note, s₂, hknown, hbody⟩ := Work.exec_bind_eq_ok hread
  obtain ⟨x, hx, rfl, rfl⟩ := Work.exec_known_eq_ok hknown
  refine ⟨t, x, ht, tile?_id ht, hx, ?_⟩
  split at hbody
  · next hnone =>
    cases hbody
    exact .inl ⟨hnone, rfl, rfl⟩
  · next change hchange =>
    obtain ⟨_, s₃, happly, hrefresh⟩ := Work.exec_bind_eq_ok hbody
    rw [Work.exec_bind_ok (Work.exec_refreshAoiStatus _)] at hrefresh
    cases hrefresh
    exact .inr ⟨change, hchange, rfl, s₃, happly, rfl⟩

theorem changeScene_eq_ok {id : Int} {requested : Status} {force accepted : Bool}
    (hok : (changeScene id requested message force).exec s = .ok (accepted, s')) :
    ∃ x, s.scene? id = some x ∧ x.id = id ∧
      (x.status.transition requested force = none ∧ accepted = false ∧ s' = s ∨
        ∃ change, x.status.transition requested force = some change ∧ accepted = true ∧
          ∃ s₁, (applyToScene x message change).exec s = .ok ((), s₁) ∧
            s' = (s₁.refreshAoiStatus x.aoi).2) := by
  unfold changeScene at hok
  obtain ⟨x, s₁, hscene, hbody⟩ := Work.exec_bind_eq_ok hok
  obtain ⟨hx, rfl⟩ := Work.exec_scene_eq_ok hscene
  refine ⟨x, hx, scene?_id hx, ?_⟩
  split at hbody
  · next hnone =>
    cases hbody
    exact .inl ⟨hnone, rfl, rfl⟩
  · next change hchange =>
    obtain ⟨_, s₂, happly, hrefresh⟩ := Work.exec_bind_eq_ok hbody
    rw [Work.exec_bind_ok (Work.exec_refreshAoiStatus _)] at hrefresh
    cases hrefresh
    exact .inr ⟨change, hchange, rfl, s₂, happly, rfl⟩

/-- A scene fails only while all its tiles are new. They fail after it, one after the other. -/
theorem failScene_eq_ok (hok : (failScene x message).exec s = .ok ((), s')) :
    (∀ t ∈ s.tiles, t.scene = x.id → t.status = .new) ∧
      ((s.tiles.filter fun t => t.scene == x.id).forM fun t => failTile t.id none).exec
        (s.setScene x.id { status := .failed, message }) = .ok (⟨⟩, s') := by
  unfold failScene at hok
  obtain ⟨ts, s₁, hread, hbody⟩ := Work.exec_bind_eq_ok hok
  obtain ⟨rfl, rfl⟩ := Work.exec_sceneTiles_eq_ok hread
  split at hbody
  · cases hbody
  · next hfresh =>
    obtain ⟨_, s₂, hupdate, hfailures⟩ := Work.exec_bind_eq_ok hbody
    obtain ⟨_, hset, heq⟩ := map_eq_ok.1 (Work.exec_call (.updateScene x.id _) s₁ ▸ hupdate)
    obtain ⟨-, rfl⟩ := updateScene_eq_ok.1 hset
    cases heq
    refine ⟨fun t ht hscene => ?_, hfailures⟩
    simpa using List.find?_eq_none.1 hfresh t (List.mem_filter.2 ⟨ht, beq_iff_eq.2 hscene⟩)

/-! ### Failures -/

theorem requirePreviousAlive_eq_ok (hok : (requirePreviousAlive f).exec s = .ok ((), s')) :
    s' = s ∧ ∀ id p, f.previous = some id → s.tile? id = some p →
      p.status ≠ .failed ∧ (p.scene = f.scene ∨ s.sceneStatus? p.scene ≠ some .failed) := by
  unfold requirePreviousAlive at hok
  split at hok
  · next hnone =>
    cases hok
    refine ⟨rfl, fun id p hid => ?_⟩
    rw [hnone] at hid
    cases hid
  · next id hprevious =>
    obtain ⟨p, s₁, htile, hstatus⟩ := Work.exec_bind_eq_ok hok
    obtain ⟨hp, rfl⟩ := Work.exec_tile_eq_ok htile
    split at hstatus
    · cases hstatus
    · next hlive =>
      obtain ⟨note, s₂, hknown, hscene⟩ := Work.exec_bind_eq_ok hstatus
      obtain ⟨x, hx, rfl, rfl⟩ := Work.exec_known_eq_ok hknown
      split at hscene
      · cases hscene
      · next hgood =>
        cases hscene
        refine ⟨rfl, fun k q hk hq => ?_⟩
        cases hprevious.symm.trans hk
        cases hp.symm.trans hq
        refine ⟨hlive, ?_⟩
        rw [sceneStatus?_of_scene? hx]
        by_cases hsame : p.scene = f.scene
        · exact .inl hsame
        · exact .inr fun hfailed => hgood ⟨hsame, Option.some.inj hfailed⟩

theorem startableDependents_new (h : s.Legible) (hs : s.Schema) {failed : Int}
    {inheritedDone : Bool} {ids : List Int} {r : List Tile × Store}
    (hok : (startableDependents failed inheritedDone ids).exec s = .ok r) :
    ∀ id ∈ ids, s.tileStatus? id = some .new := by
  induction ids generalizing r with
  | nil => exact nofun
  | cons id rest ih =>
    unfold startableDependents at hok
    obtain ⟨t, s₁, htile, hstatus⟩ := Work.exec_bind_eq_ok hok
    obtain ⟨ht, rfl⟩ := Work.exec_tile_eq_ok htile
    split at hstatus
    · cases hstatus
    · next hnew =>
      have hscene := hs.scene_exists t (mem_of_tile? ht)
      rw [Work.exec_bind_ok (exec_startable h inheritedDone hscene)] at hstatus
      obtain ⟨others, s₂, hrest, -⟩ := Work.exec_bind_eq_ok hstatus
      intro k hk
      rcases List.mem_cons.1 hk with rfl | hk
      · rw [tileStatus?_of_tile? ht, Decidable.not_not.1 hnew]
      · exact ih hrest k hk

/-- The followers of a tile that fails have not started, or the failure is refused. -/
theorem releaseDependents_new (h : s.Legible) (hs : s.Schema) (hlinked : s.hasLinked f.previous)
    {ids : List Int} (hok : (releaseDependents f ids).exec s = .ok ((), s')) :
    ∀ id ∈ ids, s.tileStatus? id = some .new := by
  unfold releaseDependents at hok
  rw [Work.exec_bind_ok (exec_previousDone h hlinked)] at hok
  obtain ⟨_, _, hdependents, -⟩ := Work.exec_bind_eq_ok hok
  exact startableDependents_new h hs hdependents

/-- A failure that is carried out comes to what is described, and none of the followers has started
before it. -/
theorem failTile_eq_ok (h : Forest s) {id : Int}
    (hok : (Cascade.failTile id message).exec s = .ok ((), s')) :
    ∃ f, s.tile? id = some f ∧ (∀ t ∈ s.tiles, t.previous = some f.id → t.status = .new) ∧
      s' = (s.failTile f message).announce (s.freed f message) := by
  have hsteps := hok
  unfold Cascade.failTile at hsteps
  obtain ⟨f, s₁, htile, hguarded⟩ := Work.exec_bind_eq_ok hsteps
  obtain ⟨hf, rfl⟩ := Work.exec_tile_eq_ok htile
  obtain rfl := tile?_id hf
  have hmem := mem_of_tile? hf
  have hself := h.previous_ne_self hmem
  obtain ⟨_, s₂, halive, hsplices⟩ := Work.exec_bind_eq_ok hguarded
  obtain ⟨rfl, halive⟩ := requirePreviousAlive_eq_ok halive
  change ((Work.updateTile f.id { status := .failed, message, clearPrevious := true } >>= fun _ =>
    Work.reparentNextTiles f.id f.previous) >>= fun dependents => handOverReference f dependents >>=
      fun _ => releaseDependents f dependents).exec s₂ = _ at hsplices
  rw [Work.exec_bind_ok (exec_detach h.toSchema hf hself),
    Work.exec_bind_ok (exec_handOverReference h.toLegible h.toSchema hf hself)] at hsplices
  have hlinked : (s₂.splice f message).hasLinked f.previous := by
    rw [splice, hasLinked_mapTiles (f := s₂.spliceRow f message) fun _ => rfl]
    exact h.previous_exists f hmem
  -- After forced requests followers need not wait; the release of the dependents sees to it.
  have hwaits := releaseDependents_new (legible_splice h.toLegible)
    (schema_splice h.toSchema hf hself) hlinked hsplices
  have hnew : ∀ t ∈ s₂.tiles, t.previous = some f.id → t.status = .new := by
    intro t ht hfollows
    have hne : t.id ≠ f.id := by
      intro hid
      obtain rfl := h.eq_of_id ht hmem hid
      exact hself hfollows
    have hrow := hwaits t.id
      (List.mem_map_of_mem (List.mem_filter.2 ⟨ht, beq_iff_eq.2 hfollows⟩))
    rw [tileStatus?, tile?_splice, h.tile?_of_mem ht] at hrow
    exact (if_neg hne).symm.trans (Option.some.inj hrow)
  have hexec : (Cascade.failTile f.id message).exec s₂ =
      .ok ((), (s₂.failTile f message).announce (s₂.freed f message)) :=
    exec_failTile h.toLegible h.toSchema hf hself halive hnew
  cases hexec.symm.trans hok
  exact ⟨f, hf, hnew, rfl⟩

theorem forest_failTile (h : Forest s) {id : Int}
    (hok : (Cascade.failTile id message).exec s = .ok ((), s')) : Forest s' := by
  obtain ⟨f, hf, -, rfl⟩ := failTile_eq_ok h hok
  obtain rfl := tile?_id hf
  exact (h.failTile hf message).of_sameRows (sameRows_announce _ _)

/-! ### Other changes -/

/-- The call lets no tile fail, and changes neither links nor budgets. -/
def IsGentle : Call → Prop
  | .updateTile _ u => u.status ≠ .failed ∧ u.consume = false ∧ u.clearPrevious = false
  | .updateScene _ u => u.consume = false
  | .setTilesStatus _ status => status ≠ .failed
  | .createTile _ => False
  | .reparentNextTiles _ _ => False
  | .reassignReference _ _ => False
  | _ => True

def Gentle : Instruction → Prop
  | .call c => IsGentle c
  | _ => True

theorem forest_of_perform {c : Call} {a : c.Answer} (hc : IsGentle c)
    (hok : c.perform s = .ok (a, s')) (h : Forest s) : Forest s' := by
  cases c with
  | updateTile id u =>
    obtain ⟨hlive, hkeep, hclear⟩ := hc
    obtain ⟨_, hok, heq⟩ := map_eq_ok.1 hok
    cases heq
    obtain ⟨hexists, rfl⟩ := updateTile_eq_ok.1 hok
    obtain ⟨f, hf⟩ := Option.isSome_iff_exists.1 hexists
    obtain rfl := tile?_id hf
    exact h.setTile hf hlive hclear fun hconsume => by simp [hkeep] at hconsume
  | updateScene id u =>
    obtain ⟨_, hok, heq⟩ := map_eq_ok.1 hok
    cases heq
    obtain ⟨hexists, rfl⟩ := updateScene_eq_ok.1 hok
    obtain ⟨x, hx⟩ := Option.isSome_iff_exists.1 hexists
    obtain rfl := scene?_id hx
    have hkeep : u.consume = false := hc
    exact h.setScene hx fun hconsume => by simp [hkeep] at hconsume
  | updateSceneAttrs id attrs =>
    obtain ⟨_, hok, heq⟩ := map_eq_ok.1 hok
    cases heq
    exact h.replaceSceneAttrs hok
  | updateTileAttrs id attrs =>
    obtain ⟨_, hok, heq⟩ := map_eq_ok.1 hok
    cases heq
    exact h.replaceTileAttrs hok
  | createScene draft => exact (h.createScene hok).1
  | setTilesStatus ids status =>
    cases hok
    exact h.setStatus hc
  | unblockNextTiles id | unblockSceneTiles id | unblockSceneRootTiles id =>
    obtain ⟨-, -, rfl⟩ := release_eq_ok.1 hok
    exact h.setStatus nofun
  | refreshAoiStatus aoi =>
    cases hok
    exact h.of_sameRows (sameRows_refreshAoiStatus s aoi)
  | enqueueJob topic payload =>
    cases hok
    exact h.of_sameRows (sameRows_enqueueJob s topic payload)
  | sceneId aoi sourceId =>
    cases hok
    exact h
  | aoi name | scene id | tile id | sceneTiles scene | referencingTiles reference =>
    obtain ⟨_, _, heq⟩ := map_eq_ok.1 hok
    cases heq
    exact h
  | createTile _ | reparentNextTiles _ _ | reassignReference _ _ => exact hc.elim

/-- A body that makes gentle calls only keeps the forest. -/
theorem forest_of_exec {α : Type} {w : Work α} {a : α} (h : Forest s)
    (hok : w.exec s = .ok (a, s')) (hw : w.Uses Gentle) : Forest s' :=
  Work.exec_relates (R := fun s s' => Forest s → Forest s') (fun _ h => h)
    (fun h₁ h₂ h => h₂ (h₁ h)) (fun _ _ _ _ hc hok => forest_of_perform hc hok) hw hok h

theorem gentle_describe (t : Tile) : (describe t).Uses Gentle :=
  uses_bind (uses_perform trivial) fun _ => uses_pure _ _

theorem gentle_describeLinked (link : Option Int) : (describeLinked link).Uses Gentle := by
  cases link with
  | none => exact uses_pure _ _
  | some id =>
    exact uses_bind (uses_perform trivial) fun t => uses_bind (gentle_describe t) fun _ =>
      uses_pure _ _

theorem gentle_queueTile (t : Tile) : (queueTile t).Uses Gentle :=
  uses_bind (gentle_describeLinked _) fun _ => uses_bind (gentle_describeLinked _) fun _ =>
    uses_bind (gentle_describe _) fun _ => uses_perform trivial

theorem gentle_finishTile (t : Tile) (message : Option String) :
    (finishTile t message).Uses Gentle :=
  uses_bind (uses_perform ⟨nofun, rfl, rfl⟩) fun _ => uses_bind (uses_perform trivial) fun next =>
    uses_forM gentle_queueTile next

theorem gentle_requirePreviousDone (t : Tile) : (requirePreviousDone t).Uses Gentle := by
  unfold requirePreviousDone
  split
  · exact uses_pure _ _
  · apply uses_bind (uses_perform trivial)
    intro previous
    split
    · exact uses_pure _ _
    · exact ⟨trivial, nofun⟩

theorem gentle_requeueTile (t : Tile) (scene : Status) (message : Option String) (force : Bool) :
    (requeueTile t scene message force).Uses Gentle := by
  apply uses_bind (gentle_requirePreviousDone t)
  intro _
  split
  · exact uses_bind (uses_perform ⟨nofun, rfl, rfl⟩) fun _ => gentle_queueTile t
  · exact ⟨trivial, nofun⟩

theorem gentle_finishScene (x : Scene) (message : Option String) :
    (finishScene x message).Uses Gentle :=
  uses_bind (uses_perform rfl) fun _ => uses_bind (uses_perform trivial) fun _ =>
    uses_bind (uses_perform trivial) fun heads => uses_bind (uses_forM gentle_queueTile heads)
      fun _ => uses_bind (uses_perform trivial) fun followers =>
        uses_forM gentle_queueTile followers

theorem gentle_requeueScene (x : Scene) (message : Option String) :
    (requeueScene x message).Uses Gentle :=
  uses_bind (uses_perform rfl) fun _ => uses_perform trivial

/-! ### Requests -/

/-- A budget is not used up when something is taken off it. -/
theorem forest_retryTile (h : Forest s) (ht : s.tile? t.id = some t)
    (hok : (retryTile t message).exec s = .ok ((), s')) : Forest s' := by
  unfold retryTile at hok
  split at hok
  · next hpos =>
    have h₁ : Forest (s.setTile t.id { status := .pending, message, consume := true }) :=
      h.setTile ht nofun rfl fun _ => hpos
    rw [Work.exec_bind_ok (Work.exec_updateTile ht _)] at hok
    exact forest_of_exec h₁ hok (gentle_queueTile t)
  · exact forest_of_exec h hok (uses_perform ⟨nofun, rfl, rfl⟩)

theorem forest_retryScene (h : Forest s) (hx : s.scene? x.id = some x)
    (hok : (retryScene x message).exec s = .ok ((), s')) : Forest s' := by
  unfold retryScene at hok
  split at hok
  · next hpos =>
    rw [Work.exec_bind_ok (Work.exec_updateScene hx _)] at hok
    exact forest_of_exec (h.setScene hx fun _ => hpos) hok (uses_perform trivial)
  · exact forest_of_exec h hok (uses_perform rfl)

theorem forest_applyToTile (h : Forest s) (ht : s.tile? t.id = some t) {scene requested : Status}
    {force : Bool} {change : Transition}
    (hchange : t.status.transition requested force = some change)
    (hok : (applyToTile t scene message force change).exec s = .ok ((), s')) : Forest s' := by
  cases change with
  | finish => exact forest_of_exec h hok (gentle_finishTile t message)
  | retry => exact forest_retryTile h ht hok
  | requeue => exact forest_of_exec h hok (gentle_requeueTile t scene message force)
  | fail => exact forest_failTile h hok
  | overwrite status =>
    exact forest_of_exec h hok (uses_perform ⟨Status.overwrite_ne_failed hchange, rfl, rfl⟩)

theorem forest_changeTile (h : Forest s) {id : Int} {requested : Status} {force accepted : Bool}
    (hok : (changeTile id requested message force).exec s = .ok (accepted, s')) : Forest s' := by
  obtain ⟨t, x, ht, rfl, -, ⟨-, -, rfl⟩ | ⟨change, hchange, -, s₁, happly, rfl⟩⟩ :=
    changeTile_eq_ok hok
  · exact h
  · exact (forest_applyToTile h ht hchange happly).of_sameRows (sameRows_refreshAoiStatus _ _)

theorem forest_failTiles (h : Forest s) {ts : List Tile}
    (hok : (ts.forM fun t => failTile t.id none).exec s = .ok (⟨⟩, s')) : Forest s' :=
  Work.exec_forM_eq_ok (I := fun _ s => Forest s) (fun _ _ _ _ h hok => forest_failTile h hok) h hok

theorem forest_failScene (h : Forest s) (hx : s.scene? x.id = some x)
    (hok : (failScene x message).exec s = .ok ((), s')) : Forest s' := by
  have hset : Forest (s.setScene x.id { status := .failed, message }) := h.setScene hx nofun
  exact forest_failTiles hset (failScene_eq_ok hok).2

theorem forest_applyToScene (h : Forest s) (hx : s.scene? x.id = some x) {change : Transition}
    (hok : (applyToScene x message change).exec s = .ok ((), s')) : Forest s' := by
  cases change with
  | finish => exact forest_of_exec h hok (gentle_finishScene x message)
  | retry => exact forest_retryScene h hx hok
  | requeue => exact forest_of_exec h hok (gentle_requeueScene x message)
  | fail => exact forest_failScene h hx hok
  | overwrite status => exact forest_of_exec h hok (uses_perform rfl)

theorem forest_changeScene (h : Forest s) {id : Int} {requested : Status} {force accepted : Bool}
    (hok : (changeScene id requested message force).exec s = .ok (accepted, s')) : Forest s' := by
  obtain ⟨x, hx, rfl, ⟨-, -, rfl⟩ | ⟨change, -, -, s₁, happly, rfl⟩⟩ := changeScene_eq_ok hok
  · exact h
  · exact (forest_applyToScene h hx happly).of_sameRows (sameRows_refreshAoiStatus _ _)

end Cascade

end SceneWorkflow
