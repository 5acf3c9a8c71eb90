import SceneWorkflow.Cascade.Scene
import SceneWorkflow.Proofs.Cascade.TileSteps

/-!
# Requests for scenes

In a sound store every unforced request for a scene is carried out to its end, the
failure of a scene with all its tiles included. It leaves a sound store, and the
jobs that it queues keep track of their tiles.
-/
namespace SceneWorkflow
namespace Store
variable {s s' s'' : Store} {x : Scene} {late : Prop} {p : Tile → Bool}

theorem SameRows.start (h : SameRows s s') (p : Tile → Bool) :
    SameRows (s.start p) (s'.start p) := by
  refine ⟨h.aois, h.scenes, ?_, h.lastScene, h.lastTile⟩
  show s'.tiles.map _ = s.tiles.map _
  rw [h.tiles]

theorem SameRows.followsDone (h : SameRows s s') (scene : Int) :
    s'.followsDone scene = s.followsDone scene := by
  funext t
  rw [Store.followsDone, h.previousStatus?, Store.followsDone]

theorem Advances.queueScene (h : Advances late s s') (payload : String) :
    Advances late s (s'.enqueueJob .sceneJobs payload) :=
  h.of_sameRows (sameRows_enqueueJob s' _ _) (h.appends.queueScene payload)

theorem Appends.start {s₀ : Store} (h : Appends late s₀ s) (hs : s.Schema)
    (hnew : ∀ t ∈ s.tiles, p t → t.status = .new) : Appends late s₀ (s.start p) :=
  h.step rfl fun _ htracks => htracks.start hs hnew

theorem Appends.announce_started {s₀ : Store} (h : Appends late s₀ (s.start p))
    (hs : s.Ordered) : Appends late s₀ (s.setOff p) :=
  h.announce fun t ht => ⟨t, (tile?_of_started hs ht).1, (tile?_of_started hs ht).2, rfl⟩

/-- Starts the tiles of a scene that wait for nothing else and announces them, those first that
follow none. -/
def setOffScene (s : Store) (id : Int) : Store :=
  (s.setOff (isHead id)).setOff ((s.setOff (isHead id)).followsDone id)

theorem sameRows_setOffScene (s : Store) (id : Int) :
    SameRows (s.startScene id) (s.setOffScene id) := by
  have hsame := sameRows_setOff s (isHead id)
  rw [startScene, ← hsame.followsDone id]
  exact (hsame.start _).trans (sameRows_setOff _ _)

theorem Appends.setOffScene {s₀ : Store} (h : Appends late s₀ s) (hs : s.Schema) (id : Int) :
    Appends late s₀ (s.setOffScene id) := by
  have hheads : Appends late s₀ (s.setOff (isHead id)) :=
    (h.start hs fun _ _ => isHead_new).announce_started hs.toOrdered
  have hs₁ := (hs.start (isHead id)).of_sameRows (sameRows_setOff s (isHead id))
  exact (hheads.start hs₁ fun _ _ => followsDone_new).announce_started hs₁.toOrdered

end Store

namespace Work
open Store
variable {s : Store}

theorem exec_unblockSceneRootTiles (h : s.Legible) (id : Int) :
    (unblockSceneRootTiles id).exec s = .ok (s.started (isHead id), s.start (isHead id)) :=
  (exec_call (.unblockSceneRootTiles id) s).trans (h.release _ _)

theorem exec_unblockSceneTiles (h : s.Legible) (id : Int) :
    (unblockSceneTiles id).exec s =
      .ok (s.started (s.followsDone id), s.start (s.followsDone id)) := by
  have hpredicate : (fun t : Tile => t.scene == id && t.status == .new &&
      (t.previous.bind s.tile?).any fun previous => previous.status == .done) =
      s.followsDone id := by
    funext t
    rw [followsDone, previousStatus?]
    cases hprevious : t.previous with
    | none => rfl
    | some k =>
      show (_ && (s.tile? k).any _) = (_ && s.tileStatus? k == some .done)
      rw [tileStatus?]
      cases s.tile? k <;> rfl
  apply (exec_call (.unblockSceneTiles id) s).trans
  show s.release _ _ = _
  rw [hpredicate]
  exact h.release _ _

end Work

namespace Cascade
open Store
variable {s : Store} {x : Scene} {late : Prop}

/-- A scene is done, and its tiles start that wait for nothing else. -/
theorem exec_finishScene_eq {message : Option String} {done : Store}
    (hdone : done = s.setScene x.id { status := .done, message }) (hl : done.Legible)
    (hs : done.Schema) (hx : s.scene? x.id = some x) :
    (finishScene x message).exec s = .ok ((), done.setOffScene x.id) := by
  have hsame := sameRows_setOff done (isHead x.id)
  have hl₁ := (hl.start (isHead x.id)).of_sameRows hsame
  have hs₁ := (hs.start (isHead x.id)).of_sameRows hsame
  unfold finishScene
  rw [Work.exec_bind_ok (Work.exec_updateScene hx _), ← hdone]
  show (do
    let heads ← Work.unblockSceneRootTiles x.id
    heads.forM queueTile
    let followers ← Work.unblockSceneTiles x.id
    followers.forM queueTile).exec done = _
  rw [Work.exec_bind_ok (Work.exec_unblockSceneRootTiles hl x.id),
    Work.exec_bind_ok (exec_announce_started hl hs _),
    Work.exec_bind_ok (Work.exec_unblockSceneTiles hl₁ x.id)]
  exact exec_announce_started hl₁ hs₁ _

theorem exec_finishScene (h : Sound [] s) (hx : s.scene? x.id = some x)
    (ha : x.status.isActive = true) (message : Option String) :
    ∃ s', (finishScene x message).exec s = .ok ((), s') ∧ Advances late s s' := by
  have hl := h.toLegible.setScene (u := { status := .done, message }) h.toOrdered hx nofun
  have hs := h.toSchema.setScene x.id { status := .done, message }
  have hsound := h.finishScene (u := { status := .done, message }) hx ha rfl rfl
  have hhanded := Sound.handed_finishScene s x.id { status := .done, message }
  have hquiet : Appends late s (s.setScene x.id { status := .done, message }) :=
    appends_of_outbox rfl
  have hsame := sameRows_setOffScene (s.setScene x.id { status := .done, message }) x.id
  exact ⟨_, exec_finishScene_eq rfl hl hs hx, hsound.of_sameRows hsame,
    ⟨[], hhanded.trans (.of_sameRows hsame [])⟩, hquiet.setOffScene hs x.id⟩

theorem exec_handOutScene_eq (hx : s.scene? x.id = some x) (u : StatusUpdate) :
    (do Work.updateScene x.id u; queueScene x).exec s =
      .ok ((), (s.setScene x.id u).enqueueJob .sceneJobs x.ref.toJson.print) := by
  rw [Work.exec_bind_ok (Work.exec_updateScene hx _)]
  exact Work.exec_call (.enqueueJob .sceneJobs x.ref.toJson.print) _

theorem exec_handOutScene (h : Sound [] s) (hx : s.scene? x.id = some x)
    (ha : x.status.isActive = true) {u : StatusUpdate} (hu : u.status.isActive = true)
    (hpos : u.consume = true → 0 < x.budget) :
    ∃ s', (do Work.updateScene x.id u; queueScene x).exec s = .ok ((), s') ∧
      Advances late s s' := by
  have hsound := h.setScene hx ha hu hpos
  have hhanded := Sound.handed_setScene s x.id u []
  exact ⟨_, exec_handOutScene_eq hx u,
    (advances_of_outbox hsound hhanded rfl).queueScene x.ref.toJson.print⟩

theorem exec_retryScene (h : Sound [] s) (hx : s.scene? x.id = some x)
    (ha : x.status.isActive = true) (message : Option String) :
    ∃ s', (retryScene x message).exec s = .ok ((), s') ∧ Advances late s s' := by
  unfold retryScene
  split
  · next hpos => exact exec_handOutScene h hx ha rfl fun _ => hpos
  · have hsound := h.setScene (u := { status := .retry, message }) hx ha rfl nofun
    have hhanded := Sound.handed_setScene s x.id { status := .retry, message } []
    exact ⟨_, Work.exec_updateScene hx _, advances_of_outbox hsound hhanded rfl⟩

theorem exec_requeueScene (h : Sound [] s) (hx : s.scene? x.id = some x)
    (ha : x.status.isActive = true) (message : Option String) :
    ∃ s', (requeueScene x message).exec s = .ok ((), s') ∧ Advances late s s' :=
  exec_handOutScene h hx ha rfl nofun

/-- The doomed tiles of a scene fail one after the other. The invariant speaks of those that are
left. -/
theorem exec_failTiles (hlate : late) {s₀ : Store} {failing : List Int} {ts : List Tile}
    (h : Sound (ts.map (·.id)) s) (hh : Handed failing (ts.map (·.id)) s₀ s)
    (happends : Appends late s₀ s) :
    ∃ s', (ts.forM fun t => failTile t.id none).exec s = .ok (⟨⟩, s') ∧
      Sound [] s' ∧ Handed failing [] s₀ s' ∧ Appends late s₀ s' := by
  refine Work.exec_forM (I := fun ts s => Sound (ts.map (·.id)) s ∧
    Handed failing (ts.map (·.id)) s₀ s ∧ Appends late s₀ s) ?_ ⟨h, hh, happends⟩
  rintro t rest s ⟨h, hh, happends⟩
  have hd : t.id ∈ (t :: rest).map (·.id) := List.mem_cons_self
  obtain ⟨f, hf⟩ := Option.isSome_iff_exists.1 (h.doomed_exist t.id hd)
  have hid := tile?_id hf
  rw [← hid] at hf hd ⊢
  have hdone := h.toLifecycle.ne_done (mem_of_tile? hf) (.inl hd)
  obtain ⟨hnot, hdistinct⟩ := List.nodup_cons.1 h.doomed_distinct
  have hrest : ∀ id, id ∈ rest.map (·.id) ↔ id ∈ (t :: rest).map (·.id) ∧ id ≠ f.id := by
    intro id
    rw [List.map_cons, List.mem_cons, hid]
    constructor
    · intro hmem
      refine ⟨.inr hmem, ?_⟩
      rintro rfl
      exact hnot hmem
    · exact fun hmem => hmem.1.resolve_left hmem.2
  have hfewer : ∀ id ∈ rest.map (·.id), id ∈ (t :: rest).map (·.id) :=
    fun _ => List.mem_cons_of_mem _
  have hsound := h.failTile hf (.inl hd) hrest hdistinct none
  have hhanded : Handed failing (rest.map (·.id)) s₀ (s.failTile f none) :=
    hh.trans (.failTile h.toLifecycle h.toSchema hf hdone hd hfewer hfewer)
  have hsame := sameRows_announce (s.failTile f none) (s.freed f none)
  have happends' : Appends late s₀ (s.failTile f none) :=
    happends.step rfl fun _ htracks => htracks.failTile hlate h hf hd hh hfewer none
  refine ⟨_, exec_failTile_of_sound h hf (.inl hd) none, hsound.of_sameRows hsame,
    hhanded.trans (.of_sameRows hsame _), happends'.announce fun t ht => ?_⟩
  obtain ⟨hrow, hpending⟩ := tile?_of_freed h.toOrdered ht
  exact ⟨t, hrow, hpending, rfl⟩

theorem exec_failScene (hlate : late) (h : Sound [] s) (hx : s.scene? x.id = some x)
    (ha : x.status.isActive = true) (message : Option String) :
    ∃ s', (failScene x message).exec s = .ok ((), s') ∧ Advances late s s' := by
  have hnone : (s.tiles.filter fun t => t.scene == x.id).find? (fun t => t.status != .new) =
      none := by
    refine List.find?_eq_none.2 fun t ht => ?_
    obtain ⟨ht, hscene⟩ := List.mem_filter.1 ht
    simp [h.toLifecycle.new_of_scene hx ha ht (eq_of_beq hscene)]
  have hsound := h.doom (u := { status := .failed, message }) hx ha rfl rfl
  have hhanded := Sound.handed_setScene s x.id { status := .failed, message }
    ((s.tiles.filter fun t => t.scene == x.id).map (·.id))
  obtain ⟨s', hexec, hsound', hhanded', happends⟩ := exec_failTiles hlate hsound hhanded
    (appends_of_outbox rfl)
  refine ⟨s', ?_, hsound', ⟨_, hhanded'⟩, happends⟩
  unfold failScene
  rw [Work.exec_bind_ok (Work.exec_sceneTiles h.toLegible x.id)]
  simp only [hnone]
  rw [Work.exec_bind_ok (Work.exec_updateScene hx _)]
  exact hexec

/-- An unforced request for a scene is carried out, or rejected without effect. -/
theorem exec_changeScene (h : Sound [] s) (hx : s.scene? x.id = some x) (requested : Status)
    (message : Option String) :
    ∃ s', (changeScene x.id requested message false).exec s =
      .ok ((x.status.unforced requested).isSome, s') ∧ Advances (requested = .failed) s s' := by
  unfold changeScene
  rw [Work.exec_bind_ok (Work.exec_scene h.toLegible hx), Status.transition_unforced]
  cases htransition : x.status.unforced requested with
  | none => exact ⟨s, rfl, advances_of_outbox h (.of_sameRows (.refl s) []) rfl⟩
  | some transition =>
    obtain ⟨s₁, hexec, hadvances⟩ : ∃ s₁,
        (applyToScene x message transition).exec s = .ok ((), s₁) ∧
          Advances (requested = .failed) s s₁ := by
      have ha : x.status.isActive = true := Status.isActive_of_unforced htransition
      revert htransition
      cases transition with
      | finish => exact fun _ => exec_finishScene h hx ha message
      | retry => exact fun _ => exec_retryScene h hx ha message
      | requeue => exact fun _ => exec_requeueScene h hx ha message
      | fail => exact fun he => exec_failScene (Status.eq_failed_of_unforced he) h hx ha message
      | overwrite status => exact fun he => absurd he (Status.unforced_ne_overwrite _ _ _)
    refine ⟨_, ?_, hadvances.refreshAoiStatus x.aoi⟩
    show (applyToScene x message transition >>= fun _ =>
      Work.refreshAoiStatus x.aoi >>= fun _ => pure true).exec s = _
    rw [Work.exec_bind_ok hexec, Work.exec_bind_ok (Work.exec_refreshAoiStatus x.aoi)]
    rfl

end Cascade

end SceneWorkflow
