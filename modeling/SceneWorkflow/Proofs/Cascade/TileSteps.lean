import SceneWorkflow.Proofs.Cascade.Tracking

/-!
# Requests for tiles

In a sound store every unforced request for a tile is carried out to its end. It
leaves a sound store, and the jobs that it queues keep track of their tiles.
-/
namespace SceneWorkflow
namespace Store
variable {s s' s'' : Store} {f t : Tile} {u : StatusUpdate} {late : Prop} {p : Tile → Bool}

/-- What a unit of work makes of a sound store. -/
structure Advances (late : Prop) (s s' : Store) : Prop where
  sound : Sound [] s'
  handed : ∃ failing, Handed failing [] s s'
  appends : Appends late s s'

theorem Advances.of_sameRows (h : Advances late s s') (hsame : SameRows s' s'')
    (happends : Appends late s s'') : Advances late s s'' where
  sound := h.sound.of_sameRows hsame
  handed := by
    obtain ⟨failing, hh⟩ := h.handed
    exact ⟨failing, hh.trans (.of_sameRows hsame [])⟩
  appends := happends

theorem advances_of_outbox (h : Sound [] s') {failing : List Int} (hh : Handed failing [] s s')
    (hout : s'.outbox = s.outbox) : Advances late s s' :=
  ⟨h, ⟨failing, hh⟩, appends_of_outbox hout⟩

theorem Advances.announce (h : Advances late s s') {ts : List Tile}
    (hts : ∀ t ∈ ts, ∃ u, s'.tile? u.id = some u ∧ u.status = .pending ∧
      s'.jobOf? t = s'.jobOf? u) : Advances late s (s'.announce ts) :=
  h.of_sameRows (sameRows_announce s' ts) (h.appends.announce hts)

theorem Advances.refreshAoiStatus (h : Advances late s s') (aoi : String) :
    Advances late s (s'.refreshAoiStatus aoi).2 := by
  have hsame := sameRows_refreshAoiStatus s' aoi
  exact h.of_sameRows hsame (h.appends.step (outbox_refreshAoiStatus s' aoi) fun _ htracks =>
    htracks.of_sameRows hsame)

def started (s : Store) (p : Tile → Bool) : List Tile :=
  (s.tiles.filter p).map fun t => { t with status := .pending }

theorem tile?_of_started (hs : s.Ordered) (ht : t ∈ s.started p) :
    (s.start p).tile? t.id = some t ∧ t.status = .pending := by
  obtain ⟨v, hv, rfl⟩ := List.mem_map.1 ht
  obtain ⟨hv, hp⟩ := List.mem_filter.1 hv
  refine ⟨?_, rfl⟩
  show (s.start p).tile? v.id = _
  rw [tile?_start, hs.tile?_of_mem hv]
  simp [hp]

def setOff (s : Store) (p : Tile → Bool) : Store := (s.start p).announce (s.started p)

theorem sameRows_setOff (s : Store) (p : Tile → Bool) : SameRows (s.start p) (s.setOff p) :=
  sameRows_announce _ _

end Store

namespace Work
open Store
variable {s : Store}

theorem exec_unblockNextTiles (h : s.Legible) (id : Int) :
    (unblockNextTiles id).exec s = .ok (s.started (s.waitsFor id), s.start (s.waitsFor id)) := by
  have hpredicate : (fun t : Tile => t.previous == some id && t.status == .new &&
      (s.scene? t.scene).any fun x => x.status == .done) = s.waitsFor id := by
    funext t
    rw [waitsFor, sceneStatus?]
    cases s.scene? t.scene <;> rfl
  apply (exec_call (.unblockNextTiles id) s).trans
  show s.release _ _ = _
  rw [hpredicate]
  exact h.release _ _

end Work

namespace Cascade
open Store
variable {s : Store} {f : Tile} {late : Prop}

theorem exec_announce (h : s.Legible) (hs : s.Schema) {ts : List Tile}
    (hts : ∀ t ∈ ts, t ∈ s.tiles) : (ts.forM queueTile).exec s = .ok (⟨⟩, s.announce ts) := by
  apply exec_queueTiles h hs
  intro t ht
  have hmem := hts t ht
  exact ⟨hs.scene_exists t hmem, hs.previous_exists t hmem, hs.reference_exists t hmem⟩

theorem exec_announce_started (h : s.Legible) (hs : s.Schema) (p : Tile → Bool) :
    ((s.started p).forM queueTile).exec (s.start p) = .ok (⟨⟩, s.setOff p) :=
  exec_announce (h.start p) (hs.start p) fun _ ht =>
    mem_of_tile? (tile?_of_started hs.toOrdered ht).1

/-- A tile is done, and those that waited for it start. -/
theorem exec_finishTile_eq {message : Option String} {done : Store}
    (hdone : done = s.setTile f.id { status := .done, message }) (hl : done.Legible)
    (hs : done.Schema) (hf : s.tile? f.id = some f) :
    (finishTile f message).exec s = .ok ((), done.setOff (done.waitsFor f.id)) := by
  unfold finishTile
  rw [Work.exec_bind_ok (Work.exec_updateTile hf _), ← hdone,
    Work.exec_bind_ok (Work.exec_unblockNextTiles hl f.id)]
  exact exec_announce_started hl hs _

theorem exec_finishTile (h : Sound [] s) (hf : s.tile? f.id = some f)
    (ha : f.status.isActive = true) (message : Option String) :
    ∃ s', (finishTile f message).exec s = .ok ((), s') ∧ Advances late s s' := by
  have hl := h.toLegible.setTile (u := { status := .done, message }) h.toOrdered hf nofun
  have hs := h.toSchema.setTile hf { status := .done, message }
  have hsound := h.finishTile (u := { status := .done, message }) hf ha rfl rfl rfl
  have hhanded := h.handed_finishTile (u := { status := .done, message }) hf ha rfl
  refine ⟨_, exec_finishTile_eq rfl hl hs hf,
    (advances_of_outbox hsound hhanded rfl).announce fun t ht => ?_⟩
  obtain ⟨hrow, hpending⟩ := tile?_of_started hs.toOrdered ht
  exact ⟨t, hrow, hpending, rfl⟩

theorem exec_handOut_eq {u : StatusUpdate} (hl : (s.setTile f.id u).Legible) (hs : s.Schema)
    (hf : s.tile? f.id = some f) (hclear : u.clearPrevious = false) :
    (do Work.updateTile f.id u; queueTile f).exec s =
      .ok ((), (s.setTile f.id u).announceTile f) := by
  have hschema := hs.setTile hf u
  have hmem := mem_of_tile? (tile?_setTile hf u)
  rw [Work.exec_bind_ok (Work.exec_updateTile hf _)]
  refine exec_queueTile hl hschema (hschema.scene_exists (f.update u) hmem) ?_
    (hschema.reference_exists (f.update u) hmem)
  rw [← f.previous_update hclear]
  exact hschema.previous_exists (f.update u) hmem

theorem exec_handOut (h : Sound [] s) (hf : s.tile? f.id = some f)
    (ha : f.status.isActive = true) {u : StatusUpdate} (hu : u.status = .pending)
    (hclear : u.clearPrevious = false) (hpos : u.consume = true → 0 < f.budget) :
    ∃ s', (do Work.updateTile f.id u; queueTile f).exec s = .ok ((), s') ∧
      Advances late s s' := by
  have hactive : u.status.isActive = true := by
    rw [hu]
    rfl
  have hsound := h.setTile hf ha hactive hclear hpos
  have hhanded := h.handed_setTile hf ha (Status.ne_failed_of_isActive hactive)
  have hqueued : Advances late s ((s.setTile f.id u).announce [f]) := by
    apply (advances_of_outbox hsound hhanded rfl).announce
    intro t ht
    rw [List.mem_singleton.1 ht]
    exact ⟨f.update u, tile?_setTile hf u, hu, (jobOf?_update hclear _ f).symm⟩
  exact ⟨_, exec_handOut_eq hsound.toLegible h.toSchema hf hclear, hqueued⟩

theorem exec_retryTile (h : Sound [] s) (hf : s.tile? f.id = some f)
    (ha : f.status.isActive = true) (message : Option String) :
    ∃ s', (retryTile f message).exec s = .ok ((), s') ∧ Advances late s s' := by
  unfold retryTile
  split
  · next hpos => exact exec_handOut h hf ha rfl rfl fun _ => hpos
  · have hsound := h.setTile (u := { status := .retry, message }) hf ha rfl rfl nofun
    have hhanded := h.handed_setTile (u := { status := .retry, message }) hf ha nofun
    exact ⟨_, Work.exec_updateTile hf _, advances_of_outbox hsound hhanded rfl⟩

theorem exec_requirePreviousDone (h : Sound [] s) (hf : s.tile? f.id = some f)
    (ha : f.status.isActive = true) : (requirePreviousDone f).exec s = .ok ((), s) := by
  have hmem := mem_of_tile? hf
  unfold requirePreviousDone
  split
  · rfl
  · next id hprevious =>
    obtain ⟨p, hp, hdone⟩ := tileStatus?_eq_some.1 (h.previous_done hmem ha hprevious)
    rw [Work.exec_bind_ok (Work.exec_tile h.toLegible hp), if_pos hdone]
    rfl

theorem exec_requeueTile (h : Sound [] s) (hf : s.tile? f.id = some f)
    (ha : f.status.isActive = true) {x : Scene} (hx : s.scene? f.scene = some x)
    (message : Option String) :
    ∃ s', (requeueTile f x.status message false).exec s = .ok ((), s') ∧ Advances late s s' := by
  have hscene := ((h.fits f (mem_of_tile? hf)).scene_of_active ha).1
  rw [sceneStatus?_of_scene? hx] at hscene
  have hdone : (false || x.status == .done) = true := by simpa using hscene
  obtain ⟨s', hexec, hadvances⟩ : ∃ s', (do
      Work.updateTile f.id { status := .pending, message }
      queueTile f).exec s = .ok ((), s') ∧ Advances late s s' :=
    exec_handOut h hf ha rfl rfl (by nofun)
  refine ⟨s', ?_, hadvances⟩
  unfold requeueTile
  rw [Work.exec_bind_ok (exec_requirePreviousDone h hf ha), if_pos hdone]
  exact hexec

/-- A tile that is worked on or doomed fails, and those of its followers start that waited for
nothing else. -/
theorem exec_failTile_of_sound {doomed : List Int} (h : Sound doomed s)
    (hf : s.tile? f.id = some f) (hdue : f.id ∈ doomed ∨ f.status.isActive = true)
    (message : Option String) : (failTile f.id message).exec s =
      .ok ((), (s.failTile f message).announce (s.freed f message)) := by
  have hmem := mem_of_tile? hf
  have hdone := h.toLifecycle.ne_done hmem hdue
  exact exec_failTile h.toLegible h.toSchema hf (h.toLifecycle.previous_ne_self hmem)
    (fun id p hprevious hp => h.toLifecycle.previous_alive hmem hdue hprevious hp)
    fun t ht hp => h.toLifecycle.follower_new hf hdone ht hp

theorem tile?_of_freed (hs : s.Ordered) {message : Option String} {t : Tile}
    (ht : t ∈ s.freed f message) :
    (s.failTile f message).tile? t.id = some t ∧ t.status = .pending := by
  obtain ⟨v, hv, rfl⟩ := List.mem_map.1 ht
  obtain ⟨hv, hfrees⟩ := List.mem_filter.1 hv
  refine ⟨?_, ?_⟩
  · show (s.failTile f message).tile? v.id = _
    rw [tile?_failTile, hs.tile?_of_mem hv]
    rfl
  · rw [failRow_status, if_pos hfrees]

theorem exec_fail (h : Sound [] s) (hf : s.tile? f.id = some f)
    (ha : f.status.isActive = true) (message : Option String) :
    ∃ s', (failTile f.id message).exec s = .ok ((), s') ∧ Advances late s s' := by
  have hdone := Status.ne_done_of_isActive ha
  have hsound : Sound [] (s.failTile f message) :=
    h.failTile hf (.inr ha) (fun id => by simp) .nil message
  have hhanded : Handed [f.id] [] s (s.failTile f message) :=
    .failTile h.toLifecycle h.toSchema hf hdone List.mem_cons_self nofun nofun
  refine ⟨_, exec_failTile_of_sound h hf (.inr ha) message,
    (advances_of_outbox hsound hhanded rfl).announce fun t ht => ?_⟩
  obtain ⟨hrow, hpending⟩ := tile?_of_freed h.toOrdered ht
  exact ⟨t, hrow, hpending, rfl⟩

/-- An unforced request for a tile is carried out, or rejected without effect. -/
theorem exec_changeTile (h : Sound [] s) (hf : s.tile? f.id = some f) (requested : Status)
    (message : Option String) :
    ∃ s', (changeTile f.id requested message false).exec s =
      .ok ((f.status.unforced requested).isSome, s') ∧ Advances late s s' := by
  obtain ⟨x, hx⟩ := Option.isSome_iff_exists.1 (h.scene_exists f (mem_of_tile? hf))
  unfold changeTile
  rw [Work.exec_bind_ok (Work.exec_tile h.toLegible hf),
    Work.exec_bind_ok (Work.exec_known h.toLegible hx), Status.transition_unforced]
  cases htransition : f.status.unforced requested with
  | none =>
    exact ⟨s, rfl, advances_of_outbox h (.of_sameRows (.refl s) []) rfl⟩
  | some transition =>
    obtain ⟨s₁, hexec, hadvances⟩ : ∃ s₁,
        (applyToTile f x.note.status message false transition).exec s = .ok ((), s₁) ∧
          Advances late s s₁ := by
      have ha : f.status.isActive = true := Status.isActive_of_unforced htransition
      revert htransition
      cases transition with
      | finish => exact fun _ => exec_finishTile h hf ha message
      | retry => exact fun _ => exec_retryTile h hf ha message
      | requeue => exact fun _ => exec_requeueTile h hf ha hx message
      | fail => exact fun _ => exec_fail h hf ha message
      | overwrite status => exact fun he => absurd he (Status.unforced_ne_overwrite _ _ _)
    refine ⟨_, ?_, hadvances.refreshAoiStatus x.aoi⟩
    show (applyToTile f x.note.status message false transition >>= fun _ =>
      Work.refreshAoiStatus x.aoi >>= fun _ => pure true).exec s = _
    rw [Work.exec_bind_ok hexec, Work.exec_bind_ok (Work.exec_refreshAoiStatus x.aoi)]
    rfl

end Cascade

end SceneWorkflow
