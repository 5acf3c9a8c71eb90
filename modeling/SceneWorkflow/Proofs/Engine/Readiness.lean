import SceneWorkflow.Proofs.Engine.Soundness

/-!
# Readiness

In every store that comes about without force, a tile is new exactly as long as its
scene or its predecessor keeps it waiting. No tile starts too early, and none that
could start is left behind.
-/
namespace SceneWorkflow
namespace Store
variable {s : Store} {t : Tile}

theorem previousStatus?_eq (s : Store) (t : Tile) :
    s.previousStatus? t = (t.previous.bind s.tile?).map (·.status) := by
  rw [previousStatus?, Option.map_bind]
  rfl

/-- A tile that is not doomed is new exactly as long as something keeps it waiting. -/
theorem Fits.new_iff {scene previous : Option Status} {st : Status}
    (h : Fits False scene previous st) : st = .new ↔
      scene = some .pending ∨ scene = some .retry ∨
        scene = some .done ∧ ∃ p, previous = some p ∧ (p = .new ∨ p = .pending ∨ p = .retry) := by
  constructor
  · rintro rfl
    obtain ⟨hfailed, ⟨hdead, -⟩ | ⟨-, hwait⟩⟩ := h
    · exact hdead.elim
    · refine hwait.imp_right fun hwait => hwait.imp_right ?_
      rintro ⟨hscene, hnone, hdone⟩
      refine ⟨hscene, ?_⟩
      cases previous with
      | none => exact absurd rfl hnone
      | some p =>
        refine ⟨p, rfl, ?_⟩
        cases p with
        | new => exact .inl rfl
        | pending => exact .inr (.inl rfl)
        | retry => exact .inr (.inr rfl)
        | done => exact absurd rfl hdone
        | failed => exact absurd rfl hfailed
  · rintro (rfl | rfl | ⟨rfl, p, rfl, hp⟩)
    · exact h.new_of_scene rfl
    · exact h.new_of_scene rfl
    · apply h.new_of_previous
      rcases hp with rfl | rfl | rfl <;> nofun

/-- A tile that has started has nothing before it that is not done. -/
theorem Fits.of_started {dead : Prop} {scene previous : Option Status} {st : Status}
    (h : Fits dead scene previous st) (hst : st = .pending ∨ st = .retry ∨ st = .done) :
    scene = some .done ∧ (previous = none ∨ previous = some .done) := by
  rcases hst with rfl | rfl | rfl <;> exact ⟨h.2.1, h.2.2⟩

end Store

open Store

/-- Where a tile stands is decided by where its scene and the tile it follows stand. -/
theorem Reachable.readiness {s : Store} (h : Reachable s) {t : Tile} (ht : t ∈ s.tiles) :
    ∃ x, s.scene? t.scene = some x ∧
      (t.status = .new ↔ x.status = .pending ∨ x.status = .retry ∨
        x.status = .done ∧ ∃ p, t.previous.bind s.tile? = some p ∧
          (p.status = .new ∨ p.status = .pending ∨ p.status = .retry)) ∧
      (t.status = .pending ∨ t.status = .retry ∨ t.status = .done →
        x.status = .done ∧
          (t.previous = none ∨ ∃ p, t.previous.bind s.tile? = some p ∧ p.status = .done)) ∧
      (x.status = .failed → t.status = .failed) := by
  have hs := h.sound
  obtain ⟨x, hx⟩ := Option.isSome_iff_exists.1 (hs.scene_exists t ht)
  have hnone := previousStatus?_eq_none hs.toSchema ht
  have hfits := hs.fits t ht
  rw [sceneStatus?_of_scene? hx, eq_false (List.not_mem_nil (a := t.id))] at hfits
  refine ⟨x, hx, ?_, ?_, ?_⟩
  · rw [hfits.new_iff]
    simp only [Option.some.injEq, previousStatus?_eq, Option.map_eq_some_iff]
    refine or_congr_right (or_congr_right (and_congr_right fun _ => ?_))
    constructor
    · rintro ⟨_, ⟨p, hp, rfl⟩, hwait⟩
      exact ⟨p, hp, hwait⟩
    · rintro ⟨p, hp, hwait⟩
      exact ⟨p.status, ⟨p, hp, rfl⟩, hwait⟩
  · intro hstarted
    obtain ⟨hscene, hprevious⟩ := hfits.of_started hstarted
    refine ⟨Option.some.inj hscene, hprevious.imp hnone.1 fun hdone => ?_⟩
    rw [previousStatus?_eq] at hdone
    exact Option.map_eq_some_iff.1 hdone
  · intro hfailed
    rw [hfailed] at hfits
    exact hfits.of_scene_failed.resolve_right not_false

/-- Of three tiles in a row the first has failed, so that the second has started and the third waits
for it. -/
def threeInARow : World Recorder :=
  World.after { sink := {} }
    [.createAoi "north",
      .ingestScene "north" (.ofTiles "north" "s1"
        [("a", {}), ("b", { previous := some ⟨"s1", "a"⟩ }),
          ("c", { previous := some ⟨"s1", "b"⟩ })]),
      .updateStatus .scene 1 .done none false,
      .updateStatus .tile 1 .failed none false]

theorem readiness_threeInARow :
    Reachable threeInARow.store ∧ ∃ t ∈ threeInARow.store.tiles, t.id = 3 ∧ t.status = .new ∧
      ∃ x, threeInARow.store.scene? t.scene = some x ∧
        (x.status = .pending ∨ x.status = .retry ∨
          x.status = .done ∧ ∃ p, t.previous.bind threeInARow.store.tile? = some p ∧
            (p.status = .new ∨ p.status = .pending ∨ p.status = .retry)) := by
  have hreach : Reachable threeInARow.store := Reachable.empty.after (by decide)
  have hrow : ∃ t ∈ threeInARow.store.tiles, t.id = 3 ∧ t.status = .new := by decide +kernel
  obtain ⟨t, ht, hid, hnew⟩ := hrow
  obtain ⟨x, hx, hiff, -⟩ := hreach.readiness ht
  exact ⟨hreach, t, ht, hid, hnew, x, hx, hiff.1 hnew⟩

end SceneWorkflow
