import SceneWorkflow.Proofs.Engine.Aggregates
import SceneWorkflow.Proofs.Engine.Readiness

/-!
# Completion

Without force, the status of an area tells how far the area is. As long as a tile is
new, something in its area is worked on that it waits for, so that no area gets stuck.
-/
namespace SceneWorkflow

namespace Status

theorem isTerminal_of_weight_le {a b : Status} (h : a.weight ≤ b.weight)
    (hb : b.isTerminal = true) : a.isTerminal = true := by
  revert h hb
  cases a <;> cases b <;> decide

theorem isActive_of_weight_le {a b : Status} (h : a.weight ≤ b.weight)
    (ha : a.isActive = true) : b.isActive = true := by
  revert h ha
  cases a <;> cases b <;> decide

theorem isTerminal_eq_true {status : Status} :
    status.isTerminal = true ↔ status = .done ∨ status = .failed := by
  cases status <;> decide

theorem isActive_eq_true {status : Status} :
    status.isActive = true ↔ status = .pending ∨ status = .retry := by
  cases status <;> decide

theorem not_isTerminal_of_isActive {status : Status} (h : status.isActive = true) :
    ¬ status.isTerminal = true := by
  revert h
  cases status <;> decide

end Status

namespace Store
variable {s : Store} {t : Tile} {x : Scene} {aoi : String} {status : Status}

def tilesOf (s : Store) (aoi : String) : List Tile := s.tilesWhere fun x => x.aoi == aoi

structure Settled (s : Store) (aoi : String) : Prop where
  scenes : ∀ x ∈ s.scenesOf aoi, x.status.isTerminal = true
  tiles : ∀ t ∈ s.tilesOf aoi, t.status.isTerminal = true

/-- Some scene or tile of an area is worked on, or parked until it is handed out again. -/
def Busy (s : Store) (aoi : String) : Prop :=
  (∃ x ∈ s.scenesOf aoi, x.status.isActive = true) ∨
    ∃ t ∈ s.tilesOf aoi, t.status.isActive = true

theorem Busy.not_settled (h : s.Busy aoi) : ¬ s.Settled aoi := by
  intro hsettled
  rcases h with ⟨x, hx, hactive⟩ | ⟨t, ht, hactive⟩
  · exact Status.not_isTerminal_of_isActive hactive (hsettled.scenes x hx)
  · exact Status.not_isTerminal_of_isActive hactive (hsettled.tiles t ht)

theorem mem_scenesOf : x ∈ s.scenesOf aoi ↔ x ∈ s.scenes ∧ x.aoi = aoi := by
  rw [scenesOf, List.mem_filter, beq_iff_eq]

theorem mem_tilesOf : t ∈ s.tilesOf aoi ↔ t ∈ s.tiles ∧ s.aoiOf? t = some aoi := by
  rw [tilesOf, tilesWhere, List.mem_filter, aoiOf?, Option.map_eq_some_iff, Option.any_eq_true]
  simp only [beq_iff_eq]

theorem exists_scene_of_mem_tilesOf (h : t ∈ s.tilesOf aoi) :
    ∃ x ∈ s.scenesOf aoi, s.scene? t.scene = some x := by
  obtain ⟨x, hx, hname⟩ := Option.map_eq_some_iff.1 (mem_tilesOf.1 h).2
  exact ⟨x, mem_scenesOf.2 ⟨mem_of_scene? hx, hname⟩, hx⟩

theorem Busy.scenes_ne_nil (h : s.Busy aoi) : s.scenesOf aoi ≠ [] := by
  rcases h with ⟨x, hx, -⟩ | ⟨t, ht, -⟩
  · exact List.ne_nil_of_mem hx
  · obtain ⟨x, hx, -⟩ := exists_scene_of_mem_tilesOf ht
    exact List.ne_nil_of_mem hx

theorem mem_tilesOfDone (ht : t ∈ s.tilesOf aoi) (hdone : s.sceneStatus? t.scene = some .done) :
    t ∈ s.tilesOfDone aoi := by
  obtain ⟨hmem, harea⟩ := mem_tilesOf.1 ht
  obtain ⟨x, hx, hname⟩ := Option.map_eq_some_iff.1 harea
  rw [sceneStatus?_of_scene? hx, Option.some.injEq] at hdone
  refine List.mem_filter.2 ⟨hmem, ?_⟩
  simp [hx, hname, hdone]

theorem mem_tilesOf_of_done (ht : t ∈ s.tilesOfDone aoi) : t ∈ s.tilesOf aoi := by
  obtain ⟨hmem, hany⟩ := List.mem_filter.1 ht
  refine List.mem_filter.2 ⟨hmem, ?_⟩
  obtain ⟨x, hx, hcond⟩ := (Option.any_eq_true _ _).1 hany
  rw [hx]
  exact (Bool.and_eq_true_iff.1 hcond).1

/-! ### What keeps tiles waiting -/

/-- A new tile waits for its scene, or for the tile that it follows. -/
theorem Sound.waits (h : Sound [] s) (hforest : Forest s) (ht : t ∈ s.tilesOf aoi)
    (hnew : t.status = .new) :
    (∃ x ∈ s.scenesOf aoi, x.status.isActive = true) ∨
      ∃ p ∈ s.tilesOf aoi, t.previous = some p.id ∧
        (p.status = .new ∨ p.status.isActive = true) := by
  obtain ⟨hmem, harea⟩ := mem_tilesOf.1 ht
  obtain ⟨x, hx, hscene⟩ := exists_scene_of_mem_tilesOf ht
  have hfits := h.fits t hmem
  rw [sceneStatus?_of_scene? hscene, eq_false (List.not_mem_nil (a := t.id))] at hfits
  rcases hfits.new_iff.1 hnew with hpending | hretry | ⟨-, st, hst, hwaits⟩
  · exact .inl ⟨x, hx, Status.isActive_eq_true.2 (.inl (Option.some.inj hpending))⟩
  · exact .inl ⟨x, hx, Status.isActive_eq_true.2 (.inr (Option.some.inj hretry))⟩
  · rw [previousStatus?_eq] at hst
    obtain ⟨p, hp, rfl⟩ := Option.map_eq_some_iff.1 hst
    obtain ⟨id, hprevious, hp⟩ := Option.bind_eq_some_iff.1 hp
    obtain rfl := tile?_id hp
    have hparea := hforest.same_area t hmem p (mem_of_tile? hp) (.inl hprevious)
    refine .inr ⟨p, mem_tilesOf.2 ⟨mem_of_tile? hp, hparea.trans harea⟩, hprevious, ?_⟩
    exact hwaits.imp_right Status.isActive_eq_true.2

/-- What a new tile waits for in the end, along the chain that it follows, is worked on in the same
area. -/
theorem Sound.busy_of_new (h : Sound [] s) (hforest : Forest s) (ht : t ∈ s.tilesOf aoi)
    (hnew : t.status = .new) : s.Busy aoi := by
  obtain ⟨chain, htrail⟩ := hforest.exists_trail (mem_tilesOf.1 ht).1
  induction chain generalizing t with
  | nil =>
    rcases h.waits hforest ht hnew with hscene | ⟨p, -, hprevious, -⟩
    · exact .inl hscene
    · rw [hprevious] at htrail
      cases htrail
  | cons id chain ih =>
    rcases h.waits hforest ht hnew with hscene | ⟨p, hp, hprevious, hpnew | hactive⟩
    · exact .inl hscene
    · rw [hprevious] at htrail
      cases htrail with
      | step hfound hrest =>
        cases hfound.symm.trans (h.tile?_of_mem (mem_tilesOf.1 hp).1)
        exact ih hp hpnew hrest
    · exact .inr ⟨p, hp, hactive⟩

/-! ### How far an area is -/

/-- The tiles of a failed scene have failed. -/
theorem Sound.failed_with_scene (h : Sound [] s) (ht : t ∈ s.tiles)
    (hfailed : s.sceneStatus? t.scene = some .failed) : t.status = .failed := by
  have hfits := h.fits t ht
  rw [hfailed] at hfits
  exact hfits.of_scene_failed.resolve_right List.not_mem_nil

/-- Once all scenes are done or have failed, only the tiles of those that are done count. -/
theorem Sound.settled (h : Sound [] s)
    (hscenes : ∀ x ∈ s.scenesOf aoi, x.status.isTerminal = true)
    (htiles : ∀ t ∈ s.tilesOfDone aoi, t.status.isTerminal = true) : s.Settled aoi := by
  refine ⟨hscenes, fun t ht => ?_⟩
  obtain ⟨x, hx, hscene⟩ := exists_scene_of_mem_tilesOf ht
  rcases Status.isTerminal_eq_true.1 (hscenes x hx) with hdone | hfailed
  · exact htiles t (mem_tilesOfDone ht (hdone ▸ sceneStatus?_of_scene? hscene))
  · rw [h.failed_with_scene (mem_tilesOf.1 ht).1 (hfailed ▸ sceneStatus?_of_scene? hscene)]
    rfl

/-- What a new tile waits for outweighs it, so that new tiles are never the heaviest. -/
theorem Sound.heaviest_ne_new (h : Sound [] s) (hforest : Forest s)
    (hscenes : ∀ x ∈ s.scenesOf aoi, x.status.isTerminal = true) :
    ¬ Status.Heaviest ((s.tilesOfDone aoi).map (·.status)) .new := by
  rintro ⟨hoccurs, hheaviest⟩
  obtain ⟨t, ht, hnew⟩ := List.mem_map.1 hoccurs
  rcases h.busy_of_new hforest (mem_tilesOf_of_done ht) hnew with
    ⟨x, hx, hactive⟩ | ⟨p, hp, hactive⟩
  · exact Status.not_isTerminal_of_isActive hactive (hscenes x hx)
  · have hdone := ((h.fits p (mem_tilesOf.1 hp).1).scene_of_active hactive).1
    have hweight := hheaviest _ (List.mem_map_of_mem (mem_tilesOfDone hp hdone))
    cases Status.isActive_of_weight_le hweight hactive

/-- Scenes that are no heavier than one that has failed have failed, and their tiles with them. -/
theorem Sound.settled_of_failed (h : Sound [] s)
    (hheaviest : ∀ x ∈ s.scenesOf aoi, x.status.weight ≤ Status.failed.weight) :
    s.Settled aoi := by
  have hfailed : ∀ x ∈ s.scenesOf aoi, x.status = .failed := by
    intro x hx
    have hweight := hheaviest x hx
    revert hweight
    cases x.status <;> decide
  refine ⟨fun x hx => by rw [hfailed x hx]; rfl, fun t ht => ?_⟩
  obtain ⟨x, hx, hscene⟩ := exists_scene_of_mem_tilesOf ht
  rw [h.failed_with_scene (mem_tilesOf.1 ht).1 (hfailed x hx ▸ sceneStatus?_of_scene? hscene)]
  rfl

theorem Sound.stands_of_tiles (h : Sound [] s) (hforest : Forest s)
    (hscenes : ∀ x ∈ s.scenesOf aoi, x.status.isTerminal = true)
    (htiles : Status.Heaviest ((s.tilesOfDone aoi).map (·.status)) status) :
    status.isActive = true ∧ s.Busy aoi ∨ status.isTerminal = true ∧ s.Settled aoi := by
  obtain ⟨t, ht, hoccurs⟩ := List.mem_map.1 htiles.1
  cases status with
  | new => exact absurd htiles (h.heaviest_ne_new hforest hscenes)
  | pending | retry => exact .inl ⟨rfl, .inr ⟨t, mem_tilesOf_of_done ht, by rw [hoccurs]; rfl⟩⟩
  | done | failed =>
    refine .inr ⟨rfl, h.settled hscenes fun u hu => ?_⟩
    exact Status.isTerminal_of_weight_le (htiles.2 _ (List.mem_map_of_mem hu)) rfl

/-- An area is empty, busy or settled, and its status tells which. -/
theorem Sound.stands (h : Sound [] s) (hforest : Forest s) (hcalls : s.CallsFor aoi status) :
    status = .new ∧ s.scenesOf aoi = [] ∨
    s.scenesOf aoi ≠ [] ∧
      (status.isActive = true ∧ s.Busy aoi ∨ status.isTerminal = true ∧ s.Settled aoi) := by
  obtain ⟨hnone, rfl⟩ | ⟨heaviest, ⟨hoccurs, hheaviest⟩, hstatus⟩ := hcalls
  · exact .inl ⟨rfl, hnone⟩
  obtain ⟨x, hx, rfl⟩ := List.mem_map.1 hoccurs
  refine .inr ⟨List.ne_nil_of_mem hx, ?_⟩
  have hlighter : ∀ y ∈ s.scenesOf aoi, y.status.weight ≤ x.status.weight := fun y hy =>
    hheaviest _ (List.mem_map_of_mem hy)
  obtain ⟨hother, rfl⟩ | ⟨hdone, hrest⟩ := hstatus
  · cases hcase : x.status with
    | new => exact absurd hcase (h.scene_taken_up x (mem_scenesOf.1 hx).1)
    | pending | retry => exact .inl ⟨rfl, .inl ⟨x, hx, by rw [hcase]; rfl⟩⟩
    | done => exact absurd hcase hother
    | failed => exact .inr ⟨rfl, h.settled_of_failed (hcase ▸ hlighter)⟩
  · have hscenes : ∀ y ∈ s.scenesOf aoi, y.status.isTerminal = true := fun y hy =>
      Status.isTerminal_of_weight_le (hlighter y hy) (hdone ▸ rfl)
    obtain ⟨hnone, rfl⟩ | htiles := hrest
    · refine .inr ⟨rfl, h.settled hscenes fun t ht => ?_⟩
      rw [hnone] at ht
      cases ht
    · exact h.stands_of_tiles hforest hscenes htiles

end Store

open Store

/-- Without force, the status of an area tells how far it is. It is new as long as there is no scene,
done or failed once there is one and everything has ended, and pending or parked in between. In
between, and so whenever a tile is new, something in the area is worked on. -/
theorem Reachable.completion {s : Store} (h : Reachable s) {aoi : String} {status : Status}
    (hstatus : s.aois.find? aoi = some status) :
    (status = .new ↔ s.scenesOf aoi = []) ∧
    (status = .done ∨ status = .failed ↔ s.scenesOf aoi ≠ [] ∧ s.Settled aoi) ∧
    (status = .pending ∨ status = .retry ↔ s.scenesOf aoi ≠ [] ∧ ¬ s.Settled aoi) ∧
    (status = .pending ∨ status = .retry → s.Busy aoi) ∧
    ∀ t ∈ s.tilesOf aoi, t.status = .new →
      (status = .pending ∨ status = .retry) ∧ s.Busy aoi := by
  have hforest := h.attainable.forest
  have hcalls : s.CallsFor aoi status := by
    rw [h.attainable.fresh aoi status hstatus]
    exact s.callsFor_aggregate aoi
  have hwaits : ∀ t ∈ s.tilesOf aoi, t.status = .new → s.Busy aoi := fun t ht hnew =>
    h.sound.busy_of_new hforest ht hnew
  rcases h.sound.stands hforest hcalls with
    ⟨rfl, hnone⟩ | ⟨hsome, ⟨hactive, hbusy⟩ | ⟨hterminal, hsettled⟩⟩
  · have hidle : ¬ s.Busy aoi := fun hbusy => hbusy.scenes_ne_nil hnone
    exact ⟨iff_of_true rfl hnone, iff_of_false nofun fun hboth => hboth.1 hnone,
      iff_of_false nofun fun hboth => hboth.1 hnone, nofun,
      fun t ht hnew => absurd (hwaits t ht hnew) hidle⟩
  · have hworked := Status.isActive_eq_true.1 hactive
    refine ⟨iff_of_false ?_ hsome, iff_of_false ?_ fun hboth => hbusy.not_settled hboth.2,
      iff_of_true hworked ⟨hsome, hbusy.not_settled⟩, fun _ => hbusy, fun _ _ _ => ⟨hworked, hbusy⟩⟩
    · rintro rfl
      cases hactive
    · exact fun hended =>
        Status.not_isTerminal_of_isActive hactive (Status.isTerminal_eq_true.2 hended)
  · have hended := Status.isTerminal_eq_true.1 hterminal
    have hidle : ¬ s.Busy aoi := fun hbusy => hbusy.not_settled hsettled
    have hother : ¬ (status = .pending ∨ status = .retry) := fun hworked =>
      Status.not_isTerminal_of_isActive (Status.isActive_eq_true.2 hworked) hterminal
    refine ⟨iff_of_false ?_ hsome, iff_of_true hended ⟨hsome, hsettled⟩,
      iff_of_false hother fun hboth => hboth.2 hsettled, fun hworked => absurd hworked hother,
      fun t ht hnew => absurd (hwaits t ht hnew) hidle⟩
    rintro rfl
    cases hterminal

/-- One of the three tiles has failed, one is worked on and one is new. -/
theorem completion_threeInARow :
    Reachable threeInARow.store ∧ threeInARow.store.aois.find? "north" = some .pending ∧
      (threeInARow.store.tilesOf "north").map (·.status) = [.failed, .pending, .new] ∧
      threeInARow.store.Busy "north" ∧ ¬ threeInARow.store.Settled "north" := by
  have hreach : Reachable threeInARow.store := Reachable.empty.after (by decide)
  have hstatus : threeInARow.store.aois.find? "north" = some .pending := by decide +kernel
  obtain ⟨-, -, hworked, hbusy, -⟩ := hreach.completion hstatus
  exact ⟨hreach, hstatus, by decide +kernel, hbusy (.inl rfl), (hworked.1 (.inl rfl)).2⟩

end SceneWorkflow
