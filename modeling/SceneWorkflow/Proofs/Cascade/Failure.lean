import SceneWorkflow.Cascade.Tile
import SceneWorkflow.Proofs.Cascade.Jobs

/-!
# The failure of a tile

What the failure of one tile makes of the store, as a rewriting of all tiles at
once, and that the cascade carries out just that if it finds nothing amiss.
-/
namespace SceneWorkflow
namespace Store
variable {s : Store} {f t : Tile} {message : Option String}

def inLiveScene (s : Store) (t : Tile) : Bool := s.sceneStatus? t.scene != some .failed

/-- The tile that takes over from a failing one that is compared with none: the first of those that
follow it, else the first of those compared with it, in each case among the tiles that go on. -/
def heir? (s : Store) (f : Tile) : Option Int :=
  if f.reference.isSome then none
  else
    (((s.tiles.filter fun t => t.previous == some f.id).find? s.inLiveScene).map (·.id)).or
      (((s.tiles.filter fun t => t.reference == some f.id).find? fun t =>
        t.id != f.id && t.status != .failed && s.inLiveScene t).map (·.id))

/-- Whether a tile waits for nothing but a failing one. -/
def frees (s : Store) (f t : Tile) : Bool :=
  t.previous == some f.id && f.previous.all (fun id => s.tileStatus? id == some .done) &&
    s.sceneStatus? t.scene == some .done

/-- A failing tile fails, and those that follow it follow its predecessor. -/
def detachRow (f : Tile) (message : Option String) (t : Tile) : Tile :=
  { t with
    status := if t.id = f.id then .failed else t.status
    message := if t.id = f.id then message.getD t.message else t.message
    previous :=
      if t.id = f.id then none else if t.previous = some f.id then f.previous else t.previous }

def spliceRow (s : Store) (f : Tile) (message : Option String) (t : Tile) : Tile :=
  handOverRow f.id (s.heir? f) (detachRow f message t)

def failRow (s : Store) (f : Tile) (message : Option String) (t : Tile) : Tile :=
  { s.spliceRow f message t with
    status := if s.frees f t then .pending else (s.spliceRow f message t).status }

def failTile (s : Store) (f : Tile) (message : Option String) : Store :=
  s.mapTiles (s.failRow f message)

def freed (s : Store) (f : Tile) (message : Option String) : List Tile :=
  (s.tiles.filter (s.frees f)).map (s.failRow f message)

def detach (s : Store) (f : Tile) (message : Option String) : Store :=
  s.mapTiles (detachRow f message)

/-- The store after the comparisons with a failing tile have been handed over, too. -/
def splice (s : Store) (f : Tile) (message : Option String) : Store :=
  s.mapTiles (s.spliceRow f message)

theorem splice_eq (s : Store) (f : Tile) (message : Option String) :
    (s.detach f message).mapTiles (handOverRow f.id (s.heir? f)) = s.splice f message :=
  mapTiles_mapTiles s _ _

/-- Without an heir nothing is handed over. -/
theorem splice_of_none (h : s.heir? f = none) : s.splice f message = s.detach f message := by
  rw [← splice_eq, h]
  exact congrArg (fun ts => { s.detach f message with tiles := ts }) (List.map_id _)

theorem detach_eq (s : Store) (f : Tile) (message : Option String) :
    (s.setTile f.id { status := .failed, message, clearPrevious := true }).modifyTiles
      (·.previous == some f.id) (fun t => { t with previous := f.previous }) =
      s.detach f message := by
  rw [setTile, modifyTiles_eq_mapTiles, modifyTiles_eq_mapTiles, mapTiles_mapTiles, detach]
  congr 1
  funext t
  by_cases hid : t.id = f.id
  · simp [detachRow, hid, Tile.update]
  · by_cases hp : t.previous = some f.id <;> simp [detachRow, hid, hp]

theorem followers_of_failed (hs : s.Ordered) (hf : s.tile? f.id = some f)
    (hself : f.previous ≠ some f.id) :
    (s.setTile f.id { status := .failed, message, clearPrevious := true }).followers f.id =
      s.followers f.id := by
  have hrow : ∀ t ∈ s.tiles, t.id = f.id → t = f :=
    fun t ht hid => hs.eq_of_id ht (mem_of_tile? hf) hid
  unfold followers setTile modifyTiles
  dsimp only
  rw [List.filter_map, List.map_map]
  have hfilter : s.tiles.filter ((fun t => t.previous == some f.id) ∘ fun t =>
      if (t.id == f.id) = true then
        t.update { status := .failed, message, clearPrevious := true } else t) =
      s.tiles.filter fun t => t.previous == some f.id := by
    apply List.filter_congr
    intro t ht
    by_cases hid : t.id = f.id
    · rw [hrow t ht hid]
      simp [Tile.update, hself]
    · simp [hid]
  rw [hfilter]
  apply List.map_congr_left
  intro t _
  by_cases hid : t.id = f.id <;> simp [hid, Tile.update]

/-- The heir is another tile that goes on. It follows the failing tile or is compared with it. -/
theorem heir?_eq_some {id : Int} (hs : s.Ordered) (hf : s.tile? f.id = some f)
    (hself : f.previous ≠ some f.id) (h : s.heir? f = some id) :
    f.reference = none ∧ ∃ t ∈ s.tiles, t.id = id ∧ id ≠ f.id ∧ s.inLiveScene t = true ∧
      (t.previous = some f.id ∨ t.reference = some f.id ∧ t.status ≠ .failed) := by
  unfold heir? at h
  split at h
  · cases h
  · next hnone =>
    refine ⟨by simpa using hnone, ?_⟩
    rcases Option.or_eq_some_iff.1 h with h | ⟨-, h⟩
    · obtain ⟨t, hfind, rfl⟩ := Option.map_eq_some_iff.1 h
      obtain ⟨ht, hfollows⟩ := List.mem_filter.1 (List.mem_of_find?_eq_some hfind)
      have hprevious : t.previous = some f.id := by simpa using hfollows
      refine ⟨t, ht, rfl, ?_, List.find?_some hfind, .inl hprevious⟩
      intro hid
      rw [hs.eq_of_id ht (mem_of_tile? hf) hid] at hprevious
      exact hself hprevious
    · obtain ⟨t, hfind, rfl⟩ := Option.map_eq_some_iff.1 h
      obtain ⟨ht, hcompared⟩ := List.mem_filter.1 (List.mem_of_find?_eq_some hfind)
      have hgood := List.find?_some hfind
      simp only [Bool.and_eq_true, bne_iff_ne, ne_eq] at hgood
      exact ⟨t, ht, rfl, hgood.1.1, hgood.2, .inr ⟨by simpa using hcompared, hgood.1.2⟩⟩

/-- If there is no heir, only tiles that do not go on are compared with a failing tile that is
compared with none. -/
theorem heir?_eq_none (h : s.heir? f = none) (hnone : f.reference = none) (ht : t ∈ s.tiles)
    (href : t.reference = some f.id) (hid : t.id ≠ f.id) (hlive : t.status ≠ .failed) :
    s.inLiveScene t = false := by
  unfold heir? at h
  rw [hnone] at h
  obtain ⟨-, h⟩ := Option.or_eq_none_iff.1 h
  have hnot := List.find?_eq_none.1 (Option.map_eq_none_iff.1 h) t
    (List.mem_filter.2 ⟨ht, by simpa using href⟩)
  simpa [hid, hlive] using hnot

/-- The election among the tiles of the store in which the failing tile is detached already. -/
theorem heir?_of_detach (hnone : f.reference = none) :
    ((((s.tiles.filter fun t => t.previous == some f.id).map (detachRow f message)).find?
        (s.detach f message).inLiveScene).map (·.id)).or
      ((((s.detach f message).tiles.filter fun t => t.reference == some f.id).find? fun t =>
        t.status != .failed && (s.detach f message).inLiveScene t).map (·.id)) = s.heir? f := by
  have htiles : (s.detach f message).tiles = s.tiles.map (detachRow f message) := rfl
  have hfirst : (s.detach f message).inLiveScene ∘ detachRow f message = s.inLiveScene := rfl
  have hid : (fun t : Tile => t.id) ∘ detachRow f message = fun t => t.id := rfl
  have hcompared : (fun t : Tile => t.reference == some f.id) ∘ detachRow f message =
      fun t => t.reference == some f.id := rfl
  have hsecond : (fun t : Tile => t.status != .failed && (s.detach f message).inLiveScene t) ∘
      detachRow f message = fun t => t.id != f.id && t.status != .failed && s.inLiveScene t := by
    funext t
    show ((if t.id = f.id then .failed else t.status) != .failed && s.inLiveScene t) = _
    by_cases hid : t.id = f.id
    · simp [hid]
    · have hne : (t.id != f.id) = true := bne_iff_ne.2 hid
      simp [hid, hne]
  rw [htiles, List.filter_map, List.find?_map, List.find?_map, Option.map_map, Option.map_map,
    hfirst, hid, hcompared, hsecond, heir?, hnone]
  rfl

end Store

namespace Cascade
open Store
variable {s : Store} {f t : Tile} {message : Option String}

theorem exec_detach (hs : s.Schema) (hf : s.tile? f.id = some f)
    (hself : f.previous ≠ some f.id) :
    (do Work.updateTile f.id { status := .failed, message, clearPrevious := true }
        Work.reparentNextTiles f.id f.previous).exec s =
      .ok (s.followers f.id, s.detach f message) := by
  rw [Work.exec_bind_ok (Work.exec_updateTile hf _), Work.exec_reparentNextTiles,
    followers_of_failed hs.toOrdered hf hself, detach_eq]
  rw [setTile, modifyTiles_eq_mapTiles, hasLinked_mapTiles]
  · exact hs.previous_exists f (mem_of_tile? hf)
  · intro t
    split <;> rfl

/-- A tile whose predecessor goes on, or fails with it, may fail. -/
theorem exec_requirePreviousAlive (h : s.Legible) (hs : s.Schema) (hf : f ∈ s.tiles)
    (halive : ∀ id p, f.previous = some id → s.tile? id = some p →
      p.status ≠ .failed ∧ (p.scene = f.scene ∨ s.sceneStatus? p.scene ≠ some .failed)) :
    (requirePreviousAlive f).exec s = .ok ((), s) := by
  have hlinked := hs.previous_exists f hf
  unfold requirePreviousAlive
  split
  · rfl
  · next id hprevious =>
    rw [hprevious] at hlinked
    obtain ⟨p, hp⟩ := Option.isSome_iff_exists.1 hlinked
    obtain ⟨x, hx⟩ := Option.isSome_iff_exists.1 (hs.scene_exists p (mem_of_tile? hp))
    obtain ⟨hstatus, hscene⟩ := halive id p hprevious hp
    rw [sceneStatus?_of_scene? hx] at hscene
    have hgood : ¬ (p.scene ≠ f.scene ∧ x.note.status = .failed) := by
      rintro ⟨hne, hfailed⟩
      rcases hscene with hscene | hscene
      · exact hne hscene
      · exact hscene (congrArg some hfailed)
    rw [Work.exec_bind_ok (Work.exec_tile h hp), if_neg hstatus,
      Work.exec_bind_ok (Work.exec_known h hx), if_neg hgood]
    rfl

/-! ### Electing an heir -/

theorem exec_firstInLiveScene (h : s.Legible) (hs : s.Schema) {ts : List Tile}
    (hts : ∀ t ∈ ts, s.tile? t.id = some t) :
    (firstInLiveScene (ts.map (·.id))).exec s =
      .ok ((ts.find? s.inLiveScene).map (·.id), s) := by
  induction ts with
  | nil => rfl
  | cons t ts ih =>
    have ht := hts t List.mem_cons_self
    obtain ⟨x, hx⟩ := Option.isSome_iff_exists.1 (hs.scene_exists t (mem_of_tile? ht))
    have hlive : s.inLiveScene t = (x.status != .failed) := by
      rw [inLiveScene, sceneStatus?_of_scene? hx]
      rfl
    show (firstInLiveScene (t.id :: ts.map (·.id))).exec s = _
    unfold firstInLiveScene
    rw [Work.exec_bind_ok (Work.exec_tile h ht), Work.exec_bind_ok (Work.exec_known h hx),
      List.find?_cons, hlive]
    by_cases hstatus : x.status = .failed
    · rw [if_pos (show x.note.status = .failed from hstatus), hstatus]
      exact ih fun u hu => hts u (List.mem_cons_of_mem _ hu)
    · rw [if_neg (show ¬ x.note.status = .failed from hstatus), bne_iff_ne.2 hstatus]
      rfl

theorem exec_firstLive (h : s.Legible) {ts : List Tile}
    (hts : ∀ t ∈ ts, (s.scene? t.scene).isSome) :
    (firstLive ts).exec s =
      .ok ((ts.find? fun t => t.status != .failed && s.inLiveScene t).map (·.id), s) := by
  induction ts with
  | nil => rfl
  | cons t ts ih =>
    have hrest := ih fun u hu => hts u (List.mem_cons_of_mem _ hu)
    obtain ⟨x, hx⟩ := Option.isSome_iff_exists.1 (hts t List.mem_cons_self)
    have hlive : s.inLiveScene t = (x.status != .failed) := by
      rw [inLiveScene, sceneStatus?_of_scene? hx]
      rfl
    unfold firstLive
    rw [List.find?_cons, hlive]
    by_cases hstatus : t.status = .failed
    · rw [if_pos hstatus, hstatus]
      exact hrest
    · rw [if_neg hstatus, bne_iff_ne.2 hstatus, Bool.true_and,
        Work.exec_bind_ok (Work.exec_known h hx)]
      by_cases hscene : x.status = .failed
      · rw [if_pos (show x.note.status = .failed from hscene), hscene]
        exact hrest
      · rw [if_neg (show ¬ x.note.status = .failed from hscene), bne_iff_ne.2 hscene]
        rfl

theorem exec_electReference (h : s.Legible) (hs : s.Schema) {id : Int} {ts : List Tile}
    (hts : ∀ t ∈ ts, s.tile? t.id = some t) :
    (electReference id (ts.map (·.id))).exec s =
      .ok (((ts.find? s.inLiveScene).map (·.id)).or
        (((s.tiles.filter fun t => t.reference == some id).find? fun t =>
          t.status != .failed && s.inLiveScene t).map (·.id)), s) := by
  unfold electReference
  rw [Work.exec_bind_ok (exec_firstInLiveScene h hs hts)]
  cases (ts.find? s.inLiveScene).map (·.id) with
  | some id => rfl
  | none =>
    show (Work.referencingTiles id >>= firstLive).exec s = _
    rw [Work.exec_bind_ok (Work.exec_referencingTiles h id), exec_firstLive h]
    · rfl
    · exact fun t ht => hs.scene_exists t (List.mem_filter.1 ht).1

theorem schema_detach (hs : s.Schema) (hf : s.tile? f.id = some f) :
    (s.detach f message).Schema := by
  refine hs.mapTiles (fun _ => rfl) (fun _ => rfl) ?_
  intro t ht
  refine ⟨?_, hs.reference_exists t ht⟩
  show s.hasLinked
    (if t.id = f.id then none else if t.previous = some f.id then f.previous else t.previous)
  split
  · rfl
  · split
    · exact hs.previous_exists f (mem_of_tile? hf)
    · exact hs.previous_exists t ht

theorem legible_detach (h : s.Legible) : (s.detach f message).Legible :=
  h.mapTiles h.tile_legible

theorem exec_handOverReference (h : s.Legible) (hs : s.Schema) (hf : s.tile? f.id = some f)
    (hself : f.previous ≠ some f.id) :
    (handOverReference f (s.followers f.id)).exec (s.detach f message) =
      .ok ((), s.splice f message) := by
  have hs₁ : (s.detach f message).Schema := schema_detach hs hf
  have h₁ : (s.detach f message).Legible := legible_detach h
  have hrow : ∀ t ∈ s.tiles,
      (s.detach f message).tile? t.id = some (detachRow f message t) := by
    intro t ht
    show (s.mapTiles (detachRow f message)).tile? t.id = _
    rw [tile?_mapTiles (f := detachRow f message) (fun _ => rfl), hs.tile?_of_mem ht]
    rfl
  unfold handOverReference
  split
  · next q href =>
    rw [splice_of_none (by simp [heir?, href])]
    rfl
  · next href =>
    have hids : s.followers f.id =
        ((s.tiles.filter fun t => t.previous == some f.id).map (detachRow f message)).map
          (·.id) := by
      rw [followers, List.map_map]
      rfl
    rw [hids, Work.exec_bind_ok (exec_electReference h₁ hs₁ ?_), heir?_of_detach href]
    · cases hheir : s.heir? f with
      | none =>
        rw [splice_of_none hheir]
        rfl
      | some new =>
        obtain ⟨-, t, ht, rfl, hne, -⟩ := heir?_eq_some hs.toOrdered hf hself hheir
        rw [← splice_eq, hheir]
        exact Work.exec_reassignReference (Ne.symm hne) (hrow t ht)
    · intro t ht
      obtain ⟨u, hu, rfl⟩ := List.mem_map.1 ht
      exact hrow u (List.mem_filter.1 hu).1

/-! ### Starting the followers -/

theorem exec_previousDone (h : s.Legible) (hlinked : s.hasLinked f.previous) :
    (previousDone f).exec s =
      .ok (f.previous.all (fun id => s.tileStatus? id == some .done), s) := by
  unfold previousDone
  split
  · next hprevious =>
    rw [hprevious]
    rfl
  · next id hprevious =>
    rw [hprevious] at hlinked
    obtain ⟨p, hp⟩ := Option.isSome_iff_exists.1 hlinked
    rw [Work.exec_bind_ok (Work.exec_tile h hp), hprevious]
    show Except.ok (p.status == .done, s) = .ok (s.tileStatus? id == some .done, s)
    rw [tileStatus?_of_tile? hp]
    rfl

theorem exec_startable (h : s.Legible) (inheritedDone : Bool) (hscene : (s.scene? t.scene).isSome) :
    (startable inheritedDone t).exec s =
      .ok (inheritedDone && s.sceneStatus? t.scene == some .done, s) := by
  obtain ⟨x, hx⟩ := Option.isSome_iff_exists.1 hscene
  cases inheritedDone with
  | false => rfl
  | true =>
    show (Work.known t.scene >>= fun scene => pure (scene.status == .done)).exec s = _
    rw [Work.exec_bind_ok (Work.exec_known h hx), sceneStatus?_of_scene? hx]
    rfl

theorem exec_startableDependents (h : s.Legible) (hs : s.Schema) (failed : Int)
    (inheritedDone : Bool) {ts : List Tile}
    (hts : ∀ t ∈ ts, s.tile? t.id = some t ∧ t.status = .new) :
    (startableDependents failed inheritedDone (ts.map (·.id))).exec s =
      .ok (ts.filter fun t => inheritedDone && s.sceneStatus? t.scene == some .done, s) := by
  induction ts with
  | nil => rfl
  | cons t ts ih =>
    obtain ⟨ht, hnew⟩ := hts t List.mem_cons_self
    have hscene := hs.scene_exists t (mem_of_tile? ht)
    have hrest := ih fun u hu => hts u (List.mem_cons_of_mem _ hu)
    show (startableDependents failed inheritedDone (t.id :: ts.map (·.id))).exec s = _
    unfold startableDependents
    rw [Work.exec_bind_ok (Work.exec_tile h ht), if_neg (not_not_intro hnew),
      Work.exec_bind_ok (exec_startable h inheritedDone hscene), Work.exec_bind_ok hrest,
      List.filter_cons]
    rfl

theorem exec_releaseDependents (h : s.Legible) (hs : s.Schema) (hlinked : s.hasLinked f.previous)
    {ts : List Tile} (hts : ∀ t ∈ ts, s.tile? t.id = some t ∧ t.status = .new)
    {released : List Tile}
    (hreleased : released = ts.filter fun t =>
      f.previous.all (fun id => s.tileStatus? id == some .done) &&
        s.sceneStatus? t.scene == some .done) :
    (releaseDependents f (ts.map (·.id))).exec s =
      .ok ((), (s.setTilesStatus (released.map (·.id)) .pending).announce released) := by
  unfold releaseDependents
  rw [Work.exec_bind_ok (exec_previousDone h hlinked),
    Work.exec_bind_ok (exec_startableDependents h hs f.id _ hts), ← hreleased,
    Work.exec_bind_ok (Work.exec_setTilesStatus _ _)]
  have hlegible : (s.setTilesStatus (released.map (·.id)) .pending).Legible := by
    refine ⟨h.scene_legible, ?_⟩
    intro t ht
    obtain ⟨u, hu, rfl⟩ := mem_mapTiles.1 ht
    split <;> exact h.tile_legible u hu
  apply exec_queueTiles hlegible hs.setStatus
  intro t ht
  rw [hreleased] at ht
  have hmem := mem_of_tile? (hts t (List.mem_filter.1 ht).1).1
  have hlink (link : Option Int) :
      (s.setTilesStatus (released.map (·.id)) .pending).hasLinked link = s.hasLinked link := by
    refine hasLinked_mapTiles ?_ s link
    intro u
    split <;> rfl
  rw [hlink, hlink]
  exact ⟨hs.scene_exists t hmem, hs.previous_exists t hmem, hs.reference_exists t hmem⟩

/-! ### All of it -/

theorem schema_splice (hs : s.Schema) (hf : s.tile? f.id = some f)
    (hself : f.previous ≠ some f.id) : (s.splice f message).Schema := by
  have hs₁ : (s.detach f message).Schema := schema_detach hs hf
  rw [← splice_eq]
  refine hs₁.mapTiles (fun _ => rfl) (fun _ => rfl) ?_
  intro t ht
  refine ⟨hs₁.previous_exists t ht, ?_⟩
  cases hheir : s.heir? f with
  | none => exact hs₁.reference_exists t ht
  | some id =>
    obtain ⟨-, u, hu, rfl, -⟩ := heir?_eq_some hs.toOrdered hf hself hheir
    show (s.detach f message).hasLinked
      (if t.reference = some f.id then if t.id = u.id then none else some u.id else t.reference)
    split
    · split
      · rfl
      · rw [hasLinked_some, detach, tile?_mapTiles (f := detachRow f message) (fun _ => rfl),
          hs.tile?_of_mem hu]
        rfl
    · exact hs₁.reference_exists t ht

theorem tile?_splice (s : Store) (f : Tile) (message : Option String) (id : Int) :
    (s.splice f message).tile? id = (s.tile? id).map (s.spliceRow f message) :=
  tile?_mapTiles (f := s.spliceRow f message) (fun _ => rfl) s id

theorem legible_splice (h : s.Legible) : (s.splice f message).Legible :=
  h.mapTiles h.tile_legible

/-- The predecessor of a failing tile stands where it stood. -/
theorem previousDone_splice (hself : f.previous ≠ some f.id) :
    f.previous.all (fun id => (s.splice f message).tileStatus? id == some .done) =
      f.previous.all (fun id => s.tileStatus? id == some .done) := by
  cases hprevious : f.previous with
  | none => rfl
  | some id =>
    have hne : id ≠ f.id := fun he => hself (he ▸ hprevious)
    show ((s.splice f message).tileStatus? id == some .done) = (s.tileStatus? id == some .done)
    rw [tileStatus?, tile?_splice, tileStatus?]
    cases ht : s.tile? id with
    | none => rfl
    | some t =>
      have hid : t.id ≠ f.id := tile?_id ht ▸ hne
      have hstatus : (s.spliceRow f message t).status = t.status := if_neg hid
      show (some (s.spliceRow f message t).status == _) = _
      rw [hstatus]
      rfl

/-- Starting the followers that wait for nothing else completes the failure. -/
theorem setTilesStatus_splice (hs : s.Ordered) :
    (s.splice f message).setTilesStatus
      (((s.tiles.filter (s.frees f)).map (s.spliceRow f message)).map (·.id)) .pending =
      s.failTile f message := by
  rw [setTilesStatus, modifyTiles_eq_mapTiles, splice, mapTiles_mapTiles, Store.failTile]
  unfold mapTiles
  congr 1
  apply List.map_congr_left
  intro t ht
  have hmem : ((((s.tiles.filter (s.frees f)).map (s.spliceRow f message)).map (·.id)).contains
      (s.spliceRow f message t).id) = s.frees f t := by
    rw [Bool.eq_iff_iff, List.contains_iff_mem, List.map_map]
    constructor
    · intro h
      obtain ⟨u, hu, hid⟩ := List.mem_map.1 h
      obtain ⟨hu, hfrees⟩ := List.mem_filter.1 hu
      have hsame : u.id = t.id := hid
      rwa [hs.eq_of_id hu ht hsame] at hfrees
    · intro h
      exact List.mem_map.2 ⟨t, List.mem_filter.2 ⟨ht, h⟩, rfl⟩
  rw [hmem, failRow]
  split <;> rfl

/-- The followers of a failing tile have not started yet. -/
theorem tile?_of_follower (hs : s.Schema) (hf : s.tile? f.id = some f)
    (hself : f.previous ≠ some f.id)
    (hnew : ∀ t ∈ s.tiles, t.previous = some f.id → t.status = .new)
    (ht : t ∈ (s.tiles.filter fun t => t.previous == some f.id).map (s.spliceRow f message)) :
    (s.splice f message).tile? t.id = some t ∧ t.status = .new := by
  obtain ⟨u, hu, rfl⟩ := List.mem_map.1 ht
  obtain ⟨hu, hfollows⟩ := List.mem_filter.1 hu
  have hp : u.previous = some f.id := eq_of_beq hfollows
  have hne : u.id ≠ f.id := by
    intro hid
    rw [hs.eq_of_id hu (mem_of_tile? hf) hid] at hp
    exact hself hp
  refine ⟨?_, (if_neg hne).trans (hnew u hu hp)⟩
  show (s.splice f message).tile? u.id = _
  rw [tile?_splice, hs.tile?_of_mem hu]
  rfl

/-- Those of them that start are the tiles that the failure frees. -/
theorem filter_followers (hself : f.previous ≠ some f.id) :
    (s.tiles.filter (s.frees f)).map (s.spliceRow f message) =
      ((s.tiles.filter fun t => t.previous == some f.id).map (s.spliceRow f message)).filter
        fun t => f.previous.all (fun id => (s.splice f message).tileStatus? id == some .done) &&
          (s.splice f message).sceneStatus? t.scene == some .done := by
  rw [List.filter_map, List.filter_filter, previousDone_splice hself]
  congr 1
  apply List.filter_congr
  intro t _
  show (_ && _ && _) = ((_ && _) && _)
  rw [Bool.and_assoc, Bool.and_comm]
  rfl

/-- A tile whose predecessor goes on or fails with it, and whose followers have not started, fails
as described. -/
theorem exec_failTile (h : s.Legible) (hs : s.Schema) (hf : s.tile? f.id = some f)
    (hself : f.previous ≠ some f.id)
    (halive : ∀ id p, f.previous = some id → s.tile? id = some p →
      p.status ≠ .failed ∧ (p.scene = f.scene ∨ s.sceneStatus? p.scene ≠ some .failed))
    (hnew : ∀ t ∈ s.tiles, t.previous = some f.id → t.status = .new) :
    (Cascade.failTile f.id message).exec s =
      .ok ((), (s.failTile f message).announce (s.freed f message)) := by
  have hmem := mem_of_tile? hf
  have hids : s.followers f.id =
      ((s.tiles.filter fun t => t.previous == some f.id).map (s.spliceRow f message)).map
        (·.id) := by
    rw [followers, List.map_map]
    rfl
  have hlinked : (s.splice f message).hasLinked f.previous := by
    rw [splice, hasLinked_mapTiles (f := s.spliceRow f message) fun _ => rfl]
    exact hs.previous_exists f hmem
  unfold Cascade.failTile
  rw [Work.exec_bind_ok (Work.exec_tile h hf),
    Work.exec_bind_ok (exec_requirePreviousAlive h hs hmem halive)]
  show ((Work.updateTile f.id { status := .failed, message, clearPrevious := true } >>= fun _ =>
    Work.reparentNextTiles f.id f.previous) >>= fun dependents => handOverReference f dependents >>=
      fun _ => releaseDependents f dependents).exec s = _
  rw [Work.exec_bind_ok (exec_detach hs hf hself),
    Work.exec_bind_ok (exec_handOverReference h hs hf hself), hids,
    exec_releaseDependents (legible_splice h) (schema_splice hs hf hself) hlinked
      (fun _ ht => tile?_of_follower hs hf hself hnew ht) (filter_followers hself),
    setTilesStatus_splice hs.toOrdered, freed]
  congr 2
  refine announce_map_congr ?_ _
  intro t _ s'
  exact jobOf?_congr rfl rfl rfl rfl rfl rfl s'

end Cascade

end SceneWorkflow
