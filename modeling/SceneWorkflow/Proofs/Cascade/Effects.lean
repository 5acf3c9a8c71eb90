import SceneWorkflow.Proofs.Cascade.Chains
import SceneWorkflow.Proofs.Cascade.Releases

/-!
# The effects of changes

What each change of a scene or tile that is carried out makes of the store: which tiles
fail and start, and which jobs are queued. This holds in any forest, whether or not the
request is forced.
-/
namespace SceneWorkflow
namespace Store
variable {s s' : Store} {f t : Tile} {x : Scene} {area : String} {message : Option String}
  {u : StatusUpdate}

/-! ### Starting and failing -/

theorem releases_start {p : Tile → Bool} (hs : s.Schema)
    (hnew : ∀ t ∈ s.tiles, p t = true → t.status = .new)
    (harea : ∀ t ∈ s.tiles, p t = true → s.aoiOf? t = some area) :
    ∃ jobs, Releases area [] s (s.setOff p) jobs := by
  have hstarted : s.started p =
      (s.tiles.filter p).map fun t => { t with status := if p t then .pending else t.status } :=
    List.map_congr_left fun t ht => by rw [if_pos (List.mem_filter.1 ht).2]
  rw [setOff, start_eq, hstarted]
  refine releases_mapTiles hs.toOrdered ?_ (fun _ => rfl) (fun t ht => ?_) fun t ht => ?_
  · rw [← start_eq]
    exact hs.start p
  · cases hp : p t with
    | true => exact ⟨⟨rfl, nofun, fun _ => .inr ⟨hnew t ht hp, rfl⟩, fun _ _ => rfl,
        fun _ _ => rfl⟩, .inr (harea t ht hp)⟩
    | false => exact ⟨.refl t, .inl rfl⟩
  · cases hp : p t with
    | true => exact ⟨fun _ => ⟨hnew t ht hp, rfl⟩, fun _ => rfl⟩
    | false =>
      refine ⟨nofun, fun ⟨hstatus, hpending⟩ => ?_⟩
      cases hstatus.symm.trans hpending

/-- A failing tile concerns none but its followers and those compared with it. -/
theorem failRow_eq_self (hid : t.id ≠ f.id) (hprevious : t.previous ≠ some f.id)
    (href : t.reference ≠ some f.id) : s.failRow f message t = t := by
  have hstays : s.frees f t = false :=
    Bool.eq_false_iff.2 fun hfrees => hprevious (frees_eq_true.1 hfrees).1
  unfold failRow spliceRow handOverRow detachRow
  simp only [hstays, hid, hprevious, href, if_false, Bool.false_eq_true]
  cases s.heir? f <;> rfl

theorem moves_failRow (hself : t.id = f.id → t.previous ≠ some f.id)
    (hnew : t.previous = some f.id → t.status = .new) :
    Moves [f.id] t (s.failRow f none t) where
  same := by
    simp [failRow, spliceRow, handOverRow, detachRow]
  failed := by
    intro hid
    have hid : t.id = f.id := List.mem_singleton.1 hid
    have hstays : ¬ s.frees f t = true := fun hfrees => hself hid (frees_eq_true.1 hfrees).1
    rw [failRow_status, if_neg hstays, failRow_previous, if_pos hid, if_pos hid]
    exact ⟨rfl, rfl⟩
  started := by
    intro hid
    rw [failRow_status]
    split
    · next hfrees => exact .inr ⟨hnew (frees_eq_true.1 hfrees).1, rfl⟩
    · exact .inl (if_neg fun he => hid (List.mem_singleton.2 he))
  settled := by
    intro hid hstarted
    rw [failRow_previous, if_neg fun he => hid (List.mem_singleton.2 he),
      if_neg fun hprevious => hstarted (hnew hprevious)]
  kept := by
    intro hid hother
    rw [failRow_previous, if_neg fun he => hid (List.mem_singleton.2 he),
      if_neg (hother f.id (List.mem_singleton_self _))]

/-- The failure of a tile, whose own status and message may have been changed before. -/
theorem releases_failTile {a : Tile → Tile} (h : Forest s) (hf : s.tile? f.id = some f)
    (hnew : ∀ t ∈ s.tiles, t.previous = some f.id → t.status = .new)
    (harea : s.aoiOf? f = some area)
    (ha : ∀ t, a t = { t with status := (a t).status, message := (a t).message })
    (hother : ∀ t, t.id ≠ f.id → a t = t)
    (hmessage : ∀ t, s.failRow f none (a t) = s.failRow f message t) :
    ∃ jobs, Releases area [f.id] (s.mapTiles a)
      ((s.failTile f message).announce (s.freed f message)) jobs := by
  have hmem := mem_of_tile? hf
  have hself := h.previous_ne_self hmem
  have hid (t : Tile) : (a t).id = t.id := by rw [ha t]
  have hprevious (t : Tile) : (a t).previous = t.previous := by rw [ha t]
  have hfrees : s.frees f ∘ a = s.frees f := by
    funext t
    rw [Function.comp_apply, ha t]
    rfl
  have htile : (s.mapTiles a).mapTiles (s.failRow f none) = s.failTile f message := by
    rw [mapTiles_mapTiles, Store.failTile]
    exact congrArg s.mapTiles (funext hmessage)
  have hfreed : ((s.mapTiles a).tiles.filter (s.frees f)).map (s.failRow f none) =
      s.freed f message := by
    show ((s.tiles.map a).filter _).map _ = _
    rw [List.filter_map, List.map_map, hfrees, freed]
    exact List.map_congr_left fun t _ => hmessage t
  have hrow : ∀ t ∈ s.tiles, (a t).previous = some f.id → (a t).status = .new := by
    intro t ht hlink
    rw [hprevious] at hlink
    have hne : t.id ≠ f.id := fun he => hself (h.eq_of_id ht hmem he ▸ hlink)
    rw [hother t hne]
    exact hnew t ht hlink
  rw [← htile, ← hfreed]
  refine releases_mapTiles (h.toOrdered.mapTiles hid) ?_ (fun _ => rfl) (fun t ht => ?_)
    fun t ht => ?_
  · rw [htile]
    exact h.toSchema.failTile hf hself message
  · obtain ⟨t, hold, rfl⟩ := mem_mapTiles.1 ht
    refine ⟨moves_failRow (fun he => ?_) (hrow t hold), ?_⟩
    · rw [hprevious, h.eq_of_id hold hmem ((hid t).symm.trans he)]
      exact hself
    · have hplace : (s.mapTiles a).aoiOf? (a t) = s.aoiOf? t := by
        rw [ha t]
        rfl
      rw [hplace]
      by_cases hlink : t.previous = some f.id ∨ t.reference = some f.id
      · exact .inr ((h.same_area t hold f hmem hlink).symm.trans harea)
      · by_cases he : t.id = f.id
        · exact .inr (h.eq_of_id hold hmem he ▸ harea)
        · refine .inl ?_
          rw [hother t he]
          exact failRow_eq_self he (fun hp => hlink (.inl hp)) fun hr => hlink (.inr hr)
  · obtain ⟨t, hold, rfl⟩ := mem_mapTiles.1 ht
    rw [failRow_status]
    constructor
    · intro hstarts
      rw [if_pos hstarts]
      exact ⟨hrow t hold (frees_eq_true.1 hstarts).1, rfl⟩
    · rintro ⟨hstatus, hpending⟩
      rw [hstatus] at hpending
      split at hpending
      · assumption
      · split at hpending <;> cases hpending

theorem setTile_eq_mapTiles (s : Store) (id : Int) (u : StatusUpdate) :
    s.setTile id u = s.mapTiles fun t => if t.id == id then t.update u else t := rfl

end Store

namespace Cascade
open Store
variable {s s' : Store} {f t : Tile} {x : Scene} {area : String} {message : Option String}
  {u : StatusUpdate}

/-! ### Tiles -/

theorem releases_finishTile (h : Forest s) (hf : s.tile? f.id = some f)
    (harea : s.aoiOf? f = some area) (hok : (finishTile f message).exec s = .ok ((), s')) :
    ∃ jobs, Releases area [] (s.setTile f.id { status := .done, message }) s' jobs := by
  have hset : Forest (s.setTile f.id { status := .done, message }) :=
    h.setTile hf nofun rfl nofun
  have harea' : (s.setTile f.id { status := .done, message }).aoiOf? f = some area := harea
  have hrow := tile?_setTile hf { status := .done, message }
  rw [exec_finishTile_eq rfl hset.toLegible hset.toSchema hf] at hok
  cases hok
  refine releases_start hset.toSchema (fun _ _ => waitsFor_new) fun t ht hwaits => ?_
  have hlink : t.previous = some f.id := waitsFor_previous hwaits
  exact (hset.same_area t ht (f.update _) (mem_of_tile? hrow) (.inl hlink)).symm.trans harea'

theorem releases_fail (h : Forest s) (hf : s.tile? f.id = some f)
    (harea : s.aoiOf? f = some area) (hok : (failTile f.id message).exec s = .ok ((), s')) :
    ∃ jobs, Releases area [f.id] (s.setTile f.id { status := .failed, message }) s' jobs := by
  obtain ⟨g, hg, hnew, rfl⟩ := failTile_eq_ok h hok
  cases hf.symm.trans hg
  rw [setTile_eq_mapTiles]
  refine releases_failTile h hf hnew harea (fun t => ?_) (fun t hid => ?_) fun t => ?_
  · split <;> rfl
  · exact if_neg fun he => hid (eq_of_beq he)
  · by_cases hid : t.id = f.id
    · simp [failRow, spliceRow, handOverRow, detachRow, frees, hid, Tile.update]
    · simp [failRow, spliceRow, handOverRow, detachRow, hid]

/-- A tile that fails with its scene keeps its message. -/
theorem releases_fail_silently (h : Forest s) (hf : s.tile? f.id = some f)
    (harea : s.aoiOf? f = some area) (hok : (failTile f.id none).exec s = .ok ((), s')) :
    ∃ jobs, Releases area [f.id] s s' jobs ∧
      s' = (s.failTile f none).announce (s.freed f none) := by
  obtain ⟨g, hg, hnew, rfl⟩ := failTile_eq_ok h hok
  cases hf.symm.trans hg
  obtain ⟨jobs, hreleases⟩ : ∃ jobs, Releases area [f.id] (s.mapTiles id)
      ((s.failTile f none).announce (s.freed f none)) jobs :=
    releases_failTile h hf hnew harea (fun _ => rfl) (fun _ _ => rfl) fun _ => rfl
  have hself : s.mapTiles id = s := by
    unfold mapTiles
    rw [List.map_id]
  rw [hself] at hreleases
  exact ⟨jobs, hreleases, rfl⟩

/-- A tile is queued again, or parked. -/
theorem retryTile_eq_ok (h : Forest s) (hf : s.tile? f.id = some f)
    (hok : (retryTile f message).exec s = .ok ((), s')) :
    (0 < f.budget ∧ s' =
      (s.setTile f.id { status := .pending, message, consume := true }).announceTile f) ∨
    ¬ 0 < f.budget ∧ s' = s.setTile f.id { status := .retry, message } := by
  unfold retryTile at hok
  split at hok
  · next hpos =>
    have hl := h.toLegible.setTile (u := { status := .pending, message, consume := true })
      h.toOrdered hf fun _ => hpos
    rw [exec_handOut_eq hl h.toSchema hf rfl] at hok
    cases hok
    exact .inl ⟨hpos, rfl⟩
  · next hpos =>
    rw [Work.exec_updateTile hf] at hok
    cases hok
    exact .inr ⟨hpos, rfl⟩

theorem requirePreviousDone_eq_ok (hok : (requirePreviousDone f).exec s = .ok ((), s')) :
    s' = s := by
  unfold requirePreviousDone at hok
  split at hok
  · cases hok
    rfl
  · obtain ⟨p, s₁, htile, hdone⟩ := Work.exec_bind_eq_ok hok
    obtain ⟨-, rfl⟩ := Work.exec_tile_eq_ok htile
    split at hdone <;> cases hdone
    rfl

theorem requeueTile_eq_ok (h : Forest s) (hf : s.tile? f.id = some f) {scene : Status}
    {force : Bool} (hok : (requeueTile f scene message force).exec s = .ok ((), s')) :
    s' = (s.setTile f.id { status := .pending, message }).announceTile f := by
  unfold requeueTile at hok
  obtain ⟨_, s₁, hdone, hrest⟩ := Work.exec_bind_eq_ok hok
  obtain rfl := requirePreviousDone_eq_ok hdone
  split at hrest
  · have hl := h.toLegible.setTile (u := { status := .pending, message }) h.toOrdered hf nofun
    rw [exec_handOut_eq hl h.toSchema hf rfl] at hrest
    cases hrest
    rfl
  · cases hrest

/-! ### Scenes -/

theorem releases_finishScene (h : Forest s) (hx : s.scene? x.id = some x)
    (hok : (finishScene x message).exec s = .ok ((), s')) :
    ∃ jobs, Releases x.aoi [] (s.setScene x.id { status := .done, message }) s' jobs := by
  have hset : Forest (s.setScene x.id { status := .done, message }) := h.setScene hx nofun
  have hrow := scene?_setScene hx { status := .done, message }
  rw [exec_finishScene_eq rfl hset.toLegible hset.toSchema hx] at hok
  cases hok
  generalize s.setScene x.id { status := .done, message } = s₁ at *
  have harea {s₂ : Store} (hscenes : s₂.scenes = s₁.scenes) (t : Tile)
      (hscene : (t.scene == x.id) = true) : s₂.aoiOf? t = some x.aoi := by
    rw [aoiOf?, scene?, hscenes, eq_of_beq hscene]
    exact congrArg (Option.map (·.aoi)) hrow
  have hplace : ∀ t ∈ s₁.tiles, isHead x.id t = true → s₁.aoiOf? t = some x.aoi := by
    intro t _ hhead
    simp only [isHead, Bool.and_eq_true] at hhead
    exact harea rfl t hhead.1.1
  obtain ⟨heads, hheads⟩ := releases_start hset.toSchema (fun _ _ => isHead_new) hplace
  have hs₂ := (hset.toSchema.start (isHead x.id)).of_sameRows (sameRows_setOff s₁ (isHead x.id))
  have hscenes₂ := hheads.scenes
  rw [setOffScene]
  generalize s₁.setOff (isHead x.id) = s₂ at *
  have hplace₂ : ∀ t ∈ s₂.tiles, s₂.followsDone x.id t = true → s₂.aoiOf? t = some x.aoi := by
    intro t _ hfollows
    simp only [followsDone, Bool.and_eq_true] at hfollows
    exact harea hscenes₂ t hfollows.1.1
  obtain ⟨followers, hfollowers⟩ := releases_start hs₂ (fun _ _ => followsDone_new) hplace₂
  exact ⟨heads ++ followers,
    hheads.trans hfollowers fun id hid => absurd hid List.not_mem_nil⟩

/-- A tile is new, and its scene has failed. -/
def Condemned (s : Store) (scene : Int) (id : Int) : Prop :=
  ∃ t, s.tile? id = some t ∧ t.status = .new ∧ t.scene = scene ∧
    s.sceneStatus? scene = some .failed

/-- While one tile of a failed scene fails the others stay new. -/
theorem Condemned.failTile {scene id : Int} (h : Condemned s scene id) (hne : id ≠ f.id) :
    Condemned ((s.failTile f none).announce (s.freed f none)) scene id := by
  obtain ⟨t, ht, hnew, hscene, hfailed⟩ := h
  have hsame := sameRows_announce (s.failTile f none) (s.freed f none)
  have hstays : ¬ s.frees f t = true := by
    intro hfrees
    have hdone := (frees_eq_true.1 hfrees).2.2
    rw [hscene, hfailed] at hdone
    cases hdone
  refine ⟨s.failRow f none t, ?_, ?_, hscene, ?_⟩
  · rw [hsame.tile?, tile?_failTile, ht]
    rfl
  · rw [failRow_status, if_neg hstays, if_neg (tile?_id ht ▸ hne), hnew]
  · rw [hsame.sceneStatus?]
    exact hfailed

theorem releases_failTiles (h : Forest s) (hx : s.scene? x.id = some x) {ts : List Tile}
    (hts : ∀ t ∈ ts, Condemned s x.id t.id) (hdistinct : (ts.map (·.id)).Nodup)
    (hok : (ts.forM fun t => failTile t.id none).exec s = .ok (⟨⟩, s')) :
    ∃ jobs, Releases x.aoi (ts.map (·.id)) s s' jobs := by
  -- Those that have failed and those that are left are the same tiles together all the time.
  have hall : ∃ sofar jobs, Releases x.aoi sofar s s' jobs ∧ sofar ++ [] = ts.map (·.id) := by
    refine (Work.exec_forM_eq_ok (I := fun rest s₁ => Forest s₁ ∧ (rest.map (·.id)).Nodup ∧
      (∀ t ∈ rest, Condemned s₁ x.id t.id) ∧ ∃ sofar jobs, Releases x.aoi sofar s s₁ jobs ∧
        sofar ++ rest.map (·.id) = ts.map (·.id)) ?_
      ⟨h, hdistinct, hts, [], [], .refl s, rfl⟩ hok).2.2.2
    rintro t rest s₁ s₂ ⟨hforest, hdistinct, hwait, sofar, jobs, hreleases, hsofar⟩ hok
    obtain ⟨hnot, hdistinct⟩ := List.nodup_cons.1 hdistinct
    obtain ⟨f, hf, hnew, hscene, -⟩ := hwait t List.mem_cons_self
    have hid := tile?_id hf
    rw [← hid] at hf hok
    have harea : s₁.aoiOf? f = some x.aoi := by
      rw [aoiOf?, hscene, hreleases.scene?, hx]
      rfl
    have hforest' := forest_failTile hforest hok
    obtain ⟨more, hmore, rfl⟩ := releases_fail_silently hforest hf harea hok
    refine ⟨hforest', hdistinct, fun u hu => ?_, sofar ++ [f.id], jobs ++ more,
      hreleases.trans hmore ?_, ?_⟩
    · refine (hwait u (List.mem_cons_of_mem _ hu)).failTile fun he => ?_
      exact hnot (List.mem_map.2 ⟨u, hu, he.trans hid⟩)
    · intro id hid' hpending
      rw [List.mem_singleton.1 hid', tileStatus?_of_tile? hf, hnew] at hpending
      cases hpending
    · rw [← hsofar, hid, List.append_assoc]
      rfl
  obtain ⟨sofar, jobs, hreleases, hsofar⟩ := hall
  rw [List.append_nil] at hsofar
  exact ⟨jobs, hsofar ▸ hreleases⟩

theorem releases_failScene (h : Forest s) (hx : s.scene? x.id = some x)
    (hok : (failScene x message).exec s = .ok ((), s')) :
    ∃ jobs, Releases x.aoi (s.failing .scene x.id)
      (s.setScene x.id { status := .failed, message }) s' jobs := by
  obtain ⟨hnew, hfailures⟩ := failScene_eq_ok hok
  have hset : Forest (s.setScene x.id { status := .failed, message }) := h.setScene hx nofun
  have hrow := scene?_setScene hx { status := .failed, message }
  refine releases_failTiles (x := x.update { status := .failed, message }) hset hrow
    (fun t ht => ?_) ?_ hfailures
  · obtain ⟨hmem, hscene⟩ := List.mem_filter.1 ht
    exact ⟨t, h.tile?_of_mem hmem, hnew t hmem (eq_of_beq hscene), eq_of_beq hscene,
      sceneStatus?_of_scene? hrow⟩
  · exact List.pairwise_map.2 ((h.tiles_ascend.filter _).imp fun hlt => Int.ne_of_lt hlt)

end Cascade

end SceneWorkflow
