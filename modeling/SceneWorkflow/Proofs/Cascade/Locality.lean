import SceneWorkflow.Proofs.Cascade.Effects

/-!
# Jobs stay in their area

A job carries descriptions: of a scene, or of a tile with the tile that it follows and
the one that it is compared with. In a forest all of these belong to one area, whatever
else the tables hold.
-/
namespace SceneWorkflow
namespace Store
variable {s s' s'' : Store} {f t : Tile} {x : Scene} {area : String} {message : Option String}
  {p : Tile → Bool}

/-! ### Descriptions -/

def sceneRef? (s : Store) (id : Int) : Option SceneRef := (s.scene? id).map (·.ref)

def Describes (s : Store) (area : String) (r : TileRef) : Prop :=
  s.tileRef? r.id = some r ∧ r.scene.aoi = area

/-- All that the job tells of are scenes and tiles of the area. -/
def Houses (s : Store) (area : String) : Notice → Prop
  | .scene ref => s.sceneRef? ref.id = some ref ∧ ref.aoi = area
  | .tile job => s.Describes area job.tile ∧ (∀ r ∈ job.previous, s.Describes area r) ∧
      ∀ r ∈ job.reference, s.Describes area r

structure Recalls (s s' : Store) : Prop where
  scenes : ∀ id r, s.sceneRef? id = some r → s'.sceneRef? id = some r
  tiles : ∀ id r, s.tileRef? id = some r → s'.tileRef? id = some r

namespace Recalls

theorem trans (h : Recalls s s') (h' : Recalls s' s'') : Recalls s s'' where
  scenes := fun id r hr => h'.scenes id r (h.scenes id r hr)
  tiles := fun id r hr => h'.tiles id r (h.tiles id r hr)

theorem of_sameRows (h : SameRows s s') : Recalls s s' where
  scenes := by
    intro id r hr
    rwa [sceneRef?, h.scene?]
  tiles := by
    intro id r hr
    rwa [h.tileRef?]

theorem refl (s : Store) : Recalls s s := .of_sameRows (.refl s)

/-- Rewriting tiles in all that workers are not told. -/
theorem mapTiles {g : Tile → Tile} (hid : ∀ t, (g t).id = t.id) (hscene : ∀ t, (g t).scene = t.scene)
    (href : ∀ t (x : SceneRef), (g t).refIn x = t.refIn x) : Recalls s (s.mapTiles g) where
  scenes := fun _ _ hr => hr
  tiles := by
    intro id r hr
    rwa [tileRef?_mapTiles hid href hscene]

theorem describes (h : Recalls s s') {r : TileRef} (hr : s.Describes area r) :
    s'.Describes area r := ⟨h.tiles _ _ hr.1, hr.2⟩

theorem houses (h : Recalls s s') {n : Notice} (hn : s.Houses area n) : s'.Houses area n := by
  cases n with
  | scene ref => exact ⟨h.scenes _ _ hn.1, hn.2⟩
  | tile job =>
    obtain ⟨htile, hprevious, hreference⟩ := hn
    exact ⟨h.describes htile, fun r hr => h.describes (hprevious r hr),
      fun r hr => h.describes (hreference r hr)⟩

end Recalls

theorem recalls_setTile (s : Store) (id : Int) (u : StatusUpdate) : Recalls s (s.setTile id u) := by
  rw [setTile_eq_mapTiles]
  refine .mapTiles (fun t => ?_) (fun t => ?_) fun t x => ?_ <;> split <;> rfl

theorem recalls_setScene (s : Store) (id : Int) (u : StatusUpdate) :
    Recalls s (s.setScene id u) := by
  have hrow (k : Int) : (s.setScene id u).scene? k =
      (s.scene? k).map fun x => if x.id == id then x.update u else x :=
    scene?_modifyScenes (f := (·.update u)) (fun _ => rfl) s k
  have href (x : Scene) : (if x.id == id then x.update u else x).ref = x.ref := by
    split <;> rfl
  constructor
  · intro k r hr
    rw [sceneRef?, hrow, Option.map_map]
    exact (Option.map_congr fun x _ => href x).trans hr
  · intro k r hr
    rw [tileRef?] at hr ⊢
    refine Eq.trans ?_ hr
    congr 1
    funext t
    rw [hrow, Option.map_map]
    exact Option.map_congr fun x _ => congrArg t.refIn (href x)

theorem recalls_addScene (s : Store) (x : Scene) : Recalls s (s.addScene x) where
  scenes := by
    intro id r hr
    obtain ⟨y, hy, rfl⟩ := Option.map_eq_some_iff.1 hr
    exact congrArg (Option.map Scene.ref) (scene?_addScene_of_some hy x)
  tiles := by
    intro id r hr
    obtain ⟨t, ht, hdescribed⟩ := Option.bind_eq_some_iff.1 hr
    obtain ⟨y, hy, rfl⟩ := Option.map_eq_some_iff.1 hdescribed
    exact tileRef?_of_tile? ht (scene?_addScene_of_some hy x)

theorem recalls_addTile (s : Store) (u : Tile) : Recalls s (s.addTile u) where
  scenes := fun _ _ hr => hr
  tiles := by
    intro id r hr
    obtain ⟨t, ht, hdescribed⟩ := Option.bind_eq_some_iff.1 hr
    obtain ⟨y, hy, rfl⟩ := Option.map_eq_some_iff.1 hdescribed
    exact tileRef?_of_tile? (tile?_addTile_of_some ht u) hy

/-! ### Jobs that are appended -/

/-- Jobs have been appended that tell of scenes and tiles of one area only, and nothing is described
otherwise than before. -/
structure Announces (area : String) (s s' : Store) : Prop extends Recalls s s' where
  jobs : ∃ js, s'.outbox = s.outbox ++ js ∧
    ∀ j ∈ js, ∃ n : Notice, n.topic = j.topic ∧ n.payload = j.payload ∧ s'.Houses area n

namespace Announces

theorem silent (h : Recalls s s') (hout : s'.outbox = s.outbox) : Announces area s s' :=
  ⟨h, [], hout.trans (List.append_nil _).symm, nofun⟩

theorem refl (s : Store) : Announces area s s := .silent (.refl s) rfl

theorem trans (h : Announces area s s') (h' : Announces area s' s'') : Announces area s s'' where
  toRecalls := h.toRecalls.trans h'.toRecalls
  jobs := by
    obtain ⟨js, hjs, htell⟩ := h.jobs
    obtain ⟨ks, hks, htell'⟩ := h'.jobs
    refine ⟨js ++ ks, by rw [hks, hjs, List.append_assoc], fun j hj => ?_⟩
    rcases List.mem_append.1 hj with hj | hj
    · obtain ⟨n, htopic, hpayload, hn⟩ := htell j hj
      exact ⟨n, htopic, hpayload, h'.toRecalls.houses hn⟩
    · exact htell' j hj

end Announces

theorem announces_refreshAoiStatus (s : Store) (area name : String) :
    Announces area s (s.refreshAoiStatus name).2 :=
  .silent (.of_sameRows (sameRows_refreshAoiStatus s name)) (outbox_refreshAoiStatus s name)

/-- The job of a scene tells of nothing else. -/
theorem announces_enqueueScene (hx : s.scene? x.id = some x) :
    Announces x.aoi s (s.enqueueJob .sceneJobs x.ref.toJson.print) where
  toRecalls := .of_sameRows (sameRows_enqueueJob s _ _)
  jobs := by
    refine ⟨_, rfl, fun j hj => ⟨.scene x.ref, ?_⟩⟩
    rw [List.mem_singleton.1 hj]
    have href : s.sceneRef? x.id = some x.ref := congrArg (Option.map Scene.ref) hx
    exact ⟨rfl, rfl, href, rfl⟩

namespace Forest
variable (h : Forest s)
include h

/-- What a tile follows or is compared with is described as a tile of its area. -/
theorem describes_link (ht : t ∈ s.tiles) (harea : s.aoiOf? t = some area) {link : Option Int}
    (hlink : link = t.previous ∨ link = t.reference) :
    ∀ r ∈ link.bind s.tileRef?, s.Describes area r := by
  intro r hr
  obtain ⟨id, hid, href⟩ := Option.bind_eq_some_iff.1 hr
  have hsame := tileRef?_id href
  obtain ⟨v, hv, hdescribed⟩ := Option.bind_eq_some_iff.1 href
  obtain ⟨y, hy, rfl⟩ := Option.map_eq_some_iff.1 hdescribed
  obtain rfl := tile?_id hv
  have hplace : s.aoiOf? v = s.aoiOf? t := by
    refine h.same_area t ht v (mem_of_tile? hv) ?_
    rcases hlink with rfl | rfl
    · exact .inl hid
    · exact .inr hid
  rw [harea, aoiOf?, hy] at hplace
  exact ⟨href, Option.some.inj hplace⟩

theorem houses_jobOf? (ht : t ∈ s.tiles) (harea : s.aoiOf? t = some area) {job : TileJob}
    (hjob : s.jobOf? t = some job) : s.Houses area (.tile job) := by
  obtain ⟨x, hx, rfl⟩ := Option.map_eq_some_iff.1 hjob
  rw [aoiOf?, hx] at harea
  refine ⟨⟨tileRef?_of_tile? (h.tile?_of_mem ht) hx, Option.some.inj harea⟩,
    h.describes_link ht ?_ (.inl rfl), h.describes_link ht ?_ (.inr rfl)⟩
  all_goals rw [aoiOf?, hx]; exact harea

theorem announces {ts : List Tile} (hts : ∀ t ∈ ts, t ∈ s.tiles ∧ s.aoiOf? t = some area) :
    Announces area s (s.announce ts) where
  toRecalls := .of_sameRows (sameRows_announce s ts)
  jobs := by
    obtain ⟨js, hjs, hall⟩ := outbox_announce s ts
    refine ⟨js, hjs, fun j hj => ?_⟩
    obtain ⟨t, ht, job, hjob, htopic, hpayload⟩ := hall j hj
    have hhouses := h.houses_jobOf? (hts t ht).1 (hts t ht).2 hjob
    refine ⟨.tile job, htopic.symm, hpayload.symm, ?_⟩
    exact (Recalls.of_sameRows (sameRows_announce s ts)).houses hhouses

theorem announces_setOff (hp : ∀ t ∈ s.tiles, p t = true → s.aoiOf? t = some area) :
    Announces area s (s.setOff p) := by
  have hstart : Forest (s.start p) := h.setStatus nofun
  have hrecalls : Recalls s (s.start p) := by
    rw [start_eq]
    exact .mapTiles (fun _ => rfl) (fun _ => rfl) fun _ _ => rfl
  refine (Announces.silent hrecalls rfl).trans (hstart.announces fun t ht => ?_)
  have hmem := (tile?_of_started h.toOrdered ht).1
  obtain ⟨u, hu, rfl⟩ := List.mem_map.1 ht
  obtain ⟨hu, hpu⟩ := List.mem_filter.1 hu
  exact ⟨mem_of_tile? hmem, hp u hu hpu⟩

theorem announces_setOffScene (hx : s.scene? x.id = some x) :
    Announces x.aoi s (s.setOffScene x.id) := by
  have hsame := sameRows_setOff s (isHead x.id)
  have hplace {s₁ : Store} (hscenes : s₁.scenes = s.scenes) {t : Tile}
      (hscene : (t.scene == x.id) = true) : s₁.aoiOf? t = some x.aoi := by
    rw [aoiOf?, scene?, hscenes, eq_of_beq hscene]
    exact congrArg (Option.map (·.aoi)) hx
  have hstart : Forest (s.start (isHead x.id)) := h.setStatus (by decide)
  have hheads := hstart.of_sameRows hsame
  have hfirst : Announces x.aoi s (s.setOff (isHead x.id)) := by
    refine h.announces_setOff fun t _ hhead => ?_
    simp only [isHead, Bool.and_eq_true] at hhead
    exact hplace rfl hhead.1.1
  refine hfirst.trans (hheads.announces_setOff fun t _ hfollows => ?_)
  simp only [followsDone, Bool.and_eq_true] at hfollows
  exact hplace hsame.scenes hfollows.1.1

theorem announces_failTile (hf : s.tile? f.id = some f) (harea : s.aoiOf? f = some area)
    (message : Option String) :
    Announces area s ((s.failTile f message).announce (s.freed f message)) := by
  have hrecalls : Recalls s (s.failTile f message) :=
    .mapTiles (fun _ => rfl) (fun _ => rfl) fun _ _ => rfl
  refine (Announces.silent hrecalls rfl).trans ((h.failTile hf message).announces fun t ht => ?_)
  obtain ⟨u, hu, rfl⟩ := List.mem_map.1 ht
  obtain ⟨hu, hfrees⟩ := List.mem_filter.1 hu
  refine ⟨List.mem_map_of_mem hu, ?_⟩
  rw [aoiOf?_failRow, ← h.same_area u hu f (mem_of_tile? hf) (.inl (frees_eq_true.1 hfrees).1)]
  exact harea

end Forest

theorem announces_handOut (hf : s.tile? f.id = some f) (harea : s.aoiOf? f = some area)
    {u : StatusUpdate} (hset : Forest (s.setTile f.id u)) (hclear : u.clearPrevious = false) :
    Announces area s ((s.setTile f.id u).announceTile f) := by
  have hrow := tile?_setTile hf u
  have hsame : (s.setTile f.id u).announceTile f = (s.setTile f.id u).announce [f.update u] := by
    show _ = (s.setTile f.id u).announceTile (f.update u)
    rw [announceTile, announceTile, jobOf?_update hclear]
  rw [hsame]
  refine (Announces.silent (recalls_setTile s f.id u) rfl).trans (hset.announces fun t ht => ?_)
  rw [List.mem_singleton.1 ht]
  exact ⟨mem_of_tile? hrow, harea⟩

end Store

namespace Cascade
open Store
variable {s s' : Store} {f : Tile} {x : Scene} {area : String} {message : Option String}
  {change : Transition}

/-! ### Changes -/

theorem announces_applyToTile (h : Forest s) (hf : s.tile? f.id = some f)
    (harea : s.aoiOf? f = some area) {scene : Status} {force : Bool}
    (hok : (applyToTile f scene message force change).exec s = .ok ((), s')) :
    Announces area s s' := by
  cases change with
  | finish =>
    have hset : Forest (s.setTile f.id { status := .done, message }) :=
      h.setTile hf nofun rfl nofun
    have hrow := tile?_setTile hf { status := .done, message }
    rw [applyToTile, exec_finishTile_eq rfl hset.toLegible hset.toSchema hf] at hok
    cases hok
    refine (Announces.silent (recalls_setTile s f.id _) rfl).trans (hset.announces_setOff ?_)
    intro t ht hwaits
    have hlink : t.previous = some f.id := waitsFor_previous hwaits
    exact (hset.same_area t ht (f.update _) (mem_of_tile? hrow) (.inl hlink)).symm.trans harea
  | fail =>
    obtain ⟨g, hg, -, rfl⟩ := failTile_eq_ok h hok
    cases hf.symm.trans hg
    exact h.announces_failTile hf harea message
  | overwrite status =>
    rw [applyToTile, Work.exec_updateTile hf] at hok
    cases hok
    exact .silent (recalls_setTile s f.id _) rfl
  | requeue =>
    obtain rfl := requeueTile_eq_ok h hf hok
    exact announces_handOut hf harea (h.setTile hf nofun rfl nofun) rfl
  | retry =>
    rcases retryTile_eq_ok h hf hok with ⟨hpos, rfl⟩ | ⟨-, rfl⟩
    · exact announces_handOut hf harea (h.setTile hf nofun rfl fun _ => hpos) rfl
    · exact .silent (recalls_setTile s f.id _) rfl

theorem announces_failTiles (h : Forest s) {ts : List Tile}
    (hts : ∀ t ∈ ts, ∀ f, s.tile? t.id = some f → s.aoiOf? f = some area)
    (hok : (ts.forM fun t => failTile t.id none).exec s = .ok (⟨⟩, s')) : Announces area s s' := by
  induction ts generalizing s with
  | nil =>
    cases hok
    exact .refl s'
  | cons t rest ih =>
    obtain ⟨_, s₁, hstep, hrest⟩ := Work.exec_bind_eq_ok (w := failTile t.id none)
      (f := fun _ => rest.forM fun t => failTile t.id none) hok
    have hforest := forest_failTile h hstep
    obtain ⟨f, hf, -, rfl⟩ := failTile_eq_ok h hstep
    have hid := tile?_id hf
    have hfirst := h.announces_failTile (hid ▸ hf) (hts t List.mem_cons_self f hf) none
    refine hfirst.trans (ih hforest (fun u hu g hg => ?_) hrest)
    have hsame := sameRows_announce (s.failTile f none) (s.freed f none)
    rw [hsame.tile?, tile?_failTile, Option.map_eq_some_iff] at hg
    obtain ⟨v, hv, rfl⟩ := hg
    rw [aoiOf?, hsame.scene?, ← aoiOf?, aoiOf?_failRow]
    exact hts u (List.mem_cons_of_mem t hu) v hv

theorem announces_handOutScene (hx : s.scene? x.id = some x) (u : StatusUpdate) :
    Announces x.aoi s ((s.setScene x.id u).enqueueJob .sceneJobs x.ref.toJson.print) :=
  (Announces.silent (recalls_setScene s x.id u) rfl).trans
    (announces_enqueueScene (x := x.update u) (scene?_setScene hx u))

theorem announces_applyToScene (h : Forest s) (hx : s.scene? x.id = some x)
    (hok : (applyToScene x message change).exec s = .ok ((), s')) : Announces x.aoi s s' := by
  cases change with
  | finish =>
    have hset : Forest (s.setScene x.id { status := .done, message }) := h.setScene hx nofun
    rw [applyToScene, exec_finishScene_eq rfl hset.toLegible hset.toSchema hx] at hok
    cases hok
    have hrow := scene?_setScene hx { status := .done, message }
    exact (Announces.silent (recalls_setScene s x.id { status := .done, message }) rfl).trans
      (hset.announces_setOffScene (x := x.update { status := .done, message }) hrow)
  | fail =>
    have hset : Forest (s.setScene x.id { status := .failed, message }) := h.setScene hx nofun
    have hrow := scene?_setScene hx { status := .failed, message }
    refine (Announces.silent (recalls_setScene s x.id _) rfl).trans
      (announces_failTiles hset (fun t ht f hf => ?_) (failScene_eq_ok hok).2)
    obtain ⟨hmem, hscene⟩ := List.mem_filter.1 ht
    have hfind : s.tile? t.id = some f := hf
    rw [h.tile?_of_mem hmem] at hfind
    cases hfind
    rw [aoiOf?, eq_of_beq hscene, hrow]
    rfl
  | overwrite status =>
    rw [applyToScene, Work.exec_updateScene hx] at hok
    cases hok
    exact .silent (recalls_setScene s x.id _) rfl
  | requeue =>
    rw [applyToScene, requeueScene, exec_handOutScene_eq hx] at hok
    cases hok
    exact announces_handOutScene hx _
  | retry =>
    rw [applyToScene, retryScene] at hok
    split at hok
    · rw [exec_handOutScene_eq hx] at hok
      cases hok
      exact announces_handOutScene hx _
    · rw [Work.exec_updateScene hx] at hok
      cases hok
      exact .silent (recalls_setScene s x.id _) rfl

end Cascade
end SceneWorkflow
