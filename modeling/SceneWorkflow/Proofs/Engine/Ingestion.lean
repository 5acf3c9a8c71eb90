import SceneWorkflow.Ingestion
import SceneWorkflow.Proofs.Cascade.TileSteps
import SceneWorkflow.Proofs.UnitOfWork.Bodies

/-!
# Taking up scenes

A scene that is taken up is pending until all its tiles are stored. They are new,
build on tiles that have not failed, and no job of theirs is queued.
-/
namespace SceneWorkflow
namespace Store
variable {s s' : Store} {t : Tile} {x : Scene} {id scene : Int} {late : Prop}

theorem legible_budget (budget : Int32) : leastBudget ≤ budget.toInt := Int32.le_toInt budget

/-! ### A new scene -/

theorem sceneStatus?_addScene_of_isSome (h : (s.scene? id).isSome) (x : Scene) :
    (s.addScene x).sceneStatus? id = s.sceneStatus? id := by
  obtain ⟨y, hy⟩ := Option.isSome_iff_exists.1 h
  rw [sceneStatus?, scene?_addScene_of_some hy, sceneStatus?, hy]

theorem Sound.createScene {d : SceneDraft} (h : Sound [] s) (hd : d.status = .pending)
    (hok : s.createScene d = .ok (id, s')) :
    Sound [] s' ∧ s'.sceneStatus? id = some .pending ∧ Handed [] [] s s' ∧
      s'.outbox = s.outbox := by
  have hschema := h.toSchema.createScene hok
  obtain ⟨-, -, hid, rfl⟩ := createScene_eq_ok hok
  have htiles : (s.addScene (d.row id)).tiles = s.tiles := rfl
  have hhanded : Handed [] [] s (s.addScene (d.row id)) := .of_tiles htiles []
  refine ⟨h.of_handed hschema ?_ ?_ hhanded, ?_, hhanded, rfl⟩
  · constructor
    · intro y hy
      rcases List.mem_append.1 hy with hy | hy
      · exact h.scene_legible y hy
      · rw [List.mem_singleton.1 hy]
        exact legible_budget d.budget
    · exact h.tile_legible
  · refine h.toLifecycle.congr rfl ?_ fun t ht =>
      sceneStatus?_addScene_of_isSome (h.scene_exists t ht) _
    intro y hy
    rcases List.mem_append.1 hy with hy | hy
    · exact h.scene_taken_up y hy
    · rw [List.mem_singleton.1 hy]
      show d.status ≠ .new
      rw [hd]
      nofun
  · have hfresh : s.scene? id = none := h.scene?_eq_none (by omega)
    have hfound : (s.addScene (d.row id)).scene? id = some (d.row id) := by
      rw [scene?_addScene, hfresh]
      exact if_pos rfl
    rw [sceneStatus?_of_scene? hfound]
    exact congrArg some hd

/-! ### A new tile -/

/-- A tile may build on tiles that exist and have not failed. -/
def Buildable (s : Store) (link : Option Int) : Prop :=
  ∀ id, link = some id → ∃ t, s.tile? id = some t ∧ t.status ≠ .failed

theorem buildable_of_resolve {aoi field : String} {l : Option TileLink} {link : Option Int}
    (hs : s.Ordered) (h : s.resolve aoi field l = .ok link) : s.Buildable link := by
  intro id hid
  obtain ⟨-, rfl⟩ | ⟨l, t, -, ht, hlive, rfl⟩ := resolve_eq_ok h
  · cases hid
  · cases hid
    exact ⟨t, hs.tile?_of_mem (mem_of_linked? ht).1, hlive⟩

theorem tileStatus?_addTile_of_some (h : s.tile? id = some t) (u : Tile) :
    (s.addTile u).tileStatus? id = s.tileStatus? id := by
  rw [tileStatus?, tile?_addTile_of_some h, tileStatus?, h]

theorem previousStatus?_addTile (hlinked : s.hasLinked t.previous) (u : Tile) :
    (s.addTile u).previousStatus? t = s.previousStatus? t := by
  rw [previousStatus?, previousStatus?]
  cases hprevious : t.previous with
  | none => rfl
  | some k =>
    rw [hprevious] at hlinked
    obtain ⟨p, hp⟩ := Option.isSome_iff_exists.1 hlinked
    exact tileStatus?_addTile_of_some hp u

theorem handed_addTile (hnew : t.status = .new) (href : s.Buildable t.reference) :
    Handed [] [] s (s.addTile t) := by
  have hfailed (id : Int) (h : (s.addTile t).tileStatus? id = some .failed) :
      s.tileStatus? id = some .failed := by
    cases hrow : s.tile? id with
    | some u => rwa [tileStatus?_addTile_of_some hrow] at h
    | none =>
      rw [tileStatus?, tile?_addTile, hrow, Option.none_or] at h
      split at h
      · rw [Option.map_some, hnew] at h
        cases h
      · cases h
  constructor
  · exact fun _ hid => hid
  · intro id h
    obtain ⟨u, hu, -⟩ := tileStatus?_eq_some.1 h
    rwa [tileStatus?_addTile_of_some hu]
  · exact fun id h => .inl (hfailed id h)
  · exact fun id u hu => ⟨u, tile?_addTile_of_some hu t, .inl rfl⟩
  · intro id u hu hnone
    rw [tile?_addTile, hnone, Option.none_or] at hu
    split at hu
    · cases hu
      refine ⟨⟨List.not_mem_nil, fun h => ?_⟩, fun r hr => ⟨List.not_mem_nil, fun h => ?_⟩⟩
      · have hbefore := hfailed id h
        rw [tileStatus?, hnone] at hbefore
        cases hbefore
      · obtain ⟨v, hv, hlive⟩ := href r hr
        have hr' := hfailed r h
        rw [tileStatus?_of_tile? hv] at hr'
        exact hlive (Option.some.inj hr')
    · cases hu

theorem Lifecycle.addTile (h : Lifecycle [] s) (hs : s.Schema) (hid : ∀ u ∈ s.tiles, u.id < t.id)
    (hnew : t.status = .new) (hscene : s.sceneStatus? t.scene = some .pending)
    (hprevious : s.Buildable t.previous) : Lifecycle [] (s.addTile t) where
  scene_taken_up := h.scene_taken_up
  previous_lt := by
    intro u hu k hk
    rcases List.mem_append.1 hu with hu | hu
    · exact h.previous_lt u hu k hk
    · rw [List.mem_singleton.1 hu] at hk ⊢
      obtain ⟨p, hp, -⟩ := hprevious k hk
      rw [← tile?_id hp]
      exact hid p (mem_of_tile? hp)
  fits := by
    intro u hu
    rcases List.mem_append.1 hu with hu | hu
    · rw [previousStatus?_addTile (hs.previous_exists u hu)]
      exact h.fits u hu
    · rw [List.mem_singleton.1 hu, hnew]
      refine ⟨?_, .inr ⟨List.not_mem_nil, .inl hscene⟩⟩
      rw [previousStatus?]
      cases hp : t.previous with
      | none => simp
      | some k =>
        obtain ⟨p, hrow, hlive⟩ := hprevious k hp
        show (s.addTile t).tileStatus? k ≠ _
        rw [tileStatus?_addTile_of_some hrow, tileStatus?_of_tile? hrow]
        exact fun he => hlive (Option.some.inj he)
  doomed_exist := fun _ hid => absurd hid List.not_mem_nil
  doomed_distinct := .nil
  doomed_together := fun _ _ _ _ hid => absurd hid List.not_mem_nil

theorem Sound.createTile {d : TileDraft} (h : Sound [] s)
    (hscene : s.sceneStatus? d.scene = some .pending) (hok : s.createTile d = .ok (id, s')) :
    Sound [] s' ∧ s'.sceneStatus? d.scene = some .pending ∧ Handed [] [] s s' ∧
      s'.outbox = s.outbox := by
  have hschema := h.toSchema.createTile hok
  obtain ⟨previous, reference, hprevious, hreference, hinsert⟩ := createTile_eq_ok hok
  obtain ⟨-, -, hid, rfl⟩ := insertTile_eq_ok hinsert
  have hhanded : Handed [] [] s (s.addTile (d.row id previous reference)) :=
    handed_addTile rfl (buildable_of_resolve h.toOrdered hreference)
  refine ⟨h.of_handed hschema ?_ ?_ hhanded, hscene, hhanded, rfl⟩
  · constructor
    · exact h.scene_legible
    · intro u hu
      rcases List.mem_append.1 hu with hu | hu
      · exact h.tile_legible u hu
      · rw [List.mem_singleton.1 hu]
        exact legible_budget d.budget
  · refine h.toLifecycle.addTile h.toSchema ?_ rfl hscene
      (buildable_of_resolve h.toOrdered hprevious)
    intro u hu
    show u.id < id
    have := h.tile_le u hu
    omega

/-! ### A scene with its tiles -/

structure Grows (scene : Int) (s s' : Store) : Prop where
  sound : Sound [] s'
  pending : s'.sceneStatus? scene = some .pending
  handed : Handed [] [] s s'
  quiet : ∃ js, s'.outbox = s.outbox ++ js ∧ ∀ j ∈ js, j.topic ≠ .tileJobs

theorem Grows.of_sameRows (h : Sound [] s) (hpending : s.sceneStatus? scene = some .pending)
    (hsame : SameRows s s') {js : List QueuedJob} (hout : s'.outbox = s.outbox ++ js)
    (hjs : ∀ j ∈ js, j.topic ≠ .tileJobs) : Grows scene s s' :=
  ⟨h.of_sameRows hsame, by rwa [hsame.sceneStatus?], .of_sameRows hsame [], js, hout, hjs⟩

theorem Grows.trans {s₁ s₂ s₃ : Store} (h₁ : Grows scene s₁ s₂) (h₂ : Grows scene s₂ s₃) :
    Grows scene s₁ s₃ where
  sound := h₂.sound
  pending := h₂.pending
  handed := h₁.handed.trans h₂.handed
  quiet := by
    obtain ⟨js, hout, hjs⟩ := h₁.quiet
    obtain ⟨js', hout', hjs'⟩ := h₂.quiet
    refine ⟨js ++ js', by rw [hout', hout, List.append_assoc], ?_⟩
    intro j hj
    exact (List.mem_append.1 hj).elim (hjs j) (hjs' j)

theorem Grows.advances (h : Grows scene s s') : Advances late s s' := by
  obtain ⟨js, hout, hjs⟩ := h.quiet
  exact ⟨h.sound, ⟨[], h.handed⟩, js, hout, fun j hj htopic => absurd htopic (hjs j hj)⟩

end Store

namespace Ingestion
open Store Program
variable {s s' : Store} {late : Prop}

/-- What may be asked while the tiles of a scene are stored. -/
def Fills (scene : Int) (aoi : String) : Instruction → Prop
  | .call (.createTile draft) => draft.scene = scene ∧ draft.aoi = aoi
  | .call (.enqueueJob topic _) => topic ≠ .tileJobs
  | .call (.scene _) => True
  | .call (.refreshAoiStatus area) => area = aoi
  | .call _ => False
  | _ => True

theorem fills_createTiles (r : SceneRequest) (scene : Int) (passes : Nat)
    (created : List String) : (createTiles r scene passes created).Uses (Fills scene r.aoi) :=
  uses_createTiles (fun _ hscene haoi => ⟨hscene, haoi⟩) (fun _ _ => trivial) passes created

def sceneDraft (r : SceneRequest) : SceneDraft where
  sourceId := r.sourceId
  aoi := r.aoi
  status := .pending
  attrs := r.attrs
  budget := r.budget

def completeScene (r : SceneRequest) (scene : Int) : Work Int := do
  createTiles r scene r.tiles.size []
  let stored ← Work.scene scene
  Cascade.queueScene stored
  let _ ← Work.refreshAoiStatus r.aoi
  return scene

theorem fills_completeScene (r : SceneRequest) (scene : Int) :
    (completeScene r scene).Uses (Fills scene r.aoi) := by
  apply uses_bind (fills_createTiles r scene _ _)
  intro _
  apply uses_bind (uses_perform trivial)
  intro stored
  refine uses_bind (uses_perform (P := Fills scene r.aoi) (i := .call (.enqueueJob .sceneJobs _))
    nofun) fun _ => ?_
  exact uses_bind (uses_perform rfl) fun _ => uses_pure _ _

theorem insertScene_eq_ok {r : SceneRequest} {id : Int}
    (hok : (insertScene r).exec s = .ok (id, s')) :
    ∃ scene s₁, s.createScene (sceneDraft r) = .ok (scene, s₁) ∧
      (completeScene r scene).exec s₁ = .ok (id, s') := by
  unfold insertScene at hok
  obtain ⟨_, s₁, haoi, hok⟩ := Work.exec_bind_eq_ok hok
  obtain ⟨_, _, heq⟩ := map_eq_ok.1 (Work.exec_call (.aoi r.aoi) s ▸ haoi)
  cases heq
  obtain ⟨found, s₂, hfound, hok⟩ := Work.exec_bind_eq_ok hok
  cases Work.exec_call (.sceneId r.aoi r.sourceId) s ▸ hfound
  split at hok
  · cases hok
  · unfold storeScene at hok
    obtain ⟨scene, s₃, hcreate, hok⟩ := Work.exec_bind_eq_ok hok
    exact ⟨scene, s₃, (Work.exec_call (.createScene (sceneDraft r)) s).symm.trans hcreate, hok⟩

/-- Each such call stores a tile or leaves all rows alone. -/
theorem fills_cases {scene : Int} {aoi : String} {c : Call} {a : c.Answer}
    (hc : Fills scene aoi (.call c)) (hok : c.perform s = .ok (a, s')) :
    SameRows s s' ∨ ∃ draft id, draft.scene = scene ∧ draft.aoi = aoi ∧
      s.createTile draft = .ok (id, s') := by
  cases c with
  | createTile draft => exact .inr ⟨draft, a, hc.1, hc.2, hok⟩
  | enqueueJob topic payload =>
    cases hok
    exact .inl (sameRows_enqueueJob s topic payload)
  | refreshAoiStatus area =>
    cases hok
    exact .inl (sameRows_refreshAoiStatus s area)
  | scene id =>
    obtain ⟨_, _, heq⟩ := map_eq_ok.1 hok
    cases heq
    exact .inl (.refl s)
  | aoi _ | sceneId _ _ | createScene _ | updateScene _ _ | updateSceneAttrs _ _ | tile _
  | sceneTiles _ | updateTile _ _ | updateTileAttrs _ _ | setTilesStatus _ _ | unblockNextTiles _
  | unblockSceneTiles _ | unblockSceneRootTiles _ | reparentNextTiles _ _ | referencingTiles _
  | reassignReference _ _ => exact hc.elim

/-- What taking up a scene does to the rows it does by storing scenes and tiles. -/
theorem relates_insertScene {R : Store → Store → Prop}
    (hrows : ∀ {s s'}, SameRows s s' → R s s')
    (htrans : ∀ {s₁ s₂ s₃}, R s₁ s₂ → R s₂ s₃ → R s₁ s₃)
    (hscene : ∀ {s d id s'}, s.createScene d = .ok (id, s') → R s s')
    (htile : ∀ {s d id s'}, s.createTile d = .ok (id, s') → R s s')
    {r : SceneRequest} {id : Int} (hok : (insertScene r).exec s = .ok (id, s')) : R s s' := by
  obtain ⟨scene, s₁, hcreate, hrest⟩ := insertScene_eq_ok hok
  refine htrans (hscene hcreate) ?_
  refine Work.exec_relates (P := Fills scene r.aoi) (fun s => hrows (.refl s)) htrans ?_
    (fills_completeScene r scene) hrest
  intro c s a s' hc hcall
  rcases fills_cases hc hcall with hsame | ⟨draft, id, -, -, hcreate⟩
  · exact hrows hsame
  · exact htile hcreate

theorem grows_of_perform {scene : Int} {aoi : String} {c : Call} {a : c.Answer}
    (hc : Fills scene aoi (.call c))
    (hok : c.perform s = .ok (a, s')) (h : Sound [] s)
    (hpending : s.sceneStatus? scene = some .pending) : Grows scene s s' := by
  cases c with
  | createTile draft =>
    obtain ⟨rfl, -⟩ := hc
    obtain ⟨hsound, hpending', hhanded, hout⟩ := h.createTile hpending hok
    exact ⟨hsound, hpending', hhanded, [], by rw [hout, List.append_nil], fun _ hj => nomatch hj⟩
  | enqueueJob topic payload =>
    cases hok
    refine .of_sameRows h hpending (sameRows_enqueueJob s topic payload) rfl ?_
    intro j hj
    rw [List.mem_singleton.1 hj]
    exact hc
  | scene id =>
    obtain ⟨_, _, heq⟩ := map_eq_ok.1 hok
    cases heq
    exact .of_sameRows h hpending (.refl s) (List.append_nil _).symm fun _ hj => nomatch hj
  | refreshAoiStatus aoi =>
    cases hok
    have hout : (s.refreshAoiStatus aoi).2.outbox = s.outbox ++ [] :=
      (outbox_refreshAoiStatus s aoi).trans (List.append_nil _).symm
    exact .of_sameRows h hpending (sameRows_refreshAoiStatus s aoi) hout nofun
  | aoi _ | sceneId _ _ | createScene _ | updateScene _ _ | updateSceneAttrs _ _ | tile _
  | sceneTiles _ | updateTile _ _ | updateTileAttrs _ _ | setTilesStatus _ _ | unblockNextTiles _
  | unblockSceneTiles _ | unblockSceneRootTiles _ | reparentNextTiles _ _ | referencingTiles _
  | reassignReference _ _ => exact hc.elim

theorem grows_of_exec {α : Type} {scene : Int} {aoi : String} {w : Work α} {a : α}
    (hw : w.Uses (Fills scene aoi))
    (hok : w.exec s = .ok (a, s')) (h : Sound [] s)
    (hpending : s.sceneStatus? scene = some .pending) : Grows scene s s' := by
  refine Work.exec_relates (P := Fills scene aoi)
    (R := fun s s' => Sound [] s → s.sceneStatus? scene = some .pending → Grows scene s s')
    ?_ ?_ ?_ hw hok h hpending
  · exact fun s h hpending => .of_sameRows h hpending (.refl s) (List.append_nil _).symm nofun
  · intro s₁ s₂ s₃ h₁ h₂ h hpending
    have hfirst := h₁ h hpending
    exact hfirst.trans (h₂ hfirst.sound hfirst.pending)
  · exact fun c s a s' hc hok h hpending => grows_of_perform hc hok h hpending

/-- Taking up a scene, if it succeeds, advances a sound store. -/
theorem advances_insertScene {r : SceneRequest} {id : Int} (h : Sound [] s)
    (hok : (insertScene r).exec s = .ok (id, s')) : Advances late s s' := by
  obtain ⟨scene, s₁, hcreate, hrest⟩ := insertScene_eq_ok hok
  obtain ⟨hsound, hpending, hhanded, hout⟩ := h.createScene rfl hcreate
  have hgrows : Grows scene s s₁ :=
    ⟨hsound, hpending, hhanded, [], by rw [hout, List.append_nil], fun _ hj => nomatch hj⟩
  exact (hgrows.trans (grows_of_exec (fills_completeScene r scene) hrest hsound hpending)).advances

end Ingestion

end SceneWorkflow
