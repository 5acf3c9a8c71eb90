import SceneWorkflow.Proofs.Cascade.Effects

/-!
# The outcome of a request

What a request for a scene or tile comes to once it has been accepted: the row of the
entity moves on, other tiles of the area fail or start, and jobs are queued for what
has been handed out.
-/
namespace SceneWorkflow

namespace Transition

def update (change : Transition) (budget : Int) (message : Option String) : StatusUpdate :=
  match change with
  | finish => { status := .done, message }
  | retry =>
    if 0 < budget then { status := .pending, message, consume := true }
    else { status := .retry, message }
  | requeue => { status := .pending, message }
  | fail => { status := .failed, message }
  | overwrite status => { status, message }

def handsOut (change : Transition) (budget : Int) : Bool :=
  match change with
  | retry => decide (0 < budget)
  | requeue => true
  | _ => false

theorem clearPrevious_update (change : Transition) (budget : Int) (message : Option String) :
    (change.update budget message).clearPrevious = false := by
  cases change with
  | finish | requeue | fail | overwrite => rfl
  | retry =>
    unfold Transition.update
    dsimp only
    split <;> rfl

theorem status_update_of_end {change : Transition}
    (hend : change = .finish ∨ change = .fail) (budget : Int) (message : Option String) :
    (change.update budget message).status ≠ .new ∧
      (change.update budget message).status ≠ .pending := by
  rcases hend with rfl | rfl <;> exact ⟨nofun, nofun⟩

end Transition

def EntityKind.topic : EntityKind → Topic
  | scene => .sceneJobs
  | tile => .tileJobs

namespace Store
variable {s s' : Store} {kind : EntityKind} {id : Int} {change : Transition} {budget : Int}
  {message : Option String} {area : String}

def moved (s : Store) : EntityKind → Int → StatusUpdate → Store
  | .scene, id, u => s.setScene id u
  | .tile, id, u => s.setTile id u

def movedTile (kind : EntityKind) (id : Int) (u : StatusUpdate) (t : Tile) : Tile :=
  if kind = .tile ∧ t.id = id then t.update u else t

def movedScene (kind : EntityKind) (id : Int) (u : StatusUpdate) (x : Scene) : Scene :=
  if kind = .scene ∧ x.id = id then x.update u else x

theorem movedTile_id (kind : EntityKind) (id : Int) (u : StatusUpdate) (t : Tile) :
    (movedTile kind id u t).id = t.id := by
  unfold movedTile
  split <;> rfl

theorem movedScene_id (kind : EntityKind) (id : Int) (u : StatusUpdate) (x : Scene) :
    (movedScene kind id u x).id = x.id := by
  unfold movedScene
  split <;> rfl

theorem moved_eq (s : Store) (kind : EntityKind) (id : Int) (u : StatusUpdate) :
    s.moved kind id u =
      { s with
        scenes := s.scenes.map (movedScene kind id u)
        tiles := s.tiles.map (movedTile kind id u) } := by
  cases kind with
  | scene =>
    have htiles : movedTile .scene id u = fun t => t := by funext t; simp [movedTile]
    rw [htiles, List.map_id']
    simp [moved, setScene, modifyScenes, movedScene]
  | tile =>
    have hscenes : movedScene .tile id u = fun x => x := by funext x; simp [movedScene]
    rw [hscenes, List.map_id']
    simp [moved, setTile, modifyTiles, movedTile]

theorem tile?_moved (s : Store) (kind : EntityKind) (id : Int) (u : StatusUpdate) (k : Int) :
    (s.moved kind id u).tile? k = (s.tile? k).map (movedTile kind id u) := by
  rw [← tile?_mapTiles (movedTile_id kind id u), tile?, moved_eq, tile?, mapTiles]

theorem tileStatus?_moved (s : Store) (kind : EntityKind) (id : Int) (u : StatusUpdate) (k : Int) :
    (s.moved kind id u).tileStatus? k =
      if kind = .tile ∧ k = id then (s.tileStatus? k).map fun _ => u.status
      else s.tileStatus? k := by
  cases kind with
  | scene => rfl
  | tile =>
    rw [moved, tileStatus?_setTile]
    simp only [true_and]

theorem scene?_moved (s : Store) (kind : EntityKind) (id : Int) (u : StatusUpdate) (k : Int) :
    (s.moved kind id u).scene? k = (s.scene? k).map (movedScene kind id u) := by
  simp only [scene?, moved_eq, List.find?_map]
  congr 2
  funext x
  simp [movedScene_id]

theorem ordered_moved (ho : s.Ordered) (kind : EntityKind) (id : Int) (u : StatusUpdate) :
    (s.moved kind id u).Ordered := by
  cases kind with
  | scene => exact ho.modifyScenes fun _ => rfl
  | tile =>
    refine ho.mapTiles fun t => ?_
    split <;> rfl

def failedBy (s : Store) (change : Transition) (kind : EntityKind) (id : Int) : List Int :=
  match change with
  | .fail => s.failing kind id
  | _ => []

/-- What a request comes to that is accepted. Jobs are queued for the entity if it is handed out and
for the tiles that start, one for each. -/
structure Outcome (kind : EntityKind) (id : Int) (change : Transition) (budget : Int)
    (message : Option String) (area : String) (s s' : Store) (notices : List Notice) : Prop where
  ripples : Ripples area (s.failedBy change kind id)
    (s.moved kind id (change.update budget message)) s'
  quiet : change ≠ .finish → change ≠ .fail →
    s'.tiles = (s.moved kind id (change.update budget message)).tiles
  splices : Splices (s.failedBy change kind id) s s'
  posts : s.Posts notices s'
  distinct : (notices.map Notice.subject).Nodup
  subjects : ∀ topic k, (topic, k) ∈ notices.map Notice.subject ↔
    topic = kind.topic ∧ k = id ∧ change.handsOut budget = true ∨
    topic = .tileJobs ∧
      (s.moved kind id (change.update budget message)).tileStatus? k = some .new ∧
      s'.tileStatus? k = some .pending
  current : ∀ n ∈ notices, s'.Carries n

theorem outbox_moved (s : Store) (kind : EntityKind) (id : Int) (u : StatusUpdate) :
    (s.moved kind id u).outbox = s.outbox := by
  cases kind <;> rfl

theorem posts_of_moved {u : StatusUpdate} {notices : List Notice}
    (h : (s.moved kind id u).Posts notices s') : s.Posts notices s' := by
  unfold Posts at h
  rwa [outbox_moved] at h

/-- An entity that moves on stays where it is in all chains. -/
theorem sameLinks_moved (s : Store) (kind : EntityKind) (id : Int) {u : StatusUpdate}
    (hclear : u.clearPrevious = false) : SameLinks s (s.moved kind id u) := by
  intro k t ht
  refine ⟨movedTile kind id u t, by rw [tile?_moved, ht]; rfl, ?_⟩
  unfold movedTile
  split
  · exact t.previous_update hclear
  · rfl

/-- While no tile fails, all chains stay as they are. -/
theorem splices_of_moved (hgone : s.failedBy change kind id = [])
    (h : Shifts (s.failedBy change kind id) (s.moved kind id (change.update budget message)) s') :
    Splices (s.failedBy change kind id) s s' := by
  rw [hgone] at h ⊢
  have hlinks : SameLinks (s.moved kind id (change.update budget message)) s' := by
    intro k t ht
    obtain ⟨t', ht', hmoves⟩ := h.row k t ht
    exact ⟨t', ht', hmoves.kept List.not_mem_nil nofun⟩
  exact (sameLinks_moved s kind id (change.clearPrevious_update ..)).splices.trans hlinks.splices

/-- Nothing is handed out but the tiles that start. -/
theorem outcome_of_releases {jobs : List TileJob}
    (h : Releases area (s.failedBy change kind id)
      (s.moved kind id (change.update budget message)) s' jobs)
    (hsplices : Splices (s.failedBy change kind id) s s')
    (hquiet : change ≠ .finish → change ≠ .fail →
      s'.tiles = (s.moved kind id (change.update budget message)).tiles)
    (hout : change.handsOut budget = false) :
    Outcome kind id change budget message area s s' (jobs.map .tile) where
  ripples := h.toRipples
  quiet := hquiet
  splices := hsplices
  posts := posts_of_moved h.posts
  distinct := by
    have hids := h.distinct
    rw [List.map_map]
    rw [List.Nodup, List.pairwise_map] at hids ⊢
    exact hids.imp fun hne he => hne (congrArg Prod.snd he)
  subjects := by
    intro topic k
    rw [hout, ← h.released, List.map_map]
    simp only [List.mem_map, Function.comp_apply, Bool.false_eq_true, and_false, false_or]
    constructor
    · rintro ⟨job, hjob, heq⟩
      cases heq
      exact ⟨rfl, job, hjob, rfl⟩
    · rintro ⟨rfl, job, hjob, rfl⟩
      exact ⟨job, hjob, rfl⟩
  current := by
    intro n hn
    obtain ⟨job, hjob, rfl⟩ := List.mem_map.1 hn
    exact h.current job hjob

theorem outcome_of_moved (hgone : s.failedBy change kind id = [])
    (hout : change.handsOut budget = false) :
    Outcome kind id change budget message area s
      (s.moved kind id (change.update budget message)) [] := by
  have h : Releases area (s.failedBy change kind id)
      (s.moved kind id (change.update budget message))
      (s.moved kind id (change.update budget message)) [] := by
    rw [hgone]
    exact .refl _
  exact outcome_of_releases h (splices_of_moved hgone h.toShifts) (fun _ _ => rfl) hout

theorem outcome_of_handOut {n : Notice} (hgone : s.failedBy change kind id = [])
    (hout : change.handsOut budget = true) (htopic : n.topic = kind.topic) (hid : n.id = id)
    (hcarries : (s.moved kind id (change.update budget message)).Carries n) :
    Outcome kind id change budget message area s
      ((s.moved kind id (change.update budget message)).enqueueJob n.topic n.payload) [n] where
  ripples := by
    rw [hgone]
    exact .of_tiles rfl rfl rfl
  quiet := fun _ _ => rfl
  splices := by
    have hshifts : Shifts (s.failedBy change kind id)
        (s.moved kind id (change.update budget message))
        ((s.moved kind id (change.update budget message)).enqueueJob n.topic n.payload) := by
      rw [hgone]
      exact .of_tiles rfl rfl
    exact splices_of_moved hgone hshifts
  posts := posts_of_moved (posts_enqueueJob _ n)
  distinct := List.pairwise_singleton _ _
  subjects := by
    intro topic k
    rw [(sameRows_enqueueJob _ n.topic n.payload).tileStatus?, hout, List.map_singleton,
      List.mem_singleton, Notice.subject, htopic, hid]
    constructor
    · intro heq
      cases heq
      exact .inl ⟨rfl, rfl, rfl⟩
    · rintro (⟨rfl, rfl, -⟩ | ⟨-, hnew, hpending⟩)
      · rfl
      · rw [hnew] at hpending
        cases hpending
  current := by
    intro m hm
    rw [List.mem_singleton.1 hm]
    exact (sameRows_enqueueJob _ n.topic n.payload).carries hcarries

end Store

namespace Cascade
open Store
variable {s s' : Store} {f : Tile} {x : Scene} {area : String} {message : Option String}
  {change : Transition}

theorem outcome_handOutTile (hs : s.Schema) (hf : s.tile? f.id = some f)
    (hgone : s.failedBy change .tile f.id = []) (hout : change.handsOut f.budget = true)
    (hstatus : (change.update f.budget message).status = .pending)
    (hclear : (change.update f.budget message).clearPrevious = false) :
    ∃ notices, Outcome .tile f.id change f.budget message area s
      ((s.setTile f.id (change.update f.budget message)).announceTile f) notices := by
  have hschema := hs.setTile hf (change.update f.budget message)
  have hrow := tile?_setTile hf (change.update f.budget message)
  obtain ⟨y, hy⟩ := Option.isSome_iff_exists.1 (hschema.scene_exists _ (mem_of_tile? hrow))
  have hjob := jobOf?_of_scene? hy
  have hcarries := carries_of_jobOf? hschema hrow hstatus hjob
  rw [jobOf?_update hclear] at hjob
  rw [announceTile, hjob]
  exact ⟨_, outcome_of_handOut (n := .tile _) hgone hout rfl rfl hcarries⟩

theorem outcome_applyToTile (h : Forest s) (hf : s.tile? f.id = some f)
    (harea : s.aoiOf? f = some area) {scene : Status} {force : Bool}
    (hok : (applyToTile f scene message force change).exec s = .ok ((), s')) :
    ∃ notices, Outcome .tile f.id change f.budget message area s s' notices := by
  cases change with
  | finish =>
    obtain ⟨jobs, hreleases⟩ := releases_finishTile h hf harea hok
    have hshifts : Shifts (s.failedBy .finish .tile f.id)
        (s.moved .tile f.id (Transition.finish.update f.budget message)) s' := hreleases.toShifts
    exact ⟨_, outcome_of_releases hreleases (splices_of_moved rfl hshifts)
      (fun hne => absurd rfl hne) rfl⟩
  | fail =>
    obtain ⟨jobs, hreleases⟩ := releases_fail h hf harea hok
    have hstart : Fells [] s s := ⟨h, splices_of_tiles rfl, nofun⟩
    have hfells := fells_failTile hstart hok
    exact ⟨_, outcome_of_releases hreleases hfells.splices (fun _ hne => absurd rfl hne) rfl⟩
  | overwrite status =>
    rw [applyToTile, Work.exec_updateTile hf] at hok
    cases hok
    exact ⟨[], outcome_of_moved rfl rfl⟩
  | requeue =>
    obtain rfl := requeueTile_eq_ok h hf hok
    exact outcome_handOutTile h.toSchema hf rfl rfl rfl rfl
  | retry =>
    rcases retryTile_eq_ok h hf hok with ⟨hpos, rfl⟩ | ⟨hpos, rfl⟩
    · have hupdate : Transition.retry.update f.budget message =
          { status := .pending, message, consume := true } := if_pos hpos
      rw [← hupdate]
      exact outcome_handOutTile h.toSchema hf rfl (decide_eq_true hpos) (by rw [hupdate])
        (by rw [hupdate])
    · have hupdate : Transition.retry.update f.budget message = { status := .retry, message } :=
        if_neg hpos
      rw [← hupdate]
      exact ⟨[], outcome_of_moved rfl (decide_eq_false hpos)⟩

theorem outcome_handOutScene (hx : s.scene? x.id = some x)
    (hgone : s.failedBy change .scene x.id = []) (hout : change.handsOut x.budget = true)
    (hstatus : (change.update x.budget message).status = .pending) :
    ∃ notices, Outcome .scene x.id change x.budget message x.aoi s
      ((s.setScene x.id (change.update x.budget message)).enqueueJob .sceneJobs
        x.ref.toJson.print) notices :=
  ⟨_, outcome_of_handOut (n := .scene x.ref) hgone hout rfl rfl
    ⟨_, scene?_setScene hx _, hstatus, rfl⟩⟩

theorem outcome_applyToScene (h : Forest s) (hx : s.scene? x.id = some x)
    (hok : (applyToScene x message change).exec s = .ok ((), s')) :
    ∃ notices, Outcome .scene x.id change x.budget message x.aoi s s' notices := by
  cases change with
  | finish =>
    obtain ⟨jobs, hreleases⟩ := releases_finishScene h hx hok
    have hshifts : Shifts (s.failedBy .finish .scene x.id)
        (s.moved .scene x.id (Transition.finish.update x.budget message)) s' := hreleases.toShifts
    exact ⟨_, outcome_of_releases hreleases (splices_of_moved rfl hshifts)
      (fun hne => absurd rfl hne) rfl⟩
  | fail =>
    obtain ⟨jobs, hreleases⟩ := releases_failScene h hx hok
    have hfells := fells_failScene h hx hok
    exact ⟨_, outcome_of_releases hreleases hfells.splices (fun _ hne => absurd rfl hne) rfl⟩
  | overwrite status =>
    rw [applyToScene, Work.exec_updateScene hx] at hok
    cases hok
    exact ⟨[], outcome_of_moved rfl rfl⟩
  | requeue =>
    rw [applyToScene, requeueScene, exec_handOutScene_eq hx] at hok
    cases hok
    exact outcome_handOutScene hx rfl rfl rfl
  | retry =>
    rw [applyToScene, retryScene] at hok
    split at hok
    · next hpos =>
      have hupdate : Transition.retry.update x.budget message =
          { status := .pending, message, consume := true } := if_pos hpos
      rw [exec_handOutScene_eq hx] at hok
      cases hok
      rw [← hupdate]
      exact outcome_handOutScene hx rfl (decide_eq_true hpos) (by rw [hupdate])
    · next hpos =>
      have hupdate : Transition.retry.update x.budget message = { status := .retry, message } :=
        if_neg hpos
      rw [Work.exec_updateScene hx] at hok
      cases hok
      rw [← hupdate]
      exact ⟨[], outcome_of_moved rfl (decide_eq_false hpos)⟩

end Cascade
end SceneWorkflow
