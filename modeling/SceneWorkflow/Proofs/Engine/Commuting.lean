import SceneWorkflow.Proofs.Engine.Completion
import SceneWorkflow.Proofs.Engine.Turns
import SceneWorkflow.Proofs.UnitOfWork.Calm

/-!
# Requests commute

Two unforced requests for different scenes or tiles that are worked on can be carried out
in either order. What they come to together is determined by the moves of the two rows:
which tiles fail and what tiles follow does not depend on the order, and where all other
tiles stand is decided by the life cycle.
-/
namespace SceneWorkflow

namespace Tile

/-- All of a tile but what it is compared with. -/
def uncompared (t : Tile) : Tile := { t with reference := none }

end Tile

def Notice.key (n : Notice) : Topic × Int × Option Int := (n.topic, n.id, n.previous)

namespace Store
variable {s p q m : Store} {a b : StatusRequest} {ns ms : List Notice} {gone more chain : List Int}
  {k : Int} {t u v : Tile} {scene previous previous' : Option Status} {st st' : Status}

/-- The stores agree on scenes, on where areas stand, and on all of the tiles but what they are
compared with. -/
structure Agree (s s' : Store) : Prop where
  scenes : s'.scenes = s.scenes
  aois : ∀ name, s'.aois.find? name = s.aois.find? name
  tiles : s'.tiles.map Tile.uncompared = s.tiles.map Tile.uncompared

/-! ### The order does not matter -/

theorem both_comm (hne : a.entity ≠ b.entity) : b.both a s = a.both b s := moved_comm (Ne.symm hne)

theorem Moves.congr (h : Moves gone t u) (hmem : ∀ k, k ∈ more ↔ k ∈ gone) : Moves more t u where
  same := h.same
  failed := fun hgone => h.failed ((hmem t.id).1 hgone)
  started := fun hstays => h.started fun hgone => hstays ((hmem t.id).2 hgone)
  settled := fun hstays => h.settled fun hgone => hstays ((hmem t.id).2 hgone)
  kept := fun hstays hother => h.kept (fun hgone => hstays ((hmem t.id).2 hgone))
    fun k hgone => hother k ((hmem k).2 hgone)

theorem Shifts.congr (h : Shifts gone m s) (hmem : ∀ k, k ∈ more ↔ k ∈ gone) : Shifts more m s where
  scenes := h.scenes
  ids := h.ids
  row := by
    intro k t ht
    obtain ⟨u, hu, hmoves⟩ := h.row k t ht
    exact ⟨u, hu, hmoves.congr hmem⟩

theorem Splices.congr (h : Splices gone m s) (hmem : ∀ k, k ∈ more ↔ k ∈ gone) :
    Splices more m s := by
  intro k chain hk hchain
  have hsame : chain.filter (· ∉ more) = chain.filter (· ∉ gone) :=
    List.filter_congr fun k _ => decide_eq_decide.2 (not_congr (hmem k))
  rw [hsame]
  exact h k chain (fun hgone => hk ((hmem k).2 hgone)) hchain

theorem Joint.symm (h : Joint b a s p ns) (hne : a.entity ≠ b.entity) : Joint a b s p ns where
  shifts := by
    rw [← both_comm hne]
    exact h.shifts.congr fun k => by rw [List.mem_append, List.mem_append, or_comm]
  splices := h.splices.congr fun k => by rw [List.mem_append, List.mem_append, or_comm]
  aois := h.aois
  distinct := h.distinct
  subjects := by
    intro topic k
    rw [h.subjects, both_comm hne]
    exact or_congr_left Or.comm
  links := h.links

/-! ### What is determined -/

/-- A tile that goes on has not ended when others start. -/
theorem Moves.ended_eq (h : Moves gone t u) (hstays : t.id ∉ gone) :
    u.status.isTerminal = t.status.isTerminal := by
  rcases h.started hstays with hsame | ⟨hnew, hpending⟩
  · rw [hsame]
  · rw [hnew, hpending]
    rfl

/-- A tile is new as long as its scene or the tile that it follows has not ended. -/
theorem Fits.new_congr (h : Fits False scene previous st) (h' : Fits False scene previous' st')
    (hsame : previous'.map Status.isTerminal = previous.map Status.isTerminal) :
    st' = .new ↔ st = .new := by
  have hwaits (previous : Option Status) :
      (∃ x, previous = some x ∧ (x = .new ∨ x = .pending ∨ x = .retry)) ↔
        previous.map Status.isTerminal = some false := by
    cases previous with
    | none => simp
    | some x => cases x <;> simp [Status.isTerminal]
  rw [h.new_iff, h'.new_iff, hwaits, hwaits, hsame]

section
variable (hp : Joint a b s p ns) (hq : Joint a b s q ms)
include hp hq

/-- Tiles fail, and follow others, irrespective of the order. -/
theorem Joint.previous_eq (hs : Forest s) (ht : p.tile? k = some t) (hu : q.tile? k = some u) :
    u.previous = t.previous := by
  obtain ⟨v, hv, hmoves⟩ := hp.shifts.exists_tile? ht
  obtain ⟨w, hw, hmoves'⟩ := hq.shifts.exists_tile? hu
  cases hv.symm.trans hw
  by_cases hgone : v.id ∈ a.gone s ++ b.gone s
  · rw [(hmoves.failed hgone).2, (hmoves'.failed hgone).2]
  · rw [tile?_id hv] at hgone
    rw [StatusRequest.both, tile?_moved, StatusRequest.moves, tile?_moved, Option.map_map,
      Option.map_eq_some_iff] at hv
    obtain ⟨x, hx, -⟩ := hv
    obtain rfl := tile?_id hx
    obtain ⟨chain, hchain⟩ := hs.exists_chain (mem_of_tile? hx)
    rw [(hp.splices _ chain hgone hchain).head_eq ht, (hq.splices _ chain hgone hchain).head_eq hu]

theorem Joint.ended_eq (k : Int) : (q.tileStatus? k).map Status.isTerminal =
    (p.tileStatus? k).map Status.isTerminal := by
  cases hv : (a.both b s).tile? k with
  | none => rw [tileStatus?, hq.shifts.tile?_eq_none hv, tileStatus?, hp.shifts.tile?_eq_none hv]
  | some v =>
    obtain ⟨t, ht, hmoves⟩ := hp.shifts.row k v hv
    obtain ⟨u, hu, hmoves'⟩ := hq.shifts.row k v hv
    rw [tileStatus?_of_tile? ht, tileStatus?_of_tile? hu]
    by_cases hgone : v.id ∈ a.gone s ++ b.gone s
    · rw [(hmoves.failed hgone).1, (hmoves'.failed hgone).1]
    · rw [Option.map_some, Option.map_some, hmoves.ended_eq hgone, hmoves'.ended_eq hgone]

/-- Tiles start irrespective of the order: whether one is new yet is decided by where its scene and
the tile that it follows stand. -/
theorem Joint.status_eq (hs : Forest s) (hps : Sound [] p) (hqs : Sound [] q)
    (ht : p.tile? k = some t) (hu : q.tile? k = some u) : u.status = t.status := by
  obtain ⟨v, hv, hmoves⟩ := hp.shifts.exists_tile? ht
  obtain ⟨w, hw, hmoves'⟩ := hq.shifts.exists_tile? hu
  cases hv.symm.trans hw
  by_cases hgone : v.id ∈ a.gone s ++ b.gone s
  · rw [(hmoves.failed hgone).1, (hmoves'.failed hgone).1]
  by_cases hnew : v.status = .new
  · have hfits := hps.fits t (mem_of_tile? ht)
    have hfits' := hqs.fits u (mem_of_tile? hu)
    rw [eq_false (List.not_mem_nil (a := t.id))] at hfits
    rw [eq_false (List.not_mem_nil (a := u.id))] at hfits'
    have hplace : q.sceneStatus? u.scene = p.sceneStatus? t.scene := by
      rw [sceneStatus?, hq.shifts.scene?, sceneStatus?, hp.shifts.scene?, hmoves.scene_eq,
        hmoves'.scene_eq]
    have hended : (q.previousStatus? u).map Status.isTerminal =
        (p.previousStatus? t).map Status.isTerminal := by
      rw [previousStatus?, hp.previous_eq hq hs ht hu, previousStatus?]
      cases t.previous with
      | none => rfl
      | some l => exact hp.ended_eq hq l
    rw [hplace] at hfits'
    have hiff := hfits.new_congr hfits' hended
    have hstarted := hmoves.started hgone
    have hstarted' := hmoves'.started hgone
    rw [hnew] at hstarted hstarted'
    rcases hstarted with hsame | ⟨-, hpending⟩
    · rw [hsame, hiff.2 hsame]
    · rcases hstarted' with hsame | ⟨-, hpending'⟩
      · cases (hiff.1 hsame).symm.trans hpending
      · rw [hpending, hpending']
  · rw [hmoves.status_eq hgone hnew, hmoves'.status_eq hgone hnew]

theorem Joint.row_eq (hs : Forest s) (hps : Sound [] p) (hqs : Sound [] q) (k : Int) :
    (q.tile? k).map Tile.uncompared = (p.tile? k).map Tile.uncompared := by
  cases hv : (a.both b s).tile? k with
  | none => rw [hq.shifts.tile?_eq_none hv, hp.shifts.tile?_eq_none hv]
  | some v =>
    obtain ⟨t, ht, hmoves⟩ := hp.shifts.row k v hv
    obtain ⟨u, hu, hmoves'⟩ := hq.shifts.row k v hv
    have hstatus := hp.status_eq hq hs hps hqs ht hu
    have hprevious := hp.previous_eq hq hs ht hu
    rw [ht, hu, hmoves.same, hmoves'.same, hstatus, hprevious]
    rfl

/-- The stores agree, whichever request came first. -/
theorem Joint.agree (hs : Forest s) (hps : Sound [] p) (hqs : Sound [] q) (hpf : Fresh p)
    (hqf : Fresh q) : Agree p q := by
  have hscenes : q.scenes = p.scenes := hq.shifts.scenes.trans hp.shifts.scenes.symm
  have htiles : q.tiles.map Tile.uncompared = p.tiles.map Tile.uncompared := by
    refine map_eq_map_of_keys (hq.shifts.ids.trans hp.shifts.ids.symm) fun t ht u hu hid => ?_
    have hrow := hp.row_eq hq hs hps hqs t.id
    rw [← hid, hqs.tile?_of_mem hu, hid, hps.tile?_of_mem ht] at hrow
    exact Option.some.inj hrow
  have hstandings : q.tileStandings = p.tileStandings := by
    have hsame := congrArg (List.map fun t : Tile => (t.scene, t.status)) htiles
    rwa [List.map_map, List.map_map] at hsame
  have hscene : q.sceneStandings = p.sceneStandings := by
    rw [sceneStandings, hscenes, sceneStandings]
  refine ⟨hscenes, fun name => ?_, htiles⟩
  have hkeys := (hq.aois name).trans (hp.aois name).symm
  cases hfind : q.aois.find? name with
  | none =>
    rw [hfind] at hkeys
    exact (Option.not_isSome_iff_eq_none.1 fun hsome => by rw [hsome] at hkeys; cases hkeys).symm
  | some status =>
    rw [hfind] at hkeys
    obtain ⟨status', hfind'⟩ := Option.isSome_iff_exists.1 hkeys.symm
    rw [hfind', hqf name status hfind, hpf name status' hfind', aggregate_congr hscene hstandings]

/-- The jobs are the same, whichever request came first. -/
theorem Joint.perm (hs : Forest s) (hps : Sound [] p) (hqs : Sound [] q) :
    (ns.map Notice.key).Perm (ms.map Notice.key) := by
  have hrow := hp.row_eq hq hs hps hqs
  have hstatus (k : Int) : q.tileStatus? k = p.tileStatus? k := by
    have hsame := congrArg (Option.map (·.status)) (hrow k)
    rwa [Option.map_map, Option.map_map] at hsame
  have hlink : q.link = p.link := by
    funext subject
    obtain ⟨topic, k⟩ := subject
    cases topic with
    | sceneJobs => rfl
    | tileJobs =>
      have hsame := congrArg (Option.bind · (·.previous)) (hrow k)
      rw [Option.bind_map, Option.bind_map] at hsame
      exact hsame
  have hsubjects : (ns.map Notice.subject).Perm (ms.map Notice.subject) := by
    refine (List.perm_ext_iff_of_nodup hp.distinct hq.distinct).2 ?_
    rintro ⟨topic, k⟩
    rw [hp.subjects, hq.subjects, hstatus]
  have hkeys {s' : Store} {notices : List Notice}
      (h : ∀ n ∈ notices, n.previous = s'.link n.subject) :
      notices.map Notice.key =
        (notices.map Notice.subject).map fun x => (x.1, x.2, s'.link x) := by
    rw [List.map_map]
    refine List.map_congr_left fun n hn => ?_
    rw [Notice.key, h n hn]
    rfl
  rw [hkeys hp.links, hkeys hq.links, hlink]
  exact hsubjects.map _

end

end Store

open Store
variable {σ : Type} [Sink σ] {w : World σ} {a b r : StatusRequest}

def StatusRequest.perform (σ : Type) [Sink σ] (r : StatusRequest) : Operation σ Bool :=
  updateStatus r.kind r.id r.status r.message false

/-- The request is answered, and what it comes to is committed. These jobs are queued. -/
structure Answered (r : StatusRequest) (w : World σ) (accepted : Bool) (notices : List Notice) :
    Prop where
  answer : (r.perform σ w).1 = .ok accepted
  queued : ∃ committed, Commits w committed (r.perform σ w).2 ∧ w.store.Posts notices committed

theorem Reachable.perform (h : Reachable w.store) (r : StatusRequest) :
    Reachable (r.perform σ w).2.store :=
  h.run (.updateStatus r.kind r.id r.status r.message false) w rfl

theorem calm_perform (hw : w.Calm) (r : StatusRequest) : (r.perform σ w).2.Calm := by
  have hmeets := StaysMeeting.within_updateStatus (P := (· = none)) nofun r.kind r.id r.status
    r.message false w hw.meets
  exact hmeets.calm

theorem Reachable.turn (h : Reachable w.store) (hw : w.Calm) (hr : r.Underway w.store) :
    ∃ notices, Answered r w (r.accepted w.store) notices ∧
      Turn r w.store (r.perform σ w).2.store notices := by
  have hok := updateStatus_of_calm h.sound hw hr.present_eq.1 r.status r.message
  obtain ⟨committed, hexec, hcommits⟩ := updateStatus_commits h.attainable.queued hok
  obtain ⟨present, budget, area, hdecides⟩ := Cascade.decides_change h.attainable.forest hexec
  obtain ⟨rest, -, hstore⟩ := hcommits.left
  have hsame : SameRows committed (r.perform σ w).2.store := by
    rw [StatusRequest.perform, hstore]
    exact ⟨fun _ haoi => haoi, rfl, rfl, rfl, rfl⟩
  have haois : (r.perform σ w).2.store.aois = committed.aois := by
    rw [StatusRequest.perform, hstore]
  obtain ⟨notices, hposts, hturn⟩ := hdecides.turn h.sound.toOrdered hsame haois
  exact ⟨notices, ⟨hok, committed, hcommits, hposts⟩, hturn⟩

theorem Reachable.joint (h : Reachable w.store) (hw : w.Calm) (hne : a.entity ≠ b.entity)
    (ha : a.Underway w.store) (hb : b.Underway w.store) :
    ∃ ns ms, Answered a w (a.accepted w.store) ns ∧
      Answered b (a.perform σ w).2 (b.accepted w.store) ms ∧
      Joint a b w.store (b.perform σ (a.perform σ w).2).2.store (ns ++ ms) := by
  obtain ⟨ns, hanswer, hturn⟩ := h.turn hw ha
  have hb₁ := hturn.underway h.sound hne ha hb
  obtain ⟨ms, hanswer', hturn'⟩ := (h.perform a).turn (calm_perform hw a) hb₁
  rw [hturn.accepted_eq h.sound hne ha hb] at hanswer'
  exact ⟨ns, ms, hanswer, hanswer', hturn.joint hturn' h.sound (h.perform a).sound hne ha hb⟩

/-- In every store that comes about without force, undisturbed requests for two different scenes or
tiles that are worked on or parked can be carried out in either order. They are answered alike,
leave stores that agree, and queue the same jobs. -/
theorem Reachable.requests_commute (h : Reachable w.store) (hw : w.Calm)
    (hne : a.entity ≠ b.entity) (ha : a.Underway w.store) (hb : b.Underway w.store) :
    ∃ x y a₁ b₁ b₂ a₂,
      Answered a w x a₁ ∧ Answered b (a.perform σ w).2 y b₁ ∧
      Answered b w y b₂ ∧ Answered a (b.perform σ w).2 x a₂ ∧
      Agree (b.perform σ (a.perform σ w).2).2.store (a.perform σ (b.perform σ w).2).2.store ∧
      ((a₁ ++ b₁).map Notice.key).Perm ((b₂ ++ a₂).map Notice.key) := by
  obtain ⟨a₁, b₁, hfirst, hsecond, hjoint⟩ := h.joint hw hne ha hb
  obtain ⟨b₂, a₂, hfirst', hsecond', hjoint'⟩ := h.joint hw (Ne.symm hne) hb ha
  have hforest := h.attainable.forest
  have hp := (h.perform a).perform b
  have hq := (h.perform b).perform a
  have hswapped := hjoint'.symm hne
  refine ⟨_, _, a₁, b₁, b₂, a₂, hfirst, hsecond, hfirst', hsecond', ?_, ?_⟩
  · exact hjoint.agree hswapped hforest hp.sound hq.sound hp.attainable.fresh hq.attainable.fresh
  · exact hjoint.perm hswapped hforest hp.sound hq.sound

/-- Of three tiles in a row, each in a scene of its own, the first is worked on. The scene of the
second is still to be downloaded. -/
def scattered : World Recorder :=
  World.after { sink := {} }
    [.createAoi "north",
      .ingestScene "north" (.ofTiles "north" "s1" [("a", {})]),
      .ingestScene "north" (.ofTiles "north" "s2" [("b", { previous := some ⟨"s1", "a"⟩ })]),
      .ingestScene "north" (.ofTiles "north" "s3" [("c", { previous := some ⟨"s2", "b"⟩ })]),
      .updateStatus .scene 1 .done none false,
      .updateStatus .scene 3 .done none false]

def firstDone : StatusRequest := { kind := .tile, id := 1, status := .done }

def secondLost : StatusRequest := { kind := .scene, id := 2, status := .failed }

/-- The third tile starts once the first is done and the second has failed with its scene. -/
theorem requests_commute_scattered :
    Reachable scattered.store ∧ scattered.Calm ∧ firstDone.entity ≠ secondLost.entity ∧
      firstDone.Underway scattered.store ∧ secondLost.Underway scattered.store ∧
      ∃ x y a₁ b₁ b₂ a₂,
        Answered firstDone scattered x a₁ ∧
        Answered secondLost (firstDone.perform Recorder scattered).2 y b₁ ∧
        Answered secondLost scattered y b₂ ∧
        Answered firstDone (secondLost.perform Recorder scattered).2 x a₂ ∧
        Agree (secondLost.perform Recorder (firstDone.perform Recorder scattered).2).2.store
          (firstDone.perform Recorder (secondLost.perform Recorder scattered).2).2.store ∧
        ((a₁ ++ b₁).map Notice.key).Perm ((b₂ ++ a₂).map Notice.key) := by
  have hreach : Reachable scattered.store := Reachable.empty.after (by decide)
  have hfaults : scattered.faults.isEmpty = true := by decide +kernel
  have hcalm : scattered.Calm := by
    refine ⟨by decide +kernel, ?_⟩
    rw [List.isEmpty_iff.1 hfaults]
    exact Faults.quiet_nil
  have hne : firstDone.entity ≠ secondLost.entity := by decide
  have hfirst : firstDone.Underway scattered.store := ⟨.pending, by decide +kernel, rfl⟩
  have hsecond : secondLost.Underway scattered.store := ⟨.pending, by decide +kernel, rfl⟩
  exact ⟨hreach, hcalm, hne, hfirst, hsecond, hreach.requests_commute hcalm hne hfirst hsecond⟩

end SceneWorkflow
