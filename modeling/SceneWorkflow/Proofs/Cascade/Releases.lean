import SceneWorkflow.Proofs.Cascade.ForestSteps
import SceneWorkflow.Proofs.Cascade.SceneSteps

/-!
# What changes entail

When a tile or scene finishes or fails, tiles may fail with it and tiles may start.
Every tile that starts is announced once, as the unit of work leaves it, and no
other tile is. Nothing outside the area of the change is touched.
-/
namespace SceneWorkflow

inductive Notice where
  | scene (ref : SceneRef)
  | tile (job : TileJob)

namespace Notice

def topic : Notice → Topic
  | scene _ => .sceneJobs
  | tile _ => .tileJobs

def payload : Notice → String
  | scene ref => ref.toJson.print
  | tile job => job.toJson.print

def id : Notice → Int
  | scene ref => ref.id
  | tile job => job.tile.id

def previous : Notice → Option Int
  | scene _ => none
  | tile job => job.previous.map (·.id)

def subject (n : Notice) : Topic × Int := (n.topic, n.id)

end Notice

namespace Store
variable {s s' s'' : Store} {f t t' : Tile} {x : Scene} {id : Int} {area : String}
  {gone more : List Int} {message : Option String}

/-! ### Jobs that are queued -/

/-- The second store holds further jobs, with these contents. -/
def Posts (s : Store) (notices : List Notice) (s' : Store) : Prop :=
  ∃ jobs, s'.outbox = s.outbox ++ jobs ∧
    jobs.map (fun j => (j.topic, j.payload)) = notices.map fun n => (n.topic, n.payload)

theorem posts_nil (h : s'.outbox = s.outbox) : s.Posts [] s' :=
  ⟨[], by rw [h, List.append_nil], rfl⟩

theorem Posts.trans {ns ms : List Notice} (h : s.Posts ns s') (h' : s'.Posts ms s'') :
    s.Posts (ns ++ ms) s'' := by
  obtain ⟨js, hjs, hns⟩ := h
  obtain ⟨ks, hks, hms⟩ := h'
  refine ⟨js ++ ks, by rw [hks, hjs, List.append_assoc], ?_⟩
  rw [List.map_append, List.map_append, hns, hms]

theorem posts_enqueueJob (s : Store) (n : Notice) :
    s.Posts [n] (s.enqueueJob n.topic n.payload) :=
  ⟨[⟨s.lastJob + 1, n.topic, n.payload⟩], rfl, rfl⟩

def jobsOf (s : Store) (ts : List Tile) : List TileJob := ts.filterMap s.jobOf?

theorem posts_announceTile (s : Store) (t : Tile) :
    s.Posts ((s.jobsOf [t]).map .tile) (s.announceTile t) := by
  unfold jobsOf announceTile
  cases hjob : s.jobOf? t with
  | none =>
    rw [List.filterMap_cons_none hjob]
    exact posts_nil rfl
  | some job =>
    rw [List.filterMap_cons_some hjob]
    exact posts_enqueueJob s (.tile job)

theorem posts_announce (s : Store) (ts : List Tile) :
    s.Posts ((s.jobsOf ts).map .tile) (s.announce ts) := by
  induction ts generalizing s with
  | nil => exact posts_nil rfl
  | cons t ts ih =>
    have hsame : (s.announceTile t).jobsOf ts = s.jobsOf ts :=
      congrArg (ts.filterMap ·) (funext (sameRows_announceTile s t).jobOf?)
    have hsplit : s.jobsOf (t :: ts) = s.jobsOf [t] ++ s.jobsOf ts :=
      List.filterMap_append (l := [t])
    rw [hsplit, List.map_append, ← hsame]
    exact (posts_announceTile s t).trans (ih (s.announceTile t))

theorem aois_announce (s : Store) (ts : List Tile) : (s.announce ts).aois = s.aois := by
  induction ts generalizing s with
  | nil => rfl
  | cons t ts ih =>
    refine (ih (s.announceTile t)).trans ?_
    unfold announceTile
    split <;> rfl

theorem ids_jobsOf (hs : s.Schema) {ts : List Tile} (hts : ∀ t ∈ ts, t ∈ s.tiles) :
    (s.jobsOf ts).map (·.tile.id) = ts.map (·.id) := by
  induction ts with
  | nil => rfl
  | cons t ts ih =>
    obtain ⟨x, hx⟩ := Option.isSome_iff_exists.1 (hs.scene_exists t (hts t List.mem_cons_self))
    rw [jobsOf, List.filterMap_cons_some (jobOf?_of_scene? hx), List.map_cons, List.map_cons]
    exact congrArg _ (ih fun u hu => hts u (List.mem_cons_of_mem _ hu))

/-- The job is that of a scene or tile that has been handed out, as the store describes it. It names
the tile that a tile follows. -/
def Carries (s : Store) : Notice → Prop
  | .scene ref => ∃ x, s.scene? ref.id = some x ∧ x.status = .pending ∧ x.ref = ref
  | .tile job => ∃ t, s.tile? job.tile.id = some t ∧ t.status = .pending ∧
      s.tileRef? t.id = some job.tile ∧ job.previous = t.previous.bind s.tileRef? ∧
      job.previous.map (·.id) = t.previous

theorem SameRows.carries (h : SameRows s s') {n : Notice} (hn : s.Carries n) : s'.Carries n := by
  have href : s'.tileRef? = s.tileRef? := funext h.tileRef?
  cases n with
  | scene ref =>
    obtain ⟨x, hx, hrow⟩ := hn
    exact ⟨x, (h.scene? _).trans hx, hrow⟩
  | tile job =>
    obtain ⟨t, ht, hpending, hdescribed, hprevious⟩ := hn
    exact ⟨t, (h.tile? _).trans ht, hpending, (h.tileRef? _).trans hdescribed, href ▸ hprevious.1,
      hprevious.2⟩

theorem carries_of_jobOf? {job : TileJob} (hs : s.Schema) (ht : s.tile? t.id = some t)
    (hpending : t.status = .pending) (hjob : s.jobOf? t = some job) : s.Carries (.tile job) := by
  obtain ⟨x, hx, rfl⟩ := Option.map_eq_some_iff.1 hjob
  exact ⟨t, ht, hpending, tileRef?_of_tile? ht hx, rfl,
    hs.map_id_tileRef? (hs.previous_exists t (mem_of_tile? ht))⟩

/-! ### Rows that follow -/

/-- The row of a tile after those that are gone have failed and others have started. -/
structure Moves (gone : List Int) (t t' : Tile) : Prop where
  same : t' = { t with status := t'.status, previous := t'.previous, reference := t'.reference }
  failed : t.id ∈ gone → t'.status = .failed ∧ t'.previous = none
  started : t.id ∉ gone → t'.status = t.status ∨ t.status = .new ∧ t'.status = .pending
  settled : t.id ∉ gone → t.status ≠ .new → t'.previous = t.previous
  kept : t.id ∉ gone → (∀ id ∈ gone, t.previous ≠ some id) → t'.previous = t.previous

namespace Moves

theorem refl (t : Tile) : Moves [] t t :=
  ⟨rfl, nofun, fun _ => .inl rfl, fun _ _ => rfl, fun _ _ => rfl⟩

variable (h : Moves gone t t')
include h

theorem id_eq : t'.id = t.id := by rw [h.same]

theorem scene_eq : t'.scene = t.scene := by rw [h.same]

theorem sourceId_eq : t'.sourceId = t.sourceId := by rw [h.same]

theorem attrs_eq : t'.attrs = t.attrs := by rw [h.same]

theorem refIn (ref : SceneRef) : t'.refIn ref = t.refIn ref := by
  rw [Tile.refIn, h.id_eq, h.sourceId_eq, h.attrs_eq, Tile.refIn]

/-- A tile that goes on and has started stands where it stood. -/
theorem status_eq (hstays : t.id ∉ gone) (hstarted : t.status ≠ .new) : t'.status = t.status :=
  (h.started hstays).resolve_right fun hnew => hstarted hnew.1

/-- Only new tiles are new afterwards. -/
theorem new_of_new (hnew : t'.status = .new) : t.status = .new := by
  by_cases hgone : t.id ∈ gone
  · cases (h.failed hgone).1.symm.trans hnew
  · rcases h.started hgone with hsame | ⟨hbefore, -⟩
    · exact hsame.symm.trans hnew
    · exact hbefore

theorem trans {t'' : Tile} (h' : Moves more t' t'') : Moves (gone ++ more) t t'' where
  same := by
    rw [h'.same, h.same]
  failed := by
    intro hid
    by_cases hmore : t'.id ∈ more
    · exact h'.failed hmore
    · have hgone : t.id ∈ gone :=
        (List.mem_append.1 hid).resolve_right fun hid => hmore (h.id_eq ▸ hid)
      obtain ⟨hfailed, hnone⟩ := h.failed hgone
      have hstarted : t'.status ≠ .new := by
        rw [hfailed]
        nofun
      rw [h'.status_eq hmore hstarted, h'.settled hmore hstarted]
      exact ⟨hfailed, hnone⟩
  started := by
    intro hid
    rw [List.mem_append, not_or, ← h.id_eq] at hid
    obtain ⟨hgone, hmore⟩ := hid
    rw [h.id_eq] at hgone
    rcases h.started hgone with hsame | ⟨hnew, hpending⟩
    · rw [← hsame]
      exact h'.started hmore
    · refine .inr ⟨hnew, ?_⟩
      rw [h'.status_eq hmore (by rw [hpending]; nofun), hpending]
  settled := by
    intro hid hstarted
    rw [List.mem_append, not_or] at hid
    have hstatus := h.status_eq hid.1 hstarted
    rw [h'.settled (h.id_eq ▸ hid.2) (hstatus ▸ hstarted), h.settled hid.1 hstarted]
  kept := by
    intro hid hother
    rw [List.mem_append, not_or] at hid
    have hsame := h.kept hid.1 fun id hgone => hother id (List.mem_append_left _ hgone)
    rw [h'.kept (h.id_eq ▸ hid.2) fun id hmore => hsame ▸ hother id (List.mem_append_right _ hmore),
      hsame]

end Moves

/-- Only tiles change, in the ways that others entail. -/
structure Shifts (gone : List Int) (s s' : Store) : Prop where
  scenes : s'.scenes = s.scenes
  ids : s'.tiles.map (·.id) = s.tiles.map (·.id)
  row : ∀ id t, s.tile? id = some t → ∃ t', s'.tile? id = some t' ∧ Moves gone t t'

namespace Shifts

theorem of_tiles (hscenes : s'.scenes = s.scenes) (htiles : s'.tiles = s.tiles) :
    Shifts [] s s' where
  scenes := hscenes
  ids := by rw [htiles]
  row := fun id t ht => ⟨t, by rw [tile?, htiles]; exact ht, .refl t⟩

theorem trans (h : Shifts gone s s') (h' : Shifts more s' s'') : Shifts (gone ++ more) s s'' where
  scenes := h'.scenes.trans h.scenes
  ids := h'.ids.trans h.ids
  row := by
    intro id t ht
    obtain ⟨t', ht', hmoves⟩ := h.row id t ht
    obtain ⟨t'', ht'', hmoves'⟩ := h'.row id t' ht'
    exact ⟨t'', ht'', hmoves.trans hmoves'⟩

variable (h : Shifts gone s s')
include h

theorem scene? (id : Int) : s'.scene? id = s.scene? id := by
  rw [Store.scene?, h.scenes, Store.scene?]

theorem tile?_eq_none (ht : s.tile? id = none) : s'.tile? id = none := by
  refine List.find?_eq_none.2 fun t' ht' hid => ?_
  have hmem : t'.id ∈ s.tiles.map (·.id) := h.ids ▸ List.mem_map_of_mem ht'
  obtain ⟨t, ht₀, hsame⟩ := List.mem_map.1 hmem
  refine List.find?_eq_none.1 ht t ht₀ ?_
  rw [hsame]
  exact hid

theorem tiles_ascend (ho : s.Ordered) : s'.tiles.Pairwise fun t u => t.id < u.id :=
  List.pairwise_map.1 (h.ids ▸ List.pairwise_map.2 ho.tiles_ascend)

/-- Tiles can be told apart by their ids. -/
theorem moves_of_mem (ho : s.Ordered) (ht : t ∈ s.tiles) (ht' : t' ∈ s'.tiles)
    (hid : t'.id = t.id) : Moves gone t t' := by
  obtain ⟨u, hu, hmoves⟩ := h.row t.id t (ho.tile?_of_mem ht)
  have hfind : s'.tile? t'.id = some t' := find?_of_ascending (h.tiles_ascend ho) ht'
  rw [hid, hu] at hfind
  cases hfind
  exact hmoves

theorem exists_tile? (ht' : s'.tile? id = some t') :
    ∃ t, s.tile? id = some t ∧ Moves gone t t' := by
  cases ht : s.tile? id with
  | none => cases (h.tile?_eq_none ht).symm.trans ht'
  | some t =>
    obtain ⟨u, hu, hmoves⟩ := h.row id t ht
    cases hu.symm.trans ht'
    exact ⟨t, rfl, hmoves⟩

/-- What has started goes on if it does not fail. -/
theorem lasts {status : Status} (hstatus : s.tileStatus? id = some status)
    (hstarted : status ≠ .new) (hstays : id ∉ gone) : s'.tileStatus? id = some status := by
  obtain ⟨t, ht, rfl⟩ := tileStatus?_eq_some.1 hstatus
  obtain ⟨t', ht', hmoves⟩ := h.row id t ht
  rw [← tile?_id ht] at hstays
  rw [tileStatus?_of_tile? ht', hmoves.status_eq hstays hstarted]

theorem new_before (hnew : s'.tileStatus? id = some .new) : s.tileStatus? id = some .new := by
  obtain ⟨t', ht', hstatus⟩ := tileStatus?_eq_some.1 hnew
  obtain ⟨t, ht, hmoves⟩ := h.exists_tile? ht'
  rw [tileStatus?_of_tile? ht, hmoves.new_of_new hstatus]

/-- A tile is only handed out that was new before. -/
theorem pending_before (hpending : s'.tileStatus? id = some .pending) :
    s.tileStatus? id = some .new ∨ s.tileStatus? id = some .pending := by
  obtain ⟨t', ht', hstatus⟩ := tileStatus?_eq_some.1 hpending
  obtain ⟨t, ht, hmoves⟩ := h.exists_tile? ht'
  rw [tileStatus?_of_tile? ht]
  by_cases hgone : t.id ∈ gone
  · cases (hmoves.failed hgone).1.symm.trans hstatus
  · rcases hmoves.started hgone with hsame | ⟨hnew, -⟩
    · exact .inr (congrArg some (hsame.symm.trans hstatus))
    · exact .inl (congrArg some hnew)

theorem tileRef? (id : Int) : s'.tileRef? id = s.tileRef? id := by
  cases ht : s.tile? id with
  | none =>
    rw [Store.tileRef?, h.tile?_eq_none ht, Store.tileRef?, ht]
    rfl
  | some t =>
    obtain ⟨t', ht', hmoves⟩ := h.row id t ht
    rw [Store.tileRef?, ht', Store.tileRef?, ht, Option.bind_some, Option.bind_some,
      hmoves.scene_eq, h.scene?]
    exact Option.map_congr fun x _ => hmoves.refIn x.ref

theorem aoiOf? (t : Tile) : s'.aoiOf? t = s.aoiOf? t := by
  rw [Store.aoiOf?, h.scene?, Store.aoiOf?]

/-- A job stays right while its tile goes on. -/
theorem carries {job : TileJob} (hstays : job.tile.id ∉ gone) (hjob : s.Carries (.tile job)) :
    s'.Carries (.tile job) := by
  have href : s'.tileRef? = s.tileRef? := funext h.tileRef?
  obtain ⟨t, ht, hpending, hdescribed, hprevious, hid⟩ := hjob
  obtain ⟨t', ht', hmoves⟩ := h.row _ t ht
  have hstarted : t.status ≠ .new := by
    rw [hpending]
    nofun
  rw [← tile?_id ht] at hstays
  have hfollows := hmoves.settled hstays hstarted
  refine ⟨t', ht', ?_, ?_, ?_, hid.trans hfollows.symm⟩
  · rw [hmoves.status_eq hstays hstarted, hpending]
  · rw [href, hmoves.id_eq, hdescribed]
  · rw [href, hfollows, hprevious]

end Shifts

/-- All that changes is in one area. -/
structure Ripples (area : String) (gone : List Int) (s s' : Store) : Prop
    extends Shifts gone s s' where
  aois : s'.aois = s.aois
  outside : ∀ id t, s.tile? id = some t → s.aoiOf? t ≠ some area → s'.tile? id = some t

namespace Ripples

theorem of_tiles (haois : s'.aois = s.aois) (hscenes : s'.scenes = s.scenes)
    (htiles : s'.tiles = s.tiles) : Ripples area [] s s' where
  toShifts := .of_tiles hscenes htiles
  aois := haois
  outside := fun id t ht _ => by
    rw [tile?, htiles]
    exact ht

theorem trans (h : Ripples area gone s s') (h' : Ripples area more s' s'') :
    Ripples area (gone ++ more) s s'' where
  toShifts := h.toShifts.trans h'.toShifts
  aois := h'.aois.trans h.aois
  outside := fun id t ht harea =>
    h'.outside id t (h.outside id t ht harea) (h.aoiOf? t ▸ harea)

end Ripples

/-! ### Tiles that start -/

/-- Tiles fail and start, and of those that start the jobs are queued. -/
structure Releases (area : String) (gone : List Int) (s s' : Store) (jobs : List TileJob) : Prop
    extends Ripples area gone s s' where
  posts : s.Posts (jobs.map .tile) s'
  distinct : (jobs.map (·.tile.id)).Nodup
  released : ∀ id, id ∈ jobs.map (·.tile.id) ↔
    s.tileStatus? id = some .new ∧ s'.tileStatus? id = some .pending
  current : ∀ job ∈ jobs, s'.Carries (.tile job)

theorem Carries.tileStatus? {job : TileJob} (h : s.Carries (.tile job)) :
    s.tileStatus? job.tile.id = some .pending := by
  obtain ⟨t, ht, hpending, -⟩ := h
  rw [tileStatus?_of_tile? ht, hpending]

theorem Releases.refl (s : Store) : Releases area [] s s [] where
  toRipples := .of_tiles rfl rfl rfl
  posts := posts_nil rfl
  distinct := .nil
  released := by
    intro id
    constructor
    · intro hid
      cases hid
    · rintro ⟨hnew, hpending⟩
      rw [hnew] at hpending
      cases hpending
  current := fun job hjob => nomatch hjob

/-- What starts in two steps starts once, if the second step fails none that the first has
started. -/
theorem Releases.trans {js ks : List TileJob} (h : Releases area gone s s' js)
    (h' : Releases area more s' s'' ks)
    (hmore : ∀ id ∈ more, s'.tileStatus? id ≠ some .pending) :
    Releases area (gone ++ more) s s'' (js ++ ks) where
  toRipples := h.toRipples.trans h'.toRipples
  posts := by
    rw [List.map_append]
    exact h.posts.trans h'.posts
  distinct := by
    rw [List.map_append]
    refine List.nodup_append.2 ⟨h.distinct, h'.distinct, ?_⟩
    rintro id hfirst _ hsecond rfl
    have hpending := ((h.released id).1 hfirst).2
    rw [((h'.released id).1 hsecond).1] at hpending
    cases hpending
  released := by
    intro id
    rw [List.map_append, List.mem_append, h.released, h'.released]
    constructor
    · rintro (⟨hnew, hpending⟩ | ⟨hnew, hpending⟩)
      · exact ⟨hnew, h'.lasts hpending nofun fun hid => hmore id hid hpending⟩
      · exact ⟨h.new_before hnew, hpending⟩
    · rintro ⟨hnew, hpending⟩
      rcases h'.pending_before hpending with hwaits | hstarted
      · exact .inr ⟨hwaits, hpending⟩
      · exact .inl ⟨hnew, hstarted⟩
  current := by
    intro job hjob
    rcases List.mem_append.1 hjob with hjob | hjob
    · have hcarries := h.current job hjob
      exact h'.carries (fun hid => hmore _ hid hcarries.tileStatus?) hcarries
    · exact h'.current job hjob

theorem ripples_mapTiles {g : Tile → Tile} (hid : ∀ t, (g t).id = t.id)
    (hmoves : ∀ t ∈ s.tiles, Moves gone t (g t) ∧ (g t = t ∨ s.aoiOf? t = some area))
    (ts : List Tile) : Ripples area gone s ((s.mapTiles g).announce ts) := by
  have hsame := sameRows_announce (s.mapTiles g) ts
  have hrow {id : Int} {t : Tile} (ht : s.tile? id = some t) :
      ((s.mapTiles g).announce ts).tile? id = some (g t) := by
    rw [hsame.tile?, tile?_mapTiles hid, ht]
    rfl
  refine ⟨⟨hsame.scenes, ?_, fun id t ht => ?_⟩, aois_announce _ _, fun id t ht harea => ?_⟩
  · rw [hsame.tiles, mapTiles, List.map_map]
    exact List.map_congr_left fun t _ => hid t
  · exact ⟨g t, hrow ht, (hmoves t (mem_of_tile? ht)).1⟩
  · rw [hrow ht, (hmoves t (mem_of_tile? ht)).2.resolve_right harea]

theorem releases_mapTiles {g : Tile → Tile} {p : Tile → Bool} (ho : s.Ordered)
    (hs : (s.mapTiles g).Schema) (hid : ∀ t, (g t).id = t.id)
    (hmoves : ∀ t ∈ s.tiles, Moves gone t (g t) ∧ (g t = t ∨ s.aoiOf? t = some area))
    (hp : ∀ t ∈ s.tiles, p t = true ↔ t.status = .new ∧ (g t).status = .pending) :
    ∃ jobs, Releases area gone s ((s.mapTiles g).announce ((s.tiles.filter p).map g)) jobs := by
  have hsame := sameRows_announce (s.mapTiles g) ((s.tiles.filter p).map g)
  have hmem : ∀ t ∈ (s.tiles.filter p).map g, t ∈ (s.mapTiles g).tiles := by
    intro t ht
    obtain ⟨u, hu, rfl⟩ := List.mem_map.1 ht
    exact List.mem_map_of_mem (List.mem_filter.1 hu).1
  have hids : ((s.mapTiles g).jobsOf ((s.tiles.filter p).map g)).map (·.tile.id) =
      (s.tiles.filter p).map (·.id) := by
    rw [ids_jobsOf hs hmem, List.map_map]
    exact List.map_congr_left fun t _ => hid t
  have hposts := posts_announce (s.mapTiles g) ((s.tiles.filter p).map g)
  refine ⟨(s.mapTiles g).jobsOf ((s.tiles.filter p).map g),
    ⟨ripples_mapTiles hid hmoves _, hposts, ?_, ?_, ?_⟩⟩
  · rw [hids]
    exact List.pairwise_map.2 ((ho.tiles_ascend.filter _).imp fun hlt => Int.ne_of_lt hlt)
  · intro id
    rw [hids, hsame.tileStatus?, tileStatus?, tileStatus?, tile?_mapTiles hid]
    constructor
    · intro hstarts
      obtain ⟨t, ht, rfl⟩ := List.mem_map.1 hstarts
      obtain ⟨ht, hpt⟩ := List.mem_filter.1 ht
      obtain ⟨hnew, hpending⟩ := (hp t ht).1 hpt
      rw [ho.tile?_of_mem ht]
      exact ⟨congrArg some hnew, congrArg some hpending⟩
    · rintro ⟨hnew, hpending⟩
      obtain ⟨t, ht, hstatus⟩ := tileStatus?_eq_some.1 hnew
      rw [ht] at hpending
      obtain rfl := tile?_id ht
      have hpt := (hp t (mem_of_tile? ht)).2 ⟨hstatus, Option.some.inj hpending⟩
      exact List.mem_map_of_mem (List.mem_filter.2 ⟨mem_of_tile? ht, hpt⟩)
  · intro job hjob
    obtain ⟨t, ht, hjobOf⟩ := List.mem_filterMap.1 hjob
    obtain ⟨u, hu, rfl⟩ := List.mem_map.1 ht
    obtain ⟨hu, hpu⟩ := List.mem_filter.1 hu
    exact hsame.carries
      (carries_of_jobOf? hs (hs.tile?_of_mem (hmem _ ht)) ((hp u hu).1 hpu).2 hjobOf)

end Store

end SceneWorkflow
