import SceneWorkflow.Cascade.Job
import SceneWorkflow.Proofs.Work.Calls

/-!
# Jobs that describe the store

The job of a tile as the store has it, and the store after several tiles have been
announced. In a store that can be read, queueing tiles does just that.
-/
namespace SceneWorkflow
namespace Store
variable {s s' : Store} {id : Int} {t : Tile} {x : Scene}

def tileRef? (s : Store) (id : Int) : Option TileRef :=
  (s.tile? id).bind fun t => (s.scene? t.scene).map fun x => t.refIn x.ref

/-- The job of a tile, with the tiles it builds on as the store describes them. -/
def jobOf? (s : Store) (t : Tile) : Option TileJob :=
  (s.scene? t.scene).map fun x =>
    ⟨t.refIn x.ref, t.previous.bind s.tileRef?, t.reference.bind s.tileRef?⟩

theorem tileRef?_of_tile? (ht : s.tile? id = some t) (hx : s.scene? t.scene = some x) :
    s.tileRef? id = some (t.refIn x.ref) := by
  rw [tileRef?, ht]
  simp [hx]

theorem jobOf?_of_scene? (hx : s.scene? t.scene = some x) :
    s.jobOf? t = some ⟨t.refIn x.ref, t.previous.bind s.tileRef?, t.reference.bind s.tileRef?⟩ := by
  rw [jobOf?, hx]
  rfl

theorem SameRows.tileRef? (h : SameRows s s') (id : Int) : s'.tileRef? id = s.tileRef? id := by
  simp only [Store.tileRef?, h.tile?, h.scene?]

theorem SameRows.jobOf? (h : SameRows s s') (t : Tile) : s'.jobOf? t = s.jobOf? t := by
  have href : s'.tileRef? = s.tileRef? := funext h.tileRef?
  simp only [Store.jobOf?, h.scene?, href]

/-- The status and the message of a tile are no part of its job. -/
theorem jobOf?_congr {t u : Tile} (hid : u.id = t.id) (hsource : u.sourceId = t.sourceId)
    (hscene : u.scene = t.scene) (hattrs : u.attrs = t.attrs) (hprevious : u.previous = t.previous)
    (hreference : u.reference = t.reference) (s : Store) : s.jobOf? u = s.jobOf? t := by
  simp only [jobOf?, Tile.refIn, hid, hsource, hscene, hattrs, hprevious, hreference]

theorem jobOf?_update {u : StatusUpdate} (hclear : u.clearPrevious = false) (s : Store)
    (t : Tile) : s.jobOf? (t.update u) = s.jobOf? t := by
  refine jobOf?_congr ?_ ?_ ?_ ?_ (t.previous_update hclear) ?_ s <;> rfl

/-! ### Announcing tiles -/

def announceTile (s : Store) (t : Tile) : Store :=
  match s.jobOf? t with
  | some job => s.enqueueJob .tileJobs job.toJson.print
  | none => s

def announce (s : Store) (ts : List Tile) : Store := ts.foldl announceTile s

theorem sameRows_announceTile (s : Store) (t : Tile) : SameRows s (s.announceTile t) := by
  unfold announceTile
  split
  · exact sameRows_enqueueJob s _ _
  · exact .refl s

theorem sameRows_announce (s : Store) (ts : List Tile) : SameRows s (s.announce ts) := by
  induction ts generalizing s with
  | nil => exact .refl s
  | cons t ts ih => exact (sameRows_announceTile s t).trans (ih (s.announceTile t))

theorem announce_map_congr {g h : Tile → Tile} {ts : List Tile}
    (hjob : ∀ t ∈ ts, ∀ s : Store, s.jobOf? (g t) = s.jobOf? (h t)) (s : Store) :
    s.announce (ts.map g) = s.announce (ts.map h) := by
  induction ts generalizing s with
  | nil => rfl
  | cons t ts ih =>
    have hfirst : s.announceTile (g t) = s.announceTile (h t) := by
      rw [announceTile, hjob t List.mem_cons_self, announceTile]
    show (s.announceTile (g t)).announce (ts.map g) = (s.announceTile (h t)).announce (ts.map h)
    rw [hfirst]
    exact ih (fun u hu => hjob u (List.mem_cons_of_mem _ hu)) _

/-- Announcing appends to the outbox the jobs of the tiles as the store has them. -/
theorem outbox_announce (s : Store) (ts : List Tile) :
    ∃ js, (s.announce ts).outbox = s.outbox ++ js ∧
      ∀ j ∈ js, ∃ t ∈ ts, ∃ job, s.jobOf? t = some job ∧
        j.topic = .tileJobs ∧ j.payload = job.toJson.print := by
  induction ts generalizing s with
  | nil => exact ⟨[], (List.append_nil _).symm, fun _ hj => nomatch hj⟩
  | cons t ts ih =>
    obtain ⟨js, hjs, hall⟩ := ih (s.announceTile t)
    have hrest : ∀ j ∈ js, ∃ u ∈ t :: ts, ∃ job, s.jobOf? u = some job ∧
        j.topic = .tileJobs ∧ j.payload = job.toJson.print := by
      intro j hj
      obtain ⟨u, hu, job, hjob, hrest⟩ := hall j hj
      rw [(sameRows_announceTile s t).jobOf?] at hjob
      exact ⟨u, List.mem_cons_of_mem _ hu, job, hjob, hrest⟩
    cases hjob : s.jobOf? t with
    | none =>
      have hnone : s.announceTile t = s := by
        rw [announceTile, hjob]
      refine ⟨js, ?_, hrest⟩
      show ((s.announceTile t).announce ts).outbox = _
      rw [hjs, hnone]
    | some job =>
      have hsome : (s.announceTile t).outbox =
          s.outbox ++ [⟨s.lastJob + 1, .tileJobs, job.toJson.print⟩] := by
        rw [announceTile, hjob]
        rfl
      refine ⟨⟨s.lastJob + 1, .tileJobs, job.toJson.print⟩ :: js, ?_, ?_⟩
      · show ((s.announceTile t).announce ts).outbox = _
        rw [hjs, hsome, List.append_assoc]
        rfl
      · intro j hj
        rcases List.mem_cons.1 hj with rfl | hj
        · exact ⟨t, List.mem_cons_self, job, hjob, rfl, rfl⟩
        · exact hrest j hj

end Store

/-! ### Carrying it out -/

namespace Cascade
open Store
variable {s : Store} {id : Int} {t : Tile} {x : Scene}

theorem exec_describe (h : s.Legible) (hx : s.scene? t.scene = some x) :
    (describe t).exec s = .ok (t.refIn x.ref, s) := by
  unfold describe
  rw [Work.exec_bind_ok (Work.exec_known h hx)]
  rfl

theorem exec_describeLinked (h : s.Legible) (hs : s.Schema) {link : Option Int}
    (hlink : s.hasLinked link) :
    (describeLinked link).exec s = .ok (link.bind s.tileRef?, s) := by
  cases link with
  | none => rfl
  | some id =>
    obtain ⟨t, ht⟩ := Option.isSome_iff_exists.1 hlink
    obtain ⟨x, hx⟩ := Option.isSome_iff_exists.1 (hs.scene_exists t (mem_of_tile? ht))
    unfold describeLinked
    rw [Work.exec_bind_ok (Work.exec_tile h ht), Work.exec_bind_ok (exec_describe h hx)]
    show Except.ok (some (t.refIn x.ref), s) = .ok (s.tileRef? id, s)
    rw [tileRef?_of_tile? ht hx]

/-- A tile whose links are good is announced as the store has it. -/
theorem exec_queueTile (h : s.Legible) (hs : s.Schema) (hscene : (s.scene? t.scene).isSome)
    (hprevious : s.hasLinked t.previous) (hreference : s.hasLinked t.reference) :
    (queueTile t).exec s = .ok ((), s.announceTile t) := by
  obtain ⟨x, hx⟩ := Option.isSome_iff_exists.1 hscene
  unfold queueTile
  rw [Work.exec_bind_ok (exec_describeLinked h hs hprevious),
    Work.exec_bind_ok (exec_describeLinked h hs hreference),
    Work.exec_bind_ok (exec_describe h hx), announceTile, jobOf?_of_scene? hx]
  exact Work.exec_call _ s

theorem exec_queueTiles (h : s.Legible) (hs : s.Schema) {ts : List Tile}
    (hts : ∀ t ∈ ts, (s.scene? t.scene).isSome ∧ s.hasLinked t.previous ∧
      s.hasLinked t.reference) :
    (ts.forM queueTile).exec s = .ok (⟨⟩, s.announce ts) := by
  induction ts generalizing s with
  | nil => rfl
  | cons t ts ih =>
    obtain ⟨hscene, hprevious, hreference⟩ := hts t List.mem_cons_self
    have hsame := sameRows_announceTile s t
    show (queueTile t >>= fun _ => ts.forM queueTile).exec s = _
    rw [Work.exec_bind_ok (exec_queueTile h hs hscene hprevious hreference)]
    apply ih (h.of_sameRows hsame) (hs.of_sameRows hsame)
    intro u hu
    rw [hsame.scene?, hsame.hasLinked, hsame.hasLinked]
    exact hts u (List.mem_cons_of_mem _ hu)

end Cascade

end SceneWorkflow
