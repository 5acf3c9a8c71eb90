import SceneWorkflow.Proofs.Engine.Isolation
import SceneWorkflow.Proofs.Wire.Rows

/-!
# Everything is read back as it was written

Documents, rows and jobs. Jobs describe scenes and tiles as the store has them when they
are queued. Ids are never taken away, so that the ids in a job have 64 bits if those in
the store have, and then the job is read back from its payload wherever that is found.
-/
namespace SceneWorkflow
open Json Store

/-! ### Jobs -/

namespace Notice

/-- All ids that the job tells have 64 bits. -/
def Fits : Notice → Prop
  | scene ref => ref.Fits
  | tile job => job.Fits

def ofText? : Topic → String → Option Notice
  | .sceneJobs, text => (readText SceneRef.ofJson? text).map scene
  | .tileJobs, text => (readText TileJob.ofJson? text).map tile

theorem ofText?_payload {n : Notice} (h : n.Fits) : ofText? n.topic n.payload = some n := by
  cases n with
  | scene ref =>
    show (readText SceneRef.ofJson? ref.toJson.print).map scene = some (scene ref)
    rw [readText_print (SceneRef.plain_toJson h 0), SceneRef.ofJson?_toJson h, Option.map_some]
  | tile job =>
    show (readText TileJob.ofJson? job.toJson.print).map tile = some (tile job)
    rw [readText_print (TileJob.plain_toJson h 0), TileJob.ofJson?_toJson h, Option.map_some]

end Notice

namespace Store
variable {s s' s'' : Store}

structure IdsFit (s : Store) : Prop where
  scenes : ∀ x ∈ s.scenes, Fits64 x.id
  tiles : ∀ t ∈ s.tiles, Fits64 t.id

namespace IdsFit
variable {area : String} (h : s.IdsFit)
include h

theorem sceneRef {id : Int} {r : SceneRef} (hr : s.sceneRef? id = some r) : r.Fits := by
  obtain ⟨x, hx, rfl⟩ := Option.map_eq_some_iff.1 hr
  exact h.scenes x (mem_of_scene? hx)

theorem tileRef {id : Int} {r : TileRef} (hr : s.tileRef? id = some r) : r.Fits := by
  obtain ⟨t, ht, hdescribed⟩ := Option.bind_eq_some_iff.1 hr
  obtain ⟨x, hx, rfl⟩ := Option.map_eq_some_iff.1 hdescribed
  exact ⟨h.tiles t (mem_of_tile? ht), h.scenes x (mem_of_scene? hx)⟩

theorem notice {n : Notice} (hn : s.Houses area n) : n.Fits := by
  cases n with
  | scene ref => exact h.sceneRef hn.1
  | tile job =>
    obtain ⟨htile, hprevious, hreference⟩ := hn
    exact ⟨h.tileRef htile.1, fun t ht => h.tileRef (hprevious t ht).1,
      fun t ht => h.tileRef (hreference t ht).1⟩

end IdsFit

/-- Scenes and tiles that are there stay there. -/
structure Extends (s s' : Store) : Prop where
  scenes : ∀ id, (s.sceneData? id).isSome → (s'.sceneData? id).isSome
  tiles : ∀ id, (s.tileData? id).isSome → (s'.tileData? id).isSome

namespace Extends

theorem of_sameRows (h : SameRows s s') : Extends s s' where
  scenes := fun id hid => by rwa [h.sceneData?]
  tiles := fun id hid => by rwa [h.tileData?]

theorem trans (h : Extends s s') (h' : Extends s' s'') : Extends s s'' where
  scenes := fun id hid => h'.scenes id (h.scenes id hid)
  tiles := fun id hid => h'.tiles id (h.tiles id hid)

theorem of_perform {c : Call} {a : c.Answer} (ho : s.Ordered) (hok : c.perform s = .ok (a, s')) :
    Extends s s' where
  scenes := by
    intro id hid
    rw [(Call.data_of_perform ho hok id).1, Option.isSome_or, hid, Bool.or_true]
  tiles := by
    intro id hid
    rw [(Call.data_of_perform ho hok id).2, Option.isSome_or, hid, Bool.or_true]

theorem fits (h : Extends s s') (ho : s.Ordered) (hfits : s'.IdsFit) : s.IdsFit where
  scenes := by
    intro x hx
    have hthere : (s.sceneData? x.id).isSome := by
      rw [sceneData?, ho.scene?_of_mem hx]
      rfl
    obtain ⟨y, hy⟩ := Option.isSome_iff_exists.1 (Option.isSome_map ▸ h.scenes x.id hthere)
    rw [← scene?_id hy]
    exact hfits.scenes y (mem_of_scene? hy)
  tiles := by
    intro t ht
    have hthere : (s.tileData? t.id).isSome := by
      rw [tileData?, ho.tile?_of_mem ht]
      rfl
    obtain ⟨u, hu⟩ := Option.isSome_iff_exists.1 (Option.isSome_map ▸ h.tiles t.id hthere)
    rw [← tile?_id hu]
    exact hfits.tiles u (mem_of_tile? hu)

end Extends

end Store

/-- A body of a unit of work takes nothing away. -/
theorem Work.extends_of_exec {α : Type} {w : Work α} {s s' : Store} {a : α} (h : s.Schema)
    (hok : w.exec s = .ok (a, s')) : Extends s s' := by
  have hboth : s.Schema → s'.Schema ∧ Extends s s' := by
    refine exec_relates (R := fun s s' => s.Schema → s'.Schema ∧ Extends s s') (P := fun _ => True)
      (fun _ h => ⟨h, .of_sameRows (.refl _)⟩) ?_ ?_ (Program.uses_true w) hok
    · intro s₁ s₂ s₃ h₁ h₂ h
      obtain ⟨hschema, hext⟩ := h₁ h
      obtain ⟨hschema', hext'⟩ := h₂ hschema
      exact ⟨hschema', hext.trans hext'⟩
    · intro c s a s' _ hc hs
      exact ⟨Call.schema_of_perform hs hc, .of_perform hs.toOrdered hc⟩
  exact (hboth h).2

/-- The jobs that a unit of work queues tell of scenes and tiles as it leaves them. -/
theorem Task.announces {task : Task} {s s' : Store} {a : task.Answer} {jobs : List QueuedJob}
    (h : Forest s) (hok : task.body.exec s = .ok (a, s'))
    (hjobs : s'.outbox = s.outbox ++ jobs) :
    ∀ j ∈ jobs, ∃ n : Notice, n.topic = j.topic ∧ n.payload = j.payload ∧
      ∃ area, s'.Houses area n := by
  have htell (area : String) (hannounces : Announces area s s') :
      ∀ j ∈ jobs, ∃ n : Notice, n.topic = j.topic ∧ n.payload = j.payload ∧
        ∃ area, s'.Houses area n := by
    obtain ⟨js, hjs, htell⟩ := hannounces.jobs
    obtain rfl := List.append_cancel_left (hjobs.symm.trans hjs)
    intro j hj
    obtain ⟨n, htopic, hpayload, hn⟩ := htell j hj
    exact ⟨n, htopic, hpayload, area, hn⟩
  have hchange (kind : EntityKind) {id : Int} {requested : Status} {message : Option String}
      {force accepted : Bool}
      (hok : (Cascade.change kind id requested message force).exec s = .ok (accepted, s')) :
      ∃ area, Announces area s s' := by
    obtain ⟨present, budget, area, hdecides⟩ := Cascade.decides_change h hok
    exact ⟨area, Cascade.announces_change h hdecides.area_eq hok⟩
  cases task with
  | ingest r => exact htell r.aoi (Ingestion.local_insertScene h hok).toAnnounces
  | changeScene id requested message force =>
    obtain ⟨area, hannounces⟩ := hchange .scene hok
    exact htell area hannounces
  | changeTile id requested message force =>
    obtain ⟨area, hannounces⟩ := hchange .tile hok
    exact htell area hannounces
  | updateSceneAttrs id attrs =>
    obtain rfl := Work.exec_updateSceneAttrs_eq_ok hok
    obtain rfl : jobs = [] := List.append_right_eq_self.1 hjobs.symm
    exact nofun
  | updateTileAttrs id attrs =>
    obtain rfl := Work.exec_updateTileAttrs_eq_ok hok
    obtain rfl : jobs = [] := List.append_right_eq_self.1 hjobs.symm
    exact nofun

/-! ### Runs -/

theorem Recorder.decoded_eq {α : Type} {r : Recorder} {topic : Topic} {d : Json → Option α}
    {f : α → Notice} {tell : QueuedJob → Notice} {jobs : List QueuedJob}
    (hpublished : r.published topic = jobs.map (·.payload))
    (hread : ∀ j ∈ jobs, (readText d j.payload).map f = some (tell j)) :
    ∃ values, r.decoded topic d = .ok values ∧ values.map f = jobs.map tell := by
  have hall : ∃ values, (jobs.map (·.payload)).mapM (readText d) = some values ∧
      values.map f = jobs.map tell := by
    clear hpublished
    induction jobs with
    | nil => exact ⟨[], rfl, rfl⟩
    | cons j jobs ih =>
      obtain ⟨a, ha, htell⟩ := Option.map_eq_some_iff.1 (hread j List.mem_cons_self)
      obtain ⟨values, hvalues, hrest⟩ := ih fun k hk => hread k (List.mem_cons_of_mem j hk)
      refine ⟨a :: values, ?_, by rw [List.map_cons, htell, hrest, List.map_cons]⟩
      rw [List.map_cons, List.mapM_cons, ha, hvalues]
      rfl
  obtain ⟨values, hvalues, htell⟩ := hall
  refine ⟨values, ?_, htell⟩
  have hdecoded : (r.published topic).mapM (fun payload => (parse payload).bind d) = some values := by
    rw [hpublished]
    exact hvalues
  rw [Recorder.decoded, hdecoded]

section
variable {w w' : World Recorder} {log : Log} {e : Event}

/-- What occurs keeps the forest and takes no row away. -/
theorem Occurs.extends (h : Occurs w e w') (hforest : Forest w.store) :
    Forest w'.store ∧ Extends w.store w'.store := by
  cases h with
  | commit hbody hjobs hsink =>
    exact ⟨Task.forest hforest hbody, Work.extends_of_exec hforest.toSchema hbody⟩
  | @relay topic jobs hbatch hfirst haccepted =>
    have hsame := Outbox.sameRows_relayRun jobs w
    exact ⟨hforest.of_sameRows hsame, .of_sameRows hsame⟩

theorem Happens.extends (h : Happens w log w') (hforest : Forest w.store) :
    Forest w'.store ∧ Extends w.store w'.store := by
  induction h with
  | start => exact ⟨hforest, .of_sameRows (.refl _)⟩
  | @silent log w₁ w₂ _ hsilent ih =>
    obtain ⟨hforest₁, hext⟩ := ih
    have hsame := hsilent.sameRows
    exact ⟨hforest₁.of_sameRows hsame, hext.trans (.of_sameRows hsame)⟩
  | event _ hoccurs ih =>
    obtain ⟨hforest₁, hext⟩ := ih
    obtain ⟨hforest₂, hext'⟩ := hoccurs.extends hforest₁
    exact ⟨hforest₂, hext.trans hext'⟩

/-- Jobs that have been queued are read from their payloads as scenes and tiles that the store then
described. -/
theorem Occurs.announces (h : Occurs w e w') (hforest : Forest w.store) (hfits : w'.store.IdsFit) :
    ∀ j ∈ e.queuedJobs, ∃ n : Notice, n.topic = j.topic ∧ n.payload = j.payload ∧
      (∃ area, w'.store.Houses area n) ∧ Notice.ofText? j.topic j.payload = some n := by
  cases h with
  | commit hbody hjobs hsink =>
    intro j hj
    obtain ⟨n, htopic, hpayload, area, hn⟩ := Task.announces hforest hbody hjobs j hj
    refine ⟨n, htopic, hpayload, ⟨area, hn⟩, ?_⟩
    rw [← htopic, ← hpayload]
    exact Notice.ofText?_payload (hfits.notice hn)
  | relay hbatch hfirst haccepted => exact nofun

/-- If the ids that there are in the end have 64 bits, all jobs on the way have been queued as texts that
they are read from. -/
theorem Happens.announces {start : World Recorder} (h : Happens start log w)
    (hforest : Forest start.store) (hfits : w.store.IdsFit) {past future : Log}
    {jobs : List QueuedJob} (heq : log = past ++ .queued jobs :: future) :
    ∃ w₁ w₂, Happens start past w₁ ∧ Occurs w₁ (.queued jobs) w₂ ∧ Happens w₂ future w ∧
      ∀ j ∈ jobs, ∃ n : Notice, n.topic = j.topic ∧ n.payload = j.payload ∧
        (∃ area, w₂.store.Houses area n) ∧ Notice.ofText? j.topic j.payload = some n := by
  obtain ⟨w₁, w₂, hpast, hoccurs, hfuture⟩ := h.occurs heq
  obtain ⟨hforest₁, -⟩ := hpast.extends hforest
  obtain ⟨hforest₂, -⟩ := hoccurs.extends hforest₁
  obtain ⟨-, hext⟩ := hfuture.extends hforest₂
  have hfits₂ := hext.fits hforest₂.toOrdered hfits
  exact ⟨w₁, w₂, hpast, hoccurs, hfuture, hoccurs.announces hforest₁ hfits₂⟩

/-- What the jobs of a log tell. Each has been queued as the text of a scene or tile as the store then
described it, and all that the sink has accepted since are read as just that. -/
structure Transcript (start : World Recorder) (log : Log) (w : World Recorder)
    (tell : QueuedJob → Notice) : Prop where
  queued : ∀ past jobs future, log = past ++ .queued jobs :: future →
    ∃ w₁ w₂, Happens start past w₁ ∧ Occurs w₁ (.queued jobs) w₂ ∧ Happens w₂ future w ∧
      ∀ j ∈ jobs, (tell j).topic = j.topic ∧ (tell j).payload = j.payload ∧
        ∃ area, w₂.store.Houses area (tell j)
  scenes : ∃ refs, w.sink.decoded .sceneJobs SceneRef.ofJson? = .ok refs ∧
    refs.map .scene = (log.accepted.filter fun j => j.topic == .sceneJobs).map tell
  tiles : ∃ jobs, w.sink.decoded .tileJobs TileJob.ofJson? = .ok jobs ∧
    jobs.map .tile = (log.accepted.filter fun j => j.topic == .tileJobs).map tell

theorem Happens.transcribes (h : Happens { sink := {} } log w) (hfits : w.store.IdsFit) :
    ∃ tell, Transcript { sink := {} } log w tell := by
  -- A payload tells what it is read as; that it is read at all, the queueing shows.
  let tell (j : QueuedJob) : Notice := (Notice.ofText? j.topic j.payload).getD (.scene default)
  have htell {j : QueuedJob} {n : Notice} (hread : Notice.ofText? j.topic j.payload = some n) :
      tell j = n := by
    show (Notice.ofText? j.topic j.payload).getD _ = n
    rw [hread, Option.getD_some]
  have haccounts : Accounts log w := Accounts.fresh.happens h
  have hread : ∀ j ∈ log.accepted, Notice.ofText? j.topic j.payload = some (tell j) := by
    intro j hj
    obtain ⟨e, he, hmem⟩ := List.mem_flatMap.1 (haccounts.queued_of_accepted j hj)
    obtain ⟨past, future, heq⟩ := List.append_of_mem he
    cases e with
    | queued jobs =>
      obtain ⟨_, _, -, -, -, hjobs⟩ := h.announces forest_empty hfits heq
      obtain ⟨n, -, -, -, hn⟩ := hjobs j hmem
      rw [htell hn, hn]
    | accepted topic jobs acked => cases hmem
  have hdecoded {topic : Topic} {α : Type} {d : Json → Option α} {f : α → Notice}
      (hof : ∀ text, Notice.ofText? topic text = (readText d text).map f) :
      ∃ values, w.sink.decoded topic d = .ok values ∧
        values.map f = (log.accepted.filter fun j => j.topic == topic).map tell := by
    refine Recorder.decoded_eq (haccounts.published_eq topic) fun j hj => ?_
    obtain ⟨hmem, htopic⟩ := List.mem_filter.1 hj
    rw [← hof, ← eq_of_beq htopic]
    exact hread j hmem
  refine ⟨tell, fun past jobs future heq => ?_, hdecoded fun _ => rfl, hdecoded fun _ => rfl⟩
  obtain ⟨w₁, w₂, hpast, hoccurs, hfuture, hjobs⟩ := h.announces forest_empty hfits heq
  refine ⟨w₁, w₂, hpast, hoccurs, hfuture, fun j hj => ?_⟩
  obtain ⟨n, htopic, hpayload, hn, hread⟩ := hjobs j hj
  rw [htell hread]
  exact ⟨htopic, hpayload, hn⟩

end

namespace World

/-- Everything is read back as it was written. Whatever a text is read as is read from its own text
too, and that text stays as it is. What the store gives is what its rows are read as, and at every point
of a unit of work the columns hold the attributes that calls have written to them last. Whatever is done
to a fresh world, in whatever settings, the sink decodes what it has accepted as the scenes and tiles
that were queued. Their ids have to be integers of 64 bits; ids that are read always are. -/
theorem reads_back :
    (RoundTrips TileMapping.toJson TileMapping.ofJson? ∧
      RoundTrips TileAttrs.toJson TileAttrs.ofJson? ∧
      RoundTrips SceneAttrs.toJson SceneAttrs.ofJson? ∧
      RoundTrips TileLink.toJson TileLink.ofJson? ∧
      RoundTrips TileRequest.toJson TileRequest.ofJson? ∧
      RoundTrips SceneRequest.toJson SceneRequest.ofJson? ∧
      RoundTrips SceneRef.toJson SceneRef.ofJson? ∧
      RoundTrips TileRef.toJson TileRef.ofJson? ∧
      RoundTrips TileJob.toJson TileJob.ofJson? ∧
      RoundTrips WorkerResult.toJson WorkerResult.ofJson? ∧
      RoundTrips StatusCounts.toJson StatusCounts.ofJson? ∧
      RoundTrips Aoi.toJson Aoi.ofJson?) ∧
    (∀ s : Store, s.ReadsRows) ∧
    (∀ s, Attainable s → s.Schema) ∧
    (∀ (c : Call) (s s' : Store) (a : c.Answer), s.Schema → c.perform s = .ok (a, s') →
      s'.Schema ∧ ∀ id, s'.sceneData? id = (c.sceneText? a id).or (s.sceneData? id) ∧
        s'.tileData? id = (c.tileText? a id).or (s.tileData? id)) ∧
    ∀ xs : List (Setting × Activity Recorder), (through { sink := {} } xs).store.IdsFit →
      ∃ log tell, Happens { sink := {} } log (through { sink := {} } xs) ∧
        Transcript { sink := {} } log (through { sink := {} } xs) tell := by
  refine ⟨?_, readsRows, fun s hs => hs.forest.toSchema, ?_, ?_⟩
  · exact ⟨TileMapping.roundTrips, TileAttrs.roundTrips, SceneAttrs.roundTrips, TileLink.roundTrips,
      TileRequest.roundTrips, SceneRequest.roundTrips, SceneRef.roundTrips, TileRef.roundTrips,
      TileJob.roundTrips, WorkerResult.roundTrips, StatusCounts.roundTrips, Aoi.roundTrips⟩
  · intro c s s' a hs hok
    exact ⟨Call.schema_of_perform hs hok, Call.data_of_perform hs.toOrdered hok⟩
  · intro xs hfits
    obtain ⟨log, hlog⟩ := logged_through { sink := {} } xs queued_empty
    obtain ⟨tell, htell⟩ := hlog.transcribes hfits
    exact ⟨log, tell, hlog, htell⟩

/-- A date beyond the years of four digits, in a leap second, and texts with escapes. -/
def leapSecond : SceneAttrs where
  uuid := "é\n"
  date := some ⟨⟨12016, 12, 31⟩, 22, 59, 60, 500000000, by decide⟩
  graphConfig := .ofList [("\u0000", "x"), ("a", "2")]

/-- The same in another time zone, with a digit to spare, and with one key twice. -/
def leapSecondAbroad : String :=
  "\x7b\"date\":\"+12016-12-31 23:59:60.50+01:00\",\"uuid\":\"\\u00e9\\n\"," ++
    "\"graph_config\":\x7b\"\\u0000\":\"x\",\"a\":\"1\",\"a\":\"2\"\x7d\x7d"

/-- A scene of one tile is taken up. -/
def takenUp : List (Setting × Activity Recorder) :=
  [({}, .command (.createAoi "north")),
    ({}, .command (.ingestScene "north" (.ofTiles "north" "s1" [("a", {})])))]

/-- The attributes are read from a text and given to the scene. -/
theorem reads_back_leapSecond :
    readText SceneAttrs.ofJson? leapSecondAbroad = some leapSecond ∧
      readText SceneAttrs.ofJson? leapSecond.toJson.print = some leapSecond ∧
      (∃ s', (Call.updateSceneAttrs 1 leapSecond).perform (through { sink := {} } takenUp).store =
          .ok ((), s') ∧ s'.sceneData? 1 = some leapSecond.toJson.print) ∧
      (through { sink := {} } takenUp).sink.published .sceneJobs ≠ [] ∧
      ∃ log tell, Happens { sink := {} } log (through { sink := {} } takenUp) ∧
        Transcript { sink := {} } log (through { sink := {} } takenUp) tell := by
  obtain ⟨⟨-, -, hattrs, -⟩, -, hschema, hcolumns, hjobs⟩ := reads_back
  have htext : readText SceneAttrs.ofJson? leapSecondAbroad = some leapSecond := by
    decide +kernel
  have hattain : Attainable (through { sink := {} } takenUp).store := attainable_through .empty takenUp
  have hfits : (through { sink := {} } takenUp).store.IdsFit := ⟨by decide +kernel, by decide +kernel⟩
  refine ⟨htext, hattrs.read_print _ _ htext, ?_, by decide +kernel, hjobs takenUp hfits⟩
  have hs := hschema _ hattain
  have hthere : ((through { sink := {} } takenUp).store.scene? 1).isSome := by decide +kernel
  generalize (through { sink := {} } takenUp).store = s at hs hthere ⊢
  have hreplace : s.replaceSceneAttrs 1 leapSecond = .ok _ :=
    replaceSceneAttrs_eq_ok.2 ⟨hthere, rfl⟩
  have hok : (Call.updateSceneAttrs 1 leapSecond).perform s = .ok ((), _) :=
    map_eq_ok.2 ⟨_, hreplace, rfl⟩
  obtain ⟨-, hcolumn⟩ := hcolumns (.updateSceneAttrs 1 leapSecond) s _ () hs hok
  have hwritten : (Call.updateSceneAttrs 1 leapSecond).sceneText? () 1 =
      some leapSecond.toJson.print := textAt_self 1 _
  refine ⟨_, hok, ?_⟩
  rw [(hcolumn 1).1, hwritten, Option.some_or]

end World

end SceneWorkflow
