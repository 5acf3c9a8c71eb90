import SceneWorkflow.Proofs.Engine.Redelivery
import SceneWorkflow.Proofs.Engine.Usage
import SceneWorkflow.Proofs.Outbox.Lines
import SceneWorkflow.Proofs.Service.Input

/-!
# Restarts of the service

The service keeps nothing but its store: a result that fails leaves the world as it was,
and one that is applied is followed by a relay, after which another has no effect. So a
service that is stopped between two lines and started again on the same file writes what
it would have written and leaves what it would have left.
-/
namespace SceneWorkflow
open Store Operation

/-! ### Stores that were left behind -/

/-- The stores that come about from the empty one by the workflow and by direct use, in any order.
Each step may meet any disturbance, any sink and any cancellation. -/
inductive Furnished : Store → Prop where
  | empty : Furnished {}
  | act {σ : Type} [Sink σ] (x : Activity σ) (w : World σ) (h : Furnished w.store) :
      Furnished (x.run w).store
  | use {σ : Type} (u : Use) (w : World σ) (h : Furnished w.store) : Furnished (u.run w).2.store

theorem lasting_consistent : Lasting Consistent where
  creation := fun _ _ _ hs hok => (Builds.createAoi hs hok).consistent
  relay := fun _ ids hs => hs.ackJobs ids
  task := fun _ _ _ _ hs hok =>
    ⟨Work.schema_of_exec hs.toSchema hok, Work.named_of_exec hs.toNamed hok,
      Work.queued_of_exec hok hs.toQueued⟩

theorem Furnished.consistent {s : Store} (h : Furnished s) : s.Consistent := by
  induction h with
  | empty => exact consistent_empty
  | act x w _ ih =>
    exact lasting_consistent.course.relates_activity (x.all_of_forall fun _ => trivial) w ih
  | use u w _ ih =>
    rcases u.cases ih rfl with hbuilds | ⟨ids, heq⟩
    · exact hbuilds.consistent
    · rw [heq]
      exact ih.ackJobs ids

/-! ### Results -/

theorem WorkerResult.faithful (r : WorkerResult) (s : Store) :
    Draft.Faithful r.body { store := s } := by
  obtain ⟨kind, id, status, message⟩ := r
  cases kind with
  | scene => exact (Task.changeScene id status (some message) false).faithful s
  | tile => exact (Task.changeTile id status (some message) false).faithful s

theorem handleResult_eq {σ : Type} [Sink σ] (r : WorkerResult) :
    ∃ operation, handleResult (σ := σ) r = transact operation r.body := by
  obtain ⟨kind, id, status, message⟩ := r
  cases kind with
  | scene | tile => exact ⟨_, rfl⟩

section
variable {σ : Type} [Sink σ] {w : World σ} (h : w.Undisturbed) (r : WorkerResult)
include h

theorem handleResult_undisturbed :
    handleResult r w =
      match r.body.exec w.store with
      | .error e => (.error e, w)
      | .ok (a, store) => (.ok a, (Outbox.flush w.batchSize { w with store }).2) := by
  obtain ⟨operation, heq⟩ := handleResult_eq (σ := σ) r
  rw [heq, transact_of_faithful h operation (r.faithful w.store)]
  cases r.body.exec w.store <;> rfl

/-- However often a result may be tried, it is applied or the world stays as it was. -/
theorem deliver_undisturbed (attempts : Nat) :
    (Consumer.deliver r (attempts + 1) w).2 =
      match r.body.exec w.store with
      | .error _ => w
      | .ok (_, store) => (Outbox.flush w.batchSize { w with store }).2 := by
  have hhandled := handleResult_undisturbed h r
  cases hexec : r.body.exec w.store with
  | error e =>
    rw [hexec] at hhandled
    induction attempts with
    | zero =>
      rw [Consumer.deliver, attempt_bind, hhandled]
      dsimp only
      split <;> rfl
    | succ attempts ih =>
      rw [Consumer.deliver, attempt_bind, hhandled]
      dsimp only
      split
      · exact ih
      · rfl
  | ok outcome =>
    rw [hexec] at hhandled
    rw [Consumer.deliver, attempt_bind, hhandled]
    rfl

end

namespace Service
variable {config : Config} {w : World JsonLines}

theorem relay_eq (w : World JsonLines) : relay w = (Outbox.flush w.batchSize w).2 := by
  show (flushOutbox w).2 = _
  rw [flushOutbox_eq]

/-- A result changes nothing, or its effect on the store is followed by a relay. -/
theorem apply_undisturbed (config : Config) (h : w.Undisturbed) (r : WorkerResult) :
    apply config w r =
      match r.body.exec w.store with
      | .error _ => w
      | .ok (_, store) => relay { w with store } := by
  have hattempts : max 1 config.maxRedeliveries = max 1 config.maxRedeliveries - 1 + 1 := by omega
  unfold apply
  rw [hattempts, deliver_undisturbed h]
  simp only [relay_eq]

/-- After the step there is nothing that a relay would write, and what was written before it makes
no difference to it. -/
structure Resumable (step : World JsonLines → World JsonLines) (w : World JsonLines) : Prop where
  settled : (step w).Settled
  batchSize_eq : (step w).batchSize = w.batchSize
  following : ∀ earlier, step (w.following earlier) = (step w).following earlier

theorem Resumable.congr {step other : World JsonLines → World JsonLines} (h : Resumable step w)
    (hsame : ∀ earlier, other (w.following earlier) = step (w.following earlier)) :
    Resumable other w := by
  have hnow : other w = step w := hsame []
  refine ⟨?_, ?_, fun earlier => ?_⟩
  · rw [hnow]
    exact h.settled
  · rw [hnow]
    exact h.batchSize_eq
  · rw [hsame, hnow, h.following]

theorem relay_of_settled (h : w.Settled) : relay w = w := by
  rw [relay_eq, h.flush]

theorem resumable_relay (hw : w.Undisturbed) (hqueued : w.store.Queued) : Resumable relay w where
  settled := by
    rw [relay_eq]
    exact World.settled_flush hw hqueued
  batchSize_eq := by
    rw [relay_eq]
    exact World.batchSize_flush hw hqueued _
  following := by
    intro earlier
    rw [relay_eq, relay_eq]
    exact World.following_flush hw hqueued earlier w.batchSize

theorem resumable_apply (config : Config) (r : WorkerResult) (h : w.Settled) :
    Resumable (apply config · r) w := by
  have happly (earlier : List String) : apply config (w.following earlier) r =
      match r.body.exec w.store with
      | .error _ => w.following earlier
      | .ok (_, store) => relay { w.following earlier with store } :=
    apply_undisturbed config (h.following earlier).undisturbed r
  cases hexec : r.body.exec w.store with
  | error e =>
    have hstay : Resumable id w := ⟨h, rfl, fun _ => rfl⟩
    refine hstay.congr fun earlier => ?_
    rw [happly, hexec]
    rfl
  | ok outcome =>
    obtain ⟨a, s⟩ := outcome
    have hchanged : ({ w with store := s } : World JsonLines).Undisturbed :=
      ⟨h.undisturbed.faults, h.undisturbed.cancelled⟩
    have hrelay := resumable_relay hchanged (Work.queued_of_exec hexec h.queued)
    have hstep : Resumable (fun w => relay { w with store := s }) w :=
      ⟨hrelay.settled, hrelay.batchSize_eq, hrelay.following⟩
    refine hstep.congr fun earlier => ?_
    rw [happly, hexec]

theorem resumable_results (config : Config) (rs : List WorkerResult) (h : w.Settled) :
    Resumable (rs.foldl (apply config)) w := by
  induction rs generalizing w with
  | nil => exact ⟨h, rfl, fun _ => rfl⟩
  | cons r rs ih =>
    have hfirst := resumable_apply config r h
    have hrest := ih hfirst.settled
    refine ⟨hrest.settled, hrest.batchSize_eq.trans hfirst.batchSize_eq, fun earlier => ?_⟩
    rw [List.foldl_cons, hfirst.following, hrest.following, List.foldl_cons]

/-! ### Runs -/

theorem resumable_start (config : Config) {s : Store} (hs : s.Queued) :
    Resumable relay (World.opened s {} config.batchSize) :=
  resumable_relay ⟨rfl, rfl⟩ hs

theorem repeat_relay_of_settled (h : w.Settled) (times : Nat) : Nat.repeat relay times w = w := by
  induction times with
  | zero => rfl
  | succ times ih => rw [Nat.repeat, ih, relay_of_settled h]

/-- The timer has no effect: between two results the world is settled. -/
theorem attend_of_settled (config : Config) (ticks : Nat → Nat) (rs : List WorkerResult)
    (position : Nat) (h : w.Settled) :
    attend config ticks position rs w = rs.foldl (apply config) w := by
  induction rs generalizing position w with
  | nil => exact repeat_relay_of_settled h _
  | cons r rs ih =>
    simp only [attend, repeat_relay_of_settled h, h.undisturbed.cancelled]
    exact ih (position + 1) (resumable_apply config r h).settled

/-- Neither the timer nor the relay at the end has an effect. -/
theorem run_eq (config : Config) (ticks : Nat → Nat) (input : List (List UInt8)) {s : Store}
    (hs : s.Queued) :
    run config ticks input { store := s } =
      (results input).foldl (apply config) (start config { store := s }) := by
  have hstart : (start config { store := s }).Settled := (resumable_start config hs).settled
  rw [run, attend_of_settled config ticks _ 0 hstart]
  exact relay_of_settled (resumable_results config (results input) hstart).settled

/-- A run ends in a world in which a relay has no effect. -/
theorem settled_run (config : Config) (ticks : Nat → Nat) (input : List (List UInt8)) {s : Store}
    (hs : s.Queued) :
    (run config ticks input { store := s }).Settled ∧
      (run config ticks input { store := s }).batchSize = config.batchSize := by
  have hstart := resumable_start config hs
  have hresults := resumable_results config (results input) hstart.settled
  rw [run_eq config ticks input hs]
  exact ⟨hresults.settled, hresults.batchSize_eq.trans hstart.batchSize_eq⟩

/-- A second run on the store of a first one goes on as the first one would have. -/
theorem run_restart (config : Config) (ticks ticks₁ ticks₂ : Nat → Nat)
    {input first rest : List (List UInt8)}
    (hinput : results input = results first ++ results rest) {s : Store} (hs : s.Queued)
    {w₁ : World JsonLines} (hw₁ : run config ticks₁ first { store := s } = w₁) :
    run config ticks input { store := s } =
      (run config ticks₂ rest { store := w₁.store }).following w₁.sink.lines := by
  subst hw₁
  obtain ⟨hsettled, hsize⟩ := settled_run config ticks₁ first hs
  have hwhole : run config ticks input { store := s } =
      (results rest).foldl (apply config) (run config ticks₁ first { store := s }) := by
    rw [run_eq config ticks input hs, run_eq config ticks₁ first hs, hinput, List.foldl_append]
  rw [hwhole, run_eq config ticks₂ rest hsettled.queued]
  generalize run config ticks₁ first { store := s } = w at hsettled hsize
  -- The world that was left is the one that is opened, but for the lines that were written.
  have hw : w = (World.opened w.store {} config.batchSize).following w.sink.lines := by
    have heq := hsettled.undisturbed.eq_following
    rw [hsize] at heq
    exact heq
  have hopened : (World.opened w.store {} config.batchSize : World JsonLines).Settled :=
    ⟨⟨rfl, rfl⟩, hsettled.queued, hsize ▸ hsettled.blocked⟩
  have hstart : start config { store := w.store } = World.opened w.store {} config.batchSize :=
    relay_of_settled hopened
  rw [hstart, ← (resumable_results config (results rest) hopened).following, ← hw]

/-! ### Launches -/

/-- A store that is kept at an address takes every call: it can be written to, and no statement is too
large for it. What is left there is opened the next time. -/
structure Databases.Keeps {δ : Type} (db : Databases δ) (url : String) (connections : Nat) : Prop where
  connect_close : ∀ (s : Store) (files : δ),
    db.connect url connections (db.close url s files) = some { store := s }

theorem launch_eq {δ : Type} {db : Databases δ} {env : String → Option String} {config : Config}
    {connection : Connection} {files : δ} (hconfig : Config.load env = .ok config)
    (hopen : db.connect config.databaseUrl config.maxConnections files = some connection)
    (ticks : Nat → Nat) (input : List UInt8) :
    launch db env ticks input files = some (run config ticks (lines input) connection,
      db.close config.databaseUrl (run config ticks (lines input) connection).store files) := by
  have hopened : open? db env files = some (config, connection) := by
    simp [open?, hconfig, hopen, Except.toOption]
  rw [launch, hopened, Option.map_some]

/-- Whatever lies at a plain address of a file is kept there. -/
theorem keeps_plain {url path : String} (hurl : Location.ofUrl? url = some (.file path))
    (connections : Nat) : plain.Keeps url connections where
  connect_close := by
    intro s files
    simp [plain, hurl]

end Service

open Service in
/-- Whatever has been done with a file before, a service that is stopped between two lines and
started again on the file writes the lines, and leaves the store, that it would without the stop. The
timer may come up at any time in each of the runs. The file has to be one that takes every call: a store
that is opened for reading only keeps what waits, and every run writes it again. -/
theorem Furnished.launch_restart {δ : Type} {db : Databases δ} {env : String → Option String}
    {files : δ} {config : Config} {s : Store} (h : Furnished s)
    (hconfig : Config.load env = .ok config)
    (hfile : db.connect config.databaseUrl config.maxConnections files = some { store := s })
    (hkeeps : db.Keeps config.databaseUrl config.maxConnections) (first rest : List String)
    (hlines : ∀ text ∈ first ++ rest, '\n' ∉ text.toList) (ticks ticks₁ ticks₂ : Nat → Nat) :
    ∃ (whole w₁ w₂ : World JsonLines) (files' files₁ files₂ : δ),
      launch db env ticks (feed (first ++ rest)) files = some (whole, files') ∧
      launch db env ticks₁ (feed first) files = some (w₁, files₁) ∧
      launch db env ticks₂ (feed rest) files₁ = some (w₂, files₂) ∧
      db.connect config.databaseUrl config.maxConnections files₂ =
        db.connect config.databaseUrl config.maxConnections files' ∧
      w₂.store = whole.store ∧ whole.sink.lines = w₁.sink.lines ++ w₂.sink.lines := by
  have hrestart := run_restart config ticks ticks₁ ticks₂ (results_feed_append hlines)
    h.consistent.toQueued rfl
  have hreopened := hkeeps.connect_close (run config ticks₁ (lines (feed first)) { store := s }).store
    files
  refine ⟨_, _, _, _, _, _, launch_eq hconfig hfile ticks _, launch_eq hconfig hfile ticks₁ _,
    launch_eq hconfig hreopened ticks₂ _, ?_, ?_, ?_⟩
  · rw [hkeeps.connect_close, hkeeps.connect_close, hrestart]
    rfl
  · rw [hrestart]
    rfl
  · rw [hrestart]
    rfl

/-- A scene of one tile, and three jobs that wait, the second of which cannot be written. -/
def northTorn : World Unit :=
  (Use.run (.work
    [.createScene { sourceId := "s1", aoi := "north", status := .pending },
      .createTile { sourceId := "a", scene := 1, aoi := "north" },
      .enqueueJob .sceneJobs "{}", .enqueueJob .sceneJobs "torn", .enqueueJob .tileJobs "{}"]
    .commit) northCreated).2

def northSettings (key : String) : Option String :=
  if key = Config.urlKey then some "sqlite:jobs.db"
  else if key = Config.batches.key then some "1"
  else none

open Service in
def northFiles : Location → Option Store :=
  Function.update (fun _ => none) (.file "jobs.db") northTorn.store

/-- A blank line, and the report that the scene is done. -/
def northMorning : List String :=
  ["", "\x7b\"type\": \"scene\", \"id\": 1, \"status\": \"DONE\"\x7d"]

/-- A line that reports nothing, and the report that its tile has failed, with a carriage return. -/
def northEvening : List String :=
  ["done", "\x7b\"type\": \"tile\", \"id\": 1, \"status\": \"FAILED\"\x7d\r"]

open Service in
/-- The job before the one that is torn is written before the stop. The one for the tile of the
scene waits behind it, also when the second service fails the tile. The timer comes up before each
result in the first service, and not at all in the others. -/
theorem launch_restart_northTorn :
    Furnished northTorn.store ∧
      ∃ (whole w₁ w₂ : World JsonLines) (files' files₁ files₂ : Location → Option Store),
        launch plain northSettings (fun _ => 0) (feed (northMorning ++ northEvening)) northFiles =
          some (whole, files') ∧
        launch plain northSettings (fun _ => 1) (feed northMorning) northFiles = some (w₁, files₁) ∧
        launch plain northSettings (fun _ => 0) (feed northEvening) files₁ = some (w₂, files₂) ∧
        w₂.store = whole.store ∧ whole.sink.lines = w₁.sink.lines ++ w₂.sink.lines ∧
        whole.sink.lines = ["\x7b\"topic\":\"scene-jobs\",\"payload\":\x7b\x7d\x7d"] ∧
        whole.store.outbox.map (·.id) = [2, 3, 4] ∧
        w₁.store.tiles.map (·.status) = [.pending] ∧ w₂.store.tiles.map (·.status) = [.failed] := by
  have hfurnished : Furnished northTorn.store :=
    .use _ northCreated (.use _ { sink := () } .empty)
  have hconfig : Config.load northSettings = .ok ⟨"sqlite:jobs.db", 5, 5000, 1, 3, 500⟩ := by
    decide +kernel
  have hurl : Location.ofUrl? "sqlite:jobs.db" = some (.file "jobs.db") := by decide +kernel
  have hlines : ∀ text ∈ northMorning ++ northEvening, '\n' ∉ text.toList := by decide +kernel
  have hfile : plain.connect "sqlite:jobs.db" 5 northFiles = some { store := northTorn.store } := by
    simp [plain, hurl, northFiles]
  obtain ⟨whole, w₁, w₂, files', files₁, files₂, hwhole, hfirst, hsecond, -, hstore, hwritten⟩ :=
    hfurnished.launch_restart hconfig hfile (keeps_plain hurl 5) northMorning northEvening hlines
      (fun _ => 0) (fun _ => 1) (fun _ => 0)
  have hall : ((launch plain northSettings (fun _ => 0) (feed (northMorning ++ northEvening))
      northFiles).any fun w =>
        w.1.sink.lines == ["\x7b\"topic\":\"scene-jobs\",\"payload\":\x7b\x7d\x7d"] &&
          (w.1.store.outbox.map (·.id) == [2, 3, 4] &&
            w.1.store.tiles.map (·.status) == [.failed])) = true := by
    decide +kernel
  have hhalf : ((launch plain northSettings (fun _ => 1) (feed northMorning) northFiles).any fun w =>
      w.1.store.tiles.map (·.status) == [.pending]) = true := by
    decide +kernel
  rw [hwhole, Option.any_some] at hall
  rw [hfirst, Option.any_some] at hhalf
  obtain ⟨hout, hrows⟩ := Bool.and_eq_true_iff.1 hall
  obtain ⟨hwaiting, htile⟩ := Bool.and_eq_true_iff.1 hrows
  exact ⟨hfurnished, whole, w₁, w₂, files', files₁, files₂, hwhole, hfirst, hsecond, hstore, hwritten,
    eq_of_beq hout, eq_of_beq hwaiting, eq_of_beq hhalf, hstore ▸ eq_of_beq htile⟩

end SceneWorkflow
