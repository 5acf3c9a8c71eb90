import SceneWorkflow.Proofs.Engine.Transcripts
import SceneWorkflow.Proofs.Sink.Framing
import SceneWorkflow.Proofs.Wire.Restated

/-!
# Jobs come out as lines

Every job that waits, now or once a unit of work has succeeded, tells of a scene or tile
as the text of it. So any batch of these is accepted as lines, and although the members
are sorted there, each line is read as the very scene or tile that its job tells of.
-/
namespace SceneWorkflow
open Json Store

/-! ### Jobs that are read from lines -/

namespace Notice
variable {n : Notice} {line : List UInt8}

def document : Notice → Json
  | scene ref => ref.toJson
  | tile job => job.toJson

def ofJson? : Topic → Json → Option Notice
  | .sceneJobs, j => (SceneRef.ofJson? j).map scene
  | .tileJobs, j => (TileJob.ofJson? j).map tile

def ofLine? (line : List UInt8) : Option Notice := do
  match (← JsonLines.read? line).fields? ["topic", "payload"] with
  | some [some topic, some payload] => ofJson? (← (Topic.parse (← topic.string?)).toOption) payload
  | _ => none

theorem payload_eq_print (n : Notice) : n.payload = n.document.print := by
  cases n <;> rfl

theorem reads_document (h : n.Fits) : Reads (ofJson? n.topic) n.document n := by
  intro c hc
  cases n with
  | scene ref =>
    show (SceneRef.ofJson? c).map scene = some (scene ref)
    rw [SceneRef.reads_toJson h c hc, Option.map_some]
  | tile job =>
    show (TileJob.ofJson? c).map tile = some (tile job)
    rw [TileJob.reads_toJson h c hc, Option.map_some]

theorem plain_document (h : n.Fits) : Plain maxDepth n.document := by
  cases n with
  | scene ref => exact SceneRef.plain_toJson h 123
  | tile job => exact TileJob.plain_toJson h 121

theorem read?_payload (h : n.Fits) :
    JsonLines.read? (Service.bytes n.payload) = some n.document := by
  rw [JsonLines.read?_bytes, payload_eq_print, (plain_document h).parse_print]

theorem document?_payload (h : n.Fits) :
    (JsonLines.document? (Service.bytes n.payload)).isSome := by
  rw [JsonLines.document?, read?_payload h]
  exact (plain_document h).canonicalWithin_isSome

theorem ofLine?_of_conveys (h : n.Fits)
    (hline : JsonLines.Conveys n.topic (Service.bytes n.payload) line) : ofLine? line = some n := by
  obtain ⟨document, c, hread, -, hrestates, henvelope⟩ := hline
  rw [read?_payload h] at hread
  cases hread
  have hfields : (JsonLines.envelope n.topic c).fields? ["topic", "payload"] =
      some [some (.ofString n.topic.name), some c] := fields?_record (by simp) _
  simp [ofLine?, henvelope, hfields, Topic.parse_name, Except.toOption, reads_document h c hrestates]

end Notice

/-! ### Jobs that wait -/

namespace Store

/-- The job tells of a scene or tile. Its ids have 64 bits if those in the store have. -/
def Tells (s : Store) (j : QueuedJob) : Prop :=
  ∃ n : Notice, n.topic = j.topic ∧ n.payload = j.payload ∧ (s.IdsFit → n.Fits)

theorem Tells.of_extends {s s' : Store} {j : QueuedJob} (h : s.Tells j) (ho : s.Ordered)
    (hext : Extends s s') : s'.Tells j := by
  obtain ⟨n, htopic, hpayload, hfits⟩ := h
  exact ⟨n, htopic, hpayload, fun hids => hfits (hext.fits ho hids)⟩

structure Telling (s : Store) : Prop extends Forest s where
  tells : ∀ j ∈ s.outbox, s.Tells j

namespace Telling
variable {s s' : Store}

theorem empty : Telling {} where
  toForest := forest_empty
  tells := fun _ hj => absurd hj List.not_mem_nil

/-- Where the rows are the same, the jobs tell the same. -/
theorem of_sameRows (h : Telling s) (hsame : SameRows s s') (hjobs : s'.outbox ⊆ s.outbox) :
    Telling s' where
  toForest := h.toForest.of_sameRows hsame
  tells := fun j hj => (h.tells j (hjobs hj)).of_extends h.toOrdered (.of_sameRows hsame)

/-- A unit of work leaves the jobs that wait, and what it queues tells of its scenes and tiles. -/
theorem task {task : Task} {a : task.Answer} (h : Telling s)
    (hok : task.body.exec s = .ok (a, s')) : Telling s' where
  toForest := Task.forest h.toForest hok
  tells := by
    obtain ⟨jobs, hqueues⟩ := Work.queues_of_exec hok
    intro j hj
    rw [hqueues.outbox_eq] at hj
    rcases List.mem_append.1 hj with hold | hnew
    · exact (h.tells j hold).of_extends h.toOrdered (Work.extends_of_exec h.toSchema hok)
    · have htell := Task.announces h.toForest hok hqueues.outbox_eq j hnew
      obtain ⟨n, htopic, hpayload, area, hn⟩ := htell
      exact ⟨n, htopic, hpayload, fun hids => hids.notice hn⟩

end Telling
end Store

theorem lasting_telling : Lasting Telling where
  creation := fun s _ _ h hok =>
    h.of_sameRows (sameRows_createAoi hok) (by simp [(queues_createAoi hok).outbox_eq])
  relay := fun s ids h => h.of_sameRows (sameRows_ackJobs s ids) List.filter_sublist.subset
  task := fun _ _ _ _ h hok => h.task hok

theorem Attainable.telling {s : Store} (h : Attainable s) : Telling s :=
  h.induct lasting_telling .empty

/-! ### Batches of jobs -/

/-- The line is read as the scene or tile that the payload of the job is read as. -/
def QueuedJob.RecoveredFrom (j : QueuedJob) (line : String) : Prop :=
  ∃ n : Notice, n.topic = j.topic ∧ n.payload = j.payload ∧
    Notice.ofText? j.topic j.payload = some n ∧ Notice.ofLine? (Service.bytes line) = some n

namespace Store.Telling
variable {s : Store} {topic : Topic} {jobs : List QueuedJob}

/-- Any batch of jobs that wait is accepted, and its lines are read as the jobs. -/
theorem publishes (h : Telling s) (hfits : s.IdsFit)
    (hjobs : ∀ j ∈ jobs, j ∈ s.outbox ∧ j.topic = topic) (out : JsonLines) :
    ∃ lines, JsonLines.publish topic (jobs.map (·.payload)) out = (.ok (), ⟨out.lines ++ lines⟩) ∧
      List.Forall₂ QueuedJob.RecoveredFrom jobs lines := by
  have htell : ∀ j ∈ jobs, ∃ n : Notice, n.topic = topic ∧ n.topic = j.topic ∧
      n.payload = j.payload ∧ n.Fits := by
    intro j hj
    obtain ⟨hwaits, hon⟩ := hjobs j hj
    obtain ⟨n, htopic, hpayload, hn⟩ := h.tells j hwaits
    exact ⟨n, htopic.trans hon, htopic, hpayload, hn hfits⟩
  let batch : JsonLines.Batch := ⟨topic, (jobs.map (·.payload)).map Service.bytes⟩
  have haccepted : batch.accepted = true := by
    simp only [batch, JsonLines.Batch.accepted, List.all_map, List.all_eq_true]
    intro j hj
    obtain ⟨n, -, -, hpayload, hn⟩ := htell j hj
    simp only [Function.comp_apply, ← hpayload, Notice.document?_payload hn]
  obtain ⟨lines, hpublish, hlines⟩ := JsonLines.Batch.publish_accepted haccepted out
  rw [JsonLines.publishBytes_bytes, JsonLines.Batch.answer, if_pos haccepted] at hpublish
  rw [List.forall₂_map_left_iff, List.forall₂_map_left_iff] at hlines
  refine ⟨lines, hpublish, ((List.forall₂_and_left _ _).2 ⟨htell, hlines⟩).imp ?_⟩
  rintro j line ⟨⟨n, rfl, htopic, hpayload, hn⟩, hline⟩
  refine ⟨n, htopic, hpayload, ?_, ?_⟩
  · rw [← htopic, ← hpayload]
    exact Notice.ofText?_payload hn
  · rw [← hpayload] at hline
    exact Notice.ofLine?_of_conveys hn (JsonLines.conveys_of_lineOf? hline).2

end Store.Telling

namespace JsonLines

/-- Whatever is published, and whatever has been written before, the bytes that are written split at
their line feeds into one line for each payload of the accepted batches, in order, and each line is an
object of the topic and of what its payload says. A batch is refused as soon as one payload is not JSON.
It leaves no byte then, and what comes of the others is the same without it. Any batch of jobs that wait
in an attainable store, or once a unit of work has succeeded there, is accepted, and its lines are read
as the scenes and tiles that the jobs are read as. Ids in the store have to be integers of 64 bits. -/
theorem publishes_framed :
    (∀ (batches : List Batch) (out : JsonLines),
      (publishAll batches out).1 = batches.map Batch.answer ∧
      ∃ written, (publishAll batches out).2.bytes = out.bytes ++ written ∧
        Framed written (Service.lines written) ∧
        List.Forall₂ (fun entry line => Conveys entry.1 entry.2 line)
          ((batches.filter Batch.accepted).flatMap Batch.entries) (Service.lines written)) ∧
    (∀ (b : Batch) (out : JsonLines), (∃ payload ∈ b.payloads, document? payload = none) →
      publishBytes b.topic b.payloads out =
        (.error (.publish b.topic.name "payload is not JSON"), out)) ∧
    (∀ (batches : List Batch) (out : JsonLines),
      (publishAll batches out).2 = (publishAll (batches.filter Batch.accepted) out).2) ∧
    (∀ (topic : Topic) (texts : List String) (out : JsonLines),
      publish topic texts out = publishBytes topic (texts.map Service.bytes) out) ∧
    ∀ (s s' : Store) (task : Task) (a : task.Answer), Attainable s →
      task.body.exec s = .ok (a, s') → s'.IdsFit → ∀ (topic : Topic) (jobs : List QueuedJob),
        (∀ j ∈ jobs, j ∈ s'.outbox ∧ j.topic = topic) → ∀ out : JsonLines,
          ∃ lines, publish topic (jobs.map (·.payload)) out = (.ok (), ⟨out.lines ++ lines⟩) ∧
            List.Forall₂ QueuedJob.RecoveredFrom jobs lines := by
  refine ⟨fun batches out => ⟨?_, publishAll_framed batches out⟩, ?_, publishAll_filter,
    fun topic texts out => (publishBytes_bytes topic texts out).symm, ?_⟩
  · obtain ⟨lines, hpublish, -⟩ := publishAll_eq batches out
    rw [hpublish]
  · rintro b out ⟨payload, hmem, hnone⟩
    have hrefused : b.accepted = false := by
      rw [Batch.accepted, List.all_eq_false]
      exact ⟨payload, hmem, by simp [hnone]⟩
    rw [Batch.publish_refused hrefused, Batch.answer, hrefused]
    rfl
  · intro s s' task a hs hok hfits topic jobs hjobs out
    exact (hs.telling.task hok).publishes hfits hjobs out

/-- Members out of order, with a line feed between them and one in a text, and a list. Then a batch
whose second payload breaks off, and a number that is written with a digit to spare. -/
def mixed : List Batch :=
  [⟨.sceneJobs, [Service.bytes "\x7b\"b\":\n1,\"a\":\"x\\ny\"\x7d", Service.bytes "[]"]⟩,
    ⟨.tileJobs, [Service.bytes "\x7b\x7d", Service.bytes "\x7b"]⟩,
    ⟨.tileJobs, [Service.bytes "1.50"]⟩]

/-- Three lines come out of these batches, and one of the job of a tile that another one precedes. -/
theorem publishes_framed_mixed :
    mixed.map Batch.accepted = [true, false, true] ∧
      Framed (publishAll mixed {}).2.bytes (Service.lines (publishAll mixed {}).2.bytes) ∧
      (Service.lines (publishAll mixed {}).2.bytes).length = 3 ∧
      ∃ s', (Task.changeTile 1 .done none false).body.exec underway.store = .ok (true, s') ∧
        s'.outbox.length = 1 ∧ ∃ lines,
          publish .tileJobs (s'.outbox.map (·.payload)) {} = (.ok (), ⟨lines⟩) ∧
            List.Forall₂ QueuedJob.RecoveredFrom s'.outbox lines := by
  obtain ⟨hframed, -, -, -, hjobs⟩ := publishes_framed
  have haccepted : mixed.map Batch.accepted = [true, false, true] := by decide +kernel
  have hentries : ((mixed.filter Batch.accepted).flatMap Batch.entries).length = 3 := by
    decide +kernel
  have hattain : Attainable underway.store := (Attainable.empty.after _).after _
  have hrun : ((Task.changeTile 1 .done none false).body.exec underway.store).toOption.any
      (fun x => x.1 && decide (x.2.outbox.length = 1 ∧ (∀ j ∈ x.2.outbox, j.topic = .tileJobs) ∧
        (∀ y ∈ x.2.scenes, Fits64 y.id) ∧ ∀ t ∈ x.2.tiles, Fits64 t.id)) = true := by
    decide +kernel
  obtain ⟨⟨accepted, s'⟩, hok, hfacts⟩ := (Option.any_eq_true _ _).1 hrun
  obtain ⟨rfl, hfacts⟩ := Bool.and_eq_true_iff.1 hfacts
  obtain ⟨hone, htopics, hscenes, htiles⟩ := of_decide_eq_true hfacts
  rw [toOption_eq_some] at hok
  obtain ⟨-, written, hwritten, hlines, hconveys⟩ := hframed mixed {}
  obtain rfl : _ = written := hwritten
  refine ⟨haccepted, hlines, hconveys.length_eq ▸ hentries, s', hok, hone, ?_⟩
  exact hjobs underway.store s' (.changeTile 1 .done none false) true hattain hok
    ⟨hscenes, htiles⟩ .tileJobs s'.outbox (fun j hj => ⟨hj, htopics j hj⟩) {}

end JsonLines

end SceneWorkflow
