import SceneWorkflow.Proofs.Json.Restating
import SceneWorkflow.Proofs.Service.Input
import SceneWorkflow.Sink.JsonLines

/-!
# How batches come out as lines

A batch is accepted if each of its payloads is JSON. It comes out as one line for each
payload, an object of the topic and of what the payload says. A line feed ends the line,
and there is none in it, so that the lines are found again in the bytes. A batch that is
refused leaves no byte, and all others come out as they would without it.
-/
namespace SceneWorkflow.JsonLines
open Json

def read? (bytes : List UInt8) : Option Json :=
  (String.fromUTF8? ⟨bytes.toArray⟩).bind Json.parse

def document? (payload : List UInt8) : Option Json := (read? payload).bind canonical?

def envelope (topic : Topic) (document : Json) : Json :=
  record [("topic", .ofString topic.name), ("payload", document)]

/-- The line is an object of the topic and of what the payload says. -/
def Conveys (topic : Topic) (payload line : List UInt8) : Prop :=
  ∃ document c, read? payload = some document ∧ document.canonical? = some c ∧
    Restates document c ∧ read? line = some (envelope topic c)

/-- Each line is followed by a line feed, and has none in it. -/
structure Framed (bytes : List UInt8) (lines : List (List UInt8)) : Prop where
  bytes_eq : bytes = lines.flatMap fun line => line ++ [10]
  unbroken : ∀ line ∈ lines, 10 ∉ line

structure Batch where
  topic : Topic
  payloads : List (List UInt8)

namespace Batch

def accepted (b : Batch) : Bool := b.payloads.all fun payload => (document? payload).isSome

def answer (b : Batch) : Except Error Unit :=
  if b.accepted then .ok () else .error (.publish b.topic.name "payload is not JSON")

def entries (b : Batch) : List (Topic × List UInt8) := b.payloads.map fun payload => (b.topic, payload)

end Batch

/-- Publishes batches one after the other, whatever becomes of each. -/
def publishAll : List Batch → JsonLines → List (Except Error Unit) × JsonLines
  | [], out => ([], out)
  | b :: batches, out =>
    let (answer, out) := publishBytes b.topic b.payloads out
    let (answers, out) := publishAll batches out
    (answer :: answers, out)

/-! ### Lists of options -/

section
variable {α β γ : Type} {f : α → Option β}

theorem mapM_bind (f : α → Option β) (g : β → Option γ) (xs : List α) :
    ((xs.mapM f).bind fun ys => ys.mapM g) = xs.mapM fun x => (f x).bind g := by
  induction xs with
  | nil => rfl
  | cons x xs ih =>
    rw [List.mapM_cons, List.mapM_cons, ← ih]
    cases hx : f x with
    | none => rfl
    | some y =>
      cases hxs : xs.mapM f with
      | none => cases hy : g y <;> simp [hy]
      | some ys => simp

theorem isSome_mapM (xs : List α) : (xs.mapM f).isSome = xs.all fun x => (f x).isSome := by
  induction xs with
  | nil => rfl
  | cons x xs ih =>
    rw [List.mapM_cons, List.all_cons, ← ih]
    cases f x with
    | none => rfl
    | some y => cases xs.mapM f <;> rfl

theorem forall₂_of_mapM {xs : List α} {ys : List β} (h : xs.mapM f = some ys) :
    List.Forall₂ (fun x y => f x = some y) xs ys := by
  induction xs generalizing ys with
  | nil =>
    cases h
    exact .nil
  | cons x xs ih =>
    rw [List.mapM_cons] at h
    obtain ⟨y, hy, h⟩ := Option.bind_eq_some_iff.1 h
    obtain ⟨ys, hys, h⟩ := Option.bind_eq_some_iff.1 h
    cases h
    exact .cons hy (ih hys)

end

/-! ### Lines -/

variable {topic : Topic} {payload : List UInt8} {out : JsonLines}

def lineOf? (topic : Topic) (payload : List UInt8) : Option String :=
  (String.fromUTF8? ⟨payload.toArray⟩).bind (line? topic)

theorem lineOf?_eq (topic : Topic) (payload : List UInt8) :
    lineOf? topic payload = (document? payload).map fun c => (envelope topic c).print := by
  unfold lineOf? document? read?
  cases String.fromUTF8? ⟨payload.toArray⟩ with
  | none => rfl
  | some text =>
    simp only [Option.bind_some, line?, envelope]
    cases Json.parse text with
    | none => rfl
    | some document => cases hc : document.canonical? <;> simp [hc]

theorem fromUTF8?_bytes (text : String) :
    String.fromUTF8? ⟨(Service.bytes text).toArray⟩ = some text := by
  rw [Service.bytes_eq, Service.fromUTF8?_flatMap, String.ofList_toList]

@[simp]
theorem read?_bytes (text : String) : read? (Service.bytes text) = Json.parse text := by
  rw [read?, fromUTF8?_bytes, Option.bind_some]

/-- The envelope of a document with a canonical form can be read, and has no line break. -/
theorem legible_envelope {document c : Json} (hread : read? payload = some document)
    (hc : document.canonical? = some c) : (envelope topic c).Legible := by
  obtain ⟨text, -, htext⟩ := Option.bind_eq_some_iff.1 hread
  have hlegible := (restates_of_canonicalWithin hc).legible (legible_of_parse htext)
  refine .obj fun m hm => ?_
  simp only [List.map_cons, List.map_nil, List.mem_cons, List.not_mem_nil, or_false] at hm
  rcases hm with rfl | rfl
  · exact .str _
  · exact hlegible

theorem conveys_of_lineOf? {line : String} (h : lineOf? topic payload = some line) :
    '\n' ∉ line.toList ∧ Conveys topic payload (Service.bytes line) := by
  rw [lineOf?_eq] at h
  obtain ⟨c, hdocument, rfl⟩ := Option.map_eq_some_iff.1 h
  obtain ⟨document, hread, hc⟩ := Option.bind_eq_some_iff.1 hdocument
  have hlegible : (envelope topic c).Legible := legible_envelope hread hc
  constructor
  · rw [Json.print, String.toList_ofList]
    exact hlegible.not_mem_chars
  · refine ⟨document, c, hread, hc, restates_of_canonicalWithin hc, ?_⟩
    rw [read?_bytes, hlegible.parse_print]

theorem bytes_append (lines more : List String) :
    bytes ⟨lines ++ more⟩ = bytes ⟨lines⟩ ++ bytes ⟨more⟩ := List.flatMap_append

theorem framed_bytes {lines : List String} (h : ∀ line ∈ lines, '\n' ∉ line.toList) :
    Framed (bytes ⟨lines⟩) (lines.map Service.bytes) ∧
      Service.lines (bytes ⟨lines⟩) = lines.map Service.bytes := by
  refine ⟨⟨?_, ?_⟩, Service.lines_feed h⟩
  · rw [List.flatMap_map]
    rfl
  · intro line hline
    obtain ⟨text, htext, rfl⟩ := List.mem_map.1 hline
    exact Service.not_mem_bytes (h text htext)

/-! ### Batches -/

theorem publishBytes_eq (topic : Topic) (payloads : List (List UInt8)) (out : JsonLines) :
    publishBytes topic payloads out =
      match payloads.mapM (lineOf? topic) with
      | some lines => (.ok (), ⟨out.lines ++ lines⟩)
      | none => (.error (.publish topic.name "payload is not JSON"), out) := by
  have hlines := mapM_bind (fun payload : List UInt8 => String.fromUTF8? ⟨payload.toArray⟩)
    (line? topic) payloads
  unfold publishBytes lineOf?
  rw [← hlines]
  cases payloads.mapM fun payload => String.fromUTF8? ⟨payload.toArray⟩ <;> rfl

/-- Texts are published as their bytes are. -/
theorem publishBytes_bytes (topic : Topic) (texts : List String) (out : JsonLines) :
    publishBytes topic (texts.map Service.bytes) out = publish topic texts out := by
  have hlines : (texts.map Service.bytes).mapM (lineOf? topic) = texts.mapM (line? topic) := by
    rw [List.mapM_map]
    congr 1
    funext text
    simp [lineOf?, fromUTF8?_bytes]
  rw [publishBytes_eq, hlines]
  rfl

namespace Batch
variable {b : Batch}

theorem isSome_mapM_lineOf? (b : Batch) :
    (b.payloads.mapM (lineOf? b.topic)).isSome = b.accepted := by
  simp only [isSome_mapM, lineOf?_eq, Option.isSome_map, accepted]

theorem publish_refused (h : b.accepted = false) (out : JsonLines) :
    publishBytes b.topic b.payloads out = (b.answer, out) := by
  have hnone : b.payloads.mapM (lineOf? b.topic) = none := by
    rw [← Option.not_isSome_iff_eq_none, isSome_mapM_lineOf?, h]
    exact Bool.false_ne_true
  simp [publishBytes_eq, hnone, answer, h]

theorem publish_accepted (h : b.accepted = true) (out : JsonLines) :
    ∃ lines, publishBytes b.topic b.payloads out = (b.answer, ⟨out.lines ++ lines⟩) ∧
      List.Forall₂ (fun payload line => lineOf? b.topic payload = some line) b.payloads lines := by
  obtain ⟨lines, hlines⟩ := Option.isSome_iff_exists.1 ((isSome_mapM_lineOf? b).trans h)
  refine ⟨lines, ?_, forall₂_of_mapM hlines⟩
  simp [publishBytes_eq, hlines, answer, h]

end Batch

/-- Each batch gets its own answer, and what is written are the lines of the accepted ones, in order.
The induction is on the batches, over any lines that have been written before. -/
theorem publishAll_eq (batches : List Batch) (out : JsonLines) :
    ∃ lines, publishAll batches out = (batches.map Batch.answer, ⟨out.lines ++ lines⟩) ∧
      List.Forall₂ (fun entry line => lineOf? entry.1 entry.2 = some line)
        ((batches.filter Batch.accepted).flatMap Batch.entries) lines := by
  induction batches generalizing out with
  | nil => exact ⟨[], by simp [publishAll], .nil⟩
  | cons b batches ih =>
    cases hb : b.accepted with
    | false =>
      obtain ⟨lines, hpublish, hlines⟩ := ih out
      refine ⟨lines, ?_, ?_⟩
      · simp [publishAll, Batch.publish_refused hb, hpublish]
      · rwa [List.filter_cons_of_neg (by simp [hb])]
    | true =>
      obtain ⟨first, hfirst, hentries⟩ := Batch.publish_accepted hb out
      obtain ⟨lines, hpublish, hlines⟩ := ih ⟨out.lines ++ first⟩
      refine ⟨first ++ lines, ?_, ?_⟩
      · simp [publishAll, hfirst, hpublish]
      · rw [List.filter_cons_of_pos hb, List.flatMap_cons]
        exact List.rel_append (List.forall₂_map_left_iff.2 hentries) hlines

/-- A refused batch has no effect on what becomes of the others. -/
theorem publishAll_filter (batches : List Batch) (out : JsonLines) :
    (publishAll batches out).2 = (publishAll (batches.filter Batch.accepted) out).2 := by
  induction batches generalizing out with
  | nil => rfl
  | cons b batches ih =>
    cases hb : b.accepted with
    | false =>
      rw [List.filter_cons_of_neg (by simp [hb]), ← ih]
      simp [publishAll, Batch.publish_refused hb]
    | true =>
      rw [List.filter_cons_of_pos hb]
      exact ih _

theorem publishAll_framed (batches : List Batch) (out : JsonLines) :
    ∃ written, (publishAll batches out).2.bytes = out.bytes ++ written ∧
      Framed written (Service.lines written) ∧
      List.Forall₂ (fun entry line => Conveys entry.1 entry.2 line)
        ((batches.filter Batch.accepted).flatMap Batch.entries) (Service.lines written) := by
  obtain ⟨lines, hpublish, hlines⟩ := publishAll_eq batches out
  have hconveys := hlines.imp fun _ _ => conveys_of_lineOf?
  obtain ⟨hunbroken, hconveys⟩ := (List.forall₂_and_left _ _).1 hconveys.flip
  obtain ⟨hframed, hfound⟩ := framed_bytes hunbroken
  refine ⟨bytes ⟨lines⟩, by rw [hpublish]; exact bytes_append _ _, ?_, ?_⟩
  · rwa [hfound]
  · rw [hfound, List.forall₂_map_right_iff]
    exact hconveys.flip

end SceneWorkflow.JsonLines
