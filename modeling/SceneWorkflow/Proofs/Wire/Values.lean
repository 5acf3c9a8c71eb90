import SceneWorkflow.Entity
import SceneWorkflow.Proofs.Instant.Reading
import SceneWorkflow.Proofs.Json.Records
import SceneWorkflow.Request

/-!
# Values are read from what they are written as

One after the other: attributes, requests, areas, counts and reports. The document of
each is made of texts, integers and records, and decodes to the value. Where a value
holds unbounded integers these must have 64 bits, as all have that are read.
-/
namespace SceneWorkflow
open Json

/-! ### Attributes -/

theorem Instant.ofJson?_toJson (i : Instant) : Instant.ofJson? i.toJson = some i := by
  have hread : Instant.ofJson? i.toJson = (some i.print).bind Instant.parse := rfl
  rw [hread, Option.bind_some, i.parse_print]

theorem Instant.toJson_ne_null (i : Instant) : i.toJson ≠ .null := nofun

namespace TileMapping
variable (m : TileMapping)

theorem plain_toJson (depth : Nat) : Plain (depth + 1) m.toJson := by
  refine .record ?_
  simp [Plain.text, Plain.int32]

theorem ofJson?_toJson : ofJson? m.toJson = some m := by
  simp [ofJson?, toJson, fields?_record, List.lookup_cons]

end TileMapping

namespace TileAttrs
variable (a : TileAttrs)

theorem plain_toJson (depth : Nat) : Plain (depth + 1) a.toJson := by
  refine .record ?_
  simp [Plain.text, Plain.int32]

theorem ofJson?_toJson : ofJson? a.toJson = some a := by
  simp [ofJson?, toJson, fields?_record, List.lookup_cons]

end TileAttrs

namespace SceneAttrs
variable (a : SceneAttrs)

theorem plain_toJson (depth : Nat) : Plain (depth + 3) a.toJson := by
  have htiles := Plain.ofMap (fun m => TileMapping.plain_toJson m depth) a.tiles
  have htexts : ∀ m : KeyMap String, Plain (depth + 2) (.ofMap .ofString m) := fun m =>
    .ofMap (Plain.text (depth + 1)) m
  refine .record ?_
  cases a.date <;> simp [Plain.text, htiles, htexts, Instant.toJson]

theorem ofJson?_toJson : ofJson? a.toJson = some a := by
  have htiles := map?_ofMap TileMapping.ofJson?_toJson a.tiles
  have htexts := map?_ofMap string?_ofString
  obtain ⟨uuid, date, tiles, graphName, graphConfig, recordId, instancesId⟩ := a
  cases date with
  | none =>
    simp [ofJson?, toJson, fieldNames, fields?_record, List.lookup_cons, htiles, htexts]
  | some date =>
    have hdate := optional_some date.ofJson?_toJson date.toJson_ne_null
    simp [ofJson?, toJson, fieldNames, fields?_record, List.lookup_cons, htiles, htexts, hdate]

end SceneAttrs

/-! ### Requests -/

namespace TileLink
variable (l : TileLink)

theorem plain_toJson (depth : Nat) : Plain (depth + 1) l.toJson := by
  refine .record ?_
  simp [Plain.text]

theorem ofJson?_toJson : ofJson? l.toJson = some l := by
  simp [ofJson?, toJson, fields?_record, List.lookup_cons]

end TileLink

namespace TileRequest
variable (r : TileRequest)

theorem plain_toJson (depth : Nat) : Plain (depth + 2) r.toJson := by
  have hlink := Plain.ofOption fun l => TileLink.plain_toJson l depth
  refine .record ?_
  simp [hlink, TileAttrs.plain_toJson]

theorem ofJson?_toJson : ofJson? r.toJson = some r := by
  have hlink := optional_ofOption TileLink.ofJson?_toJson nofun
  simp [ofJson?, toJson, fields?_record, List.lookup_cons, hlink, TileAttrs.ofJson?_toJson]

end TileRequest

namespace SceneRequest
variable (r : SceneRequest)

theorem plain_toJson (depth : Nat) : Plain (depth + 4) r.toJson := by
  have htiles := Plain.ofMap (fun t => TileRequest.plain_toJson t depth) r.tiles
  refine .record ?_
  simp [Plain.text, Plain.int32, htiles, SceneAttrs.plain_toJson]

theorem ofJson?_toJson : ofJson? r.toJson = some r := by
  have htiles := map?_ofMap TileRequest.ofJson?_toJson r.tiles
  simp [ofJson?, toJson, fields?_record, List.lookup_cons, htiles, SceneAttrs.ofJson?_toJson]

end SceneRequest

namespace Status
variable (s : Status)

theorem ofJson?_toJson : ofJson? s.toJson = some s := s.ofName?_name

end Status

namespace Aoi
variable (a : Aoi)

theorem plain_toJson (depth : Nat) : Plain (depth + 1) a.toJson := by
  refine .record ?_
  simp [Plain.text, Status.toJson]

theorem ofJson?_toJson : ofJson? a.toJson = some a := by
  simp [ofJson?, toJson, fields?_record, List.lookup_cons, Status.ofJson?_toJson]

end Aoi

namespace StatusCounts

def Fits (c : StatusCounts) : Prop := ∀ s, Fits64 (c.get s)

variable {c : StatusCounts}

theorem fits_of_ofJson? {j : Json} (h : ofJson? j = some c) : c.Fits := by
  obtain ⟨fields, -, h⟩ := Option.bind_eq_some_iff.1 h
  split at h
  · obtain ⟨new, hnew, h⟩ := Option.bind_eq_some_iff.1 h
    obtain ⟨pending, hpending, h⟩ := Option.bind_eq_some_iff.1 h
    obtain ⟨done, hdone, h⟩ := Option.bind_eq_some_iff.1 h
    obtain ⟨retry, hretry, h⟩ := Option.bind_eq_some_iff.1 h
    obtain ⟨failed, hfailed, h⟩ := Option.bind_eq_some_iff.1 h
    cases h
    intro s
    cases s with
    | new => exact fits64_of_required hnew
    | pending => exact fits64_of_required hpending
    | done => exact fits64_of_required hdone
    | retry => exact fits64_of_required hretry
    | failed => exact fits64_of_required hfailed
  · cases h

variable (h : c.Fits)
include h

theorem int64?_get (s : Status) : (ofInt (c.get s)).int64? = some (c.get s) := int64?_ofInt (h s)

theorem plain_toJson (depth : Nat) : Plain (depth + 1) c.toJson := by
  have hcount (s : Status) : Plain depth (ofInt (c.get s)) := .int depth (h s)
  refine .record ?_
  simp only [List.forall_mem_cons]
  exact ⟨hcount .new, hcount .pending, hcount .done, hcount .retry, hcount .failed, nofun⟩

theorem ofJson?_toJson : ofJson? c.toJson = some c := by
  have hnew := int64?_get h .new
  have hpending := int64?_get h .pending
  have hdone := int64?_get h .done
  have hretry := int64?_get h .retry
  have hfailed := int64?_get h .failed
  simp only [get] at hnew hpending hdone hretry hfailed
  simp [ofJson?, toJson, fields?_record, List.lookup_cons, hnew, hpending, hdone, hretry, hfailed]

end StatusCounts

/-! ### Reports -/

namespace EntityKind

theorem ofJson?_toJson (k : EntityKind) : ofJson? k.toJson = some k := by
  cases k <;> rfl

end EntityKind

namespace WorkerResult

def Fits (r : WorkerResult) : Prop := Fits64 r.id

variable {r : WorkerResult}

theorem fits_of_ofJson? {j : Json} (h : ofJson? j = some r) : r.Fits := by
  obtain ⟨fields, -, h⟩ := Option.bind_eq_some_iff.1 h
  split at h
  · obtain ⟨kind, -, h⟩ := Option.bind_eq_some_iff.1 h
    obtain ⟨id, hid, h⟩ := Option.bind_eq_some_iff.1 h
    obtain ⟨status, -, h⟩ := Option.bind_eq_some_iff.1 h
    obtain ⟨message, -, h⟩ := Option.bind_eq_some_iff.1 h
    cases h
    exact fits64_of_required hid
  · cases h

variable (h : r.Fits)
include h

theorem plain_toJson (depth : Nat) : Plain (depth + 1) r.toJson := by
  refine .record ?_
  simp [Plain.text, Plain.int depth h, EntityKind.toJson, Status.toJson]

theorem ofJson?_toJson : ofJson? r.toJson = some r := by
  simp [ofJson?, toJson, fields?_record, List.lookup_cons, int64?_ofInt h, Status.ofJson?_toJson,
    EntityKind.ofJson?_toJson]

end WorkerResult

end SceneWorkflow
