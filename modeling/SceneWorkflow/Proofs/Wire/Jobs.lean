import SceneWorkflow.Job
import SceneWorkflow.Proofs.Wire.Values

/-!
# Jobs are read from what they are written as

The job of a tile is written as the fields of the tile with the links behind them. It
is read by taking the links out again.
-/
namespace SceneWorkflow
open Json

namespace SceneRef

def Fits (x : SceneRef) : Prop := Fits64 x.id

variable {x : SceneRef}

theorem fits_of_ofJson? {j : Json} (h : ofJson? j = some x) : x.Fits := by
  obtain ⟨fields, -, h⟩ := Option.bind_eq_some_iff.1 h
  split at h
  · obtain ⟨id, hid, h⟩ := Option.bind_eq_some_iff.1 h
    obtain ⟨sourceId, -, h⟩ := Option.bind_eq_some_iff.1 h
    obtain ⟨aoi, -, h⟩ := Option.bind_eq_some_iff.1 h
    obtain ⟨attrs, -, h⟩ := Option.bind_eq_some_iff.1 h
    cases h
    exact fits64_of_required hid
  · cases h

variable (h : x.Fits)
include h

theorem plain_toJson (depth : Nat) : Plain (depth + 4) x.toJson := by
  refine .record ?_
  simp [Plain.text, Plain.int _ h, SceneAttrs.plain_toJson]

theorem ofJson?_toJson : ofJson? x.toJson = some x := by
  simp [ofJson?, toJson, fields?_record, List.lookup_cons, int64?_ofInt h, SceneAttrs.ofJson?_toJson]

end SceneRef

namespace TileRef

def Fits (t : TileRef) : Prop := Fits64 t.id ∧ t.scene.Fits

variable {t : TileRef}

theorem fits_of_ofJson? {j : Json} (h : ofJson? j = some t) : t.Fits := by
  obtain ⟨fields, -, h⟩ := Option.bind_eq_some_iff.1 h
  split at h
  · obtain ⟨id, hid, h⟩ := Option.bind_eq_some_iff.1 h
    obtain ⟨sourceId, -, h⟩ := Option.bind_eq_some_iff.1 h
    obtain ⟨scene, hscene, h⟩ := Option.bind_eq_some_iff.1 h
    obtain ⟨attrs, -, h⟩ := Option.bind_eq_some_iff.1 h
    obtain ⟨_, -, hscene⟩ := Option.bind_eq_some_iff.1 hscene
    cases h
    exact ⟨fits64_of_required hid, SceneRef.fits_of_ofJson? hscene⟩
  · cases h

variable (h : t.Fits)
include h

theorem plain_members (depth : Nat) : ∀ f ∈ t.members, Plain (depth + 4) f.2 := by
  obtain ⟨hid, hscene⟩ := h
  simp [members, Plain.text, Plain.int _ hid, SceneRef.plain_toJson hscene, TileAttrs.plain_toJson]

theorem plain_toJson (depth : Nat) : Plain (depth + 5) t.toJson := .record (plain_members h depth)

theorem ofJson?_toJson : ofJson? t.toJson = some t := by
  obtain ⟨hid, hscene⟩ := h
  simp [ofJson?, toJson, members, fields?_record, List.lookup_cons, int64?_ofInt hid,
    SceneRef.ofJson?_toJson hscene, TileAttrs.ofJson?_toJson]

end TileRef

namespace TileJob

structure Fits (job : TileJob) : Prop where
  tile : job.tile.Fits
  previous : ∀ t ∈ job.previous, t.Fits
  reference : ∀ t ∈ job.reference, t.Fits

variable {job : TileJob}

theorem fits_of_only? {named : List (String × Json)} {key : String} {link : Option TileRef}
    (h : (only? named key).bind (optional TileRef.ofJson?) = some link) : ∀ t ∈ link, t.Fits := by
  rintro t rfl
  obtain ⟨field, -, hfield⟩ := Option.bind_eq_some_iff.1 h
  obtain ⟨j, hj⟩ := exists_of_optional hfield
  exact TileRef.fits_of_ofJson? hj

theorem fits_of_ofJson? {j : Json} (h : ofJson? j = some job) : job.Fits := by
  unfold ofJson? at h
  split at h
  · obtain ⟨named, -, h⟩ := Option.bind_eq_some_iff.1 h
    dsimp only at h
    split at h
    · obtain ⟨tile, htile, h⟩ := Option.bind_eq_some_iff.1 h
      obtain ⟨previous, hprevious, h⟩ := Option.bind_eq_some_iff.1 h
      obtain ⟨reference, hreference, h⟩ := Option.bind_eq_some_iff.1 h
      cases h
      exact ⟨TileRef.fits_of_ofJson? htile, fits_of_only? hprevious, fits_of_only? hreference⟩
    · cases h
  · cases h

def members (job : TileJob) : List (String × Json) :=
  job.tile.members ++ (job.previous.toList.map fun previous => ("tile_previous", previous.toJson)) ++
    job.reference.toList.map fun reference => ("tile_reference", reference.toJson)

theorem nodup_members (job : TileJob) : (job.members.map (·.1)).Nodup := by
  obtain ⟨tile, previous, reference⟩ := job
  cases previous <;> cases reference <;>
    simp [members, TileRef.members]

theorem filter_members (job : TileJob) :
    job.members.filter (fun m => !isLink m) = job.tile.members := by
  obtain ⟨tile, previous, reference⟩ := job
  cases previous <;> cases reference <;> simp [members, TileRef.members, isLink]

theorem lookup_previous (job : TileJob) :
    job.members.lookup "tile_previous" = job.previous.map TileRef.toJson := by
  obtain ⟨tile, previous, reference⟩ := job
  cases previous <;> cases reference <;> simp [members, TileRef.members, List.lookup_cons]

theorem lookup_reference (job : TileJob) :
    job.members.lookup "tile_reference" = job.reference.map TileRef.toJson := by
  obtain ⟨tile, previous, reference⟩ := job
  cases previous <;> cases reference <;> simp [members, TileRef.members, List.lookup_cons]

variable (h : job.Fits)
include h

theorem plain_toJson (depth : Nat) : Plain (depth + 6) job.toJson := by
  have hlink (key : String) {link : Option TileRef} (hlink : ∀ t ∈ link, t.Fits) :
      ∀ f ∈ link.toList.map fun t => (key, t.toJson), Plain (depth + 5) f.2 := by
    intro f hf
    obtain ⟨t, ht, rfl⟩ := List.mem_map.1 hf
    exact TileRef.plain_toJson (hlink t (Option.mem_toList.1 ht)) depth
  refine .record fun f hf => ?_
  rcases List.mem_append.1 hf with hf | hf
  · rcases List.mem_append.1 hf with hf | hf
    · exact TileRef.plain_members h.tile (depth + 1) f hf
    · exact hlink _ h.previous f hf
  · exact hlink _ h.reference f hf

theorem ofJson?_toJson : ofJson? job.toJson = some job := by
  have hown : (job.tile.members.all fun m => (m.2.canonicalWithin (maxDepth - 1)).isSome) = true :=
    List.all_eq_true.2 fun f hf => (TileRef.plain_members h.tile 122 f hf).canonicalWithin_isSome
  show ((job.members.map fun f => (some f.1, f.2)).mapM _ >>= _) = _
  rw [mapM_key, Option.bind_eq_bind, Option.bind_some]
  dsimp only
  rw [filter_members, if_pos hown, only?_eq_lookup job.nodup_members,
    only?_eq_lookup job.nodup_members, lookup_previous, lookup_reference]
  have htile : TileRef.ofJson? (record job.tile.members) = some job.tile :=
    TileRef.ofJson?_toJson h.tile
  have hlink {link : Option TileRef} (hlink : ∀ t ∈ link, t.Fits) :
      optional TileRef.ofJson? (link.map TileRef.toJson) = some link :=
    optional_map (fun t ht => TileRef.ofJson?_toJson (hlink t ht)) fun t => record_ne_null t.members
  simp [htile, hlink h.previous, hlink h.reference]

end TileJob

end SceneWorkflow
