import SceneWorkflow.Proofs.Json.Restating
import SceneWorkflow.Proofs.Wire.Jobs

/-!
# Jobs are read from what restates them

A job that has been rewritten, with its members in another order on every level, is read
as the same job. This holds of scenes, and of tiles, whose fields stand beside the links
of the job.
-/
namespace SceneWorkflow
open Json

theorem Instant.reads_toJson (i : Instant) : Reads Instant.ofJson? i.toJson i := by
  intro c hc
  rw [eq_of_restates_ofString hc]
  exact i.ofJson?_toJson

namespace TileMapping

theorem reads_toJson (m : TileMapping) : Reads ofJson? m.toJson m := by
  intro c hc
  obtain ⟨fields, rfl, hfields⟩ := hc.exists_fields (by simp)
  have hswath := (reads_string m.swathId).withDefault hfields "swath_id" rfl ""
  have htile := (reads_int32 m.tileNr).withDefault hfields "tile_nr" rfl 0
  simp [ofJson?, fields?_record hfields.fields_nodup, hswath, htile]

end TileMapping

namespace TileAttrs

theorem reads_toJson (a : TileAttrs) : Reads ofJson? a.toJson a := by
  intro c hc
  obtain ⟨fields, rfl, hfields⟩ := hc.exists_fields (by simp)
  have hswath := (reads_string a.swathId).withDefault hfields "swath_id" rfl ""
  have htile := (reads_int32 a.tileNr).withDefault hfields "tile_nr" rfl 0
  have hgraph := (reads_string a.graphName).withDefault hfields "graph_name" rfl ""
  simp [ofJson?, fields?_record hfields.fields_nodup, hswath, htile, hgraph]

end TileAttrs

namespace SceneAttrs

def members (a : SceneAttrs) : List (String × Json) :=
  ("uuid", .ofString a.uuid) ::
    (a.date.toList.map fun date => ("date", date.toJson)) ++
    [("tiles", .ofMap TileMapping.toJson a.tiles),
      ("graph_name", .ofString a.graphName),
      ("graph_config", .ofMap .ofString a.graphConfig),
      ("record_id", .ofString a.recordId),
      ("instances_id", .ofMap .ofString a.instancesId)]

theorem lookup_members (a : SceneAttrs) :
    (fieldNames.map fun name => a.members.lookup name) =
      [some (.ofString a.uuid), a.date.map Instant.toJson,
        some (.ofMap TileMapping.toJson a.tiles), some (.ofString a.graphName),
        some (.ofMap .ofString a.graphConfig), some (.ofString a.recordId),
        some (.ofMap .ofString a.instancesId)] := by
  cases hdate : a.date <;> simp [fieldNames, members, hdate, List.lookup_cons]

theorem nodup_members (a : SceneAttrs) : (a.members.map (·.1)).Nodup := by
  cases hdate : a.date <;> simp [members, hdate]

theorem reads_toJson (a : SceneAttrs) : Reads ofJson? a.toJson a := by
  intro c hc
  change Restates (record a.members) c at hc
  obtain ⟨fields, rfl, hfields⟩ := hc.exists_fields a.nodup_members
  have hlookup := a.lookup_members
  simp only [fieldNames, List.map_cons, List.map_nil, List.cons.injEq, and_true] at hlookup
  obtain ⟨huuid, hdate, htiles, hgraph, hconfig, hrecord, hinstances⟩ := hlookup
  have huuid := (reads_string a.uuid).withDefault hfields "uuid" huuid ""
  have hdate := Reads.optional (fun date _ => date.reads_toJson) Instant.toJson_ne_null hfields
    "date" hdate
  have htiles := (reads_map TileMapping.reads_toJson a.tiles).withDefault hfields
    "tiles" htiles .empty
  have hgraph := (reads_string a.graphName).withDefault hfields "graph_name" hgraph ""
  have hconfig := (reads_map reads_string a.graphConfig).withDefault hfields
    "graph_config" hconfig .empty
  have hrecord := (reads_string a.recordId).withDefault hfields "record_id" hrecord ""
  have hinstances := (reads_map reads_string a.instancesId).withDefault hfields
    "instances_id" hinstances .empty
  simp [ofJson?, fieldNames, fields?_record hfields.fields_nodup, huuid, hdate, htiles, hgraph,
    hconfig, hrecord, hinstances]

end SceneAttrs

namespace SceneRef

theorem reads_toJson {x : SceneRef} (h : x.Fits) : Reads ofJson? x.toJson x := by
  intro c hc
  obtain ⟨fields, rfl, hfields⟩ := hc.exists_fields (by simp)
  have hid := (reads_int64 h).required hfields "id" rfl
  have hsource := (reads_string x.sourceId).required hfields "source_id" rfl
  have haoi := (reads_string x.aoi).required hfields "aoi" rfl
  have hattrs := x.attrs.reads_toJson.required hfields "data" rfl
  simp [ofJson?, fields?_record hfields.fields_nodup, hid, hsource, haoi, hattrs]

end SceneRef

namespace TileRef

theorem nodup_members (t : TileRef) : (t.members.map (·.1)).Nodup := by
  simp [members]

theorem reads_toJson {t : TileRef} (h : t.Fits) : Reads ofJson? t.toJson t := by
  intro c hc
  obtain ⟨fields, rfl, hfields⟩ := hc.exists_fields t.nodup_members
  obtain ⟨hid, hscene⟩ := h
  have hid := (reads_int64 hid).required hfields "id" rfl
  have hsource := (reads_string t.sourceId).required hfields "source_id" rfl
  have hscene := (SceneRef.reads_toJson hscene).required hfields "scene" rfl
  have hattrs := t.attrs.reads_toJson.required hfields "data" rfl
  simp [ofJson?, fields?_record hfields.fields_nodup, hid, hsource, hscene, hattrs]

end TileRef

namespace TileJob
variable {job : TileJob}

theorem reads_toJson (h : job.Fits) : Reads ofJson? job.toJson job := by
  intro c hc
  have hplain := (plain_toJson h 121).restated hc
  change Restates (record job.members) c at hc
  obtain ⟨fields, rfl, hfields⟩ := hc.exists_fields job.nodup_members
  have hown : ((fields.filter fun m => !isLink m).all fun m =>
      (m.2.canonicalWithin (maxDepth - 1)).isSome) = true := by
    rw [List.all_eq_true]
    intro m hm
    exact (hplain.field m (List.mem_filter.1 hm).1).canonicalWithin_isSome
  have hrest : Matches job.tile.members (fields.filter fun m => !isLink m) := by
    rw [← job.filter_members]
    exact hfields.filter fun key => !(key == "tile_previous" || key == "tile_reference")
  have htile := TileRef.reads_toJson h.tile _ hrest.restates
  have hlink (key : String) {link : Option TileRef} (hfits : ∀ t ∈ link, t.Fits)
      (hkey : job.members.lookup key = link.map TileRef.toJson) :
      (only? fields key).bind (optional TileRef.ofJson?) = some link := by
    rw [only?_eq_lookup hfields.fields_nodup, Option.bind_some]
    exact Reads.optional (fun t ht => TileRef.reads_toJson (hfits t ht)) (fun t => record_ne_null _)
      hfields key hkey
  show ((fields.map fun f => (some f.1, f.2)).mapM _ >>= _) = _
  rw [mapM_key, Option.bind_eq_bind, Option.bind_some]
  dsimp only
  rw [if_pos hown, htile, hlink _ h.previous job.lookup_previous,
    hlink _ h.reference job.lookup_reference]
  rfl

end TileJob

end SceneWorkflow
