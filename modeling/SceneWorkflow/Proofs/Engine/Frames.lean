import SceneWorkflow.Proofs.Cascade.Elections
import SceneWorkflow.Proofs.Engine.Endings

/-!
# How far a request reaches

A request is about one scene or tile. Other scenes stay as they are. Of other tiles
those may fail that belong to a scene that fails, and they were new. The rest lose at most
links to tiles that fail, and may start if they were new.
-/
namespace SceneWorkflow
namespace Store
variable {s s' s'' : Store} {f t t' : Tile} {gone more : List Int} {kind : EntityKind} {id k : Int}
  {message : Option String}

/-! ### Comparisons with tiles that do not fail -/

/-- No comparison changes but those with tiles that are gone. -/
def SparesReferences (gone : List Int) (s s' : Store) : Prop :=
  ∀ id r, s.referenceOf? id = some r → (∀ k ∈ gone, r ≠ some k) → s'.referenceOf? id = some r

theorem SameReferences.spares (h : SameReferences s s') (gone : List Int) :
    SparesReferences gone s s' := fun id _ hr _ => (h id).trans hr

theorem SparesReferences.trans (h : SparesReferences gone s s')
    (h' : SparesReferences more s' s'') : SparesReferences (gone ++ more) s s'' := by
  intro id r hr hother
  refine h' id r (h id r hr fun k hk => hother k (List.mem_append_left _ hk)) fun k hk => ?_
  exact hother k (List.mem_append_right _ hk)

theorem SparesReferences.after (h : SparesReferences gone s s') (hsame : SameReferences s' s'') :
    SparesReferences gone s s'' := fun id r hr hother => (hsame id).trans (h id r hr hother)

/-- A failing tile hands over what was compared with it, and that is all. -/
theorem sparesReferences_failTile (s : Store) (f : Tile) (message : Option String) :
    SparesReferences [f.id] s (s.failTile f message) := by
  intro id r hr hother
  cases hheir : s.heir? f with
  | none => exact (sameReferences_failTile hheir message id).trans hr
  | some k =>
    rw [referenceOf?_failTile hheir, hr, Option.map_some, if_neg]
    exact hother f.id (List.mem_singleton_self _)

/-! ### Rows that a request reaches -/

/-- The row of a tile that is neither asked for nor among those that are gone. -/
structure Brushes (gone : List Int) (t t' : Tile) : Prop where
  same : t' = { t with status := t'.status, previous := t'.previous, reference := t'.reference }
  status : t'.status = t.status ∨ t.status = .new ∧ t'.status = .pending
  previous : (∀ k ∈ gone, t.previous ≠ some k) → t'.previous = t.previous
  reference : (∀ k ∈ gone, t.reference ≠ some k) → t'.reference = t.reference

/-- What changes is what a request is for, the tiles that fail, and what others need on their
account. -/
structure Confines (kind : EntityKind) (id : Int) (gone : List Int) (s s' : Store) : Prop where
  sceneIds : s'.scenes.map (·.id) = s.scenes.map (·.id)
  tileIds : s'.tiles.map (·.id) = s.tiles.map (·.id)
  scenes : ∀ k, (kind, id) ≠ (.scene, k) → s'.scene? k = s.scene? k
  bystander : ∀ k t, s.tile? k = some t → (kind, id) ≠ (.tile, k) → k ∉ gone →
    ∃ t', s'.tile? k = some t' ∧ Brushes gone t t'
  failed : ∀ k, s'.tileStatus? k = some .failed ↔
    s.tileStatus? k = some .failed ∧ (kind, id) ≠ (.tile, k) ∨ k ∈ gone
  new : ∀ k ∈ gone, (kind, id) ≠ (.tile, k) → s.tileStatus? k = some .new

theorem Confines.of_sameRows (h : Confines kind id gone s s') (hsame : SameRows s' s'') :
    Confines kind id gone s s'' where
  sceneIds := by rw [hsame.scenes, h.sceneIds]
  tileIds := by rw [hsame.tiles, h.tileIds]
  scenes := fun k hne => (hsame.scene? k).trans (h.scenes k hne)
  bystander := by
    intro k t ht hne hstays
    rw [hsame.tile?]
    exact h.bystander k t ht hne hstays
  failed := by
    intro k
    rw [hsame.tileStatus?]
    exact h.failed k
  new := h.new

def victims (s : Store) (requested : Status) (kind : EntityKind) (id : Int) : List Int :=
  if requested = .failed then s.failing kind id else []

theorem failedBy_eq_victims {present requested : Status} {force : Bool} {change : Transition}
    (hchange : present.transition requested force = some change) :
    s.failedBy change kind id = s.victims requested kind id := by
  unfold victims
  split
  · next hfailed =>
    subst hfailed
    obtain rfl := Status.transition_failed hchange
    rfl
  · next hlive =>
    cases change with
    | fail => exact absurd (Status.eq_failed_of_transition hchange) hlive
    | finish | retry | requeue | overwrite => rfl

theorem Shifts.failed_iff (h : Shifts gone s s') (hstays : k ∉ gone) :
    s'.tileStatus? k = some .failed ↔ s.tileStatus? k = some .failed := by
  constructor
  · intro hfailed
    obtain ⟨t', ht', hstatus⟩ := tileStatus?_eq_some.1 hfailed
    obtain ⟨t, ht, hmoves⟩ := h.exists_tile? ht'
    rw [← tile?_id ht] at hstays
    rw [tileStatus?_of_tile? ht]
    rcases hmoves.started hstays with hsame | ⟨-, hpending⟩
    · rw [← hsame, hstatus]
    · cases hpending.symm.trans hstatus
  · intro hfailed
    exact h.lasts hfailed nofun hstays

/-- Only what is asked to fail does. -/
theorem status_update_ne_failed {present requested : Status} {force : Bool} {change : Transition}
    (hchange : present.transition requested force = some change) (hlive : change ≠ .fail)
    (budget : Int) (message : Option String) : (change.update budget message).status ≠ .failed := by
  cases change with
  | fail => exact absurd rfl hlive
  | overwrite status => exact Status.overwrite_ne_failed hchange
  | finish | requeue => nofun
  | retry =>
    unfold Transition.update
    dsimp only
    split <;> nofun

namespace Outcome
variable {change : Transition} {budget : Int} {area : String} {notices : List Notice}
  (h : Outcome kind id change budget message area s s' notices)
include h

theorem brushes (hspares : SparesReferences (s.failedBy change kind id) s s')
    (ht : s.tile? k = some t) (hne : (kind, id) ≠ (.tile, k))
    (hstays : k ∉ s.failedBy change kind id) :
    ∃ t', s'.tile? k = some t' ∧ Brushes (s.failedBy change kind id) t t' := by
  have hmoved := (tile?_moved_of_ne (u := change.update budget message) hne).trans ht
  obtain ⟨t', ht', hmoves⟩ := h.ripples.row k t hmoved
  rw [← tile?_id ht] at hstays
  refine ⟨t', ht', hmoves.same, hmoves.started hstays, hmoves.kept hstays, fun hother => ?_⟩
  have hafter := hspares k t.reference (congrArg (Option.map Tile.reference) ht) hother
  rw [referenceOf?, ht'] at hafter
  exact Option.some.inj hafter

/-- Of the tiles that the request does not make fail, those have failed that had before and are not
asked for. -/
theorem failed_iff {present requested : Status} {force : Bool}
    (hchange : present.transition requested force = some change)
    (hstays : k ∉ s.failedBy change kind id) :
    s'.tileStatus? k = some .failed ↔
      s.tileStatus? k = some .failed ∧ (kind, id) ≠ (.tile, k) := by
  rw [h.ripples.failed_iff hstays]
  by_cases hsame : (kind, id) = (.tile, k)
  · cases hsame
    have hlive : change ≠ .fail := by
      rintro rfl
      exact hstays (List.mem_singleton_self _)
    rw [tileStatus?_moved, if_pos ⟨rfl, rfl⟩]
    refine ⟨fun hfailed => ?_, fun hfailed => absurd rfl hfailed.2⟩
    obtain ⟨_, -, hstatus⟩ := Option.map_eq_some_iff.1 hfailed
    exact absurd hstatus (status_update_ne_failed hchange hlive budget message)
  · rw [tileStatus?_moved_of_ne hsame, and_iff_left hsame]

end Outcome

end Store

namespace Cascade
open Store
variable {s s' : Store} {kind : EntityKind} {id : Int} {requested : Status}
  {message : Option String} {force : Bool} {x : Scene}

theorem sparesReferences_failTile (h : Forest s)
    (hok : (failTile id message).exec s = .ok ((), s')) : SparesReferences [id] s s' := by
  obtain ⟨f, hf, -, rfl⟩ := failTile_eq_ok h hok
  obtain rfl := tile?_id hf
  have hsame := sameRows_announce (s.failTile f message) (s.freed f message)
  exact (Store.sparesReferences_failTile s f message).after (.of_tiles hsame.tiles)

theorem sparesReferences_failTiles (h : Forest s) {ts : List Tile}
    (hok : (ts.forM fun t => failTile t.id none).exec s = .ok (⟨⟩, s')) :
    SparesReferences (ts.map (·.id)) s s' := by
  induction ts generalizing s with
  | nil =>
    cases hok
    exact (SameReferences.refl s').spares []
  | cons t rest ih =>
    obtain ⟨_, s₁, hstep, hrest⟩ := Work.exec_bind_eq_ok (w := failTile t.id none)
      (f := fun _ => rest.forM fun t => failTile t.id none) hok
    exact (sparesReferences_failTile h hstep).trans (ih (forest_failTile h hstep) hrest)

/-- A request redirects no comparisons but those with tiles that it makes fail. -/
theorem sparesReferences_change (h : Forest s)
    (hok : (change kind id requested message force).exec s = .ok (true, s')) :
    SparesReferences (s.victims requested kind id) s s' := by
  unfold victims
  split
  · next hfailed =>
    subst hfailed
    cases kind with
    | tile =>
      obtain ⟨t, x, ht, rfl, -, ⟨-, hrejected, -⟩ | ⟨change, hchange, -, s₁, happly, rfl⟩⟩ :=
        changeTile_eq_ok hok
      · cases hrejected
      · obtain rfl := Status.transition_failed hchange
        exact (sparesReferences_failTile h happly).after
          (.of_tiles (sameRows_refreshAoiStatus s₁ x.aoi).tiles)
    | scene =>
      obtain ⟨x, hx, rfl, ⟨-, hrejected, -⟩ | ⟨change, hchange, -, s₁, happly, rfl⟩⟩ :=
        changeScene_eq_ok hok
      · cases hrejected
      · obtain rfl := Status.transition_failed hchange
        have hset : Forest (s.setScene x.id { status := .failed, message }) := h.setScene hx nofun
        exact (sparesReferences_failTiles hset (failScene_eq_ok happly).2).after
          (.of_tiles (sameRows_refreshAoiStatus s₁ x.aoi).tiles)
  · next hlive =>
    cases kind with
    | tile => exact (sameReferences_changeTile (fun hboth => hlive hboth.2) hok).spares []
    | scene => exact (sameReferences_changeScene (fun hboth => hlive hboth.2) hok).spares []

theorem fallen_change (h : Forest s)
    (hok : (change kind id requested message force).exec s = .ok (true, s')) :
    ∀ k ∈ s.victims requested kind id, s'.Fallen k := by
  unfold victims
  split
  · next hfailed =>
    subst hfailed
    cases kind with
    | tile => exact (fells_changeTile h hok).fallen
    | scene => exact (fells_changeScene h hok).fallen
  · exact nofun

theorem new_of_victim (hs : s.Ordered)
    (hok : (change kind id requested message force).exec s = .ok (true, s')) {k : Int}
    (hk : k ∈ s.victims requested kind id) (hne : (kind, id) ≠ (.tile, k)) :
    s.tileStatus? k = some .new := by
  unfold victims at hk
  split at hk
  · next hfailed =>
    subst hfailed
    cases kind with
    | tile => exact absurd (congrArg _ (List.mem_singleton.1 hk).symm) hne
    | scene => exact new_of_failing hok hs hk
  · cases hk

theorem confines_change (h : Forest s)
    (hok : (change kind id requested message force).exec s = .ok (true, s')) :
    Confines kind id (s.victims requested kind id) s s' := by
  have hspares := sparesReferences_change h hok
  have hfallen := fallen_change h hok
  have hnew := fun k hk => new_of_victim (k := k) h.toOrdered hok hk
  obtain ⟨present, budget, area, hdecides⟩ := decides_change h hok
  rcases hdecides.effect with
    ⟨-, hrejected, -⟩ | ⟨change, hchange, -, s₁, notices, houtcome, rfl⟩
  · cases hrejected
  have hsame := sameRows_refreshAoiStatus s₁ area
  have hspares₁ : SparesReferences (s.victims requested kind id) s s₁ :=
    hspares.after (.of_tiles hsame.tiles.symm)
  rw [← failedBy_eq_victims hchange] at hspares₁ hfallen hnew ⊢
  refine Confines.of_sameRows ?_ hsame
  refine ⟨?_, ?_, fun k hne => ?_, fun k t ht hne hstays => ?_, fun k => ?_, hnew⟩
  · rw [houtcome.ripples.scenes, moved_eq, List.map_map]
    exact List.map_congr_left fun x _ => movedScene_id _ _ _ x
  · rw [houtcome.ripples.ids, moved_eq, List.map_map]
    exact List.map_congr_left fun t _ => movedTile_id _ _ _ t
  · rw [houtcome.ripples.scene?, scene?_moved_of_ne hne]
  · exact houtcome.brushes hspares₁ ht hne hstays
  · by_cases hgone : k ∈ s.failedBy change kind id
    · obtain ⟨t, ht, hstatus, -⟩ := hfallen k hgone
      refine iff_of_true ?_ (.inr hgone)
      rw [← hsame.tileStatus?, tileStatus?_of_tile? ht, hstatus]
    · rw [houtcome.failed_iff hchange hgone, or_iff_left hgone]

end Cascade

open Store

/-- In every store that comes about, a request that is carried out, forced or not, changes no scene
but the one it is for. It makes the tiles fail that it is about, which were new but for the one it is
for. Every other tile stays as it is, except that it may start if it was new, and that its links to
tiles that fail are redirected. -/
theorem Attainable.request_confined {σ : Type} [Sink σ] {w : World σ} (h : Attainable w.store)
    {kind : EntityKind} {id : Int} {requested : Status} {message : Option String} {force : Bool}
    (hok : (updateStatus kind id requested message force w).1 = .ok true) :
    Confines kind id (w.store.victims requested kind id) w.store
      (updateStatus kind id requested message force w).2.store := by
  rcases updateStatus_rows kind id requested message force w with
    ⟨e, herror, -⟩ | ⟨accepted, s, hexec, hanswer, hsame⟩
  · cases herror.symm.trans hok
  · cases hanswer.symm.trans hok
    exact (Cascade.confines_change h.forest hexec).of_sameRows hsame

/-- Two tiles of one scene are compared with a tile of another. -/
def sharedReference : World Recorder :=
  World.after { sink := {} }
    [.createAoi "north",
      .ingestScene "north" (.ofTiles "north" "s1"
        [("a", {}), ("b", { previous := some ⟨"s1", "a"⟩ })]),
      .ingestScene "north" (.ofTiles "north" "s2"
        [("c", { reference := some ⟨"s1", "b"⟩ }),
          ("d", { previous := some ⟨"s2", "c"⟩, reference := some ⟨"s1", "b"⟩ })])]

/-- Two tiles fail with their scene, and of the others only what they were compared with changes. -/
theorem request_confined_sharedReference :
    Attainable sharedReference.store ∧
      (updateStatus .scene 1 .failed none false sharedReference).1 = .ok true ∧
      sharedReference.store.victims .failed .scene 1 = [1, 2] ∧
      (updateStatus .scene 1 .failed none false sharedReference).2.store.IsBaseline 3 ∧
      (updateStatus .scene 1 .failed none false sharedReference).2.store.Compares 4 3 ∧
      Confines .scene 1 [1, 2] sharedReference.store
        (updateStatus .scene 1 .failed none false sharedReference).2.store := by
  have hattain : Attainable sharedReference.store := Attainable.empty.after _
  have hdecided : (updateStatus .scene 1 .failed none false sharedReference).1.toOption =
      some true := by
    decide +kernel
  have hok := toOption_eq_some.1 hdecided
  have hvictims : sharedReference.store.victims .failed .scene 1 = [1, 2] := by decide +kernel
  have hconfined := hattain.request_confined hok
  rw [hvictims] at hconfined
  exact ⟨hattain, hok, hvictims, by decide +kernel, by decide +kernel, hconfined⟩

end SceneWorkflow
