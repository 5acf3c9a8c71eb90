import Mathlib.Order.Bounds.Basic
import SceneWorkflow.Proofs.Cascade.Baselines
import SceneWorkflow.Proofs.Engine.Forests
import SceneWorkflow.Proofs.Engine.Requests

/-!
# Who takes over from a failed baseline

When a tile fails that is compared with none, the first of its followers in a scene
that goes on takes over from it. If there is no such follower, the first of the tiles
compared with it that go on takes over. All comparisons with the failed tile become
comparisons with its successor, and nothing else is compared otherwise than before.
-/
namespace SceneWorkflow
namespace Store
variable {s : Store} {f t : Tile} {id k : Int} {e e' : Option Int} {message : Option String}

def liveFollowers (s : Store) (id : Int) : Set Int :=
  { k | ∃ t, s.tile? k = some t ∧ t.previous = some id ∧ s.sceneStatus? t.scene ≠ some .failed }

def liveReferrers (s : Store) (id : Int) : Set Int :=
  { k | ∃ t, s.tile? k = some t ∧ t.reference = some id ∧ t.status ≠ .failed ∧
    s.sceneStatus? t.scene ≠ some .failed }

/-- Who takes over from a tile: the follower with the least id, else the referrer with the least id,
else none. -/
def TakesOver (s : Store) (id : Int) : Option Int → Prop
  | some k =>
    IsLeast (s.liveFollowers id) k ∨ s.liveFollowers id = ∅ ∧ IsLeast (s.liveReferrers id) k
  | none => s.liveFollowers id = ∅ ∧ s.liveReferrers id = ∅

def handedOver (id k : Int) (heir : Int) (reference : Option Int) : Option Int :=
  if reference = some id then if k = heir then none else some heir else reference

theorem TakesOver.unique (h : s.TakesOver id e) (h' : s.TakesOver id e') : e = e' := by
  cases e with
  | none =>
    cases e' with
    | none => rfl
    | some k' =>
      rcases h' with hleast | ⟨-, hleast⟩
      · exact absurd hleast.1 (h.1 ▸ Set.notMem_empty k')
      · exact absurd hleast.1 (h.2 ▸ Set.notMem_empty k')
  | some k =>
    cases e' with
    | none =>
      rcases h with hleast | ⟨-, hleast⟩
      · exact absurd hleast.1 (h'.1 ▸ Set.notMem_empty k)
      · exact absurd hleast.1 (h'.2 ▸ Set.notMem_empty k)
    | some k' =>
      apply congrArg some
      rcases h with hleast | ⟨hnone, hleast⟩
      · rcases h' with hleast' | ⟨hnone', -⟩
        · exact hleast.unique hleast'
        · exact absurd hleast.1 (hnone' ▸ Set.notMem_empty k)
      · rcases h' with hleast' | ⟨-, hleast'⟩
        · exact absurd hleast'.1 (hnone ▸ Set.notMem_empty k')
        · exact hleast.unique hleast'

/-- The first row that satisfies a condition has the least id among those that do. -/
theorem isLeast_of_find? {p : Tile → Bool} {ts : List Tile}
    (hts : ts.Pairwise fun t u => t.id < u.id) (h : ts.find? p = some t) :
    IsLeast { k | ∃ u ∈ ts, p u ∧ u.id = k } t.id := by
  obtain ⟨hp, before, after, rfl, hbefore⟩ := List.find?_eq_some_iff_append.1 h
  refine ⟨⟨t, by simp, hp, rfl⟩, ?_⟩
  rintro _ ⟨u, hu, hpu, rfl⟩
  rcases List.mem_append.1 hu with hmem | hmem
  · have hnot := hbefore u hmem
    simp [hpu] at hnot
  · rcases List.mem_cons.1 hmem with rfl | hmem
    · exact le_rfl
    · exact ((List.pairwise_cons.1 (List.pairwise_append.1 hts).2.1).1 u hmem).le

theorem liveFollowers_eq (hs : s.Ordered) (id : Int) :
    s.liveFollowers id =
      { k | ∃ t ∈ s.tiles.filter (fun t => t.previous == some id), s.inLiveScene t ∧ t.id = k } := by
  ext k
  constructor
  · rintro ⟨t, ht, hprevious, hscene⟩
    refine ⟨t, List.mem_filter.2 ⟨mem_of_tile? ht, beq_iff_eq.2 hprevious⟩, ?_, tile?_id ht⟩
    exact bne_iff_ne.2 hscene
  · rintro ⟨t, ht, hscene, rfl⟩
    obtain ⟨hmem, hprevious⟩ := List.mem_filter.1 ht
    exact ⟨t, hs.tile?_of_mem hmem, beq_iff_eq.1 hprevious, bne_iff_ne.1 hscene⟩

/-- A tile that is compared with none is none of its own referrers. -/
theorem liveReferrers_eq (hs : s.Ordered) (hf : s.tile? f.id = some f) (hnone : f.reference = none) :
    s.liveReferrers f.id =
      { k | ∃ t ∈ s.tiles.filter (fun t => t.reference == some f.id),
        (t.id != f.id && t.status != .failed && s.inLiveScene t) ∧ t.id = k } := by
  ext k
  constructor
  · rintro ⟨t, ht, hreference, hlive, hscene⟩
    have hne : t.id ≠ f.id := by
      intro hid
      rw [hs.eq_of_id (mem_of_tile? ht) (mem_of_tile? hf) hid, hnone] at hreference
      cases hreference
    refine ⟨t, List.mem_filter.2 ⟨mem_of_tile? ht, beq_iff_eq.2 hreference⟩, ?_, tile?_id ht⟩
    simp [inLiveScene, hne, hlive, hscene]
  · rintro ⟨t, ht, hgood, rfl⟩
    obtain ⟨hmem, hreference⟩ := List.mem_filter.1 ht
    simp only [Bool.and_eq_true, bne_iff_ne, ne_eq, inLiveScene] at hgood
    exact ⟨t, hs.tile?_of_mem hmem, beq_iff_eq.1 hreference, hgood.1.2, hgood.2⟩

theorem eq_empty_of_find? {p : Tile → Bool} {ts : List Tile} (h : ts.find? p = none) :
    { k | ∃ u ∈ ts, p u ∧ u.id = k } = ∅ := by
  refine Set.eq_empty_of_forall_notMem ?_
  rintro _ ⟨u, hu, hpu, -⟩
  exact List.find?_eq_none.1 h u hu hpu

theorem takesOver_heir? (hs : s.Ordered) (hf : s.tile? f.id = some f) (hnone : f.reference = none) :
    s.TakesOver f.id (s.heir? f) := by
  have hheir : s.heir? f =
      (((s.tiles.filter fun t => t.previous == some f.id).find? s.inLiveScene).map (·.id)).or
        (((s.tiles.filter fun t => t.reference == some f.id).find? fun t =>
          t.id != f.id && t.status != .failed && s.inLiveScene t).map (·.id)) := by
    rw [heir?, hnone]
    rfl
  rw [hheir]
  cases hfollower : (s.tiles.filter fun t => t.previous == some f.id).find? s.inLiveScene with
  | some t =>
    refine .inl ?_
    rw [liveFollowers_eq hs]
    exact isLeast_of_find? (hs.tiles_ascend.filter _) hfollower
  | none =>
    have hfollowers : s.liveFollowers f.id = ∅ := by
      rw [liveFollowers_eq hs, eq_empty_of_find? hfollower]
    cases hreferrer : (s.tiles.filter fun t => t.reference == some f.id).find? fun t =>
        t.id != f.id && t.status != .failed && s.inLiveScene t with
    | some t =>
      refine .inr ⟨hfollowers, ?_⟩
      rw [liveReferrers_eq hs hf hnone]
      exact isLeast_of_find? (hs.tiles_ascend.filter _) hreferrer
    | none =>
      refine ⟨hfollowers, ?_⟩
      rw [liveReferrers_eq hs hf hnone, eq_empty_of_find? hreferrer]

/-- Once a tile that was compared with none has failed, no tile that goes on is compared with it. -/
theorem Forest.liveReferrers_failTile (h : Forest s) (hf : s.tile? f.id = some f)
    (hnone : f.reference = none) (hnew : ∀ t ∈ s.tiles, t.previous = some f.id → t.status = .new) :
    (s.failTile f message).liveReferrers f.id = ∅ := by
  refine Set.eq_empty_of_forall_notMem ?_
  rintro k ⟨t', ht', hreference, hlive, hscene⟩
  rw [tile?_failTile] at ht'
  obtain ⟨t, ht, rfl⟩ := Option.map_eq_some_iff.1 ht'
  rcases failRow_reference_eq_some hreference with hbefore | ⟨-, hheir⟩
  · cases hheir : s.heir? f with
    | some e =>
      obtain ⟨-, u, -, -, hne, -⟩ :=
        heir?_eq_some h.toOrdered hf (h.previous_ne_self (mem_of_tile? hf)) hheir
      rw [failRow_reference, hheir] at hreference
      simp only [hbefore, if_true] at hreference
      split at hreference
      · cases hreference
      · exact hne (Option.some.inj hreference)
    | none =>
      have hid : t.id ≠ f.id := by
        intro hid
        rw [h.eq_of_id (mem_of_tile? ht) (mem_of_tile? hf) hid, hnone] at hbefore
        cases hbefore
      have halive : t.status ≠ .failed := by
        intro hfailed
        refine hlive ?_
        rw [failRow_status, if_neg hid, hfailed]
        split
        · next hfrees =>
          have hstatus := hnew t (mem_of_tile? ht) (frees_eq_true.1 hfrees).1
          cases hfailed.symm.trans hstatus
        · rfl
      have hdead := heir?_eq_none hheir hnone (mem_of_tile? ht) hbefore hid halive
      exact hscene (bne_eq_false_iff_eq.1 hdead)
  · obtain ⟨-, u, -, -, hne, -⟩ :=
      heir?_eq_some h.toOrdered hf (h.previous_ne_self (mem_of_tile? hf)) hheir
    exact hne rfl

theorem SameRows.liveReferrers {s' : Store} (h : SameRows s s') (id : Int) :
    s'.liveReferrers id = s.liveReferrers id := by
  ext k
  simp only [Store.liveReferrers, h.tile?, h.sceneStatus?]

end Store

namespace Cascade
open Store
variable {s s' : Store}

theorem changeTile_failed (h : Forest s) {id : Int} {f : Tile} (hf : s.tile? id = some f)
    {message : Option String} {force : Bool}
    (hok : (changeTile id .failed message force).exec s = .ok (true, s')) :
    (∀ t ∈ s.tiles, t.previous = some f.id → t.status = .new) ∧
      SameRows (s.failTile f message) s' := by
  obtain ⟨t, x, ht, hid, -, ⟨-, hrejected, -⟩ | ⟨change, hchange, -, s₁, happly, rfl⟩⟩ :=
    changeTile_eq_ok hok
  · cases hrejected
  · obtain rfl := Option.some.inj (ht.symm.trans hf)
    obtain rfl := Status.transition_failed hchange
    obtain ⟨f, hfound, hnew, rfl⟩ := Cascade.failTile_eq_ok h happly
    rw [hid] at hfound
    obtain rfl := Option.some.inj (hfound.symm.trans ht)
    exact ⟨hnew, (sameRows_announce _ _).trans (sameRows_refreshAoiStatus _ _)⟩

end Cascade

open Store

/-- A tile that is compared with none is made to fail. Just one tile takes over from it, or none. What
was compared with it is compared with its successor then, which is itself compared with it no more;
all other references stay, and all of them if none takes over. No tile that goes on in a scene that
goes on is compared with the failed one any more. -/
theorem Attainable.takesOver {σ : Type} [Sink σ] {w : World σ} (h : Attainable w.store) {id : Int}
    {f : Tile} (hf : w.store.tile? id = some f) (hnone : f.reference = none)
    {message : Option String} {force : Bool}
    (hok : (updateStatus .tile id .failed message force w).1 = .ok true) :
    ∃ heir, (∀ e, w.store.TakesOver id e ↔ e = heir) ∧
      (∀ k, (updateStatus .tile id .failed message force w).2.store.referenceOf? k =
        (w.store.referenceOf? k).map fun reference =>
          heir.elim reference fun e => handedOver id k e reference) ∧
      (updateStatus .tile id .failed message force w).2.store.liveReferrers id = ∅ := by
  have hforest := h.forest
  obtain rfl := tile?_id hf
  rcases updateStatus_rows .tile f.id .failed message force w with
    ⟨e, herror, -⟩ | ⟨accepted, s, hexec, hanswer, hsame⟩
  · cases herror.symm.trans hok
  · obtain rfl := Except.ok.inj (hanswer.symm.trans hok)
    obtain ⟨hnew, hrows⟩ := Cascade.changeTile_failed hforest hf hexec
    have hafter := hrows.trans hsame
    have hheir := takesOver_heir? hforest.toOrdered hf hnone
    refine ⟨w.store.heir? f, fun e => ⟨fun he => he.unique hheir, fun he => he ▸ hheir⟩, ?_, ?_⟩
    · intro k
      rw [SameReferences.of_tiles hafter.tiles k]
      cases hcase : w.store.heir? f with
      | none =>
        rw [sameReferences_failTile hcase message k]
        exact Option.map_id'.symm
      | some e => exact referenceOf?_failTile hcase message k
    · rw [hafter.liveReferrers]
      exact hforest.liveReferrers_failTile hf hnone hnew

/-- Of a baseline in one scene there are a follower and two referrers in another. -/
def baselineOfTwo : World Recorder :=
  World.after { sink := {} }
    [.createAoi "north",
      .ingestScene "north" (.ofTiles "north" "s1"
        [("a", {}), ("b", { reference := some ⟨"s1", "a"⟩ })]),
      .ingestScene "north" (.ofTiles "north" "s2"
        [("c", { reference := some ⟨"s1", "a"⟩ }),
          ("d", { previous := some ⟨"s1", "a"⟩, reference := some ⟨"s1", "a"⟩ })]),
      .updateStatus .scene 1 .done none false]

/-- The follower takes over, although a referrer is older. -/
theorem takesOver_baselineOfTwo :
    Attainable baselineOfTwo.store ∧
      (updateStatus .tile 1 .failed none false baselineOfTwo).1 = .ok true ∧
      baselineOfTwo.store.TakesOver 1 (some 4) ∧
      (updateStatus .tile 1 .failed none false baselineOfTwo).2.store.referenceOf? 2 =
        some (some 4) ∧
      (updateStatus .tile 1 .failed none false baselineOfTwo).2.store.referenceOf? 4 =
        some none ∧
      (updateStatus .tile 1 .failed none false baselineOfTwo).2.store.liveReferrers 1 = ∅ := by
  have hattain : Attainable baselineOfTwo.store := Attainable.empty.after _
  have hok : (updateStatus .tile 1 .failed none false baselineOfTwo).1 = .ok true := by
    decide +kernel
  have hfirst : (baselineOfTwo.store.tile? 1).any fun f =>
      f.reference == none && baselineOfTwo.store.heir? f == some 4 := by
    decide +kernel
  obtain ⟨f, hf, hgood⟩ := (Option.any_eq_true _ _).1 hfirst
  obtain ⟨hnone, hfourth⟩ := Bool.and_eq_true_iff.1 hgood
  have hid : f.id = 1 := tile?_id hf
  obtain ⟨heir, hheir, hreferences, hnoone⟩ := hattain.takesOver hf (eq_of_beq hnone) hok
  have htakes := takesOver_heir? hattain.forest.toOrdered (f := f) (hid.symm ▸ hf) (eq_of_beq hnone)
  rw [hid, eq_of_beq hfourth] at htakes
  obtain rfl := (hheir (some 4)).1 htakes
  refine ⟨hattain, hok, htakes, ?_, ?_, hnoone⟩
  · rw [hreferences]
    decide +kernel
  · rw [hreferences]
    decide +kernel

end SceneWorkflow
