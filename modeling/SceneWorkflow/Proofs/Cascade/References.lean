import SceneWorkflow.Proofs.Cascade.Starting

/-!
# Who is compared with whom

The failure of a tile that is compared with none hands the comparisons with it
over to a tile that goes on. The failure of a tile that is itself compared with
another hands nothing over.
-/
namespace SceneWorkflow
namespace Store
variable {s s' : Store} {f t : Tile} {message : Option String} {doomed rest before after : List Int}

/-- No tile that goes on is compared with a failed one, unless that one is itself compared with
another. -/
def Compared (doomed : List Int) (s : Store) : Prop :=
  ∀ t ∈ s.tiles, t.status ≠ .failed → t.id ∉ doomed →
    ∀ id r, t.reference = some id → s.tile? id = some r → r.status = .failed → r.reference ≠ none

theorem Compared.of_sameRows (h : Compared doomed s) (hsame : SameRows s s') :
    Compared doomed s' := by
  intro t ht hlive hd id r href hr
  rw [hsame.tile?] at hr
  exact h t (hsame.tiles ▸ ht) hlive hd id r href hr

theorem failRow_reference (s : Store) (f : Tile) (message : Option String) (t : Tile) :
    (s.failRow f message t).reference =
      match s.heir? f with
      | none => t.reference
      | some id =>
        if t.reference = some f.id then if t.id = id then none else some id else t.reference := rfl

/-- Without an heir all references stay as they are. -/
theorem failRow_reference_of_none (h : s.heir? f = none) (message : Option String) (t : Tile) :
    (s.failRow f message t).reference = t.reference := by
  rw [failRow_reference, h]

/-- An heir has not failed and is in a scene that goes on. -/
theorem Lifecycle.heir_goes_on (h : Lifecycle doomed s) (hs : s.Schema) (hf : s.tile? f.id = some f)
    (hdone : f.status ≠ .done) {id : Int} (hheir : s.heir? f = some id) :
    id ≠ f.id ∧ id ∉ doomed ∧ ∃ u, s.tile? id = some u ∧ u.status ≠ .failed := by
  have hmem := mem_of_tile? hf
  obtain ⟨-, u, hu, rfl, hne, hscene, hrole⟩ :=
    heir?_eq_some hs.toOrdered hf (h.previous_ne_self hmem) hheir
  refine ⟨hne, ?_, u, hs.tile?_of_mem hu, ?_⟩
  · intro hd
    have hfailed := ((h.fits u hu).of_doomed hd).2
    rw [Store.inLiveScene, hfailed] at hscene
    cases hscene
  · rcases hrole with hp | ⟨-, hlive⟩
    · simp [h.follower_new hf hdone hu hp]
    · exact hlive

/-- A row fails with a tile only if it is that tile. -/
theorem failRow_failed (h : Lifecycle doomed s) (hf : s.tile? f.id = some f)
    (hdone : f.status ≠ .done) (message : Option String) (ht : t ∈ s.tiles) :
    (s.failRow f message t).status = .failed ↔ t.id = f.id ∨ t.status = .failed := by
  rw [failRow_status]
  cases hfrees : s.frees f t with
  | true =>
    have hp := (frees_eq_true.1 hfrees).1
    have hne : t.id ≠ f.id := by
      have := h.previous_lt t ht f.id hp
      omega
    have hnew := h.follower_new hf hdone ht hp
    simp [hne, hnew]
  | false =>
    by_cases hid : t.id = f.id <;> simp [hid]

/-- Without an heir, what a tile that goes on is compared with may only have failed if it is itself
compared with another. -/
theorem Compared.failRow_of_none (hc : Compared doomed s) (h : Lifecycle doomed s) (hs : s.Schema)
    (hf : s.tile? f.id = some f) (hheir : s.heir? f = none) (ht : t ∈ s.tiles) (hne : t.id ≠ f.id)
    (hlive : t.status ≠ .failed) (hd : t.id ∉ doomed) {id : Int} {r : Tile}
    (href : (s.failRow f message t).reference = some id) (hr : s.tile? id = some r)
    (hfailed : r.id = f.id ∨ r.status = .failed) : (s.failRow f message r).reference ≠ none := by
  rw [failRow_reference_of_none hheir] at href ⊢
  rcases hfailed with hrid | hrfailed
  · obtain rfl := hs.eq_of_id (mem_of_tile? hr) (mem_of_tile? hf) hrid
    intro hnone
    rw [← tile?_id hr] at href
    have hdead := heir?_eq_none hheir hnone ht href hne hlive
    rw [h.inLiveScene ht hlive hd] at hdead
    cases hdead
  · exact hc t ht hlive hd id r href hr hrfailed

/-- With an heir, which goes on, this is so as well. -/
theorem Compared.failRow_of_heir (hc : Compared doomed s) {k : Int} {u : Tile}
    (hheir : s.heir? f = some k) (hkf : k ≠ f.id) (hu : s.tile? k = some u)
    (hulive : u.status ≠ .failed) (ht : t ∈ s.tiles) (hlive : t.status ≠ .failed)
    (hd : t.id ∉ doomed) {id : Int} {r : Tile}
    (href : (s.failRow f message t).reference = some id) (hr : s.tile? id = some r)
    (hfailed : r.id = f.id ∨ r.status = .failed) : (s.failRow f message r).reference ≠ none := by
  have hrk : r.id ≠ k := by
    intro hrk
    rw [tile?_id hr] at hrk
    rw [← hrk, hr] at hu
    cases hu
    rcases hfailed with hrid | hrfailed
    · exact hkf (hrk.symm.trans ((tile?_id hr).symm.trans hrid))
    · exact hulive hrfailed
  rw [failRow_reference, hheir] at href ⊢
  dsimp only at href ⊢
  split at href
  · -- compared with the heir now
    split at href
    · cases href
    · cases href
      exact absurd (tile?_id hr) hrk
  · next hother =>
    have hrf : r.id ≠ f.id := by
      intro hrid
      rw [tile?_id hr] at hrid
      exact hother (hrid ▸ href)
    have hrref := hc t ht hlive hd id r href hr (hfailed.resolve_left hrf)
    split
    · exact Option.some_ne_none k
    · exact hrref

/-- The failure of a tile leaves no tile that goes on compared with it, unless it is itself compared
with another. -/
theorem Compared.failTile (hc : Compared doomed s) (h : Lifecycle doomed s) (hs : s.Schema)
    (hf : s.tile? f.id = some f) (hdone : f.status ≠ .done)
    (hrest : ∀ id, id ∈ rest ↔ id ∈ doomed ∧ id ≠ f.id) :
    Compared rest (s.failTile f message) := by
  intro t' ht' hlive' hd' id r' href hr' hfailed
  obtain ⟨t, ht, rfl⟩ := mem_mapTiles.1 ht'
  rw [tile?_failTile] at hr'
  obtain ⟨r, hr, rfl⟩ := Option.map_eq_some_iff.1 hr'
  have hboth := mt (failRow_failed h hf hdone message ht).2 hlive'
  have hne : t.id ≠ f.id := fun he => hboth (.inl he)
  have hlive : t.status ≠ .failed := fun he => hboth (.inr he)
  have hd : t.id ∉ doomed := fun hmem => hd' ((hrest t.id).2 ⟨hmem, hne⟩)
  rw [failRow_failed h hf hdone message (mem_of_tile? hr)] at hfailed
  cases hheir : s.heir? f with
  | none => exact hc.failRow_of_none h hs hf hheir ht hne hlive hd href hr hfailed
  | some k =>
    obtain ⟨hkf, -, u, hu, hulive⟩ := h.heir_goes_on hs hf hdone hheir
    exact hc.failRow_of_heir hheir hkf hu hulive ht hlive hd href hr hfailed

end Store
end SceneWorkflow
