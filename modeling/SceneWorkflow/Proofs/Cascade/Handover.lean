import SceneWorkflow.Proofs.Cascade.References

/-!
# How references change

A reference changes only when the tile it names has failed without being compared
with another itself. What takes its place goes on. This holds of one failure and of
any number of failures in a row.
-/
namespace SceneWorkflow
namespace Store
variable {s s' : Store} {f t : Tile} {message : Option String} {doomed rest before after : List Int}

def GoesOn (doomed : List Int) (s : Store) (id : Int) : Prop :=
  id ∉ doomed ∧ s.tileStatus? id ≠ some .failed

/-- A link names a tile that has failed and is compared with none. -/
def GivenUp (s : Store) (link : Option Int) : Prop :=
  ∃ id r, link = some id ∧ s.tile? id = some r ∧ r.status = .failed ∧ r.reference = none

theorem Lifecycle.tileStatus?_failTile_failed (h : Lifecycle doomed s)
    (hf : s.tile? f.id = some f) (hdone : f.status ≠ .done) (message : Option String) (id : Int) :
    (s.failTile f message).tileStatus? id = some .failed ↔
      ∃ t, s.tile? id = some t ∧ (t.id = f.id ∨ t.status = .failed) := by
  rw [Store.tileStatus?_failTile]
  cases ht : s.tile? id with
  | none => simp
  | some t => simp [failRow_failed h hf hdone message (mem_of_tile? ht)]

theorem Lifecycle.heir_goesOn (h : Lifecycle doomed s) (hs : s.Schema) (hf : s.tile? f.id = some f)
    (hdone : f.status ≠ .done) (hrest : ∀ id ∈ rest, id ∈ doomed) (message : Option String)
    {k : Int} (hheir : s.heir? f = some k) : GoesOn rest (s.failTile f message) k := by
  obtain ⟨hne, hnot, u, hu, hulive⟩ := h.heir_goes_on hs hf hdone hheir
  refine ⟨fun hk => hnot (hrest k hk), ?_⟩
  rw [ne_eq, h.tileStatus?_failTile_failed hf hdone]
  rintro ⟨t, ht, hid | hfailed⟩
  · exact hne ((tile?_id ht).symm.trans hid)
  · rw [hu] at ht
    cases ht
    exact hulive hfailed

/-- A failing tile that has an heir is given up. -/
theorem Lifecycle.givenUp_failing (h : Lifecycle doomed s) (hs : s.Schema)
    (hf : s.tile? f.id = some f) (hdone : f.status ≠ .done) (message : Option String) {k : Int}
    (hheir : s.heir? f = some k) : GivenUp (s.failTile f message) (some f.id) := by
  have hmem := mem_of_tile? hf
  obtain ⟨hnone, -⟩ := heir?_eq_some hs.toOrdered hf (h.previous_ne_self hmem) hheir
  refine ⟨f.id, s.failRow f message f, rfl, ?_, ?_, ?_⟩
  · rw [tile?_failTile, hf]
    rfl
  · exact (failRow_failed h hf hdone message hmem).2 (.inl rfl)
  · simp [failRow_reference, hheir, hnone]

/-- What becomes of references when some of the tiles that are about to fail do. -/
structure Handed (before after : List Int) (s s' : Store) : Prop where
  fewer : ∀ id ∈ after, id ∈ before
  failed_stays : ∀ id, s.tileStatus? id = some .failed → s'.tileStatus? id = some .failed
  failed_doomed : ∀ id, s'.tileStatus? id = some .failed →
    s.tileStatus? id = some .failed ∨ id ∈ before
  row : ∀ id t, s.tile? id = some t → ∃ t', s'.tile? id = some t' ∧
    (t'.reference = t.reference ∨
      GivenUp s' t.reference ∧ GoesOn after s' (t'.reference.getD id))
  fresh : ∀ id t', s'.tile? id = some t' → s.tile? id = none →
    GoesOn after s' id ∧ ∀ r, t'.reference = some r → GoesOn after s' r

namespace Handed

theorem goesOn (h : Handed before after s s') {id : Int} (hgoes : GoesOn before s id) :
    GoesOn after s' id := by
  refine ⟨fun hmem => hgoes.1 (h.fewer id hmem), ?_⟩
  intro hfailed
  rcases h.failed_doomed id hfailed with hbefore | hmem
  · exact hgoes.2 hbefore
  · exact hgoes.1 hmem

theorem reference_none (h : Handed before after s s') {id : Int} (ht : s.tile? id = some t)
    (hnone : t.reference = none) : ∃ t', s'.tile? id = some t' ∧ t'.reference = none := by
  obtain ⟨t', ht', hsame | ⟨⟨r, _, href, -⟩, -⟩⟩ := h.row id t ht
  · exact ⟨t', ht', hsame.trans hnone⟩
  · rw [hnone] at href
    cases href

theorem givenUp (h : Handed before after s s') {link : Option Int} (hg : GivenUp s link) :
    GivenUp s' link := by
  obtain ⟨id, r, rfl, hr, hfailed, hnone⟩ := hg
  obtain ⟨r', hr', hnone'⟩ := h.reference_none hr hnone
  have hstays := h.failed_stays id (by rw [tileStatus?_of_tile? hr, hfailed])
  rw [tileStatus?_of_tile? hr'] at hstays
  exact ⟨id, r', rfl, hr', Option.some.inj hstays, hnone'⟩

theorem reference_ne_none (h : Handed before [] s s') {r : Int} {u : Tile}
    (hu : s.tile? r = some u) (hreference : u.reference ≠ none)
    (hfailed : s'.tileStatus? r = some .failed) : ¬ GivenUp s' (some r) := by
  rintro ⟨_, u', hlink, hu', -, hnone⟩
  cases hlink
  obtain ⟨v, hv, hrow⟩ := h.row r u hu
  rw [hu'] at hv
  cases hv
  rcases hrow with hsame | ⟨-, hgoes⟩
  · exact hreference (hsame.symm.trans hnone)
  · rw [hnone] at hgoes
    exact hgoes.2 hfailed

/-- What had failed before and has been given up was given up before. -/
theorem givenUp_of_failed (h : Handed before [] s s') {r : Int} (hup : GivenUp s' (some r))
    (hfailed : s.tileStatus? r = some .failed) : GivenUp s (some r) := by
  obtain ⟨u, hu, hufailed⟩ := tileStatus?_eq_some.1 hfailed
  refine ⟨r, u, rfl, hu, hufailed, ?_⟩
  cases hnone : u.reference with
  | none => rfl
  | some id =>
    have hreference : u.reference ≠ none := by simp [hnone]
    exact absurd hup (h.reference_ne_none hu hreference (h.failed_stays r hfailed))

theorem trans {s₁ s₂ s₃ : Store} {a b c : List Int} (h₁ : Handed a b s₁ s₂)
    (h₂ : Handed b c s₂ s₃) : Handed a c s₁ s₃ where
  fewer := fun id hid => h₁.fewer id (h₂.fewer id hid)
  failed_stays := fun id hid => h₂.failed_stays id (h₁.failed_stays id hid)
  failed_doomed := by
    intro id hid
    rcases h₂.failed_doomed id hid with hfailed | hmem
    · exact h₁.failed_doomed id hfailed
    · exact .inr (h₁.fewer id hmem)
  row := by
    intro id t ht
    obtain ⟨t₂, ht₂, hrow₁⟩ := h₁.row id t ht
    obtain ⟨t₃, ht₃, hrow₂⟩ := h₂.row id t₂ ht₂
    refine ⟨t₃, ht₃, ?_⟩
    rcases hrow₁ with hsame₁ | ⟨hgiven₁, hgoes₁⟩
    · rw [← hsame₁]
      exact hrow₂
    · refine .inr ⟨h₂.givenUp hgiven₁, ?_⟩
      rcases hrow₂ with hsame₂ | ⟨-, hgoes₂⟩
      · rw [hsame₂]
        exact h₂.goesOn hgoes₁
      · exact hgoes₂
  fresh := by
    intro id t₃ ht₃ hnone
    cases ht₂ : s₂.tile? id with
    | none => exact h₂.fresh id t₃ ht₃ ht₂
    | some t₂ =>
      obtain ⟨hgoes, href⟩ := h₁.fresh id t₂ ht₂ hnone
      refine ⟨h₂.goesOn hgoes, ?_⟩
      obtain ⟨t₃', ht₃', hrow⟩ := h₂.row id t₂ ht₂
      rw [ht₃] at ht₃'
      cases ht₃'
      intro r hr
      rcases hrow with hsame | ⟨-, hgoes₃⟩
      · exact h₂.goesOn (href r (hsame ▸ hr))
      · rw [hr] at hgoes₃
        exact hgoes₃

theorem of_tiles (h : s'.tiles = s.tiles) (doomed : List Int) : Handed doomed doomed s s' := by
  have hrow (id : Int) : s'.tile? id = s.tile? id := by
    rw [tile?, h, tile?]
  constructor
  · exact fun _ hid => hid
  · exact fun id hid => by rwa [tileStatus?, hrow]
  · exact fun id hid => .inl (by rwa [tileStatus?, hrow] at hid)
  · exact fun id t ht => ⟨t, by rwa [hrow], .inl rfl⟩
  · intro id t' ht' hnone
    rw [hrow, hnone] at ht'
    cases ht'

theorem of_sameRows (hsame : SameRows s s') (doomed : List Int) : Handed doomed doomed s s' :=
  of_tiles hsame.tiles doomed

/-- A rewriting of tiles that changes no reference and makes no tile fail. -/
theorem mapTiles {g : Tile → Tile} (hid : ∀ t, (g t).id = t.id)
    (href : ∀ t, (g t).reference = t.reference)
    (hfailed : ∀ t ∈ s.tiles, (g t).status = .failed ↔ t.status = .failed) (doomed : List Int) :
    Handed doomed doomed s (s.mapTiles g) := by
  have hstatus (id : Int) :
      (s.mapTiles g).tileStatus? id = some .failed ↔ s.tileStatus? id = some .failed := by
    rw [tileStatus?, tile?_mapTiles hid, tileStatus?]
    cases ht : s.tile? id with
    | none => rfl
    | some t => simpa using hfailed t (mem_of_tile? ht)
  constructor
  · exact fun _ hmem => hmem
  · exact fun id hid => (hstatus id).2 hid
  · exact fun id hid => .inl ((hstatus id).1 hid)
  · intro id t ht
    exact ⟨g t, by rw [tile?_mapTiles hid, ht]; rfl, .inl (href t)⟩
  · intro id t' ht' hnone
    rw [tile?_mapTiles hid, hnone] at ht'
    cases ht'

theorem start {p : Tile → Bool} (hnew : ∀ t ∈ s.tiles, p t → t.status = .new)
    (doomed : List Int) : Handed doomed doomed s (s.start p) := by
  rw [start_eq]
  refine mapTiles (g := fun t => { t with status := if p t then .pending else t.status })
    (fun _ => rfl) (fun _ => rfl) ?_ doomed
  intro t ht
  dsimp only
  split
  · next hp => simp [hnew t ht hp]
  · exact Iff.rfl

theorem setTile {u : StatusUpdate} (hs : s.Ordered) (hf : s.tile? f.id = some f)
    (hlive : f.status ≠ .failed) (hu : u.status ≠ .failed) (doomed : List Int) :
    Handed doomed doomed s (s.setTile f.id u) := by
  refine mapTiles ?_ ?_ ?_ doomed
  · intro t
    split <;> rfl
  · intro t
    split <;> rfl
  · intro t ht
    split
    · next hid =>
      obtain rfl := hs.eq_of_id ht (mem_of_tile? hf) (eq_of_beq hid)
      exact ⟨fun he => absurd he hu, fun he => absurd he hlive⟩
    · exact Iff.rfl

theorem failTile (h : Lifecycle doomed s) (hs : s.Schema) (hf : s.tile? f.id = some f)
    (hdone : f.status ≠ .done) (hbefore : f.id ∈ before) (hfewer : ∀ id ∈ rest, id ∈ before)
    (hrest : ∀ id ∈ rest, id ∈ doomed) : Handed before rest s (s.failTile f message) := by
  have hstatus (id : Int) := h.tileStatus?_failTile_failed hf hdone message id
  constructor
  · exact hfewer
  · intro id hid
    obtain ⟨t, ht, hfailed⟩ := tileStatus?_eq_some.1 hid
    exact (hstatus id).2 ⟨t, ht, .inr hfailed⟩
  · intro id hid
    obtain ⟨t, ht, hcause⟩ := (hstatus id).1 hid
    rcases hcause with hid' | hfailed
    · refine .inr ?_
      rw [← tile?_id ht, hid']
      exact hbefore
    · exact .inl (tileStatus?_eq_some.2 ⟨t, ht, hfailed⟩)
  · intro id t ht
    refine ⟨s.failRow f message t, ?_, ?_⟩
    · rw [tile?_failTile, ht]
      rfl
    · cases hheir : s.heir? f with
      | none => exact .inl (failRow_reference_of_none hheir message t)
      | some k =>
        rw [failRow_reference, hheir]
        by_cases href : t.reference = some f.id
        · have hgoes := h.heir_goesOn hs hf hdone hrest message hheir
          refine .inr ⟨href ▸ h.givenUp_failing hs hf hdone message hheir, ?_⟩
          by_cases hid : t.id = k
          · have hself : id = k := (tile?_id ht).symm.trans hid
            simpa [href, hid, hself] using hgoes
          · simpa [href, hid] using hgoes
        · simp [href]
  · intro id t' ht' hnone
    rw [tile?_failTile, hnone] at ht'
    cases ht'

end Handed

/-- If no tile fails, no reference to a failed one comes about. -/
theorem Compared.of_handed (h : Compared [] s) (hh : Handed [] [] s s')
    (hs' : s'.Ordered) : Compared [] s' := by
  have hfailed (id : Int) : s'.tileStatus? id = some .failed → s.tileStatus? id = some .failed :=
    fun hid => (hh.failed_doomed id hid).resolve_right List.not_mem_nil
  intro t' ht' hlive' _ id r' href' hr' hfailed'
  have hrow' := hs'.tile?_of_mem ht'
  have hrfailed' : s'.tileStatus? id = some .failed := by
    rw [tileStatus?_of_tile? hr', hfailed']
  obtain ⟨r, hr, hrfailed⟩ := tileStatus?_eq_some.1 (hfailed id hrfailed')
  cases ht : s.tile? t'.id with
  | none => exact absurd hrfailed' ((hh.fresh t'.id t' hrow' ht).2 id href').2
  | some t =>
    have hlive : t.status ≠ .failed := by
      intro he
      have hstays := hh.failed_stays t'.id (by rw [tileStatus?_of_tile? ht, he])
      rw [tileStatus?_of_tile? hrow'] at hstays
      exact hlive' (Option.some.inj hstays)
    obtain ⟨u', hu', hrow⟩ := hh.row t'.id t ht
    rw [hrow'] at hu'
    cases hu'
    rcases hrow with hsame | ⟨-, hgoes⟩
    · -- compared with a tile that had failed before
      have hrref := h t (mem_of_tile? ht) hlive List.not_mem_nil id r (hsame ▸ href') hr hrfailed
      obtain ⟨v', hv', hrow⟩ := hh.row id r hr
      rw [hr'] at hv'
      cases hv'
      rcases hrow with hsame | ⟨-, hgoes⟩
      · rwa [hsame]
      · intro hnone
        rw [hnone] at hgoes
        exact hgoes.2 hrfailed'
    · rw [href'] at hgoes
      exact absurd hrfailed' hgoes.2

end Store
end SceneWorkflow
