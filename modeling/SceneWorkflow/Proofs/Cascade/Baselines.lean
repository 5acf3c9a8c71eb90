import Mathlib.Logic.Relation
import SceneWorkflow.Proofs.Cascade.Forest

/-!
# Comparisons and their baselines

Comparisons should lead from every tile to a baseline, a tile that is compared with
none. A failing baseline hands its role to an heir, which becomes a baseline only if it
was compared with the failing tile. An heir that was compared with a third tile stays
so, and if comparisons lead from that tile to the failing one, they run in a cycle from
then on. Nothing undoes this.
-/
namespace SceneWorkflow
namespace Store
open Relation (ReflTransGen TransGen)
variable {s s' s₁ s₂ s₃ : Store} {f t : Tile} {message : Option String} {a b c k : Int}

def referenceOf? (s : Store) (id : Int) : Option (Option Int) := (s.tile? id).map (·.reference)

def Compares (s : Store) (a b : Int) : Prop := s.referenceOf? a = some (some b)

instance (s : Store) (a b : Int) : Decidable (s.Compares a b) :=
  inferInstanceAs (Decidable (_ = _))

/-- A tile is compared with none. -/
def IsBaseline (s : Store) (id : Int) : Prop := s.referenceOf? id = some none

instance (s : Store) (id : Int) : Decidable (s.IsBaseline id) :=
  inferInstanceAs (Decidable (_ = _))

/-- Comparisons lead from a tile to a baseline. -/
def Settles (s : Store) (id : Int) : Prop := ∃ b, ReflTransGen s.Compares id b ∧ s.IsBaseline b

/-- Comparisons lead from every tile to a baseline. -/
def Untangled (s : Store) : Prop := ∀ t ∈ s.tiles, s.Settles t.id

/-- Comparisons lead from some tile back to it. -/
def Entangled (s : Store) : Prop := ∃ id, TransGen s.Compares id id

theorem Compares.unique (h : s.Compares a b) (h' : s.Compares a c) : b = c :=
  Option.some.inj (Option.some.inj (h.symm.trans h'))

theorem IsBaseline.not_compares (h : s.IsBaseline a) : ¬ s.Compares a b := by
  intro hcompares
  cases h.symm.trans hcompares

theorem IsBaseline.settles (h : s.IsBaseline a) : s.Settles a := ⟨a, .refl, h⟩

theorem Settles.head (hb : s.Settles b) (h : s.Compares a b) : s.Settles a := by
  obtain ⟨c, hpath, hc⟩ := hb
  exact ⟨c, .head h hpath, hc⟩

/-- A tile from which comparisons lead to a baseline is on no cycle. -/
theorem Settles.not_transGen (h : s.Settles a) : ¬ TransGen s.Compares a a := by
  obtain ⟨b, hpath, hb⟩ := h
  induction hpath using ReflTransGen.head_induction_on with
  | refl =>
    intro hcycle
    obtain ⟨c, hcompares, -⟩ := TransGen.head'_iff.1 hcycle
    exact hb.not_compares hcompares
  | head hcompares _ ih =>
    intro hcycle
    obtain ⟨c, hcompares', hback⟩ := TransGen.head'_iff.1 hcycle
    obtain rfl := hcompares.unique hcompares'
    exact ih (TransGen.tail' hback hcompares)

theorem isSome_tile?_of_mem (ht : t ∈ s.tiles) : (s.tile? t.id).isSome :=
  List.find?_isSome.2 ⟨t, ht, beq_self_eq_true _⟩

theorem Compares.exists_row (h : s.Compares a b) : ∃ t, s.tile? a = some t ∧ t.reference = some b :=
  Option.map_eq_some_iff.1 h

theorem Untangled.not_entangled (h : s.Untangled) : ¬ s.Entangled := by
  rintro ⟨id, hcycle⟩
  obtain ⟨_, hcompares, -⟩ := TransGen.head'_iff.1 hcycle
  obtain ⟨t, ht, -⟩ := hcompares.exists_row
  have hsettles := h t (mem_of_tile? ht)
  rw [tile?_id ht] at hsettles
  exact hsettles.not_transGen hcycle

theorem untangled_empty : Untangled {} := fun _ ht => absurd ht List.not_mem_nil

/-! ### The failure of one tile -/

/-- The heir of a failing tile is compared with just this tile. -/
def Succeeds (k : Int) (s : Store) (f : Tile) : Prop := s.heir? f = some k ∧ s.Compares k f.id

/-- The heir of a failing tile is compared with a third one, from which comparisons lead to the
failing tile. -/
def Misleads (s : Store) (f : Tile) : Prop :=
  ∃ k r, s.heir? f = some k ∧ s.Compares k r ∧ r ≠ f.id ∧ ReflTransGen s.Compares r f.id

/-- What becomes of comparisons as some tiles become baselines, and if a failure has misled them. -/
structure Rebases (misled : Prop) (rises : Int → Prop) (s s' : Store) : Prop where
  exists_after : ∀ id, (s.tile? id).isSome → (s'.tile? id).isSome
  baseline : ∀ id, (s.tile? id).isSome → (s'.IsBaseline id ↔ s.IsBaseline id ∨ rises id)
  untangled : s.Untangled → ¬ misled → s'.Untangled
  entangled : s.Entangled ∨ misled → s'.Entangled

theorem Rebases.trans {misled misled' : Prop} {rises rises' : Int → Prop}
    (h : Rebases misled rises s₁ s₂) (h' : Rebases misled' rises' s₂ s₃) :
    Rebases (misled ∨ misled') (fun id => rises id ∨ rises' id) s₁ s₃ where
  exists_after := fun id hid => h'.exists_after id (h.exists_after id hid)
  baseline := by
    intro id hid
    rw [h'.baseline id (h.exists_after id hid), h.baseline id hid, or_assoc]
  untangled := by
    intro hs hnot
    rw [not_or] at hnot
    exact h'.untangled (h.untangled hs hnot.1) hnot.2
  entangled := by
    rintro (hs | hmisled | hmisled')
    · exact h'.entangled (.inl (h.entangled (.inl hs)))
    · exact h'.entangled (.inl (h.entangled (.inr hmisled)))
    · exact h'.entangled (.inr hmisled')

theorem Rebases.congr {misled misled' : Prop} {rises rises' : Int → Prop}
    (h : Rebases misled rises s s') (hmisled : misled ↔ misled')
    (hrises : ∀ id, rises id ↔ rises' id) : Rebases misled' rises' s s' := by
  obtain rfl := propext hmisled
  obtain rfl := funext fun id => propext (hrises id)
  exact h

def SameReferences (s s' : Store) : Prop := ∀ id, s'.referenceOf? id = s.referenceOf? id

namespace SameReferences

theorem refl (s : Store) : SameReferences s s := fun _ => rfl

theorem trans (h : SameReferences s₁ s₂) (h' : SameReferences s₂ s₃) : SameReferences s₁ s₃ :=
  fun id => (h' id).trans (h id)

theorem of_tiles (h : s'.tiles = s.tiles) : SameReferences s s' := by
  intro id
  rw [referenceOf?, tile?, h, referenceOf?, tile?]

theorem mapTiles {g : Tile → Tile} (hid : ∀ t, (g t).id = t.id)
    (href : ∀ t, (g t).reference = t.reference) : SameReferences s (s.mapTiles g) := by
  intro id
  rw [referenceOf?, tile?_mapTiles hid, Option.map_map, referenceOf?]
  exact Option.map_congr fun t _ => href t

theorem modifyTiles {p : Tile → Bool} {g : Tile → Tile} (hid : ∀ t, (g t).id = t.id)
    (href : ∀ t, (g t).reference = t.reference) : SameReferences s (s.modifyTiles p g) := by
  rw [modifyTiles_eq_mapTiles]
  refine mapTiles (fun t => ?_) fun t => ?_
  · split
    · exact hid t
    · rfl
  · split
    · exact href t
    · rfl

variable (h : SameReferences s s')
include h

theorem compares : s'.Compares = s.Compares := by
  funext a b
  rw [Compares, h, Compares]

theorem isBaseline (id : Int) : s'.IsBaseline id ↔ s.IsBaseline id := by
  rw [IsBaseline, h, IsBaseline]

theorem settles (id : Int) : s'.Settles id ↔ s.Settles id := by
  simp only [Settles, h.compares, h.isBaseline]

theorem isSome_tile? (id : Int) : (s'.tile? id).isSome = (s.tile? id).isSome := by
  have hsome := congrArg Option.isSome (h id)
  rwa [referenceOf?, Option.isSome_map, referenceOf?, Option.isSome_map] at hsome

theorem untangled (hs : s.Untangled) : s'.Untangled := by
  intro t' ht'
  have hexists := isSome_tile?_of_mem ht'
  rw [h.isSome_tile?] at hexists
  obtain ⟨t, ht⟩ := Option.isSome_iff_exists.1 hexists
  rw [h.settles, ← tile?_id ht]
  exact hs t (mem_of_tile? ht)

theorem rebases : Rebases False (fun _ => False) s s' where
  exists_after := fun id hid => (h.isSome_tile? id).trans hid
  baseline := by
    intro id _
    rw [h.isBaseline, or_false]
  untangled := fun hs _ => h.untangled hs
  entangled := by
    rintro (⟨id, hcycle⟩ | hfalse)
    · exact ⟨id, h.compares ▸ hcycle⟩
    · exact hfalse.elim

end SameReferences

theorem Rebases.before {misled : Prop} {rises : Int → Prop} (h : Rebases misled rises s₂ s₃)
    (hsame : SameReferences s₁ s₂) : Rebases misled rises s₁ s₃ :=
  (hsame.rebases.trans h).congr (by rw [false_or]) fun _ => by rw [false_or]

theorem Rebases.after {misled : Prop} {rises : Int → Prop} (h : Rebases misled rises s₁ s₂)
    (hsame : SameReferences s₂ s₃) : Rebases misled rises s₁ s₃ :=
  (h.trans hsame.rebases).congr (by rw [or_false]) fun _ => by rw [or_false]

theorem sameReferences_failTile (h : s.heir? f = none) (message : Option String) :
    SameReferences s (s.failTile f message) :=
  .mapTiles (fun _ => rfl) (failRow_reference_of_none h message)

section Handover
variable (hheir : s.heir? f = some k)
include hheir

theorem isBaseline_failing (hf : s.tile? f.id = some f) : s.IsBaseline f.id := by
  unfold heir? at hheir
  split at hheir
  · cases hheir
  · next hnone =>
    rw [IsBaseline, referenceOf?, hf, Option.map_some, Option.not_isSome_iff_eq_none.1 hnone]

theorem referenceOf?_failTile (message : Option String) (id : Int) :
    (s.failTile f message).referenceOf? id = (s.referenceOf? id).map fun r =>
      if r = some f.id then if id = k then none else some k else r := by
  rw [referenceOf?, tile?_failTile, Option.map_map, referenceOf?, Option.map_map]
  refine Option.map_congr fun t ht => ?_
  rw [Function.comp, failRow_reference, hheir, Function.comp, tile?_id ht]

theorem Compares.failTile (h : s.Compares a b) (hne : b ≠ f.id) :
    (s.failTile f message).Compares a b := by
  rw [Compares, referenceOf?_failTile hheir, h, Option.map_some, if_neg]
  exact fun hb => hne (Option.some.inj hb)

/-- What was compared with the failing tile is compared with its heir. -/
theorem Compares.handed_over (h : s.Compares a f.id) (hne : a ≠ k) :
    (s.failTile f message).Compares a k := by
  rw [Compares, referenceOf?_failTile hheir, h, Option.map_some, if_pos rfl, if_neg hne]

/-- Baselines are those that were, and the heir if it was compared with the failing tile. -/
theorem isBaseline_failTile (message : Option String) (id : Int) :
    (s.failTile f message).IsBaseline id ↔ s.IsBaseline id ∨ s.Succeeds id f := by
  rw [IsBaseline, referenceOf?_failTile hheir, IsBaseline, Succeeds, hheir, Compares]
  cases s.referenceOf? id with
  | none => simp
  | some r => by_cases hr : r = some f.id <;> simp [hr, eq_comm]

/-- Comparisons that do not lead to the failing tile stay. -/
theorem reflTransGen_failTile (hpath : ReflTransGen s.Compares a b)
    (havoids : ¬ ReflTransGen s.Compares a f.id) :
    ReflTransGen (s.failTile f message).Compares a b := by
  induction hpath using ReflTransGen.head_induction_on with
  | refl => exact .refl
  | head hcompares _ ih =>
    have hrest := fun hreaches => havoids (.head hcompares hreaches)
    refine .head (hcompares.failTile hheir ?_) (ih hrest)
    rintro rfl
    exact hrest .refl

/-- An heir that is not misled settles. -/
theorem settles_heir (hk : s.Settles k) (hnot : ¬ s.Misleads f) :
    (s.failTile f message).Settles k := by
  obtain ⟨b, hpath, hb⟩ := hk
  have hstays := (isBaseline_failTile hheir message b).2 (.inl hb)
  rcases ReflTransGen.cases_head hpath with rfl | ⟨r, hcompares, hrest⟩
  · exact hstays.settles
  · by_cases hr : r = f.id
    · have hrises := (isBaseline_failTile hheir message k).2
        (.inr ⟨hheir, hr ▸ hcompares⟩)
      exact hrises.settles
    · have hkept : (s.failTile f message).Settles r := by
        refine ⟨b, reflTransGen_failTile hheir hrest fun hreaches => ?_, hstays⟩
        exact hnot ⟨k, r, hheir, hcompares, hr, hreaches⟩
      exact hkept.head (hcompares.failTile hheir hr)

/-- Comparisons that led to the failing tile lead to the heir. -/
theorem settles_failTile (ha : s.Settles a) (hk : (s.failTile f message).Settles k) :
    (s.failTile f message).Settles a := by
  obtain ⟨b, hpath, hb⟩ := ha
  induction hpath using ReflTransGen.head_induction_on with
  | refl => exact ⟨b, .refl, (isBaseline_failTile hheir message b).2 (.inl hb)⟩
  | @head a c hcompares _ ih =>
    by_cases hc : c = f.id
    · by_cases hak : a = k
      · exact hak ▸ hk
      · exact hk.head ((hc ▸ hcompares).handed_over hheir hak)
    · exact ih.head (hcompares.failTile hheir hc)

/-- From where comparisons led to the failing tile they lead to its heir. -/
theorem reaches_heir (hpath : ReflTransGen s.Compares a f.id) (hne : a ≠ f.id) :
    ReflTransGen (s.failTile f message).Compares a k := by
  induction hpath using ReflTransGen.head_induction_on with
  | refl => exact absurd rfl hne
  | @head a c hcompares _ ih =>
    by_cases hc : c = f.id
    · by_cases hak : a = k
      · exact hak ▸ .refl
      · exact .single ((hc ▸ hcompares).handed_over hheir hak)
    · exact .head (hcompares.failTile hheir hc) (ih hc)

theorem entangled_of_misleads (h : s.Misleads f) : (s.failTile f message).Entangled := by
  obtain ⟨k', r, hheir', hcompares, hne, hreaches⟩ := h
  obtain rfl := Option.some.inj (hheir.symm.trans hheir')
  refine ⟨k, TransGen.head' (hcompares.failTile hheir hne) ?_⟩
  exact reaches_heir hheir hreaches hne

theorem Entangled.failTile (hf : s.tile? f.id = some f) (h : s.Entangled) :
    (s.failTile f message).Entangled := by
  have hoff {r b : Int} (hr : s.Compares r b) : r ≠ f.id := by
    rintro rfl
    exact (isBaseline_failing hheir hf).not_compares hr
  have hstays {x y z : Int} (hpath : TransGen s.Compares x y) (hy : s.Compares y z) :
      TransGen (s.failTile f message).Compares x y := by
    induction hpath generalizing z with
    | single hcompares => exact .single (hcompares.failTile hheir (hoff hy))
    | tail _ hcompares ih => exact (ih hcompares).tail (hcompares.failTile hheir (hoff hy))
  obtain ⟨id, hcycle⟩ := h
  obtain ⟨_, hcompares, -⟩ := TransGen.head'_iff.1 hcycle
  exact ⟨id, hstays hcycle hcompares⟩

end Handover

/-- What the failure of one tile makes of comparisons. -/
theorem rebases_failTile (hs : s.Ordered) (hf : s.tile? f.id = some f)
    (hself : f.previous ≠ some f.id) (message : Option String) :
    Rebases (s.Misleads f) (s.Succeeds · f) s (s.failTile f message) := by
  cases hheir : s.heir? f with
  | none =>
    refine (sameReferences_failTile hheir message).rebases.congr ?_ fun id => ?_
    · refine ⟨False.elim, ?_⟩
      rintro ⟨k, r, hk, -⟩
      cases hheir.symm.trans hk
    · refine ⟨False.elim, ?_⟩
      rintro ⟨hk, -⟩
      cases hheir.symm.trans hk
  | some k =>
    refine ⟨fun id hid => ?_, fun id _ => isBaseline_failTile hheir message id, ?_, ?_⟩
    · rwa [tile?_failTile, Option.isSome_map]
    · intro huntangled hnot t' ht'
      obtain ⟨t, ht, rfl⟩ := mem_mapTiles.1 ht'
      obtain ⟨-, u, hu, rfl, -⟩ := heir?_eq_some hs hf hself hheir
      have hk : (s.failTile f message).Settles u.id := settles_heir hheir (huntangled u hu) hnot
      exact settles_failTile hheir (huntangled t ht) hk
    · rintro (hentangled | hmisled)
      · exact hentangled.failTile hheir hf
      · exact entangled_of_misleads hheir hmisled

end Store
end SceneWorkflow
