import SceneWorkflow.Proofs.Engine.Soundness

/-!
# Comparisons with failed tiles

When a tile fails that is compared with none, the tiles compared with it are handed
over. When a tile fails that is itself compared with another, they are not, and this
is the only way in which a tile that goes on stays compared with a failed one.
-/
namespace SceneWorkflow
namespace Store
variable {s s' : Store} {failing : List Int}

/-- A tile that has not failed is compared with one that has. -/
def Stranded (s : Store) (id r : Int) : Prop :=
  ∃ t, s.tile? id = some t ∧ t.status ≠ .failed ∧ t.reference = some r ∧
    s.tileStatus? r = some .failed

instance (s : Store) (id r : Int) : Decidable (s.Stranded id r) :=
  decidable_of_iff ((s.tile? id).any fun t => t.status != .failed && t.reference == some r &&
      s.tileStatus? r == some .failed) <| by
    simp [Stranded, Option.any_eq_true, and_assoc]

theorem Sound.stranded_iff (h : Sound [] s) (id r : Int) :
    s.Stranded id r ↔
      (∃ t, s.tile? id = some t ∧ t.status ≠ .failed ∧ t.reference = some r) ∧
        ∃ u, s.tile? r = some u ∧ u.status = .failed ∧ u.reference ≠ none := by
  constructor
  · rintro ⟨t, ht, hlive, href, hfailed⟩
    obtain ⟨u, hu, hfailed⟩ := tileStatus?_eq_some.1 hfailed
    have hreference := h.compared t (mem_of_tile? ht) hlive List.not_mem_nil r u href hu hfailed
    exact ⟨⟨t, ht, hlive, href⟩, u, hu, hfailed, hreference⟩
  · rintro ⟨⟨t, ht, hlive, href⟩, u, hu, hfailed, -⟩
    exact ⟨t, ht, hlive, href, tileStatus?_eq_some.2 ⟨u, hu, hfailed⟩⟩

theorem Handed.stranded_iff (h : Handed failing [] s s') (hs : Sound [] s) (hs' : Sound [] s')
    (id r : Int) :
    s'.Stranded id r ↔
      (∃ t, s.tile? id = some t ∧ t.reference = some r) ∧
        (∃ u, s.tile? r = some u ∧ u.reference ≠ none) ∧
        s'.tileStatus? r = some .failed ∧ ∃ st, s'.tileStatus? id = some st ∧ st ≠ .failed := by
  constructor
  · intro hstranded
    obtain ⟨-, u', hu', -, hreference'⟩ := (hs'.stranded_iff id r).1 hstranded
    obtain ⟨t', ht', hlive, href', hfailed⟩ := hstranded
    cases ht : s.tile? id with
    | none => exact absurd hfailed ((h.fresh id t' ht' ht).2 r href').2
    | some t =>
      obtain ⟨v, hv, hrow⟩ := h.row id t ht
      rw [ht'] at hv
      cases hv
      have href : t.reference = some r := by
        rcases hrow with hsame | ⟨-, hgoes⟩
        · rw [← hsame, href']
        · rw [href'] at hgoes
          exact absurd hfailed hgoes.2
      have hlinked := hs.reference_exists t (mem_of_tile? ht)
      rw [href] at hlinked
      obtain ⟨u, hu⟩ := Option.isSome_iff_exists.1 hlinked
      refine ⟨⟨t, rfl, href⟩, ⟨u, hu, fun hnone => ?_⟩, hfailed, t'.status,
        tileStatus?_of_tile? ht', hlive⟩
      obtain ⟨v, hv, hnone'⟩ := h.reference_none hu hnone
      rw [hu'] at hv
      cases hv
      exact hreference' hnone'
  · rintro ⟨⟨t, ht, href⟩, ⟨u, hu, hreference⟩, hfailed, st, hst, hlive⟩
    obtain ⟨t', ht', hrow⟩ := h.row id t ht
    rw [tileStatus?_of_tile? ht'] at hst
    cases hst
    refine ⟨t', ht', hlive, ?_, hfailed⟩
    rcases hrow with hsame | ⟨hup, -⟩
    · rw [hsame, href]
    · rw [href] at hup
      exact absurd hup (h.reference_ne_none hu hreference hfailed)

end Store

open Store

/-- In a store that comes about without force, a tile that goes on is compared with a failed tile
exactly if that one is itself compared with another. A unit of work brings this about exactly by
letting a tile fail that is compared with another. -/
theorem Reachable.stranded_iff_compared {σ : Type} [Sink σ] {w : World σ} (h : Reachable w.store)
    (operation : String) {task : Task} (htask : task.isForced = false) (id r : Int) :
    (w.store.Stranded id r ↔
      (∃ t, w.store.tile? id = some t ∧ t.status ≠ .failed ∧ t.reference = some r) ∧
        ∃ u, w.store.tile? r = some u ∧ u.status = .failed ∧ u.reference ≠ none) ∧
    ((transact operation task.body w).2.store.Stranded id r ↔
      (∃ t, w.store.tile? id = some t ∧ t.reference = some r) ∧
        (∃ u, w.store.tile? r = some u ∧ u.reference ≠ none) ∧
        (transact operation task.body w).2.store.tileStatus? r = some .failed ∧
        ∃ st, (transact operation task.body w).2.store.tileStatus? id = some st ∧
          st ≠ .failed) := by
  have hs := h.sound
  obtain ⟨failing, hh⟩ := handed_transact hs operation htask
  exact ⟨hs.stranded_iff id r, hh.stranded_iff hs (sound_transact hs operation htask) id r⟩

/-- Three tiles are worked on. The second is compared with the first, the third with the second. -/
def comparedInARow : World Recorder :=
  World.after { sink := {} }
    [.createAoi "north",
      .ingestScene "north" (.ofTiles "north" "s1"
        [("a", {}), ("b", { reference := some ⟨"s1", "a"⟩ }),
          ("c", { reference := some ⟨"s1", "b"⟩ })]),
      .updateStatus .scene 1 .done none false]

theorem stranded_comparedInARow :
    Reachable comparedInARow.store ∧ (Task.changeTile 2 .failed none false).isForced = false ∧
      (transact "update_tile_status" (Task.changeTile 2 .failed none false).body
        comparedInARow).2.store.Stranded 3 2 := by
  have hreach : Reachable comparedInARow.store := Reachable.empty.after (by decide)
  have hthird : (comparedInARow.store.tile? 3).any (·.reference == some 2) = true := by
    decide +kernel
  have hsecond : (comparedInARow.store.tile? 2).any (·.reference != none) = true := by
    decide +kernel
  have hfailed : (transact "update_tile_status" (Task.changeTile 2 .failed none false).body
      comparedInARow).2.store.tileStatus? 2 = some .failed := by
    decide +kernel
  have hlive : (transact "update_tile_status" (Task.changeTile 2 .failed none false).body
      comparedInARow).2.store.tileStatus? 3 = some .pending := by
    decide +kernel
  obtain ⟨t, ht, href⟩ := (Option.any_eq_true _ _).1 hthird
  obtain ⟨u, hu, hreference⟩ := (Option.any_eq_true _ _).1 hsecond
  refine ⟨hreach, rfl, (hreach.stranded_iff_compared "update_tile_status" rfl 3 2).2.2 ?_⟩
  exact ⟨⟨t, ht, eq_of_beq href⟩, ⟨u, hu, bne_iff_ne.1 hreference⟩, hfailed, .pending, hlive, nofun⟩

/-- Not every tile that goes on is compared with one that does. -/
theorem reference_of_live_tile_may_fail :
    ¬ ∀ s, Reachable s → ∀ t ∈ s.tiles, t.status ≠ .failed →
      ∀ r, t.reference = some r → s.tileStatus? r ≠ some .failed := by
  intro hall
  have hbefore : Reachable comparedInARow.store := Reachable.empty.after (by decide)
  have hreach : Reachable
      (comparedInARow.after [.updateStatus .tile 2 .failed none false]).store :=
    hbefore.after (by decide)
  have hstranded :
      (comparedInARow.after [.updateStatus .tile 2 .failed none false]).store.Stranded 3 2 := by
    decide +kernel
  obtain ⟨t, ht, hlive, href, hfailed⟩ := hstranded
  exact hall _ hreach t (mem_of_tile? ht) hlive 2 href hfailed

end SceneWorkflow
