import SceneWorkflow.Proofs.Engine.Forests

/-!
# What a failure does to chains

A request for a failure that is accepted takes the tiles it is about out of all
chains and leaves the chains of the others alone otherwise, whatever happens to
the relay afterwards.
-/
namespace SceneWorkflow
open Store

theorem fells_updateStatus {σ : Type} [Sink σ] {w : World σ} (h : Forest w.store)
    {kind : EntityKind} {id : Int} {message : Option String} {force : Bool}
    (hok : (updateStatus kind id .failed message force w).1 = .ok true) :
    Fells (w.store.failing kind id) w.store
      (updateStatus kind id .failed message force w).2.store := by
  cases kind with
  | scene =>
    have hcases := (Task.changeScene id .failed message force).transact_rows
      "update_scene_status" w
    rcases hcases with ⟨e, herror, -⟩ | ⟨a, s, hbody, hresult, hsame⟩
    · cases herror.symm.trans hok
    · cases hresult.symm.trans hok
      exact (Cascade.fells_changeScene h hbody).of_sameRows hsame
  | tile =>
    have hcases := (Task.changeTile id .failed message force).transact_rows "update_tile_status" w
    rcases hcases with ⟨e, herror, -⟩ | ⟨a, s, hbody, hresult, hsame⟩
    · cases herror.symm.trans hok
    · cases hresult.symm.trans hok
      exact (Cascade.fells_changeTile h hbody).of_sameRows hsame

/-- When a request for a failure is accepted, each tile that it is not about has the chain it had,
without those that fail. They have failed, follow none, and are in no chain any more. -/
theorem Attainable.failure_splices {σ : Type} [Sink σ] {w : World σ} (h : Attainable w.store)
    {kind : EntityKind} {id : Int} {message : Option String} {force : Bool}
    (hok : (updateStatus kind id .failed message force w).1 = .ok true) :
    (∀ t ∈ w.store.tiles, t.id ∉ w.store.failing kind id →
      ∃ chain, (∀ c, w.store.Chain t.id c ↔ c = chain) ∧
        ∀ c, (updateStatus kind id .failed message force w).2.store.Chain t.id c ↔
          c = chain.filter (· ∉ w.store.failing kind id)) ∧
    ∀ f ∈ w.store.failing kind id,
      (updateStatus kind id .failed message force w).2.store.Fallen f ∧
      ∀ k c, (updateStatus kind id .failed message force w).2.store.Chain k c → f ∉ c := by
  have hforest := h.forest
  obtain ⟨hforest', hsplices, hfallen⟩ := fells_updateStatus hforest hok
  constructor
  · intro t ht hstays
    obtain ⟨chain, hchain⟩ := hforest.exists_chain ht
    exact ⟨chain, fun c => hchain.iff_eq, fun c => (hsplices t.id chain hstays hchain).iff_eq⟩
  · intro f hf
    obtain ⟨u, hu, hfailed, hnone⟩ := hfallen f hf
    refine ⟨⟨u, hu, hfailed, hnone⟩, fun k c hc => ?_⟩
    exact hforest'.not_mem_chain (tileStatus?_eq_some.2 ⟨u, hu, hfailed⟩) hc

namespace Store
variable {s : Store} {id k : Int} {chain : List Int}

theorem chain_head (h : (s.tile? id).any (·.previous == none) = true) : s.Chain id [] := by
  obtain ⟨t, ht, hnone⟩ := (Option.any_eq_true _ _).1 h
  refine ⟨t, ht, ?_⟩
  rw [eq_of_beq hnone]
  exact .head

theorem chain_cons (h : (s.tile? id).any (·.previous == some k) = true) (hchain : s.Chain k chain) :
    s.Chain id (k :: chain) := by
  obtain ⟨t, ht, hprevious⟩ := (Option.any_eq_true _ _).1 h
  obtain ⟨p, hp, htrail⟩ := hchain
  refine ⟨t, ht, ?_⟩
  rw [eq_of_beq hprevious]
  exact .step hp htrail

end Store

/-- A row of four tiles begins in one scene and ends in another. -/
def rowAcross : World Recorder :=
  World.after { sink := {} }
    [.createAoi "north",
      .ingestScene "north" (.ofTiles "north" "s1"
        [("a", {}), ("b", { previous := some ⟨"s1", "a"⟩ })]),
      .ingestScene "north" (.ofTiles "north" "s2"
        [("c", { previous := some ⟨"s1", "b"⟩ }), ("d", { previous := some ⟨"s2", "c"⟩ })])]

theorem failure_splices_rowAcross :
    Attainable rowAcross.store ∧ (updateStatus .scene 1 .failed none true rowAcross).1 = .ok true ∧
      rowAcross.store.Chain 4 [3, 2, 1] ∧
      (updateStatus .scene 1 .failed none true rowAcross).2.store.Chain 4 [3] ∧
      (updateStatus .scene 1 .failed none true rowAcross).2.store.Fallen 2 := by
  have hattain : Attainable rowAcross.store := Attainable.empty.after _
  have hdecided : (updateStatus .scene 1 .failed none true rowAcross).1.toOption = some true := by
    decide +kernel
  have hok := toOption_eq_some.1 hdecided
  have hfailing : rowAcross.store.failing .scene 1 = [1, 2] := by decide +kernel
  have hfourth : ∃ t ∈ rowAcross.store.tiles, t.id = 4 := by decide +kernel
  have hbefore : rowAcross.store.Chain 4 [3, 2, 1] :=
    chain_cons (by decide +kernel) (chain_cons (by decide +kernel)
      (chain_cons (by decide +kernel) (chain_head (by decide +kernel))))
  obtain ⟨t, ht, hid⟩ := hfourth
  obtain ⟨hstay, hfall⟩ := hattain.failure_splices hok
  rw [hfailing] at hstay hfall
  obtain ⟨chain, hchain, hchain'⟩ := hstay t ht (by rw [hid]; decide)
  rw [hid] at hchain hchain'
  obtain rfl := (hchain _).1 hbefore
  exact ⟨hattain, hok, hbefore, (hchain' _).2 (by decide), (hfall 2 (by decide)).1⟩

end SceneWorkflow
