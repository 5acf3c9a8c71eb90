import SceneWorkflow.Proofs.Cascade.Elections
import SceneWorkflow.Proofs.Engine.Requests

/-!
# Cycles of comparisons

Comparisons run in a cycle exactly if on the way to the store a baseline has failed
whose heir was compared with a third tile, and that one, at whatever remove, with the
failing baseline. As long as this does not happen, comparisons lead from every tile
to a baseline. A tile becomes a baseline exactly if it is the heir of the very tile
that it was compared with.
-/
namespace SceneWorkflow
namespace Store
open Relation (ReflTransGen TransGen)
variable {s s' : Store} {t : Tile}

/-- A new tile is compared with one that was there, or with none. -/
theorem rebases_addTile (href : ∀ r, t.reference = some r → (s.tile? r).isSome) :
    Rebases False (fun _ => False) s (s.addTile t) := by
  have hold {id : Int} (hid : (s.tile? id).isSome) :
      (s.addTile t).referenceOf? id = s.referenceOf? id := by
    obtain ⟨u, hu⟩ := Option.isSome_iff_exists.1 hid
    rw [referenceOf?, tile?_addTile_of_some hu, referenceOf?, hu]
  have hcompares : s.Compares ≤ (s.addTile t).Compares := by
    intro a b h
    obtain ⟨u, hu, -⟩ := h.exists_row
    exact (hold (Option.isSome_of_eq_some hu)).trans h
  have hbaseline {id : Int} (hid : (s.tile? id).isSome) :
      (s.addTile t).IsBaseline id ↔ s.IsBaseline id := by
    rw [IsBaseline, hold hid, IsBaseline]
  have hsettles {id : Int} (h : s.Settles id) : (s.addTile t).Settles id := by
    obtain ⟨b, hpath, hb⟩ := h
    obtain ⟨u, hu, -⟩ := Option.map_eq_some_iff.1 hb
    exact ⟨b, ReflTransGen.mono hcompares _ _ hpath, (hbaseline (Option.isSome_of_eq_some hu)).2 hb⟩
  refine ⟨fun id hid => ?_, fun id hid => ?_, ?_, ?_⟩
  · obtain ⟨u, hu⟩ := Option.isSome_iff_exists.1 hid
    exact Option.isSome_of_eq_some (tile?_addTile_of_some hu t)
  · rw [hbaseline hid, or_false]
  · intro huntangled _ u hu
    rcases List.mem_append.1 hu with hu | hu
    · exact hsettles (huntangled u hu)
    · obtain rfl := List.mem_singleton.1 hu
      cases hrow : s.tile? u.id with
      | some v =>
        rw [← tile?_id hrow]
        exact hsettles (huntangled v (mem_of_tile? hrow))
      | none =>
        have hfound : (s.addTile u).referenceOf? u.id = some u.reference := by
          rw [referenceOf?, tile?_addTile, hrow, Option.none_or, if_pos rfl]
          rfl
        cases hreference : u.reference with
        | none => exact IsBaseline.settles (hfound.trans (congrArg some hreference))
        | some r =>
          obtain ⟨v, hv⟩ := Option.isSome_iff_exists.1 (href r hreference)
          have hr := hsettles (huntangled v (mem_of_tile? hv))
          rw [tile?_id hv] at hr
          exact hr.head (hfound.trans (congrArg some hreference))
  · rintro (⟨id, hcycle⟩ | hfalse)
    · exact ⟨id, TransGen.mono hcompares _ _ hcycle⟩
    · exact hfalse.elim

theorem rebases_createTile {d : TileDraft} {id : Int} (hok : s.createTile d = .ok (id, s')) :
    Rebases False (fun _ => False) s s' := by
  obtain ⟨previous, reference, -, hreference, hinsert⟩ := createTile_eq_ok hok
  obtain ⟨-, -, -, rfl⟩ := insertTile_eq_ok hinsert
  refine rebases_addTile fun r hr => ?_
  obtain ⟨-, rfl⟩ | ⟨l, v, -, hv, -, rfl⟩ := resolve_eq_ok hreference
  · cases hr
  · cases hr
    exact isSome_tile?_of_mem (mem_of_linked? hv).1

end Store

open Store

/-! ### What commands make of comparisons -/

def Task.IsHarmless : Task → Prop
  | changeScene _ requested _ _ => requested ≠ .failed
  | changeTile _ requested _ _ => requested ≠ .failed
  | _ => True

namespace Cascade
variable {s s' : Store} {kind : EntityKind} {id : Int} {requested : Status}
  {message : Option String} {force accepted : Bool}

/-- What a request makes of comparisons: nothing unless something fails. -/
theorem rebases_change (h : Forest s)
    (hok : (change kind id requested message force).exec s = .ok (accepted, s')) :
    Rebases (accepted = true ∧ requested = .failed ∧ FailureOf Misleads kind id s)
      (fun k => accepted = true ∧ requested = .failed ∧ FailureOf (Succeeds k) kind id s) s s' := by
  by_cases hfails : accepted = true ∧ requested = .failed
  · obtain ⟨rfl, rfl⟩ := hfails
    simp only [true_and]
    cases kind with
    | scene => exact rebases_changeScene h hok
    | tile => exact rebases_changeTile h hok
  · have hsame : SameReferences s s' := by
      cases kind with
      | scene => exact sameReferences_changeScene hfails hok
      | tile => exact sameReferences_changeTile hfails hok
    refine hsame.rebases.congr ⟨False.elim, fun hboth => hfails ⟨hboth.1, hboth.2.1⟩⟩ fun k => ?_
    exact ⟨False.elim, fun hboth => hfails ⟨hboth.1, hboth.2.1⟩⟩

end Cascade

section
variable {σ : Type} [Sink σ]

/-- Where nothing is asked to fail, comparisons stay, and new tiles settle. -/
theorem course_rebases : Course (σ := σ) Task.IsHarmless
    (fun w w' => Rebases False (fun _ => False) w.store w'.store) where
  still := fun hstore _ => (SameReferences.of_tiles (by rw [hstore])).rebases
  trans := fun h h' => (h.trans h').congr (or_self_iff) fun _ => or_self_iff
  creation := fun hok _ => (SameReferences.of_tiles (sameRows_createAoi hok).tiles).rebases
  commit := by
    intro w w' task a htask hok _
    cases task with
    | ingest r =>
      exact Ingestion.relates_insertScene (fun hsame => (SameReferences.of_tiles hsame.tiles).rebases)
        (fun h h' => (h.trans h').congr or_self_iff fun _ => or_self_iff)
        (fun hok => (sameReferences_createScene hok).rebases) rebases_createTile hok
    | changeScene id requested message force =>
      exact (Cascade.sameReferences_changeScene (fun hboth => htask hboth.2) hok).rebases
    | changeTile id requested message force =>
      exact (Cascade.sameReferences_changeTile (fun hboth => htask hboth.2) hok).rebases
    | updateSceneAttrs id attrs =>
      have hcall : (Task.updateSceneAttrs id attrs).body.Uses Cascade.KeepsReferences :=
        Program.uses_perform trivial
      exact (Cascade.sameReferences_of_exec hcall hok).rebases
    | updateTileAttrs id attrs =>
      have hcall : (Task.updateTileAttrs id attrs).body.Uses Cascade.KeepsReferences :=
        Program.uses_perform trivial
      exact (Cascade.sameReferences_of_exec hcall hok).rebases
  relay := fun batchSize w =>
    (SameReferences.of_tiles (Outbox.sameRows_flush batchSize w).tiles).rebases

namespace Command

/-- The command lets a scene or tile fail, and something can be said of one of the tiles that fail
when its turn has come. -/
def FailsWith (P : Store → Tile → Prop) (w : World σ) : Command → Prop
  | updateStatus kind id requested message force =>
    (SceneWorkflow.updateStatus kind id requested message force w).1 = .ok true ∧
      requested = .failed ∧ FailureOf P kind id w.store
  | handleResult r =>
    (SceneWorkflow.handleResult r w).1 = .ok true ∧ r.status = .failed ∧
      FailureOf P r.kind r.id w.store
  | _ => False

end Command

variable {w : World σ}

theorem rebases_updateStatus (h : Forest w.store) (kind : EntityKind) (id : Int)
    (requested : Status) (message : Option String) (force : Bool) :
    Rebases ((Command.updateStatus kind id requested message force).FailsWith Misleads w)
      (fun k => (Command.updateStatus kind id requested message force).FailsWith (Succeeds k) w)
      w.store (updateStatus kind id requested message force w).2.store := by
  rcases updateStatus_rows kind id requested message force w with
    ⟨e, herror, hstore⟩ | ⟨accepted, s, hexec, hanswer, hsame⟩
  · have hnot (P : Store → Tile → Prop) :
        ¬ (Command.updateStatus kind id requested message force).FailsWith P w := by
      rintro ⟨hok, -⟩
      cases herror.symm.trans hok
    rw [hstore]
    exact (SameReferences.refl w.store).rebases.congr ⟨False.elim, hnot _⟩
      fun k => ⟨False.elim, hnot _⟩
  · have hrebases := (Cascade.rebases_change h hexec).after (.of_tiles hsame.tiles)
    have hiff (P : Store → Tile → Prop) :
        (accepted = true ∧ requested = .failed ∧ FailureOf P kind id w.store) ↔
          (Command.updateStatus kind id requested message force).FailsWith P w := by
      rw [Command.FailsWith, hanswer, Except.ok.injEq]
    exact hrebases.congr (hiff _) fun k => hiff _

theorem Command.rebases (h : Forest w.store) (c : Command) :
    Rebases (c.FailsWith Misleads w) (fun k => c.FailsWith (Succeeds k) w) w.store
      (c.run w).store := by
  cases c with
  | updateStatus kind id requested message force =>
    exact rebases_updateStatus h kind id requested message force
  | handleResult r => exact rebases_updateStatus h r.kind r.id r.status (some r.message) false
  | createAoi name => exact course_rebases.relates_run (c := .createAoi name) trivial w
  | ingestScene aoi r => exact course_rebases.relates_run (c := .ingestScene aoi r) trivial w
  | ingestScenes aoi rs =>
    exact course_rebases.relates_run (c := .ingestScenes aoi rs) (fun _ _ => trivial) w
  | updateSceneAttrs id attrs =>
    exact course_rebases.relates_run (c := .updateSceneAttrs id attrs) trivial w
  | updateTileAttrs id attrs =>
    exact course_rebases.relates_run (c := .updateTileAttrs id attrs) trivial w
  | retryAoi aoi force =>
    have hharmless : (Command.retryAoi aoi force).All Task.IsHarmless := by
      intro kind id
      cases kind <;> exact nofun
    exact course_rebases.relates_run hharmless w
  | flushOutbox => exact course_rebases.relates_run (c := .flushOutbox) trivial w

end

/-- A history of unforced commands that leads to a store, and whether in its course an heir has been
misled. -/
inductive Traced : Prop → Store → Prop where
  | empty : Traced False {}
  | run {σ : Type} [Sink σ] {misled : Prop} (c : Command) (w : World σ) (hc : c.isForced = false)
      (h : Traced misled w.store) : Traced (misled ∨ c.FailsWith Misleads w) (c.run w).store

theorem Traced.reachable {misled : Prop} {s : Store} (h : Traced misled s) : Reachable s := by
  induction h with
  | empty => exact .empty
  | run c w hc _ ih => exact ih.run c w hc

theorem Reachable.traced {s : Store} (h : Reachable s) : ∃ misled, Traced misled s := by
  induction h with
  | empty => exact ⟨False, .empty⟩
  | run c w hc _ ih =>
    obtain ⟨misled, htraced⟩ := ih
    exact ⟨_, htraced.run c w hc⟩

/-- An heir that is misled leaves a cycle for good, and there is no other way to one. -/
theorem Traced.settled {misled : Prop} {s : Store} (h : Traced misled s) :
    (misled → s.Entangled) ∧ (¬ misled → s.Untangled) := by
  induction h with
  | empty => exact ⟨False.elim, fun _ => untangled_empty⟩
  | run c w hc htraced ih =>
    have hrebases := c.rebases htraced.reachable.attainable.forest
    refine ⟨fun hmisled => hrebases.entangled (hmisled.imp_left ih.1), fun hnot => ?_⟩
    rw [not_or] at hnot
    exact hrebases.untangled (ih.2 hnot.1) hnot.2

/-- Every store that comes about without force has a history, and after any history comparisons run in
a cycle if an heir has been misled, and lead from every tile to a baseline if none has. The next
command makes a tile a baseline exactly if it lets fail what the tile is compared with, as its heir. -/
theorem Reachable.entangled_iff_misled {σ : Type} [Sink σ] {w : World σ} (h : Reachable w.store) :
    (∃ misled, Traced misled w.store) ∧
    (∀ misled, Traced misled w.store →
      (w.store.Entangled ↔ misled) ∧ (w.store.Untangled ↔ ¬ misled)) ∧
    ∀ (c : Command) (id : Int), (w.store.tile? id).isSome →
      ((c.run w).store.IsBaseline id ↔
        w.store.IsBaseline id ∨ c.FailsWith (Succeeds id) w) := by
  refine ⟨h.traced, fun misled htraced => ?_, fun c id hid => ?_⟩
  · obtain ⟨hmisled, hnot⟩ := htraced.settled
    constructor
    · refine ⟨fun hentangled => Classical.byContradiction fun hno => ?_, hmisled⟩
      exact (hnot hno).not_entangled hentangled
    · exact ⟨fun huntangled hyes => huntangled.not_entangled (hmisled hyes), hnot⟩
  · exact (c.rebases h.attainable.forest).baseline id hid

/-- Of three tiles the second is compared with the first. The third follows the first, and is compared
with the second. -/
def comparedAside : World Recorder :=
  World.after { sink := {} }
    [.createAoi "north",
      .ingestScene "north" (.ofTiles "north" "s1"
        [("a", {}), ("b", { reference := some ⟨"s1", "a"⟩ }),
          ("c", { previous := some ⟨"s1", "a"⟩, reference := some ⟨"s1", "b"⟩ })]),
      .updateStatus .scene 1 .done none false]

theorem reachable_comparedAside : Reachable comparedAside.store := Reachable.empty.after (by decide)

/-- The third tile is the heir of the first, and is misled. -/
theorem entangled_iff_misled_comparedAside :
    Reachable ((Command.updateStatus .tile 1 .failed none false).run comparedAside).store ∧
      (Command.updateStatus .tile 1 .failed none false).FailsWith Misleads comparedAside ∧
      ((Command.updateStatus .tile 1 .failed none false).run comparedAside).store.Entangled := by
  have hreach := reachable_comparedAside.run (.updateStatus .tile 1 .failed none false)
    comparedAside rfl
  have hanswered :
      (updateStatus .tile 1 .failed none false comparedAside).1.toOption = some true := by
    decide +kernel
  have hheir : (comparedAside.store.tile? 1).bind comparedAside.store.heir? = some 3 := by
    decide +kernel
  have hthird : comparedAside.store.Compares 3 2 := by decide +kernel
  have hsecond : comparedAside.store.Compares 2 1 := by decide +kernel
  obtain ⟨f, hf, hheir⟩ := Option.bind_eq_some_iff.1 hheir
  have hmisleads : comparedAside.store.Misleads f := by
    refine ⟨3, 2, hheir, hthird, ?_, ?_⟩
    · rw [tile?_id hf]
      decide
    · rw [tile?_id hf]
      exact .single hsecond
  have hfails : (Command.updateStatus .tile 1 .failed none false).FailsWith Misleads comparedAside :=
    ⟨toOption_eq_some.1 hanswered, rfl, f, hf, .inl hmisleads⟩
  obtain ⟨misled, htraced⟩ := reachable_comparedAside.traced
  have hnext := htraced.run (.updateStatus .tile 1 .failed none false) comparedAside rfl
  refine ⟨hreach, hfails, ?_⟩
  exact (hreach.entangled_iff_misled.2.1 _ hnext).1.2 (.inr hfails)

/-- Comparisons may lead from a tile back to it. -/
theorem comparisons_may_cycle :
    ¬ ∀ s, Reachable s → ∀ id, ¬ Relation.TransGen s.Compares id id := by
  intro hall
  have hreach := reachable_comparedAside.run (.updateStatus .tile 1 .failed none false)
    comparedAside rfl
  have hthere : ((Command.updateStatus .tile 1 .failed none false).run
      comparedAside).store.Compares 2 3 := by decide +kernel
  have hback : ((Command.updateStatus .tile 1 .failed none false).run
      comparedAside).store.Compares 3 2 := by decide +kernel
  exact hall _ hreach 2 (.tail (.single hthere) hback)

end SceneWorkflow
