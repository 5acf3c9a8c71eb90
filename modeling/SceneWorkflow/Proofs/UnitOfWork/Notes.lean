import SceneWorkflow.Proofs.Store.Changes
import SceneWorkflow.Proofs.Work.Laws

/-!
# Notes and fresh reads

A unit of work asks for scenes it has seen before without reading them again. As
long as its notes are what a fresh read would give, a body that changes no scene
comes to the same result either way, and its notes stay so.
-/
namespace SceneWorkflow

namespace Draft
variable {α β : Type}

def execInstruction : (i : Instruction) → StateT Draft (Except Error) i.Answer
  | .call c => fun d => (c.perform d.store).map fun r => (r.1, { d with store := r.2 })
  | .fail e => fun _ => .error e
  | .known scene => fun d =>
    match d.notes.find? scene with
    | some note => .ok (note, d)
    | none =>
      (d.store.getScene scene).map fun x => (x.note, { d with notes := x.note :: d.notes })
  | .remember note => fun d => .ok ((), { d with notes := note :: d.notes })

def exec (w : Work α) (d : Draft) : Except Error (α × Draft) :=
  (w.interpret execInstruction).run d

theorem exec_bind (w : Work α) (f : α → Work β) (d : Draft) :
    exec (w >>= f) d = (exec w d).bind fun r => exec (f r.1) r.2 := by
  simp only [exec, Program.interpret_bind, StateT.run_bind]
  rfl

theorem exec_step (i : Instruction) (next : i.Answer → Work α) (d : Draft) :
    exec (.step i next) d = (execInstruction i d).bind fun r => exec (next r.1) r.2 := rfl

/-- The notes say what fresh reads would say. -/
def Current (d : Draft) : Prop :=
  ∀ scene note, d.notes.find? scene = some note →
    ∃ x, d.store.getScene scene = .ok x ∧ x.note = note

theorem current_of_no_notes (s : Store) : Current { store := s } := by
  intro scene note h
  cases h

/-- The body comes to the same with notes as with fresh reads, and leaves notes that are current. -/
def Faithful (w : Work α) (d : Draft) : Prop :=
  (exec w d).map (fun r => (r.1, r.2.store)) = w.exec d.store ∧
    ∀ a d', exec w d = .ok (a, d') → d'.Current

theorem Faithful.pure (a : α) {d : Draft} (h : d.Current) : Faithful (Pure.pure a) d := by
  refine ⟨rfl, ?_⟩
  intro b d' hok
  cases hok
  exact h

theorem Faithful.fail (e : Error) (d : Draft) : Faithful (Work.fail e : Work α) d :=
  ⟨rfl, fun _ _ hok => nomatch hok⟩

theorem Faithful.bind {w : Work α} {f : α → Work β} {d : Draft} (hw : Faithful w d)
    (hf : ∀ a d', exec w d = .ok (a, d') → Faithful (f a) d') : Faithful (w >>= f) d := by
  obtain ⟨hsame, hcurrent⟩ := hw
  unfold Faithful
  rw [exec_bind, Work.exec_bind, ← hsame]
  cases hw : exec w d with
  | error e => exact ⟨rfl, fun _ _ hok => nomatch hok⟩
  | ok r => exact hf r.1 r.2 hw

theorem Faithful.exec_of_ok {w : Work α} {d d' : Draft} {a : α} (h : Faithful w d)
    (hok : exec w d = .ok (a, d')) : w.exec d.store = .ok (a, d'.store) := by
  rw [← h.1, hok]
  rfl

theorem Faithful.map_exec {w : Work α} {d : Draft} (h : Faithful w d) :
    (exec w d).map (fun r => r.1) = (w.exec d.store).map fun r => r.1 := by
  rw [← h.1]
  cases exec w d <;> rfl

end Draft

namespace Instruction

/-- The instruction changes no scene that exists, and takes no note by itself. -/
def Steady : Instruction → Prop
  | call c => c.kind ≠ .updateScene ∧ c.kind ≠ .updateSceneAttrs
  | remember _ => False
  | _ => True

end Instruction

namespace Call
variable {s s' : Store}

/-- Calls other than those that update scenes leave the scenes that exist alone. -/
theorem scene?_of_perform {c : Call} {a : c.Answer} (hc : (Instruction.call c).Steady)
    (hok : c.perform s = .ok (a, s')) {id : Int} {x : Scene} (hx : s.scene? id = some x) :
    s'.scene? id = some x := by
  cases c with
  | updateScene id update => exact absurd rfl hc.1
  | updateSceneAttrs id attrs => exact absurd rfl hc.2
  | createScene draft =>
    obtain ⟨-, -, -, rfl⟩ := Store.createScene_eq_ok hok
    exact Store.scene?_addScene_of_some hx _
  | createTile draft =>
    obtain ⟨_, _, -, -, hinsert⟩ := Store.createTile_eq_ok hok
    obtain ⟨-, -, -, rfl⟩ := Store.insertTile_eq_ok hinsert
    exact hx
  | unblockNextTiles id | unblockSceneTiles id | unblockSceneRootTiles id =>
    obtain ⟨-, -, rfl⟩ := Store.release_eq_ok.1 hok
    exact hx
  | reparentNextTiles old new =>
    obtain ⟨-, -, rfl⟩ := Store.reparentNextTiles_eq_ok.1 hok
    exact hx
  | updateTile id update =>
    obtain ⟨_, hok, heq⟩ := map_eq_ok.1 hok
    obtain ⟨-, rfl⟩ := Store.updateTile_eq_ok.1 hok
    cases heq
    exact hx
  | updateTileAttrs id attrs =>
    obtain ⟨_, hok, heq⟩ := map_eq_ok.1 hok
    obtain ⟨-, rfl⟩ := Store.replaceTileAttrs_eq_ok.1 hok
    cases heq
    exact hx
  | reassignReference old new =>
    obtain ⟨_, hok, heq⟩ := map_eq_ok.1 hok
    cases heq
    by_cases hne : old = new
    · subst hne
      rw [Store.reassignReference_self] at hok
      cases hok
      exact hx
    · obtain ⟨-, rfl⟩ := (Store.reassignReference_eq_ok hne).1 hok
      exact hx
  | refreshAoiStatus aoi =>
    cases hok
    split <;> exact hx
  | setTilesStatus ids status | enqueueJob topic payload | sceneId aoi sourceId =>
    cases hok
    exact hx
  | aoi name | scene id | tile id | sceneTiles scene | referencingTiles reference =>
    obtain ⟨_, _, heq⟩ := map_eq_ok.1 hok
    cases heq
    exact hx

end Call

namespace Draft
variable {α : Type}

theorem exec_call (c : Call) (d : Draft) :
    exec (Work.call c) d = (c.perform d.store).map fun r => (r.1, { d with store := r.2 }) := by
  show ((c.perform d.store).map _).bind _ = _
  cases c.perform d.store <;> rfl

theorem notes_of_call {c : Call} {a : c.Answer} {d d' : Draft}
    (h : exec (Work.call c) d = .ok (a, d')) :
    d'.notes = d.notes ∧ c.perform d.store = .ok (a, d'.store) := by
  rw [exec_call] at h
  obtain ⟨r, hc, heq⟩ := map_eq_ok.1 h
  cases heq
  exact ⟨rfl, hc⟩

theorem exec_call_eq (c : Call) (d : Draft) :
    (exec (Work.call c) d).map (fun r => (r.1, r.2.store)) = (Work.call c).exec d.store := by
  rw [exec_call]
  refine Eq.trans ?_ (Work.exec_call c d.store).symm
  cases c.perform d.store <;> rfl

/-- Without notes every call is faithful. -/
theorem Faithful.call_of_no_notes (c : Call) {d : Draft} (h : d.notes = []) :
    Faithful (Work.call c) d := by
  refine ⟨exec_call_eq c d, ?_⟩
  intro a d' hok scene note hnote
  rw [(notes_of_call hok).1, h] at hnote
  cases hnote

theorem Faithful.perform {i : Instruction} (hi : i.Steady) {d : Draft} (h : d.Current) :
    Faithful (Program.perform i) d := by
  cases i with
  | call c =>
    refine ⟨exec_call_eq c d, ?_⟩
    intro a d' hok scene note hnote
    obtain ⟨hsame, hc⟩ := notes_of_call (c := c) hok
    rw [hsame] at hnote
    obtain ⟨x, hx, rfl⟩ := h scene note hnote
    obtain ⟨hfind, hbudget⟩ := Store.getScene_eq_ok.1 hx
    exact ⟨x, Store.getScene_eq_ok.2 ⟨Call.scene?_of_perform hi hc hfind, hbudget⟩, rfl⟩
  | fail e =>
    refine ⟨rfl, ?_⟩
    intro _ _ hok
    cases hok
  | known scene =>
    have hfresh : Work.exec (Program.perform (.known scene)) d.store =
        (d.store.getScene scene).map fun x => (x.note, d.store) :=
      congrFun (Program.interpret_perform Work.execInstruction (.known scene)) d.store
    unfold Faithful
    rw [hfresh, Program.perform, exec_step]
    simp only [execInstruction]
    cases hnote : d.notes.find? scene with
    | some note =>
      obtain ⟨x, hx, rfl⟩ := h scene note hnote
      rw [hx]
      refine ⟨rfl, ?_⟩
      intro a d' hok
      cases hok
      exact h
    | none =>
      cases hx : d.store.getScene scene with
      | error e =>
        refine ⟨rfl, ?_⟩
        intro _ _ hok
        cases hok
      | ok x =>
        refine ⟨rfl, ?_⟩
        intro a d' hok
        cases hok
        intro id note hfind
        by_cases hid : x.note.ref.id == id
        · have heq : x.note = note := by simpa [Notes.find?, hid] using hfind
          have hfound := Store.scene?_id (Store.getScene_eq_ok.1 hx).1
          have hscene : scene = id := by
            rw [← hfound]
            exact eq_of_beq hid
          exact ⟨x, hscene ▸ hx, heq⟩
        · apply h id note
          simpa [Notes.find?, hid] using hfind
  | remember note => exact hi.elim

theorem Faithful.of_steady {w : Work α} (hw : w.Uses Instruction.Steady) {d : Draft}
    (h : d.Current) : Faithful w d := by
  induction w generalizing d with
  | done a => exact .pure a h
  | step i next ih =>
    obtain ⟨hi, hnext⟩ := hw
    have hfirst := Faithful.perform hi h
    apply Faithful.bind (w := Program.perform i) (f := next) hfirst
    intro a d' hok
    exact ih a (hnext a) (hfirst.2 a d' hok)

/-- A scene that is updated and noted as it was updated is known as it is. -/
theorem Faithful.note_update {x : Scene} {u : StatusUpdate} {rest : Work α} {d : Draft}
    (hnotes : d.notes = []) (hx : d.store.getScene x.id = .ok x) (hu : u.consume = false)
    (hrest : rest.Uses Instruction.Steady) :
    Faithful (do
      Work.updateScene x.id u
      Work.remember { x.note with status := u.status }
      rest) d := by
  apply Faithful.bind (.call_of_no_notes _ hnotes)
  intro _ d₁ hok
  obtain ⟨hsame, hc⟩ := notes_of_call hok
  obtain ⟨s₁, hs₁, heq⟩ := map_eq_ok.1 hc
  obtain ⟨-, rfl⟩ := Store.updateScene_eq_ok.1 hs₁
  obtain ⟨hfind, hbudget⟩ := Store.getScene_eq_ok.1 hx
  have hcurrent : Current { d₁ with notes := { x.note with status := u.status } :: d₁.notes } := by
    intro scene note hnote
    rw [hsame, hnotes] at hnote
    have hid : x.id = scene ∧ { x.note with status := u.status } = note := by
      simpa [Notes.find?, Scene.note, Scene.ref] using hnote
    obtain ⟨rfl, rfl⟩ := hid
    refine ⟨x.update u, Store.getScene_eq_ok.2 ⟨?_, ?_⟩, rfl⟩
    · rw [← (Prod.mk.inj heq).2]
      exact Store.scene?_setScene hfind u
    · simpa [Scene.update, hu] using hbudget
  have hremember : Faithful (Work.remember { x.note with status := u.status }) d₁ := by
    refine ⟨rfl, ?_⟩
    intro _ d₂ hok₂
    cases hok₂
    exact hcurrent
  exact hremember.bind fun _ d₂ hok₂ => .of_steady hrest (hremember.2 _ d₂ hok₂)

end Draft

end SceneWorkflow
