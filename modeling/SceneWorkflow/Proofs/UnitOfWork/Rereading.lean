import SceneWorkflow.Proofs.Engine.Requests
import SceneWorkflow.Proofs.UnitOfWork.Undisturbed

/-!
# Reading scenes anew

A unit of work may also ask the store for a scene each time and keep nothing of what
it has seen. For every request this comes to the same as answering from notes. It
comes to the same even if what is kept are whole rows, of which only the description
and the status keep up with the store.
-/
namespace SceneWorkflow
open Program

/-- The instruction neither asks for what is known of a scene nor takes note of one. -/
def Instruction.Forgetful : Instruction → Prop
  | known _ => False
  | remember _ => False
  | _ => True

namespace Work
variable {α : Type}

/-- The body that reads a scene from the store wherever it would ask what is known of it. -/
def rereading : Work α → Work α
  | .done a => pure a
  | .step (.call c) next => call c >>= fun answer => rereading (next answer)
  | .step (.fail e) _ => fail e
  | .step (.known id) next => scene id >>= fun x => rereading (next x.note)
  | .step (.remember _) next => rereading (next ())

theorem rereading_uses (w : Work α) : w.rereading.Uses Instruction.Forgetful := by
  induction w with
  | done a => exact uses_pure _ a
  | step i next ih =>
    cases i with
    | call c => exact uses_bind (uses_perform trivial) ih
    | fail e => exact ⟨trivial, nofun⟩
    | known id => exact uses_bind (uses_perform trivial) fun x => ih (Scene.note x)
    | remember note => exact ih ()

theorem exec_step (i : Instruction) (next : i.Answer → Work α) (s : Store) :
    exec (.step i next) s = (execInstruction i s).bind fun r => exec (next r.1) r.2 := rfl

theorem exec_scene_eq (id : Int) (s : Store) :
    (scene id).exec s = (s.getScene id).map fun x => (x, s) :=
  exec_call (.scene id) s

theorem exec_rereading (w : Work α) (s : Store) : w.rereading.exec s = w.exec s := by
  induction w generalizing s with
  | done a => rfl
  | step i next ih =>
    cases i with
    | call c =>
      rw [rereading, exec_bind, exec_call, exec_step]
      exact congrArg _ (funext fun r => ih r.1 r.2)
    | fail e => rfl
    | known id =>
      rw [rereading, exec_bind, exec_scene_eq, exec_step]
      simp only [execInstruction]
      cases s.getScene id with
      | error e => rfl
      | ok x => exact ih x.note s
    | remember note => exact ih () s

end Work

namespace Draft
variable {α : Type}

/-- A forgetful body does to the store what fresh reads come to, and leaves the notes alone. -/
theorem exec_of_forgetful {w : Work α} (hw : w.Uses Instruction.Forgetful) (d : Draft) :
    exec w d = (w.exec d.store).map fun r => (r.1, { d with store := r.2 }) := by
  induction w generalizing d with
  | done a => rfl
  | step i next ih =>
    cases i with
    | call c =>
      rw [exec_step, Work.exec_step]
      simp only [execInstruction, Work.execInstruction]
      cases c.perform d.store with
      | error e => rfl
      | ok r => exact ih r.1 (hw.2 r.1) _
    | fail e => rfl
    | known id => exact hw.1.elim
    | remember note => exact hw.1.elim

theorem faithful_rereading (w : Work α) (s : Store) : Faithful w.rereading { store := s } := by
  have hexec := exec_of_forgetful w.rereading_uses { store := s }
  apply And.intro
  · rw [hexec]
    cases w.rereading.exec s <;> rfl
  · intro a d' hok scene note hnote
    rw [hexec] at hok
    obtain ⟨r, -, heq⟩ := map_eq_ok.1 hok
    cases heq
    cases hnote

end Draft

/-- The row that says of a scene what a note says, and otherwise what it said before. -/
def Scene.noting (x : Scene) (note : SceneNote) : Scene :=
  { x with
    id := note.ref.id
    sourceId := note.ref.sourceId
    aoi := note.ref.aoi
    attrs := note.ref.attrs
    status := note.status }

/-- A unit of work in progress that keeps the scenes it has seen as whole rows, the latest first. -/
structure Keeping where
  store : Store
  scenes : List Scene := []

namespace Keeping
variable {α : Type} (former : SceneNote → Scene)

def draft (k : Keeping) : Draft := { store := k.store, notes := k.scenes.map Scene.note }

/-- The effect of an instruction that nothing disturbs. A scene that is noted is kept as a former
row of it that has been brought up to what the note says. -/
def execInstruction : (i : Instruction) → StateT Keeping (Except Error) i.Answer
  | .call c => fun k => (c.perform k.store).map fun r => (r.1, { k with store := r.2 })
  | .fail e => fun _ => .error e
  | .known scene => fun k =>
    match k.scenes.find? fun x => x.id == scene with
    | some x => .ok (x.note, k)
    | none => (k.store.getScene scene).map fun x => (x.note, { k with scenes := x :: k.scenes })
  | .remember note => fun k => .ok ((), { k with scenes := (former note).noting note :: k.scenes })

def exec (w : Work α) (k : Keeping) : Except Error (α × Keeping) :=
  (w.interpret (execInstruction former)).run k

theorem exec_step (i : Instruction) (next : i.Answer → Work α) (k : Keeping) :
    exec former (.step i next) k =
      (execInstruction former i k).bind fun r => exec former (next r.1) r.2 := rfl

theorem find?_notes (k : Keeping) (scene : Int) :
    k.draft.notes.find? scene = (k.scenes.find? fun x => x.id == scene).map Scene.note := by
  simp only [draft, Notes.find?, List.find?_map]
  rfl

/-- One instruction is answered alike, and the notes stay what the rows say. -/
theorem draft_execInstruction (i : Instruction) (k : Keeping) :
    (execInstruction former i k).map (fun r => (r.1, r.2.draft)) =
      Draft.execInstruction i k.draft := by
  cases i with
  | call c =>
    simp only [execInstruction, Draft.execInstruction, draft]
    cases c.perform k.store <;> rfl
  | fail e => rfl
  | known scene =>
    simp only [execInstruction, Draft.execInstruction, find?_notes]
    cases k.scenes.find? fun x => x.id == scene with
    | some x => rfl
    | none =>
      simp only [Option.map_none, draft]
      cases k.store.getScene scene <;> rfl
  | remember note => rfl

theorem draft_exec (w : Work α) (k : Keeping) :
    (exec former w k).map (fun r => (r.1, r.2.draft)) = Draft.exec w k.draft := by
  induction w generalizing k with
  | done a => rfl
  | step i next ih =>
    rw [exec_step, Draft.exec_step, ← draft_execInstruction former]
    cases execInstruction former i k with
    | error e => rfl
    | ok r => exact ih r.1 r.2

/-- What a body that is faithful makes of the store does not depend on what else the rows say. -/
theorem exec_of_faithful {w : Work α} {s : Store} (hw : Draft.Faithful w { store := s }) :
    (exec former w { store := s }).map (fun r => (r.1, r.2.store)) = w.rereading.exec s := by
  rw [Work.exec_rereading, ← hw.1]
  have hsame := draft_exec former w { store := s }
  simp only [draft, List.map_nil] at hsame
  rw [← hsame]
  cases exec former w { store := s } <;> rfl

end Keeping

theorem Cascade.faithful_change (kind : EntityKind) (id : Int) (requested : Status)
    (message : Option String) (force : Bool) (s : Store) :
    Draft.Faithful (change kind id requested message force) { store := s } := by
  cases kind with
  | scene => exact (Task.changeScene id requested message force).faithful s
  | tile => exact (Task.changeTile id requested message force).faithful s

theorem updateStatus_eq_transact {σ : Type} [Sink σ] (kind : EntityKind) (id : Int)
    (requested : Status) (message : Option String) (force : Bool) :
    ∃ operation, updateStatus (σ := σ) kind id requested message force =
      transact operation (Cascade.change kind id requested message force) := by
  cases kind with
  | scene | tile => exact ⟨_, rfl⟩

/-- Whatever the store holds, a request comes to the same if every scene that it asks for is read
from the store anew: in the answer, in all that is stored and queued, and in all that is then
relayed. Nor does it depend on what the rows that are kept say beside description and status. -/
theorem updateStatus_rereading (kind : EntityKind) (id : Int) (requested : Status)
    (message : Option String) (force : Bool) (s : Store) :
    (∀ former : SceneNote → Scene,
      (Keeping.exec former (Cascade.change kind id requested message force) { store := s }).map
          (fun r => (r.1, r.2.store)) =
        (Cascade.change kind id requested message force).rereading.exec s) ∧
    ∀ {σ : Type} [Sink σ] (operation : String) (sink : σ) (batchSize : Int),
      updateStatus kind id requested message force { store := s, sink, batchSize } =
        transact operation (Cascade.change kind id requested message force).rereading
          { store := s, sink, batchSize } := by
  have hfaithful := Cascade.faithful_change kind id requested message force s
  constructor
  · intro former
    exact Keeping.exec_of_faithful former hfaithful
  · intro σ _ operation sink batchSize
    have hcalm : World.Undisturbed { store := s, sink, batchSize } := ⟨rfl, rfl⟩
    obtain ⟨usual, heq⟩ :=
      updateStatus_eq_transact (σ := σ) kind id requested message force
    rw [heq, transact_of_faithful hcalm usual hfaithful,
      transact_of_faithful hcalm operation (Draft.faithful_rereading _ s), Work.exec_rereading]

end SceneWorkflow
