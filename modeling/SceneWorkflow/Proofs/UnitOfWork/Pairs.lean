import SceneWorkflow.Proofs.UnitOfWork.Commit
import SceneWorkflow.Proofs.Work.Waiting

/-!
# Worlds side by side

Two worlds are abreast if they hold the same tables and the same is planned for all
methods of the store but those of the relay. The jobs that wait may differ, and so
may the sinks. Calls befall the same in both, and so a unit of work that is drafted
in both succeeds in both or fails in both in the same way.
-/
namespace SceneWorkflow

def Method.relays : Method → Bool
  | pendingJobs | ackJobs => true
  | _ => false

/-- Calls of the relay may be refused, but none of them is the moment of a cancellation. -/
def Faults.Spares (faults : Faults) : Prop :=
  ∀ m : Method, m.relays = true → (faults.plan m).Only (· ≠ some .cancel)

namespace Faults
variable {faults others : Faults} {m n : Method}

theorem spares_nil : Spares [] := fun _ _ _ he => nomatch he

theorem Spares.of_isEmpty (h : faults.isEmpty = true) : faults.Spares := by
  rw [List.isEmpty_iff.1 h]
  exact spares_nil

theorem plan_next_of_ne (h : n ≠ m) : (faults.next m).2.plan n = faults.plan n := by
  unfold next
  split
  · rw [plan_set, if_neg h]
  · rfl

/-- What befalls a call and what is left of the plan of its method depend on that plan alone. -/
theorem next_congr (h : faults.plan m = others.plan m) :
    (faults.next m).1 = (others.next m).1 ∧
      (faults.next m).2.plan m = (others.next m).2.plan m := by
  unfold next
  rw [← h]
  split
  · exact ⟨rfl, by rw [plan_set, plan_set, if_pos rfl, if_pos rfl]⟩
  · exact ⟨rfl, h⟩

theorem Spares.fault_ne (h : faults.Spares) (hm : m.relays = true) :
    (faults.next m).1 ≠ some .cancel := by
  unfold next
  cases hnext : (faults.plan m).next? with
  | none => nofun
  | some r => exact ((h m hm).next? hnext).1

theorem Spares.next (h : faults.Spares) (m : Method) : (faults.next m).2.Spares := by
  intro n hn
  unfold Faults.next
  cases hnext : (faults.plan m).next? with
  | none => exact h n hn
  | some r =>
    rw [plan_set]
    split
    next heq =>
      subst heq
      exact ((h n hn).next? hnext).2
    next => exact h n hn

end Faults

def World.meet {σ : Type} (w : World σ) (m : Method) : World σ :=
  { w with
    faults := (w.faults.next m).2
    cancelled := w.cancelled || (w.faults.next m).1 == some .cancel }

namespace World
variable {σ : Type} {w : World σ} {m : Method}

theorem meet_of_refuse (h : (w.faults.next m).1 = some .refuse) :
    w.meet m = { w with faults := (w.faults.next m).2 } := by
  unfold meet
  rw [h, show (some Fault.refuse == some .cancel) = false from rfl, Bool.or_false]

theorem meet_of_cancelled (h : w.cancelled = true) :
    w.meet m = { w with faults := (w.faults.next m).2 } := by
  unfold meet
  rw [h, Bool.true_or, ← h]

end World

namespace Operation
variable {σ α : Type}

theorem invoke_eq (m : Method) (f : Store → Except Error (α × Store)) (w : World σ) :
    invoke m f w =
      if (w.faults.next m).1 = some .refuse then (.error m.refusal, w.meet m)
      else
        match f w.store with
        | .error e => (.error e, w.meet m)
        | .ok (a, store) => (.ok a, { w.meet m with store }) := by
  unfold invoke
  dsimp only
  split
  next hrefuse => rw [World.meet_of_refuse hrefuse]
  next => rfl

end Operation

theorem Draft.call_eq {σ : Type} (operation : String) (c : Call) (d : Draft) (w : World σ) :
    call operation c d w =
      if (w.faults.next (.within c.kind)).1 = some .refuse then
        (.error (Method.within c.kind).refusal, w.meet (.within c.kind))
      else if w.cancelled && c.waits then (.error (.cancelled operation), w.meet (.within c.kind))
      else
        match c.perform d.store with
        | .error e => (.error e, w.meet (.within c.kind))
        | .ok (a, store) => (.ok (a, { d with store }), w.meet (.within c.kind)) := by
  unfold call
  dsimp only
  split
  next hrefuse => rw [World.meet_of_refuse hrefuse]
  next =>
    split
    next hcancelled => rw [World.meet_of_cancelled (Bool.and_eq_true_iff.1 hcancelled).1]
    next => rfl

/-- Two worlds hold the same tables, and the same is planned for all calls but those of the relay. -/
structure Abreast {σ τ : Type} (w₁ : World σ) (w₂ : World τ) : Prop where
  tables : w₁.store.tables = w₂.store.tables
  cancelled : w₁.cancelled = w₂.cancelled
  plan : ∀ m : Method, m.relays = false → w₁.faults.plan m = w₂.faults.plan m
  spares₁ : w₁.faults.Spares
  spares₂ : w₂.faults.Spares

namespace Abreast
variable {σ τ : Type} {w₁ : World σ} {w₂ : World τ}

theorem symm (h : Abreast w₁ w₂) : Abreast w₂ w₁ where
  tables := h.tables.symm
  cancelled := h.cancelled.symm
  plan := fun m hm => (h.plan m hm).symm
  spares₁ := h.spares₂
  spares₂ := h.spares₁

theorem fault_eq (h : Abreast w₁ w₂) {m : Method} (hm : m.relays = false) :
    (w₁.faults.next m).1 = (w₂.faults.next m).1 :=
  (Faults.next_congr (h.plan m hm)).1

theorem meet (h : Abreast w₁ w₂) {m : Method} (hm : m.relays = false) :
    Abreast (w₁.meet m) (w₂.meet m) where
  tables := h.tables
  cancelled := by
    show (w₁.cancelled || _) = (w₂.cancelled || _)
    rw [h.cancelled, h.fault_eq hm]
  plan := by
    intro n hn
    by_cases hne : n = m
    · rw [hne]
      exact (Faults.next_congr (h.plan m hm)).2
    · show (w₁.faults.next m).2.plan n = (w₂.faults.next m).2.plan n
      rw [Faults.plan_next_of_ne hne, Faults.plan_next_of_ne hne]
      exact h.plan n hn
  spares₁ := h.spares₁.next m
  spares₂ := h.spares₂.next m

end Abreast

/-! ### The relay in one of them -/

/-- The tables stay as they are. If the relay is not the moment of a cancellation, nothing is
cancelled, and only what is planned for the relay is used up. -/
def Spared {σ : Type} (w w' : World σ) : Prop :=
  w'.store.tables = w.store.tables ∧
    (w.faults.Spares → w'.cancelled = w.cancelled ∧ w'.faults.Spares ∧
      ∀ m : Method, m.relays = false → w'.faults.plan m = w.faults.plan m)

namespace Spared
open Operation
variable {σ τ α : Type}

theorem transit : Transit (Spared (σ := σ)) where
  refl := fun _ => ⟨rfl, fun hspares => ⟨rfl, hspares, fun _ _ => rfl⟩⟩
  trans := by
    rintro w₁ w₂ w₃ ⟨htables, hrest⟩ ⟨htables', hrest'⟩
    refine ⟨htables'.trans htables, fun hspares => ?_⟩
    obtain ⟨hcancelled, hspares, hplan⟩ := hrest hspares
    obtain ⟨hcancelled', hspares, hplan'⟩ := hrest' hspares
    exact ⟨hcancelled'.trans hcancelled, hspares, fun m hm => (hplan' m hm).trans (hplan m hm)⟩

theorem meet {m : Method} (hm : m.relays = true) {w w' : World σ}
    (hcancelled : w'.cancelled = (w.meet m).cancelled) (hfaults : w'.faults = (w.meet m).faults)
    (htables : w'.store.tables = w.store.tables) : Spared w w' := by
  refine ⟨htables, fun hspares => ⟨?_, ?_, fun n hn => ?_⟩⟩
  · rw [hcancelled]
    show (w.cancelled || (w.faults.next m).1 == some .cancel) = w.cancelled
    rw [beq_eq_false_iff_ne.2 (hspares.fault_ne hm), Bool.or_false]
  · rw [hfaults]
    exact hspares.next m
  · rw [hfaults]
    refine Faults.plan_next_of_ne fun heq => ?_
    rw [heq, hm] at hn
    cases hn

theorem within_invoke {m : Method} (hm : m.relays = true) {f : Store → Except Error (α × Store)}
    (hf : ∀ s a s', f s = .ok (a, s') → s'.tables = s.tables) :
    (invoke (σ := σ) m f).Within Spared := by
  intro w
  rw [invoke_eq]
  split
  · exact meet hm rfl rfl rfl
  · split
    · exact meet hm rfl rfl rfl
    next h => exact meet hm rfl rfl (hf _ _ _ h)

variable [Sink σ]

theorem within_relayRun (jobs : List QueuedJob) : (Outbox.relayRun (σ := σ) jobs).Within Spared := by
  cases jobs with
  | nil => exact transit.refl
  | cons job jobs =>
    have hpublish : (publish (σ := σ) job.topic ((job :: jobs).map (·.payload))).Within Spared :=
      fun w => transit.refl w
    refine transit.within_bind hpublish fun _ => within_invoke rfl fun s _ s' h => ?_
    cases h
    rfl

theorem within_flush (batchSize : Int) : (Outbox.flush (σ := σ) batchSize).Within Spared := by
  refine Outbox.within_flush_of_transit transit (fun size => ?_) within_relayRun batchSize
  refine within_invoke rfl fun s _ s' h => ?_
  obtain ⟨_, _, heq⟩ := map_eq_ok.1 h
  cases heq
  rfl

omit [Sink σ] in
theorem abreast {w₁ w₁' : World σ} {w₂ : World τ} (h : Spared w₁ w₁') (hw : Abreast w₁ w₂) :
    Abreast w₁' w₂ := by
  obtain ⟨htables, hrest⟩ := h
  obtain ⟨hcancelled, hspares, hplan⟩ := hrest hw.spares₁
  exact
    { tables := htables.trans hw.tables
      cancelled := hcancelled.trans hw.cancelled
      plan := fun m hm => (hplan m hm).trans (hw.plan m hm)
      spares₁ := hspares
      spares₂ := hw.spares₂ }

end Spared

/-- The relay leaves worlds abreast, whatever each sink makes of its batches. -/
theorem Abreast.flush {σ τ : Type} [Sink σ] [Sink τ] {w₁ : World σ} {w₂ : World τ}
    (h : Abreast w₁ w₂) (size₁ size₂ : Int) :
    Abreast (Outbox.flush size₁ w₁).2 (Outbox.flush size₂ w₂).2 := by
  have hleft := (Spared.within_flush size₁ w₁).abreast h
  exact ((Spared.within_flush size₂ w₂).abreast hleft.symm).symm

/-! ### What operations come to in both -/

/-- Two outcomes are failures with the same error, or results that are so related. -/
inductive Alongside {σ τ α β : Type} (T : World σ → World τ → Prop) (R : α → β → Prop) :
    Except Error α × World σ → Except Error β × World τ → Prop where
  | ok {a : α} {b : β} {w₁ : World σ} {w₂ : World τ} (hresult : R a b) (hworld : T w₁ w₂) :
      Alongside T R (.ok a, w₁) (.ok b, w₂)
  | error {e : Error} {w₁ : World σ} {w₂ : World τ} (hworld : T w₁ w₂) :
      Alongside T R (.error e, w₁) (.error e, w₂)

/-- In any two worlds that are so related, the operations succeed with the same result or fail with
the same error, and lead to worlds that are so related. -/
def Parallel {σ τ α : Type} (T : World σ → World τ → Prop) (x : Operation σ α)
    (y : Operation τ α) : Prop :=
  ∀ w₁ w₂, T w₁ w₂ → Alongside T Eq (x w₁) (y w₂)

section
open Operation
variable {σ τ α β γ δ : Type} {T : World σ → World τ → Prop} {w₁ : World σ} {w₂ : World τ}

namespace Alongside

theorem world {R : α → β → Prop} {o₁ : Except Error α × World σ} {o₂ : Except Error β × World τ}
    (h : Alongside T R o₁ o₂) : T o₁.2 o₂.2 := by
  cases h with
  | ok _ hworld | error hworld => exact hworld

theorem result_eq {o₁ : Except Error α × World σ} {o₂ : Except Error α × World τ}
    (h : Alongside T Eq o₁ o₂) : o₁.1 = o₂.1 := by
  cases h with
  | ok hresult _ => exact congrArg Except.ok hresult
  | error _ => rfl

theorem bind {R : α → β → Prop} {S : γ → δ → Prop} {x : Operation σ α} {y : Operation τ β}
    {f : α → Operation σ γ} {g : β → Operation τ δ} (h : Alongside T R (x w₁) (y w₂))
    (hnext : ∀ a b w₁ w₂, R a b → T w₁ w₂ → Alongside T S (f a w₁) (g b w₂)) :
    Alongside T S ((x >>= f) w₁) ((y >>= g) w₂) := by
  rw [bind_apply, bind_apply]
  generalize x w₁ = o₁, y w₂ = o₂ at h
  cases h with
  | ok hresult hworld => exact hnext _ _ _ _ hresult hworld
  | error hworld => exact .error hworld

end Alongside

namespace Parallel

theorem pure (a : α) : Parallel T (pure a) (pure a) := fun _ _ hw => .ok rfl hw

theorem throw (e : Error) : Parallel T (throw e : Operation σ α) (throw e) :=
  fun _ _ hw => .error hw

theorem give (result : Except Error α) : Parallel T (give result) (give result) := by
  intro w₁ w₂ hw
  cases result with
  | ok a => exact .ok rfl hw
  | error e => exact .error hw

theorem bind {x : Operation σ α} {y : Operation τ α} {f : α → Operation σ β}
    {g : α → Operation τ β} (hx : Parallel T x y) (hf : ∀ a, Parallel T (f a) (g a)) :
    Parallel T (x >>= f) (y >>= g) := by
  intro w₁ w₂ hw
  refine (hx w₁ w₂ hw).bind fun a b w₁ w₂ hab hw => ?_
  subst hab
  exact hf a w₁ w₂ hw

theorem attempt {x : Operation σ α} {y : Operation τ α} (h : Parallel T x y) :
    Parallel T (attempt x) (attempt y) := by
  intro w₁ w₂ hw
  unfold Operation.attempt
  have hxy := h w₁ w₂ hw
  generalize x w₁ = o₁, y w₂ = o₂ at hxy ⊢
  cases hxy with
  | ok hresult hworld =>
    subst hresult
    exact .ok rfl hworld
  | error hworld => exact .ok rfl hworld

/-- Of what is tolerated only the worlds matter. -/
theorem tolerate {x : Operation σ α} {y : Operation τ β}
    (h : ∀ w₁ w₂, T w₁ w₂ → T (x w₁).2 (y w₂).2) : Parallel T (tolerate x) (tolerate y) :=
  fun w₁ w₂ hw => .ok rfl (h w₁ w₂ hw)

end Parallel

end

/-! ### Calls of the store -/

structure Draft.Like (d₁ d₂ : Draft) : Prop where
  tables : d₁.store.tables = d₂.store.tables
  notes : d₁.notes = d₂.notes

structure Draft.Agree {α : Type} (r₁ r₂ : α × Draft) : Prop extends r₁.2.Like r₂.2 where
  answer : r₁.1 = r₂.1

/-- A relation between worlds abreast that holds on when the stores and the sinks do not change. -/
structure Pairing {σ τ : Type} (T : World σ → World τ → Prop) : Prop where
  abreast : ∀ {w₁ w₂}, T w₁ w₂ → Abreast w₁ w₂
  still : ∀ {w₁ w₁' w₂ w₂'}, T w₁ w₂ → w₁'.store = w₁.store → w₁'.sink = w₁.sink →
    w₂'.store = w₂.store → w₂'.sink = w₂.sink → Abreast w₁' w₂' → T w₁' w₂'

namespace Pairing
open Operation Draft
variable {σ τ α : Type} {T : World σ → World τ → Prop} (hT : Pairing T)
  {w₁ : World σ} {w₂ : World τ}
include hT

theorem meet (hw : T w₁ w₂) {m : Method} (hm : m.relays = false) : T (w₁.meet m) (w₂.meet m) :=
  hT.still hw rfl rfl rfl rfl ((hT.abreast hw).meet hm)

theorem parallel_checkpoint (operation : String) :
    Parallel T (checkpoint operation) (checkpoint operation) := by
  intro w₁ w₂ hw
  unfold checkpoint
  rw [(hT.abreast hw).cancelled]
  split
  · exact .error hw
  · exact .ok rfl hw

/-- What is read without a look at the jobs that wait is the same. -/
theorem parallel_query {m : Method} (hm : m.relays = false) {f : Store → Except Error α}
    (hf : ∀ s, f s = f s.tables) : Parallel T (query m f) (query m f) := by
  intro w₁ w₂ hw
  have habreast := hT.abreast hw
  have hsame : f w₁.store = f w₂.store := by rw [hf w₁.store, hf w₂.store, habreast.tables]
  unfold query
  rw [invoke_eq, invoke_eq, habreast.fault_eq hm, hsame]
  split
  · exact .error (hT.meet hw hm)
  · cases f w₂.store with
    | error e => exact .error (hT.meet hw hm)
    | ok a => exact .ok rfl (hT.meet hw hm)

theorem parallel_signal {m : Method} (hm : m.relays = false) :
    Parallel T (signal m) (signal m) :=
  hT.parallel_query hm fun _ => rfl

theorem alongside_call (operation : String) (c : Call) {d₁ d₂ : Draft} (hd : d₁.Like d₂)
    (hw : T w₁ w₂) :
    Alongside T Agree (Draft.call operation c d₁ w₁) (Draft.call operation c d₂ w₂) := by
  have habreast := hT.abreast hw
  have hmeet : T (w₁.meet (.within c.kind)) (w₂.meet (.within c.kind)) := hT.meet hw rfl
  rw [call_eq, call_eq, habreast.fault_eq rfl, habreast.cancelled]
  split
  · exact .error hmeet
  split
  · exact .error hmeet
  -- Both stores are the common tables behind the jobs that wait, and the call does not look at those.
  rw [← Store.behind_tables d₁.store, ← Store.behind_tables d₂.store, Call.perform_behind,
    Call.perform_behind, hd.tables]
  cases c.perform d₂.store.tables with
  | error e => exact .error hmeet
  | ok r => exact .ok ⟨⟨rfl, hd.notes⟩, rfl⟩ hmeet

theorem alongside_carryOut (operation : String) (i : Instruction) {d₁ d₂ : Draft}
    (hd : d₁.Like d₂) (hw : T w₁ w₂) :
    Alongside T Agree (carryOut operation i d₁ w₁) (carryOut operation i d₂ w₂) := by
  cases i with
  | call c => exact hT.alongside_call operation c hd hw
  | fail e => exact .error hw
  | remember note => exact .ok ⟨⟨hd.tables, congrArg (note :: ·) hd.notes⟩, rfl⟩ hw
  | known scene =>
    show Alongside T Agree (known operation scene d₁ w₁) (known operation scene d₂ w₂)
    cases h : d₂.notes.find? scene with
    | some note =>
      rw [known_of_note h, known_of_note (hd.notes ▸ h)]
      exact .ok ⟨hd, rfl⟩ hw
    | none =>
      rw [known_of_no_note h, known_of_no_note (hd.notes ▸ h)]
      refine (hT.alongside_call operation (.scene scene) hd hw).bind fun r₁ r₂ w₁ w₂ hr hw => ?_
      refine .ok ⟨⟨hr.tables, ?_⟩, congrArg Scene.note hr.answer⟩ hw
      exact congrArg₂ List.cons (congrArg Scene.note hr.answer) hr.notes

theorem alongside_interpret (operation : String) (body : Work α) {d₁ d₂ : Draft}
    (hd : d₁.Like d₂) (hw : T w₁ w₂) :
    Alongside T Agree (body.interpret (carryOut operation) d₁ w₁)
      (body.interpret (carryOut operation) d₂ w₂) := by
  induction body generalizing d₁ d₂ w₁ w₂ with
  | done a => exact .ok ⟨hd, rfl⟩ hw
  | step i next ih =>
    refine (hT.alongside_carryOut operation i hd hw).bind fun r₁ r₂ w₁ w₂ hr hw => ?_
    obtain ⟨answer, d₁⟩ := r₁
    obtain ⟨_, d₂⟩ := r₂
    obtain ⟨hlike, rfl⟩ := hr
    exact ih answer hlike hw

theorem alongside_drafting (operation : String) (body : Work α) (hw : T w₁ w₂) :
    Alongside T Agree (drafting operation body w₁) (drafting operation body w₂) := by
  refine (hT.parallel_checkpoint operation w₁ w₂ hw).bind fun _ _ w₁ w₂ _ hw => ?_
  have hlike : Like { store := w₁.store } { store := w₂.store } := ⟨(hT.abreast hw).tables, rfl⟩
  show Alongside T Agree
    ((Draft.run operation body w₁.store >>= fun r => checkpoint operation >>= fun _ => pure r) w₁)
    ((Draft.run operation body w₂.store >>= fun r => checkpoint operation >>= fun _ => pure r) w₂)
  refine (hT.alongside_interpret operation body hlike hw).bind fun r₁ r₂ w₁ w₂ hr hw => ?_
  exact (hT.parallel_checkpoint operation w₁ w₂ hw).bind fun _ _ _ _ _ hw => .ok hr hw

end Pairing

end SceneWorkflow
