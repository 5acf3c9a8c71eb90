import SceneWorkflow.Proofs.UnitOfWork.Disturbance

/-!
# Passages between worlds

How the world after an operation is related to the one before. What holds when
neither the store nor the sink changes, and of steps taken one after the other, is
a passage. It is established step by step, whether the steps succeed or not.
-/
namespace SceneWorkflow
variable {σ : Type}

/-- A relation between worlds that holds if nothing changes, and of what is done step by step. -/
structure Transit (R : World σ → World σ → Prop) : Prop where
  refl : ∀ w, R w w
  trans : ∀ {w₁ w₂ w₃}, R w₁ w₂ → R w₂ w₃ → R w₁ w₃

/-- A relation between worlds that holds if neither the store nor the sink changes, and of what is
done step by step. -/
structure Passage (R : World σ → World σ → Prop) : Prop where
  still : ∀ {w w'}, w'.store = w.store → w'.sink = w.sink → R w w'
  trans : ∀ {w₁ w₂ w₃}, R w₁ w₂ → R w₂ w₃ → R w₁ w₃

def Kept (I : Store → Prop) (w w' : World σ) : Prop := I w.store → I w'.store

theorem passage_kept (I : Store → Prop) : Passage (Kept (σ := σ) I) where
  still := by
    intro w w' hstore _ h
    rwa [hstore]
  trans := fun h₁ h₂ h => h₂ (h₁ h)

namespace Operation

/-- However the operation ends, the world after it is so related to the one before. -/
def Within {α : Type} (x : Operation σ α) (R : World σ → World σ → Prop) : Prop := ∀ w, R w (x w).2

end Operation

namespace Transit
open Operation
variable {α β : Type} {R : World σ → World σ → Prop} (hR : Transit R)
include hR

/-- What follows an operation counts only if the operation has succeeded. -/
theorem relates_bind {x : Operation σ α} {f : α → Operation σ β} {w : World σ} (hx : R w (x w).2)
    (hf : ∀ a, (x w).1 = .ok a → R (x w).2 (f a (x w).2).2) : R w ((x >>= f) w).2 := by
  cases h : (x w).1 with
  | error e =>
    rw [bind_of_error h]
    exact hx
  | ok a =>
    rw [bind_of_ok h]
    exact hR.trans hx (hf a h)

theorem within_bind {x : Operation σ α} {f : α → Operation σ β} (hx : x.Within R)
    (hf : ∀ a, (f a).Within R) : (x >>= f).Within R :=
  fun w => hR.relates_bind (hx w) fun a _ => hf a _

theorem within_forM {f : α → Operation σ PUnit} (hf : ∀ a, (f a).Within R) (as : List α) :
    (as.forM f).Within R := by
  induction as with
  | nil => exact hR.refl
  | cons a as ih => exact hR.within_bind (hf a) fun _ => ih

end Transit

namespace Passage
open Operation
variable {α β : Type} {R : World σ → World σ → Prop} (hR : Passage R)
include hR

theorem transit : Transit R where
  refl := fun _ => hR.still rfl rfl
  trans := hR.trans

theorem refl (w : World σ) : R w w := hR.still rfl rfl

theorem within_pure (a : α) : (pure a : Operation σ α).Within R := hR.refl

theorem within_throw (e : Error) : (throw e : Operation σ α).Within R := hR.refl

theorem within_get : (get : Operation σ (World σ)).Within R := hR.refl

theorem within_give (result : Except Error α) : (give result : Operation σ α).Within R := hR.refl

theorem within_query {m : Method} {f : Store → Except Error α} :
    (query (σ := σ) m f).Within R :=
  fun _ => hR.still follows_query.store follows_query.sink

theorem relates_bind {x : Operation σ α} {f : α → Operation σ β} {w : World σ} (hx : R w (x w).2)
    (hf : ∀ a, (x w).1 = .ok a → R (x w).2 (f a (x w).2).2) : R w ((x >>= f) w).2 :=
  hR.transit.relates_bind hx hf

theorem within_bind {x : Operation σ α} {f : α → Operation σ β} (hx : x.Within R)
    (hf : ∀ a, (f a).Within R) : (x >>= f).Within R :=
  hR.transit.within_bind hx hf

theorem within_forM {f : α → Operation σ PUnit} (hf : ∀ a, (f a).Within R) (as : List α) :
    (as.forM f).Within R :=
  hR.transit.within_forM hf as

end Passage

namespace Operation
variable {α : Type} {R : World σ → World σ → Prop} {x : Operation σ α}

theorem Within.attempt (hx : x.Within R) : (attempt x).Within R := hx

theorem Within.tolerate (hx : x.Within R) : (tolerate x).Within R := hx

/-- A method of the store fails and leaves the store alone, or has its effect. The sink is out of
its reach. -/
theorem invoke_cases (m : Method) (f : Store → Except Error (α × Store)) (w : World σ) :
    (invoke m f w).2.sink = w.sink ∧
      ((∃ e, (invoke m f w).1 = .error e ∧ (invoke m f w).2.store = w.store) ∨
        ∃ a, (invoke m f w).1 = .ok a ∧ f w.store = .ok (a, (invoke m f w).2.store)) := by
  refine ⟨sink_invoke w, ?_⟩
  unfold invoke
  dsimp only
  split
  · exact .inl ⟨_, rfl, rfl⟩
  · cases h : f w.store with
    | error e => exact .inl ⟨e, rfl, rfl⟩
    | ok r => exact .inr ⟨r.1, rfl, rfl⟩

end Operation

end SceneWorkflow
