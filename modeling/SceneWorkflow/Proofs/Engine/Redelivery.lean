import SceneWorkflow.Proofs.Engine.Requests
import SceneWorkflow.Proofs.UnitOfWork.Calm
import SceneWorkflow.Proofs.Work.Waiting

/-!
# Redelivery

A result that is handled leaves everything as it was, or has the effect that it would
have undisturbed. So the consumer may try again as often as it is told to: as long as
no result fails that often, what it comes to is what each result comes to once.
-/
namespace SceneWorkflow
open Store Operation

def WorkerResult.body (r : WorkerResult) : Work Bool :=
  Cascade.change r.kind r.id r.status (some r.message) false

structure Handling (σ : Type) where
  result : WorkerResult
  world : World σ

theorem Commits.tables {σ : Type} [Sink σ] {w w' : World σ} {committed : Store}
    (h : Commits w committed w') : w'.store.tables = committed.tables := by
  obtain ⟨rest, -, hstore⟩ := h.left
  rw [hstore]
  rfl

namespace Handling
variable {σ τ : Type} [Sink σ] [Sink τ]

def answer (x : Handling σ) : Except Error Bool := (handleResult x.result x.world).1

def after (x : Handling σ) : World σ := (handleResult x.result x.world).2

def isTransient (x : Handling σ) : Bool :=
  match x.answer with
  | .ok _ => false
  | .error e => e.isRetryable

def jobs (x : Handling σ) : List QueuedJob :=
  match x.answer with
  | .ok _ => x.result.body.jobs x.world.store
  | .error _ => []

variable {x : Handling σ} {y : Handling τ} {P : Option Fault → Prop}

theorem exists_error_of_isTransient (h : x.isTransient = true) :
    ∃ e, x.answer = .error e ∧ e.isRetryable = true := by
  unfold isTransient at h
  cases hanswer : x.answer with
  | ok a =>
    rw [hanswer] at h
    cases h
  | error e =>
    rw [hanswer] at h
    exact ⟨e, rfl, h⟩

theorem jobs_of_isTransient (h : x.isTransient = true) : x.jobs = [] := by
  obtain ⟨e, he, -⟩ := exists_error_of_isTransient h
  rw [jobs, he]

theorem meets_after (hP : ¬ P (some .cancel)) (h : x.world.Meets P) : x.after.Meets P :=
  StaysMeeting.within_updateStatus hP x.result.kind x.result.id x.result.status
    (some x.result.message) false x.world h

theorem attainable_after (h : Attainable x.world.store) : Attainable x.after.store :=
  h.run (.command (.handleResult x.result)) x.world

/-- If nothing cancels it, a result is answered as its body answers, or a call is refused. -/
theorem answer_of_meets (hP : ¬ P (some .cancel)) (h : x.world.Meets P) :
    RefusedOr P x.answer ((x.result.body.exec x.world.store).map fun r => r.1) :=
  updateStatus_of_meets hP h

/-- What does not fail for reasons that may pass is answered as it would be undisturbed. -/
theorem answer_of_settled (hw : x.world.Uncancelled) (h : x.isTransient = false) :
    x.answer = (x.result.body.exec x.world.store).map fun r => r.1 := by
  rcases answer_of_meets (fun hnot => hnot rfl) hw with hanswer | ⟨-, m, hrefused⟩
  · exact hanswer
  · rw [isTransient, hrefused] at h
    cases h

theorem answer_of_calm (hw : x.world.Calm) :
    x.answer = (x.result.body.exec x.world.store).map fun r => r.1 :=
  (answer_of_meets nofun hw.meets).eq

theorem after_of_error (h : Attainable x.world.store) {e : Error} (he : x.answer = .error e) :
    x.after.store = x.world.store ∧ x.after.sink = x.world.sink :=
  (h.all_or_nothing (.handleResult x.result)).nothing e he

/-- What is committed are the jobs that the body queues, behind those that waited. -/
theorem commits_of_ok (h : Attainable x.world.store) {a : Bool} (hok : x.answer = .ok a) :
    ∃ s, x.result.body.exec x.world.store = .ok (a, s) ∧ Commits x.world s x.after ∧
      s.outbox = x.world.store.outbox ++ x.jobs := by
  obtain ⟨s, hexec, hcommits⟩ := updateStatus_commits h.queued hok
  refine ⟨s, hexec, hcommits, ?_⟩
  rw [jobs, hok]
  exact Work.outbox_of_exec hexec

/-- The same answer on stores that differ in nothing but the jobs that wait has the same effect. -/
theorem same_effect (hx : Attainable x.world.store) (hy : Attainable y.world.store)
    (hresult : y.result = x.result) (htables : y.world.store.tables = x.world.store.tables)
    (hanswer : y.answer = x.answer) :
    y.jobs = x.jobs ∧ y.after.store.tables = x.after.store.tables := by
  cases hok : x.answer with
  | error e =>
    rw [hok] at hanswer
    refine ⟨by rw [jobs, hanswer, jobs, hok], ?_⟩
    rw [(after_of_error hy hanswer).1, (after_of_error hx hok).1, htables]
  | ok a =>
    rw [hok] at hanswer
    obtain ⟨s, hexec, hcommits, -⟩ := commits_of_ok hx hok
    obtain ⟨t, hexec', hcommits', -⟩ := commits_of_ok hy hanswer
    obtain ⟨t', hexec'', heffect, hjobs⟩ := Work.exec_of_tables hexec htables
    rw [hresult, hexec''] at hexec'
    cases hexec'
    refine ⟨?_, ?_⟩
    · rw [jobs, hanswer, jobs, hok, hresult]
      exact hjobs
    · rw [hcommits'.tables, hcommits.tables, heffect]

/-- It changes nothing and announces nothing, or commits its jobs behind those that waited. -/
structure Atomic (x : Handling σ) : Prop where
  nothing : ∀ e, x.answer = .error e →
    x.after.store = x.world.store ∧ x.after.sink = x.world.sink ∧ x.jobs = []
  all : ∀ a, x.answer = .ok a → ∃ committed, Commits x.world committed x.after ∧
    committed.outbox = x.world.store.outbox ++ x.jobs

theorem atomic (h : Attainable x.world.store) : x.Atomic where
  nothing := by
    intro e he
    obtain ⟨hstore, hsink⟩ := after_of_error h he
    refine ⟨hstore, hsink, ?_⟩
    rw [jobs, he]
  all := by
    intro a hok
    obtain ⟨committed, -, hcommits, hout⟩ := commits_of_ok h hok
    exact ⟨committed, hcommits, hout⟩

/-- Handlings that come one after the other, with nothing between them, lead from one world to
another. -/
def Leads : World σ → List (Handling σ) → World σ → Prop
  | w, [], w' => w' = w
  | w, x :: xs, w' => x.world = w ∧ Leads x.after xs w'

theorem Leads.append {w₁ w₂ w₃ : World σ} {xs ys : List (Handling σ)} (hx : Leads w₁ xs w₂)
    (hy : Leads w₂ ys w₃) : Leads w₁ (xs ++ ys) w₃ := by
  induction xs generalizing w₁ with
  | nil =>
    cases hx
    exact hy
  | cons x xs ih => exact ⟨hx.1, ih hx.2⟩

/-- All that happens between two worlds is that results are handled. -/
structure History (w : World σ) (xs : List (Handling σ)) (w' : World σ) : Prop where
  leads : Leads w xs w'
  atomic : ∀ x ∈ xs, x.Atomic

theorem Leads.history {w w' : World σ} {xs : List (Handling σ)} (h : Leads w xs w')
    (hattain : Attainable w.store) : History w xs w' := by
  refine ⟨h, ?_⟩
  induction xs generalizing w with
  | nil => exact fun _ hx => absurd hx List.not_mem_nil
  | cons x xs ih =>
    obtain ⟨rfl, hrest⟩ := h
    exact List.forall_mem_cons.2 ⟨Handling.atomic hattain, ih hrest (attainable_after hattain)⟩

def effect (x : Handling σ) : WorkerResult × Except Error Bool × List QueuedJob :=
  (x.result, x.answer, x.jobs)

end Handling

/-! ### Attempts -/

namespace Consumer
open Operation
variable {σ τ : Type} [Sink σ] [Sink τ]

/-- How a result is handled until it is settled, at most so many times. -/
def attempts (r : WorkerResult) : Nat → World σ → List (Handling σ)
  | 0, _ => []
  | limit + 1, w =>
    let x : Handling σ := ⟨r, w⟩
    x :: if x.isTransient then attempts r limit x.after else []

/-- How results are handled one after the other, each with all attempts at it. -/
def deliveries (maxRedeliveries : Nat) : List WorkerResult → World σ → List (List (Handling σ))
  | [], _ => []
  | r :: rest, w =>
    if w.cancelled then []
    else
      attempts r (max 1 maxRedeliveries) w ::
        deliveries maxRedeliveries rest (deliver r (max 1 maxRedeliveries) w).2

def once : List WorkerResult → World σ → List (Handling σ)
  | [], _ => []
  | r :: rest, w =>
    let x : Handling σ := ⟨r, w⟩
    x :: once rest x.after

def handleAll (results : List WorkerResult) (w : World σ) : World σ :=
  results.foldl (fun w r => (handleResult r w).2) w

/-- A limited number of attempts at a result, all but the last of which have failed for reasons that
may pass. -/
structure Limited (limit : Nat) (r : WorkerResult) (xs : List (Handling σ)) : Prop where
  nonempty : xs ≠ []
  result_eq : ∀ x ∈ xs, x.result = r
  length_le : xs.length ≤ limit
  early : ∀ x ∈ xs.dropLast, x.isTransient = true

/-- The last attempt has not failed for reasons that may pass. -/
def Settled (xs : List (Handling σ)) : Prop := ∃ x, xs.getLast? = some x ∧ x.isTransient = false

def conclusive (xs : List (Handling σ)) : List (Handling σ) := xs.filter fun x => !x.isTransient

theorem deliver_succ (r : WorkerResult) (limit : Nat) (w : World σ) :
    deliver r (limit + 1) w =
      if (⟨r, w⟩ : Handling σ).isTransient then deliver r limit (⟨r, w⟩ : Handling σ).after
      else (.ok (), (⟨r, w⟩ : Handling σ).after) := by
  rw [deliver, attempt_bind]
  unfold Handling.isTransient Handling.answer
  cases (handleResult r w).1 with
  | ok a => rfl
  | error e =>
    show (if e.isRetryable = true then deliver r limit else pure ()) _ = _
    split <;> rfl

theorem deliver_ok (r : WorkerResult) (limit : Nat) (w : World σ) :
    (deliver r limit w).1 = .ok () := by
  induction limit generalizing w with
  | zero => rfl
  | succ limit ih =>
    rw [deliver_succ]
    split
    · exact ih _
    · rfl

theorem deliverAll_cons (maxRedeliveries : Nat) (r : WorkerResult) (rest : List WorkerResult)
    (w : World σ) :
    deliverAll maxRedeliveries (r :: rest) w =
      if w.cancelled then (.ok (), w)
      else deliverAll maxRedeliveries rest (deliver r (max 1 maxRedeliveries) w).2 := by
  have hbind : deliverAll maxRedeliveries (r :: rest) w =
      (if w.cancelled then pure ()
        else deliver r (max 1 maxRedeliveries) >>= fun _ => deliverAll maxRedeliveries rest) w := rfl
  rw [hbind]
  split
  · rfl
  · rw [bind_of_ok (deliver_ok r _ w)]

theorem deliverAll_ok (maxRedeliveries : Nat) (results : List WorkerResult) (w : World σ) :
    (deliverAll maxRedeliveries results w).1 = .ok () := by
  induction results generalizing w with
  | nil => rfl
  | cons r rest ih =>
    rw [deliverAll_cons]
    split
    · rfl
    · exact ih _

theorem uncancelled_deliver (r : WorkerResult) (limit : Nat) {w : World σ} (hw : w.Uncancelled) :
    (deliver r limit w).2.Uncancelled := by
  induction limit generalizing w with
  | zero => exact hw
  | succ limit ih =>
    have hafter : (⟨r, w⟩ : Handling σ).after.Uncancelled :=
      Handling.meets_after (fun hnot => hnot rfl) hw
    rw [deliver_succ]
    split
    · exact ih hafter
    · exact hafter

/-! ### Nothing but the attempts -/

theorem leads_attempts (r : WorkerResult) (limit : Nat) (w : World σ) :
    Handling.Leads w (attempts r limit w) (deliver r limit w).2 := by
  induction limit generalizing w with
  | zero => rfl
  | succ limit ih =>
    rw [deliver_succ]
    refine ⟨rfl, ?_⟩
    split
    · exact ih _
    · rfl

theorem leads_deliveries (maxRedeliveries : Nat) (results : List WorkerResult) (w : World σ) :
    Handling.Leads w (deliveries maxRedeliveries results w).flatten
      (deliverAll maxRedeliveries results w).2 := by
  induction results generalizing w with
  | nil => rfl
  | cons r rest ih =>
    rw [deliverAll_cons, deliveries]
    split
    · rfl
    · exact (leads_attempts r _ w).append (ih _)

theorem leads_once (results : List WorkerResult) (w : World σ) :
    Handling.Leads w (once results w) (handleAll results w) := by
  induction results generalizing w with
  | nil => rfl
  | cons r rest ih => exact ⟨rfl, ih _⟩

/-- When all results are in, nothing changes but which jobs wait. -/
theorem tables_run (maxRedeliveries : Nat) (results : List WorkerResult) (isOpen : World σ → Bool)
    (patience : Nat) (w : World σ) :
    (run maxRedeliveries results isOpen patience w).2.store.tables =
      (deliverAll maxRedeliveries results w).2.store.tables := by
  have hrun : run maxRedeliveries results isOpen patience =
      deliverAll (σ := σ) maxRedeliveries results >>= fun _ =>
        idle isOpen patience >>= fun _ => tolerate flushOutbox := rfl
  rw [hrun, bind_of_ok (deliverAll_ok maxRedeliveries results w)]
  generalize (deliverAll maxRedeliveries results w).2 = w'
  have hkept := passage_kept (σ := σ) fun s => s.tables = w'.store.tables
  refine hkept.within_relays (fun w h => ?_) isOpen patience w' rfl
  exact Outbox.kept_flush (I := fun s => s.tables = w'.store.tables) (fun _ _ h => h) w.batchSize w h

/-! ### Results that are settled -/

theorem limited_attempts (r : WorkerResult) (limit : Nat) (w : World σ) :
    Limited (limit + 1) r (attempts r (limit + 1) w) := by
  induction limit generalizing w with
  | zero =>
    have hone : attempts r 1 w = [⟨r, w⟩] := by
      rw [attempts, attempts, ite_self]
    rw [hone]
    exact ⟨List.cons_ne_nil _ _, by simp, Nat.le_refl 1, fun _ hx => absurd hx List.not_mem_nil⟩
  | succ limit ih =>
    rw [attempts]
    cases htransient : (⟨r, w⟩ : Handling σ).isTransient with
    | false =>
      simp only [Bool.false_eq_true, if_false]
      exact ⟨List.cons_ne_nil _ _, by simp, Nat.le_add_left 1 _,
        fun _ hx => absurd hx List.not_mem_nil⟩
    | true =>
      simp only [if_true]
      obtain ⟨hne, hresult, hlength, hearly⟩ := ih (⟨r, w⟩ : Handling σ).after
      refine ⟨List.cons_ne_nil _ _, List.forall_mem_cons.2 ⟨rfl, hresult⟩,
        Nat.succ_le_succ hlength, ?_⟩
      rw [List.dropLast_cons_of_ne_nil hne]
      exact List.forall_mem_cons.2 ⟨htransient, hearly⟩

theorem limited_deliveries (maxRedeliveries : Nat) (results : List WorkerResult) {w : World σ}
    (hw : w.Uncancelled) :
    List.Forall₂ (Limited (max 1 maxRedeliveries)) results
      (deliveries maxRedeliveries results w) := by
  obtain ⟨limit, hlimit⟩ : ∃ limit, max 1 maxRedeliveries = limit + 1 :=
    ⟨maxRedeliveries - 1, by omega⟩
  induction results generalizing w with
  | nil => exact .nil
  | cons r rest ih =>
    rw [deliveries, if_neg (by rw [hw.1]; exact Bool.false_ne_true)]
    refine .cons ?_ (ih (uncancelled_deliver r _ hw))
    rw [hlimit]
    exact limited_attempts r limit w

/-- A result that fails less often than it may be handled is settled in the world it is delivered to. -/
theorem settled_attempts {r : WorkerResult} {limit : Nat} {w : World σ} (h : Attainable w.store)
    (hw : w.Uncancelled) (hfew : (attempts r limit w).countP Handling.isTransient < limit) :
    ∃ x, (attempts r limit w).getLast? = some x ∧ x.isTransient = false ∧
      conclusive (attempts r limit w) = [x] ∧ x.result = r ∧ x.world.store = w.store ∧
      x.world.Uncancelled ∧ (deliver r limit w).2 = x.after := by
  induction limit generalizing w with
  | zero => exact absurd hfew (Nat.not_lt_zero _)
  | succ limit ih =>
    rw [deliver_succ]
    unfold attempts at hfew ⊢
    cases htransient : (⟨r, w⟩ : Handling σ).isTransient with
    | false =>
      simp only [htransient, Bool.false_eq_true, if_false]
      refine ⟨⟨r, w⟩, rfl, htransient, ?_, rfl, rfl, hw, rfl⟩
      simp [conclusive, htransient]
    | true =>
      simp only [htransient, if_true] at hfew ⊢
      rw [List.countP_cons_of_pos htransient] at hfew
      obtain ⟨e, he, -⟩ := Handling.exists_error_of_isTransient htransient
      have hstore := (Handling.after_of_error h he).1
      have hattain : Attainable (⟨r, w⟩ : Handling σ).after.store := Handling.attainable_after h
      have hmeets : (⟨r, w⟩ : Handling σ).after.Uncancelled :=
        Handling.meets_after (fun hnot => hnot rfl) hw
      obtain ⟨x, hlast, hdone, hx, hresult, hsame, hrest⟩ := ih hattain hmeets (by omega)
      refine ⟨x, ?_, hdone, ?_, hresult, hsame.trans hstore, hrest⟩
      · rw [List.getLast?_cons, hlast]
        rfl
      · rw [conclusive, List.filter_cons_of_neg (by simp [htransient])]
        exact hx

/-- If no result fails as often as it may be handled, all are settled. What settles them comes to what
it comes to if each result is handled once and nothing disturbs it. -/
theorem settled_deliveries {maxRedeliveries : Nat} {results : List WorkerResult} {w : World σ}
    {w₀ : World τ} (h : Attainable w.store) (h₀ : Attainable w₀.store) (hw : w.Uncancelled)
    (hw₀ : w₀.Calm) (htables : w₀.store.tables = w.store.tables)
    (hfew : ∀ xs ∈ deliveries maxRedeliveries results w,
      xs.countP Handling.isTransient < max 1 maxRedeliveries) :
    (∀ xs ∈ deliveries maxRedeliveries results w, Settled xs) ∧
    (conclusive (deliveries maxRedeliveries results w).flatten).map Handling.effect =
      (once results w₀).map Handling.effect ∧
    (deliverAll maxRedeliveries results w).2.store.tables =
      (handleAll results w₀).store.tables := by
  induction results generalizing w w₀ with
  | nil => exact ⟨fun _ hxs => absurd hxs List.not_mem_nil, rfl, htables.symm⟩
  | cons r rest ih =>
    have hcancelled : ¬ w.cancelled = true := by rw [hw.1]; exact Bool.false_ne_true
    rw [deliverAll_cons, if_neg hcancelled]
    rw [deliveries, if_neg hcancelled] at hfew ⊢
    rw [List.forall_mem_cons] at hfew
    obtain ⟨x, hlast, hdone, hx, hresult, hsame, hmeets, hafter⟩ := settled_attempts h hw hfew.1
    -- The attempt that counts is made on the store in which the result was received.
    let y : Handling τ := ⟨r, w₀⟩
    rw [← hsame] at h htables
    have hanswer : y.answer = x.answer := by
      rw [Handling.answer_of_calm (x := y) hw₀, Handling.answer_of_settled hmeets hdone, hresult]
      exact r.body.map_exec_of_tables htables
    obtain ⟨hjobs, hrest⟩ := Handling.same_effect (y := y) h h₀ hresult.symm htables hanswer
    rw [hafter] at hfew ⊢
    obtain ⟨hall, heffects, hend⟩ := ih (Handling.attainable_after h)
      (Handling.attainable_after (x := y) h₀) (Handling.meets_after (fun hnot => hnot rfl) hmeets)
      (Handling.meets_after (x := y) nofun hw₀.meets).calm hrest hfew.2
    refine ⟨List.forall_mem_cons.2 ⟨⟨x, hlast, hdone⟩, hall⟩, ?_, hend⟩
    have heffect : x.effect = y.effect := by
      rw [Handling.effect, Handling.effect, hresult, ← hanswer, ← hjobs]
    rw [conclusive] at hx
    rw [conclusive, List.flatten_cons, List.filter_append, hx, List.map_append]
    exact congrArg₂ List.cons heffect heffects

theorem flatMap_jobs_conclusive (xs : List (Handling σ)) :
    (conclusive xs).flatMap Handling.jobs = xs.flatMap Handling.jobs := by
  induction xs with
  | nil => rfl
  | cons x xs ih =>
    rw [conclusive, List.flatMap_cons, ← ih]
    cases hx : x.isTransient with
    | true =>
      rw [Handling.jobs_of_isTransient hx, List.filter_cons_of_neg (by simp [hx])]
      rfl
    | false =>
      rw [List.filter_cons_of_pos (by simp [hx])]
      rfl

end Consumer

open Consumer

/-- In every store that comes about, forced or not, the consumer may redeliver. No result is handled
more often than it may be, and only the last attempt at it may have an effect. If no result fails as
often as it may be handled, the consumer comes to what each result comes to once, undisturbed. -/
theorem Attainable.redelivers {σ : Type} [Sink σ] {w : World σ} (h : Attainable w.store)
    (hw : w.Uncancelled) (maxRedeliveries : Nat) (results : List WorkerResult) :
    Handling.History w (deliveries maxRedeliveries results w).flatten
      (deliverAll maxRedeliveries results w).2 ∧
    List.Forall₂ (Limited (max 1 maxRedeliveries)) results
      (deliveries maxRedeliveries results w) ∧
    ((∀ xs ∈ deliveries maxRedeliveries results w,
        xs.countP Handling.isTransient < max 1 maxRedeliveries) →
      (∀ xs ∈ deliveries maxRedeliveries results w, Settled xs) ∧
      ∀ (τ : Type) [Sink τ] (w₀ : World τ), w₀.Calm → w₀.store = w.store →
        Handling.History w₀ (once results w₀) (handleAll results w₀) ∧
        (conclusive (deliveries maxRedeliveries results w).flatten).map Handling.effect =
          (once results w₀).map Handling.effect ∧
        (deliveries maxRedeliveries results w).flatten.flatMap Handling.jobs =
          (once results w₀).flatMap Handling.jobs ∧
        ∀ isOpen patience, (Consumer.run maxRedeliveries results isOpen patience w).2.store.tables =
          (handleAll results w₀).store.tables) := by
  refine ⟨(leads_deliveries _ _ w).history h, limited_deliveries _ results hw, fun hfew => ?_⟩
  let still : World Recorder := { store := w.store, sink := {} }
  have hstill : Attainable still.store := h
  have hcalm : still.Calm := World.calm_of_isEmpty rfl rfl
  refine ⟨(settled_deliveries h hstill hw hcalm rfl hfew).1, ?_⟩
  intro τ _ w₀ hw₀ hstore
  have h₀ : Attainable w₀.store := hstore ▸ h
  obtain ⟨-, heffects, htables⟩ :=
    settled_deliveries h h₀ hw hw₀ (congrArg Store.tables hstore) hfew
  refine ⟨(leads_once _ w₀).history h₀, heffects, ?_, fun isOpen patience => ?_⟩
  · have hjobs := congrArg (List.flatMap fun e => e.2.2) heffects
    rw [List.flatMap_map, List.flatMap_map] at hjobs
    exact (flatMap_jobs_conclusive _).symm.trans hjobs
  · exact (tables_run _ _ isOpen patience w).trans htables

/-- Of two tiles in a row the first is worked on, and may be tried again once. -/
def ongoing : World Recorder :=
  World.after { sink := {} }
    [.createAoi "north",
      .ingestScene "north" { SceneRequest.ofTiles "north" "s1"
        [("a", {}), ("b", { previous := some ⟨"s1", "a"⟩ })] with budget := 1 },
      .updateStatus .scene 1 .done none false]

/-- The next commit is refused, and so is the next batch. -/
def beset : World Recorder :=
  { ongoing with faults := [(.commit, [(1, some .refuse)])], sink := { plan := [(1, false)] } }

/-- What workers report of the first tile, and of one that is not there. -/
def reports : List WorkerResult :=
  [⟨.tile, 1, .retry, "again"⟩, ⟨.tile, 3, .done, "done"⟩, ⟨.tile, 1, .done, "done"⟩]

/-- The first report is handled twice and uses up the budget once. The second fails for good. -/
theorem redelivers_beset :
    Attainable beset.store ∧ beset.Uncancelled ∧
      (∀ xs ∈ deliveries 2 reports beset, xs.countP Handling.isTransient < max 1 2) ∧
      (deliveries 2 reports beset).map List.length = [2, 1, 1] ∧
      List.Forall₂ (Limited (max 1 2)) reports (deliveries 2 reports beset) ∧
      (∀ xs ∈ deliveries 2 reports beset, Settled xs) ∧
      ∀ isOpen patience, (Consumer.run 2 reports isOpen patience beset).2.store.tables =
        (handleAll reports ongoing).store.tables := by
  have hongoing : Attainable ongoing.store := Attainable.empty.after _
  have hstore : ongoing.store = beset.store := by dsimp only [beset]
  have hattain : Attainable beset.store := hstore ▸ hongoing
  have huncancelled : beset.Uncancelled :=
    World.uncancelled_of_forall (by decide +kernel) (by decide +kernel)
  have hcalm : ongoing.Calm := World.calm_of_isEmpty (by decide +kernel) (by decide +kernel)
  have hfew : ∀ xs ∈ deliveries 2 reports beset, xs.countP Handling.isTransient < max 1 2 := by
    decide +kernel
  have hlength : (deliveries 2 reports beset).map List.length = [2, 1, 1] := by decide +kernel
  obtain ⟨-, hlimited, hrest⟩ := Attainable.redelivers hattain huncancelled 2 reports
  obtain ⟨hsettled, hsame⟩ := hrest hfew
  obtain ⟨-, -, -, htables⟩ := hsame Recorder ongoing hcalm hstore
  exact ⟨hattain, huncancelled, hfew, hlength, hlimited, hsettled, htables⟩

end SceneWorkflow
