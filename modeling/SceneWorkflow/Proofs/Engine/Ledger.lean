import SceneWorkflow.Proofs.Engine.Interleavings
import SceneWorkflow.Proofs.Engine.Journals
import SceneWorkflow.Proofs.Engine.Redelivery

/-!
# The ledger of budgets

The budget of a scene or tile is what it was taken up with, less one for each time that
it has been handed out again on account of it. So that happens at most as often as the
budget says, and the time after that the scene or tile is parked, whatever is done to
others in between.
-/
namespace SceneWorkflow
open Store

/-! ### Accounts -/

def charges (kind : EntityKind) (id : Int) (es : List Entry) : Nat :=
  es.countP fun e => e.Charges kind id

section
variable {kind : EntityKind} {id : Int} {es : List Entry} {e : Entry} {s : Store} {budget : Int32}

theorem charges_concat : charges kind id (es ++ [e]) =
    charges kind id es + if e.Charges kind id then 1 else 0 := by
  rw [charges, List.countP_append, List.countP_singleton]
  simp only [decide_eq_true_eq]
  rfl

/-- A scene or tile that is not there has neither been taken up nor charged. -/
structure Unaccounted (kind : EntityKind) (id : Int) (es : List Entry) (s : Store) : Prop where
  absent : s.entityBudget? kind id = none
  untaken : ∀ e ∈ es, ∀ budget, ¬ e.Ingests kind id budget
  uncharged : charges kind id es = 0

/-- The account of a scene or tile that has been taken up with a budget. -/
structure Balanced (kind : EntityKind) (id : Int) (budget : Int32) (es : List Entry) (s : Store) :
    Prop where
  taken : ∃ e ∈ es, e.Ingests kind id budget
  once : ∀ e ∈ es, ∀ other, e.Ingests kind id other → other = budget
  balance : s.entityBudget? kind id = some (budget.toInt - charges kind id es)
  covered : charges kind id es ≤ max budget.toInt 0

def Accounted (kind : EntityKind) (id : Int) (es : List Entry) (s : Store) : Prop :=
  Unaccounted kind id es s ∨ ∃ budget, Balanced kind id budget es s

/-- Jobs and areas do not concern the account. -/
theorem Accounted.of_sameRows {s' : Store} (h : Accounted kind id es s) (hsame : SameRows s s') :
    Accounted kind id es s' := by
  have hbudget := hsame.entityBudget? kind id
  rcases h with hnone | ⟨budget, hbalanced⟩
  · exact .inl { hnone with absent := hbudget.trans hnone.absent }
  · exact .inr ⟨budget, { hbalanced with balance := hbudget.trans hbalanced.balance }⟩

/-- What is not there stays away, or is taken up. -/
theorem Unaccounted.entry (h : Unaccounted kind id es e.before) (hf : Forest e.before)
    (hn : e.before.Named) : Accounted kind id (es ++ [e]) e.after := by
  have hfree : ¬ e.Charges kind id := by
    rintro ⟨-, -, n, hn, -⟩
    cases h.absent.symm.trans hn
  have hcount : charges kind id (es ++ [e]) = 0 := by
    rw [charges_concat, h.uncharged, if_neg hfree]
  rcases Entry.entityBudget?_of_none hf hn h.absent with hnone | ⟨budget, hingests, hbudget⟩
  · refine .inl ⟨hnone, fun d hd budget hingests => ?_, hcount⟩
    rcases List.mem_append.1 hd with hd | hd
    · exact h.untaken d hd budget hingests
    · obtain rfl := List.mem_singleton.1 hd
      have hpresent := hingests.present
      rw [entityBudget?_eq_none.1 hnone] at hpresent
      cases hpresent
  · refine .inr ⟨budget, ⟨e, List.mem_append_right _ List.mem_cons_self, hingests⟩, ?_, ?_, ?_⟩
    · intro d hd other hother
      rcases List.mem_append.1 hd with hd | hd
      · exact absurd hother (h.untaken d hd other)
      · obtain rfl := List.mem_singleton.1 hd
        obtain ⟨r, htask, rfl⟩ := hingests.request
        obtain ⟨r', htask', rfl⟩ := hother.request
        cases htask.symm.trans htask'
        rfl
    · rw [hbudget, hcount]
      simp
    · rw [hcount]
      exact Int.le_max_right _ _

theorem Balanced.entry (h : Balanced kind id budget es e.before) (hf : Forest e.before)
    (hn : e.before.Named) : Balanced kind id budget (es ++ [e]) e.after := by
  have hafter := Entry.entityBudget?_of_some hf hn h.balance
  refine ⟨?_, ?_, ?_, ?_⟩
  · obtain ⟨d, hd, hingests⟩ := h.taken
    exact ⟨d, List.mem_append_left _ hd, hingests⟩
  · intro d hd other hother
    rcases List.mem_append.1 hd with hd | hd
    · exact h.once d hd other hother
    · obtain rfl := List.mem_singleton.1 hd
      cases (entityBudget?_eq_none.2 hother.absent).symm.trans h.balance
  · rw [hafter, charges_concat]
    congr 1
    split <;> omega
  · have hcovered := h.covered
    rw [charges_concat]
    split
    · next hcharges =>
      -- There was something left to be taken.
      obtain ⟨-, -, n, hn, hpositive⟩ := hcharges
      cases h.balance.symm.trans hn
      omega
    · exact hcovered

/-- What is left of a budget is nowhere out of range. -/
theorem Balanced.left (h : Balanced kind id budget es s) :
    ∃ left : Int32, s.entityBudget? kind id = some left.toInt ∧
      left.toInt = budget.toInt - charges kind id es ∧
      min budget.toInt 0 ≤ left.toInt ∧ left.toInt ≤ budget.toInt := by
  have hcovered := h.covered
  have hleast := budget.le_toInt
  have hmost := budget.toInt_lt
  have hleft : (Int32.ofInt (budget.toInt - charges kind id es)).toInt =
      budget.toInt - charges kind id es := by
    apply Int32.toInt_ofInt_of_le <;> omega
  refine ⟨_, ?_, hleft, ?_, ?_⟩
  · rw [hleft]
    exact h.balance
  · rw [hleft]
    omega
  · rw [hleft]
    omega

/-- At every point of a journal, the accounts of all that is there are balanced. -/
theorem Journal.accounted (h : Journal {} es s) (kind : EntityKind) (id : Int) :
    Accounted kind id es s := by
  induction h with
  | start =>
    refine .inl ⟨?_, List.forall_mem_nil _, rfl⟩
    cases kind <;> rfl
  | creation _ hok ih => exact ih.of_sameRows (sameRows_createAoi hok)
  | @relay _ s₁ _ ids ih => exact ih.of_sameRows (sameRows_ackJobs s₁ ids)
  | entry h ih =>
    have hf := h.keeps lasting_forest forest_empty
    have hn := h.keeps lasting_named named_empty
    rcases ih with hnone | ⟨budget, hbalanced⟩
    · exact hnone.entry hf hn
    · exact .inr ⟨budget, hbalanced.entry hf hn⟩

end

/-! ### Results that ask for another try -/

def WorkerResult.again (kind : EntityKind) (id : Int) (message : String) : WorkerResult :=
  ⟨kind, id, .retry, message⟩

/-- A unit of work is about something else than a scene or tile, or asks for it to be handed out again
as sweeps do. -/
def Task.Elsewhere (kind : EntityKind) (id : Int) (task : Task) : Prop :=
  ∀ d, task.demand? = some d → (d.kind, d.id) = (kind, id) → d.status = .pending

theorem Task.elsewhere_change {kind kind' : EntityKind} {id k : Int} {requested : Status}
    {message : Option String} {force : Bool} :
    (Task.change kind' k requested message force).Elsewhere kind id ↔
      ((kind', k) = (kind, id) → requested = .pending) := by
  unfold Elsewhere
  simp only [demand?_change, Option.some.injEq, forall_eq']

/-- A number of results have asked for another try with a scene or tile. In between, anything may have
been done and forced elsewhere. -/
inductive Retried (kind : EntityKind) (id : Int) (s : Store) : Nat → Store → Prop where
  | start : Retried kind id s 0 s
  | aside {σ : Type} [Sink σ] {k : Nat} (x : Activity σ) (w : World σ)
      (hx : x.All (Task.Elsewhere kind id)) (h : Retried kind id s k w.store) :
      Retried kind id s k (x.run w).store
  | result {σ : Type} [Sink σ] {k : Nat} {accepted : Bool} (message : String) (w : World σ)
      (hanswer : (handleResult (.again kind id message) w).1 = .ok accepted)
      (h : Retried kind id s k w.store) :
      Retried kind id s (k + 1) (handleResult (.again kind id message) w).2.store

theorem Retried.after {σ : Type} [Sink σ] {kind : EntityKind} {id : Int} {s : Store} {k : Nat}
    {w : World σ} {cs : List Command} (h : Retried kind id s k w.store)
    (hcs : ∀ c ∈ cs, c.All (Task.Elsewhere kind id)) : Retried kind id s k (w.after cs).store :=
  World.induct_after (I := fun w => Retried kind id s k w.store) h fun c hc w h =>
    .aside (.command c) w (hcs c hc) h

/-- A scene or tile is handed out, with some budget left. -/
structure HandedOut (kind : EntityKind) (id : Int) (budget : Int) (s : Store) : Prop where
  forest : Forest s
  named : s.Named
  status : s.entityStatus? kind id = some .pending
  budget : s.entityBudget? kind id = some budget

section
variable {kind : EntityKind} {id : Int} {e : Entry} {s s' : Store} {budget : Int}

theorem HandedOut.of_sameRows (h : HandedOut kind id budget s) (hsame : SameRows s s') :
    HandedOut kind id budget s' where
  forest := h.forest.of_sameRows hsame
  named := (SameIdentities.of_sameRows hsame).named h.named
  status := (hsame.entityStatus? kind id).trans h.status
  budget := (hsame.entityBudget? kind id).trans h.budget

theorem HandedOut.elsewhere (h : HandedOut kind id budget e.before)
    (htask : e.task.Elsewhere kind id) : HandedOut kind id budget e.after where
  forest := e.task.forest h.forest e.committed
  named := Work.named_of_exec h.named e.committed
  status := by
    cases hd : e.task.demand? with
    | none => exact Task.entityStatus?_of_no_demand hd e.committed h.status
    | some d =>
      obtain ⟨message, hexec⟩ := Task.exec_of_demand hd e.committed
      by_cases hsame : (d.kind, d.id) = (kind, id)
      · have hpending := htask d hd hsame
        obtain ⟨kind', k, requested, force⟩ := d
        cases hsame
        cases hpending
        obtain ⟨present, spent, area, hdecides⟩ := Cascade.decides_change h.forest hexec
        rcases hdecides.effect with
          ⟨-, -, hafter⟩ | ⟨change, hchange, -, s₁, notices, houtcome, hafter⟩
        · rw [hafter]
          exact h.status
        · obtain rfl := Status.eq_requeue_of_pending hchange
          rw [hafter, (sameRows_refreshAoiStatus s₁ area).entityStatus?,
            houtcome.entityStatus?_of_quiet nofun nofun]
          exact entityStatus?_moved (Option.isSome_of_eq_some h.status) _
      · exact Cascade.stays_change h.forest hexec h.status nofun hsame
  budget := by
    have hfree : ¬ e.Charges kind id := by
      rintro ⟨⟨hd, -⟩, -⟩
      cases htask _ hd rfl
    rw [Entry.entityBudget?_of_some h.forest h.named h.budget, if_neg hfree]

end

theorem course_handedOut {σ : Type} [Sink σ] {kind : EntityKind} {id budget : Int} :
    Course (σ := σ) (Task.Elsewhere kind id) (Kept (HandedOut kind id budget)) where
  toPassage := passage_kept _
  creation := fun hok _ h => h.of_sameRows (sameRows_createAoi hok)
  commit := fun htask hok _ h => HandedOut.elsewhere (e := ⟨_, _, _, _, hok⟩) h htask
  relay := Outbox.kept_flush fun s ids h => h.of_sameRows (sameRows_ackJobs s ids)

namespace Cascade
variable {s : Store} {kind : EntityKind} {id : Int} {x : Scene} {t : Tile}

theorem exists_retryScene (hx : s.scene? x.id = some x) (message : Option String) :
    ∃ s', (retryScene x message).exec s = .ok ((), s') := by
  unfold retryScene
  split
  · exact ⟨_, exec_handOutScene_eq hx _⟩
  · exact ⟨_, Work.exec_updateScene hx _⟩

theorem exists_retryTile (h : Forest s) (ht : s.tile? t.id = some t) (message : Option String) :
    ∃ s', (retryTile t message).exec s = .ok ((), s') := by
  unfold retryTile
  split
  · next hpositive =>
    have hl := h.toLegible.setTile (u := { status := .pending, message, consume := true })
      h.toOrdered ht fun _ => hpositive
    exact ⟨_, exec_handOut_eq hl h.toSchema ht rfl⟩
  · exact ⟨_, Work.exec_updateTile ht _⟩

/-- Another try with what is handed out can always be asked for. -/
theorem exec_change_retry (h : Forest s) (hstatus : s.entityStatus? kind id = some .pending)
    (message : Option String) :
    ∃ s', (change kind id .retry message false).exec s = .ok (true, s') := by
  cases kind with
  | scene =>
    obtain ⟨x, hx, hpending⟩ := Option.map_eq_some_iff.1 hstatus
    obtain rfl := scene?_id hx
    obtain ⟨s', hexec⟩ := exists_retryScene hx message
    rw [change, changeScene, Work.exec_bind_ok (Work.exec_scene h.toLegible hx), hpending]
    show ∃ s', (retryScene x message >>= _).exec s = _
    rw [Work.exec_bind_ok hexec]
    exact ⟨_, rfl⟩
  | tile =>
    obtain ⟨t, ht, hpending⟩ := Option.map_eq_some_iff.1 hstatus
    obtain rfl := tile?_id ht
    obtain ⟨x, hx⟩ := Option.isSome_iff_exists.1 (h.scene_exists t (mem_of_tile? ht))
    obtain ⟨s', hexec⟩ := exists_retryTile h ht message
    rw [change, changeTile, Work.exec_bind_ok (Work.exec_tile h.toLegible ht),
      Work.exec_bind_ok (Work.exec_known h.toLegible hx), hpending]
    show ∃ s', (retryTile t message >>= _).exec s = _
    rw [Work.exec_bind_ok hexec]
    exact ⟨_, rfl⟩

end Cascade

section
variable {kind : EntityKind} {id : Int} {e : Entry} {s s' : Store} {budget : Int}

/-- What asks for another try with what is handed out is granted it, or parks it. -/
theorem HandedOut.retry (h : HandedOut kind id budget e.before)
    (hd : e.task.demand? = some ⟨kind, id, .retry, false⟩) :
    e.task.isAccepted e.answer = true ∧
      if 0 < budget then e.HandsOut kind id ∧ HandedOut kind id (budget - 1) e.after
      else e.Parks kind id := by
  have haccepted : e.task.isAccepted e.answer = true := by
    obtain ⟨message, present, spent, area, hdecides⟩ := Entry.decides h.forest hd
    cases hdecides.present_eq.symm.trans h.status
    rcases hdecides.effect with ⟨hnone, -, -⟩ | ⟨-, -, haccepted, -⟩
    · cases hnone
    · exact haccepted
  have hretries := Entry.retries h.forest ⟨hd, haccepted⟩
  have hcharges : e.Charges kind id ↔ 0 < budget := by
    constructor
    · rintro ⟨-, -, n, hn, hpositive⟩
      cases h.budget.symm.trans hn
      exact hpositive
    · exact fun hpositive => ⟨⟨hd, haccepted⟩, h.status, budget, h.budget, hpositive⟩
  refine ⟨haccepted, ?_⟩
  by_cases hpositive : 0 < budget
  · rw [if_pos (hcharges.2 hpositive)] at hretries
    rw [if_pos hpositive]
    refine ⟨hretries, e.task.forest h.forest e.committed, Work.named_of_exec h.named e.committed,
      hretries.status, ?_⟩
    rw [Entry.entityBudget?_of_some h.forest h.named h.budget, if_pos (hcharges.2 hpositive)]
  · rw [if_neg fun hc => hpositive (hcharges.1 hc)] at hretries
    rw [if_neg hpositive]
    exact hretries

end

section
variable {σ : Type} [Sink σ] {w : World σ} {kind : EntityKind} {id : Int} {budget : Int}
  {message : String}

/-- A result that asks for another try, and is answered, has the effect of one entry. -/
theorem HandedOut.handleResult (h : HandedOut kind id budget w.store) {accepted : Bool}
    (hanswer : (handleResult (.again kind id message) w).1 = .ok accepted) :
    accepted = true ∧ ∃ e : Entry, e.before = w.store ∧
      Journal w.store [e] (handleResult (.again kind id message) w).2.store ∧
      SameRows e.after (handleResult (.again kind id message) w).2.store ∧
      if 0 < budget then e.HandsOut kind id ∧ HandedOut kind id (budget - 1) e.after
      else e.Parks kind id := by
  rcases journal_updateStatus w kind id .retry (some message) false with
    ⟨err, herror, -⟩ | ⟨e, htask, hbefore, hresult, hrows, hjournal⟩
  · cases hanswer.symm.trans herror
  · have hd : e.task.demand? = some ⟨kind, id, .retry, false⟩ := by
      rw [htask, Task.demand?_change]
    rw [← hbefore] at h
    obtain ⟨haccepted, heffect⟩ := h.retry hd
    cases hanswer.symm.trans hresult
    exact ⟨haccepted, e, hbefore, hjournal, hrows, heffect⟩

theorem HandedOut.handleResult_of_calm (h : HandedOut kind id budget w.store) (hw : w.Calm) :
    (SceneWorkflow.handleResult (.again kind id message) w).1 = .ok true := by
  have hanswer : (updateStatus kind id .retry (some message) false w).1 = _ :=
    (updateStatus_of_meets nofun hw.meets).eq
  obtain ⟨s', hexec⟩ := Cascade.exec_change_retry h.forest h.status (some message)
  rw [hexec] at hanswer
  exact hanswer

end

/-- As long as there is something left, each result takes one off. -/
theorem Retried.handedOut {kind : EntityKind} {id : Int} {s s' : Store} {n k : Nat}
    (h : HandedOut kind id n s) (hretried : Retried kind id s k s') (hk : k ≤ n) :
    HandedOut kind id (n - k) s' := by
  induction hretried with
  | start =>
    rw [Int.natCast_zero, Int.sub_zero]
    exact h
  | aside x w hx _ ih => exact course_handedOut.relates_activity hx w (ih hk)
  | @result _ _ k _ message w hanswer _ ih =>
    have hbefore := ih (by omega)
    obtain ⟨-, e, -, -, hrows, heffect⟩ := hbefore.handleResult hanswer
    rw [if_pos (by omega)] at heffect
    have hleft : (n : Int) - k - 1 = n - (k + 1 : Nat) := by omega
    rw [← hleft]
    exact heffect.2.of_sameRows hrows

/-- The budgets are a ledger. At every point of every run, what is left of the budget of a scene or
tile is what it was taken up with, less one for each unforced request to retry that was accepted and
found it handed out, with some budget left. Such a request leaves it handed out and queues one job.
Any other request to retry that is accepted parks it and queues none. So a scene or tile that is
handed out survives as many results that ask for another try as there is budget left, and the next
one parks it, whatever is done elsewhere in between. -/
theorem Journal.ledger {es : List Entry} {s : Store} (h : Journal {} es s) :
    (∀ {σ : Type} [Sink σ] (w : World σ), w.store = s →
      (∀ (x : Activity σ) P, x.All P →
        ∃ more, Journal {} (es ++ more) (x.run w).store ∧ ∀ e ∈ more, P e.task) ∧
      ∀ kind id requested message force accepted,
        (updateStatus kind id requested message force w).1 = .ok accepted →
        ∃ e : Entry, e.task = .change kind id requested message force ∧ e.before = s ∧
          e.task.isAccepted e.answer = accepted ∧
          Journal {} (es ++ [e]) (updateStatus kind id requested message force w).2.store) ∧
    ∀ kind id,
      ((s.entityStatus? kind id).isSome → ∃ e ∈ es, ∃ budget, e.Ingests kind id budget) ∧
      (∀ e ∈ es, ∀ budget, e.Ingests kind id budget →
        (∃ left : Int32, s.entityBudget? kind id = some left.toInt ∧
          left.toInt = budget.toInt - charges kind id es ∧
          min budget.toInt 0 ≤ left.toInt ∧ left.toInt ≤ budget.toInt) ∧
        charges kind id es ≤ max budget.toInt 0) ∧
      (∀ e ∈ es, ∀ force, e.Applies ⟨kind, id, .retry, force⟩ →
        if e.Charges kind id then e.HandsOut kind id else e.Parks kind id) ∧
      ∀ n : Nat, s.entityStatus? kind id = some .pending → s.entityBudget? kind id = some (n : Int) →
        ∀ k ≤ n, ∀ {τ : Type} [Sink τ] (w : World τ), Retried kind id s k w.store →
          w.store.entityStatus? kind id = some .pending ∧
          w.store.entityBudget? kind id = some (n - k : Int) ∧
          ∀ message,
            (w.Calm → (handleResult (.again kind id message) w).1 = .ok true) ∧
            ∀ accepted, (handleResult (.again kind id message) w).1 = .ok accepted →
              accepted = true ∧
              (handleResult (.again kind id message) w).2.store.entityStatus? kind id =
                some (if k < n then .pending else .retry) ∧
              ∃ e : Entry, e.before = w.store ∧
                Journal w.store [e] (handleResult (.again kind id message) w).2.store ∧
                if k < n then e.HandsOut kind id else e.Parks kind id := by
  refine ⟨?_, fun kind id => ⟨?_, ?_, ?_, ?_⟩⟩
  · rintro σ _ w rfl
    refine ⟨fun x P hx => ?_, fun kind id requested message force accepted hanswer => ?_⟩
    · obtain ⟨more, hmore, hall⟩ := (course_journalled P).relates_activity hx w
      exact ⟨more, h.trans hmore, hall⟩
    · rcases journal_updateStatus w kind id requested message force with
        ⟨err, herror, -⟩ | ⟨e, htask, hbefore, hresult, -, hjournal⟩
      · cases hanswer.symm.trans herror
      · cases hanswer.symm.trans hresult
        exact ⟨e, htask, hbefore, rfl, h.trans hjournal⟩
  · intro hthere
    rcases h.accounted kind id with hnone | ⟨budget, hbalanced⟩
    · rw [entityBudget?_eq_none.1 hnone.absent] at hthere
      cases hthere
    · obtain ⟨e, he, hingests⟩ := hbalanced.taken
      exact ⟨e, he, budget, hingests⟩
  · intro e he budget hingests
    rcases h.accounted kind id with hnone | ⟨budget', hbalanced⟩
    · exact absurd hingests (hnone.untaken e he budget)
    · obtain rfl := hbalanced.once e he budget hingests
      exact ⟨hbalanced.left, hbalanced.covered⟩
  · exact fun e he force happlies =>
      Entry.retries (h.keeps_of_mem lasting_forest forest_empty he) happlies
  · intro n hstatus hbudget k hk τ _ w hretried
    have hstart : HandedOut kind id n s :=
      ⟨h.keeps lasting_forest forest_empty, h.keeps lasting_named named_empty, hstatus, hbudget⟩
    have hout := hretried.handedOut hstart hk
    refine ⟨hout.status, hout.budget, fun message => ⟨hout.handleResult_of_calm, ?_⟩⟩
    intro accepted hanswer
    obtain ⟨haccepted, e, hbefore, hjournal, hrows, heffect⟩ := hout.handleResult hanswer
    rw [hrows.entityStatus?]
    refine ⟨haccepted, ?_⟩
    by_cases hleft : k < n
    · rw [if_pos (by omega)] at heffect
      simp only [if_pos hleft]
      exact ⟨heffect.1.status, e, hbefore, hjournal, heffect.1⟩
    · rw [if_neg (by omega)] at heffect
      simp only [if_neg hleft]
      exact ⟨heffect.status, e, hbefore, hjournal, heffect⟩

/-- The first tile may be tried again once, and has been. In between the other has been made to fail
and all has been swept. -/
def triedAgain : World Recorder :=
  (handleResult (.again .tile 1 "again") (ongoing.after [.retryAoi "north" true])).2.after
    [.updateStatus .tile 2 .failed none true, .retryAoi "north" false]

/-- Nothing is left of its budget of one, and so it is parked next. -/
theorem ledger_triedAgain :
    ∃ es, Journal {} es ongoing.store ∧ (∃ e ∈ es, e.Ingests .tile 1 1) ∧
      ongoing.store.entityBudget? .tile 1 = some 1 ∧ charges .tile 1 es = 0 ∧
      Retried .tile 1 ongoing.store 1 triedAgain.store ∧
      triedAgain.store.entityBudget? .tile 1 = some 0 ∧
      (handleResult (.again .tile 1 "again") triedAgain).1 = .ok true ∧
      (handleResult (.again .tile 1 "again") triedAgain).2.store.entityStatus? .tile 1 =
        some .retry := by
  -- All that is taken up on the way has a budget of one.
  obtain ⟨es, hjournal, hones⟩ : Journalled (fun task => ∀ r, task = .ingest r → r.budget = 1)
      ({ sink := {} } : World Recorder) ongoing :=
    journalled_after _ (by simp [Command.All, Task.change])
  obtain ⟨-, hledger⟩ := Journal.ledger hjournal
  obtain ⟨htaken, hleft, -, hresults⟩ := hledger .tile 1
  have hpending : ongoing.store.entityStatus? .tile 1 = some .pending := by decide +kernel
  have hbudget : ongoing.store.entityBudget? .tile 1 = some 1 := by decide +kernel
  have hcalm : triedAgain.Calm := World.calm_of_isEmpty (by decide +kernel) (by decide +kernel)
  have hanswer : (handleResult (.again .tile 1 "again")
      (ongoing.after [.retryAoi "north" true])).1.toOption = some true := by decide +kernel
  obtain ⟨e, he, budget, hingests⟩ := htaken (Option.isSome_of_eq_some hpending)
  obtain ⟨r, htask, rfl⟩ := hingests.request
  obtain ⟨⟨left, hcurrent, hsum, -⟩, -⟩ := hleft e he r.budget hingests
  rw [hones e he r htask] at hingests hsum
  have hnone : charges .tile 1 es = 0 := by
    have hone := Option.some.inj (hbudget.symm.trans hcurrent)
    have hgiven : (1 : Int32).toInt = 1 := rfl
    omega
  have hretried : Retried .tile 1 ongoing.store 1 triedAgain.store := by
    refine Retried.after (.result "again" _ (toOption_eq_some.1 hanswer) (.after .start ?_)) ?_
    · simp [Command.All, Task.elsewhere_change]
    · simp [Command.All, Task.elsewhere_change]
  obtain ⟨-, hspent, hnext⟩ := hresults 1 hpending hbudget 1 le_rfl triedAgain hretried
  obtain ⟨hanswers, heffect⟩ := hnext "again"
  obtain ⟨-, hparked, -⟩ := heffect true (hanswers hcalm)
  exact ⟨es, hjournal, ⟨e, he, hingests⟩, hbudget, hnone, hretried, hspent, hanswers hcalm, hparked⟩

end SceneWorkflow
