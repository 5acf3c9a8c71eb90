import SceneWorkflow.Proofs.Cascade.Bystanders
import SceneWorkflow.Proofs.Engine.Requests
import SceneWorkflow.Proofs.Store.Areas

/-!
# Requests that take turns

What two unforced requests for different scenes or tiles come to, one after the other.
Neither touches the row that the other is about, so that each moves its own row on as
if it were alone. All else is what the two moves together entail.
-/
namespace SceneWorkflow
open Store

structure StatusRequest where
  kind : EntityKind
  id : Int
  status : Status
  message : Option String := none

namespace StatusRequest
variable (r : StatusRequest) (s : Store)

def entity : EntityKind × Int := (r.kind, r.id)

def subject : Topic × Int := (r.kind.topic, r.id)

def Underway : Prop :=
  ∃ present, s.entityStatus? r.kind r.id = some present ∧ present.isActive = true

def present : Status := (s.entityStatus? r.kind r.id).getD .new

def budget : Int := (s.entityBudget? r.kind r.id).getD 0

/-- What the request comes to without force. If it is rejected then the entity stays as it is. -/
def change : Transition :=
  ((r.present s).transition r.status false).getD (.overwrite (r.present s))

def accepted : Bool := ((r.present s).transition r.status false).isSome

def remark : Option String := if r.accepted s then r.message else none

def update : StatusUpdate := (r.change s).update (r.budget s) (r.remark s)

def handsOut : Bool := (r.change s).handsOut (r.budget s)

def gone : List Int := s.failedBy (r.change s) r.kind r.id

def moves : Store := s.moved r.kind r.id (r.update s)

def both (a b : StatusRequest) (s : Store) : Store := (a.moves s).moved b.kind b.id (b.update s)

variable {r s}

theorem entity_eq_of_subject {a b : StatusRequest} (h : a.subject = b.subject) :
    a.entity = b.entity := by
  obtain ⟨htopic, hid⟩ := Prod.mk.inj h
  refine Prod.ext ?_ hid
  show a.kind = b.kind
  cases ha : a.kind <;> cases hb : b.kind <;> rw [ha, hb] at htopic <;> first | rfl | cases htopic

theorem subject_eq_of_entity {k : Int} (h : (r.kind, r.id) = (.tile, k)) :
    r.subject = (.tileJobs, k) := by
  obtain ⟨hkind, hid⟩ := Prod.mk.inj h
  rw [subject, hkind, hid]
  rfl

theorem Underway.present_eq (h : r.Underway s) :
    s.entityStatus? r.kind r.id = some (r.present s) ∧ (r.present s).isActive = true := by
  obtain ⟨present, hstatus, hactive⟩ := h
  have hpresent : r.present s = present := by rw [StatusRequest.present, hstatus]; rfl
  rw [hpresent]
  exact ⟨hstatus, hactive⟩

end StatusRequest

namespace Store
variable {s s₁ s₂ m : Store} {a b r : StatusRequest} {ns ms notices : List Notice}
  {kind : EntityKind} {id k : Int} {gone : List Int} {change : Transition}

/-- What one request makes of the store. The relay may have run. -/
structure Turn (r : StatusRequest) (s s' : Store) (notices : List Notice) : Prop where
  shifts : Shifts (r.gone s) (r.moves s) s'
  splices : Splices (r.gone s) s s'
  aois : ∀ name, (s'.aois.find? name).isSome = (s.aois.find? name).isSome
  distinct : (notices.map Notice.subject).Nodup
  subjects : ∀ topic k, (topic, k) ∈ notices.map Notice.subject ↔
    (topic, k) = r.subject ∧ r.handsOut s = true ∨
    topic = .tileJobs ∧ (r.moves s).tileStatus? k = some .new ∧
      s'.tileStatus? k = some .pending
  current : ∀ n ∈ notices, s'.Carries n

/-! ### What a request comes to -/

theorem moved_self (ho : s.Ordered) {present : Status}
    (hpresent : s.entityStatus? kind id = some present) :
    s.moved kind id { status := present } = s := by
  have hscenes : s.scenes.map (movedScene kind id { status := present }) = s.scenes := by
    refine (List.map_congr_left fun x hx => ?_).trans (List.map_id _)
    unfold movedScene
    split
    · next hsame =>
      obtain ⟨rfl, rfl⟩ := hsame
      cases hpresent.symm.trans (sceneStatus?_of_scene? (ho.scene?_of_mem hx))
      rfl
    · rfl
  have htiles : s.tiles.map (movedTile kind id { status := present }) = s.tiles := by
    refine (List.map_congr_left fun t ht => ?_).trans (List.map_id _)
    unfold movedTile
    split
    · next hsame =>
      obtain ⟨rfl, rfl⟩ := hsame
      cases hpresent.symm.trans (tileStatus?_of_tile? (ho.tile?_of_mem ht))
      rfl
    · rfl
  rw [moved_eq, hscenes, htiles]

theorem Outcome.turn {area : String}
    (h : Outcome r.kind r.id (r.change s) (r.budget s) (r.remark s) area s s₁ notices)
    (hsame : SameRows s₁ s₂)
    (haois : ∀ name, (s₂.aois.find? name).isSome = (s₁.aois.find? name).isSome) :
    Turn r s s₂ notices where
  shifts := by
    have hshifts := h.ripples.toShifts.trans (.of_tiles hsame.scenes hsame.tiles)
    rwa [List.append_nil] at hshifts
  splices := by
    have hsplices := h.splices.trans (splices_of_tiles hsame.tiles)
    rwa [List.append_nil] at hsplices
  aois := by
    intro name
    rw [haois, h.ripples.aois, moved_eq]
  distinct := h.distinct
  subjects := by
    intro topic k
    rw [h.subjects, hsame.tileStatus?, Prod.ext_iff, and_assoc]
    rfl
  current := fun n hn => hsame.carries (h.current n hn)

theorem isSome_find?_refreshAoiStatus (s : Store) (area name : String) :
    ((s.refreshAoiStatus area).2.aois.find? name).isSome = (s.aois.find? name).isSome := by
  rw [find?_refreshAoiStatus]
  split
  · next hname => rw [Option.isSome_map, hname]
  · rfl

/-- An unforced request comes to its turn, whether it is accepted or not. -/
theorem Decides.turn {present : Status} {budget : Int} {area : String} {accepted : Bool}
    (ho : s.Ordered)
    (h : Decides r.kind r.id r.status r.message false s s₁ accepted present budget area)
    (hsame : SameRows s₁ s₂) (haois : s₂.aois = s₁.aois) :
    ∃ notices, s.Posts notices s₁ ∧ Turn r s s₂ notices := by
  have hpresent : r.present s = present := by
    rw [StatusRequest.present, h.present_eq]
    rfl
  have hbudget : r.budget s = budget := by
    rw [StatusRequest.budget, h.budget_eq]
    rfl
  rcases h.effect with ⟨hnone, -, rfl⟩ | ⟨change, hchange, -, s₃, notices, houtcome, rfl⟩
  · have hrejected : r.accepted s₁ = false := by
      rw [StatusRequest.accepted, hpresent, hnone]
      rfl
    have hchange : r.change s₁ = .overwrite present := by
      rw [StatusRequest.change, hpresent, hnone]
      rfl
    have hremark : r.remark s₁ = none := by
      rw [StatusRequest.remark, hrejected]
      rfl
    have houtcome : Outcome r.kind r.id (.overwrite present) budget none area s₁
        (s₁.moved r.kind r.id (Transition.update (.overwrite present) budget none)) [] :=
      outcome_of_moved rfl rfl
    have hself : s₁.moved r.kind r.id (Transition.update (.overwrite present) budget none) = s₁ :=
      moved_self ho h.present_eq
    rw [hself, ← hchange, ← hbudget, ← hremark] at houtcome
    exact ⟨[], posts_nil rfl, houtcome.turn hsame fun name => by rw [haois]⟩
  · have haccepted : r.accepted s = true := by
      rw [StatusRequest.accepted, hpresent, hchange]
      rfl
    have hown : r.change s = change := by
      rw [StatusRequest.change, hpresent, hchange]
      rfl
    have hremark : r.remark s = r.message := if_pos haccepted
    have hposts := houtcome.posts
    rw [← hown, ← hbudget, ← hremark] at houtcome
    refine ⟨notices, ?_, houtcome.turn ((sameRows_refreshAoiStatus s₃ area).trans hsame) ?_⟩
    · unfold Posts
      rw [outbox_refreshAoiStatus]
      exact hposts
    · intro name
      rw [haois, isSome_find?_refreshAoiStatus]

/-! ### Bystanders -/

/-- The tiles of a scene that is worked on are new. -/
theorem Sound.new_of_failedBy (h : Sound [] s) {present : Status}
    (hpresent : s.entityStatus? kind id = some present) (hactive : present.isActive = true)
    (hk : k ∈ s.failedBy change kind id) :
    kind = .tile ∧ k = id ∨ s.tileStatus? k = some .new := by
  rcases mem_failedBy hk with htile | ⟨rfl, t, ht, rfl, rfl⟩
  · exact .inl htile
  · have hfits := h.fits t ht
    have hscene : s.sceneStatus? t.scene = some present := hpresent
    rw [hscene] at hfits
    refine .inr ?_
    rw [tileStatus?_of_tile? (h.tile?_of_mem ht), hfits.new_of_scene hactive]

/-- A request leaves alone a tile that another request is about. -/
theorem Sound.bystander (hs : Sound [] s) (hne : a.entity ≠ b.entity) (ha : a.Underway s)
    (hb : b.Underway s) (htile : b.kind = .tile) :
    b.id ∉ a.gone s ∧ (a.moves s).tileStatus? b.id ≠ some .new := by
  obtain ⟨hstatus, hactive⟩ := hb.present_eq
  have hnew : s.tileStatus? b.id ≠ some .new := by
    rw [htile] at hstatus
    intro hnew
    rw [Option.some.inj (hstatus.symm.trans hnew)] at hactive
    cases hactive
  have hother : (a.kind, a.id) ≠ (.tile, b.id) := by
    rw [← htile]
    exact hne
  refine ⟨fun hgone => ?_, ?_⟩
  · obtain ⟨hpresent, hworked⟩ := ha.present_eq
    rcases hs.new_of_failedBy hpresent hworked hgone with ⟨hkind, hid⟩ | hwaits
    · exact hother (by rw [hkind, hid])
    · exact hnew hwaits
  · rw [StatusRequest.moves, tileStatus?, tile?_moved_of_ne hother]
    exact hnew

section
variable (h : Turn a s s₁ ns) (hs : Sound [] s) (hne : a.entity ≠ b.entity) (ha : a.Underway s)
  (hb : b.Underway s)
include h hs hne ha hb

theorem Turn.bystander : s₁.entityStatus? b.kind b.id = s.entityStatus? b.kind b.id ∧
    s₁.entityBudget? b.kind b.id = s.entityBudget? b.kind b.id := by
  cases hkind : b.kind with
  | scene =>
    have hother : (a.kind, a.id) ≠ (.scene, b.id) := by
      rw [← hkind]
      exact hne
    have hrow : s₁.scene? b.id = s.scene? b.id :=
      (h.shifts.scene? b.id).trans (scene?_moved_of_ne hother)
    simp only [entityStatus?, entityBudget?, sceneStatus?, hrow, and_self]
  | tile =>
    have hother : (a.kind, a.id) ≠ (.tile, b.id) := by
      rw [← hkind]
      exact hne
    obtain ⟨hstays, hstarted⟩ := hs.bystander hne ha hb hkind
    obtain ⟨present, hstatus, -⟩ := hb
    rw [hkind] at hstatus
    obtain ⟨t, ht, -⟩ := Option.map_eq_some_iff.1 hstatus
    have hrow : (a.moves s).tile? b.id = some t := (tile?_moved_of_ne hother).trans ht
    obtain ⟨t', ht', hmoves⟩ := h.shifts.row b.id t hrow
    rw [← tile?_id ht] at hstays
    rw [tileStatus?_of_tile? hrow] at hstarted
    have hsame := hmoves.status_eq hstays fun hnew => hstarted (congrArg some hnew)
    have hbudget : t'.budget = t.budget := by rw [hmoves.same]
    simp only [entityStatus?, entityBudget?, tileStatus?, ht, ht', Option.map_some, hsame, hbudget,
      and_self]

theorem Turn.change_eq : b.change s₁ = b.change s := by
  obtain ⟨hstatus, -⟩ := h.bystander hs hne ha hb
  rw [StatusRequest.change, StatusRequest.present, hstatus]
  rfl

theorem Turn.accepted_eq : b.accepted s₁ = b.accepted s := by
  obtain ⟨hstatus, -⟩ := h.bystander hs hne ha hb
  rw [StatusRequest.accepted, StatusRequest.present, hstatus]
  rfl

theorem Turn.handsOut_eq : b.handsOut s₁ = b.handsOut s := by
  obtain ⟨-, hbudget⟩ := h.bystander hs hne ha hb
  rw [StatusRequest.handsOut, h.change_eq hs hne ha hb, StatusRequest.budget, hbudget]
  rfl

theorem Turn.update_eq : b.update s₁ = b.update s := by
  obtain ⟨hstatus, hbudget⟩ := h.bystander hs hne ha hb
  rw [StatusRequest.update, h.change_eq hs hne ha hb, StatusRequest.budget, hbudget,
    StatusRequest.remark, StatusRequest.accepted, StatusRequest.present, hstatus]
  rfl

theorem Turn.gone_eq : b.gone s₁ = b.gone s := by
  rw [StatusRequest.gone, h.change_eq hs hne ha hb]
  refine failedBy_congr ((h.shifts.places_eq ?_).trans (places_moved ..))
  exact ordered_moved hs.toOrdered ..

theorem Turn.underway : b.Underway s₁ := by
  obtain ⟨present, hstatus, hactive⟩ := hb
  exact ⟨present, (h.bystander hs hne ha ⟨present, hstatus, hactive⟩).1.trans hstatus, hactive⟩

/-- When the second row moves on, what the first request entails has happened. -/
theorem Turn.shifts_moves : Shifts (a.gone s) (a.both b s) (b.moves s₁) := by
  rw [StatusRequest.moves, h.update_eq hs hne ha hb]
  exact h.shifts.moved (Transition.clearPrevious_update ..) (hs.bystander hne ha hb)

end

/-! ### One after the other -/

/-- The tile that the job of a tile names, as the store has it. -/
def link (s : Store) : Topic × Int → Option Int
  | (.sceneJobs, _) => none
  | (.tileJobs, k) => (s.tile? k).bind (·.previous)

/-- What two requests make of the store, one after the other. -/
structure Joint (a b : StatusRequest) (s s' : Store) (notices : List Notice) : Prop where
  shifts : Shifts (a.gone s ++ b.gone s) (a.both b s) s'
  splices : Splices (a.gone s ++ b.gone s) s s'
  aois : ∀ name, (s'.aois.find? name).isSome = (s.aois.find? name).isSome
  distinct : (notices.map Notice.subject).Nodup
  subjects : ∀ topic k, (topic, k) ∈ notices.map Notice.subject ↔
    ((topic, k) = a.subject ∧ a.handsOut s = true ∨ (topic, k) = b.subject ∧ b.handsOut s = true) ∨
    topic = .tileJobs ∧ (a.both b s).tileStatus? k = some .new ∧ s'.tileStatus? k = some .pending
  links : ∀ n ∈ notices, n.previous = s'.link n.subject

theorem Carries.link {n : Notice} (h : s.Carries n) : n.previous = s.link n.subject := by
  cases n with
  | scene ref => rfl
  | tile job =>
    obtain ⟨t, ht, -, -, -, hprevious⟩ := h
    show job.previous.map (·.id) = (s.tile? job.tile.id).bind (·.previous)
    rw [ht, hprevious]
    rfl

section
variable (h : Turn a s s₁ ns) (hs : Sound [] s) (hne : a.entity ≠ b.entity) (ha : a.Underway s)
  (hb : b.Underway s)
include h hs hne ha hb

/-- The first request queues no job for what the second is about. -/
theorem Turn.subject_ne {topic : Topic} {k : Int} (hk : (topic, k) ∈ ns.map Notice.subject) :
    (topic, k) ≠ b.subject := by
  intro hsame
  rcases (h.subjects topic k).1 hk with ⟨hown, -⟩ | ⟨rfl, hnew, -⟩
  · exact hne (StatusRequest.entity_eq_of_subject (hown.symm.trans hsame))
  · obtain ⟨htopic, rfl⟩ := Prod.mk.inj hsame
    have htile : b.kind = .tile := by
      cases hkind : b.kind with
      | tile => rfl
      | scene =>
        rw [hkind] at htopic
        cases htopic
    exact (hs.bystander hne ha hb htile).2 hnew

/-- A tile that the first request has handed out is handed out still when the second is carried out,
and does not fail. -/
theorem Turn.handed_out (hs₁ : Sound [] s₁) (hk : (.tileJobs, k) ∈ ns.map Notice.subject) :
    (b.kind, b.id) ≠ (.tile, k) ∧ s₁.tileStatus? k = some .pending ∧ k ∉ b.gone s₁ := by
  have hother : (b.kind, b.id) ≠ (.tile, k) := fun he =>
    h.subject_ne hs hne ha hb hk (StatusRequest.subject_eq_of_entity he).symm
  have hpending : s₁.tileStatus? k = some .pending := by
    obtain ⟨n, hn, hsubject⟩ := List.mem_map.1 hk
    have hcarries := h.current n hn
    cases n with
    | scene ref => cases hsubject
    | tile job =>
      cases hsubject
      exact hcarries.tileStatus?
  refine ⟨hother, hpending, fun hgone => ?_⟩
  obtain ⟨hpresent, hactive⟩ := (h.underway hs hne ha hb).present_eq
  rcases hs₁.new_of_failedBy hpresent hactive hgone with ⟨hkind, hid⟩ | hnew
  · exact hother (by rw [hkind, hid])
  · cases hnew.symm.trans hpending

/-- A tile that the two requests start together is started by one of them. -/
theorem Turn.starts (h' : Turn b s₁ s₂ ms) (hnew : (a.both b s).tileStatus? k = some .new)
    (hpending : s₂.tileStatus? k = some .pending) :
    (.tileJobs, k) ∈ ns.map Notice.subject ∨ (.tileJobs, k) ∈ ms.map Notice.subject := by
  rcases h'.shifts.pending_before hpending with hwaits | hstarted
  · exact .inr ((h'.subjects _ k).2 (.inr ⟨rfl, hwaits, hpending⟩))
  · -- The row of the second entity stands where the request has put it in both stores.
    have hother : (b.kind, b.id) ≠ (.tile, k) := by
      intro he
      obtain ⟨hkind, rfl⟩ := Prod.mk.inj he
      rw [StatusRequest.both, tileStatus?_moved, if_pos ⟨hkind, rfl⟩] at hnew
      rw [StatusRequest.moves, tileStatus?_moved, if_pos ⟨hkind, rfl⟩,
        h.update_eq hs hne ha hb] at hstarted
      obtain ⟨_, -, hnew⟩ := Option.map_eq_some_iff.1 hnew
      obtain ⟨_, -, hstarted⟩ := Option.map_eq_some_iff.1 hstarted
      cases hnew.symm.trans hstarted
    rw [StatusRequest.both, tileStatus?_moved_of_ne hother] at hnew
    rw [StatusRequest.moves, tileStatus?_moved_of_ne hother] at hstarted
    exact .inl ((h.subjects _ k).2 (.inr ⟨rfl, hnew, hstarted⟩))

end

/-- A tile that has started follows the same tile while it goes on. -/
theorem Shifts.link_eq (h : Shifts gone m s) {status : Status}
    (hstatus : m.tileStatus? k = some status) (hstarted : status ≠ .new) (hstays : k ∉ gone) :
    s.link (.tileJobs, k) = m.link (.tileJobs, k) := by
  obtain ⟨t, ht, rfl⟩ := tileStatus?_eq_some.1 hstatus
  obtain ⟨t', ht', hmoves⟩ := h.row k t ht
  rw [← tile?_id ht] at hstays
  rw [link, ht', link, ht]
  exact hmoves.settled hstays hstarted

section
variable (h : Turn a s s₁ ns) (h' : Turn b s₁ s₂ ms) (hs : Sound [] s) (hs₁ : Sound [] s₁)
  (hne : a.entity ≠ b.entity) (ha : a.Underway s) (hb : b.Underway s)
include h h' hs hs₁ hne ha hb

theorem Turn.lasts (hk : (.tileJobs, k) ∈ ns.map Notice.subject) :
    s₂.tileStatus? k = some .pending ∧ s₂.link (.tileJobs, k) = s₁.link (.tileJobs, k) := by
  obtain ⟨hother, hpending, hstays⟩ := h.handed_out hs hne ha hb hs₁ hk
  have hrow : (b.moves s₁).tile? k = s₁.tile? k := tile?_moved_of_ne hother
  have hmoved : (b.moves s₁).tileStatus? k = some .pending :=
    (tileStatus?_moved_of_ne hother).trans hpending
  refine ⟨h'.shifts.lasts hmoved nofun hstays, (h'.shifts.link_eq hmoved nofun hstays).trans ?_⟩
  rw [link, link, hrow]

/-- Nothing is handed out twice. -/
theorem Turn.subjects_disjoint : ∀ x ∈ ns.map Notice.subject, x ∉ ms.map Notice.subject := by
  rintro ⟨topic, k⟩ hfirst hsecond
  rcases (h'.subjects topic k).1 hsecond with ⟨hown, -⟩ | ⟨rfl, hnew, -⟩
  · exact h.subject_ne hs hne ha hb hfirst hown
  · obtain ⟨hother, hpending, -⟩ := h.handed_out hs hne ha hb hs₁ hfirst
    rw [StatusRequest.moves, tileStatus?_moved_of_ne hother, hpending] at hnew
    cases hnew

/-- Two requests, one after the other. -/
theorem Turn.joint : Joint a b s s₂ (ns ++ ms) where
  shifts := by
    have hgone := h.gone_eq hs hne ha hb
    exact hgone ▸ (h.shifts_moves hs hne ha hb).trans h'.shifts
  splices := by
    have hgone := h.gone_eq hs hne ha hb
    exact hgone ▸ h.splices.trans h'.splices
  aois := fun name => (h'.aois name).trans (h.aois name)
  distinct := by
    rw [List.map_append]
    refine List.nodup_append.2 ⟨h.distinct, h'.distinct, ?_⟩
    rintro x hfirst _ hsecond rfl
    exact h.subjects_disjoint h' hs hs₁ hne ha hb x hfirst hsecond
  subjects := by
    intro topic k
    rw [List.map_append, List.mem_append]
    constructor
    · rintro (hfirst | hsecond)
      · rcases (h.subjects topic k).1 hfirst with hown | ⟨rfl, hnew, -⟩
        · exact .inl (.inl hown)
        · obtain ⟨hother, -⟩ := h.handed_out hs hne ha hb hs₁ hfirst
          refine .inr ⟨rfl, ?_, (h.lasts h' hs hs₁ hne ha hb hfirst).1⟩
          rw [StatusRequest.both, tileStatus?_moved_of_ne hother, hnew]
      · rcases (h'.subjects topic k).1 hsecond with ⟨hown, hout⟩ | ⟨rfl, hnew, hpending⟩
        · exact .inl (.inr ⟨hown, (h.handsOut_eq hs hne ha hb) ▸ hout⟩)
        · exact .inr ⟨rfl, (h.shifts_moves hs hne ha hb).new_before hnew, hpending⟩
    · rintro ((hown | ⟨hown, hout⟩) | ⟨rfl, hnew, hpending⟩)
      · exact .inl ((h.subjects topic k).2 (.inl hown))
      · refine .inr ((h'.subjects topic k).2 (.inl ⟨hown, ?_⟩))
        rw [h.handsOut_eq hs hne ha hb, hout]
      · exact h.starts hs hne ha hb h' hnew hpending
  links := by
    intro n hn
    rcases List.mem_append.1 hn with hn | hn
    · rw [(h.current n hn).link]
      have hmem : n.subject ∈ ns.map Notice.subject := List.mem_map_of_mem hn
      cases n with
      | scene ref => rfl
      | tile job => exact (h.lasts h' hs hs₁ hne ha hb hmem).2.symm
    · exact (h'.current n hn).link

end

end Store
end SceneWorkflow
