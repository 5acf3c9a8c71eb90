import SceneWorkflow.Proofs.Cascade.ForestSteps

/-!
# Chains of predecessors

From each tile of a forest a chain leads over the tile it follows to a tile that
follows none. When tiles fail, they drop out of all chains, and the others stay in
order.
-/
namespace SceneWorkflow
namespace Store
variable {s s' s'' : Store} {f t : Tile} {message : Option String} {link : Option Int} {id : Int}
  {chain gone more : List Int}

/-- The ids that a link leads to, one after the other, as far as there is a next. -/
inductive Trail (s : Store) : Option Int → List Int → Prop where
  | head : Trail s none []
  | step {id : Int} {t : Tile} {chain : List Int} (ht : s.tile? id = some t)
      (h : Trail s t.previous chain) : Trail s (some id) (id :: chain)

/-- The ids of the tile that a tile follows, of the one that this one follows, and so on. -/
def Chain (s : Store) (id : Int) (chain : List Int) : Prop :=
  ∃ t, s.tile? id = some t ∧ s.Trail t.previous chain

/-! ### Every tile has one chain -/

theorem Trail.unique (h : s.Trail link chain) (h' : s.Trail link more) : chain = more := by
  induction h generalizing more with
  | head =>
    cases h'
    rfl
  | step ht _ ih =>
    cases h' with
    | step ht' h' =>
      cases ht.symm.trans ht'
      rw [ih h']

theorem Chain.unique (h : s.Chain id chain) (h' : s.Chain id more) : chain = more := by
  obtain ⟨t, ht, htrail⟩ := h
  obtain ⟨u, hu, htrail'⟩ := h'
  cases ht.symm.trans hu
  exact htrail.unique htrail'

theorem Chain.iff_eq (h : s.Chain id chain) : s.Chain id more ↔ more = chain := by
  constructor
  · exact fun h' => h'.unique h
  · rintro rfl
    exact h

/-- The first of the tiles that a tile follows one after the other is the one that it follows. -/
theorem Chain.head_eq (h : s.Chain id chain) (ht : s.tile? id = some t) :
    t.previous = chain.head? := by
  obtain ⟨u, hu, htrail⟩ := h
  cases hu.symm.trans ht
  generalize t.previous = link at htrail
  cases htrail <;> rfl

theorem Trail.followed (h : s.Trail link chain) (hid : id ∈ chain) :
    link = some id ∨ ∃ t ∈ s.tiles, t.previous = some id := by
  induction h with
  | head => cases hid
  | step ht htrail ih =>
    rcases List.mem_cons.1 hid with rfl | hid
    · exact .inl rfl
    · rcases ih hid with hlink | hfollowed
      · exact .inr ⟨_, mem_of_tile? ht, hlink⟩
      · exact .inr hfollowed

theorem Forest.chain_descends (h : Forest s) (ht : t ∈ s.tiles) (htrail : s.Trail t.previous chain) :
    (t.id :: chain).Pairwise (· > ·) := by
  induction chain generalizing t with
  | nil => exact List.pairwise_singleton _ _
  | cons id chain ih =>
    generalize hprevious : t.previous = link at htrail
    cases htrail with
    | @step _ p _ hp hrest =>
      obtain rfl := tile?_id hp
      have hbelow := ih (mem_of_tile? hp) hrest
      have hlt := h.previous_lt t ht p.id hprevious
      refine List.pairwise_cons.2 ⟨fun k hk => ?_, hbelow⟩
      rcases List.mem_cons.1 hk with rfl | hk
      · exact hlt
      · exact Int.lt_trans ((List.pairwise_cons.1 hbelow).1 k hk) hlt

theorem Ordered.bounded_below (h : s.Ordered) : ∃ least, ∀ t ∈ s.tiles, least ≤ t.id := by
  have hascend := h.tiles_ascend
  cases htiles : s.tiles with
  | nil => exact ⟨0, fun _ hu => absurd hu List.not_mem_nil⟩
  | cons t ts =>
    rw [htiles] at hascend
    refine ⟨t.id, fun u hu => ?_⟩
    rcases List.mem_cons.1 hu with rfl | hu
    · exact Int.le_refl _
    · exact Int.le_of_lt ((List.pairwise_cons.1 hascend).1 u hu)

/-- The ids on the way from a tile to its head descend, so that there is an end to them. -/
theorem Forest.exists_trail (h : Forest s) (ht : t ∈ s.tiles) :
    ∃ chain, s.Trail t.previous chain := by
  obtain ⟨least, hleast⟩ := h.bounded_below
  -- The measure is how far an id is above the least one.
  induction hn : (t.id - least).toNat using Nat.strongRecOn generalizing t with
  | ind n ih =>
    have hlinked := h.previous_exists t ht
    cases hprevious : t.previous with
    | none => exact ⟨[], .head⟩
    | some id =>
      rw [hprevious] at hlinked
      obtain ⟨p, hp⟩ := Option.isSome_iff_exists.1 hlinked
      obtain rfl := tile?_id hp
      have hmem := mem_of_tile? hp
      have hlt := h.previous_lt t ht p.id hprevious
      have hp₀ := hleast p hmem
      obtain ⟨chain, htrail⟩ := ih (p.id - least).toNat (by omega) hmem rfl
      exact ⟨p.id :: chain, .step hp htrail⟩

theorem Forest.exists_chain (h : Forest s) (ht : t ∈ s.tiles) : ∃ chain, s.Chain t.id chain := by
  obtain ⟨chain, htrail⟩ := h.exists_trail ht
  exact ⟨chain, t, h.tile?_of_mem ht, htrail⟩

/-- No chain leads over a failed tile. -/
theorem Forest.not_mem_chain (h : Forest s) (hfailed : s.tileStatus? id = some .failed) {k : Int}
    (hchain : s.Chain k chain) : id ∉ chain := by
  intro hid
  obtain ⟨t, ht, htrail⟩ := hchain
  obtain ⟨p, hp, hstatus⟩ := tileStatus?_eq_some.1 hfailed
  obtain rfl := tile?_id hp
  rcases htrail.followed hid with hlink | ⟨u, hu, hlink⟩
  · exact h.previous_live t (mem_of_tile? ht) p (mem_of_tile? hp) hlink hstatus
  · exact h.previous_live u hu p (mem_of_tile? hp) hlink hstatus

def SameLinks (s s' : Store) : Prop :=
  ∀ id t, s.tile? id = some t → ∃ t', s'.tile? id = some t' ∧ t'.previous = t.previous

theorem sameLinks_of_tiles (htiles : s'.tiles = s.tiles) : SameLinks s s' :=
  fun id t ht => ⟨t, by rw [tile?, htiles]; exact ht, rfl⟩

theorem SameLinks.trail (h : SameLinks s s') (htrail : s.Trail link chain) :
    s'.Trail link chain := by
  induction htrail with
  | head => exact .head
  | @step id t _ ht _ ih =>
    obtain ⟨t', ht', hprevious⟩ := h id t ht
    exact .step ht' (hprevious ▸ ih)

/-! ### Dropping out -/

/-- The tiles that are gone have dropped out of all other chains. -/
def Splices (gone : List Int) (s s' : Store) : Prop :=
  ∀ id chain, id ∉ gone → s.Chain id chain → s'.Chain id (chain.filter (· ∉ gone))

theorem SameLinks.splices (h : SameLinks s s') : Splices [] s s' := by
  rintro id chain - ⟨t, ht, htrail⟩
  obtain ⟨t', ht', hprevious⟩ := h id t ht
  refine ⟨t', ht', ?_⟩
  rw [List.filter_eq_self.2 fun k _ => by simp, hprevious]
  exact h.trail htrail

theorem splices_of_tiles (htiles : s'.tiles = s.tiles) : Splices [] s s' :=
  (sameLinks_of_tiles htiles).splices

theorem Splices.trans (h : Splices gone s s') (h' : Splices more s' s'') :
    Splices (gone ++ more) s s'' := by
  intro id chain hid hchain
  rw [List.mem_append, not_or] at hid
  have hboth := h' id _ hid.2 (h id chain hid.1 hchain)
  rw [List.filter_filter] at hboth
  refine Eq.mp (congrArg _ (List.filter_congr fun k _ => ?_)) hboth
  simp [Bool.and_comm]

/-- Where a link leads once a tile has been spliced out. -/
def redirect (f : Tile) (link : Option Int) : Option Int :=
  if link = some f.id then f.previous else link

theorem Forest.trail_failTile (h : Forest s) (hf : s.tile? f.id = some f)
    (htrail : s.Trail link chain) :
    (s.failTile f message).Trail (redirect f link) (chain.filter (· ∉ [f.id])) := by
  induction htrail with
  | head =>
    rw [redirect, if_neg nofun]
    exact .head
  | @step id t chain ht _ ih =>
    by_cases hid : id = f.id
    · subst hid
      cases ht.symm.trans hf
      have hself := h.previous_ne_self (mem_of_tile? hf)
      rw [redirect, if_neg hself] at ih
      rw [redirect, if_pos rfl, List.filter_cons_of_neg (by simp)]
      exact ih
    · have hlink : some id ≠ some f.id := fun he => hid (Option.some.inj he)
      have htid : t.id ≠ f.id := fun he => hid ((tile?_id ht).symm.trans he)
      rw [redirect, if_neg hlink, List.filter_cons_of_pos (by simpa using hid)]
      refine .step (t := s.failRow f message t) ?_ ?_
      · rw [tile?_failTile, ht]
        rfl
      · rw [failRow_previous, if_neg htid]
        exact ih

/-- A tile that fails drops out of all other chains. -/
theorem Forest.splices_failTile (h : Forest s) (hf : s.tile? f.id = some f) :
    Splices [f.id] s (s.failTile f message) := by
  rintro id chain hid ⟨t, ht, htrail⟩
  have htid : t.id ≠ f.id := fun he => hid (List.mem_singleton.2 ((tile?_id ht).symm.trans he))
  refine ⟨s.failRow f message t, ?_, ?_⟩
  · rw [tile?_failTile, ht]
    rfl
  · rw [failRow_previous, if_neg htid]
    exact h.trail_failTile hf htrail

/-! ### Staying out -/

def Fallen (s : Store) (id : Int) : Prop :=
  ∃ t, s.tile? id = some t ∧ t.status = .failed ∧ t.previous = none

theorem Fallen.of_tiles (h : s.Fallen id) (htiles : s'.tiles = s.tiles) : s'.Fallen id := by
  obtain ⟨t, ht, hrow⟩ := h
  exact ⟨t, by rw [tile?, htiles]; exact ht, hrow⟩

theorem Forest.fallen_failTile (h : Forest s) (hf : s.tile? f.id = some f) :
    (s.failTile f message).Fallen f.id := by
  refine ⟨s.failRow f message f, by rw [tile?_failTile, hf]; rfl, ?_, ?_⟩
  · have hstays : s.frees f f ≠ true := fun hfrees =>
      h.previous_ne_self (mem_of_tile? hf) (frees_eq_true.1 hfrees).1
    rw [failRow_status, if_neg hstays, if_pos rfl]
  · rw [failRow_previous, if_pos rfl]

/-- A tile that has fallen is none of those that start when another fails. -/
theorem Fallen.failTile (h : s.Fallen id) (f : Tile) (message : Option String) :
    (s.failTile f message).Fallen id := by
  obtain ⟨t, ht, hfailed, hnone⟩ := h
  refine ⟨s.failRow f message t, by rw [tile?_failTile, ht]; rfl, ?_, ?_⟩
  · have hstays : s.frees f t ≠ true := by
      intro hfrees
      have hfollows := (frees_eq_true.1 hfrees).1
      rw [hnone] at hfollows
      cases hfollows
    rw [failRow_status, if_neg hstays, hfailed, ite_self]
  · rw [failRow_previous, hnone]
    split <;> rfl

/-- The tiles that a request to fail is about. -/
def failing (s : Store) : EntityKind → Int → List Int
  | .scene, id => (s.tiles.filter fun t => t.scene == id).map (·.id)
  | .tile, id => [id]

/-- The tiles that are gone have failed, and have dropped out of all chains. -/
structure Fells (gone : List Int) (s s' : Store) : Prop where
  forest : Forest s'
  splices : Splices gone s s'
  fallen : ∀ id ∈ gone, s'.Fallen id

theorem Fells.of_tiles (h : Fells gone s s') (hforest : Forest s'') (htiles : s''.tiles = s'.tiles) :
    Fells gone s s'' where
  forest := hforest
  splices := by
    have hboth := h.splices.trans (splices_of_tiles htiles)
    rwa [List.append_nil] at hboth
  fallen := fun id hid => (h.fallen id hid).of_tiles htiles

theorem Fells.of_sameRows (h : Fells gone s s') (hsame : SameRows s' s'') : Fells gone s s'' :=
  h.of_tiles (h.forest.of_sameRows hsame) hsame.tiles

theorem Fells.failTile (h : Fells gone s s') (hf : s'.tile? f.id = some f) :
    Fells (gone ++ [f.id]) s (s'.failTile f message) where
  forest := h.forest.failTile hf message
  splices := h.splices.trans (h.forest.splices_failTile hf)
  fallen := by
    intro id hid
    rcases List.mem_append.1 hid with hid | hid
    · exact (h.fallen id hid).failTile f message
    · rw [List.mem_singleton.1 hid]
      exact h.forest.fallen_failTile hf

end Store

namespace Cascade
open Store Program
variable {s s' : Store} {message : Option String} {id : Int}

theorem fells_failTile {gone : List Int} {s₁ : Store} (h : Fells gone s s₁)
    (hok : (failTile id message).exec s₁ = .ok ((), s')) : Fells (gone ++ [id]) s s' := by
  obtain ⟨f, hf, -, rfl⟩ := failTile_eq_ok h.forest hok
  obtain rfl := tile?_id hf
  exact (h.failTile hf).of_sameRows (sameRows_announce _ _)

theorem fells_failTiles {gone : List Int} {s₁ : Store} (h : Fells gone s s₁) {ts : List Tile}
    (hok : (ts.forM fun t => failTile t.id none).exec s₁ = .ok (⟨⟩, s')) :
    Fells (gone ++ ts.map (·.id)) s s' := by
  -- Those that are gone and those that are left are the same tiles together all the time.
  have hall : ∃ sofar, Fells sofar s s' ∧ sofar ++ [] = gone ++ ts.map (·.id) := by
    refine Work.exec_forM_eq_ok (I := fun rest s₂ => ∃ sofar, Fells sofar s s₂ ∧
      sofar ++ rest.map (·.id) = gone ++ ts.map (·.id)) ?_ ⟨gone, h, rfl⟩ hok
    rintro t rest s₂ s₃ ⟨sofar, hfells, hsofar⟩ hok
    refine ⟨sofar ++ [t.id], fells_failTile hfells hok, ?_⟩
    rw [← hsofar, List.append_assoc]
    rfl
  obtain ⟨sofar, hfells, hsofar⟩ := hall
  rw [List.append_nil] at hsofar
  rwa [← hsofar]

theorem fells_failScene (h : Forest s) {x : Scene} (hx : s.scene? x.id = some x)
    (hok : (failScene x message).exec s = .ok ((), s')) :
    Fells (s.failing .scene x.id) s s' := by
  have hstart : Fells [] s (s.setScene x.id { status := .failed, message }) :=
    ⟨h.setScene hx nofun, splices_of_tiles rfl, nofun⟩
  exact fells_failTiles hstart (failScene_eq_ok hok).2

/-- A request for a failure that is accepted fells what it is about. -/
theorem fells_changeTile (h : Forest s) {force : Bool}
    (hok : (changeTile id .failed message force).exec s = .ok (true, s')) :
    Fells (s.failing .tile id) s s' := by
  obtain ⟨t, x, -, rfl, -, ⟨-, hrejected, -⟩ | ⟨change, hchange, -, s₁, happly, rfl⟩⟩ :=
    changeTile_eq_ok hok
  · cases hrejected
  · obtain rfl := Status.transition_failed hchange
    have hstart : Fells [] s s := ⟨h, splices_of_tiles rfl, nofun⟩
    exact (fells_failTile hstart happly).of_sameRows (sameRows_refreshAoiStatus _ _)

theorem fells_changeScene (h : Forest s) {force : Bool}
    (hok : (changeScene id .failed message force).exec s = .ok (true, s')) :
    Fells (s.failing .scene id) s s' := by
  obtain ⟨x, hx, rfl, ⟨-, hrejected, -⟩ | ⟨change, hchange, -, s₁, happly, rfl⟩⟩ :=
    changeScene_eq_ok hok
  · cases hrejected
  · obtain rfl := Status.transition_failed hchange
    exact (fells_failScene h hx happly).of_sameRows (sameRows_refreshAoiStatus _ _)

end Cascade

end SceneWorkflow
