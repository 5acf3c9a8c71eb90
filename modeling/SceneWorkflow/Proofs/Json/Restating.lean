import Mathlib.Data.List.Forall2
import SceneWorkflow.Json.Canonical
import SceneWorkflow.Proofs.Json.Records
import SceneWorkflow.Proofs.Json.Spelling
import SceneWorkflow.Proofs.KeyMap.Lookup

/-!
# Documents in canonical form

The canonical form of a document restates it: texts and truth values are the same,
elements are restated in their order, and every key has what its last member says,
wherever it stands. Numbers are as their canonical form has them.
-/
namespace SceneWorkflow.Json

def last? (members : List (String × Json)) (key : String) : Option Json :=
  members.reverse.lookup key

/-- A document says the same as another. Members may stand in another order, each key once. -/
inductive Restates : Json → Json → Prop where
  | null : Restates null null
  | bool (b : Bool) : Restates (bool b) (bool b)
  | num {n m : Numeral} (h : n.canonical? = some m) : Restates (num n) (num m)
  | text (s : String) : Restates (ofString s) (ofString s)
  | arr {xs ys : List Json} (hlength : xs.length = ys.length)
      (h : ∀ p ∈ xs.zip ys, Restates p.1 p.2) : Restates (arr xs) (arr ys)
  | obj {members fields : List (String × Json)} (hkeys : (fields.map (·.1)).Nodup)
      (hsame : ∀ key, (last? members key).isSome = (fields.lookup key).isSome)
      (h : ∀ key x y, last? members key = some x → fields.lookup key = some y → Restates x y) :
      Restates (record members) (record fields)

/-! ### Canonical forms restate -/

theorem forall₂_of_canonicalElements {depth : Nat} {xs ys : List Json}
    (h : canonicalElements depth xs = some ys) :
    List.Forall₂ (fun x y => canonicalWithin depth x = some y) xs ys := by
  induction xs generalizing ys with
  | nil =>
    cases h
    exact .nil
  | cons x xs ih =>
    obtain ⟨y, hy, h⟩ := Option.bind_eq_some_iff.1 h
    obtain ⟨ys, hys, rfl⟩ := Option.map_eq_some_iff.1 h
    exact .cons hy (ih hys)

/-- The members of an object that has a canonical form have texts as keys. -/
theorem forall₂_of_canonicalMembers {depth : Nat} {ms ns : List (Option String × Json)}
    (h : canonicalMembers depth ms = some ns) :
    ∃ members named : List (String × Json), ms = members.map (fun m => (some m.1, m.2)) ∧
      ns = named.map (fun m => (some m.1, m.2)) ∧
      List.Forall₂ (fun m n => m.1 = n.1 ∧ canonicalWithin depth m.2 = some n.2) members named := by
  induction ms generalizing ns with
  | nil =>
    cases h
    exact ⟨[], [], rfl, rfl, .nil⟩
  | cons m ms ih =>
    obtain ⟨n, hn, h⟩ := Option.bind_eq_some_iff.1 h
    obtain ⟨ns, hns, rfl⟩ := Option.map_eq_some_iff.1 h
    obtain ⟨members, named, rfl, rfl, hrest⟩ := ih hns
    obtain ⟨key, value⟩ := m
    obtain ⟨key, rfl, hn⟩ := Option.bind_eq_some_iff.1 hn
    obtain ⟨y, hy, rfl⟩ := Option.map_eq_some_iff.1 hn
    exact ⟨(key, value) :: members, (key, y) :: named, rfl, rfl, .cons ⟨rfl, hy⟩ hrest⟩

theorem rel_lookup {R : Json → Json → Prop} {members named : List (String × Json)}
    (h : List.Forall₂ (fun m n => m.1 = n.1 ∧ R m.2 n.2) members named) (key : String) :
    Option.Rel R (members.lookup key) (named.lookup key) := by
  induction h with
  | nil => exact .none
  | @cons m n members named hmn _ ih =>
    rw [List.lookup_cons, List.lookup_cons, ← hmn.1]
    cases key == m.1 with
    | true => exact .some hmn.2
    | false => exact ih

theorem isSome_eq_of_rel {R : Json → Json → Prop} {x y : Option Json} (h : Option.Rel R x y) :
    x.isSome = y.isSome := by
  cases h <;> rfl

theorem rel_of_isSome_eq {R : Json → Json → Prop} {x y : Option Json} (hsame : x.isSome = y.isSome)
    (h : ∀ a b, x = some a → y = some b → R a b) : Option.Rel R x y := by
  cases x with
  | none =>
    cases y with
    | none => exact .none
    | some b => cases hsame
  | some a =>
    cases y with
    | none => cases hsame
    | some b => exact .some (h a b rfl rfl)

theorem restates_of_leaf {depth : Nat} {j c : Json} (h : canonicalWithin depth j = some c)
    (harr : ∀ xs, j ≠ arr xs) (hobj : ∀ ms, j ≠ obj ms) : Restates j c := by
  cases j with
  | null =>
    cases h
    exact .null
  | bool b =>
    cases h
    exact .bool b
  | num n =>
    obtain ⟨m, hm, rfl⟩ := Option.map_eq_some_iff.1 h
    exact .num hm
  | str t =>
    obtain ⟨s, rfl, rfl⟩ := Option.map_eq_some_iff.1 h
    exact .text s
  | arr xs => exact absurd rfl (harr xs)
  | obj ms => exact absurd rfl (hobj ms)

/-- The members are sorted into a map, in which the last of equal keys counts. -/
theorem restates_record {R : Json → Json → Prop} {members named : List (String × Json)}
    (h : List.Forall₂ (fun m n => m.1 = n.1 ∧ R m.2 n.2) members named)
    (hR : ∀ x y, R x y → Restates x y) :
    Restates (record members) (record (KeyMap.ofList named).entries) := by
  have hrel (key : String) :
      Option.Rel R (last? members key) ((KeyMap.ofList named).entries.lookup key) := by
    rw [KeyMap.lookup_entries, KeyMap.find?_ofList]
    exact rel_lookup (List.rel_reverse h) key
  refine .obj (KeyMap.nodup_keys _) (fun key => ?_) (fun key x y hx hy => ?_)
  · exact isSome_eq_of_rel (hrel key)
  · have hkey := hrel key
    rw [hx, hy] at hkey
    cases hkey with
    | some hxy => exact hR x y hxy

/-- The canonical form of a document restates it. The induction is on the depth. -/
theorem restates_of_canonicalWithin {depth : Nat} {j c : Json}
    (h : canonicalWithin depth j = some c) : Restates j c := by
  induction depth generalizing j c with
  | zero =>
    refine restates_of_leaf h ?_ ?_ <;> rintro _ rfl <;> cases h
  | succ depth ih =>
    cases j with
    | arr xs =>
      obtain ⟨ys, hys, rfl⟩ := Option.map_eq_some_iff.1 h
      obtain ⟨hlength, hzip⟩ := List.forall₂_iff_zip.1 (forall₂_of_canonicalElements hys)
      exact .arr hlength fun p hp => ih (hzip hp)
    | obj ms =>
      obtain ⟨ns, hns, h⟩ := Option.bind_eq_some_iff.1 h
      obtain ⟨members, named, rfl, rfl, hmembers⟩ := forall₂_of_canonicalMembers hns
      rw [sortMembers?, mapM_key] at h
      cases h
      exact restates_record hmembers fun _ _ => ih
    | null | bool _ | num _ | str _ =>
      refine restates_of_leaf h ?_ ?_ <;> intro _ hne <;> cases hne

namespace Restates
variable {j c : Json}

theorem legible (h : Restates j c) (hj : j.Legible) : c.Legible := by
  induction h with
  | null => exact .null
  | bool b => exact .bool b
  | num h =>
    cases hj with
    | num hn => exact .num (Numeral.wellformed_of_canonical? hn h)
  | text s => exact .str _
  | @arr xs ys hlength _ ih =>
    cases hj with
    | arr hxs =>
      refine .arr fun y hy => ?_
      obtain ⟨i, hi, rfl⟩ := List.mem_iff_getElem.1 hy
      have hmem : (xs[i], ys[i]) ∈ xs.zip ys := by
        rw [List.mem_iff_getElem]
        exact ⟨i, by simp [hlength, hi], by simp⟩
      exact ih _ hmem (hxs _ (List.getElem_mem _))
  | @obj members fields hkeys hsame _ ih =>
    cases hj with
    | obj hmembers =>
      refine .obj fun m hm => ?_
      obtain ⟨f, hf, rfl⟩ := List.mem_map.1 hm
      have hfield := lookup_of_mem hkeys hf
      have hthere : (last? members f.1).isSome := by rw [hsame, hfield]; rfl
      obtain ⟨x, hx⟩ := Option.isSome_iff_exists.1 hthere
      have hmem := List.mem_reverse.1 (mem_of_lookup hx)
      exact ih f.1 x f.2 hx hfield (hmembers _ (List.mem_map_of_mem hmem))

end Restates

/-! ### Records that are restated -/

/-- Fields hold what restates the members of the same name. -/
structure Matches (members fields : List (String × Json)) : Prop where
  members_nodup : (members.map (·.1)).Nodup
  fields_nodup : (fields.map (·.1)).Nodup
  rel : ∀ key, Option.Rel Restates (members.lookup key) (fields.lookup key)

section
variable {members fields : List (String × Json)}

theorem Matches.restates (h : Matches members fields) : Restates (record members) (record fields) := by
  have hlast (key : String) : last? members key = members.lookup key :=
    lookup_reverse h.members_nodup key
  refine .obj h.fields_nodup (fun key => ?_) (fun key x y hx hy => ?_)
  · rw [hlast]
    exact isSome_eq_of_rel (h.rel key)
  · have hkey := h.rel key
    rw [← hlast, hx, hy] at hkey
    cases hkey with
    | some hxy => exact hxy

theorem Matches.filter {members fields : List (String × Json)} (h : Matches members fields)
    (p : String → Bool) :
    Matches (members.filter fun m => p m.1) (fields.filter fun m => p m.1) where
  members_nodup := h.members_nodup.sublist (List.filter_sublist.map _)
  fields_nodup := h.fields_nodup.sublist (List.filter_sublist.map _)
  rel := by
    intro key
    rw [lookup_filter, lookup_filter]
    split
    · exact h.rel key
    · exact .none

theorem record_inj (h : record members = record fields) : members = fields := by
  have hmap := obj.inj h
  refine List.map_injective_iff.2 ?_ hmap
  rintro ⟨key, x⟩ ⟨key', y⟩ heq
  simpa using heq

theorem Restates.exists_fields {c : Json} (h : Restates (record members) c)
    (hmembers : (members.map (·.1)).Nodup) : ∃ fields, c = record fields ∧ Matches members fields := by
  generalize hj : record members = j at h
  cases h with
  | @obj members' fields hkeys hsame h =>
    obtain rfl := record_inj hj
    refine ⟨fields, rfl, hmembers, hkeys, fun key => ?_⟩
    rw [← lookup_reverse hmembers key]
    exact rel_of_isSome_eq (hsame key) (h key)
  | _ => cases hj

end

/-! ### Values that are read from what restates them -/

/-- Whatever restates the document is read as the value. -/
def Reads {α : Type} (d : Json → Option α) (j : Json) (a : α) : Prop :=
  ∀ c, Restates j c → d c = some a

theorem eq_of_restates_ofInt {k : Int} (hk : Fits64 k) {c : Json} (h : Restates (ofInt k) c) :
    c = ofInt k := by
  generalize hj : ofInt k = j at h
  cases h with
  | @num n m hm =>
    cases hj
    rw [Numeral.canonical?, if_pos (isInteger_ofInt hk)] at hm
    cases hm
    rfl
  | _ => cases hj

theorem eq_of_restates_ofString {s : String} {c : Json} (h : Restates (ofString s) c) :
    c = ofString s := by
  generalize hj : ofString s = j at h
  cases h with
  | text t => rfl
  | _ => cases hj

theorem eq_of_restates_null {c : Json} (h : Restates null c) : c = null := by
  generalize hj : null = j at h
  cases h with
  | null => rfl
  | _ => cases hj

theorem eq_null_of_restates {j : Json} (h : Restates j null) : j = null := by
  generalize hc : null = c at h
  cases h with
  | null => rfl
  | _ => cases hc

theorem Plain.field {depth : Nat} {fields : List (String × Json)}
    (h : Plain (depth + 1) (Json.record fields)) : ∀ f ∈ fields, Plain depth f.2 := by
  generalize hj : Json.record fields = j at h
  cases h with
  | @record _ fields' hfields =>
    obtain rfl := record_inj hj
    exact hfields
  | _ => cases hj

theorem Plain.restated {depth : Nat} {j c : Json} (h : Plain depth j) (hc : Restates j c) :
    Plain depth c := by
  induction h generalizing c with
  | null depth =>
    rw [eq_of_restates_null hc]
    exact .null depth
  | text depth s =>
    rw [eq_of_restates_ofString hc]
    exact .text depth s
  | int depth h =>
    rw [eq_of_restates_ofInt h hc]
    exact .int depth h
  | @record depth members _ ih =>
    generalize hj : Json.record members = j at hc
    cases hc with
    | @obj members' fields hkeys hsame h =>
      obtain rfl := record_inj hj
      refine .record fun f hf => ?_
      have hfield := lookup_of_mem hkeys hf
      obtain ⟨x, hx⟩ := Option.isSome_iff_exists.1 ((hsame f.1).trans (congrArg _ hfield))
      exact ih _ (List.mem_reverse.1 (mem_of_lookup hx)) (h f.1 x f.2 hx hfield)
    | _ => cases hj

theorem reads_string (s : String) : Reads string? (ofString s) s := by
  intro c hc
  rw [eq_of_restates_ofString hc, string?_ofString]

theorem reads_int64 {k : Int} (hk : Fits64 k) : Reads int64? (ofInt k) k := by
  intro c hc
  rw [eq_of_restates_ofInt hk hc, int64?_ofInt hk]

theorem reads_int32 (n : Int32) : Reads int32? (ofInt32 n) n := by
  obtain ⟨hmin, hmax⟩ := int32_bounds n
  intro c hc
  rw [eq_of_restates_ofInt ⟨by omega, by omega⟩ hc]
  exact int32?_ofInt32 n

namespace Reads
variable {α : Type} {d : Json → Option α} {j : Json} {a : α} {members fields : List (String × Json)}

theorem required (h : Reads d j a) (hfields : Matches members fields) (key : String)
    (hkey : members.lookup key = some j) : required d (fields.lookup key) = some a := by
  have hrel := hfields.rel key
  rw [hkey] at hrel
  generalize fields.lookup key = field at hrel
  cases hrel with
  | some hc => exact h _ hc

theorem withDefault (h : Reads d j a) (hfields : Matches members fields) (key : String)
    (hkey : members.lookup key = some j) (b : α) :
    withDefault b d (fields.lookup key) = some a := by
  have hrel := hfields.rel key
  rw [hkey] at hrel
  generalize fields.lookup key = field at hrel
  cases hrel with
  | some hc => exact h _ hc

theorem optional {f : α → Json} {o : Option α} (h : ∀ a ∈ o, Reads d (f a) a)
    (hnull : ∀ a, f a ≠ null) (hfields : Matches members fields) (key : String)
    (hkey : members.lookup key = o.map f) : optional d (fields.lookup key) = some o := by
  have hrel := hfields.rel key
  rw [hkey] at hrel
  generalize fields.lookup key = field at hrel
  cases o with
  | none =>
    cases hrel
    rfl
  | some a =>
    cases hrel with
    | @some _ c hc =>
      apply optional_some (h a rfl c hc)
      rintro rfl
      exact hnull a (eq_null_of_restates hc)

end Reads

theorem mapM_member? {α : Type} {d : Json → Option α} {P : String → α → Prop}
    {fields : List (String × Json)} (h : ∀ f ∈ fields, ∃ a, d f.2 = some a ∧ P f.1 a) :
    ∃ entries : List (String × α),
      (fields.map fun f => ((some f.1 : Option String), f.2)).mapM (member? d) = some entries ∧
      entries.map (·.1) = fields.map (·.1) ∧ ∀ e ∈ entries, P e.1 e.2 := by
  induction fields with
  | nil => exact ⟨[], rfl, rfl, nofun⟩
  | cons f fields ih =>
    obtain ⟨⟨a, ha, hP⟩, hrest⟩ := List.forall_mem_cons.1 h
    obtain ⟨entries, hentries, hkeys, hall⟩ := ih hrest
    refine ⟨(f.1, a) :: entries, ?_, ?_, List.forall_mem_cons.2 ⟨hP, hall⟩⟩
    · simp [member?, ha, hentries]
    · simp [hkeys]

theorem reads_map {α : Type} {f : α → Json} {d : Json → Option α} (h : ∀ a, Reads d (f a) a)
    (m : KeyMap α) : Reads (map? d) (ofMap f m) m := by
  intro c hc
  have hmembers : ((m.entries.map fun e => (e.1, f e.2)).map (·.1)).Nodup := by
    rw [List.map_map]
    exact m.nodup_keys
  obtain ⟨fields, rfl, hfields⟩ := hc.exists_fields hmembers
  have hrel (key : String) : Option.Rel Restates ((m.find? key).map f) (fields.lookup key) := by
    rw [← m.lookup_entries, ← lookup_map]
    exact hfields.rel key
  have hread : ∀ e ∈ fields, ∃ a, d e.2 = some a ∧ m.find? e.1 = some a := by
    intro e he
    have hkey := hrel e.1
    rw [lookup_of_mem hfields.fields_nodup he] at hkey
    cases hfind : m.find? e.1 with
    | none => simp [hfind] at hkey
    | some a =>
      rw [hfind, Option.map_some, Option.rel_some_some] at hkey
      exact ⟨a, h a _ hkey, rfl⟩
  obtain ⟨entries, hentries, hkeys, hholds⟩ :=
    mapM_member? (P := fun key a => m.find? key = some a) hread
  have hnodup : (entries.map (·.1)).Nodup := hkeys ▸ hfields.fields_nodup
  have hsame : KeyMap.ofList entries = m := by
    apply KeyMap.ext_find?
    intro key
    rw [KeyMap.find?_ofList, lookup_reverse hnodup]
    ext a
    constructor
    · intro hlookup
      exact hholds _ (mem_of_lookup hlookup)
    · intro hfind
      have hthere : key ∈ fields.map (·.1) := by
        obtain ⟨y, hy⟩ : ∃ y, fields.lookup key = some y := by
          rw [← Option.isSome_iff_exists, ← isSome_eq_of_rel (hrel key), hfind]
          rfl
        exact mem_keys_of_lookup hy
      obtain ⟨b, hb⟩ := exists_mem_of_mem_keys (hkeys ▸ hthere)
      cases hfind.symm.trans (hholds _ hb)
      exact lookup_of_mem hnodup hb
  show (_ : Option _).map KeyMap.ofList = some m
  rw [hentries, Option.map_some, hsame]

end SceneWorkflow.Json
