import SceneWorkflow.Json.Canonical
import SceneWorkflow.Json.Record
import SceneWorkflow.Proofs.Json.Reading

/-!
# Typed values as documents

What typed values are written as: texts, integers of 64 bits, `null`, and records of
these. Such documents can be read from their text, have a canonical form, and give
back the fields they were made of.
-/
namespace SceneWorkflow.Json

def Fits64 (k : Int) : Prop := -9223372036854775808 ≤ k ∧ k ≤ 9223372036854775807

instance (k : Int) : Decidable (Fits64 k) := inferInstanceAs (Decidable (_ ∧ _))

theorem int32_bounds (n : Int32) : -2147483648 ≤ n.toInt ∧ n.toInt ≤ 2147483647 :=
  ⟨n.minValue_le_toInt, n.toInt_le⟩

/-- A document made of texts, integers of 64 bits and records that nest at most so deep. -/
inductive Plain : Nat → Json → Prop where
  | null (depth : Nat) : Plain depth null
  | text (depth : Nat) (s : String) : Plain depth (ofString s)
  | int (depth : Nat) {k : Int} (h : Fits64 k) : Plain depth (ofInt k)
  | record {depth : Nat} {fields : List (String × Json)} (h : ∀ f ∈ fields, Plain depth f.2) :
      Plain (depth + 1) (record fields)

namespace Plain
variable {depth : Nat}

theorem int32 (depth : Nat) (n : Int32) : Plain depth (ofInt32 n) := by
  obtain ⟨hmin, hmax⟩ := int32_bounds n
  exact .int depth ⟨by omega, by omega⟩

theorem ofMap {f : α → Json} (hf : ∀ a, Plain depth (f a)) (m : KeyMap α) :
    Plain (depth + 1) (ofMap f m) := by
  refine .record fun x hx => ?_
  obtain ⟨e, -, rfl⟩ := List.mem_map.1 hx
  exact hf e.2

theorem ofOption {f : α → Json} (hf : ∀ a, Plain depth (f a)) (o : Option α) :
    Plain depth (ofOption f o) := by
  cases o with
  | none => exact .null depth
  | some a => exact hf a

theorem legible {j : Json} (h : Plain depth j) : j.Legible := by
  induction h with
  | null => exact .null
  | text => exact .str _
  | @int _ k => exact .num (Numeral.wellformed_ofInt k)
  | record _ ih =>
    refine .obj fun m hm => ?_
    obtain ⟨f, hf, rfl⟩ := List.mem_map.1 hm
    exact ih f hf

theorem parse_print {j : Json} (h : Plain depth j) : parse j.print = some j := h.legible.parse_print

end Plain

/-! ### Canonical forms -/

theorem mapM_key (fields : List (String × Json)) :
    (fields.map fun f => ((some f.1 : Option String), f.2)).mapM
      (fun m => m.1.map fun key => (key, m.2)) = some fields := by
  induction fields with
  | nil => rfl
  | cons f fields ih =>
    rw [List.map_cons, List.mapM_cons, ih]
    rfl

theorem isInteger_ofInt {k : Int} (h : Fits64 k) : (Numeral.ofInt k).isInteger = true := by
  unfold Numeral.isInteger
  rw [Numeral.int?_ofInt]
  exact decide_eq_true ⟨h.1, Int.le_trans h.2 (by decide)⟩

theorem canonicalMembers_isSome {depth : Nat} {fields : List (String × Json)}
    (h : ∀ f ∈ fields, (canonicalWithin depth f.2).isSome) :
    ∃ named : List (String × Json), canonicalMembers depth (fields.map fun f => (some f.1, f.2)) =
      some (named.map fun f => (some f.1, f.2)) := by
  induction fields with
  | nil => exact ⟨[], rfl⟩
  | cons f fields ih =>
    obtain ⟨value, hvalue⟩ := Option.isSome_iff_exists.1 (h f List.mem_cons_self)
    obtain ⟨named, hnamed⟩ := ih fun g hg => h g (List.mem_cons_of_mem f hg)
    refine ⟨(f.1, value) :: named, ?_⟩
    rw [List.map_cons, canonicalMembers, canonicalMember, hvalue, hnamed]
    rfl

theorem Plain.canonicalWithin_isSome {depth : Nat} {j : Json} (h : Plain depth j) :
    (canonicalWithin depth j).isSome := by
  induction h with
  | null => rfl
  | text => rfl
  | @int depth k h =>
    show ((Numeral.ofInt k).canonical?.map num).isSome
    rw [Numeral.canonical?, if_pos (isInteger_ofInt h)]
    rfl
  | @record depth fields _ ih =>
    obtain ⟨named, hnamed⟩ := canonicalMembers_isSome ih
    show ((canonicalMembers depth (fields.map fun f => (some f.1, f.2))).bind fun ms =>
      (sortMembers? ms).map obj).isSome
    rw [hnamed, Option.bind_some, sortMembers?, mapM_key]
    rfl

/-! ### Fields -/

section
variable {fields : List (String × Json)} (h : (fields.map (·.1)).Nodup)
include h

/-- Where no key repeats, a key has its value, or is missing. -/
theorem only?_eq_lookup (key : String) : only? fields key = some (fields.lookup key) := by
  induction fields with
  | nil => rfl
  | cons f fields ih =>
    obtain ⟨hnew, hrest⟩ := List.nodup_cons.1 h
    have ih := ih hrest
    unfold only? at ih ⊢
    rw [List.filter_cons, List.lookup_cons]
    cases hkey : f.1 == key with
    | false =>
      rw [beq_eq_false_iff_ne] at hkey
      rw [if_neg Bool.false_ne_true, ih, beq_eq_false_iff_ne.2 (Ne.symm hkey)]
    | true =>
      obtain rfl := eq_of_beq hkey
      have hnone : fields.filter (fun m => m.1 == f.1) = [] := by
        refine List.filter_eq_nil_iff.2 fun m hm heq => hnew ?_
        exact List.mem_map.2 ⟨m, hm, eq_of_beq heq⟩
      rw [if_pos rfl, hnone, beq_self_eq_true]

theorem fields?_record (names : List String) :
    (record fields).fields? names = some (names.map fun name => fields.lookup name) := by
  show ((fields.map fun f => (some f.1, f.2)).mapM _ >>= fun named => names.mapM (only? named)) = _
  rw [mapM_key]
  show names.mapM (only? fields) = _
  induction names with
  | nil => rfl
  | cons name names ih =>
    rw [List.mapM_cons, only?_eq_lookup h, ih]
    rfl

end

/-! ### Values -/

@[simp]
theorem string?_ofString (s : String) : (ofString s).string? = some s := rfl

theorem intBetween?_ofInt {lo hi k : Int} (h : lo ≤ k ∧ k ≤ hi) :
    intBetween? lo hi (ofInt k) = some k := by
  show ((Numeral.ofInt k).int?.bind _) = _
  rw [Numeral.int?_ofInt]
  exact if_pos h

theorem int64?_ofInt {k : Int} (h : Fits64 k) : (ofInt k).int64? = some k := intBetween?_ofInt h

theorem fits64_of_int64? {j : Json} {k : Int} (h : j.int64? = some k) : Fits64 k := by
  cases j with
  | num n =>
    obtain ⟨i, -, hi⟩ := Option.bind_eq_some_iff.1 h
    split at hi
    next hbounds =>
      cases hi
      exact hbounds
    next => cases hi
  | null | bool _ | str _ | arr _ | obj _ => cases h

@[simp]
theorem int32?_ofInt32 (n : Int32) : (ofInt32 n).int32? = some n := by
  unfold int32? ofInt32
  rw [intBetween?_ofInt (int32_bounds n)]
  exact congrArg some (Int32.ofInt_toInt n)

/-- A map is read from its entries if every value is read from what it is written as. -/
theorem map?_ofMap {f : α → Json} {d : Json → Option α} (hd : ∀ a, d (f a) = some a)
    (m : KeyMap α) : map? d (ofMap f m) = some m := by
  have hentries : ∀ entries : List (String × α),
      ((entries.map fun e => (e.1, f e.2)).map fun e => ((some e.1 : Option String), e.2)).mapM
        (member? d) = some entries := by
    intro entries
    induction entries with
    | nil => rfl
    | cons e entries ih =>
      rw [List.map_cons, List.map_cons, List.mapM_cons, ih]
      show ((d (f e.2)).bind fun value => some (e.1, value)).bind _ = _
      rw [hd]
      rfl
  have hmap := congrArg (Option.map KeyMap.ofList) (hentries m.entries)
  exact hmap.trans (congrArg some m.ofList_entries)

section
variable (d : Json → Option α)

@[simp]
theorem required_some (j : Json) : required d (some j) = d j := rfl

theorem fits64_of_required {field : Option Json} {k : Int} (h : required int64? field = some k) :
    Fits64 k := by
  obtain ⟨j, -, hj⟩ := Option.bind_eq_some_iff.1 h
  exact fits64_of_int64? hj

@[simp]
theorem withDefault_some (a : α) (j : Json) : withDefault a d (some j) = d j := rfl

@[simp]
theorem optional_none : optional d none = some none := rfl

end

theorem record_ne_null (fields : List (String × Json)) : record fields ≠ null := nofun

theorem optional_some {d : Json → Option α} {j : Json} {a : α} (hd : d j = some a)
    (hnull : j ≠ null) : optional d (some j) = some (some a) := by
  unfold optional
  split
  next heq => cases heq
  next heq =>
    cases heq
    exact absurd rfl hnull
  next heq =>
    cases heq
    rw [hd]
    rfl

theorem optional_ofOption {f : α → Json} {d : Json → Option α} (hd : ∀ a, d (f a) = some a)
    (hnull : ∀ a, f a ≠ null) (o : Option α) : optional d (some (ofOption f o)) = some o := by
  cases o with
  | none => rfl
  | some a => exact optional_some (hd a) (hnull a)

/-- A field that is left out where there is nothing to write. -/
theorem optional_map {f : α → Json} {d : Json → Option α} {o : Option α}
    (hd : ∀ a ∈ o, d (f a) = some a) (hnull : ∀ a, f a ≠ null) :
    optional d (o.map f) = some o := by
  cases o with
  | none => rfl
  | some a => exact optional_some (hd a rfl) (hnull a)

theorem exists_of_optional {d : Json → Option α} {field : Option Json} {a : α}
    (h : optional d field = some (some a)) : ∃ j, d j = some a := by
  unfold optional at h
  split at h
  · cases h
  · cases h
  · next j _ =>
    obtain ⟨b, hb, heq⟩ := Option.map_eq_some_iff.1 h
    cases heq
    exact ⟨j, hb⟩

end SceneWorkflow.Json
