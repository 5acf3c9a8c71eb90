import Mathlib.Data.List.Induction
import Mathlib.Data.List.Nodup
import Mathlib.Data.List.Perm.Subperm
import SceneWorkflow.KeyMap

/-!
# What maps hold

The entries of a map have different keys, and what a key is found to hold is what its
entry says. A map that has been made from a list holds the last entry of each key.
-/
namespace SceneWorkflow

/-! ### Lists of entries -/

section
variable {α : Type} {entries : List (String × α)} {k : String} {v : α}

theorem mem_of_lookup (h : entries.lookup k = some v) : (k, v) ∈ entries := by
  obtain ⟨before, after, rfl, -⟩ := List.lookup_eq_some_iff.1 h
  exact List.mem_append_right before List.mem_cons_self

theorem mem_keys_of_lookup (h : entries.lookup k = some v) : k ∈ entries.map (·.1) :=
  List.mem_map.2 ⟨(k, v), mem_of_lookup h, rfl⟩

theorem lookup_of_mem (hkeys : (entries.map (·.1)).Nodup) (h : (k, v) ∈ entries) :
    entries.lookup k = some v := by
  induction entries with
  | nil => cases h
  | cons e entries ih =>
    obtain ⟨hnew, hrest⟩ := List.nodup_cons.1 hkeys
    rw [List.lookup_cons]
    cases List.mem_cons.1 h with
    | inl heq => simp [← heq]
    | inr hmem =>
      have hne : k ≠ e.1 := by
        rintro rfl
        exact hnew (List.mem_map.2 ⟨_, hmem, rfl⟩)
      rw [beq_eq_false_iff_ne.2 hne]
      exact ih hrest hmem

theorem lookup_map {β : Type} (f : α → β) (entries : List (String × α)) (k : String) :
    (entries.map fun e => (e.1, f e.2)).lookup k = (entries.lookup k).map f := by
  induction entries with
  | nil => rfl
  | cons e entries ih =>
    rw [List.map_cons, List.lookup_cons, List.lookup_cons, ih]
    cases k == e.1 <;> rfl

/-- A filter of keys keeps what the keys hold that it lets pass. -/
theorem lookup_filter (p : String → Bool) (entries : List (String × α)) (k : String) :
    (entries.filter fun e => p e.1).lookup k = if p k then entries.lookup k else none := by
  induction entries with
  | nil => simp
  | cons e entries ih =>
    rw [List.filter_cons, List.lookup_cons]
    by_cases hkey : k = e.1
    · rw [hkey, beq_self_eq_true, ← hkey]
      split
      · rw [hkey, List.lookup_cons, beq_self_eq_true]
      · rw [ih]
        simp_all
    · rw [beq_eq_false_iff_ne.2 hkey, ← ih]
      split
      · rw [List.lookup_cons, beq_eq_false_iff_ne.2 hkey]
      · rfl

theorem exists_mem_of_mem_keys (h : k ∈ entries.map (·.1)) : ∃ v, (k, v) ∈ entries := by
  obtain ⟨e, he, rfl⟩ := List.mem_map.1 h
  exact ⟨e.2, he⟩

/-- Where no key repeats, the last entry of a key is the first. -/
theorem lookup_reverse (hkeys : (entries.map (·.1)).Nodup) (k : String) :
    entries.reverse.lookup k = entries.lookup k := by
  have hreverse : (entries.reverse.map (·.1)).Nodup := by
    rw [List.map_reverse]
    exact List.nodup_reverse.2 hkeys
  ext v
  constructor
  · intro h
    exact lookup_of_mem hkeys (List.mem_reverse.1 (mem_of_lookup h))
  · intro h
    exact lookup_of_mem hreverse (List.mem_reverse.2 (mem_of_lookup h))

end

namespace KeyMap
variable {α : Type} {m : KeyMap α}

theorem nodup_keys (m : KeyMap α) : m.keys.Nodup := by
  refine List.pairwise_map.2 (m.sorted.imp ?_)
  rintro d e hlt he
  exact String.lt_irrefl _ (he ▸ hlt)

theorem length_keys (m : KeyMap α) : m.keys.length = m.size := List.length_map _

theorem find?_of_mem {e : String × α} (he : e ∈ m.entries) : m.find? e.1 = some e.2 := by
  cases hfind : m.entries.find? fun d => d.1 == e.1 with
  | none => exact absurd (beq_self_eq_true e.1) (List.find?_eq_none.1 hfind e he)
  | some d =>
    have hkey := List.find?_some hfind
    obtain rfl := List.inj_on_of_nodup_map m.nodup_keys (List.mem_of_find?_eq_some hfind) he
      (eq_of_beq hkey)
    rw [find?, hfind, Option.map_some]

theorem mem_of_find? {k : String} {v : α} (h : m.find? k = some v) : (k, v) ∈ m.entries := by
  obtain ⟨e, hfind, rfl⟩ := Option.map_eq_some_iff.1 h
  have hkey := List.find?_some hfind
  rw [← eq_of_beq hkey]
  exact List.mem_of_find?_eq_some hfind

theorem mem_keys {k : String} : k ∈ m.keys ↔ ∃ v, m.find? k = some v := by
  constructor
  · intro hk
    obtain ⟨e, he, rfl⟩ := List.mem_map.1 hk
    exact ⟨e.2, find?_of_mem he⟩
  · rintro ⟨v, hv⟩
    exact List.mem_map.2 ⟨(k, v), mem_of_find? hv, rfl⟩

theorem contains_iff_mem_keys {k : String} : m.contains k ↔ k ∈ m.keys := by
  rw [contains_eq_isSome, Option.isSome_iff_exists, mem_keys]

theorem lookup_entries (m : KeyMap α) (k : String) : m.entries.lookup k = m.find? k := by
  ext v
  constructor
  · intro h
    exact find?_of_mem (mem_of_lookup h)
  · intro h
    exact lookup_of_mem m.nodup_keys (mem_of_find? h)

/-- Of equal keys the last one counts. -/
theorem find?_ofList (entries : List (String × α)) (k : String) :
    (ofList entries).find? k = entries.reverse.lookup k := by
  induction entries using List.reverseRecOn with
  | nil => rfl
  | append_singleton entries e ih =>
    rw [ofList, List.foldl_append, List.foldl_cons, List.foldl_nil, find?_insert, ← ofList, ih,
      List.reverse_append, List.reverse_singleton, List.singleton_append, List.lookup_cons]
    by_cases hkey : e.1 = k
    · simp [hkey]
    · rw [if_neg hkey, beq_eq_false_iff_ne.2 (Ne.symm hkey)]

theorem ext_find? {m n : KeyMap α} (h : ∀ k, m.find? k = n.find? k) : m = n := by
  have hmem (e : String × α) : e ∈ m.entries ↔ e ∈ n.entries :=
    ⟨fun he => mem_of_find? ((h e.1).symm.trans (find?_of_mem he)),
      fun he => mem_of_find? ((h e.1).trans (find?_of_mem he))⟩
  have hperm : m.entries.Perm n.entries :=
    (List.perm_ext_iff_of_nodup m.nodup_keys.of_map n.nodup_keys.of_map).2 hmem
  apply ext
  apply hperm.eq_of_pairwise _ m.sorted n.sorted
  intro a b _ _ hab hba
  exact absurd hba (String.lt_asymm hab)

end KeyMap

end SceneWorkflow
