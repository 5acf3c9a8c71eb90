/-! Maps from names to values, kept as the list of their entries in strictly ascending order of the
names. Names are ordered by code point, which is the order of their UTF-8 bytes. -/

namespace SceneWorkflow

/-- Entries in strictly ascending order of their keys. -/
structure KeyMap (α : Type) where
  entries : List (String × α) := []
  sorted : entries.Pairwise (fun a b => a.1 < b.1) := by exact .nil

namespace KeyMap

variable {α : Type}

theorem ext {m n : KeyMap α} (h : m.entries = n.entries) : m = n := by
  cases m; cases n; cases h; rfl

instance [DecidableEq α] : DecidableEq (KeyMap α) := fun m n =>
  if h : m.entries = n.entries then isTrue (ext h) else isFalse fun e => h (e ▸ rfl)

def empty : KeyMap α := {}

instance : Inhabited (KeyMap α) := ⟨empty⟩

/-- Puts an entry in its place, replacing an entry of the same key. -/
def insertEntry (k : String) (v : α) : List (String × α) → List (String × α)
  | [] => [(k, v)]
  | e :: rest =>
    if k < e.1 then (k, v) :: e :: rest
    else if k = e.1 then (k, v) :: rest
    else e :: insertEntry k v rest

theorem mem_insertEntry {k : String} {v : α} {xs : List (String × α)} {e : String × α}
    (h : e ∈ insertEntry k v xs) : e = (k, v) ∨ e ∈ xs := by
  induction xs with
  | nil => simpa [insertEntry] using h
  | cons x xs ih =>
    unfold insertEntry at h
    split at h
    · simpa using h
    · split at h
      · rcases List.mem_cons.1 h with h | h
        · exact .inl h
        · exact .inr (List.mem_cons_of_mem _ h)
      · rcases List.mem_cons.1 h with h | h
        · exact .inr (h ▸ List.mem_cons_self)
        · exact (ih h).imp_right (List.mem_cons_of_mem _)

theorem sorted_insertEntry (k : String) (v : α) {xs : List (String × α)}
    (h : xs.Pairwise (fun a b => a.1 < b.1)) :
    (insertEntry k v xs).Pairwise (fun a b => a.1 < b.1) := by
  induction xs with
  | nil => simp [insertEntry]
  | cons x xs ih =>
    obtain ⟨hx, hxs⟩ := List.pairwise_cons.1 h
    unfold insertEntry
    split
    · next hk =>
      refine List.pairwise_cons.2 ⟨fun e he => ?_, h⟩
      rcases List.mem_cons.1 he with rfl | he
      · exact hk
      · exact String.lt_trans hk (hx e he)
    · next hk =>
      split
      · next he =>
        exact List.pairwise_cons.2 ⟨fun e h' => he ▸ hx e h', hxs⟩
      · next hne =>
        refine List.pairwise_cons.2 ⟨fun e he => ?_, ih hxs⟩
        rcases mem_insertEntry he with rfl | he
        · exact Std.lt_of_le_of_ne (String.not_lt.1 hk) (Ne.symm hne)
        · exact hx e he

def insert (m : KeyMap α) (k : String) (v : α) : KeyMap α :=
  ⟨insertEntry k v m.entries, sorted_insertEntry k v m.sorted⟩

/-- Enters pairs one after the other, so that the last one of a key counts. -/
def ofList (xs : List (String × α)) : KeyMap α :=
  xs.foldl (fun m e => m.insert e.1 e.2) empty

def find? (m : KeyMap α) (k : String) : Option α :=
  (m.entries.find? fun e => e.1 == k).map (·.2)

def contains (m : KeyMap α) (k : String) : Bool :=
  m.entries.any fun e => e.1 == k

def keys (m : KeyMap α) : List String := m.entries.map (·.1)

def size (m : KeyMap α) : Nat := m.entries.length

theorem insertEntry_of_lt {k : String} {v : α} {xs : List (String × α)}
    (h : ∀ e ∈ xs, e.1 < k) : insertEntry k v xs = xs ++ [(k, v)] := by
  induction xs with
  | nil => rfl
  | cons x xs ih =>
    have hx := h x List.mem_cons_self
    have h1 : ¬ k < x.1 := String.lt_asymm hx
    have h2 : k ≠ x.1 := fun e => String.lt_irrefl _ (e ▸ hx)
    simp [insertEntry, h1, h2, ih fun e he => h e (List.mem_cons_of_mem _ he)]

theorem foldl_insert_entries (m : KeyMap α) (xs : List (String × α))
    (h : (m.entries ++ xs).Pairwise (fun a b => a.1 < b.1)) :
    (xs.foldl (fun m e => m.insert e.1 e.2) m).entries = m.entries ++ xs := by
  induction xs generalizing m with
  | nil => simp
  | cons x xs ih =>
    have hins : (m.insert x.1 x.2).entries = m.entries ++ [x] :=
      insertEntry_of_lt fun e he => (List.pairwise_append.1 h).2.2 e he x List.mem_cons_self
    rw [List.foldl_cons, ih]
    · simp [hins]
    · rw [hins]; simpa using h

theorem any_insertEntry (k : String) (v : α) (xs : List (String × α)) (j : String) :
    (insertEntry k v xs).any (fun e => e.1 == j) = (k == j || xs.any fun e => e.1 == j) := by
  induction xs with
  | nil => rfl
  | cons x xs ih =>
    unfold insertEntry
    split
    · rfl
    · split
      · next hk => cases h : k == j <;> simp [← hk, h]
      · simp [ih, Bool.or_left_comm]

theorem contains_insert (m : KeyMap α) (k : String) (v : α) (j : String) :
    (m.insert k v).contains j = (k == j || m.contains j) :=
  any_insertEntry k v m.entries j

theorem contains_eq_isSome (m : KeyMap α) (k : String) : m.contains k = (m.find? k).isSome := by
  rw [contains, find?, Option.isSome_map, List.isSome_find?]

theorem find?_insertEntry (k : String) (v : α) (xs : List (String × α)) (j : String) :
    ((insertEntry k v xs).find? fun e => e.1 == j).map (·.2) =
      if k = j then some v else (xs.find? fun e => e.1 == j).map (·.2) := by
  induction xs with
  | nil => by_cases hj : k = j <;> simp [insertEntry, hj]
  | cons x xs ih =>
    unfold insertEntry
    split
    · by_cases hj : k = j <;> simp [List.find?_cons, hj]
    · split
      · next hk => by_cases hj : k = j <;> simp [← hk, hj]
      · next hk =>
        by_cases hx : x.1 = j
        · have hj : k ≠ j := fun he => hk (he.trans hx.symm)
          simp [hx, hj]
        · have hne : (x.1 == j) = false := beq_eq_false_iff_ne.2 hx
          rw [List.find?_cons, hne, ih, List.find?_cons, hne]

theorem find?_insert (m : KeyMap α) (k : String) (v : α) (j : String) :
    (m.insert k v).find? j = if k = j then some v else m.find? j :=
  find?_insertEntry k v m.entries j

/-- Entering the entries of a map in order gives back the map. -/
theorem ofList_entries (m : KeyMap α) : ofList m.entries = m :=
  ext (foldl_insert_entries empty m.entries m.sorted)

end KeyMap

end SceneWorkflow
