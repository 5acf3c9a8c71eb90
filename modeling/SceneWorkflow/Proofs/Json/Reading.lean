import SceneWorkflow.Proofs.Json.Tokens

/-!
# Documents are read as they are written

The compact text of a document whose numbers are spelled as the grammar wants it is
read as that document, every element and member from its place. The induction is over
the document; fuel for all of its text is enough.
-/
namespace SceneWorkflow.Json

/-- All numbers of a document are spelled as the grammar wants it. -/
inductive Legible : Json → Prop where
  | null : Legible null
  | bool (b : Bool) : Legible (bool b)
  | num {n : Numeral} (h : n.Wellformed) : Legible (num n)
  | str (t : Option String) : Legible (str t)
  | arr {xs : List Json} (h : ∀ x ∈ xs, Legible x) : Legible (arr xs)
  | obj {ms : List (Option String × Json)} (h : ∀ m ∈ ms, Legible m.2) : Legible (obj ms)

def Opens (c : Char) : Prop := isBlank c = false ∧ c ≠ ']' ∧ c ≠ '\x7d'

instance (c : Char) : Decidable (Opens c) := inferInstanceAs (Decidable (_ ∧ _))

theorem opens_of_isDigit {c : Char} (h : c.isDigit = true) : Opens c := by
  refine ⟨Bool.eq_false_iff.2 fun hblank => ?_, ?_, ?_⟩
  · simp only [isBlank, Bool.or_eq_true, beq_iff_eq] at hblank
    rcases hblank with ((rfl | rfl) | rfl) | rfl <;> cases h
  · rintro rfl
    cases h
  · rintro rfl
    cases h

theorem Legible.opens {j : Json} (h : j.Legible) : ∃ c s, j.chars = c :: s ∧ Opens c := by
  cases h with
  | null => exact ⟨_, _, rfl, by decide⟩
  | bool b => cases b <;> exact ⟨_, _, rfl, by decide⟩
  | @num n h =>
    obtain ⟨c, s, hchars, hc⟩ := h.text_cons
    refine ⟨c, s, hchars, ?_⟩
    rcases hc with rfl | hc
    · decide
    · exact opens_of_isDigit hc
  | str t =>
    obtain ⟨s, hs, -⟩ := scanText_quote t []
    exact ⟨'"', s, hs, by decide⟩
  | @arr xs _ => cases xs <;> exact ⟨_, _, rfl, by decide⟩
  | @obj ms _ => cases ms <;> exact ⟨_, _, rfl, by decide⟩

theorem skipBlank_of_opens {c : Char} (h : Opens c) (s : List Char) :
    skipBlank (c :: s) = c :: s := by
  rw [skipBlank, List.dropWhile_cons, h.1, if_neg Bool.false_ne_true]

theorem Closes.skipBlank_eq {r : List Char} (h : Closes r) : skipBlank r = r :=
  (h.stops rfl rfl rfl).dropWhile

theorem scanValue_number {c : Char} (hc : c = '-' ∨ c.isDigit = true) (fuel : Nat)
    (s : List Char) :
    scanValue (fuel + 1) (c :: s) = (Numeral.scan (c :: s)).map fun x => (.num x.1, x.2) := by
  unfold scanValue
  split
  case h_7 => rfl
  all_goals
    next heq =>
      cases heq
      rcases hc with hc | hc <;> cases hc

theorem scanValue_array {c : Char} (hc : Opens c) (fuel : Nat) (s : List Char) :
    scanValue (fuel + 1) ('[' :: c :: s) =
      (scanElements fuel (c :: s)).map fun x => (.arr x.1, x.2) := by
  unfold scanValue
  simp only [skipBlank_of_opens hc]
  split
  next heq =>
    cases heq
    exact absurd rfl hc.2.1
  next => rfl

theorem scanValue_object {c : Char} (hc : Opens c) (fuel : Nat) (s : List Char) :
    scanValue (fuel + 1) ('\x7b' :: c :: s) =
      (scanMembers fuel (c :: s)).map fun x => (.obj x.1, x.2) := by
  unfold scanValue
  simp only [skipBlank_of_opens hc]
  split
  next heq =>
    cases heq
    exact absurd rfl hc.2.2
  next => rfl

/-- A document is read from its text and what may follow it, given fuel for all of the text. -/
def Scans (j : Json) : Prop :=
  ∀ fuel r, Closes r → j.chars.length ≤ fuel → scanValue (fuel + 1) (j.chars ++ r) = some (j, r)

section
variable {j : Json} (h : j.Legible)
include h

theorem Legible.skipBlank_chars (r : List Char) : skipBlank (j.chars ++ r) = j.chars ++ r := by
  obtain ⟨c, s, hchars, hc⟩ := h.opens
  rw [hchars]
  exact skipBlank_of_opens hc _

theorem Legible.chars_pos : 0 < j.chars.length := by
  obtain ⟨c, s, hchars, -⟩ := h.opens
  rw [hchars]
  exact Nat.succ_pos _

end

theorem scanElements_succ {x : Json} (h : x.Scans) {fuel : Nat} (hfuel : x.chars.length < fuel)
    {r : List Char} :
    Closes r → scanElements (fuel + 1) (x.chars ++ r) =
      match r with
      | ',' :: r => (scanElements fuel (skipBlank r)).bind fun y => some (x :: y.1, y.2)
      | ']' :: r => some ([x], r)
      | _ => none := by
  intro hr
  obtain _ | fuel := fuel
  · cases hfuel
  show (scanValue (fuel + 1) (x.chars ++ r)).bind _ = _
  rw [h fuel r hr (Nat.le_of_lt_succ hfuel)]
  show (match skipBlank r with
    | ',' :: r => (scanElements (fuel + 1) (skipBlank r)).bind fun y => some (x :: y.1, y.2)
    | ']' :: r => some ([x], r)
    | _ => none) = _
  rw [hr.skipBlank_eq]

theorem scanElements_append {xs : List Json} {x : Json}
    (h : ∀ y ∈ x :: xs, y.Legible ∧ y.Scans) {fuel : Nat}
    (hfuel : (x.chars ++ elementChars xs).length < fuel) (r : List Char) :
    scanElements fuel (x.chars ++ (elementChars xs ++ r)) = some (x :: xs, r) := by
  induction xs generalizing x fuel with
  | nil =>
    obtain _ | fuel := fuel
    · cases hfuel
    simp only [elementChars, List.length_append, List.length_cons, List.length_nil] at hfuel
    exact scanElements_succ (h x List.mem_cons_self).2 (by omega) (closes_cons (by decide) r)
  | cons y ys ih =>
    obtain _ | fuel := fuel
    · cases hfuel
    obtain ⟨hlegible, hscans⟩ := h x List.mem_cons_self
    have hpos := hlegible.chars_pos
    have hys : ∀ z ∈ y :: ys, z.Legible ∧ z.Scans := fun z hz => h z (List.mem_cons_of_mem x hz)
    simp only [elementChars, List.length_append, List.length_cons] at hfuel
    have hlength : (y.chars ++ elementChars ys).length < fuel := by
      rw [List.length_append]
      omega
    have hrest := ih hys hlength
    have hfirst := scanElements_succ hscans (show x.chars.length < fuel by omega)
      (closes_cons (c := ',') (by decide) (y.chars ++ (elementChars ys ++ r)))
    rw [elementChars, List.cons_append, List.append_assoc, hfirst]
    show (scanElements fuel (skipBlank (y.chars ++ (elementChars ys ++ r)))).bind _ = _
    rw [(hys y List.mem_cons_self).1.skipBlank_chars, hrest]
    rfl

theorem scanMembers_succ {m : Option String × Json} (hlegible : m.2.Legible) (h : m.2.Scans)
    {fuel : Nat} (hfuel : m.2.chars.length < fuel) {r : List Char} :
    Closes r → scanMembers (fuel + 1) (memberChars m ++ r) =
      match r with
      | ',' :: r => (scanMembers fuel (skipBlank r)).bind fun n => some (m :: n.1, n.2)
      | '\x7d' :: r => some ([m], r)
      | _ => none := by
  intro hr
  obtain ⟨key, value⟩ := m
  obtain _ | fuel := fuel
  · cases hfuel
  obtain ⟨s, hs, htext⟩ := scanText_quote key (':' :: (value.chars ++ r))
  rw [memberChars, hs, List.append_assoc, List.cons_append]
  show (scanText (s ++ ':' :: (value.chars ++ r))).bind _ = _
  rw [htext]
  show (scanValue (fuel + 1) (skipBlank (value.chars ++ r))).bind _ = _
  rw [hlegible.skipBlank_chars, h fuel r hr (Nat.le_of_lt_succ hfuel)]
  show (match skipBlank r with
    | ',' :: r =>
      (scanMembers (fuel + 1) (skipBlank r)).bind fun n => some ((key, value) :: n.1, n.2)
    | '\x7d' :: r => some ([(key, value)], r)
    | _ => none) = _
  rw [hr.skipBlank_eq]

theorem length_memberChars (m : Option String × Json) :
    m.2.chars.length < (memberChars m).length := by
  obtain ⟨key, value⟩ := m
  show value.chars.length < _
  rw [memberChars, List.length_append, List.length_cons]
  omega

theorem skipBlank_memberChars (m : Option String × Json) (r : List Char) :
    skipBlank (memberChars m ++ r) = memberChars m ++ r := by
  obtain ⟨key, value⟩ := m
  obtain ⟨s, hs, -⟩ := scanText_quote key []
  rw [memberChars, hs]
  exact skipBlank_of_opens (by decide) _

theorem scanMembers_append {ms : List (Option String × Json)} {m : Option String × Json}
    (h : ∀ n ∈ m :: ms, n.2.Legible ∧ n.2.Scans) {fuel : Nat}
    (hfuel : (memberChars m ++ membersChars ms).length < fuel) (r : List Char) :
    scanMembers fuel (memberChars m ++ (membersChars ms ++ r)) = some (m :: ms, r) := by
  induction ms generalizing m fuel with
  | nil =>
    obtain _ | fuel := fuel
    · cases hfuel
    obtain ⟨hlegible, hscans⟩ := h m List.mem_cons_self
    have hm := length_memberChars m
    simp only [membersChars, List.length_append, List.length_cons, List.length_nil] at hfuel
    exact scanMembers_succ hlegible hscans (by omega) (closes_cons (by decide) r)
  | cons n ns ih =>
    obtain _ | fuel := fuel
    · cases hfuel
    obtain ⟨hlegible, hscans⟩ := h m List.mem_cons_self
    have hm := length_memberChars m
    have hns : ∀ k ∈ n :: ns, k.2.Legible ∧ k.2.Scans := fun k hk => h k (List.mem_cons_of_mem m hk)
    simp only [membersChars, List.length_append, List.length_cons] at hfuel
    have hlength : (memberChars n ++ membersChars ns).length < fuel := by
      rw [List.length_append]
      omega
    have hrest := ih hns hlength
    have hfirst := scanMembers_succ hlegible hscans (show m.2.chars.length < fuel by omega)
      (closes_cons (c := ',') (by decide) (memberChars n ++ (membersChars ns ++ r)))
    rw [membersChars, List.cons_append, List.append_assoc, hfirst]
    show (scanMembers fuel (skipBlank (memberChars n ++ (membersChars ns ++ r)))).bind _ = _
    rw [skipBlank_memberChars, hrest]
    rfl

theorem Legible.scans {j : Json} (h : j.Legible) : j.Scans := by
  induction h with
  | null => exact fun _ _ _ _ => rfl
  | bool b => cases b <;> exact fun _ _ _ _ => rfl
  | @num n h =>
    intro fuel r hr _
    obtain ⟨c, s, hchars, hc⟩ := h.text_cons
    have hscan := Numeral.scan_text h hr
    rw [hchars] at hscan
    show scanValue (fuel + 1) (n.text ++ r) = _
    rw [hchars, List.cons_append, scanValue_number hc, ← List.cons_append, hscan]
    rfl
  | str t =>
    intro fuel r _ _
    obtain ⟨s, hs, htext⟩ := scanText_quote t r
    show scanValue (fuel + 1) (quote t ++ r) = _
    rw [hs]
    show (scanText (s ++ r)).map _ = _
    rw [htext]
    rfl
  | @arr xs h ih =>
    intro fuel r _ hfuel
    cases xs with
    | nil => rfl
    | cons x xs =>
      obtain ⟨c, s, hchars, hc⟩ := (h x List.mem_cons_self).opens
      have hscan := scanElements_append (fun y hy => ⟨h y hy, ih y hy⟩) hfuel r
      rw [chars, List.cons_append, List.append_assoc]
      rw [hchars, List.cons_append] at hscan ⊢
      rw [scanValue_array hc, hscan]
      rfl
  | @obj ms h ih =>
    intro fuel r _ hfuel
    cases ms with
    | nil => rfl
    | cons m ms =>
      obtain ⟨s, hs, -⟩ := scanText_quote m.1 []
      have hscan := scanMembers_append (fun n hn => ⟨h n hn, ih n hn⟩) hfuel r
      have hchars : memberChars m = '"' :: (s ++ ':' :: m.2.chars) := by
        obtain ⟨key, value⟩ := m
        rw [memberChars, hs, List.cons_append]
      rw [chars, List.cons_append, List.append_assoc]
      rw [hchars, List.cons_append] at hscan ⊢
      rw [scanValue_object (by decide), hscan]
      rfl

/-- A document whose numbers are spelled as the grammar wants it is read from its compact text. -/
theorem Legible.parse_print {j : Json} (h : j.Legible) : parse j.print = some j := by
  have hscan := h.scans j.chars.length [] closes_nil (Nat.le_refl _)
  have hblank := h.skipBlank_chars []
  rw [List.append_nil] at hscan hblank
  unfold parse print
  rw [String.toList_ofList]
  show (scanValue (j.chars.length + 1) (skipBlank j.chars)).bind _ = _
  rw [hblank, hscan]
  rfl

end SceneWorkflow.Json
