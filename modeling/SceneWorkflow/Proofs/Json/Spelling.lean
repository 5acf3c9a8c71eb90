import SceneWorkflow.Json.Canonical
import SceneWorkflow.Proofs.Json.Reading
import Mathlib.Data.List.TakeWhile

/-!
# How documents are spelled

The numbers of a document that has been read are spelled as the grammar wants it, and
so are those of its canonical form. The compact text of such a document has no line
break, whatever its texts are.
-/
namespace SceneWorkflow.Json

/-! ### Numbers that are read -/

namespace Numeral
variable {s r : List Char}

theorem isDigits_of_scanDigits {digits : List Char} (h : scanDigits s = some (digits, r)) :
    IsDigits digits := by
  unfold scanDigits at h
  dsimp only at h
  split at h
  · cases h
  next hne =>
    cases h
    exact ⟨fun hnil => hne (List.isEmpty_iff.2 hnil), fun c hc => List.mem_takeWhile_imp hc⟩

theorem spelled_of_scanWhole {whole : List Char} (h : scanWhole s = some (whole, r)) :
    IsDigits whole ∧ ∀ rest, whole = '0' :: rest → rest = [] := by
  unfold scanWhole at h
  split at h
  · cases h
  next hzero =>
    refine ⟨isDigits_of_scanDigits h, ?_⟩
    rintro (_ | ⟨c, rest⟩) rfl
    · rfl
    · exact absurd h (hzero c rest r)

theorem isDigit_of_scanFraction {fraction : List Char}
    (h : scanFraction s = some (fraction, r)) : ∀ c ∈ fraction, c.isDigit = true := by
  unfold scanFraction at h
  split at h
  · exact (isDigits_of_scanDigits h).2
  · cases h
    exact fun c hc => nomatch hc

theorem isDigits_of_scanExponent {exponent : Option (Bool × List Char)}
    (h : scanExponent s = some (exponent, r)) : ∀ e ∈ exponent, IsDigits e.2 := by
  unfold scanExponent at h
  split at h
  case h_7 =>
    cases h
    exact fun e he => nomatch he
  all_goals
    obtain ⟨⟨digits, rest⟩, hscan, heq⟩ := Option.map_eq_some_iff.1 h
    cases heq
    rintro _ ⟨⟩
    exact isDigits_of_scanDigits hscan

theorem wellformed_of_scan {n : Numeral} (h : scan s = some (n, r)) : n.Wellformed := by
  obtain ⟨⟨whole, r₁⟩, hwhole, h⟩ := Option.bind_eq_some_iff.1 h
  obtain ⟨⟨fraction, r₂⟩, hfraction, h⟩ := Option.bind_eq_some_iff.1 h
  obtain ⟨⟨exponent, r₃⟩, hexponent, h⟩ := Option.bind_eq_some_iff.1 h
  cases h
  obtain ⟨hdigits, hleading⟩ := spelled_of_scanWhole hwhole
  exact ⟨hdigits, hleading, isDigit_of_scanFraction hfraction, isDigits_of_scanExponent hexponent⟩

end Numeral

/-! ### Documents that are read -/

/-- The induction is on the fuel, for documents, elements and members at once. -/
theorem legible_of_scan (fuel : Nat) :
    (∀ s j r, scanValue fuel s = some (j, r) → j.Legible) ∧
    (∀ s xs r, scanElements fuel s = some (xs, r) → ∀ x ∈ xs, x.Legible) ∧
    ∀ s ms r, scanMembers fuel s = some (ms, r) → ∀ m ∈ ms, m.2.Legible := by
  induction fuel with
  | zero => refine ⟨?_, ?_, ?_⟩ <;> intro _ _ _ h <;> cases h
  | succ fuel ih =>
    obtain ⟨hvalue, helements, hmembers⟩ := ih
    refine ⟨fun s j r h => ?_, fun s xs r h => ?_, fun s ms r h => ?_⟩
    · unfold scanValue at h
      split at h
      · cases h; exact .null
      · cases h; exact .bool true
      · cases h; exact .bool false
      · obtain ⟨⟨t, rest⟩, -, heq⟩ := Option.map_eq_some_iff.1 h
        cases heq
        exact .str t
      · split at h
        · cases h
          exact .arr fun x hx => absurd hx List.not_mem_nil
        · obtain ⟨⟨xs, rest⟩, hscan, heq⟩ := Option.map_eq_some_iff.1 h
          cases heq
          exact .arr (helements _ xs _ hscan)
      · split at h
        · cases h
          exact .obj fun m hm => absurd hm List.not_mem_nil
        · obtain ⟨⟨ms, rest⟩, hscan, heq⟩ := Option.map_eq_some_iff.1 h
          cases heq
          exact .obj (hmembers _ ms _ hscan)
      · obtain ⟨⟨n, rest⟩, hscan, heq⟩ := Option.map_eq_some_iff.1 h
        cases heq
        exact .num (Numeral.wellformed_of_scan hscan)
    · unfold scanElements at h
      obtain ⟨⟨x, r₁⟩, hx, h⟩ := Option.bind_eq_some_iff.1 h
      dsimp only at h
      split at h
      · obtain ⟨⟨xs', r₂⟩, hxs, h⟩ := Option.bind_eq_some_iff.1 h
        cases h
        exact List.forall_mem_cons.2 ⟨hvalue _ x _ hx, helements _ xs' _ hxs⟩
      · cases h
        exact List.forall_mem_singleton.2 (hvalue _ x _ hx)
      · cases h
    · unfold scanMembers at h
      split at h
      · obtain ⟨⟨key, r₁⟩, -, h⟩ := Option.bind_eq_some_iff.1 h
        dsimp only at h
        split at h
        · obtain ⟨⟨value, r₂⟩, hx, h⟩ := Option.bind_eq_some_iff.1 h
          dsimp only at h
          split at h
          · obtain ⟨⟨ms', r₃⟩, hms, h⟩ := Option.bind_eq_some_iff.1 h
            cases h
            exact List.forall_mem_cons.2 ⟨hvalue _ value _ hx, hmembers _ ms' _ hms⟩
          · cases h
            exact List.forall_mem_singleton.2 (hvalue _ value _ hx)
          · cases h
        · cases h
      · cases h

theorem legible_of_parse {text : String} {j : Json} (h : parse text = some j) : j.Legible := by
  obtain ⟨⟨j', r⟩, hscan, h⟩ := Option.bind_eq_some_iff.1 h
  dsimp only at h
  split at h
  · cases h
    exact (legible_of_scan _).1 _ j r hscan
  · cases h

end SceneWorkflow.Json

/-! ### The shortest digits of a number -/

namespace SceneWorkflow.Binary64
variable {x : Binary64}

theorem twoTo_pos (n : Nat) : 0 < twoTo n := Nat.two_pow_pos n

theorem tenTo_pos (n : Nat) : 0 < tenTo n := Nat.pow_pos (by decide)

theorem roundsFrom_zero (hx : x.significand ≠ 0) {den : Nat} (hden : 0 < den) :
    x.roundsFrom 0 den = false := by
  have hlow : 0 < x.intervalEnds.1 * den := by
    refine Nat.mul_pos (Nat.mul_pos ?_ (twoTo_pos _)) hden
    split <;> omega
  have hle : decide (x.intervalEnds.1 * den ≤ 0) = false := decide_eq_false (by omega)
  have hlt : decide (x.intervalEnds.1 * den < 0) = false := decide_eq_false (by omega)
  unfold roundsFrom
  dsimp only
  simp only [Nat.zero_mul]
  split
  · rw [hle, Bool.false_and]
  · rw [hlt, Bool.false_and]

theorem ne_zero_of_roundsFrom (hx : x.significand ≠ 0) {c m den : Nat} (hden : 0 < den)
    (h : x.roundsFrom (c * m) den = true) : c ≠ 0 := by
  rintro rfl
  rw [Nat.zero_mul, roundsFrom_zero hx hden] at h
  cases h

theorem le_roundHalfEven (num den : Nat) : num / den ≤ roundHalfEven num den := by
  unfold roundHalfEven
  dsimp only
  split
  · exact Nat.le_succ _
  · exact Nat.le_refl _

theorem onGrid_ne_zero (hx : x.significand ≠ 0) {k : Int} {d : Decimal}
    (h : x.onGrid k = some d) : d.digits ≠ 0 := by
  unfold onGrid at h
  dsimp only at h
  split at h
  next hlow _ =>
    cases h
    have hne := ne_zero_of_roundsFrom hx (tenTo_pos _) hlow
    exact Nat.ne_of_gt (Nat.lt_of_lt_of_le (Nat.pos_of_ne_zero hne) (le_roundHalfEven _ _))
  next hlow _ =>
    cases h
    exact ne_zero_of_roundsFrom hx (tenTo_pos _) hlow
  next =>
    cases h
    exact Nat.succ_ne_zero _
  next => cases h

theorem trimZeros_ne_zero {n : Nat} {d : Decimal} (h : d.digits ≠ 0) :
    (trimZeros n d).digits ≠ 0 := by
  induction n generalizing d with
  | zero => exact h
  | succ n ih =>
    unfold trimZeros
    split
    next hdrop =>
      apply ih
      dsimp only
      omega
    next => exact h

/-- Digits that are zero stand for zero and come without an exponent. -/
theorem shortest_eq_zero (h : x.shortest.digits = 0) : x.shortest.exponent = 0 := by
  unfold shortest at h ⊢
  split at h
  next hx => rw [if_pos hx]
  next hx =>
    rw [if_neg hx]
    dsimp only at h ⊢
    split at h
    next d hd =>
      obtain ⟨i, -, hgrid⟩ := List.exists_of_findSome?_eq_some hd
      exact absurd h (trimZeros_ne_zero (onGrid_ne_zero hx hgrid))
    next => rfl

end SceneWorkflow.Binary64

/-! ### Canonical forms -/

namespace SceneWorkflow.Json
namespace Numeral

theorem isDigits_append {digits more : List Char} (h : IsDigits digits)
    (hmore : ∀ c ∈ more, c.isDigit = true) : IsDigits (digits ++ more) :=
  ⟨List.append_ne_nil_of_left_ne_nil h.1 more, List.forall_mem_append.2 ⟨h.2, hmore⟩⟩

theorem isDigits_take {digits : List Char} (h : IsDigits digits) {n : Nat} (hn : 0 < n) :
    IsDigits (digits.take n) := by
  constructor
  · rw [ne_eq, List.take_eq_nil_iff]
    exact not_or.2 ⟨by omega, h.1⟩
  · exact fun c hc => h.2 c (List.mem_of_mem_take hc)

theorem isDigit_of_mem_zeros {n : Nat} {c : Char} (hc : c ∈ List.replicate n '0') :
    c.isDigit = true := by
  rw [List.eq_of_mem_replicate hc]
  rfl

theorem eq_zero_of_toDigits {n : Nat} {rest : List Char} (h : Nat.toDigits 10 n = '0' :: rest) :
    n = 0 := by
  have hread := Nat.ofDigitChars_ten_toDigits (n := n)
  rw [h, eq_nil_of_toDigits h] at hread
  exact hread.symm

theorem leading_take {n k : Nat} {rest : List Char}
    (h : (Nat.toDigits 10 n).take k = '0' :: rest) : rest = [] := by
  obtain ⟨c, ds, hdigits⟩ := List.exists_cons_of_ne_nil (Nat.toDigits_ne_nil (n := n) (b := 10))
  cases k with
  | zero => simp at h
  | succ k =>
    rw [hdigits, List.take_succ_cons, List.cons.injEq] at h
    rw [h.1] at hdigits
    rw [← h.2, eq_nil_of_toDigits hdigits, List.take_nil]

theorem wellformed_ofDecimal (negative : Bool) {d : Decimal}
    (hd : d.digits = 0 → d.exponent = 0) : (ofDecimal negative d).Wellformed := by
  have hdigits := isDigits_toDigits d.digits
  have hdrop (n : Nat) : ∀ c ∈ (Nat.toDigits 10 d.digits).drop n, c.isDigit = true :=
    fun c hc => hdigits.2 c (List.mem_of_mem_drop hc)
  unfold ofDecimal
  dsimp only
  split
  case isTrue =>
    refine ⟨isDigits_append hdigits fun _ => isDigit_of_mem_zeros, fun rest hrest => ?_, ?_, nofun⟩
    · obtain ⟨c, ds, hcons, -⟩ := hdigits.exists_cons
      dsimp only at hrest
      rw [hcons, List.cons_append, List.cons.injEq] at hrest
      rw [hrest.1] at hcons
      rw [← hrest.2, eq_nil_of_toDigits hcons, hd (eq_zero_of_toDigits hcons)]
      rfl
    · simp
  split
  case isTrue => exact ⟨isDigits_take hdigits (by omega), fun _ => leading_take, hdrop _, nofun⟩
  split
  case isTrue =>
    refine ⟨⟨by simp, by simp⟩, by simp, ?_, nofun⟩
    exact List.forall_mem_append.2 ⟨fun _ => isDigit_of_mem_zeros, hdigits.2⟩
  case isFalse =>
    refine ⟨isDigits_take hdigits (by omega), fun _ => leading_take, hdrop _, ?_⟩
    rintro _ ⟨⟩
    exact isDigits_toDigits _

theorem wellformed_of_canonical? {n m : Numeral} (hn : n.Wellformed) (h : n.canonical? = some m) :
    m.Wellformed := by
  unfold canonical? at h
  split at h
  · cases h
    exact hn
  · obtain ⟨x, -, rfl⟩ := Option.map_eq_some_iff.1 h
    exact wellformed_ofDecimal n.negative Binary64.shortest_eq_zero

end Numeral

/-! ### Line breaks -/

theorem ne_newline_of_isDigit {c : Char} (h : c.isDigit = true) : c ≠ '\n' := by
  rintro rfl
  cases h

theorem digitChar_ne_newline {d : Nat} (h : d < 16) : Nat.digitChar d ≠ '\n' := by
  revert d
  decide

theorem not_mem_escape (c : Char) : '\n' ∉ escape c := by
  have hhigh := fun h : c.toNat < 32 => digitChar_ne_newline (d := c.toNat / 16) (by omega)
  have hlow := digitChar_ne_newline (Nat.mod_lt c.toNat (show 0 < 16 by decide))
  unfold escape
  repeat' split
  all_goals
    simp_all [eq_comm]

theorem not_mem_quote (t : Option String) : '\n' ∉ quote t := by
  cases t with
  | none => decide
  | some s => simp [quote, not_mem_escape]

theorem Numeral.Wellformed.not_mem_text {n : Numeral} (h : n.Wellformed) : '\n' ∉ n.text := by
  obtain ⟨negative, whole, fraction, exponent⟩ := n
  have hwhole : '\n' ∉ whole := fun hmem => ne_newline_of_isDigit (h.whole.2 _ hmem) rfl
  have hfraction : '\n' ∉ fraction := fun hmem => ne_newline_of_isDigit (h.fraction _ hmem) rfl
  have hexponent : '\n' ∉ exponentText exponent := by
    cases exponent with
    | none => simp [exponentText]
    | some e =>
      have hdigits : '\n' ∉ e.2 := fun hmem => ne_newline_of_isDigit ((h.exponent e rfl).2 _ hmem) rfl
      cases hsign : e.1 <;> simp [exponentText, hsign, hdigits]
  rw [Numeral.text_eq]
  cases negative <;> cases fraction <;> simp_all [fractionText]

theorem not_mem_elementChars {xs : List Json} (h : ∀ x ∈ xs, '\n' ∉ x.chars) :
    '\n' ∉ elementChars xs := by
  induction xs with
  | nil => simp [elementChars]
  | cons x xs ih =>
    obtain ⟨hx, hxs⟩ := List.forall_mem_cons.1 h
    simp [elementChars, hx, ih hxs]

theorem not_mem_memberChars {m : Option String × Json} (h : '\n' ∉ m.2.chars) :
    '\n' ∉ memberChars m := by
  obtain ⟨key, value⟩ := m
  simpa [memberChars, not_mem_quote] using h

theorem not_mem_membersChars {ms : List (Option String × Json)} (h : ∀ m ∈ ms, '\n' ∉ m.2.chars) :
    '\n' ∉ membersChars ms := by
  induction ms with
  | nil => simp [membersChars]
  | cons m ms ih =>
    obtain ⟨hm, hms⟩ := List.forall_mem_cons.1 h
    simp [membersChars, not_mem_memberChars hm, ih hms]

/-- The text of a document has no line break. -/
theorem Legible.not_mem_chars {j : Json} (h : j.Legible) : '\n' ∉ j.chars := by
  induction h with
  | null => simp [chars]
  | bool b => cases b <;> simp [chars]
  | num h => exact h.not_mem_text
  | str t => exact not_mem_quote t
  | @arr xs _ ih =>
    cases xs with
    | nil => simp [chars]
    | cons x xs =>
      obtain ⟨hx, hxs⟩ := List.forall_mem_cons.1 ih
      simp [chars, hx, not_mem_elementChars hxs]
  | @obj ms _ ih =>
    cases ms with
    | nil => simp [chars]
    | cons m ms =>
      obtain ⟨hm, hms⟩ := List.forall_mem_cons.1 ih
      simp [chars, not_mem_memberChars hm, not_mem_membersChars hms]

end SceneWorkflow.Json
