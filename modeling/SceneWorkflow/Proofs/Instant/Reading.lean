import Mathlib.Algebra.Group.Nat.Defs
import SceneWorkflow.Instant.Parser
import SceneWorkflow.Instant.Printer
import SceneWorkflow.Proofs.Json.Digits

/-!
# Moments are read as they are written

The written form of a moment is one of the many that are read, and it is read as
that moment, in every year of the calendar, with a leap second or without, and to
the last nanosecond.
-/
namespace SceneWorkflow.Instant

/-! ### Numbers -/

section
variable {width n : Nat}

theorem isDigits_pad (width n : Nat) : IsDigits (pad width n) := by
  obtain ⟨hne, hall⟩ := isDigits_toDigits n
  refine ⟨fun h => hne (List.append_eq_nil_iff.1 h).2, fun c hc => ?_⟩
  rcases List.mem_append.1 hc with hc | hc
  · rw [List.eq_of_mem_replicate hc]
    rfl
  · exact hall c hc

theorem ofDigitChars_pad (width n : Nat) : Nat.ofDigitChars 10 (pad width n) 0 = n := by
  rw [pad, Nat.ofDigitChars_append, Nat.ofDigitChars_replicate_zero, Nat.mul_zero,
    Nat.ofDigitChars_ten_toDigits]

theorem length_pad (hwidth : 0 < width) (hn : n < 10 ^ width) : (pad width n).length = width := by
  have hlength := (Nat.length_toDigits_le_iff (by decide) hwidth).2 hn
  rw [pad, List.length_append, List.length_replicate]
  omega

end

theorem trimStart_of_not_isBlank {c : Char} (hc : isBlank c = false) (s : List Char) :
    trimStart (c :: s) = c :: s := by
  rw [trimStart, List.dropWhile_cons, hc, if_neg Bool.false_ne_true]

theorem not_isBlank_of_isDigit {c : Char} (h : c.isDigit = true) : isBlank c = false := by
  have hcode : 48 ≤ c.toNat ∧ c.toNat ≤ 57 := by
    simpa [Char.isDigit, UInt32.le_iff_toNat_le] using h
  refine List.any_eq_false.2 fun range hrange hin => ?_
  have hin := of_decide_eq_true hin
  simp only [blankRanges, List.mem_cons, List.not_mem_nil, or_false] at hrange
  rcases hrange with rfl | rfl | rfl | rfl | rfl | rfl | rfl | rfl | rfl | rfl <;> omega

theorem trimStart_digits {digits : List Char} (h : IsDigits digits) (r : List Char) :
    trimStart (digits ++ r) = digits ++ r := by
  obtain ⟨c, rest, rfl, hc⟩ := h.exists_cons
  exact trimStart_of_not_isBlank (not_isBlank_of_isDigit hc) _

variable {digits r : List Char}

theorem scanNumber_append (h : IsDigits digits) (hr : Stops Char.isDigit r) :
    scanNumber none (digits ++ r) = some (Nat.ofDigitChars 10 digits 0, r) := by
  unfold scanNumber
  dsimp only
  rw [takeWhile_append h.2 hr, if_neg fun he => h.1 (List.isEmpty_iff.1 he), List.drop_left]

theorem scanNumber_append_of_length {width : Nat} (h : IsDigits digits)
    (hlength : digits.length ≤ width) (hr : Stops Char.isDigit r) :
    scanNumber (some width) (digits ++ r) = some (Nat.ofDigitChars 10 digits 0, r) := by
  unfold scanNumber
  dsimp only
  rw [takeWhile_append h.2 hr, List.take_of_length_le hlength,
    if_neg fun he => h.1 (List.isEmpty_iff.1 he), List.drop_left]

theorem scanPair_pad {n : Nat} (hn : n < 100) (hr : Stops Char.isDigit r) :
    scanPair (pad 2 n ++ r) = some (n, r) := by
  have hlength : (pad 2 n).length = 2 := length_pad (by decide) hn
  rw [scanPair, trimStart_digits (isDigits_pad 2 n),
    scanNumber_append_of_length (isDigits_pad 2 n) (by omega) hr, ofDigitChars_pad]

theorem scanMark_cons {c : Char} (h : isBlank c = false) (r : List Char) :
    scanMark c (c :: r) = some r := by
  unfold scanMark
  rw [trimStart_of_not_isBlank h]
  exact if_pos rfl

/-! ### Dates -/

theorem scanYear_digits {c : Char} (hc : c.isDigit = true) (s : List Char) :
    scanYear (c :: s) = (scanNumber (some 4) (c :: s)).map fun x => ((x.1 : Int), x.2) := by
  unfold scanYear
  rw [trimStart_of_not_isBlank (not_isBlank_of_isDigit hc)]
  split
  case h_3 => rfl
  all_goals
    next heq =>
      cases heq
      cases hc

theorem scanYear_signed {sign : Char} (hsign : sign = '-' ∨ sign = '+') (s : List Char) :
    scanYear (sign :: s) = (scanNumber none s).map fun x =>
      (if sign = '-' then -(x.1 : Int) else x.1, x.2) := by
  rcases hsign with rfl | rfl <;> rfl

theorem scanYear_append (year : Int) (hr : Stops Char.isDigit r) :
    scanYear (yearChars year ++ r) = some (year, r) := by
  have hdigits := isDigits_pad 4 year.natAbs
  unfold yearChars
  split
  next h =>
    have hnat : year.toNat = year.natAbs := by omega
    have hlength : (pad 4 year.natAbs).length = 4 := length_pad (by decide) (by omega)
    have hscan := scanNumber_append_of_length hdigits (Nat.le_of_eq hlength) hr
    obtain ⟨c, rest, hpad, hc⟩ := hdigits.exists_cons
    rw [ofDigitChars_pad] at hscan
    rw [hnat]
    rw [hpad, List.cons_append] at hscan ⊢
    rw [scanYear_digits hc, hscan]
    show some ((year.natAbs : Int), r) = _
    rw [Int.natAbs_of_nonneg h.1]
  next h =>
    have hscan := scanNumber_append hdigits hr
    rw [ofDigitChars_pad] at hscan
    have hsign : (if year < 0 then '-' else '+') = '-' ∨ (if year < 0 then '-' else '+') = '+' := by
      split
      · exact .inl rfl
      · exact .inr rfl
    rw [List.cons_append, scanYear_signed hsign, hscan]
    show some ((if (if year < 0 then '-' else '+') = '-' then -(year.natAbs : Int)
      else year.natAbs), r) = _
    split
    next hneg =>
      rw [if_pos rfl]
      exact congrArg (fun y => some (y, r)) (by omega)
    next hneg =>
      rw [if_neg (by decide)]
      exact congrArg (fun y => some (y, r)) (by omega)

theorem scanDate_append {d : Date} (h : d.IsValid) (hr : Stops Char.isDigit r) :
    scanDate (yearChars d.year ++ '-' :: (pad 2 d.month ++ '-' :: (pad 2 d.day ++ r))) =
      some (d, r) := by
  obtain ⟨-, -, -, hmonth, -, hday⟩ := h
  have hdays : daysInMonth d.year d.month ≤ 31 := by
    unfold daysInMonth
    split
    · split <;> decide
    · split <;> decide
  have hyear := scanYear_append d.year
    (r := '-' :: (pad 2 d.month ++ '-' :: (pad 2 d.day ++ r))) (stops_cons rfl _)
  have hmonth := scanPair_pad (n := d.month) (by omega)
    (r := '-' :: (pad 2 d.day ++ r)) (stops_cons rfl _)
  have hday := scanPair_pad (n := d.day) (by omega) hr
  have hmark := scanMark_cons (c := '-') rfl
  simp only [scanDate, hyear, hmonth, hday, hmark, Option.bind_eq_bind, Option.bind_some,
    Option.pure_def]

/-! ### Fractions -/

/-- Digits after the point count from the left. -/
theorem scanFraction_pad {width n : Nat} (hwidth : 0 < width) (hnine : width ≤ 9)
    (hn : n < 10 ^ width) (hr : Stops Char.isDigit r) :
    scanFraction ('.' :: (pad width n ++ r)) = some (10 ^ (9 - width) * n, r) := by
  obtain ⟨hne, hall⟩ := isDigits_pad width n
  have hlength := length_pad hwidth hn
  have hdigits : ((pad width n ++ r).takeWhile Char.isDigit).take 9 = pad width n := by
    rw [takeWhile_append hall hr, List.take_of_length_le (by omega)]
  show (if (((pad width n ++ r).takeWhile Char.isDigit).take 9).isEmpty then none else _) = _
  rw [hdigits, if_neg fun he => hne (List.isEmpty_iff.1 he), hlength, dropWhile_append hall hr,
    Nat.ofDigitChars_append, Nat.ofDigitChars_replicate_zero, ofDigitChars_pad]

theorem stops_fractionChars (nanos : Nat) (r : List Char) :
    Stops Char.isDigit (fractionChars nanos ++ 'Z' :: r) := by
  unfold fractionChars
  split
  · exact stops_cons rfl _
  split
  · exact stops_cons rfl _
  split <;> exact stops_cons rfl _

theorem scanFraction_append {nanos : Nat} (h : nanos < 1000000000) (r : List Char) :
    scanFraction (fractionChars nanos ++ 'Z' :: r) = some (nanos, 'Z' :: r) := by
  have hr : Stops Char.isDigit ('Z' :: r) := stops_cons rfl r
  unfold fractionChars
  split
  next hzero =>
    rw [hzero]
    rfl
  split
  next hmillis =>
    have hwhole : 10 ^ (9 - 3) * (nanos / 1000000) = nanos := by omega
    rw [List.cons_append, scanFraction_pad (by decide) (by decide) (by omega) hr, hwhole]
  split
  next hmicros =>
    have hwhole : 10 ^ (9 - 6) * (nanos / 1000) = nanos := by omega
    rw [List.cons_append, scanFraction_pad (by decide) (by decide) (by omega) hr, hwhole]
  next =>
    have hwhole : 10 ^ (9 - 9) * nanos = nanos := by omega
    rw [List.cons_append, scanFraction_pad (by decide) (by decide) (by omega) hr, hwhole]

/-! ### Moments -/

/-- A moment is its own local time at the offset zero. -/
theorem ofLocal?_zero (i : Instant) :
    ofLocal? i.date i.hour i.minute i.second i.nanos 0 = some i := by
  obtain ⟨hdate, hhour, hminute, hsecond, hnanos⟩ := i.valid
  have hday : ¬ ((i.hour * 60 + i.minute : Nat) : Int) - 0 < 0 := by omega
  have hday' : ¬ 1440 ≤ ((i.hour * 60 + i.minute : Nat) : Int) - 0 := by omega
  have hofDay : ((((i.hour * 60 + i.minute : Nat) : Int) - 0) % 1440).toNat = i.hour * 60 + i.minute := by
    omega
  have hhours : (i.hour * 60 + i.minute) / 60 = i.hour := by omega
  have hminutes : (i.hour * 60 + i.minute) % 60 = i.minute := by omega
  unfold ofLocal?
  simp only [hdate, hhour, hminute, hsecond, hnanos, hday, hday', hofDay, hhours, hminutes,
    and_self, if_true, if_false, dite_true]

theorem scan_chars (i : Instant) : scan i.chars = some (i, []) := by
  obtain ⟨hdate, hhour, hminute, hsecond, hnanos⟩ := i.valid
  have hdate := fun r => scanDate_append hdate (stops_cons (c := 'T') rfl r)
  have hhour := fun r => scanPair_pad (n := i.hour) (by omega) (stops_cons (c := ':') rfl r)
  have hminute := fun r => scanPair_pad (n := i.minute) (by omega) (stops_cons (c := ':') rfl r)
  have hsecond := scanPair_pad (n := i.second) (by omega) (stops_fractionChars i.nanos [])
  have hfraction := scanFraction_append hnanos []
  have hmark := scanMark_cons (c := ':') rfl
  have hoffset : scanOffset (trimStart ['Z']) = some (0, []) := rfl
  simp only [scan, chars, List.append_assoc, List.cons_append, hdate, hhour,
    hminute, hsecond, hfraction, hmark, hoffset, ofLocal?_zero, Option.bind_eq_bind,
    Option.bind_some, Option.pure_def]

theorem parse_print (i : Instant) : parse i.print = some i := by
  unfold parse print
  rw [String.toList_ofList, scan_chars]
  rfl

end SceneWorkflow.Instant
