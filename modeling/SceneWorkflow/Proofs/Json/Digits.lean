import SceneWorkflow.Json.Numeral

/-!
# Runs of characters

Where a run of characters of one kind ends, and what a scanner leaves of it. A
number is written as a run of digits, and read as the number they stand for.
-/
namespace SceneWorkflow

/-- A text is at its end or goes on with a character that is not of a kind. -/
def Stops (p : Char → Bool) (r : List Char) : Prop := ∀ c ∈ r.head?, p c = false

section
variable {p : Char → Bool} {run r : List Char}

theorem stops_cons {c : Char} (hc : p c = false) (r : List Char) : Stops p (c :: r) := by
  intro d hd
  cases hd
  exact hc

theorem Stops.takeWhile (hr : Stops p r) : r.takeWhile p = [] := by
  cases r with
  | nil => rfl
  | cons c r => rw [List.takeWhile_cons, hr c rfl, if_neg Bool.false_ne_true]

theorem Stops.dropWhile (hr : Stops p r) : r.dropWhile p = r := by
  cases r with
  | nil => rfl
  | cons c r => rw [List.dropWhile_cons, hr c rfl, if_neg Bool.false_ne_true]

theorem takeWhile_append (hrun : ∀ c ∈ run, p c = true) (hr : Stops p r) :
    (run ++ r).takeWhile p = run := by
  rw [List.takeWhile_append_of_pos hrun, hr.takeWhile, List.append_nil]

theorem dropWhile_append (hrun : ∀ c ∈ run, p c = true) (hr : Stops p r) :
    (run ++ r).dropWhile p = r := by
  rw [List.dropWhile_append_of_pos hrun, hr.dropWhile]

end

def IsDigits (digits : List Char) : Prop := digits ≠ [] ∧ ∀ c ∈ digits, c.isDigit = true

theorem isDigits_toDigits (n : Nat) : IsDigits (Nat.toDigits 10 n) :=
  ⟨Nat.toDigits_ne_nil, fun _ hc => Nat.isDigit_of_mem_toDigits (by decide) (by decide) hc⟩

/-- Only zero is written with a zero in front. -/
theorem eq_nil_of_toDigits {n : Nat} {rest : List Char} (h : Nat.toDigits 10 n = '0' :: rest) :
    rest = [] := by
  induction n using Nat.strongRecOn generalizing rest with
  | ind n ih =>
    rw [Nat.toDigits_eq_if (by decide)] at h
    split at h
    · exact (List.cons.inj h).2.symm
    next hn =>
      obtain ⟨c, front, hfront⟩ := List.exists_cons_of_ne_nil (Nat.toDigits_ne_nil (n := n / 10) (b := 10))
      rw [hfront, List.cons_append] at h
      obtain ⟨rfl, -⟩ := List.cons.inj h
      have hzero : n / 10 = 0 := by
        rw [← Nat.ofDigitChars_ten_toDigits (n := n / 10), hfront,
          ih (n / 10) (by omega) hfront]
        rfl
      omega

theorem IsDigits.exists_cons {digits : List Char} (h : IsDigits digits) :
    ∃ c rest, digits = c :: rest ∧ c.isDigit = true := by
  obtain ⟨c, rest, heq⟩ := List.exists_cons_of_ne_nil h.1
  refine ⟨c, rest, heq, h.2 c ?_⟩
  rw [heq]
  exact List.mem_cons_self

end SceneWorkflow
