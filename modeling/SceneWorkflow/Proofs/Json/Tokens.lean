import SceneWorkflow.Json.Parser
import SceneWorkflow.Json.Printer
import SceneWorkflow.Proofs.Json.Digits

/-!
# Numbers and texts are read as they are written

The text of a number whose parts are spelled as the grammar wants it is read as that
number, if it goes on with something that may follow a document. A quoted text is read
whatever its characters are, each from its escape.
-/
namespace SceneWorkflow.Json

/-- What may follow a document: nothing, a comma, or the end of an array or object. -/
def Closes (r : List Char) : Prop := ∀ c ∈ r.head?, c = ',' ∨ c = ']' ∨ c = '\x7d'

theorem closes_nil : Closes [] := fun _ hc => nomatch hc

theorem closes_cons {c : Char} (hc : c = ',' ∨ c = ']' ∨ c = '\x7d') (r : List Char) :
    Closes (c :: r) := by
  intro d hd
  cases hd
  exact hc

theorem Closes.stops {p : Char → Bool} {r : List Char} (h : Closes r) (hcomma : p ',' = false)
    (hbracket : p ']' = false) (hbrace : p '\x7d' = false) : Stops p r := by
  intro c hc
  rcases h c hc with rfl | rfl | rfl
  · exact hcomma
  · exact hbracket
  · exact hbrace

/-! ### Numbers -/

namespace Numeral

/-- The parts of a number are spelled as the grammar wants it. -/
structure Wellformed (n : Numeral) : Prop where
  whole : IsDigits n.whole
  leading : ∀ rest, n.whole = '0' :: rest → rest = []
  fraction : ∀ c ∈ n.fraction, c.isDigit = true
  exponent : ∀ e ∈ n.exponent, IsDigits e.2

theorem wellformed_ofInt (k : Int) : (ofInt k).Wellformed where
  whole := isDigits_toDigits _
  leading := fun _ h => eq_nil_of_toDigits h
  fraction := fun _ hc => nomatch hc
  exponent := fun _ he => nomatch he

def fractionText (fraction : List Char) : List Char :=
  if fraction.isEmpty then [] else '.' :: fraction

def exponentText : Option (Bool × List Char) → List Char
  | none => []
  | some (negative, digits) => 'e' :: (if negative then '-' else '+') :: digits

theorem text_eq (n : Numeral) :
    n.text = (if n.negative then ['-'] else []) ++
      (n.whole ++ (fractionText n.fraction ++ exponentText n.exponent)) := by
  rw [← List.append_assoc, ← List.append_assoc]
  rfl

variable {r : List Char}

theorem scanDigits_append {digits : List Char} (h : IsDigits digits) (hr : Stops Char.isDigit r) :
    scanDigits (digits ++ r) = some (digits, r) := by
  unfold scanDigits
  rw [takeWhile_append h.2 hr, dropWhile_append h.2 hr]
  exact if_neg fun he => h.1 (List.isEmpty_iff.1 he)

theorem scanExponent_append {e : Option (Bool × List Char)} (he : ∀ x ∈ e, IsDigits x.2)
    (hr : Closes r) : scanExponent (exponentText e ++ r) = some (e, r) := by
  have hdigits : Stops Char.isDigit r := hr.stops rfl rfl rfl
  cases e with
  | none =>
    show scanExponent r = some (none, r)
    cases r with
    | nil => rfl
    | cons c r => rcases hr c rfl with rfl | rfl | rfl <;> rfl
  | some e =>
    obtain ⟨negative, digits⟩ := e
    have hscan := scanDigits_append (he _ rfl) hdigits
    cases negative with
    | false =>
      show (scanDigits (digits ++ r)).map _ = _
      rw [hscan]
      rfl
    | true =>
      show (scanDigits (digits ++ r)).map _ = _
      rw [hscan]
      rfl

theorem stops_exponentText (e : Option (Bool × List Char)) (hr : Closes r) :
    Stops Char.isDigit (exponentText e ++ r) := by
  cases e with
  | none => exact hr.stops rfl rfl rfl
  | some e => exact stops_cons rfl _

theorem scanFraction_append {fraction : List Char} (hfraction : ∀ c ∈ fraction, c.isDigit = true)
    (e : Option (Bool × List Char)) (hr : Closes r) :
    scanFraction (fractionText fraction ++ (exponentText e ++ r)) =
      some (fraction, exponentText e ++ r) := by
  cases fraction with
  | nil =>
    show scanFraction (exponentText e ++ r) = _
    cases e with
    | some e => rfl
    | none =>
      show scanFraction r = _
      cases r with
      | nil => rfl
      | cons c r => rcases hr c rfl with rfl | rfl | rfl <;> rfl
  | cons c fraction =>
    have hdigits : IsDigits (c :: fraction) := ⟨List.cons_ne_nil _ _, hfraction⟩
    exact scanDigits_append hdigits (stops_exponentText e hr)

theorem stops_fractionText (fraction : List Char) (e : Option (Bool × List Char)) (hr : Closes r) :
    Stops Char.isDigit (fractionText fraction ++ (exponentText e ++ r)) := by
  cases fraction with
  | nil => exact stops_exponentText e hr
  | cons c fraction => exact stops_cons rfl _

theorem scanWhole_append {whole : List Char} (h : IsDigits whole)
    (hleading : ∀ rest, whole = '0' :: rest → rest = []) (hr : Stops Char.isDigit r) :
    scanWhole (whole ++ r) = some (whole, r) := by
  unfold scanWhole
  rw [scanDigits_append h hr]
  split
  next heq =>
    cases heq
    cases hleading _ rfl
  next => rfl

theorem Wellformed.text_cons {n : Numeral} (h : n.Wellformed) :
    ∃ c s, n.text = c :: s ∧ (c = '-' ∨ c.isDigit = true) := by
  obtain ⟨c, rest, hwhole, hc⟩ := h.whole.exists_cons
  rw [text_eq, hwhole]
  cases n.negative with
  | true => exact ⟨'-', _, rfl, .inl rfl⟩
  | false => exact ⟨c, _, rfl, .inr hc⟩

theorem scan_text {n : Numeral} (h : n.Wellformed) (hr : Closes r) :
    scan (n.text ++ r) = some (n, r) := by
  obtain ⟨negative, whole, fraction, exponent⟩ := n
  obtain ⟨c, rest, hwhole, hc⟩ : ∃ c rest, whole = c :: rest ∧ c.isDigit = true :=
    h.whole.exists_cons
  have hsign : (some c == some '-') = false := by
    refine beq_eq_false_iff_ne.2 fun heq => ?_
    cases heq
    cases hc
  have hscan := scanWhole_append h.whole h.leading (stops_fractionText fraction exponent hr)
  have hfraction := scanFraction_append h.fraction exponent hr
  have hexponent := scanExponent_append h.exponent hr
  -- The sign is read off first; what is left is the same with it and without.
  have hunsigned : ∀ s, s = whole ++ (fractionText fraction ++ (exponentText exponent ++ r)) →
      ((scanWhole s).bind fun x => (scanFraction x.2).bind fun y => (scanExponent y.2).bind fun z =>
        some (Numeral.mk negative x.1 y.1 z.1, z.2)) =
        some (⟨negative, whole, fraction, exponent⟩, r) := by
    intro s hs
    rw [hs, hscan]
    show (scanFraction _).bind _ = _
    rw [hfraction]
    show (scanExponent _).bind _ = _
    rw [hexponent]
    rfl
  rw [text_eq, List.append_assoc, List.append_assoc, List.append_assoc]
  cases negative with
  | true => exact hunsigned _ rfl
  | false =>
    have hhead : (whole ++ (fractionText fraction ++ (exponentText exponent ++ r))).head? =
        some c := by
      rw [hwhole]
      rfl
    unfold scan
    dsimp only [Bool.false_eq_true, if_false, List.nil_append]
    rw [if_neg Bool.false_ne_true, List.nil_append, hhead, hsign, if_neg Bool.false_ne_true]
    exact hunsigned _ rfl

end Numeral

/-! ### Texts -/

theorem hexDigit?_digitChar {d : Nat} (h : d < 16) : hexDigit? (Nat.digitChar d) = some d := by
  revert d
  decide

/-- A control character is read from the four digits of its code. -/
theorem unitPiece?_control {c : Char} (h : c.toNat < 32) :
    unitPiece? '0' '0' (Nat.digitChar (c.toNat / 16)) (Nat.digitChar (c.toNat % 16)) =
      some (.char c) := by
  have hhigh := hexDigit?_digitChar (d := c.toNat / 16) (by omega)
  have hlow := hexDigit?_digitChar (d := c.toNat % 16) (by omega)
  have hunit : ((0 * 16 + 0) * 16 + c.toNat / 16) * 16 + c.toNat % 16 = c.toNat := by omega
  have hzero : hexDigit? '0' = some 0 := rfl
  have hchar : ¬ (0xD800 ≤ c.toNat ∧ c.toNat < 0xE000) := by omega
  simp only [unitPiece?, hhigh, hlow, hzero, Option.bind_eq_bind, Option.bind_some, hunit,
    if_neg hchar, Char.ofNat_toNat, Option.pure_def]

theorem scanPieces_short {e c : Char} (h : unescape? e = some c) (s : List Char) :
    scanPieces ('\\' :: e :: s) = (scanPieces s).bind fun x => some (.char c :: x.1, x.2) := by
  unfold unescape? at h
  split at h <;> cases h <;> rfl

/-- Every character is read from its escape. -/
theorem scanPieces_escape (c : Char) (s : List Char) :
    scanPieces (escape c ++ s) = (scanPieces s).bind fun x => some (.char c :: x.1, x.2) := by
  unfold escape
  iterate 5
    split
    next h =>
      subst h
      exact scanPieces_short rfl s
  split
  next h => exact scanPieces_short (by rw [← Char.ofNat_toNat c, h]; rfl) s
  split
  next h => exact scanPieces_short (by rw [← Char.ofNat_toNat c, h]; rfl) s
  split
  next h =>
    show (unitPiece? '0' '0' _ _).bind _ = _
    rw [unitPiece?_control h]
    rfl
  next hslash _ _ _ _ _ hcontrol => simp [scanPieces, hslash, hcontrol]

theorem scanPieces_flatMap_escape (cs r : List Char) :
    scanPieces (cs.flatMap escape ++ '"' :: r) = some (cs.map .char, r) := by
  induction cs with
  | nil => rfl
  | cons c cs ih =>
    rw [List.flatMap_cons, List.append_assoc, scanPieces_escape, ih]
    rfl

theorem spell?_map_char (cs : List Char) : spell? (cs.map .char) = some cs := by
  induction cs with
  | nil => rfl
  | cons c cs ih =>
    rw [List.map_cons, spell?, ih]
    rfl

/-- A quoted text is read back, whatever characters it has. -/
theorem scanText_quote (t : Option String) (r : List Char) :
    ∃ s, quote t = '"' :: s ∧ scanText (s ++ r) = some (t, r) := by
  cases t with
  | none => exact ⟨_, rfl, rfl⟩
  | some t =>
    refine ⟨_, rfl, ?_⟩
    rw [List.append_assoc]
    show (scanPieces (t.toList.flatMap escape ++ '"' :: r)).bind _ = _
    rw [scanPieces_flatMap_escape]
    show some ((spell? (t.toList.map .char)).map String.ofList, r) = _
    rw [spell?_map_char]
    exact congrArg (fun t => some (some t, r)) String.ofList_toList

end SceneWorkflow.Json
