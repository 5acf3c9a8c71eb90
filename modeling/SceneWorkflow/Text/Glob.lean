/-! Name patterns. `*` stands for any run of characters, `?` for any one character, and brackets for
one character of a set; everything else stands for itself. There is no way to quote a character. -/

namespace SceneWorkflow

/-- The characters a bracket names: ranges with both ends, or all others. -/
structure CharSet where
  negated : Bool := false
  ranges : List (Char × Char) := []

def CharSet.contains (s : CharSet) (c : Char) : Bool :=
  s.ranges.any (fun r => decide (r.1 ≤ c ∧ c ≤ r.2)) != s.negated

namespace Glob

inductive Piece where
  | anyRun
  | one (set : CharSet)

/-- Reads the rest of a bracket up to the closing one. A hyphen makes a range when a character that is
no range stands before it and a character that does not close the bracket after it; the character
before it counts by itself, too. -/
def scanRanges : List Char → Option Char → Option (List (Char × Char) × List Char)
  | [], _ => none
  | ']' :: rest, _ => some ([], rest)
  | '-' :: [], _ => none
  | '-' :: c :: rest, some before =>
    if c = ']' then some ([('-', '-')], rest)
    else (scanRanges rest none).map fun (ranges, r) => ((before, c) :: ranges, r)
  | c :: rest, _ => (scanRanges rest (some c)).map fun (ranges, r) => ((c, c) :: ranges, r)

theorem length_lt_of_scanRanges {s : List Char} {before : Option Char}
    {ranges : List (Char × Char)} {rest : List Char}
    (h : scanRanges s before = some (ranges, rest)) : rest.length < s.length := by
  fun_induction scanRanges s before generalizing ranges rest with
  | case1 => contradiction
  | case2 => cases h; simp only [List.length_cons]; omega
  | case3 => contradiction
  | case4 => cases h; simp only [List.length_cons]; omega
  | case5 before c r hc ih =>
    obtain ⟨⟨_, _⟩, h, he⟩ := Option.map_eq_some_iff.1 h
    cases he
    have := ih h
    simp; omega
  | case6 before c r h1 h2 h3 ih =>
    obtain ⟨⟨_, _⟩, h, he⟩ := Option.map_eq_some_iff.1 h
    cases he
    have := ih h
    simp; omega

/-- Reads a set after the opening bracket. A closing bracket that comes first stands for itself. -/
def scanSet (s : List Char) : Option (CharSet × List Char) :=
  let negated := s.head? == some '^'
  let s := if negated then s.tail else s
  let literal := s.head? == some ']'
  (scanRanges (if literal then s.tail else s) none).map fun (ranges, rest) =>
    (⟨negated, if literal then (']', ']') :: ranges else ranges⟩, rest)

theorem length_le_of_scanSet {s : List Char} {set : CharSet} {rest : List Char}
    (h : scanSet s = some (set, rest)) : rest.length ≤ s.length := by
  obtain ⟨⟨_, _⟩, h, he⟩ := Option.map_eq_some_iff.1 h
  cases he
  have := length_lt_of_scanRanges h
  have ht (l : List Char) : l.tail.length ≤ l.length := by simp
  have h1 := ht s
  have h2 := ht s.tail
  repeat' split at this
  all_goals omega

/-- The pieces of a pattern. A bracket that is not closed accepts no character. -/
def pieces : List Char → List Piece
  | [] => []
  | '*' :: rest => .anyRun :: pieces rest
  | '?' :: rest => .one { negated := true } :: pieces rest
  | '[' :: rest =>
    match _h : scanSet rest with
    | some (set, rest) => .one set :: pieces rest
    | none => [.one {}]
  | c :: rest => .one { ranges := [(c, c)] } :: pieces rest
termination_by s => s.length
decreasing_by
  all_goals simp_wf
  have := length_le_of_scanSet _h
  omega

/-- For a text and each of its tails, whether it or a tail of it has the property. -/
def anyLater : List Bool → List Bool
  | [] => []
  | b :: bs => (b || bs.any id) :: anyLater bs

/-- For a text and each of its tails, longest first, whether the pieces match it. -/
def matchTails : List Piece → List Char → List Bool
  | [], s => s.map (fun _ => false) ++ [true]
  | .anyRun :: ps, s => anyLater (matchTails ps s)
  | .one set :: ps, s =>
    List.zipWith (fun c later => set.contains c && later) s (matchTails ps s).tail ++ [false]

/-- The characters by which patterns and texts are compared. They end before the first NUL, and the two
noncharacters that end the basic plane count as the replacement character. -/
def readings (text : String) : List Char :=
  (text.toList.takeWhile (· != '\x00')).map fun c =>
    if c.toNat = 0xFFFE ∨ c.toNat = 0xFFFF then '\uFFFD' else c

end Glob

/-- Whether a pattern matches a whole text. -/
def globMatches (pattern text : String) : Bool :=
  (Glob.matchTails (Glob.pieces (Glob.readings pattern)) (Glob.readings text)).head?.getD false

end SceneWorkflow
