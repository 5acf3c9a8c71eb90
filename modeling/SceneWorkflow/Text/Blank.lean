/-! The characters with the Unicode property White_Space. -/

namespace SceneWorkflow

/-- The code points with the property White_Space, as ranges with both ends. -/
def blankRanges : List (Nat × Nat) :=
  [(0x9, 0xD), (0x20, 0x20), (0x85, 0x85), (0xA0, 0xA0), (0x1680, 0x1680), (0x2000, 0x200A),
    (0x2028, 0x2029), (0x202F, 0x202F), (0x205F, 0x205F), (0x3000, 0x3000)]

def isBlank (c : Char) : Bool :=
  blankRanges.any fun r => decide (r.1 ≤ c.toNat ∧ c.toNat ≤ r.2)

def trimStart (s : List Char) : List Char := s.dropWhile isBlank

def isBlankText (s : String) : Bool := s.toList.all isBlank

end SceneWorkflow
