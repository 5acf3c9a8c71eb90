import SceneWorkflow.Json.Basic

/-! Reading JSON texts. Everything the grammar allows is read, whatever its depth; which numbers and
texts are acceptable is for the reader of the tree to say. -/

namespace SceneWorkflow.Json

/-- The four blank characters that may stand between tokens. -/
def isBlank (c : Char) : Bool :=
  c == ' ' || c == '\n' || c == '\r' || c == '\t'

def skipBlank (s : List Char) : List Char := s.dropWhile isBlank

/-- What one place of a quoted text stands for: a character, or half of a surrogate pair. -/
inductive Piece where
  | char (c : Char)
  | half (unit : Nat)
deriving DecidableEq

def hexDigit? (c : Char) : Option Nat :=
  if '0' ≤ c ∧ c ≤ '9' then some (c.toNat - '0'.toNat)
  else if 'a' ≤ c ∧ c ≤ 'f' then some (c.toNat - 'a'.toNat + 10)
  else if 'A' ≤ c ∧ c ≤ 'F' then some (c.toNat - 'A'.toNat + 10)
  else none

/-- The piece that four hexadecimal digits name. -/
def unitPiece? (a b c d : Char) : Option Piece := do
  let a ← hexDigit? a
  let b ← hexDigit? b
  let c ← hexDigit? c
  let d ← hexDigit? d
  let unit := ((a * 16 + b) * 16 + c) * 16 + d
  return if 0xD800 ≤ unit ∧ unit < 0xE000 then .half unit else .char (Char.ofNat unit)

def unescape? (c : Char) : Option Char :=
  match c with
  | '"' => some '"'
  | '\\' => some '\\'
  | '/' => some '/'
  | 'b' => some (Char.ofNat 8)
  | 'f' => some (Char.ofNat 12)
  | 'n' => some '\n'
  | 'r' => some '\r'
  | 't' => some '\t'
  | _ => none

/-- Reads the pieces up to the closing quote, and what follows it. -/
def scanPieces : List Char → Option (List Piece × List Char)
  | [] => none
  | '"' :: s => some ([], s)
  | '\\' :: 'u' :: a :: b :: c :: d :: s => do
    let p ← unitPiece? a b c d
    let (ps, r) ← scanPieces s
    return (p :: ps, r)
  | '\\' :: e :: s => do
    let c ← unescape? e
    let (ps, r) ← scanPieces s
    return (.char c :: ps, r)
  | c :: s =>
    if c.toNat < 32 ∨ c = '\\' then none
    else do
      let (ps, r) ← scanPieces s
      return (.char c :: ps, r)

/-- The characters that pieces spell; a high half must be followed by a low one. -/
def spell? : List Piece → Option (List Char)
  | [] => some []
  | .char c :: ps => (spell? ps).map (c :: ·)
  | .half hi :: .half lo :: ps =>
    if hi < 0xDC00 ∧ 0xDC00 ≤ lo then
      (spell? ps).map (Char.ofNat (0x10000 + (hi - 0xD800) * 0x400 + (lo - 0xDC00)) :: ·)
    else none
  | .half _ :: _ => none

def scanText (s : List Char) : Option (Option String × List Char) := do
  let (ps, r) ← scanPieces s
  return ((spell? ps).map String.ofList, r)

mutual

/-- Reads the document a text begins with, and what follows it. The fuel bounds the number of
nested and successive calls; the length of the text is enough. -/
def scanValue : Nat → List Char → Option (Json × List Char)
  | 0, _ => none
  | fuel + 1, s =>
    match s with
    | 'n' :: 'u' :: 'l' :: 'l' :: r => some (.null, r)
    | 't' :: 'r' :: 'u' :: 'e' :: r => some (.bool true, r)
    | 'f' :: 'a' :: 'l' :: 's' :: 'e' :: r => some (.bool false, r)
    | '"' :: r => (scanText r).map fun (t, r) => (.str t, r)
    | '[' :: r =>
      match skipBlank r with
      | ']' :: r => some (.arr [], r)
      | r => (scanElements fuel r).map fun (xs, r) => (.arr xs, r)
    | '\x7b' :: r =>
      match skipBlank r with
      | '\x7d' :: r => some (.obj [], r)
      | r => (scanMembers fuel r).map fun (ms, r) => (.obj ms, r)
    | s => (Numeral.scan s).map fun (n, r) => (.num n, r)

/-- Reads one or more elements and the closing bracket. -/
def scanElements : Nat → List Char → Option (List Json × List Char)
  | 0, _ => none
  | fuel + 1, s => do
    let (x, r) ← scanValue fuel s
    match skipBlank r with
    | ',' :: r =>
      let (xs, r) ← scanElements fuel (skipBlank r)
      return (x :: xs, r)
    | ']' :: r => return ([x], r)
    | _ => none

/-- Reads one or more members and the closing brace. -/
def scanMembers : Nat → List Char → Option (List (Option String × Json) × List Char)
  | 0, _ => none
  | fuel + 1, s =>
    match s with
    | '"' :: s => do
      let (key, r) ← scanText s
      match skipBlank r with
      | ':' :: r =>
        let (value, r) ← scanValue fuel (skipBlank r)
        match skipBlank r with
        | ',' :: r =>
          let (ms, r) ← scanMembers fuel (skipBlank r)
          return ((key, value) :: ms, r)
        | '\x7d' :: r => return ([(key, value)], r)
        | _ => none
      | _ => none
    | _ => none

end

def parse (text : String) : Option Json := do
  let s := text.toList
  let (j, r) ← scanValue (s.length + 1) (skipBlank s)
  if (skipBlank r).isEmpty then return j else none

end SceneWorkflow.Json
