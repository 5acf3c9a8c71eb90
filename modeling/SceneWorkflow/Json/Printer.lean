import SceneWorkflow.Json.Basic

/-! The compact text of a JSON document: no blanks, members in order, and only those characters
escaped that must be. -/

namespace SceneWorkflow.Json

/-- Quotes, backslashes and control characters are escaped; the common controls have short forms. -/
def escape (c : Char) : List Char :=
  if c = '"' then ['\\', '"']
  else if c = '\\' then ['\\', '\\']
  else if c = '\n' then ['\\', 'n']
  else if c = '\r' then ['\\', 'r']
  else if c = '\t' then ['\\', 't']
  else if c.toNat = 8 then ['\\', 'b']
  else if c.toNat = 12 then ['\\', 'f']
  else if c.toNat < 32 then
    ['\\', 'u', '0', '0', Nat.digitChar (c.toNat / 16), Nat.digitChar (c.toNat % 16)]
  else [c]

/-- A quoted text. One that no characters spell is written as a lone escape. -/
def quote : Option String → List Char
  | some s => '"' :: (s.toList.flatMap escape ++ ['"'])
  | none => ['"', '\\', 'u', 'd', '8', '0', '0', '"']

mutual

def chars : Json → List Char
  | null => ['n', 'u', 'l', 'l']
  | bool true => ['t', 'r', 'u', 'e']
  | bool false => ['f', 'a', 'l', 's', 'e']
  | num n => n.text
  | str s => quote s
  | arr [] => ['[', ']']
  | arr (x :: xs) => '[' :: (chars x ++ elementChars xs)
  | obj [] => ['\x7b', '\x7d']
  | obj (m :: ms) => '\x7b' :: (memberChars m ++ membersChars ms)
termination_by structural j => j

def elementChars : List Json → List Char
  | [] => [']']
  | x :: xs => ',' :: (chars x ++ elementChars xs)
termination_by structural xs => xs

def memberChars : Option String × Json → List Char
  | (key, value) => quote key ++ ':' :: chars value
termination_by structural m => m

def membersChars : List (Option String × Json) → List Char
  | [] => ['\x7d']
  | m :: ms => ',' :: (memberChars m ++ membersChars ms)
termination_by structural ms => ms

end

def print (j : Json) : String := String.ofList j.chars

end SceneWorkflow.Json
