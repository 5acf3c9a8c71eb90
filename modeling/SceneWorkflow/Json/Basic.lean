import SceneWorkflow.Json.Numeral

/-! JSON documents as trees that keep what the text says: the written form of numbers, the order of
members and members that repeat. -/

namespace SceneWorkflow

/-- A JSON document. A quoted text is `none` when its escapes name half of a surrogate pair, so that
no characters spell it. -/
inductive Json where
  | null
  | bool (b : Bool)
  | num (n : Json.Numeral)
  | str (s : Option String)
  | arr (xs : List Json)
  | obj (members : List (Option String × Json))
deriving Inhabited

namespace Json

def ofString (s : String) : Json := .str (some s)

def ofInt (n : Int) : Json := .num (.ofInt n)

/-- An object with the given fields, in the given order. -/
def record (fields : List (String × Json)) : Json :=
  .obj (fields.map fun f => (some f.1, f.2))

def ofOption (f : α → Json) : Option α → Json
  | none => .null
  | some a => f a

end Json

end SceneWorkflow
