import SceneWorkflow.Json.Basic
import SceneWorkflow.KeyMap

/-! Typed values as JSON documents and back: numbers in range, texts, maps, and records with fields
in a fixed order. -/

namespace SceneWorkflow.Json

def ofInt32 (n : Int32) : Json := ofInt n.toInt

def ofMap (f : α → Json) (m : KeyMap α) : Json := record (m.entries.map fun e => (e.1, f e.2))

def string? : Json → Option String
  | .str s => s
  | _ => none

def intBetween? (lo hi : Int) : Json → Option Int
  | .num n => n.int?.bind fun k => if lo ≤ k ∧ k ≤ hi then some k else none
  | _ => none

def int64? : Json → Option Int := intBetween? (-9223372036854775808) 9223372036854775807

def int32? (j : Json) : Option Int32 :=
  (intBetween? (-2147483648) 2147483647 j).map Int32.ofInt

/-- One of several names, given as a text or as an object that maps it to `null`. -/
def tag? (ofName? : String → Option α) : Json → Option α
  | .str (some name) => ofName? name
  | .obj [(some name, .null)] => ofName? name
  | _ => none

def list? (d : Json → Option α) : Json → Option (List α)
  | .arr xs => xs.mapM d
  | _ => none

/-- One entry of a map: a key that spells a text and a value. -/
def member? (d : Json → Option α) (m : Option String × Json) : Option (String × α) := do
  let key ← m.1
  let value ← d m.2
  return (key, value)

/-- A map; the last entry of a key counts. -/
def map? (d : Json → Option α) : Json → Option (KeyMap α)
  | .obj ms => (ms.mapM (member? d)).map KeyMap.ofList
  | _ => none

/-- The only value of a key, if the key occurs; `none` when it is repeated. -/
def only? (members : List (String × Json)) (key : String) : Option (Option Json) :=
  match members.filter fun m => m.1 == key with
  | [] => some none
  | [m] => some (some m.2)
  | _ => none

/-- The fields of a record, present or missing. A record is an object, in which unknown members are
ignored and known ones must not repeat, or an array of its first fields. -/
def fields? (names : List String) : Json → Option (List (Option Json))
  | .obj ms => do
    let named ← ms.mapM fun m => m.1.map fun key => (key, m.2)
    names.mapM (only? named)
  | .arr xs =>
    if xs.length ≤ names.length then
      some (xs.map some ++ List.replicate (names.length - xs.length) none)
    else none
  | _ => none

def required (d : Json → Option α) (field : Option Json) : Option α := field.bind d

def withDefault (a : α) (d : Json → Option α) : Option Json → Option α
  | none => some a
  | some j => d j

/-- A field that may be missing or `null`. -/
def optional (d : Json → Option α) : Option Json → Option (Option α)
  | none => some none
  | some .null => some none
  | some j => (d j).map some

end SceneWorkflow.Json
