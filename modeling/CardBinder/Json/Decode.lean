import CardBinder.Json.Basic

/-! Reading domain values out of JSON: what has another shape, or is out of range, is refused. -/

namespace CardBinder.Json

def bool? : Json → Option Bool
  | .bool b => some b
  | _ => none

def text? : Json → Option String
  | .text s => some s
  | _ => none

def natUpTo? (limit : Nat) : Json → Option Nat
  | .int (.ofNat n) => if n ≤ limit then some n else none
  | _ => none

def intBetween? (least greatest : Int) : Json → Option Int
  | .int n => if least ≤ n && n ≤ greatest then some n else none
  | _ => none

/-- Null stands for no value. -/
def optional? {α : Type} (f : Json → Option α) : Json → Option (Option α)
  | .null => some none
  | v => (f v).map some

def list? {α : Type} (f : Json → Option α) : Json → Option (List α)
  | .list items => items.mapM f
  | _ => none

/-- A word out of a fixed list, written as text or as the only key of an object that holds null. -/
def oneOf? {α : Type} (words : List (String × α)) : Json → Option α
  | .text s => (words.find? (·.1 == s)).map (·.2)
  | .object [(s, .null)] => (words.find? (·.1 == s)).map (·.2)
  | _ => none

def pair? {α β : Type} (f : Json → Option α) (g : Json → Option β) : Json → Option (α × β)
  | .list [a, b] => do pure (← f a, ← g b)
  | _ => none

/-- What a record may leave out: nothing, a field by its name only, or a field in either form. -/
inductive Presence where
  | required
  | nullable
  | defaulted
  deriving DecidableEq, Repr

def fieldOf? (fields : List (String × Json)) (name : String) (p : Presence) :
    Option (Option Json) :=
  match fields.filter (·.1 == name) with
  | [] => if p = .required then none else some none
  | [(_, v)] => some (some v)
  | _ => none

def itemAt? (items : List Json) (i : Nat) (p : Presence) : Option (Option Json) :=
  match items[i]? with
  | none => if p = .defaulted then some none else none
  | some v => some (some v)

/-- The fields of a record in the order of `shape`. An object may hold unknown fields but no field
twice; a list gives the fields in order. -/
def record? (shape : List (String × Presence)) : Json → Option (List (Option Json))
  | .object fields => shape.mapM fun (name, p) => fieldOf? fields name p
  | .list items =>
    if items.length ≤ shape.length then
      shape.zipIdx.mapM fun ((_, p), i) => itemAt? items i p
    else none
  | _ => none

/-- A field that has to be there. -/
def get? {α : Type} (f : Json → Option α) : Option Json → Option α
  | some v => f v
  | none => none

/-- A field with a value of its own when it is left out. -/
def getOr? {α : Type} (absent : α) (f : Json → Option α) : Option Json → Option α
  | some v => f v
  | none => some absent

/-- A field that is null or left out when there is no value. -/
def getNullable? {α : Type} (f : Json → Option α) : Option Json → Option (Option α) :=
  getOr? none (optional? f)

end CardBinder.Json
