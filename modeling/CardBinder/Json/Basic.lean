/-! JSON values; the fields of an object keep their order. -/

namespace CardBinder

inductive Json where
  | null
  | bool (b : Bool)
  | int (n : Int)
  /-- A number with a fraction or an exponent, as it was written. -/
  | decimal (written : String)
  | text (s : String)
  | list (items : List Json)
  | object (fields : List (String × Json))
  /-- A text with half of a surrogate pair, or an object with such a key: fit only to be passed over. -/
  | unreadable
  deriving Inhabited, Repr

namespace Json

def nat (n : Nat) : Json := .int n

def texts (xs : List String) : Json := .list (xs.map .text)

/-- A value or null. -/
def optional {α : Type} (f : α → Json) : Option α → Json
  | none => .null
  | some a => f a

end Json
end CardBinder
