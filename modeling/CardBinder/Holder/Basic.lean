import CardBinder.Failure
import CardBinder.Tally
import CardBinder.Text.Integer

/-! A card set in the making: names and counts as they were typed, and what was noticed about them. -/

namespace CardBinder

/-- A card name with an expansion name or none. -/
structure NamedPrinting where
  name : String
  expansion : Option String
  deriving DecidableEq, Repr

/-- By name, then by expansion, no expansion first. -/
instance : Ord NamedPrinting :=
  ⟨compareLex (compareOn NamedPrinting.name) (compareOn NamedPrinting.expansion)⟩

structure Holder where
  name : Option String
  /-- The name of the parent card set. -/
  parent : Option String
  author : String
  comment : String
  annotations : String
  inUse : Bool
  entries : Tally NamedPrinting
  warnings : List String

namespace Holder

def empty : Holder where
  name := none
  parent := none
  author := ""
  comment := ""
  annotations := ""
  inUse := false
  entries := .empty
  warnings := []

instance : Inhabited Holder := ⟨empty⟩

/-- Stages copies; the count of one entry stays within `maxCount`. -/
def add (h : Holder) (count : Nat) (name : String) (expansion : Option String) :
    Outcome Holder :=
  let key : NamedPrinting := ⟨name, expansion⟩
  if count = 0 then .ok h
  else if h.entries.count key + count > Text.maxCount then
    .error (.invalidRequest ("too many copies of '" ++ name ++ "'"))
  else .ok { h with entries := h.entries.add key count }

/-- Takes staged copies back; there have to be as many. -/
def remove (h : Holder) (count : Nat) (name : String) (expansion : Option String) :
    Outcome Holder :=
  let key : NamedPrinting := ⟨name, expansion⟩
  let available := h.entries.count key
  if count = 0 then
    .error (.invalidRequest ("cannot remove zero copies of '" ++ name ++ "'"))
  else if count > available then .error (.invalidRemoval name expansion count available)
  else .ok { h with entries := h.entries.take key count }

/-- What a call answers and the holder that is there after it: `h`, if the call was refused. -/
def leaving (h : Holder) (r : Outcome Holder) : Outcome Unit × Holder :=
  match r with
  | .ok h => (.ok (), h)
  | .error e => (.error e, h)

/-- `add` on a holder in place. The key has an entry before the new count is checked. -/
def addInPlace (h : Holder) (count : Nat) (name : String) (expansion : Option String) :
    Outcome Unit × Holder :=
  if count = 0 then (.ok (), h)
  else
    let h := { h with entries := h.entries.add ⟨name, expansion⟩ 0 }
    h.leaving (h.add count name expansion)

/-- `remove` on a holder in place. The entries are written last. -/
def removeInPlace (h : Holder) (count : Nat) (name : String) (expansion : Option String) :
    Outcome Unit × Holder :=
  h.leaving (h.remove count name expansion)

/-- The number of staged copies. -/
def size (h : Holder) : Nat := h.entries.total

def isEmpty (h : Holder) : Bool := h.entries.isEmpty

def warn (h : Holder) (warning : String) : Holder :=
  { h with warnings := h.warnings ++ [warning] }

def clearWarnings (h : Holder) : Holder :=
  { h with warnings := [] }

end Holder
end CardBinder
