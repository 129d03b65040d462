import CardBinder.Database.Document
import CardBinder.Forest

/-! The working copy of a database and the document it was last saved as. -/

namespace CardBinder

structure Store where
  /-- Where the document is kept, for people to read. -/
  location : String
  db : Database
  /-- The last document that was saved. -/
  saved : Option Json
  /-- Saving fails as long as this is set. -/
  failing : Bool
  saves : Nat

namespace Store

/-- A store in memory with nothing saved. -/
def ofDatabase (db : Database) : Store := ⟨"memory://sutekh", db, none, false, 0⟩

def empty : Store := ofDatabase .empty

instance : Inhabited Store := ⟨empty⟩

/-- The database of a document, an empty one when there is none. -/
def databaseOf (saved : Option Json) : Outcome Database :=
  match saved with
  | none => .ok .empty
  | some doc =>
    match Database.ofJson? doc with
    | some db => .ok db
    | none => .error .unreadableDocument

/-- Opens the document kept at a location. -/
def openAt (location : String) (saved : Option Json) : Outcome Store := do
  return ⟨location, ← databaseOf saved, saved, false, 0⟩

/-- The database that was saved last. -/
def load (s : Store) : Outcome Database := databaseOf s.saved

/-- Goes back to what was saved last. -/
def reopen (s : Store) : Outcome Store := do
  return { s with db := ← s.load }

/-- Saves the working copy. -/
def commit (s : Store) : Outcome Store :=
  if s.failing then .error (.store "Simulated write error")
  else .ok { s with saved := some s.db.toJson, saves := s.saves + 1 }

/-- Changes, checks and saves the working copy as one step, or fails. -/
def attempt {α : Type} (s : Store) (change : Database → Outcome (Database × α)) :
    Outcome (Store × α) := do
  let (db, value) ← change s.db
  db.validate
  let s ← { s with db }.commit
  return (s, value)

end Store

/-- Work on a store. What was done before a failure stays done. -/
abbrev Work (α : Type) := ExceptT Failure (StateM Store) α

namespace Work
variable {α : Type}

/-- Asks the working copy. -/
def ask (f : Database → Outcome α) : Work α := do
  ExceptT.mk (pure (f (← get).db))

/-- One step that is done in full and saved, or leaves the store as it was. -/
def transaction (change : Database → Outcome (Database × α)) : Work α := do
  match (← get).attempt change with
  | .error failure => throw failure
  | .ok (s, value) =>
    set s
    return value

end Work
end CardBinder
