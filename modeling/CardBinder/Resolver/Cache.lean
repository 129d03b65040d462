import CardBinder.Database.Basic

/-! Remembered answers about names, hits and misses alike, for one state of the catalog. -/

namespace CardBinder

structure NameCache where
  /-- The catalog the answers are about. -/
  generation : Option Nat
  cards : List (String × Option CardId)
  expansions : List (String × Option LookupId)
  deriving DecidableEq, Repr

namespace NameCache

def empty : NameCache := ⟨none, [], []⟩

instance : Inhabited NameCache := ⟨empty⟩

def size (c : NameCache) : Nat :=
  c.cards.length + c.expansions.length

def invalidate (_ : NameCache) : NameCache := empty

/-- Drops the answers about another catalog than the present one. -/
def sync (c : NameCache) (db : Database) : NameCache :=
  if c.generation = some db.generation then c else ⟨some db.generation, [], []⟩

/-- Puts an answer in the place of an earlier one. -/
def put {α : Type} (answers : List (String × α)) (name : String) (answer : α) :
    List (String × α) :=
  let key := canonicalName name
  (key, answer) :: answers.filter (·.1 != key)

/-- A remembered answer; the inner none is a remembered miss. -/
def card? (c : NameCache) (name : String) : Option (Option CardId) :=
  c.cards.lookup (canonicalName name)

def insertCard (c : NameCache) (name : String) (card : Option CardId) : NameCache :=
  { c with cards := put c.cards name card }

def expansion? (c : NameCache) (name : String) : Option (Option LookupId) :=
  c.expansions.lookup (canonicalName name)

def insertExpansion (c : NameCache) (name : String) (expansion : Option LookupId) : NameCache :=
  { c with expansions := put c.expansions name expansion }

end NameCache
end CardBinder
