import CardBinder.Ids
import CardBinder.Names

/-! One lookup table: entries in the order of their ids, and the names and aliases that find them. -/

namespace CardBinder

structure LookupEntry where
  id : LookupId
  name : String
  /-- A short or long form of the name that finds the same entry. -/
  otherName : Option String
  deriving DecidableEq, Repr, Inhabited

structure LookupTable where
  entries : List LookupEntry
  /-- Canonical names and the entries they find; the first match counts. -/
  names : List (String × LookupId)
  deriving DecidableEq, Repr, Inhabited

namespace LookupTable

def empty : LookupTable := ⟨[], []⟩

def findKey (t : LookupTable) (key : String) : Option LookupId :=
  t.names.lookup key

def find (t : LookupTable) (name : String) : Option LookupId :=
  t.findKey (canonicalName name)

def get? (t : LookupTable) (id : LookupId) : Option LookupEntry :=
  t.entries[id.val]?

/-- The entry of a name; an unknown name gets a new one. -/
def ensure (t : LookupTable) (name : String) : LookupTable × LookupId :=
  match t.find name with
  | some id => (t, id)
  | none =>
    let id : LookupId := .ofPlace t.entries.length
    (⟨t.entries ++ [⟨id, Text.trim name, none⟩], (canonicalName name, id) :: t.names⟩, id)

def withAlias (otherName : String) (e : LookupEntry) : LookupEntry :=
  match e.otherName with
  | some _ => e
  | none => { e with otherName := some otherName }

/-- Lets an alias find an entry, unless it finds one already; an entry records its first alias only. -/
def addAlias (t : LookupTable) (id : LookupId) (otherName : String) : LookupTable :=
  let otherName := Text.trim otherName
  if otherName.isEmpty then t
  else match t.find otherName with
    | some _ => t
    | none => ⟨t.entries.modify id.val (withAlias otherName), (canonicalName otherName, id) :: t.names⟩

/-- The entry of a name, made when needed, with an alias for it. -/
def getOrCreate (t : LookupTable) (name : String) (otherName : Option String) :
    LookupTable × LookupId :=
  let (t, id) := t.ensure name
  match otherName with
  | none => (t, id)
  | some otherName => (t.addAlias id otherName, id)

/-- A name takes over from earlier entries, an alias only finds what nothing else does. -/
def indexEntry (names : List (String × LookupId)) (e : LookupEntry) : List (String × LookupId) :=
  let names := (canonicalName e.name, e.id) :: names
  match e.otherName with
  | none => names
  | some otherName =>
    match names.lookup (canonicalName otherName) with
    | some _ => names
    | none => (canonicalName otherName, e.id) :: names

/-- The table of stored entries. -/
def ofEntries (entries : List LookupEntry) : LookupTable :=
  ⟨entries, entries.foldl indexEntry []⟩

end LookupTable
end CardBinder
