import CardBinder.Features
import CardBinder.Filter.Expression
import CardBinder.Grouping
import CardBinder.Holder.DeckList
import CardBinder.Listing
import CardBinder.Operation.Copies
import CardBinder.Operation.Details
import CardBinder.Operation.Import
import CardBinder.Operation.LoopRepair
import CardBinder.Operation.Moves
import CardBinder.Operation.Refresh
import CardBinder.Operation.Removal
import CardBinder.Operation.Selection
import CardBinder.Supply

/-! The work on one collection: operations by name, over a store and a resolver of names. -/

namespace CardBinder

structure Desk (σ : Type) where
  store : Store
  resolver : Resolver σ

/-- A step at a desk; what was looked up before a failure stays known. -/
abbrev Action (σ α : Type) := ExceptT Failure (StateM (Desk σ)) α

/-- A new card set by names. -/
structure SetRequest where
  name : String
  parent : Option String := none
  author : String := ""
  comment : String := ""
  deriving DecidableEq, Repr, Inhabited

namespace Desk
variable {σ : Type}

def db (d : Desk σ) : Database := d.store.db

def ofStore (store : Store) (strategy : Strategy σ) (state : σ) : Desk σ :=
  ⟨store, ⟨strategy, .empty, state⟩⟩

end Desk

namespace Action
variable {σ α : Type}

/-- Asks the database. -/
def ask (f : Database → Outcome α) : Action σ α := do
  ExceptT.mk (pure (f (← get).db))

def work (w : Work α) : Action σ α := do
  let d ← get
  let (result, store) := w.run.run d.store
  set { d with store }
  ExceptT.mk (pure result)

def cardSet (name : String) : Action σ CardSetId :=
  ask (·.resolveCardSet name)

def optionalCardSet : Option String → Action σ (Option CardSetId)
  | none => return none
  | some name => return some (← cardSet name)

/-- The card of a typed name, by the resolver. -/
def card (name : String) : Action σ CardId := do
  let d ← get
  let (found, resolver) := d.resolver.card d.db name
  set { d with resolver }
  match found with
  | some id => return id
  | none => throw (.notFound .card name)

/-- The expansion of a typed name, by the resolver. -/
def expansion : Option String → Action σ (Option LookupId)
  | none => return none
  | some name => do
    let d ← get
    let (found, resolver) := d.resolver.expansion d.db name
    set { d with resolver }
    match found with
    | some id => return some id
    | none => throw (.notFound (.entry .expansion) name)

def draft (r : SetRequest) : Action σ CardSetDraft := do
  return { name := r.name, author := r.author, comment := r.comment,
           parent := ← optionalCardSet r.parent }

def createSet (r : SetRequest) : Action σ Report := do
  let d ← draft r
  work (.createSet d)

def updateSet (name : String) (change : DetailChange) : Action σ Report := do
  let set ← cardSet name
  work (.updateSet set change)

def copyCount (name : String) (expansionName : Option String) (count : Nat) :
    Action σ CopyCount := do
  let card ← card name
  let expansion ← expansion expansionName
  return ⟨card, expansion, count⟩

def addCards (set card : String) (expansion : Option String) (count : Nat) :
    Action σ Report := do
  let set ← cardSet set
  let copies ← copyCount card expansion count
  work (.addCopies set copies)

def removeCards (set card : String) (expansion : Option String) (count : Nat) :
    Action σ Report := do
  let set ← cardSet set
  let copies ← copyCount card expansion count
  work (.removeCopies set copies)

def reparent (name : String) (parent : Option String) : Action σ Report := do
  let set ← cardSet name
  let parent ← optionalCardSet parent
  work (.reparent set parent)

def reparentChildren (source : String) (target : Option String) : Action σ Report := do
  let source ← cardSet source
  let target ← optionalCardSet target
  work (.reparentChildren source target)

def checkDelete (name : String) : Action σ DeleteCheck := do
  let set ← cardSet name
  ask (·.checkDelete set)

def deleteSet (name : String) : Action σ Report := do
  let set ← cardSet name
  work (.deleteSet set)

def repairLoops : Action σ Report :=
  work .repairLoops

def contents (name : String) : Action σ (List ContentLine) := do
  let set ← cardSet name
  ask fun db => .ok (db.contents set)

def checkIndependence (parent : String) (children : List String) : Action σ SupplyReport := do
  let parent ← cardSet parent
  let children ← children.mapM cardSet
  ask (·.checkIndependence parent children)

/-- Work on a holder; the holder as it is afterwards goes with the result. -/
def importing (h : Holder) (w : Importing σ α) : Action σ (Outcome α × Holder) := do
  let d ← get
  let (result, intake, store) := w.run.run (⟨h, d.resolver⟩, d.store)
  set ({ store, resolver := intake.resolver } : Desk σ)
  return (result, intake.holder)

/-- Makes a card set of a deck list; a name or parent given here goes before those of the list. -/
def importDeckList (text : String) (name parent : Option String) (policy : ImportPolicy) :
    Action σ Report := do
  let h ← ExceptT.mk (pure (Holder.ofDeckList text))
  let (result, _) ← importing
    { h with name := name.or h.name, parent := parent.or h.parent } (.importSet policy)
  ExceptT.mk (pure result)

/-- A new catalog; answers about the old one are forgotten. -/
def refreshCatalog (catalog : Catalog) : Action σ Report := do
  let report ← work (.refreshCatalog catalog)
  modify fun d => { d with resolver := d.resolver.invalidate }
  return report

def createFromFilter (exprs : List String) (r : SetRequest) : Action σ Report := do
  let f ← ask (·.combinedFilter exprs)
  let d ← draft r
  work (.createFromFilter f d)

def setStrategy (strategy : Strategy σ) : Action σ Unit :=
  modify fun d => { d with resolver := d.resolver.setStrategy strategy }

end Action
end CardBinder
