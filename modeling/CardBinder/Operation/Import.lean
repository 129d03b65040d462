import CardBinder.Holder.Prepare
import CardBinder.Report
import CardBinder.Store

/-! Making a card set of a holder, and what to do when the name is taken. -/

namespace CardBinder

inductive ImportPolicy where
  | fail
  /-- The new set takes the place of the old one, with its children. -/
  | replace
  /-- The new set gets the first free name of the form "name (n)". -/
  | rename
  deriving DecidableEq, Repr, Inhabited

def ImportPolicy.ofName? : String → Option ImportPolicy
  | "fail" => some .fail
  | "replace" => some .replace
  | "rename" => some .rename
  | _ => none

def numberedName (name : String) (n : Nat) : String :=
  name ++ " (" ++ toString n ++ ")"

namespace Database

/-- The first free numbered name from `n` on, among `tries` of them. -/
def freeName (db : Database) (name : String) (n : Nat) : Nat → String
  | 0 => name
  | tries + 1 =>
    let candidate := numberedName name n
    if (db.findCardSet candidate).isNone then candidate else freeName db name (n + 1) tries

/-- The name itself when it is free, else the first free numbered name. -/
def uniqueName (db : Database) (name : String) : String :=
  if (db.findCardSet name).isNone then name else db.freeName name 1 (db.cardSets.length + 1)

/-- Puts a prepared set in the place of an old one. Refused when the new set would hang below itself. -/
def replaceSet (db : Database) (old : CardSetId) (p : PreparedSet) :
    Outcome (Database × CardSetId) := do
  let row ← db.getCardSet old
  let draft := if p.draft.parent = some old then { p.draft with parent := row.parent } else p.draft
  let children := db.children old
  let db := ((db.removeCardSet old).map (·.1)).getD db
  let (db, id) ← { p with draft }.insert db
  let db := children.foldl (fun db child => db.setParent child (some id)) db
  if db.onLoop id then
    let cs ← db.getCardSet id
    throw (.loopIntroduced (db.cardSetName id)
      ((cs.parent.map db.cardSetName).getD "") (db.loopNames id))
  return (db, id)

def insertOrReplace (db : Database) (replacing : Option CardSetId) (p : PreparedSet) :
    Outcome (Database × CardSetId) :=
  match replacing with
  | none => p.insert db
  | some old => db.replaceSet old p

end Database

namespace Database

/-- What a name that is taken, or not, leads to under a policy: the holder under its final name, the
set to replace and what is said about it. -/
def clash (db : Database) (h : Holder) (name : String) (policy : ImportPolicy) :
    Outcome (Holder × Option CardSetId × Report) :=
  match db.findCardSet name, policy with
  | none, _ => .ok (h, none, .about [])
  | some _, .fail => .error (.setExists name)
  | some old, .replace => .ok (h, some old, .about [])
  | some _, .rename =>
    let renamed := db.uniqueName name
    .ok ({ h with name := some renamed }, none,
      (Report.about []).info
        ("Card set '" ++ name ++ "' exists, importing as '" ++ renamed ++ "'"))

end Database

/-- A holder in work, with the resolver that finds its cards. -/
structure Intake (σ : Type) where
  holder : Holder
  resolver : Resolver σ

/-- Work on a holder; warnings and answers from before a failure stay. -/
abbrev Importing (σ α : Type) := ExceptT Failure (StateM (Intake σ × Store)) α

namespace Importing
variable {σ α : Type}

def work (w : Work α) : Importing σ α := do
  let (intake, store) ← get
  let (result, store) := w.run.run store
  set (intake, store)
  ExceptT.mk (pure result)

def prepare : Importing σ PreparedSet := do
  let (intake, store) ← get
  let (result, holder, resolver) := intake.holder.prepare store.db intake.resolver
  set ((⟨holder, resolver⟩ : Intake σ), store)
  ExceptT.mk (pure result)

def holder : Importing σ Holder := do
  return (← get).1.holder

def setHolder (h : Holder) : Importing σ Unit :=
  modify fun (intake, store) => ({ intake with holder := h }, store)

/-- Makes a card set of a holder whose name is free. -/
def commit : Importing σ CardSetId := do
  let h ← holder
  if let some name := h.name.map Text.trim then
    let found ← work (Work.ask fun db => .ok (db.findCardSet name))
    if found.isSome then throw (.setExists name)
  let prepared ← prepare
  work (Work.transaction prepared.insert)

/-- The report on an imported set. -/
def report (start : Report) (id : CardSetId) : Importing σ Report := do
  let cs ← work (Work.ask (·.getCardSet id))
  let count ← work (Work.ask fun db => .ok (db.cardCount id))
  let r := (← holder).warnings.foldl Report.warning start
  return { r.success ("Imported " ++ toString count ++ " card(s) into " ++ cs.name) with
    affected := start.affected ++ [cs] }

/-- Makes a card set of a holder, by the policy when the name is taken. -/
def importSet (policy : ImportPolicy) : Importing σ Report := do
  let h ← holder
  match h.trimmedName? with
  | none => throw .missingName
  | some name =>
    if h.isEmpty then throw (.emptyHolder name)
    let (h, replacing, start) ← work (Work.ask fun db => db.clash h name policy)
    setHolder h.clearWarnings
    let prepared ← prepare
    let id ← work (Work.transaction fun db => db.insertOrReplace replacing prepared)
    report start id

end Importing
end CardBinder
