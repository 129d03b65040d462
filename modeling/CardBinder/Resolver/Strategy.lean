import CardBinder.Filter.Guess

/-! Ways to find the card that a typed name means. -/

namespace CardBinder
variable {σ : Type}

/-- A way to find cards and expansions by typed names; `σ` is what it remembers from call to call. -/
structure Strategy (σ : Type) where
  card : Database → String → σ → Option CardId × σ
  expansion : Database → String → σ → Option LookupId × σ

namespace Strategy

/-- Expansions are found by their exact names and aliases only. -/
def exactExpansion (db : Database) (name : String) (s : σ) : Option LookupId × σ :=
  (db.findLookup .expansion name, s)

/-- The card of the name itself, at most with its article moved. -/
def exact : Strategy σ where
  card db name s := (db.findCard name, s)
  expansion := exactExpansion

/-- The card of the name itself, else the only legal card that looks like it. -/
def guessCard (db : Database) (name : String) : Option CardId :=
  match db.findCard name with
  | some id => some id
  | none =>
    match db.guesses name with
    | [only] => some only
    | _ => none

def bestGuess : Strategy σ where
  card db name s := (guessCard db name, s)
  expansion := exactExpansion

/-- The card of the name itself, else whatever is chosen for the name among the cards that look like it. -/
def prompt (choose : String → List CardId → σ → Option CardId × σ) : Strategy σ where
  card db name s :=
    match db.findCard name with
    | some id => (some id, s)
    | none => choose name (db.guesses name) s
  expansion := exactExpansion

end Strategy

/-- The strategies that ask nobody. -/
inductive LookupMode where
  | exact
  | bestGuess
  deriving DecidableEq, Repr, Inhabited

namespace LookupMode

def name : LookupMode → String
  | .exact => "exact"
  | .bestGuess => "best-guess"

def ofName? (s : String) : Option LookupMode :=
  [LookupMode.exact, .bestGuess].find? (·.name == s)

def ofText? (s : String) : Option LookupMode :=
  match canonicalName s with
  | "exact" => some .exact
  | "best-guess" => some .bestGuess
  | "best_guess" => some .bestGuess
  | "guess" => some .bestGuess
  | _ => none

def parse (s : String) : Except UnknownWord LookupMode :=
  UnknownWord.orElse ⟨"lookup mode", canonicalName s⟩ (ofText? s)

def strategy : LookupMode → Strategy σ
  | .exact => .exact
  | .bestGuess => .bestGuess

end LookupMode
end CardBinder
