import CardBinder.Filter.Named

/-! The parts that cards play, each told by a card type and by phrases of the text. -/

namespace CardBinder

inductive CardRole where
  | stealth
  | intercept
  | untap
  | bounce
  | enterCombat
  | bleedModifier
  | bleedAction
  | bleedReduction
  deriving DecidableEq, Repr

namespace CardRole

def all : List CardRole :=
  [.stealth, .intercept, .untap, .bounce, .enterCombat, .bleedModifier, .bleedAction,
    .bleedReduction]

def label : CardRole → String
  | .stealth => "Stealth action modifiers"
  | .intercept => "Intercept reactions"
  | .untap => "Untap reactions (Wake)"
  | .bounce => "Bleed redirection reactions (Bounce)"
  | .enterCombat => "Enter combat actions (Rush)"
  | .bleedModifier => "Increased bleed action modifiers"
  | .bleedAction => "Increased bleed actions"
  | .bleedReduction => "Bleed reduction reactions"

/-- The labels in alphabetical order. -/
def labels : List String :=
  (all.map label).mergeSort fun a b => decide (a ≤ b)

def ofLabel? (s : String) : Option CardRole :=
  all.find? fun role => Text.sameAscii role.label (Text.trim s)

/-- The keyword of the filter whose values roles are. -/
def keyword : String := "CardFunction"

def parse (s : String) : Outcome CardRole :=
  match ofLabel? s with
  | some role => .ok role
  | none => .error (.invalidFilterValue keyword s)

def cardType : CardRole → String
  | .stealth => "Action Modifier"
  | .intercept => "Reaction"
  | .untap => "Reaction"
  | .bounce => "Reaction"
  | .enterCombat => "Action"
  | .bleedModifier => "Action Modifier"
  | .bleedAction => "Action"
  | .bleedReduction => "Reaction"

def anyPhrase (phrases : List String) : Filter :=
  .any (phrases.map Filter.textContains)

/-- What the text of a card has to say. -/
def phrases : CardRole → List Filter
  | .stealth => [Filter.textContains "+_ stealth"]
  | .intercept => [Filter.textContains "+_ intercept"]
  | .untap =>
    [anyPhrase ["this vampire untaps", "this reacting vampire untaps", "untap this vampire",
      "untap this reacting vampire", "as though untapped"]]
  | .bounce => [Filter.textContains "is now bleeding"]
  | .enterCombat => [Filter.textContains "(D) Enter combat"]
  | .bleedModifier => [Filter.textContains "+_ bleed"]
  | .bleedAction => [anyPhrase ["(D) bleed%at +_ bleed", "(D) bleed%with +_ bleed"]]
  | .bleedReduction => [Filter.textContains "bleed", Filter.textContains "reduce"]

/-- Fails when the catalog has no such card type. -/
def filter (db : Database) (role : CardRole) : Outcome Filter := do
  return .all ((← Filter.ofName db .cardType role.cardType) :: role.phrases)

end CardRole

/-- Cards that play any of the parts. -/
def Filter.playing (db : Database) (roles : List CardRole) : Outcome Filter := do
  return .role (.any (← roles.mapM (CardRole.filter db)))

end CardBinder
