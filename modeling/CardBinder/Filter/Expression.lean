import CardBinder.Filter.Vocabulary

/-! Filter expressions: `Keyword=value|value`, a keyword alone, and `!` in front for the opposite. -/

namespace CardBinder

/-- The parts of an expression. -/
structure FilterExpression where
  negated : Bool
  keyword : String
  values : List String
  deriving DecidableEq, Repr

namespace FilterExpression

/-- The values between the bars, trimmed, without blank ones. -/
def valuesOf (s : String) : List String :=
  ((Text.split '|' s).map Text.trim).filter (!·.isEmpty)

/-- Reads keyword and values from an expression without its mark of negation. -/
def ofBody (negated : Bool) (body : String) : Outcome FilterExpression :=
  let (keyword, values) := match Text.cutFirst "=" body with
    | some (keyword, values) => (Text.trim keyword, valuesOf values)
    | none => (body, [])
  if keyword.isEmpty then
    .error (.invalidRequest ("filter expression '" ++ body ++ "' has no keyword"))
  else .ok ⟨negated, keyword, values⟩

def parse (s : String) : Outcome FilterExpression :=
  match Text.trimChars s.toList with
  | '!' :: cs => ofBody true (String.ofList (Text.trimStartChars cs))
  | cs => ofBody false (String.ofList cs)

/-- What an expression selects. -/
def filter (e : FilterExpression) (db : Database) : Outcome Filter := do
  let f ← buildFilter db e.keyword e.values
  return if e.negated then .not f else f

end FilterExpression

def Database.parseFilter (db : Database) (s : String) : Outcome Filter := do
  (← FilterExpression.parse s).filter db

/-- All expressions at once; none selects everything. -/
def Database.combinedFilter (db : Database) (exprs : List String) : Outcome Filter := do
  match ← exprs.mapM db.parseFilter with
  | [f] => return f
  | fs => return .all fs

def Database.filterCards (db : Database) (exprs : List String) : Outcome (List CardId) := do
  (← db.combinedFilter exprs).selectCards db

def Database.filterValues (db : Database) (keyword : String) : Outcome (List String) :=
  match filterEntry? keyword with
  | some e => .ok (e.values db)
  | none => .error (.notFound .filter keyword)

end CardBinder
