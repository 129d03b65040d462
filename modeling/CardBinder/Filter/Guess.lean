import CardBinder.Filter.Named

/-! Guessing the card that a misspelled name stands for. -/

namespace CardBinder

def notLegalKeyword : String := "not for legal play"

/-- The note in the text of banned cards, for catalogs without the keyword. -/
def bannedNote : String := "Added to the V:EKN banned list"

/-- Cards that may be played. -/
def Filter.legal (db : Database) : Filter :=
  match Filter.ofName db .keyword notLegalKeyword with
  | .ok keyword => .not keyword
  | .error _ => .not (.textContains bannedNote)

/-- Legal cards whose names look like `name`. -/
def Filter.guess (db : Database) (name : String) : Filter :=
  .all [.cardName (guessPattern name), .legal db]

def Database.guesses (db : Database) (name : String) : List CardId :=
  match (Filter.guess db name).selectCards db with
  | .ok ids => ids
  | .error _ => []

end CardBinder
