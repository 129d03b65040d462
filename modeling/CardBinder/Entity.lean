/-! The kinds of rows that can be selected. -/

namespace CardBinder

inductive Entity where
  | card
  | printing
  | cardSet
  | copy
  deriving DecidableEq, Repr, Inhabited

namespace Entity

def all : List Entity := [.card, .printing, .cardSet, .copy]

def label : Entity → String
  | .card => "AbstractCard"
  | .printing => "PhysicalCard"
  | .cardSet => "CardSet"
  | .copy => "Membership"

/-- Rows that reach a card. -/
def withCard : List Entity := [.card, .printing, .copy]

/-- Rows that reach a printing. -/
def withPrinting : List Entity := [.printing, .copy]

end Entity
end CardBinder
