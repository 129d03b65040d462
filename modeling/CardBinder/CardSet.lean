import CardBinder.Ids

/-! Card sets and the copies they hold. -/

namespace CardBinder

structure CardSet where
  id : CardSetId
  name : String
  author : String
  comment : String
  annotations : String
  inUse : Bool
  parent : Option CardSetId
  deriving DecidableEq, Repr, Inhabited

/-- The details of a card set that does not exist yet. -/
structure CardSetDraft where
  name : String
  author : String := ""
  comment : String := ""
  annotations : String := ""
  inUse : Bool := false
  parent : Option CardSetId := none
  deriving DecidableEq, Repr, Inhabited

def CardSetDraft.toCardSet (d : CardSetDraft) (id : CardSetId) : CardSet :=
  ⟨id, d.name, d.author, d.comment, d.annotations, d.inUse, d.parent⟩

/-- One copy of a printing in a card set. -/
structure Copy where
  id : CopyId
  cardSet : CardSetId
  printing : PrintingId
  deriving DecidableEq, Repr, Inhabited

end CardBinder
