/-! Words out of a fixed vocabulary, and what is said about a word that is not in it. -/

namespace CardBinder

structure UnknownWord where
  /-- What the words of the vocabulary stand for. -/
  vocabulary : String
  word : String
  deriving DecidableEq, Repr

namespace UnknownWord

def message (u : UnknownWord) : String :=
  "unknown " ++ u.vocabulary ++ " '" ++ u.word ++ "'"

/-- What a word stands for, or the complaint that it stands for nothing. -/
def orElse {α : Type} (u : UnknownWord) : Option α → Except UnknownWord α
  | some a => .ok a
  | none => .error u

end UnknownWord
end CardBinder
