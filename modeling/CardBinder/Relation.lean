import CardBinder.Lookup.Kind

/-! The links between cards and their attributes. -/

namespace CardBinder

/-- What a card is linked to: entries of a lookup table, or pairs for disciplines and rarities. -/
inductive Relation where
  | clan
  | creed
  | virtue
  | sect
  | title
  | cardType
  | discipline
  | rarity
  | artist
  | keyword
  | ruling
  deriving DecidableEq, Repr, Inhabited

namespace Relation

def all : List Relation :=
  [.clan, .creed, .virtue, .sect, .title, .cardType, .discipline, .rarity, .artist, .keyword,
    .ruling]

def index : Relation → Fin 11
  | .clan => 0
  | .creed => 1
  | .virtue => 2
  | .sect => 3
  | .title => 4
  | .cardType => 5
  | .discipline => 6
  | .rarity => 7
  | .artist => 8
  | .keyword => 9
  | .ruling => 10

theorem index_lt (r : Relation) : r.index.val < 11 := r.index.isLt

/-- The lookup table of the linked entries; disciplines and rarities are linked by pairs. -/
def lookupKind? : Relation → Option LookupKind
  | .clan => some .clan
  | .creed => some .creed
  | .virtue => some .virtue
  | .sect => some .sect
  | .title => some .title
  | .cardType => some .cardType
  | .discipline => none
  | .rarity => none
  | .artist => some .artist
  | .keyword => some .keyword
  | .ruling => some .ruling

def label (r : Relation) : String :=
  match r.lookupKind? with
  | some kind => kind.label
  | none => if r = .discipline then "Discipline pair" else "Rarity pair"

def key : Relation → String
  | .clan => "clan"
  | .creed => "creed"
  | .virtue => "virtue"
  | .sect => "sect"
  | .title => "title"
  | .cardType => "card_type"
  | .discipline => "discipline"
  | .rarity => "rarity"
  | .artist => "artist"
  | .keyword => "keyword"
  | .ruling => "ruling"

def ofKey? (s : String) : Option Relation :=
  all.find? (·.key == s)

end Relation

structure Link where
  card : CardId
  target : Nat
  deriving DecidableEq, Repr, Inhabited

/-- Links are ordered by card, then by what they lead to. -/
instance : Ord Link := ⟨compareLex (compareOn Link.card) (compareOn Link.target)⟩

/-- The links of one relation, in ascending order and each once. -/
structure LinkTable where
  links : List Link
  deriving DecidableEq, Repr, Inhabited

namespace LinkTable

def empty : LinkTable := ⟨[]⟩

/-- Puts one more among ascending ones, unless it is there. -/
def insertInto {α : Type} [Ord α] (x : α) : List α → List α
  | [] => [x]
  | y :: rest =>
    match compare x y with
    | .lt => x :: y :: rest
    | .eq => y :: rest
    | .gt => y :: insertInto x rest

def insert (t : LinkTable) (card : CardId) (target : Nat) : LinkTable :=
  ⟨insertInto ⟨card, target⟩ t.links⟩

def ofLinks (ls : List Link) : LinkTable :=
  ls.foldl (fun t l => t.insert l.card l.target) empty

def contains (t : LinkTable) (card : CardId) (target : Nat) : Bool :=
  t.links.contains ⟨card, target⟩

/-- What a card is linked to, ascending. -/
def forward (t : LinkTable) (card : CardId) : List Nat :=
  (t.links.filter (·.card == card)).map (·.target)

/-- The cards linked to a target, ascending. -/
def reverse (t : LinkTable) (target : Nat) : List CardId :=
  (t.links.filter (·.target == target)).map (·.card)

def hasLinks (t : LinkTable) (card : CardId) : Bool :=
  t.links.any (·.card == card)

end LinkTable
end CardBinder
