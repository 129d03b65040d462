import CardBinder.Ids

/-! The named tables that cards refer to: clans, sects, expansions and so on. -/

namespace CardBinder

inductive LookupKind where
  | clan
  | creed
  | virtue
  | sect
  | title
  | cardType
  | discipline
  | expansion
  | rarity
  | artist
  | keyword
  | ruling
  deriving DecidableEq, Repr, Inhabited

namespace LookupKind

def all : List LookupKind :=
  [.clan, .creed, .virtue, .sect, .title, .cardType, .discipline, .expansion, .rarity, .artist,
    .keyword, .ruling]

def index : LookupKind → Fin 12
  | .clan => 0
  | .creed => 1
  | .virtue => 2
  | .sect => 3
  | .title => 4
  | .cardType => 5
  | .discipline => 6
  | .expansion => 7
  | .rarity => 8
  | .artist => 9
  | .keyword => 10
  | .ruling => 11

/-- The name of the table in messages. -/
def label : LookupKind → String
  | .clan => "Clan"
  | .creed => "Creed"
  | .virtue => "Virtue"
  | .sect => "Sect"
  | .title => "Title"
  | .cardType => "Card type"
  | .discipline => "Discipline"
  | .expansion => "Expansion"
  | .rarity => "Rarity"
  | .artist => "Artist"
  | .keyword => "Keyword"
  | .ruling => "Ruling"

/-- The name of the table in documents and catalogs. -/
def key : LookupKind → String
  | .clan => "clan"
  | .creed => "creed"
  | .virtue => "virtue"
  | .sect => "sect"
  | .title => "title"
  | .cardType => "card_type"
  | .discipline => "discipline"
  | .expansion => "expansion"
  | .rarity => "rarity"
  | .artist => "artist"
  | .keyword => "keyword"
  | .ruling => "ruling"

def ofKey? (s : String) : Option LookupKind :=
  all.find? (·.key == s)

end LookupKind
end CardBinder
