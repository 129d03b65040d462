/-! Row numbers: each table numbers its own rows. -/

namespace CardBinder

inductive TableName where
  | lookups
  | pairs
  | cards
  | printings
  | cardSets
  | copies

@[ext]
structure RowId (t : TableName) where
  val : Nat
  deriving DecidableEq, Repr, Inhabited

instance {t : TableName} : Ord (RowId t) := ⟨fun a b => compare a.val b.val⟩

instance {t : TableName} : ToString (RowId t) := ⟨fun a => toString a.val⟩

abbrev LookupId := RowId .lookups
abbrev PairId := RowId .pairs
abbrev CardId := RowId .cards
abbrev PrintingId := RowId .printings
abbrev CardSetId := RowId .cardSets
abbrev CopyId := RowId .copies

/-- Row numbers stay below this bound, and so do the counters that give them out. -/
def idBound : Nat := 4294967296

/-- The generations of the catalog stay below this bound. -/
def generationBound : Nat := 18446744073709551616

/-- The number of the row at a place of its table. -/
def RowId.ofPlace {t : TableName} (i : Nat) : RowId t := ⟨i % idBound⟩

@[simp] theorem RowId.ofPlace_val {t : TableName} (i : Nat) :
    (RowId.ofPlace i : RowId t).val = i % idBound := rfl

end CardBinder
