import CardBinder.Database.Document
import CardBinder.Proofs.Document.Decode

/-! Each kind of row is read back as it was written, when its numbers fit; and what is read fits. -/

namespace CardBinder

/-- The numbers that a card can have. -/
def IsCardNumber (n : Int) : Prop :=
  -2147483648 ≤ n ∧ n ≤ 2147483647

instance (n : Int) : Decidable (IsCardNumber n) :=
  inferInstanceAs (Decidable (_ ∧ _))

namespace RowId
variable {t : TableName} {id : RowId t} {v : Json}

/-- There is a number for the row. -/
def Fits (id : RowId t) : Prop := id.val < idBound

theorem fits_ofPlace (i : Nat) : (ofPlace i : RowId t).Fits := Nat.mod_lt i (by decide)

theorem ofJson?_toJson (h : id.Fits) : ofJson? id.toJson = some id := by
  have hle : id.val ≤ idBound - 1 := Nat.le_sub_one_of_lt h
  rw [ofJson?, toJson, Json.natUpTo?_nat hle, Option.map_some]

theorem toJson_ne_null (id : RowId t) : id.toJson ≠ .null := by
  intro h
  cases h

theorem fits_of_ofJson? (h : ofJson? v = some id) : id.Fits := by
  obtain ⟨n, hn, rfl⟩ := Option.map_eq_some_iff.mp h
  have hle := Json.le_of_natUpTo? hn
  exact Nat.lt_of_le_of_lt hle (by decide)

end RowId

theorem cardNumberOfJson?_int {n : Int} (h : IsCardNumber n) :
    cardNumberOfJson? (.int n) = some n := by
  simp [cardNumberOfJson?, Json.intBetween?, h.1, h.2]

theorem isCardNumber_of_ofJson? {v : Json} {n : Int} (h : cardNumberOfJson? v = some n) :
    IsCardNumber n := by
  unfold cardNumberOfJson? Json.intBetween? at h
  split at h
  · split at h
    · rename_i hb
      rw [← Option.some.inj h]
      simpa [IsCardNumber] using hb
    · cases h
  · cases h

theorem CostType.ofJson?_name (c : CostType) : CostType.ofJson? (.text c.name) = some c := by
  cases c <;> rfl

theorem DisciplineLevel.ofJson?_name (l : DisciplineLevel) :
    DisciplineLevel.ofJson? (.text l.name) = some l := by
  cases l <;> rfl

theorem getNullable?_cardNumber {n : Option Int} (h : ∀ i ∈ n, IsCardNumber i) :
    Json.getNullable? cardNumberOfJson? (some (Json.optional .int n)) = some n :=
  Json.getNullable?_optional (fun i hi => cardNumberOfJson?_int (h i hi)) (by simp)

theorem isCardNumber_of_getNullable? {field : Option Json} {n : Option Int}
    (h : Json.getNullable? cardNumberOfJson? field = some n) : ∀ i ∈ n, IsCardNumber i := by
  intro i hi
  obtain ⟨v, hv⟩ := Json.of_getNullable? h i hi
  exact isCardNumber_of_ofJson? hv

theorem RowId.getNullable?_optional {t : TableName} {id : Option (RowId t)}
    (h : ∀ i ∈ id, i.Fits) :
    Json.getNullable? RowId.ofJson? (some (Json.optional RowId.toJson id)) = some id :=
  Json.getNullable?_optional (fun i hi => RowId.ofJson?_toJson (h i hi)) RowId.toJson_ne_null

theorem RowId.fits_of_getNullable? {t : TableName} {field : Option Json} {id : Option (RowId t)}
    (h : Json.getNullable? RowId.ofJson? field = some id) : ∀ i ∈ id, i.Fits := by
  intro i hi
  obtain ⟨v, hv⟩ := Json.of_getNullable? h i hi
  exact RowId.fits_of_ofJson? hv

theorem RowId.fits_of_get? {t : TableName} {field : Option Json} {id : RowId t}
    (h : Json.get? RowId.ofJson? field = some id) : id.Fits := by
  obtain ⟨v, hv⟩ := Json.of_get? h
  exact RowId.fits_of_ofJson? hv

/-! Lookup entries -/

theorem LookupEntry.ofJson?_toJson {e : LookupEntry} (h : e.id.Fits) :
    LookupEntry.ofJson? e.toJson = some e := by
  obtain ⟨id, name, otherName⟩ := e
  have hid := RowId.ofJson?_toJson h
  cases otherName with
  | some otherName =>
    simp only [LookupEntry.ofJson?, LookupEntry.toJson, List.cons_append, List.nil_append]
    rw [Json.record?_object (by decide) rfl]
    simp [hid, Json.getNullable?, Json.optional?]
  | none =>
    -- the field that is left out is not an object of the whole shape
    simp [LookupEntry.ofJson?, LookupEntry.toJson, Json.record?, Json.fieldOf?, hid,
      Json.getNullable?, Json.getOr?, List.mapM_cons]

theorem LookupEntry.fits_of_ofJson? {v : Json} {e : LookupEntry}
    (h : LookupEntry.ofJson? v = some e) : e.id.Fits := by
  rw [LookupEntry.ofJson?] at h
  obtain ⟨fields, _, h⟩ := Option.bind_eq_some_iff.mp h
  split at h
  · obtain ⟨id, hid, h⟩ := Option.bind_eq_some_iff.mp h
    obtain ⟨name, _, h⟩ := Option.bind_eq_some_iff.mp h
    obtain ⟨otherName, _, h⟩ := Option.bind_eq_some_iff.mp h
    obtain rfl := Option.some.inj h
    exact RowId.fits_of_get? hid
  · cases h

/-! Pairs -/

structure DisciplinePair.Fits (p : DisciplinePair) : Prop where
  id : p.id.Fits
  discipline : p.discipline.Fits

theorem DisciplinePair.ofJson?_toJson {p : DisciplinePair} (h : p.Fits) :
    DisciplinePair.ofJson? p.toJson = some p := by
  simp only [DisciplinePair.ofJson?, DisciplinePair.toJson]
  rw [Json.record?_object (by decide) rfl]
  simp [RowId.ofJson?_toJson h.id, RowId.ofJson?_toJson h.discipline, DisciplineLevel.ofJson?_name]

theorem DisciplinePair.fits_of_ofJson? {v : Json} {p : DisciplinePair}
    (h : DisciplinePair.ofJson? v = some p) : p.Fits := by
  rw [DisciplinePair.ofJson?] at h
  obtain ⟨fields, _, h⟩ := Option.bind_eq_some_iff.mp h
  split at h
  · obtain ⟨id, hid, h⟩ := Option.bind_eq_some_iff.mp h
    obtain ⟨discipline, hdiscipline, h⟩ := Option.bind_eq_some_iff.mp h
    obtain ⟨level, _, h⟩ := Option.bind_eq_some_iff.mp h
    obtain rfl := Option.some.inj h
    exact ⟨RowId.fits_of_get? hid, RowId.fits_of_get? hdiscipline⟩
  · cases h

structure RarityPair.Fits (p : RarityPair) : Prop where
  id : p.id.Fits
  expansion : p.expansion.Fits
  rarity : p.rarity.Fits

theorem RarityPair.ofJson?_toJson {p : RarityPair} (h : p.Fits) :
    RarityPair.ofJson? p.toJson = some p := by
  simp only [RarityPair.ofJson?, RarityPair.toJson]
  rw [Json.record?_object (by decide) rfl]
  simp [RowId.ofJson?_toJson h.id, RowId.ofJson?_toJson h.expansion, RowId.ofJson?_toJson h.rarity]

theorem RarityPair.fits_of_ofJson? {v : Json} {p : RarityPair}
    (h : RarityPair.ofJson? v = some p) : p.Fits := by
  rw [RarityPair.ofJson?] at h
  obtain ⟨fields, _, h⟩ := Option.bind_eq_some_iff.mp h
  split at h
  · obtain ⟨id, hid, h⟩ := Option.bind_eq_some_iff.mp h
    obtain ⟨expansion, hexpansion, h⟩ := Option.bind_eq_some_iff.mp h
    obtain ⟨rarity, hrarity, h⟩ := Option.bind_eq_some_iff.mp h
    obtain rfl := Option.some.inj h
    exact ⟨RowId.fits_of_get? hid, RowId.fits_of_get? hexpansion, RowId.fits_of_get? hrarity⟩
  · cases h

/-! Cards -/

structure Card.NumbersFit (c : Card) : Prop where
  group : ∀ n ∈ c.group, IsCardNumber n
  capacity : ∀ n ∈ c.capacity, IsCardNumber n
  cost : ∀ n ∈ c.cost, IsCardNumber n
  life : ∀ n ∈ c.life, IsCardNumber n

instance (c : Card) : Decidable c.NumbersFit :=
  decidable_of_iff ((∀ n ∈ c.group, IsCardNumber n) ∧ (∀ n ∈ c.capacity, IsCardNumber n) ∧
      (∀ n ∈ c.cost, IsCardNumber n) ∧ ∀ n ∈ c.life, IsCardNumber n)
    ⟨fun h => ⟨h.1, h.2.1, h.2.2.1, h.2.2.2⟩, fun h => ⟨h.group, h.capacity, h.cost, h.life⟩⟩

theorem Card.ofJson?_toJson {c : Card} (hid : c.id.Fits) (h : c.NumbersFit) :
    Card.ofJson? c.toJson = some c := by
  have hcost : Json.getNullable? CostType.ofJson?
      (some (Json.optional (fun t : CostType => .text t.name) c.costType)) = some c.costType :=
    Json.getNullable?_optional (fun t _ => CostType.ofJson?_name t) (by simp)
  simp only [Card.ofJson?, Card.toJson]
  rw [Json.record?_object (by decide) rfl]
  simp [RowId.ofJson?_toJson hid, getNullable?_cardNumber h.group,
    getNullable?_cardNumber h.capacity, getNullable?_cardNumber h.cost,
    getNullable?_cardNumber h.life, hcost]

theorem Card.fits_of_ofJson? {v : Json} {c : Card} (h : Card.ofJson? v = some c) :
    c.id.Fits ∧ c.NumbersFit := by
  rw [Card.ofJson?] at h
  obtain ⟨fields, _, h⟩ := Option.bind_eq_some_iff.mp h
  split at h
  · obtain ⟨id, hid, h⟩ := Option.bind_eq_some_iff.mp h
    obtain ⟨key, _, h⟩ := Option.bind_eq_some_iff.mp h
    obtain ⟨name, _, h⟩ := Option.bind_eq_some_iff.mp h
    obtain ⟨text, _, h⟩ := Option.bind_eq_some_iff.mp h
    obtain ⟨searchText, _, h⟩ := Option.bind_eq_some_iff.mp h
    obtain ⟨group, hgroup, h⟩ := Option.bind_eq_some_iff.mp h
    obtain ⟨capacity, hcapacity, h⟩ := Option.bind_eq_some_iff.mp h
    obtain ⟨cost, hcost, h⟩ := Option.bind_eq_some_iff.mp h
    obtain ⟨costType, _, h⟩ := Option.bind_eq_some_iff.mp h
    obtain ⟨advanced, _, h⟩ := Option.bind_eq_some_iff.mp h
    obtain ⟨life, hlife, h⟩ := Option.bind_eq_some_iff.mp h
    obtain rfl := Option.some.inj h
    exact ⟨RowId.fits_of_get? hid, isCardNumber_of_getNullable? hgroup,
      isCardNumber_of_getNullable? hcapacity, isCardNumber_of_getNullable? hcost,
      isCardNumber_of_getNullable? hlife⟩
  · cases h

/-! Printings, card sets and copies -/

structure Printing.Fits (p : Printing) : Prop where
  id : p.id.Fits
  card : p.card.Fits
  expansion : ∀ e ∈ p.expansion, e.Fits

theorem Printing.ofJson?_toJson {p : Printing} (h : p.Fits) :
    Printing.ofJson? p.toJson = some p := by
  simp only [Printing.ofJson?, Printing.toJson]
  rw [Json.record?_object (by decide) rfl]
  simp [RowId.ofJson?_toJson h.id, RowId.ofJson?_toJson h.card,
    RowId.getNullable?_optional h.expansion]

theorem Printing.fits_of_ofJson? {v : Json} {p : Printing} (h : Printing.ofJson? v = some p) :
    p.Fits := by
  rw [Printing.ofJson?] at h
  obtain ⟨fields, _, h⟩ := Option.bind_eq_some_iff.mp h
  split at h
  · obtain ⟨id, hid, h⟩ := Option.bind_eq_some_iff.mp h
    obtain ⟨card, hcard, h⟩ := Option.bind_eq_some_iff.mp h
    obtain ⟨expansion, hexpansion, h⟩ := Option.bind_eq_some_iff.mp h
    obtain rfl := Option.some.inj h
    exact ⟨RowId.fits_of_get? hid, RowId.fits_of_get? hcard,
      RowId.fits_of_getNullable? hexpansion⟩
  · cases h

structure CardSet.Fits (cs : CardSet) : Prop where
  id : cs.id.Fits
  parent : ∀ p ∈ cs.parent, p.Fits

theorem CardSet.ofJson?_toJson {cs : CardSet} (h : cs.Fits) :
    CardSet.ofJson? cs.toJson = some cs := by
  simp only [CardSet.ofJson?, CardSet.toJson]
  rw [Json.record?_object (by decide) rfl]
  simp [RowId.ofJson?_toJson h.id, RowId.getNullable?_optional h.parent]

theorem CardSet.fits_of_ofJson? {v : Json} {cs : CardSet} (h : CardSet.ofJson? v = some cs) :
    cs.Fits := by
  rw [CardSet.ofJson?] at h
  obtain ⟨fields, _, h⟩ := Option.bind_eq_some_iff.mp h
  split at h
  · obtain ⟨id, hid, h⟩ := Option.bind_eq_some_iff.mp h
    obtain ⟨name, _, h⟩ := Option.bind_eq_some_iff.mp h
    obtain ⟨author, _, h⟩ := Option.bind_eq_some_iff.mp h
    obtain ⟨comment, _, h⟩ := Option.bind_eq_some_iff.mp h
    obtain ⟨annotations, _, h⟩ := Option.bind_eq_some_iff.mp h
    obtain ⟨inUse, _, h⟩ := Option.bind_eq_some_iff.mp h
    obtain ⟨parent, hparent, h⟩ := Option.bind_eq_some_iff.mp h
    obtain rfl := Option.some.inj h
    exact ⟨RowId.fits_of_get? hid, RowId.fits_of_getNullable? hparent⟩
  · cases h

structure Copy.Fits (c : Copy) : Prop where
  id : c.id.Fits
  cardSet : c.cardSet.Fits
  printing : c.printing.Fits

theorem Copy.ofJson?_toJson {c : Copy} (h : c.Fits) : Copy.ofJson? c.toJson = some c := by
  simp only [Copy.ofJson?, Copy.toJson]
  rw [Json.record?_object (by decide) rfl]
  simp [RowId.ofJson?_toJson h.id, RowId.ofJson?_toJson h.cardSet,
    RowId.ofJson?_toJson h.printing]

theorem Copy.fits_of_ofJson? {v : Json} {c : Copy} (h : Copy.ofJson? v = some c) : c.Fits := by
  rw [Copy.ofJson?] at h
  obtain ⟨fields, _, h⟩ := Option.bind_eq_some_iff.mp h
  split at h
  · obtain ⟨id, hid, h⟩ := Option.bind_eq_some_iff.mp h
    obtain ⟨cardSet, hset, h⟩ := Option.bind_eq_some_iff.mp h
    obtain ⟨printing, hprinting, h⟩ := Option.bind_eq_some_iff.mp h
    obtain rfl := Option.some.inj h
    exact ⟨RowId.fits_of_get? hid, RowId.fits_of_get? hset, RowId.fits_of_get? hprinting⟩
  · cases h

/-! Links -/

structure Link.Fits (l : Link) : Prop where
  card : l.card.Fits
  target : l.target < idBound

theorem Link.ofJson?_list {l : Link} (h : l.Fits) :
    Link.ofJson? (.list [l.card.toJson, .nat l.target]) = some l := by
  have htarget : l.target ≤ idBound - 1 := Nat.le_sub_one_of_lt h.target
  simp [Link.ofJson?, Json.pair?, RowId.ofJson?_toJson h.card, Json.natUpTo?_nat htarget]

theorem Link.fits_of_ofJson? {v : Json} {l : Link} (h : Link.ofJson? v = some l) : l.Fits := by
  obtain ⟨⟨card, target⟩, hpair, rfl⟩ := Option.map_eq_some_iff.mp h
  unfold Json.pair? at hpair
  split at hpair
  · obtain ⟨_, hcard, hpair⟩ := Option.bind_eq_some_iff.mp hpair
    obtain ⟨_, htarget, hpair⟩ := Option.bind_eq_some_iff.mp hpair
    obtain ⟨rfl, rfl⟩ := Prod.mk.inj (Option.some.inj hpair)
    exact ⟨RowId.fits_of_ofJson? hcard,
      Nat.lt_of_le_of_lt (Json.le_of_natUpTo? htarget) (by decide)⟩
  · cases hpair

end CardBinder
