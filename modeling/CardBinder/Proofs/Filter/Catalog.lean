import CardBinder.Filter.Guess
import CardBinder.Proofs.Catalog.Valid
import CardBinder.Proofs.Outcome

/-! What filters on cards read of the catalog: guesses are the same as long as the catalog is. -/

namespace CardBinder.Database
variable {db db' : Database}

theorem SameCatalog.resolve (h : SameCatalog db db') (kind : LookupKind) (name : String) :
    db'.resolve kind name = db.resolve kind name := by
  rw [Database.resolve, Database.resolve, h.findLookup]

theorem SameCatalog.card? (h : SameCatalog db db') (id : CardId) : db'.card? id = db.card? id := by
  rw [Database.card?, Database.card?, h.cards]

theorem SameCatalog.related (h : SameCatalog db db') (card : CardId) (r : Relation) :
    db'.related card r = db.related card r := by
  rw [Database.related, Database.related, h.relation]

theorem SameCatalog.targets (h : SameCatalog db db') (r : Relation) (name : String) :
    Filter.targets db' r name = Filter.targets db r name := by
  unfold Filter.targets Filter.entryTargets Filter.disciplineTargets Filter.expansionTargets
  simp only [h.resolve, h.disciplinePairs, h.rarityPairs]

theorem SameCatalog.ofName (h : SameCatalog db db') (r : Relation) (name : String) :
    Filter.ofName db' r name = Filter.ofName db r name := by
  have htargets : Filter.targets db' r = Filter.targets db r := funext (h.targets r)
  rw [Filter.ofName, Filter.ofName, Filter.lookup, Filter.lookup, htargets]

theorem SameCatalog.rowText? (h : SameCatalog db db') (id : CardId) (column : TextColumn) :
    db'.rowText? (.card id) column = db.rowText? (.card id) column := by
  cases column <;> simp only [Database.rowText?, rowCard?, rowCardSet?, h.card?]

mutual

/-- What is asked of a card is asked of the catalog alone. -/
theorem SameCatalog.satisfies (h : SameCatalog db db') (id : CardId) : ∀ c : Condition,
    db'.satisfies (.card id) c = db.satisfies (.card id) c
  | .always => rfl
  | .never => rfl
  | .number .. => by simp only [Database.satisfies, rowCard?, h.card?]
  | .costType .. => by simp only [Database.satisfies, rowCard?, h.card?]
  | .like .. => by simp only [Database.satisfies, h.rowText?]
  | .linked .. => by simp only [Database.satisfies, rowCard?, h.card?, h.related]
  | .cardIn _ => by simp only [Database.satisfies, rowCard?, h.card?]
  | .printingIn _ => rfl
  | .expansionIn _ => rfl
  | .cardSetIn _ => rfl
  | .parentIn _ => rfl
  | .all parts => by simp only [Database.satisfies, h.satisfiesAll id parts]
  | .any parts => by simp only [Database.satisfies, h.satisfiesAny id parts]
  | .not part => by simp only [Database.satisfies, h.satisfies id part]

theorem SameCatalog.satisfiesAll (h : SameCatalog db db') (id : CardId) : ∀ cs : List Condition,
    db'.satisfiesAll (.card id) cs = db.satisfiesAll (.card id) cs
  | [] => rfl
  | c :: cs => by simp only [Database.satisfiesAll, h.satisfies id c, h.satisfiesAll id cs]

theorem SameCatalog.satisfiesAny (h : SameCatalog db db') (id : CardId) : ∀ cs : List Condition,
    db'.satisfiesAny (.card id) cs = db.satisfiesAny (.card id) cs
  | [] => rfl
  | c :: cs => by simp only [Database.satisfiesAny, h.satisfies id c, h.satisfiesAny id cs]

end

theorem SameCatalog.select_card (h : SameCatalog db db') (c : Condition) :
    db'.select .card c = db.select .card c := by
  rw [Database.select, Database.select, Database.rows, Database.rows, h.cards]
  refine List.filter_congr ?_
  intro row hrow
  obtain ⟨card, _, rfl⟩ := List.mem_map.mp hrow
  exact h.satisfies card.id c

theorem SameCatalog.guess (h : SameCatalog db db') (name : String) :
    Filter.guess db' name = Filter.guess db name := by
  rw [Filter.guess, Filter.guess, Filter.legal, Filter.legal, h.ofName]

/-- Neither part of a guess looks at the contents of the card sets. -/
theorem condition_guess (db db' : Database) (name : String) :
    (Filter.guess db name).condition db' = (Filter.guess db name).condition db := by
  have hlegal : (Filter.legal db).condition db' = (Filter.legal db).condition db := by
    rw [Filter.legal]
    split
    · rename_i keyword hkeyword
      obtain ⟨found, _, hrelated⟩ := Outcome.bind_ok hkeyword
      obtain rfl := Except.ok.inj hrelated
      rfl
    · rfl
  simp only [Filter.guess, Filter.condition, Filter.conditions, hlegal]

theorem SameCatalog.guesses (h : SameCatalog db db') (name : String) :
    db'.guesses name = db.guesses name := by
  rw [Database.guesses, Database.guesses, h.guess, Filter.selectCards, Filter.selectCards,
    Filter.select, Filter.select, condition_guess db db', funext h.select_card]

end CardBinder.Database
