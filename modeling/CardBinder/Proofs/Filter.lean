import CardBinder.Filter.Guess
import CardBinder.Proofs.Outcome

/-! What a filter selects is in the database. -/

namespace CardBinder.Filter
variable {db : Database} {f : Filter}

theorem select_subset {e : Entity} {rows : List Row} (h : f.select db e = .ok rows) :
    rows ⊆ db.rows e := by
  rw [select] at h
  split at h
  · obtain ⟨condition, _, rfl⟩ := Outcome.map_ok h
    exact List.filter_sublist.subset
  · cases h

theorem selectCards_mem {cards : List CardId} (h : f.selectCards db = .ok cards) :
    ∀ card ∈ cards, ∃ c ∈ db.cards, c.id = card := by
  obtain ⟨rows, hrows, rfl⟩ := Outcome.map_ok h
  intro card hcard
  obtain ⟨row, hrow, hmatch⟩ := List.mem_filterMap.mp hcard
  obtain ⟨c, hc, rfl⟩ := List.mem_map.mp (select_subset hrows hrow)
  exact ⟨c, hc, Option.some.inj hmatch⟩

theorem selectPrintings_mem {printings : List PrintingId}
    (h : f.selectPrintings db = .ok printings) :
    ∀ printing ∈ printings, ∃ p ∈ db.printings, p.id = printing := by
  obtain ⟨rows, hrows, rfl⟩ := Outcome.map_ok h
  intro printing hprinting
  obtain ⟨row, hrow, hmatch⟩ := List.mem_filterMap.mp hprinting
  obtain ⟨p, hp, rfl⟩ := List.mem_map.mp (select_subset hrows hrow)
  exact ⟨p, hp, Option.some.inj hmatch⟩

theorem guesses_mem {name : String} {card : CardId} (h : card ∈ db.guesses name) :
    ∃ c ∈ db.cards, c.id = card := by
  rw [Database.guesses] at h
  split at h
  · rename_i hselect
    exact selectCards_mem hselect card h
  · cases h

end CardBinder.Filter
