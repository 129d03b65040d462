import CardBinder.Proofs.Desk.Run
import CardBinder.Proofs.Tally

/-! A refreshed catalog conserves the contents of the card sets: each copy is found again by its names,
or told as lost. -/

namespace CardBinder

/-- A copy by the set it is in, its card and its expansion. -/
structure Holding where
  cardSet : CardSetId
  card : CardId
  expansion : Option LookupId
  deriving DecidableEq, Repr

namespace SavedCopy

/-- How a copy is told when its card is gone. -/
def withoutCard (c : SavedCopy) : LostCopies :=
  ⟨c.cardSet, c.displayName, ""⟩

/-- How a copy is told when its expansion is gone. -/
def withoutExpansion (c : SavedCopy) : LostCopies :=
  ⟨c.cardSet, c.displayName, c.expansion.getD ""⟩

end SavedCopy

namespace Database

/-- What a copy is of. -/
def holding? (db : Database) (c : Copy) : Option Holding :=
  (db.printing? c.printing).map fun p => ⟨c.cardSet, p.card, p.expansion⟩

/-- There still is a card with the key of a copy. -/
def keepsCard (db : Database) (c : SavedCopy) : Bool :=
  (db.findCard c.card).isSome

/-- What the names of a copy lead to; none when its card is gone. -/
def reattach? (db : Database) (c : SavedCopy) : Option Holding :=
  (db.findCard c.card).map fun card =>
    ⟨c.cardSet, card, c.expansion.bind (db.findLookup .expansion)⟩

/-- The card of a copy is still there, and its expansion is not. -/
def losesExpansion (db : Database) (c : SavedCopy) : Bool :=
  db.keepsCard c && c.expansion.any fun name => (db.findLookup .expansion name).isNone

variable {db db' : Database} {card : CardId} {expansion : Option LookupId} {c : Copy}

/-- One more copy, its printing made when needed. -/
def withCopy (db : Database) (x : Holding) : Database :=
  ((db.printingFor x.card x.expansion).1.addCopy x.cardSet
    (db.printingFor x.card x.expansion).2).1

/-! What copies are of -/

theorem withCopy_eq (db : Database) (x : Holding) :
    db.withCopy x = { db with
      printings := (db.withCopy x).printings
      copies := db.copies ++
        [⟨⟨db.nextCopyId⟩, x.cardSet, (db.printingFor x.card x.expansion).2⟩]
      nextCopyId := db.nextCopyId + 1 } := by
  rw [withCopy, addCopy]
  rw [printingFor_eq]

theorem numbered_withCopy (h : Numbered (·.id.val) db.printings) (x : Holding) :
    Numbered (·.id.val) (db.withCopy x).printings ∧
      (db.withCopy x).printings.length ≤ db.printings.length + 1 := by
  obtain ⟨new, hnew, hfew⟩ := printingFor_append db x.card x.expansion
  refine ⟨numbered_printingFor h x.card x.expansion, ?_⟩
  change (db.printingFor x.card x.expansion).1.printings.length ≤ _
  rw [hnew, List.length_append]
  omega

/-- Copies stay what they are when printings are added. -/
theorem holding?_of_append {new : List Printing} (hnew : db'.printings = db.printings ++ new)
    {y : Holding} (h : db.holding? c = some y) : db'.holding? c = some y := by
  obtain ⟨p, hp, hy⟩ := Option.map_eq_some_iff.mp h
  rw [holding?, printing?_of_append hnew hp, Option.map_some, hy]

theorem holdings_withCopy {hs : List Holding} (h : db.copies.map db.holding? = hs.map some)
    (hn : Numbered (·.id.val) db.printings) (hfit : db.printings.length < idBound) (x : Holding) :
    (db.withCopy x).copies.map (db.withCopy x).holding? = (hs ++ [x]).map some := by
  obtain ⟨new, hnew, hfew⟩ := printingFor_append db x.card x.expansion
  obtain ⟨p, hp, hcard, hexpansion⟩ := printing?_printingFor hn x.card x.expansion
    (by rw [hnew, List.length_append]; omega)
  change (db.withCopy x).printing? _ = some p at hp
  have hold : db.copies.map (db.withCopy x).holding? = hs.map some := by
    rw [← h]
    refine List.map_congr_left fun c hc => ?_
    have hmem : db.holding? c ∈ hs.map some := h ▸ List.mem_map_of_mem hc
    obtain ⟨y, _, hy⟩ := List.mem_map.mp hmem
    rw [← hy]
    exact holding?_of_append hnew hy.symm
  have hcopies : (db.withCopy x).copies = db.copies ++
      [⟨⟨db.nextCopyId⟩, x.cardSet, (db.printingFor x.card x.expansion).2⟩] := by
    rw [withCopy_eq]
  rw [hcopies, List.map_append, List.map_append, hold]
  simp [holding?, hp, hcard, hexpansion]

end Database

/-! Putting copies back -/

namespace Restoration
open Database
variable {loaded : Database} {done : List SavedCopy} {r : Restoration} {c : SavedCopy}

theorem expansion_eq (r : Restoration) (c : SavedCopy) :
    r.expansion c = (c.expansion.bind (r.db.findLookup .expansion), { r with
      unknownExpansion :=
        if c.expansion.any fun name => (r.db.findLookup .expansion name).isNone then
          r.unknownExpansion.add c.withoutExpansion 1
        else r.unknownExpansion }) := by
  rw [expansion]
  split
  · rename_i he
    simp [he]
  · rename_i name he
    simp only [he, SavedCopy.withoutExpansion, Option.bind_some, Option.any_some,
      Option.getD_some]
    split
    · rename_i hf
      simp [hf]
    · rename_i hf
      simp [hf]

/-- What holds when some copies were put back. -/
structure Restores (loaded : Database) (done : List SavedCopy) (r : Restoration) : Prop where
  rest : r.db = { loaded with
    printings := r.db.printings, copies := r.db.copies, nextCopyId := r.db.nextCopyId }
  numbered : Numbered (·.id.val) r.db.printings
  few : r.db.printings.length ≤ done.length
  holdings : r.db.copies.map r.db.holding? = (done.filterMap loaded.reattach?).map some
  restored : r.restored = r.db.copies.length
  dropped : r.dropped =
    .ofList ((done.filter fun c => !loaded.keepsCard c).map SavedCopy.withoutCard)
  unknown : r.unknownExpansion =
    .ofList ((done.filter loaded.losesExpansion).map SavedCopy.withoutExpansion)

theorem restores_start (hprintings : loaded.printings = []) (hcopies : loaded.copies = []) :
    Restores loaded [] (.start loaded) where
  rest := rfl
  numbered := by
    change Numbered _ loaded.printings
    rw [hprintings]
    exact numbered_nil
  few := by simp [start, hprintings]
  holdings := by simp [start, hcopies]
  restored := by simp [start, hcopies]
  dropped := rfl
  unknown := rfl

theorem Restores.findCard (h : Restores loaded done r) (name : String) :
    r.db.findCard name = loaded.findCard name := by
  rw [h.rest]
  rfl

theorem Restores.findLookup (h : Restores loaded done r) (kind : LookupKind) (name : String) :
    r.db.findLookup kind name = loaded.findLookup kind name := by
  rw [h.rest]
  rfl

theorem Restores.restore_eq (h : Restores loaded done r) (c : SavedCopy) :
    r.restore c = match loaded.reattach? c with
      | none => { r with dropped := r.dropped.add c.withoutCard 1 }
      | some x => { r with
          db := r.db.withCopy x
          restored := r.restored + 1
          unknownExpansion := if loaded.losesExpansion c then
              r.unknownExpansion.add c.withoutExpansion 1
            else r.unknownExpansion } := by
  have hlookup : r.db.findLookup .expansion = loaded.findLookup .expansion :=
    funext (h.findLookup .expansion)
  rw [Restoration.restore]
  rw [h.findCard]
  cases hcard : loaded.findCard c.card with
  | none => simp [reattach?, hcard, SavedCopy.withoutCard]
  | some card =>
    simp [reattach?, losesExpansion, keepsCard, hcard, expansion_eq, hlookup, withCopy]

/-- One more copy is put back, or counted. -/
theorem Restores.restore (h : Restores loaded done r) (hfit : done.length < idBound) :
    Restores loaded (done ++ [c]) (r.restore c) := by
  rw [h.restore_eq]
  cases hfound : loaded.reattach? c with
  | none =>
    have hkeeps : loaded.keepsCard c = false := by
      simpa [reattach?, keepsCard] using hfound
    have hnot : loaded.losesExpansion c = false := by simp [losesExpansion, hkeeps]
    refine ⟨h.rest, h.numbered, ?_, ?_, h.restored, ?_, ?_⟩
    · rw [List.length_append]
      exact Nat.le_add_right_of_le h.few
    · simpa [hfound] using h.holdings
    · simp [hkeeps, Tally.ofList_append, h.dropped]
    · simpa [hnot] using h.unknown
  | some x =>
    have hkeeps : loaded.keepsCard c = true := by
      obtain ⟨card, hcard, _⟩ := Option.map_eq_some_iff.mp hfound
      simp [keepsCard, hcard]
    have hholdings :=
      holdings_withCopy h.holdings h.numbered (Nat.lt_of_le_of_lt h.few hfit) x
    obtain ⟨hnumbered, hfew⟩ := numbered_withCopy h.numbered x
    refine ⟨?_, hnumbered, ?_, ?_, ?_, ?_, ?_⟩
    · simp only
      rw [withCopy_eq, h.rest]
    · rw [List.length_append]
      exact Nat.le_trans hfew (Nat.add_le_add_right h.few 1)
    · simpa [hfound] using hholdings
    · simp only
      rw [withCopy_eq, List.length_append, h.restored]
      rfl
    · simpa [hkeeps] using h.dropped
    · cases hloses : loaded.losesExpansion c with
      | false => simpa [hloses] using h.unknown
      | true => simp [hloses, Tally.ofList_append, h.unknown]

theorem Restores.foldl (saved : List SavedCopy) (h : Restores loaded done r)
    (hfit : done.length + saved.length ≤ idBound) :
    Restores loaded (done ++ saved) (saved.foldl Restoration.restore r) := by
  induction saved generalizing done r with
  | nil => simpa using h
  | cons c saved ih =>
    rw [List.length_cons] at hfit
    have hone : Restores loaded (done ++ [c]) (r.restore c) := h.restore (by omega)
    have hnext := ih hone (by rw [List.length_append, List.length_singleton]; omega)
    rwa [List.append_assoc] at hnext

end Restoration

namespace Database
variable {db db' fresh : Database} {catalog : Catalog}

/-- In a valid database every copy has a card that it is named by. -/
theorem Valid.savedCopy? (hv : db.Valid) {c : Copy} (hc : c ∈ db.copies) :
    ∃ p card, db.printing? c.printing = some p ∧ db.card? p.card = some card ∧
      db.savedCopy? c =
        some ⟨c.cardSet, card.canonicalName, card.name, db.expansionName p.expansion⟩ := by
  obtain ⟨p, hp⟩ := Option.isSome_iff_exists.mp (hv.copyPrintings c hc)
  obtain ⟨card, hleads, _⟩ := (hv.printingsKnown p (List.mem_of_getElem? hp)).1
  have hcard : db.card? p.card = some card := hleads
  exact ⟨p, card, hp, hcard, by simp [Database.savedCopy?, hp, hcard]⟩

theorem Valid.length_savedCopies (hv : db.Valid) : db.savedCopies.length = db.copies.length := by
  rw [savedCopies, List.length_filterMap_eq_countP, List.countP_eq_length]
  intro c hc
  obtain ⟨_, _, _, _, hsaved⟩ := hv.savedCopy? hc
  rw [hsaved]
  rfl

theorem length_reattach? (db : Database) (saved : List SavedCopy) :
    (saved.filterMap db.reattach?).length = saved.countP db.keepsCard := by
  rw [List.length_filterMap_eq_countP]
  refine List.countP_congr fun c _ => ?_
  rw [reattach?, keepsCard, Option.isSome_map]

/-- What a new catalog keeps of a database; `fresh` is the catalog on its own. Card sets stay as they
are, each copy becomes what its names lead to, and there are no others. -/
structure Conserves (db fresh db' : Database) : Prop where
  rest : db' = { fresh with
    printings := db'.printings
    copies := db'.copies
    nextCopyId := db'.nextCopyId
    cardSets := db.cardSets
    nextCardSetId := db.nextCardSetId
    generation := db.generation + 1 }
  named : ∀ c ∈ db.copies, ∃ p card, db.printing? c.printing = some p ∧
    db.card? p.card = some card ∧ db.savedCopy? c =
      some ⟨c.cardSet, card.canonicalName, card.name, db.expansionName p.expansion⟩
  copies : db'.copies.map db'.holding? =
    ((db.copies.filterMap db.savedCopy?).filterMap fresh.reattach?).map some

/-- How copies are counted that are gone, and copies that have lost their expansions: each once. -/
structure Accounts (db fresh db' : Database) (dropped unknown : Tally LostCopies) : Prop where
  dropped_eq : dropped =
    .ofList ((db.savedCopies.filter fun c => !fresh.keepsCard c).map SavedCopy.withoutCard)
  unknown_eq : unknown =
    .ofList ((db.savedCopies.filter fresh.losesExpansion).map SavedCopy.withoutExpansion)
  kept_or_dropped : db'.copies.length + dropped.total = db.copies.length
  unknown_total : unknown.total = db.savedCopies.countP fresh.losesExpansion

/-- What is said about a new catalog. -/
def refreshReport (db : Database) (cards : Nat) (dropped unknown : Tally LostCopies) : Report where
  messages :=
    (dropped.entries.map fun lost => ⟨.warning, Restoration.droppedText db lost⟩) ++
      (unknown.entries.map fun lost => ⟨.warning, Restoration.unknownText db lost⟩) ++
        [⟨.success, "Catalog loaded: " ++ toString cards ++ " cards, " ++
          toString db.copies.length ++ " card set entries restored"⟩]

theorem report_eq {r : Restoration} (h : r.restored = r.db.copies.length) (cards : Nat) :
    r.report cards = refreshReport r.db cards r.dropped r.unknownExpansion := by
  rw [Restoration.report, Report.foldl_warning (·), h]
  simp [refreshReport, Report.success, Report.about, Restoration.warnings, Function.comp_def]

/-- Once all copies of a valid database were put back, each of them is accounted for. -/
theorem Valid.restores (hv : db.Valid) (catalog : Catalog) :
    Restoration.Restores (db.refilled catalog) db.savedCopies
      (db.savedCopies.foldl Restoration.restore (.start (db.refilled catalog))) := by
  have hsame := sameHoldings_refilled db catalog
  have hfit : db.savedCopies.length ≤ idBound := by
    rw [hv.length_savedCopies]
    exact Nat.le_trans hv.copies.length_le (Nat.le_of_lt hv.copiesFit)
  exact (Restoration.restores_start hsame.printings hsame.copies).foldl db.savedCopies
    (by simpa using hfit)

theorem Valid.accounts {loaded : Database} {r : Restoration} (hv : db.Valid)
    (h : Restoration.Restores loaded db.savedCopies r) :
    db.Accounts loaded r.db r.dropped r.unknownExpansion where
  dropped_eq := h.dropped
  unknown_eq := h.unknown
  kept_or_dropped := by
    have hkept := congrArg List.length h.holdings
    rw [List.length_map, List.length_map, length_reattach?] at hkept
    rw [hkept, h.dropped, Tally.total_ofList, List.length_map, ← List.countP_eq_length_filter,
      ← hv.length_savedCopies]
    simpa using (List.length_eq_countP_add_countP loaded.keepsCard (l := db.savedCopies)).symm
  unknown_total := by
    rw [h.unknown, Tally.total_ofList, List.length_map, ← List.countP_eq_length_filter]

/-- A new catalog for a valid database conserves what the card sets hold, and says what was lost. -/
theorem Valid.replaceCatalog {cards : Nat} {r : Restoration} (hv : db.Valid)
    (h : db.replaceCatalog catalog = .ok (db', cards, r)) :
    ∃ fresh, ofCatalog catalog = .ok fresh ∧ db.Conserves fresh db' ∧
      db.Accounts fresh db' r.dropped r.unknownExpansion ∧
        r.report cards = refreshReport db' catalog.cards.length r.dropped r.unknownExpansion := by
  obtain ⟨_, hcards, _, rfl, hr⟩ := replaceCatalog_ok h
  have hend := hv.restores catalog
  rw [← hr] at hend
  obtain ⟨hdropped, hunknown, hkept, htotal⟩ := hv.accounts hend
  -- the catalog that was put in is the same as in a new database
  rw [loadCatalog_resetCatalog] at hcards
  rw [refilled, loadCatalog_resetCatalog] at hend hdropped hunknown htotal
  have hcount : cards = catalog.cards.length := by
    rw [addCards_ok hcards, Nat.zero_add]
  refine ⟨(empty.loadCatalog catalog).1, ofCatalog_eq hcards, ?_,
    ⟨hdropped, hunknown, hkept, htotal⟩, ?_⟩
  · exact ⟨hend.rest, fun c hc => hv.savedCopy? hc, hend.holdings⟩
  · rw [report_eq hend.restored, hcount]

end Database

end CardBinder
