import CardBinder.Operation.LoopRepair
import CardBinder.Proofs.Operation.Contents
import CardBinder.Proofs.Operation.Refresh
import CardBinder.Store

/-! What each piece of work does to a store: nothing, or one checked change that is saved. -/

namespace CardBinder
variable {α : Type} {s : Store} {K : CardId → Option LookupId → Prop} {db : Database}

/-- The store once a changed database is saved. -/
def Store.saving (s : Store) (db : Database) : Store :=
  { s with db, saved := some db.toJson, saves := s.saves + 1 }

/-- A change that can be saved: it passes the check, and saving does not fail. -/
structure Store.Accepts (s : Store) (db : Database) : Prop where
  valid : db.validate = .ok ()
  working : s.failing = false

/-- What work ends in. A set that was made and saved but cannot be found by its number is reported
as a failure. -/
inductive Performs (K : CardId → Option LookupId → Prop) (s : Store) : Outcome α → Store → Prop
  | idle (r : Outcome α) : Performs K s r s
  | edited {db : Database} {m n : Nat} (a : α) : Database.Edits K s.db m n db → s.Accepts db →
      Performs K s (.ok a) (s.saving db)
  | lost {db : Database} {id : CardSetId} : Database.Inserts K s.db db id → s.Accepts db →
      db.cardSet? id = none → Performs K s (.error (.setNotFound ("#" ++ toString id))) (s.saving db)

namespace Store

theorem attempt_ok {change : Database → Outcome (Database × α)} {s' : Store} {a : α}
    (h : s.attempt change = .ok (s', a)) :
    ∃ db, change s.db = .ok (db, a) ∧ s.Accepts db ∧ s' = s.saving db := by
  rw [attempt] at h
  obtain ⟨⟨db, a'⟩, hchange, h⟩ := Outcome.bind_ok h
  obtain ⟨_, hvalid, h⟩ := Outcome.bind_ok (x := db.validate) h
  obtain ⟨s'', hcommit, h⟩ := Outcome.bind_ok h
  obtain ⟨rfl, rfl⟩ := Prod.mk.inj (Except.ok.inj h)
  rw [commit] at hcommit
  simp only at hcommit
  split at hcommit
  · cases hcommit
  · rename_i hworking
    exact ⟨db, hchange, ⟨hvalid, by simpa using hworking⟩, (Except.ok.inj hcommit).symm⟩

variable {change : Database → Outcome (Database × α)} {a : α}

theorem attempt_of_ok (h : change s.db = .ok (db, a)) (ha : s.Accepts db) :
    s.attempt change = .ok (s.saving db, a) := by
  simp only [attempt, h, bind, Except.bind, ha.valid, commit, ha.working, saving,
    Bool.false_eq_true, if_false]
  rfl

theorem attempt_of_failing (h : change s.db = .ok (db, a)) (hvalid : db.validate = .ok ())
    (hfailing : s.failing = true) :
    s.attempt change = .error (.store "Simulated write error") := by
  simp only [attempt, h, bind, Except.bind, hvalid, commit, hfailing, if_true]

theorem attempt_of_error {failure : Failure} (h : change s.db = .error failure) :
    s.attempt change = .error failure := by
  simp only [attempt, h, bind, Except.bind]

end Store

namespace Work

theorem ends_ask {β : Type} {f : Database → Outcome α} {g : α → Work β}
    {Q : Outcome β → Store → Prop} (hok : ∀ a, f s.db = .ok a → Ends (g a) s Q)
    (herror : ∀ failure, f s.db = .error failure → Q (.error failure) s) :
    Ends (ask f >>= g) s Q := by
  have hask : Ends (ask f) s fun r s' => r = f s.db ∧ s' = s := ⟨rfl, rfl⟩
  refine hask.bind ?_ ?_
  · rintro a s' ⟨h, hs⟩
    exact hs ▸ hok a h.symm
  · rintro failure s' ⟨h, hs⟩
    exact hs ▸ herror failure h.symm

/-- A transaction leaves the store alone or saves the change. -/
theorem ends_transaction {change : Database → Outcome (Database × α)} :
    Ends (transaction change) s fun r s' =>
      (∃ failure, r = .error failure ∧ s' = s) ∨
        ∃ db a, change s.db = .ok (db, a) ∧ s.Accepts db ∧ r = .ok a ∧ s' = s.saving db := by
  refine Ends.get ?_
  cases h : s.attempt change with
  | error failure => exact Or.inl ⟨failure, rfl, rfl⟩
  | ok changed =>
    obtain ⟨s', a⟩ := changed
    obtain ⟨db, hchange, haccepts, rfl⟩ := Store.attempt_ok h
    exact Or.inr ⟨db, a, hchange, haccepts, rfl, rfl⟩

/-- A transaction ends as the attempt does. -/
theorem ends_transaction_of_ok {change : Database → Outcome (Database × α)} {s' : Store} {a : α}
    (h : s.attempt change = .ok (s', a)) :
    Ends (transaction change) s fun r x => r = .ok a ∧ x = s' := by
  refine Ends.get ?_
  rw [h]
  exact ⟨rfl, rfl⟩

theorem ends_transaction_of_error {change : Database → Outcome (Database × α)} {failure : Failure}
    (h : s.attempt change = .error failure) :
    Ends (transaction change) s fun r x => r = .error failure ∧ x = s := by
  refine Ends.get ?_
  rw [h]
  exact ⟨rfl, rfl⟩

/-- A transaction that edits, followed by a report. -/
theorem performs_transaction {β : Type} {change : Database → Outcome (Database × α)}
    {report : α → Work β}
    (hedits : ∀ db a, change s.db = .ok (db, a) → ∃ m n, Database.Edits K s.db m n db)
    (hreport : ∀ a s, Ends (report a) s fun r s' => (∃ b, r = .ok b) ∧ s' = s) :
    Ends (transaction change >>= report) s (Performs K s) := by
  refine ends_transaction.bind ?_ ?_
  · rintro a s' (⟨_, h, _⟩ | ⟨db, a', hchange, haccepts, hr, rfl⟩)
    · cases h
    · obtain rfl := Except.ok.inj hr
      obtain ⟨m, n, he⟩ := hedits db a hchange
      refine (hreport a (s.saving db)).mono ?_
      rintro _ _ ⟨⟨b, rfl⟩, rfl⟩
      exact .edited b he haccepts
  · rintro failure s' (⟨_, _, rfl⟩ | ⟨_, _, _, _, h, _⟩)
    · exact .idle _
    · cases h

/-- A transaction that makes a set, followed by a look at the set and a report. -/
theorem performs_insertion {β : Type} {change : Database → Outcome (Database × CardSetId)}
    {report : CardSetId → CardSet → Work β}
    (hinserts : ∀ db id, change s.db = .ok (db, id) → Database.Inserts K s.db db id)
    (hreport : ∀ id cs s, Ends (report id cs) s fun r s' => (∃ b, r = .ok b) ∧ s' = s) :
    Ends (do
      let id ← transaction change
      let cs ← ask (·.getCardSet id)
      report id cs) s (Performs K s) := by
  refine ends_transaction.bind ?_ ?_
  · rintro id s' (⟨_, h, _⟩ | ⟨db, id', hchange, haccepts, hr, rfl⟩)
    · cases h
    · obtain rfl := Except.ok.inj hr
      have hi := hinserts db id hchange
      refine ends_ask ?_ ?_
      · intro cs _
        obtain ⟨n, he⟩ := hi.1
        refine (hreport id cs (s.saving db)).mono ?_
        rintro _ _ ⟨⟨b, rfl⟩, rfl⟩
        exact .edited b he haccepts
      · intro failure hget
        obtain ⟨hnone, rfl⟩ := Database.getCardSet_error hget
        exact .lost hi haccepts hnone
  · rintro failure s' (⟨_, _, rfl⟩ | ⟨_, _, _, _, h, _⟩)
    · exact .idle _
    · cases h

/-! The work of each operation -/

theorem performs_createSet (d : CardSetDraft) : Ends (createSet d) s (Performs K s) :=
  performs_insertion (fun _ _ h => Database.inserts_insertCardSet h)
    fun _ _ _ => ⟨⟨_, rfl⟩, rfl⟩

theorem performs_createFromFilter (f : Filter) (d : CardSetDraft)
    (hk : ∀ c ∈ s.db.cards, K c.id none) : Ends (createFromFilter f d) s (Performs K s) :=
  performs_insertion (fun _ _ h => Database.inserts_insertSelection hk h)
    fun _ _ _ => ⟨⟨_, rfl⟩, rfl⟩

theorem performs_updateSet (set : CardSetId) (d : DetailChange) :
    Ends (updateSet set d) s (Performs K s) := by
  rw [updateSet]
  split
  · exact Ends.pure (.idle _)
  · exact performs_transaction (fun _ _ h => ⟨0, 0, Database.Edits.none.details h⟩)
      fun _ _ => ⟨⟨_, rfl⟩, rfl⟩

theorem performs_addCopies (set : CardSetId) (c : CopyCount) (hk : K c.card c.expansion) :
    Ends (addCopies set c) s (Performs K s) := by
  refine ends_ask ?_ (fun _ h => by cases h)
  intro name _
  exact performs_transaction (fun _ _ h => ⟨0, _, Database.edits_putCopies hk h⟩)
    fun _ _ => ⟨⟨_, rfl⟩, rfl⟩

theorem performs_removeCopies (set : CardSetId) (c : CopyCount) :
    Ends (removeCopies set c) s (Performs K s) := by
  rw [removeCopies]
  split
  · exact Ends.throw (.idle _)
  · refine ends_ask ?_ (fun _ h => by cases h)
    intro name _
    exact performs_transaction (fun _ _ h => ⟨0, 0, Database.edits_takeCopies h⟩)
      fun _ _ => ⟨⟨_, rfl⟩, rfl⟩

theorem performs_reparent (set : CardSetId) (parent : Option CardSetId) :
    Ends (reparent set parent) s (Performs K s) :=
  performs_transaction (fun _ _ h => ⟨0, 0, Database.edits_moveOne h⟩)
    fun _ _ => ⟨⟨_, rfl⟩, rfl⟩

theorem performs_reparentChildren (source : CardSetId) (parent : Option CardSetId) :
    Ends (reparentChildren source parent) s (Performs K s) := by
  refine performs_transaction (fun _ _ h => ⟨0, 0, Database.edits_moveChildren h⟩) ?_
  intro moved s
  cases moved with
  | nil => exact ⟨⟨_, rfl⟩, rfl⟩
  | cons cs moved => exact ⟨⟨_, rfl⟩, rfl⟩

theorem performs_deleteSet (set : CardSetId) : Ends (deleteSet set) s (Performs K s) :=
  performs_transaction (fun _ _ h => ⟨0, 0, Database.edits_deleteSet h⟩)
    fun _ _ => ⟨⟨_, rfl⟩, rfl⟩

theorem performs_repairLoops : Ends repairLoops s (Performs K s) := by
  refine ends_ask ?_ (fun _ h => by cases h)
  intro loops _
  split
  · exact Ends.pure (.idle _)
  · refine performs_transaction ?_ fun _ _ => ⟨⟨_, rfl⟩, rfl⟩
    intro db _ h
    obtain rfl := (Prod.mk.inj (Except.ok.inj h)).1
    exact ⟨0, 0, Database.edits_breakLoops s.db⟩

/-- A refreshed catalog is saved and reported; a refusal leaves the store alone. -/
theorem ends_refreshCatalog (catalog : Catalog) :
    Ends (refreshCatalog catalog) s fun r s' =>
      (∃ failure, r = .error failure ∧ s' = s) ∨
        ∃ db cards restoration, s.db.replaceCatalog catalog = .ok (db, cards, restoration) ∧
          s.Accepts db ∧ r = .ok (restoration.report cards) ∧ s' = s.saving db := by
  refine ends_transaction.bind ?_ ?_
  · rintro ⟨cards, restoration⟩ s' (⟨_, h, _⟩ | ⟨db, a, hchange, haccepts, hr, rfl⟩)
    · cases h
    · obtain rfl := Except.ok.inj hr
      exact Or.inr ⟨db, cards, restoration, hchange, haccepts, rfl, rfl⟩
  · rintro failure s' (⟨_, _, rfl⟩ | ⟨_, _, _, _, h, _⟩)
    · exact Or.inl ⟨failure, rfl, rfl⟩
    · cases h

end Work
end CardBinder
