import CardBinder.Proofs.Desk.Run
import CardBinder.Proofs.Document.Database
import CardBinder.Proofs.Resolver.Freshness

/-! What a desk remembers about names is never stale, whatever is called and whenever saving fails. -/

namespace CardBinder
variable {σ α : Type}

namespace Database
variable {db db' : Database}

/-- Names lead to entries that are there. -/
def NamesEntries (db : Database) : Prop :=
  ∀ kind name id, db.findLookup kind name = some id → ∃ e ∈ db.lookupEntries kind, e.id = id

theorem CatalogValid.namesEntries (h : db.CatalogValid) : db.NamesEntries := by
  intro kind name id hfind
  obtain ⟨e, he, hid⟩ := h.hasEntry_findLookup hfind
  exact ⟨e, List.mem_of_getElem? he, RowId.ext hid⟩

theorem NamesEntries.of_same (h : db.NamesEntries) (hsame : db.SameCatalog db') :
    db'.NamesEntries := by
  intro kind name id hfind
  rw [hsame.findLookup] at hfind
  rw [lookupEntries, hsame.lookupTable]
  exact h kind name id hfind

/-- What is read from a document finds its entries by the names in them. -/
theorem namesEntries_of_ofJson? {doc : Json} (h : ofJson? doc = some db) : db.NamesEntries := by
  intro kind name id hfind
  rw [← (of_ofJson? h).2, findLookup, lookupTable_reindexed] at hfind
  exact LookupTable.find_ofEntries_mem hfind

theorem namesEntries_openAt {location : String} {saved : Option Json} {store : Store}
    (h : Store.openAt location saved = .ok store) : store.db.NamesEntries := by
  obtain ⟨db, hdb, hstore⟩ := Outcome.bind_ok h
  obtain rfl := Except.ok.inj hstore
  cases saved with
  | none =>
    obtain rfl := Except.ok.inj hdb
    exact catalogValid_empty.namesEntries
  | some doc =>
    rw [Store.databaseOf] at hdb
    split at hdb
    · rename_i hread
      obtain rfl := Except.ok.inj hdb
      exact namesEntries_of_ofJson? hread
    · cases hdb

end Database

theorem Performs.sameCatalog {K : CardId → Option LookupId → Prop} {s s' : Store} {r : Outcome α}
    (h : Performs K s r s') : s.db.SameCatalog s'.db := by
  cases h with
  | idle => exact .refl _
  | edited _ he _ => exact he.sameCatalog
  | lost hi _ _ =>
    obtain ⟨n, he⟩ := hi.1
    exact he.sameCatalog

/-- Any card and expansion. -/
def anyPrinting : CardId → Option LookupId → Prop := fun _ _ => True

namespace Desk
variable {d : Desk σ}

/-- Remembered answers are fresh, and names lead to entries that are there. -/
structure Fresh (d : Desk σ) : Prop where
  resolver : d.resolver.Fresh d.db
  names : d.db.NamesEntries

theorem Fresh.of_same {store : Store} (h : d.Fresh) (hsame : d.db.SameCatalog store.db) :
    ({ d with store } : Desk σ).Fresh :=
  ⟨h.resolver.of_same hsame, h.names.of_same hsame⟩

end Desk

/-! Imports -/

namespace Importing

/-- The resolver of an import is fresh for the catalog of the store. -/
def Fresh (x : Intake σ × Store) : Prop := (⟨x.2, x.1.resolver⟩ : Desk σ).Fresh

theorem keeps_work {w : Work α} (hw : ∀ s, Ends w s fun _ s' => s.db.SameCatalog s'.db) :
    Keeps (Fresh (σ := σ)) (work w) := by
  rintro ⟨intake, s⟩ h
  exact Desk.Fresh.of_same h (hw s)

theorem sameCatalog_insertion (replacing : Option CardSetId) (p : PreparedSet) (s : Store) :
    Ends (Work.transaction fun db => db.insertOrReplace replacing p) s
      fun _ s' => s.db.SameCatalog s'.db := by
  refine Work.ends_transaction.mono ?_
  rintro r s' (⟨_, _, rfl⟩ | ⟨db, id, hchange, _, _, rfl⟩)
  · exact .refl _
  · have hi := Database.inserts_insertOrReplace (K := anyPrinting) (fun _ _ => trivial) hchange
    obtain ⟨n, he⟩ := hi.1
    exact he.sameCatalog

/-- An import asks about the catalog it finds, and leaves that catalog as it is. -/
theorem keeps_importSet (policy : ImportPolicy) : Keeps (Fresh (σ := σ)) (importSet policy) := by
  refine keeps_of_steps (Q := fun _ => True) (fun _ _ h => h) ?_ ?_ policy
  · rintro ⟨intake, s⟩ h
    exact ⟨⟨intake.holder.prepare_fresh h.resolver, h.names⟩, fun _ _ => trivial⟩
  · exact fun replacing p _ => keeps_work (sameCatalog_insertion replacing p)

end Importing

/-! Calls -/

namespace Action
open Desk

theorem keeps_work {w : Work α} (hw : ∀ s, Ends w s (Performs anyPrinting s)) :
    Keeps (Fresh (σ := σ)) (work w) :=
  fun d h => h.of_same (hw d.store).sameCatalog

theorem keepsLooking_fresh : KeepsLooking (Fresh (σ := σ)) where
  card name h := ⟨(h.resolver.card name).2, h.names⟩
  expansion name h := ⟨(h.resolver.expansion name).2, h.names⟩

theorem keeps_importHolder (h : Holder) (policy : ImportPolicy) :
    Keeps (Fresh (σ := σ)) (importHolder h policy) := by
  intro d hd
  exact Importing.keeps_importSet policy (⟨h, d.resolver⟩, d.store) hd

theorem keeps_importDeckList (text : String) (name parent : Option String)
    (policy : ImportPolicy) : Keeps (Fresh (σ := σ)) (importDeckList text name parent policy) := by
  have hparsed : Keeps (Fresh (σ := σ)) (ExceptT.mk (pure (Holder.ofDeckList text))) :=
    fun _ h => h
  refine hparsed.bind fun h => ?_
  exact keeps_importHolder { h with name := name.or h.name, parent := parent.or h.parent } policy

theorem keeps_refreshCatalog (catalog : Catalog) :
    Keeps (Fresh (σ := σ)) (refreshCatalog catalog) := by
  intro d h
  refine (ends_refresh catalog).mono ?_
  rintro r d' (⟨_, _, rfl⟩ | ⟨db, cards, restoration, hok, _, _, rfl⟩)
  · exact h
  · obtain ⟨n, he⟩ := Database.edits_replaceCatalog hok
    have hnames := (Database.catalogValid_refilled d.db catalog).namesEntries
    exact ⟨h.resolver.invalidate db, hnames.of_same he.sameCatalog⟩

end Action

/-- Another strategy that a call brings is a built-in one. -/
def Call.BuiltIn : Call σ → Prop
  | .setStrategy strategy => strategy.BuiltIn
  | _ => True

/-- What is fresh stays so at every call. -/
theorem Call.keeps_fresh {c : Call σ} (hc : c.BuiltIn) : Keeps Desk.Fresh c.action := by
  cases c with
  | createSet r =>
    exact (Action.keeps_draft r).bind fun d => Action.keeps_work fun _ => Work.performs_createSet d
  | updateSet name change =>
    exact (Action.keeps_ask _).bind fun set =>
      Action.keeps_work fun _ => Work.performs_updateSet set change
  | addCards set card expansion count =>
    exact (Action.keeps_ask _).bind fun set => (Action.keepsLooking_fresh.copyCount card expansion count).bind
      fun c => Action.keeps_work fun _ => Work.performs_addCopies set c trivial
  | removeCards set card expansion count =>
    exact (Action.keeps_ask _).bind fun set => (Action.keepsLooking_fresh.copyCount card expansion count).bind
      fun c => Action.keeps_work fun _ => Work.performs_removeCopies set c
  | reparent name parent =>
    exact (Action.keeps_ask _).bind fun set => (Action.keeps_optionalCardSet parent).bind
      fun parent => Action.keeps_work fun _ => Work.performs_reparent set parent
  | reparentChildren source target =>
    exact (Action.keeps_ask _).bind fun source => (Action.keeps_optionalCardSet target).bind
      fun target => Action.keeps_work fun _ => Work.performs_reparentChildren source target
  | deleteSet name =>
    exact (Action.keeps_ask _).bind fun set => Action.keeps_work fun _ => Work.performs_deleteSet set
  | repairLoops =>
    have hrepair : Keeps Desk.Fresh (Action.work .repairLoops : Action σ Report) :=
      Action.keeps_work fun _ => Work.performs_repairLoops
    exact hrepair
  | importHolder h policy => exact Action.keeps_importHolder h policy
  | importDeckList text name parent policy =>
    exact Action.keeps_importDeckList text name parent policy
  | refreshCatalog catalog => exact Action.keeps_refreshCatalog catalog
  | createFromFilter exprs r =>
    exact (Action.keeps_ask _).bind fun f => (Action.keeps_draft r).bind fun d =>
      Action.keeps_work fun _ => Work.performs_createFromFilter f d fun _ _ => trivial
  | setStrategy strategy =>
    exact fun d h => ⟨Resolver.fresh_setStrategy hc, h.names⟩

/-! Runs -/

namespace Desk
variable {start d : Desk σ}

/-- The desks of a run: the first one, and every desk after a call or after a name was looked up. -/
inductive Reached (start : Desk σ) : Desk σ → Prop
  | start : Reached start start
  | call {d : Desk σ} (e : Event σ) : Reached start d → e.call.BuiltIn →
      Reached start (d.step e).2
  | card {d : Desk σ} (name : String) : Reached start d →
      Reached start ((Action.card name).run.run d).2
  | expansion {d : Desk σ} (name : Option String) : Reached start d →
      Reached start ((Action.expansion name).run.run d).2

theorem Reached.after (h : Reached start d) (events : List (Event σ))
    (hcalls : ∀ e ∈ events, e.call.BuiltIn) : Reached start (d.after events) := by
  induction events generalizing d with
  | nil => exact h
  | cons e events ih =>
    exact ih (h.call e (hcalls e List.mem_cons_self))
      fun e' he' => hcalls e' (List.mem_cons_of_mem e he')

theorem Reached.fresh (h : Reached start d) (hstart : start.Fresh) : d.Fresh := by
  induction h with
  | start => exact hstart
  | call e _ hcall ih => exact Call.keeps_fresh hcall _ ⟨ih.resolver, ih.names⟩
  | card name _ ih => exact Action.keepsLooking_fresh.keeps_card name _ ih
  | expansion name _ ih => exact Action.keepsLooking_fresh.keeps_expansion name _ ih

theorem fresh_ofStore {store : Store} (hnames : store.db.NamesEntries) (mode : LookupMode)
    (state : σ) : (ofStore store mode.strategy state).Fresh :=
  ⟨⟨⟨mode, rfl⟩, NameCache.fresh_empty⟩, hnames⟩

/-- Every card that is answered, remembered or not, is in the catalog. -/
theorem Fresh.card_mem (h : d.Fresh) {name : String} {id : CardId}
    (hid : (d.resolver.card d.db name).1 = some id) : ∃ c ∈ d.db.cards, c.id = id := by
  obtain ⟨asked, _, hanswer⟩ := (h.resolver.card name).1
  exact h.resolver.strategy.card_mem ((hanswer d.resolver.state).trans hid)

theorem Fresh.expansion_mem (h : d.Fresh) {name : String} {id : LookupId}
    (hid : (d.resolver.expansion d.db name).1 = some id) :
    ∃ e ∈ d.db.lookupEntries .expansion, e.id = id := by
  obtain ⟨asked, _, hanswer⟩ := (h.resolver.expansion name).1
  refine h.names .expansion asked id ?_
  rw [← h.resolver.strategy.expansion_eq, hanswer d.resolver.state, hid]

/-- At every moment of a run with built-in strategies, what is remembered about the present catalog
is what the present strategy answers, what is remembered about another catalog is dropped before an
answer is given, and answers are about cards and expansions that are there. -/
theorem never_stale (store : Store) (mode : LookupMode) (state : σ)
    (hstart : store.db.CatalogValid ∨ ∃ location saved, Store.openAt location saved = .ok store)
    (h : Reached (ofStore store mode.strategy state) d) :
    d.resolver.strategy.BuiltIn ∧ d.resolver.cache.Fresh d.resolver.strategy d.db ∧
      (d.resolver.cache.generation ≠ some d.db.generation → ∀ name,
        ((d.resolver.card d.db name).1 = (d.resolver.strategy.card d.db name d.resolver.state).1 ∧
          (d.resolver.card d.db name).2.cache = ⟨some d.db.generation,
            [(canonicalName name, (d.resolver.card d.db name).1)], []⟩) ∧
        ((d.resolver.expansion d.db name).1 =
            (d.resolver.strategy.expansion d.db name d.resolver.state).1 ∧
          (d.resolver.expansion d.db name).2.cache = ⟨some d.db.generation, [],
            [(canonicalName name, (d.resolver.expansion d.db name).1)]⟩)) ∧
      (∀ name, d.resolver.strategy.GivesCard d.db (canonicalName name)
          (d.resolver.card d.db name).1 ∧
        ∀ id, (d.resolver.card d.db name).1 = some id → ∃ c ∈ d.db.cards, c.id = id) ∧
      ∀ name, d.resolver.strategy.GivesExpansion d.db (canonicalName name)
          (d.resolver.expansion d.db name).1 ∧
        ∀ id, (d.resolver.expansion d.db name).1 = some id →
          ∃ e ∈ d.db.lookupEntries .expansion, e.id = id := by
  have hnames : store.db.NamesEntries := by
    rcases hstart with hvalid | ⟨location, saved, hopen⟩
    · exact hvalid.namesEntries
    · exact Database.namesEntries_openAt hopen
  have hfresh := h.fresh (fresh_ofStore hnames mode state)
  refine ⟨hfresh.resolver.strategy, hfresh.resolver.cache, ?_,
    fun name => ⟨(hfresh.resolver.card name).1, fun _ => hfresh.card_mem⟩,
    fun name => ⟨(hfresh.resolver.expansion name).1, fun _ => hfresh.expansion_mem⟩⟩
  intro hother name
  have hcard := Resolver.card_of_ne hother name
  have hexpansion := Resolver.expansion_of_ne hother name
  exact ⟨⟨hcard.1, hcard.1 ▸ hcard.2⟩, ⟨hexpansion.1, hexpansion.1 ▸ hexpansion.2⟩⟩

/-- The desk after the first calls, with saving failing in between. -/
def firstDesk : Desk Unit :=
  (ofStore .empty LookupMode.exact.strategy ()).after firstCalls

theorem never_stale_firstDesk :
    firstDesk.resolver.cache = ⟨some 1, [("dog", some ⟨0⟩)], []⟩ ∧
      firstDesk.resolver.cache.Fresh firstDesk.resolver.strategy firstDesk.db :=
  ⟨by decide +kernel, (never_stale .empty .exact () (Or.inl Database.catalogValid_empty)
    (Reached.start.after firstCalls (by simp [firstCalls, Call.BuiltIn]))).2.1⟩

end Desk
end CardBinder
