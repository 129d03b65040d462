import CardBinder.Proofs.Desk.Run
import CardBinder.Proofs.Operation.Naming

/-! Where the names of card sets come from: they are neat, or were given as they stand to a new set. -/

namespace CardBinder
variable {σ α : Type} {P : String → Prop}

/-! Work on a store -/

namespace Work
open Database

theorem keeps_ask (I : Store → Prop) (f : Database → Outcome α) : Keeps I (ask f) := fun _ h => h

theorem keeps_transaction {I : Database → Prop} {change : Database → Outcome (Database × α)}
    (hchange : ∀ {db db' a}, I db → change db = .ok (db', a) → I db') :
    Keeps (fun s => I s.db) (transaction change) := by
  intro s h
  refine ends_transaction.mono ?_
  rintro r s' (⟨_, _, rfl⟩ | ⟨db, a, hok, _, _, rfl⟩)
  · exact h
  · exact hchange h hok

theorem keeps_createSet {d : CardSetDraft} (hname : P d.name) :
    Keeps (fun s => s.db.NamesAre P) (createSet d) :=
  (keeps_transaction fun h hi => h.insertCardSet hname hi).bind fun _ =>
    (keeps_ask _ _).bind fun _ => .pure _

/-- What a transaction made is there when the work that follows it only asks. -/
theorem ends_transaction_asking {β : Type} {s : Store} {I : Database → Prop}
    {change : Database → Outcome (Database × α)} {f : α → Work β}
    (hchange : ∀ {db a}, change s.db = .ok (db, a) → I db)
    (hf : ∀ a, Keeps (fun s => I s.db) (f a)) :
    Ends (transaction change >>= f) s fun r s' => (∃ b, r = .ok b) → I s'.db := by
  refine ends_transaction.bind ?_ ?_
  · rintro a s' (⟨_, ⟨⟩, _⟩ | ⟨db, _, hok, _, _, rfl⟩)
    exact (hf a _ (hchange hok)).mono fun _ _ h _ => h
  · rintro _ _ _ ⟨_, ⟨⟩⟩

theorem ends_createSet_named (s : Store) (d : CardSetDraft) : Ends (createSet d) s fun r s' =>
    (∃ report, r = .ok report) → ∃ cs ∈ s'.db.cardSets, cs.name = d.name :=
  ends_transaction_asking (I := fun db => ∃ cs ∈ db.cardSets, cs.name = d.name)
    (fun h => named_insertCardSet h) fun _ => (keeps_ask _ _).bind fun _ => .pure _

theorem ends_createFromFilter_named (s : Store) (f : Filter) (d : CardSetDraft) :
    Ends (createFromFilter f d) s fun r s' =>
      (∃ report, r = .ok report) → ∃ cs ∈ s'.db.cardSets, cs.name = d.name :=
  ends_transaction_asking (I := fun db => ∃ cs ∈ db.cardSets, cs.name = d.name)
    (fun h => named_insertSelection h) fun _ =>
      (keeps_ask _ _).bind fun _ => (keeps_ask _ _).bind fun _ => .pure _

section Edits
variable (hneat : ∀ name, NeatName name → P name)
include hneat

theorem keeps_edits {change : Database → Outcome (Database × α)}
    (hchange : ∀ {db db' a}, change db = .ok (db', a) →
      ∃ n, Edits (fun _ _ => True) db 0 n db') :
    Keeps (fun s => s.db.NamesAre P) (transaction change) := by
  refine keeps_transaction fun h hok => ?_
  obtain ⟨n, he⟩ := hchange hok
  exact h.edits hneat he rfl

theorem keeps_createFromFilter {f : Filter} {d : CardSetDraft} (hname : P d.name) :
    Keeps (fun s => s.db.NamesAre P) (createFromFilter f d) :=
  (keeps_transaction fun h hi => h.insertSelection hneat hname hi).bind fun _ =>
    (keeps_ask _ _).bind fun _ => (keeps_ask _ _).bind fun _ => .pure _

theorem keeps_updateSet (set : CardSetId) (d : DetailChange) :
    Keeps (fun s => s.db.NamesAre P) (updateSet set d) := by
  rw [updateSet]
  split
  · exact .pure _
  · exact (keeps_edits hneat fun h => ⟨0, Edits.none.details h⟩).bind fun _ => .pure _

theorem keeps_addCopies (set : CardSetId) (c : CopyCount) :
    Keeps (fun s => s.db.NamesAre P) (addCopies set c) :=
  (keeps_ask _ _).bind fun _ =>
    (keeps_edits hneat fun h => ⟨_, edits_putCopies trivial h⟩).bind fun _ => .pure _

theorem keeps_removeCopies (set : CardSetId) (c : CopyCount) :
    Keeps (fun s => s.db.NamesAre P) (removeCopies set c) := by
  rw [removeCopies]
  split
  · exact fun _ h => h
  · exact (keeps_ask _ _).bind fun _ =>
      (keeps_edits hneat fun h => ⟨_, edits_takeCopies h⟩).bind fun _ => .pure _

theorem keeps_reparent (set : CardSetId) (parent : Option CardSetId) :
    Keeps (fun s => s.db.NamesAre P) (reparent set parent) :=
  (keeps_edits hneat fun h => ⟨_, edits_moveOne h⟩).bind fun _ =>
    (keeps_ask _ _).bind fun _ => .pure _

theorem keeps_reparentChildren (source : CardSetId) (parent : Option CardSetId) :
    Keeps (fun s => s.db.NamesAre P) (reparentChildren source parent) := by
  refine (keeps_edits hneat fun h => ⟨_, edits_moveChildren h⟩).bind fun moved => ?_
  refine (keeps_ask _ _).bind fun _ => ?_
  simp only
  split
  · exact (keeps_ask _ _).bind fun _ => .pure _
  · exact .pure _

theorem keeps_deleteSet (set : CardSetId) : Keeps (fun s => s.db.NamesAre P) (deleteSet set) :=
  (keeps_edits hneat fun h => ⟨_, edits_deleteSet h⟩).bind fun _ => .pure _

theorem keeps_repairLoops : Keeps (fun s => s.db.NamesAre P) repairLoops := by
  refine (keeps_ask _ _).bind fun loops => ?_
  split
  · exact .pure _
  · have hbreak : ∀ {db db' : Database} {repairs : List LoopRepair},
        Except.ok (ε := Failure) db.breakLoops = .ok (db', repairs) →
        ∃ n, Edits (fun _ _ => True) db 0 n db' := by
      intro db db' repairs h
      obtain rfl := (Prod.mk.inj (Except.ok.inj h)).1
      exact ⟨_, edits_breakLoops db⟩
    exact (keeps_edits hneat hbreak).bind fun _ => fun _ h => h

theorem keeps_refreshCatalog (catalog : Catalog) :
    Keeps (fun s => s.db.NamesAre P) (refreshCatalog catalog) :=
  (keeps_transaction fun h hi => h.replaceCatalog hneat hi).bind fun _ => .pure _

end Edits
end Work

/-! Imports -/

namespace Importing
variable (hneat : ∀ name, NeatName name → P name)
include hneat

/-- Whatever a holder is called, its set gets a neat name. -/
theorem keeps_names_importSet (policy : ImportPolicy) :
    Keeps (fun x : Intake σ × Store => x.2.db.NamesAre P) (importSet policy) := by
  refine keeps_of_steps (Q := fun p => P p.draft.name) (fun _ _ h => h) ?_ ?_ policy
  · rintro ⟨intake, s⟩ h
    refine ends_prepare.mono ?_
    rintro r _ ⟨rfl, rfl⟩
    exact ⟨h, fun p hp => hneat _ (Holder.neatName_prepare hp)⟩
  · intro replacing p hname
    have hinsert : Keeps (fun s => s.db.NamesAre P)
        (Work.transaction fun db => db.insertOrReplace replacing p) :=
      Work.keeps_transaction fun h hi => h.insertOrReplace hneat hname hi
    exact fun x h => hinsert x.2 h

end Importing

/-! Calls -/

/-- The name that a call brings for a new set, which is not trimmed. -/
def Call.givenName? : Call σ → Option String
  | .createSet r => some r.name
  | .createFromFilter _ r => some r.name
  | _ => none

namespace Action

theorem keepsLooking_names : KeepsLooking fun d : Desk σ => d.db.NamesAre P where
  card _ h := h
  expansion _ h := h

theorem keeps_names_work {w : Work α} (hw : Keeps (fun s => s.db.NamesAre P) w) :
    Keeps (fun d : Desk σ => d.db.NamesAre P) (work w) :=
  fun d h => hw d.store h

end Action

/-- A call keeps the kind of the names there are, when that of neat ones and of the given one is the same. -/
theorem Call.keeps_names {c : Call σ} (hneat : ∀ name, NeatName name → P name)
    (hgiven : ∀ name ∈ c.givenName?, P name) : Keeps (fun d => d.db.NamesAre P) c.action := by
  cases c with
  | createSet r =>
    rw [Call.action, Action.createSet, Action.draft_bind]
    exact (Action.keeps_optionalCardSet _).bind fun _ =>
      Action.keeps_names_work (Work.keeps_createSet (hgiven r.name rfl))
  | updateSet name change =>
    exact (Action.keeps_ask _).bind fun set =>
      Action.keeps_names_work (Work.keeps_updateSet hneat set change)
  | addCards set card expansion count =>
    exact (Action.keeps_ask _).bind fun set =>
      (Action.keepsLooking_names.copyCount card expansion count).bind fun c =>
        Action.keeps_names_work (Work.keeps_addCopies hneat set c)
  | removeCards set card expansion count =>
    exact (Action.keeps_ask _).bind fun set =>
      (Action.keepsLooking_names.copyCount card expansion count).bind fun c =>
        Action.keeps_names_work (Work.keeps_removeCopies hneat set c)
  | reparent name parent =>
    exact (Action.keeps_ask _).bind fun set => (Action.keeps_optionalCardSet parent).bind
      fun parent => Action.keeps_names_work (Work.keeps_reparent hneat set parent)
  | reparentChildren source target =>
    exact (Action.keeps_ask _).bind fun source => (Action.keeps_optionalCardSet target).bind
      fun target => Action.keeps_names_work (Work.keeps_reparentChildren hneat source target)
  | deleteSet name =>
    exact (Action.keeps_ask _).bind fun set =>
      Action.keeps_names_work (Work.keeps_deleteSet hneat set)
  | repairLoops =>
    have hrepair := Action.keeps_names_work (σ := σ) (Work.keeps_repairLoops hneat)
    exact hrepair
  | importHolder h policy =>
    exact fun d hd => Importing.keeps_names_importSet hneat policy (⟨h, d.resolver⟩, d.store) hd
  | importDeckList text name parent policy =>
    have hparsed : Keeps (fun d : Desk σ => d.db.NamesAre P)
        (ExceptT.mk (pure (Holder.ofDeckList text))) := fun _ h => h
    refine hparsed.bind fun h => ?_
    exact fun d hd => Importing.keeps_names_importSet hneat policy (⟨_, d.resolver⟩, d.store) hd
  | refreshCatalog catalog =>
    exact (Action.keeps_names_work (Work.keeps_refreshCatalog hneat catalog)).bind
      fun _ => fun _ h => h
  | createFromFilter exprs r =>
    refine (Action.keeps_ask _).bind fun f => ?_
    rw [Action.draft_bind]
    exact (Action.keeps_optionalCardSet _).bind fun _ =>
      Action.keeps_names_work (Work.keeps_createFromFilter hneat (hgiven r.name rfl))
  | setStrategy strategy => exact fun _ h => h

/-- A call that makes a set of a given name makes one of just that name. -/
theorem Call.names_given (c : Call σ) (d : Desk σ) : Ends c.action d fun r d' =>
    (∃ report, r = .ok report) → ∀ name ∈ c.givenName?, ∃ cs ∈ d'.db.cardSets, cs.name = name := by
  have hfailed : ∀ {r : SetRequest} {d' : Desk σ} (failure : Failure),
      (∃ report, Except.error failure = Except.ok (α := Report) report) → ∀ name ∈ some r.name,
        ∃ cs ∈ d'.db.cardSets, cs.name = name := by
    rintro _ _ _ ⟨_, ⟨⟩⟩
  have hmade : ∀ {r : SetRequest} {w : Work Report} {d : Desk σ},
      Ends w d.store (fun result s' => (∃ report, result = .ok report) →
        ∃ cs ∈ s'.db.cardSets, cs.name = r.name) →
      Ends (Action.work w) d fun result d' => (∃ report, result = .ok report) →
        ∀ name ∈ some r.name, ∃ cs ∈ d'.db.cardSets, cs.name = name := by
    intro r w d hw hok name hname
    obtain rfl := Option.some.inj hname
    exact hw hok
  cases c with
  | createSet r =>
    rw [Call.action, Action.createSet, Action.draft_bind]
    exact Action.ends_optionalCardSet (fun _ => hmade (Work.ends_createSet_named _ _)) hfailed
  | createFromFilter exprs r =>
    refine Action.ends_ask (fun f _ => ?_) fun failure _ => hfailed failure
    rw [Action.draft_bind]
    exact Action.ends_optionalCardSet (fun _ => hmade (Work.ends_createFromFilter_named _ _ _)) hfailed
  | _ => exact fun _ name hname => by cases hname

/-! Runs -/

namespace Desk
variable {d : Desk σ}

theorem names_run (hneat : ∀ name, NeatName name → P name) (h : d.db.NamesAre P)
    (events : List (Event σ)) (hgiven : ∀ e ∈ events, ∀ name ∈ e.call.givenName?, P name) :
    (d.after events).db.NamesAre P := by
  induction events generalizing d with
  | nil => exact h
  | cons e events ih =>
    obtain ⟨hfirst, hrest⟩ := List.forall_mem_cons.mp hgiven
    exact ih (Call.keeps_names hneat hfirst (d.withFailing e.failing) h) hrest

/-- After any calls, beginning without sets, a name is neat unless a call gave it to a new set as it
stands; and a call that gives a name to a new set leaves a set of just that name. -/
theorem names_after (store : Store) (strategy : Strategy σ) (state : σ)
    (hstart : store.db.cardSets = []) (events : List (Event σ)) :
    (∀ cs ∈ ((ofStore store strategy state).after events).db.cardSets,
      NeatName cs.name ∨ ∃ e ∈ events, e.call.givenName? = some cs.name) ∧
    ∀ e : Event σ, (∃ report, (((ofStore store strategy state).after events).step e).1 = .ok report) →
      ∀ name ∈ e.call.givenName?,
        ∃ cs ∈ (((ofStore store strategy state).after events).step e).2.db.cardSets,
          cs.name = name := by
  refine ⟨?_, fun e => e.call.names_given _⟩
  have hnone : (ofStore store strategy state).db.NamesAre
      fun name => NeatName name ∨ ∃ e ∈ events, e.call.givenName? = some name := by
    intro cs hcs
    rw [Desk.db, ofStore, hstart] at hcs
    cases hcs
  exact names_run (fun _ hname => .inl hname) hnone events
    fun e he _ hname => .inr ⟨e, he, hname⟩

theorem names_after_firstCalls :
    firstStore.db.cardSets.map (·.name) = ["Pack"] ∧
      ∀ cs ∈ firstStore.db.cardSets,
        NeatName cs.name ∨ ∃ e ∈ firstCalls, e.call.givenName? = some cs.name :=
  ⟨by decide +kernel, (names_after .empty .exact () rfl firstCalls).1⟩

/-- A set can be made of a blank name. -/
theorem blank_name_after :
    ∃ cs ∈ ((ofStore .empty .exact ()).after
      [⟨false, .createSet { name := " " }⟩]).db.cardSets, ¬ NeatName cs.name := by
  have hmade : ((ofStore .empty .exact ()).after
      [⟨false, .createSet { name := " " }⟩]).db.cardSets.map (·.name) = [" "] := by
    decide +kernel
  obtain ⟨cs, hcs, hname⟩ := List.mem_map.mp (hmade ▸ List.mem_singleton_self " ")
  refine ⟨cs, hcs, fun hneat => ?_⟩
  have htrimmed := hname ▸ hneat.trimmed
  revert htrimmed
  decide +kernel

end Desk
end CardBinder
