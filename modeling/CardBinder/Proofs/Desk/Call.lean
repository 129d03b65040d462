import CardBinder.Desk
import CardBinder.Proofs.Desk.Import

/-! The calls that work on a desk, and what one call can do to it. -/

namespace CardBinder
variable {σ α : Type}

/-- Makes a card set of a holder. -/
def Action.importHolder (h : Holder) (policy : ImportPolicy) : Action σ Report := do
  let (result, _) ← importing h (.importSet policy)
  ExceptT.mk (pure result)

/-- A call with its arguments. -/
inductive Call (σ : Type) where
  | createSet (r : SetRequest)
  | updateSet (name : String) (change : DetailChange)
  | addCards (set card : String) (expansion : Option String) (count : Nat)
  | removeCards (set card : String) (expansion : Option String) (count : Nat)
  | reparent (name : String) (parent : Option String)
  | reparentChildren (source : String) (target : Option String)
  | deleteSet (name : String)
  | repairLoops
  | importHolder (h : Holder) (policy : ImportPolicy)
  | importDeckList (text : String) (name parent : Option String) (policy : ImportPolicy)
  | refreshCatalog (catalog : Catalog)
  | createFromFilter (exprs : List String) (r : SetRequest)
  | setStrategy (strategy : Strategy σ)

/-- What is done at a call. -/
def Call.action : Call σ → Action σ Report
  | .createSet r => .createSet r
  | .updateSet name change => .updateSet name change
  | .addCards set card expansion count => .addCards set card expansion count
  | .removeCards set card expansion count => .removeCards set card expansion count
  | .reparent name parent => .reparent name parent
  | .reparentChildren source target => .reparentChildren source target
  | .deleteSet name => .deleteSet name
  | .repairLoops => .repairLoops
  | .importHolder h policy => .importHolder h policy
  | .importDeckList text name parent policy => .importDeckList text name parent policy
  | .refreshCatalog catalog => .refreshCatalog catalog
  | .createFromFilter exprs r => .createFromFilter exprs r
  | .setStrategy strategy => do
    Action.setStrategy strategy
    return .about []

/-- The catalog that a call brings. -/
def Call.brought : Call σ → Option Catalog
  | .refreshCatalog catalog => some catalog
  | _ => none

/-- What a call ends in: work on the store with answers in scope, or a catalog that was brought, with
the answers forgotten. -/
inductive Does (sc : Scope) (brought : Option Catalog) (d : Desk σ) : Outcome α → Desk σ → Prop
  | works {r : Outcome α} {d' : Desk σ} : Performs sc.Allows d.store r d'.store →
      d'.resolver.cache.Within sc d.db → d'.resolver.strategy = d.resolver.strategy →
      Does sc brought d r d'
  | refreshes {a : α} {d' : Desk σ} {db : Database} {catalog : Catalog} {cards : Nat}
      {restoration : Restoration} : catalog ∈ brought →
      d.db.replaceCatalog catalog = .ok (db, cards, restoration) →
      d.store.Accepts db → d'.store = d.store.saving db → d'.resolver = d.resolver.invalidate →
      Does sc brought d (.ok a) d'

/-- A call that only brings another strategy, which starts without answers. -/
def Call.Switches (c : Call σ) (d d' : Desk σ) : Prop :=
  ∃ strategy, c = .setStrategy strategy ∧ d'.store = d.store ∧
    d'.resolver = d.resolver.setStrategy strategy

namespace Action
variable {β : Type} {sc : Scope} {brought : Option Catalog} {d : Desk σ}
  {Q : Outcome β → Desk σ → Prop}

/-- Names were looked up, and nothing else was done. -/
structure Looked (sc : Scope) (d d' : Desk σ) : Prop where
  store : d'.store = d.store
  resolver : d'.resolver.Within sc d.db
  strategy : d'.resolver.strategy = d.resolver.strategy

theorem Looked.db {d' : Desk σ} (h : Looked sc d d') : d'.db = d.db := by
  rw [Desk.db, Desk.db, h.store]

theorem Looked.idle {d' : Desk σ} (h : Looked sc d d') (r : Outcome α) : Does sc brought d r d' :=
  .works (h.store ▸ .idle r) h.resolver.cache h.strategy

theorem Looked.refl (h : d.resolver.Within sc d.db) : Looked sc d d := ⟨rfl, h, rfl⟩

theorem Looked.trans {d' d'' : Desk σ} (h : Looked sc d d') (h' : Looked sc d' d'') :
    Looked sc d d'' where
  store := h'.store.trans h.store
  resolver := h.db ▸ h'.resolver
  strategy := h'.strategy.trans h.strategy

/-- Work on the store after names were looked up. -/
theorem Looked.works {d' : Desk σ} (h : Looked sc d d') {w : Work α}
    (hw : Ends w d.store (Performs sc.Allows d.store)) :
    Ends (work w) d' (Does sc brought d) := by
  refine .works ?_ h.resolver.cache h.strategy
  have hw' : Ends w d'.store (Performs sc.Allows d.store) := h.store ▸ hw
  exact hw'

theorem ends_ask {g : Database → Outcome α} {f : α → Action σ β}
    (hok : ∀ a, g d.db = .ok a → Ends (f a) d Q)
    (herror : ∀ failure, g d.db = .error failure → Q (.error failure) d) :
    Ends (ask g >>= f) d Q := by
  have hask : Ends (ask g : Action σ α) d fun r d' => r = g d.db ∧ d' = d := ⟨rfl, rfl⟩
  refine hask.bind ?_ ?_
  · rintro a d' ⟨h, rfl⟩
    exact hok a h.symm
  · rintro failure d' ⟨h, rfl⟩
    exact herror failure h.symm

theorem ends_optionalCardSet {name : Option String} {f : Option CardSetId → Action σ β}
    (hok : ∀ id, Ends (f id) d Q) (herror : ∀ failure, Q (.error failure) d) :
    Ends (optionalCardSet name >>= f) d Q := by
  cases name with
  | none => exact hok none
  | some name =>
    change Ends ((ask (·.resolveCardSet name) >>= fun id => pure (some id)) >>= f) d Q
    rw [bind_assoc]
    exact ends_ask (fun id _ => hok (some id)) fun failure _ => herror failure

/-- The details of a new set, once its parent is found. -/
theorem draft_bind (r : SetRequest) (f : CardSetDraft → Action σ β) :
    draft r >>= f = optionalCardSet r.parent >>= fun parent =>
      f { name := r.name, author := r.author, comment := r.comment, parent } := by
  rw [draft, bind_assoc]
  rfl

/-- Looking up a card, found or not; a card that is found is in scope. -/
theorem ends_card (name : String) (h : d.resolver.Within sc d.db) :
    Ends (card name) d fun r d' => Looked sc d d' ∧ ∀ id, r = .ok id → sc.card id := by
  have hcard := h.card name
  refine Ends.get ?_
  rcases hc : d.resolver.card d.db name with ⟨found, r⟩
  rw [hc] at hcard
  obtain ⟨hknown, hw, hs⟩ := hcard
  cases found with
  | none => exact ⟨⟨rfl, hw, hs⟩, fun id heq => by cases heq⟩
  | some id =>
    refine ⟨⟨rfl, hw, hs⟩, ?_⟩
    intro id' heq
    exact Except.ok.inj heq ▸ hknown id rfl

theorem ends_expansion (name : Option String) (h : d.resolver.Within sc d.db) :
    Ends (expansion name) d fun r d' =>
      Looked sc d d' ∧ ∀ e, r = .ok e → ∀ id ∈ e, sc.expansion id := by
  cases name with
  | none =>
    refine ⟨.refl h, ?_⟩
    intro e heq id hid
    rw [← Except.ok.inj heq] at hid
    cases hid
  | some name =>
    have hexpansion := h.expansion name
    refine Ends.get ?_
    rcases hc : d.resolver.expansion d.db name with ⟨found, r⟩
    rw [hc] at hexpansion
    obtain ⟨hknown, hw, hs⟩ := hexpansion
    cases found with
    | none => exact ⟨⟨rfl, hw, hs⟩, fun e heq => by cases heq⟩
    | some id =>
      refine ⟨⟨rfl, hw, hs⟩, ?_⟩
      intro e heq id' hid
      rw [← Except.ok.inj heq] at hid
      exact hknown id' hid

theorem ends_copyCount (name : String) (expansion : Option String) (count : Nat)
    (h : d.resolver.Within sc d.db) :
    Ends (copyCount name expansion count) d fun r d' =>
      Looked sc d d' ∧ ∀ c, r = .ok c → sc.Allows c.card c.expansion := by
  refine (ends_card name h).bind ?_ ?_
  · rintro card d' ⟨hlooked, hcard⟩
    have hr : d'.resolver.Within sc d'.db := hlooked.db ▸ hlooked.resolver
    refine (ends_expansion expansion hr).bind ?_ ?_
    · rintro e d'' ⟨hlooked', he⟩
      refine ⟨hlooked.trans hlooked', ?_⟩
      intro c heq
      rw [← Except.ok.inj heq]
      exact ⟨hcard card rfl, he e rfl⟩
    · rintro failure d'' ⟨hlooked', _⟩
      exact ⟨hlooked.trans hlooked', fun c heq => by cases heq⟩
  · rintro failure d' ⟨hlooked, _⟩
    exact ⟨hlooked, fun c heq => by cases heq⟩

/-! The calls -/

theorem ends_createSet (r : SetRequest) (h : d.resolver.Within sc d.db) :
    Ends (createSet r) d (Does sc brought d) := by
  have hlooked := Looked.refl h
  rw [createSet, draft_bind]
  refine ends_optionalCardSet ?_ fun failure => hlooked.idle _
  intro parent
  exact hlooked.works (Work.performs_createSet _)

theorem ends_updateSet (name : String) (change : DetailChange) (h : d.resolver.Within sc d.db) :
    Ends (updateSet name change) d (Does sc brought d) := by
  have hlooked := Looked.refl h
  refine ends_ask ?_ fun failure _ => hlooked.idle _
  intro set _
  exact hlooked.works (Work.performs_updateSet set change)

theorem ends_addCards (set card : String) (expansion : Option String) (count : Nat)
    (h : d.resolver.Within sc d.db) :
    Ends (addCards set card expansion count) d (Does sc brought d) := by
  refine ends_ask ?_ fun failure _ => (Looked.refl h).idle _
  intro id _
  refine (ends_copyCount card expansion count h).bind ?_ ?_
  · rintro c d' ⟨hlooked, hc⟩
    exact hlooked.works (Work.performs_addCopies id c (hc c rfl))
  · rintro failure d' ⟨hlooked, _⟩
    exact hlooked.idle _

theorem ends_removeCards (set card : String) (expansion : Option String) (count : Nat)
    (h : d.resolver.Within sc d.db) :
    Ends (removeCards set card expansion count) d (Does sc brought d) := by
  refine ends_ask ?_ fun failure _ => (Looked.refl h).idle _
  intro id _
  refine (ends_copyCount card expansion count h).bind ?_ ?_
  · rintro c d' ⟨hlooked, _⟩
    exact hlooked.works (Work.performs_removeCopies id c)
  · rintro failure d' ⟨hlooked, _⟩
    exact hlooked.idle _

theorem ends_reparent (name : String) (parent : Option String) (h : d.resolver.Within sc d.db) :
    Ends (reparent name parent) d (Does sc brought d) := by
  have hlooked := Looked.refl h
  refine ends_ask ?_ fun failure _ => hlooked.idle _
  intro set _
  refine ends_optionalCardSet ?_ fun failure => hlooked.idle _
  intro parent
  exact hlooked.works (Work.performs_reparent set parent)

theorem ends_reparentChildren (source : String) (target : Option String)
    (h : d.resolver.Within sc d.db) :
    Ends (reparentChildren source target) d (Does sc brought d) := by
  have hlooked := Looked.refl h
  refine ends_ask ?_ fun failure _ => hlooked.idle _
  intro source _
  refine ends_optionalCardSet ?_ fun failure => hlooked.idle _
  intro target
  exact hlooked.works (Work.performs_reparentChildren source target)

theorem ends_repairLoops (h : d.resolver.Within sc d.db) :
    Ends (repairLoops : Action σ Report) d (Does sc brought d) :=
  (Looked.refl h).works Work.performs_repairLoops

theorem ends_deleteSet (name : String) (h : d.resolver.Within sc d.db) :
    Ends (deleteSet name) d (Does sc brought d) := by
  have hlooked := Looked.refl h
  refine ends_ask ?_ fun failure _ => hlooked.idle _
  intro set _
  exact hlooked.works (Work.performs_deleteSet set)

/-- An import, and what is done with the outcome by the caller, who only passes it on. -/
theorem ends_importing {h : Holder} {w : Importing σ α}
    (hw : Ends w (⟨h, d.resolver⟩, d.store) (Importing.Imports sc ⟨h, d.resolver⟩ d.store)) :
    Ends (do
      let (result, _) ← importing h w
      ExceptT.mk (pure result)) d (Does sc brought d) := by
  obtain ⟨hperforms, hresolver, hstrategy⟩ := hw
  exact .works hperforms hresolver.cache hstrategy

theorem ends_importHolder (holder : Holder) (policy : ImportPolicy)
    (h : d.resolver.Within sc d.db) : Ends (importHolder holder policy) d (Does sc brought d) :=
  ends_importing (Importing.ends_importSet policy h)

theorem ends_importDeckList (text : String) (name parent : Option String) (policy : ImportPolicy)
    (h : d.resolver.Within sc d.db) :
    Ends (importDeckList text name parent policy) d (Does sc brought d) := by
  have hparsed : Ends (ExceptT.mk (pure (Holder.ofDeckList text)) : Action σ Holder) d
      fun _ d' => d' = d := rfl
  refine hparsed.bind ?_ (by rintro failure _ rfl; exact (Looked.refl h).idle _)
  rintro holder _ rfl
  exact ends_importing (Importing.ends_importSet policy h)

theorem ends_createFromFilter (exprs : List String) (r : SetRequest)
    (h : d.resolver.Within sc d.db) (hcards : ∀ c ∈ d.db.cards, sc.card c.id) :
    Ends (createFromFilter exprs r) d (Does sc brought d) := by
  have hlooked := Looked.refl h
  refine ends_ask ?_ fun failure _ => hlooked.idle _
  intro f _
  rw [draft_bind]
  refine ends_optionalCardSet ?_ fun failure => hlooked.idle _
  intro parent
  refine hlooked.works (Work.performs_createFromFilter f _ ?_)
  exact fun c hc => ⟨hcards c hc, by simp⟩

/-- A catalog that is taken comes with an empty memory; a refused one changes nothing. -/
theorem ends_refresh (catalog : Catalog) : Ends (refreshCatalog catalog) d fun r d' =>
    (∃ failure, r = .error failure ∧ d' = d) ∨
      ∃ db cards restoration, d.db.replaceCatalog catalog = .ok (db, cards, restoration) ∧
        d.store.Accepts db ∧ r = .ok (restoration.report cards) ∧
          d' = ⟨d.store.saving db, d.resolver.invalidate⟩ := by
  have hwork : Ends (work (.refreshCatalog catalog)) d fun r d' => ∃ s, d' = { d with store := s } ∧
      ((∃ failure, r = .error failure ∧ s = d.store) ∨
        ∃ db cards restoration,
          d.db.replaceCatalog catalog = .ok (db, cards, restoration) ∧ d.store.Accepts db ∧
            r = .ok (restoration.report cards) ∧ s = d.store.saving db) :=
    ⟨_, rfl, Work.ends_refreshCatalog catalog⟩
  refine hwork.bind ?_ ?_
  · rintro report _ ⟨_, rfl, ⟨_, hfail, _⟩ | ⟨db, cards, restoration, hok, haccepts, hr, rfl⟩⟩
    · cases hfail
    · obtain rfl := Except.ok.inj hr
      exact .inr ⟨db, cards, restoration, hok, haccepts, rfl, rfl⟩
  · rintro failure _ ⟨_, rfl, ⟨_, _, rfl⟩ | ⟨_, _, _, _, _, hfail, _⟩⟩
    · exact .inl ⟨failure, rfl, rfl⟩
    · cases hfail

theorem ends_refreshCatalog (catalog : Catalog) (h : d.resolver.Within sc d.db) :
    Ends (refreshCatalog catalog) d (Does sc (some catalog) d) := by
  refine (ends_refresh catalog).mono ?_
  rintro r d' (⟨failure, rfl, rfl⟩ | ⟨db, cards, restoration, hok, haccepts, rfl, rfl⟩)
  · exact (Looked.refl h).idle _
  · exact .refreshes rfl hok haccepts rfl rfl

end Action

/-- Every call does one of three things, whatever its arguments. -/
theorem Call.does {sc : Scope} {d : Desk σ} (c : Call σ) (h : d.resolver.Within sc d.db)
    (hcards : ∀ x ∈ d.db.cards, sc.card x.id) :
    Ends c.action d fun r d' => Does sc c.brought d r d' ∨ c.Switches d d' := by
  cases c with
  | createSet r => exact .inl (Action.ends_createSet r h)
  | updateSet name change => exact .inl (Action.ends_updateSet name change h)
  | addCards set card expansion count =>
    exact .inl (Action.ends_addCards set card expansion count h)
  | removeCards set card expansion count =>
    exact .inl (Action.ends_removeCards set card expansion count h)
  | reparent name parent => exact .inl (Action.ends_reparent name parent h)
  | reparentChildren source target => exact .inl (Action.ends_reparentChildren source target h)
  | deleteSet name => exact .inl (Action.ends_deleteSet name h)
  | repairLoops => exact .inl (Action.ends_repairLoops h)
  | importHolder holder policy => exact .inl (Action.ends_importHolder holder policy h)
  | importDeckList text name parent policy =>
    exact .inl (Action.ends_importDeckList text name parent policy h)
  | refreshCatalog catalog => exact .inl (Action.ends_refreshCatalog catalog h)
  | createFromFilter exprs r => exact .inl (Action.ends_createFromFilter exprs r h hcards)
  | setStrategy strategy => exact .inr ⟨strategy, rfl, rfl, rfl⟩

/-! What asking and looking up names keep -/

namespace Action
variable {I : Desk σ → Prop}

theorem keeps_ask (f : Database → Outcome α) : Keeps I (ask f : Action σ α) := fun _ h => h

theorem keeps_optionalCardSet (name : Option String) :
    Keeps I (optionalCardSet name : Action σ (Option CardSetId)) := by
  cases name with
  | none => exact .pure _
  | some name => exact (keeps_ask _).bind fun _ => .pure _

theorem keeps_draft (r : SetRequest) : Keeps I (draft r : Action σ CardSetDraft) :=
  (keeps_optionalCardSet r.parent).bind fun _ => .pure _

/-- What does not depend on the answers that the resolver has given. -/
structure KeepsLooking (I : Desk σ → Prop) : Prop where
  card : ∀ {d : Desk σ} (name : String), I d → I { d with resolver := (d.resolver.card d.db name).2 }
  expansion : ∀ {d : Desk σ} (name : String), I d →
    I { d with resolver := (d.resolver.expansion d.db name).2 }

theorem KeepsLooking.keeps_card (hI : KeepsLooking I) (name : String) :
    Keeps I (Action.card name) := by
  intro d h
  have hcard := hI.card name h
  refine Ends.get ?_
  rcases hc : d.resolver.card d.db name with ⟨found, r⟩
  rw [hc] at hcard
  cases found <;> exact hcard

theorem KeepsLooking.keeps_expansion (hI : KeepsLooking I) (name : Option String) :
    Keeps I (Action.expansion name) := by
  intro d h
  cases name with
  | none => exact h
  | some name =>
    have hexpansion := hI.expansion name h
    refine Ends.get ?_
    rcases hc : d.resolver.expansion d.db name with ⟨found, r⟩
    rw [hc] at hexpansion
    cases found <;> exact hexpansion

theorem KeepsLooking.copyCount (hI : KeepsLooking I) (card : String) (expansion : Option String)
    (count : Nat) : Keeps I (Action.copyCount card expansion count) :=
  (hI.keeps_card card).bind fun _ => (hI.keeps_expansion expansion).bind fun _ => .pure _

end Action
end CardBinder
