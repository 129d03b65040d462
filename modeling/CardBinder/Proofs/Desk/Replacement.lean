import CardBinder.Proofs.Desk.Import
import CardBinder.Proofs.Holder.Resolution
import CardBinder.Proofs.Operation.Replacement

/-! An import that replaces a set of the same name puts the new one exactly where the old one was. -/

namespace CardBinder
variable {σ : Type}

/-- The parent that a holder names is a set below `id`. -/
def Holder.NamesBelow (h : Holder) (db : Database) (id : CardSetId) : Prop :=
  ∃ parent ∈ h.parent.bind db.findCardSet, Relation.TransGen db.ParentLink parent id

namespace Importing
variable {h : Holder} {r : Resolver σ} {s : Store} {name : String} {old : CardSet} {p : PreparedSet}

/-- What is saved when the set `old` is replaced by one that is made of a holder. -/
structure Replaces (h : Holder) (old : CardSet) (s : Store) (new : CardSet) (s' : Store) : Prop where
  saved : s' = s.saving s'.db
  catalog : s.db.SameCatalog s'.db
  fresh : ∀ cs ∈ s.db.cardSets, cs.id ≠ new.id
  details : new = (h.draft old.name
    (if h.parent.bind s.db.findCardSet = some old.id then old.parent
      else h.parent.bind s.db.findCardSet)).toCardSet new.id
  rows : s'.db.cardSets = Database.succeed old.id new s.db.cardSets
  gone : ∀ cs ∈ s'.db.cardSets, cs.id ≠ old.id
  named : ∀ cs ∈ s'.db.cardSets, cs.name = old.name ↔ cs = new
  children : s'.db.children new.id = s.db.children old.id
  copies : ∃ made, s'.db.copies = s.db.copies.filter (·.cardSet != old.id) ++ made ∧
    ∀ c ∈ made, c.cardSet = new.id
  holdings : ∀ c ∈ s.db.copies, s'.db.holding? c = s.db.holding? c
  forest : s'.db.Acyclic

/-- Replacing a set is one transaction on what the holder is prepared as. -/
theorem ends_importSet_replace {P : Outcome CardSetId → Store → Prop}
    {Q : Outcome Report → Intake σ × Store → Prop} (hname : h.trimmedName? = some name)
    (hentries : h.isEmpty = false) (htaken : s.db.findCardSet name = some old.id)
    (hp : (h.clearWarnings.prepare s.db r).1 = .ok p)
    (hwrite : Ends (Work.transaction fun db => db.replaceSet old.id p) s P)
    (hok : ∀ id s', P (.ok id) s' → ∃ cs, s'.db.getCardSet id = .ok cs ∧
      ∀ intake report, report.affected = [cs] → Q (.ok report) (intake, s'))
    (herror : ∀ failure s', P (.error failure) s' → ∀ intake, Q (.error failure) (intake, s')) :
    Ends (importSet .replace) (⟨h, r⟩, s) Q := by
  have hclash : s.db.clash h name .replace = .ok (h, some old.id, .about []) := by
    simp only [Database.clash, htaken]
  exact ends_importSet_of_clash hname hentries hclash hp hwrite hok herror

section Prepared
variable (hdraft : p.draft = h.draft old.name (h.parent.bind s.db.findCardSet))
  (hv : s.db.Valid) (hold : old ∈ s.db.cardSets)
include hdraft hv hold

/-- The new set closes a loop when the holder names a parent below the old one. -/
theorem onLoop_iff_namesBelow :
    (s.db.replaced old (p.inPlaceOf old)).onLoop ⟨s.db.nextCardSetId⟩ = true ↔
      h.NamesBelow s.db old.id := by
  rw [hv.onLoop_replaced_iff hold (PreparedSet.exists_draft_parent hdraft), hdraft]
  rfl

/-- What is written when a holder replaces a set and closes no loop. -/
theorem replaces_replaced (hacyclic : (s.db.replaced old (p.inPlaceOf old)).Acyclic) :
    Replaces h old s ((p.inPlaceOf old).draft.toCardSet ⟨s.db.nextCardSetId⟩)
      (s.saving (s.db.replaced old (p.inPlaceOf old))) := by
  have hplaced := hv.inPlaceOf_parent hold (PreparedSet.exists_draft_parent hdraft)
  have hsucceeds := hv.succeeds_replaced hplaced
  have hname : (p.inPlaceOf old).draft.name = old.name := by
    rw [PreparedSet.inPlaceOf, hdraft]
    split <;> rfl
  refine ⟨rfl, hv.sameCatalog_replaced old _, hv.fresh, ?_, rfl,
    Database.not_mem_succeed (hv.fresh old hold).symm, Database.name_succeed hv.names hold hname,
    hsucceeds.children_eq hv.acyclic, hv.copies_replaced old _,
    fun c hc => hv.holding?_replaced old _ hc, hacyclic⟩
  rw [PreparedSet.inPlaceOf, hdraft]
  change (if h.parent.bind s.db.findCardSet = some old.id then _ else _ : CardSetDraft).toCardSet
    _ = _
  split <;> rfl

variable (hname : h.trimmedName? = some old.name) (hentries : h.isEmpty = false)
  (hp : (h.clearWarnings.prepare s.db r).1 = .ok p)
include hname hentries hp

theorem ends_importSet_stopped (hnumbers : ¬ s.db.HasNumbers 1 p.total) :
    Ends (importSet .replace) (⟨h, r⟩, s) fun result x =>
      result = .error .outOfNumbers ∧ x.2 = s := by
  have hnamed : p.draft.name = old.name := by rw [hdraft]; rfl
  have hreplace := hv.replaceSet_eq hold hnamed (PreparedSet.exists_draft_parent hdraft) rfl
  rw [if_pos hnumbers] at hreplace
  refine ends_importSet_replace hname hentries (hv.findCardSet_name hold) hp
    (Work.ends_transaction_of_error (Store.attempt_of_error hreplace)) ?_ ?_
  · rintro id s' ⟨hfail, _⟩
    cases hfail
  · rintro failure s' ⟨hfail, rfl⟩ intake
    exact ⟨congrArg _ (Except.error.inj hfail), rfl⟩

variable (hnumbers : s.db.HasNumbers 1 p.total)
include hnumbers

theorem ends_importSet_declined (hbelow : h.NamesBelow s.db old.id) :
    Ends (importSet .replace) (⟨h, r⟩, s) fun result x =>
      (∃ set parent chain, result = .error (.loopIntroduced set parent chain)) ∧ x.2 = s := by
  have hnamed : p.draft.name = old.name := by rw [hdraft]; rfl
  have hreplace := hv.replaceSet_eq hold hnamed (PreparedSet.exists_draft_parent hdraft) rfl
  rw [if_neg (not_not.mpr hnumbers)] at hreplace
  have hloop := (onLoop_iff_namesBelow hdraft hv hold).mpr hbelow
  have hattempt : s.attempt (·.replaceSet old.id p) = .error _ :=
    Store.attempt_of_error (hreplace.trans (if_pos hloop))
  refine ends_importSet_replace hname hentries (hv.findCardSet_name hold) hp
    (Work.ends_transaction_of_error hattempt) ?_ ?_
  · rintro id s' ⟨hfail, _⟩
    cases hfail
  · rintro failure s' ⟨hfail, rfl⟩ intake
    exact ⟨⟨_, _, _, congrArg _ (Except.error.inj hfail)⟩, rfl⟩

theorem ends_importSet_replaced (hsave : s.failing = false) (hbelow : ¬ h.NamesBelow s.db old.id) :
    Ends (importSet .replace) (⟨h, r⟩, s) fun result x =>
      ∃ report new, result = .ok report ∧ report.affected = [new] ∧ Replaces h old s new x.2 := by
  have hnamed : p.draft.name = old.name := by rw [hdraft]; rfl
  have hparent := PreparedSet.exists_draft_parent hdraft
  have hreplace := hv.replaceSet_eq hold hnamed hparent rfl
  rw [if_neg (not_not.mpr hnumbers)] at hreplace
  have hplaced := hv.inPlaceOf_parent hold hparent
  have hsucceeds := hv.succeeds_replaced hplaced
  have hloop := mt (onLoop_iff_namesBelow hdraft hv hold).mp hbelow
  have hforest := Bool.eq_false_iff.mpr hloop
  have hattempt : s.attempt (·.replaceSet old.id p) = .ok _ :=
    Store.attempt_of_ok (hreplace.trans (if_neg hloop))
      ⟨hv.validate_replaced hplaced hforest, hsave⟩
  refine ends_importSet_replace hname hentries (hv.findCardSet_name hold) hp
    (Work.ends_transaction_of_ok hattempt) ?_ ?_
  · rintro id s' ⟨hid, rfl⟩
    obtain rfl := Except.ok.inj hid
    refine ⟨_, hsucceeds.ascends'.getCardSet
      (List.mem_append_right _ (List.mem_singleton_self _)), ?_⟩
    intro intake report haffected
    exact ⟨report, _, rfl, haffected,
      replaces_replaced hdraft hv hold (hsucceeds.acyclic hv.acyclic hforest)⟩
  · rintro failure s' ⟨hfail, _⟩
    cases hfail

end Prepared

/-- As long as there are numbers for the new set and its copies, an import that replaces a set is
declined exactly when the holder names a parent below that set; else the new set is where the old one
was. -/
theorem importSet_replaces (hv : s.db.Valid) (hsave : s.failing = false)
    (hold : old ∈ s.db.cardSets) (hname : h.trimmedName? = some old.name)
    (hentries : h.isEmpty = false) (r : Resolver σ) :
    Ends (importSet .replace) (⟨h, r⟩, s) fun result x =>
      if s.db.HasNumbers 1 (h.copiesFound s.db r) then
        ((∃ set parent chain, result = .error (.loopIntroduced set parent chain)) ↔
          h.NamesBelow s.db old.id) ∧
        (h.NamesBelow s.db old.id → x.2 = s) ∧
        (¬ h.NamesBelow s.db old.id → ∃ report new, result = .ok report ∧
          report.affected = [new] ∧ Replaces h old s new x.2)
      else result = .error .outOfNumbers ∧ x.2 = s := by
  obtain ⟨p, hp, hprepared, htotal⟩ := Holder.prepare_draft (h := h.clearWarnings) hname s.db r
  have hdraft : p.draft = h.draft old.name (h.parent.bind s.db.findCardSet) := hprepared
  rw [h.copiesFound_congr h.clearWarnings rfl] at htotal
  rw [← htotal]
  by_cases hnumbers : s.db.HasNumbers 1 p.total
  · simp only [if_pos hnumbers]
    by_cases hbelow : h.NamesBelow s.db old.id
    · refine (ends_importSet_declined hdraft hv hold hname hentries hp hnumbers hbelow).mono ?_
      rintro result x ⟨hdeclined, hsame⟩
      exact ⟨⟨fun _ => hbelow, fun _ => hdeclined⟩, fun _ => hsame, fun hno => absurd hbelow hno⟩
    · refine (ends_importSet_replaced hdraft hv hold hname hentries hp hnumbers hsave hbelow).mono ?_
      rintro result x ⟨report, new, rfl, hdone⟩
      refine ⟨⟨?_, fun hyes => absurd hyes hbelow⟩, fun hyes => absurd hyes hbelow,
        fun _ => ⟨report, new, rfl, hdone⟩⟩
      rintro ⟨_, _, _, hfail⟩
      cases hfail
  · simp only [if_neg hnumbers]
    exact ends_importSet_stopped hdraft hv hold hname hentries hp hnumbers

/-- A holder of one card that is to replace the pack in the binder. -/
def newPack (parent : String) : Holder :=
  { Holder.empty with
    name := some "Pack ", parent := some parent, entries := Tally.empty.add ⟨"Dog", none⟩ 1 }

theorem importSet_replaces_binder :
    ∃ old ∈ Database.binder.cardSets, old.name = "Pack" ∧
      Ends (importSet .replace) (⟨newPack "Pack", ⟨Strategy.exact, .empty, ()⟩⟩,
          Store.ofDatabase Database.binder) (fun result x => ∃ report new, result = .ok report ∧
        report.affected = [new] ∧
          Replaces (newPack "Pack") old (Store.ofDatabase Database.binder) new x.2) ∧
      Ends (importSet .replace) (⟨newPack "Hounds", ⟨Strategy.exact, .empty, ()⟩⟩,
          Store.ofDatabase Database.binder) fun result x =>
        (∃ set parent chain, result = .error (.loopIntroduced set parent chain)) ∧
          x.2 = Store.ofDatabase Database.binder := by
  obtain ⟨old, hold, hid, hname⟩ :
      ∃ old ∈ Database.binder.cardSets, old.id = ⟨0⟩ ∧ old.name = "Pack" :=
    ⟨_, List.mem_cons_self, rfl, rfl⟩
  have htrimmed : ∀ parent, (newPack parent).trimmedName? = some old.name := by
    intro parent
    rw [hname]
    change Holder.trimmedName? { Holder.empty with name := some "Pack " } = some "Pack"
    decide +kernel
  have hnumbers : ∀ parent ∈ ["Pack", "Hounds"], Database.binder.HasNumbers 1
      ((newPack parent).copiesFound Database.binder ⟨Strategy.exact, .empty, ()⟩) := by
    decide +kernel
  have hends := fun parent => importSet_replaces (s := Store.ofDatabase Database.binder)
    Database.valid_binder rfl hold (htrimmed parent) rfl ⟨Strategy.exact, .empty, ()⟩
  refine ⟨old, hold, hname, ?_, ?_⟩
  · obtain ⟨-, -, hdone⟩ := (hends "Pack").of_if (hnumbers "Pack" (by decide))
    refine hdone ?_
    rintro ⟨parent, hparent, hway⟩
    have hfind : Database.binder.findCardSet "Pack" = some old.id :=
      hname ▸ Database.valid_binder.findCardSet_name hold
    obtain rfl := Option.some.inj (hfind.symm.trans hparent)
    exact Database.valid_binder.setsAscend.acyclic_iff_transGen.mp Database.valid_binder.acyclic _
      hway
  · obtain ⟨hdeclined, hsame, -⟩ := (hends "Hounds").of_if (hnumbers "Hounds" (by decide))
    have hbelow : (newPack "Hounds").NamesBelow Database.binder old.id := by
      have hfind : Database.binder.findCardSet "Hounds" = some ⟨1⟩ := by decide +kernel
      have hlink : Database.binder.ParentLink ⟨1⟩ ⟨0⟩ :=
        ⟨_, List.mem_cons_of_mem _ List.mem_cons_self, rfl, rfl⟩
      exact ⟨⟨1⟩, hfind, .single (hid ▸ hlink)⟩
    exact ⟨hdeclined.mpr hbelow, hsame hbelow⟩

end Importing
end CardBinder
