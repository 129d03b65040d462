import CardBinder.Proofs.Desk.Import
import CardBinder.Proofs.Holder.Insertion
import CardBinder.Proofs.Holder.Resolution

/-! Making a card set of a holder accounts for every staged copy. -/

namespace CardBinder
variable {σ : Type}

namespace Importing
variable {h : Holder} {r : Resolver σ} {s : Store} {name : String} {p : PreparedSet}
  {Q : Outcome CardSetId → Intake σ × Store → Prop}

theorem map_trim_name (hname : h.trimmedName? = some name) : h.name.map Text.trim = some name := by
  obtain ⟨raw, hraw, hname⟩ := Option.bind_eq_some_iff.mp hname
  simp only at hname
  split at hname
  · cases hname
  · rw [hraw, Option.map_some, Option.some.inj hname]

/-- A name that is taken is noticed before anything is looked up. -/
theorem ends_commit_taken (hname : h.trimmedName? = some name)
    (htaken : (s.db.findCardSet name).isSome) :
    Ends commit (⟨h, r⟩, s) fun result x => result = .error (.setExists name) ∧ x = (⟨h, r⟩, s) := by
  refine ends_holder.bind ?_ (by rintro failure x ⟨hfail, _⟩; cases hfail)
  rintro _ _ ⟨hholder, rfl⟩
  obtain rfl := Except.ok.inj hholder
  simp only [map_trim_name hname]
  refine ends_ask ?_ (fun _ hfail => by cases hfail)
  intro found hfound
  obtain rfl := Except.ok.inj hfound
  rw [if_pos htaken]
  exact ⟨rfl, rfl⟩

/-- With a free name, the prepared set is written in one transaction. -/
theorem ends_commit_free (hname : h.trimmedName? = some name)
    (hfree : s.db.findCardSet name = none) (hp : (h.prepare s.db r).1 = .ok p)
    (hwrite : Ends (Work.transaction p.insert) s fun result s' =>
      Q result (⟨(h.prepare s.db r).2.1, (h.prepare s.db r).2.2⟩, s')) :
    Ends commit (⟨h, r⟩, s) Q := by
  refine ends_holder.bind ?_ (by rintro failure x ⟨hfail, _⟩; cases hfail)
  rintro _ _ ⟨hholder, rfl⟩
  obtain rfl := Except.ok.inj hholder
  simp only [map_trim_name hname]
  refine ends_ask ?_ (fun _ hfail => by cases hfail)
  intro found hfound
  obtain rfl := Except.ok.inj hfound
  rw [hfree]
  refine ends_prepare.bind ?_ ?_
  · rintro prepared _ ⟨hprepared, rfl⟩
    rw [hp] at hprepared
    obtain rfl := Except.ok.inj hprepared
    exact hwrite
  · rintro failure _ ⟨hprepared, _⟩
    rw [hp] at hprepared
    cases hprepared

/-- What is saved when a set is made of a holder: the set, whose copies are those of the entries that
stand for them, next to what there was. -/
structure Makes (h : Holder) (find : NamedPrinting → Option (CardId × Option LookupId))
    (name : String) (s : Store) (id : CardSetId) (s' : Store) : Prop where
  saved : s' = s.saving s'.db
  catalog : s.db.SameCatalog s'.db
  fresh : ∀ cs ∈ s.db.cardSets, cs.id ≠ id
  cardSets : s'.db.cardSets =
    s.db.cardSets ++ [(h.draft name (h.parent.bind s.db.findCardSet)).toCardSet id]
  copies : ∃ new, s'.db.copies = s.db.copies ++ new ∧ ∀ c ∈ new, c.cardSet = id
  others : ∀ c ∈ s.db.copies, s'.db.holding? c = s.db.holding? c
  counts : ∀ card expansion,
    s'.db.copies.countP (fun c => s'.db.holding? c == some ⟨id, card, expansion⟩) =
      h.entries.countIf fun key => find key == some (card, expansion)
  total : s'.db.cardCount id + (h.entries.countIf fun key => (find key).isNone) = h.size

/-- What is written of a prepared holder. -/
theorem makes_prepared (hv : s.db.Valid) (h : Holder) (strategy : Strategy σ) (state : σ)
    (name : String)
    (hfit : ((h.preparedSet strategy s.db state name).written s.db).printings.length ≤ idBound) :
    Makes h (strategy.find s.db state) name s ⟨s.db.nextCardSetId⟩
      (s.saving ((h.preparedSet strategy s.db state name).written s.db)) := by
  obtain ⟨p, hp⟩ : ∃ p, p = h.preparedSet strategy s.db state name := ⟨_, rfl⟩
  have hcopies : p.copies = h.foundCopies strategy s.db state := by rw [hp]; rfl
  have hdraft : p.draft = h.draft name (h.parent.bind s.db.findCardSet) := by rw [hp]; rfl
  rw [← hp] at hfit ⊢
  have hfilled := p.filled_written hv.printings
  have hempty : ∀ c ∈ s.db.copies, c.cardSet ≠ ⟨s.db.nextCardSetId⟩ := by
    intro c hc
    obtain ⟨cs, hcs, hid⟩ := hv.copySets c hc
    exact hid ▸ hv.fresh cs hcs
  refine ⟨rfl, p.sameCatalog_written hv.printings, hv.fresh,
    hdraft ▸ p.cardSets_written hv.printings, hfilled.copies_eq, ?_, ?_, ?_⟩
  · exact fun c hc => hfilled.holding?_eq (hv.copyPrintings c hc)
  · intro card expansion
    refine (hfilled.countP_holding? hfit hempty card expansion).trans ?_
    rw [hcopies, h.countSum_foundCopies strategy s.db state (· == (card, expansion))]
    refine congrArg h.entries.countIf (funext fun key => ?_)
    cases strategy.find s.db state key <;> rfl
  · have htotal := hfilled.cardCount_eq hfit hempty
    have hsum := h.entries.countIf_add_countIf_not fun key => (strategy.find s.db state key).isSome
    rw [← h.total_foundCopies strategy s.db state, ← hcopies] at hsum
    rw [Holder.size, ← hsum]
    refine (congrArg (· + _) htotal).trans (congrArg (_ + h.entries.countIf ·) (funext fun key => ?_))
    cases strategy.find s.db state key <;> rfl

/-- For a strategy that goes by the canonical names alone: making a set of a holder fails exactly
when its name is taken, which changes nothing; else the set that is saved has the copies of every
entry that stands for them, as long as there are numbers for these, and each entry that does not is
told. -/
theorem commit_accounts (hv : s.db.Valid) (start : Holder) (hstart : start.entries = .empty)
    (steps : List Holder.Staging) (hname : start.trimmedName? = some name) (strategy : Strategy σ)
    (hkey : strategy.ByKey) (state : σ) :
    Ends commit (⟨steps.foldl Holder.stage start, ⟨strategy, .empty, state⟩⟩, s) fun result x =>
      (result = .error (.setExists name) ↔ (s.db.findCardSet name).isSome) ∧
      ((s.db.findCardSet name).isSome → x.2 = s) ∧
      (s.db.findCardSet name = none →
        x.1.holder = (steps.foldl Holder.stage start).warned
          ((steps.foldl Holder.stage start).prepareWarnings strategy s.db state name) ∧
        if s.db.HasNumbers 1 ((steps.foldl Holder.stage start).entries.countIf fun key =>
            (strategy.find s.db state key).isSome) then
          (s.failing = true → x.2 = s) ∧
          (s.failing = false → ∃ id, result = .ok id ∧ (x.2.db.printings.length ≤ idBound →
            Makes (steps.foldl Holder.stage start) (strategy.find s.db state) name s id x.2))
        else result = .error .outOfNumbers ∧ x.2 = s) := by
  have hproper := Holder.proper_foldl_stage (hstart ▸ Tally.proper_empty) steps
  have hname' : (steps.foldl Holder.stage start).trimmedName? = some name := by
    rw [Holder.foldl_stage_eq]
    exact hname
  generalize steps.foldl Holder.stage start = h at hproper hname' ⊢
  cases htaken : s.db.findCardSet name with
  | some other =>
    refine (ends_commit_taken hname' (by rw [htaken]; rfl)).mono ?_
    rintro result _ ⟨rfl, rfl⟩
    simp
  | none =>
    let r : Resolver σ := ⟨strategy, .empty, state⟩
    have hfresh : r.cache.Fresh r.strategy s.db := NameCache.fresh_empty
    obtain ⟨hprepared, hwarned⟩ := Holder.prepare_eq hkey hfresh state hproper hname'
    have hdraft : (h.preparedSet strategy s.db state name).draft =
        h.draft name (h.parent.bind s.db.findCardSet) := rfl
    have htotal : (h.preparedSet strategy s.db state name).total = h.entries.countIf _ :=
      h.total_foundCopies strategy s.db state
    obtain ⟨hinsert, hvalid⟩ := PreparedSet.insert_of_free hdraft hv htaken
    refine ends_commit_free hname' htaken hprepared ?_
    rw [htotal] at hinsert
    by_cases hnumbers : s.db.HasNumbers 1
        (h.entries.countIf fun key => (strategy.find s.db state key).isSome)
    · rw [if_pos hnumbers] at hinsert
      cases hsave : s.failing with
      | true =>
        refine (Work.ends_transaction_of_error
          (Store.attempt_of_failing hinsert hvalid hsave)).mono ?_
        rintro result s' ⟨rfl, rfl⟩
        simp [hwarned, r, hnumbers]
      | false =>
        refine (Work.ends_transaction_of_ok (Store.attempt_of_ok hinsert ⟨hvalid, hsave⟩)).mono ?_
        rintro result s' ⟨rfl, rfl⟩
        simp only [hwarned, r]
        refine ⟨by simp, by simp, fun _ => ⟨trivial, ?_⟩⟩
        rw [if_pos hnumbers]
        exact ⟨by simp, fun _ => ⟨_, rfl, makes_prepared hv h strategy state name⟩⟩
    · rw [if_neg hnumbers] at hinsert
      refine (Work.ends_transaction_of_error (Store.attempt_of_error hinsert)).mono ?_
      rintro result s' ⟨rfl, rfl⟩
      simp [hwarned, r, hnumbers]

def emptyKennel : Holder :=
  { Holder.empty with name := some " Kennel " }

/-- A card and an expansion among what is staged are not there. -/
def kennelSteps : List Holder.Staging :=
  [.add 2 "Dog" none, .add 1 "DOG" (some "Jyhad"), .add 3 "Cat" none, .remove 1 "Dog" none,
    .add 1 "dog" (some "Nowhere")]

def kennel : Holder := kennelSteps.foldl Holder.stage emptyKennel

theorem commit_accounts_kennel :
    (Ends commit (⟨kennel, ⟨Strategy.exact, .empty, ()⟩⟩, Store.ofDatabase Database.binder)
      fun result x => ∃ id, result = .ok id ∧
        x.1.holder = kennel.warned
          (kennel.prepareWarnings Strategy.exact Database.binder () "Kennel") ∧
        Makes kennel (Strategy.exact.find Database.binder ()) "Kennel"
          (Store.ofDatabase Database.binder) id x.2) ∧
    (kennel.entries.countIf fun key =>
      Strategy.exact.find Database.binder () key == some (⟨0⟩, none)) = 2 ∧
    (kennel.entries.countIf fun key => (Strategy.exact.find Database.binder () key).isNone) = 3 ∧
    kennel.size = 6 := by
  refine ⟨?_, by decide +kernel, by decide +kernel, by decide +kernel⟩
  have hname : emptyKennel.trimmedName? = some "Kennel" := by decide +kernel
  have hfree : Database.binder.findCardSet "Kennel" = none := by decide +kernel
  have haccounts := commit_accounts (s := Store.ofDatabase Database.binder)
    Database.valid_binder emptyKennel rfl kennelSteps hname Strategy.exact Strategy.byKey_exact ()
  rw [← kennel] at haccounts
  obtain ⟨-, -, hmade⟩ := haccounts
  obtain ⟨hholder, hmade⟩ := hmade hfree
  obtain ⟨-, hmade⟩ := (if_pos (by decide +kernel)).mp hmade
  obtain ⟨id, hid, hmade⟩ := hmade rfl
  have hmade := hmade (by decide +kernel)
  exact ⟨id, hid, hholder, hmade⟩

end Importing
end CardBinder
