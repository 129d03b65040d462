import CardBinder.Proofs.Desk.Replacement
import CardBinder.Proofs.Operation.Naming
import CardBinder.Proofs.Operation.Renaming

/-! An import under a name that is taken makes the set under the first free numbered name, next to all
that was there. -/

namespace CardBinder
variable {σ : Type}

/-- A neat name is not trimmed any further. -/
theorem Holder.trimmedName?_of_neat {h : Holder} {name : String} (hname : h.name = some name)
    (hneat : NeatName name) : h.trimmedName? = some name := by
  rw [trimmedName?, hname, Option.bind_eq_bind, Option.bind_some, hneat.trimmed, if_neg]
  exact fun hempty => hneat.nonempty (String.isEmpty_iff.mp hempty)

namespace Importing
variable {h : Holder} {r : Resolver σ} {s : Store} {name : String} {p : PreparedSet}

/-- What is saved when a set is made of a holder under a free name: the set and its copies, after
everything that there was. -/
structure Adds (h : Holder) (name : String) (s : Store) (new : CardSet) (s' : Store) : Prop where
  saved : s' = s.saving s'.db
  catalog : s.db.SameCatalog s'.db
  fresh : ∀ cs ∈ s.db.cardSets, cs.id ≠ new.id
  free : ∀ cs ∈ s.db.cardSets, cs.name ≠ new.name
  details : new = (h.draft name (h.parent.bind s.db.findCardSet)).toCardSet new.id
  rows : s'.db.cardSets = s.db.cardSets ++ [new]
  copies : ∃ made, s'.db.copies = s.db.copies ++ made ∧ ∀ c ∈ made, c.cardSet = new.id
  holdings : ∀ c ∈ s.db.copies, s'.db.holding? c = s.db.holding? c

theorem adds_written (hv : s.db.Valid) (hfree : s.db.IsFree name)
    (hdraft : p.draft = h.draft name (h.parent.bind s.db.findCardSet)) :
    Adds h name s (p.draft.toCardSet ⟨s.db.nextCardSetId⟩) (s.saving (p.written s.db)) where
  saved := rfl
  catalog := p.sameCatalog_written hv.printings
  fresh := hv.fresh
  free cs hcs := by
    rw [hdraft]
    exact hfree cs hcs
  details := by rw [hdraft]; rfl
  rows := p.cardSets_written hv.printings
  copies := (p.filled_written hv.printings).copies_eq
  holdings _ hc := (p.filled_written hv.printings).holding?_eq (hv.copyPrintings _ hc)

/-- Under a taken name the holder goes on with the name that was picked, which is neat as well. -/
theorem clash_rename (hname : h.trimmedName? = some name) (db : Database) :
    ∃ h' start, db.clash h name .rename = .ok (h', none, start) ∧
      h'.trimmedName? = some (db.uniqueName name) ∧ h' = { h with name := h'.name } ∧
      start.affected = [] := by
  cases htaken : db.findCardSet name with
  | none =>
    refine ⟨h, .about [], by simp only [Database.clash, htaken], ?_, rfl, rfl⟩
    rw [(db.picksName name).unused (Database.findCardSet_eq_none_iff.mp htaken)]
    exact hname
  | some old =>
    have hneat := db.neatName_uniqueName (Holder.neatName hname)
    let start : Report := (Report.about []).info
      ("Card set '" ++ name ++ "' exists, importing as '" ++ db.uniqueName name ++ "'")
    refine ⟨{ h with name := some (db.uniqueName name) }, start, ?_,
      Holder.trimmedName?_of_neat rfl hneat, rfl, rfl⟩
    simp only [Database.clash, htaken]
    rfl

/-- An import that may rename its set makes it, unless there are no numbers for it. -/
theorem ends_importSet_rename (hv : s.db.Valid) (hsave : s.failing = false)
    (hname : h.trimmedName? = some name) (hentries : h.isEmpty = false) (r : Resolver σ) :
    Ends (importSet .rename) (⟨h, r⟩, s) fun result x =>
      if s.db.HasNumbers 1 (h.copiesFound s.db r) then ∃ report new, result = .ok report ∧
        report.affected = [new] ∧ Adds h (s.db.uniqueName name) s new x.2
      else result = .error .outOfNumbers ∧ x.2 = s := by
  obtain ⟨h', start, hclash, hpicked, hsame, hstart⟩ := clash_rename hname s.db
  obtain ⟨p, hp, hprepared, htotal⟩ :=
    Holder.prepare_draft (h := h'.clearWarnings) hpicked s.db r
  have hdraft : p.draft = h.draft (s.db.uniqueName name) (h.parent.bind s.db.findCardSet) := by
    rw [hprepared, hsame]
    rfl
  rw [h.copiesFound_congr h'.clearWarnings (by rw [hsame]; rfl)] at htotal
  rw [← htotal]
  have hfree := s.db.isFree_uniqueName name
  obtain ⟨hinsert, hvalid⟩ := PreparedSet.insert_of_free hdraft hv
    (Database.findCardSet_eq_none_iff.mpr hfree)
  by_cases hnumbers : s.db.HasNumbers 1 p.total
  · rw [if_pos hnumbers] at hinsert
    have hattempt : s.attempt (·.insertOrReplace none p) = .ok _ :=
      Store.attempt_of_ok hinsert ⟨hvalid, hsave⟩
    refine ends_importSet_of_clash hname hentries hclash hp
      (Work.ends_transaction_of_ok hattempt) ?_ ?_
    · rintro id s' ⟨hid, rfl⟩
      obtain rfl := Except.ok.inj hid
      refine ⟨_, PreparedSet.getCardSet_written hdraft hv, ?_⟩
      intro intake report haffected
      rw [hstart] at haffected
      rw [if_pos hnumbers]
      exact ⟨report, _, rfl, haffected, adds_written hv hfree hdraft⟩
    · rintro failure s' ⟨hfail, _⟩
      cases hfail
  · rw [if_neg hnumbers] at hinsert
    have hattempt : s.attempt (·.insertOrReplace none p) = .error _ :=
      Store.attempt_of_error hinsert
    refine ends_importSet_of_clash hname hentries hclash hp
      (Work.ends_transaction_of_error hattempt) ?_ ?_
    · rintro id s' ⟨hfail, _⟩
      cases hfail
    · rintro failure s' ⟨hfail, rfl⟩ intake
      rw [if_neg hnumbers]
      exact ⟨congrArg _ (Except.error.inj hfail), rfl⟩

/-- The search for a free name finds the least number there is, so an import that may rename its set
never fails on a name and leaves the sets and the copies that were there as they are; it is stopped
only when there are no numbers for the set and its copies. -/
theorem rename_finds_free :
    (∀ db : Database, ∀ name, db.PicksName name) ∧
    ∀ {σ : Type} {h : Holder} {s : Store} {name : String} (r : Resolver σ), s.db.Valid →
      s.failing = false → h.trimmedName? = some name → h.isEmpty = false →
      Ends (importSet .rename) (⟨h, r⟩, s) fun result x =>
        if s.db.HasNumbers 1 (h.copiesFound s.db r) then ∃ report new, result = .ok report ∧
          report.affected = [new] ∧ Adds h (s.db.uniqueName name) s new x.2
        else result = .error .outOfNumbers ∧ x.2 = s := by
  refine ⟨Database.picksName, ?_⟩
  intro _ h s name r hv hsave hname hentries
  exact ends_importSet_rename hv hsave hname hentries r

/-- A second pack in the binder is the first that gets a number. -/
theorem rename_finds_free_binder :
    Ends (importSet .rename) (⟨newPack "Hounds", ⟨Strategy.exact, .empty, ()⟩⟩,
        Store.ofDatabase Database.binder) fun result x => ∃ report new, result = .ok report ∧
      report.affected = [new] ∧ new.name = "Pack (1)" ∧
        x.2.db.cardSets = Database.binder.cardSets ++ [new] := by
  have hname : (newPack "Hounds").trimmedName? = some "Pack" := by
    change Holder.trimmedName? { Holder.empty with name := some "Pack " } = some "Pack"
    decide +kernel
  have hpicked : Database.binder.uniqueName "Pack" = "Pack (1)" := by decide +kernel
  have hnumbers : Database.binder.HasNumbers 1
      ((newPack "Hounds").copiesFound Database.binder ⟨Strategy.exact, .empty, ()⟩) := by
    decide +kernel
  have hends := rename_finds_free.2 (s := Store.ofDatabase Database.binder)
    ⟨Strategy.exact, .empty, ()⟩ Database.valid_binder rfl hname rfl
  refine (hends.of_if hnumbers).mono ?_
  rintro result x ⟨report, new, hok, haffected, hadds⟩
  refine ⟨report, new, hok, haffected, ?_, hadds.rows⟩
  rw [hadds.details]
  exact hpicked

end Importing
end CardBinder
