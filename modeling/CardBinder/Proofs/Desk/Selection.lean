import CardBinder.Proofs.Operation.Selection
import CardBinder.Proofs.Store

/-! A set made from a filter and saved: one copy of each row that was selected before. -/

namespace CardBinder.Work
variable {s : Store} {f : Filter} {d : CardSetDraft} {db₁ : Database}
  {printings : List PrintingId}

/-- How making a set from a filter ends. -/
structure MakesSelection (s : Store) (f : Filter) (d : CardSetDraft) (r : Outcome Report)
    (s' : Store) : Prop where
  cards : .card ∈ f.entities → ∃ ids printings, f.selectCards s.db = .ok ids ∧ ids.Nodup ∧
    s.db.Collects d printings s'.db ∧ (s.db.printings.length + ids.length ≤ idBound →
      (s'.db.copiesOf ⟨s.db.nextCardSetId⟩).map s'.db.holding? =
        ids.map fun id => some ⟨⟨s.db.nextCardSetId⟩, id, none⟩)
  printings : .card ∉ f.entities → .printing ∈ f.entities → ∃ ids,
    f.selectPrintings s.db = .ok ids ∧ ids.Nodup ∧ s.db.Collects d ids s'.db ∧
      s'.db.printings = s.db.printings
  succeeds : .card ∈ f.entities ∨ .printing ∈ f.entities → s' = s.saving s'.db ∧
    ∃ report, r = .ok report ∧ report.affected = [d.toCardSet ⟨s.db.nextCardSetId⟩]
  unsupported : .card ∉ f.entities → .printing ∉ f.entities →
    r = .error (.unsupportedEntity f.name .printing) ∧ s' = s
  fresh : ⟨s.db.nextCardSetId⟩ ∉ s.db.cardSets.map (·.id)

theorem ends_createFromFilter_of_error {failure : Failure}
    (h : s.db.insertSelection f d = .error failure) :
    Ends (createFromFilter f d) s fun r s' => r = .error failure ∧ s' = s := by
  have hattempt : s.attempt (fun db => db.insertSelection f d) = .error failure :=
    Store.attempt_of_error h
  exact (ends_transaction_of_error hattempt).bind_error

section Valid
variable (hv : s.db.Valid) (hparent : ∀ p ∈ d.parent, p ∈ s.db.cardSets.map (·.id))
include hv hparent

theorem ends_createFromFilter_of_ok (hsave : s.failing = false)
    (hfree : s.db.findCardSet d.name = none)
    (hselect : s.db.selectedPrintings f = .ok (db₁, printings)) (h : s.db.Prints db₁ printings) :
    Ends (createFromFilter f d) s fun r s' =>
      if s.db.HasNumbers 1 (s.db.selectedCount f) then
        (∃ report, r = .ok report ∧ report.affected = [d.toCardSet ⟨s.db.nextCardSetId⟩]) ∧
          s' = s.saving (db₁.collected d printings)
      else r = .error .outOfNumbers ∧ s' = s := by
  have hthere : ∀ p ∈ d.parent, ∃ cs ∈ s.db.cardSets, cs.id = p :=
    fun p hp => List.mem_map.mp (hparent p hp)
  have hparent' : ∀ p ∈ d.parent, (s.db.cardSet? p).isSome :=
    fun p hp => Database.isSome_cardSet? hv.cardSets (hthere p hp)
  obtain ⟨new, heq, _, _⟩ := h.collected_eq d
  have hrows : (db₁.collected d printings).cardSets =
      s.db.cardSets ++ [d.toCardSet ⟨s.db.nextCardSetId⟩] := by rw [heq]
  have hget : (db₁.collected d printings).getCardSet ⟨s.db.nextCardSetId⟩ =
      .ok (d.toCardSet ⟨s.db.nextCardSetId⟩) := by
    have hascends := (hv.succeeds_new hrows hthere).ascends'
    exact hascends.getCardSet (hrows ▸ List.mem_append_right _ (List.mem_singleton_self _))
  have hinsert := Database.insertSelection_eq hselect h hfree hparent'
  by_cases hnumbers : s.db.HasNumbers 1 (s.db.selectedCount f)
  case neg =>
    simp only [if_neg hnumbers] at hinsert ⊢
    exact ends_createFromFilter_of_error hinsert
  simp only [if_pos hnumbers] at hinsert ⊢
  have hattempt : s.attempt (fun db => db.insertSelection f d) =
      .ok (s.saving (db₁.collected d printings), ⟨s.db.nextCardSetId⟩) :=
    Store.attempt_of_ok hinsert ⟨h.validate_collected hv hthere, hsave⟩
  refine (ends_transaction_of_ok hattempt).bind_ok ?_
  refine ends_ask (fun cs hcs => ?_) fun failure hfail => ?_
  · obtain rfl := Except.ok.inj (hget.symm.trans hcs)
    refine ends_ask (fun count _ => ?_) fun _ hfail => by cases hfail
    refine ⟨⟨_, rfl, ?_⟩, rfl⟩
    split <;> rfl
  · exact absurd (hget.symm.trans hfail) (by simp)

omit hparent in
theorem MakesSelection.ofCards {ids : List CardId} {r : Outcome Report}
    (hcard : f.selects .card) (hids : f.selectCards s.db = .ok ids) (hnodup : ids.Nodup)
    (hmade : s.db.plainPrintings ids = (db₁, printings))
    (hreport : ∃ report, r = .ok report ∧
      report.affected = [d.toCardSet ⟨s.db.nextCardSetId⟩]) :
    MakesSelection s f d r (s.saving (db₁.collected d printings)) := by
  have hentity := Filter.mem_entities.mpr hcard
  obtain ⟨hprints, _⟩ := Database.prints_plainPrintings hv.printings ids
  have honce := hv.once_plainPrintings hids
  rw [hmade] at hprints honce
  have hcollects := hprints.collects hv d honce
  refine ⟨fun _ => ⟨ids, printings, hids, hnodup, hcollects,
      hcollects.holdings_cards hv.printings hmade⟩,
    fun hno => absurd hentity hno, fun _ => ⟨rfl, hreport⟩, fun hno => absurd hentity hno,
    hv.not_mem_ids⟩

omit hparent in
theorem MakesSelection.ofPrintings {ids : List PrintingId} {r : Outcome Report}
    (hcard : ¬ f.selects .card) (hprinting : f.selects .printing)
    (hids : f.selectPrintings s.db = .ok ids) (hnodup : ids.Nodup)
    (hprints : s.db.Prints s.db ids)
    (hreport : ∃ report, r = .ok report ∧
      report.affected = [d.toCardSet ⟨s.db.nextCardSetId⟩]) :
    MakesSelection s f d r (s.saving (s.db.collected d ids)) := by
  have hentity := Filter.mem_entities.mpr hprinting
  have hnot := mt Filter.mem_entities.mp hcard
  exact ⟨fun hyes => absurd hyes hnot,
    fun _ _ => ⟨ids, hids, hnodup, hprints.collects hv d hv.printingsOnce,
      hprints.printings_collected d⟩,
    fun _ => ⟨rfl, hreport⟩, fun _ hno => absurd hentity hno, hv.not_mem_ids⟩

omit hparent in
theorem MakesSelection.ofNeither (hcard : ¬ f.selects .card) (hprinting : ¬ f.selects .printing) :
    MakesSelection s f d (.error (.unsupportedEntity f.name .printing)) s := by
  have hnot := mt Filter.mem_entities.mp hcard
  have hnot' := mt Filter.mem_entities.mp hprinting
  exact ⟨fun hyes => absurd hyes hnot, fun _ hyes => absurd hyes hnot',
    fun hyes => absurd hyes (not_or.mpr ⟨hnot, hnot'⟩), fun _ _ => ⟨rfl, rfl⟩, hv.not_mem_ids⟩

/-- A filter is asked before the set is there; cards are put in as plain printings. What can be selected
is put in as long as there are numbers for the set and its copies. -/
theorem createFromFilter_makes (hp : s.db.InPlace) (hsave : s.failing = false)
    (hfits : ∀ p ∈ f.patterns, Like.fits p) (hfree : s.db.findCardSet d.name = none) :
    Ends (createFromFilter f d) s fun r s' =>
      if .card ∈ f.entities ∨ .printing ∈ f.entities →
          s.db.HasNumbers 1 (s.db.selectedCount f) then MakesSelection s f d r s'
      else r = .error .outOfNumbers ∧ s' = s := by
  obtain ⟨c, hc⟩ := Filter.exists_condition hfits s.db
  by_cases hcard : f.selects .card
  · have hids := Filter.selectCards_eq_ok hc hcard
    obtain ⟨ids, hids'⟩ : ∃ ids, f.selectCards s.db = .ok ids := ⟨_, hids⟩
    rcases hmade : s.db.plainPrintings ids with ⟨db₁, printings⟩
    have hprints := (Database.prints_plainPrintings hv.printings ids).1
    have hselect := Database.selectedPrintings_cards hcard hids'
    rw [hmade] at hprints hselect
    simp only [Filter.mem_entities, hcard, true_or, forall_const]
    refine (ends_createFromFilter_of_ok hv hparent hsave hfree hselect hprints).mono_if ?_
    rintro r s' ⟨hreport, rfl⟩
    refine .ofCards hv hcard hids' ?_ hmade hreport
    exact Except.ok.inj (hids.symm.trans hids') ▸ hp.cardIds_nodup.filter _
  by_cases hprinting : f.selects .printing
  · have hids := Filter.selectPrintings_eq_ok hc hprinting
    obtain ⟨ids, hids'⟩ : ∃ ids, f.selectPrintings s.db = .ok ids := ⟨_, hids⟩
    have hprints : s.db.Prints s.db ids := by
      refine ⟨rfl, ⟨[], (List.append_nil _).symm⟩, hv.printings, fun id hid => ?_⟩
      obtain ⟨p, hmem, rfl⟩ := Filter.selectPrintings_mem hids' id hid
      exact Option.isSome_iff_exists.mpr ⟨p, hp.printing?_eq_some_iff.mpr ⟨hmem, rfl⟩⟩
    simp only [Filter.mem_entities, hprinting, or_true, forall_const]
    refine (ends_createFromFilter_of_ok hv hparent hsave hfree
      (Database.selectedPrintings_printings hcard hprinting hids') hprints).mono_if ?_
    rintro r s' ⟨hreport, rfl⟩
    refine .ofPrintings hv hcard hprinting hids' ?_ hprints hreport
    exact Except.ok.inj (hids.symm.trans hids') ▸ hp.printingIds_nodup.filter _
  · refine (ends_createFromFilter_of_error
      (Database.insertSelection_unsupported hcard hprinting)).mono ?_
    rintro r s' ⟨rfl, rfl⟩
    rw [if_pos (by simp [Filter.mem_entities, hcard, hprinting])]
    exact .ofNeither hv hcard hprinting

end Valid

/-- A kennel of cards gets the plain dog, one of printings the dog of an expansion, and one of sets
nothing. -/
theorem createFromFilter_makes_binder :
    Ends (createFromFilter (.cards [⟨0⟩]) { name := "Kennel" })
      (Store.ofDatabase Database.binder) (fun _ s' =>
        (s'.db.copiesOf ⟨3⟩).map s'.db.holding? = [some ⟨⟨3⟩, ⟨0⟩, none⟩]) ∧
    Ends (createFromFilter (.printedIn [some ⟨0⟩]) { name := "Kennel" })
      (Store.ofDatabase Database.binder) (fun _ s' =>
        (s'.db.copiesOf ⟨3⟩).map (·.printing) = [⟨1⟩]) ∧
    Ends (createFromFilter .setInUse { name := "Kennel" }) (Store.ofDatabase Database.binder)
      fun r s' => (∃ failure, r = .error failure) ∧ s' = Store.ofDatabase Database.binder := by
  have hmakes := fun (f : Filter) (hfits : f.patterns = []) hnumbers =>
    (createFromFilter_makes (s := Store.ofDatabase Database.binder) (f := f)
      (d := { name := "Kennel" }) Database.valid_binder (by simp) Database.inPlace_binder rfl
      (by simp [hfits]) (by decide +kernel)).of_if hnumbers
  refine ⟨(hmakes (.cards [⟨0⟩]) rfl (by decide +kernel)).mono ?_,
    (hmakes (.printedIn [some ⟨0⟩]) rfl (by decide +kernel)).mono ?_,
    (hmakes .setInUse rfl (by decide +kernel)).mono ?_⟩
  · intro r s' hends
    obtain ⟨ids, printings, hids, _, hcollects, hof⟩ := hends.cards (by decide +kernel)
    have hdog : (Filter.cards [⟨0⟩]).selectCards Database.binder = .ok [⟨0⟩] := by decide +kernel
    obtain rfl := Except.ok.inj (hids.symm.trans hdog)
    exact hof (by decide +kernel)
  · intro r s' hends
    obtain ⟨ids, hids, _, hcollects, _⟩ := hends.printings (by decide +kernel) (by decide +kernel)
    have hdog : (Filter.printedIn [some ⟨0⟩]).selectPrintings Database.binder = .ok [⟨1⟩] := by
      decide +kernel
    exact hcollects.each.trans (Except.ok.inj (hids.symm.trans hdog))
  · intro r s' hends
    obtain ⟨rfl, hsame⟩ := hends.unsupported (by decide +kernel) (by decide +kernel)
    exact ⟨⟨_, rfl⟩, hsame⟩

end CardBinder.Work
