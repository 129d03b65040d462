import CardBinder.Proofs.Resolver
import CardBinder.Proofs.Store

/-! Importing a holder: cards are looked up first, then everything is written in one transaction. -/

namespace CardBinder.Importing
variable {σ α : Type} {sc : Scope} {intake : Intake σ} {s : Store}

/-- What an import ends in. -/
def Imports (sc : Scope) (intake : Intake σ) (s : Store) (r : Outcome α) (x : Intake σ × Store) :
    Prop :=
  Performs sc.Allows s r x.2 ∧ x.1.resolver.Within sc s.db ∧
    x.1.resolver.strategy = intake.resolver.strategy

theorem ends_work {β : Type} {w : Work α} {f : α → Importing σ β}
    {P : Outcome α → Store → Prop} {Q : Outcome β → Intake σ × Store → Prop} (hw : Ends w s P)
    (hok : ∀ a s', P (.ok a) s' → Ends (f a) (intake, s') Q)
    (herror : ∀ failure s', P (.error failure) s' → Q (.error failure) (intake, s')) :
    Ends (work w >>= f) (intake, s) Q := by
  have hwork : Ends (work w) (intake, s) fun r x => P r x.2 ∧ x.1 = intake := ⟨hw, rfl⟩
  refine hwork.bind ?_ ?_
  · rintro a ⟨_, s'⟩ ⟨h, rfl⟩
    exact hok a s' h
  · rintro failure ⟨_, s'⟩ ⟨h, rfl⟩
    exact herror failure s' h

theorem ends_ask {β : Type} {g : Database → Outcome α} {f : α → Importing σ β}
    {Q : Outcome β → Intake σ × Store → Prop}
    (hok : ∀ a, g s.db = .ok a → Ends (f a) (intake, s) Q)
    (herror : ∀ failure, g s.db = .error failure → Q (.error failure) (intake, s)) :
    Ends (work (Work.ask g) >>= f) (intake, s) Q := by
  have hask : Ends (Work.ask g) s fun r s' => r = g s.db ∧ s' = s := ⟨rfl, rfl⟩
  refine ends_work hask ?_ ?_
  · rintro a s' ⟨h, rfl⟩
    exact hok a h.symm
  · rintro failure s' ⟨h, rfl⟩
    exact herror failure h.symm

theorem ends_holder : Ends (holder : Importing σ Holder) (intake, s) fun r x =>
    r = .ok intake.holder ∧ x = (intake, s) := ⟨rfl, rfl⟩

theorem ends_setHolder (h : Holder) : Ends (setHolder h) (intake, s) fun r x =>
    r = .ok ⟨⟩ ∧ x = (⟨h, intake.resolver⟩, s) := ⟨rfl, rfl⟩

theorem ends_prepare : Ends prepare (intake, s) fun r x =>
    r = (intake.holder.prepare s.db intake.resolver).1 ∧
      x = (⟨(intake.holder.prepare s.db intake.resolver).2.1,
        (intake.holder.prepare s.db intake.resolver).2.2⟩, s) := ⟨rfl, rfl⟩

/-- The report on an import only reads. -/
theorem ends_report (start : Report) (id : CardSetId) :
    Ends (report start id) (intake, s) fun r x => x = (intake, s) ∧
      ((∃ report, r = .ok report) ∨
        s.db.cardSet? id = none ∧ r = .error (.setNotFound ("#" ++ toString id))) := by
  refine ends_ask ?_ ?_
  · intro cs _
    exact ⟨rfl, Or.inl ⟨_, rfl⟩⟩
  · intro failure h
    obtain ⟨hnone, rfl⟩ := Database.getCardSet_error h
    exact ⟨rfl, Or.inr ⟨hnone, rfl⟩⟩

/-- A report on a set that is there gives its row. -/
theorem ends_report_of_row {id : CardSetId} {cs : CardSet} (hcs : s.db.getCardSet id = .ok cs)
    (start : Report) :
    Ends (report start id) (intake, s) fun result x => x = (intake, s) ∧
      ∃ report, result = .ok report ∧ report.affected = start.affected ++ [cs] := by
  refine ends_ask ?_ ?_
  · intro found hfound
    obtain rfl := Except.ok.inj (hcs.symm.trans hfound)
    exact ⟨rfl, _, rfl, rfl⟩
  · intro failure hfail
    rw [hcs] at hfail
    cases hfail

/-- Where the policy allows the name, an import is one transaction on what the holder is prepared as. -/
theorem ends_importSet_of_clash {P : Outcome CardSetId → Store → Prop}
    {Q : Outcome Report → Intake σ × Store → Prop} {h h' : Holder} {r : Resolver σ} {name : String}
    {policy : ImportPolicy} {replacing : Option CardSetId} {start : Report} {p : PreparedSet}
    (hname : h.trimmedName? = some name) (hentries : h.isEmpty = false)
    (hclash : s.db.clash h name policy = .ok (h', replacing, start))
    (hp : (h'.clearWarnings.prepare s.db r).1 = .ok p)
    (hwrite : Ends (Work.transaction fun db => db.insertOrReplace replacing p) s P)
    (hok : ∀ id s', P (.ok id) s' → ∃ cs, s'.db.getCardSet id = .ok cs ∧
      ∀ intake report, report.affected = start.affected ++ [cs] → Q (.ok report) (intake, s'))
    (herror : ∀ failure s', P (.error failure) s' → ∀ intake, Q (.error failure) (intake, s')) :
    Ends (importSet policy) (⟨h, r⟩, s) Q := by
  refine ends_holder.bind ?_ (by rintro failure x ⟨hfail, _⟩; cases hfail)
  rintro holder _ ⟨hholder, rfl⟩
  rw [Except.ok.inj hholder]
  simp only [hname, hentries]
  refine ends_ask ?_ (fun failure hfail => by rw [hclash] at hfail; cases hfail)
  intro clash hfound
  obtain rfl := Except.ok.inj (hclash.symm.trans hfound)
  refine (ends_setHolder h'.clearWarnings).bind ?_ (by rintro failure x ⟨hfail, _⟩; cases hfail)
  rintro _ _ ⟨_, rfl⟩
  refine ends_prepare.bind ?_ ?_
  · rintro prepared _ ⟨hprepared, rfl⟩
    obtain rfl := Except.ok.inj (hp.symm.trans hprepared.symm)
    refine ends_work hwrite ?_ (fun failure s' hfail => herror failure s' hfail _)
    intro id s' hsaved
    obtain ⟨cs, hcs, hreport⟩ := hok id s' hsaved
    refine (ends_report_of_row hcs _).mono ?_
    rintro result _ ⟨rfl, report, rfl, haffected⟩
    exact hreport _ report haffected
  · rintro failure _ ⟨hprepared, _⟩
    have hfail := hp.symm.trans hprepared.symm
    cases hfail

theorem ends_importSet (policy : ImportPolicy) (hr : intake.resolver.Within sc s.db) :
    Ends (importSet policy) (intake, s) (Imports sc intake s) := by
  have hidle : ∀ failure, Imports sc intake s (α := Report) (.error failure) (intake, s) :=
    fun failure => ⟨.idle _, hr, rfl⟩
  rw [importSet]
  refine ends_holder.bind ?_ (by rintro failure x ⟨h, _⟩; cases h)
  rintro h _ ⟨_, rfl⟩
  cases h.trimmedName? with
  | none => exact Ends.throw (hidle _)
  | some name =>
    simp only
    split
    · exact Ends.throw (hidle _)
    · refine ends_ask ?_ (fun failure _ => hidle failure)
      rintro ⟨h', replacing, start⟩ _
      obtain ⟨hcopies, hresolver, hstrategy⟩ := h'.clearWarnings.prepare_within hr
      refine (ends_setHolder h'.clearWarnings).bind ?_ (by rintro failure x ⟨h, _⟩; cases h)
      rintro _ _ ⟨_, rfl⟩
      refine ends_prepare.bind ?_ ?_
      · rintro prepared _ ⟨hprepared, rfl⟩
        refine ends_work Work.ends_transaction ?_ ?_
        · rintro id s' (⟨_, hfail, _⟩ | ⟨db, id', hchange, haccepts, hid, rfl⟩)
          · cases hfail
          · obtain rfl := Except.ok.inj hid
            have hi := Database.inserts_insertOrReplace (hcopies prepared hprepared.symm) hchange
            refine (ends_report start id).mono ?_
            rintro r _ ⟨rfl, ⟨report, rfl⟩ | ⟨hnone, rfl⟩⟩
            · obtain ⟨n, he⟩ := hi.1
              exact ⟨.edited report he haccepts, hresolver, hstrategy⟩
            · exact ⟨.lost hi haccepts hnone, hresolver, hstrategy⟩
        · rintro failure s' (⟨_, _, rfl⟩ | ⟨_, _, _, _, hfail, _⟩)
          · exact ⟨.idle _, hresolver, hstrategy⟩
          · cases hfail
      · rintro failure _ ⟨_, rfl⟩
        exact ⟨.idle _, hresolver, hstrategy⟩

/-- An import keeps what staging a holder, looking its cards up and writing the set keep. -/
theorem keeps_of_steps {I : Intake σ × Store → Prop} {Q : PreparedSet → Prop}
    (hstaged : ∀ h, Keeps I (setHolder h))
    (hlooked : ∀ x, I x → Ends prepare x fun r x' => I x' ∧ ∀ p, r = .ok p → Q p)
    (hwritten : ∀ replacing p, Q p →
      Keeps I (work (Work.transaction fun db => db.insertOrReplace replacing p)))
    (policy : ImportPolicy) : Keeps I (importSet policy) := by
  have hholder : Keeps I holder := fun _ h => h
  have hask : ∀ {α : Type} (f : Database → Outcome α), Keeps I (work (Work.ask f)) :=
    fun _ _ h => h
  refine hholder.bind fun h => ?_
  split
  · exact fun _ h => h
  · split
    · exact fun _ h => h
    · refine (hask _).bind fun (h, replacing, start) => ?_
      refine (hstaged h.clearWarnings).bind fun _ => fun x hx => ?_
      refine (hlooked x hx).bind (fun p x' h => ?_) fun _ _ h => h.1
      refine ((hwritten replacing p (h.2 p rfl)).bind fun id => ?_) x' h.1
      exact (hask _).bind fun _ => (hask _).bind fun _ => hholder.bind fun _ => .pure _

end CardBinder.Importing
