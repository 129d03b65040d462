import CardBinder.CommandLine.Run
import CardBinder.Proofs.Desk.Call
import CardBinder.Proofs.Operation.Removal

/-! Deleting a set from the command line: without force, only its own row goes. -/

namespace CardBinder

namespace Action
variable {d : Desk Unit} {row : CardSet}

theorem ends_checkDelete (hv : d.db.Valid) (hrow : row ∈ d.db.cardSets) :
    Ends (checkDelete row.name) d fun r d' =>
      r = .ok (d.db.losses row) ∧ d' = d := by
  refine ends_ask (fun id hid => ?_) fun failure hfail => ?_
  · rw [Database.resolveCardSet, hv.findCardSet_name hrow] at hid
    obtain rfl := Except.ok.inj hid
    exact ⟨Database.checkDelete_eq (hv.setsAscend.getCardSet hrow), rfl⟩
  · rw [Database.resolveCardSet, hv.findCardSet_name hrow] at hfail
    cases hfail

theorem ends_checkDelete_missing {name : String}
    (hmissing : d.db.findCardSet name = none) :
    Ends (checkDelete name) d fun r d' => r = .error (.setNotFound name) ∧ d' = d := by
  refine ends_ask (fun id hid => ?_) fun failure hfail => ?_
  · rw [Database.resolveCardSet, hmissing] at hid
    cases hid
  · rw [Database.resolveCardSet, hmissing] at hfail
    exact ⟨congrArg Except.error (Except.error.inj hfail).symm, rfl⟩

theorem ends_deleteSet_named (hv : d.db.Valid) (hsave : d.store.failing = false)
    (hrow : row ∈ d.db.cardSets) :
    Ends (deleteSet row.name) d fun r d' => r = .ok (Work.deletionReport d.db row) ∧
      d' = { d with store := d.store.saving (d.db.deleted row.id) } := by
  refine ends_ask (fun id hid => ?_) fun failure hfail => ?_
  · rw [Database.resolveCardSet, hv.findCardSet_name hrow] at hid
    obtain rfl := Except.ok.inj hid
    have hdeletes := Work.deleteSet_deletes hv hsave hrow
    exact ⟨hdeletes.done, congrArg (fun store => { d with store }) hdeletes.saved⟩
  · rw [Database.resolveCardSet, hv.findCardSet_name hrow] at hfail
    cases hfail

end Action

namespace CommandLine
variable {d : Desk Unit} {row : CardSet} {name : String}

namespace Errand
variable {α β : Type} {d' : Desk Unit}

/-- What an errand does at the desk, and how it ends there. -/
theorem run_does {a : Action Unit α} {r : Outcome α}
    (h : Ends a d fun r' d'' => r' = r ∧ d'' = d') :
    (does a).run.run d = (r.mapError .failed, d') := by
  obtain ⟨rfl, rfl⟩ := h
  rfl

theorem run_bind_of_ok {x : Errand α} {f : α → Errand β} {a : α}
    (h : x.run.run d = (.ok a, d')) : (x >>= f).run.run d = (f a).run.run d' := by
  rw [ExceptT.run_bind, StateT.run_bind, h]
  rfl

theorem run_bind_of_error {x : Errand α} {f : α → Errand β} {c : Complaint}
    (h : x.run.run d = (.error c, d')) : (x >>= f).run.run d = (.error c, d') := by
  rw [ExceptT.run_bind, StateT.run_bind, h]
  rfl

end Errand

/-- How deleting a set ends that was not forced. -/
structure DeletesEmpty (d : Desk Unit) (name : String) (r : Except Complaint String)
    (d' : Desk Unit) : Prop where
  succeeds_iff : (∃ text, r = .ok text) ↔ ∃ row ∈ d.db.cardSets, row.name = name ∧
    (∀ c ∈ d.db.copies, c.cardSet ≠ row.id) ∧ ∀ cs ∈ d.db.cardSets, cs.parent ≠ some row.id
  deleted : ∀ text, r = .ok text → ∃ row ∈ d.db.cardSets, row.name = name ∧
    text = Layout.messages [⟨.success, "Card set deleted: " ++ name⟩] ∧
    d' = ⟨d.store.saving { d.db with cardSets := d.db.cardSets.filter (·.id != row.id) },
      d.resolver⟩
  unchanged : ∀ complaint, r = .error complaint → d' = d
  refused : ∀ row ∈ d.db.cardSets, row.name = name →
    (∃ c ∈ d.db.copies, c.cardSet = row.id) ∨ (∃ cs ∈ d.db.cardSets, cs.parent = some row.id) →
    r = .error (.notClean (d.db.losses row))

/-! The three ways it can end -/

theorem run_deleteSet_missing (hmissing : d.db.findCardSet name = none) :
    (Command.deleteSet name false).run.run d = (.error (.failed (.setNotFound name)), d) :=
  Errand.run_bind_of_error (Errand.run_does (Action.ends_checkDelete_missing hmissing))

section Valid
variable (hv : d.db.Valid) (hrow : row ∈ d.db.cardSets)
include hv hrow

theorem run_deleteSet_notClean
    (hlosses : ¬ ((∀ c ∈ d.db.copies, c.cardSet ≠ row.id) ∧
      ∀ cs ∈ d.db.cardSets, cs.parent ≠ some row.id)) :
    (Command.deleteSet row.name false).run.run d = (.error (.notClean (d.db.losses row)), d) := by
  refine (Errand.run_bind_of_ok (Errand.run_does (Action.ends_checkDelete hv hrow))).trans ?_
  have hclean := mt Database.isClean_losses.mp hlosses
  rw [Bool.not_eq_true] at hclean
  simp only [hclean]
  rfl

theorem run_deleteSet_clean (hsave : d.store.failing = false)
    (hcopies : ∀ c ∈ d.db.copies, c.cardSet ≠ row.id)
    (hchildren : ∀ cs ∈ d.db.cardSets, cs.parent ≠ some row.id) :
    (Command.deleteSet row.name false).run.run d =
      (.ok (Layout.messages [⟨.success, "Card set deleted: " ++ row.name⟩]),
        ⟨d.store.saving { d.db with cardSets := d.db.cardSets.filter (·.id != row.id) },
          d.resolver⟩) := by
  refine (Errand.run_bind_of_ok (Errand.run_does (Action.ends_checkDelete hv hrow))).trans ?_
  have hclean := Database.isClean_losses.mpr ⟨hcopies, hchildren⟩
  obtain ⟨hdeleted, hdetached⟩ := Database.deleted_of_clean hcopies hchildren
  have hdeletes := Errand.run_does (Action.ends_deleteSet_named hv hsave hrow)
  rw [hdeleted] at hdeletes
  simp only [hclean]
  refine (Errand.run_bind_of_ok hdeletes).trans ?_
  rw [Work.deletionReport, hdetached]
  rfl

end Valid

theorem DeletesEmpty.missing (hmissing : d.db.findCardSet name = none) :
    DeletesEmpty d name (.error (.failed (.setNotFound name))) d where
  succeeds_iff := by
    constructor
    · rintro ⟨_, ⟨⟩⟩
    · rintro ⟨row, hrow, hname, _⟩
      exact absurd hname (Database.findCardSet_eq_none hmissing row hrow)
  deleted := by
    rintro _ ⟨⟩
  unchanged _ _ := rfl
  refused row hrow hname := absurd hname (Database.findCardSet_eq_none hmissing row hrow)

section Valid
variable (hv : d.db.Valid) (hrow : row ∈ d.db.cardSets)
include hv hrow

theorem DeletesEmpty.notClean
    (hlosses : ¬ ((∀ c ∈ d.db.copies, c.cardSet ≠ row.id) ∧
      ∀ cs ∈ d.db.cardSets, cs.parent ≠ some row.id)) :
    DeletesEmpty d row.name (.error (.notClean (d.db.losses row))) d where
  succeeds_iff := by
    constructor
    · rintro ⟨_, ⟨⟩⟩
    · rintro ⟨other, hother, hname, hclean⟩
      obtain rfl := List.inj_on_of_nodup_map hv.names hother hrow hname
      exact absurd hclean hlosses
  deleted := by
    rintro _ ⟨⟩
  unchanged _ _ := rfl
  refused other hother hname _ := by
    rw [List.inj_on_of_nodup_map hv.names hother hrow hname]

theorem DeletesEmpty.clean (hcopies : ∀ c ∈ d.db.copies, c.cardSet ≠ row.id)
    (hchildren : ∀ cs ∈ d.db.cardSets, cs.parent ≠ some row.id) :
    DeletesEmpty d row.name
      (.ok (Layout.messages [⟨.success, "Card set deleted: " ++ row.name⟩]))
      ⟨d.store.saving { d.db with cardSets := d.db.cardSets.filter (·.id != row.id) },
        d.resolver⟩ where
  succeeds_iff := ⟨fun _ => ⟨row, hrow, rfl, hcopies, hchildren⟩, fun _ => ⟨_, rfl⟩⟩
  deleted text hok := ⟨row, hrow, rfl, (Except.ok.inj hok).symm, rfl⟩
  unchanged := by
    rintro _ ⟨⟩
  refused other hother hname := by
    rw [List.inj_on_of_nodup_map hv.names hother hrow hname]
    rintro (⟨c, hc, hset⟩ | ⟨cs, hcs, hparent⟩)
    · exact absurd hset (hcopies c hc)
    · exact absurd hparent (hchildren cs hcs)

end Valid

/-- Without being forced, a set is deleted only if no copy is in it and no set is below it. -/
theorem deleteSet_deletesEmpty (hv : d.db.Valid) (hsave : d.store.failing = false)
    (name : String) : DeletesEmpty d name ((Command.deleteSet name false).run.run d).1
      ((Command.deleteSet name false).run.run d).2 := by
  cases hfound : d.db.findCardSet name with
  | none =>
    rw [run_deleteSet_missing hfound]
    exact .missing hfound
  | some id =>
    obtain ⟨row, hrow, rfl, rfl⟩ := Database.findCardSet_some hfound
    by_cases hclean : (∀ c ∈ d.db.copies, c.cardSet ≠ row.id) ∧
        ∀ cs ∈ d.db.cardSets, cs.parent ≠ some row.id
    · rw [run_deleteSet_clean hv hrow hsave hclean.1 hclean.2]
      exact .clean hv hrow hclean.1 hclean.2
    · rw [run_deleteSet_notClean hv hrow hclean]
      exact .notClean hv hrow hclean

/-- A deletion takes a set with its copies and nothing else, and an unforced one its row alone. -/
theorem deletes_nothing_else (hv : d.db.Valid) (hsave : d.store.failing = false) :
    (∀ row ∈ d.db.cardSets, Ends (Work.deleteSet row.id) d.store (Work.Deletes d.store row)) ∧
      ∀ setting content name, DeletesEmpty d name
        (((Command.delete name false).errand setting content).run.run d).1
        (((Command.delete name false).errand setting content).run.run d).2 :=
  ⟨fun _ hrow => Work.deleteSet_deletes hv hsave hrow,
    fun _ _ name => deleteSet_deletesEmpty hv hsave name⟩

/-- The pack goes with its copies when it has to, and the hounds stay unless it is forced. -/
theorem deletes_nothing_else_binder :
    Ends (Work.deleteSet ⟨0⟩) (Store.ofDatabase Database.binder) (fun r s' =>
      (∃ report, r = .ok report ∧ report.affected.map (·.name) = ["Hounds", "Herders"]) ∧
        s'.db.copies = [⟨⟨3⟩, ⟨1⟩, ⟨0⟩⟩, ⟨⟨4⟩, ⟨1⟩, ⟨1⟩⟩, ⟨⟨5⟩, ⟨2⟩, ⟨1⟩⟩]) ∧
    (((Command.delete "Hounds" false).errand ⟨false, "", {}⟩ (.ok "")).run.run
      (Desk.ofStore (Store.ofDatabase Database.binder) LookupMode.exact.strategy ())).2 =
        Desk.ofStore (Store.ofDatabase Database.binder) LookupMode.exact.strategy () := by
  obtain ⟨hwork, hunforced⟩ := deletes_nothing_else
    (d := Desk.ofStore (Store.ofDatabase Database.binder) LookupMode.exact.strategy ())
    Database.valid_binder rfl
  constructor
  · refine (hwork _ List.mem_cons_self).mono ?_
    rintro r s' ⟨rfl, rfl, _, _⟩
    exact ⟨⟨_, rfl, by decide +kernel⟩, by decide +kernel⟩
  · have hrow : Database.binder.cardSets[1]? =
        some ⟨⟨1⟩, "Hounds", "", "", "", false, some ⟨0⟩⟩ := rfl
    have hcopy : Database.binder.copies[3]? = some ⟨⟨3⟩, ⟨1⟩, ⟨0⟩⟩ := rfl
    have hends := hunforced ⟨false, "", {}⟩ (.ok "") "Hounds"
    exact hends.unchanged _ (hends.refused _ (List.mem_of_getElem? hrow) rfl
      (.inl ⟨_, List.mem_of_getElem? hcopy, rfl⟩))

end CommandLine
end CardBinder
