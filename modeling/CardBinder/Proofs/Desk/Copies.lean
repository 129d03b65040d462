import CardBinder.Proofs.Operation.Copies
import CardBinder.Proofs.Store

/-! Copies put into a set or taken out of it: so many of one printing are saved, and no others. -/

namespace CardBinder

namespace Database
variable {db : Database} {set : CardSetId} {c : CopyCount}

/-- After copies were put in and taken out again, every set holds as many of each printing. -/
theorem Valid.held_restored (hv : db.Valid) (hfit : db.printings.length < idBound)
    (hv' : (db.withCopies set c).Valid) (x : Holding) :
    ((db.withCopies set c).withoutCopies set c).held x = db.held x := by
  obtain ⟨after, hafter⟩ : ∃ after, after = (db.withCopies set c).withoutCopies set c := ⟨_, rfl⟩
  obtain ⟨new, hnew, _⟩ := printings_withCopies db set c
  have hprintings : after.printings = db.printings ++ new := hafter ▸ hnew
  have hperm := hv.places_restored hfit hv'
  rw [← hafter] at hperm ⊢
  let ofPlace : CardSetId × PrintingId → Bool := fun q => after.holding? ⟨⟨0⟩, q.1, q.2⟩ == some x
  calc after.held x
      = (after.copies.map place).countP ofPlace := by rw [List.countP_map]; rfl
    _ = (db.copies.map place).countP ofPlace := hperm.countP_eq ofPlace
    _ = db.copies.countP (after.holding? · == some x) := by rw [List.countP_map]; rfl
    _ = db.held x := List.countP_congr fun y hy => by
        rw [holding?_of_printings hprintings (hv.copyPrintings y hy)]

end Database

namespace Work
variable {s : Store} {set : CardSetId} {c : CopyCount} {cs : CardSet}

/-- How putting copies into a set ends. -/
structure AddsCopies (s : Store) (set : CardSetId) (c : CopyCount) (r : Outcome Report)
    (s' : Store) : Prop where
  fails_iff : (∃ failure, r = .error failure) ↔ set ∉ s.db.cardSets.map (·.id)
  unchanged : ∀ failure, r = .error failure →
    failure = .setNotFound ("#" ++ toString set) ∧ s' = s
  added : ∀ report, r = .ok report → ∃ cs ∈ s.db.cardSets, cs.id = set ∧
    report = (Report.about [cs]).success
      ("Added " ++ toString c.count ++ " x " ++ s.db.cardName c.card ++ " to " ++ cs.name) ∧
    ∃ new, s' = s.saving { s.db with
        printings := s'.db.printings
        copies := s.db.copies ++ new
        nextCopyId := s.db.nextCopyId + c.count } ∧
      new.map (·.id.val) = List.range' s.db.nextCopyId c.count ∧
      new.map s'.db.holding? = List.replicate c.count (some (c.holding set))
  older : ∀ x ∈ s.db.copies, x.id.val < s.db.nextCopyId ∧ s'.db.holding? x = s.db.holding? x
  printings : ∃ new, s'.db.printings = s.db.printings ++ new ∧ new.length ≤ 1
  valid : s'.db.Valid

/-- How taking copies out of a set ends. -/
structure RemovesCopies (s : Store) (set : CardSetId) (c : CopyCount) (r : Outcome Report)
    (s' : Store) : Prop where
  succeeds_iff : (∃ report, r = .ok report) ↔
    set ∈ s.db.cardSets.map (·.id) ∧ c.count ≤ s.db.held (c.holding set)
  removed : ∀ report, r = .ok report → ∃ cs ∈ s.db.cardSets, cs.id = set ∧
    report = (Report.about [cs]).success
      ("Removed " ++ toString c.count ++ " x " ++ s.db.cardName c.card ++ " from " ++ cs.name) ∧
    ∃ gone : List Copy, gone.Nodup ∧ gone.length = c.count ∧
      (∀ x ∈ gone, x ∈ s.db.copies ∧ s.db.holding? x = some (c.holding set)) ∧
      s' = s.saving { s.db with copies := s.db.copies.filter fun x => !gone.contains x } ∧
      ∀ x ∈ gone, ∀ y ∈ s'.db.copies, s.db.holding? y = some (c.holding set) →
        x.id.val < y.id.val
  unchanged : ∀ failure, r = .error failure → s' = s
  missing : set ∉ s.db.cardSets.map (·.id) → r = .error (.setNotFound ("#" ++ toString set))
  short : set ∈ s.db.cardSets.map (·.id) → s.db.held (c.holding set) < c.count →
    r = .error (.invalidRemoval (s.db.cardName c.card) (s.db.expansionName c.expansion) c.count
      (s.db.held (c.holding set)))
  valid : s'.db.Valid

/-! Putting in -/

theorem ends_addCopies_of_error {failure : Failure} (h : s.db.putCopies set c = .error failure) :
    Ends (addCopies set c) s fun r s' => r = .error failure ∧ s' = s := by
  refine ends_ask (fun name _ => ?_) (fun _ hfail => by cases hfail)
  exact (ends_transaction_of_error (Store.attempt_of_error h)).bind_error

theorem ends_addCopies_of_ok (hsave : s.failing = false) (hk : s.db.HasCard c.card)
    (hcs : s.db.getCardSet set = .ok cs) (hcopies : s.db.nextCopyId + c.count < idBound)
    (hv' : (s.db.withCopies set c).Valid) :
    Ends (addCopies set c) s fun r s' =>
      r = .ok ((Report.about [cs]).success
        ("Added " ++ toString c.count ++ " x " ++ s.db.cardName c.card ++ " to " ++ cs.name)) ∧
      s' = s.saving (s.db.withCopies set c) := by
  refine ends_ask (fun name hname => ?_) (fun _ hfail => by cases hfail)
  obtain rfl := Except.ok.inj hname
  have hattempt : s.attempt (·.putCopies set c) = .ok (s.saving (s.db.withCopies set c), cs) :=
    Store.attempt_of_ok (Database.putCopies_eq hk hcs hcopies)
      ⟨hv'.toReferential.validate hv'.cardSets, hsave⟩
  exact (ends_transaction_of_ok hattempt).bind_ok ⟨rfl, rfl⟩

section Add
variable (hv : s.db.Valid) (hk : s.db.Knows c.card c.expansion)
  (hprintings : s.db.printings.length < idBound)
  (hcopies : s.db.nextCopyId + c.count < idBound)
include hv

theorem AddsCopies.missing (hset : set ∉ s.db.cardSets.map (·.id)) :
    AddsCopies s set c (.error (.setNotFound ("#" ++ toString set))) s where
  fails_iff := ⟨fun _ => hset, fun _ => ⟨_, rfl⟩⟩
  unchanged _ h := ⟨(Except.error.inj h).symm, rfl⟩
  added := by
    rintro _ ⟨⟩
  older x hx := ⟨hv.copies.below x hx, rfl⟩
  printings := ⟨[], (List.append_nil _).symm, Nat.zero_le 1⟩
  valid := hv

include hk hprintings hcopies

theorem AddsCopies.done (hcs : cs ∈ s.db.cardSets) :
    AddsCopies s cs.id c (.ok ((Report.about [cs]).success
      ("Added " ++ toString c.count ++ " x " ++ s.db.cardName c.card ++ " to " ++ cs.name)))
      (s.saving (s.db.withCopies cs.id c)) where
  fails_iff := by
    constructor
    · rintro ⟨_, ⟨⟩⟩
    · intro hno
      exact absurd (List.mem_map_of_mem hcs) hno
  unchanged := by
    rintro _ ⟨⟩
  added report hok := by
    refine ⟨cs, hcs, rfl, (Except.ok.inj hok).symm, Database.madeCopies cs.id s.db c.found, ?_,
      Database.madeCopies_ids cs.id,
      Database.map_holding?_withCopies hv.printings hprintings cs.id c⟩
    exact congrArg s.saving (Database.withCopies_eq s.db cs.id c)
  older x hx := by
    obtain ⟨new, hnew, _⟩ := Database.printings_withCopies s.db cs.id c
    exact ⟨hv.copies.below x hx, Database.holding?_of_printings hnew (hv.copyPrintings x hx)⟩
  printings := Database.printings_withCopies s.db cs.id c
  valid := hv.withCopies hk ⟨cs, hcs, rfl⟩ hcopies

/-- Copies are put in unless the set is missing. -/
theorem addCopies_adds (hsave : s.failing = false) (set : CardSetId) :
    Ends (addCopies set c) s (AddsCopies s set c) := by
  by_cases hset : set ∈ s.db.cardSets.map (·.id)
  · obtain ⟨cs, hcs, rfl⟩ := List.mem_map.mp hset
    have hv' := hv.withCopies hk ⟨cs, hcs, rfl⟩ hcopies
    refine (ends_addCopies_of_ok hsave hk.1 (hv.setsAscend.getCardSet hcs) hcopies hv').mono ?_
    rintro r s' ⟨rfl, rfl⟩
    exact .done hv hk hprintings hcopies hcs
  · refine (ends_addCopies_of_error (Database.putCopies_missing hk.1 hset)).mono ?_
    rintro r s' ⟨rfl, rfl⟩
    exact .missing hv hset

end Add

/-! Taking out -/

section Remove
variable (hpos : 1 ≤ c.count)
include hpos

theorem ends_removeCopies_of_error {failure : Failure}
    (h : s.db.takeCopies set c = .error failure) :
    Ends (removeCopies set c) s fun r s' => r = .error failure ∧ s' = s := by
  rw [removeCopies, if_neg (Nat.ne_of_gt hpos)]
  refine ends_ask (fun name _ => ?_) (fun _ hfail => by cases hfail)
  exact (ends_transaction_of_error (Store.attempt_of_error h)).bind_error

theorem ends_removeCopies_of_ok (hv : s.db.Valid) (hsave : s.failing = false)
    (h : s.db.takeCopies set c = .ok (s.db.withoutCopies set c, cs)) :
    Ends (removeCopies set c) s fun r s' =>
      r = .ok ((Report.about [cs]).success
        ("Removed " ++ toString c.count ++ " x " ++ s.db.cardName c.card ++ " from " ++ cs.name)) ∧
      s' = s.saving (s.db.withoutCopies set c) := by
  rw [removeCopies, if_neg (Nat.ne_of_gt hpos)]
  refine ends_ask (fun name hname => ?_) (fun _ hfail => by cases hfail)
  obtain rfl := Except.ok.inj hname
  have hv' := hv.withoutCopies set c
  have hattempt : s.attempt (·.takeCopies set c) =
      .ok (s.saving (s.db.withoutCopies set c), cs) :=
    Store.attempt_of_ok h ⟨hv'.toReferential.validate hv'.cardSets, hsave⟩
  exact (ends_transaction_of_ok hattempt).bind_ok ⟨rfl, rfl⟩

end Remove

section Remove
variable (hv : s.db.Valid)
include hv

theorem RemovesCopies.missing_set (hset : set ∉ s.db.cardSets.map (·.id)) :
    RemovesCopies s set c (.error (.setNotFound ("#" ++ toString set))) s where
  succeeds_iff := by
    constructor
    · rintro ⟨_, ⟨⟩⟩
    · intro hthere
      exact absurd hthere.1 hset
  removed := by
    rintro _ ⟨⟩
  unchanged _ _ := rfl
  missing _ := rfl
  short hthere := absurd hthere hset
  valid := hv

theorem RemovesCopies.too_few (hset : set ∈ s.db.cardSets.map (·.id))
    (hfew : s.db.held (c.holding set) < c.count) :
    RemovesCopies s set c (.error (.invalidRemoval (s.db.cardName c.card)
      (s.db.expansionName c.expansion) c.count (s.db.held (c.holding set)))) s where
  succeeds_iff := by
    constructor
    · rintro ⟨_, ⟨⟩⟩
    · intro henough
      exact absurd henough.2 (Nat.not_le.mpr hfew)
  removed := by
    rintro _ ⟨⟩
  unchanged _ _ := rfl
  missing hno := absurd hset hno
  short _ _ := rfl
  valid := hv

theorem RemovesCopies.done (hcs : cs ∈ s.db.cardSets)
    (henough : c.count ≤ s.db.held (c.holding cs.id)) :
    RemovesCopies s cs.id c (.ok ((Report.about [cs]).success
      ("Removed " ++ toString c.count ++ " x " ++ s.db.cardName c.card ++ " from " ++ cs.name)))
      (s.saving (s.db.withoutCopies cs.id c)) where
  succeeds_iff := ⟨fun _ => ⟨List.mem_map_of_mem hcs, henough⟩, fun _ => ⟨_, rfl⟩⟩
  removed report hok := by
    obtain ⟨gone, hnodup, hlength, hgone, hkept, hlowest⟩ := hv.withoutCopies_eq cs.id c henough
    refine ⟨cs, hcs, rfl, (Except.ok.inj hok).symm, gone, hnodup, hlength, hgone, ?_, hlowest⟩
    rw [← hkept]
    rfl
  unchanged := by
    rintro _ ⟨⟩
  missing hno := absurd (List.mem_map_of_mem hcs) hno
  short _ hfew := absurd henough (Nat.not_le.mpr hfew)
  valid := hv.withoutCopies cs.id c

/-- Copies are taken out unless the set is missing or has too few of them. -/
theorem removeCopies_removes (hsave : s.failing = false) (hpos : 1 ≤ c.count)
    (hfit : s.db.printings.length ≤ idBound) (set : CardSetId) :
    Ends (removeCopies set c) s (RemovesCopies s set c) := by
  by_cases hset : set ∈ s.db.cardSets.map (·.id)
  · obtain ⟨cs, hcs, rfl⟩ := List.mem_map.mp hset
    have htake := hv.takeCopies_eq (c := c) hfit (hv.setsAscend.getCardSet hcs)
    by_cases hfew : s.db.held (c.holding cs.id) < c.count
    · rw [if_pos hfew] at htake
      refine (ends_removeCopies_of_error hpos htake).mono ?_
      rintro r s' ⟨rfl, rfl⟩
      exact .too_few hv hset hfew
    · rw [if_neg hfew] at htake
      refine (ends_removeCopies_of_ok hpos hv hsave htake).mono ?_
      rintro r s' ⟨rfl, rfl⟩
      exact .done hv hcs (Nat.not_lt.mp hfew)
  · have htake : s.db.takeCopies set c = .error (.setNotFound ("#" ++ toString set)) := by
      rw [Database.takeCopies, Database.getCardSet_missing hset]
      rfl
    refine (ends_removeCopies_of_error hpos htake).mono ?_
    rintro r s' ⟨rfl, rfl⟩
    exact .missing_set hv hset

end Remove

/-! Both -/

/-- Copies can be put in and taken out again, and then each set holds what it did. -/
theorem ends_addCopies_removeCopies (hv : s.db.Valid) (hsave : s.failing = false)
    (hk : s.db.Knows c.card c.expansion) (hpos : 1 ≤ c.count)
    (hprintings : s.db.printings.length < idBound)
    (hcopies : s.db.nextCopyId + c.count < idBound) (hset : set ∈ s.db.cardSets.map (·.id)) :
    Ends (addCopies set c >>= fun _ => removeCopies set c) s fun r s' =>
      (∃ report, r = .ok report) ∧ ∀ x, s'.db.held x = s.db.held x := by
  obtain ⟨cs, hcs, rfl⟩ := List.mem_map.mp hset
  have hv' := hv.withCopies hk ⟨cs, hcs, rfl⟩ hcopies
  have hfit' := Database.length_printings_withCopies hprintings cs.id c
  have henough : c.count ≤ (s.db.withCopies cs.id c).held (c.holding cs.id) :=
    (Nat.le_add_left _ _).trans_eq (hv.held_withCopies hprintings cs.id c).symm
  have hrow : cs ∈ (s.db.withCopies cs.id c).cardSets := by
    rw [Database.withCopies_eq]
    exact hcs
  refine (ends_addCopies_of_ok hsave hk.1 (hv.setsAscend.getCardSet hcs) hcopies hv').bind_ok ?_
  have htake := hv'.takeCopies_eq (c := c) hfit' (hv'.setsAscend.getCardSet hrow)
  rw [if_neg (Nat.not_lt.mpr henough)] at htake
  refine (ends_removeCopies_of_ok (s := s.saving (s.db.withCopies cs.id c)) hpos hv' hsave
    htake).mono ?_
  rintro r s' ⟨rfl, rfl⟩
  exact ⟨⟨_, rfl⟩, hv.held_restored hprintings hv'⟩

/-- Copies are put in and taken out one for one. -/
theorem copies_exact (hv : s.db.Valid) (hsave : s.failing = false)
    (hk : s.db.Knows c.card c.expansion) (hpos : 1 ≤ c.count)
    (hprintings : s.db.printings.length < idBound)
    (hcopies : s.db.nextCopyId + c.count < idBound) (set : CardSetId) :
    Ends (addCopies set c) s (AddsCopies s set c) ∧
      Ends (removeCopies set c) s (RemovesCopies s set c) ∧
      (set ∈ s.db.cardSets.map (·.id) →
        Ends (addCopies set c >>= fun _ => removeCopies set c) s fun r s' =>
          (∃ report, r = .ok report) ∧ ∀ x, s'.db.held x = s.db.held x) :=
  ⟨addCopies_adds hv hk hprintings hcopies hsave set,
    removeCopies_removes hv hsave hpos (Nat.le_of_lt hprintings) set,
    ends_addCopies_removeCopies hv hsave hk hpos hprintings hcopies⟩

/-- Both dogs of an expansion can be taken out of the pack, which the hounds have only one of. -/
theorem copies_exact_binder :
    Ends (removeCopies ⟨0⟩ ⟨⟨0⟩, some ⟨0⟩, 2⟩) (Store.ofDatabase Database.binder)
      (fun r _ => ∃ report, r = .ok report) ∧
    Ends (removeCopies ⟨1⟩ ⟨⟨0⟩, some ⟨0⟩, 2⟩) (Store.ofDatabase Database.binder) fun r s' =>
      r = .error (.invalidRemoval "Dog" (some "Jyhad") 2 1) ∧
        s' = Store.ofDatabase Database.binder := by
  have hk : Database.binder.Knows ⟨0⟩ (some ⟨0⟩) := by
    have hexpansion : Database.binder.HasEntry .expansion ⟨0⟩ := ⟨_, rfl, rfl⟩
    exact ⟨⟨_, rfl, rfl⟩, by simpa using hexpansion⟩
  have hexact := fun set => copies_exact (s := Store.ofDatabase Database.binder)
    (c := ⟨⟨0⟩, some ⟨0⟩, 2⟩) Database.valid_binder rfl hk (by decide) (by decide) (by decide) set
  have hpack : ⟨0⟩ ∈ Database.binder.cardSets.map (·.id) := List.mem_of_getElem? (i := 0) rfl
  have hhounds : ⟨1⟩ ∈ Database.binder.cardSets.map (·.id) := List.mem_of_getElem? (i := 1) rfl
  refine ⟨(hexact ⟨0⟩).2.1.mono ?_, (hexact ⟨1⟩).2.1.mono ?_⟩
  · intro r s' hremoves
    exact hremoves.succeeds_iff.mpr ⟨hpack, by decide +kernel⟩
  · intro r s' hremoves
    have hshort := hremoves.short hhounds (by decide +kernel)
    refine ⟨hshort.trans ?_, hremoves.unchanged _ hshort⟩
    have hname : Database.binder.cardName ⟨0⟩ = "Dog" := by decide +kernel
    have hexpansion : Database.binder.expansionName (some ⟨0⟩) = some "Jyhad" := by decide +kernel
    have hheld : Database.binder.held ⟨⟨1⟩, ⟨0⟩, some ⟨0⟩⟩ = 1 := by decide +kernel
    simp only [CopyCount.holding, Store.ofDatabase, hname, hexpansion, hheld]

/-- For a set that is missing no count is reported. -/
theorem removeCopies_missing_binder : Database.binder.Valid ∧
    Ends (removeCopies ⟨7⟩ ⟨⟨0⟩, none, 1⟩) (Store.ofDatabase Database.binder) fun r _ =>
      r = .error (.setNotFound "#7") ∧ ∀ name expansion requested available,
        r ≠ .error (.invalidRemoval name expansion requested available) := by
  refine ⟨Database.valid_binder, ?_⟩
  have hmissing : ⟨7⟩ ∉ Database.binder.cardSets.map (·.id) := by decide +kernel
  refine (removeCopies_removes (s := Store.ofDatabase Database.binder) Database.valid_binder rfl
    le_rfl (by decide) ⟨7⟩).mono fun r s' hremoves => ?_
  rw [hremoves.missing hmissing]
  exact ⟨rfl, fun _ _ _ _ => nofun⟩

end Work
end CardBinder
