import CardBinder.Proofs.Outcome
import CardBinder.Proofs.Supply.Shortfalls
import Mathlib.Data.List.Forall2

/-! A parent set without shortfalls has a copy of its own for every copy that its children hold. -/

namespace CardBinder

section Lists
variable {α κ : Type} {R : α → α → Prop} {xs ys stock wanted : List α}

/-- Things of given kinds can be set apart from what is in stock. -/
theorem exists_perm_of_subperm {f : α → κ} {ks : List κ} (h : ks.Subperm (stock.map f)) :
    ∃ given rest, stock.Perm (given ++ rest) ∧ given.map f = ks := by
  induction ks generalizing stock with
  | nil => exact ⟨[], stock, List.Perm.refl stock, rfl⟩
  | cons k ks ih =>
    obtain ⟨a, ha, rfl⟩ := List.mem_map.mp (h.subset List.mem_cons_self)
    obtain ⟨before, after, rfl⟩ := List.append_of_mem ha
    have hperm : (before ++ a :: after).Perm (a :: (before ++ after)) := List.perm_middle
    have hrest : ks.Subperm ((before ++ after).map f) := by
      rw [← List.subperm_cons (f a), ← List.map_cons]
      exact h.trans (hperm.map f).subperm
    obtain ⟨given, rest, hstock, hgiven⟩ := ih hrest
    exact ⟨a :: given, rest, hperm.trans (hstock.cons a), by rw [List.map_cons, hgiven]⟩

/-- As many things of each kind as are wanted can be set apart. -/
theorem exists_given [BEq κ] [LawfulBEq κ] (f : α → κ)
    (h : ∀ w ∈ wanted, wanted.countP (f · == f w) ≤ stock.countP (f · == f w)) :
    ∃ given rest, stock.Perm (given ++ rest) ∧ given.map f = wanted.map f := by
  refine exists_perm_of_subperm (List.subperm_ext_iff.mpr fun k hk => ?_)
  obtain ⟨w, hw, rfl⟩ := List.mem_map.mp hk
  simp only [List.count, List.countP_map]
  exact h w hw

theorem forall₂_of_map_eq {f : α → κ} (h : xs.map f = ys.map f)
    (hR : ∀ x, ∀ y ∈ ys, f x = f y → R x y) : List.Forall₂ R xs ys := by
  induction ys generalizing xs with
  | nil =>
    rw [List.map_eq_nil_iff.mp h]
    exact List.Forall₂.nil
  | cons y ys ih =>
    obtain ⟨x, xs, rfl, hx, hxs⟩ := List.map_eq_cons_iff.mp h
    exact (ih hxs fun x y hy => hR x y (List.mem_cons_of_mem _ hy)).cons
      (hR x y List.mem_cons_self hx)

theorem countP_le_of_forall₂ {p : α → Bool} (h : List.Forall₂ R xs ys)
    (hp : ∀ x y, R x y → p y → p x) : ys.countP p ≤ xs.countP p := by
  induction h with
  | nil => exact Nat.le_refl _
  | @cons x y xs ys hxy _ ih =>
    rw [List.countP_cons, List.countP_cons]
    have := hp x y hxy
    split <;> split <;> simp_all
    omega

/-- Who is given what may be told in any order. -/
theorem exists_forall₂_of_perm {zs : List α} (h : List.Forall₂ R xs ys) (hperm : ys.Perm zs) :
    ∃ ws, xs.Perm ws ∧ List.Forall₂ R ws zs := by
  have hcomp : Relation.Comp (List.Forall₂ R) List.Perm xs zs := ⟨ys, h, hperm⟩
  rwa [List.forall₂_comp_perm_eq_perm_comp_forall₂] at hcomp

end Lists

namespace Database
variable {db : Database} {parent : CardSetId} {children : List CardSetId}
  {stock wanted given : List Copy}

/-- A copy can be given for a wanted one: it is of the same card, and of the very same printing when
the wanted one is of a known expansion. -/
def Serves (db : Database) (given wanted : Copy) : Prop :=
  ∃ p ∈ db.printing? given.printing, ∃ q ∈ db.printing? wanted.printing,
    p.card = q.card ∧ (q.expansion.isSome → given.printing = wanted.printing)

/-- The parent has, for each copy that the children hold, a copy of its own to give. -/
def Supplies (db : Database) (parent : CardSetId) (children : List CardSetId) : Prop :=
  ∃ given : List Copy, given.Nodup ∧ (∀ c ∈ given, c ∈ db.copiesOf parent) ∧
    List.Forall₂ db.Serves given (db.demand children)

/-- Only the very same printing will do. -/
def isParticular (db : Database) (c : Copy) : Bool :=
  (db.printing? c.printing).any (·.expansion.isSome)

theorem serves_of_printing {c w : Copy} (hw : (db.printing? w.printing).isSome)
    (h : c.printing = w.printing) : db.Serves c w := by
  obtain ⟨q, hq⟩ := Option.isSome_iff_exists.mp hw
  exact ⟨q, h ▸ hq, q, hq, rfl, fun _ => h⟩

theorem serves_of_card {c w : Copy} (hw : (db.printing? w.printing).isSome)
    (hany : db.isParticular w = false) (h : db.cardOf c = db.cardOf w) : db.Serves c w := by
  obtain ⟨q, hq⟩ := Option.isSome_iff_exists.mp hw
  rw [cardOf, cardOf, hq, Option.map_some] at h
  obtain ⟨p, hp, hcard⟩ := Option.map_eq_some_iff.mp h
  rw [isParticular, hq, Option.any_some] at hany
  exact ⟨p, hp, q, hq, hcard, fun hsome => by rw [hsome] at hany; cases hany⟩

theorem Serves.cardOf_eq {c w : Copy} (h : db.Serves c w) : db.cardOf c = db.cardOf w := by
  obtain ⟨p, hp, q, hq, hcard, _⟩ := h
  rw [cardOf, cardOf, Option.mem_def.mp hp, Option.mem_def.mp hq, Option.map_some,
    Option.map_some, hcard]

theorem Serves.printing_eq {c w : Copy} (h : db.Serves c w) {q : Printing}
    (hq : db.printing? w.printing = some q) (hexp : q.expansion.isSome) :
    c.printing = w.printing := by
  obtain ⟨_, _, q', hq', _, hsame⟩ := h
  obtain rfl : q = q' := Option.some.inj (hq.symm.trans hq')
  exact hsame hexp

/-- The particular copies are given first, and never to the others' loss: what is left has copies
enough of every card. -/
theorem exists_serving (hrows : ∀ w ∈ wanted, (db.printing? w.printing).isSome)
    (hprinting : ∀ w ∈ wanted, db.isParticular w →
      wanted.countP (·.printing == w.printing) ≤ stock.countP (·.printing == w.printing))
    (hcard : ∀ w ∈ wanted,
      wanted.countP (db.cardOf · == db.cardOf w) ≤ stock.countP (db.cardOf · == db.cardOf w)) :
    ∃ given, given.Subperm stock ∧ List.Forall₂ db.Serves given wanted := by
  let particular := wanted.filter db.isParticular
  let others := wanted.filter (!db.isParticular ·)
  obtain ⟨first, left, hfirst, hprintings⟩ :
      ∃ given rest, stock.Perm (given ++ rest) ∧
        given.map (·.printing) = particular.map (·.printing) := by
    refine exists_given _ fun w hw => ?_
    obtain ⟨hw, hparticular⟩ := List.mem_filter.mp hw
    exact Nat.le_trans (List.Sublist.countP_le List.filter_sublist) (hprinting w hw hparticular)
  -- Given printing for printing, the particular copies use up as many of a card as are wanted.
  have hused : ∀ k, first.countP (db.cardOf · == k) = particular.countP (db.cardOf · == k) := by
    intro k
    have hmap : ∀ cs : List Copy, cs.countP (db.cardOf · == k) =
        (cs.map (·.printing)).countP fun id => (db.printing? id).map (·.card) == k := by
      intro cs
      rw [List.countP_map]
      rfl
    rw [hmap, hprintings, ← hmap]
  obtain ⟨second, rest, hsecond, hcards⟩ :
      ∃ given rest, left.Perm (given ++ rest) ∧
        given.map db.cardOf = others.map db.cardOf := by
    refine exists_given _ fun w hw => ?_
    have henough := hcard w (List.mem_filter.mp hw).1
    rw [hfirst.countP_eq, List.countP_append, hused,
      List.countP_eq_countP_filter_add wanted _ db.isParticular] at henough
    exact Nat.le_of_add_le_add_left henough
  have hserves : List.Forall₂ db.Serves (first ++ second) (particular ++ others) := by
    refine List.rel_append (forall₂_of_map_eq hprintings ?_) (forall₂_of_map_eq hcards ?_)
    · intro c w hw h
      exact serves_of_printing (hrows w (List.mem_filter.mp hw).1) h
    · intro c w hw h
      obtain ⟨hw, hany⟩ := List.mem_filter.mp hw
      exact serves_of_card (hrows w hw) (by simpa using hany) h
  obtain ⟨given, hgiven, hgives⟩ :=
    exists_forall₂_of_perm hserves (List.filter_append_perm db.isParticular wanted)
  refine ⟨given, ?_, hgives⟩
  have hall : stock.Perm (first ++ (second ++ rest)) :=
    hfirst.trans (hsecond.append_left first)
  have hsub : (first ++ second).Sublist (first ++ (second ++ rest)) :=
    (List.sublist_append_left second rest).append_left first
  exact hgiven.symm.subperm.trans (hsub.subperm.trans hall.symm.subperm)

/-! Shortfalls and assignments -/

theorem Orderly.copiesOf_nodup (h : db.Orderly) (set : CardSetId) : (db.copiesOf set).Nodup :=
  (List.Nodup.of_map _ h.copies.nodup).filter _

theorem Referential.printing?_isSome (h : db.Referential) {w : Copy}
    (hw : w ∈ db.demand children) : (db.printing? w.printing).isSome := by
  obtain ⟨child, _, hw⟩ := List.mem_flatMap.mp hw
  exact h.copyPrintings w (List.mem_filter.mp hw).1

theorem Valid.supplies_of_lacks (hv : db.Valid) (hp : db.InPlace)
    (h : db.lacks parent children = []) : db.Supplies parent children := by
  obtain ⟨hprintings, hcards⟩ := List.append_eq_nil_iff.mp h
  rw [List.filterMap_eq_nil_iff] at hprintings hcards
  have hrow : ∀ w ∈ db.demand children, ∃ p ∈ db.printings, p.id = w.printing := by
    intro w hw
    obtain ⟨p, hrow⟩ := Option.isSome_iff_exists.mp (hv.printing?_isSome hw)
    exact ⟨p, hp.printing?_eq_some_iff.mp hrow⟩
  obtain ⟨given, ⟨cs, hperm, hsub⟩, hserves⟩ : ∃ given, given.Subperm (db.copiesOf parent) ∧
      List.Forall₂ db.Serves given (db.demand children) := by
    refine exists_serving (fun w hw => hv.printing?_isSome hw) ?_ ?_
    · intro w hw hparticular
      obtain ⟨p, hmem, hid⟩ := hrow w hw
      rw [isParticular, hp.printing?_eq_some_iff.mpr ⟨hmem, hid⟩] at hparticular
      rw [← hid]
      exact printingLack?_eq_none_iff.mp (hprintings p hmem) hparticular
    · intro w hw
      obtain ⟨p, hmem, hid⟩ := hrow w hw
      obtain ⟨c, hc, hcard⟩ := hv.exists_card hmem
      have hof : db.cardOf w = some c.id := by
        rw [cardOf, hp.printing?_eq_some_iff.mpr ⟨hmem, hid⟩, Option.map_some, hcard]
      rw [hof]
      exact cardLack?_eq_none_iff.mp (hcards c hc)
  exact ⟨given, hperm.nodup_iff.mp ((hv.copiesOf_nodup parent).sublist hsub),
    fun c hc => hsub.subset (hperm.mem_iff.mpr hc), hserves⟩

theorem Supplies.lacks_eq_nil (h : db.Supplies parent children) (hp : db.InPlace) :
    db.lacks parent children = [] := by
  obtain ⟨given, hnodup, hmem, hserves⟩ := h
  have hle : ∀ q : Copy → Bool, (∀ c w, db.Serves c w → q w → q c) →
      (db.demand children).countP q ≤ (db.copiesOf parent).countP q := fun q hq =>
    Nat.le_trans (countP_le_of_forall₂ hserves hq) ((hnodup.subperm hmem).countP_le q)
  refine List.append_eq_nil_iff.mpr ⟨List.filterMap_eq_nil_iff.mpr fun p hmem => ?_,
    List.filterMap_eq_nil_iff.mpr fun c _ => ?_⟩
  · refine printingLack?_eq_none_iff.mpr fun hexp => hle _ fun c w hserve hw => ?_
    have hid : w.printing = p.id := by simpa using hw
    have hrow := hp.printing?_eq_some_iff.mpr ⟨hmem, hid.symm⟩
    simpa [hserve.printing_eq hrow hexp] using hw
  · refine cardLack?_eq_none_iff.mpr (hle _ fun x w hserve hw => ?_)
    rwa [hserve.cardOf_eq]

/-! The check -/

theorem Valid.checkIndependence_eq (hv : db.Valid) (htwo : 2 ≤ children.length)
    (hchildren : ∀ child ∈ children, ∃ cs ∈ db.cardSets, cs.id = child ∧ cs.parent = some parent) :
    ∃ name names, db.checkIndependence parent children =
      .ok ⟨name, names, db.shortfalls parent children⟩ := by
  have hget : ∀ cs ∈ db.cardSets, db.getCardSet cs.id = .ok cs := by
    intro cs hcs
    rw [getCardSet, (cardSet?_eq_some_iff hv.cardSets).mpr ⟨hcs, rfl⟩]
  obtain ⟨row, hrow, rfl⟩ : ∃ row ∈ db.cardSets, row.id = parent := by
    obtain ⟨child, hchild⟩ := List.exists_mem_of_length_pos (l := children) (by omega)
    obtain ⟨cs, hcs, _, hparent⟩ := hchildren child hchild
    exact hv.parents cs hcs parent hparent
  have hnames : ∃ names, children.mapM (db.childName row) = .ok names := by
    clear htwo
    induction children with
    | nil => exact ⟨[], rfl⟩
    | cons child children ih =>
      obtain ⟨cs, hcs, rfl, hparent⟩ := hchildren child List.mem_cons_self
      obtain ⟨names, hnames⟩ := ih fun c hc => hchildren c (List.mem_cons_of_mem _ hc)
      have hname : db.childName row cs.id = .ok cs.name := by
        rw [childName, hget cs hcs]
        exact if_pos hparent
      refine ⟨cs.name :: names, ?_⟩
      rw [List.mapM_cons, hname, hnames]
      rfl
  obtain ⟨names, hnames⟩ := hnames
  refine ⟨row.name, names, ?_⟩
  rw [checkIndependence, if_neg (by omega), hget row hrow]
  change (children.mapM (db.childName row) >>= fun names =>
    Except.ok (SupplyReport.mk row.name names (db.shortfalls row.id children))) = _
  rw [hnames]
  rfl

/-- The check tells whether the parent has a copy to give for each wanted one, and if not, what is
missing: every card and every printing that is, with what is needed and what there is. -/
theorem Valid.checkIndependence_supplies (hv : db.Valid) (hp : db.InPlace)
    (parent : CardSetId) (children : List CardSetId) (htwo : 2 ≤ children.length)
    (hchildren : ∀ child ∈ children, ∃ cs ∈ db.cardSets, cs.id = child ∧ cs.parent = some parent) :
    ∃ report, db.checkIndependence parent children = .ok report ∧
      (report.shortfalls = [] ↔ db.Supplies parent children) ∧
      report.shortfalls.Perm (db.lacks parent children) := by
  obtain ⟨name, names, hreport⟩ := hv.checkIndependence_eq htwo hchildren
  have hperm : (db.shortfalls parent children).Perm (db.lacks parent children) :=
    shortfalls_perm hv hp
  refine ⟨_, hreport, ⟨fun hnone => ?_, fun hsupplies => ?_⟩, hperm⟩
  · exact hv.supplies_of_lacks hp (List.nil_perm.mp (hnone ▸ hperm))
  · exact List.perm_nil.mp (hsupplies.lacks_eq_nil hp ▸ hperm)

/-- The pack has the copies for one deck of each kind, but not for the hounds twice. -/
theorem checkIndependence_supplies_binder :
    (∃ report, binder.checkIndependence ⟨0⟩ [⟨1⟩, ⟨2⟩] = .ok report ∧
      report.shortfalls = [] ∧ binder.Supplies ⟨0⟩ [⟨1⟩, ⟨2⟩]) ∧
    ∃ report, binder.checkIndependence ⟨0⟩ [⟨1⟩, ⟨2⟩, ⟨1⟩] = .ok report ∧
      report.shortfalls.Perm [⟨"Dog", some "Jyhad", 3, 2⟩, ⟨"Dog", none, 5, 3⟩] ∧
      ¬ binder.Supplies ⟨0⟩ [⟨1⟩, ⟨2⟩, ⟨1⟩] := by
  constructor
  · obtain ⟨report, hreport, hiff, hperm⟩ := valid_binder.checkIndependence_supplies
      inPlace_binder ⟨0⟩ [⟨1⟩, ⟨2⟩] (by decide) (by decide +kernel)
    have hlacks : binder.lacks ⟨0⟩ [⟨1⟩, ⟨2⟩] = [] := by decide +kernel
    have hnone := List.perm_nil.mp (hlacks ▸ hperm)
    exact ⟨report, hreport, hnone, hiff.mp hnone⟩
  · obtain ⟨report, hreport, hiff, hperm⟩ := valid_binder.checkIndependence_supplies
      inPlace_binder ⟨0⟩ [⟨1⟩, ⟨2⟩, ⟨1⟩] (by decide) (by decide +kernel)
    have hlacks : binder.lacks ⟨0⟩ [⟨1⟩, ⟨2⟩, ⟨1⟩] =
        [⟨"Dog", some "Jyhad", 3, 2⟩, ⟨"Dog", none, 5, 3⟩] := by decide +kernel
    rw [hlacks] at hperm
    refine ⟨report, hreport, hperm, fun hsupplies => ?_⟩
    rw [hiff.mpr hsupplies] at hperm
    exact List.cons_ne_nil _ _ (List.nil_perm.mp hperm)

end Database
end CardBinder
