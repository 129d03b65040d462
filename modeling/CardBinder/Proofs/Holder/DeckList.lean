import CardBinder.Proofs.Holder.DeckLine
import CardBinder.Proofs.Holder.Staging
import CardBinder.Proofs.Outcome
import CardBinder.Proofs.Text.Cut

/-! Deck lists decode to the copies they were written for: counts of one card add up, as long as they fit. -/

namespace CardBinder
variable {lines : List String} {entries order : List DeckEntry} {line : String}

/-- How many copies of a printing the entries of a list come to. -/
def copiesOf (key : NamedPrinting) (entries : List DeckEntry) : Nat :=
  countSum (entries.map fun e => if e.printing == key then e.count else 0)

theorem copiesOf_perm (h : order.Perm entries) (key : NamedPrinting) :
    copiesOf key order = copiesOf key entries := by
  refine (h.map _).foldr_eq' ?_ 0
  intros
  omega

theorem copiesOf_le (key : NamedPrinting) (entries : List DeckEntry) :
    copiesOf key entries ≤ countSum (entries.map (·.count)) := by
  induction entries with
  | nil => exact Nat.le_refl 0
  | cons e entries ih =>
    have hle : (if e.printing == key then e.count else 0) ≤ e.count := by
      split
      · exact Nat.le_refl _
      · exact Nat.zero_le _
    exact Nat.add_le_add hle ih

namespace Holder
variable {h : Holder}

/-- Entries are staged one by one, as long as their counts fit. -/
def stageEntries (h : Holder) (entries : List DeckEntry) : Outcome Holder :=
  entries.foldlM (fun h e => h.add e.count e.name e.expansion) h

/-- Staging an entry changes nothing but the entries. -/
theorem stageEntries_same {h' : Holder} (hok : h.stageEntries entries = .ok h') :
    h' = { h with entries := h'.entries } := by
  induction entries generalizing h with
  | nil => obtain rfl := Except.ok.inj hok; rfl
  | cons e entries ih =>
    obtain ⟨h₁, hadd, hrest⟩ := Outcome.bind_ok (List.foldlM_cons.symm.trans hok)
    have hsame : h₁ = { h with entries := h₁.entries } := by
      rw [add, if_neg (Nat.ne_of_gt e.pos)] at hadd
      split at hadd
      · cases hadd
      · obtain rfl := Except.ok.inj hadd
        rfl
    rw [ih hrest, hsame]

/-- Either all counts fit and are added up, or one does not and that is reported. -/
theorem stageEntries_cases (hw : h.Within) (entries : List DeckEntry) :
    (∃ t : Tally NamedPrinting, h.stageEntries entries = .ok { h with entries := t } ∧ t.Proper ∧
      ∀ key, t.count key = h.entries.count key + copiesOf key entries ∧
        t.count key ≤ Text.maxCount) ∨
    (∃ key, Text.maxCount < h.entries.count key + copiesOf key entries) ∧
      ∃ reason, h.stageEntries entries = .error (.invalidRequest reason) := by
  have hstep : ∀ h (e : DeckEntry), Within h → (¬ False ∧ ∃ h', h.add e.count e.name e.expansion = .ok h' ∧
        Stages h (fun key => if e.printing == key then e.count else 0) e.count h') ∨
      (False ∨ ∃ key, Text.maxCount < h.entries.count key + if e.printing == key then e.count else 0) ∧
        ∃ reason, h.add e.count e.name e.expansion = .error (.invalidRequest reason) := by
    intro h e hw
    rcases hw.add_cases e.count e.name e.expansion with ⟨h', hok, _, hstages⟩ | ⟨hover, herror⟩
    · exact .inl ⟨not_false, h', hok, hstages⟩
    · refine .inr ⟨.inr ⟨e.printing, ?_⟩, herror⟩
      rwa [beq_self_eq_true, if_pos rfl]
  rcases hw.foldlM_cases hstep entries with ⟨_, h', hok, hstages⟩ | ⟨hover, herror⟩
  · have hsame := stageEntries_same hok
    exact .inl ⟨h'.entries, hsame ▸ hok, hstages.within.proper,
      fun key => ⟨hstages.counts key, hstages.within.fits key⟩⟩
  · refine .inr ⟨?_, herror⟩
    rcases hover with ⟨_, _, hno⟩ | hover
    · cases hno
    · exact hover

end Holder

/-! Lists of lines -/

/-- A line that says nothing: blank, or a comment. -/
structure Silent (line : String) : Prop where
  oneLine : '\n' ∉ line.toList
  quiet : Text.trim line = "" ∨ (Text.trim line).toList.head? = some '#'

theorem Silent.addLine (hs : Silent line) (h : Holder) :
    h.addLine (Text.trimChars line.toList) = .ok h := by
  have hquiet := hs.quiet
  rw [Text.trim, String.toList_ofList] at hquiet
  rcases hquiet with hblank | hcomment
  · rw [String.ofList_eq_empty_iff.mp hblank]
    rfl
  · obtain ⟨rest, hrest⟩ := List.head?_eq_some_iff.mp hcomment
    rw [hrest]
    rfl

/-- A line for each entry, with silent lines anywhere among them. -/
inductive Lists : List String → List DeckEntry → Prop
  | nil : Lists [] []
  | entry {lines : List String} {entries : List DeckEntry} (e : DeckEntry) :
      Lists lines entries → Lists (e.line :: lines) (e :: entries)
  | silent {line : String} {lines : List String} {entries : List DeckEntry} :
      Silent line → Lists lines entries → Lists (line :: lines) entries

theorem Lists.oneLine (hl : Lists lines entries) : ∀ line ∈ lines, '\n' ∉ line.toList := by
  induction hl with
  | nil => simp
  | entry e _ ih => exact List.forall_mem_cons.mpr ⟨e.notMem_line, ih⟩
  | silent hs _ ih => exact List.forall_mem_cons.mpr ⟨hs.oneLine, ih⟩

/-- Reading the lines is staging the entries. -/
theorem Lists.foldlM_addLine (hl : Lists lines entries) (h : Holder) :
    (lines.map fun line => Text.trimChars line.toList).foldlM Holder.addLine h =
      h.stageEntries entries := by
  induction hl generalizing h with
  | nil => rfl
  | entry e _ ih =>
    rw [List.map_cons, List.foldlM_cons, e.addLine_line, Holder.stageEntries, List.foldlM_cons]
    exact congrArg _ (funext ih)
  | silent hs _ ih =>
    rw [List.map_cons, List.foldlM_cons, hs.addLine]
    exact ih h

namespace Holder

theorem ofDeckList_join (hl : Lists lines entries) :
    ofDeckList (Text.join "\n" lines) = empty.stageEntries entries := by
  have hlines : Text.splitChars '\n' (Text.join "\n" lines).toList = lines.map String.toList ∨
      lines = [] := by
    by_cases hne : lines = []
    · exact .inr hne
    · have hsep : "\n".toList = ['\n'] := rfl
      have hsplit := congrArg (List.map String.toList) (Text.split_join hsep hne hl.oneLine)
      refine .inl ?_
      rw [← hsplit, Text.split, List.map_map]
      simp [Function.comp_def]
  rcases hlines with hlines | rfl
  · rw [ofDeckList, hlines, List.map_map]
    exact hl.foldlM_addLine empty
  · cases hl
    rfl

/-- A deck list that was written for some entries, in any order, is read as a holder of these entries
and nothing else; and it is refused when the copies of one printing are too many for one count. -/
theorem ofDeckList_lists (hl : Lists lines order) (hperm : order.Perm entries) :
    ((∀ key, copiesOf key entries ≤ Text.maxCount) → ∃ t : Tally NamedPrinting,
      ofDeckList (Text.join "\n" lines) = .ok { empty with entries := t } ∧ t.Proper ∧
        ∀ key n, (key, n) ∈ t.entries ↔ n = copiesOf key entries ∧ 0 < n) ∧
    ((∃ key, Text.maxCount < copiesOf key entries) → ∃ reason,
      ofDeckList (Text.join "\n" lines) = .error (.invalidRequest reason)) := by
  have hnone : ∀ key, empty.entries.count key = 0 := fun _ => rfl
  have hcases := stageEntries_cases within_empty order
  simp only [hnone, Nat.zero_add, copiesOf_perm hperm] at hcases
  rw [ofDeckList_join hl]
  rcases hcases with ⟨t, hok, hproper, hcount⟩ | ⟨⟨key, hmany⟩, reason, herror⟩
  · refine ⟨fun _ => ⟨t, hok, hproper, fun key n => ?_⟩, ?_⟩
    · rw [hproper.mem_entries_iff, ← hproper.count_eq, (hcount key).1]
    · rintro ⟨key, hmany⟩
      have hfit := (hcount key).2
      rw [(hcount key).1] at hfit
      exact absurd hfit (Nat.not_le_of_lt hmany)
  · refine ⟨fun hfit => ?_, fun _ => ⟨reason, herror⟩⟩
    exact absurd (hfit key) (Nat.not_le_of_lt hmany)

/-- A card whose name starts like a line and looks like a detail and a bracket. -/
def mouse : DeckEntry where
  count := 1
  name := "3 x Name: Mice]"
  expansion := none
  pos := by decide
  fits := by decide
  neat := ⟨by decide, by decide +kernel⟩
  plain := by decide
  expansionNeat := by simp
  expansionPlain := by simp

def twoMice : DeckEntry := { mouse with count := 2, pos := by decide, fits := by decide }

def threeMice : DeckEntry := { mouse with count := 3, pos := by decide, fits := by decide }

/-- As many copies as one count can say. -/
def allMice : DeckEntry :=
  { mouse with count := Text.maxCount, pos := by decide, fits := Nat.le_refl _ }

/-- A card whose name is a letter that can follow a count. -/
def letter : DeckEntry where
  count := 1
  name := "x"
  expansion := some "A [b"
  pos := by decide
  fits := by decide
  neat := ⟨by decide, by decide +kernel⟩
  plain := by decide
  expansionNeat x hx := Option.mem_some.mp hx ▸ ⟨by decide, by decide +kernel⟩
  expansionPlain x hx := Option.mem_some.mp hx ▸ by decide

theorem ofDeckList_lists_mice :
    (∃ t : Tally NamedPrinting,
      ofDeckList "# Cats\n2x 3 x Name: Mice]\n \n1x x [A [b]\n3x 3 x Name: Mice]" =
        .ok { empty with entries := t } ∧ (⟨"3 x Name: Mice]", none⟩, 5) ∈ t.entries) ∧
    ∃ reason, ofDeckList "4294967295x 3 x Name: Mice]\n1x 3 x Name: Mice]" =
      .error (.invalidRequest reason) := by
  constructor
  · have hcomment : Silent "# Cats" := ⟨by decide, .inr (by decide +kernel)⟩
    have hblank : Silent " " := ⟨by decide, .inl (by decide +kernel)⟩
    have hlines : Lists ["# Cats", twoMice.line, " ", letter.line, threeMice.line]
        [twoMice, letter, threeMice] :=
      .silent hcomment (.entry twoMice (.silent hblank (.entry letter (.entry threeMice .nil))))
    have hperm : [twoMice, letter, threeMice].Perm [letter, twoMice, threeMice] := .swap _ _ _
    have hfit : ∀ key, copiesOf key [letter, twoMice, threeMice] ≤ Text.maxCount :=
      fun key => (copiesOf_le key _).trans (by decide)
    obtain ⟨t, hok, -, hcounts⟩ := (ofDeckList_lists hlines hperm).1 hfit
    have htext : Text.join "\n" ["# Cats", twoMice.line, " ", letter.line, threeMice.line] =
        "# Cats\n2x 3 x Name: Mice]\n \n1x x [A [b]\n3x 3 x Name: Mice]" := by
      decide +kernel
    rw [htext] at hok
    exact ⟨t, hok, (hcounts _ _).mpr ⟨by decide +kernel, by decide⟩⟩
  · have hlines : Lists [allMice.line, mouse.line] [allMice, mouse] :=
      .entry allMice (.entry mouse .nil)
    have hover : Text.maxCount < copiesOf mouse.printing [allMice, mouse] := by decide +kernel
    obtain ⟨reason, hrefused⟩ := (ofDeckList_lists hlines (.refl _)).2 ⟨_, hover⟩
    have htext : Text.join "\n" [allMice.line, mouse.line] =
        "4294967295x 3 x Name: Mice]\n1x 3 x Name: Mice]" := by
      decide +kernel
    rw [htext] at hrefused
    exact ⟨reason, hrefused⟩

end Holder
end CardBinder
