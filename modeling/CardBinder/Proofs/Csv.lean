import CardBinder.Csv
import CardBinder.Proofs.Text.Integer
import Mathlib.Algebra.GroupWithZero.Nat
import Mathlib.Algebra.Order.BigOperators.Group.List
import Mathlib.Algebra.Order.Group.Nat

/-! Tables read back: a reader of comma separated values, and the tables it reads as they were made. -/

namespace CardBinder.Csv
variable {c : Char} {cs : List Char} {s : String} {fields : List String}
  {records : List (List String)}

/-! What is written -/

/-- A text that has a CR has something else that puts it in quotes. -/
def Closed (s : String) : Prop :=
  '\r' ∈ s.toList → s.toList.any needsQuotes

theorem ne_of_needsQuotes (h : needsQuotes c = false) : c ≠ ',' ∧ c ≠ '"' ∧ c ≠ '\n' := by
  simpa [needsQuotes, and_assoc] using h

theorem toList_field (s : String) : (field s).toList = fieldChars s.toList := by
  rw [field, String.toList_ofList]

theorem toList_record_singleton (s : String) :
    (record [s]).toList = (field s).toList ++ ['\n'] := by
  rw [record, List.map_singleton, Text.join, String.intercalate_singleton, String.toList_append]
  rfl

theorem toList_record_cons (s s' : String) (fields : List String) :
    (record (s :: s' :: fields)).toList =
      (field s).toList ++ ',' :: (record (s' :: fields)).toList := by
  simp only [record, List.map_cons, Text.join, String.intercalate_cons_cons, String.toList_append,
    List.append_assoc]
  rfl

/-! The reader -/

/-- Where a reader stands. -/
inductive Place where
  /-- In front of a field. -/
  | start
  /-- Behind a CR that ended a record; an LF there belongs to it. -/
  | afterReturn
  /-- In a field without quotes. -/
  | bare
  | quoted
  /-- Behind a quote in a quoted field, which ends it unless another one follows. -/
  | closing
  deriving DecidableEq

/-- The records that were read, the fields of the next one, and what was read of the next field. -/
structure Reading where
  records : List (List String)
  fields : List String
  chars : List Char
  place : Place

namespace Reading

def blank : Reading := ⟨[], [], [], .start⟩

def take (r : Reading) (c : Char) (place : Place) : Reading :=
  { r with chars := r.chars ++ [c], place }

/-- The fields of a record that ends here. -/
def lastRecord (r : Reading) : List String :=
  r.fields ++ [String.ofList r.chars]

def endField (r : Reading) : Reading :=
  { r with fields := r.lastRecord, chars := [], place := .start }

def endRecord (r : Reading) (place : Place) : Reading :=
  ⟨r.records ++ [r.lastRecord], [], [], place⟩

/-- A comma ends a field; an LF, a CR or both together end a record. -/
def separate? (r : Reading) (c : Char) : Option Reading :=
  if c = ',' then some r.endField
  else if c = '\n' then some (r.endRecord .start)
  else if c = '\r' then some (r.endRecord .afterReturn)
  else none

/-- Without quotes, what does not end a field stands for itself. -/
def plain (r : Reading) (c : Char) : Reading :=
  (r.separate? c).getD (r.take c .bare)

/-- One more character. A quote in a field without quotes, or text behind a closing quote, cannot be
read. -/
def step (r : Reading) (c : Char) : Option Reading :=
  match r.place with
  | .start => some (if c = '"' then { r with place := .quoted } else r.plain c)
  | .afterReturn =>
    some (if c = '\n' then { r with place := .start }
      else if c = '"' then { r with place := .quoted }
      else r.plain c)
  | .bare => if c = '"' then none else some (r.plain c)
  | .quoted => some (if c = '"' then { r with place := .closing } else r.take c .quoted)
  | .closing => if c = '"' then some (r.take c .quoted) else r.separate? c

def run (r : Reading) (cs : List Char) : Option Reading :=
  cs.foldlM step r

/-- All records, when the text ends here; the last one needs no end of line. -/
def finish (r : Reading) : Option (List (List String)) :=
  match r.place with
  | .quoted => none
  | .bare | .closing => some (r.records ++ [r.lastRecord])
  | .start | .afterReturn =>
    some (if r.fields.isEmpty then r.records else r.records ++ [r.lastRecord])

end Reading

/-- The records of a text: a field that starts with a quote ends at the next one that is not doubled, and
all others end at a comma or at the end of the line. -/
def read (text : String) : Option (List (List String)) :=
  (Reading.blank.run text.toList).bind Reading.finish

example : read "a,\"b \"\"c\"\", d\"\r\n\r,e" = some [["a", "b \"c\", d"], [""], ["", "e"]] := by
  decide +kernel

namespace Reading
variable {r : Reading}

@[simp] theorem run_nil (r : Reading) : r.run [] = some r := rfl

@[simp] theorem run_cons (r : Reading) (c : Char) (cs : List Char) :
    r.run (c :: cs) = (r.step c).bind (·.run cs) := rfl

@[simp] theorem run_append (r : Reading) (cs cs' : List Char) :
    r.run (cs ++ cs') = (r.run cs).bind (·.run cs') := by
  rw [run, List.foldlM_append]
  rfl

/-- Unless the reader is between quotes, a comma ends the field. -/
theorem step_comma (h : r.place ≠ .quoted) : r.step ',' = some r.endField := by
  rw [step]
  cases hplace : r.place with
  | quoted => exact absurd hplace h
  | start => rfl
  | afterReturn => rfl
  | bare => rfl
  | closing => rfl

theorem step_lineFeed (h : r.place ≠ .quoted) (h' : r.place ≠ .afterReturn) :
    r.step '\n' = some (r.endRecord .start) := by
  rw [step]
  cases hplace : r.place with
  | quoted => exact absurd hplace h
  | afterReturn => exact absurd hplace h'
  | start => rfl
  | bare => rfl
  | closing => rfl

/-- Without quotes a character stands for itself, but for a CR, which ends the record. -/
theorem step_unquoted (h : r.place ≠ .quoted) (h' : r.place ≠ .closing)
    (hc : needsQuotes c = false) :
    r.step c = some (if c = '\r' then r.endRecord .afterReturn else r.take c .bare) := by
  obtain ⟨hcomma, hquote, hfeed⟩ := ne_of_needsQuotes hc
  have hplain : r.plain c = if c = '\r' then r.endRecord .afterReturn else r.take c .bare := by
    rw [plain, separate?, if_neg hcomma, if_neg hfeed]
    split <;> rfl
  rw [← hplain]
  cases hplace : r.place with
  | quoted => exact absurd hplace h
  | closing => exact absurd hplace h'
  | start => simp [step, hplace, hquote]
  | afterReturn => simp [step, hplace, hquote, hfeed]
  | bare => simp [step, hplace, hquote]

/-- Between quotes every character stands for itself, and two quotes for one. -/
theorem run_doubled (h : r.place = .quoted) (cs : List Char) :
    r.run (cs.flatMap fun c => if c == '"' then ['"', '"'] else [c]) =
      some { r with chars := r.chars ++ cs } := by
  induction cs generalizing r with
  | nil => simp
  | cons c cs ih =>
    have htake : (r.take c .quoted).run (cs.flatMap fun c => if c == '"' then ['"', '"'] else [c]) =
        some { r with chars := r.chars ++ c :: cs } := by
      rw [ih rfl]
      simp [take, h]
    by_cases hc : c = '"'
    · subst c
      simpa [step, h, take] using htake
    · simpa [step, h, hc] using htake

theorem run_quoted (h : r.place = .start) (cs : List Char) :
    r.run (quoted cs) = some { r with chars := r.chars ++ cs, place := .closing } := by
  have hopen : r.step '"' = some { r with place := .quoted } := by
    rw [step, h]
    rfl
  rw [quoted, List.cons_append, run_cons, hopen, Option.bind_some, run_append, run_doubled rfl]
  rfl

/-! Fields in quotes, and fields without a CR, are read as they were written -/

theorem run_plain (h : r.place = .start ∨ r.place = .bare)
    (hcs : ∀ c ∈ cs, needsQuotes c = false) (hreturn : '\r' ∉ cs) :
    ∃ place, (place = .start ∨ place = .bare) ∧
      r.run cs = some { r with chars := r.chars ++ cs, place } := by
  induction cs generalizing r with
  | nil => exact ⟨r.place, h, by simp⟩
  | cons c cs ih =>
    obtain ⟨hc, hcs⟩ := List.forall_mem_cons.mp hcs
    obtain ⟨hne, hnot⟩ := not_or.mp (mt List.mem_cons.mpr hreturn)
    obtain ⟨place, hplace, hrun⟩ := ih (r := r.take c .bare) (.inr rfl) hcs hnot
    have hstep : r.step c = some (r.take c .bare) := by
      rw [step_unquoted ?_ ?_ hc, if_neg (Ne.symm hne)]
      all_goals rcases h with h | h <;> simp [h]
    refine ⟨place, hplace, ?_⟩
    rw [run_cons, hstep, Option.bind_some, hrun]
    simp [take]

theorem run_field (h : r.place = .start) (hs : Closed s) :
    ∃ place, place ≠ .quoted ∧ place ≠ .afterReturn ∧
      r.run (field s).toList = some { r with chars := r.chars ++ s.toList, place } := by
  rw [toList_field, fieldChars]
  split
  · exact ⟨.closing, by decide, by decide, run_quoted h s.toList⟩
  · rename_i hplain
    obtain ⟨place, hplace, hrun⟩ := run_plain (.inl h) (by simpa using hplain) (mt hs hplain)
    refine ⟨place, ?_, ?_, hrun⟩ <;> rcases hplace with rfl | rfl <;> decide

theorem run_record (hne : fields ≠ []) (h : r.place = .start) (hempty : r.chars = [])
    (hfields : ∀ s ∈ fields, Closed s) :
    r.run (record fields).toList = some ⟨r.records ++ [r.fields ++ fields], [], [], .start⟩ := by
  induction fields generalizing r with
  | nil => exact absurd rfl hne
  | cons s fields ih =>
    obtain ⟨hs, hfields⟩ := List.forall_mem_cons.mp hfields
    obtain ⟨place, hquoted, hreturn, hrun⟩ := run_field h hs
    cases fields with
    | nil =>
      rw [toList_record_singleton, run_append, hrun, Option.bind_some, run_cons,
        step_lineFeed hquoted hreturn]
      simp [endRecord, lastRecord, hempty]
    | cons s' fields =>
      rw [toList_record_cons, run_append, hrun, Option.bind_some, run_cons, step_comma hquoted,
        Option.bind_some, ih (List.cons_ne_nil _ _) rfl rfl hfields]
      simp [endField, lastRecord, hempty]

theorem run_records (hne : ∀ fields ∈ records, fields ≠ [])
    (hclosed : ∀ fields ∈ records, ∀ s ∈ fields, Closed s) (before : List (List String)) :
    run ⟨before, [], [], .start⟩ (records.flatMap fun fields => (record fields).toList) =
      some ⟨before ++ records, [], [], .start⟩ := by
  induction records generalizing before with
  | nil => simp
  | cons fields records ih =>
    obtain ⟨hfields, hne⟩ := List.forall_mem_cons.mp hne
    obtain ⟨hs, hclosed⟩ := List.forall_mem_cons.mp hclosed
    rw [List.flatMap_cons, run_append, run_record hfields rfl rfl hs, Option.bind_some,
      ih hne hclosed]
    simp

/-! Any other CR is lost: what is read has fewer of them than what was written -/

/-- How often a CR stands in what was read. -/
def returns (r : Reading) : Nat :=
  ((r.records.flatten ++ r.fields).flatMap String.toList ++ r.chars).count '\r'

/-- How often a CR of a text is kept when the text is written and read. -/
def keptReturns (s : String) : Nat :=
  if s.toList.any needsQuotes then s.toList.count '\r' else 0

theorem keptReturns_le (s : String) : keptReturns s ≤ s.toList.count '\r' := by
  rw [keptReturns]
  split
  · exact Nat.le_refl _
  · exact Nat.zero_le _

theorem returns_take (r : Reading) (c : Char) (place : Place) :
    (r.take c place).returns = r.returns + [c].count '\r' := by
  simp only [returns, take, ← List.append_assoc, List.count_append]

theorem returns_endField (r : Reading) : r.endField.returns = r.returns := by
  simp [returns, endField, lastRecord, List.count_append]

theorem returns_endRecord (r : Reading) (place : Place) :
    (r.endRecord place).returns = r.returns := by
  simp [returns, endRecord, lastRecord, List.count_append]

theorem returns_run_unquoted (h : r.place ≠ .quoted) (h' : r.place ≠ .closing)
    (hcs : ∀ c ∈ cs, needsQuotes c = false) :
    ∃ r', r.run cs = some r' ∧ r'.place ≠ .quoted ∧ r'.returns = r.returns := by
  induction cs generalizing r with
  | nil => exact ⟨r, rfl, h, rfl⟩
  | cons c cs ih =>
    obtain ⟨hc, hcs⟩ := List.forall_mem_cons.mp hcs
    obtain ⟨r₁, hr₁⟩ : ∃ r₁, r₁ = if c = '\r' then r.endRecord .afterReturn else r.take c .bare :=
      ⟨_, rfl⟩
    have hplace : (r₁.place ≠ .quoted ∧ r₁.place ≠ .closing) ∧ r₁.returns = r.returns := by
      rw [hr₁]
      split
      · exact ⟨by simp [endRecord], returns_endRecord r _⟩
      · rename_i hne
        exact ⟨by simp [take], by simp [returns_take, hne]⟩
    obtain ⟨⟨hquoted, hclosing⟩, hsame⟩ := hplace
    obtain ⟨r', hrun, hplace, hrest⟩ := ih hquoted hclosing hcs
    exact ⟨r', by rw [run_cons, step_unquoted h h' hc, ← hr₁, Option.bind_some, hrun], hplace,
      hrest.trans hsame⟩

theorem returns_run_field (h : r.place = .start) (s : String) :
    ∃ r', r.run (field s).toList = some r' ∧ r'.place ≠ .quoted ∧
      r'.returns = r.returns + keptReturns s := by
  rw [toList_field, fieldChars, keptReturns]
  split
  · refine ⟨_, run_quoted h s.toList, by simp, ?_⟩
    simp only [returns, ← List.append_assoc, List.count_append]
  · rename_i hplain
    exact returns_run_unquoted (by simp [h]) (by simp [h]) (by simpa using hplain)

/-- Unless the reader is between quotes, an LF puts it in front of the next record. -/
theorem returns_step_lineFeed (h : r.place ≠ .quoted) :
    ∃ r', r.step '\n' = some r' ∧ r'.place = .start ∧ r'.returns = r.returns := by
  by_cases hreturn : r.place = .afterReturn
  · refine ⟨{ r with place := .start }, ?_, rfl, rfl⟩
    rw [step, hreturn]
    rfl
  · exact ⟨_, step_lineFeed h hreturn, rfl, returns_endRecord r _⟩

theorem returns_run_record (hne : fields ≠ []) (h : r.place = .start) :
    ∃ r', r.run (record fields).toList = some r' ∧ r'.place = .start ∧
      r'.returns = r.returns + (fields.map keptReturns).sum := by
  induction fields generalizing r with
  | nil => exact absurd rfl hne
  | cons s fields ih =>
    obtain ⟨r₁, hrun, hquoted, hreturns⟩ := returns_run_field h s
    cases fields with
    | nil =>
      obtain ⟨r', hstep, hplace, hsame⟩ := returns_step_lineFeed hquoted
      refine ⟨r', ?_, hplace, by simp [hsame, hreturns]⟩
      rw [toList_record_singleton, run_append, hrun, Option.bind_some, run_cons, hstep]
      rfl
    | cons s' fields =>
      obtain ⟨r', hrest, hplace, hsame⟩ := ih (List.cons_ne_nil _ _) (r := r₁.endField) rfl
      refine ⟨r', ?_, hplace, ?_⟩
      · rw [toList_record_cons, run_append, hrun, Option.bind_some, run_cons, step_comma hquoted,
          Option.bind_some, hrest]
      · rw [hsame, returns_endField, hreturns, List.map_cons (l := s' :: fields), List.sum_cons,
          Nat.add_assoc]

theorem returns_run_records (hne : ∀ fields ∈ records, fields ≠ []) (h : r.place = .start) :
    ∃ r', r.run (records.flatMap fun fields => (record fields).toList) = some r' ∧
      r'.returns = r.returns + (records.flatten.map keptReturns).sum := by
  induction records generalizing r with
  | nil => exact ⟨r, rfl, rfl⟩
  | cons fields records ih =>
    obtain ⟨hfields, hne⟩ := List.forall_mem_cons.mp hne
    obtain ⟨r₁, hrun, hplace, hreturns⟩ := returns_run_record hfields h
    obtain ⟨r', hrest, hsame⟩ := ih hne hplace
    refine ⟨r', by rw [List.flatMap_cons, run_append, hrun, Option.bind_some, hrest], ?_⟩
    rw [hsame, hreturns, List.flatten_cons, List.map_append, List.sum_append, Nat.add_assoc]

theorem returns_finish (h : r.finish = some records) :
    (records.flatten.flatMap String.toList).count '\r' ≤ r.returns := by
  have hall : ((r.records ++ [r.lastRecord]).flatten.flatMap String.toList).count '\r' =
      r.returns := by
    simp [returns, lastRecord, List.count_append]
  have hsome : (r.records.flatten.flatMap String.toList).count '\r' ≤ r.returns := by
    rw [← hall, List.flatten_append, List.flatMap_append, List.count_append]
    exact Nat.le_add_right _ _
  rw [finish] at h
  split at h
  · cases h
  · obtain rfl := Option.some.inj h
    exact hall.le
  · obtain rfl := Option.some.inj h
    exact hall.le
  all_goals
    obtain rfl := Option.some.inj h
    split
    · exact hsome
    · exact hall.le

end Reading

/-- Records with at least one field each are read as they were written exactly when every field with a
CR is put in quotes. -/
theorem read_records_iff (hne : ∀ fields ∈ records, fields ≠ []) {text : String}
    (htext : text.toList = records.flatMap fun fields => (record fields).toList) :
    read text = some records ↔ ∀ fields ∈ records, ∀ s ∈ fields, Closed s := by
  rw [read, htext]
  constructor
  · intro hread
    obtain ⟨r, hrun, hkept⟩ := Reading.returns_run_records hne (r := .blank) rfl
    rw [hrun, Option.bind_some] at hread
    have hle := Reading.returns_finish hread
    rw [hkept, List.count_flatMap] at hle
    intro fields hfields s hs hreturn
    by_contra hplain
    -- this CR is not kept, and would be missing in the sum
    have hlt : (records.flatten.map Reading.keptReturns).sum <
        (records.flatten.map (List.count '\r' ∘ String.toList)).sum := by
      refine List.sum_lt_sum _ _ (fun s _ => Reading.keptReturns_le s)
        ⟨s, List.mem_flatten_of_mem hfields hs, ?_⟩
      rw [Reading.keptReturns, if_neg hplain]
      exact List.count_pos_iff.mpr hreturn
    exact absurd hle (Nat.not_le_of_lt (by simpa [Reading.returns, Reading.blank] using hlt))
  · intro hclosed
    rw [Reading.blank, Reading.run_records hne hclosed]
    rfl

/-! Tables -/

/-- The titles, and each card with its values. -/
def tableRecords (columns : List String) (rows : List (String × List Int)) : List (List String) :=
  (cardNameTitle :: columns) :: rows.map fun (name, values) => name :: values.map toString

theorem toList_table (columns : List String) (rows : List (String × List Int)) :
    (table columns rows).toList =
      (tableRecords columns rows).flatMap fun fields => (record fields).toList := by
  rw [table, tableRecords, String.toList_append, String.toList_join, List.flatMap_cons,
    List.flatMap_map, List.flatMap_map]

theorem closed_toString (n : Int) : Closed (toString n) := by
  intro hreturn
  rcases Text.minus_or_isDigit_of_mem_toString hreturn with h | h <;> cases h

/-- A table is read as it was made exactly when every title and every name with a CR has a comma, a
quote or a line feed as well. -/
theorem read_table_iff (columns : List String) (rows : List (String × List Int)) :
    read (table columns rows) = some (tableRecords columns rows) ↔
      ∀ s ∈ columns ++ rows.map Prod.fst, '\r' ∈ s.toList → s.toList.any needsQuotes := by
  have hne : ∀ fields ∈ tableRecords columns rows, fields ≠ [] := by
    intro fields hfields
    rcases List.mem_cons.mp hfields with rfl | hfields
    · exact List.cons_ne_nil _ _
    · obtain ⟨row, _, rfl⟩ := List.mem_map.mp hfields
      exact List.cons_ne_nil _ _
  rw [read_records_iff hne (toList_table columns rows)]
  constructor
  · intro hclosed s hs
    rcases List.mem_append.mp hs with hs | hs
    · exact hclosed _ List.mem_cons_self s (List.mem_cons_of_mem _ hs)
    · obtain ⟨row, hrow, rfl⟩ := List.mem_map.mp hs
      exact hclosed _ (List.mem_cons_of_mem _ (List.mem_map_of_mem hrow)) _ List.mem_cons_self
  · intro hclosed fields hfields s hs
    rcases List.mem_cons.mp hfields with rfl | hfields
    · rcases List.mem_cons.mp hs with rfl | hs
      · exact fun hreturn => absurd hreturn (by decide)
      · exact hclosed s (List.mem_append_left _ hs)
    · obtain ⟨row, hrow, rfl⟩ := List.mem_map.mp hfields
      rcases List.mem_cons.mp hs with rfl | hs
      · exact hclosed _ (List.mem_append_right _ (List.mem_map_of_mem hrow))
      · obtain ⟨n, _, rfl⟩ := List.mem_map.mp hs
        exact closed_toString n

/-- A CR in a name that nothing else puts in quotes ends the line. -/
theorem not_read_table_return : ¬ ∀ (columns : List String) (rows : List (String × List Int)),
    (∀ row ∈ rows, row.2.length = columns.length) →
      read (table columns rows) = some (tableRecords columns rows) := by
  intro hall
  have hread : read (table ["group"] [("Dog\rCat", [1])]) =
      some [["Card Name", "group"], ["Dog"], ["Cat", "1"]] := by decide +kernel
  have hsame := hall ["group"] [("Dog\rCat", [1])] (by decide)
  rw [hread] at hsame
  exact absurd hsame (by decide +kernel)

end CardBinder.Csv
