import CardBinder.Proofs.Like.Expression
import Mathlib.Algebra.GroupWithZero.Nat
import Mathlib.Data.List.Sort

/-! Patterns of ASCII characters are not too large unless they are very long. -/

namespace CardBinder

namespace Text

/-- The runs of characters that are folded to ASCII characters. -/
def asciiRuns : List CaseRun :=
  [⟨0x41, 0x5A, 1, 0x61⟩, ⟨0x17F, 0x17F, 1, 0x73⟩, ⟨0x212A, 0x212A, 1, 0x6B⟩]

theorem filter_foldRuns : foldRuns.filter (·.target < 128) = asciiRuns := rfl

theorem filterMap_source {c : Char} (h : c.toNat < 128) :
    foldRuns.filterMap (·.source? c) = asciiRuns.filterMap (·.source? c) := by
  rw [← filter_foldRuns, List.filterMap_filter]
  refine List.filterMap_congr fun run _ => ?_
  split
  · rfl
  · rename_i htarget
    have hfar : ¬ run.target ≤ c.toNat := by
      simp only [decide_eq_true_eq] at htarget
      omega
    simp [CaseRun.source?, hfar]

/-- The characters alike to an ASCII one, put in order one by one. -/
theorem variants_ascii {c : Char} (h : (foldChar c).toNat < 128) : variants c =
    ((foldChar c :: asciiRuns.filterMap (·.source? (foldChar c))).eraseDups.filter (alike c)).insertionSort
      fun a b => a.toNat ≤ b.toNat := by
  have : Std.Total fun a b : Char => a.toNat ≤ b.toNat := ⟨fun a b => Nat.le_total a.toNat b.toNat⟩
  have : IsTrans Char fun a b => a.toNat ≤ b.toNat := ⟨fun _ _ _ => Nat.le_trans⟩
  have : Std.Antisymm fun a b : Char => a.toNat ≤ b.toNat :=
    ⟨fun _ _ h h' => Char.toNat_inj.mp (Nat.le_antisymm h h')⟩
  rw [← filterMap_source h]
  exact List.mergeSort_eq_insertionSort _ _

end Text

namespace Like

/-- The most room that one ASCII character of a pattern takes. -/
def asciiSize : Nat := 1004

theorem ofLetter_le (c : Char) (h : c.toNat < 128) :
    (Size.ofLetter c).forward ≤ asciiSize ∧ (Size.ofLetter c).backward ≤ asciiSize := by
  obtain ⟨n, hn, rfl⟩ : ∃ n < 128, c = Char.ofNat n := ⟨_, h, (Char.ofNat_toNat c).symm⟩
  have hfold : ∀ n < 128, (Text.foldChar (Char.ofNat n)).toNat < 128 := by decide +kernel
  rw [Size.ofLetter, Text.variants_ascii (hfold n hn)]
  clear h hfold
  revert n
  decide +kernel

theorem ofItem_le (c : Char) (h : c.toNat < 128) : (Size.ofItem (itemOf c)).forward ≤ asciiSize ∧
    (Size.ofItem (itemOf c)).backward ≤ asciiSize := by
  rw [itemOf]
  split
  · decide +kernel
  · split
    · decide +kernel
    · exact ofLetter_le c h

/-- The room of an expression is the sum of its items' rooms. -/
theorem size_ofRegex (r : Regex) :
    (Size.ofRegex r).forward = Size.frame.forward + (r.map (Size.ofItem · |>.forward)).sum ∧
      (Size.ofRegex r).backward = Size.frame.backward + (r.map (Size.ofItem · |>.backward)).sum := by
  have hfold : ∀ (r : Regex) (total : Size),
      (r.foldl (fun total item => total + Size.ofItem item) total).forward =
          total.forward + (r.map (Size.ofItem · |>.forward)).sum ∧
        (r.foldl (fun total item => total + Size.ofItem item) total).backward =
          total.backward + (r.map (Size.ofItem · |>.backward)).sum := by
    intro r
    induction r with
    | nil => simp
    | cons item r ih =>
      intro total
      obtain ⟨hforward, hbackward⟩ := ih (total + Size.ofItem item)
      refine ⟨hforward.trans ?_, hbackward.trans ?_⟩ <;> rw [List.map_cons, List.sum_cons]
      · exact Nat.add_assoc ..
      · exact Nat.add_assoc ..
  exact hfold r Size.frame

/-- The room that the characters of a pattern take. -/
def room (side : Size → Nat) (cs : List Char) : Nat :=
  (cs.map fun c => side (Size.ofItem (itemOf c))).sum

/-- Two ends and the match take the same room for every pattern. -/
theorem fits_iff (pattern : String) : fits pattern ↔
    192 + room Size.forward pattern.toList ≤ sizeLimit ∧
      128 + room Size.backward pattern.toList ≤ sizeLimit := by
  rw [fits, regex?_eq, Option.any_some, Bool.and_eq_true, decide_eq_true_iff, decide_eq_true_iff,
    (size_ofRegex _).1, (size_ofRegex _).2]
  simp only [List.map_append, List.map_cons, List.map_map, List.map_nil, List.sum_append,
    List.sum_cons, List.sum_nil, room, Function.comp_def, Size.ofItem, Size.both, Size.state, Size.frame,
    List.cons_append]
  omega

theorem room_le {side : Size → Nat} {cs : List Char}
    (h : ∀ c ∈ cs, side (Size.ofItem (itemOf c)) ≤ asciiSize) : room side cs ≤ asciiSize * cs.length := by
  induction cs with
  | nil => simp [room]
  | cons c cs ih =>
    obtain ⟨hc, hcs⟩ := List.forall_mem_cons.mp h
    have hrest := ih hcs
    rw [room] at hrest
    rw [room, List.map_cons, List.sum_cons, List.length_cons, Nat.mul_succ]
    omega

/-- A pattern of at most ten thousand ASCII characters is not refused. -/
theorem fits_of_ascii {pattern : String} (h : pattern.toList.all (·.toNat < 128))
    (hlength : pattern.toList.length ≤ 10000) : fits pattern := by
  have hascii : ∀ c ∈ pattern.toList, c.toNat < 128 := by simpa using h
  have hforward := @room_le Size.forward _ fun c hc => (ofItem_le c (hascii c hc)).1
  have hbackward := @room_le Size.backward _ fun c hc => (ofItem_le c (hascii c hc)).2
  have hlimit : sizeLimit = 10485760 := by decide
  rw [fits_iff]
  simp only [asciiSize] at hforward hbackward
  omega

end Like
end CardBinder
