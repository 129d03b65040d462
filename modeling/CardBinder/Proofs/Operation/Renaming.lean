import CardBinder.Operation.Import
import CardBinder.Proofs.Database.Sets
import CardBinder.Proofs.Names
import CardBinder.Proofs.Text.Integer
import Mathlib.Data.List.Nodup
import Mathlib.Data.List.Perm.Subperm
import Mathlib.Data.Nat.Find
import Mathlib.Logic.Function.Basic

/-! A name that is taken gets the least number that makes it free; there are more numbers to try than
there are card sets. -/

namespace CardBinder
variable {name : String} {m n last tries : Nat}

theorem toList_numberedName (name : String) (n : Nat) :
    (numberedName name n).toList = name.toList ++ ' ' :: '(' :: Nat.toDigits 10 n ++ [')'] := by
  simp [numberedName]

theorem numberedName_injective (name : String) : Function.Injective (numberedName name) := by
  intro m n h
  have hlist := congrArg String.toList h
  rw [toList_numberedName, toList_numberedName, List.append_left_inj, List.append_right_inj] at hlist
  have hdigits : Nat.toDigits 10 m = Nat.toDigits 10 n := by simpa using hlist
  exact Text.toDigits_injective hdigits

/-- A numbered name is longer than the name. -/
theorem numberedName_ne (name : String) (n : Nat) : numberedName name n ≠ name := by
  intro h
  have hlength := congrArg (fun s => s.toList.length) h
  simp only [toList_numberedName, List.length_append, List.length_cons] at hlength
  omega

/-- The brackets are not trimmed. -/
theorem NeatName.numbered (h : NeatName name) (n : Nat) : NeatName (numberedName name n) := by
  have hclose : Text.Bare [')'] :=
    Text.bare_of_forall (List.cons_ne_nil _ _) (List.forall_mem_singleton.mpr (by decide))
  have hbare := h.bare.append hclose (' ' :: '(' :: Nat.toDigits 10 n)
  rw [← toList_numberedName] at hbare
  refine ⟨fun hempty => hbare.nonempty (String.toList_eq_nil_iff.mpr hempty), ?_⟩
  rw [Text.trim, hbare.trim, String.ofList_toList]

namespace Database
variable {db : Database}

/-- No card set has the name. -/
def IsFree (db : Database) (name : String) : Prop :=
  ∀ cs ∈ db.cardSets, cs.name ≠ name

theorem findCardSet_eq_none_iff : db.findCardSet name = none ↔ db.IsFree name := by
  refine ⟨findCardSet_eq_none, fun hfree => ?_⟩
  by_contra htaken
  obtain ⟨id, hid⟩ := Option.ne_none_iff_exists'.mp htaken
  obtain ⟨cs, hcs, _, hname⟩ := findCardSet_some hid
  exact hfree cs hcs hname

theorem isNone_findCardSet_iff : (db.findCardSet name).isNone ↔ db.IsFree name :=
  Option.isNone_iff_eq_none.trans findCardSet_eq_none_iff

theorem not_isFree_iff : ¬ db.IsFree name ↔ name ∈ db.cardSets.map (·.name) := by
  simp [IsFree]

/-- The least number that makes a name free. -/
structure LeastFree (db : Database) (name : String) (n : Nat) : Prop where
  pos : 1 ≤ n
  free : db.IsFree (numberedName name n)
  least : ∀ m, 1 ≤ m → m < n → ¬ db.IsFree (numberedName name m)

/-- Taken numbered names belong to as many card sets, and the name itself to one more. -/
theorem lt_length_of_taken (hname : ¬ db.IsFree name)
    (htaken : ∀ m, 1 ≤ m → m ≤ n → ¬ db.IsFree (numberedName name m)) :
    n < db.cardSets.length := by
  let tried := name :: (List.range' 1 n).map (numberedName name)
  have hnodup : tried.Nodup := by
    refine List.nodup_cons.mpr ⟨?_, List.Nodup.map (numberedName_injective name) List.nodup_range'⟩
    rw [List.mem_map]
    rintro ⟨m, _, hm⟩
    exact numberedName_ne name m hm
  have hsub : tried ⊆ db.cardSets.map (·.name) := by
    intro x hx
    rcases List.mem_cons.mp hx with rfl | hx
    · exact not_isFree_iff.mp hname
    · obtain ⟨m, hm, rfl⟩ := List.mem_map.mp hx
      rw [List.mem_range'_1] at hm
      exact not_isFree_iff.mp (htaken m hm.1 (by omega))
  have hlength := (List.subperm_of_subset hnodup hsub).length_le
  simp only [tried, List.length_cons, List.length_map, List.length_range'] at hlength
  omega

theorem exists_leastFree (hname : ¬ db.IsFree name) :
    ∃ n, db.LeastFree name n ∧ n ≤ db.cardSets.length := by
  classical
  have hsome : ∃ n, 1 ≤ n ∧ db.IsFree (numberedName name n) := by
    by_contra hnone
    simp only [not_exists, not_and] at hnone
    exact Nat.lt_irrefl _ (lt_length_of_taken hname fun m hm _ => hnone m hm)
  obtain ⟨hpos, hfree⟩ := Nat.find_spec hsome
  have hleast : ∀ m, 1 ≤ m → m < Nat.find hsome → ¬ db.IsFree (numberedName name m) :=
    fun m hm hlt hfree => Nat.find_min hsome hlt ⟨hm, hfree⟩
  have hfew : Nat.find hsome - 1 < db.cardSets.length :=
    lt_length_of_taken hname fun m hm hle => hleast m hm (by omega)
  exact ⟨Nat.find hsome, ⟨hpos, hfree, hleast⟩, by omega⟩

/-- The search passes over names that are taken and stops at the first free one. -/
theorem freeName_eq (hn : n ≤ last) (hfree : db.IsFree (numberedName name last))
    (htaken : ∀ m, n ≤ m → m < last → ¬ db.IsFree (numberedName name m))
    (htries : last < n + tries) : db.freeName name n tries = numberedName name last := by
  induction tries generalizing n with
  | zero => omega
  | succ tries ih =>
    rw [freeName]
    rcases Nat.eq_or_lt_of_le hn with rfl | hlt
    · rw [if_pos (isNone_findCardSet_iff.mpr hfree)]
    · rw [if_neg (mt isNone_findCardSet_iff.mp (htaken n (Nat.le_refl n) hlt))]
      exact ih hlt (fun m hm => htaken m (by omega)) (by omega)

theorem LeastFree.freeName_eq (h : db.LeastFree name n) (htries : n ≤ tries) :
    db.freeName name 1 tries = numberedName name n :=
  Database.freeName_eq h.pos h.free h.least (by omega)

/-- How a name for a new set is found: by trying the name and then one number after the other. -/
structure PicksName (db : Database) (name : String) : Prop where
  unused : db.IsFree name → db.uniqueName name = name
  /-- The tries, that of the name included, are at most one more than the card sets, however many
  more the search is given. -/
  numbered : ¬ db.IsFree name → ∃ n, db.LeastFree name n ∧ n ≤ db.cardSets.length ∧
    db.uniqueName name = numberedName name n ∧
    ∀ tries, n ≤ tries → db.freeName name 1 tries = numberedName name n

theorem picksName (db : Database) (name : String) : db.PicksName name where
  unused hfree := by
    rw [uniqueName, if_pos (isNone_findCardSet_iff.mpr hfree)]
  numbered htaken := by
    obtain ⟨n, hn, hfew⟩ := exists_leastFree htaken
    refine ⟨n, hn, hfew, ?_, fun tries htries => hn.freeName_eq htries⟩
    rw [uniqueName, if_neg (mt isNone_findCardSet_iff.mp htaken), hn.freeName_eq (by omega)]

theorem isFree_uniqueName (db : Database) (name : String) : db.IsFree (db.uniqueName name) := by
  by_cases hfree : db.IsFree name
  · rwa [(db.picksName name).unused hfree]
  · obtain ⟨n, hn, _, heq, _⟩ := (db.picksName name).numbered hfree
    exact heq ▸ hn.free

theorem neatName_uniqueName (db : Database) (h : NeatName name) : NeatName (db.uniqueName name) := by
  by_cases hfree : db.IsFree name
  · rwa [(db.picksName name).unused hfree]
  · obtain ⟨n, _, _, heq, _⟩ := (db.picksName name).numbered hfree
    exact heq ▸ h.numbered n

end Database
end CardBinder
