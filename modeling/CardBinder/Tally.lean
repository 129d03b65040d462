/-! Counts by key, the keys in ascending order. -/

namespace CardBinder

/-- All counts together. -/
def countSum (ns : List Nat) : Nat :=
  ns.foldr (· + ·) 0

structure Tally (κ : Type) where
  entries : List (κ × Nat)

namespace Tally
variable {κ : Type} [Ord κ]

def empty : Tally κ := ⟨[]⟩

instance : Inhabited (Tally κ) := ⟨empty⟩

def addTo (k : κ) (n : Nat) : List (κ × Nat) → List (κ × Nat)
  | [] => [(k, n)]
  | (k', m) :: rest =>
    match compare k k' with
    | .lt => (k, n) :: (k', m) :: rest
    | .eq => (k', m + n) :: rest
    | .gt => (k', m) :: addTo k n rest

/-- `n` more of `k`. -/
def add (t : Tally κ) (k : κ) (n : Nat) : Tally κ :=
  ⟨addTo k n t.entries⟩

/-- The count of `k`, zero for an absent key. -/
def count (t : Tally κ) (k : κ) : Nat :=
  match t.entries.find? fun e => compare k e.1 == .eq with
  | some e => e.2
  | none => 0

def takeFrom (k : κ) (n : Nat) : List (κ × Nat) → List (κ × Nat)
  | [] => []
  | (k', m) :: rest =>
    if compare k k' == .eq then
      if m ≤ n then rest else (k', m - n) :: rest
    else (k', m) :: takeFrom k n rest

/-- `n` fewer of `k`; a key whose count comes to zero is dropped. -/
def take (t : Tally κ) (k : κ) (n : Nat) : Tally κ :=
  ⟨takeFrom k n t.entries⟩

def total (t : Tally κ) : Nat :=
  countSum (t.entries.map (·.2))

def isEmpty (t : Tally κ) : Bool :=
  t.entries.isEmpty

/-- How often each key occurs in a list. -/
def ofList (ks : List κ) : Tally κ :=
  ks.foldl (fun t k => t.add k 1) empty

end Tally
end CardBinder
