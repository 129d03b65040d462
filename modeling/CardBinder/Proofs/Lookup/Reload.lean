import CardBinder.Proofs.Lookup.Index

/-! A lookup table stored without its index. A second new alias of an entry is in the index only and is lost. -/

namespace CardBinder.LookupTable
variable {t : LookupTable} {id : LookupId} {k name otherName : String} {lost : List String}

/-- A name with an alias or none, as it is given to `getOrCreate`. -/
abbrev Call := String × Option String

def record (t : LookupTable) (c : Call) : LookupTable :=
  (t.getOrCreate c.1 c.2).1

theorem record_mk {other : Option String} :
    t.record (name, other) = (t.getOrCreate name other).1 := rfl

def ofCalls (calls : List Call) : LookupTable :=
  calls.foldl record empty

/-- A name that was given a meaning keeps it through all later calls. -/
theorem findKey_foldl_record (h : t.findKey k = some id) (calls : List Call) :
    (calls.foldl record t).findKey k = some id := by
  induction calls generalizing t with
  | nil => exact h
  | cons c calls ih => exact ih (findKey_getOrCreate_of_some h)

theorem names_nodup_foldl_record (h : Indexed t)
    (hn : (t.entries.map fun e => canonicalName e.name).Nodup) (calls : List Call) :
    ((calls.foldl record t).entries.map fun e => canonicalName e.name).Nodup := by
  induction calls generalizing t with
  | nil => exact hn
  | cons c calls ih => exact ih h.getOrCreate (h.names_nodup_getOrCreate hn)

theorem names_nodup_ofCalls (calls : List Call) :
    ((ofCalls calls).entries.map fun e => canonicalName e.name).Nodup :=
  names_nodup_foldl_record indexed_empty List.nodup_nil calls

/-- The table as it is after storing the entries and reading them back. -/
def reload (t : LookupTable) : LookupTable :=
  ofEntries t.entries

/-- The key that a call puts into the index and not into the entry, which has an alias already. -/
def unstoredKey? (t : LookupTable) (c : Call) : Option String := do
  let otherName ← c.2
  let e ← (t.ensure c.1).1.get? (t.ensure c.1).2
  if e.otherName.isSome && !(Text.trim otherName).isEmpty &&
      ((t.ensure c.1).1.find otherName).isNone then
    some (canonicalName otherName)
  else none

/-- The keys that the calls put into the index only. -/
def unstoredKeys (t : LookupTable) : List Call → List String
  | [] => []
  | c :: calls => (t.unstoredKey? c).toList ++ (t.record c).unstoredKeys calls

def Stored (t : LookupTable) (k : String) : Prop :=
  ∃ e ∈ t.entries, k ∈ e.keys

/-- The keys in `lost` are the ones that the index has and the entries have not. -/
def Loses (t : LookupTable) (lost : List String) : Prop :=
  ∀ k, k ∈ lost ↔ (t.findKey k).isSome ∧ ¬ t.Stored k

theorem loses_empty : Loses empty [] := by
  simp [Loses, empty, findKey]

theorem stored_ensure (h : t.find name = none) :
    (t.ensure name).1.Stored k ↔ t.Stored k ∨ k = canonicalName name := by
  rw [ensure_of_none h]
  simp [Stored, LookupEntry.keys, or_and_right, exists_or]

theorem stored_addAlias (hb : (Text.trim otherName).isEmpty = false) (h : t.find otherName = none) :
    (t.addAlias id otherName).Stored k ↔
      t.Stored k ∨ (k = canonicalName otherName ∧ ∃ e, t.get? id = some e ∧ e.otherName = none) := by
  rw [addAlias_of_new hb h]
  have hkeys : ∀ {e : LookupEntry}, k ∈ (withAlias (Text.trim otherName) e).keys ↔
      k ∈ e.keys ∨ (e.otherName = none ∧ k = canonicalName otherName) := by
    intro e
    rw [mem_keys_withAlias, canonicalName_trim]
  constructor
  · rintro ⟨e', he', hk⟩
    obtain ⟨i, hi⟩ := List.mem_iff_getElem?.mp he'
    rw [List.getElem?_modify] at hi
    obtain ⟨e, he, rfl⟩ := Option.map_eq_some_iff.mp hi
    have hmem := List.mem_of_getElem? he
    split at hk
    · rename_i hi'
      rcases hkeys.mp hk with hk | ⟨hnone, hk⟩
      · exact Or.inl ⟨e, hmem, hk⟩
      · exact Or.inr ⟨hk, e, by rw [get?, hi', he], hnone⟩
    · exact Or.inl ⟨e, hmem, hk⟩
  · rintro (⟨e, he, hk⟩ | ⟨hk, e, he, hnone⟩)
    · obtain ⟨i, hi⟩ := List.mem_iff_getElem?.mp he
      refine ⟨_, List.mem_iff_getElem?.mpr ⟨i, by rw [List.getElem?_modify, hi]; rfl⟩, ?_⟩
      split
      · exact hkeys.mpr (Or.inl hk)
      · exact hk
    · refine ⟨_, List.mem_iff_getElem?.mpr
        ⟨id.val, by rw [List.getElem?_modify, ← get?, he]; rfl⟩, ?_⟩
      simp only [if_true]
      exact hkeys.mpr (Or.inr ⟨hnone, hk⟩)

theorem loses_ensure (name : String) (h : t.Loses lost) : (t.ensure name).1.Loses lost := by
  intro k
  cases hf : t.find name with
  | some id =>
    rw [ensure_of_some hf]
    exact h k
  | none =>
    rw [stored_ensure hf, findKey_ensure, h k]
    by_cases hk : k = canonicalName name
    · subst k
      rw [← find_eq_findKey, hf]
      simp
    · simp [hk]

theorem Indexed.isSome_findKey (ht : Indexed t) (h : t.Stored k) : (t.findKey k).isSome := by
  obtain ⟨e, he, hk⟩ := h
  rw [ht.finds e he k hk]
  rfl

theorem mem_unstoredKeys {calls : List Call} (h : k ∈ t.unstoredKeys calls) :
    ∃ s, canonicalName s = k := by
  induction calls generalizing t with
  | nil => cases h
  | cons c calls ih =>
    rw [unstoredKeys, List.mem_append] at h
    rcases h with h | h
    · simp only [unstoredKey?, Option.bind_eq_bind, Option.mem_toList, Option.bind_eq_some_iff]
        at h
      obtain ⟨otherName, _, e, _, h⟩ := h
      split at h
      · exact ⟨otherName, Option.some.inj h⟩
      · cases h
    · exact ih h

theorem unstoredKey?_eq {e : LookupEntry}
    (hget : (t.ensure name).1.get? (t.ensure name).2 = some e) :
    t.unstoredKey? (name, some otherName) =
      if e.otherName.isSome ∧ (Text.trim otherName).isEmpty = false ∧
          (t.ensure name).1.find otherName = none then
        some (canonicalName otherName)
      else none := by
  simp only [unstoredKey?, hget, Option.bind_eq_bind, Option.bind_some, Bool.and_eq_true,
    Bool.not_eq_true', Option.isNone_iff_eq_none, and_assoc]

/-- A call loses the key of its alias when the alias is new and the entry has another one. -/
theorem loses_record (ht : Indexed t) (h : t.Loses lost) (c : Call) :
    (t.record c).Loses (lost ++ (t.unstoredKey? c).toList) := by
  obtain ⟨name, other⟩ := c
  have he := loses_ensure name h
  cases other with
  | none =>
    have hnone : t.unstoredKey? (name, none) = none := rfl
    rw [record_mk, getOrCreate_none, hnone, Option.toList_none, List.append_nil]
    exact he
  | some otherName =>
    obtain ⟨e, hget⟩ : ∃ e, (t.ensure name).1.get? (t.ensure name).2 = some e :=
      ht.ensure_leads.imp fun _ h => h.1
    rw [record_mk, getOrCreate_some, unstoredKey?_eq hget]
    rcases (t.ensure name).1.known_or_new otherName with hk | ⟨hb, hnew⟩
    · have hnot : ¬ (e.otherName.isSome ∧ (Text.trim otherName).isEmpty = false ∧
          (t.ensure name).1.find otherName = none) := by
        rintro ⟨_, hb, hnew⟩
        simp [hb, hnew] at hk
      rw [addAlias_of_known hk, if_neg hnot, Option.toList_none, List.append_nil]
      exact he
    · intro k
      rw [stored_addAlias hb hnew, addAlias_of_new hb hnew, findKey_cons, hget, List.mem_append,
        he k, ← findKey]
      by_cases hk : k = canonicalName otherName
      · subst k
        have hunstored : ¬ (t.ensure name).1.Stored (canonicalName otherName) := by
          intro hs
          have hfound := ht.ensure.isSome_findKey hs
          rw [← find_eq_findKey, hnew] at hfound
          cases hfound
        rw [← find_eq_findKey, hnew]
        cases ho : e.otherName <;> simp [ho, hb, hunstored]
      · cases ho : e.otherName <;> simp [ho, hk, hb, hnew]

/-- What a run of calls keeps: the index is sound, and what it has beside the entries is known. -/
theorem loses_foldl (ht : Indexed t) (h : t.Loses lost) (calls : List Call) :
    Indexed (calls.foldl record t) ∧
      (calls.foldl record t).Loses (lost ++ t.unstoredKeys calls) := by
  induction calls generalizing t lost with
  | nil => simpa [unstoredKeys] using ⟨ht, h⟩
  | cons c calls ih =>
    rw [List.foldl_cons, unstoredKeys, ← List.append_assoc]
    exact ih ht.getOrCreate (loses_record ht h c)

theorem find_reload (ht : Indexed t) (h : t.Loses lost) (s : String) :
    t.reload.find s = if canonicalName s ∈ lost then none else t.find s := by
  rw [find_eq_findKey, reload, ht.findKey_ofEntries, find_eq_findKey]
  by_cases hs : t.Stored (canonicalName s)
  · have hl : canonicalName s ∉ lost := fun hm => ((h _).mp hm).2 hs
    rw [if_pos (show ∃ e ∈ t.entries, canonicalName s ∈ e.keys from hs), if_neg hl]
  · rw [if_neg (show ¬ ∃ e ∈ t.entries, canonicalName s ∈ e.keys from hs)]
    split
    · rfl
    · rename_i hl
      rw [h] at hl
      simp only [not_and, not_not] at hl
      cases hf : t.findKey (canonicalName s) with
      | none => rfl
      | some id => exact absurd (hl (by simp [hf])) hs

/-- Reading a table back keeps every answer exactly when no call gave a second new alias to an
entry; otherwise the keys of those aliases find nothing any more, and all others what they did. -/
theorem reload_find_eq_iff (calls : List Call) :
    (∀ s, (ofCalls calls).reload.find s =
        if canonicalName s ∈ empty.unstoredKeys calls then none else (ofCalls calls).find s) ∧
      ((∀ s, (ofCalls calls).reload.find s = (ofCalls calls).find s) ↔
        empty.unstoredKeys calls = []) := by
  obtain ⟨ht, h⟩ := loses_foldl indexed_empty loses_empty calls
  rw [List.nil_append] at h
  have hfind := find_reload ht h
  refine ⟨hfind, ?_, ?_⟩
  · intro hall
    rw [List.eq_nil_iff_forall_not_mem]
    intro k hk
    obtain ⟨s, rfl⟩ := mem_unstoredKeys hk
    have hs := hall s
    have hfound := ((h _).mp hk).1
    rw [ofCalls] at hs
    rw [hfind, if_pos hk, find_eq_findKey] at hs
    rw [← hs] at hfound
    cases hfound
  · intro hnil s
    rw [ofCalls, hfind, hnil]
    simp

/-- The second alias of an entry finds it until the table is stored and read back. -/
theorem reload_loses_second_alias :
    (ofCalls [("Ventrue", some "Ven"), ("Ventrue", some "V")]).find "V" = some ⟨0⟩ ∧
      (ofCalls [("Ventrue", some "Ven"), ("Ventrue", some "V")]).reload.find "V" = none := by
  decide +kernel

end CardBinder.LookupTable
