import CardBinder.Lookup.Table
import CardBinder.Proofs.Names
import CardBinder.Proofs.Rows

/-! What the index of a lookup table holds: every name and recorded alias finds its own entry. -/

namespace CardBinder

/-- The keys under which an entry is stored: its name, and the alias that it records. -/
def LookupEntry.keys (e : LookupEntry) : List String :=
  canonicalName e.name :: (e.otherName.map canonicalName).toList

namespace LookupTable
variable {t : LookupTable} {e : LookupEntry} {es : List LookupEntry} {id : LookupId}
  {names : List (String × LookupId)} {k name otherName : String} {other : Option String}

/-- Entries are numbered by their places, each is found under its keys, and the index leads
nowhere else. -/
structure Indexed (t : LookupTable) : Prop where
  numbered : Numbered (·.id.val) t.entries
  finds : ∀ e ∈ t.entries, ∀ k ∈ e.keys, t.findKey k = some e.id
  leads : ∀ k id, t.findKey k = some id → Leads (·.id.val) t.entries id.val

theorem indexed_empty : Indexed empty where
  numbered := numbered_nil
  finds := by simp [empty]
  leads := by simp [empty, findKey]

theorem find_eq_findKey : t.find name = t.findKey (canonicalName name) := rfl

theorem lookup_cons_eq :
    ((name, id) :: names).lookup k = if k = name then some id else names.lookup k := by
  rw [List.lookup_cons]
  by_cases h : k = name
  · simp [h]
  · simp [h, beq_false_of_ne h]

theorem findKey_cons :
    findKey ⟨es, (name, id) :: names⟩ k = if k = name then some id else names.lookup k := by
  rw [findKey, lookup_cons_eq]

theorem mem_keys_withAlias :
    k ∈ (withAlias otherName e).keys ↔
      k ∈ e.keys ∨ (e.otherName = none ∧ k = canonicalName otherName) := by
  rw [withAlias]
  cases he : e.otherName <;> simp [LookupEntry.keys, he]

@[simp] theorem withAlias_id : (withAlias otherName e).id = e.id := by
  rw [withAlias]
  split <;> rfl

theorem ensure_of_some (h : t.find name = some id) : t.ensure name = (t, id) := by
  simp [ensure, h]

theorem ensure_of_none (h : t.find name = none) :
    t.ensure name = (⟨t.entries ++ [⟨.ofPlace t.entries.length, Text.trim name, none⟩],
      (canonicalName name, .ofPlace t.entries.length) :: t.names⟩, .ofPlace t.entries.length) := by
  simp [ensure, h]

/-- Making an entry adds one key to the index, the name's, when it was free. -/
theorem findKey_ensure (t : LookupTable) (name k : String) :
    (t.ensure name).1.findKey k =
      if k = canonicalName name then some (t.ensure name).2 else t.findKey k := by
  cases h : t.find name with
  | some id =>
    rw [ensure_of_some h]
    split
    · subst k
      exact h
    · rfl
  | none =>
    rw [ensure_of_none h, findKey_cons, findKey]

/-- The entry that an alias is given to is unchanged when the alias is blank or already known. -/
theorem addAlias_of_known (h : (Text.trim otherName).isEmpty ∨ (t.find otherName).isSome) :
    t.addAlias id otherName = t := by
  rw [addAlias]
  rcases h with h | h
  · simp [h]
  · obtain ⟨found, hf⟩ := Option.isSome_iff_exists.mp h
    have hf' : t.find (Text.trim otherName) = some found := by simpa [find] using hf
    simp [hf']

theorem addAlias_of_new (hb : (Text.trim otherName).isEmpty = false)
    (h : t.find otherName = none) :
    t.addAlias id otherName =
      ⟨t.entries.modify id.val (withAlias (Text.trim otherName)),
        (canonicalName otherName, id) :: t.names⟩ := by
  have h' : t.find (Text.trim otherName) = none := by simpa [find] using h
  simp [addAlias, hb, h']

theorem known_or_new (t : LookupTable) (otherName : String) :
    ((Text.trim otherName).isEmpty ∨ (t.find otherName).isSome) ∨
      ((Text.trim otherName).isEmpty = false ∧ t.find otherName = none) := by
  cases (Text.trim otherName).isEmpty <;> cases t.find otherName <;> simp

theorem Indexed.ensure (h : Indexed t) : Indexed (t.ensure name).1 := by
  cases hf : t.find name with
  | some id =>
    rw [ensure_of_some hf]
    exact h
  | none =>
    have hkey := findKey_ensure t name
    rw [ensure_of_none hf] at hkey ⊢
    have hnum := h.numbered.append
      (show (⟨.ofPlace t.entries.length, Text.trim name, none⟩ : LookupEntry).id.val = _ from rfl)
    refine ⟨hnum, ?_, ?_⟩
    · intro e he k hk
      rw [hkey]
      rcases List.mem_append.mp he with he | he
      · have hfound := h.finds e he k hk
        have hne : k ≠ canonicalName name := by
          intro heq
          subst k
          simp [find] at hf
          simp [hf] at hfound
        simp [hne, hfound]
      · simp only [List.mem_singleton] at he
        subst e
        simp [LookupEntry.keys] at hk
        simp [hk]
    · intro k id hid
      rw [hkey] at hid
      split at hid
      · rw [← Option.some.inj hid]
        exact hnum.leads_place (by simp)
      · exact (h.leads k id hid).append _

theorem Indexed.ensure_leads (h : Indexed t) :
    Leads (·.id.val) (t.ensure name).1.entries (t.ensure name).2.val := by
  apply h.ensure.leads (canonicalName name)
  rw [findKey_ensure]
  simp

/-! Entries stay where they are -/

theorem leads_ensure {n : Nat} (h : Leads (·.id.val) t.entries n) :
    Leads (·.id.val) (t.ensure name).1.entries n := by
  cases hf : t.find name with
  | some id =>
    rw [ensure_of_some hf]
    exact h
  | none =>
    rw [ensure_of_none hf]
    exact h.append _

theorem leads_addAlias {n : Nat} (h : Leads (·.id.val) t.entries n) :
    Leads (·.id.val) (t.addAlias id otherName).entries n := by
  rcases t.known_or_new otherName with hk | ⟨hb, hnew⟩
  · rw [addAlias_of_known hk]
    exact h
  · rw [addAlias_of_new hb hnew]
    exact h.modify _ (fun _ => by simp) _

/-- With the key of a new alias in front, every entry is still found under its keys. -/
theorem Indexed.finds_withAlias (h : Indexed t) (hid : Leads (·.id.val) t.entries id.val)
    (hnew : t.find otherName = none) :
    ∀ e ∈ t.entries.modify id.val (withAlias (Text.trim otherName)), ∀ k ∈ e.keys,
      ((canonicalName otherName, id) :: t.names).lookup k = some e.id := by
  have hfree : ∀ e ∈ t.entries, ∀ k ∈ e.keys, k ≠ canonicalName otherName := by
    rintro e he k hk rfl
    have hfound := h.finds e he _ hk
    rw [← find_eq_findKey, hnew] at hfound
    cases hfound
  intro e' he' k hk
  obtain ⟨i, hi⟩ := List.mem_iff_getElem?.mp he'
  rw [List.getElem?_modify] at hi
  obtain ⟨e, he, rfl⟩ := Option.map_eq_some_iff.mp hi
  have hmem := List.mem_of_getElem? he
  have hold : k ∈ e.keys → ((canonicalName otherName, id) :: t.names).lookup k = some e.id := by
    intro hk
    rw [lookup_cons_eq, if_neg (hfree e hmem k hk)]
    exact h.finds e hmem k hk
  by_cases hi' : id.val = i
  · have hid' : e.id = id := by
      obtain ⟨r, hr, hkey⟩ := hid
      rw [hi', he] at hr
      exact RowId.ext (Option.some.inj hr ▸ hkey)
    simp only [hi', if_true, mem_keys_withAlias, withAlias_id, canonicalName_trim] at hk ⊢
    rcases hk with hk | ⟨_, rfl⟩
    · exact hold hk
    · rw [lookup_cons_eq, if_pos rfl, hid']
  · simp only [if_neg hi'] at hk ⊢
    exact hold hk

theorem Indexed.addAlias (h : Indexed t) (hid : Leads (·.id.val) t.entries id.val) :
    Indexed (t.addAlias id otherName) := by
  rcases t.known_or_new otherName with hk | ⟨hb, hnew⟩
  · rw [addAlias_of_known hk]
    exact h
  · rw [addAlias_of_new hb hnew]
    refine ⟨h.numbered.modify _ (fun _ => by simp) _, h.finds_withAlias hid hnew, ?_⟩
    intro k found hf
    rw [findKey_cons] at hf
    split at hf
    · rw [← Option.some.inj hf]
      exact hid.modify _ (fun _ => by simp) _
    · exact (h.leads k found hf).modify _ (fun _ => by simp) _

theorem getOrCreate_none : (t.getOrCreate name none).1 = (t.ensure name).1 := by
  simp only [getOrCreate]

theorem getOrCreate_some :
    (t.getOrCreate name (some otherName)).1 =
      (t.ensure name).1.addAlias (t.ensure name).2 otherName := by
  simp only [getOrCreate]

theorem getOrCreate_snd : (t.getOrCreate name other).2 = (t.ensure name).2 := by
  cases other <;> simp only [getOrCreate]

theorem Indexed.getOrCreate (h : Indexed t) : Indexed (t.getOrCreate name other).1 := by
  cases other with
  | none =>
    rw [getOrCreate_none]
    exact h.ensure
  | some otherName =>
    rw [getOrCreate_some]
    exact h.ensure.addAlias h.ensure_leads

theorem Indexed.getOrCreate_leads (h : Indexed t) :
    Leads (·.id.val) (t.getOrCreate name other).1.entries (t.getOrCreate name other).2.val := by
  rw [getOrCreate_snd]
  cases other with
  | none =>
    rw [getOrCreate_none]
    exact h.ensure_leads
  | some otherName =>
    rw [getOrCreate_some]
    exact leads_addAlias h.ensure_leads

theorem leads_getOrCreate {n : Nat} (h : Leads (·.id.val) t.entries n) :
    Leads (·.id.val) (t.getOrCreate name other).1.entries n := by
  cases other with
  | none =>
    rw [getOrCreate_none]
    exact leads_ensure h
  | some otherName =>
    rw [getOrCreate_some]
    exact leads_addAlias (leads_ensure h)

/-! Names keep what they lead to -/

theorem findKey_ensure_of_some (h : t.findKey k = some id) :
    (t.ensure name).1.findKey k = some id := by
  rw [findKey_ensure]
  split
  · subst k
    rw [ensure_of_some h]
  · exact h

theorem findKey_addAlias_of_some {owner : LookupId} (h : t.findKey k = some id) :
    (t.addAlias owner otherName).findKey k = some id := by
  rcases t.known_or_new otherName with hk | ⟨hb, hnew⟩
  · rw [addAlias_of_known hk]
    exact h
  · have hne : k ≠ canonicalName otherName := by
      rintro rfl
      rw [← find_eq_findKey, hnew] at h
      cases h
    rw [addAlias_of_new hb hnew, findKey_cons, if_neg hne]
    exact h

theorem findKey_getOrCreate_of_some (h : t.findKey k = some id) :
    (t.getOrCreate name other).1.findKey k = some id := by
  cases other with
  | none =>
    rw [getOrCreate_none]
    exact findKey_ensure_of_some h
  | some otherName =>
    rw [getOrCreate_some]
    exact findKey_addAlias_of_some (findKey_ensure_of_some h)

theorem find_getOrCreate_self :
    (t.getOrCreate name other).1.find name = some (t.getOrCreate name other).2 := by
  have hensure : (t.ensure name).1.findKey (canonicalName name) = some (t.ensure name).2 := by
    rw [findKey_ensure, if_pos rfl]
  rw [find_eq_findKey, getOrCreate_snd]
  cases other with
  | none =>
    rw [getOrCreate_none]
    exact hensure
  | some otherName =>
    rw [getOrCreate_some]
    exact findKey_addAlias_of_some hensure

/-- A new entry has a name that nothing was found under, so no two entries share one. -/
theorem Indexed.names_nodup_getOrCreate (h : Indexed t)
    (hn : (t.entries.map fun e => canonicalName e.name).Nodup) :
    ((t.getOrCreate name other).1.entries.map fun e => canonicalName e.name).Nodup := by
  have hensure : ((t.ensure name).1.entries.map fun e => canonicalName e.name).Nodup := by
    cases hf : t.find name with
    | some id =>
      rw [ensure_of_some hf]
      exact hn
    | none =>
      rw [ensure_of_none hf]
      refine nodup_map_append hn fun e he heq => ?_
      have hfound := h.finds e he _ List.mem_cons_self
      rw [heq, canonicalName_trim, ← find_eq_findKey, hf] at hfound
      cases hfound
  cases other with
  | none =>
    rw [getOrCreate_none]
    exact hensure
  | some otherName =>
    rw [getOrCreate_some]
    rcases (t.ensure name).1.known_or_new otherName with hk | ⟨hb, hnew⟩
    · rw [addAlias_of_known hk]
      exact hensure
    · rw [addAlias_of_new hb hnew, map_modify_of_key]
      · exact hensure
      · intro e
        rw [withAlias]
        split <;> rfl

/-! Rebuilding the index -/

/-- Entries whose keys agree with `find` are indexed one after the other without a clash. -/
theorem lookup_indexEntry (h : ∀ k ∈ e.keys, ∀ id, names.lookup k = some id → id = e.id) :
    (indexEntry names e).lookup k = if k ∈ e.keys then some e.id else names.lookup k := by
  rw [indexEntry]
  cases ho : e.otherName with
  | none => simp [lookup_cons_eq, LookupEntry.keys, ho]
  | some otherName =>
    have hkeys : k ∈ e.keys ↔ k = canonicalName e.name ∨ k = canonicalName otherName := by
      simp [LookupEntry.keys, ho]
    simp only [hkeys]
    split
    · rename_i found hf
      rw [lookup_cons_eq] at hf ⊢
      by_cases hk : k = canonicalName otherName
      · subst k
        have hfound : some found = some e.id := by
          split at hf
          · exact hf.symm
          · rw [h _ (by simp [LookupEntry.keys, ho]) found hf]
        simp [hf, hfound]
      · simp [hk]
    · rename_i hf
      rw [lookup_cons_eq, lookup_cons_eq]
      split <;> split <;> simp_all

theorem lookup_foldl_indexEntry {find : String → Option LookupId}
    (hes : ∀ e ∈ es, ∀ k ∈ e.keys, find k = some e.id)
    (hnames : ∀ k id, names.lookup k = some id → find k = some id) :
    (es.foldl indexEntry names).lookup k =
      if ∃ e ∈ es, k ∈ e.keys then find k else names.lookup k := by
  induction es generalizing names with
  | nil => simp
  | cons e es ih =>
    have hstep : ∀ k, (indexEntry names e).lookup k =
        if k ∈ e.keys then some e.id else names.lookup k := by
      intro k
      apply lookup_indexEntry
      intro k hk id hid
      have h1 := hnames k id hid
      rw [hes e List.mem_cons_self k hk] at h1
      cases h1
      rfl
    rw [List.foldl_cons, ih (fun e' he' => hes e' (List.mem_cons_of_mem _ he')) ?_, hstep]
    · by_cases hk : k ∈ e.keys
      · have hfind := hes e List.mem_cons_self k hk
        simp [hk, hfind]
      · simp [hk]
    · intro k id hid
      rw [hstep] at hid
      split at hid
      · rename_i hk
        rw [hes e List.mem_cons_self k hk, hid]
      · exact hnames k id hid

/-- A rebuilt index finds the stored keys as before, and nothing else. -/
theorem Indexed.findKey_ofEntries (h : Indexed t) :
    (ofEntries t.entries).findKey k =
      if ∃ e ∈ t.entries, k ∈ e.keys then t.findKey k else none := by
  rw [findKey, ofEntries, lookup_foldl_indexEntry h.finds (by simp), List.lookup_nil]

theorem mem_indexEntry {p : String × LookupId} (h : p ∈ indexEntry names e) :
    p ∈ names ∨ p.2 = e.id := by
  simp only [indexEntry] at h
  split at h
  · rcases List.mem_cons.mp h with rfl | h
    · exact Or.inr rfl
    · exact Or.inl h
  · split at h
    · rcases List.mem_cons.mp h with rfl | h
      · exact Or.inr rfl
      · exact Or.inl h
    · simp only [List.mem_cons] at h
      rcases h with rfl | rfl | h
      · exact Or.inr rfl
      · exact Or.inr rfl
      · exact Or.inl h

/-- Whatever rows are indexed, a name finds one of them. -/
theorem find_ofEntries_mem (h : (ofEntries es).find name = some id) : ∃ e ∈ es, e.id = id := by
  have hindex : ∀ (es : List LookupEntry) (names : List (String × LookupId)),
      ∀ p ∈ es.foldl indexEntry names, p ∈ names ∨ ∃ e ∈ es, e.id = p.2 := by
    intro es
    induction es with
    | nil => exact fun names p hp => Or.inl hp
    | cons e es ih =>
      intro names p hp
      rcases ih _ p hp with hp | ⟨e', he', hid⟩
      · rcases mem_indexEntry hp with hp | hid
        · exact Or.inl hp
        · exact Or.inr ⟨e, List.mem_cons_self, hid.symm⟩
      · exact Or.inr ⟨e', List.mem_cons_of_mem e he', hid⟩
  exact (hindex es [] _ (mem_of_lookup h)).resolve_left (by simp)

end LookupTable
end CardBinder
