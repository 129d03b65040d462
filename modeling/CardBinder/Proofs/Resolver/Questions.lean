import CardBinder.Proofs.Resolver.Freshness

/-! What a strategy is asked. Its answers are remembered, misses too, so as long as the catalog is the same
it is asked for the first name of each key only, and all names of the key get that answer. -/

namespace CardBinder
variable {σ : Type}

/-- A name that is looked up, and the database it is looked up in. -/
structure Query where
  db : Database
  name : String

namespace Query

def key (q : Query) : String := canonicalName q.name

/-- The queries whose keys no earlier one has. -/
def firsts (qs : List Query) : List Query :=
  qs.eraseDupsBy fun q q' => q.key == q'.key

theorem firsts_cons (q : Query) (qs : List Query) :
    firsts (q :: qs) = q :: firsts (qs.filter fun q' => q'.key != q.key) := by
  rw [firsts, List.eraseDupsBy_cons, firsts]
  refine congrArg (q :: List.eraseDupsBy _ ·) (List.filter_congr fun q' _ => ?_)
  cases h : q'.key == q.key <;> simp [bne, h]

/-- Each key is there once, in the order in which the keys come up. -/
theorem map_key_firsts (qs : List Query) : (firsts qs).map key = (qs.map key).eraseDups := by
  match qs with
  | [] => rfl
  | q :: qs =>
    rw [firsts_cons, List.map_cons, List.map_cons, List.eraseDups_cons, List.filter_map,
      map_key_firsts (qs.filter fun q' => q'.key != q.key)]
    simp only [Function.comp_def, bne]
termination_by qs.length
decreasing_by exact Nat.lt_succ_of_le (List.length_filter_le _ _)

end Query

/-- A question that a strategy was asked, and the answer it gave. -/
structure Question where
  query : Query
  answer : Option CardId

/-- The strategy, with notes of the cards it is asked for. -/
def Strategy.noting (strategy : Strategy σ) : Strategy (σ × List Question) where
  card db name s :=
    let (answer, state) := strategy.card db name s.1
    (answer, state, s.2 ++ [⟨⟨db, name⟩, answer⟩])
  expansion db name s :=
    let (answer, state) := strategy.expansion db name s.1
    (answer, state, s.2)

namespace NameCache
variable {c : NameCache} {db : Database} {name key : String}

/-- What is remembered under a key about the catalog of a generation. -/
def recalls (c : NameCache) (generation : Nat) (key : String) : Option (Option CardId) :=
  if c.generation = some generation then c.cards.lookup key else none

theorem card?_sync : (c.sync db).card? name = c.recalls db.generation (canonicalName name) := by
  rw [sync, recalls]
  split <;> rfl

theorem recalls_sync : (c.sync db).recalls db.generation key = c.recalls db.generation key := by
  rw [sync, recalls]
  split <;> simp_all [recalls]

theorem recalls_of_ne {generation : Nat} (h : c.generation ≠ some generation) :
    c.recalls generation = fun _ => none :=
  funext fun _ => if_neg h

theorem lookup_put {α : Type} (answers : List (String × α)) (name : String) (answer : α)
    (key : String) : (put answers name answer).lookup key =
      if key = canonicalName name then some answer else answers.lookup key := by
  rw [put, List.lookup_cons]
  by_cases hkey : key = canonicalName name
  · simp [hkey]
  · have hother : ∀ answers : List (String × α),
        (answers.filter (·.1 != canonicalName name)).lookup key = answers.lookup key := by
      intro answers
      induction answers with
      | nil => rfl
      | cons entry answers ih =>
        by_cases hentry : entry.1 = canonicalName name
        · rw [List.filter_cons_of_neg (by simpa using hentry), List.lookup_cons, hentry,
            beq_false_of_ne hkey, ih]
        · rw [List.filter_cons_of_pos (by simpa using hentry), List.lookup_cons, List.lookup_cons, ih]
    simp [hkey, beq_false_of_ne hkey, hother]

theorem recalls_insertCard (h : c.generation = some db.generation) (name : String)
    (answer : Option CardId) (key : String) :
    (c.insertCard name answer).recalls db.generation key =
      if key = canonicalName name then some answer else c.recalls db.generation key := by
  have hkept : (c.insertCard name answer).generation = some db.generation := h
  rw [recalls, recalls, if_pos hkept, if_pos h]
  exact lookup_put c.cards name answer key

end NameCache

namespace Resolver
variable {r : Resolver σ} {db : Database} {name key : String} {q : Query} {qs : List Query}

/-- Looks up one card after the other. -/
def cards (r : Resolver σ) : List Query → List (Option CardId) × Resolver σ
  | [] => ([], r)
  | q :: qs =>
    let (answer, r) := r.card q.db q.name
    let (answers, r) := r.cards qs
    (answer :: answers, r)

theorem cards_nil (r : Resolver σ) : r.cards [] = ([], r) := rfl

theorem cards_cons (r : Resolver σ) (q : Query) (qs : List Query) : r.cards (q :: qs) =
    ((r.card q.db q.name).1 :: ((r.card q.db q.name).2.cards qs).1,
      ((r.card q.db q.name).2.cards qs).2) := rfl

def noting (r : Resolver σ) (notes : List Question) : Resolver (σ × List Question) :=
  ⟨r.strategy.noting, r.cache, r.state, notes⟩

/-- What the strategy is asked in the course of the queries. -/
def asked (r : Resolver σ) (qs : List Query) : List Question :=
  ((r.noting []).cards qs).2.state.2

/-- The question that one query leads to, if nothing is known yet. -/
def askedFor (r : Resolver σ) (q : Query) : List Question :=
  if (r.cache.recalls q.db.generation q.key).isNone then [⟨q, (r.card q.db q.name).1⟩] else []

/-! One card -/

theorem card_of_recalled {answer : Option CardId}
    (h : r.cache.recalls db.generation (canonicalName name) = some answer) :
    r.card db name = (answer, { r with cache := r.cache.sync db }) := by
  rw [Resolver.card, NameCache.card?_sync, h]

theorem card_of_unknown (h : r.cache.recalls db.generation (canonicalName name) = none) :
    r.card db name = ((r.strategy.card db name r.state).1,
      { r with
        cache := (r.cache.sync db).insertCard name (r.strategy.card db name r.state).1
        state := (r.strategy.card db name r.state).2 }) := by
  rw [Resolver.card, NameCache.card?_sync, h]

theorem generation_card (r : Resolver σ) (db : Database) (name : String) :
    (r.card db name).2.cache.generation = some db.generation := by
  have hsync := NameCache.generation_sync r.cache db
  cases h : r.cache.recalls db.generation (canonicalName name) with
  | some answer => rw [card_of_recalled h]; exact hsync
  | none => rw [card_of_unknown h]; exact hsync

/-- The answer is remembered under the key of the name. -/
theorem recalls_card (r : Resolver σ) (db : Database) (name key : String) :
    (r.card db name).2.cache.recalls db.generation key =
      if key = canonicalName name then some (r.card db name).1
      else r.cache.recalls db.generation key := by
  cases h : r.cache.recalls db.generation (canonicalName name) with
  | some answer =>
    rw [card_of_recalled h]
    change (r.cache.sync db).recalls db.generation key = _
    rw [NameCache.recalls_sync]
    split
    · rename_i hkey
      rw [hkey, h]
    · rfl
  | none =>
    have hsync := NameCache.generation_sync r.cache db
    rw [card_of_unknown h, NameCache.recalls_insertCard hsync, NameCache.recalls_sync]

/-- Taking notes changes nothing. -/
theorem card_noting (r : Resolver σ) (notes : List Question) (q : Query) :
    (r.noting notes).card q.db q.name =
      ((r.card q.db q.name).1, (r.card q.db q.name).2.noting (notes ++ r.askedFor q)) := by
  have hcache : (r.noting notes).cache = r.cache := rfl
  cases h : r.cache.recalls q.db.generation (canonicalName q.name) with
  | some answer =>
    rw [card_of_recalled (hcache ▸ h), card_of_recalled h]
    simp [askedFor, Query.key, h, noting]
  | none =>
    rw [card_of_unknown (hcache ▸ h)]
    simp only [askedFor, Query.key, h, card_of_unknown h]
    rfl

/-! One card after the other -/

theorem cards_noting (r : Resolver σ) (notes : List Question) (qs : List Query) :
    (r.noting notes).cards qs = ((r.cards qs).1, (r.cards qs).2.noting (notes ++ r.asked qs)) := by
  have hall : ∀ qs (r : Resolver σ), ∃ asked, ∀ notes, (r.noting notes).cards qs =
      ((r.cards qs).1, (r.cards qs).2.noting (notes ++ asked)) := by
    intro qs
    induction qs with
    | nil => exact fun r => ⟨[], fun notes => by rw [List.append_nil]; rfl⟩
    | cons q qs ih =>
      intro r
      obtain ⟨asked, hasked⟩ := ih (r.card q.db q.name).2
      refine ⟨r.askedFor q ++ asked, fun notes => ?_⟩
      simp only [cards_cons, card_noting, hasked, List.append_assoc]
  obtain ⟨asked, hasked⟩ := hall qs r
  rw [Resolver.asked, hasked, hasked]
  rfl

theorem asked_cons (r : Resolver σ) (q : Query) (qs : List Query) :
    r.asked (q :: qs) = r.askedFor q ++ (r.card q.db q.name).2.asked qs := by
  rw [asked, cards_cons, card_noting]
  simp only [cards_noting, List.nil_append]
  rfl

theorem cards_append (r : Resolver σ) (qs qs' : List Query) :
    r.cards (qs ++ qs') =
      ((r.cards qs).1 ++ ((r.cards qs).2.cards qs').1, ((r.cards qs).2.cards qs').2) := by
  induction qs generalizing r with
  | nil => rfl
  | cons q qs ih => simp only [List.cons_append, cards_cons, ih]

/-! Queries about one catalog -/

variable {generation : Nat}

theorem recalls_card_of_mem (hq : q.db.generation = generation) (key : String) :
    (r.card q.db q.name).2.cache.recalls generation key =
      if key = q.key then some (r.card q.db q.name).1 else r.cache.recalls generation key :=
  hq ▸ recalls_card r q.db q.name key

/-- Asked is the first query of each key under which nothing is remembered, in the order of the queries.
A query leaves an answer under its key, known before or new, and takes none away. -/
theorem query_asked (hqs : ∀ q ∈ qs, q.db.generation = generation) :
    (r.asked qs).map (·.query) =
      Query.firsts (qs.filter fun q => (r.cache.recalls generation q.key).isNone) := by
  induction qs generalizing r with
  | nil => rfl
  | cons q qs ih =>
    obtain ⟨hq, hqs⟩ := List.forall_mem_cons.mp hqs
    have hafter := recalls_card_of_mem (r := r) hq
    rw [asked_cons, List.map_append, ih hqs, askedFor, hq]
    cases hknown : r.cache.recalls generation q.key with
    | some answer =>
      have hsame : ∀ q' ∈ qs, ((r.card q.db q.name).2.cache.recalls generation q'.key).isNone =
          (r.cache.recalls generation q'.key).isNone := by
        intro q' _
        rw [hafter]
        split
        · rename_i hkey
          rw [hkey, hknown]
          rfl
        · rfl
      rw [List.filter_congr hsame, List.filter_cons_of_neg (by simp [hknown])]
      rfl
    | none =>
      have hfewer : ∀ q' ∈ qs, ((r.card q.db q.name).2.cache.recalls generation q'.key).isNone =
          (q'.key != q.key && (r.cache.recalls generation q'.key).isNone) := by
        intro q' _
        rw [hafter]
        by_cases hkey : q'.key = q.key <;> simp [hkey]
      rw [List.filter_congr hfewer, List.filter_cons_of_pos (by simp [hknown]), Query.firsts_cons,
        List.filter_filter]
      rfl

/-- Every query is answered by what is remembered under its key, or else as the strategy answered the
question for its key. -/
theorem answers_cards (hqs : ∀ q ∈ qs, q.db.generation = generation) :
    List.Forall₂ (fun q answer => r.cache.recalls generation q.key = some answer ∨
        r.cache.recalls generation q.key = none ∧
          ∃ asked ∈ r.asked qs, asked.query.key = q.key ∧ asked.answer = answer)
      qs (r.cards qs).1 := by
  induction qs generalizing r with
  | nil => exact .nil
  | cons q qs ih =>
    obtain ⟨hq, hqs⟩ := List.forall_mem_cons.mp hqs
    have hself : r.cache.recalls generation q.key = some (r.card q.db q.name).1 ∨
        r.cache.recalls generation q.key = none ∧ ∃ asked ∈ r.asked (q :: qs),
          asked.query.key = q.key ∧ asked.answer = (r.card q.db q.name).1 := by
      rw [asked_cons, askedFor, hq]
      cases hknown : r.cache.recalls generation q.key with
      | some answer => exact .inl (by rw [card_of_recalled (hq ▸ hknown)])
      | none => exact .inr ⟨rfl, ⟨q, _⟩, List.mem_append_left _ List.mem_cons_self, rfl, rfl⟩
    refine .cons hself ((ih (r := (r.card q.db q.name).2) hqs).imp fun q' answer h => ?_)
    rw [recalls_card_of_mem hq] at h
    by_cases hkey : q'.key = q.key
    · rw [if_pos hkey] at h
      obtain rfl : (r.card q.db q.name).1 = answer := by simpa using h
      rw [hkey]
      exact hself
    · rw [if_neg hkey, asked_cons] at *
      exact h.imp_right fun ⟨hnone, asked, hasked, h⟩ =>
        ⟨hnone, asked, List.mem_append_right _ hasked, h⟩

theorem generation_cards (hne : qs ≠ []) (hqs : ∀ q ∈ qs, q.db.generation = generation) :
    (r.cards qs).2.cache.generation = some generation := by
  induction qs generalizing r with
  | nil => exact absurd rfl hne
  | cons q qs ih =>
    obtain ⟨hq, hqs⟩ := List.forall_mem_cons.mp hqs
    cases qs with
    | nil => rw [cards_cons, cards_nil, ← hq]; exact generation_card r q.db q.name
    | cons q' qs =>
      have hlater := ih (r := (r.card q.db q.name).2) (List.cons_ne_nil _ _) hqs
      rwa [cards_cons]

/-- What the strategy is asked and what is answered, when the answers under some keys are known. -/
structure AsksOnce (r : Resolver σ) (known : String → Option (Option CardId)) (qs : List Query) :
    Prop where
  /-- With notes of the questions the same is answered, and the same is remembered. -/
  noted : (r.noting []).cards qs = ((r.cards qs).1, (r.cards qs).2.noting (r.asked qs))
  asked : (r.asked qs).map (·.query) = Query.firsts (qs.filter fun q => (known q.key).isNone)
  keys : (r.asked qs).map (·.query.key) =
    ((qs.map Query.key).filter fun key => (known key).isNone).eraseDups
  answers : List.Forall₂ (fun q answer => known q.key = some answer ∨
    known q.key = none ∧ ∃ asked ∈ r.asked qs, asked.query.key = q.key ∧ asked.answer = answer)
    qs (r.cards qs).1

theorem asksOnce_recalled (hqs : ∀ q ∈ qs, q.db.generation = generation) :
    r.AsksOnce (r.cache.recalls generation) qs where
  noted := cards_noting r [] qs
  asked := query_asked hqs
  keys := by
    have hkeys : (r.asked qs).map (·.query.key) = ((r.asked qs).map (·.query)).map Query.key := by
      rw [List.map_map]
      rfl
    rw [hkeys, query_asked hqs, Query.map_key_firsts, List.filter_map]
    rfl
  answers := answers_cards hqs

/-- About a catalog of which nothing is remembered yet, the strategy is asked for the first name of each
key. Later on, it is asked for those of which nothing is remembered, and for all of them again when
the catalog has changed. -/
theorem asks_once (hqs : ∀ q ∈ qs, q.db.generation = generation) :
    (r.cache.generation ≠ some generation → r.AsksOnce (fun _ => none) qs) ∧
    r.AsksOnce (r.cache.recalls generation) qs ∧
    ∀ later generation', qs ≠ [] → generation' ≠ generation →
      (∀ q ∈ later, q.db.generation = generation') →
      r.cards (qs ++ later) = ((r.cards qs).1 ++ ((r.cards qs).2.cards later).1,
        ((r.cards qs).2.cards later).2) ∧
      (r.cards qs).2.AsksOnce (fun _ => none) later := by
  have hnew : ∀ {r : Resolver σ} {generation qs}, (∀ q ∈ qs, q.db.generation = generation) →
      r.cache.generation ≠ some generation → r.AsksOnce (fun _ => none) qs := by
    intro r generation qs hqs hne
    rw [← NameCache.recalls_of_ne hne]
    exact asksOnce_recalled hqs
  refine ⟨hnew hqs, asksOnce_recalled hqs, ?_⟩
  intro later generation' hne hchanged hlater
  have hold := generation_cards (r := r) hne hqs
  exact ⟨cards_append r qs later, hnew hlater (by simpa [hold] using hchanged.symm)⟩

/-- Answers each question otherwise, and the first one with a miss. -/
def counting : Strategy Nat where
  card _ _ asked := (if asked = 0 then none else some ⟨asked⟩, asked + 1)
  expansion _ _ asked := (none, asked)

/-- A resolver that was told an answer before it was used. -/
def counter : Resolver Nat :=
  ⟨counting, NameCache.empty.insertCard "Dog" (some ⟨7⟩), 0⟩

def petQueries : List Query :=
  ["Dog", " DOG ", "Cat", "dog", "CAT"].map (⟨.empty, ·⟩)

def laterQueries : List Query :=
  ["cat", "Dog", "Cat"].map (⟨{ Database.empty with generation := 1 }, ·⟩)

theorem asks_once_counter : counter.AsksOnce (fun _ => none) petQueries ∧
    (counter.cards petQueries).1 = [none, none, some ⟨1⟩, none, some ⟨1⟩] ∧
    (counter.asked petQueries).map (·.query.name) = ["Dog", "Cat"] ∧
    (counter.cards petQueries).2.AsksOnce (fun _ => none) laterQueries ∧
    ((counter.cards petQueries).2.cards laterQueries).1 = [some ⟨2⟩, some ⟨3⟩, some ⟨2⟩] := by
  have hfirst : ∀ q ∈ petQueries, q.db.generation = 0 := by simp [petQueries, Database.empty]
  have hlater : ∀ q ∈ laterQueries, q.db.generation = 1 := by simp [laterQueries]
  obtain ⟨honce, _, hagain⟩ := asks_once (r := counter) hfirst
  obtain ⟨_, hrenewed⟩ := hagain laterQueries 1 (by simp [petQueries]) (by decide) hlater
  exact ⟨honce (by decide), by decide +kernel, by decide +kernel, hrenewed, by decide +kernel⟩

end Resolver
end CardBinder
