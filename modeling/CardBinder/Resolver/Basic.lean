import CardBinder.Resolver.Cache
import CardBinder.Resolver.Strategy

/-! A strategy together with the answers it gave: each name is looked up once for each catalog. -/

namespace CardBinder

structure Resolver (σ : Type) where
  strategy : Strategy σ
  cache : NameCache
  /-- What the strategy remembers. -/
  state : σ

namespace Resolver
variable {σ : Type}

def card (r : Resolver σ) (db : Database) (name : String) : Option CardId × Resolver σ :=
  let cache := r.cache.sync db
  match cache.card? name with
  | some known => (known, { r with cache })
  | none =>
    let (found, state) := r.strategy.card db name r.state
    (found, { r with cache := cache.insertCard name found, state })

def expansion (r : Resolver σ) (db : Database) (name : String) : Option LookupId × Resolver σ :=
  let cache := r.cache.sync db
  match cache.expansion? name with
  | some known => (known, { r with cache })
  | none =>
    let (found, state) := r.strategy.expansion db name r.state
    (found, { r with cache := cache.insertExpansion name found, state })

/-- Another strategy starts without answers. -/
def setStrategy (r : Resolver σ) (strategy : Strategy σ) : Resolver σ :=
  { r with strategy, cache := r.cache.invalidate }

def invalidate (r : Resolver σ) : Resolver σ :=
  { r with cache := r.cache.invalidate }

end Resolver
end CardBinder
