import Orchestration.Record
import Orchestration.Store.Gate

/-!
# Keyed records and their cache

The desired-state records of applications and of local services are kept by identifier.  The
durable store answers single look-ups by the key that a record was written under, and lists its
records by the identifier that they carry.

`RecordProxy` is a read-through cache in front of the gated store.  It remembers the answer to
every single look-up, a missing record included, and the full listing once it was asked for.
Writes go to the store first and reach the cache only when the store took them.

Main definitions: `Records.list`, `RecordProxy.get`, `RecordProxy.list`, `RecordProxy.update`,
`RecordProxy.delete`, `RecordProxy.purge`.
-/

namespace Orchestration

/-- A desired-state record that carries its own identifier. -/
class Identified (ρ : Type) where
  ownId : ρ → DeployableId

instance : Identified ApplicationRecord :=
  ⟨ApplicationRecord.appId⟩

instance : Identified LocalServiceRecord :=
  ⟨LocalServiceRecord.serviceId⟩

/-- The durable records by the key that they were written under. -/
abbrev Records (ρ : Type) : Type :=
  SortedMap DeployableId ρ

namespace Records

variable {ρ : Type} [Identified ρ]

/-- All records, sorted by the identifier that they carry. -/
def list (r : Records ρ) : List ρ :=
  r.values.mergeSort (fun a b => (compare (Identified.ownId a) (Identified.ownId b)).isLE)

end Records

/-- What a cache knows of the durable records.  An identifier known to have no record is kept as
such; `complete` says that the full listing was loaded. -/
structure RecordCache (ρ : Type) where
  known : SortedMap DeployableId (Option ρ) := ∅
  complete : Bool := false

namespace RecordCache

variable {ρ : Type} [Identified ρ]

instance : Inhabited (RecordCache ρ) :=
  ⟨{}⟩

/-- Whether the answer for an identifier is known. -/
def knows (c : RecordCache ρ) (id : DeployableId) : Bool :=
  c.complete || c.known.contains id

/-- The known record of an identifier. -/
def get (c : RecordCache ρ) (id : DeployableId) : Option ρ :=
  (c.known.find? id).join

/-- The known records in the order of their identifiers. -/
def values (c : RecordCache ρ) : List ρ :=
  c.known.values.filterMap id

/-- Remembers the answer for an identifier. -/
def set (c : RecordCache ρ) (id : DeployableId) (r : Option ρ) : RecordCache ρ :=
  { c with known := c.known.insert id r }

/-- Remembers a full listing; of records with one identifier the last is kept. -/
def fill (rs : List ρ) : RecordCache ρ :=
  ⟨rs.foldl (fun m r => m.insert (Identified.ownId r) (some r)) ∅, true⟩

end RecordCache

/-- A read-through cache in front of gated records. -/
structure RecordProxy (ρ : Type) where
  store : Gated (Records ρ)
  cache : RecordCache ρ := {}

namespace RecordProxy

variable {ρ : Type} [Identified ρ]

/-- Forgets everything that was read. -/
def purge (p : RecordProxy ρ) : RecordProxy ρ :=
  { p with cache := {} }

/-- The record of an identifier, loaded when it is not known. -/
def get (p : RecordProxy ρ) (id : DeployableId) : Option ρ × RecordProxy ρ :=
  if p.cache.knows id then (p.cache.get id, p)
  else
    let (answer, store) := p.store.read (fun r => r.find? id)
    let cache := p.cache.set id answer
    (cache.get id, { store := store, cache := cache })

/-- All records, loaded when the full listing is not known. -/
def list (p : RecordProxy ρ) : List ρ × RecordProxy ρ :=
  if p.cache.complete then (p.cache.values, p)
  else
    let (answer, store) := p.store.read Records.list
    let cache := RecordCache.fill answer
    (cache.values, { store := store, cache := cache })

/-- Writes a record under a key. -/
def update (p : RecordProxy ρ) (id : DeployableId) (r : ρ) : RecordProxy ρ × Bool :=
  match p.store.write (fun rs => rs.insert id r) with
  | (store, true) => ({ store := store, cache := p.cache.set id (some r) }, true)
  | (_, false) => (p, false)

/-- Deletes the record under a key. -/
def delete (p : RecordProxy ρ) (id : DeployableId) : RecordProxy ρ × Bool :=
  match p.store.write (fun rs => rs.erase id) with
  | (store, true) => ({ store := store, cache := p.cache.set id none }, true)
  | (_, false) => (p, false)

end RecordProxy
end Orchestration
