/-
# `CachingAdapter`, call by call

`src/cache/caching_adapter.cpp` and `cache_key.hpp`: a read-through cache in Redis around an adapter.
A read that misses goes to the adapter and is back-filled; a write goes to the adapter, and what it may
have changed is dropped: one key, or all that match the pattern of an entity.  Every call to Redis
may fail, carried out or not, and its failure is swallowed.

The time to live of an entry shows in nothing else than that it may be gone.
-/

import Std.Data.TreeMap
import Dbal.Adapters.AdapterCalls
import Dbal.Codec.Glob
import Dbal.Store.FaultyCalls

namespace Dbal
namespace Cache

open Codec Decorated

/-! ### Keys -/

/-- `kCacheKeyPrefix`. -/
def kCacheKeyPrefix : String := "dbal:cache"

/-- `recordKey`. -/
def recordKey (entity id : String) : String := kCacheKeyPrefix ++ ":" ++ entity ++ ":" ++ id

/-- `entityScanPattern`. -/
def entityScanPattern (entity : String) : String := kCacheKeyPrefix ++ ":" ++ entity ++ ":*"

/-! ### Redis -/

/-- The keys and their values. -/
abbrev Entries := Std.TreeMap String String

/-- Redis behind its client. -/
abbrev Redis := Faulty String Entries

/-- What a server finds in the rounds of a whole iteration: a key that matches and stays is in one of
them. -/
structure Server where
  scan : Entries → String → List (List String)
  finds : ∀ {entries : Entries} {pattern key}, key ∈ entries →
    globMatch pattern.toList key.toList = true → ∃ batch ∈ scan entries pattern, key ∈ batch

/-- `get`. -/
def get (key : String) : Act String Redis (Option String) :=
  Faulty.call fun entries => .ok (entries[key]?, entries)

/-- `setex`. -/
def setex (key value : String) : Act String Redis Unit :=
  Faulty.call fun entries => .ok ((), entries.insert key value)

/-- `del` and `unlink`. -/
def del (keys : List String) : Act String Redis Unit :=
  Faulty.call fun entries => .ok ((), keys.foldl Std.TreeMap.erase entries)

/-- One round of `scan`. -/
def scanOnce : Act String Redis Unit := Faulty.call fun entries => .ok ((), entries)

/-- The loop of `invalidateEntity`, over the rounds to come. -/
def unlinkBatches : List (List String) → Act String Redis Unit
  | [] => pure ()
  | batch :: batches => do
      scanOnce
      if batch = [] then unlinkBatches batches
      else do
        del batch
        unlinkBatches batches

variable (server : Server)

/-- `invalidateRecord`. -/
def invalidateRecord (entityName id : String) : Act String Redis Unit :=
  if id = "" then pure () else del [recordKey entityName id]

/-- `invalidateEntity`. -/
def invalidateEntity (entityName : String) : Act String Redis Unit := fun redis =>
  unlinkBatches (server.scan redis.state (entityScanPattern entityName)) redis

/-! ### The adapter -/

/-- How the records are printed and read; `none` is a discarded value. -/
structure Format where
  dump : Json → String
  parse : String → Option Json

namespace CachingAdapter

variable (format : Format) {σ : Type} (inner : Adapter σ)

/-- A look into the cache; what cannot be got or parsed is no hit. -/
def lookUp (key : String) : Act Thrown (Decorated σ Redis) (Option Json) := do
  match ← attempt (get key) with
  | .ok (some hit) => return format.parse hit
  | _ => return none

/-- The read of the adapter, and the back-fill. -/
def readThrough (entityName id : String) : Act Thrown (Decorated σ Redis) (Result Json) :=
  delegate (inner.read entityName id) fun record =>
    setex (recordKey entityName id) (format.dump record)

/-- `read`. -/
def read (entityName id : String) : Act Thrown (Decorated σ Redis) (Result Json) := do
  match ← lookUp format (recordKey entityName id) with
  | some parsed => return .ok parsed
  | none => readThrough format inner entityName id

/-- `CachingAdapter`. -/
def adapter : Adapter (Decorated σ Redis) where
  create entityName data := delegate (inner.create entityName data) fun stored =>
    invalidateRecord entityName (idFromRecord stored)
  read := read format inner
  update entityName id data := delegate (inner.update entityName id data) fun _ =>
    invalidateRecord entityName id
  remove entityName id := delegate (inner.remove entityName id) fun _ =>
    invalidateRecord entityName id
  list entityName options := onInner (inner.list entityName options)
  search entityName query limit := onInner (inner.search entityName query limit)
  createMany entityName records := delegate (inner.createMany entityName records) fun _ =>
    invalidateEntity server entityName
  updateMany entityName filter data := delegate (inner.updateMany entityName filter data) fun _ =>
    invalidateEntity server entityName
  deleteMany entityName filter := delegate (inner.deleteMany entityName filter) fun _ =>
    invalidateEntity server entityName
  upsert entityName uniqueField uniqueValue createData updateData :=
    delegate (inner.upsert entityName uniqueField uniqueValue createData updateData) fun stored =>
      invalidateRecord entityName (idFromRecord stored)
  getEntitySchema := inner.getEntitySchema
  beginTransaction := onInner inner.beginTransaction
  commitTransaction := onInner inner.commitTransaction
  rollbackTransaction := onInner inner.rollbackTransaction

end CachingAdapter
end Cache
end Dbal
