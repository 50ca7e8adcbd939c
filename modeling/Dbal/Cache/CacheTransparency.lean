/-
# The cache does not show

Whoever calls the adapter through the cache gets the answers that the adapter would give by itself,
in every run and whatever becomes of the entries, as long as no call fails that is to drop some and
nothing is rolled back (`cached_run_transparent`).  A read may be answered with what the cache printed
of the record and parsed again.

One invariant carries this: what a read would find in the cache is what is stored (`Coherent`).  Only
a back-fill adds to the cache, and it adds what is stored; a write drops at least what it may have
changed.
-/

import Dbal.Cache.CachedCalls
import Dbal.Cache.CachingAdapter
import Dbal.Codec.Search
import Dbal.JsonDump
import Dbal.Store.KeyedMapStore

namespace Dbal
namespace Cache

open Codec Decorated

/-! ### Keys -/

/-- A name that stands for itself in a pattern and ends where the id begins. -/
def IsPlainName (name : String) : Prop := ∀ c ∈ name.toList, Glob.IsPlain c ∧ c ≠ ':'

theorem recordKey_toList (entity id : String) :
    (recordKey entity id).toList = "dbal:cache:".toList ++ (entity.toList ++ ':' :: id.toList) := by
  simp [recordKey, kCacheKeyPrefix]

theorem entityScanPattern_toList (entity : String) :
    (entityScanPattern entity).toList = ("dbal:cache:".toList ++ entity.toList ++ [':']) ++ ['*'] := by
  simp [entityScanPattern, kCacheKeyPrefix]

/-- A key names one record. -/
theorem recordKey_inj {entity id entity' id' : String} (h : IsPlainName entity)
    (h' : IsPlainName entity') (hkey : recordKey entity id = recordKey entity' id') :
    entity = entity' ∧ id = id' := by
  have htext := congrArg String.toList hkey
  rw [recordKey_toList, recordKey_toList] at htext
  obtain ⟨hentity, hid⟩ := append_cons_inj (fun hmem => (h _ hmem).2 rfl)
    (fun hmem => (h' _ hmem).2 rfl) (List.append_cancel_left htext)
  exact ⟨String.toList_inj.1 hentity, String.toList_inj.1 hid⟩

/-- **The pattern of an entity matches the keys of its records.** -/
theorem scanPattern_matches {entity : String} (h : IsPlainName entity) (id : String) :
    globMatch (entityScanPattern entity).toList (recordKey entity id).toList = true := by
  rw [entityScanPattern_toList, globMatch_star_iff, recordKey_toList]
  · exact ⟨id.toList, by simp⟩
  · intro c hc
    rw [List.append_assoc, List.mem_append, List.mem_append] at hc
    rcases hc with hc | hc | hc
    · exact forall_mem_of_all (p := Glob.IsPlain) (by decide) c hc
    · exact (h c hc).1
    · obtain rfl := List.mem_singleton.1 hc
      decide

/-! ### What the calls to Redis do -/

section Redis

variable {α β : Type}

/-- Nothing comes into the cache. -/
def Shrinks (x : Act String Redis α) : Prop :=
  ∀ (redis : Redis) (key text : String), (x redis).2.state[key]? = some text →
    redis.state[key]? = some text

theorem Shrinks.pure (a : α) : Shrinks (Pure.pure a : Act String Redis α) := fun _ _ _ h => h

theorem Shrinks.bind {x : Act String Redis α} {f : α → Act String Redis β} (hx : Shrinks x)
    (hf : ∀ a, Shrinks (f a)) : Shrinks (x >>= f) := by
  intro redis key text h
  rcases Act.bind_cases x f redis with ⟨e, redis', hrun, hseq⟩ | ⟨a, redis', hrun, hseq⟩
  · rw [hseq] at h
    exact hx redis key text (by rwa [hrun])
  · rw [hseq] at h
    have hmid := hf a redis' key text h
    exact hx redis key text (by rwa [hrun])

theorem Shrinks.call {effect : Entries → Entries} {answer : Entries → α}
    (h : ∀ (entries : Entries) (key text : String), (effect entries)[key]? = some text →
      entries[key]? = some text) :
    Shrinks (Faulty.call fun entries => .ok (answer entries, effect entries)) := by
  intro redis key text hkey
  obtain ⟨faults, ⟨e, hcall⟩ | ⟨a, state, heffect, hcall | ⟨e, hcall⟩⟩⟩ :=
    Faulty.call_cases (ε := String) (fun entries => .ok (answer entries, effect entries)) redis
  · rwa [hcall] at hkey
  all_goals
    obtain ⟨rfl, rfl⟩ := Prod.mk.inj (Except.ok.inj heffect)
    rw [hcall] at hkey
    exact h redis.state key text hkey

/-- What is left after some keys are dropped. -/
theorem getElem?_foldl_erase (keys : List String) (entries : Entries) (key : String) :
    (keys.foldl Std.TreeMap.erase entries)[key]? = if key ∈ keys then none else entries[key]? := by
  induction keys generalizing entries with
  | nil => simp
  | cons k keys ih =>
      rw [List.foldl_cons, ih, Std.TreeMap.getElem?_erase]
      by_cases hk : key ∈ keys
      · simp [hk]
      · by_cases heq : k = key
        · simp [heq]
        · simp [hk, heq, Ne.symm heq]

theorem del_shrinks (keys : List String) : Shrinks (del keys) := by
  refine Shrinks.call fun entries key text h => ?_
  rw [getElem?_foldl_erase] at h
  split_ifs at h
  exact h

theorem scanOnce_shrinks : Shrinks scanOnce := Shrinks.call fun _ _ _ h => h

theorem unlinkBatches_shrinks (batches : List (List String)) : Shrinks (unlinkBatches batches) := by
  induction batches with
  | nil => exact Shrinks.pure ()
  | cons batch batches ih =>
      refine scanOnce_shrinks.bind fun _ => ?_
      split_ifs
      · exact ih
      · exact (del_shrinks batch).bind fun _ => ih

theorem invalidateRecord_shrinks (entityName id : String) :
    Shrinks (invalidateRecord entityName id) := by
  unfold invalidateRecord
  split_ifs
  · exact Shrinks.pure ()
  · exact del_shrinks _

theorem invalidateEntity_shrinks (server : Server) (entityName : String) :
    Shrinks (invalidateEntity server entityName) := fun redis =>
  unlinkBatches_shrinks (server.scan redis.state (entityScanPattern entityName)) redis

theorem del_faultless {redis : Redis} (h : redis.Faultless) (keys : List String) :
    del keys redis =
      (.ok (), ⟨keys.foldl Std.TreeMap.erase redis.state, redis.faults.tail⟩) :=
  h.call_ok rfl

/-- What is in one of the rounds is gone behind the loop. -/
theorem unlinkBatches_drops {batches : List (List String)} {redis : Redis} (h : redis.Faultless)
    {key : String} (hkey : redis.state[key]? = none ∨ ∃ batch ∈ batches, key ∈ batch) :
    (unlinkBatches batches redis).2.state[key]? = none := by
  induction batches generalizing redis with
  | nil => simpa [unlinkBatches] using hkey
  | cons batch batches ih =>
      have hscan : scanOnce redis = (.ok (), ⟨redis.state, redis.faults.tail⟩) :=
        h.call_ok rfl
      rw [unlinkBatches, Act.bind_ok hscan]
      have htail := h.tail redis.state
      split_ifs with hbatch
      · subst hbatch
        refine ih htail ?_
        simpa using hkey
      · rw [Act.bind_ok (del_faultless htail batch)]
        refine ih (htail.tail _) ?_
        rcases hkey with hkey | ⟨batch', hmem, hkey⟩
        · left
          rw [getElem?_foldl_erase]
          split_ifs <;> simp [hkey]
        · rcases List.mem_cons.1 hmem with rfl | hmem
          · left
            rw [getElem?_foldl_erase, if_pos hkey]
          · exact .inr ⟨batch', hmem, hkey⟩

theorem invalidateRecord_drops {redis : Redis} (h : redis.Faultless) {entityName id : String}
    (hid : id ≠ "") :
    (invalidateRecord entityName id redis).2.state[recordKey entityName id]? = none := by
  rw [invalidateRecord, if_neg hid, del_faultless h]
  simp

theorem invalidateEntity_drops (server : Server) {redis : Redis} (h : redis.Faultless)
    {entityName : String} (hplain : IsPlainName entityName) (id : String) :
    (invalidateEntity server entityName redis).2.state[recordKey entityName id]? = none := by
  refine unlinkBatches_drops h ?_
  by_cases hmem : recordKey entityName id ∈ redis.state
  · exact .inr (server.finds hmem (scanPattern_matches hplain id))
  · exact .inl (Std.TreeMap.getElem?_eq_none hmem)

end Redis

/-! ### The calls of the adapter -/

namespace CachingAdapter

variable {server : Server} {format : Format} {σ : Type} {inner : Adapter σ}

/-- A call that is handed on, and puts nothing into the cache. -/
structure HandsOn (direct : AdapterAnswer × σ) (before : Redis)
    (run : AdapterAnswer × Decorated σ Redis) : Prop extends HandedOn direct run where
  shrinks : ∀ key text : String, run.2.outer.state[key]? = some text → before.state[key]? = some text

theorem handsOn_delegate {α : Type} (wrap : Result α → AdapterAnswer) {call : Act Thrown σ (Result α)}
    {after : α → Act String Redis Unit} (h : ∀ a, Shrinks (after a)) (s : Decorated σ Redis) :
    HandsOn (answered wrap (call s.inner)) s.outer (answered wrap (delegate call after s)) := by
  refine ⟨handedOn_delegate wrap call after s, fun key text hkey => ?_⟩
  rw [answered_snd] at hkey
  by_cases hok : ∃ a, (call s.inner).1 = .ok (.ok a)
  · obtain ⟨a, ha⟩ := hok
    rw [delegate_ok ha] at hkey
    exact h a s.outer key text hkey
  · rwa [delegate_not_ok fun a ha => hok ⟨a, ha⟩] at hkey

theorem handsOn_onInner {α : Type} (wrap : α → AdapterAnswer) (call : Act Thrown σ α)
    (s : Decorated σ Redis) :
    HandsOn (answered wrap (call s.inner)) s.outer (answered wrap (onInner call s)) := by
  refine ⟨handedOn_onInner wrap call s, fun key text hkey => ?_⟩
  rwa [answered_snd] at hkey

/-- **Every call but a read is handed on.** -/
theorem perform_handsOn (server : Server) (format : Format) (inner : Adapter σ) {call : AdapterCall}
    (hread : ∀ entityName id, call ≠ .read entityName id) (s : Decorated σ Redis) :
    HandsOn (inner.perform call s.inner) s.outer ((adapter server format inner).perform call s) := by
  cases call with
  | read entityName id => exact absurd rfl (hread entityName id)
  | create entityName data =>
      exact handsOn_delegate _ (fun _ => invalidateRecord_shrinks _ _) s
  | update entityName id data =>
      exact handsOn_delegate _ (fun _ => invalidateRecord_shrinks _ _) s
  | remove entityName id => exact handsOn_delegate _ (fun _ => invalidateRecord_shrinks _ _) s
  | upsert entityName uniqueField uniqueValue createData updateData =>
      exact handsOn_delegate _ (fun _ => invalidateRecord_shrinks _ _) s
  | createMany entityName records =>
      exact handsOn_delegate _ (fun _ => invalidateEntity_shrinks server _) s
  | updateMany entityName filter data =>
      exact handsOn_delegate _ (fun _ => invalidateEntity_shrinks server _) s
  | deleteMany entityName filter =>
      exact handsOn_delegate _ (fun _ => invalidateEntity_shrinks server _) s
  | list entityName options => exact handsOn_onInner _ _ s
  | search entityName query limit => exact handsOn_onInner _ _ s
  | beginTransaction => exact handsOn_onInner _ _ s
  | commitTransaction => exact handsOn_onInner _ _ s
  | rollbackTransaction => exact handsOn_onInner _ _ s

/-- A call that succeeded, and the work after it. -/
theorem delegate_drops {α : Type} (wrap : Result α → AdapterAnswer)
    {call : Act Thrown σ (Result α)} {after : α → Act String Redis Unit} {s : Decorated σ Redis}
    {a : α} {s' : σ} (hcall : call s.inner = (.ok (.ok a), s')) {key : String}
    (h : (after a s.outer).2.state[key]? = none) :
    (answered wrap (delegate call after s)).2.outer.state[key]? = none := by
  have hok : (call s.inner).1 = .ok (.ok a) := by rw [hcall]
  rw [answered_snd, delegate_ok hok, h]

/-- **What a call may have changed is not in the cache behind it.** -/
theorem perform_drops {call : AdapterCall} {s : Decorated σ Redis} (hfaults : s.outer.Faultless)
    (hrollback : call ≠ .rollbackTransaction) (hplain : IsPlainName call.entityName)
    {entityName id : String}
    (hcovers : (call.scope (inner.perform call s.inner).1).Covers entityName id) :
    ((adapter server format inner).perform call s).2.outer.state[recordKey entityName id]? = none := by
  cases call with
  | create name data =>
      rcases hcall : inner.create name data s.inner with ⟨_ | _ | stored, s'⟩ <;>
        simp only [Adapter.perform, answered, hcall, AdapterCall.scope, Scope.Covers] at hcovers
      obtain ⟨hid, rfl, rfl⟩ := Scope.covers_ofRecord.1 hcovers
      exact delegate_drops _ hcall (invalidateRecord_drops hfaults hid)
  | update name key data =>
      rcases hcall : inner.update name key data s.inner with ⟨_ | _ | stored, s'⟩ <;>
        simp only [Adapter.perform, answered, hcall, AdapterCall.scope, Scope.Covers] at hcovers
      obtain ⟨hid, rfl, rfl⟩ := Scope.covers_ofRecord.1 hcovers
      exact delegate_drops _ hcall (invalidateRecord_drops hfaults hid)
  | remove name key =>
      rcases hcall : inner.remove name key s.inner with ⟨_ | _ | stored, s'⟩ <;>
        simp only [Adapter.perform, answered, hcall, AdapterCall.scope, Scope.Covers] at hcovers
      obtain ⟨hid, rfl, rfl⟩ := Scope.covers_ofRecord.1 hcovers
      exact delegate_drops _ hcall (invalidateRecord_drops hfaults hid)
  | upsert name uniqueField uniqueValue createData updateData =>
      rcases hcall : inner.upsert name uniqueField uniqueValue createData updateData s.inner with
        ⟨_ | _ | stored, s'⟩ <;>
        simp only [Adapter.perform, answered, hcall, AdapterCall.scope, Scope.Covers] at hcovers
      obtain ⟨hid, rfl, rfl⟩ := Scope.covers_ofRecord.1 hcovers
      exact delegate_drops _ hcall (invalidateRecord_drops hfaults hid)
  | createMany name records =>
      rcases hcall : inner.createMany name records s.inner with ⟨_ | _ | count, s'⟩ <;>
        simp only [Adapter.perform, answered, hcall, AdapterCall.scope, Scope.Covers] at hcovers
      subst hcovers
      exact delegate_drops _ hcall (invalidateEntity_drops server hfaults hplain id)
  | updateMany name filter data =>
      rcases hcall : inner.updateMany name filter data s.inner with ⟨_ | _ | count, s'⟩ <;>
        simp only [Adapter.perform, answered, hcall, AdapterCall.scope, Scope.Covers] at hcovers
      subst hcovers
      exact delegate_drops _ hcall (invalidateEntity_drops server hfaults hplain id)
  | deleteMany name filter =>
      rcases hcall : inner.deleteMany name filter s.inner with ⟨_ | _ | count, s'⟩ <;>
        simp only [Adapter.perform, answered, hcall, AdapterCall.scope, Scope.Covers] at hcovers
      subst hcovers
      exact delegate_drops _ hcall (invalidateEntity_drops server hfaults hplain id)
  | rollbackTransaction => exact absurd rfl hrollback
  | read name key => exact hcovers.elim
  | list name options => exact hcovers.elim
  | search name query limit => exact hcovers.elim
  | beginTransaction => exact hcovers.elim
  | commitTransaction => exact hcovers.elim

/-! ### Reading through the cache -/

/-- What `setex` leaves behind. -/
theorem setex_state (key value : String) (redis : Redis) :
    (setex key value redis).2.state = redis.state ∨
      (setex key value redis).2.state = redis.state.insert key value := by
  obtain ⟨faults, ⟨e, hcall⟩ | ⟨a, state, heffect, hcall | ⟨e, hcall⟩⟩⟩ :=
    Faulty.call_cases (ε := String) (fun entries : Entries => .ok ((), entries.insert key value)) redis
  · left
    rw [setex, hcall]
  all_goals
    right
    obtain ⟨rfl, rfl⟩ := Prod.mk.inj (Except.ok.inj heffect)
    rw [setex, hcall]

/-- A look into the cache is a hit, or it finds nothing of use. -/
theorem lookUp_cases (format : Format) (key : String) (s : Decorated σ Redis) :
    ∃ faults, lookUp format key s = (.ok none, ⟨s.inner, ⟨s.outer.state, faults⟩⟩) ∨
      ∃ text parsed, s.outer.state[key]? = some text ∧ format.parse text = some parsed ∧
        lookUp format key s = (.ok (some parsed), ⟨s.inner, ⟨s.outer.state, faults⟩⟩) := by
  obtain ⟨faults, ⟨e, hget⟩ | hget⟩ :=
    Faulty.read_cases (ε := String) (fun entries : Entries => entries[key]?) s.outer
  · refine ⟨faults, .inl ?_⟩
    simp [lookUp, Act.bind_apply, attempt, get, hget]
  · refine ⟨faults, ?_⟩
    cases htext : s.outer.state[key]? with
    | none =>
        left
        simp [lookUp, Act.bind_apply, attempt, get, hget, htext]
    | some text =>
        cases hparse : format.parse text with
        | none =>
            left
            simp [lookUp, Act.bind_apply, attempt, get, hget, htext, hparse]
        | some parsed =>
            right
            refine ⟨text, parsed, rfl, hparse, ?_⟩
            simp [lookUp, Act.bind_apply, attempt, get, hget, htext, hparse]

/-! ### Runs -/

/-- What happens to Redis before a call: some entries are gone, and the calls to come go in some way. -/
structure Weather where
  expired : List String := []
  faults : List (Option (Faulty.Fault String)) := []

def Weather.onto (weather : Weather) (redis : Redis) : Redis where
  state := weather.expired.foldl Std.TreeMap.erase redis.state
  faults := weather.faults

/-- Calls through the cache, one after the other. -/
def run (server : Server) (format : Format) (inner : Adapter σ) :
    List (Weather × AdapterCall) → Decorated σ Redis → List AdapterAnswer × Decorated σ Redis
  | [], s => ([], s)
  | (weather, call) :: steps, s =>
      let done := (adapter server format inner).perform call ⟨s.inner, weather.onto s.outer⟩
      let rest := run server format inner steps done.2
      (done.1 :: rest.1, rest.2)

/-- What the cache answers, beside what the adapter answers by itself: the same, or a record that was
printed and parsed. -/
def Alike (format : Format) (call : AdapterCall) (direct cached : AdapterAnswer) : Prop :=
  cached = direct ∨ ∃ entityName id record parsed, call = .read entityName id ∧
    direct = .record (.ok record) ∧ cached = .record (.ok parsed) ∧
    format.parse (format.dump record) = some parsed

/-- The answers to some calls. -/
def AllAlike (format : Format) :
    List AdapterCall → List AdapterAnswer → List AdapterAnswer → Prop
  | [], [], [] => True
  | call :: calls, direct :: directs, cached :: cacheds =>
      Alike format call direct cached ∧ AllAlike format calls directs cacheds
  | _, _, _ => False

/-- A read, or a call that is no rollback and finds Redis working. -/
def SafeStep (step : Weather × AdapterCall) : Prop :=
  (∃ entityName id, step.2 = .read entityName id) ∨
    step.2 ≠ .rollbackTransaction ∧ ∀ fault ∈ step.1.faults, fault = none

section Coherence

variable {Made : AdapterCall → Prop}

/-- What a read would find in the cache is a record that is `Good`, printed and parsed. -/
def Backed (format : Format) (Made : AdapterCall → Prop) (Good : String → String → Json → Prop)
    (redis : Redis) : Prop :=
  ∀ entityName id, Made (.read entityName id) → ∀ (text : String) (parsed : Json),
    redis.state[recordKey entityName id]? = some text → format.parse text = some parsed →
      ∃ record, Good entityName id record ∧ format.parse (format.dump record) = some parsed

variable {Good Good' : String → String → Json → Prop} {redis : Redis}

theorem Backed.mono (h : Backed format Made Good redis)
    (hgood : ∀ {entityName id record}, Good entityName id record → Good' entityName id record) :
    Backed format Made Good' redis := by
  intro entityName id hmade text parsed htext hparse
  obtain ⟨record, hrecord, hdump⟩ := h entityName id hmade text parsed htext hparse
  exact ⟨record, hgood hrecord, hdump⟩

theorem Backed.shrink (h : Backed format Made Good redis) {redis' : Redis}
    (hshrinks : ∀ key text : String, redis'.state[key]? = some text →
      redis.state[key]? = some text) : Backed format Made Good redis' :=
  fun entityName id hmade text parsed htext hparse =>
    h entityName id hmade text parsed (hshrinks _ _ htext) hparse

theorem Backed.weather (h : Backed format Made Good redis) (weather : Weather) :
    Backed format Made Good (weather.onto redis) := by
  refine h.shrink fun key text htext => ?_
  rw [Weather.onto, getElem?_foldl_erase] at htext
  split_ifs at htext
  exact htext

theorem Backed.start : Backed format Made Good ⟨∅, []⟩ := by
  intro entityName id _ text parsed htext _
  rw [Std.TreeMap.getElem?_emptyc] at htext
  cases htext

/-- A back-fill. -/
theorem Backed.setex (h : Backed format Made Good redis)
    (hplain : ∀ entityName id, Made (.read entityName id) → IsPlainName entityName)
    {entityName id : String} (hmade : Made (.read entityName id)) {record : Json}
    (hrecord : Good entityName id record) :
    Backed format Made Good (setex (recordKey entityName id) (format.dump record) redis).2 := by
  intro name key hmade' text parsed htext hparse
  rcases setex_state (recordKey entityName id) (format.dump record) redis with hset | hset
  · rw [hset] at htext
    exact h name key hmade' text parsed htext hparse
  · rw [hset, Std.TreeMap.getElem?_insert] at htext
    split_ifs at htext with hkey
    · obtain ⟨rfl, rfl⟩ := recordKey_inj (hplain _ _ hmade) (hplain _ _ hmade')
        (Std.LawfulEqOrd.eq_of_compare hkey)
      obtain rfl := Option.some.inj htext
      exact ⟨record, hrecord, hparse⟩
    · exact h name key hmade' text parsed htext hparse

/-- What a read that misses leaves in the cache. -/
def backFill (format : Format) (entityName id : String) : Result Json → Redis → Redis
  | .ok record, redis => (Cache.setex (recordKey entityName id) (format.dump record) redis).2
  | .error _, redis => redis

theorem readThrough_eq {entityName id : String} {result : Result Json} {s : Decorated σ Redis}
    (h : inner.read entityName id s.inner = (.ok result, s.inner)) :
    readThrough format inner entityName id s =
      (.ok result, ⟨s.inner, backFill format entityName id result s.outer⟩) := by
  cases result <;> simp [readThrough, delegate, Act.bind_apply, onInner, attempt, backFill, h]

/-- **A read adds to the cache what the adapter has**, and answers with that or with what is in the
cache. -/
theorem Backed.read (server : Server) (keyed : Keyed inner Made) {s : Decorated σ Redis}
    (h : Backed format Made Good s.outer) (hvalid : keyed.Valid s.inner)
    (hplain : ∀ entityName id, Made (.read entityName id) → IsPlainName entityName)
    {entityName id : String} (hmade : Made (.read entityName id))
    (hgood : ∀ {record}, keyed.record s.inner entityName id = .ok record →
      Good entityName id record) :
    ((adapter server format inner).perform (.read entityName id) s).2.inner = s.inner ∧
      Backed format Made Good
        ((adapter server format inner).perform (.read entityName id) s).2.outer ∧
      (((adapter server format inner).perform (.read entityName id) s).1 =
          .record (keyed.record s.inner entityName id) ∨
        ∃ record parsed, Good entityName id record ∧
          format.parse (format.dump record) = some parsed ∧
          ((adapter server format inner).perform (.read entityName id) s).1 =
            .record (.ok parsed)) := by
  have hread : (adapter server format inner).perform (.read entityName id) s =
      answered .record (CachingAdapter.read format inner entityName id s) := rfl
  rw [hread]
  obtain ⟨faults, hmiss | ⟨text, parsed, htext, hparse, hhit⟩⟩ :=
    lookUp_cases format (recordKey entityName id) s
  · have hdirect := keyed.read_eq hmade hvalid
    have hlooked : Backed format Made Good ⟨s.outer.state, faults⟩ := h.shrink fun _ _ h => h
    have hthrough : CachingAdapter.read format inner entityName id s =
        (.ok (keyed.record s.inner entityName id), ⟨s.inner,
          backFill format entityName id (keyed.record s.inner entityName id)
            ⟨s.outer.state, faults⟩⟩) := by
      rw [CachingAdapter.read, Act.bind_ok hmiss]
      exact readThrough_eq hdirect
    rw [hthrough]
    refine ⟨rfl, ?_, .inl rfl⟩
    cases hrecord : keyed.record s.inner entityName id with
    | error e => exact hlooked
    | ok record => exact hlooked.setex hplain hmade (hgood hrecord)
  · rw [CachingAdapter.read, Act.bind_ok hhit]
    obtain ⟨record, hrecord, hdump⟩ := h entityName id hmade text parsed htext hparse
    exact ⟨rfl, h.shrink fun _ _ h => h, .inr ⟨record, parsed, hrecord, hdump, rfl⟩⟩

/-- What a read would find in the cache is what is stored. -/
def Coherent (format : Format) (keyed : Keyed inner Made) (s : Decorated σ Redis) : Prop :=
  Backed format Made (fun entityName id record =>
    keyed.record s.inner entityName id = .ok record) s.outer

variable {keyed : Keyed inner Made}

/-- **A call that is no read leaves the cache coherent**, unless it is a rollback or Redis fails. -/
theorem Coherent.write (server : Server) {s : Decorated σ Redis} (h : Coherent format keyed s)
    (hvalid : keyed.Valid s.inner) {call : AdapterCall} (hmade : Made call)
    (hplain : IsPlainName call.entityName) (hread : ∀ entityName id, call ≠ .read entityName id)
    (hrollback : call ≠ .rollbackTransaction) (hfaults : s.outer.Faultless) :
    Coherent format keyed ((adapter server format inner).perform call s).2 := by
  have hon := perform_handsOn server format inner hread s
  intro entityName id hmade' text parsed htext hparse
  obtain ⟨record, hrecord, hdump⟩ :=
    h entityName id hmade' text parsed (hon.shrinks _ _ htext) hparse
  refine ⟨record, ?_, hdump⟩
  rw [hon.inner]
  refine keyed.keeps hmade hvalid hmade' (fun hcovers => ?_) hrecord
  rw [perform_drops hfaults hrollback hplain hcovers] at htext
  cases htext

/-- **A read leaves the cache coherent**, and answers with what is stored. -/
theorem Coherent.read (server : Server) {s : Decorated σ Redis} (h : Coherent format keyed s)
    (hvalid : keyed.Valid s.inner)
    (hplain : ∀ entityName id, Made (.read entityName id) → IsPlainName entityName)
    {entityName id : String} (hmade : Made (.read entityName id)) :
    Alike format (.read entityName id) (inner.perform (.read entityName id) s.inner).1
        ((adapter server format inner).perform (.read entityName id) s).1 ∧
      ((adapter server format inner).perform (.read entityName id) s).2.inner = s.inner ∧
      Coherent format keyed ((adapter server format inner).perform (.read entityName id) s).2 := by
  obtain ⟨hinner, hbacked, hanswer⟩ :=
    Backed.read server keyed h hvalid hplain hmade fun h => h
  have hdirect : (inner.perform (.read entityName id) s.inner).1 =
      .record (keyed.record s.inner entityName id) := by
    rw [Adapter.perform, keyed.read_eq hmade hvalid]
    rfl
  refine ⟨?_, hinner, by rw [Coherent, hinner]; exact hbacked⟩
  rw [hdirect]
  rcases hanswer with hsame | ⟨record, parsed, hrecord, hdump, hanswer⟩
  · exact .inl hsame
  · exact .inr ⟨entityName, id, record, parsed, rfl, by rw [hrecord], hanswer, hdump⟩

/-- A run, from a cache that is coherent. -/
theorem run_of_coherent (server : Server) {s : Decorated σ Redis} (h : Coherent format keyed s)
    (hvalid : keyed.Valid s.inner)
    (hplain : ∀ call, Made call → IsPlainName call.entityName) {steps : List (Weather × AdapterCall)}
    (hsteps : ∀ step ∈ steps, Made step.2 ∧ SafeStep step) :
    AllAlike format (steps.map Prod.snd) (inner.performAll (steps.map Prod.snd) s.inner).1
        (run server format inner steps s).1 ∧
      (run server format inner steps s).2.inner =
        (inner.performAll (steps.map Prod.snd) s.inner).2 := by
  induction steps generalizing s with
  | nil => exact ⟨trivial, rfl⟩
  | cons step steps ih =>
      obtain ⟨weather, call⟩ := step
      obtain ⟨hmade, hsafe⟩ := hsteps _ List.mem_cons_self
      have hrest := fun step hstep => hsteps step (List.mem_cons_of_mem _ hstep)
      have hstart : Coherent format keyed ⟨s.inner, weather.onto s.outer⟩ := Backed.weather h weather
      have hnext := keyed.valid hmade hvalid
      by_cases hread : ∃ entityName id, call = .read entityName id
      · obtain ⟨entityName, id, rfl⟩ := hread
        obtain ⟨halike, hinner, hcoherent⟩ := hstart.read server hvalid
          (fun name key hkey => hplain _ hkey) hmade
        have hsame : (inner.perform (.read entityName id) s.inner).2 = s.inner := by
          rw [Adapter.perform, answered_snd, keyed.read_eq hmade hvalid]
        have hrun := ih hcoherent (by rw [hinner]; exact hvalid) hrest
        rw [hinner] at hrun
        refine ⟨⟨halike, ?_⟩, ?_⟩
        · rw [hsame]
          exact hrun.1
        · rw [List.map_cons, Adapter.performAll, hsame]
          exact hrun.2
      · have hread' : ∀ entityName id, call ≠ .read entityName id :=
          fun entityName id heq => hread ⟨entityName, id, heq⟩
        obtain ⟨hrollback, hfaults⟩ := hsafe.resolve_left hread
        have hon := perform_handsOn server format inner hread'
          ⟨s.inner, weather.onto s.outer⟩
        have hrun := ih (hstart.write server hvalid hmade (hplain call hmade) hread'
          hrollback hfaults) (by rw [hon.inner]; exact hnext) hrest
        rw [hon.inner] at hrun
        exact ⟨⟨.inl hon.answer, hrun.1⟩, hrun.2⟩

/-! ### Runs in which Redis fails -/

/-- A record that the adapter had at the start of the calls or behind one of them. -/
def WasStored (keyed : Keyed inner Made) (s : σ) (calls : List AdapterCall)
    (entityName id : String) (record : Json) : Prop :=
  ∃ done, done <+: calls ∧ keyed.record (inner.performAll done s).2 entityName id = .ok record

theorem run_append (server : Server) (format : Format) (inner : Adapter σ)
    (steps steps' : List (Weather × AdapterCall)) (s : Decorated σ Redis) :
    (run server format inner (steps ++ steps') s).2 =
      (run server format inner steps' (run server format inner steps s).2).2 := by
  induction steps generalizing s with
  | nil => rfl
  | cons step steps ih => exact ih _

/-- **A step keeps the adapter where it would be without the cache**, and what is in the cache was once
stored, also where Redis fails or something is rolled back. -/
theorem step_wasStored (server : Server) {s : σ} {calls : List AdapterCall} {cached : Decorated σ Redis}
    (hinner : cached.inner = (inner.performAll calls s).2) (hvalid : keyed.Valid cached.inner)
    (hbacked : Backed format Made (WasStored keyed s calls) cached.outer)
    (hplain : ∀ entityName id, Made (.read entityName id) → IsPlainName entityName)
    {call : AdapterCall} (hmade : Made call) (weather : Weather) :
    ((adapter server format inner).perform call ⟨cached.inner, weather.onto cached.outer⟩).2.inner =
        (inner.performAll (calls ++ [call]) s).2 ∧
      Backed format Made (WasStored keyed s (calls ++ [call]))
        ((adapter server format inner).perform call ⟨cached.inner, weather.onto cached.outer⟩).2.outer := by
  have hnext : (inner.performAll (calls ++ [call]) s).2 = (inner.perform call cached.inner).2 := by
    rw [Adapter.performAll_append, ← hinner]
    rfl
  have hstart : Backed format Made (WasStored keyed s (calls ++ [call])) (weather.onto cached.outer) :=
    (hbacked.weather weather).mono fun ⟨done, hdone, hrecord⟩ =>
      ⟨done, hdone.trans (List.prefix_append calls [call]), hrecord⟩
  rw [hnext]
  by_cases hread : ∃ entityName id, call = .read entityName id
  · obtain ⟨entityName, id, rfl⟩ := hread
    obtain ⟨hsame, hafter, -⟩ := Backed.read server keyed
      (s := ⟨cached.inner, weather.onto cached.outer⟩) hstart hvalid hplain hmade
      fun hrecord => ⟨calls, List.prefix_append calls _, by rw [← hinner, hrecord]⟩
    refine ⟨?_, hafter⟩
    rw [hsame, Adapter.perform, answered_snd, keyed.read_eq hmade hvalid]
  · have hon := perform_handsOn server format inner
      (fun entityName id heq => hread ⟨entityName, id, heq⟩) ⟨cached.inner, weather.onto cached.outer⟩
    exact ⟨hon.inner, hstart.shrink hon.shrinks⟩

theorem run_wasStored (server : Server) (format : Format) {s : σ} (hvalid : keyed.Valid s)
    (hplain : ∀ entityName id, Made (.read entityName id) → IsPlainName entityName)
    {steps : List (Weather × AdapterCall)} (hsteps : ∀ call ∈ steps.map Prod.snd, Made call) :
    (run server format inner steps ⟨s, ⟨∅, []⟩⟩).2.inner =
        (inner.performAll (steps.map Prod.snd) s).2 ∧
      Backed format Made (WasStored keyed s (steps.map Prod.snd))
        (run server format inner steps ⟨s, ⟨∅, []⟩⟩).2.outer := by
  induction steps using List.reverseRecOn with
  | nil => exact ⟨rfl, Backed.start⟩
  | append_singleton steps step ih =>
      rw [List.map_append, List.map_singleton] at hsteps ⊢
      have hbefore := fun call hcall => hsteps call (List.mem_append_left [step.2] hcall)
      obtain ⟨hinner, hbacked⟩ := ih hbefore
      have hvalid' := keyed.valid_performAll hvalid hbefore
      rw [← hinner] at hvalid'
      rw [run_append]
      exact step_wasStored server hinner hvalid' hbacked hplain
        (hsteps step.2 (List.mem_append_right _ List.mem_cons_self)) step.1

end Coherence

/-- **Nobody sees the cache.**  From an empty cache on, every call of a run is answered as the adapter
answers it by itself, up to a record that was printed and parsed, and the adapter goes through the
same states. -/
theorem cached_run_transparent {Made : AdapterCall → Prop} (keyed : Keyed inner Made)
    (hplain : ∀ call, Made call → IsPlainName call.entityName)
    (server : Server) (format : Format) {s : σ} (hvalid : keyed.Valid s)
    {steps : List (Weather × AdapterCall)} (hsteps : ∀ step ∈ steps, Made step.2 ∧ SafeStep step) :
    AllAlike format (steps.map Prod.snd) (inner.performAll (steps.map Prod.snd) s).1
        (run server format inner steps ⟨s, ⟨∅, []⟩⟩).1 ∧
      (run server format inner steps ⟨s, ⟨∅, []⟩⟩).2.inner =
        (inner.performAll (steps.map Prod.snd) s).2 := by
  have hstart : Coherent format keyed ⟨s, ⟨∅, []⟩⟩ := Backed.start
  exact run_of_coherent server hstart hvalid hplain hsteps

/-- A server that finds the keys that match in one round. -/
def matchingServer : Server where
  scan entries pattern := [entries.keys.filter fun key => globMatch pattern.toList key.toList]
  finds := fun hkey hmatch =>
    ⟨_, List.mem_singleton_self _, List.mem_filter.2 ⟨Std.TreeMap.mem_keys.2 hkey, hmatch⟩⟩

/-- Records are printed, and the text of one record is read. -/
def sampleFormat : Format where
  dump := Json.dump fun _ _ => ""
  parse text := if text = "\x7b\"id\":\"u1\"\x7d" then some (.obj [("id", .str "u1")]) else none

abbrev sampleStore : Adapter MapStore := MapStore.adapter MapStore.anyEntity

/-- Calls that name an id, of an entity with a plain name. -/
def IsSampled (call : AdapterCall) : Prop :=
  MapStore.Serves (fun _ id => id ≠ "") call ∧ IsPlainName call.entityName

def sampleKeyed : Keyed sampleStore IsSampled := (MapStore.keyed fun _ _ h => h).mono And.left

theorem isSampled_user :
    IsSampled (.create "user" (.obj [("id", .str "u1")])) ∧ IsSampled (.read "user" "u1") ∧
      IsSampled (.remove "user" "u1") := by
  have hplain : IsPlainName "user" :=
    forall_mem_of_all (p := fun c => Glob.IsPlain c ∧ c ≠ ':') (by decide)
  have hid : "u1" ≠ "" := by decide
  refine ⟨⟨fun n => ?_, hplain⟩, ⟨hid, hplain⟩, ⟨hid, hplain⟩⟩
  rwa [show MapStore.newId (.obj [("id", .str "u1")]) n = "u1" from rfl]

/-- A record that is written, read twice, removed and read again; one of the reads cannot fill in. -/
def sampleSteps : List (Weather × AdapterCall) :=
  [({}, .create "user" (.obj [("id", .str "u1")])),
    ({ faults := [none, some (.lost "timeout")] }, .read "user" "u1"), ({}, .read "user" "u1"),
    ({}, .remove "user" "u1"), ({ expired := ["dbal:cache:user:u1"] }, .read "user" "u1")]

theorem sampleSteps_safe : ∀ step ∈ sampleSteps, IsSampled step.2 ∧ SafeStep step := by
  obtain ⟨hcreate, hread, hremove⟩ := isSampled_user
  rw [sampleSteps, List.forall_mem_cons, List.forall_mem_cons, List.forall_mem_cons,
    List.forall_mem_cons, List.forall_mem_singleton]
  exact ⟨⟨hcreate, .inr ⟨nofun, nofun⟩⟩, ⟨hread, .inl ⟨_, _, rfl⟩⟩, ⟨hread, .inl ⟨_, _, rfl⟩⟩,
    ⟨hremove, .inr ⟨nofun, nofun⟩⟩, ⟨hread, .inl ⟨_, _, rfl⟩⟩⟩

theorem sampleSteps_transparent :
    AllAlike sampleFormat (sampleSteps.map Prod.snd)
        (sampleStore.performAll (sampleSteps.map Prod.snd) {}).1
        (run matchingServer sampleFormat sampleStore sampleSteps ⟨{}, ⟨∅, []⟩⟩).1 ∧
      (run matchingServer sampleFormat sampleStore sampleSteps ⟨{}, ⟨∅, []⟩⟩).2.inner =
        (sampleStore.performAll (sampleSteps.map Prod.snd) {}).2 :=
  cached_run_transparent sampleKeyed (fun _ => And.right) matchingServer sampleFormat
    MapStore.Sound.start sampleSteps_safe

/-- **The cache never makes a record up.**  Whatever fails and whatever is rolled back, a read is
answered as the adapter answers it at that moment, or with what was printed and parsed of a record that
the adapter had under this very id at the start of the run or behind one of its calls. -/
theorem cached_read_was_stored {Made : AdapterCall → Prop} (keyed : Keyed inner Made)
    (hplain : ∀ entityName id, Made (.read entityName id) → IsPlainName entityName)
    (server : Server) (format : Format) {s : σ} (hvalid : keyed.Valid s)
    {steps : List (Weather × AdapterCall)} (hsteps : ∀ call ∈ steps.map Prod.snd, Made call)
    {entityName id : String} (hmade : Made (.read entityName id)) (weather : Weather)
    {cached : Decorated σ Redis} (hrun : (run server format inner steps ⟨s, ⟨∅, []⟩⟩).2 = cached) :
    ((adapter server format inner).perform (.read entityName id)
          ⟨cached.inner, weather.onto cached.outer⟩).1 =
        (inner.perform (.read entityName id) (inner.performAll (steps.map Prod.snd) s).2).1 ∨
      ∃ done record parsed, done <+: steps.map Prod.snd ∧
        inner.read entityName id (inner.performAll done s).2 =
          (.ok (.ok record), (inner.performAll done s).2) ∧
        format.parse (format.dump record) = some parsed ∧
        ((adapter server format inner).perform (.read entityName id)
          ⟨cached.inner, weather.onto cached.outer⟩).1 = .record (.ok parsed) := by
  obtain ⟨hinner, hbacked⟩ := run_wasStored server format hvalid hplain hsteps
  rw [hrun] at hinner hbacked
  have hvalid' := keyed.valid_performAll hvalid hsteps
  obtain ⟨-, -, hanswer⟩ := Backed.read server keyed
    (s := ⟨cached.inner, weather.onto cached.outer⟩) (hbacked.weather weather)
    (by rw [hinner]; exact hvalid') hplain hmade
    fun hrecord => ⟨steps.map Prod.snd, List.prefix_rfl, by rw [← hinner, hrecord]⟩
  rcases hanswer with hsame | ⟨record, parsed, ⟨done, hdone, hrecord⟩, hdump, hanswer⟩
  · left
    rw [hsame, Adapter.perform, keyed.read_eq hmade hvalid', hinner]
    rfl
  · refine .inr ⟨done, record, parsed, hdone, ?_, hdump, hanswer⟩
    have hvalid'' := keyed.valid_performAll hvalid fun call hcall => hsteps call (hdone.subset hcall)
    rw [keyed.read_eq hmade hvalid'', hrecord]

/-- A record that stays in the cache, since the request that drops it does not get through. -/
def staleSteps : List (Weather × AdapterCall) :=
  [({}, .create "user" (.obj [("id", .str "u1")])), ({}, .read "user" "u1"),
    ({ faults := [some (.refused "timeout")] }, .remove "user" "u1")]

theorem staleSteps_stored :
    ((adapter matchingServer sampleFormat sampleStore).perform (.read "user" "u1")
        ⟨(run matchingServer sampleFormat sampleStore staleSteps ⟨{}, ⟨∅, []⟩⟩).2.inner,
          Weather.onto {} (run matchingServer sampleFormat sampleStore staleSteps
            ⟨{}, ⟨∅, []⟩⟩).2.outer⟩).1 =
      (sampleStore.perform (.read "user" "u1")
        (sampleStore.performAll (staleSteps.map Prod.snd) {}).2).1 ∨
    ∃ done record parsed, done <+: staleSteps.map Prod.snd ∧
      sampleStore.read "user" "u1" (sampleStore.performAll done {}).2 =
        (.ok (.ok record), (sampleStore.performAll done {}).2) ∧
      sampleFormat.parse (sampleFormat.dump record) = some parsed ∧
      ((adapter matchingServer sampleFormat sampleStore).perform (.read "user" "u1")
        ⟨(run matchingServer sampleFormat sampleStore staleSteps ⟨{}, ⟨∅, []⟩⟩).2.inner,
          Weather.onto {} (run matchingServer sampleFormat sampleStore staleSteps
            ⟨{}, ⟨∅, []⟩⟩).2.outer⟩).1 = .record (.ok parsed) := by
  obtain ⟨hcreate, hread, hremove⟩ := isSampled_user
  refine cached_read_was_stored sampleKeyed (fun _ _ h => h.2) matchingServer sampleFormat
    MapStore.Sound.start ?_ hread {} rfl
  rw [staleSteps, List.map_cons, List.map_cons, List.map_singleton, List.forall_mem_cons,
    List.forall_mem_cons, List.forall_mem_singleton]
  exact ⟨hcreate, hread, hremove⟩

/-- The read is answered with a record that is gone. -/
example : ((adapter matchingServer sampleFormat sampleStore).perform (.read "user" "u1")
    (run matchingServer sampleFormat sampleStore staleSteps ⟨{}, ⟨∅, []⟩⟩).2).1 =
      .record (.ok (.obj [("id", .str "u1")])) := rfl

/-! ### One record

The adapter as `Dbal.CachingAdapter` has it: one record, and calls that no other comes between. -/

section OneRecord

variable {Made : AdapterCall → Prop} {keyed : Keyed inner Made} {entityName id : String}
  {s : Decorated σ Redis}

/-- The cache as far as one record goes, of which the adapter says this when it is not there. -/
def forRecord (format : Format) (missing : Error) : Dbal.CachingAdapter Json :=
  ⟨format.dump, format.parse, missing⟩

/-- A record as it is stored, and its entry. -/
def sharedOf (keyed : Keyed inner Made) (entityName id : String) (s : Decorated σ Redis) :
    Dbal.CachingAdapter.Shared Json where
  row := (keyed.record s.inner entityName id).toOption
  entry := s.outer.state[recordKey entityName id]?

theorem lookUp_faultless (format : Format) (hfaults : s.outer.Faultless) (key : String) :
    lookUp format key s =
      (.ok (s.outer.state[key]?.bind format.parse), ⟨s.inner, s.outer.state, s.outer.faults.tail⟩) := by
  have hget : get key s.outer = (.ok s.outer.state[key]?, ⟨s.outer.state, s.outer.faults.tail⟩) :=
    hfaults.call_ok rfl
  rw [lookUp, Act.bind_apply]
  cases htext : s.outer.state[key]? <;> simp [attempt, hget, htext]

/-- **Where Redis does not fail, a read is the `read` of the record and its entry.** -/
theorem read_shared (hfaults : s.outer.Faultless) (hvalid : keyed.Valid s.inner)
    (hmade : Made (.read entityName id)) {missing : Error}
    (hmissing : ∀ e, keyed.record s.inner entityName id = .error e → e = missing) :
    (CachingAdapter.read format inner entityName id s).1 =
        .ok ((forRecord format missing).read (sharedOf keyed entityName id s)).1 ∧
      sharedOf keyed entityName id (CachingAdapter.read format inner entityName id s).2 =
        ((forRecord format missing).read (sharedOf keyed entityName id s)).2 := by
  have hlook := lookUp_faultless format hfaults (recordKey entityName id)
  rw [CachingAdapter.read, Act.bind_ok hlook, Dbal.CachingAdapter.read]
  have hhit : (forRecord format missing).hit (sharedOf keyed entityName id s) =
      s.outer.state[recordKey entityName id]?.bind format.parse := rfl
  rw [hhit]
  cases s.outer.state[recordKey entityName id]?.bind format.parse with
  | some record => exact ⟨rfl, rfl⟩
  | none =>
      have hthrough : readThrough format inner entityName id
          ⟨s.inner, s.outer.state, s.outer.faults.tail⟩ =
          (.ok (keyed.record s.inner entityName id), ⟨s.inner,
            backFill format entityName id (keyed.record s.inner entityName id)
              ⟨s.outer.state, s.outer.faults.tail⟩⟩) :=
        readThrough_eq (keyed.read_eq hmade hvalid)
      have hrow : (sharedOf keyed entityName id s).row =
          (keyed.record s.inner entityName id).toOption := rfl
      dsimp only
      rw [hthrough, hrow]
      cases hrecord : keyed.record s.inner entityName id with
      | error e =>
          obtain rfl := hmissing e hrecord
          exact ⟨rfl, rfl⟩
      | ok record =>
          have hset : setex (recordKey entityName id) (format.dump record)
              ⟨s.outer.state, s.outer.faults.tail⟩ =
              (.ok (), ⟨s.outer.state.insert (recordKey entityName id) (format.dump record),
                s.outer.faults.tail.tail⟩) := (hfaults.tail _).call_ok rfl
          refine ⟨rfl, ?_⟩
          simp only [sharedOf, backFill, hset, hrecord, Std.TreeMap.getElem?_insert_self]
          rfl

/-- **Where Redis does not fail, a write of one record is the `update` of the record and its entry**,
with the write that the adapter makes of it. -/
theorem write_shared {α : Type} {call : Act Thrown σ (Result α)} (hfaults : s.outer.Faultless)
    (hid : id ≠ "") {result : Result α} {s₁ : σ} (hcall : call s.inner = (.ok result, s₁))
    (hrefused : ∀ e, result = .error e →
      (keyed.record s₁ entityName id).toOption = (keyed.record s.inner entityName id).toOption) :
    let written : Dbal.CachingAdapter.Write Json := fun _ =>
      result.map fun _ => (keyed.record s₁ entityName id).toOption
    (delegate call (fun _ => invalidateRecord entityName id) s).1 = .ok result ∧
      sharedOf keyed entityName id (delegate call (fun _ => invalidateRecord entityName id) s).2 =
        (Dbal.CachingAdapter.update written (sharedOf keyed entityName id s)).2 := by
  have hanswer := delegate_inner call (fun _ => invalidateRecord entityName id) s
  rw [hcall] at hanswer
  refine ⟨hanswer.1, ?_⟩
  cases result with
  | error e =>
      have hnot : ∀ a, (call s.inner).1 ≠ .ok (.ok a) := by
        intro a
        rw [hcall]
        exact nofun
      have houter : (delegate call (fun _ => invalidateRecord entityName id) s).2.outer = s.outer :=
        delegate_not_ok hnot _
      simp only [sharedOf, hanswer.2, houter, hrefused e rfl]
      rfl
  | ok a =>
      have houter : (delegate call (fun _ => invalidateRecord entityName id) s).2.outer =
          (invalidateRecord entityName id s.outer).2 := delegate_ok (by rw [hcall]) _
      simp only [sharedOf, hanswer.2, houter, invalidateRecord_drops hfaults hid]
      rfl

end OneRecord

end CachingAdapter
end Cache
end Dbal
