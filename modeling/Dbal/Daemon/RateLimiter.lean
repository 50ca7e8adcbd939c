/-
# `SimpleRateLimiter`

`src/daemon/server_routes.cpp`: at most so many calls for a key in a window, which the first call
for the key opens and a call some whole seconds later opens again.

As long as its window is not opened again the count of a key only grows, so that no more calls are
allowed than are left (`allowed_of_open`).  Two resets are a window apart (`resets_iff`), so that a
stretch of time as long as a window meets two windows at most (`allowedUntil_of_two`).  A call reads
and writes the entry of its own key (`filter_events`).
-/

import Mathlib.Algebra.Order.Ring.Int
import Mathlib.Data.List.Basic
import Std.Data.TreeMap.Lemmas

namespace Dbal
namespace Daemon

/-- `RateLimitEntry`; times are in nanoseconds of the steady clock. -/
structure RateLimitEntry where
  count : Int := 0
  windowStart : Int
  deriving DecidableEq, Repr

/-- The parameters of a `SimpleRateLimiter`. -/
structure SimpleRateLimiter where
  maxRequests : Int
  windowSeconds : Int
  deriving DecidableEq, Repr

/-- A call of `allow`, with the clock as it is read first, and as a new entry reads it. -/
structure AllowCall where
  key : String
  now : Int
  created : Int
  deriving DecidableEq, Repr

/-- `duration_cast<seconds>`. -/
def wholeSeconds (nanoseconds : Int) : Int := nanoseconds.tdiv 1000000000

namespace SimpleRateLimiter

variable (L : SimpleRateLimiter)

/-- The entry of a call's key, a new one where there is none. -/
def entryOf (entries : Std.TreeMap String RateLimitEntry) (call : AllowCall) : RateLimitEntry :=
  entries[call.key]?.getD { windowStart := call.created }

/-- A call that opens the window again. -/
def resets (entries : Std.TreeMap String RateLimitEntry) (call : AllowCall) : Bool :=
  L.windowSeconds ≤ wholeSeconds (call.now - (entryOf entries call).windowStart)

/-- `allow`. -/
def allow (entries : Std.TreeMap String RateLimitEntry) (call : AllowCall) :
    Bool × Std.TreeMap String RateLimitEntry :=
  let entry := entryOf entries call
  let entry := if L.resets entries call then { count := 0, windowStart := call.now } else entry
  if L.maxRequests ≤ entry.count then (false, entries.insert call.key entry)
  else (true, entries.insert call.key { entry with count := entry.count + 1 })

/-- A call in a run, and what came of it. -/
structure Event where
  call : AllowCall
  reset : Bool
  allowed : Bool
  deriving DecidableEq, Repr

/-- A run of calls. -/
def events (entries : Std.TreeMap String RateLimitEntry) : List AllowCall → List Event
  | [] => []
  | call :: calls =>
      ⟨call, L.resets entries call, (L.allow entries call).1⟩ ::
        events (L.allow entries call).2 calls

/-- The clock does not go back. -/
def Clocked (calls : List AllowCall) : Prop :=
  (∀ call ∈ calls, call.now ≤ call.created) ∧ calls.Pairwise fun c d => c.created ≤ d.now

/-- The calls for a key that were allowed. -/
def allowedFor (key : String) (es : List Event) : Nat :=
  es.countP fun e => e.call.key = key && e.allowed

/-- Those of them up to a time. -/
def allowedUntil (key : String) (last : Int) (es : List Event) : Nat :=
  es.countP fun e => e.call.key = key && e.allowed && e.call.now ≤ last

/-- Those of them in a stretch of time. -/
def allowedWithin (key : String) (first last : Int) (es : List Event) : Nat :=
  es.countP fun e => e.call.key = key && e.allowed && first ≤ e.call.now && e.call.now ≤ last

section Calls

variable {L} {entries entries' : Std.TreeMap String RateLimitEntry} {call : AllowCall}
  {calls : List AllowCall} {key : String} {e : RateLimitEntry}

/-! ## One call -/

/-- The entry that a call counts on. -/
def opened (L : SimpleRateLimiter) (entries : Std.TreeMap String RateLimitEntry)
    (call : AllowCall) : RateLimitEntry :=
  if L.resets entries call then { count := 0, windowStart := call.now } else entryOf entries call

theorem allow_eq : L.allow entries call =
    if L.maxRequests ≤ (L.opened entries call).count then
      (false, entries.insert call.key (L.opened entries call))
    else (true, entries.insert call.key
      { L.opened entries call with count := (L.opened entries call).count + 1 }) := rfl

theorem allow_fst :
    (L.allow entries call).1 = decide ((L.opened entries call).count < L.maxRequests) := by
  rw [allow_eq]
  split
  · next hfull => simp [hfull]
  · next hfull => simpa using hfull

/-- What a call leaves for its key: the entry that it counted on, and itself where allowed. -/
theorem getElem?_allow_self : (L.allow entries call).2[call.key]? = some
    { L.opened entries call with
      count := (L.opened entries call).count + if (L.allow entries call).1 then 1 else 0 } := by
  rw [allow_eq]
  split
  · simp
  · simp

theorem getElem?_allow_of_ne (L : SimpleRateLimiter) (h : call.key ≠ key) :
    (L.allow entries call).2[key]? = entries[key]? := by
  have hne : compare call.key key ≠ .eq := by simpa using h
  rw [allow_eq]
  split <;> rw [Std.TreeMap.getElem?_insert, if_neg hne]

/-- A whole number of seconds that is positive has passed. -/
theorem le_wholeSeconds_iff {w n : Int} (hw : 0 < w) : w ≤ wholeSeconds n ↔ w * 1000000000 ≤ n := by
  unfold wholeSeconds
  rcases le_or_gt 0 n with hn | hn
  · rw [Int.tdiv_eq_ediv_of_nonneg hn]
    omega
  · have hneg : 0 ≤ (-n).tdiv 1000000000 := Int.tdiv_nonneg (by omega) (by decide)
    rw [Int.neg_tdiv] at hneg
    omega

/-- **A window is opened again when it is over.** -/
theorem resets_iff (hw : 0 < L.windowSeconds) : L.resets entries call = true ↔
    (entryOf entries call).windowStart + L.windowSeconds * 1000000000 ≤ call.now := by
  rw [resets, decide_eq_true_eq, le_wholeSeconds_iff hw]
  omega

/-! ## Runs -/

theorem Clocked.tail (h : Clocked (call :: calls)) : Clocked calls :=
  ⟨fun c hc => h.1 c (List.mem_cons_of_mem call hc), (List.pairwise_cons.1 h.2).2⟩

/-- The calls after a call are not earlier. -/
theorem Clocked.now_le (h : Clocked (call :: calls)) : ∀ c ∈ calls, call.created ≤ c.now :=
  (List.pairwise_cons.1 h.2).1

/-- **The decisions for a key do not depend on the calls for other keys.** -/
theorem filter_events (h : entries[key]? = entries'[key]?) :
    (L.events entries calls).filter (·.call.key = key) =
      L.events entries' (calls.filter (·.key = key)) := by
  induction calls generalizing entries entries' with
  | nil => rfl
  | cons call calls ih =>
      by_cases hkey : call.key = key
      · subst hkey
        have hentry : entryOf entries call = entryOf entries' call := by rw [entryOf, h, entryOf]
        have hresets : L.resets entries call = L.resets entries' call := by
          rw [resets, hentry, resets]
        have hopened : L.opened entries call = L.opened entries' call := by
          rw [opened, hresets, hentry, opened]
        have hallow : (L.allow entries call).1 = (L.allow entries' call).1 := by
          rw [allow_fst, hopened, allow_fst]
        have hnext :
            (L.allow entries call).2[call.key]? = (L.allow entries' call).2[call.key]? := by
          rw [getElem?_allow_self, hopened, hallow, getElem?_allow_self]
        rw [events, List.filter_cons_of_pos (by simp), List.filter_cons_of_pos (by simp), events,
          ih hnext, hresets, hallow]
      · rw [events, List.filter_cons_of_neg (by simpa using hkey),
          List.filter_cons_of_neg (by simpa using hkey)]
        exact ih ((L.getElem?_allow_of_ne hkey).trans h)

/-- No count is below zero. -/
def Counted (entries : Std.TreeMap String RateLimitEntry) : Prop :=
  ∀ (key : String) (e : RateLimitEntry), entries[key]? = some e → 0 ≤ e.count

theorem Counted.opened_nonneg (h : Counted entries) (L : SimpleRateLimiter) (call : AllowCall) :
    0 ≤ (L.opened entries call).count := by
  unfold opened entryOf
  split
  · exact le_rfl
  · cases hentry : entries[call.key]? with
    | none => exact le_rfl
    | some e => exact h call.key e hentry

theorem Counted.allow (h : Counted entries) (L : SimpleRateLimiter) (call : AllowCall) :
    Counted (L.allow entries call).2 := by
  intro key e hentry
  by_cases hkey : call.key = key
  · subst hkey
    rw [getElem?_allow_self] at hentry
    obtain rfl := Option.some.inj hentry
    have hopened := h.opened_nonneg L call
    dsimp only
    split <;> omega
  · rw [L.getElem?_allow_of_ne hkey] at hentry
    exact h key e hentry

/-- The run behind some of its events. -/
theorem exists_of_events_eq_append (hcounted : Counted entries) {pre rest : List Event}
    (h : L.events entries calls = pre ++ rest) :
    ∃ entries' calls', Counted entries' ∧ rest = L.events entries' calls' := by
  induction pre generalizing entries calls with
  | nil => exact ⟨entries, calls, hcounted, h.symm⟩
  | cons first pre ih =>
      cases calls with
      | nil => cases h
      | cons call calls => exact ih (hcounted.allow L call) (List.cons.inj h).2

/-! ## What a window lets through -/

/-- What is left of a window. -/
def left (L : SimpleRateLimiter) (e : RateLimitEntry) : Nat := (L.maxRequests - e.count).toNat

theorem left_le (h : 0 ≤ e.count) : L.left e ≤ L.maxRequests.toNat := by
  unfold left
  omega

/-- **A call keeps the window that it counts on**, and takes one of what is left of it if it is
allowed. -/
theorem exists_allow_self (L : SimpleRateLimiter)
    (entries : Std.TreeMap String RateLimitEntry) (call : AllowCall) :
    ∃ e, (L.allow entries call).2[call.key]? = some e ∧
      e.windowStart = (L.opened entries call).windowStart ∧
      (L.allow entries call).1.toNat + L.left e = L.left (L.opened entries call) := by
  refine ⟨_, getElem?_allow_self, rfl, ?_⟩
  rw [allow_fst, left, left]
  by_cases hroom : (L.opened entries call).count < L.maxRequests
  · simp only [hroom, decide_true, if_true, Bool.toNat_true]
    omega
  · simp [hroom]

theorem allowedFor_cons {es : List Event} {ev : Event} : allowedFor key (ev :: es) =
    (if ev.call.key = key then ev.allowed.toNat else 0) + allowedFor key es := by
  rw [allowedFor, List.countP_cons, Nat.add_comm]
  cases ev.allowed <;> by_cases hkey : ev.call.key = key <;> simp [hkey, allowedFor]

/-- **What is left bounds what is allowed as long as the window is not opened again.** -/
theorem allowed_of_open {es post : List Event} (h : entries[key]? = some e)
    (hes : L.events entries calls = es ++ post)
    (hopen : ∀ ev ∈ es, ev.call.key = key → ev.reset = false) : allowedFor key es ≤ L.left e := by
  induction es generalizing entries calls e with
  | nil => exact Nat.zero_le _
  | cons ev es ih =>
      cases calls with
      | nil => cases hes
      | cons call calls =>
          obtain ⟨rfl, hrest⟩ := List.cons.inj hes
          rw [List.forall_mem_cons] at hopen
          rw [allowedFor_cons]
          by_cases hkey : call.key = key
          · subst hkey
            have hsame : L.opened entries call = e := by
              rw [opened, if_neg (by simpa using hopen.1 rfl), entryOf, h, Option.getD_some]
            obtain ⟨e', hentry, -, hspent⟩ := L.exists_allow_self entries call
            rw [hsame] at hspent
            have hes' := ih hentry hrest hopen.2
            show (if call.key = call.key then (L.allow entries call).1.toNat else 0) + _ ≤ _
            rw [if_pos rfl]
            omega
          · have hes' := ih ((L.getElem?_allow_of_ne hkey).trans h) hrest hopen.2
            rw [if_neg hkey]
            omega

/-- **Between two resets a window lets through no more than its maximum.** -/
theorem allowed_of_segment {seg post : List Event} (hcounted : Counted entries)
    (h : L.events entries calls = seg ++ post)
    (hopen : ∀ ev ∈ seg.tail, ev.call.key = key → ev.reset = false) :
    allowedFor key seg ≤ L.maxRequests.toNat := by
  induction seg generalizing entries calls with
  | nil => exact Nat.zero_le _
  | cons ev seg ih =>
      cases calls with
      | nil => cases h
      | cons call calls =>
          obtain ⟨rfl, hrest⟩ := List.cons.inj h
          rw [allowedFor_cons]
          by_cases hkey : call.key = key
          · subst hkey
            obtain ⟨e, hentry, -, hspent⟩ := L.exists_allow_self entries call
            have hseg := allowed_of_open hentry hrest hopen
            have hle := left_le (L := L) (hcounted.opened_nonneg L call)
            show (if call.key = call.key then (L.allow entries call).1.toNat else 0) + _ ≤ _
            rw [if_pos rfl]
            omega
          · have hseg := ih (hcounted.allow L call) hrest
              fun ev hev => hopen ev (List.mem_of_mem_tail hev)
            rw [if_neg hkey]
            omega

/-! ## What a stretch of time lets through -/

theorem allowedUntil_cons {last : Int} {es : List Event} {ev : Event} :
    allowedUntil key last (ev :: es) =
      (if ev.call.key = key ∧ ev.call.now ≤ last then ev.allowed.toNat else 0) +
        allowedUntil key last es := by
  rw [allowedUntil, List.countP_cons, Nat.add_comm]
  cases ev.allowed <;> by_cases hkey : ev.call.key = key <;>
    by_cases hlast : ev.call.now ≤ last <;> simp [hkey, hlast, allowedUntil]

theorem allowedUntil_cons_le {last : Int} {es : List Event} {ev : Event} :
    allowedUntil key last (ev :: es) ≤ ev.allowed.toNat + allowedUntil key last es := by
  rw [allowedUntil_cons]
  split
  · exact le_rfl
  · omega

theorem call_of_mem_events {ev : Event} (h : ev ∈ L.events entries calls) : ev.call ∈ calls := by
  induction calls generalizing entries with
  | nil => cases h
  | cons call calls ih =>
      rcases List.mem_cons.1 h with rfl | h
      · exact List.mem_cons_self
      · exact List.mem_cons_of_mem call (ih h)

/-- Nothing is allowed before the first call. -/
theorem allowedUntil_eq_zero {last : Int} (h : ∀ call ∈ calls, last < call.now) :
    allowedUntil key last (L.events entries calls) = 0 := by
  rw [allowedUntil, List.countP_eq_zero]
  intro ev hev
  have hlate := h ev.call (call_of_mem_events hev)
  simp [not_le.2 hlate]

/-- A window that is open until the last time. -/
theorem allowedUntil_of_open (hw : 0 < L.windowSeconds) (hclock : Clocked calls)
    (h : entries[key]? = some e) {last : Int}
    (hlast : last < e.windowStart + L.windowSeconds * 1000000000) :
    allowedUntil key last (L.events entries calls) ≤ L.left e := by
  induction calls generalizing entries e with
  | nil => exact Nat.zero_le _
  | cons call calls ih =>
      by_cases hlate : last < call.now
      · rw [allowedUntil_eq_zero]
        · exact Nat.zero_le _
        · intro c hc
          rcases List.mem_cons.1 hc with rfl | hc
          · exact hlate
          · have hcreated := hclock.1 call List.mem_cons_self
            have hnow := hclock.now_le c hc
            omega
      rw [events, allowedUntil_cons]
      by_cases hkey : call.key = key
      · subst hkey
        have hentry : entryOf entries call = e := by rw [entryOf, h, Option.getD_some]
        have hsame : L.opened entries call = e := by
          rw [opened, if_neg, hentry]
          rw [resets_iff hw, hentry]
          omega
        obtain ⟨e', hnext, hstart, hspent⟩ := L.exists_allow_self entries call
        rw [hsame] at hspent hstart
        have hrest := ih hclock.tail hnext (hstart ▸ hlast)
        rw [if_pos ⟨rfl, not_lt.1 hlate⟩]
        show (L.allow entries call).1.toNat + _ ≤ _
        omega
      · have hrest := ih hclock.tail ((L.getElem?_allow_of_ne hkey).trans h) hlast
        rw [if_neg fun hand => hkey hand.1]
        omega

/-- **A window that is open, and the next one**, until a time before the end of the two. -/
theorem allowedUntil_of_two (hw : 0 < L.windowSeconds) (hclock : Clocked calls)
    (h : entries[key]? = some e) {last : Int}
    (hlast : last < e.windowStart + 2 * (L.windowSeconds * 1000000000)) :
    allowedUntil key last (L.events entries calls) ≤ L.left e + L.maxRequests.toNat := by
  induction calls generalizing entries e with
  | nil => exact Nat.zero_le _
  | cons call calls ih =>
      rw [events]
      by_cases hkey : call.key = key
      · subst hkey
        refine le_trans allowedUntil_cons_le ?_
        have hentry : entryOf entries call = e := by rw [entryOf, h, Option.getD_some]
        obtain ⟨e', hnext, hstart, hspent⟩ := L.exists_allow_self entries call
        by_cases hreset : L.resets entries call = true
        · -- the next window, which is the last one
          have hnew : L.opened entries call = { windowStart := call.now } := if_pos hreset
          rw [resets_iff hw, hentry] at hreset
          rw [hnew] at hspent hstart
          have hlast' : last < e'.windowStart + L.windowSeconds * 1000000000 := by
            rw [hstart]
            dsimp only
            omega
          have hrest := allowedUntil_of_open hw hclock.tail hnext hlast'
          have hle := left_le (L := L) (e := { windowStart := call.now }) le_rfl
          dsimp only
          omega
        · have hsame : L.opened entries call = e := by rw [opened, if_neg hreset, hentry]
          rw [hsame] at hspent hstart
          have hrest := ih hclock.tail hnext (hstart ▸ hlast)
          dsimp only
          omega
      · have hrest := ih hclock.tail ((L.getElem?_allow_of_ne hkey).trans h) hlast
        rw [allowedUntil_cons, if_neg fun hand => hkey hand.1]
        omega

/-- The window that a call counts on is not over within a window's time of the call. -/
theorem lt_opened (hw : 0 < L.windowSeconds) (entries : Std.TreeMap String RateLimitEntry)
    (call : AllowCall) :
    call.now < (L.opened entries call).windowStart + L.windowSeconds * 1000000000 := by
  unfold opened
  split
  · dsimp only
    omega
  · next hreset =>
      rw [resets_iff hw] at hreset
      exact not_le.1 hreset

/-- **A stretch of time as long as a window meets two windows at most.** -/
theorem allowedUntil_le (hw : 0 < L.windowSeconds) (hclock : Clocked calls)
    (hcounted : Counted entries) {first : Int} (hfirst : ∀ call ∈ calls, first ≤ call.now) :
    allowedUntil key (first + L.windowSeconds * 1000000000) (L.events entries calls) ≤
      2 * L.maxRequests.toNat := by
  induction calls generalizing entries with
  | nil => exact Nat.zero_le _
  | cons call calls ih =>
      rw [List.forall_mem_cons] at hfirst
      rw [events]
      by_cases hkey : call.key = key
      · subst hkey
        refine le_trans allowedUntil_cons_le ?_
        have hopen := lt_opened hw entries call
        have hle := left_le (L := L) (hcounted.opened_nonneg L call)
        obtain ⟨e, hnext, hstart, hspent⟩ := L.exists_allow_self entries call
        have hlast : first + L.windowSeconds * 1000000000 <
            e.windowStart + 2 * (L.windowSeconds * 1000000000) := by omega
        have hrest := allowedUntil_of_two hw hclock.tail hnext hlast
        dsimp only
        omega
      · have hrest := ih hclock.tail (hcounted.allow L call) hfirst.2
        rw [allowedUntil_cons, if_neg fun hand => hkey hand.1]
        omega

/-- Before the stretch nothing counts, and then only its end does. -/
theorem allowedWithin_le (hw : 0 < L.windowSeconds) (hclock : Clocked calls)
    (hcounted : Counted entries) (first : Int) :
    allowedWithin key first (first + L.windowSeconds * 1000000000) (L.events entries calls) ≤
      2 * L.maxRequests.toNat := by
  induction calls generalizing entries with
  | nil => exact Nat.zero_le _
  | cons call calls ih =>
      by_cases hearly : call.now < first
      · have hskip : allowedWithin key first (first + L.windowSeconds * 1000000000)
            (L.events entries (call :: calls)) = allowedWithin key first
              (first + L.windowSeconds * 1000000000) (L.events (L.allow entries call).2 calls) := by
          rw [events, allowedWithin, List.countP_cons_of_neg (by simp [not_le.2 hearly])]
          rfl
        rw [hskip]
        exact ih hclock.tail (hcounted.allow L call)
      · have hfirst : ∀ c ∈ call :: calls, first ≤ c.now := by
          rw [List.forall_mem_cons]
          refine ⟨not_lt.1 hearly, fun c hc => ?_⟩
          have hcreated := hclock.1 call List.mem_cons_self
          have hnow := hclock.now_le c hc
          omega
        have huntil :=
          @allowedUntil_le L entries (call :: calls) key hw hclock hcounted first hfirst
        refine le_trans (List.countP_mono_left fun ev _ hcounts => ?_) huntil
        simp only [Bool.and_eq_true, decide_eq_true_eq] at hcounts ⊢
        exact ⟨hcounts.1.1, hcounts.2⟩

/-- **The rate limiter bounds every client.**  In every run of calls from an empty table, no more
calls for a key are allowed than the maximum from one reset of its window to the next (the events
behind the first one of `seg` do not reset it), no more than twice the maximum in a stretch of time
as long as a window, with or without its last moment, and what becomes of the calls for a key is
what would become of them without the other calls. -/
theorem bounds_every_client (L : SimpleRateLimiter) {calls : List AllowCall}
    (hclock : Clocked calls) (key : String) :
    (∀ pre seg post : List Event, L.events ∅ calls = pre ++ seg ++ post →
      (∀ ev ∈ seg.tail, ev.call.key = key → ev.reset = false) →
      allowedFor key seg ≤ L.maxRequests.toNat) ∧
    (∀ first : Int, allowedWithin key first (first + L.windowSeconds * 1000000000 - 1)
      (L.events ∅ calls) ≤ 2 * L.maxRequests.toNat) ∧
    (0 < L.windowSeconds → ∀ first : Int,
      allowedWithin key first (first + L.windowSeconds * 1000000000) (L.events ∅ calls) ≤
        2 * L.maxRequests.toNat) ∧
    (L.events ∅ calls).filter (·.call.key = key) = L.events ∅ (calls.filter (·.key = key)) := by
  have hcounted : Counted ∅ := by
    intro key e hentry
    simp at hentry
  refine ⟨fun pre seg post h hopen => ?_, fun first => ?_,
    fun hw => allowedWithin_le hw hclock hcounted, filter_events rfl⟩
  · rw [List.append_assoc] at h
    obtain ⟨entries', calls', hcounted', hrest⟩ := exists_of_events_eq_append hcounted h
    exact allowed_of_segment hcounted' hrest.symm hopen
  · rcases le_or_gt L.windowSeconds 0 with hw | hw
    · rw [allowedWithin, List.countP_eq_zero.2]
      · exact Nat.zero_le _
      · intro ev _ hcounts
        simp only [Bool.and_eq_true, decide_eq_true_eq] at hcounts
        omega
    · have hclosed := @allowedWithin_le L ∅ calls key hw hclock hcounted first
      refine le_trans (List.countP_mono_left fun ev _ hcounts => ?_) hclosed
      simp only [Bool.and_eq_true, decide_eq_true_eq] at hcounts ⊢
      exact ⟨hcounts.1, by omega⟩

/-- Two calls of a client in two windows, and a call of another client between them. -/
def callsOfTwo : List AllowCall := [⟨"a", 0, 5⟩, ⟨"b", 7, 8⟩, ⟨"a", 60000000005, 60000000005⟩]

theorem bounds_callsOfTwo :
    allowedWithin "a" 0 60000000000 (events ⟨1, 60⟩ ∅ callsOfTwo) ≤ 2 ∧
      (events ⟨1, 60⟩ ∅ callsOfTwo).filter (·.call.key = "a") =
        events ⟨1, 60⟩ ∅ (callsOfTwo.filter (·.key = "a")) := by
  have hclock : Clocked callsOfTwo := by
    constructor
    · simp [callsOfTwo]
    · simp [callsOfTwo]
  obtain ⟨-, -, hwithin, hothers⟩ := bounds_every_client ⟨1, 60⟩ hclock "a"
  exact ⟨hwithin (by decide) 0, hothers⟩

end Calls

end SimpleRateLimiter
end Daemon
end Dbal
