/-
# The layers of a client

`src/client_init.cpp` puts the mirror of a search around the adapter and the cache around both.  A
layer keeps what the layer around it asks for, so that the two results meet: whoever calls a client
gets the answers of the plain adapter (`client_stack_transparent`), whatever becomes of the requests to
Elasticsearch.
-/

import Dbal.Cache.CacheTransparency
import Dbal.Search.SearchingAdapter

namespace Dbal

open Search (Index)

variable {σ : Type} {inner : Adapter σ}

/-- A call that the mirror does not answer. -/
def AdapterCall.IsNoSearch (call : AdapterCall) : Prop :=
  ∀ entityName query limit, call ≠ .search entityName query limit

namespace Search.SearchingAdapter

variable {server : Search.Server}

/-- Runs without a search: the mirror answers with what the adapter answers. -/
theorem performAll_handedOn (server : Search.Server) (inner : Adapter σ) {calls : List AdapterCall}
    (h : ∀ call ∈ calls, call.IsNoSearch) (s : Decorated σ Index) :
    ((adapter server inner).performAll calls s).1 = (inner.performAll calls s.inner).1 ∧
      ((adapter server inner).performAll calls s).2.inner = (inner.performAll calls s.inner).2 := by
  induction calls generalizing s with
  | nil => exact ⟨rfl, rfl⟩
  | cons call calls ih =>
      have hon := perform_handedOn server inner (h call List.mem_cons_self) s
      obtain ⟨hanswers, hinner⟩ := ih (fun call' hcall => h call' (List.mem_cons_of_mem _ hcall))
        ((adapter server inner).perform call s).2
      rw [hon.inner] at hanswers hinner
      refine ⟨?_, hinner⟩
      rw [Adapter.performAll, Adapter.performAll, hanswers, hon.answer]

/-- **The mirror keeps records under their ids**, as the adapter does that it is around. -/
def keyed {Made : AdapterCall → Prop} (keyed : Keyed inner Made) (server : Search.Server) :
    Keyed (adapter server inner) fun call => Made call ∧ call.IsNoSearch where
  Valid s := keyed.Valid s.inner
  record s := keyed.record s.inner
  valid := fun {call s} hmade hvalid => by
    rw [(perform_handedOn server inner hmade.2 s).inner]
    exact keyed.valid hmade.1 hvalid
  read_eq := fun {s entityName id} hmade hvalid => by
    show Decorated.onInner (inner.read entityName id) s = _
    rw [Decorated.onInner, keyed.read_eq hmade.1 hvalid]
  keeps := fun {call s entityName id found} hmade hvalid hread hscope hfound => by
    have hon := perform_handedOn server inner hmade.2 s
    rw [hon.answer] at hscope
    rw [hon.inner]
    exact keyed.keeps hmade.1 hvalid hread.1 hscope hfound

end Search.SearchingAdapter

end Dbal
