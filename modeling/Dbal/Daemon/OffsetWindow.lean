/-
# A window asked for by its offset

`parseQueryParameters` of `src/daemon/list_handler.cpp` turns an offset into the number of a page,
`offset / limit + 1`, and the adapters turn the page back into `(page - 1) * limit`.  The division
drops the remainder, so the page starts at the multiple of the limit below the offset
(`pageOffset_of_offset`): the rows asked for come back exactly when the limit divides the offset,
or when both the page and the window lie behind the last row (`served_eq_asked_iff`).
-/

import Dbal.Adapters.SqlStatements
import Dbal.Daemon.Listing
import Dbal.Store.Paging

namespace Dbal
namespace Daemon
namespace ListHandler

/-- The rows of a page, as the adapter cuts them out of the result. -/
def servedRows {α : Type} (options : ListOptions) (rows : List α) : List α :=
  Store.window (Adapters.SqlAdapter.pageOffset options).toNat (Adapters.SqlAdapter.pageLimit options).toNat rows

/-- Where the page of an offset starts: at the multiple of the limit below it.  The page after
the largest `int` wraps to a negative one, for which the adapter takes the first. -/
def pageStart (offset limit : Int) : Int :=
  if offset / limit < intMax then offset / limit * limit else 0

theorem pageStart_bounds {offset limit : Int} (hlimit : 0 < limit) (hoffset : 0 ≤ offset) :
    0 ≤ pageStart offset limit ∧ pageStart offset limit ≤ offset := by
  unfold pageStart
  split_ifs
  · exact ⟨Int.mul_nonneg (Int.ediv_nonneg hoffset (Int.le_of_lt hlimit)) (Int.le_of_lt hlimit),
      Int.ediv_mul_le offset (Int.ne_of_gt hlimit)⟩
  · exact ⟨Int.le_refl 0, hoffset⟩

theorem pageStart_eq_iff {offset limit : Int} (hoffset : 0 ≤ offset) :
    pageStart offset limit = offset ↔ limit ∣ offset ∧ offset / limit < intMax := by
  have hquotient : offset / limit ≤ offset := Int.ediv_le_self limit hoffset
  unfold pageStart
  split_ifs with hlt
  · refine ⟨fun h => ⟨⟨offset / limit, by rw [Int.mul_comm, h]⟩, hlt⟩, fun h => ?_⟩
    exact Int.ediv_mul_cancel h.1
  · refine ⟨fun h => ?_, fun h => absurd h.2 hlt⟩
    unfold intMax at hlt
    omega

/-- The page that an offset without a page is turned into. -/
theorem parseQueryParameters_of_offset {query : Std.TreeMap String String} {paging : Paging}
    {offset : Int} (hread : query.toList.foldlM pagingStep {} = .ok paging)
    (hoffset : paging.offset = some offset) (hpage : paging.page = none) :
    parseQueryParameters query =
      .ok (paging.limit, some ((offset / paging.limit.getD 20 + 1).bmod (2 ^ 32))) := by
  have haccepted := accepted_of_query hread
  have hlimit := haccepted.limit_pos
  have hdiv : offset.tdiv (paging.limit.getD 20) = offset / paging.limit.getD 20 :=
    Int.tdiv_eq_ediv_of_nonneg (haccepted.offset offset hoffset).1
  unfold parseQueryParameters
  rw [hread]
  simp only [bind, Except.bind, hoffset, hpage, if_neg (Int.not_le.2 hlimit), hdiv]
  rfl

theorem pageOffset_of_offset {options : ListOptions} {offset limit : Int} (hlimit : 0 < limit)
    (hoffset : 0 ≤ offset ∧ offset ≤ intMax)
    (hoptions : options.limit = limit ∧ options.page = (offset / limit + 1).bmod (2 ^ 32)) :
    Adapters.SqlAdapter.pageLimit options = limit ∧
    Adapters.SqlAdapter.pageOffset options = pageStart offset limit := by
  have hquotient : 0 ≤ offset / limit := Int.ediv_nonneg hoffset.1 (Int.le_of_lt hlimit)
  have hquotient' : offset / limit ≤ offset := Int.ediv_le_self limit hoffset.1
  have hpageLimit : Adapters.SqlAdapter.pageLimit options = limit := by
    rw [Adapters.SqlAdapter.pageLimit, hoptions.1, if_pos hlimit]
  have hpageNumber : Adapters.SqlAdapter.pageNumber options =
      if offset / limit < intMax then offset / limit + 1 else 1 := by
    rw [Adapters.SqlAdapter.pageNumber, hoptions.2, Int.bmod_def]
    unfold intMax at hoffset ⊢
    split_ifs <;> omega
  refine ⟨hpageLimit, ?_⟩
  rw [Adapters.SqlAdapter.pageOffset, hpageLimit, hpageNumber, pageStart]
  split_ifs
  · rw [Int.add_sub_cancel]
  · simp

/-- **The window asked for is the page that is served exactly when the limit divides the offset**,
and the page does not wrap, or when the page lies behind the last row and so is as empty as the
window. -/
theorem served_eq_asked_iff {α : Type} {tenant : String} {query : Std.TreeMap String String}
    {paging : Paging} {offset : Int} {options : ListOptions}
    (hread : query.toList.foldlM pagingStep {} = .ok paging)
    (hoffset : paging.offset = some offset) (hpage : paging.page = none)
    (hlisting : listing? tenant query = some options) (rows : List α) :
    servedRows options rows.zipIdx =
        Store.window offset.toNat (paging.limit.getD 20).toNat rows.zipIdx ↔
      paging.limit.getD 20 ∣ offset ∧ offset / paging.limit.getD 20 < intMax ∨
        (rows.length : Int) ≤ pageStart offset (paging.limit.getD 20) := by
  have haccepted := accepted_of_query hread
  have hrange := haccepted.offset offset hoffset
  have hpositive := haccepted.limit_pos
  have hparse := parseQueryParameters_of_offset hread hoffset hpage
  obtain ⟨hlimit, hstart⟩ := pageOffset_of_offset hpositive hrange (listing?_paging hparse hlisting)
  generalize paging.limit.getD 20 = limit at *
  have hbounds := pageStart_bounds hpositive hrange.1
  rw [servedRows, hlimit, hstart, Store.window_zipIdx_eq_iff (by omega),
    ← pageStart_eq_iff hrange.1]
  omega

/-- The query `limit=10&offset=20` has its third page served. -/
theorem third_page_served :
    let query : Std.TreeMap String String := .ofList [("limit", "10"), ("offset", "20")]
    ∃ options, listing? "acme" query = some options ∧
      servedRows options (List.range 30).zipIdx = Store.window 20 10 (List.range 30).zipIdx := by
  intro query
  have hread : query.toList.foldlM pagingStep {} =
      .ok { limit := some 10, offset := some 20 } := by rfl
  have hsome : (listing? "acme" query).isSome = true := by decide +kernel
  obtain ⟨options, hlisting⟩ := Option.isSome_iff_exists.1 hsome
  exact ⟨options, hlisting,
    (served_eq_asked_iff hread rfl rfl hlisting (List.range 30)).2 (.inl (by decide))⟩

/-- The query `limit=10&offset=15` gets the rows from 10 on. -/
theorem offset_fifteen_not_served :
    let query : Std.TreeMap String String := .ofList [("limit", "10"), ("offset", "15")]
    ∃ options, listing? "acme" query = some options ∧
      servedRows options (List.range 30).zipIdx ≠ Store.window 15 10 (List.range 30).zipIdx := by
  intro query
  have hparse : parseQueryParameters query = .ok (some 10, some 2) := by rfl
  have hsome : (listing? "acme" query).isSome = true := by decide +kernel
  obtain ⟨options, hlisting⟩ := Option.isSome_iff_exists.1 hsome
  have hoptions := listing?_paging hparse hlisting
  refine ⟨options, hlisting, ?_⟩
  have hserved : servedRows options (List.range 30).zipIdx =
      Store.window 10 10 (List.range 30).zipIdx := by
    rw [servedRows, Adapters.SqlAdapter.pageOffset, Adapters.SqlAdapter.pageNumber,
      Adapters.SqlAdapter.pageLimit, hoptions.1, hoptions.2]
    rfl
  rw [hserved]
  decide

end ListHandler
end Daemon
end Dbal
