/-
# Listings in any order

The ideal store says nothing about the order in which it lists its rows.  `ListingOrder` is such an
order, which may be another one for each listing, and a property of a program that works on listings
is to hold for all of them.
-/

import Mathlib.Data.List.Rotate
import Dbal.Store.MapStore

namespace Dbal

/-- The order in which the rows come that a listing goes through. -/
structure ListingOrder where
  sort : String → ListOptions → List Entry → List Entry
  perm : ∀ entity options rows, (sort entity options rows).Perm rows

namespace ListingOrder

/-- The rows as they are stored. -/
def stored : ListingOrder where
  sort := fun _ _ rows => rows
  perm := fun _ _ _ => List.Perm.rfl

/-- The rows from the `n`-th on, and then those before it. -/
def startingAt (n : Nat) : ListingOrder where
  sort := fun _ _ rows => rows.rotate n
  perm := fun _ _ rows => rows.rotate_perm n

variable (order : ListingOrder) (resolve : String → Option Adapters.EntitySchema)

/-- The ideal store, with its listings in this order. -/
def adapter : Adapter MapStore :=
  { MapStore.adapter resolve with
    list := fun name options => MapStore.withEntity resolve name fun entity s =>
      (.ok (.ok (MapStore.listRows entity options (order.sort entity options s.rows))), s) }

variable {resolve} {name : String} {schema : Adapters.EntitySchema}

theorem list_known (hschema : resolve name = some schema) (options : ListOptions) (s : MapStore) :
    (order.adapter resolve).list name options s =
      (.ok (.ok (MapStore.listRows schema.name options
        (order.sort schema.name options s.rows))), s) := by
  simp [adapter, MapStore.withEntity, hschema]

/-- Every row can be the first. -/
theorem exists_first {rows : List Entry} {entry : Entry} (h : entry ∈ rows) :
    ∃ order : ListingOrder, ∀ entity options,
      ∃ rest, order.sort entity options rows = entry :: rest := by
  obtain ⟨front, back, rfl⟩ := List.append_of_mem h
  exact ⟨startingAt front.length, fun _ _ => ⟨back ++ front, List.rotate_append_length_eq front _⟩⟩

/-! ### What is listed -/

/-- A row that a listing asks for. -/
def asksFor (entity : String) (options : ListOptions) : Entry → Bool :=
  MapStore.selects entity (MapStore.equalities options.filter)

/-- The rows that a listing asks for, in its order. -/
def listing (entity : String) (options : ListOptions) (s : MapStore) : List Entry :=
  (order.sort entity options s.rows).filter (asksFor entity options)

theorem listing_perm (entity : String) (options : ListOptions) (s : MapStore) :
    (order.listing entity options s).Perm (s.rows.filter (asksFor entity options)) :=
  (order.perm entity options s.rows).filter _

theorem list_first_page (name : String) (filter : Std.TreeMap String String) (limit : Int)
    (s : MapStore) :
    ∃ result : ListResult,
      (order.adapter MapStore.anyEntity).list name { filter := filter, limit := limit } s =
        (.ok (.ok result), s) ∧
      result.items = ((order.listing name { filter := filter, limit := limit } s).take
        limit.toNat).map Entry.row :=
  ⟨_, order.list_known rfl _ s, MapStore.listRows_items name filter limit _⟩

open Classical in
/-- An order for the rows of one store, in which each listing has its own arrangement of the rows that
it asks for. -/
noncomputable def arrange (s : MapStore) (arranged : String → ListOptions → List Entry)
    (entity : String) (options : ListOptions) (rows : List Entry) : List Entry :=
  if rows = s.rows then
    arranged entity options ++ s.rows.filter fun entry => !asksFor entity options entry
  else rows

section

variable {s : MapStore} {arranged : String → ListOptions → List Entry}
  (h : ∀ entity options, (arranged entity options).Perm (s.rows.filter (asksFor entity options)))
include h

theorem arrange_perm (entity : String) (options : ListOptions) (rows : List Entry) :
    (arrange s arranged entity options rows).Perm rows := by
  unfold arrange
  split
  · next hrows =>
      rw [hrows]
      exact ((h entity options).append_right _).trans (List.filter_append_perm _ _)
  · exact List.Perm.rfl

theorem filter_arrange (entity : String) (options : ListOptions) :
    (arrange s arranged entity options s.rows).filter (asksFor entity options) =
      arranged entity options := by
  have hasked : ∀ entry ∈ arranged entity options, asksFor entity options entry = true :=
    fun entry hentry => (List.mem_filter.1 ((h entity options).mem_iff.1 hentry)).2
  rw [arrange, if_pos rfl, List.filter_append, List.filter_eq_self.2 hasked, List.filter_filter]
  simp

/-- **Every arrangement of the rows is that of some order.** -/
theorem exists_listing :
    ∃ order : ListingOrder, ∀ entity options, order.listing entity options s =
      arranged entity options :=
  ⟨⟨arrange s arranged, arrange_perm h⟩, filter_arrange h⟩

end

end ListingOrder
end Dbal
