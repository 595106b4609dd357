/-
Listings that are read page by page while they grow.

A reader asks for one page after the other by its offset, and each page is cut from
the listing as it is at that moment. New items may come anywhere. What was listed at
the first page is never missed: it only moves to later positions, and the reader gets
there as long as it goes on until the listing ends.
-/

import Mathlib.Data.List.Chain
import Mathlib.Data.List.Sort

set_option autoImplicit false

namespace Pages

variable {Item : Type}

/-- The items from `offset` on, `limit` of them at most. -/
def page (limit offset : Nat) (items : List Item) : List Item := (items.drop offset).take limit

/-- The pages of one reader, each cut from the listing as it is when it is asked for. -/
def read (limit : Nat) : Nat → List (List Item) → List Item
  | _, [] => []
  | offset, items :: later => page limit offset items ++ read limit (offset + limit) later

theorem page_sublist (limit offset : Nat) (items : List Item) :
    (page limit offset items).Sublist items :=
  (List.take_sublist _ _).trans (List.drop_sublist _ _)

/-- What is not on this page comes on a later one. -/
theorem page_append_drop (limit offset : Nat) (items : List Item) :
    page limit offset items ++ items.drop (offset + limit) = items.drop offset := by
  unfold page
  rw [← List.drop_drop]
  exact List.take_append_drop _ _

/-- What the reader wants is on the pages to come or behind the last one. -/
theorem sublist_read_append {limit : Nat} {wanted items : List Item} {later : List (List Item)}
    (grows : List.IsChain List.Sublist (items :: later)) (offset : Nat)
    (ahead : wanted.Sublist (items.drop offset)) :
    wanted.Sublist (read limit offset (items :: later) ++
      ((items :: later).getLast (List.cons_ne_nil _ _)).drop
        (offset + (later.length + 1) * limit)) := by
  induction later generalizing items offset wanted with
  | nil =>
      rw [← page_append_drop limit offset items] at ahead
      simpa [read] using ahead
  | cons next later ih =>
      rw [← page_append_drop limit offset items, List.sublist_append_iff] at ahead
      obtain ⟨here, rest, rfl, onPage, behind⟩ := ahead
      obtain ⟨step, grows⟩ := List.isChain_cons_cons.mp grows
      have shifted := ih grows (offset + limit) (behind.trans (step.drop _))
      have position : offset + limit + (later.length + 1) * limit =
          offset + ((next :: later).length + 1) * limit := by
        rw [List.length_cons, Nat.succ_mul (later.length + 1)]
        omega
      rw [position] at shifted
      rw [read, List.append_assoc, List.getLast_cons (List.cons_ne_nil _ _)]
      exact onPage.append shifted

/-- A reader that goes on to the end of the listing misses nothing of what was listed at
its first page. -/
theorem sublist_read {limit : Nat} {first : List Item} {later : List (List Item)}
    (grows : List.IsChain List.Sublist (first :: later))
    (ends : ((first :: later).getLast (List.cons_ne_nil _ _)).length ≤
      (later.length + 1) * limit) :
    first.Sublist (read limit 0 (first :: later)) := by
  have reached : first.Sublist (read limit 0 (first :: later) ++
      ((first :: later).getLast (List.cons_ne_nil _ _)).drop (0 + (later.length + 1) * limit)) :=
    sublist_read_append grows 0 (List.Sublist.refl first)
  rwa [Nat.zero_add, List.drop_of_length_le ends, List.append_nil] at reached

/-! ### Sorted listings -/

/-- A listing that is sorted stably grows with what it lists. -/
theorem insertionSort_sublist (before : Item → Item → Prop) [DecidableRel before]
    [Std.Total before] [IsTrans Item before] {items items' : List Item}
    (grown : items.Sublist items') :
    (items.insertionSort before).Sublist (items'.insertionSort before) := by
  induction grown with
  | slnil => exact List.Sublist.refl _
  | cons item _ ih => exact ih.trans (List.sublist_orderedInsert _ _)
  | cons_cons item _ ih =>
      exact ih.orderedInsert_sublist item (List.pairwise_insertionSort before _)

end Pages
