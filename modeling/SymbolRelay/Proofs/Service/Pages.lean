import SymbolRelay.Proofs.Store.IdSequence

/-!
# The pages of a listing

A client that wants every symbol with a filter asks for one page after the other, until a page is not full:

```text
offset 0 ─► l rows, offset l ─► l rows, … , offset k * l ─► fewer than l rows
```

where `l` is the page size that the limit comes to. The service normalises a query and the store does so
again; neither the second time nor the cutting into pages loses or repeats a row.

## Results

* `flatMap_pageOf` — so many pages in a row are the beginning of what is cut;
* `Store.listing_ascending` — what a filter lets through comes by ascending id;
* `Desk.pages_tile` — the pages that a client gets of a store, one after the other, are its rows with the
  filter.
-/

set_option autoImplicit false

namespace SymbolRelay

/-! ## Cutting a list into pages -/

section Cutting

variable {α : Type}

/-- The page of a list at an offset. -/
def pageOf (size : Nat) (all : List α) (offset : Nat) : List α := (all.drop offset).take size

theorem length_pageOf (size : Nat) (all : List α) (offset : Nat) :
    (pageOf size all offset).length = min size (all.length - offset) := by
  rw [pageOf, List.length_take, List.length_drop]

theorem pageOf_sublist (size : Nat) (all : List α) (offset : Nat) :
    (pageOf size all offset).Sublist all :=
  (List.take_sublist _ _).trans (List.drop_sublist _ _)

/-- So many pages in a row are the beginning of the list. -/
theorem flatMap_pageOf (size : Nat) (all : List α) (count : Nat) :
    ((List.range count).flatMap fun i => pageOf size all (i * size)) = all.take (count * size) := by
  induction count with
  | zero => simp
  | succ count ih =>
    rw [List.range_succ, List.flatMap_append, ih, List.flatMap_cons, List.flatMap_nil, List.append_nil,
      Nat.succ_mul, List.take_add, pageOf]

/-- The first page that is not full comes after as many full ones as the list has room for, and ends it. -/
theorem pages_of_pos {size : Nat} (h : 0 < size) (all : List α) :
    (∀ i < all.length / size, (pageOf size all (i * size)).length = size) ∧
      (pageOf size all (all.length / size * size)).length < size ∧
      ((List.range (all.length / size + 1)).flatMap fun i => pageOf size all (i * size)) = all := by
  have hfull := Nat.div_mul_le_self all.length size
  have hrest : all.length < all.length / size * size + size := by
    have := Nat.lt_div_mul_add h (a := all.length)
    omega
  refine ⟨fun i hi => ?_, ?_, ?_⟩
  · have hi : i * size + size ≤ all.length / size * size := by
      rw [← Nat.succ_mul]
      exact Nat.mul_le_mul_right size hi
    rw [length_pageOf]
    omega
  · rw [length_pageOf]
    omega
  · rw [flatMap_pageOf, Nat.succ_mul]
    exact List.take_of_length_le (Nat.le_of_lt hrest)

end Cutting

/-! ## What a filter lets through -/

namespace Query

/-- The page size that a limit comes to. -/
def pageSize (limit : Nat) : Nat := if limit = 0 then defaultListLimit else min limit maxListLimit

theorem pageSize_pos (limit : Nat) : 0 < pageSize limit := by
  rw [pageSize]
  split
  · decide
  · simp only [maxListLimit]
    omega

/-- Whether a filter lets a symbol through: one that is blank lets all of them through. -/
def Passes (name : Option String) (s : Symbol) : Prop :=
  ∀ filter, name = some filter → Text.isBlank filter = false →
    occursIn (Text.lowercase filter).toList (Text.lowercase s.name).toList = true

/-- Offset and limit do not matter to what a query lets through. -/
theorem accepts_normalized_iff (q : Query) (s : Symbol) :
    q.normalized.accepts s = true ↔ Passes q.name s := by
  obtain ⟨name, offset, limit⟩ := q
  cases name with
  | none => simp [normalized, accepts, Passes]
  | some filter =>
    cases hblank : Text.isBlank filter <;>
      simp [normalized, accepts, Passes, Option.filter, hblank]

end Query

namespace Store

/-- The rows that a filter lets through, by id. -/
def listing (s : Store) (name : Option String) : List Symbol :=
  s.rows.values.filter ({ name } : Query).normalized.accepts

theorem list_eq_pageOf (s : Store) (name : Option String) (offset limit : Nat) :
    s.list ⟨name, offset, limit⟩ = pageOf (Query.pageSize limit) (s.listing name) offset := rfl

/-- Normalising a query before the store does so itself changes nothing. -/
theorem list_normalized (s : Store) (q : Query) : s.list q.normalized = s.list q := by
  rw [list, list, q.normalized_normalized]

theorem mem_listing_iff {s : Store} (keyed : RowsKeyed s.rows) (name : Option String) (row : Symbol) :
    row ∈ s.listing name ↔ s.rows.get? row.id = some row ∧ Query.Passes name row := by
  rw [listing, List.mem_filter, Table.mem_values_iff, Query.accepts_normalized_iff]
  refine and_congr_left fun _ => ⟨?_, fun h => ⟨row.id, h⟩⟩
  rintro ⟨id, h⟩
  rwa [keyed id row h]

/-- What a filter lets through comes by ascending id. -/
theorem listing_ascending {s : Store} (keyed : RowsKeyed s.rows) (name : Option String) :
    (s.listing name).Pairwise fun a b => a.id < b.id := by
  refine List.Pairwise.filter _ ?_
  rw [Table.values, List.pairwise_map]
  refine s.rows.ascending.imp_of_mem fun {a b} ha hb hlt => ?_
  have hida := keyed a.1 a.2 ((s.rows.mem_entries_iff a.1 a.2).mp ha)
  have hidb := keyed b.1 b.2 ((s.rows.mem_entries_iff b.1 b.2).mp hb)
  rw [hida, hidb]
  exact Std.compare_eq_lt.mp hlt

end Store

/-! ## Asking for one page after the other -/

namespace Desk

variable {ξ : Type}

/-- **The pages of a store tile what a filter lets through.** The store may be in any state that transactions
leave, and a limit of zero or beyond the greatest page size counts as the size that it is replaced by. Then a
page of the service is the page of the store, it is not larger than the page size, and it is by ascending id.
Some number of full pages comes before the first that is not full, and all of these together hold each
committed row that the filter lets through once, by ascending id; every page from there on is empty. -/
theorem pages_tile (service : SymbolService ξ Transaction) (ctx : Context) (w : World ξ) (nextId : Int64)
    (clock : Clock) (turns : List Turn) (name : Option String) (limit : Nat) :
    let store := ((fresh nextId clock).play turns).store
    let size := if limit = 0 then defaultListLimit else min limit maxListLimit
    let page := fun offset => store.list ⟨name, offset, limit⟩
    (∀ offset, store.list (Query.normalized ⟨name, offset, limit⟩) = page offset ∧
      { service with storage := .ofStore }.list ctx ⟨name, offset, limit⟩ { w with store } =
        (.ok (page offset), { w with store })) ∧
    (∀ offset, (page offset).length ≤ size ∧ (page offset).Pairwise fun a b => a.id < b.id) ∧
    ∃ full, (∀ i < full, (page (i * size)).length = size) ∧ (page (full * size)).length < size ∧
      let all := (List.range (full + 1)).flatMap fun i => page (i * size)
      (all.Pairwise fun a b => a.id < b.id) ∧
      (∀ row, row ∈ all ↔ store.rows.get? row.id = some row ∧ Query.Passes name row) ∧
      ∀ offset, all.length ≤ offset → page offset = [] := by
  intro store size page
  have keyed : RowsKeyed store.rows := fun id row hrow =>
    ((numbered_play nextId clock turns).dated id row (.inl hrow)).1
  have ascending := store.listing_ascending keyed name
  have hpage : page = pageOf size (store.listing name) :=
    funext fun offset => store.list_eq_pageOf name offset limit
  obtain ⟨hfull, hshort, hall⟩ := pages_of_pos (Query.pageSize_pos limit) (store.listing name)
  refine ⟨fun offset => ?_, fun offset => ?_, (store.listing name).length / size, hfull, hshort, ?_⟩
  · have hnormalized := store.list_normalized ⟨name, offset, limit⟩
    refine ⟨hnormalized, ?_⟩
    show (Outcome.ok (store.list (Query.normalized ⟨name, offset, limit⟩)), { w with store }) = _
    rw [hnormalized]
  · rw [hpage]
    refine ⟨?_, ascending.sublist (pageOf_sublist size _ offset)⟩
    rw [length_pageOf]
    exact Nat.min_le_left _ _
  · intro all
    have hlisting : all = store.listing name := hall
    rw [hlisting]
    refine ⟨ascending, Store.mem_listing_iff keyed name, fun offset hoffset => ?_⟩
    rw [hpage, pageOf, List.drop_of_length_le hoffset, List.take_nil]

end Desk

end SymbolRelay
