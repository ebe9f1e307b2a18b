import Std.Data.HashSet

/-!
# Recently accepted ids

The ids that were accepted last, at most so many. An id that is still remembered is refused; a new one
is accepted, and pushes out the oldest when the memory is full.

## Results

* `ids_accept` — an accepted id becomes the newest, and only the oldest may be forgotten for it;
* `ids_accept_of_history` — what is remembered stays the newest part of the history of accepted ids;
* `accept?_eq_none_iff` — an id is refused exactly when it is remembered.
-/

set_option autoImplicit false

namespace SymbolRelay

/-- The ids that were accepted last, newest first, with a set of them to look them up in. -/
structure RecentIds where
  capacity : Nat
  ids : List String
  known : Std.HashSet String
  count : Nat
  capacity_pos : 0 < capacity
  mem_known_iff : ∀ id, id ∈ known ↔ id ∈ ids
  nodup : ids.Nodup
  count_eq : count = ids.length
  count_le : count ≤ capacity

namespace RecentIds

/-- An empty memory for so many ids, and for one at least. -/
def withCapacity (n : Nat) : RecentIds where
  capacity := max n 1
  ids := []
  known := ∅
  count := 0
  capacity_pos := by omega
  mem_known_iff := by simp
  nodup := List.nodup_nil
  count_eq := rfl
  count_le := Nat.zero_le _

/-- Forgets the oldest id. -/
def forgetOldest (r : RecentIds) : RecentIds :=
  match h : r.ids.getLast? with
  | none => r
  | some oldest =>
    { r with
      ids := r.ids.dropLast
      known := r.known.erase oldest
      count := r.count - 1
      mem_known_iff := by
        intro id
        obtain ⟨newer, hids⟩ := List.getLast?_eq_some_iff.mp h
        have hnd : (newer ++ [oldest]).Nodup := hids ▸ r.nodup
        rw [Std.HashSet.mem_erase, r.mem_known_iff, hids, List.mem_append, List.mem_singleton,
          List.dropLast_concat]
        have hne : oldest ∉ newer := fun hm =>
          (List.nodup_append.mp hnd).2.2 oldest hm oldest (List.mem_singleton.mpr rfl) rfl
        constructor
        · rintro ⟨hid, hm | rfl⟩
          · exact hm
          · simp at hid
        · intro hm
          refine ⟨?_, .inl hm⟩
          simp only [beq_eq_false_iff_ne, ne_eq]
          rintro rfl
          exact hne hm
      nodup := r.nodup.sublist (List.dropLast_sublist _)
      count_eq := by rw [List.length_dropLast, ← r.count_eq]
      count_le := Nat.le_trans (Nat.sub_le _ _) r.count_le }

theorem ids_forgetOldest (r : RecentIds) : r.forgetOldest.ids = r.ids.dropLast := by
  unfold forgetOldest
  split
  · rename_i h
    rw [List.getLast?_eq_none_iff.mp h]
    rfl
  · rfl

theorem capacity_forgetOldest (r : RecentIds) : r.forgetOldest.capacity = r.capacity := by
  unfold forgetOldest
  split <;> rfl

/-- A memory with room for one more id. -/
def withRoom (r : RecentIds) : RecentIds := if r.count = r.capacity then r.forgetOldest else r

theorem count_withRoom_lt (r : RecentIds) : r.withRoom.count < r.withRoom.capacity := by
  have hpos := r.capacity_pos
  unfold withRoom
  split
  · rename_i h
    rw [r.forgetOldest.count_eq, ids_forgetOldest, capacity_forgetOldest, List.length_dropLast,
      ← r.count_eq]
    omega
  · have := r.count_le
    omega

theorem ids_withRoom_subset (r : RecentIds) {id : String} (h : id ∈ r.withRoom.ids) : id ∈ r.ids := by
  unfold withRoom at h
  split at h
  · rw [ids_forgetOldest] at h
    exact (List.dropLast_sublist r.ids).subset h
  · exact h

/-- Accepts an id, unless it is remembered. -/
def accept? (r : RecentIds) (id : String) : Option RecentIds :=
  if h : id ∈ r.known then none
  else
    let room := r.withRoom
    some { room with
      ids := id :: room.ids
      known := room.known.insert id
      count := room.count + 1
      mem_known_iff := by
        intro other
        rw [Std.HashSet.mem_insert, room.mem_known_iff, List.mem_cons, beq_iff_eq, eq_comm]
      nodup := List.nodup_cons.mpr
        ⟨fun hm => h ((r.mem_known_iff id).mpr (ids_withRoom_subset r hm)), room.nodup⟩
      count_eq := by rw [List.length_cons, room.count_eq]
      count_le := count_withRoom_lt r }

theorem accept?_eq_none_iff (r : RecentIds) (id : String) : r.accept? id = none ↔ id ∈ r.ids := by
  rw [← r.mem_known_iff]
  unfold accept?
  split <;> simp_all

theorem ids_accept {r after : RecentIds} {id : String} (h : r.accept? id = some after) :
    after.ids = (id :: r.ids).take r.capacity ∧ after.capacity = r.capacity := by
  unfold accept? at h
  split at h
  · cases h
  · cases h
    have hle := r.count_le
    have hc := r.count_eq
    refine ⟨?_, ?_⟩
    · simp only [withRoom]
      split
      · rename_i hfull
        obtain ⟨n, hn⟩ := Nat.exists_eq_add_one.mpr r.capacity_pos
        rw [ids_forgetOldest, hn, List.take_succ_cons, List.dropLast_eq_take,
          show r.ids.length - 1 = n by omega]
      · rw [List.take_of_length_le]
        rw [List.length_cons]
        omega
    · simp only [withRoom]
      split
      · exact capacity_forgetOldest r
      · rfl

/-- An accepted id was not remembered. -/
theorem not_mem_of_accept {r after : RecentIds} {id : String} (h : r.accept? id = some after) :
    id ∉ r.ids := fun known => by
  rw [(r.accept?_eq_none_iff id).mpr known] at h
  cases h

/-- Accepted ids are added to a history, newest first, and what is remembered stays the newest part of it. -/
theorem ids_accept_of_history {r after : RecentIds} {id : String} {history : List String}
    (h : r.accept? id = some after) (hids : r.ids = history.take r.capacity) :
    after.ids = (id :: history).take after.capacity := by
  obtain ⟨haccept, hcapacity⟩ := ids_accept h
  obtain ⟨n, hn⟩ := Nat.exists_eq_add_one.mpr r.capacity_pos
  rw [hcapacity, haccept, hids, hn, List.take_succ_cons, List.take_succ_cons, List.take_take,
    Nat.min_eq_left (Nat.le_succ n)]

/-- What is remembered then is the accepted id and what was remembered before. -/
theorem eq_or_mem_of_accept {r after : RecentIds} {id other : String} (h : r.accept? id = some after)
    (hother : other ∈ after.ids) : other = id ∨ other ∈ r.ids := by
  rw [(ids_accept h).1] at hother
  exact List.mem_cons.mp (List.mem_of_mem_take hother)

/-- An accepted id is remembered. -/
theorem mem_ids_accept {r after : RecentIds} {id : String} (h : r.accept? id = some after) :
    id ∈ after.ids := by
  obtain ⟨n, hn⟩ := Nat.exists_eq_add_one.mpr r.capacity_pos
  rw [(ids_accept h).1, hn, List.take_succ_cons]
  exact List.mem_cons_self

end RecentIds

end SymbolRelay
