/-!
# Finite tables in ascending key order

A `Table κ β` is a finite map whose entries are kept in strictly ascending order of their keys, so
that two tables with the same look-ups are equal and a listing of a table is a listing by key.

## Results

* `get?_insert`, `get?_erase`, `get?_empty` — what each operation does to every look-up;
* `ext` — a table is determined by its look-ups;
* `mem_entries_iff` — the entries are exactly the look-ups that succeed;
* `ofList_entries`, `ofList_perm` — a table is made of its entries, in whichever order.
-/

set_option autoImplicit false
set_option linter.unusedSectionVars false

namespace SymbolRelay

/-- A finite map with its entries in strictly ascending order of the keys. -/
structure Table (κ β : Type) [Ord κ] where
  entries : List (κ × β)
  ascending : entries.Pairwise fun a b => compare a.1 b.1 = .lt

namespace Table

variable {κ β : Type} [Ord κ]

/-- The table without entries. -/
def empty : Table κ β := ⟨[], .nil⟩

instance : Inhabited (Table κ β) := ⟨empty⟩

/-! ## Look-up -/

/-- The value of the first entry with this key. -/
def lookupIn (k : κ) : List (κ × β) → Option β
  | [] => none
  | (k', v) :: rest => if compare k k' = .eq then some v else lookupIn k rest

/-- The value under a key, if there is one. -/
def get? (t : Table κ β) (k : κ) : Option β := lookupIn k t.entries

/-- Whether a key has a value. -/
def contains (t : Table κ β) (k : κ) : Bool := (t.get? k).isSome

/-- The keys, ascending. -/
def keys (t : Table κ β) : List κ := t.entries.map (·.1)

/-- The values, in ascending order of their keys. -/
def values (t : Table κ β) : List β := t.entries.map (·.2)

/-- How many keys have a value. -/
def size (t : Table κ β) : Nat := t.entries.length

/-- Whether no key has a value. -/
def isEmpty (t : Table κ β) : Bool := t.entries.isEmpty

/-! ## Writing -/

/-- Puts an entry at its place in an ascending list, instead of one with the same key. -/
def insertIn (k : κ) (v : β) : List (κ × β) → List (κ × β)
  | [] => [(k, v)]
  | (k', v') :: rest =>
    match compare k k' with
    | .lt => (k, v) :: (k', v') :: rest
    | .eq => (k, v) :: rest
    | .gt => (k', v') :: insertIn k v rest

/-- The entries whose key is another one. -/
def eraseIn (k : κ) (es : List (κ × β)) : List (κ × β) :=
  es.filter fun e => compare k e.1 != .eq

section Ordered

variable [Std.TransOrd κ] [Std.LawfulEqOrd κ]

theorem compare_self (k : κ) : compare k k = .eq := Std.ReflCmp.compare_self

theorem compare_lt_of_gt {a b : κ} (h : compare a b = .gt) : compare b a = .lt :=
  Std.OrientedCmp.gt_iff_lt.mp h

theorem key_mem_insertIn {k : κ} {v : β} {es : List (κ × β)} {e : κ × β}
    (h : e ∈ insertIn k v es) : e = (k, v) ∨ e ∈ es := by
  induction es with
  | nil => simpa [insertIn] using h
  | cons e' rest ih =>
    obtain ⟨k', v'⟩ := e'
    unfold insertIn at h
    split at h
    · simpa using h
    · rcases List.mem_cons.mp h with h | h
      · exact Or.inl h
      · exact Or.inr (List.mem_cons_of_mem _ h)
    · rcases List.mem_cons.mp h with h | h
      · exact Or.inr (by simp [h])
      · rcases ih h with h | h
        · exact Or.inl h
        · exact Or.inr (List.mem_cons_of_mem _ h)

theorem insertIn_ascending {k : κ} {v : β} {es : List (κ × β)}
    (h : es.Pairwise fun a b => compare a.1 b.1 = .lt) :
    (insertIn k v es).Pairwise fun a b => compare a.1 b.1 = .lt := by
  induction es with
  | nil => simp [insertIn]
  | cons e rest ih =>
    obtain ⟨k', v'⟩ := e
    obtain ⟨hfst, hrest⟩ := List.pairwise_cons.mp h
    unfold insertIn
    split
    · rename_i hlt
      refine List.pairwise_cons.mpr ⟨?_, h⟩
      intro a ha
      rcases List.mem_cons.mp ha with rfl | ha
      · exact hlt
      · exact Std.TransCmp.lt_trans hlt (hfst a ha)
    · rename_i heq
      have hk : k = k' := Std.LawfulEqCmp.eq_of_compare heq
      subst hk
      exact List.pairwise_cons.mpr ⟨hfst, hrest⟩
    · rename_i hgt
      refine List.pairwise_cons.mpr ⟨?_, ih hrest⟩
      intro a ha
      rcases key_mem_insertIn ha with rfl | ha
      · exact compare_lt_of_gt hgt
      · exact hfst a ha

/-- Gives a key a value, in place of the one it may have had. -/
def insert (t : Table κ β) (k : κ) (v : β) : Table κ β :=
  ⟨insertIn k v t.entries, insertIn_ascending t.ascending⟩

/-- Takes a key's value away. -/
def erase (t : Table κ β) (k : κ) : Table κ β :=
  ⟨eraseIn k t.entries, t.ascending.sublist List.filter_sublist⟩

/-- Keeps the entries that satisfy a test. -/
def filter (t : Table κ β) (keep : κ → β → Bool) : Table κ β :=
  ⟨t.entries.filter fun e => keep e.1 e.2, t.ascending.sublist List.filter_sublist⟩

/-- The table with these entries; of two with one key the later counts. -/
def ofList (es : List (κ × β)) : Table κ β :=
  es.foldl (fun t e => t.insert e.1 e.2) empty

/-! ## What the operations do to look-ups -/

@[simp] theorem get?_empty (k : κ) : (empty : Table κ β).get? k = none := rfl

theorem lookupIn_insertIn {k : κ} {v : β} (es : List (κ × β)) (j : κ) :
    lookupIn j (insertIn k v es) = if compare j k = .eq then some v else lookupIn j es := by
  induction es with
  | nil => rfl
  | cons e rest ih =>
    obtain ⟨k', v'⟩ := e
    unfold insertIn
    split
    · rfl
    · rename_i heq
      have hk : k = k' := Std.LawfulEqCmp.eq_of_compare heq
      subst hk
      simp only [lookupIn]
      split <;> rfl
    · rename_i hgt
      simp only [lookupIn, ih]
      by_cases hj : compare j k' = .eq
      · have hjk : j = k' := Std.LawfulEqCmp.eq_of_compare hj
        subst hjk
        have hne : compare j k ≠ .eq := by
          rw [compare_lt_of_gt hgt]; simp
        simp [hne]
      · simp [hj]

theorem get?_insert (t : Table κ β) (k j : κ) (v : β) :
    (t.insert k v).get? j = if compare j k = .eq then some v else t.get? j :=
  lookupIn_insertIn t.entries j

@[simp] theorem get?_insert_self (t : Table κ β) (k : κ) (v : β) :
    (t.insert k v).get? k = some v := by
  simp [get?_insert]

theorem get?_insert_of_ne (t : Table κ β) {k j : κ} (v : β) (h : j ≠ k) :
    (t.insert k v).get? j = t.get? j := by
  rw [get?_insert, if_neg fun he => h (Std.LawfulEqCmp.eq_of_compare he)]

theorem lookupIn_eraseIn {k : κ} (es : List (κ × β)) (j : κ) :
    lookupIn j (eraseIn k es) = if compare j k = .eq then none else lookupIn j es := by
  induction es with
  | nil => simp [eraseIn, lookupIn]
  | cons e rest ih =>
    obtain ⟨k', v'⟩ := e
    simp only [eraseIn, List.filter_cons] at ih ⊢
    by_cases hk : compare k k' = .eq
    · have hkk : k = k' := Std.LawfulEqCmp.eq_of_compare hk
      subst hkk
      simp only [hk, bne_self_eq_false, Bool.false_eq_true, ↓reduceIte, ih, lookupIn]
      split <;> rfl
    · have hb : (compare k k' != .eq) = true := by simpa using hk
      simp only [hb, ↓reduceIte, lookupIn, ih]
      by_cases hj : compare j k' = .eq
      · have hjk : j = k' := Std.LawfulEqCmp.eq_of_compare hj
        subst hjk
        have hne : compare j k ≠ .eq := by
          intro he
          exact hk (Std.LawfulEqCmp.eq_of_compare he ▸ compare_self _)
        simp [hne]
      · simp [hj]

theorem get?_erase (t : Table κ β) (k j : κ) :
    (t.erase k).get? j = if compare j k = .eq then none else t.get? j :=
  lookupIn_eraseIn t.entries j

@[simp] theorem get?_erase_self (t : Table κ β) (k : κ) : (t.erase k).get? k = none := by
  simp [get?_erase]

theorem get?_erase_of_ne (t : Table κ β) {k j : κ} (h : j ≠ k) :
    (t.erase k).get? j = t.get? j := by
  rw [get?_erase, if_neg fun he => h (Std.LawfulEqCmp.eq_of_compare he)]

/-! ## Entries and look-ups -/

theorem lookupIn_eq_some_of_mem {es : List (κ × β)}
    (h : es.Pairwise fun a b => compare a.1 b.1 = .lt) {k : κ} {v : β} (hm : (k, v) ∈ es) :
    lookupIn k es = some v := by
  induction es with
  | nil => cases hm
  | cons e rest ih =>
    obtain ⟨k', v'⟩ := e
    obtain ⟨hfst, hrest⟩ := List.pairwise_cons.mp h
    rcases List.mem_cons.mp hm with heq | hm
    · cases heq
      simp [lookupIn]
    · have hlt := hfst _ hm
      have hne : compare k k' ≠ .eq := by
        intro he
        have := Std.LawfulEqCmp.eq_of_compare he
        subst this
        rw [compare_self] at hlt
        cases hlt
      simp [lookupIn, hne, ih hrest hm]

theorem mem_of_lookupIn_eq_some {es : List (κ × β)} {k : κ} {v : β}
    (h : lookupIn k es = some v) : (k, v) ∈ es := by
  induction es with
  | nil => cases h
  | cons e rest ih =>
    obtain ⟨k', v'⟩ := e
    simp only [lookupIn] at h
    split at h
    · rename_i heq
      have hk : k = k' := Std.LawfulEqCmp.eq_of_compare heq
      cases h
      simp [hk]
    · exact List.mem_cons_of_mem _ (ih h)

theorem mem_entries_iff (t : Table κ β) (k : κ) (v : β) :
    (k, v) ∈ t.entries ↔ t.get? k = some v :=
  ⟨lookupIn_eq_some_of_mem t.ascending, mem_of_lookupIn_eq_some⟩

theorem mem_values_iff (t : Table κ β) (v : β) : v ∈ t.values ↔ ∃ k, t.get? k = some v := by
  simp only [values, List.mem_map, Prod.exists, exists_eq_right, mem_entries_iff]

theorem lookupIn_eq_none_of_lt {es : List (κ × β)} {k : κ} (h : ∀ e ∈ es, compare k e.1 = .lt) :
    lookupIn k es = none := by
  cases hl : lookupIn k es with
  | none => rfl
  | some v =>
    have hlt := h _ (mem_of_lookupIn_eq_some hl)
    rw [compare_self] at hlt
    cases hlt

theorem entries_eq_of_lookupIn_eq {es fs : List (κ × β)}
    (he : es.Pairwise fun a b => compare a.1 b.1 = .lt)
    (hf : fs.Pairwise fun a b => compare a.1 b.1 = .lt)
    (h : ∀ k, lookupIn k es = lookupIn k fs) : es = fs := by
  induction es generalizing fs with
  | nil =>
    cases fs with
    | nil => rfl
    | cons f rest =>
      have := h f.1
      simp [lookupIn] at this
  | cons e es ih =>
    cases fs with
    | nil =>
      have := h e.1
      simp [lookupIn] at this
    | cons f fs =>
      obtain ⟨ke, ve⟩ := e
      obtain ⟨kf, vf⟩ := f
      obtain ⟨hefst, herest⟩ := List.pairwise_cons.mp he
      obtain ⟨hffst, hfrest⟩ := List.pairwise_cons.mp hf
      have hme : (ke, ve) ∈ (kf, vf) :: fs :=
        mem_of_lookupIn_eq_some (by rw [← h]; simp [lookupIn])
      have hmf : (kf, vf) ∈ (ke, ve) :: es :=
        mem_of_lookupIn_eq_some (by rw [h]; simp [lookupIn])
      have heq : (ke, ve) = (kf, vf) := by
        rcases List.mem_cons.mp hme with hh | hh
        · exact hh
        · rcases List.mem_cons.mp hmf with hh' | hh'
          · exact hh'.symm
          · have h1 := hffst _ hh
            have h2 := hefst _ hh'
            have h3 := Std.TransCmp.lt_trans h1 h2
            rw [compare_self] at h3
            cases h3
      cases heq
      have hrest : es = fs := by
        refine ih herest hfrest fun k => ?_
        by_cases hk : compare k ke = .eq
        · have hkk : k = ke := Std.LawfulEqCmp.eq_of_compare hk
          subst hkk
          rw [lookupIn_eq_none_of_lt hefst, lookupIn_eq_none_of_lt hffst]
        · have := h k
          simpa [lookupIn, hk] using this
      rw [hrest]

/-- A table is determined by its look-ups. -/
theorem ext {t u : Table κ β} (h : ∀ k, t.get? k = u.get? k) : t = u := by
  obtain ⟨es, he⟩ := t
  obtain ⟨fs, hf⟩ := u
  have := entries_eq_of_lookupIn_eq he hf h
  subst this
  rfl

theorem get?_foldl_insert_entries (es : List (κ × β))
    (ascending : es.Pairwise fun a b => compare a.1 b.1 = .lt) (t : Table κ β) (k : κ) :
    (es.foldl (fun t e => t.insert e.1 e.2) t).get? k = (lookupIn k es).or (t.get? k) := by
  induction es generalizing t with
  | nil => rfl
  | cons e es ih =>
    obtain ⟨j, v⟩ := e
    obtain ⟨hfirst, hrest⟩ := List.pairwise_cons.mp ascending
    rw [List.foldl_cons, ih hrest, get?_insert]
    by_cases hk : compare k j = .eq
    · have hkj : k = j := Std.LawfulEqCmp.eq_of_compare hk
      subst hkj
      simp [lookupIn, lookupIn_eq_none_of_lt hfirst]
    · simp [lookupIn, hk]

/-- A table is made of its entries. -/
theorem ofList_entries (t : Table κ β) : ofList t.entries = t :=
  ext fun k => by rw [ofList, get?_foldl_insert_entries _ t.ascending, get?_empty, Option.or_none, get?]

/-- It does not matter which of two entries with different keys is put in first. -/
theorem insert_comm (t : Table κ β) {j k : κ} (v w : β) (h : j ≠ k) :
    (t.insert j v).insert k w = (t.insert k w).insert j v := by
  refine ext fun i => ?_
  by_cases hj : i = j
  · subst hj
    rw [get?_insert_of_ne _ _ h, get?_insert_self, get?_insert_self]
  · by_cases hk : i = k
    · subst hk
      rw [get?_insert_self, get?_insert_of_ne _ _ hj, get?_insert_self]
    · rw [get?_insert_of_ne _ _ hk, get?_insert_of_ne _ _ hj, get?_insert_of_ne _ _ hj,
        get?_insert_of_ne _ _ hk]

/-- A table is made of its entries in any order. -/
theorem ofList_perm (t : Table κ β) {es : List (κ × β)} (h : es.Perm t.entries) : ofList es = t := by
  have hfold : ofList es = ofList t.entries := by
    refine h.foldl_eq' (fun a ha b hb u => ?_) empty
    by_cases hab : a.1 = b.1
    · -- A key has one value.
      have hva := (t.mem_entries_iff a.1 a.2).mp (h.mem_iff.mp ha)
      have hvb := (t.mem_entries_iff b.1 b.2).mp (h.mem_iff.mp hb)
      rw [hab, hvb, Option.some.injEq] at hva
      rw [Prod.ext hab hva.symm]
    · exact u.insert_comm a.2 b.2 hab
  exact hfold.trans t.ofList_entries

end Ordered

instance [DecidableEq κ] [DecidableEq β] : DecidableEq (Table κ β) := fun t u =>
  if h : t.entries = u.entries then
    isTrue (by cases t; cases u; cases h; rfl)
  else isFalse fun he => h (by rw [he])

end Table

end SymbolRelay
