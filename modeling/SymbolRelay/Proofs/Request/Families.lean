import Mathlib.Data.List.Induction
import Mathlib.Logic.Relation
import SymbolRelay.Request.Family

/-!
# What a cancellation reaches

How the contexts of a family descend from one another is read off the deeds alone: a copy is a twin of its
source, a child or a bound context lies inside its own.

```text
   opened ──copy──► twin          a cancellation reaches its twins, and whatever descends from them
     │                │
   child            bound ──copy──► twin
```

## Results

* `step_done` — everything a deed can do to a family;
* `Traced.join`, `step_known`, `after_known` — the scopes of a family tell its descent, after each context
  that joins it, each deed, and all of them;
* `Traced.mem_line_iff` — a scope is around a context exactly if a context has it from which that one
  descends;
* `follows_descent` — who is cancelled, who is inside a unit of work and which values everybody has, told
  from the deeds alone.
-/

set_option autoImplicit false

namespace SymbolRelay

namespace Family

/-! ## Descent -/

/-- How a context came about. -/
inductive Origin
  | opened
  | copied (source : Nat)
  | child (source : Nat)
  | bound (source : Nat)

/-- The context from which another one was made. -/
def Origin.source? : Origin → Option Nat
  | .opened => none
  | .copied source | .child source | .bound source => some source

/-- How a deed brings a context about in a family of so many, if it does. -/
def Deed.origin? (size : Nat) : Deed → Option Origin
  | .blank | .given _ | .received _ => some .opened
  | .copy i | .withRequestId i _ | .withCorrelationId i _ => if i < size then some (.copied i) else none
  | .child i => if i < size then some (.child i) else none
  | .bind i => if i < size then some (.bound i) else none
  | .set .. | .cancel _ => none

/-- The origins of those who came about before, and of the one who comes about now. -/
def enter (origins : List Origin) (d : Deed) : List Origin :=
  origins ++ (d.origin? origins.length).toList

/-- The origins of all contexts that came about, in order. -/
def lineage (deeds : List Deed) : List Origin := deeds.foldl enter []

@[simp] theorem lineage_concat (deeds : List Deed) (d : Deed) :
    lineage (deeds ++ [d]) = lineage deeds ++ (d.origin? (lineage deeds).length).toList :=
  List.foldl_append ..

/-- One context is a copy of another, be it with an id of its own. -/
def Copied (origins : List Origin) (i j : Nat) : Prop := origins[i]? = some (.copied j)

/-- One context was made from another. -/
def Made (origins : List Origin) (i j : Nat) : Prop := ∃ o, origins[i]? = some o ∧ o.source? = some j

/-- One context was made inside another, for itself or for a unit of work. -/
def Inside (origins : List Origin) (i j : Nat) : Prop :=
  origins[i]? = some (.child j) ∨ origins[i]? = some (.bound j)

/-- Contexts linked by copying. -/
def Twins (origins : List Origin) : Nat → Nat → Prop := Relation.EqvGen (Copied origins)

/-- One context is another, or was made from it in any number of steps. -/
def Descends (origins : List Origin) : Nat → Nat → Prop := Relation.ReflTransGen (Made origins)

/-- A cancellation of the one context reaches the other: that one descends from it or from a twin. -/
def Reaches (origins : List Origin) (i j : Nat) : Prop := ∃ a, Descends origins j a ∧ Twins origins a i

/-- A context was cancelled after it had come about. -/
def Cancelled (deeds : List Deed) (i : Nat) : Prop :=
  ∃ before later, deeds = before ++ Deed.cancel i :: later ∧ i < (lineage before).length

theorem Twins.mono {origins : List Origin} {i j : Nat} (h : Twins origins i j) (more : List Origin) :
    Twins (origins ++ more) i j :=
  Relation.EqvGen.mono (r := Copied origins) (p := Copied (origins ++ more))
    (fun _ _ hij => (List.getElem?_append_left (List.getElem?_eq_some_iff.mp hij).1).trans hij) i j h

theorem cancelled_concat {deeds : List Deed} {d : Deed} {i : Nat} :
    Cancelled (deeds ++ [d]) i ↔ Cancelled deeds i ∨ d = .cancel i ∧ i < (lineage deeds).length := by
  constructor
  · rintro ⟨before, later, hsplit, hi⟩
    rcases List.eq_nil_or_concat later with rfl | ⟨rest, last, rfl⟩
    · obtain ⟨rfl, hd⟩ := List.append_inj' hsplit rfl
      simp only [List.cons.injEq, and_true] at hd
      exact .inr ⟨hd, hi⟩
    · rw [List.concat_eq_append, ← List.cons_append, ← List.append_assoc] at hsplit
      exact .inl ⟨before, rest, (List.append_inj' hsplit rfl).1, hi⟩
  · rintro (⟨before, later, rfl, hi⟩ | ⟨rfl, hi⟩)
    · exact ⟨before, later ++ [d], by simp, hi⟩
    · exact ⟨deeds, [], rfl, hi⟩

/-! ## Scopes tell the descent -/

/-- How a context stands to the one it was made from: all but its values. -/
def Origin.Explains (members : List Context) (ctx : Context) : Origin → Prop
  | .opened => ctx.outer = [] ∧ ctx.inTransaction = false
  | .copied i => ∃ source, members[i]? = some source ∧ ctx.scope = source.scope ∧
      ctx.outer = source.outer ∧ ctx.inTransaction = source.inTransaction
  | .child i => ∃ source, members[i]? = some source ∧ ctx.outer = source.scope :: source.outer ∧
      ctx.inTransaction = source.inTransaction
  | .bound i => ∃ source, members[i]? = some source ∧ ctx.outer = source.scope :: source.outer ∧
      ctx.inTransaction = true

/-- The scopes of contexts of which each has the origin at its place. -/
structure Traced (origins : List Origin) (members : List Context) (next : Nat) : Prop where
  counted : members.length = origins.length
  explained : ∀ (i : Nat) (ctx : Context), members[i]? = some ctx →
    ∃ o : Origin, origins[i]? = some o ∧ o.Explains members ctx
  /-- A context is made from an earlier one. -/
  earlier : ∀ i j, Made origins i j → j < i
  /-- A scope was handed out before, and its first holder is no copy. -/
  handed : ∀ (i : Nat) (ctx : Context), members[i]? = some ctx → ctx.scope < next
  own : ∀ (i j : Nat) (ctx other : Context), members[i]? = some ctx → members[j]? = some other → j < i →
    ctx.scope = other.scope → ∃ k, Copied origins i k
  /-- Only twins share a scope. -/
  apart : ∀ (i j : Nat) (ctx other : Context), members[i]? = some ctx → members[j]? = some other →
    ctx.scope = other.scope → Twins origins i j

section

variable {origins : List Origin} {members : List Context} {next : Nat}

theorem Made.lt_length {i j : Nat} (h : Made origins i j) : i < origins.length :=
  let ⟨_, ho, _⟩ := h
  (List.getElem?_eq_some_iff.mp ho).1

theorem Inside.made {i j : Nat} (h : Inside origins i j) : Made origins i j := by
  rcases h with h | h <;> exact ⟨_, h, rfl⟩

theorem Copied.made {i j : Nat} (h : Copied origins i j) : Made origins i j := ⟨_, h, rfl⟩

/-- A context was made by copying or inside another. -/
theorem Made.copied_or_inside {i j : Nat} (h : Made origins i j) : Copied origins i j ∨ Inside origins i j := by
  obtain ⟨o, ho, hs⟩ := h
  cases o with
  | opened => cases hs
  | copied k => cases hs; exact .inl ho
  | child k => cases hs; exact .inr (.inl ho)
  | bound k => cases hs; exact .inr (.inr ho)

/-- What explains a context still does when others have joined. -/
theorem Origin.Explains.append {o : Origin} {ctx : Context} (h : o.Explains members ctx)
    (more : List Context) : o.Explains (members ++ more) ctx := by
  have kept : ∀ {i : Nat} {source : Context}, members[i]? = some source →
      (members ++ more)[i]? = some source := fun hi =>
    (List.getElem?_append_left (List.getElem?_eq_some_iff.mp hi).1).trans hi
  cases o with
  | opened => exact h
  | copied i => obtain ⟨source, hi, rest⟩ := h; exact ⟨source, kept hi, rest⟩
  | child i => obtain ⟨source, hi, rest⟩ := h; exact ⟨source, kept hi, rest⟩
  | bound i => obtain ⟨source, hi, rest⟩ := h; exact ⟨source, kept hi, rest⟩

theorem Origin.Explains.source_lt {o : Origin} {ctx : Context} {j : Nat} (h : o.Explains members ctx)
    (hs : o.source? = some j) : j < members.length := by
  cases o with
  | opened => cases hs
  | copied i => cases hs; obtain ⟨source, hi, _⟩ := h; exact (List.getElem?_eq_some_iff.mp hi).1
  | child i => cases hs; obtain ⟨source, hi, _⟩ := h; exact (List.getElem?_eq_some_iff.mp hi).1
  | bound i => cases hs; obtain ⟨source, hi, _⟩ := h; exact (List.getElem?_eq_some_iff.mp hi).1

/-- In a list with one more element, a place holds what it held, or is the last one. -/
theorem getElem?_concat_cases {α : Type} {l : List α} {a b : α} {i : Nat}
    (h : (l ++ [a])[i]? = some b) : l[i]? = some b ∨ i = l.length ∧ b = a := by
  rcases Nat.lt_or_ge i l.length with hi | hi
  · exact .inl ((List.getElem?_append_left hi).symm.trans h)
  · rw [List.getElem?_append_right hi, List.getElem?_singleton] at h
    split at h
    · exact .inr ⟨by omega, (Option.some.inj h).symm⟩
    · cases h

/-- A context that joins is a copy, or has a scope of its own. -/
theorem Traced.join (h : Traced origins members next) {o : Origin} {ctx : Context} {next' : Nat}
    (explained : o.Explains members ctx)
    (new : (∃ i, o = .copied i) ∧ next' = next ∨ ctx.scope = next ∧ next' = next + 1) :
    Traced (origins ++ [o]) (members ++ [ctx]) next' := by
  have shared : ∀ j other, members[j]? = some other → ctx.scope = other.scope →
      ∃ i, o = .copied i ∧ Twins origins i j := by
    intro j other hj hscope
    rcases new with ⟨⟨i, rfl⟩, _⟩ | ⟨fresh, _⟩
    · obtain ⟨source, hi, hsame, _⟩ := explained
      exact ⟨i, rfl, h.apart i j source other hi hj (hsame.symm.trans hscope)⟩
    · exact absurd (h.handed j other hj) (by omega)
  have last : (origins ++ [o])[members.length]? = some o := by rw [h.counted]; simp
  have linked : ∀ j other, members[j]? = some other → ctx.scope = other.scope →
      Twins (origins ++ [o]) members.length j := by
    intro j other hj hscope
    obtain ⟨i, rfl, twins⟩ := shared j other hj hscope
    exact .trans _ _ _ (.rel _ _ last) (twins.mono _)
  refine ⟨?_, ?_, ?_, ?_, ?_, ?_⟩
  · simp [h.counted]
  · intro i other hi
    rcases getElem?_concat_cases hi with hi | ⟨rfl, rfl⟩
    · obtain ⟨o', ho', ex⟩ := h.explained i other hi
      exact ⟨o', (List.getElem?_append_left (List.getElem?_eq_some_iff.mp ho').1).trans ho', ex.append _⟩
    · exact ⟨o, last, explained.append _⟩
  · rintro i j ⟨o', ho', hs⟩
    rcases getElem?_concat_cases ho' with ho' | ⟨rfl, rfl⟩
    · exact h.earlier i j ⟨o', ho', hs⟩
    · exact h.counted ▸ explained.source_lt hs
  · intro i other hi
    rcases getElem?_concat_cases hi with hi | ⟨rfl, rfl⟩
    · have := h.handed i other hi
      rcases new with ⟨_, rfl⟩ | ⟨_, rfl⟩ <;> omega
    · rcases new with ⟨⟨j, rfl⟩, rfl⟩ | ⟨fresh, rfl⟩
      · obtain ⟨source, hj, hsame, _⟩ := explained
        exact hsame ▸ h.handed j source hj
      · omega
  · intro i j a b hi hj hji hscope
    rcases getElem?_concat_cases hj with hj' | ⟨rfl, rfl⟩
    · rcases getElem?_concat_cases hi with hi' | ⟨rfl, rfl⟩
      · obtain ⟨k, hk⟩ := h.own i j a b hi' hj' hji hscope
        exact ⟨k, (List.getElem?_append_left (List.getElem?_eq_some_iff.mp hk).1).trans hk⟩
      · obtain ⟨k, rfl, _⟩ := shared j b hj' hscope
        exact ⟨k, last⟩
    · have := (List.getElem?_eq_some_iff.mp hi).1
      simp only [List.length_append, List.length_singleton] at this
      omega
  · intro i j a b hi hj hscope
    rcases getElem?_concat_cases hi with hi' | ⟨rfl, rfl⟩ <;>
      rcases getElem?_concat_cases hj with hj' | ⟨rfl, rfl⟩
    · exact (h.apart i j a b hi' hj' hscope).mono _
    · exact .symm _ _ (linked i a hi' hscope.symm)
    · exact linked j b hj' hscope
    · exact .refl _

/-- A value that is set on a context changes nobody's scopes. -/
theorem Traced.set (h : Traced origins members next) (place : Nat) (key value : String) :
    Traced origins (members.modify place (·.setValue key value)) next := by
  have back : ∀ {i : Nat} {ctx : Context}, (members.modify place (·.setValue key value))[i]? = some ctx →
      ∃ old, members[i]? = some old ∧ ctx.scope = old.scope ∧ ctx.outer = old.outer ∧
        ctx.inTransaction = old.inTransaction := by
    intro i ctx hi
    rw [List.getElem?_modify] at hi
    obtain ⟨old, hold, rfl⟩ := Option.map_eq_some_iff.mp hi
    exact ⟨old, hold, by split <;> exact ⟨rfl, rfl, rfl⟩⟩
  have forth : ∀ {i : Nat} {old : Context}, members[i]? = some old →
      ∃ ctx, (members.modify place (·.setValue key value))[i]? = some ctx ∧ old.scope = ctx.scope ∧
        old.outer = ctx.outer ∧ old.inTransaction = ctx.inTransaction := by
    intro i old hold
    refine ⟨_, by rw [List.getElem?_modify, hold]; rfl, ?_⟩
    split <;> exact ⟨rfl, rfl, rfl⟩
  refine ⟨by simpa using h.counted, ?_, h.earlier, ?_, ?_, ?_⟩
  · intro i ctx hi
    obtain ⟨old, hold, hscope, houter, hflag⟩ := back hi
    obtain ⟨o, ho, ex⟩ := h.explained i old hold
    refine ⟨o, ho, ?_⟩
    cases o with
    | opened => exact ⟨houter.trans ex.1, hflag.trans ex.2⟩
    | copied j =>
      obtain ⟨source, hj, h1, h2, h3⟩ := ex
      obtain ⟨now, hnow, e1, e2, e3⟩ := forth hj
      exact ⟨now, hnow, by rw [hscope, h1, e1], by rw [houter, h2, e2], by rw [hflag, h3, e3]⟩
    | child j =>
      obtain ⟨source, hj, h2, h3⟩ := ex
      obtain ⟨now, hnow, e1, e2, e3⟩ := forth hj
      exact ⟨now, hnow, by rw [houter, h2, e1, e2], by rw [hflag, h3, e3]⟩
    | bound j =>
      obtain ⟨source, hj, h2, h3⟩ := ex
      obtain ⟨now, hnow, e1, e2, _⟩ := forth hj
      exact ⟨now, hnow, by rw [houter, h2, e1, e2], by rw [hflag, h3]⟩
  · intro i ctx hi
    obtain ⟨old, hold, hscope, _⟩ := back hi
    exact hscope ▸ h.handed i old hold
  · intro i j a b hi hj hji hscope
    obtain ⟨a', ha', ea, _⟩ := back hi
    obtain ⟨b', hb', eb, _⟩ := back hj
    exact h.own i j a' b' ha' hb' hji (ea.symm.trans (hscope.trans eb))
  · intro i j a b hi hj hscope
    obtain ⟨a', ha', ea, _⟩ := back hi
    obtain ⟨b', hb', eb, _⟩ := back hj
    exact h.apart i j a' b' ha' hb' (ea.symm.trans (hscope.trans eb))

/-! ### Reading the descent off the scopes -/

variable (traced : Traced origins members next)
include traced

theorem Traced.member {i : Nat} (h : i < origins.length) : ∃ ctx, members[i]? = some ctx :=
  ⟨_, List.getElem?_eq_getElem (traced.counted ▸ h)⟩

/-- Twins share their scope and those around it. -/
theorem Traced.twins {i j : Nat} (h : Twins origins i j) :
    members[i]?.map (fun c => (c.scope, c.outer)) = members[j]?.map (fun c => (c.scope, c.outer)) := by
  induction h with
  | rel i j hij =>
    obtain ⟨ctx, hi⟩ := traced.member (Made.lt_length hij.made)
    obtain ⟨o, ho, ex⟩ := traced.explained i ctx hi
    cases ho.symm.trans hij
    obtain ⟨source, hj, hscope, houter, _⟩ := ex
    rw [hi, hj, Option.map_some, Option.map_some, hscope, houter]
  | refl => rfl
  | symm _ _ _ ih => exact ih.symm
  | trans _ _ _ _ _ ih₁ ih₂ => exact ih₁.trans ih₂

theorem Traced.alike {i j : Nat} {ctx other : Context} (h : Twins origins i j)
    (hi : members[i]? = some ctx) (hj : members[j]? = some other) :
    ctx.scope = other.scope ∧ ctx.outer = other.outer := by
  have same := traced.twins h
  rw [hi, hj] at same
  exact Prod.mk.inj (Option.some.inj same)

/-- A twin of a context that is there is there. -/
theorem Traced.twin {i j : Nat} {ctx : Context} (h : Twins origins i j) (hi : members[i]? = some ctx) :
    ∃ other, members[j]? = some other := by
  have same := traced.twins h
  rw [hi] at same
  obtain ⟨other, hj, _⟩ := Option.map_eq_some_iff.mp same.symm
  exact ⟨other, hj⟩

/-- A context made inside another has that one's scopes around it. -/
theorem Traced.inside {i j : Nat} {ctx : Context} (h : Inside origins i j) (hi : members[i]? = some ctx) :
    ∃ source, members[j]? = some source ∧ ctx.outer = source.scope :: source.outer := by
  obtain ⟨o, ho, ex⟩ := traced.explained i ctx hi
  rcases h with h | h <;> cases ho.symm.trans h <;>
    exact let ⟨source, hj, houter, _⟩ := ex; ⟨source, hj, houter⟩

/-- What a context was made from is there. -/
theorem Traced.source {i j : Nat} (h : Made origins i j) : ∃ source, members[j]? = some source := by
  exact traced.member (Nat.lt_trans (traced.earlier i j h) h.lt_length)

/-- **A scope is around a context, or its own, exactly if a context has it from which this one
descends.** The induction is on the place: what a context was made from came about earlier. -/
theorem Traced.mem_line_iff (i : Nat) : ∀ {ctx : Context} {s : Nat}, members[i]? = some ctx →
    (s ∈ ctx.scope :: ctx.outer ↔
      ∃ a other, Descends origins i a ∧ members[a]? = some other ∧ other.scope = s) := by
  induction i using Nat.strongRecOn with
  | ind i ih =>
    intro ctx s hi
    have own : ctx.scope = s →
        ∃ a other, Descends origins i a ∧ members[a]? = some other ∧ other.scope = s :=
      fun hs => ⟨i, ctx, .refl, hi, hs⟩
    constructor
    · intro hs
      rcases List.mem_cons.mp hs with rfl | hs
      · exact own rfl
      · obtain ⟨o, ho, ex⟩ := traced.explained i ctx hi
        have above : ∀ {j : Nat} {source : Context}, Made origins i j → members[j]? = some source →
            s ∈ source.scope :: source.outer →
            ∃ a other, Descends origins i a ∧ members[a]? = some other ∧ other.scope = s := by
          intro j source hij hj hsource
          obtain ⟨a, other, hja, rest⟩ := (ih j (traced.earlier i j hij) hj).mp hsource
          exact ⟨a, other, .head hij hja, rest⟩
        cases o with
        | opened => rw [ex.1] at hs; cases hs
        | copied j =>
          obtain ⟨source, hj, _, houter, _⟩ := ex
          exact above ⟨_, ho, rfl⟩ hj (List.mem_cons_of_mem _ (houter ▸ hs))
        | child j =>
          obtain ⟨source, hj, houter, _⟩ := ex
          exact above ⟨_, ho, rfl⟩ hj (houter ▸ hs)
        | bound j =>
          obtain ⟨source, hj, houter, _⟩ := ex
          exact above ⟨_, ho, rfl⟩ hj (houter ▸ hs)
    · rintro ⟨a, other, hia, ha, hs⟩
      rcases Relation.ReflTransGen.cases_head hia with rfl | ⟨j, hij, hja⟩
      · cases hi.symm.trans ha
        exact hs ▸ List.mem_cons_self
      · obtain ⟨source, hj⟩ := traced.source hij
        have hsource := (ih j (traced.earlier i j hij) hj).mpr ⟨a, other, hja, ha, hs⟩
        rcases hij.copied_or_inside with hc | hin
        · have same := traced.alike (.rel _ _ hc) hi hj
          rw [same.1, same.2]
          exact hsource
        · obtain ⟨source', hj', houter⟩ := traced.inside hin hi
          cases hj.symm.trans hj'
          exact List.mem_cons_of_mem _ (houter ▸ hsource)

/-- A context is inside a unit of work exactly if it descends from one that was bound to it. -/
theorem Traced.inTransaction_iff (i : Nat) : ∀ {ctx : Context}, members[i]? = some ctx →
    (ctx.inTransaction = true ↔ ∃ j k, Descends origins i j ∧ origins[j]? = some (.bound k)) := by
  induction i using Nat.strongRecOn with
  | ind i ih =>
    intro ctx hi
    obtain ⟨o, ho, ex⟩ := traced.explained i ctx hi
    -- Whoever is not bound itself is inside a unit of work just as its source is.
    have passed : ∀ {j : Nat} {source : Context}, Made origins i j → members[j]? = some source →
        ctx.inTransaction = source.inTransaction → (∀ k, o ≠ .bound k) →
        (ctx.inTransaction = true ↔ ∃ j k, Descends origins i j ∧ origins[j]? = some (.bound k)) := by
      intro j source hij hj hflag free
      rw [hflag, ih j (traced.earlier i j hij) hj]
      constructor
      · rintro ⟨a, k, hja, ha⟩
        exact ⟨a, k, .head hij hja, ha⟩
      · rintro ⟨a, k, hia, ha⟩
        rcases Relation.ReflTransGen.cases_head hia with rfl | ⟨j', hij', hja⟩
        · exact absurd (Option.some.inj (ho.symm.trans ha)) (free k)
        · obtain ⟨o₁, ho₁, hs₁⟩ := hij
          obtain ⟨o₂, ho₂, hs₂⟩ := hij'
          cases ho₁.symm.trans ho₂
          cases hs₁.symm.trans hs₂
          exact ⟨a, k, hja, ha⟩
    cases o with
    | opened =>
      rw [ex.2]
      refine iff_of_false Bool.false_ne_true ?_
      rintro ⟨j, k, hij, hj⟩
      rcases Relation.ReflTransGen.cases_head hij with rfl | ⟨j', ⟨o', ho', hs'⟩, _⟩
      · cases ho.symm.trans hj
      · cases ho.symm.trans ho'
        cases hs'
    | copied j =>
      obtain ⟨source, hj, _, _, hflag⟩ := ex
      exact passed ⟨_, ho, rfl⟩ hj hflag (fun _ h => by cases h)
    | child j =>
      obtain ⟨source, hj, _, hflag⟩ := ex
      exact passed ⟨_, ho, rfl⟩ hj hflag (fun _ h => by cases h)
    | bound j => exact iff_of_true ex.choose_spec.2.2 ⟨i, j, .refl, ho⟩

/-- Whoever descends from a context is its twin or lies deeper. -/
theorem Traced.descends {i j : Nat} (h : Descends origins i j) {ctx other : Context}
    (hi : members[i]? = some ctx) (hj : members[j]? = some other) :
    Twins origins i j ∨ other.outer.length < ctx.outer.length := by
  induction h using Relation.ReflTransGen.head_induction_on generalizing ctx with
  | refl => exact .inl (.refl _)
  | @head i k hik _ ih =>
    obtain ⟨source, hk⟩ := traced.source hik
    rcases hik.copied_or_inside with hc | hin
    · have same := (traced.alike (.rel _ _ hc) hi hk).2
      exact (ih hk).imp (.trans _ _ _ (.rel _ _ hc)) (same ▸ ·)
    · obtain ⟨source', hk', houter⟩ := traced.inside hin hi
      cases hk.symm.trans hk'
      refine .inr ?_
      rw [houter, List.length_cons]
      rcases ih hk with twins | deeper
      · rw [(traced.alike twins hk hj).2]
        exact Nat.lt_succ_self _
      · omega

end

/-! ## Deeds -/

/-- What is set by a deed on the context at a place. -/
def Deed.setting? (i : Nat) : Deed → Option (String × String)
  | .set place key value => if place = i then some (key, value) else none
  | _ => none

/-- Values after those that some deeds set on the context at a place. -/
def settled (i : Nat) (deeds : List Deed) (values : Metadata) : Metadata :=
  (deeds.filterMap (Deed.setting? i)).foldl (fun values e => values.insert e.1 e.2) values

/-- The values a context starts with, given those of the others. -/
def Deed.starting (valuesOf : Nat → Metadata) : Deed → Metadata
  | .given values => values
  | .received message => message.metadata
  | .copy i | .child i | .bind i => valuesOf i
  | .withRequestId i id => (valuesOf i).insert Header.requestId id
  | .withCorrelationId i id => (valuesOf i).insert Header.correlationId id
  | .blank | .set .. | .cancel _ => Table.empty

/-- The values of the context at a place. -/
def valuesOf (f : Family) (i : Nat) : Metadata := (f.members[i]?.map (·.values)).getD Table.empty

/-- What a deed does: one context joins, a value is set, a scope is cancelled, or nothing happens. -/
inductive Done (f : Family) (d : Deed) : Family → Prop
  | joined (o : Origin) (ctx : Context) (next : Nat) (born : d.origin? f.members.length = some o)
      (explained : o.Explains f.members ctx)
      (new : (∃ i, o = .copied i) ∧ next = f.scopes.next ∨ ctx.scope = f.scopes.next ∧ next = f.scopes.next + 1)
      (starts : ctx.values = d.starting f.valuesOf) :
      Done f d ⟨{ f.scopes with next }, f.members ++ [ctx]⟩
  | set (place : Nat) (key value : String) (is : d = .set place key value) :
      Done f d { f with members := f.members.modify place (·.setValue key value) }
  | cancelled (place : Nat) (ctx : Context) (is : d = .cancel place)
      (present : f.members[place]? = some ctx) : Done f d { f with scopes := ctx.cancel f.scopes }
  | nothing (unborn : d.origin? f.members.length = none) (unset : ∀ i, d.setting? i = none)
      (uncancelled : ∀ i, d = .cancel i → f.members.length ≤ i) : Done f d f

/-- A context that is derived from one that is not there does not come about. -/
theorem derive_done (f : Family) {d : Deed} {source : Nat} {o : Origin} {make : Context → Context × Scopes}
    (born : ∀ n, d.origin? n = if source < n then some o else none)
    (quiet : ∀ i, d ≠ .cancel i ∧ d.setting? i = none)
    (made : ∀ ctx, f.members[source]? = some ctx → ∃ next, (make ctx).2 = { f.scopes with next } ∧
      o.Explains f.members (make ctx).1 ∧
      ((∃ i, o = .copied i) ∧ next = f.scopes.next ∨
        (make ctx).1.scope = f.scopes.next ∧ next = f.scopes.next + 1) ∧
      (make ctx).1.values = d.starting f.valuesOf) :
    Done f d (f.derive source make) := by
  unfold derive
  cases hs : f.members[source]? with
  | none =>
    have out := List.getElem?_eq_none_iff.mp hs
    exact .nothing (by rw [born, if_neg (by omega)]) (fun i => (quiet i).2) (fun i h => absurd h (quiet i).1)
  | some ctx =>
    obtain ⟨next, hscopes, explained, new, starts⟩ := made ctx hs
    have present := (List.getElem?_eq_some_iff.mp hs).1
    simp only [join, hscopes]
    exact .joined o _ next (by rw [born, if_pos present]) explained new starts

theorem valuesOf_eq {f : Family} {i : Nat} {ctx : Context} (h : f.members[i]? = some ctx) :
    f.valuesOf i = ctx.values := by
  rw [valuesOf, h]
  rfl

theorem step_done (f : Family) (d : Deed) : Done f d (f.step d) := by
  cases d with
  | blank =>
    exact .joined .opened _ _ rfl ⟨rfl, rfl⟩ (.inr ⟨rfl, rfl⟩) rfl
  | given values =>
    exact .joined .opened _ _ rfl ⟨rfl, rfl⟩ (.inr ⟨rfl, rfl⟩) rfl
  | received message =>
    exact .joined .opened _ _ rfl ⟨rfl, rfl⟩ (.inr ⟨rfl, rfl⟩) rfl
  | copy source =>
    exact f.derive_done (o := .copied source) (fun _ => rfl) (fun _ => ⟨nofun, rfl⟩) fun ctx hs =>
      ⟨_, rfl, ⟨ctx, hs, rfl, rfl, rfl⟩, .inl ⟨⟨_, rfl⟩, rfl⟩, (valuesOf_eq hs).symm⟩
  | withRequestId source id =>
    exact f.derive_done (o := .copied source) (fun _ => rfl) (fun _ => ⟨nofun, rfl⟩) fun ctx hs =>
      ⟨_, rfl, ⟨ctx, hs, rfl, rfl, rfl⟩, .inl ⟨⟨_, rfl⟩, rfl⟩,
        congrArg (·.insert Header.requestId id) (valuesOf_eq hs).symm⟩
  | withCorrelationId source id =>
    exact f.derive_done (o := .copied source) (fun _ => rfl) (fun _ => ⟨nofun, rfl⟩) fun ctx hs =>
      ⟨_, rfl, ⟨ctx, hs, rfl, rfl, rfl⟩, .inl ⟨⟨_, rfl⟩, rfl⟩,
        congrArg (·.insert Header.correlationId id) (valuesOf_eq hs).symm⟩
  | child source =>
    exact f.derive_done (o := .child source) (fun _ => rfl) (fun _ => ⟨nofun, rfl⟩) fun ctx hs =>
      ⟨_, rfl, ⟨ctx, hs, rfl, rfl⟩, .inr ⟨rfl, rfl⟩, (valuesOf_eq hs).symm⟩
  | bind source =>
    exact f.derive_done (o := .bound source) (fun _ => rfl) (fun _ => ⟨nofun, rfl⟩) fun ctx hs =>
      ⟨_, rfl, ⟨ctx, hs, rfl, rfl⟩, .inr ⟨rfl, rfl⟩, (valuesOf_eq hs).symm⟩
  | set place key value => exact .set place key value rfl
  | cancel place =>
    simp only [step]
    cases hs : f.members[place]? with
    | none =>
      refine .nothing rfl (fun _ => rfl) fun i h => ?_
      cases h
      exact List.getElem?_eq_none_iff.mp hs
    | some ctx => exact .cancelled place ctx rfl hs

/-- A deed that brings a context about cancels nothing. -/
theorem Deed.ne_cancel_of_origin? {d : Deed} {n : Nat} {o : Origin} (h : d.origin? n = some o) (i : Nat) :
    d ≠ .cancel i := by
  rintro rfl
  cases h

/-! ## The family after any deeds -/

/-- What is known of a family from the deeds that left it. -/
structure Known (deeds : List Deed) (f : Family) : Prop where
  traced : Traced (lineage deeds) f.members f.scopes.next
  /-- The cancelled scopes are those of the contexts that were cancelled. -/
  cancelled : ∀ s, s ∈ f.scopes.cancelled ↔
    ∃ i ctx, f.members[i]? = some ctx ∧ ctx.scope = s ∧ Cancelled deeds i

theorem Cancelled.lt_length {deeds : List Deed} {i : Nat} (h : Cancelled deeds i) :
    i < (lineage deeds).length := by
  induction deeds using List.reverseRecOn with
  | nil =>
    obtain ⟨before, later, hsplit, _⟩ := h
    simp at hsplit
  | append_singleton deeds d ih =>
    rw [lineage_concat, List.length_append]
    rcases cancelled_concat.mp h with h | ⟨_, h⟩
    · exact Nat.lt_of_lt_of_le (ih h) (Nat.le_add_right _ _)
    · exact Nat.lt_of_lt_of_le h (Nat.le_add_right _ _)

theorem step_known {deeds : List Deed} {f : Family} (h : Known deeds f) (d : Deed) :
    Known (deeds ++ [d]) (f.step d) := by
  have counted := h.traced.counted
  -- Whoever cancels nobody leaves the cancelled contexts as they were.
  have others : (∀ i, d = .cancel i → f.members.length ≤ i) →
      ∀ i, Cancelled (deeds ++ [d]) i ↔ Cancelled deeds i := by
    intro quiet i
    rw [cancelled_concat, ← counted]
    exact ⟨fun h => h.resolve_right fun ⟨hd, hi⟩ => absurd (quiet i hd) (by omega), .inl⟩
  generalize hstep : f.step d = f'
  cases hstep ▸ f.step_done d with
  | joined o ctx next born explained new starts =>
    rw [counted] at born
    constructor
    · rw [lineage_concat, born]
      exact h.traced.join explained new
    · intro s
      rw [h.cancelled]
      refine exists_congr fun i => ?_
      constructor
      · rintro ⟨other, hi, hs, hc⟩
        exact ⟨other, (List.getElem?_append_left (List.getElem?_eq_some_iff.mp hi).1).trans hi, hs,
          (others (fun i hd => absurd hd (Deed.ne_cancel_of_origin? born i)) i).mpr hc⟩
      · rintro ⟨other, hi, hs, hc⟩
        have hc := (others (fun i hd => absurd hd (Deed.ne_cancel_of_origin? born i)) i).mp hc
        have hlt : i < f.members.length := counted ▸ hc.lt_length
        exact ⟨other, (List.getElem?_append_left hlt).symm.trans hi, hs, hc⟩
  | set place key value is =>
    subst is
    constructor
    · simpa [Deed.origin?] using h.traced.set place key value
    · intro s
      rw [h.cancelled]
      refine exists_congr fun i => ?_
      rw [others nofun i, List.getElem?_modify]
      constructor
      · rintro ⟨ctx, hi, hs, hc⟩
        exact ⟨_, by rw [hi]; rfl, by split <;> exact hs, hc⟩
      · rintro ⟨ctx, hi, hs, hc⟩
        obtain ⟨old, hold, rfl⟩ := Option.map_eq_some_iff.mp hi
        exact ⟨old, hold, by split at hs <;> exact hs, hc⟩
  | cancelled place ctx is present =>
    subst is
    constructor
    · simpa [Deed.origin?, Context.cancel] using h.traced
    · intro s
      simp only [Context.cancel, List.mem_cons, h.cancelled, cancelled_concat]
      constructor
      · rintro (rfl | ⟨i, other, hi, hs, hc⟩)
        · exact ⟨place, ctx, present, rfl, .inr ⟨rfl, counted ▸ (List.getElem?_eq_some_iff.mp present).1⟩⟩
        · exact ⟨i, other, hi, hs, .inl hc⟩
      · rintro ⟨i, other, hi, hs, hc | ⟨hd, _⟩⟩
        · exact .inr ⟨i, other, hi, hs, hc⟩
        · cases hd
          cases present.symm.trans hi
          exact .inl hs.symm
  | nothing unborn unset uncancelled =>
    rw [counted] at unborn
    constructor
    · simpa [unborn] using h.traced
    · intro s
      rw [h.cancelled]
      refine exists_congr fun i => ?_
      rw [others uncancelled i]

theorem after_known (deeds : List Deed) : Known deeds (after deeds) := by
  induction deeds using List.reverseRecOn with
  | nil =>
    refine ⟨⟨rfl, nofun, ?_, nofun, nofun, nofun⟩, fun s => ⟨nofun, ?_⟩⟩
    · rintro i j ⟨o, ho, _⟩
      cases ho
    · rintro ⟨i, ctx, hi, _⟩
      cases hi
  | append_singleton deeds d ih =>
    rw [after_concat]
    exact step_known ih d

section

variable {deeds : List Deed} {f : Family} (known : Known deeds f)
include known

/-- A cancellation reaches those around whom, or with whom, the scope of the cancelled context is. -/
theorem Known.reaches_iff {i j : Nat} {ctx other : Context} (hi : f.members[i]? = some ctx)
    (hj : f.members[j]? = some other) :
    Reaches (lineage deeds) j i ↔ other.scope ∈ ctx.scope :: ctx.outer := by
  rw [known.traced.mem_line_iff i hi]
  constructor
  · rintro ⟨a, hia, twins⟩
    obtain ⟨third, ha⟩ := known.traced.twin (.symm _ _ twins) hj
    exact ⟨a, third, hia, ha, (known.traced.alike twins ha hj).1⟩
  · rintro ⟨a, third, hia, ha, hsame⟩
    exact ⟨a, hia, known.traced.apart a j third other ha hj hsame⟩

theorem Known.isCancelled_iff {i : Nat} {ctx : Context} (hi : f.members[i]? = some ctx) :
    ctx.isCancelled f.scopes = true ↔ ∃ j, Cancelled deeds j ∧ Reaches (lineage deeds) j i := by
  simp only [Context.isCancelled, List.any_eq_true, List.contains_iff_mem, known.cancelled]
  constructor
  · rintro ⟨s, hs, j, other, hj, rfl, hc⟩
    exact ⟨j, hc, (known.reaches_iff hi hj).mpr hs⟩
  · rintro ⟨j, hc, hr⟩
    obtain ⟨other, hj⟩ := known.traced.member hc.lt_length
    exact ⟨_, (known.reaches_iff hi hj).mp hr, j, other, hj, rfl, hc⟩

/-- Whoever a cancellation reaches lies at least as deep as the cancelled context, and at the same depth
only as its twin. -/
theorem Known.deep_of_reaches {i j : Nat} {ctx other : Context} (h : Reaches (lineage deeds) j i)
    (hi : f.members[i]? = some ctx) (hj : f.members[j]? = some other) :
    Twins (lineage deeds) i j ∨ other.outer.length < ctx.outer.length := by
  obtain ⟨a, hia, twins⟩ := h
  obtain ⟨third, ha⟩ := known.traced.twin (.symm _ _ twins) hj
  rw [← (known.traced.alike twins ha hj).2]
  exact (known.traced.descends hia hi ha).imp (.trans _ _ _ · twins) id

/-- A cancellation does not reach what the context descends from, twins apart. -/
theorem Known.not_reaches_above {i j : Nat} (below : Descends (lineage deeds) j i)
    (apart : ¬ Twins (lineage deeds) j i) : ¬ Reaches (lineage deeds) j i := by
  intro reached
  obtain ⟨k, hjk, _⟩ := (Relation.ReflTransGen.cases_head below).resolve_left fun h =>
    apart (h ▸ .refl _)
  obtain ⟨k, _, hki⟩ := (Relation.ReflTransGen.cases_tail below).resolve_left fun h =>
    apart (h ▸ .refl _)
  obtain ⟨other, hj⟩ := known.traced.member hjk.lt_length
  obtain ⟨ctx, hi⟩ := known.traced.source hki
  have deeper := (known.traced.descends below hj hi).resolve_left apart
  have shallower := (known.deep_of_reaches reached hi hj).resolve_left fun h => apart (.symm _ _ h)
  omega

/-- A cancellation does not reach another context that was made inside the same one. -/
theorem Known.not_reaches_beside {i j p q : Nat} (hi : Inside (lineage deeds) i p)
    (hj : Inside (lineage deeds) j q) (parents : Twins (lineage deeds) p q) (ne : i ≠ j) :
    ¬ Reaches (lineage deeds) j i := by
  intro reached
  obtain ⟨ctx, hctx⟩ := known.traced.member hi.made.lt_length
  obtain ⟨other, hother⟩ := known.traced.member hj.made.lt_length
  obtain ⟨_, hp, hpo⟩ := known.traced.inside hi hctx
  obtain ⟨_, hq, hqo⟩ := known.traced.inside hj hother
  have level : ctx.outer = other.outer := by
    have same := known.traced.alike parents hp hq
    rw [hpo, hqo, same.1, same.2]
  have twins := (known.deep_of_reaches reached hctx hother).resolve_right (by rw [level]; omega)
  have shared := (known.traced.alike twins hctx hother).1
  -- Whichever of the two came later would have to be a copy.
  have copied : (∃ k, Copied (lineage deeds) i k) ∨ ∃ k, Copied (lineage deeds) j k := by
    rcases Nat.lt_or_gt_of_ne ne with h | h
    · exact .inr (known.traced.own j i other ctx hother hctx h shared.symm)
    · exact .inl (known.traced.own i j ctx other hctx hother h shared)
  rcases copied with ⟨k, hk⟩ | ⟨k, hk⟩
  · rcases hi with hi | hi <;> cases hi.symm.trans hk
  · rcases hj with hj | hj <;> cases hj.symm.trans hk

end

/-! ## What lasts -/

/-- Whether a context is cancelled hangs on its scopes alone. -/
theorem isCancelled_congr {ctx other : Context} {scopes scopes' : Scopes} (hs : other.scope = ctx.scope)
    (ho : other.outer = ctx.outer) (hc : scopes'.cancelled = scopes.cancelled) :
    other.isCancelled scopes' = ctx.isCancelled scopes := by
  rw [Context.isCancelled, Context.isCancelled, hs, ho, hc]

/-- A context after a deed: its scopes and its flag are what they were, and only what is set on itself
changes its values. -/
structure Lasts (f f' : Family) (d : Deed) (i : Nat) (ctx later : Context) : Prop where
  there : f'.members[i]? = some later
  scope : later.scope = ctx.scope
  outer : later.outer = ctx.outer
  inTransaction : later.inTransaction = ctx.inTransaction
  values : later.values = settled i [d] ctx.values
  spared : (∀ j, d ≠ .cancel j) → later.isCancelled f'.scopes = ctx.isCancelled f.scopes
  stays : ctx.isCancelled f.scopes = true → later.isCancelled f'.scopes = true

theorem settled_of_none {i : Nat} {d : Deed} (h : d.setting? i = none) (values : Metadata) :
    settled i [d] values = values := by
  simp [settled, h]

theorem step_lasts (f : Family) (d : Deed) {i : Nat} {ctx : Context} (hi : f.members[i]? = some ctx) :
    ∃ later, Lasts f (f.step d) d i ctx later := by
  have kept : ∀ {f' : Family}, f'.scopes.cancelled = f.scopes.cancelled → f'.members[i]? = some ctx →
      d.setting? i = none → ∃ later, Lasts f f' d i ctx later := by
    intro f' hc hi' hset
    have same : ctx.isCancelled f'.scopes = ctx.isCancelled f.scopes := isCancelled_congr rfl rfl hc
    exact ⟨ctx, hi', rfl, rfl, rfl, (settled_of_none hset _).symm, fun _ => same, same.trans⟩
  generalize hstep : f.step d = f'
  cases hstep ▸ f.step_done d with
  | joined o ctx' next born _ _ _ =>
    refine kept rfl ((List.getElem?_append_left (List.getElem?_eq_some_iff.mp hi).1).trans hi) ?_
    cases d <;> first | rfl | cases born
  | set place key value is =>
    subst is
    refine ⟨_, by rw [List.getElem?_modify, hi]; rfl, ?_, ?_, ?_, ?_, ?_, ?_⟩
    · split <;> rfl
    · split <;> rfl
    · split <;> rfl
    · by_cases h : place = i <;> simp [settled, Deed.setting?, h, Context.setValue]
    · intro _
      exact isCancelled_congr (by split <;> rfl) (by split <;> rfl) rfl
    · exact fun h => (isCancelled_congr (by split <;> rfl) (by split <;> rfl) rfl).trans h
  | cancelled place other is _ =>
    refine ⟨ctx, hi, rfl, rfl, rfl, (settled_of_none (is ▸ rfl) _).symm, fun h => absurd is (h _), ?_⟩
    intro h
    rw [Context.isCancelled_cancel, h, Bool.true_or]
  | nothing _ unset _ => exact kept rfl hi (unset i)

theorem settled_cons (i : Nat) (d : Deed) (more : List Deed) (values : Metadata) :
    settled i (d :: more) values = settled i more (settled i [d] values) := by
  cases h : d.setting? i <;> simp [settled, h]

/-- Over any deeds a context keeps its flag, stays cancelled, and has the values that were set on it. -/
theorem run_lasts (more : List Deed) {i : Nat} : ∀ {f : Family} {ctx : Context},
    f.members[i]? = some ctx → ∃ later, (more.foldl step f).members[i]? = some later ∧
      later.inTransaction = ctx.inTransaction ∧ later.values = settled i more ctx.values ∧
      (ctx.isCancelled f.scopes = true → later.isCancelled (more.foldl step f).scopes = true) := by
  induction more with
  | nil => exact fun hi => ⟨_, hi, rfl, rfl, id⟩
  | cons d more ih =>
    intro f ctx hi
    obtain ⟨next, lasts⟩ := f.step_lasts d hi
    obtain ⟨later, there, flag, values, stays⟩ := ih lasts.there
    exact ⟨later, there, flag.trans lasts.inTransaction,
      by rw [values, lasts.values, ← settled_cons], fun h => stays (lasts.stays h)⟩

/-! ## Descent -/

/-- What the deeds alone tell of the contexts they leave. -/
structure FollowsDescent (deeds : List Deed) : Prop where
  /-- Exactly those are there that the deeds brought about. -/
  counted : (after deeds).members.length = (lineage deeds).length
  /-- A context is cancelled exactly if a cancelled one reaches it. -/
  cancelled : ∀ (i : Nat) (ctx : Context), (after deeds).members[i]? = some ctx →
    (ctx.isCancelled (after deeds).scopes = true ↔ ∃ j, Cancelled deeds j ∧ Reaches (lineage deeds) j i)
  /-- A context is inside a unit of work exactly if it descends from one that was bound to it. -/
  inTransaction : ∀ (i : Nat) (ctx : Context), (after deeds).members[i]? = some ctx →
    (ctx.inTransaction = true ↔ ∃ j k, Descends (lineage deeds) i j ∧ (lineage deeds)[j]? = some (.bound k))
  /-- A cancellation changes no context, and cancels whom it reaches and nobody else. -/
  cancelling : ∀ j, (after (deeds ++ [.cancel j])).members = (after deeds).members ∧
    ∀ (i : Nat) (ctx : Context), (after deeds).members[i]? = some ctx →
      j < (after deeds).members.length →
      (ctx.isCancelled (after (deeds ++ [.cancel j])).scopes = true ↔
        ctx.isCancelled (after deeds).scopes = true ∨ Reaches (lineage deeds) j i)
  /-- It does not reach what the context descends from, its twins apart. -/
  above : ∀ i j, Descends (lineage deeds) j i → ¬ Twins (lineage deeds) j i → ¬ Reaches (lineage deeds) j i
  /-- It does not reach another one that was made inside the same context or a twin of that. -/
  beside : ∀ i j p q, Inside (lineage deeds) i p → Inside (lineage deeds) j q →
    Twins (lineage deeds) p q → i ≠ j → ¬ Reaches (lineage deeds) j i
  /-- No other deed cancels anybody. -/
  spared : ∀ d, (∀ j, d ≠ .cancel j) → ∀ (i : Nat) (ctx : Context), (after deeds).members[i]? = some ctx →
    ∃ later, (after (deeds ++ [d])).members[i]? = some later ∧
      later.isCancelled (after (deeds ++ [d])).scopes = ctx.isCancelled (after deeds).scopes
  /-- Whatever is done later, a context keeps its flag, stays cancelled, and its values are those it had
  with what was set on itself since. -/
  lasting : ∀ (more : List Deed) (i : Nat) (ctx : Context), (after deeds).members[i]? = some ctx →
    ∃ later, (after (deeds ++ more)).members[i]? = some later ∧
      later.inTransaction = ctx.inTransaction ∧ later.values = settled i more ctx.values ∧
      (ctx.isCancelled (after deeds).scopes = true →
        later.isCancelled (after (deeds ++ more)).scopes = true)
  /-- A context that joins starts with the values of the one it was made from. -/
  starting : ∀ (d : Deed) (ctx : Context),
    (after (deeds ++ [d])).members[(after deeds).members.length]? = some ctx →
      ctx.values = d.starting (after deeds).valuesOf

/-- **Cancellation follows descent.** Whatever contexts are opened, copied, bound, given values and
cancelled, in any order: a context is cancelled exactly if it or a twin was, or one it descends from or a
twin of that; a cancellation reaches nobody else, is never undone and changes no value and no flag; who is
inside a unit of work is told by descent; and a value that is set on one context is set on no other. -/
theorem follows_descent (deeds : List Deed) : FollowsDescent deeds where
  counted := (after_known deeds).traced.counted
  cancelled _ _ hi := (after_known deeds).isCancelled_iff hi
  inTransaction i _ hi := (after_known deeds).traced.inTransaction_iff i hi
  cancelling := by
    intro j
    rw [after_concat, step]
    cases hj : (after deeds).members[j]? with
    | none =>
      refine ⟨rfl, fun i ctx _ there => ?_⟩
      exact absurd there (Nat.not_lt.mpr (List.getElem?_eq_none_iff.mp hj))
    | some other =>
      refine ⟨rfl, fun i ctx hi _ => ?_⟩
      rw [Context.isCancelled_cancel, Bool.or_eq_true, List.contains_iff_mem,
        (after_known deeds).reaches_iff hi hj]
  above _ _ := (after_known deeds).not_reaches_above
  beside _ _ _ _ := (after_known deeds).not_reaches_beside
  spared := by
    intro d quiet i ctx hi
    obtain ⟨later, lasts⟩ := (after deeds).step_lasts d hi
    rw [after_concat]
    exact ⟨later, lasts.there, lasts.spared quiet⟩
  lasting := by
    intro more i ctx hi
    rw [after_append]
    exact run_lasts more hi
  starting := by
    intro d ctx hi
    rw [after_concat] at hi
    have out : ∀ {l : List Context}, l.length = (after deeds).members.length →
        l[(after deeds).members.length]? ≠ some ctx := by
      intro l hl h
      have hlt := (List.getElem?_eq_some_iff.mp h).1
      omega
    generalize hstep : (after deeds).step d = f' at hi
    cases hstep ▸ (after deeds).step_done d with
    | joined o made next _ _ _ starts =>
      rw [List.getElem?_concat_length] at hi
      exact Option.some.inj hi ▸ starts
    | set place key value _ => exact absurd hi (out (List.length_modify ..))
    | cancelled place other _ _ => exact absurd hi (out rfl)
    | nothing _ _ _ => exact absurd hi (out rfl)

/-- The copy with an id of its own is cancelled, and the bound context it was made from with it; then the
copy of the first, and everything inside that. -/
example :
    let deeds : List Deed :=
      [.blank, .copy 0, .child 1, .bind 2, .withRequestId 3 "r", .child 0, .blank, .cancel 4]
    let cancelled := fun f : Family => f.members.map (·.isCancelled f.scopes)
    cancelled (after deeds) = [false, false, false, true, true, false, false] ∧
      cancelled (after (deeds ++ [.cancel 1])) = [true, true, true, true, true, true, false] ∧
      (after deeds).members.map (·.inTransaction) = [false, false, false, true, true, false, false] := by
  decide +kernel

end Family

end SymbolRelay
