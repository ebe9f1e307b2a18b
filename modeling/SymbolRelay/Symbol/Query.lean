import SymbolRelay.Symbol.Basic
import SymbolRelay.Text.Lowercase

/-!
# Queries for symbols

A query asks for a page of the symbols whose name contains a text, whatever the case.

## Results

* `normalized_normalized` — normalising twice is normalising once;
* `normalized_limit_le` — a normalised query asks for at most the greatest page.
-/

set_option autoImplicit false

namespace SymbolRelay

/-- The page size of a query that names none. -/
def defaultListLimit : Nat := 50

/-- The greatest page. -/
def maxListLimit : Nat := 500

/-- A page of the symbols whose name contains a text. -/
structure Query where
  name : Option String := none
  offset : Nat := 0
  limit : Nat := defaultListLimit
  deriving DecidableEq, Repr

namespace Query

/-- The query with its limit in bounds and without a blank filter. -/
def normalized (q : Query) : Query where
  name := q.name.filter fun n => !Text.isBlank n
  offset := q.offset
  limit := if q.limit = 0 then defaultListLimit else min q.limit maxListLimit

/-- Whether one list of characters occurs inside another without a gap. -/
def occursIn (part : List Char) : List Char → Bool
  | [] => part.isEmpty
  | c :: rest => part.isPrefixOf (c :: rest) || occursIn part rest

/-- Whether a symbol's name contains the filter, both in lower case. -/
def accepts (q : Query) (s : Symbol) : Bool :=
  match q.name with
  | some name => occursIn (Text.lowercase name).toList (Text.lowercase s.name).toList
  | none => true

/-- The page of a query in a list of symbols. -/
def page (q : Query) (symbols : List Symbol) : List Symbol :=
  ((symbols.filter q.accepts).drop q.offset).take q.limit

theorem normalized_limit_le (q : Query) : q.normalized.limit ≤ maxListLimit := by
  simp only [normalized]
  split
  · decide
  · exact Nat.min_le_right _ _

theorem normalized_normalized (q : Query) : q.normalized.normalized = q.normalized := by
  have hn : ∀ o : Option String, (o.filter fun n => !Text.isBlank n).filter
      (fun n => !Text.isBlank n) = o.filter fun n => !Text.isBlank n := by
    intro o
    cases o with
    | none => rfl
    | some n => cases h : Text.isBlank n <;> simp [Option.filter, h]
  obtain ⟨name, offset, limit⟩ := q
  simp only [normalized, hn, mk.injEq, true_and]
  by_cases h : limit = 0
  · simp [h, defaultListLimit, maxListLimit]
  · have : min limit maxListLimit ≠ 0 := by
      simp only [maxListLimit]; omega
    simp [h, this]

end Query

end SymbolRelay
