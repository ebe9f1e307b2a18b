/-!
# Fresh ids

Ids that never repeat. They are uuid's, and random; `IdSource` says what is relied on there, and a supply
of ids only counts how many were taken.
-/

set_option autoImplicit false

namespace SymbolRelay

/-- The library uuid, which is no part of the program, and the chance in it: the ids that it makes, by
the order in which they are made. Nothing is relied on but that no id is made twice and none is empty;
how an id looks stays open. -/
class IdSource where
  /-- The id with a number. -/
  text : Nat → String
  text_injective {a b : Nat} : text a = text b → a = b
  text_ne_empty (n : Nat) : text n ≠ ""

/-- A supply of ids, of which so many were used. -/
structure Ids where
  used : Nat := 0
  deriving DecidableEq, Inhabited

/-- Takes a fresh id. -/
def Ids.fresh [IdSource] (ids : Ids) : String × Ids := (IdSource.text ids.used, ⟨ids.used + 1⟩)

end SymbolRelay
