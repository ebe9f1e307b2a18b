import SymbolRelay.Symbol.Query

/-!
# The symbol store

The store keeps committed rows. Writes are staged in a transaction and become visible when it commits.
Preparing a transaction checks that no other symbol holds a code that it writes, and reserves those
codes for it. Ids come from a sequence of 64-bit numbers that a rollback does not rewind.

## Results

* `create_error_iff`, `update_error_notFound_iff` — when a write is refused;
* `release_get?` — releasing gives back the codes of one transaction and no other.
-/

set_option autoImplicit false

namespace SymbolRelay

/-- Why the store refuses something. -/
inductive DataError where
  | notFound
  | duplicate (code : String)
  | transactionFailed (reason : String)
  | database (reason : String)
  deriving DecidableEq, Repr

/-- The text of the error. -/
def DataError.message : DataError → String
  | .notFound => "record not found"
  | .duplicate code => "duplicate record: " ++ code
  | .transactionFailed reason => "transaction failed: " ++ reason
  | .database reason => "database error: " ++ reason

/-- A write that waits for the commit. -/
inductive Staged where
  /-- A symbol that the transaction created. -/
  | insert (symbol : Symbol)
  /-- A symbol that was there before and is changed. -/
  | update (symbol : Symbol)
  | delete
  deriving DecidableEq

/-- The symbol that a write leaves behind, if any. -/
def Staged.symbol? : Staged → Option Symbol
  | .insert s => some s
  | .update s => some s
  | .delete => none

/-- An open transaction: its staged writes by symbol id, and whether it was prepared. -/
structure Transaction where
  id : Nat
  staged : Table Int64 Staged := Table.empty
  prepared : Bool := false
  deriving DecidableEq

namespace Transaction

/-- How many writes are staged. -/
def pending (tx : Transaction) : Nat := tx.staged.size

/-- The codes that the transaction writes, with the ids that it writes them to, by id. -/
def codes (tx : Transaction) : List (Int64 × String) :=
  tx.staged.entries.filterMap fun e => e.2.symbol?.map fun s => (e.1, s.code)

/-- The symbol with an id as the transaction sees it over the committed rows. -/
def view (tx : Transaction) (rows : Table Int64 Symbol) (id : Int64) : Option Symbol :=
  match tx.staged.get? id with
  | some write => write.symbol?
  | none => rows.get? id

end Transaction

/-- Committed rows by id, codes reserved by prepared transactions, and what the sequences and counters
stand at. `refusing` says that no transaction may be prepared. -/
structure Store where
  rows : Table Int64 Symbol := Table.empty
  reserved : Table String Nat := Table.empty
  nextId : Int64 := 1
  nextTransaction : Nat := 1
  refusing : Bool := false
  begun : Nat := 0
  committed : Nat := 0
  rolledBack : Nat := 0
  deriving DecidableEq

namespace Store

/-- An empty store whose first id is the given one, or 1 if that is not positive. -/
def withNextId (n : Int64) : Store := { nextId := if n < 1 then 1 else n }

/-- Gives back the codes that a transaction reserved. -/
def release (s : Store) (tx : Nat) : Store :=
  { s with reserved := s.reserved.filter fun _ holder => holder != tx }

/-- Whether a committed row holds a code, other than the row `keep` and the rows that the transaction
writes. -/
def committedHolds (s : Store) (tx : Transaction) (code : String) (keep : Int64) : Bool :=
  s.rows.entries.any fun e =>
    e.2.id != keep && !tx.staged.contains e.2.id && e.2.code == code

/-- Whether another transaction reserved a code. -/
def reservedByOther (s : Store) (tx : Transaction) (code : String) : Bool :=
  match s.reserved.get? code with
  | some holder => holder != tx.id
  | none => false

/-- Whether the transaction writes a code to another symbol than `keep`. -/
def stagedHolds (tx : Transaction) (code : String) (keep : Int64) : Bool :=
  tx.codes.any fun e => e.1 != keep && e.2 == code

/-- Whether a transaction may not give a code to the symbol `keep`. -/
def codeTaken (s : Store) (tx : Transaction) (code : String) (keep : Int64) : Bool :=
  s.committedHolds tx code keep || s.reservedByOther tx code || stagedHolds tx code keep

/-! ## Transactions -/

/-- Opens a transaction. -/
def begin (s : Store) : Transaction × Store :=
  ({ id := s.nextTransaction },
    { s with nextTransaction := s.nextTransaction + 1, begun := s.begun + 1 })

/-- The first code of a transaction that it may not write. -/
def conflict (s : Store) (tx : Transaction) : Option String :=
  (tx.codes.find? fun e => s.codeTaken tx e.2 e.1).map (·.2)

/-- Reserves codes for a transaction. -/
def reserve (s : Store) (tx : Nat) (codes : List String) : Store :=
  { s with reserved := codes.foldl (fun r code => r.insert code tx) s.reserved }

/-- Votes on a transaction: checks its codes once more, then reserves exactly these for it. -/
def prepare (s : Store) (tx : Transaction) : Except DataError (Transaction × Store) :=
  if s.refusing then .error (.database "commit rejected")
  else
    match s.conflict tx with
    | some code => .error (.duplicate code)
    | none =>
      .ok ({ tx with prepared := true }, (s.release tx.id).reserve tx.id (tx.codes.map (·.2)))

/-- Carries out one staged write. -/
def applyWrite (rows : Table Int64 Symbol) (id : Int64) : Staged → Table Int64 Symbol
  | .insert symbol => rows.insert id symbol
  | .update symbol => rows.insert id symbol
  | .delete => rows.erase id

/-- Carries out staged writes, by ascending id. -/
def applyWrites (rows : Table Int64 Symbol) (writes : Table Int64 Staged) : Table Int64 Symbol :=
  writes.entries.foldl (fun rows e => applyWrite rows e.1 e.2) rows

/-- Commits a prepared transaction. -/
def apply (s : Store) (tx : Transaction) : Store :=
  { s.release tx.id with
    rows := applyWrites s.rows tx.staged
    committed := s.committed + 1 }

/-- Commits a transaction, which is prepared first unless it was. A refused one is gone. -/
def commit (s : Store) (tx : Transaction) : Except DataError Store :=
  if tx.prepared then .ok (s.apply tx)
  else (s.prepare tx).map fun (tx, s) => s.apply tx

/-- Drops a transaction and what it reserved. -/
def rollback (s : Store) (tx : Transaction) : Store :=
  let s := if tx.prepared then s.release tx.id else s
  { s with rolledBack := s.rolledBack + 1 }

/-! ## Staging writes -/

/-- Stages a new symbol with a fresh id; both its times are the present. -/
def create (s : Store) (tx : Transaction) (symbol : Symbol) (now : Time) :
    Except DataError (Symbol × Transaction × Store) :=
  if s.codeTaken tx symbol.code 0 then .error (.duplicate symbol.code)
  else
    let created := { symbol with id := s.nextId, createdAt := now, updatedAt := now }
    .ok (created, { tx with staged := tx.staged.insert created.id (.insert created) },
      { s with nextId := s.nextId + 1 })

/-- Whether a transaction staged the creation of a symbol. -/
def isStagedInsert (tx : Transaction) (id : Int64) : Bool :=
  match tx.staged.get? id with
  | some (.insert _) => true
  | _ => false

/-- Stages a change of a symbol, which keeps the time of its creation. -/
def update (s : Store) (tx : Transaction) (symbol : Symbol) (now : Time) :
    Except DataError (Symbol × Transaction) :=
  match tx.view s.rows symbol.id with
  | none => .error .notFound
  | some existing =>
    if s.codeTaken tx symbol.code symbol.id then .error (.duplicate symbol.code)
    else
      let updated := { symbol with createdAt := existing.createdAt, updatedAt := now }
      let write := if isStagedInsert tx symbol.id then Staged.insert updated else .update updated
      .ok (updated, { tx with staged := tx.staged.insert symbol.id write })

/-- Stages the removal of a symbol; one that the transaction created is just forgotten. -/
def delete (s : Store) (tx : Transaction) (id : Int64) : Except DataError Transaction :=
  match tx.view s.rows id with
  | none => .error .notFound
  | some _ =>
    .ok { tx with
      staged := if isStagedInsert tx id then tx.staged.erase id else tx.staged.insert id .delete }

/-! ## Reading -/

/-- The committed row with an id. -/
def find (s : Store) (id : Int64) : Except DataError Symbol :=
  match s.rows.get? id with
  | some row => .ok row
  | none => .error .notFound

/-- A page of the committed rows by ascending id. -/
def list (s : Store) (q : Query) : List Symbol := q.normalized.page s.rows.values

/-! ## When a write is refused -/

theorem create_error_iff (s : Store) (tx : Transaction) (symbol : Symbol) (now : Time)
    (e : DataError) :
    s.create tx symbol now = .error e ↔
      s.codeTaken tx symbol.code 0 = true ∧ e = .duplicate symbol.code := by
  unfold create
  split
  · rename_i h
    simp [h, eq_comm]
  · rename_i h
    simp [h]

theorem update_error_notFound_iff (s : Store) (tx : Transaction) (symbol : Symbol) (now : Time) :
    s.update tx symbol now = .error .notFound ↔ tx.view s.rows symbol.id = none := by
  unfold update
  split
  · rename_i h
    simp [h]
  · rename_i h
    rw [h]
    split <;> simp

theorem lookupIn_filter_holder (tx : Nat) (es : List (String × Nat))
    (h : es.Pairwise fun a b => compare a.1 b.1 = .lt) (code : String) :
    Table.lookupIn code (es.filter fun e => e.2 != tx) =
      (Table.lookupIn code es).filter fun holder => holder != tx := by
  induction es with
  | nil => rfl
  | cons e rest ih =>
    obtain ⟨k, v⟩ := e
    obtain ⟨hfst, hrest⟩ := List.pairwise_cons.mp h
    by_cases hk : compare code k = .eq
    · have hck : code = k := Std.LawfulEqCmp.eq_of_compare hk
      subst hck
      by_cases hv : (v != tx) = true
      · simp [hv, Table.lookupIn, Option.filter]
      · have hnone : Table.lookupIn code (rest.filter fun e => e.2 != tx) = none := by
          cases hl : Table.lookupIn code (rest.filter fun e => e.2 != tx) with
          | none => rfl
          | some w =>
            have hmem := Table.mem_of_lookupIn_eq_some hl
            have := hfst _ (List.mem_filter.mp hmem).1
            rw [Table.compare_self] at this
            cases this
        simp [hv, Table.lookupIn, Option.filter, hnone]
    · by_cases hv : (v != tx) = true <;> simp [hv, Table.lookupIn, hk, ih hrest]

/-- Releasing gives back the codes of one transaction and no other. -/
theorem release_get? (s : Store) (tx : Nat) (code : String) :
    (s.release tx).reserved.get? code =
      (s.reserved.get? code).filter fun holder => holder != tx :=
  lookupIn_filter_holder tx s.reserved.entries s.reserved.ascending code

end Store

end SymbolRelay
