import SymbolRelay.Codec

/-!
# Compact records

Stands for bitcode: a record as few octets. A mark tells how many members it has, then come the members
in order, without their names. A number takes eight octets, a text its length and its octets; a length
takes seven bits to an octet, the lowest first, and however many octets it needs.

Whatever follows them, the octets of a value are taken off as that value, shape by shape; so a record
that was written is read back as it was.

## Results

* `takeWord_writeWord`, `takeLength_writeLength`, `takeString_writeString` — the parts of a record;
* `takeValue_writeValue` — a value of any shape;
* `read_write` — a whole record.
-/

set_option autoImplicit false

namespace SymbolRelay.Compact

open SymbolRelay.Text SymbolRelay.Json

/-- Takes a value off the front of the octets. -/
abbrev Taker (α : Type) := Octets → Option (α × Octets)

/-- A word of 64 bits, the highest octet first. -/
def writeWord (n : Nat) : Octets :=
  [UInt8.ofNat (n / 256 ^ 7), UInt8.ofNat (n / 256 ^ 6), UInt8.ofNat (n / 256 ^ 5),
    UInt8.ofNat (n / 256 ^ 4), UInt8.ofNat (n / 256 ^ 3), UInt8.ofNat (n / 256 ^ 2),
    UInt8.ofNat (n / 256), UInt8.ofNat n]

/-- Takes a word of 64 bits. -/
def takeWord : Taker Nat
  | a :: b :: c :: d :: e :: f :: g :: h :: rest =>
    some ([a, b, c, d, e, f, g, h].foldl (fun n o => n * 256 + o.toNat) 0, rest)
  | _ => none

/-- A length; every octet but the last has its highest bit set. -/
def writeLength (n : Nat) : Octets :=
  if n < 128 then [UInt8.ofNat n] else UInt8.ofNat (128 + n % 128) :: writeLength (n / 128)

/-- Takes a length. -/
def takeLength : Octets → Option (Nat × Octets)
  | [] => none
  | b :: rest =>
    if b < 128 then some (b.toNat, rest)
    else do
      let (n, rest) ← takeLength rest
      return (b.toNat - 128 + 128 * n, rest)

/-- A sequence of octets behind its length. -/
def writeBytes (bytes : Octets) : Octets := writeLength bytes.length ++ bytes

/-- Takes a sequence of octets behind its length. -/
def takeBytes (bytes : Octets) : Option (Octets × Octets) := do
  let (n, rest) ← takeLength bytes
  if n ≤ rest.length then some (rest.take n, rest.drop n) else none

/-- A text behind its length. -/
def writeString (s : String) : Octets := writeBytes (octets s)

/-- Takes a text behind its length. -/
def takeString (bytes : Octets) : Option (String × Octets) := do
  let (raw, rest) ← takeBytes bytes
  let s ← text? raw
  return (s, rest)

/-- Takes so many pairs of texts into a table. -/
def takePairs : Nat → Table String String → Octets → Option (Table String String × Octets)
  | 0, table, bytes => some (table, bytes)
  | count + 1, table, bytes => do
    let (key, rest) ← takeString bytes
    let (value, rest) ← takeString rest
    takePairs count (table.insert key value) rest

/-- Writes a value of a shape. -/
def writeValue : (s : Shape) → s.Carrier → Octets
  | .integer, n => writeWord n.toUInt64.toNat
  | .time, t => writeWord (t.millis - earliestMillis).toNat
  | .text, s => writeString s
  | .octets, bytes => writeBytes bytes
  | .texts, t =>
    writeLength t.entries.length ++ t.entries.flatMap fun e => writeString e.1 ++ writeString e.2

/-- Takes a value of a shape. -/
def takeValue : (s : Shape) → Octets → Option (s.Carrier × Octets)
  | .integer, bytes => (takeWord bytes).map fun (n, rest) => ((UInt64.ofNat n).toInt64, rest)
  | .time, bytes => do
    let (n, rest) ← takeWord bytes
    let t ← Time.ofMillis? (Int.ofNat n + earliestMillis)
    return (t, rest)
  | .text, bytes => takeString bytes
  | .octets, bytes => takeBytes bytes
  | .texts, bytes => do
    let (n, rest) ← takeLength bytes
    takePairs n Table.empty rest

/-- Writes the members of a record. -/
def writeFields : (ms : List Member) → Fields ms → Octets
  | [], () => []
  | m :: ms, (v, vs) => writeValue m.shape v ++ writeFields ms vs

/-- Takes the members of a record. -/
def takeFields : (ms : List Member) → Octets → Option (Fields ms × Octets)
  | [], bytes => some ((), bytes)
  | m :: ms, bytes => do
    let (v, rest) ← takeValue m.shape bytes
    let (vs, rest) ← takeFields ms rest
    return ((v, vs), rest)

/-- The mark of a record with so many members. -/
def mark (count : Nat) : UInt8 := UInt8.ofNat (0xC0 + count % 0x20)

/-- Writes a record. -/
def write (ms : List Member) (fields : Fields ms) : Octets :=
  mark ms.length :: writeFields ms fields

/-- Reads a record that is the whole sequence. -/
def read (ms : List Member) : Octets → Option (Fields ms)
  | [] => none
  | b :: rest =>
    if b = mark ms.length then
      match takeFields ms rest with
      | some (fields, []) => some fields
      | _ => none
    else none

/-! ## Reading back -/

theorem takeWord_writeWord {n : Nat} (h : n < 2 ^ 64) (rest : Octets) :
    takeWord (writeWord n ++ rest) = some (n, rest) := by
  simp only [writeWord, List.cons_append, List.nil_append, takeWord, List.foldl_cons, List.foldl_nil,
    UInt8.toNat_ofNat', Option.some.injEq, Prod.mk.injEq, and_true]
  omega

theorem takeLength_writeLength (n : Nat) (rest : Octets) :
    takeLength (writeLength n ++ rest) = some (n, rest) := by
  rw [writeLength]
  split
  · rename_i h
    have hlt : UInt8.ofNat n < 128 := by
      rw [UInt8.lt_iff_toNat_lt, UInt8.toNat_ofNat']
      show n % 256 < 128
      omega
    simp only [List.cons_append, List.nil_append, takeLength, if_pos hlt, Option.some.injEq,
      Prod.mk.injEq, and_true, UInt8.toNat_ofNat']
    omega
  · rename_i h
    have hge : ¬ UInt8.ofNat (128 + n % 128) < 128 := by
      rw [UInt8.lt_iff_toNat_lt, UInt8.toNat_ofNat']
      show ¬ (128 + n % 128) % 256 < 128
      omega
    have ih := takeLength_writeLength (n / 128) rest
    simp only [List.cons_append, takeLength, if_neg hge, ih, Option.bind_eq_bind, Option.bind_some,
      Option.pure_def, Option.some.injEq, Prod.mk.injEq, and_true, UInt8.toNat_ofNat']
    omega
termination_by n

theorem takeBytes_writeBytes (bytes rest : Octets) :
    takeBytes (writeBytes bytes ++ rest) = some (bytes, rest) := by
  rw [writeBytes, List.append_assoc, takeBytes, takeLength_writeLength]
  simp

theorem takeString_writeString (s : String) (rest : Octets) :
    takeString (writeString s ++ rest) = some (s, rest) := by
  rw [writeString, takeString, takeBytes_writeBytes]
  simp [text?_octets]

theorem takePairs_flatMap (es : List (String × String)) (t : Table String String) (rest : Octets) :
    takePairs es.length t ((es.flatMap fun e => writeString e.1 ++ writeString e.2) ++ rest) =
      some (es.foldl (fun t e => t.insert e.1 e.2) t, rest) := by
  induction es generalizing t with
  | nil => rfl
  | cons e es ih =>
    simp only [List.length_cons, takePairs, List.flatMap_cons, List.append_assoc,
      takeString_writeString, Option.bind_eq_bind, Option.bind_some, List.foldl_cons]
    exact ih _

theorem time_word_lt (t : Time) : (t.millis - earliestMillis).toNat < 2 ^ 64 := by
  have h := t.le_latest
  simp only [earliestMillis, latestMillis] at h ⊢
  omega

theorem ofMillis?_word (t : Time) :
    Time.ofMillis? (Int.ofNat (t.millis - earliestMillis).toNat + earliestMillis) = some t := by
  have h := t.earliest_le
  have hm : Int.ofNat (t.millis - earliestMillis).toNat + earliestMillis = t.millis := by
    show ((t.millis - earliestMillis).toNat : Int) + earliestMillis = t.millis
    omega
  rw [hm]
  exact t.ofMillis?_millis

/-- A value of any shape is taken off what follows it. -/
theorem takeValue_writeValue (s : Shape) (v : s.Carrier) (rest : Octets) :
    takeValue s (writeValue s v ++ rest) = some (v, rest) := by
  cases s with
  | integer =>
    rw [writeValue, takeValue, takeWord_writeWord (UInt64.toNat_lt _)]
    show some ((UInt64.ofNat v.toUInt64.toNat).toInt64, rest) = some (v, rest)
    rw [UInt64.ofNat_toNat, Int64.toInt64_toUInt64]
  | time =>
    rw [writeValue, takeValue, takeWord_writeWord (time_word_lt v)]
    simp only [Option.bind_eq_bind, Option.bind_some]
    rw [ofMillis?_word]
    rfl
  | text => exact takeString_writeString v rest
  | octets => exact takeBytes_writeBytes v rest
  | texts =>
    rw [writeValue, List.append_assoc, takeValue, takeLength_writeLength]
    simp only [Option.bind_eq_bind, Option.bind_some]
    rw [takePairs_flatMap]
    exact congrArg (fun t => some (t, rest)) v.ofList_entries

theorem takeFields_writeFields : ∀ (ms : List Member) (fields : Fields ms) (rest : Octets),
    takeFields ms (writeFields ms fields ++ rest) = some (fields, rest)
  | [], (), _ => rfl
  | m :: ms, (v, vs), rest => by
    rw [writeFields, List.append_assoc, takeFields, takeValue_writeValue]
    simp [takeFields_writeFields ms vs rest]

/-- A record that was written is read back as it was. -/
theorem read_write (ms : List Member) (fields : Fields ms) : read ms (write ms fields) = some fields := by
  have h := takeFields_writeFields ms fields []
  rw [List.append_nil] at h
  simp [write, read, h]

instance : BinaryFormat where
  write := write
  read := read
  read_write := read_write

end SymbolRelay.Compact
