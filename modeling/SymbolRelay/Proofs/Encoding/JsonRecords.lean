import SymbolRelay.Proofs.Encoding.JsonLexemes

/-!
# JSON records read back

Lists and objects are read item by item: the items still to be read follow a comma, unless they are the
first. A record is read with some of its members filled in already, and each further member fills in
the next one.

## Results

* `Shape.read_of_writes` — a value of any shape is read back, whatever may follow it and in whichever
  order the members of an object of strings come;
* `parseRecord_of_fieldsWrite` — so is a whole record, if no two of its members have one name;
* `parseRecord_writeRecord` — in particular as it is written here.
-/

set_option autoImplicit false

namespace SymbolRelay.Json

open SymbolRelay.Text

/-! ## Items between commas -/

/-- What is left to read once an item was read. -/
def afterItem : List (List Char) → List Char
  | [] => []
  | item :: items => ',' :: withCommas (item :: items)

/-- What is left to read before the first item, or after some item. -/
def remaining (first : Bool) (items : List (List Char)) : List Char :=
  if first then withCommas items else afterItem items

theorem withCommas_cons (item : List Char) (items : List (List Char)) :
    withCommas (item :: items) = item ++ afterItem items := by
  cases items <;> simp [withCommas, afterItem]

theorem spell_comma (cs : List Char) : spell (',' :: cs) = 0x2C :: spell cs := by
  have hcomma : String.utf8EncodeChar ',' = [0x2C] := by decide
  rw [spell_cons, hcomma, List.cons_append, List.nil_append]

theorem spell_list (cs : List Char) (rest : Octets) :
    spell ('[' :: cs ++ [']']) ++ rest = 0x5B :: (spell cs ++ 0x5D :: rest) := by
  have hopen : String.utf8EncodeChar '[' = [0x5B] := by decide
  have hclose : String.utf8EncodeChar ']' = [0x5D] := by decide
  simp [hopen, hclose]

theorem spell_object (cs : List Char) (rest : Octets) :
    spell ('\x7b' :: cs ++ ['\x7d']) ++ rest = 0x7B :: (spell cs ++ 0x7D :: rest) := by
  have hopen : String.utf8EncodeChar '\x7b' = [0x7B] := by decide
  have hclose : String.utf8EncodeChar '\x7d' = [0x7D] := by decide
  simp [hopen, hclose]

/-- Nothing that follows an item could belong to a number. -/
theorem apart_afterItem (items : List (List Char)) {close : UInt8} (rest : Octets)
    (h : isDigit close = false ∧ close ≠ 0x2E ∧ isExponentMark close = false) :
    Apart (spell (afterItem items) ++ close :: rest) := by
  cases items with
  | nil => exact apart_cons h
  | cons item items =>
    rw [afterItem, spell_comma]
    exact apart_cons (by decide)

theorem length_le_spell_withCommas (items : List (List Char)) (h : ∀ item ∈ items, item ≠ []) :
    items.length ≤ (spell (withCommas items)).length := by
  have one : ∀ cs : List Char, cs ≠ [] → 1 ≤ (spell cs).length := by
    intro cs hcs
    obtain ⟨c, cs, rfl⟩ := List.exists_cons_of_ne_nil hcs
    have hc := List.length_pos_iff.mpr (String.utf8EncodeChar_ne_nil (c := c))
    rw [spell_cons, List.length_append]
    omega
  induction items with
  | nil => exact Nat.zero_le _
  | cons item items ih =>
    have hitem := one item (h item List.mem_cons_self)
    have hitems := ih fun i hi => h i (List.mem_cons_of_mem _ hi)
    rw [withCommas_cons, spell_append, List.length_append, List.length_cons]
    cases items with
    | nil =>
      rw [List.length_nil]
      omega
    | cons next items =>
      simp only [afterItem, spell_comma, List.length_cons] at hitems ⊢
      omega

/-! ## Lists of octets -/

theorem moreItems_close (first : Bool) (rest : Octets) :
    moreItems first (0x5D :: rest) = .ok (false, 0x5D :: rest) := by
  rw [moreItems, skipSpace_of_not_space (by decide)]
  rfl

theorem moreItems_item (first : Bool) {item : List Char} {b : UInt8} {bs : Octets}
    (hitem : spell item = b :: bs) (hb : isDigit b = true) (items : List (List Char)) (tail : Octets) :
    moreItems first (spell (remaining first (item :: items)) ++ tail) =
      .ok (true, spell item ++ (spell (afterItem items) ++ tail)) := by
  have hspace := ne_space_of_isDigit hb
  have hclose : b ≠ 0x5D := by
    rintro rfl
    revert hb
    decide
  cases first with
  | true =>
    rw [remaining, if_pos rfl, withCommas_cons, spell_append, List.append_assoc, hitem, List.cons_append,
      moreItems, skipSpace_of_not_space hspace]
    simp [hclose]
  | false =>
    rw [remaining, if_neg (by decide), afterItem, spell_comma, withCommas_cons, spell_append,
      List.cons_append, List.append_assoc, hitem, List.cons_append, moreItems,
      skipSpace_of_not_space (by decide)]
    simp only [skipSpace_of_not_space hspace]
    simp [hclose]

theorem readOctet_decimal (b : UInt8) {rest : Octets} (h : Apart rest) :
    readOctet (decimal b.toNat ++ rest) = .ok (b, rest) := by
  have hb := UInt8.toNat_lt b
  have hread := readInteger_spell (n := (b.toNat : Int)) (by omega) (by omega) h
  rw [writeInteger_of_nonneg] at hread
  simp only [readOctet, hread, bind, Except.bind]
  rw [if_pos ⟨by omega, by omega⟩, Int.toNat_natCast, UInt8.ofNat_toNat]
  rfl

theorem readOctetItems_write (bs rest : Octets) : ∀ (steps : Nat) (first : Bool), bs.length < steps →
    readOctetItems steps first
      (spell (remaining first (bs.map fun b => Nat.toDigits 10 b.toNat)) ++ 0x5D :: rest) =
        .ok (bs, 0x5D :: rest) := by
  induction bs with
  | nil =>
    intro steps first hsteps
    obtain ⟨steps, rfl⟩ := Nat.exists_eq_succ_of_ne_zero (Nat.ne_of_gt (Nat.zero_lt_of_lt hsteps))
    have hnone : spell (remaining first []) = [] := by cases first <;> rfl
    simp only [List.map_nil, hnone, List.nil_append, readOctetItems, moreItems_close, bind, Except.bind]
    rfl
  | cons b bs ih =>
    intro steps first hsteps
    obtain ⟨steps, rfl⟩ := Nat.exists_eq_succ_of_ne_zero (Nat.ne_of_gt (Nat.zero_lt_of_lt hsteps))
    obtain ⟨d, ds, hd⟩ := List.exists_cons_of_ne_nil (decimal_ne_nil b.toNat)
    have hdigit : isDigit d = true :=
      isDigit_of_mem_decimal b.toNat d (by rw [hd]; exact List.mem_cons_self)
    have hapart := apart_afterItem (bs.map fun b => Nat.toDigits 10 b.toNat) rest
      (by decide : isDigit 0x5D = false ∧ (0x5D : UInt8) ≠ 0x2E ∧ isExponentMark 0x5D = false)
    have hih := ih steps false (Nat.lt_of_succ_lt_succ hsteps)
    rw [remaining, if_neg (by decide)] at hih
    have hoctet := readOctet_decimal b hapart
    rw [decimal] at hoctet
    rw [List.map_cons, readOctetItems, moreItems_item first hd hdigit]
    simp only [bind, Except.bind, hoctet, hih]
    rfl

theorem readOctets_write (bs rest : Octets) :
    readOctets (spell (Shape.octets.write bs) ++ rest) = .ok (bs, rest) := by
  have hcount := length_le_spell_withCommas (bs.map fun b => Nat.toDigits 10 b.toNat) (by
    intro item hitem
    obtain ⟨b, _, rfl⟩ := List.mem_map.mp hitem
    exact Nat.toDigits_ne_nil)
  rw [List.length_map] at hcount
  have hitems := readOctetItems_write bs rest
    ((spell (withCommas (bs.map fun b => Nat.toDigits 10 b.toNat)) ++ 0x5D :: rest).length + 1) true
    (by rw [List.length_append]; omega)
  rw [remaining, if_pos rfl] at hitems
  rw [Shape.write, spell_list, readOctets, skipSpace_of_not_space (by decide)]
  simp only [if_pos, hitems, bind, Except.bind]
  rfl

/-! ## Members -/

theorem moreMembers_close (first : Bool) (rest : Octets) :
    moreMembers first (0x7D :: rest) = .ok (false, 0x7D :: rest) := by
  rw [moreMembers, skipSpace_of_not_space (by decide)]
  rfl

theorem spell_writeMember (name : String) (value : List Char) (rest : Octets) :
    spell (writeMember name value) ++ rest =
      0x22 :: (spell (body name) ++ 0x22 :: 0x3A :: (spell value ++ rest)) := by
  have hcolon : String.utf8EncodeChar ':' = [0x3A] := by decide
  rw [writeMember, spell_append, List.append_assoc, spell_writeString, spell_cons, hcolon,
    List.cons_append, List.nil_append, List.cons_append]

/-- The name of the next member is taken up to its opening quote. -/
theorem moreMembers_member (first : Bool) (name : String) (value : List Char)
    (items : List (List Char)) (tail : Octets) :
    moreMembers first (spell (remaining first (writeMember name value :: items)) ++ tail) =
      .ok (true, spell (body name) ++ 0x22 :: 0x3A ::
        (spell value ++ (spell (afterItem items) ++ tail))) := by
  cases first with
  | true =>
    rw [remaining, if_pos rfl, withCommas_cons, spell_append, List.append_assoc, spell_writeMember,
      moreMembers, skipSpace_of_not_space (by decide)]
    rfl
  | false =>
    rw [remaining, if_neg (by decide), afterItem, spell_comma, withCommas_cons, spell_append,
      List.cons_append, List.append_assoc, spell_writeMember, moreMembers,
      skipSpace_of_not_space (by decide)]
    simp only [skipSpace_of_not_space (by decide : isSpace 0x22 = false)]
    rfl

theorem readColon_colon (rest : Octets) : readColon (0x3A :: rest) = .ok ((), rest) := by
  rw [readColon, skipSpace_of_not_space (by decide)]
  rfl

theorem readTextItems_write (es : List (String × String)) (rest : Octets) :
    ∀ (steps : Nat) (first : Bool) (t : Table String String), es.length < steps →
      readTextItems steps first t
        (spell (remaining first (es.map fun e => writeMember e.1 (writeString e.2))) ++ 0x7D :: rest) =
          .ok (es.foldl (fun t e => t.insert e.1 e.2) t, 0x7D :: rest) := by
  induction es with
  | nil =>
    intro steps first t hsteps
    obtain ⟨steps, rfl⟩ := Nat.exists_eq_succ_of_ne_zero (Nat.ne_of_gt (Nat.zero_lt_of_lt hsteps))
    have hnone : spell (remaining first []) = [] := by cases first <;> rfl
    simp only [List.map_nil, hnone, List.nil_append, readTextItems, moreMembers_close, bind, Except.bind]
    rfl
  | cons e es ih =>
    intro steps first t hsteps
    obtain ⟨steps, rfl⟩ := Nat.exists_eq_succ_of_ne_zero (Nat.ne_of_gt (Nat.zero_lt_of_lt hsteps))
    have hih := ih steps false (t.insert e.1 e.2) (Nat.lt_of_succ_lt_succ hsteps)
    rw [remaining, if_neg (by decide)] at hih
    rw [List.map_cons, readTextItems, moreMembers_member]
    simp only [bind, Except.bind, readQuoted_spell, readColon_colon, readString_spell, hih]
    rfl

/-- The members of an object of strings, in this order. -/
def writeTexts (es : List (String × String)) : List Char :=
  '\x7b' :: withCommas (es.map fun e => writeMember e.1 (writeString e.2)) ++ ['\x7d']

theorem readTexts_writeTexts (es : List (String × String)) (rest : Octets) :
    readTexts (spell (writeTexts es) ++ rest) = .ok (Table.ofList es, rest) := by
  have hcount := length_le_spell_withCommas
    (es.map fun e => writeMember e.1 (writeString e.2)) (by
      intro item hitem
      obtain ⟨e, _, rfl⟩ := List.mem_map.mp hitem
      simp [writeMember, writeString_eq])
  rw [List.length_map] at hcount
  have hitems := readTextItems_write es rest
    ((spell (withCommas (es.map fun e => writeMember e.1 (writeString e.2))) ++
      0x7D :: rest).length + 1) true Table.empty
    (by rw [List.length_append]; omega)
  rw [remaining, if_pos rfl] at hitems
  rw [writeTexts, spell_object, readTexts, skipSpace_of_not_space (by decide)]
  simp only [if_pos, hitems, bind, Except.bind]
  rfl

/-! ## Values -/

/-- The characters that may stand for a value: the members of an object of strings come in any order,
everything else is written in one way. -/
def Shape.Writes : (s : Shape) → s.Carrier → List Char → Prop
  | .integer, n, cs => cs = Shape.integer.write n
  | .time, t, cs => cs = Shape.time.write t
  | .text, s, cs => cs = Shape.text.write s
  | .octets, bs, cs => cs = Shape.octets.write bs
  | .texts, t, cs => ∃ es : List (String × String), es.Perm t.entries ∧ cs = writeTexts es

theorem Shape.writes_write (s : Shape) (v : s.Carrier) : s.Writes v (s.write v) := by
  cases s with
  | texts => exact ⟨v.entries, .refl _, rfl⟩
  | _ => rfl

/-- A value of any shape is read back from whatever may stand for it, and whatever may follow it in a
list or an object. -/
theorem Shape.read_of_writes (s : Shape) (v : s.Carrier) {cs : List Char} (hcs : s.Writes v cs)
    {rest : Octets} (h : Apart rest) : s.read (spell cs ++ rest) = .ok (v, rest) := by
  cases s with
  | integer =>
    obtain rfl : cs = Shape.integer.write v := hcs
    have hlow := Int64.minValue_le_toInt v
    have hhigh := Int64.toInt_le v
    have hread := readInteger_spell (Int64.le_toInt v)
      (Int.lt_trans (Int64.toInt_lt v) (by decide)) h
    simp only [Shape.read, Shape.write, readInt64, hread, bind, Except.bind]
    rw [if_pos ⟨hlow, hhigh⟩, Int64.ofInt_toInt]
    rfl
  | time =>
    obtain rfl : cs = Shape.time.write v := hcs
    have hlow := v.earliest_le
    have hhigh := v.le_latest
    simp only [earliestMillis, latestMillis] at hlow hhigh
    have hread := readInteger_spell (n := v.millis) (by omega) (by omega) h
    simp only [Shape.read, Shape.write, readTime, hread, bind, Except.bind, Time.ofMillis?_millis]
    rfl
  | text =>
    obtain rfl : cs = Shape.text.write v := hcs
    exact readString_spell v rest
  | octets =>
    obtain rfl : cs = Shape.octets.write v := hcs
    exact readOctets_write v rest
  | texts =>
    obtain ⟨es, hperm, rfl⟩ := hcs
    rw [Shape.read, readTexts_writeTexts, Table.ofList_perm v hperm]

/-! ## Records -/

/-- A record of which the first so many members were read. -/
def Slots.upTo : Nat → (ms : List Member) → Fields ms → Slots ms
  | 0, ms, _ => Slots.none ms
  | _ + 1, [], () => ()
  | k + 1, _ :: ms, (v, vs) => (some v, Slots.upTo k ms vs)

theorem Slots.upTo_length : ∀ (ms : List Member) (vs : Fields ms),
    Slots.upTo ms.length ms vs = Slots.filled ms vs
  | [], () => rfl
  | _ :: ms, (v, vs) => by
    rw [List.length_cons, Slots.upTo, Slots.filled, Slots.upTo_length ms vs]

/-- The items that may stand for the members of a record. -/
def FieldsWrite : (ms : List Member) → Fields ms → List (List Char) → Prop
  | [], (), items => items = []
  | m :: ms, (v, vs), items => ∃ value later, m.shape.Writes v value ∧ FieldsWrite ms vs later ∧
      items = writeMember m.name value :: later

theorem fieldsWrite_writeFields : ∀ (ms : List Member) (vs : Fields ms),
    FieldsWrite ms vs (writeFields ms vs)
  | [], () => rfl
  | m :: ms, (v, vs) =>
    ⟨m.shape.write v, writeFields ms vs, m.shape.writes_write v, fieldsWrite_writeFields ms vs, rfl⟩

theorem FieldsWrite.length_eq : ∀ (ms : List Member) (vs : Fields ms) (items : List (List Char)),
    FieldsWrite ms vs items → items.length = ms.length
  | [], (), _, h => by rw [h]; rfl
  | _ :: ms, (_, vs), _, ⟨_, later, _, h, he⟩ => by
    rw [he, List.length_cons, List.length_cons, FieldsWrite.length_eq ms vs later h]

theorem FieldsWrite.ne_nil : ∀ (ms : List Member) (vs : Fields ms) (items : List (List Char)),
    FieldsWrite ms vs items → ∀ item ∈ items, item ≠ []
  | [], (), _, h, item, hitem => by rw [h] at hitem; cases hitem
  | _ :: ms, (_, vs), _, ⟨_, later, _, h, he⟩, item, hitem => by
    rw [he] at hitem
    rcases List.mem_cons.mp hitem with rfl | hitem
    · simp [writeMember, writeString_eq]
    · exact FieldsWrite.ne_nil ms vs later h item hitem

/-- The next member that is written is read into the next slot. -/
theorem readMember_upTo : ∀ (ms : List Member) (vs : Fields ms) (items : List (List Char)) (k : Nat),
    FieldsWrite ms vs items → (ms.map (·.name)).Nodup → k < ms.length →
    ∃ name value, name ∈ ms.map (·.name) ∧ items[k]? = some (writeMember name value) ∧
      ∀ rest, Apart rest → Slots.readMember name ms (Slots.upTo k ms vs) (0x3A :: (spell value ++ rest)) =
        .ok (Slots.upTo (k + 1) ms vs, rest)
  | [], (), _, _, _, _, hk => absurd hk (Nat.not_lt_zero _)
  | m :: ms, (v, vs), _, 0, ⟨value, later, hvalue, _, he⟩, _, _ => by
    refine ⟨m.name, value, List.mem_cons_self, by rw [he]; rfl, fun rest h => ?_⟩
    rw [Slots.upTo, Slots.none, Slots.readMember, if_pos rfl]
    simp only [readColon_colon, bind, Except.bind, Shape.read_of_writes m.shape v hvalue h]
    rfl
  | m :: ms, (v, vs), _, k + 1, ⟨_, later, _, hlater, he⟩, distinct, hk => by
    rw [List.map_cons, List.nodup_cons] at distinct
    obtain ⟨name, value, hname, hitem, hread⟩ :=
      readMember_upTo ms vs later k hlater distinct.2 (Nat.lt_of_succ_lt_succ hk)
    have hne : m.name ≠ name := fun he => distinct.1 (he ▸ hname)
    refine ⟨name, value, List.mem_cons_of_mem _ hname, by rw [he]; exact hitem, fun rest h => ?_⟩
    rw [Slots.upTo, Slots.readMember, if_neg hne, hread rest h]
    rfl

theorem readMembers_write (ms : List Member) (vs : Fields ms) (distinct : (ms.map (·.name)).Nodup)
    {items : List (List Char)} (hitems : FieldsWrite ms vs items) (rest : Octets) :
    ∀ (left k steps : Nat) (first : Bool), k + left = ms.length → left < steps →
      readMembers ms steps first (Slots.upTo k ms vs)
        (spell (remaining first (items.drop k)) ++ 0x7D :: rest) =
          .ok (Slots.filled ms vs, 0x7D :: rest) := by
  intro left
  induction left with
  | zero =>
    intro k steps first hk hsteps
    obtain ⟨steps, rfl⟩ := Nat.exists_eq_succ_of_ne_zero (Nat.ne_of_gt (Nat.zero_lt_of_lt hsteps))
    rw [Nat.add_zero] at hk
    have hdrop : items.drop k = [] := by
      rw [List.drop_eq_nil_iff, hitems.length_eq]
      exact Nat.le_of_eq hk.symm
    have hnone : spell (remaining first []) = [] := by cases first <;> rfl
    rw [hdrop, hnone, List.nil_append, readMembers, moreMembers_close]
    simp only [bind, Except.bind]
    rw [hk, Slots.upTo_length]
    rfl
  | succ left ih =>
    intro k steps first hk hsteps
    obtain ⟨steps, rfl⟩ := Nat.exists_eq_succ_of_ne_zero (Nat.ne_of_gt (Nat.zero_lt_of_lt hsteps))
    obtain ⟨name, value, _, hitem, hread⟩ := readMember_upTo ms vs items k hitems distinct (by omega)
    obtain ⟨hlt, hget⟩ := List.getElem?_eq_some_iff.mp hitem
    have hapart := apart_afterItem (items.drop (k + 1)) rest
      (by decide : isDigit 0x7D = false ∧ (0x7D : UInt8) ≠ 0x2E ∧ isExponentMark 0x7D = false)
    have hih := ih (k + 1) steps false (by omega) (Nat.lt_of_succ_lt_succ hsteps)
    rw [remaining, if_neg (by decide)] at hih
    rw [List.drop_eq_getElem_cons hlt, hget, readMembers, moreMembers_member]
    simp only [bind, Except.bind, readQuoted_spell, hread _ hapart]
    exact hih

/-- The members of a record as an object. -/
def writeObject (items : List (List Char)) : String :=
  String.ofList ('\x7b' :: withCommas items ++ ['\x7d'])

/-- **A record is read back from whatever may stand for it**, if no two of its members have one name. -/
theorem parseRecord_of_fieldsWrite (ms : List Member) (distinct : (ms.map (·.name)).Nodup)
    (fields : Fields ms) {items : List (List Char)} (hitems : FieldsWrite ms fields items) :
    parseRecord ms (octets (writeObject items)) = .ok fields := by
  have hcount := length_le_spell_withCommas items hitems.ne_nil
  rw [hitems.length_eq] at hcount
  have hmembers := readMembers_write ms fields distinct hitems [] ms.length 0
    ((spell (withCommas items) ++ [0x7D]).length + 1) true (Nat.zero_add _)
    (by rw [List.length_append]; omega)
  rw [remaining, if_pos rfl, List.drop_zero, Slots.upTo] at hmembers
  have hrecord : readRecord ms (octets (writeObject items)) = .ok (fields, []) := by
    rw [writeObject, octets_ofList, ← List.append_nil (spell _), spell_object, readRecord,
      skipSpace_of_not_space (by decide)]
    simp only [if_pos, hmembers, bind, Except.bind, complete, Slots.close_filled]
    rfl
  rw [parseRecord, hrecord]
  rfl

/-- A record that was written is read back as it was. -/
theorem parseRecord_writeRecord (ms : List Member) (distinct : (ms.map (·.name)).Nodup)
    (fields : Fields ms) : parseRecord ms (octets (writeRecord ms fields)) = .ok fields :=
  parseRecord_of_fieldsWrite ms distinct fields (fieldsWrite_writeFields ms fields)

end SymbolRelay.Json
