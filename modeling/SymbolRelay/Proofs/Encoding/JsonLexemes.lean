import SymbolRelay.Json.Record

/-!
# JSON strings and numbers read back

What is written character by character is read octet by octet. A string ends at its closing quote
whatever follows; a number ends where something follows that cannot belong to it.

## Results

* `readQuoted_spell` — an escaped string is read back;
* `readInteger_spell` — so is a whole number within 64 bits, if nothing is glued to it.
-/

set_option autoImplicit false

namespace SymbolRelay.Json

open SymbolRelay.Text

/-! ## Characters as octets -/

/-- The octets of characters in UTF-8. -/
def spell (cs : List Char) : Octets := cs.flatMap String.utf8EncodeChar

theorem octets_ofList (cs : List Char) : octets (String.ofList cs) = spell cs := by
  simp only [octets, String.toUTF8_eq_toByteArray, String.toByteArray_ofList, List.utf8Encode]
  exact List.toList_data_toByteArray

theorem octets_eq_spell (s : String) : octets s = spell s.toList := by
  rw [← octets_ofList, String.ofList_toList]

@[simp] theorem spell_nil : spell [] = [] := rfl

@[simp] theorem spell_cons (c : Char) (cs : List Char) :
    spell (c :: cs) = String.utf8EncodeChar c ++ spell cs := List.flatMap_cons

@[simp] theorem spell_append (as bs : List Char) : spell (as ++ bs) = spell as ++ spell bs :=
  List.flatMap_append

/-! ## Strings -/

/-- Whether an octet stands for itself inside a string. -/
def Plain (b : UInt8) : Prop := b ≠ 0x22 ∧ b ≠ 0x5C ∧ ¬ b < 0x20

theorem plain_ofNat {n : Nat} (hlt : n < 256) (hq : n ≠ 0x22) (hs : n ≠ 0x5C) (hc : 0x20 ≤ n) :
    Plain (UInt8.ofNat n) := by
  have hn : (UInt8.ofNat n).toNat = n := by
    rw [UInt8.toNat_ofNat']
    omega
  refine ⟨?_, ?_, ?_⟩
  · intro h
    rw [h] at hn
    exact hq hn.symm
  · intro h
    rw [h] at hn
    exact hs hn.symm
  · rw [UInt8.lt_iff_toNat_lt, hn]
    exact Nat.not_lt.mpr hc

theorem plain_of_mem_utf8EncodeChar {c : Char} (hq : c ≠ '"') (hs : c ≠ '\\')
    (hc : ¬ c.toNat < 0x20) : ∀ b ∈ String.utf8EncodeChar c, Plain b := by
  have hq' : c.val.toNat ≠ 0x22 := fun h => hq (Char.ext (UInt32.toNat_inj.mp h))
  have hs' : c.val.toNat ≠ 0x5C := fun h => hs (Char.ext (UInt32.toNat_inj.mp h))
  have hc' : 0x20 ≤ c.val.toNat := Nat.not_lt.mp hc
  intro b hb
  simp only [String.utf8EncodeChar] at hb
  split at hb
  · rename_i hle
    rw [List.mem_singleton] at hb
    exact hb ▸ plain_ofNat (by omega) hq' hs' hc'
  · split at hb
    · simp only [List.mem_cons, List.not_mem_nil, or_false] at hb
      obtain rfl | rfl := hb <;> exact plain_ofNat (by omega) (by omega) (by omega) (by omega)
    · split at hb
      · simp only [List.mem_cons, List.not_mem_nil, or_false] at hb
        obtain rfl | rfl | rfl := hb <;> exact plain_ofNat (by omega) (by omega) (by omega) (by omega)
      · simp only [List.mem_cons, List.not_mem_nil, or_false] at hb
        obtain rfl | rfl | rfl | rfl := hb <;>
          exact plain_ofNat (by omega) (by omega) (by omega) (by omega)

/-- Puts octets in front of those that a reader gave. -/
def prefixed (front : Octets) (r : Except Fault (Octets × Octets)) : Except Fault (Octets × Octets) :=
  r.map fun p => (front ++ p.1, p.2)

theorem readRawText_plain (steps : Nat) (ps tail : Octets) (h : ∀ b ∈ ps, Plain b) :
    readRawText (ps.length + steps) (ps ++ tail) = prefixed ps (readRawText steps tail) := by
  induction ps with
  | nil =>
    rw [List.length_nil, Nat.zero_add, List.nil_append]
    cases readRawText steps tail <;> rfl
  | cons b ps ih =>
    obtain ⟨hq, hs, hc⟩ := h b List.mem_cons_self
    have hlen : (b :: ps).length + steps = (ps.length + steps) + 1 := by
      rw [List.length_cons]
      omega
    rw [hlen, List.cons_append, readRawText, if_neg hq, if_neg hs, if_neg hc,
      ih fun x hx => h x (List.mem_cons_of_mem _ hx)]
    cases readRawText steps tail <;> rfl

theorem readRawText_escape (steps : Nat) {escape front tail : Octets}
    (h : readEscape (escape ++ tail) = .ok (front, tail)) :
    readRawText (1 + steps) (0x5C :: escape ++ tail) = prefixed front (readRawText steps tail) := by
  rw [Nat.add_comm, List.cons_append, readRawText, if_neg (by decide), if_pos rfl, h]
  simp only [bind, Except.bind]
  cases readRawText steps tail <;> rfl

theorem hexOctet?_hexDigit (n : Nat) : hexOctet? (UInt8.ofNat (hexDigit n).toNat) = some (n % 16) := by
  have digits : ∀ d < 16, hexOctet? (UInt8.ofNat (Nat.digitChar d).toNat) = some d := by decide
  exact digits (n % 16) (Nat.mod_lt n (by decide))

theorem utf8EncodeChar_hexDigit (n : Nat) :
    String.utf8EncodeChar (hexDigit n) = [UInt8.ofNat (hexDigit n).toNat] := by
  have digits : ∀ d < 16, String.utf8EncodeChar (Nat.digitChar d) =
      [UInt8.ofNat (Nat.digitChar d).toNat] := by decide
  exact digits (n % 16) (Nat.mod_lt n (by decide))

theorem readEscape_control {c : Char} (h : c.toNat < 0x20) (tail : Octets) :
    readEscape ([0x75, 0x30, 0x30, UInt8.ofNat (hexDigit (c.toNat / 16)).toNat,
      UInt8.ofNat (hexDigit c.toNat).toNat] ++ tail) = .ok (String.utf8EncodeChar c, tail) := by
  have hzero : hexOctet? 0x30 = some 0 := by decide
  have hn : ((0 * 16 + 0) * 16 + c.toNat / 16 % 16) * 16 + c.toNat % 16 = c.toNat := by omega
  have hlow : isLowSurrogate c.toNat = false := by
    simp [isLowSurrogate]
    omega
  have hhigh : isHighSurrogate c.toNat = false := by
    simp [isHighSurrogate]
    omega
  simp only [List.cons_append, List.nil_append, readEscape, if_pos, readUnicode, readHexFour, hzero,
    hexOctet?_hexDigit, hn]
  show Except.map _ (if isLowSurrogate c.toNat then _ else if isHighSurrogate c.toNat then _ else _) = _
  rw [hlow, hhigh, if_neg (by decide), if_neg (by decide)]
  show Except.ok (String.utf8EncodeChar (Char.ofNat c.toNat), tail) = _
  rw [Char.ofNat_toNat]

/-- A character is read back from what stands for it in a string, in at most one step for an octet. -/
theorem readRawText_escapeChar (c : Char) (tail : Octets) :
    ∃ k, k ≤ (spell (escapeChar c)).length ∧ ∀ steps,
      readRawText (k + steps) (spell (escapeChar c) ++ tail) =
        prefixed (String.utf8EncodeChar c) (readRawText steps tail) := by
  unfold escapeChar
  split
  · subst_vars
    exact ⟨1, by decide, fun steps => readRawText_escape steps rfl⟩
  split
  · subst_vars
    exact ⟨1, by decide, fun steps => readRawText_escape steps rfl⟩
  split
  · subst_vars
    exact ⟨1, by decide, fun steps => readRawText_escape steps rfl⟩
  split
  · subst_vars
    exact ⟨1, by decide, fun steps => readRawText_escape steps rfl⟩
  split
  · subst_vars
    exact ⟨1, by decide, fun steps => readRawText_escape steps rfl⟩
  split
  · subst_vars
    exact ⟨1, by decide, fun steps => readRawText_escape steps rfl⟩
  split
  · subst_vars
    exact ⟨1, by decide, fun steps => readRawText_escape steps rfl⟩
  split
  · rename_i hc
    have hspell : spell ['\\', 'u', '0', '0', hexDigit (c.toNat / 16), hexDigit c.toNat] =
        0x5C :: [0x75, 0x30, 0x30, UInt8.ofNat (hexDigit (c.toNat / 16)).toNat,
          UInt8.ofNat (hexDigit c.toNat).toNat] := by
      simp only [spell_cons, spell_nil, utf8EncodeChar_hexDigit]
      rfl
    rw [hspell]
    exact ⟨1, by simp, fun steps => readRawText_escape steps (readEscape_control hc tail)⟩
  · rename_i hq hs _ _ _ _ _ hc
    refine ⟨(String.utf8EncodeChar c).length, ?_, ?_⟩
    · simp
    · intro steps
      rw [spell_cons, spell_nil, List.append_nil]
      exact readRawText_plain steps _ tail (plain_of_mem_utf8EncodeChar hq hs hc)

theorem readRawText_spell (cs : List Char) (rest : Octets) : ∀ steps,
    (spell (cs.flatMap escapeChar)).length < steps →
    readRawText steps (spell (cs.flatMap escapeChar) ++ 0x22 :: rest) = .ok (spell cs, rest) := by
  induction cs with
  | nil =>
    intro steps h
    obtain ⟨n, rfl⟩ := Nat.exists_eq_succ_of_ne_zero (Nat.ne_of_gt (Nat.zero_lt_of_lt h))
    rfl
  | cons c cs ih =>
    intro steps h
    rw [List.flatMap_cons, spell_append, List.length_append] at h
    obtain ⟨k, hk, hread⟩ := readRawText_escapeChar c
      (spell (cs.flatMap escapeChar) ++ 0x22 :: rest)
    have hsteps : steps = k + (steps - k) := by omega
    rw [hsteps, List.flatMap_cons, spell_append, List.append_assoc, hread,
      ih (steps - k) (by omega)]
    rfl

/-- The characters of a string inside its quotes. -/
def body (s : String) : List Char := s.toList.flatMap escapeChar

theorem writeString_eq (s : String) : writeString s = '"' :: (body s ++ ['"']) := rfl

theorem readQuoted_spell (s : String) (rest : Octets) :
    readQuoted (spell (body s) ++ 0x22 :: rest) = .ok (s, rest) := by
  have hlen : (spell (s.toList.flatMap escapeChar)).length <
      (spell (body s) ++ 0x22 :: rest).length + 1 := by
    rw [body, List.length_append]
    omega
  have hraw : readRawText ((spell (body s) ++ 0x22 :: rest).length + 1)
      (spell (body s) ++ 0x22 :: rest) = .ok (octets s, rest) := by
    rw [octets_eq_spell]
    exact readRawText_spell s.toList rest _ hlen
  rw [readQuoted, hraw]
  simp only [bind, Except.bind, text?_octets]
  rfl

/-- A string with its quotes is its opening quote, its body and its closing quote. -/
theorem spell_writeString (s : String) (rest : Octets) :
    spell (writeString s) ++ rest = 0x22 :: (spell (body s) ++ 0x22 :: rest) := by
  have hquote : String.utf8EncodeChar '"' = [0x22] := by decide
  simp only [writeString_eq, spell_cons, spell_append, spell_nil, hquote, List.append_nil,
    List.append_assoc, List.cons_append, List.nil_append]

theorem readString_spell (s : String) (rest : Octets) :
    readString (spell (writeString s) ++ rest) = .ok (s, rest) := by
  rw [spell_writeString, readString, skipSpace_of_not_space (by decide)]
  simp only [if_pos]
  exact readQuoted_spell s rest

/-! ## Numbers -/

/-- The octet of a decimal digit. -/
def digitOctet (d : Nat) : UInt8 := UInt8.ofNat (0x30 + d)

theorem isDigit_digitOctet : ∀ d < 10, isDigit (digitOctet d) = true := by decide

theorem digitValue_digitOctet : ∀ d < 10, digitValue (digitOctet d) = d := by decide

theorem utf8EncodeChar_digitChar : ∀ d < 10, String.utf8EncodeChar (Nat.digitChar d) = [digitOctet d] := by
  decide

/-- The octets of a number in decimal digits. -/
def decimal (n : Nat) : Octets := spell (Nat.toDigits 10 n)

theorem decimal_of_lt {n : Nat} (h : n < 10) : decimal n = [digitOctet n] := by
  rw [decimal, Nat.toDigits_of_lt_base h, spell_cons, spell_nil, List.append_nil,
    utf8EncodeChar_digitChar n h]

theorem decimal_of_le {n : Nat} (h : 10 ≤ n) :
    decimal n = decimal (n / 10) ++ [digitOctet (n % 10)] := by
  have hd : n % 10 < 10 := Nat.mod_lt n (by decide)
  rw [decimal, Nat.toDigits_of_base_le (by decide) h, spell_append, spell_cons, spell_nil,
    List.append_nil, utf8EncodeChar_digitChar _ hd, decimal]

theorem isDigit_of_mem_decimal (n : Nat) : ∀ b ∈ decimal n, isDigit b = true := by
  by_cases h : n < 10
  · rw [decimal_of_lt h]
    intro b hb
    rw [List.mem_singleton] at hb
    exact hb ▸ isDigit_digitOctet n h
  · rw [decimal_of_le (Nat.not_lt.mp h)]
    intro b hb
    rcases List.mem_append.mp hb with hb | hb
    · exact isDigit_of_mem_decimal (n / 10) b hb
    · rw [List.mem_singleton] at hb
      exact hb ▸ isDigit_digitOctet _ (Nat.mod_lt n (by decide))
termination_by n
decreasing_by omega

theorem decimal_ne_nil (n : Nat) : decimal n ≠ [] := by
  by_cases h : n < 10
  · simp [decimal_of_lt h]
  · simp [decimal_of_le (Nat.not_lt.mp h)]

/-- A number other than zero does not start with the digit zero. -/
theorem decimal_head {n : Nat} (hn : 0 < n) : ∃ b bs, decimal n = b :: bs ∧ b ≠ 0x30 := by
  by_cases h : n < 10
  · refine ⟨digitOctet n, [], decimal_of_lt h, fun he => ?_⟩
    have hv := digitValue_digitOctet n h
    rw [he] at hv
    exact Nat.ne_of_gt hn hv.symm
  · obtain ⟨b, bs, hb, hne⟩ := decimal_head (n := n / 10) (by omega)
    exact ⟨b, bs ++ [digitOctet (n % 10)], by rw [decimal_of_le (Nat.not_lt.mp h), hb]; rfl, hne⟩
termination_by n
decreasing_by omega

theorem foldl_addWhole_decimal {n : Nat} (hn : n < 2 ^ 64) :
    (decimal n).foldl Leading.addWhole {} = { digits := n } := by
  have last : ∀ m d, d < 10 → 10 * m + d < 2 ^ 64 →
      Leading.addWhole { digits := m } (digitOctet d) = { digits := 10 * m + d } := by
    intro m d hd hlt
    simp only [Leading.addWhole, digitValue_digitOctet d hd, Bool.false_or]
    rw [if_neg]
    rw [decide_eq_true_eq]
    exact Nat.not_le.mpr hlt
  by_cases h : n < 10
  · rw [decimal_of_lt h, List.foldl_cons, List.foldl_nil]
    have := last 0 n h (by omega)
    rw [Nat.mul_zero, Nat.zero_add] at this
    exact this
  · rw [decimal_of_le (Nat.not_lt.mp h), List.foldl_append, foldl_addWhole_decimal (n := n / 10) (by omega),
      List.foldl_cons, List.foldl_nil, last (n / 10) (n % 10) (by omega) (by omega)]
    congr 1
    omega
termination_by n
decreasing_by omega

/-- Whether nothing that follows could belong to a number. -/
def Apart (rest : Octets) : Prop :=
  ∀ b after, rest = b :: after → isDigit b = false ∧ b ≠ 0x2E ∧ isExponentMark b = false

theorem apart_cons {b : UInt8} {after : Octets}
    (h : isDigit b = false ∧ b ≠ 0x2E ∧ isExponentMark b = false) : Apart (b :: after) := by
  intro b' after' he
  cases he
  exact h

theorem readAfterWhole_of_apart {rest : Octets} (h : Apart rest) (negative : Bool) (l : Leading) :
    readAfterWhole negative l rest = endWhole negative l rest := by
  cases rest with
  | nil => rfl
  | cons b after =>
    obtain ⟨_, hdot, hexp⟩ := h b after rfl
    simp [readAfterWhole, hdot, hexp]

theorem takeWhile_decimal {rest : Octets} (h : Apart rest) (n : Nat) :
    (decimal n ++ rest).takeWhile isDigit = decimal n ∧
      (decimal n ++ rest).dropWhile isDigit = rest := by
  have hall := isDigit_of_mem_decimal n
  rw [List.takeWhile_append_of_pos hall, List.dropWhile_append_of_pos hall]
  cases rest with
  | nil => simp
  | cons b after =>
    have hb := (h b after rfl).1
    simp [hb]

theorem readDigits_decimal {n : Nat} (hn : n < 2 ^ 64) {rest : Octets} (h : Apart rest)
    (negative : Bool) :
    readDigits negative (decimal n ++ rest) = endWhole negative { digits := n } rest := by
  rcases Nat.eq_zero_or_pos n with rfl | hpos
  · have hzero : decimal 0 = [0x30] := by decide
    rw [hzero, List.cons_append, List.nil_append]
    cases rest with
    | nil => rfl
    | cons b after =>
      have hb := (h b after rfl).1
      simp only [readDigits, if_pos, hb, Bool.false_eq_true, if_false]
      exact readAfterWhole_of_apart h negative _
  · obtain ⟨htake, hdrop⟩ := takeWhile_decimal h n
    obtain ⟨b, bs, hb, hne⟩ := decimal_head hpos
    have hdigit : isDigit b = true := isDigit_of_mem_decimal n b (by rw [hb]; exact List.mem_cons_self)
    rw [hb, List.cons_append] at htake hdrop
    rw [hb, List.cons_append, readDigits.eq_def]
    simp only
    rw [if_neg hne, if_pos hdigit, htake, hdrop, ← hb,
      foldl_addWhole_decimal hn]
    exact readAfterWhole_of_apart h negative _

theorem writeInteger_of_nonneg (n : Nat) : spell (writeInteger n) = decimal n := by
  rw [writeInteger, if_neg (by omega), Int.natAbs_natCast, decimal]

theorem writeInteger_of_neg {n : Int} (h : n < 0) : spell (writeInteger n) = 0x2D :: decimal n.natAbs := by
  have hminus : String.utf8EncodeChar '-' = [0x2D] := by decide
  rw [writeInteger, if_pos h, spell_cons, hminus, decimal]
  rfl

theorem ne_space_of_isDigit {b : UInt8} (h : isDigit b = true) : isSpace b = false := by
  have all : ∀ n < 256, isDigit (UInt8.ofNat n) = true → isSpace (UInt8.ofNat n) = false := by
    decide +kernel
  have hb := all b.toNat (UInt8.toNat_lt b)
  rw [UInt8.ofNat_toNat] at hb
  exact hb h

theorem ne_minus_of_isDigit {b : UInt8} (h : isDigit b = true) : b ≠ 0x2D := by
  rintro rfl
  revert h
  decide

theorem readNumber?_of_isDigit {b : UInt8} (h : isDigit b = true) (rest : Octets) :
    readNumber? (b :: rest) = some (readDigits false (b :: rest)) := by
  unfold readNumber?
  split
  · rename_i he
    cases he
    exact absurd rfl (ne_minus_of_isDigit h)
  · rename_i he
    cases he
    rw [if_pos h]
  · rename_i he
    cases he

/-- A whole number within 64 bits is read back, if nothing is glued to it. -/
theorem readInteger_spell {n : Int} (hlow : -2 ^ 63 ≤ n) (hhigh : n < 2 ^ 64) {rest : Octets}
    (h : Apart rest) : readInteger (spell (writeInteger n) ++ rest) = .ok (n, rest) := by
  rcases Int.lt_or_le n 0 with hneg | hpos
  · have habs : n.natAbs < 2 ^ 64 := by omega
    have hend : endWhole true { digits := n.natAbs } rest = .ok (.negative n.natAbs, rest) := by
      have hbound : ¬ (n.natAbs = 0 ∨ 2 ^ 63 < n.natAbs) := by omega
      simp only [endWhole, Bool.false_eq_true, if_false, Bool.not_true, if_neg hbound]
    rw [writeInteger_of_neg hneg, List.cons_append, readInteger, skipSpace_of_not_space (by decide)]
    simp only [readNumber?, readDigits_decimal habs h, hend]
    show Except.ok (- Int.ofNat n.natAbs, rest) = _
    have : - Int.ofNat n.natAbs = n := by
      show - (n.natAbs : Int) = n
      omega
    rw [this]
  · obtain ⟨m, rfl⟩ := Int.eq_ofNat_of_zero_le hpos
    have hm : m < 2 ^ 64 := by omega
    have hread : readDigits false (decimal m ++ rest) = .ok (.natural m, rest) := by
      simp only [readDigits_decimal hm h, endWhole, Bool.false_eq_true, if_false, Bool.not_false, if_pos]
    obtain ⟨b, bs, hb⟩ := List.exists_cons_of_ne_nil (decimal_ne_nil m)
    have hdigit : isDigit b = true := isDigit_of_mem_decimal m b (by rw [hb]; exact List.mem_cons_self)
    rw [writeInteger_of_nonneg, readInteger]
    rw [hb, List.cons_append] at hread ⊢
    rw [skipSpace_of_not_space (ne_space_of_isDigit hdigit), readNumber?_of_isDigit hdigit]
    simp only [hread]
    rfl

end SymbolRelay.Json
