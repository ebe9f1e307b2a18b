import SymbolRelay.Request.Ids
import SymbolRelay.Text.Octets
import SymbolRelay.Text.Quoted

/-!
# Numbered ids

Stands for uuid: an id has the form of a random one, five groups of hexadecimal digits with the marks of
version and variant, and spells the number of ids made before it. Its groups but the first have a fixed
number of digits, so the number can be read back, and two ids with one text have one number.

## Results

* `number_hexDigits` — hexadecimal digits are read back, whatever zeros stand before them;
* `text_injective` — no id is made twice;
* `text_ne_empty` — no id is empty.
-/

set_option autoImplicit false

namespace SymbolRelay.NumberedIds

open SymbolRelay.Text

/-- The `count` hexadecimal digits of a number above its lowest `low` ones. -/
def digitsAt (n low count : Nat) : List Char :=
  let ds := hexDigits (n / 16 ^ low % 16 ^ count)
  List.replicate (count - ds.length) '0' ++ ds

/-- The id with a number. -/
def text (n : Nat) : String :=
  let top := hexDigits (n / 16 ^ 22)
  String.ofList <|
    List.replicate (8 - top.length) '0' ++ top ++ '-' :: digitsAt n 18 4 ++
      '-' :: '4' :: digitsAt n 15 3 ++ '-' :: '8' :: digitsAt n 12 3 ++ '-' :: digitsAt n 0 12

/-! ## Reading back -/

/-- The number that hexadecimal digits spell. -/
def number (cs : List Char) : Nat := cs.foldl (fun n c => 16 * n + (hexValue? c).getD 0) 0

theorem number_append_digit (cs : List Char) {d : Nat} (h : d < 16) :
    number (cs ++ [Nat.digitChar d]) = 16 * number cs + d := by
  have hd : ∀ d < 16, (hexValue? (Nat.digitChar d)).getD 0 = d := by decide
  rw [number, List.foldl_append, List.foldl_cons, List.foldl_nil, hd d h, number]

theorem number_hexDigits (n zeros : Nat) : number (List.replicate zeros '0' ++ hexDigits n) = n := by
  have hzeros : number (List.replicate zeros '0') = 0 := by
    induction zeros with
    | zero => rfl
    | succ zeros ih =>
      have hz := number_append_digit (List.replicate zeros '0') (by decide : 0 < 16)
      rw [List.replicate_succ']
      rw [ih] at hz
      exact hz
  rw [hexDigits]
  by_cases h : n < 16
  · rw [Nat.toDigits_of_lt_base h, number_append_digit _ h, hzeros]
    omega
  · have ih := number_hexDigits (n / 16) zeros
    rw [hexDigits] at ih
    rw [Nat.toDigits_of_base_le (by decide) (Nat.not_lt.mp h), ← List.append_assoc,
      number_append_digit _ (Nat.mod_lt n (by decide)), ih]
    omega
termination_by n
decreasing_by omega

theorem length_digitsAt (n low : Nat) {count : Nat} (h : 0 < count) :
    (digitsAt n low count).length = count := by
  have hlen : (hexDigits (n / 16 ^ low % 16 ^ count)).length ≤ count :=
    (Nat.length_toDigits_le_iff (by decide) h).mpr (Nat.mod_lt _ (Nat.pow_pos (by decide)))
  simp only [digitsAt, List.length_append, List.length_replicate]
  omega

theorem number_digitsAt (n low count : Nat) :
    number (digitsAt n low count) = n / 16 ^ low % 16 ^ count :=
  number_hexDigits _ _

/-- Two groups with the same number of digits, with something before them, spell the same. -/
theorem groups_eq {xs ys : List Char} {a b low count : Nat} {mark : List Char} (h : 0 < count)
    (he : xs ++ (mark ++ digitsAt a low count) = ys ++ (mark ++ digitsAt b low count)) :
    xs = ys ∧ a / 16 ^ low % 16 ^ count = b / 16 ^ low % 16 ^ count := by
  have hlen : (mark ++ digitsAt a low count).length = (mark ++ digitsAt b low count).length := by
    rw [List.length_append, List.length_append, length_digitsAt a low h, length_digitsAt b low h]
  obtain ⟨hxy, hrest⟩ := List.append_inj' he hlen
  have hdigits := List.append_cancel_left hrest
  refine ⟨hxy, ?_⟩
  rw [← number_digitsAt, ← number_digitsAt, hdigits]

/-- **No id is made twice.** -/
theorem text_injective {a b : Nat} (h : text a = text b) : a = b := by
  have hlist := String.ofList_inj.mp h
  -- The groups, the last one outermost.
  have group : ∀ n, List.replicate (8 - (hexDigits (n / 16 ^ 22)).length) '0' ++
      hexDigits (n / 16 ^ 22) ++ '-' :: digitsAt n 18 4 ++ '-' :: '4' :: digitsAt n 15 3 ++
      '-' :: '8' :: digitsAt n 12 3 ++ '-' :: digitsAt n 0 12 =
      ((((List.replicate (8 - (hexDigits (n / 16 ^ 22)).length) '0' ++ hexDigits (n / 16 ^ 22)) ++
        (['-'] ++ digitsAt n 18 4)) ++ (['-', '4'] ++ digitsAt n 15 3)) ++
        (['-', '8'] ++ digitsAt n 12 3)) ++ (['-'] ++ digitsAt n 0 12) := fun _ => rfl
  rw [group a, group b] at hlist
  obtain ⟨hlist, h₀⟩ := groups_eq (by decide) hlist
  obtain ⟨hlist, h₁₂⟩ := groups_eq (by decide) hlist
  obtain ⟨hlist, h₁₅⟩ := groups_eq (by decide) hlist
  obtain ⟨hlist, h₁₈⟩ := groups_eq (by decide) hlist
  have h₂₂ : a / 16 ^ 22 = b / 16 ^ 22 := by
    rw [← number_hexDigits (a / 16 ^ 22), hlist, number_hexDigits]
  omega

theorem text_ne_empty (n : Nat) : text n ≠ "" := by
  intro h
  have hlist := congrArg String.toList h
  simp [text] at hlist

instance : IdSource where
  text := text
  text_injective := text_injective
  text_ne_empty := text_ne_empty

end SymbolRelay.NumberedIds
