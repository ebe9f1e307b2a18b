/-!
# Rounding quotients

Division of natural numbers rounded to the nearest, a half going to the even neighbour, and the size
of a quotient in powers of two and of ten.

## Results

* `roundQuotient_mul` — an exact quotient is not changed;
* `roundQuotient_within_half` — the rounded quotient is at most half a unit away.
-/

set_option autoImplicit false

-- a power of a number is core's, also where another library has powers of its own
attribute [instance (20000), default_instance (20000)] instPowNat

namespace SymbolRelay.Decimal

/-- The quotient rounded to the nearest natural number, a half to the even one. -/
def roundQuotient (num den : Nat) : Nat :=
  let q := num / den
  let r := num % den
  if 2 * r < den then q
  else if den < 2 * r then q + 1
  else q + q % 2

theorem roundQuotient_mul (q den : Nat) (h : 0 < den) : roundQuotient (q * den) den = q := by
  simp [roundQuotient, Nat.mul_div_cancel q h, h]

theorem roundQuotient_within_half (num den : Nat) (h : 0 < den) :
    2 * num ≤ (2 * roundQuotient num den + 1) * den ∧
      2 * roundQuotient num den * den ≤ 2 * num + den := by
  have hd := Nat.div_add_mod num den
  have hr := Nat.mod_lt num h
  generalize hq : num / den = q at *
  generalize hrem : num % den = r at *
  have hm : den * q = q * den := Nat.mul_comm _ _
  have key : ∀ k : Nat, (2 * (q + k)) * den = 2 * (q * den) + 2 * (k * den) := by
    intro k; rw [Nat.mul_assoc, Nat.add_mul]; omega
  have key' : ∀ k : Nat, (2 * (q + k) + 1) * den = 2 * (q * den) + 2 * (k * den) + den := by
    intro k; rw [Nat.add_mul, key]; omega
  unfold roundQuotient
  simp only [hq, hrem]
  split
  · have h0 := key 0; have h0' := key' 0; simp only [Nat.add_zero] at h0 h0'
    rw [h0, h0']; omega
  · split
    · rw [key 1, key' 1]; omega
    · rcases Nat.mod_two_eq_zero_or_one q with h2 | h2 <;> rw [h2, key, key'] <;> omega

/-- A quotient times a power of two, rounded. -/
def roundScaled (num den : Nat) (power : Int) : Nat :=
  roundQuotient (num * 2 ^ power.toNat) (den * 2 ^ (-power).toNat)

/-- The greatest power of two that is not above a quotient. -/
def floorLogTwo (num den : Nat) : Int :=
  let l : Int := Int.ofNat num.log2 - Int.ofNat den.log2
  if num * 2 ^ (-l).toNat < den * 2 ^ l.toNat then l - 1 else l

/-- How often a number is multiplied by ten until it reaches another, within so many tries. -/
def tensToReach (goal : Nat) : Nat → Nat → Nat
  | 0, _ => 0
  | tries + 1, n => if goal ≤ n then 0 else tensToReach goal tries (10 * n) + 1

/-- The greatest power of ten that is not above a quotient. -/
def floorLogTen (num den : Nat) : Int :=
  if den ≤ num then Int.ofNat ((Nat.toDigits 10 (num / den)).length - 1)
  else - Int.ofNat (tensToReach den (den.log2 + 1) num)

end SymbolRelay.Decimal
