import SymbolRelay.Text.Lowercase

/-!
# Capital letters and small letters

What the tables behind lower-casing say about each other. A capital letter is an ASCII one or belongs
to a run of `caseRuns`; adding the run's distance gives its small letter. Tables are compared as whole
sets, each one held in the binary digits of a number, so that a comparison is one operation on two
numbers however many letters there are.

## Results

* `lowerChar_cases` — a character is its own lower case, the dotted capital I, or a capital letter;
* `lowerChar_of_mem_lowerChar` — lower-casing twice is lower-casing once;
* `lowerChar_sameClass` — a search for a cased neighbour sees a small letter as it sees its capital.
-/

set_option autoImplicit false

namespace SymbolRelay.Text

/-! ## Tables as sets -/

/-- A set of code points, given as ranges, as the number whose binary digits are its members. -/
def bits (ranges : List (Nat × Nat)) : Nat :=
  ranges.foldr (fun r m => ((2 ^ (r.2 + 1 - r.1) - 1) <<< r.1) ||| m) 0

theorem testBit_bits (n : Nat) (ranges : List (Nat × Nat)) :
    (bits ranges).testBit n = inRanges n ranges := by
  induction ranges with
  | nil => simp [bits, inRanges]
  | cons r rest ih =>
    simp only [bits, inRanges] at ih
    rw [bits, List.foldr_cons, Nat.testBit_or, Nat.testBit_shiftLeft, Nat.testBit_two_pow_sub_one,
      ih, inRanges, List.any_cons]
    congr 1
    rw [Bool.eq_iff_iff]
    simp only [Bool.and_eq_true, decide_eq_true_eq]
    omega

section Tables

variable {n : Nat} {ranges others : List (Nat × Nat)}

theorem inRanges_of_bits (h : bits ranges &&& bits others = bits ranges)
    (hn : inRanges n ranges = true) : inRanges n others = true := by
  have hbit : (bits ranges &&& bits others).testBit n = true := by rw [h, testBit_bits, hn]
  rw [Nat.testBit_and, testBit_bits, testBit_bits, Bool.and_eq_true] at hbit
  exact hbit.2

theorem not_inRanges_of_bits (h : bits ranges &&& bits others = 0)
    (hn : inRanges n ranges = true) : inRanges n others = false := by
  have hbit : (bits ranges &&& bits others).testBit n = false := by rw [h, Nat.zero_testBit]
  rwa [Nat.testBit_and, testBit_bits, testBit_bits, hn, Bool.true_and] at hbit

end Tables

/-! ## The letters -/

/-- The runs of all letters whose lower case is one other character. -/
def letterRuns : List CaseRun := (0x41, 0x5a, 1, 32) :: caseRuns

namespace CaseRun

/-- The capital letters of a run. -/
def capitals : CaseRun → List Nat
  | (first, last, step, _) => List.range' first ((last - first) / step + 1) step

/-- The small letter of a capital letter of a run. -/
def small (n : Nat) : CaseRun → Nat
  | (_, _, _, delta) => (Int.ofNat n + delta).toNat

theorem mem_capitals_of_covers {n : Nat} {run : CaseRun} (h : covers n run = true) :
    n ∈ run.capitals := by
  obtain ⟨first, last, step, delta⟩ := run
  simp only [covers, Bool.and_eq_true, decide_eq_true_eq, beq_iff_eq] at h
  obtain ⟨⟨hfirst, hlast⟩, hstep⟩ := h
  refine List.mem_range'.mpr ⟨(n - first) / step, ?_, ?_⟩
  · exact Nat.lt_succ_of_le (Nat.div_le_div_right (Nat.sub_le_sub_right hlast first))
  · rw [Nat.mul_div_cancel' (Nat.dvd_of_mod_eq_zero hstep)]
    omega

end CaseRun

/-- The capital letters, each as a range of its own. -/
def capitalRanges : List (Nat × Nat) :=
  letterRuns.flatMap fun run => run.capitals.map fun n => (n, n)

/-- The small letters, each as a range of its own. -/
def smallRanges : List (Nat × Nat) :=
  letterRuns.flatMap fun run => run.capitals.map fun n => (run.small n, run.small n)

section Letters

variable {n : Nat} {run : CaseRun}

theorem inRanges_capitalRanges (hrun : run ∈ letterRuns) (hn : CaseRun.covers n run = true) :
    inRanges n capitalRanges = true := by
  simp only [inRanges, List.any_eq_true, capitalRanges, List.mem_flatMap, List.mem_map]
  exact ⟨(n, n), ⟨run, hrun, n, CaseRun.mem_capitals_of_covers hn, rfl⟩, by simp⟩

theorem inRanges_smallRanges (hrun : run ∈ letterRuns) (hn : CaseRun.covers n run = true) :
    inRanges (run.small n) smallRanges = true := by
  simp only [inRanges, List.any_eq_true, smallRanges, List.mem_flatMap, List.mem_map]
  exact ⟨(run.small n, run.small n), ⟨run, hrun, n, CaseRun.mem_capitals_of_covers hn, rfl⟩,
    by simp⟩

end Letters

theorem capitals_cased : bits capitalRanges &&& bits casedRanges = bits capitalRanges := by
  decide +kernel

theorem capitals_not_ignorable : bits capitalRanges &&& bits caseIgnorableRanges = 0 := by
  decide +kernel

theorem smalls_cased : bits smallRanges &&& bits casedRanges = bits smallRanges := by
  decide +kernel

theorem smalls_not_ignorable : bits smallRanges &&& bits caseIgnorableRanges = 0 := by
  decide +kernel

/-- No small letter has a lower case of its own: none is a capital of a run or the dotted capital I. -/
theorem smalls_not_capitals : bits smallRanges &&& bits ((0x130, 0x130) :: capitalRanges) = 0 := by
  decide +kernel

/-- The small letters are characters: none lies among the surrogates or beyond the last character. -/
theorem smalls_valid :
    bits smallRanges &&& bits [(0, 0xd7ff), (0xe000, 0x10ffff)] = bits smallRanges := by
  decide +kernel

/-! ## Characters -/

theorem toNat_ofNat {n : Nat} (h : n.isValidChar) : (Char.ofNat n).toNat = n := by
  have hvalid : Char.ofNat n = Char.ofNatAux n h := dif_pos h
  rw [hvalid]
  rfl

theorem toNat_shiftChar {c : Char} {run : CaseRun} (hrun : run ∈ letterRuns)
    (hc : CaseRun.covers c.toNat run = true) :
    (shiftChar c run.2.2.2).toNat = run.small c.toNat := by
  have hvalid := inRanges_of_bits smalls_valid (inRanges_smallRanges hrun hc)
  refine toNat_ofNat ?_
  simp only [inRanges, List.any_cons, List.any_nil, Bool.or_false, Bool.or_eq_true, Bool.and_eq_true,
    decide_eq_true_eq] at hvalid
  change (run.small c.toNat).isValidChar
  simp only [Nat.isValidChar]
  omega

theorem toNat_toLower (c : Char) :
    c.toLower.toNat = if 0x41 ≤ c.toNat ∧ c.toNat ≤ 0x5a then c.toNat + 32 else c.toNat := by
  have hrange : c.val ≥ 'A'.val ∧ c.val ≤ 'Z'.val ↔ 0x41 ≤ c.toNat ∧ c.toNat ≤ 0x5a := by
    simp only [ge_iff_le, UInt32.le_iff_toNat_le]
    rfl
  by_cases h : c.val ≥ 'A'.val ∧ c.val ≤ 'Z'.val
  · have hlower : c.toLower.val = c.val + ('a'.val - 'A'.val) := congrArg Char.val (dif_pos h)
    have hle : c.val.toNat ≤ 0x5a := (hrange.mp h).2
    rw [if_pos (hrange.mp h)]
    change c.toLower.val.toNat = c.val.toNat + 32
    rw [hlower, UInt32.toNat_add, show ('a'.val - 'A'.val).toNat = 32 from rfl]
    omega
  · have hlower : c.toLower = c := dif_neg h
    rw [if_neg (fun hc => h (hrange.mpr hc)), hlower]

/-- **A character is its own lower case, the dotted capital I, or a capital letter with a small one.** -/
theorem lowerChar_cases (c : Char) :
    lowerChar c = [c] ∨ c = 'İ' ∨
      ∃ d, lowerChar c = [d] ∧ inRanges c.toNat capitalRanges = true ∧
        inRanges d.toNat smallRanges = true := by
  by_cases hascii : c.toNat < 0x80
  · have hlower : lowerChar c = [c.toLower] := by simp [lowerChar, hascii]
    have hnat := toNat_toLower c
    by_cases hcapital : 0x41 ≤ c.toNat ∧ c.toNat ≤ 0x5a
    · rw [if_pos hcapital] at hnat
      have hcovers : CaseRun.covers c.toNat (0x41, 0x5a, 1, 32) = true := by
        simp [CaseRun.covers, hcapital.1, hcapital.2, Nat.mod_one]
      have hsmall := inRanges_smallRanges List.mem_cons_self hcovers
      refine .inr (.inr ⟨c.toLower, hlower, inRanges_capitalRanges List.mem_cons_self hcovers, ?_⟩)
      rw [hnat]
      exact hsmall
    · rw [if_neg hcapital] at hnat
      exact .inl (by rw [hlower, Char.toNat_inj.mp hnat])
  · by_cases hdotted : c = 'İ'
    · exact .inr (.inl hdotted)
    · cases hfind : caseRuns.find? (CaseRun.covers c.toNat) with
      | none => exact .inl (by simp [lowerChar, hascii, hdotted, hfind])
      | some run =>
        have hrun : run ∈ letterRuns := List.mem_cons_of_mem _ (List.mem_of_find?_eq_some hfind)
        have hcovers := List.find?_some hfind
        refine .inr (.inr ⟨shiftChar c run.2.2.2, ?_, inRanges_capitalRanges hrun hcovers, ?_⟩)
        · simp [lowerChar, hascii, hdotted, hfind]
        · rw [toNat_shiftChar hrun hcovers]
          exact inRanges_smallRanges hrun hcovers

theorem lowerChar_of_not_capital {c : Char}
    (h : inRanges c.toNat ((0x130, 0x130) :: capitalRanges) = false) : lowerChar c = [c] := by
  rw [inRanges, List.any_cons, Bool.or_eq_false_iff] at h
  obtain hself | rfl | ⟨d, -, hcapital, -⟩ := lowerChar_cases c
  · exact hself
  · exact absurd h.1 (by decide)
  · exact absurd (hcapital.symm.trans h.2) (by decide)

/-- A character of a lower case is its own lower case. -/
theorem lowerChar_of_mem_lowerChar {c d : Char} (h : d ∈ lowerChar c) : lowerChar d = [d] := by
  obtain hself | rfl | ⟨small, hlower, -, hsmall⟩ := lowerChar_cases c
  · rw [hself, List.mem_singleton] at h
    rw [h, hself]
  · have hd : d = 'i' ∨ d = '\u0307' := by simpa [lowerChar] using h
    rcases hd with rfl | rfl <;> decide +kernel
  · rw [hlower, List.mem_singleton] at h
    rw [h]
    exact lowerChar_of_not_capital (not_inRanges_of_bits smalls_not_capitals hsmall)

/-- Two characters that a search for a cased neighbour cannot tell apart. -/
structure SameClass (c d : Char) : Prop where
  cased : isCased d = isCased c
  ignorable : isCaseIgnorable d = isCaseIgnorable c

theorem SameClass.refl (c : Char) : SameClass c c := ⟨rfl, rfl⟩

/-- Every character but the dotted capital I is lowered to one character of its class. -/
theorem lowerChar_sameClass {c : Char} (hc : c ≠ 'İ') :
    ∃ d, lowerChar c = [d] ∧ SameClass c d := by
  obtain hself | rfl | ⟨d, hlower, hcapital, hsmall⟩ := lowerChar_cases c
  · exact ⟨c, hself, SameClass.refl c⟩
  · exact absurd rfl hc
  · refine ⟨d, hlower, ?_, ?_⟩
    · rw [isCased, isCased, inRanges_of_bits smalls_cased hsmall,
        inRanges_of_bits capitals_cased hcapital]
    · rw [isCaseIgnorable, isCaseIgnorable, not_inRanges_of_bits smalls_not_ignorable hsmall,
        not_inRanges_of_bits capitals_not_ignorable hcapital]

end SymbolRelay.Text
