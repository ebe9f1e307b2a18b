import SymbolRelay.Proofs.Text.LetterCase

/-!
# Capital sigmas in a longer text

A capital sigma is lowered to the final form `ς` if the next character before it that is not passed
over has a case and the next one after it has none, and to `σ` otherwise. So the lower case of a text
that is part of a longer one is not always part of the longer one's lower case: what the search for a
neighbour meets beyond the ends of the text may decide.

## Definitions

* `sigmaForm` is the lower case of a capital sigma between two texts, `lowerWithin` that of a text
  between two texts; a text before another is given from its end to its start;
* `lasting c before after` says of a sigma `c` that a capital sigma which is lowered to it between
  texts that begin with `before` and `after` is lowered to it between all longer ones.

## Results

* `lowerWithin_append` — a text is lowered piece by piece, each piece between the others;
* `lowerWithin_eq_iff` — two surroundings make a difference to a text exactly at its capital sigmas;
* `nextIsCased_lowerWithin`, `nextIsCased_reverse_lowerWithin` — a search for a cased neighbour ends
  in a lowered text as it does in the text;
* `sigmaForm_eq_of_lasting` — a lasting sigma stays in all longer texts;
* `medial_of_not_lasting`, `final_of_not_lasting` — any other one changes in a text that is longer by a
  character at either end.
-/

set_option autoImplicit false

namespace SymbolRelay.Text

/-! ## The search for a cased neighbour -/

/-- Whether the search for a cased neighbour ends at a character. -/
def stopsSearch (c : Char) : Bool := !isCaseIgnorable c

theorem nextIsCased_cons (c : Char) (cs : List Char) :
    nextIsCased (c :: cs) = if stopsSearch c then isCased c else nextIsCased cs := by
  cases h : isCaseIgnorable c <;> simp [nextIsCased, stopsSearch, h]

theorem nextIsCased_singleton (c : Char) : nextIsCased [c] = (stopsSearch c && isCased c) := by
  rw [nextIsCased_cons]
  cases stopsSearch c <;> rfl

theorem nextIsCased_append (cs ds : List Char) :
    nextIsCased (cs ++ ds) = if cs.any stopsSearch then nextIsCased cs else nextIsCased ds := by
  induction cs with
  | nil => simp
  | cons c rest ih =>
    rw [List.cons_append, nextIsCased_cons, nextIsCased_cons, List.any_cons, ih]
    cases stopsSearch c <;> simp

theorem any_stopsSearch_of_nextIsCased {cs : List Char} (h : nextIsCased cs = true) :
    cs.any stopsSearch = true := by
  cases hany : cs.any stopsSearch with
  | true => rfl
  | false =>
    have hnone := nextIsCased_append cs []
    rw [List.append_nil, h, hany] at hnone
    exact absurd hnone (by decide)

/-- A search through the whole ends as it does in the part, if it ends there at all. -/
def Foretells (part whole : List Char) : Prop :=
  part.any stopsSearch = true →
    whole.any stopsSearch = true ∧ nextIsCased whole = nextIsCased part

theorem foretells_append (part more : List Char) : Foretells part (part ++ more) := by
  intro h
  rw [List.any_append, h, nextIsCased_append, if_pos h]
  exact ⟨rfl, rfl⟩

theorem Foretells.nextIsCased {part whole : List Char} (h : Foretells part whole)
    (hpart : nextIsCased part = true) : nextIsCased whole = true := by
  rw [(h (any_stopsSearch_of_nextIsCased hpart)).2, hpart]

/-! ## Lower case between other texts -/

/-- The lower case of a capital sigma between two texts. -/
def sigmaForm (before after : List Char) : Char :=
  if nextIsCased before && !nextIsCased after then 'ς' else 'σ'

/-- The lower case of a text between two others, of which the first is read backwards. -/
def lowerWithin : List Char → List Char → List Char → List Char
  | _, [], _ => []
  | before, c :: rest, after =>
    lowerAt before c (rest ++ after) ++ lowerWithin (c :: before) rest after

theorem lowerAt_sigma (before after : List Char) :
    lowerAt before 'Σ' after = [sigmaForm before after] := by
  rw [lowerAt, if_pos rfl, sigmaForm]
  split <;> rfl

theorem lowerAt_of_ne {c : Char} (hc : c ≠ 'Σ') (before after : List Char) :
    lowerAt before c after = lowerChar c := by
  rw [lowerAt, if_neg hc]

theorem lowerFrom_eq_lowerWithin (before cs : List Char) :
    lowerFrom before cs = lowerWithin before cs [] := by
  induction cs generalizing before with
  | nil => rfl
  | cons c rest ih => rw [lowerFrom, lowerWithin, List.append_nil, ih]

theorem toList_lowercase (s : String) : (lowercase s).toList = lowerWithin [] s.toList [] := by
  rw [lowercase, String.toList_ofList, lowerFrom_eq_lowerWithin]

theorem lowerWithin_append (before cs ds after : List Char) :
    lowerWithin before (cs ++ ds) after =
      lowerWithin before cs (ds ++ after) ++ lowerWithin (cs.reverse ++ before) ds after := by
  induction cs generalizing before with
  | nil => rfl
  | cons c rest ih => simp [lowerWithin, ih]

theorem lowerWithin_sigma (before cs ds after : List Char) :
    lowerWithin before (cs ++ 'Σ' :: ds) after =
      lowerWithin before cs ('Σ' :: (ds ++ after)) ++
        sigmaForm (cs.reverse ++ before) (ds ++ after) ::
          lowerWithin ('Σ' :: (cs.reverse ++ before)) ds after := by
  rw [lowerWithin_append, lowerWithin, lowerAt_sigma]
  rfl

theorem lowerAt_of_lowered {c : Char} (hc : lowerChar c = [c]) (before after : List Char) :
    lowerAt before c after = [c] := by
  have hsigma : c ≠ 'Σ' := by
    rintro rfl
    exact absurd hc (by decide +kernel)
  rw [lowerAt_of_ne hsigma, hc]

theorem lowerWithin_of_lowered {cs : List Char} (h : ∀ c ∈ cs, lowerChar c = [c])
    (before after : List Char) : lowerWithin before cs after = cs := by
  induction cs generalizing before with
  | nil => rfl
  | cons c rest ih =>
    rw [lowerWithin, lowerAt_of_lowered (h c List.mem_cons_self),
      ih fun d hd => h d (List.mem_cons_of_mem c hd)]
    rfl

/-- What a capital sigma in an otherwise lowered text makes of it. -/
theorem lowerWithin_sigma_of_lowered {cs ds : List Char} (hcs : ∀ c ∈ cs, lowerChar c = [c])
    (hds : ∀ c ∈ ds, lowerChar c = [c]) (before after : List Char) :
    lowerWithin before (cs ++ 'Σ' :: ds) after =
      cs ++ sigmaForm (cs.reverse ++ before) (ds ++ after) :: ds := by
  rw [lowerWithin_sigma, lowerWithin_of_lowered hcs, lowerWithin_of_lowered hds]

theorem lowerChar_of_mem_lowerAt {before after : List Char} {c d : Char}
    (h : d ∈ lowerAt before c after) : lowerChar d = [d] := by
  by_cases hc : c = 'Σ'
  · rw [hc, lowerAt_sigma, List.mem_singleton, sigmaForm] at h
    subst h
    split <;> decide +kernel
  · rw [lowerAt_of_ne hc] at h
    exact lowerChar_of_mem_lowerChar h

theorem lowerChar_of_mem_lowerWithin {before cs after : List Char} {d : Char}
    (h : d ∈ lowerWithin before cs after) : lowerChar d = [d] := by
  induction cs generalizing before with
  | nil => exact absurd h List.not_mem_nil
  | cons c rest ih =>
    rw [lowerWithin, List.mem_append] at h
    cases h with
    | inl hhead => exact lowerChar_of_mem_lowerAt hhead
    | inr htail => exact ih htail

/-! ## Where surroundings make a difference -/

section Surroundings

variable (before after before' after' : List Char)

theorem length_lowerAt (c : Char) :
    (lowerAt before c after).length = (lowerAt before' c after').length := by
  by_cases hc : c = 'Σ'
  · rw [hc, lowerAt_sigma, lowerAt_sigma]
    rfl
  · rw [lowerAt_of_ne hc, lowerAt_of_ne hc]

theorem length_lowerWithin (cs : List Char) :
    (lowerWithin before cs after).length = (lowerWithin before' cs after').length := by
  induction cs generalizing before before' with
  | nil => rfl
  | cons c rest ih =>
    rw [lowerWithin, lowerWithin, List.length_append, List.length_append,
      length_lowerAt before _ before' (rest ++ after'), ih]

/-- **Two surroundings lower a text alike exactly if they lower each of its capital sigmas alike.** -/
theorem lowerWithin_eq_iff (cs : List Char) :
    lowerWithin before cs after = lowerWithin before' cs after' ↔
      ∀ p s, cs = p ++ 'Σ' :: s →
        sigmaForm (p.reverse ++ before) (s ++ after) =
          sigmaForm (p.reverse ++ before') (s ++ after') := by
  constructor
  · rintro h p s rfl
    rw [lowerWithin_sigma, lowerWithin_sigma] at h
    have htail := (List.append_inj h (length_lowerWithin _ _ _ _ p)).2
    exact (List.cons.inj htail).1
  · intro h
    induction cs generalizing before before' with
    | nil => rfl
    | cons c rest ih =>
      rw [lowerWithin, lowerWithin, ih (c :: before) (c :: before')]
      · congr 1
        by_cases hc : c = 'Σ'
        · have hfirst := h [] rest (by rw [hc]; rfl)
          rw [hc, lowerAt_sigma, lowerAt_sigma]
          exact congrArg (fun d => [d]) hfirst
        · rw [lowerAt_of_ne hc, lowerAt_of_ne hc]
      · intro p s hrest
        simpa using h (c :: p) s (by rw [hrest]; rfl)

/-- At a place where two lower cases of a text differ, a capital sigma stands in the text. -/
theorem getElem?_lowerWithin (cs : List Char) (k : Nat) :
    (lowerWithin before' cs after')[k]? = (lowerWithin before cs after)[k]? ∨
      ∃ p s, cs = p ++ 'Σ' :: s ∧ (lowerWithin before p ('Σ' :: (s ++ after))).length = k := by
  induction cs generalizing before before' k with
  | nil => exact .inl rfl
  | cons c rest ih =>
    have hlength := length_lowerAt before (rest ++ after) before' (rest ++ after') c
    rw [lowerWithin, lowerWithin]
    by_cases hk : k < (lowerAt before c (rest ++ after)).length
    · by_cases hc : c = 'Σ'
      · refine .inr ⟨[], rest, by rw [hc]; rfl, ?_⟩
        rw [hc, lowerAt_sigma, List.length_singleton] at hk
        rw [lowerWithin, List.length_nil]
        omega
      · left
        rw [List.getElem?_append_left hk, List.getElem?_append_left (by rwa [← hlength]),
          lowerAt_of_ne hc, lowerAt_of_ne hc]
    · rw [Nat.not_lt] at hk
      rw [List.getElem?_append_right hk, List.getElem?_append_right (by rwa [← hlength]), ← hlength]
      obtain hsame | ⟨p, s, rfl, hp⟩ :=
        ih (c :: before) (c :: before') (k - (lowerAt before c (rest ++ after)).length)
      · exact .inl hsame
      · refine .inr ⟨c :: p, s, rfl, ?_⟩
        rw [lowerWithin, List.length_append, hp]
        simp only [List.append_assoc, List.cons_append] at hk ⊢
        omega

end Surroundings

/-! ## Searches through a lowered text -/

section Searches

variable (before after : List Char)

/-- A character is lowered to one of its class, or it is the dotted capital I, of whose two characters
a search ends at the first. -/
theorem lowerAt_sameClass (c : Char) :
    (∃ d, lowerAt before c after = [d] ∧ SameClass c d) ∨
      c = 'İ' ∧ lowerAt before c after = ['i', '\u0307'] := by
  by_cases hc : c = 'Σ'
  · refine .inl ⟨sigmaForm before after, by rw [hc, lowerAt_sigma], ?_⟩
    rw [hc, sigmaForm]
    split <;> constructor <;> decide +kernel
  · rw [lowerAt_of_ne hc]
    by_cases hdotted : c = 'İ'
    · exact .inr ⟨hdotted, by rw [hdotted]; decide +kernel⟩
    · exact .inl (lowerChar_sameClass hdotted)

theorem any_stopsSearch_lowerAt (c : Char) :
    (lowerAt before c after).any stopsSearch = stopsSearch c := by
  obtain ⟨d, hd, hclass⟩ | ⟨rfl, hd⟩ := lowerAt_sameClass before after c
  · simp [hd, stopsSearch, hclass.ignorable]
  · rw [hd]
    decide +kernel

theorem any_stopsSearch_lowerWithin (cs : List Char) :
    (lowerWithin before cs after).any stopsSearch = cs.any stopsSearch := by
  induction cs generalizing before with
  | nil => rfl
  | cons c rest ih =>
    rw [lowerWithin, List.any_append, any_stopsSearch_lowerAt, ih, List.any_cons]

theorem nextIsCased_lowerAt (c : Char) : nextIsCased (lowerAt before c after) = nextIsCased [c] := by
  obtain ⟨d, hd, hclass⟩ | ⟨rfl, hd⟩ := lowerAt_sameClass before after c
  · simp only [hd, nextIsCased_singleton, stopsSearch, hclass.ignorable, hclass.cased]
  · rw [hd]
    decide +kernel

theorem nextIsCased_reverse_lowerAt (c : Char) :
    nextIsCased (lowerAt before c after).reverse = nextIsCased [c] := by
  obtain ⟨d, hd, hclass⟩ | ⟨rfl, hd⟩ := lowerAt_sameClass before after c
  · simp only [hd, List.reverse_singleton, nextIsCased_singleton, stopsSearch, hclass.ignorable,
      hclass.cased]
  · rw [hd]
    decide +kernel

theorem nextIsCased_lowerWithin (cs : List Char) :
    nextIsCased (lowerWithin before cs after) = nextIsCased cs := by
  induction cs generalizing before with
  | nil => rfl
  | cons c rest ih =>
    rw [lowerWithin, nextIsCased_append, any_stopsSearch_lowerAt, nextIsCased_lowerAt, ih,
      nextIsCased_singleton, nextIsCased_cons]
    cases stopsSearch c <;> simp

theorem nextIsCased_reverse_lowerWithin (cs : List Char) :
    nextIsCased (lowerWithin before cs after).reverse = nextIsCased cs.reverse := by
  induction cs generalizing before with
  | nil => rfl
  | cons c rest ih =>
    rw [lowerWithin, List.reverse_append, nextIsCased_append, List.any_reverse,
      any_stopsSearch_lowerWithin, ih, nextIsCased_reverse_lowerAt, List.reverse_cons,
      nextIsCased_append, List.any_reverse]

end Searches

/-! ## Sigmas that last -/

/-- Whether every capital sigma that is lowered to the given sigma where these texts are next to it is
lowered to it wherever more text is put around. Other characters last. -/
def lasting (c : Char) (before after : List Char) : Bool :=
  if c = 'σ' then before.any stopsSearch || nextIsCased after
  else if c = 'ς' then
    after.any stopsSearch || before.any stopsSearch && !nextIsCased before
  else true

variable {before after before' after' : List Char}

theorem lasting_of_foretells {c : Char} (h : lasting c before after = true)
    (hbefore : Foretells before before') (hafter : Foretells after after') :
    lasting c before' after' = true := by
  by_cases hmedial : c = 'σ'
  · rw [lasting, if_pos hmedial, Bool.or_eq_true] at h ⊢
    exact h.imp (fun hb => (hbefore hb).1) hafter.nextIsCased
  · by_cases hfinal : c = 'ς'
    · rw [lasting, if_neg hmedial, if_pos hfinal, Bool.or_eq_true, Bool.and_eq_true] at h ⊢
      refine h.imp (fun ha => (hafter ha).1) fun hb => ?_
      rw [(hbefore hb.1).2]
      exact ⟨(hbefore hb.1).1, hb.2⟩
    · rw [lasting, if_neg hmedial, if_neg hfinal]

theorem sigmaForm_eq_of_lasting (h : lasting (sigmaForm before after) before after = true)
    (hbefore : Foretells before before') (hafter : Foretells after after') :
    sigmaForm before' after' = sigmaForm before after := by
  cases hb : nextIsCased before <;> cases ha : nextIsCased after
  · have hmedial : sigmaForm before after = 'σ' := by simp [sigmaForm, hb]
    rw [hmedial, lasting, if_pos rfl, ha, Bool.or_false] at h
    simp [sigmaForm, hb, (hbefore h).2]
  · simp [sigmaForm, hb, hafter.nextIsCased ha]
  · have hfinal : sigmaForm before after = 'ς' := by simp [sigmaForm, hb, ha]
    rw [hfinal, lasting, if_neg (by decide), if_pos rfl, hb, Bool.not_true, Bool.and_false,
      Bool.or_false] at h
    simp [sigmaForm, hb, ha, hbefore.nextIsCased hb, (hafter h).2]
  · simp [sigmaForm, ha, hafter.nextIsCased ha]

theorem nextIsCased_append_of_cased {cs : List Char} {x : Char} (hx : nextIsCased [x] = true)
    (hcs : cs.any stopsSearch = true → nextIsCased cs = true) : nextIsCased (cs ++ [x]) = true := by
  rw [nextIsCased_append]
  split
  · exact hcs ‹_›
  · exact hx

theorem nextIsCased_eq_false {cs : List Char} (h : cs.any stopsSearch = false) :
    nextIsCased cs = false := by
  rw [← Bool.not_eq_true]
  intro hcased
  exact absurd (any_stopsSearch_of_nextIsCased hcased) (by rw [h]; decide)

/-- A medial sigma that does not last becomes final when a letter is put before it. -/
theorem medial_of_not_lasting {x y : Char} (hx : nextIsCased [x] = true)
    (hy : nextIsCased [y] = false) (h : lasting 'σ' before after = false) :
    sigmaForm before after = 'σ' ∧ sigmaForm (before ++ [x]) (after ++ [y]) = 'ς' := by
  rw [lasting, if_pos rfl, Bool.or_eq_false_iff] at h
  have hbefore : nextIsCased (before ++ [x]) = true :=
    nextIsCased_append_of_cased hx fun hb => absurd (h.1.symm.trans hb) (by decide)
  have hafter : nextIsCased (after ++ [y]) = false := by
    rw [nextIsCased_append, h.2, hy, ite_self]
  exact ⟨by simp [sigmaForm, nextIsCased_eq_false h.1], by simp [sigmaForm, hbefore, hafter]⟩

/-- A final sigma that does not last becomes medial when a letter is put after it. -/
theorem final_of_not_lasting {x y : Char} (hx : nextIsCased [x] = true)
    (hy : nextIsCased [y] = true) (h : lasting 'ς' before after = false) :
    sigmaForm (before ++ [x]) after = 'ς' ∧ sigmaForm (before ++ [x]) (after ++ [y]) = 'σ' := by
  rw [lasting, if_neg (by decide), if_pos rfl, Bool.or_eq_false_iff] at h
  have hbefore : nextIsCased (before ++ [x]) = true := by
    refine nextIsCased_append_of_cased hx fun hb => ?_
    simpa [hb] using h.2
  have hafter : nextIsCased (after ++ [y]) = true :=
    nextIsCased_append_of_cased hy fun ha => absurd (h.1.symm.trans ha) (by decide)
  exact ⟨by simp [sigmaForm, hbefore, nextIsCased_eq_false h.1], by simp [sigmaForm, hafter]⟩

theorem sigmaForm_cases (before after : List Char) :
    sigmaForm before after = 'σ' ∨ sigmaForm before after = 'ς' := by
  rw [sigmaForm]
  split
  · exact .inr rfl
  · exact .inl rfl

/-- There is a lower-case character, with or without a case, other than a given one. -/
theorem exists_lowered_ne (cased : Bool) (other : Option Char) :
    ∃ c, lowerChar c = [c] ∧ nextIsCased [c] = cased ∧ other ≠ some c := by
  have differs {c d : Char} (hcd : c ≠ d) (hc : ¬other ≠ some c) : other ≠ some d := by
    rw [Decidable.not_not] at hc
    rw [hc]
    exact fun he => hcd (Option.some.inj he)
  cases cased with
  | true =>
    by_cases ha : other ≠ some 'a'
    · exact ⟨'a', by decide +kernel, by decide +kernel, ha⟩
    · exact ⟨'b', by decide +kernel, by decide +kernel, differs (by decide) ha⟩
  | false =>
    by_cases h0 : other ≠ some '0'
    · exact ⟨'0', by decide +kernel, by decide +kernel, h0⟩
    · exact ⟨'1', by decide +kernel, by decide +kernel, differs (by decide) h0⟩

end SymbolRelay.Text
