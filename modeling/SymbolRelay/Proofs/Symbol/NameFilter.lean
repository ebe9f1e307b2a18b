import SymbolRelay.Symbol.Query
import SymbolRelay.Proofs.Text.FinalSigma

/-!
# The name filter and longer names

A filter and a name are compared in lower case, each lowered as a whole text. What a reader expects of
such a filter is that it finds a name that it is a part of, and that it finds every name that has a
part it finds. Both hold but for capital sigmas whose form depends on what is beyond the ends of the
text: at these the lower case of a part is not a part of the lower case of the whole.

## Results

* `occursIn_iff` — the search of the filter is a search for a part without a gap;
* `lowerWithin_of_sigmasLast`, `infix_lowerWithin_of_charsLast` — lower case commutes with taking
  parts, if the sigmas last;
* `exists_not_infix_of_not_sigmasLast`, `exists_not_infix_of_not_charsLast` — and only then;
* `sigmasLast_of_not_mem`, `charsLast_of_not_mem` — without sigmas there is nothing to change;
* `Query.accepts_longer_names_iff` — the exact filters for which each of the two expectations holds;
* `Query.word_missed_in_longer_one` — a filter that misses a name it is a part of.
-/

set_option autoImplicit false

namespace SymbolRelay

namespace Query

theorem occursIn_iff (part cs : List Char) : occursIn part cs = true ↔ part <:+: cs := by
  induction cs with
  | nil => simp [occursIn]
  | cons c rest ih =>
    rw [occursIn, Bool.or_eq_true, ih, List.isPrefixOf_iff_prefix, List.infix_cons_iff]

end Query

namespace Text

/-- Every capital sigma of a text is lowered as it is there wherever the text stands. -/
def SigmasLast (cs : List Char) : Prop :=
  ∀ p s, cs = p ++ 'Σ' :: s → lasting (sigmaForm p.reverse s) p.reverse s = true

/-- No capital sigma that is lowered to one of the sigmas of a text, where the text is part of the
lower case of a name, is lowered to the other one in a longer name. -/
def CharsLast (cs : List Char) : Prop :=
  ∀ p c s, cs = p ++ c :: s → lasting c p.reverse s = true

/-! ## Sigmas that last -/

theorem lowerWithin_infix (before cs after : List Char) :
    lowerWithin before.reverse cs after <:+: lowerWithin [] (before ++ cs ++ after) [] := by
  rw [lowerWithin_append, lowerWithin_append, List.append_nil, List.append_nil]
  exact List.infix_append _ _ _

theorem sigmasLast_of_not_mem {cs : List Char} (h : 'Σ' ∉ cs) : SigmasLast cs :=
  fun p _ hcs => absurd (hcs ▸ List.mem_append_right p List.mem_cons_self) h

theorem charsLast_of_not_mem {cs : List Char} (hmedial : 'σ' ∉ cs) (hfinal : 'ς' ∉ cs) :
    CharsLast cs := by
  rintro p c s rfl
  have hc : c ∈ p ++ c :: s := List.mem_append_right p List.mem_cons_self
  have hc_medial : c ≠ 'σ' := fun he => hmedial (he ▸ hc)
  have hc_final : c ≠ 'ς' := fun he => hfinal (he ▸ hc)
  rw [lasting, if_neg hc_medial, if_neg hc_final]

theorem lowerWithin_of_sigmasLast {cs : List Char} (h : SigmasLast cs) (before after : List Char) :
    lowerWithin before cs after = lowerWithin [] cs [] := by
  refine (lowerWithin_eq_iff before after [] [] cs).mpr fun p s hcs => ?_
  rw [List.append_nil, List.append_nil]
  exact sigmaForm_eq_of_lasting (h p s hcs) (foretells_append _ _) (foretells_append _ _)

/-- A search through a part of a lower case foretells the one through the text it is the case of. -/
theorem foretells_of_lowerWithin {before cs after part more : List Char}
    (h : lowerWithin before cs after = part ++ more) : Foretells part cs := by
  intro hpart
  have hfound := foretells_append part more hpart
  rwa [← h, any_stopsSearch_lowerWithin, nextIsCased_lowerWithin] at hfound

theorem foretells_reverse_of_lowerWithin {before cs after part more : List Char}
    (h : lowerWithin before cs after = more ++ part) : Foretells part.reverse cs.reverse := by
  intro hpart
  have hfound := foretells_append part.reverse more.reverse hpart
  rwa [← List.reverse_append, ← h, List.any_reverse, any_stopsSearch_lowerWithin,
    nextIsCased_reverse_lowerWithin, ← List.any_reverse] at hfound

/-- A character of a part whose sigmas last stands at its place in the lower case of every longer
text. -/
theorem getElem?_lowerWithin_of_charsLast {cs p s u v : List Char} {c : Char}
    (h : CharsLast (p ++ c :: s)) (hcs : lowerWithin [] cs [] = (u ++ p) ++ c :: (s ++ v))
    (before after : List Char) : (lowerWithin before cs after)[(u ++ p).length]? = some c := by
  obtain hsame | ⟨m, t, rfl, hm⟩ := getElem?_lowerWithin [] [] before after cs (u ++ p).length
  · rw [hsame, hcs, List.getElem?_append_right (Nat.le_refl _), Nat.sub_self,
      List.getElem?_cons_zero]
  · -- a capital sigma is lowered to the character, and what is around it was lowered to `p` and `s`
    rw [lowerWithin_sigma] at hcs
    obtain ⟨hbehind, hrest⟩ := List.append_inj hcs hm
    obtain ⟨hform, hahead⟩ := List.cons.inj hrest
    rw [List.append_nil, List.append_nil] at hform
    have hlasts : lasting (sigmaForm m.reverse t) m.reverse t = true := by
      rw [hform]
      exact lasting_of_foretells (h p c s rfl) (foretells_reverse_of_lowerWithin hbehind)
        (foretells_of_lowerWithin hahead)
    have hsigma := sigmaForm_eq_of_lasting hlasts (foretells_append _ before) (foretells_append _ after)
    have hplace : (lowerWithin before m ('Σ' :: (t ++ after))).length = (u ++ p).length := by
      rw [length_lowerWithin before _ [] ('Σ' :: (t ++ [])), hm]
    rw [lowerWithin_sigma, List.getElem?_append_right (Nat.le_of_eq hplace), hplace, Nat.sub_self,
      List.getElem?_cons_zero, hsigma, hform]

/-- **A part of a lower case whose sigmas last is a part of the lower case of every longer text.** -/
theorem infix_lowerWithin_of_charsLast {part cs : List Char} (h : CharsLast part)
    (hpart : part <:+: lowerWithin [] cs []) (before after : List Char) :
    part <:+: lowerWithin before cs after := by
  obtain ⟨u, v, huv⟩ := hpart
  have hplace (k : Nat) (hk : k < part.length) :
      (lowerWithin before cs after)[u.length + k]? = some part[k] := by
    have hsplit : part = part.take k ++ part[k] :: part.drop (k + 1) := by simp
    have hcs : lowerWithin [] cs [] =
        (u ++ part.take k) ++ part[k] :: (part.drop (k + 1) ++ v) := by
      rw [← huv]
      conv => lhs; rw [hsplit]
      simp only [List.append_assoc, List.cons_append]
    have hc := getElem?_lowerWithin_of_charsLast (hsplit ▸ h) hcs before after
    rwa [List.length_append, List.length_take_of_le (Nat.le_of_lt hk)] at hc
  have hmiddle : ((lowerWithin before cs after).drop u.length).take part.length = part := by
    refine List.ext_getElem? fun k => ?_
    by_cases hk : k < part.length
    · rw [List.getElem?_take_of_lt hk, List.getElem?_drop, hplace k hk, List.getElem?_eq_getElem hk]
    · rw [List.getElem?_eq_none (Nat.le_of_not_lt hk), List.getElem?_take_eq_none (Nat.le_of_not_lt hk)]
  rw [← hmiddle]
  exact (List.take_prefix _ _).isInfix.trans (List.drop_suffix _ _).isInfix

/-! ## Sigmas that do not last -/

/-- A text is not part of another one of its length that is framed by two characters with which it
does not begin and end. -/
theorem not_infix_framed {part whole : List Char} {x y : Char} (hlen : whole.length = part.length)
    (hne : whole ≠ part) (hx : part.head? ≠ some x) (hy : part.getLast? ≠ some y) :
    ¬part <:+: x :: (whole ++ [y]) := by
  rintro ⟨u, v, huv⟩
  have htotal := congrArg List.length huv
  simp only [List.length_append, List.length_cons, List.length_nil] at htotal
  cases u with
  | nil =>
    cases part with
    | nil => exact hne (List.eq_nil_of_length_eq_zero hlen)
    | cons d rest => exact hx (congrArg some (List.cons.inj huv).1)
  | cons a u =>
    cases v with
    | nil =>
      rw [List.append_nil, List.cons_append, List.cons.injEq] at huv
      have hend := congrArg List.getLast? huv.2
      rw [List.getLast?_append, List.getLast?_concat] at hend
      cases hpart : part.getLast? with
      | none =>
        rw [List.getLast?_eq_none_iff] at hpart
        exact hne (by rw [hpart] at hlen ⊢; exact List.eq_nil_of_length_eq_zero hlen)
      | some d =>
        rw [hpart, Option.some_or] at hend
        exact hy (hpart.trans hend)
    | cons b v =>
      -- the part is as long as what is framed, so before and behind it is the frame and nothing else
      simp only [List.length_cons] at htotal
      obtain rfl : u = [] := List.eq_nil_of_length_eq_zero (by omega)
      obtain rfl : v = [] := List.eq_nil_of_length_eq_zero (by omega)
      exact hne (List.append_inj_left' (List.cons.inj huv).2 rfl).symm

theorem lowerWithin_framed {x y : Char} (hx : lowerChar x = [x]) (hy : lowerChar y = [y])
    (cs : List Char) :
    lowerWithin [] (x :: (cs ++ [y])) [] = x :: (lowerWithin [x] cs [y] ++ [y]) := by
  rw [lowerWithin, lowerAt_of_lowered hx, lowerWithin_append, lowerWithin, lowerAt_of_lowered hy]
  rfl

/-- **A text with a capital sigma that does not last is part of a text whose lower case its own is not
part of.** -/
theorem exists_not_infix_of_not_sigmasLast {cs : List Char} (h : ¬SigmasLast cs) :
    ∃ before after, ¬lowerWithin [] cs [] <:+: lowerWithin [] (before ++ cs ++ after) [] := by
  simp only [SigmasLast, Classical.not_forall, Bool.not_eq_true] at h
  obtain ⟨p, s, hcs, hlast⟩ := h
  obtain ⟨x, hxlower, hxcased, hxfirst⟩ := exists_lowered_ne true (lowerWithin [] cs []).head?
  -- a medial sigma needs no letter behind the text, a final one does
  have hframe (cased : Bool) (hchange : ∀ y, nextIsCased [y] = cased →
      sigmaForm (p.reverse ++ [x]) (s ++ [y]) ≠ sigmaForm p.reverse s) :
      ∃ before after, ¬lowerWithin [] cs [] <:+: lowerWithin [] (before ++ cs ++ after) [] := by
    obtain ⟨y, hylower, hycased, hylast⟩ := exists_lowered_ne cased (lowerWithin [] cs []).getLast?
    refine ⟨[x], [y], ?_⟩
    rw [List.append_assoc, List.singleton_append, lowerWithin_framed hxlower hylower]
    refine not_infix_framed (length_lowerWithin _ _ _ _ cs) (fun hsame => ?_) hxfirst hylast
    have hforms := (lowerWithin_eq_iff _ _ _ _ cs).mp hsame p s hcs
    rw [List.append_nil, List.append_nil] at hforms
    exact hchange y hycased hforms
  cases sigmaForm_cases p.reverse s with
  | inl hmedial =>
    rw [hmedial] at hlast
    refine hframe false fun y hy => ?_
    rw [hmedial, (medial_of_not_lasting hxcased hy hlast).2]
    decide
  | inr hfinal =>
    rw [hfinal] at hlast
    refine hframe true fun y hy => ?_
    rw [hfinal, (final_of_not_lasting hxcased hy hlast).2]
    decide

/-- **A lower case with a sigma that does not last is part of the lower case of a text, but not of that
of a longer text.** The text has a capital sigma at the place of the sigma. -/
theorem exists_not_infix_of_not_charsLast {part : List Char}
    (hpart : ∀ c ∈ part, lowerChar c = [c]) (h : ¬CharsLast part) :
    ∃ before cs after, part <:+: lowerWithin [] cs [] ∧
      ¬part <:+: lowerWithin [] (before ++ cs ++ after) [] := by
  simp only [CharsLast, Classical.not_forall, Bool.not_eq_true] at h
  obtain ⟨p, c, s, rfl, hlast⟩ := h
  have hp : ∀ d ∈ p, lowerChar d = [d] := fun d hd => hpart d (List.mem_append_left _ hd)
  have hs : ∀ d ∈ s, lowerChar d = [d] := fun d hd =>
    hpart d (List.mem_append_right _ (List.mem_cons_of_mem c hd))
  obtain ⟨x, hxlower, hxcased, hxfirst⟩ := exists_lowered_ne true (p ++ c :: s).head?
  have hsigma (before after : List Char) := lowerWithin_sigma_of_lowered hp hs before after
  have hdiffers {d : Char} (hd : d ≠ c) {y : Char} (hy : (p ++ c :: s).getLast? ≠ some y) :
      ¬(p ++ c :: s) <:+: x :: ((p ++ d :: s) ++ [y]) := by
    refine not_infix_framed (by simp) (fun hsame => hd ?_) hxfirst hy
    exact (List.cons.inj (List.append_cancel_left hsame)).1
  by_cases hmedial : c = 'σ'
  · subst hmedial
    obtain ⟨y, hylower, hycased, hylast⟩ := exists_lowered_ne false (p ++ 'σ' :: s).getLast?
    obtain ⟨hform, hlonger⟩ := medial_of_not_lasting hxcased hycased hlast
    refine ⟨[x], p ++ 'Σ' :: s, [y], ?_, ?_⟩
    · simp only [hsigma, List.append_nil, hform, List.infix_rfl]
    · rw [List.append_assoc, List.singleton_append, lowerWithin_framed hxlower hylower, hsigma, hlonger]
      exact hdiffers (by decide) hylast
  · by_cases hfinal : c = 'ς'
    · subst hfinal
      obtain ⟨y, hylower, hycased, hylast⟩ := exists_lowered_ne true (p ++ 'ς' :: s).getLast?
      obtain ⟨hform, hlonger⟩ := final_of_not_lasting hxcased hycased hlast
      refine ⟨[], x :: (p ++ 'Σ' :: s), [y], ?_, ?_⟩
      · rw [lowerWithin, lowerAt_of_lowered hxlower, hsigma, List.append_nil, hform]
        exact (List.suffix_cons x _).isInfix
      · rw [List.nil_append, List.cons_append, lowerWithin_framed hxlower hylower, hsigma, hlonger]
        exact hdiffers (by decide) hylast
    · rw [lasting, if_neg hmedial, if_neg hfinal] at hlast
      exact absurd hlast (by decide)

end Text

/-! ## The filter -/

namespace Query

variable (q : Query) (filter : String) (symbol : Symbol)

theorem accepts_name_iff (name : String) :
    accepts { q with name := some filter } { symbol with name := name } = true ↔
      Text.lowerWithin [] filter.toList [] <:+: Text.lowerWithin [] name.toList [] := by
  rw [← Text.toList_lowercase, ← Text.toList_lowercase]
  exact occursIn_iff _ _

/-- **When the filter is a substring test.** Every name that a filter is a part of is accepted exactly
if every capital sigma of the filter is lowered alike wherever the filter stands. Every name that is
longer than an accepted one is accepted exactly if the sigmas of the lower-case filter last: no capital
sigma that may be lowered to one of them at its place is lowered differently in a longer name. -/
theorem accepts_longer_names_iff :
    ((∀ before after, accepts { q with name := some filter }
        { symbol with name := before ++ filter ++ after } = true) ↔
      Text.SigmasLast filter.toList) ∧
    ((∀ name, accepts { q with name := some filter } { symbol with name := name } = true →
        ∀ before after, accepts { q with name := some filter }
          { symbol with name := before ++ name ++ after } = true) ↔
      Text.CharsLast (Text.lowercase filter).toList) := by
  simp only [accepts_name_iff, Text.toList_lowercase, String.toList_append]
  refine ⟨⟨fun h => ?_, fun h before after => ?_⟩, fun h => ?_, fun h name hname before after => ?_⟩
  · by_cases hlast : Text.SigmasLast filter.toList
    · exact hlast
    · obtain ⟨before, after, hmissed⟩ := Text.exists_not_infix_of_not_sigmasLast hlast
      have hfound := h (String.ofList before) (String.ofList after)
      rw [String.toList_ofList, String.toList_ofList] at hfound
      exact absurd hfound hmissed
  · have hpart := Text.lowerWithin_infix before.toList filter.toList after.toList
    rwa [Text.lowerWithin_of_sigmasLast h] at hpart
  · by_cases hlast : Text.CharsLast (Text.lowerWithin [] filter.toList [])
    · exact hlast
    · obtain ⟨before, cs, after, hfound, hmissed⟩ :=
        Text.exists_not_infix_of_not_charsLast (fun _ => Text.lowerChar_of_mem_lowerWithin) hlast
      have hlonger := h (String.ofList cs) (by rwa [String.toList_ofList]) (String.ofList before)
        (String.ofList after)
      rw [String.toList_ofList, String.toList_ofList, String.toList_ofList] at hlonger
      exact absurd hlonger hmissed
  · exact (Text.infix_lowerWithin_of_charsLast h hname before.toList.reverse after.toList).trans
      (Text.lowerWithin_infix before.toList name.toList after.toList)

/-- A symbol that differs from others of its kind in the name alone. -/
def titled (name : String) : Symbol :=
  { id := 1, name, code := "ODOS", createdAt := Time.epoch, updatedAt := Time.epoch }

/-- A filter finds a name and misses a longer one that it is a part of: its last sigma is final in the
name, and not in the longer one. -/
theorem word_missed_in_longer_one :
    accepts { name := some "ΟΔΟΣ" } (titled "ΟΔΟΣ") = true ∧
      "ΟΔΟΣΑ" = "" ++ "ΟΔΟΣ" ++ "Α" ∧
      accepts { name := some "ΟΔΟΣ" } (titled "ΟΔΟΣΑ") = false := by
  decide +kernel

end Query

end SymbolRelay
