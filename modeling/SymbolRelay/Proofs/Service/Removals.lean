import SymbolRelay.Proofs.Service.Alone
import SymbolRelay.Proofs.Service.Atomicity
import SymbolRelay.Proofs.Store.LostWrites
import SymbolRelay.Standin.Compact
import SymbolRelay.Standin.NumberedIds

/-!
# Symbols that were removed

The steps of all calls, in the order in which they were taken, carry the committed rows from one state to
the next. A symbol that was removed should stay so, and be removed by one call only. Both fail in the
same way: a call commits a change or a removal of a row that is gone by then.

## Results

* `chronicle_run` — what was committed so far, and for which rows, after any moves;
* `rows_gone_for_good_iff` — no removed symbol comes back and none is removed by two calls exactly if no
  call commits a write to a row that is gone; and when the store lets such a write pass.
-/

set_option autoImplicit false

namespace SymbolRelay

variable {ξ : Type}

/-! ## Rows from step to step -/

/-- Whether steps carry the rows from one state to another, each from where the one before left them. -/
def Linked (first : Table Int64 Symbol) : List (Deed ξ) → Table Int64 Symbol → Prop
  | [], last => last = first
  | d :: ds, last => d.before.store.rows = first ∧ Linked d.after.store.rows ds last

namespace Linked

variable {first last : Table Int64 Symbol} {xs ys : List (Deed ξ)} {d : Deed ξ}

theorem append_iff :
    Linked first (xs ++ ys) last ↔ ∃ middle, Linked first xs middle ∧ Linked middle ys last := by
  induction xs generalizing first with
  | nil =>
    constructor
    · exact fun h => ⟨first, rfl, h⟩
    · rintro ⟨_, rfl, h⟩
      exact h
  | cons d xs ih =>
    simp only [List.cons_append, Linked, ih]
    constructor
    · rintro ⟨hd, middle, hxs, hys⟩
      exact ⟨middle, ⟨hd, hxs⟩, hys⟩
    · rintro ⟨middle, ⟨hd, hxs⟩, hys⟩
      exact ⟨hd, middle, hxs, hys⟩

theorem snoc (h : Linked first xs d.before.store.rows) :
    Linked first (xs ++ [d]) d.after.store.rows :=
  append_iff.mpr ⟨d.before.store.rows, h, rfl, rfl⟩

theorem split (h : Linked first (xs ++ d :: ys) last) :
    Linked first xs d.before.store.rows ∧ Linked d.after.store.rows ys last := by
  obtain ⟨middle, hxs, rfl, hys⟩ := append_iff.mp h
  exact ⟨hxs, hys⟩

/-- What comes to hold of the rows does so in some step first. -/
theorem crossing {p : Table Int64 Symbol → Prop} (h : Linked first xs last) (hfirst : ¬ p first)
    (hlast : p last) :
    ∃ as d bs, xs = as ++ d :: bs ∧ ¬ p d.before.store.rows ∧ p d.after.store.rows ∧
      ∀ e ∈ as, ¬ p e.before.store.rows := by
  induction xs generalizing first with
  | nil =>
    cases h
    exact absurd hlast hfirst
  | cons d xs ih =>
    obtain ⟨hd, hrest⟩ := h
    have hbefore : ¬ p d.before.store.rows := by
      rw [hd]
      exact hfirst
    by_cases hafter : p d.after.store.rows
    · exact ⟨[], d, xs, rfl, hbefore, hafter, fun e he => nomatch he⟩
    · obtain ⟨as, e, bs, rfl, hb, ha, hall⟩ := ih hrest hafter
      refine ⟨d :: as, e, bs, rfl, hb, ha, fun f hf => ?_⟩
      rcases List.mem_cons.mp hf with rfl | hf
      · exact hbefore
      · exact hall f hf

end Linked

/-- A list with one more element at its end, split somewhere. -/
theorem split_snoc {α : Type} {as bs zs : List α} {a z : α} (h : zs ++ [z] = as ++ a :: bs) :
    (bs = [] ∧ as = zs ∧ a = z) ∨ ∃ cs, bs = cs ++ [z] ∧ zs = as ++ a :: cs := by
  rcases List.eq_nil_or_concat bs with rfl | ⟨cs, b, rfl⟩
  · obtain ⟨has, ha⟩ := List.append_inj' h rfl
    cases ha
    exact .inl ⟨rfl, has.symm, rfl⟩
  · rw [List.concat_eq_append, ← List.cons_append, ← List.append_assoc] at h
    obtain ⟨hzs, hz⟩ := List.append_inj' h rfl
    cases hz
    exact .inr ⟨cs, List.concat_eq_append, hzs⟩

namespace Traffic

/-- What a step has committed: the write of its caller, which found its row there when it was staged. -/
structure Committed (t : Traffic ξ) (earlier : List (Deed ξ)) (d : Deed ξ) (c : Caller)
    (written : Symbol) : Prop where
  caller : t.callers[d.caller]? = some c
  ended : c.call = .ended (.ok written)
  rows : d.after.store.rows =
    Store.applyWrite d.before.store.rows written.id (c.what.leaves written)
  seen : c.what.kind ≠ .created → ∃ e ∈ earlier, e.before.store.rows.get? written.id ≠ none

/-- What the steps so far have done to the rows. -/
structure Chronicle [BinaryFormat] (start : World ξ) (t : Traffic ξ) : Prop where
  lawful : Lawful start t
  linked : Linked start.store.rows t.deeds t.world.store.rows
  staged : ∀ (k : Nat) (c : Caller) (written : Symbol), t.callers[k]? = some c →
    c.call.written? = some written → c.what.kind ≠ .created →
      ∃ e ∈ t.deeds, e.before.store.rows.get? written.id ≠ none
  committed : ∀ as d bs, t.deeds = as ++ d :: bs → d.commits = true →
    ∃ c written, t.Committed as d c written

namespace Chronicle

variable {codec : Codec} {validator : Symbol → Except ValidationError Unit} {start : World ξ}
  {t : Traffic ξ}

theorem atStart [BinaryFormat] (h : AtRest start.store) : Chronicle start { world := start } where
  lawful := .atStart h
  linked := rfl
  staged := fun _ _ _ hn => by cases hn
  committed := fun as d bs hn => by
    have hlen := congrArg List.length hn
    simp at hlen

theorem call [BinaryFormat] (h : Chronicle start t) (s : SymbolService ξ Transaction) (ctx : Context)
    (what : Write) :
    Chronicle start (t.move s (.call ctx what)) where
  lawful := h.lawful.call s ctx what
  linked := h.linked
  staged := by
    intro k c written hc hw
    rcases callers_call hc with hc | ⟨_, rfl⟩
    · exact h.staged k c written hc hw
    · cases (Alone.written?_start s what).symm.trans hw
  committed := by
    intro as d bs hsplit hcommits
    obtain ⟨c, written, hcommitted⟩ := h.committed as d bs hsplit hcommits
    refine ⟨c, written, ?_, hcommitted.ended, hcommitted.rows, hcommitted.seen⟩
    exact List.getElem?_append_left (List.getElem?_eq_some_iff.mp hcommitted.caller).1 ▸
      hcommitted.caller

theorem disturb [BinaryFormat] (h : Chronicle start t) (disturbance : Disturbance) :
    Chronicle start { t with world := disturbance.act t.world } where
  lawful := h.lawful.disturb disturbance
  linked := by cases disturbance <;> exact h.linked
  staged := h.staged
  committed := fun as d bs hsplit hcommits => by
    obtain ⟨c, written, hcommitted⟩ := h.committed as d bs hsplit hcommits
    exact ⟨c, written, ⟨hcommitted.caller, hcommitted.ended, hcommitted.rows, hcommitted.seen⟩⟩

theorem step [BinaryFormat] [IdSource] (h : Chronicle start t) {k : Nat} {c : Caller}
    (hc : t.callers[k]? = some c) {call : Call Transaction} {world : World ξ}
    (hs : SymbolService.StepsTo codec c.ctx c.call t.world call world) :
    Chronicle start
      ⟨world, t.callers.set k { c with call }, t.deeds ++ [⟨k, t.world, world⟩]⟩ where
  lawful := h.lawful.step hc hs
  linked := Linked.snoc (d := ⟨k, t.world, world⟩) h.linked
  staged := by
    intro j c' written hj hw hkind
    rcases callers_set hj with ⟨rfl, rfl⟩ | ⟨_, hj⟩
    · rcases hs.fits (h.lawful.standing j c hc) hw with hold | ⟨_, hfits, _⟩
      · obtain ⟨e, he, hrow⟩ := h.staged j c written hc hold hkind
        exact ⟨e, List.mem_append_left _ he, hrow⟩
      · refine ⟨⟨j, t.world, world⟩, List.mem_append_right _ (List.mem_singleton_self _), ?_⟩
        show t.world.store.rows.get? written.id ≠ none
        obtain ⟨row, hrow⟩ := hfits.row hkind
        rw [hrow]
        exact Option.some_ne_none row
    · obtain ⟨e, he, hrow⟩ := h.staged j c' written hj hw hkind
      exact ⟨e, List.mem_append_left _ he, hrow⟩
  committed := by
    intro as d bs hsplit hcommits
    obtain ⟨hk, _⟩ := List.getElem?_eq_some_iff.mp hc
    rcases split_snoc hsplit with ⟨_, rfl, rfl⟩ | ⟨cs, _, hold⟩
    · -- The step that was taken now.
      rcases hs.rows_cases (h.lawful.standing k c hc) with ⟨_, hsame, _⟩ |
        ⟨written, u, hleave, hended, hrows, _⟩
      · cases (Deed.commits_eq_false hsame).symm.trans hcommits
      · refine ⟨{ c with call }, written, List.getElem?_set_self hk, hended, hrows, fun hkind => ?_⟩
        exact h.staged k c written hc (by rw [hleave]; rfl) hkind
    · obtain ⟨c', written, hcommitted⟩ := h.committed as d cs hold hcommits
      by_cases hdk : d.caller = k
      · have hcc : c' = c := Option.some.inj (hcommitted.caller.symm.trans (hdk ▸ hc))
        have hended := hcommitted.ended
        rw [hcc] at hended
        rw [hended] at hs
        cases hs
        refine ⟨{ c with call := .ended (.ok written) }, written, ?_, rfl, ?_, ?_⟩
        · rw [hdk]
          exact List.getElem?_set_self hk
        · exact hcc ▸ hcommitted.rows
        · exact hcc ▸ hcommitted.seen
      · refine ⟨c', written, ?_, hcommitted.ended, hcommitted.rows, hcommitted.seen⟩
        show (t.callers.set k { c with call })[d.caller]? = some c'
        rw [List.getElem?_set_ne (Ne.symm hdk)]
        exact hcommitted.caller

end Chronicle

/-! ## What may go wrong -/

/-- Whether a step has committed a change or a removal of a row that was gone. -/
def Lost (t : Traffic ξ) (d : Deed ξ) : Prop :=
  d.commits = true ∧ ∃ c written, t.callers[d.caller]? = some c ∧ c.call = .ended (.ok written) ∧
    c.what.kind ≠ .created ∧ d.before.store.rows.get? written.id = none

/-- Whether a step has committed the removal of a symbol. -/
def Removes (t : Traffic ξ) (d : Deed ξ) (id : Int64) : Prop :=
  d.commits = true ∧ ∃ c written, t.callers[d.caller]? = some c ∧ c.call = .ended (.ok written) ∧
    c.what.kind = .deleted ∧ written.id = id

/-- Whether a symbol was among the rows again after a step had removed it. -/
def Reappears (t : Traffic ξ) (id : Int64) : Prop :=
  ∃ as d bs e cs, t.deeds = as ++ d :: (bs ++ e :: cs) ∧ d.before.store.rows.get? id ≠ none ∧
    d.after.store.rows.get? id = none ∧ e.after.store.rows.get? id ≠ none

/-- Whether a call that ended well has told that a symbol was removed. -/
def TellsRemoval [BinaryFormat] (t : Traffic ξ) (k : Nat) (id : Int64) : Prop :=
  ∃ c written m name code at_, t.callers[k]? = some c ∧ c.call = .ended (.ok written) ∧
    (EventKind.deleted.topic, m) ∈ t.told k ∧ Event.decode m = .ok (.deleted id name code at_)

/-- Whether two calls that ended well have told that a symbol was removed. -/
def RemovedTwice [BinaryFormat] (t : Traffic ξ) (id : Int64) : Prop :=
  ∃ j k, j ≠ k ∧ t.TellsRemoval j id ∧ t.TellsRemoval k id

theorem Removes.lost {t : Traffic ξ} {d : Deed ξ} {id : Int64} (removes : t.Removes d id)
    (hgone : d.before.store.rows.get? id = none) :
    t.Lost d := by
  obtain ⟨hcommits, c, written, hc, hended, hkind, rfl⟩ := removes
  refine ⟨hcommits, c, written, hc, hended, ?_, hgone⟩
  rw [hkind]
  decide

theorem Lawful.tellsRemoval_iff [BinaryFormat] {start : World ξ} {t : Traffic ξ} (h : Lawful start t)
    {k : Nat} {c : Caller} (hc : t.callers[k]? = some c) {written : Symbol}
    (hended : c.call = .ended (.ok written)) (id : Int64) :
    t.TellsRemoval k id ↔ c.what.kind = .deleted ∧ written.id = id := by
  obtain ⟨m, htold, now, hdecode⟩ := (h.carriedOut hc hended).told
  constructor
  · rintro ⟨_, _, m', name, code, at_, _, _, hmem, hdecode'⟩
    rw [htold, List.mem_singleton] at hmem
    obtain ⟨htopic, rfl⟩ := Prod.mk.inj hmem
    have hevent := Except.ok.inj (hdecode.symm.trans hdecode')
    have hid := congrArg Event.symbolId hevent
    rw [Event.symbolId_ofSymbol] at hid
    exact ⟨(EventKind.topic_injective htopic).symm, hid⟩
  · rintro ⟨hkind, rfl⟩
    rw [hkind] at htold hdecode
    refine ⟨c, written, m, written.name, written.code, now, hc, hended, ?_, hdecode⟩
    rw [htold]
    exact List.mem_singleton_self _

namespace Committed

variable {t : Traffic ξ} {as : List (Deed ξ)} {d : Deed ξ} {c : Caller} {written : Symbol} {id : Int64}

/-- A step that changes what is under an id has written it. -/
theorem id_eq (h : t.Committed as d c written)
    (hne : d.after.store.rows.get? id ≠ d.before.store.rows.get? id) : id = written.id := by
  refine Classical.byContradiction fun hid => hne ?_
  rw [h.rows, Store.get?_applyWrite, if_neg hid]

/-- A removal leaves no row. -/
theorem after_eq_none (h : t.Committed as d c written) (hkind : c.what.kind = .deleted) :
    d.after.store.rows.get? written.id = none := by
  rw [h.rows, Store.get?_applyWrite, if_pos rfl]
  cases hwhat : c.what with
  | create _ | update _ =>
    rw [hwhat] at hkind
    cases hkind
  | delete _ => rfl

/-- Anything else leaves what it wrote. -/
theorem after_ne_none (h : t.Committed as d c written) (hkind : c.what.kind ≠ .deleted) :
    d.after.store.rows.get? written.id ≠ none := by
  rw [h.rows, Store.get?_applyWrite, if_pos rfl]
  cases hwhat : c.what with
  | create _ | update _ => exact Option.some_ne_none written
  | delete _ =>
    rw [hwhat] at hkind
    exact absurd rfl hkind

end Committed

namespace Chronicle

variable {start : World ξ} {t : Traffic ξ} {as bs cs : List (Deed ξ)} {d e : Deed ξ} {id : Int64}

/-- A step that changes what is under an id has committed the write of its caller there. -/
theorem committed_of_ne [BinaryFormat] (h : Chronicle start t) (hsplit : t.deeds = as ++ d :: bs)
    (hne : d.after.store.rows.get? id ≠ d.before.store.rows.get? id) :
    d.commits = true ∧ ∃ c written, t.Committed as d c written ∧ written.id = id := by
  have hcommits : d.commits = true := by
    refine Classical.byContradiction fun hno => hne ?_
    have hmem : d ∈ t.deeds := by
      rw [hsplit]
      exact List.mem_append_right _ List.mem_cons_self
    rw [h.lawful.rows d hmem (Bool.eq_false_iff.mpr hno)]
  obtain ⟨c, written, hcommitted⟩ := h.committed as d bs hsplit hcommits
  exact ⟨hcommits, c, written, hcommitted, (hcommitted.id_eq hne).symm⟩

/-- If some steps have changed what is under an id, one of them has committed a write there. -/
theorem exists_committed_of_ne [BinaryFormat] (h : Chronicle start t) (hsplit : t.deeds = as ++ (bs ++ cs))
    {first last : Table Int64 Symbol} (linked : Linked first bs last) (hne : last.get? id ≠ first.get? id) :
    ∃ xs d ys c written, bs = xs ++ d :: ys ∧ d.commits = true ∧ t.Committed (as ++ xs) d c written ∧
      written.id = id := by
  obtain ⟨xs, d, ys, rfl, hbefore, hafter, _⟩ :=
    linked.crossing (p := fun rows => rows.get? id ≠ first.get? id) (fun hn => hn rfl) hne
  have hsplit' : t.deeds = (as ++ xs) ++ d :: (ys ++ cs) := by
    rw [hsplit]
    simp
  have hchanged : d.after.store.rows.get? id ≠ d.before.store.rows.get? id := fun hsame =>
    hafter (hsame.trans (Classical.not_not.mp hbefore))
  obtain ⟨hcommits, c, written, hcommitted, hid⟩ := h.committed_of_ne hsplit' hchanged
  exact ⟨xs, d, ys, c, written, rfl, hcommits, hcommitted, hid⟩

/-- A call commits only once. -/
theorem caller_ne [BinaryFormat] (h : Chronicle start t) (hsplit : t.deeds = as ++ d :: (bs ++ e :: cs))
    (hd : d.commits = true) (he : e.commits = true) : d.caller ≠ e.caller := by
  intro hcaller
  obtain ⟨c, written, hcommitted⟩ := h.committed as d _ hsplit hd
  obtain ⟨only, honly, _⟩ := (h.lawful.carriedOut hcommitted.caller hcommitted.ended).applied
  have hlength := congrArg List.length honly
  simp only [commits, deedsOf, hsplit, List.filter_append, List.filter_cons, hcaller, hd, he,
    decide_true, if_true, List.length_append, List.length_cons, List.length_nil] at hlength
  omega

theorem mem_issued [BinaryFormat] (h : Chronicle start t) {c : Caller} {written : Symbol}
    (hcommitted : t.Committed as d c written) (hkind : c.what.kind = .created) :
    written.id ∈ (t.deedsOf d.caller).flatMap Deed.issued := by
  have hstanding := h.lawful.standing d.caller c hcommitted.caller
  rw [hcommitted.ended] at hstanding
  obtain ⟨_, _, _, _, _, hdoings, _⟩ := hstanding
  rw [hdoings.issued]
  cases hwhat : c.what with
  | create _ => exact List.mem_singleton_self _
  | update _ | delete _ =>
    rw [hwhat] at hkind
    cases hkind

/-- A symbol that is there was created, if there was none at the start. -/
theorem created_of_row [BinaryFormat] (h : Chronicle start t) (empty : start.store.rows = Table.empty)
    (hsplit : t.deeds = as ++ d :: bs) (hrow : d.before.store.rows.get? id ≠ none) :
    ∃ xs e ys c written, as = xs ++ e :: ys ∧ e.commits = true ∧ t.Committed xs e c written ∧
      c.what.kind = .created ∧ written.id = id := by
  have hlinked := h.linked
  rw [hsplit] at hlinked
  obtain ⟨xs, e, ys, rfl, hbefore, hafter, hearlier⟩ :=
    hlinked.split.1.crossing (p := fun rows => rows.get? id ≠ none)
      (by rw [empty]; exact fun hn => hn rfl) hrow
  have hbefore := Classical.not_not.mp hbefore
  have hsplit' : t.deeds = xs ++ e :: (ys ++ d :: bs) := by
    rw [hsplit, List.append_assoc, List.cons_append]
  have hne : e.after.store.rows.get? id ≠ e.before.store.rows.get? id := by
    rw [hbefore]
    exact hafter
  obtain ⟨hcommits, c, written, hcommitted, rfl⟩ := h.committed_of_ne hsplit' hne
  refine ⟨xs, e, ys, c, written, rfl, hcommits, hcommitted, ?_, rfl⟩
  refine Classical.byContradiction fun hkind => ?_
  obtain ⟨f, hf, hseen⟩ := hcommitted.seen hkind
  exact hearlier f hf hseen

/-- **What comes back after it was there is put back by a write to a row that is gone.** -/
theorem lost_of_crossing [BinaryFormat] (h : Chronicle start t) (empty : start.store.rows = Table.empty)
    {m : Nat} (numbered : Numbered start.store.nextId t m) (few : t.callers.length ≤ 2 ^ 64)
    (hsplit : t.deeds = as ++ d :: (bs ++ e :: cs)) (hrow : d.before.store.rows.get? id ≠ none)
    (hbefore : e.before.store.rows.get? id = none) (hafter : e.after.store.rows.get? id ≠ none) :
    t.Lost e := by
  have hsplit' : t.deeds = (as ++ d :: bs) ++ e :: cs := by
    rw [hsplit, List.append_assoc, List.cons_append]
  have hne : e.after.store.rows.get? id ≠ e.before.store.rows.get? id := by
    rw [hbefore]
    exact hafter
  obtain ⟨hcommits, c, written, hcommitted, hid⟩ := h.committed_of_ne hsplit' hne
  have hgone : e.before.store.rows.get? written.id = none := by
    rw [hid]
    exact hbefore
  refine ⟨hcommits, c, written, hcommitted.caller, hcommitted.ended, fun hkind => ?_, hgone⟩
  -- Had it been created now, its id would have been given to two calls.
  obtain ⟨xs, f, ys, c', written', rfl, hf, hcommitted', hkind', hid'⟩ :=
    h.created_of_row empty hsplit hrow
  have hsplit'' : t.deeds = xs ++ f :: ((ys ++ d :: bs) ++ e :: cs) := by
    rw [hsplit]
    simp
  have hcaller : f.caller ≠ e.caller := h.caller_ne hsplit'' hf hcommits
  have hissued := h.mem_issued hcommitted' hkind'
  have hissued' := h.mem_issued hcommitted hkind
  rw [hid'] at hissued
  rw [hid] at hissued'
  exact numbered.ids_disjoint few hcaller hissued hissued'

/-- A row that went and is there again was put back by a write to a row that is gone. -/
theorem exists_lost_of_back [BinaryFormat] (h : Chronicle start t) (empty : start.store.rows = Table.empty)
    {m : Nat} (numbered : Numbered start.store.nextId t m) (few : t.callers.length ≤ 2 ^ 64)
    (hsplit : t.deeds = as ++ d :: (bs ++ cs)) (hrow : d.before.store.rows.get? id ≠ none)
    (hgone : d.after.store.rows.get? id = none) {last : Table Int64 Symbol}
    (hto : Linked d.after.store.rows bs last) (hback : last.get? id ≠ none) :
    ∃ d ∈ t.deeds, t.Lost d := by
  obtain ⟨xs, f, ys, rfl, hbefore, hafter, _⟩ :=
    hto.crossing (p := fun rows => rows.get? id ≠ none) (fun hn => hn hgone) hback
  rw [List.append_assoc, List.cons_append] at hsplit
  refine ⟨f, ?_, h.lost_of_crossing empty numbered few hsplit hrow (Classical.not_not.mp hbefore) hafter⟩
  rw [hsplit]
  simp

/-- A removed symbol that comes back is put back by a write to a row that is gone. -/
theorem exists_lost_of_reappears [BinaryFormat] (h : Chronicle start t)
    (empty : start.store.rows = Table.empty) {m : Nat} (numbered : Numbered start.store.nextId t m)
    (few : t.callers.length ≤ 2 ^ 64) (back : t.Reappears id) : ∃ d ∈ t.deeds, t.Lost d := by
  obtain ⟨as, d, bs, e, cs, hsplit, hrow, hgone, hback⟩ := back
  have hlinked := h.linked
  rw [hsplit] at hlinked
  have hto : Linked d.after.store.rows (bs ++ [e]) e.after.store.rows := hlinked.split.2.split.1.snoc
  have hsplit' : t.deeds = as ++ d :: ((bs ++ [e]) ++ cs) := by
    rw [hsplit, List.append_assoc]
    rfl
  exact h.exists_lost_of_back empty numbered few hsplit' hrow hgone hto hback

theorem after_eq_none_of_removes [BinaryFormat] (h : Chronicle start t) (hsplit : t.deeds = as ++ d :: bs)
    (removes : t.Removes d id) : d.after.store.rows.get? id = none := by
  obtain ⟨hcommits, c, written, hc, hended, hkind, rfl⟩ := removes
  obtain ⟨c', written', hcommitted⟩ := h.committed as d bs hsplit hcommits
  obtain rfl := Option.some.inj (hc.symm.trans hcommitted.caller)
  cases hended.symm.trans hcommitted.ended
  exact hcommitted.after_eq_none hkind

/-- A call that has told of a removal has committed it. -/
theorem exists_removes [BinaryFormat] (h : Chronicle start t) {k : Nat} (tells : t.TellsRemoval k id) :
    ∃ d ∈ t.deeds, d.caller = k ∧ t.Removes d id := by
  have tells' := tells
  obtain ⟨c, written, _, _, _, _, hc, hended, _⟩ := tells'
  obtain ⟨hkind, hid⟩ := (h.lawful.tellsRemoval_iff hc hended id).mp tells
  obtain ⟨d, hd, _⟩ := (h.lawful.carriedOut hc hended).applied
  have hmem : d ∈ t.commits k := by
    rw [hd]
    exact List.mem_singleton_self d
  obtain ⟨hdeeds, hcommits⟩ := List.mem_filter.mp hmem
  obtain ⟨hdeed, rfl⟩ := Lawful.mem_deedsOf.mp hdeeds
  exact ⟨d, hdeed, rfl, hcommits, c, written, hc, hended, hkind, hid⟩

/-- Of two removals of a symbol, one finds the row gone, unless it had come back. -/
theorem exists_lost_of_removes [BinaryFormat] (h : Chronicle start t)
    (empty : start.store.rows = Table.empty) {m : Nat} (numbered : Numbered start.store.nextId t m)
    (few : t.callers.length ≤ 2 ^ 64) (hsplit : t.deeds = as ++ d :: (bs ++ e :: cs)) (hd : t.Removes d id)
    (he : t.Removes e id) :
    ∃ d ∈ t.deeds, t.Lost d := by
  by_cases hrowd : d.before.store.rows.get? id = none
  · refine ⟨d, ?_, hd.lost hrowd⟩
    rw [hsplit]
    simp
  by_cases hrowe : e.before.store.rows.get? id = none
  · refine ⟨e, ?_, he.lost hrowe⟩
    rw [hsplit]
    simp
  -- The row was there, went, and was there again.
  have hlinked := h.linked
  rw [hsplit] at hlinked
  exact h.exists_lost_of_back empty numbered few hsplit hrowd (h.after_eq_none_of_removes hsplit hd)
    hlinked.split.2.split.1 hrowe

theorem exists_lost_of_removedTwice [BinaryFormat] (h : Chronicle start t)
    (empty : start.store.rows = Table.empty) {m : Nat} (numbered : Numbered start.store.nextId t m)
    (few : t.callers.length ≤ 2 ^ 64) (twice : t.RemovedTwice id) : ∃ d ∈ t.deeds, t.Lost d := by
  obtain ⟨j, k, hjk, hj, hk⟩ := twice
  obtain ⟨d, hd, rfl, removes⟩ := h.exists_removes hj
  obtain ⟨e, he, rfl, removes'⟩ := h.exists_removes hk
  obtain ⟨as, bs, hsplit⟩ := List.append_of_mem hd
  rw [hsplit, List.mem_append, List.mem_cons] at he
  rcases he with he | rfl | he
  · obtain ⟨xs, ys, rfl⟩ := List.append_of_mem he
    rw [List.append_assoc, List.cons_append] at hsplit
    exact h.exists_lost_of_removes empty numbered few hsplit removes' removes
  · exact absurd rfl hjk
  · obtain ⟨xs, ys, rfl⟩ := List.append_of_mem he
    exact h.exists_lost_of_removes empty numbered few hsplit removes removes'

/-- A write to a row that is gone brings the row back or removes it once more. -/
theorem reappears_or_removedTwice_of_lost [BinaryFormat] (h : Chronicle start t) (hd : d ∈ t.deeds)
    (lost : t.Lost d) :
    (∃ id, t.Reappears id) ∨ ∃ id, t.RemovedTwice id := by
  obtain ⟨hcommits, c, written, hc, hended, hkind, hgone⟩ := lost
  obtain ⟨as, bs, hsplit⟩ := List.append_of_mem hd
  obtain ⟨c', written', hcommitted⟩ := h.committed as d bs hsplit hcommits
  obtain rfl := Option.some.inj (hc.symm.trans hcommitted.caller)
  cases hended.symm.trans hcommitted.ended
  -- The row was there when the write was staged, so some step in between has removed it.
  obtain ⟨e, he, hseen⟩ := hcommitted.seen hkind
  obtain ⟨xs, ys, rfl⟩ := List.append_of_mem he
  have hlinked := h.linked
  rw [hsplit] at hlinked
  have hto : Linked e.before.store.rows (e :: ys) d.before.store.rows :=
    ⟨rfl, hlinked.split.1.split.2⟩
  obtain ⟨us, f, vs, hsplit', hbefore, hafter, _⟩ :=
    hto.crossing (p := fun rows => rows.get? written.id = none) hseen hgone
  rw [hsplit', ← List.append_assoc] at hsplit
  have hsplitf : t.deeds = (xs ++ us) ++ f :: (vs ++ d :: bs) := by
    rw [hsplit]
    simp
  have hne : f.after.store.rows.get? written.id ≠ f.before.store.rows.get? written.id := by
    rw [hafter]
    exact fun hn => hbefore hn.symm
  obtain ⟨hf, cf, gone, hcf, hid⟩ := h.committed_of_ne hsplitf hne
  by_cases hlate : c.what.kind = .deleted
  · refine .inr ⟨written.id, f.caller, d.caller, h.caller_ne hsplitf hf hcommits, ?_, ?_⟩
    · refine (h.lawful.tellsRemoval_iff hcf.caller hcf.ended written.id).mpr ⟨?_, hid⟩
      refine Classical.byContradiction fun hstays => hcf.after_ne_none hstays ?_
      rw [hid]
      exact hafter
    · exact (h.lawful.tellsRemoval_iff hc hended written.id).mpr ⟨hlate, rfl⟩
  · exact .inl ⟨written.id, xs ++ us, f, vs, d, bs, hsplitf, hbefore, hafter,
      hcommitted.after_ne_none hlate⟩

end Chronicle

/-- What was committed so far, after any moves. -/
theorem chronicle_run [BinaryFormat] [IdSource] (codec : Codec)
    (validator : Symbol → Except ValidationError Unit) {start : World ξ} (h : AtRest start.store)
    (moves : List Move) :
    Chronicle start (run (SymbolService.direct codec validator) start moves) := by
  refine run_induction codec validator (Chronicle start) (.atStart h) ?_ ?_ ?_ ?_ moves
  · intro t ctx what h
    exact h.call _ ctx what
  · intro t disturbance h
    exact h.disturb disturbance
  · intro t k c h hc
    exact (h.lawful.standing k c hc).ready
  · intro t k c call world h hc hs
    exact h.step hc hs

/-- **No removed symbol comes back and none is removed by two calls exactly if no call commits a write to
a row that is gone.** The store lets a transaction pass with such a write unless it refuses commits or
one of the codes of the transaction is taken; then what was staged takes the place of the missing row. -/
theorem rows_gone_for_good_iff [BinaryFormat] [IdSource] (codec : Codec)
    (validator : Symbol → Except ValidationError Unit) {start : World ξ}
    (rows : start.store.rows = Table.empty) (reserved : start.store.reserved = Table.empty)
    (moves : List Move)
    (few : (run (SymbolService.direct codec validator) start moves).callers.length ≤ 2 ^ 64) :
    let t := run (SymbolService.direct codec validator) start moves
    (((∀ id, ¬ t.Reappears id) ∧ ∀ id, ¬ t.RemovedTwice id) ↔ ∀ d ∈ t.deeds, ¬ t.Lost d) ∧
    ∀ (d : Desk) (name : String) (tx : Transaction) (id : Int64) (write : Staged),
      d.Lost name tx id write →
        ((d.serve name .prepare).2 ≠ some (.ok .done) ↔ d.Blocks tx) ∧
        ((d.serve name .commit).2 ≠ some (.ok .done) ↔ d.Blocks tx) ∧
        (¬ d.Blocks tx →
          (d.serve name .commit).1.store.rows.get? id = write.symbol? ∧
          ∀ more, (d.take (.serve name .prepare)).orderly more = true →
            (∀ turn ∈ more, turn.ends name = false) →
            let later := (d.take (.serve name .prepare)).play more
            (later.serve name .commit).2 = some (.ok .done) ∧
              (later.serve name .commit).1.store.rows.get? id = write.symbol?) := by
  intro t
  have chronicle : Chronicle start t := chronicle_run codec validator (.of_empty rows reserved) moves
  obtain ⟨m, numbered⟩ := numbered_run codec validator (.of_empty rows reserved) moves
  refine ⟨⟨?_, ?_⟩, fun d name tx id write lost => Desk.lost_write_refused_iff lost⟩
  · rintro ⟨stays, once⟩ d hd lost
    obtain ⟨id, back⟩ | ⟨id, twice⟩ := chronicle.reappears_or_removedTwice_of_lost hd lost
    · exact stays id back
    · exact once id twice
  · intro none
    refine ⟨fun id back => ?_, fun id twice => ?_⟩
    · obtain ⟨d, hd, lost⟩ := chronicle.exists_lost_of_reappears rows numbered few back
      exact none d hd lost
    · obtain ⟨d, hd, lost⟩ := chronicle.exists_lost_of_removedTwice rows numbered few twice
      exact none d hd lost

/-- A symbol is created; then one client is about to change it while another removes it. -/
def lateWrites : List Move :=
  let steps := fun k n => List.replicate n (Move.step k)
  .call { scope := 0 } (.create ⟨0, "Bitcoin", "BTC", "", .epoch, .epoch⟩) :: steps 0 5 ++
    .call { scope := 1 } (.update ⟨1, "Bitcoin", "XBT", "", .epoch, .epoch⟩) :: steps 1 2 ++
    .call { scope := 2 } (.delete 1) :: steps 2 6 ++ steps 1 3

theorem lateWrites_put_back :
    let t := run (SymbolService.direct .default Symbol.validate) quietWorld lateWrites
    (t.Reappears 1 ∧ ∃ d ∈ t.deeds, t.Lost d) ∧
      ∃ tx write, (Desk.lateDesk Desk.lateChange).Lost "a" tx 1 write ∧
        ((Desk.lateDesk Desk.lateChange).serve "a" .commit).1.store.rows.get? 1 = write.symbol? := by
  intro t
  have few : t.callers.length ≤ 2 ^ 64 := by
    have hlength : t.callers.length = 3 := rfl
    rw [hlength]
    decide
  -- The thirteenth step removes the symbol, the sixteenth puts it back.
  have back : t.Reappears 1 := by
    have hlength : t.deeds.length = 16 := rfl
    refine ⟨t.deeds.take 12, t.deeds.get ⟨12, by omega⟩, (t.deeds.drop 13).take 2,
      t.deeds.get ⟨15, by omega⟩, [], rfl, ?_, rfl, ?_⟩ <;>
      exact Option.isSome_iff_ne_none.mp rfl
  obtain ⟨tx, ho⟩ : ∃ tx, (Desk.lateDesk Desk.lateChange).opened.get? "a" = some tx := ⟨_, rfl⟩
  obtain ⟨write, hw⟩ : ∃ write, tx.staged.get? 1 = some write := by
    cases ho
    exact ⟨_, rfl⟩
  have lost : (Desk.lateDesk Desk.lateChange).Lost "a" tx 1 write := by
    cases ho
    cases hw
    exact ⟨by cbv, by cbv, by cbv, by cbv, by cbv⟩
  have hdone : ((Desk.lateDesk Desk.lateChange).serve "a" .commit).2 = some (.ok .done) := by cbv
  obtain ⟨clean, late⟩ :=
    rows_gone_for_good_iff .default Symbol.validate (rfl : quietWorld.store.rows = Table.empty) rfl
      lateWrites few
  obtain ⟨_, refused, passes⟩ := late (Desk.lateDesk Desk.lateChange) "a" tx 1 write lost
  refine ⟨⟨back, ?_⟩, tx, write, lost, (passes fun blocks => refused.mpr blocks hdone).1⟩
  refine Classical.byContradiction fun hno => ?_
  exact (clean.mpr fun d hd lost => hno ⟨d, hd, lost⟩).1 1 back

end Traffic

end SymbolRelay
