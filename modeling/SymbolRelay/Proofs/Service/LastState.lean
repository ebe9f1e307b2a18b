import SymbolRelay.Proofs.Service.UpdateOrder
import SymbolRelay.Standin.Compact
import SymbolRelay.Standin.NumberedIds

/-!
# What the event of a removal tells

A call that removes a symbol looks it up before it opens its transaction, and its event tells of what it
has found. The row that it removes is the one that is there when it commits. Others may have written the
symbol in between, and the store takes no notice of that: what is staged is just the removal.

```text
   lookup ── begin ── stage ── prepare ── publish ── commit
     │                                       │          │
   found ─────────────────────────────────► event       │
     │                                                  ▼
    row ──── write ──► row ──── write ──► row ──────── gone
```

So the event tells of the row that is removed exactly if the last write of the symbol that was committed
in between, if there was one, left name and code as they were found.

## Results

* `Recalls.step` — a call that removes a symbol has in hand what its first step found;
* `Chronicle.row_kept_of_unwritten`, `Chronicle.row_of_lastWrite` — what is under an id after some steps,
  by the last of them that wrote it;
* `removal_tells_last_state_iff` — in every run, when the event of a removal tells of the removed row;
* `recodedMeanwhile_untold` — a run in which it tells of an earlier one.
-/

set_option autoImplicit false

namespace SymbolRelay

variable {ξ : Type}

/-! ## What was looked up -/

/-- The symbol that a call has in hand: what its lookup found, or what it has staged. -/
def Call.found? : Call Transaction → Option Symbol
  | .begin (.delete _ existing) => some existing
  | .stage (.delete _ existing) _ => some existing
  | c => c.written?

/-- Whether what a call has in hand, if it is to remove a symbol, is what its first step found. -/
structure Recalls (id : Int64) (ds : List (Deed ξ)) (c : Call Transaction) : Prop where
  unasked : ∀ gone, c = .lookup gone → gone = id ∧ ds = []
  recalled : ∀ symbol, c.found? = some symbol →
    ∃ lookup rest, ds = lookup :: rest ∧ lookup.before.store.rows.get? id = some symbol ∧
      lookup.after = lookup.before

namespace Recalls

open SymbolService

variable {codec : Codec} {ctx : Context} {id : Int64} {ds : List (Deed ξ)} {c c' : Call Transaction}
  {w w' : World ξ}

theorem start (s : SymbolService ξ Transaction) (id : Int64) :
    Recalls id ([] : List (Deed ξ)) (s.start (.delete id)) := by
  simp only [SymbolService.start, Call.ofCheck]
  split
  · refine ⟨fun gone h => ?_, fun _ h => by cases h⟩
    cases h
    exact ⟨rfl, rfl⟩
  · refine ⟨fun _ h => ?_, fun _ h => ?_⟩ <;> cases h

/-- A later step changes nothing about what the first one found. -/
theorem later (h : Recalls id ds c) (d : Deed ξ) (asked : ∀ gone, c' ≠ .lookup gone)
    (same : ∀ symbol, c'.found? = some symbol → c.found? = some symbol) : Recalls id (ds ++ [d]) c' where
  unasked := fun gone hc => absurd hc (asked gone)
  recalled := fun symbol hsymbol => by
    obtain ⟨lookup, rest, rfl, hrow, hquiet⟩ := h.recalled symbol (same symbol hsymbol)
    exact ⟨lookup, rest ++ [d], rfl, hrow, hquiet⟩

/-- **A step of a removal keeps in hand what was found.** -/
theorem step [BinaryFormat] [IdSource] (h : Recalls id ds c) (hs : Standing (.delete id) ds c) (k : Nat)
    (hstep : StepsTo codec ctx c w c' w') : Recalls id (ds ++ [⟨k, w, w'⟩]) c' := by
  cases hstep with
  | @found gone existing _ hrow =>
    obtain ⟨rfl, rfl⟩ := h.unasked gone rfl
    refine ⟨fun _ hn => (by cases hn), fun symbol hsymbol => ?_⟩
    cases hsymbol
    exact ⟨⟨k, w, w⟩, [], rfl, hrow, rfl⟩
  | @staged change u _ written tx store clock hcarry =>
    obtain ⟨asks, _⟩ := hs
    refine h.later _ (fun _ hn => by cases hn) fun symbol hsymbol => ?_
    cases hsymbol
    cases change with
    | create _ | update _ => exact asks.elim
    | delete gone existing =>
      -- What is staged for a removal is told by the symbol that was found.
      simp only [carryOut] at hcarry
      cases hu : w.store.delete u.tx gone with
      | error e => simp [hu, Except.map] at hcarry
      | ok r =>
        simp only [hu, Except.map, Except.ok.injEq, Prod.mk.injEq] at hcarry
        obtain ⟨rfl, _, _⟩ := hcarry
        rfl
  | @opened change _ _ _ =>
    refine h.later _ (fun _ hn => by cases hn) fun symbol hsymbol => ?_
    cases change with
    | create _ | update _ => cases hsymbol
    | delete _ _ => exact hsymbol
  | voted _ _ | told _ | committed _ | rested =>
    exact h.later _ (fun _ hn => by cases hn) fun _ hsymbol => hsymbol
  | missing _ | barred _ _ | unstaged _ | dropped _ _ | refused _ | untold _ _ | rolledBack =>
    exact h.later _ (fun _ hn => by cases hn) fun _ hsymbol => by cases hsymbol

end Recalls

namespace Traffic

/-- What holds of calls that are under way together, and of what those that remove a symbol recall. -/
structure Mindful [BinaryFormat] (start : World ξ) (t : Traffic ξ) : Prop where
  lawful : Lawful start t
  recalls : ∀ k c id, t.callers[k]? = some c → c.what = .delete id → Recalls id (t.deedsOf k) c.call

namespace Mindful

variable {codec : Codec} {start : World ξ} {t : Traffic ξ}

theorem call [BinaryFormat] (h : Mindful start t) (s : SymbolService ξ Transaction) (ctx : Context)
    (what : Write) :
    Mindful start (t.move s (.call ctx what)) where
  lawful := h.lawful.call s ctx what
  recalls := by
    intro k c id hc hwhat
    rcases callers_call hc with hold | ⟨hlength, rfl⟩
    · exact h.recalls k c id hold hwhat
    · subst hwhat
      show Recalls id (t.deedsOf k) (s.start (.delete id))
      rw [h.lawful.deedsOf_eq_nil hlength]
      exact .start s id

theorem step [BinaryFormat] [IdSource] (h : Mindful start t) {k : Nat} {c : Caller}
    (hc : t.callers[k]? = some c) {call : Call Transaction} {world : World ξ}
    (hs : SymbolService.StepsTo codec c.ctx c.call t.world call world) :
    Mindful start ⟨world, t.callers.set k { c with call }, t.deeds ++ [⟨k, t.world, world⟩]⟩ where
  lawful := h.lawful.step hc hs
  recalls := by
    intro j c' id hj hwhat
    rw [Lawful.deedsOf_snoc]
    rcases callers_set hj with ⟨rfl, rfl⟩ | ⟨hne, hj⟩
    · rw [if_pos rfl]
      have hstanding := h.lawful.standing j c hc
      rw [show c.what = .delete id from hwhat] at hstanding
      exact (h.recalls j c id hc hwhat).step hstanding j hs
    · rw [if_neg (Ne.symm hne)]
      exact h.recalls j c' id hj hwhat

end Mindful

/-- **Whatever the moves, a call that removes a symbol recalls what its first step found.** -/
theorem mindful_run [BinaryFormat] [IdSource] (codec : Codec)
    (validator : Symbol → Except ValidationError Unit) {start : World ξ} (h : AtRest start.store)
    (moves : List Move) :
    Mindful start (run (SymbolService.direct codec validator) start moves) := by
  refine run_induction codec validator (Mindful start) ⟨.atStart h, fun _ _ _ hn => by cases hn⟩ ?_ ?_ ?_
    ?_ moves
  · intro t ctx what h
    exact h.call _ ctx what
  · intro t disturbance h
    exact ⟨h.lawful.disturb disturbance, h.recalls⟩
  · intro t k c h hc
    exact (h.lawful.standing k c hc).ready
  · intro t k c call world h hc hs
    exact h.step hc hs

/-! ## The last write of a symbol -/

/-- Whether a step has committed what a caller wrote under an id. -/
structure Writes (t : Traffic ξ) (d : Deed ξ) (id : Int64) (c : Caller) (written : Symbol) : Prop where
  commits : d.commits = true
  caller : t.callers[d.caller]? = some c
  ended : c.call = .ended (.ok written)
  id : written.id = id

/-- Whether no step of some has committed a write under an id. -/
def Unwritten (t : Traffic ξ) (steps : List (Deed ξ)) (id : Int64) : Prop :=
  ∀ d ∈ steps, ∀ c written, ¬ t.Writes d id c written

/-- Whether a write is the last one under an id that some steps have committed. -/
def LastWrite (t : Traffic ξ) (steps : List (Deed ξ)) (id : Int64) (c : Caller) (written : Symbol) : Prop :=
  ∃ earlier d later, steps = earlier ++ d :: later ∧ t.Writes d id c written ∧ t.Unwritten later id

/-- Steps have committed no write under an id, or a last one. -/
theorem unwritten_or_lastWrite (t : Traffic ξ) (id : Int64) (steps : List (Deed ξ)) :
    t.Unwritten steps id ∨ ∃ c written, t.LastWrite steps id c written := by
  induction steps with
  | nil => exact .inl fun _ hd => by cases hd
  | cons d steps ih =>
    rcases ih with none | ⟨c, written, earlier, e, later, rfl, hwrites, hlater⟩
    · by_cases hd : ∃ c written, t.Writes d id c written
      · obtain ⟨c, written, hwrites⟩ := hd
        exact .inr ⟨c, written, [], d, steps, rfl, hwrites, none⟩
      · refine .inl fun e he c written hwrites => ?_
        rcases List.mem_cons.mp he with rfl | he
        · exact hd ⟨c, written, hwrites⟩
        · exact none e he c written hwrites
    · exact .inr ⟨c, written, d :: earlier, e, later, rfl, hwrites, hlater⟩

namespace Chronicle

variable {start : World ξ} {t : Traffic ξ} {as bs cs : List (Deed ξ)} {d e : Deed ξ} {id : Int64}

/-- Steps that commit no write under an id leave what is there. -/
theorem row_kept_of_unwritten [BinaryFormat] (h : Chronicle start t)
    (hsplit : t.deeds = as ++ e :: (bs ++ d :: cs)) (unwritten : t.Unwritten bs id) :
    d.before.store.rows.get? id = e.after.store.rows.get? id := by
  refine Classical.byContradiction fun hne => ?_
  have hlinked := h.linked
  rw [hsplit] at hlinked
  have hdeeds : t.deeds = (as ++ [e]) ++ (bs ++ d :: cs) := by
    rw [hsplit, List.append_assoc, List.singleton_append]
  obtain ⟨xs, f, ys, c, written, rfl, hcommits, hcommitted, hid⟩ :=
    h.exists_committed_of_ne hdeeds hlinked.split.2.split.1 hne
  have hmem : f ∈ xs ++ f :: ys := List.mem_append_right _ List.mem_cons_self
  exact unwritten f hmem c written ⟨hcommits, hcommitted.caller, hcommitted.ended, hid⟩

/-- After some steps an id has what the last of them that wrote it left. -/
theorem row_of_lastWrite [BinaryFormat] (h : Chronicle start t)
    (hsplit : t.deeds = as ++ e :: (bs ++ d :: cs)) {c : Caller} {written : Symbol}
    (last : t.LastWrite bs id c written) :
    d.before.store.rows.get? id = (c.what.leaves written).symbol? := by
  obtain ⟨xs, f, ys, rfl, hwrites, hlater⟩ := last
  have hsplit' : t.deeds = (as ++ e :: xs) ++ f :: (ys ++ d :: cs) := by
    rw [hsplit]
    simp
  obtain ⟨c', written', hcommitted⟩ := h.committed _ f _ hsplit' hwrites.commits
  cases hwrites.caller.symm.trans hcommitted.caller
  cases hwrites.ended.symm.trans hcommitted.ended
  rw [h.row_kept_of_unwritten hsplit' hlater, hcommitted.rows, Store.get?_applyWrite, hwrites.id,
    if_pos rfl]

end Chronicle

/-! ## Removals -/

/-- Whether a call has told just that a symbol with some name and code was removed. -/
def AnnouncesRemoval [BinaryFormat] (t : Traffic ξ) (k : Nat) (id : Int64) (name code : String) : Prop :=
  ∃ m at_, t.told k = [(EventKind.deleted.topic, m)] ∧ Event.decode m = .ok (.deleted id name code at_)

/-- A call announces one name and one code. -/
theorem announcesRemoval_iff [BinaryFormat] {t : Traffic ξ} {k : Nat} {id : Int64} {name code : String}
    (h : t.AnnouncesRemoval k id name code) (other otherCode : String) :
    t.AnnouncesRemoval k id other otherCode ↔ other = name ∧ otherCode = code := by
  constructor
  · rintro ⟨m, now, htold, hdecode⟩
    obtain ⟨m', now', htold', hdecode'⟩ := h
    rw [htold] at htold'
    cases htold'
    cases hdecode.symm.trans hdecode'
    exact ⟨rfl, rfl⟩
  · rintro ⟨rfl, rfl⟩
    exact h

/-- How a call has removed a symbol: it was looked up in the first step of the call, other steps were
taken, and then the removal was committed. -/
structure Removal [BinaryFormat] (t : Traffic ξ) (k : Nat) (id : Int64) (found : Symbol) (lookup : Deed ξ)
    (between : List (Deed ξ)) (removal : Deed ξ) : Prop where
  order : ∃ before after, t.deeds = before ++ lookup :: (between ++ removal :: after) ∧
    ∀ d ∈ before, d.caller ≠ k
  looked : lookup.caller = k ∧ lookup.before.store.rows.get? id = some found
  announced : t.AnnouncesRemoval k id found.name found.code
  removed : removal.caller = k ∧ removal.commits = true ∧
    removal.after.store.rows = removal.before.store.rows.erase id
  /-- If nobody has written the symbol in between, the row is what was found. -/
  untouched : t.Unwritten between id → removal.before.store.rows.get? id = some found
  /-- Otherwise it is what the last one who did has left. -/
  rewritten : ∀ c written, t.LastWrite between id c written →
    removal.before.store.rows.get? id = (c.what.leaves written).symbol?

/-- A list with two elements, of which the first is the first of its kind. -/
theorem exists_split_of_filter {α : Type} {p : α → Bool} {xs : List α} {a : α} {rest : List α} {b : α}
    (h : xs.filter p = a :: rest) (hb : b ∈ rest) :
    ∃ as bs cs, xs = as ++ a :: (bs ++ b :: cs) ∧ (∀ x ∈ as, ¬ p x = true) ∧ p a = true := by
  obtain ⟨as, tail, rfl, hnone, ha, hrest⟩ := List.filter_eq_cons_iff.mp h
  rw [← hrest] at hb
  obtain ⟨bs, cs, rfl⟩ := List.append_of_mem (List.mem_filter.mp hb).1
  exact ⟨as, bs, cs, rfl, hnone, ha⟩

theorem Mindful.removal [BinaryFormat] {start : World ξ} {t : Traffic ξ} (h : Mindful start t)
    (chronicle : Chronicle start t) {k : Nat} {c : Caller} {id : Int64} {found : Symbol}
    (caller : t.callers[k]? = some c) (asked : c.what = .delete id)
    (succeeded : c.call = .ended (.ok found)) :
    ∃ lookup between removal, t.Removal k id found lookup between removal := by
  obtain ⟨lookup, rest, hdeeds, hrow, hquiet⟩ :=
    (h.recalls k c id caller asked).recalled found (by rw [succeeded]; rfl)
  have done := h.lawful.carriedOut caller succeeded
  rw [asked] at done
  obtain ⟨removal, hcommits, hrows⟩ := done.applied
  obtain ⟨m, htold, now, hdecode⟩ := done.told
  have hid : found.id = id := done.yields
  -- The lookup is not the commit, so that comes later.
  have hmem : removal ∈ rest ∧ removal.caller = k ∧ removal.commits = true := by
    have hone : removal ∈ t.commits k := by
      rw [hcommits]
      exact List.mem_singleton_self _
    obtain ⟨hmine, hcommit⟩ := List.mem_filter.mp hone
    have hcaller := (Lawful.mem_deedsOf.mp hmine).2
    rw [hdeeds] at hmine
    rcases List.mem_cons.mp hmine with rfl | hrest
    · have hno : removal.commits = false := Deed.commits_eq_false (by rw [hquiet])
      exact absurd (hno.symm.trans hcommit) Bool.false_ne_true
    · exact ⟨hrest, hcaller, hcommit⟩
  obtain ⟨hrest, hcaller, hcommit⟩ := hmem
  obtain ⟨before, between, after, hsplit, hfirst, hlookup⟩ := exists_split_of_filter hdeeds hrest
  refine ⟨lookup, between, removal, ⟨before, after, hsplit, ?_⟩, ⟨?_, hrow⟩, ?_, ⟨hcaller, hcommit, ?_⟩, ?_,
    ?_⟩
  · intro d hd
    simpa using hfirst d hd
  · simpa using hlookup
  · refine ⟨m, now, htold, ?_⟩
    rw [hdecode, ← hid]
    rfl
  · rw [hrows, hid]
    rfl
  · intro unwritten
    rw [chronicle.row_kept_of_unwritten hsplit unwritten, hquiet]
    exact hrow
  · exact fun c' written last => chronicle.row_of_lastWrite hsplit last

/-- The event tells of the removed row exactly if the last write in between left what was found. -/
theorem Removal.announces_iff [BinaryFormat] {t : Traffic ξ} {k : Nat} {id : Int64} {found : Symbol}
    {lookup : Deed ξ} {between : List (Deed ξ)} {removal : Deed ξ}
    (h : t.Removal k id found lookup between removal) :
    (∀ row, removal.before.store.rows.get? id = some row → t.AnnouncesRemoval k id row.name row.code) ↔
      ∀ c written, t.LastWrite between id c written → c.what.kind ≠ .deleted →
        written.name = found.name ∧ written.code = found.code := by
  constructor
  · intro tells c written last hkind
    refine (announcesRemoval_iff h.announced _ _).mp (tells written ?_)
    rw [h.rewritten c written last]
    cases hwhat : c.what with
    | create _ | update _ => rfl
    | delete _ =>
      rw [hwhat] at hkind
      exact absurd rfl hkind
  · intro same row hrow
    refine (announcesRemoval_iff h.announced _ _).mpr ?_
    rcases t.unwritten_or_lastWrite id between with unwritten | ⟨c, written, last⟩
    · rw [h.untouched unwritten] at hrow
      cases hrow
      exact ⟨rfl, rfl⟩
    · rw [h.rewritten c written last] at hrow
      have hkind := same c row
      cases hwhat : c.what with
      | create _ | update _ =>
        rw [hwhat] at hrow hkind
        cases hrow
        exact hkind last EventKind.noConfusion
      | delete _ =>
        rw [hwhat] at hrow
        cases hrow

/-- **When the event of a removal tells of the removed row.** However the steps of calls are mixed, a call
that has removed a symbol has looked it up in its first step and announced what it found; and this is the
name and the code of the row that it removed exactly if the last write of the symbol that was committed
between its lookup and its own commit, if there was one, left the same name and code. -/
theorem removal_tells_last_state_iff [BinaryFormat] [IdSource] (codec : Codec)
    (validator : Symbol → Except ValidationError Unit) {start : World ξ} (atRest : AtRest start.store)
    (moves : List Move) {k : Nat} {c : Caller} {id : Int64} {found : Symbol}
    (caller : (run (SymbolService.direct codec validator) start moves).callers[k]? = some c)
    (asked : c.what = .delete id) (succeeded : c.call = .ended (.ok found)) :
    let t := run (SymbolService.direct codec validator) start moves
    ∃ lookup between removal, t.Removal k id found lookup between removal ∧
      ((∀ row, removal.before.store.rows.get? id = some row →
          t.AnnouncesRemoval k id row.name row.code) ↔
        ∀ c written, t.LastWrite between id c written → c.what.kind ≠ .deleted →
          written.name = found.name ∧ written.code = found.code) := by
  intro t
  have mindful : Mindful start t := mindful_run codec validator atRest moves
  have chronicle : Chronicle start t := chronicle_run codec validator atRest moves
  obtain ⟨lookup, between, removal, h⟩ := mindful.removal chronicle caller asked succeeded
  exact ⟨lookup, between, removal, h, h.announces_iff⟩

/-- One client has looked up the symbol that it is to remove; another one changes it; then the first goes
on. -/
def changing (changed : Symbol) : List Move :=
  .call { scope := 1 } (.delete 1) :: .call { scope := 2 } (.update changed) ::
    ([0] ++ List.replicate 5 1 ++ List.replicate 5 0).map .step

/-- The calls of the two clients. -/
def changedMeanwhile [BinaryFormat] [IdSource] (changed : Symbol) : Traffic Unit :=
  run (SymbolService.direct .default Symbol.validate) stockedWorld (changing changed)

/-- The symbol with a description. -/
def described : Symbol := { recoded "BTC" .epoch with description := "a coin" }

/-- If just the description was changed, the event is right. -/
theorem describedMeanwhile_told :
    AtRest stockedWorld.store ∧ ∃ removal row, removal ∈ (changedMeanwhile described).deeds ∧
      removal.commits = true ∧ removal.before.store.rows.get? 1 = some row ∧ row.description = "a coin" ∧
      (changedMeanwhile described).AnnouncesRemoval 0 1 row.name row.code := by
  have callers : (changedMeanwhile described).callers =
      [⟨{ scope := 1 }, .delete 1, .ended (.ok (recoded "BTC" .epoch))⟩,
        ⟨{ scope := 2 }, .update described, .ended (.ok described)⟩] := rfl
  have rows : ∀ d ∈ (changedMeanwhile described).deeds, d.caller = 0 → d.commits = true →
      d.before.store.rows.get? 1 = some described := by decide +kernel
  obtain ⟨lookup, between, removal, h, told⟩ :=
    removal_tells_last_state_iff .default Symbol.validate stockedWorld_atRest (changing described)
      (k := 0) (congrArg (·[0]?) callers) rfl rfl
  obtain ⟨before, after, hsplit, _⟩ := h.order
  have hmem : removal ∈ (changedMeanwhile described).deeds := by
    rw [show (changedMeanwhile described).deeds = _ from hsplit]
    simp
  have hrow := rows removal hmem h.removed.1 h.removed.2.1
  refine ⟨stockedWorld_atRest, removal, described, hmem, h.removed.2.1, hrow, rfl,
    told.mpr (fun c written last hkind => ?_) described hrow⟩
  obtain ⟨_, d, _, _, hwrites, _⟩ := last
  have hc := List.mem_of_getElem? hwrites.caller
  have hended := hwrites.ended
  rw [show (run _ _ _).callers = _ from callers] at hc
  simp only [List.mem_cons, List.not_mem_nil, or_false] at hc
  rcases hc with rfl | rfl
  · exact absurd rfl hkind
  · cases hended
    exact ⟨rfl, rfl⟩

/-- **If the code was changed, the event tells of the old one**, although the removal was staged after the
change was committed: the call that removes has taken no step but its lookup until then. -/
theorem recodedMeanwhile_untold :
    let t := changedMeanwhile (recoded "XBT" .epoch)
    (∃ c, t.callers[0]? = some c ∧ c.what = .delete 1 ∧ ∃ found, c.call = .ended (.ok found)) ∧
      t.deeds.map Deed.caller = [0] ++ List.replicate 5 1 ++ List.replicate 5 0 ∧
      t.CommitsAt 1 5 ∧ t.CommitsAt 0 10 ∧
      ∃ removal row, t.deeds[10]? = some removal ∧ removal.before.store.rows.get? 1 = some row ∧
        removal.after.store.rows.get? 1 = none ∧ row.name = "Bitcoin" ∧ row.code = "XBT" ∧
        t.AnnouncesRemoval 0 1 "Bitcoin" "BTC" ∧ ¬ t.AnnouncesRemoval 0 1 row.name row.code := by
  intro t
  have caller : t.callers[0]? = some ⟨{ scope := 1 }, .delete 1, .ended (.ok (recoded "BTC" .epoch))⟩ := rfl
  obtain ⟨_, _, _, h⟩ :=
    (mindful_run .default Symbol.validate stockedWorld_atRest (changing (recoded "XBT" .epoch))).removal
      (chronicle_run .default Symbol.validate stockedWorld_atRest _) caller rfl rfl
  refine ⟨⟨_, caller, rfl, _, rfl⟩, rfl, ⟨_, rfl, rfl, rfl⟩, ⟨_, rfl, rfl, rfl⟩,
    _, recoded "XBT" .epoch, rfl, rfl, rfl, rfl, rfl, h.announced, fun told => ?_⟩
  exact absurd ((announcesRemoval_iff h.announced _ _).mp told).2 (by decide)

end Traffic

end SymbolRelay
