import SymbolRelay.Proofs.Service.Removals
import SymbolRelay.Standin.Compact
import SymbolRelay.Standin.NumberedIds

/-!
# The order of the updates of one symbol

A call tells its event after the vote and commits later, so the events of two updates of one symbol may
come in one order and their commits in the other. What could keep them apart is the code that a vote
reserves: of two updates with one code the second is voted for only after the commit of the first. Two
with different codes may overlap, and then nothing ties the order of the events to that of the commits.

Every step of a run was taken in some state of things (`Traced`), and what a caller had told and
committed by then says where its call stood.

## Results

* `Traced.step`, `traced_run` — the state of things at every step of a run;
* `Traced.code_ne_of_open` — whoever tells while another call is between its event and its commit writes
  another code;
* `updates_in_order_unless_overlapping` — updates that do not overlap tell and commit in one order, and
  if no two with different codes overlap the row is what the last event says;
* `recodedAcross_disagree` — two that overlap need not.
-/

set_option autoImplicit false

namespace SymbolRelay

variable {ξ : Type}

/-! ## What a step tells -/

/-- Two symbols that one event tells of have one code. -/
theorem Message.TellsOf.code_eq [BinaryFormat] {m : Message} {what : Write} {a b : Symbol}
    (ha : m.TellsOf what a) (hb : m.TellsOf what b) : a.code = b.code := by
  obtain ⟨now, ha⟩ := ha
  obtain ⟨later, hb⟩ := hb
  rw [← Event.code_ofSymbol what.kind a now, ← Event.code_ofSymbol what.kind b later,
    Except.ok.inj (ha.symm.trans hb)]

/-- A transaction that holds a creation or a change writes the code of the symbol. -/
theorem Transaction.Holds.writes {tx : Transaction} {what : Write} {written : Symbol}
    (h : tx.Holds what written) (hkind : what.kind ≠ .deleted) : tx.Writes written.code := by
  refine ⟨written.id, written, ?_, rfl⟩
  rw [Transaction.written?, h.2, Table.get?_insert_self]
  cases what with
  | create _ | update _ => rfl
  | delete _ => exact absurd rfl hkind

namespace SymbolService.StepsTo

variable {codec : Codec} {ctx : Context} {what : Write} {ds : List (Deed ξ)} {c c' : Call Transaction}
  {w w' : World ξ}

/-- A step that tells something tells what its call was voted for with. -/
theorem tells [BinaryFormat] [IdSource] (h : StepsTo codec ctx c w c' w') (hs : Standing what ds c) (k : Nat)
    (htold : (⟨k, w, w'⟩ : Deed ξ).told ≠ []) :
    ∃ written u m, c = .publish what.kind written u ∧
      (⟨k, w, w'⟩ : Deed ξ).told = [(what.kind.topic, m)] ∧ m.TellsOf what written := by
  cases h with
  | @told kind written u _ queue hpub =>
    obtain ⟨rfl, _⟩ := hs
    exact ⟨written, u, _, rfl, Deed.told_eq (Queue.log_of_publish_ok hpub), w.clock.now,
      messageOf_decode ..⟩
  | untold _ hpub => exact absurd (Deed.told_eq_nil (Queue.log_of_publish_error hpub)) htold
  | _ => exact absurd (Deed.told_eq_nil rfl) htold

end SymbolService.StepsTo

/-- A call that has told its event and not committed yet is about to. -/
theorem Standing.leave_of_told [BinaryFormat] {what : Write} {ds : List (Deed ξ)} {c : Call Transaction}
    (h : Standing what ds c) (told : ds.flatMap Deed.told ≠ []) (uncommitted : ds.filter Deed.commits = []) :
    ∃ written u, c = .leave (.ok written) u := by
  cases c with
  | lookup _ | begin _ => exact absurd h.2.told told
  | stage _ _ => exact absurd h.2.2.2.2.told told
  | prepare _ _ _ | publish _ _ _ => exact absurd h.2.2.2.2.told told
  | leave outcome u =>
    cases outcome with
    | ok written => exact ⟨written, u, rfl⟩
    | error e =>
      obtain ⟨_, _, hd⟩ := h
      exact absurd hd.told told
    | panic p => exact h.elim
  | ended outcome =>
    cases outcome with
    | ok written =>
      obtain ⟨_, _, _, d, _, hd, _⟩ := h
      exact absurd (uncommitted.symm.trans hd.commits) (by simp)
    | error e =>
      obtain ⟨_, _, hd⟩ := h
      exact absurd hd.told told
    | panic p => exact h.elim

namespace Traffic

/-! ## Steps and the state of things when they were taken -/

/-- Whether a call told something in the step at a position. -/
def TellsAt (t : Traffic ξ) (k p : Nat) : Prop :=
  ∃ d, t.deeds[p]? = some d ∧ d.caller = k ∧ d.told ≠ []

/-- Whether a call committed in the step at a position. -/
def CommitsAt (t : Traffic ξ) (k p : Nat) : Prop :=
  ∃ d, t.deeds[p]? = some d ∧ d.caller = k ∧ d.commits = true

/-- The state of things when a step was taken: whoever had called by then is still among the callers,
with the same write. -/
structure Moment [BinaryFormat] [IdSource] (codec : Codec) (start : World ξ) (t : Traffic ξ) (p : Nat)
    (d : Deed ξ) (then_ : Traffic ξ) (c : Caller) (call : Call Transaction) : Prop where
  lawful : Lawful start then_
  deeds : then_.deeds = t.deeds.take p
  caller : then_.callers[d.caller]? = some c
  step : SymbolService.StepsTo codec c.ctx c.call d.before call d.after
  world : then_.world = d.before
  kept : ∀ (k : Nat) (c : Caller), then_.callers[k]? = some c →
    ∃ c', t.callers[k]? = some c' ∧ c'.what = c.what

/-- What happened since may have brought in callers. -/
theorem Moment.later [BinaryFormat] [IdSource] {codec : Codec} {start : World ξ} {t t' then_ : Traffic ξ}
    {p : Nat} {d : Deed ξ} {c : Caller} {call : Call Transaction} (h : t.Moment codec start p d then_ c call)
    (deeds : t'.deeds.take p = t.deeds.take p)
    (kept : ∀ (k : Nat) (c : Caller), t.callers[k]? = some c →
      ∃ c', t'.callers[k]? = some c' ∧ c'.what = c.what) :
    t'.Moment codec start p d then_ c call where
  lawful := h.lawful
  deeds := h.deeds.trans deeds.symm
  caller := h.caller
  step := h.step
  world := h.world
  kept := fun k c hc => by
    obtain ⟨c', hc', hwhat⟩ := h.kept k c hc
    obtain ⟨c'', hc'', hwhat'⟩ := kept k c' hc'
    exact ⟨c'', hc'', hwhat'.trans hwhat⟩

/-- Every step was taken in some state of things. -/
structure Traced [BinaryFormat] [IdSource] (codec : Codec) (start : World ξ) (t : Traffic ξ) : Prop where
  lawful : Lawful start t
  moments : ∀ p d, t.deeds[p]? = some d → ∃ then_ c call, t.Moment codec start p d then_ c call

namespace Traced

variable {codec : Codec} {start : World ξ} {t : Traffic ξ}

theorem atStart [BinaryFormat] [IdSource] (h : AtRest start.store) :
    Traced codec start { world := start } where
  lawful := .atStart h
  moments := fun p d hd => by cases hd

theorem later [BinaryFormat] [IdSource] (h : Traced codec start t) {t' : Traffic ξ} (lawful : Lawful start t')
    (deeds : t'.deeds = t.deeds)
    (kept : ∀ (k : Nat) (c : Caller), t.callers[k]? = some c →
      ∃ c', t'.callers[k]? = some c' ∧ c'.what = c.what) :
    Traced codec start t' where
  lawful := lawful
  moments := fun p d hd => by
    rw [deeds] at hd
    obtain ⟨then_, c, call, moment⟩ := h.moments p d hd
    exact ⟨then_, c, call, moment.later (by rw [deeds]) kept⟩

theorem step [BinaryFormat] [IdSource] (h : Traced codec start t) {k : Nat} {c : Caller}
    (hc : t.callers[k]? = some c) {call : Call Transaction} {world : World ξ}
    (hs : SymbolService.StepsTo codec c.ctx c.call t.world call world) :
    Traced codec start ⟨world, t.callers.set k { c with call }, t.deeds ++ [⟨k, t.world, world⟩]⟩ where
  lawful := h.lawful.step hc hs
  moments := fun p d hd => by
    have kept : ∀ (j : Nat) (cj : Caller), t.callers[j]? = some cj →
        ∃ c', (t.callers.set k { c with call })[j]? = some c' ∧ c'.what = cj.what := by
      intro j cj hj
      by_cases hjk : k = j
      · subst hjk
        cases hc.symm.trans hj
        exact ⟨_, List.getElem?_set_self (List.getElem?_eq_some_iff.mp hc).1, rfl⟩
      · exact ⟨cj, (List.getElem?_set_ne hjk).trans hj, rfl⟩
    obtain hlt | heq | hgt := Nat.lt_trichotomy p t.deeds.length
    · rw [List.getElem?_append_left hlt] at hd
      obtain ⟨then_, c', call', moment⟩ := h.moments p d hd
      exact ⟨then_, c', call',
        moment.later (List.take_append_of_le_length (Nat.le_of_lt hlt)) kept⟩
    · subst heq
      rw [List.getElem?_concat_length] at hd
      cases hd
      refine ⟨t, c, call, h.lawful, ?_, hc, hs, rfl, kept⟩
      rw [List.take_left' rfl]
    · rw [List.getElem?_eq_none (by simp; omega)] at hd
      cases hd

end Traced

/-- **At every step of a run there was a lawful state of things.** -/
theorem traced_run [BinaryFormat] [IdSource] (codec : Codec)
    (validator : Symbol → Except ValidationError Unit) {start : World ξ} (h : AtRest start.store)
    (moves : List Move) :
    Traced codec start (run (SymbolService.direct codec validator) start moves) := by
  refine run_induction codec validator (Traced codec start) (.atStart h) ?_ ?_ ?_ ?_ moves
  · intro t ctx what h
    refine h.later (h.lawful.call _ ctx what) rfl fun k c hc => ⟨c, ?_, rfl⟩
    exact List.getElem?_append_left (List.getElem?_eq_some_iff.mp hc).1 ▸ hc
  · intro t disturbance h
    exact h.later (h.lawful.disturb disturbance) rfl fun k c hc => ⟨c, hc, rfl⟩
  · intro t k c h hc
    exact (h.lawful.standing k c hc).ready
  · intro t k c call world h hc hs
    exact h.step hc hs

/-! ## Events and commits of a call -/

namespace Moment

variable {codec : Codec} {start : World ξ} {t then_ : Traffic ξ} {p : Nat} {d : Deed ξ} {c : Caller}
  {call : Call Transaction}

/-- What was done by then are the steps at earlier positions. -/
theorem mem_deedsOf_iff [BinaryFormat] [IdSource] (h : t.Moment codec start p d then_ c call) (k : Nat)
    (e : Deed ξ) :
    e ∈ then_.deedsOf k ↔ ∃ q, q < p ∧ t.deeds[q]? = some e ∧ e.caller = k := by
  rw [Lawful.mem_deedsOf, h.deeds, List.mem_iff_getElem?]
  simp only [List.getElem?_take, Option.ite_none_right_eq_some, ← exists_and_right, and_assoc]

theorem deedsOf_subset [BinaryFormat] [IdSource] (h : t.Moment codec start p d then_ c call) (k : Nat)
    {e : Deed ξ} (he : e ∈ then_.deedsOf k) : e ∈ t.deedsOf k := by
  obtain ⟨q, _, hq, hk⟩ := (h.mem_deedsOf_iff k e).mp he
  exact Lawful.mem_deedsOf.mpr ⟨List.mem_of_getElem? hq, hk⟩

theorem standing [BinaryFormat] [IdSource] (h : t.Moment codec start p d then_ c call) :
    Standing c.what (then_.deedsOf d.caller) c.call := h.lawful.standing d.caller c h.caller

/-- Whoever tells has told nothing before. -/
theorem of_tells [BinaryFormat] [IdSource] (h : t.Moment codec start p d then_ c call) (htold : d.told ≠ []) :
    (then_.deedsOf d.caller).flatMap Deed.told = [] ∧
      ∃ written u m, c.call = .publish c.what.kind written u ∧ d.told = [(c.what.kind.topic, m)] ∧
        m.TellsOf c.what written := by
  have hs := h.standing
  obtain ⟨written, u, m, hcall, hd, htells⟩ := h.step.tells hs d.caller htold
  rw [hcall] at hs
  exact ⟨hs.2.2.2.2.told, written, u, m, hcall, hd, htells⟩

/-- Whoever commits has told its event and committed nothing before. -/
theorem of_commits [BinaryFormat] [IdSource] (h : t.Moment codec start p d then_ c call)
    (hcommits : d.commits = true) :
    (then_.deedsOf d.caller).flatMap Deed.told ≠ [] ∧ (then_.deedsOf d.caller).filter Deed.commits = [] := by
  have hs := h.standing
  obtain ⟨_, hsame, _⟩ | ⟨written, u, hleave, _⟩ := h.step.rows_cases hs
  · have hno : d.commits = false := Deed.commits_eq_false hsame
    exact absurd (hno.symm.trans hcommits) Bool.false_ne_true
  · rw [hleave] at hs
    obtain ⟨_, _, _, m, _, hd⟩ := hs
    rw [hd.told]
    exact ⟨List.cons_ne_nil _ _, hd.commits⟩

end Moment

namespace Traced

variable {codec : Codec} {start : World ξ} {t : Traffic ξ} {j k p p' q q' : Nat}

/-- A call tells once. -/
theorem not_tellsAt_of_lt [BinaryFormat] [IdSource] (h : Traced codec start t) (hp : t.TellsAt k p)
    (hlt : p' < p) :
    ¬ t.TellsAt k p' := by
  rintro ⟨e, he, hek, htold⟩
  obtain ⟨d, hd, rfl, hdtold⟩ := hp
  obtain ⟨then_, c, call, moment⟩ := h.moments p d hd
  have hmem := (moment.mem_deedsOf_iff d.caller e).mpr ⟨p', hlt, he, hek⟩
  exact htold (List.flatMap_eq_nil_iff.mp (moment.of_tells hdtold).1 e hmem)

theorem tellsAt_unique [BinaryFormat] [IdSource] (h : Traced codec start t) (hp : t.TellsAt k p)
    (hp' : t.TellsAt k p') : p = p' := by
  obtain hlt | heq | hgt := Nat.lt_trichotomy p p'
  · exact absurd hp (h.not_tellsAt_of_lt hp' hlt)
  · exact heq
  · exact absurd hp' (h.not_tellsAt_of_lt hp hgt)

/-- A call commits once. -/
theorem not_commitsAt_of_lt [BinaryFormat] [IdSource] (h : Traced codec start t) (hq : t.CommitsAt k q)
    (hlt : q' < q) :
    ¬ t.CommitsAt k q' := by
  rintro ⟨e, he, hek, hcommits⟩
  obtain ⟨d, hd, rfl, hdcommits⟩ := hq
  obtain ⟨then_, c, call, moment⟩ := h.moments q d hd
  have hmem := (moment.mem_deedsOf_iff d.caller e).mpr ⟨q', hlt, he, hek⟩
  exact List.filter_eq_nil_iff.mp (moment.of_commits hdcommits).2 e hmem hcommits

theorem commitsAt_unique [BinaryFormat] [IdSource] (h : Traced codec start t) (hq : t.CommitsAt k q)
    (hq' : t.CommitsAt k q') :
    q = q' := by
  obtain hlt | heq | hgt := Nat.lt_trichotomy q q'
  · exact absurd hq (h.not_commitsAt_of_lt hq' hlt)
  · exact heq
  · exact absurd hq' (h.not_commitsAt_of_lt hq hgt)

/-- A call tells before it commits. -/
theorem tellsAt_lt_commitsAt [BinaryFormat] [IdSource] (h : Traced codec start t) (hp : t.TellsAt k p)
    (hq : t.CommitsAt k q) :
    p < q := by
  obtain ⟨d, hd, rfl, hcommits⟩ := hq
  obtain ⟨then_, c, call, moment⟩ := h.moments q d hd
  obtain ⟨e, he, htold⟩ : ∃ e ∈ then_.deedsOf d.caller, e.told ≠ [] := by
    refine Classical.byContradiction fun hno => (moment.of_commits hcommits).1 ?_
    exact List.flatMap_eq_nil_iff.mpr fun e he => Classical.not_not.mp fun hn => hno ⟨e, he, hn⟩
  obtain ⟨p', hlt, he, hek⟩ := (moment.mem_deedsOf_iff d.caller e).mp he
  rwa [h.tellsAt_unique hp ⟨e, he, hek, htold⟩]

/-- Two calls take no step at one position. -/
theorem tellsAt_ne (hjk : j ≠ k) (hp : t.TellsAt j p) (hp' : t.TellsAt k p') : p ≠ p' := by
  rintro rfl
  obtain ⟨d, hd, rfl, _⟩ := hp
  obtain ⟨e, he, rfl, _⟩ := hp'
  cases hd.symm.trans he
  exact hjk rfl

/-- What a call that ended well has told tells of its symbol. -/
theorem tellsOf_of_mem [BinaryFormat] [IdSource] (h : Traced codec start t) {c : Caller}
    (hc : t.callers[k]? = some c) {written : Symbol} (hended : c.call = .ended (.ok written))
    {topic : String} {m : Message} (hm : (topic, m) ∈ t.told k) :
    topic = c.what.kind.topic ∧ m.TellsOf c.what written := by
  obtain ⟨m', htold, htells⟩ := (h.lawful.carriedOut hc hended).told
  rw [htold, List.mem_singleton] at hm
  cases hm
  exact ⟨rfl, htells⟩

/-- What a call that ended well wrote with its code, as long as it did not remove a symbol. -/
def Wrote (t : Traffic ξ) (k : Nat) (written : Symbol) : Prop :=
  ∃ c, t.callers[k]? = some c ∧ c.call = .ended (.ok written) ∧ c.what.kind ≠ .deleted

/-- Whether a call has an open transaction that was voted for and writes a code. -/
def Holding (t : Traffic ξ) (k : Nat) (code : String) : Prop :=
  ∃ tx, t.tx? k = some tx ∧ tx.prepared = true ∧ tx.Writes code

/-- A code is held by one call at a time. -/
theorem holding_unique [BinaryFormat] (h : Lawful start t) {code : String} (hj : Holding t j code)
    (hk : Holding t k code) : j = k := by
  obtain ⟨tx, htx, hpt, hwt⟩ := hj
  obtain ⟨ux, hux, hpu, hwu⟩ := hk
  refine Classical.byContradiction fun hjk => ?_
  exact (h.sound.backed j tx htx hpt).not_writes_both (h.sound.backed k ux hux hpu)
    (h.sound.id_ne hux hjk htx) hwt hwu

/-- Whoever tells was voted for with the code that it ends with. -/
theorem holding_of_tells [BinaryFormat] [IdSource] (h : Traced codec start t) {d : Deed ξ}
    (hd : t.deeds[p]? = some d) {then_ : Traffic ξ} {c : Caller} {call : Call Transaction}
    (moment : t.Moment codec start p d then_ c call) (htold : d.told ≠ []) {written : Symbol}
    (hwrote : Wrote t d.caller written) : Holding then_ d.caller written.code := by
  obtain ⟨c', hc', hended, hkind⟩ := hwrote
  obtain ⟨_, voted, u, m, hcall, hdm, htells⟩ := moment.of_tells htold
  obtain ⟨c'', hc'', hwhat⟩ := moment.kept d.caller c moment.caller
  cases hc'.symm.trans hc''
  have hs := moment.standing
  rw [hcall, ← hwhat] at hs
  obtain ⟨_, hholds, hp, _, _⟩ := hs
  have hmem : (c.what.kind.topic, m) ∈ t.told d.caller := by
    refine List.mem_flatMap.mpr ⟨d, Lawful.mem_deedsOf.mpr ⟨List.mem_of_getElem? hd, rfl⟩, ?_⟩
    rw [hdm]
    exact List.mem_singleton_self _
  rw [← hwhat] at htells
  refine ⟨u.tx, ?_, hp, ?_⟩
  · rw [tx?, moment.caller, Option.bind_some, hcall]
    rfl
  · rw [← htells.code_eq (h.tellsOf_of_mem hc' hended hmem).2]
    exact hholds.writes hkind

/-- So was whoever has told and not committed yet. -/
theorem holding_of_open [BinaryFormat] [IdSource] (h : Traced codec start t) {d : Deed ξ}
    {then_ : Traffic ξ} {c : Caller} {call : Call Transaction}
    (moment : t.Moment codec start p' d then_ c call) (hp : t.TellsAt k p) (hlt : p < p')
    (hopen : ∀ q, t.CommitsAt k q → p' < q) {written : Symbol} (hwrote : Wrote t k written) :
    Holding then_ k written.code := by
  obtain ⟨c', hc', hended, hkind⟩ := hwrote
  obtain ⟨e, he, rfl, htold⟩ := hp
  have hmem := (moment.mem_deedsOf_iff e.caller e).mpr ⟨p, hlt, he, rfl⟩
  obtain ⟨c₀, hc₀⟩ : ∃ c₀, then_.callers[e.caller]? = some c₀ :=
    ⟨_, List.getElem?_eq_getElem (moment.lawful.known e (Lawful.mem_deedsOf.mp hmem).1)⟩
  -- by then its event was told and its commit was still to come
  have huncommitted : (then_.deedsOf e.caller).filter Deed.commits = [] := by
    refine List.filter_eq_nil_iff.mpr fun f hf hcommits => ?_
    obtain ⟨q, hq, hfq, hfk⟩ := (moment.mem_deedsOf_iff e.caller f).mp hf
    exact absurd (hopen q ⟨f, hfq, hfk, hcommits⟩) (Nat.not_lt.mpr (Nat.le_of_lt hq))
  have hs := moment.lawful.standing e.caller c₀ hc₀
  obtain ⟨voted, u, hleave⟩ := hs.leave_of_told
    (fun hn => htold (List.flatMap_eq_nil_iff.mp hn e hmem)) huncommitted
  obtain ⟨c'', hc'', hwhat⟩ := moment.kept e.caller c₀ hc₀
  cases hc'.symm.trans hc''
  rw [hleave, ← hwhat] at hs
  obtain ⟨hholds, hprepared, _, m, htells, hdoings⟩ := hs
  have hm : (c'.what.kind.topic, m) ∈ (then_.deedsOf e.caller).flatMap Deed.told := by
    rw [hdoings.told]
    exact List.mem_singleton_self _
  obtain ⟨f, hf, hfm⟩ := List.mem_flatMap.mp hm
  have hmtold := List.mem_flatMap.mpr ⟨f, moment.deedsOf_subset _ hf, hfm⟩
  refine ⟨u.tx, ?_, hprepared, ?_⟩
  · rw [tx?, hc₀, Option.bind_some, hleave]
    rfl
  · rw [← htells.code_eq (h.tellsOf_of_mem hc' hended hmtold).2]
    exact hholds.writes hkind

/-- **Whoever tells while another call is between its event and its commit writes another code.** -/
theorem code_ne_of_open [BinaryFormat] [IdSource] (h : Traced codec start t) (hjk : j ≠ k) {a b : Symbol}
    (ha : Wrote t j a) (hb : Wrote t k b) (hp : t.TellsAt j p) (hp' : t.TellsAt k p') (hlt : p < p')
    (hopen : ∀ q, t.CommitsAt j q → p' < q) : a.code ≠ b.code := by
  obtain ⟨e, he, rfl, htold⟩ := hp'
  obtain ⟨then_, c, call, moment⟩ := h.moments p' e he
  intro hcode
  have hj := h.holding_of_open moment hp hlt hopen ha
  rw [hcode] at hj
  exact hjk (holding_unique moment.lawful hj (h.holding_of_tells he moment htold hb))

end Traced

/-! ## Updates of one symbol -/

/-- Whether a call has changed a symbol, and what it made of it. -/
def Updated (t : Traffic ξ) (id : Int64) (k : Nat) (written : Symbol) : Prop :=
  ∃ c, t.callers[k]? = some c ∧ c.call = .ended (.ok written) ∧ written.id = id ∧ c.what.kind = .updated

/-- Whether two calls overlap: each tells its event before the other has committed. -/
def Overlap (t : Traffic ξ) (j k : Nat) : Prop :=
  ∃ p p' q q', t.TellsAt j p ∧ t.TellsAt k p' ∧ t.CommitsAt j q ∧ t.CommitsAt k q' ∧ p < q' ∧ p' < q

/-- Whether no two updates of a symbol with different codes overlap. -/
def Serial (t : Traffic ξ) (id : Int64) : Prop :=
  ∀ j k a b, j ≠ k → t.Updated id j a → t.Updated id k b → a.code ≠ b.code → ¬ t.Overlap j k

/-- Whether nobody has written a symbol but by changing it. -/
def OnlyUpdated (t : Traffic ξ) (id : Int64) : Prop :=
  ∀ c ∈ t.callers, ∀ written, c.call = .ended (.ok written) → written.id = id → c.what.kind = .updated

/-- Whether some facts are those of the last event of a log that says that a symbol was changed. -/
def LastChange [BinaryFormat] (log : List (String × Message)) (id : Int64) (facts : EventFacts) : Prop :=
  ∃ before m after, log = before ++ (EventKind.updated.topic, m) :: after ∧
    Event.decode m = .ok (.updated facts) ∧ facts.id = id ∧
    ∀ e ∈ after, ∀ later, Event.decode e.2 = .ok (.updated later) → later.id ≠ id

theorem Updated.wrote {t : Traffic ξ} {id : Int64} {k : Nat} {written : Symbol}
    (h : t.Updated id k written) : Traced.Wrote t k written := by
  obtain ⟨c, hc, hended, _, hkind⟩ := h
  refine ⟨c, hc, hended, ?_⟩
  rw [hkind]
  decide

namespace Traced

variable {codec : Codec} {start : World ξ} {t : Traffic ξ} {id : Int64} {j k p p' q q' : Nat}
  {a b : Symbol}

/-- A successful update has told its event and then committed. -/
theorem exists_tellsAt [BinaryFormat] [IdSource] (h : Traced codec start t) (hk : t.Updated id k a) :
    ∃ p q, t.TellsAt k p ∧ t.CommitsAt k q ∧ p < q := by
  obtain ⟨c, hc, hended, _, _⟩ := hk
  have hdone := h.lawful.carriedOut hc hended
  obtain ⟨m, htold, _⟩ := hdone.told
  obtain ⟨d, hcommits, _⟩ := hdone.applied
  have hm : (c.what.kind.topic, m) ∈ t.told k := by
    rw [htold]
    exact List.mem_singleton_self _
  obtain ⟨e, he, hem⟩ := List.mem_flatMap.mp hm
  have hd : d ∈ t.commits k := by
    rw [hcommits]
    exact List.mem_singleton_self _
  obtain ⟨hdk, hdc⟩ := List.mem_filter.mp hd
  obtain ⟨hemem, hek⟩ := Lawful.mem_deedsOf.mp he
  obtain ⟨hdmem, hdk⟩ := Lawful.mem_deedsOf.mp hdk
  obtain ⟨p, hp⟩ := List.getElem?_of_mem hemem
  obtain ⟨q, hq⟩ := List.getElem?_of_mem hdmem
  have htells : t.TellsAt k p := ⟨e, hp, hek, List.ne_nil_of_mem hem⟩
  have hcommitsAt : t.CommitsAt k q := ⟨d, hq, hdk, hdc⟩
  exact ⟨p, q, htells, hcommitsAt, h.tellsAt_lt_commitsAt htells hcommitsAt⟩

/-- Two updates with one code never overlap. -/
theorem not_overlap_of_code_eq [BinaryFormat] [IdSource] (h : Traced codec start t) (hjk : j ≠ k)
    (ha : Wrote t j a) (hb : Wrote t k b) (hcode : a.code = b.code) : ¬ t.Overlap j k := by
  rintro ⟨p, p', q, q', hp, hp', hq, hq', hlt, hlt'⟩
  obtain hfirst | heq | hsecond := Nat.lt_trichotomy p p'
  · refine h.code_ne_of_open hjk ha hb hp hp' hfirst (fun r hr => ?_) hcode
    rwa [h.commitsAt_unique hr hq]
  · exact tellsAt_ne hjk hp hp' heq
  · refine h.code_ne_of_open hjk.symm hb ha hp' hp hsecond (fun r hr => ?_) hcode.symm
    rwa [h.commitsAt_unique hr hq']

/-- **Updates that do not overlap tell and commit in one order.** -/
theorem in_order [BinaryFormat] [IdSource] (h : Traced codec start t) (hno : ¬ t.Overlap j k)
    (hp : t.TellsAt j p) (hp' : t.TellsAt k p') (hq : t.CommitsAt j q) (hq' : t.CommitsAt k q') :
    p < p' ↔ q < q' := by
  have hj := h.tellsAt_lt_commitsAt hp hq
  have hk := h.tellsAt_lt_commitsAt hp' hq'
  have hapart : ¬ (p < q' ∧ p' < q) := fun ⟨hlt, hlt'⟩ =>
    hno ⟨p, p', q, q', hp, hp', hq, hq', hlt, hlt'⟩
  omega

theorem not_overlap_of_serial [BinaryFormat] [IdSource] (h : Traced codec start t) (serial : t.Serial id)
    (hjk : j ≠ k) (hj : t.Updated id j a) (hk : t.Updated id k b) : ¬ t.Overlap j k := by
  by_cases hcode : a.code = b.code
  · exact h.not_overlap_of_code_eq hjk hj.wrote hk.wrote hcode
  · exact serial j k a b hjk hj hk hcode

end Traced

/-- An element of a list made of pieces is in some piece, and the pieces after it are after it. -/
theorem exists_piece {α β : Type} {f : α → List β} {m : β} {before after : List β} :
    ∀ {xs : List α}, xs.flatMap f = before ++ m :: after →
      ∃ us d vs, xs = us ++ d :: vs ∧ m ∈ f d ∧ vs.flatMap f ⊆ after
  | [], h => by simp at h
  | x :: xs, h => by
    rw [List.flatMap_cons] at h
    obtain ⟨mid, rfl, hxs⟩ | ⟨mid, hfx, hmid⟩ := List.append_eq_append_iff.mp h
    · obtain ⟨us, d, vs, rfl, hm, hsub⟩ := exists_piece hxs
      exact ⟨x :: us, d, vs, rfl, hm, hsub⟩
    · cases mid with
      | nil =>
        have hxs : xs.flatMap f = [] ++ m :: after := hmid.symm
        obtain ⟨us, d, vs, rfl, hm, hsub⟩ := exists_piece hxs
        exact ⟨x :: us, d, vs, rfl, hm, hsub⟩
      | cons y mid =>
        cases hmid
        refine ⟨[], x, xs, rfl, ?_, List.subset_append_right mid _⟩
        rw [hfx]
        exact List.mem_append_right _ List.mem_cons_self

/-- The last change that a log tells of is in its later part, if any is. -/
theorem LastChange.of_append [BinaryFormat] {earlier later : List (String × Message)} {id : Int64}
    {facts : EventFacts} (h : LastChange (earlier ++ later) id facts) {e : String × Message} (he : e ∈ later)
    {changed : EventFacts} (hdecode : Event.decode e.2 = .ok (.updated changed)) (hid : changed.id = id) :
    LastChange later id facts := by
  obtain ⟨before, m, after, heq, hfacts, hfid, hlast⟩ := h
  obtain ⟨mid, rfl, hlater⟩ | ⟨mid, rfl, hafter⟩ := List.append_eq_append_iff.mp heq
  · exact ⟨mid, m, after, hlater, hfacts, hfid, hlast⟩
  · cases mid with
    | nil => exact ⟨[], m, after, hafter.symm, hfacts, hfid, hlast⟩
    | cons x mid =>
      cases hafter
      exact absurd hid (hlast e (List.mem_append_right _ he) changed hdecode)

namespace Traced

variable {codec : Codec} {start : World ξ} {t : Traffic ξ} {id : Int64} {j k p p' q q' : Nat}
  {a b : Symbol}

/-- What an update has told says what it made of the symbol. -/
theorem decode_of_updated [BinaryFormat] [IdSource] (h : Traced codec start t) (hk : t.Updated id k a)
    {topic : String} {m : Message} (hm : (topic, m) ∈ t.told k) :
    ∃ now, Event.decode m = .ok (.updated ⟨a.id, a.name, a.code, a.description, now⟩) := by
  obtain ⟨c, hc, hended, _, hkind⟩ := hk
  obtain ⟨now, hdecode⟩ := (h.tellsOf_of_mem hc hended hm).2
  rw [hkind] at hdecode
  exact ⟨now, hdecode⟩

/-- Where an update has told something, it says what it made of the symbol. -/
theorem exists_entry [BinaryFormat] [IdSource] (h : Traced codec start t) (hk : t.Updated id k a)
    (hp : t.TellsAt k p) :
    ∃ d entry now, t.deeds[p]? = some d ∧ entry ∈ d.told ∧
      Event.decode entry.2 = .ok (.updated ⟨id, a.name, a.code, a.description, now⟩) := by
  obtain ⟨d, hd, rfl, htold⟩ := hp
  obtain ⟨entry, hentry⟩ := List.exists_mem_of_ne_nil _ htold
  obtain ⟨now, hsays⟩ := h.decode_of_updated hk
    (List.mem_flatMap.mpr ⟨d, Lawful.mem_deedsOf.mpr ⟨List.mem_of_getElem? hd, rfl⟩, hentry⟩)
  obtain ⟨_, _, _, rfl, _⟩ := hk
  exact ⟨d, entry, now, hd, hentry, hsays⟩

/-- Nobody who has changed the symbol told after the last event that says so. -/
theorem le_of_tellsAt [BinaryFormat] [IdSource] (h : Traced codec start t) {us vs : List (Deed ξ)}
    {d : Deed ξ} (hdeeds : t.deeds = us ++ d :: vs)
    (hlast : ∀ e ∈ vs.flatMap Deed.told, ∀ later, Event.decode e.2 = .ok (.updated later) →
      later.id ≠ id)
    (hk : t.Updated id k a) (hp : t.TellsAt k p) : p ≤ us.length := by
  obtain ⟨f, entry, now, hf, hentry, hsays⟩ := h.exists_entry hk hp
  refine Nat.not_lt.mp fun hlt => ?_
  have hfvs : f ∈ vs := by
    rw [hdeeds, List.getElem?_append_right (Nat.le_of_lt hlt)] at hf
    obtain ⟨n, hn⟩ : ∃ n, p - us.length = n + 1 := ⟨p - us.length - 1, by omega⟩
    rw [hn, List.getElem?_cons_succ] at hf
    exact List.mem_of_getElem? hf
  exact hlast entry (List.mem_flatMap.mpr ⟨f, hfvs, hentry⟩) _ hsays rfl

/-- Once all calls have returned, whoever told that a symbol was changed has changed it. -/
theorem updated_of_told [BinaryFormat] [IdSource] (h : Traced codec start t) (settled : t.Settled)
    {d : Deed ξ} (hd : d ∈ t.deeds) {topic : String} {m : Message} (hm : (topic, m) ∈ d.told)
    {facts : EventFacts} (hdecode : Event.decode m = .ok (.updated facts)) :
    ∃ a, t.Updated facts.id d.caller a ∧ a.name = facts.name ∧ a.code = facts.code ∧
      a.description = facts.description := by
  obtain ⟨c, hc⟩ : ∃ c, t.callers[d.caller]? = some c := ⟨_, List.getElem?_eq_getElem (h.lawful.known d hd)⟩
  have htold : (topic, m) ∈ t.told d.caller :=
    List.mem_flatMap.mpr ⟨d, Lawful.mem_deedsOf.mpr ⟨hd, rfl⟩, hm⟩
  obtain ⟨outcome, hended⟩ := settled c (List.mem_of_getElem? hc)
  obtain ⟨a, rfl, hdone⟩ | ⟨e, rfl, hfailed⟩ := h.lawful.returned hc hended
  · obtain ⟨now, hsame⟩ := (h.tellsOf_of_mem hc hended htold).2
    have hevent := Except.ok.inj (hdecode.symm.trans hsame)
    have hkind : c.what.kind = .updated := by
      rw [← Event.kind_ofSymbol c.what.kind a now, ← hevent]
      rfl
    rw [hkind] at hevent
    cases hevent
    exact ⟨a, ⟨c, hc, hended, rfl, hkind⟩, rfl, rfl, rfl⟩
  · rw [hfailed.untold] at htold
    cases htold

end Traced

namespace Chronicle

variable {start : World ξ} {t : Traffic ξ} {id : Int64} {k q : Nat} {a : Symbol} {e : Deed ξ}

/-- A split of the steps at a position. -/
theorem split_at (hq : t.deeds[q]? = some e) : t.deeds = t.deeds.take q ++ e :: t.deeds.drop (q + 1) := by
  obtain ⟨hlt, rfl⟩ := List.getElem?_eq_some_iff.mp hq
  rw [← List.drop_eq_getElem_cons hlt, List.take_append_drop]

/-- The commit of an update leaves what it made of the symbol. -/
theorem row_of_commit [BinaryFormat] (h : Chronicle start t) (hk : t.Updated id k a) (hq : t.CommitsAt k q) :
    ∃ e, t.deeds[q]? = some e ∧ e.after.store.rows.get? id = some a := by
  obtain ⟨c, hc, hended, rfl, hkind⟩ := hk
  obtain ⟨e, he, rfl, hcommits⟩ := hq
  obtain ⟨c', written, hcommitted⟩ := h.committed _ e _ (split_at he) hcommits
  cases hc.symm.trans hcommitted.caller
  cases hended.symm.trans hcommitted.ended
  refine ⟨e, he, ?_⟩
  rw [hcommitted.rows, Store.get?_applyWrite, if_pos rfl]
  cases hwhat : c.what with
  | update _ => rfl
  | create _ | delete _ =>
    rw [hwhat] at hkind
    cases hkind

/-- After the last commit of an update the row stays, if nobody else writes the symbol. -/
theorem row_kept [BinaryFormat] (h : Chronicle start t) (only : t.OnlyUpdated id) (he : t.deeds[q]? = some e)
    (last : ∀ k a q', t.Updated id k a → t.CommitsAt k q' → q' ≤ q) :
    t.world.store.rows.get? id = e.after.store.rows.get? id := by
  -- otherwise some later step changed the row, and only the commit of an update does
  refine Classical.byContradiction fun hne => ?_
  have hlinked := h.linked
  rw [split_at he] at hlinked
  have hdeeds : t.deeds = (t.deeds.take q ++ [e]) ++ (t.deeds.drop (q + 1) ++ []) := by
    rw [List.append_nil, List.append_assoc]
    exact split_at he
  obtain ⟨as, f, bs, c, written, hdrop, hcommits, hcommitted, hid⟩ :=
    h.exists_committed_of_ne hdeeds hlinked.split.2 hne
  have hsplit : t.deeds = (t.deeds.take q ++ e :: as) ++ f :: bs := by
    rw [List.append_assoc, List.cons_append, ← hdrop]
    exact split_at he
  have hupdated : t.Updated id f.caller written :=
    ⟨c, hcommitted.caller, hcommitted.ended, hid,
      only c (List.mem_of_getElem? hcommitted.caller) written hcommitted.ended hid⟩
  have hlt : q < t.deeds.length := (List.getElem?_eq_some_iff.mp he).1
  have hlength : (t.deeds.take q ++ e :: as).length = q + 1 + as.length := by
    rw [List.length_append, List.length_take, Nat.min_eq_left (Nat.le_of_lt hlt), List.length_cons]
    omega
  have hat : t.deeds[q + 1 + as.length]? = some f := by
    rw [hsplit, ← hlength, List.getElem?_append_right (Nat.le_refl _), Nat.sub_self]
    rfl
  have hle := last f.caller written _ hupdated ⟨f, hat, rfl, hcommits⟩
  omega

end Chronicle

namespace Traced

variable {codec : Codec} {start : World ξ} {t : Traffic ξ} {id : Int64}

/-- **Unless two updates with different codes overlap, the row is what the last event says.** -/
theorem row_of_lastChange [BinaryFormat] [IdSource] (h : Traced codec start t) (chronicle : Chronicle start t)
    (only : t.OnlyUpdated id) (settled : t.Settled) (serial : t.Serial id) {facts : EventFacts}
    (last : LastChange (t.deeds.flatMap Deed.told) id facts) :
    ∃ row, t.world.store.rows.get? id = some row ∧ row.name = facts.name ∧ row.code = facts.code ∧
      row.description = facts.description := by
  obtain ⟨before, m, after, heq, hdecode, rfl, hlast⟩ := last
  obtain ⟨us, d, vs, hdeeds, hm, hafter⟩ := exists_piece heq
  have hdmem : d ∈ t.deeds := by
    rw [hdeeds]
    exact List.mem_append_right _ List.mem_cons_self
  obtain ⟨a, hupdated, hname, hcode, hdescription⟩ := h.updated_of_told settled hdmem hm hdecode
  refine ⟨a, ?_, hname, hcode, hdescription⟩
  have htells : t.TellsAt d.caller us.length := by
    refine ⟨d, ?_, rfl, List.ne_nil_of_mem hm⟩
    rw [hdeeds, List.getElem?_append_right (Nat.le_refl _), Nat.sub_self]
    rfl
  obtain ⟨_, q, _, hq, _⟩ := h.exists_tellsAt hupdated
  obtain ⟨e, he, hrow⟩ := chronicle.row_of_commit hupdated hq
  rw [chronicle.row_kept only he fun k b q' hk hq' => ?_, hrow]
  -- whoever commits later has told later, but nobody has
  refine Nat.not_lt.mp fun hlater => ?_
  have hkd : d.caller ≠ k := by
    rintro rfl
    exact Nat.ne_of_gt hlater (h.commitsAt_unique hq' hq)
  obtain ⟨p, _, hp, _, _⟩ := h.exists_tellsAt hk
  have hlt : us.length < p :=
    (h.in_order (h.not_overlap_of_serial serial hkd hupdated hk) htells hp hq hq').mpr hlater
  have hle := h.le_of_tellsAt hdeeds (fun entry he => hlast entry (hafter he)) hk hp
  omega

end Traced

/-- **Updates of one symbol tell and commit in one order unless two with different codes overlap.** The
log holds the events in the order in which they were told; each successful update has told one event and
committed later; two of them tell and commit in the same order if they have one code or do not overlap;
and once all calls have returned, the row has name, code and description of the last event, if no two
with different codes overlap and the symbol is written by updates only. -/
theorem updates_in_order_unless_overlapping [BinaryFormat] [IdSource] (codec : Codec)
    (validator : Symbol → Except ValidationError Unit) {start : World ξ} (atRest : AtRest start.store)
    (moves : List Move) (id : Int64) :
    let t := run (SymbolService.direct codec validator) start moves
    t.world.queue.log = start.queue.log ++ t.deeds.flatMap Deed.told ∧
    (∀ k a, t.Updated id k a → ∃ p q, t.TellsAt k p ∧ t.CommitsAt k q ∧ p < q ∧
      (∀ p', t.TellsAt k p' → p' = p) ∧ ∀ q', t.CommitsAt k q' → q' = q) ∧
    (∀ j k a b, j ≠ k → t.Updated id j a → t.Updated id k b → (a.code = b.code ∨ ¬ t.Overlap j k) →
      ∀ p p' q q', t.TellsAt j p → t.TellsAt k p' → t.CommitsAt j q → t.CommitsAt k q' →
        (p < p' ↔ q < q')) ∧
    (t.OnlyUpdated id → t.Settled → t.Serial id → (∃ k a, t.Updated id k a) →
      ∀ facts, LastChange t.world.queue.log id facts →
        ∃ row, t.world.store.rows.get? id = some row ∧ row.name = facts.name ∧ row.code = facts.code ∧
          row.description = facts.description) := by
  intro t
  have traced : Traced codec start t := traced_run codec validator atRest moves
  have chronicle : Chronicle start t := chronicle_run codec validator atRest moves
  refine ⟨traced.lawful.log, ?_, ?_, ?_⟩
  · intro k a hk
    obtain ⟨p, q, hp, hq, hlt⟩ := traced.exists_tellsAt hk
    exact ⟨p, q, hp, hq, hlt, fun p' hp' => traced.tellsAt_unique hp' hp,
      fun q' hq' => traced.commitsAt_unique hq' hq⟩
  · intro j k a b hjk hj hk hapart p p' q q' hp hp' hq hq'
    have hno : ¬ t.Overlap j k := by
      rcases hapart with hcode | hno
      · exact traced.not_overlap_of_code_eq hjk hj.wrote hk.wrote hcode
      · exact hno
    exact traced.in_order hno hp hp' hq hq'
  · rintro only settled serial ⟨k, a, hk⟩ facts last
    obtain ⟨p, _, hp, _, _⟩ := traced.exists_tellsAt hk
    obtain ⟨d, entry, now, hd, hentry, hsays⟩ := traced.exists_entry hk hp
    have htold := List.mem_flatMap.mpr ⟨d, List.mem_of_getElem? hd, hentry⟩
    rw [traced.lawful.log] at last
    exact traced.row_of_lastChange chronicle only settled serial (last.of_append htold hsays rfl)

/-- A world with one symbol. -/
def stockedWorld : World Unit :=
  { quietWorld with
    store :=
      { rows := Table.empty.insert 1 ⟨1, "Bitcoin", "BTC", "", .epoch, .epoch⟩
        nextId := 2 } }

theorem stockedWorld_atRest : AtRest stockedWorld.store where
  keyed := fun id row hrow => by
    rw [stockedWorld, Table.get?_insert_eq] at hrow
    split at hrow
    · rename_i hid
      cases hrow
      exact hid.symm
    · cases hrow
  distinct := fun i j row other hrow hother _ => by
    rw [stockedWorld, Table.get?_insert_eq] at hrow hother
    split at hrow
    · split at hother
      · rename_i hi hj
        rw [hi, hj]
      · cases hother
    · cases hrow
  unreserved := rfl

/-- The symbol under a new code. -/
def recoded (code : String) (at_ : Time) : Symbol := ⟨1, "Bitcoin", code, "", .epoch, at_⟩

/-- Two clients give the symbol new codes. -/
def recodings (steps : List Nat) : List Move :=
  .call { scope := 1 } (.update (recoded "XBT" .epoch)) ::
    .call { scope := 2 } (.update (recoded "XXB" .epoch)) :: steps.map .step

/-- The second begins while the first has told and not committed, and is voted for afterwards. -/
def recodedInTurn : Traffic Unit :=
  run (SymbolService.direct .default Symbol.validate) stockedWorld
    (recodings [0, 0, 0, 0, 1, 1, 0, 1, 1, 1])

/-- The second is voted for, tells and commits while the first has told and not committed. -/
def recodedAcross : Traffic Unit :=
  run (SymbolService.direct .default Symbol.validate) stockedWorld
    (recodings [0, 0, 0, 0, 1, 1, 1, 1, 1, 0])

/-- Both clients succeed. -/
def bothRecoded : List Caller :=
  [⟨{ scope := 1 }, .update (recoded "XBT" .epoch), .ended (.ok (recoded "XBT" .epoch))⟩,
    ⟨{ scope := 2 }, .update (recoded "XXB" .epoch), .ended (.ok (recoded "XXB" Time.epoch.next.next))⟩]

theorem bothRecoded_settled {t : Traffic Unit} (callers : t.callers = bothRecoded) :
    t.Settled ∧ t.OnlyUpdated 1 := by
  refine ⟨fun c hc => ?_, fun c hc written _ _ => ?_⟩ <;>
    simp only [callers, bothRecoded, List.mem_cons, List.not_mem_nil, or_false] at hc
  · rcases hc with rfl | rfl <;> exact ⟨_, rfl⟩
  · rcases hc with rfl | rfl <;> rfl

theorem updated_cases {t : Traffic Unit} (callers : t.callers = bothRecoded) {k : Nat} {a : Symbol}
    (h : t.Updated 1 k a) : k = 0 ∨ k = 1 := by
  obtain ⟨c, hc, _⟩ := h
  have hlt := (List.getElem?_eq_some_iff.mp hc).1
  rw [callers] at hlt
  have hlength : bothRecoded.length = 2 := rfl
  omega

theorem recodedInTurn_agree :
    AtRest stockedWorld.store ∧ recodedInTurn.OnlyUpdated 1 ∧ recodedInTurn.Settled ∧
      recodedInTurn.Serial 1 ∧ (∃ k a, recodedInTurn.Updated 1 k a) ∧
      ∀ facts, LastChange recodedInTurn.world.queue.log 1 facts →
        ∃ row, recodedInTurn.world.store.rows.get? 1 = some row ∧ row.name = facts.name ∧
          row.code = facts.code ∧ row.description = facts.description := by
  have callers : recodedInTurn.callers = bothRecoded := rfl
  obtain ⟨settled, only⟩ := bothRecoded_settled callers
  have updated : recodedInTurn.Updated 1 0 (recoded "XBT" .epoch) := ⟨_, rfl, rfl, rfl, rfl⟩
  have committed : recodedInTurn.CommitsAt 0 6 := ⟨_, rfl, rfl, rfl⟩
  have told : recodedInTurn.TellsAt 1 8 := ⟨_, rfl, rfl, List.isEmpty_eq_false_iff.mp rfl⟩
  have traced : Traced .default stockedWorld recodedInTurn :=
    traced_run .default Symbol.validate stockedWorld_atRest _
  have serial : recodedInTurn.Serial 1 := by
    rintro j k a b hjk hj hk - ⟨p, p', q, q', hp, hp', hq, hq', hlt, hlt'⟩
    rcases updated_cases callers hj with rfl | rfl <;> rcases updated_cases callers hk with rfl | rfl
    · exact hjk rfl
    · have h₈ := traced.tellsAt_unique hp' told
      have h₆ := traced.commitsAt_unique hq committed
      omega
    · have h₈ := traced.tellsAt_unique hp told
      have h₆ := traced.commitsAt_unique hq' committed
      omega
    · exact hjk rfl
  exact ⟨stockedWorld_atRest, only, settled, serial, ⟨0, _, updated⟩,
    (updates_in_order_unless_overlapping .default Symbol.validate stockedWorld_atRest
      (recodings [0, 0, 0, 0, 1, 1, 0, 1, 1, 1]) 1).2.2.2 only settled serial ⟨0, _, updated⟩⟩

/-- **Updates that overlap may tell in one order and commit in the other**, and then the row is not what
the last event says. -/
theorem recodedAcross_disagree :
    AtRest stockedWorld.store ∧ recodedAcross.Settled ∧ recodedAcross.OnlyUpdated 1 ∧
      (∃ a b, recodedAcross.Updated 1 0 a ∧ recodedAcross.Updated 1 1 b) ∧
      (∃ p p' q q', recodedAcross.TellsAt 0 p ∧ recodedAcross.TellsAt 1 p' ∧
        recodedAcross.CommitsAt 0 q ∧ recodedAcross.CommitsAt 1 q' ∧ p < p' ∧ q' < q) ∧
      (∃ facts, LastChange recodedAcross.world.queue.log 1 facts ∧ facts.code = "XXB") ∧
      ∃ row, recodedAcross.world.store.rows.get? 1 = some row ∧ row.code = "XBT" := by
  have callers : recodedAcross.callers = bothRecoded := rfl
  obtain ⟨settled, only⟩ := bothRecoded_settled callers
  have first : recodedAcross.Updated 1 0 (recoded "XBT" .epoch) := ⟨_, rfl, rfl, rfl, rfl⟩
  have second : recodedAcross.Updated 1 1 (recoded "XXB" Time.epoch.next.next) := ⟨_, rfl, rfl, rfl, rfl⟩
  have traced : Traced .default stockedWorld recodedAcross :=
    traced_run .default Symbol.validate stockedWorld_atRest _
  obtain ⟨c, hc, hended, _, hkind⟩ := second
  obtain ⟨m, htold, _⟩ := (traced.lawful.carriedOut hc hended).told
  rw [hkind] at htold
  have hlog : recodedAcross.world.queue.log =
      recodedAcross.world.queue.log.take 1 ++ recodedAcross.told 1 := rfl
  obtain ⟨now, hsays⟩ := traced.decode_of_updated ⟨c, hc, hended, rfl, hkind⟩
    (htold ▸ List.mem_singleton_self _)
  refine ⟨stockedWorld_atRest, settled, only, ⟨_, _, first, c, hc, hended, rfl, hkind⟩,
    ⟨3, 7, 9, 8, ⟨_, rfl, rfl, ?_⟩, ⟨_, rfl, rfl, ?_⟩, ⟨_, rfl, rfl, rfl⟩, ⟨_, rfl, rfl, rfl⟩,
      by decide, by decide⟩, ?_, ⟨_, rfl, rfl⟩⟩
  · exact List.isEmpty_eq_false_iff.mp rfl
  · exact List.isEmpty_eq_false_iff.mp rfl
  · rw [htold] at hlog
    exact ⟨_, ⟨_, m, [], hlog, hsays, rfl, fun e he => nomatch he⟩, rfl⟩

end Traffic

end SymbolRelay
