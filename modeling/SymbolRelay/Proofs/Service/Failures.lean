import SymbolRelay.Proofs.Service.Contention

/-!
# Why calls fail

A call that fails either finds that what it asks for cannot be had, or something hinders it: its context
belongs to another unit of work, something was cancelled, the store refuses commits, or the queue takes
no messages. Only the latter failures are worth another try. A creation that is not hindered fails over
its code alone, and then somebody else has it.

## Results

* `StepsTo.hindered` — a call that fails in a way worth another try was hindered;
* `StepsTo.taken` — a creation that fails in another way finds its code taken;
* `decided_run` — after any moves every failure worth another try has its hindrance, and a code that no
  creation was hindered from getting was promised to one as soon as another has failed over it.
-/

set_option autoImplicit false

namespace SymbolRelay

variable {ξ : Type}

/-- What can keep a call from being carried out, whatever it asks for. -/
inductive Hindered (ctx : Context) (w : World ξ) : Prop
  | nested (h : ctx.inTransaction = true)
  | cancelled (h : w.scopes.cancelled ≠ [])
  | refusing (h : w.store.refusing = true)
  | closed (h : w.queue.closed = true)
  | rejecting (h : 0 < w.queue.rejecting)

theorem Context.cancelled_ne_nil {ctx : Context} {scopes : Scopes} (h : ctx.isCancelled scopes = true) :
    scopes.cancelled ≠ [] := by
  intro hnil
  simp [isCancelled, hnil] at h

theorem Queue.closed_or_rejecting {q queue : Queue} {topic : String} {m : Message} {e : BrokerError}
    (h : q.publish topic m = (.error e, queue)) : q.closed = true ∨ 0 < q.rejecting := by
  unfold publish at h
  split at h
  · rename_i hclosed
    exact .inl hclosed
  · split at h
    · rename_i hrejecting
      exact .inr hrejecting
    · cases h

namespace SymbolService

variable {codec : Codec} {ctx : Context} {ds : List (Deed ξ)} {c c' : Call Transaction}
  {w w' : World ξ} {e : DomainError}

theorem not_retryable_of_carryOut {s : Store} {tx : Transaction} {now : Time} {change : Change}
    {cause : DataError} (h : carryOut s tx now change = .error cause) :
    (DomainError.ofData cause).isRetryable = false := by
  cases change with
  | create symbol =>
    obtain ⟨_, rfl⟩ := (Store.create_error_iff _ _ _ _ _).mp h
    rfl
  | update symbol =>
    simp only [carryOut, Store.update] at h
    split at h
    · cases h
      rfl
    · split at h <;> cases h
      rfl
  | delete id existing =>
    simp only [carryOut, Store.delete] at h
    split at h <;> cases h
    rfl

theorem prepare_error {s : Store} {tx : Transaction} {cause : DataError}
    (h : s.prepare tx = .error cause) :
    s.refusing = true ∨ (s.conflict tx ≠ none ∧ (DomainError.ofData cause).isRetryable = false) := by
  unfold Store.prepare at h
  split at h
  · rename_i href
    exact .inl href
  · split at h
    · rename_i code hcode
      cases h
      exact .inr ⟨by rw [hcode]; exact Option.some_ne_none code, rfl⟩
    · cases h

namespace StepsTo

/-- A call that failed does not recover. -/
theorem failure [BinaryFormat] [IdSource] (h : StepsTo codec ctx c w c' w') (hf : c.failure? = some e) :
    c'.failure? = some e := by
  cases h with
  | rolledBack | rested => exact hf
  | _ => cases hf

/-- A call that was voted for is carried out, unless telling about it fails. -/
theorem promised [BinaryFormat] [IdSource] (h : StepsTo codec ctx c w c' w') {written : Symbol}
    (hp : c.promised? = some written) :
    c'.promised? = some written ∨ ∃ e, c'.failure? = some e ∧ e.isRetryable = true := by
  cases h with
  | told _ | committed _ | rested => exact .inl hp
  | untold cause _ => exact .inr ⟨_, rfl, rfl⟩
  | _ => cases hp

/-- **A call that fails in a way worth another try was hindered.** -/
theorem hindered [BinaryFormat] [IdSource] (h : StepsTo codec ctx c w c' w') (hc : c.failure? = none)
    (hf : c'.failure? = some e) (hr : e.isRetryable = true) : Hindered ctx w := by
  cases h with
  | missing _ =>
    cases hf
    cases hr
  | barred _ hbar =>
    exact hbar.elim .nested fun hcancelled => .cancelled (Context.cancelled_ne_nil hcancelled)
  | unstaged hcarry =>
    cases hf
    cases (not_retryable_of_carryOut hcarry).symm.trans hr
  | dropped _ hcancelled => exact .cancelled (Context.cancelled_ne_nil hcancelled)
  | refused hprepare =>
    cases hf
    obtain href | ⟨_, hno⟩ := prepare_error hprepare
    · exact .refusing href
    · cases hno.symm.trans hr
  | untold _ hpub => exact (Queue.closed_or_rejecting hpub).elim .closed .rejecting
  | rolledBack | rested => cases hc.symm.trans hf
  | _ => cases hf

/-- **A creation that fails in another way finds its code in the store**, in a row or reserved. -/
theorem taken [BinaryFormat] [IdSource] {symbol : Symbol} (h : StepsTo codec ctx c w c' w')
    (hs : Standing (.create symbol) ds c) (hc : c.failure? = none) (hf : c'.failure? = some e)
    (hr : e.isRetryable = false) :
    (∃ id row, w.store.rows.get? id = some row ∧ row.code = symbol.code) ∨
      ∃ holder, w.store.reserved.get? symbol.code = some holder := by
  cases h with
  | missing _ => cases hs.1
  | barred _ _ =>
    cases hf
    cases hr
  | @unstaged change u _ cause hcarry =>
    obtain ⟨asks, blank, _⟩ := hs
    cases change with
    | create wanted =>
      obtain rfl : wanted = symbol := asks
      obtain ⟨htaken, _⟩ := (Store.create_error_iff _ _ _ _ _).mp hcarry
      obtain ⟨id, row, hrow, _, _, hcode⟩ | ⟨holder, hholder, _⟩ | ⟨id, other, hother, _⟩ :=
        (Store.codeTaken_iff _ _ _ _).mp htaken
      · exact .inl ⟨id, row, hrow, hcode⟩
      · exact .inr ⟨holder, hholder⟩
      · rw [Transaction.written?, blank, Table.get?_empty] at hother
        cases hother
    | update _ | delete _ _ => exact asks.elim
  | dropped _ _ =>
    cases hf
    cases hr
  | @refused _ written u _ cause hprepare =>
    cases hf
    obtain ⟨_, hholds, _⟩ := hs
    obtain ⟨id, created, updated, hyields⟩ := hholds.1
    have hcode : written.code = symbol.code := by rw [hyields]
    obtain href | ⟨hconflict, _⟩ := prepare_error hprepare
    · -- The store refuses: that is a failure of the first kind.
      rw [Store.prepare, if_pos href] at hprepare
      cases hprepare
      cases hr
    · rw [Ne, Store.conflict_eq_none_iff] at hconflict
      refine Classical.byContradiction fun hno => hconflict fun j other hother => ?_
      obtain ⟨rfl, rfl⟩ := hholds.eq_of_written? hother
      rw [not_or] at hno
      refine Bool.eq_false_iff.mpr fun htaken => ?_
      obtain ⟨id, row, hrow, _, _, hrc⟩ | ⟨holder, hholder, _⟩ | ⟨i, own, hown, hne, _⟩ :=
        (Store.codeTaken_iff _ _ _ _).mp htaken
      · exact hno.1 ⟨id, row, hrow, hrc.trans hcode⟩
      · exact hno.2 ⟨holder, hcode ▸ hholder⟩
      · exact hne (hholds.eq_of_written? hown).1
  | untold _ _ =>
    cases hf
    cases hr
  | rolledBack | rested => cases hc.symm.trans hf
  | _ => cases hf

end StepsTo

end SymbolService

/-! ## Along a run -/

namespace Traffic

/-- Whether no creation with a code failed in a way worth another try. -/
def Unhindered (code : String) (t : Traffic ξ) : Prop :=
  ∀ c ∈ t.callers, ∀ symbol e, c.what = .create symbol → symbol.code = code →
    c.call.failure? = some e → e.isRetryable = false

/-- Whether a call was voted for with a code. -/
def Promised (code : String) (t : Traffic ξ) : Prop :=
  ∃ c ∈ t.callers, ∃ written, c.call.promised? = some written ∧ written.code = code

/-- Why the calls that failed have failed. -/
structure Decided [BinaryFormat] (validator : Symbol → Except ValidationError Unit) (start : World ξ)
    (t : Traffic ξ) :
    Prop where
  contended : Contended start t
  /-- A failure worth another try has its hindrance. -/
  explained : ∀ k c e, t.callers[k]? = some c → c.call.failure? = some e → e.isRetryable = true →
    ∃ d ∈ t.deedsOf k, Hindered c.ctx d.before
  /-- A creation that was not hindered lost its code to another. -/
  claimed : ∀ code, (∀ id row, start.store.rows.get? id = some row → row.code ≠ code) →
    t.OnlyCreates → t.Unhindered code → ∀ c ∈ t.callers, ∀ symbol, c.what = .create symbol →
      symbol.code = code → validator symbol = .ok () → c.call.failure? ≠ none → t.Promised code

namespace Contended

variable {start : World ξ} {t : Traffic ξ}

/-- A code that is in the store was promised, unless it was there at the start. -/
theorem promised_of_taken [BinaryFormat] (h : Contended start t) (only : t.OnlyCreates) {code : String}
    (free : ∀ id row, start.store.rows.get? id = some row → row.code ≠ code)
    (unhindered : t.Unhindered code)
    (ht : (∃ id row, t.world.store.rows.get? id = some row ∧ row.code = code) ∨
      ∃ holder, t.world.store.reserved.get? code = some holder) : t.Promised code := by
  obtain ⟨id, row, hrow, hcode⟩ | ⟨holder, hholder⟩ := ht
  · obtain hstart | ⟨c, hc, hover⟩ := h.sourced only id row hrow
    · exact absurd hcode (free id row hstart)
    · exact ⟨c, hc, row, by rw [hover]; rfl, hcode⟩
  · obtain ⟨j, ux, hu, _, hp, i, symbol, hw, hcode⟩ := h.lawful.accounted code holder hholder
    obtain ⟨c, hc, htx⟩ := Option.bind_eq_some_iff.mp hu
    have hmem := List.mem_of_getElem? hc
    have hs := h.lawful.standing j c hc
    refine ⟨c, hmem, ?_⟩
    cases hcall : c.call with
    | lookup _ | begin _ | ended _ =>
      rw [hcall] at htx
      cases htx
    | stage change u =>
      rw [hcall] at hs htx
      cases htx
      cases hs.2.2.1.symm.trans hp
    | prepare kind written u =>
      rw [hcall] at hs htx
      cases htx
      cases hs.2.2.1.symm.trans hp
    | publish kind written u =>
      rw [hcall] at hs htx
      cases htx
      obtain ⟨_, rfl⟩ := hs.2.1.eq_of_written? hw
      exact ⟨symbol, rfl, hcode⟩
    | leave outcome u =>
      rw [hcall] at hs htx
      cases htx
      cases outcome with
      | panic _ => exact hs.elim
      | ok written =>
        obtain ⟨_, rfl⟩ := hs.1.eq_of_written? hw
        exact ⟨symbol, rfl, hcode⟩
      | error e =>
        -- It was voted for and failed after that, so it was hindered.
        obtain ⟨hretryable, written, hholds⟩ := hs.1 hp
        obtain ⟨_, rfl⟩ := hholds.eq_of_written? hw
        obtain ⟨wanted, hwhat⟩ := only c hmem
        have hyields := hholds.1
        rw [hwhat] at hyields
        obtain ⟨_, _, _, rfl⟩ := hyields
        have hno := unhindered c hmem wanted e.toDomain hwhat hcode (by rw [hcall]; rfl)
        cases hno.symm.trans hretryable

end Contended

namespace Decided

variable {codec : Codec} {validator : Symbol → Except ValidationError Unit} {start : World ξ}
  {t : Traffic ξ}

theorem atStart [BinaryFormat] (h : AtRest start.store) : Decided validator start { world := start } where
  contended := .atStart h
  explained := fun _ _ _ hn => by cases hn
  claimed := fun _ _ _ _ _ hn => by cases hn

theorem start_failure [IdSource] {what : Write} {e : DomainError}
    (hf : ((SymbolService.direct (ξ := ξ) codec validator).start what).failure? = some e) :
    e.isRetryable = false ∧
      ∀ symbol, what = .create symbol → validator symbol ≠ .ok () := by
  have failing : ∀ {checked : Except DomainError Unit} {next : Call Transaction},
      (SymbolService.Call.ofCheck checked next).failure? = some e → next.failure? = none →
        checked = .error e := by
    intro checked next hf hnext
    unfold SymbolService.Call.ofCheck at hf
    split at hf <;> simp_all [Call.failure?]
  cases what with
  | create symbol =>
    have hchecked := failing hf rfl
    simp only [SymbolService.check, SymbolService.direct] at hchecked
    cases hv : validator symbol with
    | ok v =>
      rw [hv] at hchecked
      cases hchecked
    | error fault =>
      rw [hv] at hchecked
      cases hchecked
      refine ⟨rfl, fun other hother => ?_⟩
      cases hother
      rw [hv]
      intro hn
      cases hn
  | update symbol =>
    have hchecked := failing hf rfl
    refine ⟨?_, fun _ hother => by cases hother⟩
    simp only [SymbolService.checkId, SymbolService.check, SymbolService.direct] at hchecked
    split at hchecked
    · cases hchecked
      rfl
    · cases hv : validator symbol with
      | ok v =>
        rw [hv] at hchecked
        cases hchecked
      | error fault =>
        rw [hv] at hchecked
        cases hchecked
        rfl
  | delete id =>
    have hchecked := failing hf rfl
    refine ⟨?_, fun _ hother => by cases hother⟩
    simp only [SymbolService.checkId] at hchecked
    split at hchecked <;> cases hchecked
    rfl

theorem call [BinaryFormat] [IdSource] (h : Decided validator start t) (ctx : Context) (what : Write) :
    Decided validator start (t.move (SymbolService.direct codec validator) (.call ctx what)) := by
  have hmem : ∀ c ∈ t.callers,
      c ∈ (t.move (SymbolService.direct codec validator) (.call ctx what)).callers := fun c hc =>
    List.mem_append_left _ hc
  refine ⟨h.contended.call _ ctx what, ?_, ?_⟩
  · intro k c e hc hf hr
    rcases callers_call hc with hc | ⟨_, rfl⟩
    · exact h.explained k c e hc hf hr
    · cases (start_failure hf).1.symm.trans hr
  · intro code free only unhindered c hc symbol hwhat hcode hvalid hf
    rcases List.mem_append.mp hc with hc | hc
    · obtain ⟨c', hc', hpromised⟩ := h.claimed code free (fun c hc => only c (hmem c hc))
        (fun c hc => unhindered c (hmem c hc)) c hc symbol hwhat hcode hvalid hf
      exact ⟨c', hmem c' hc', hpromised⟩
    · rw [List.mem_singleton] at hc
      subst hc
      obtain ⟨e, he⟩ := Option.ne_none_iff_exists'.mp hf
      exact absurd hvalid ((start_failure he).2 symbol hwhat)

theorem disturb [BinaryFormat] (h : Decided validator start t) (disturbance : Disturbance) :
    Decided validator start { t with world := disturbance.act t.world } :=
  ⟨h.contended.disturb disturbance, h.explained, h.claimed⟩

/-- What holds of the callers before a step, as far as it is told from those after it. -/
theorem unhindered_of_step [BinaryFormat] [IdSource] {k : Nat} {c : Caller} (hc : t.callers[k]? = some c)
    {call : Call Transaction} {world : World ξ} {deeds : List (Deed ξ)}
    (hs : SymbolService.StepsTo codec c.ctx c.call t.world call world) {code : String}
    (h : Unhindered code ⟨world, t.callers.set k { c with call }, deeds⟩) : t.Unhindered code := by
  intro c' hc' symbol e hwhat hcode hf
  rcases eq_or_mem_callers_set hc { c with call } hc' with rfl | hmem
  · exact h { c' with call } (mem_callers_set hc _) symbol e hwhat hcode (hs.failure hf)
  · exact h c' hmem symbol e hwhat hcode hf

/-- A code that was promised stays so while creations are not hindered. -/
theorem promised_step [BinaryFormat] [IdSource] (hl : Lawful start t) {k : Nat} {c : Caller}
    (hc : t.callers[k]? = some c) {call : Call Transaction} {world : World ξ} {deeds : List (Deed ξ)}
    (hs : SymbolService.StepsTo codec c.ctx c.call t.world call world) {code : String}
    (only : t.OnlyCreates) (unhindered : Unhindered code ⟨world, t.callers.set k { c with call }, deeds⟩)
    (h : t.Promised code) : Promised code ⟨world, t.callers.set k { c with call }, deeds⟩ := by
  obtain ⟨c', hc', written, hp, hcode⟩ := h
  rcases eq_or_mem_callers_set hc { c with call } hc' with rfl | hmem
  · have hnow := mem_callers_set hc { c' with call }
    obtain hp' | ⟨e, hf, hr⟩ := hs.promised hp
    · exact ⟨_, hnow, written, hp', hcode⟩
    · obtain ⟨symbol, hwhat⟩ := only c' hc'
      obtain ⟨_, hyields⟩ := Contended.issued_of_promised (hl.standing k c' hc) hp
      rw [hwhat] at hyields
      obtain ⟨_, _, _, rfl⟩ := hyields
      cases (unhindered _ hnow symbol e hwhat hcode hf).symm.trans hr
  · exact ⟨c', hmem, written, hp, hcode⟩

theorem step [BinaryFormat] [IdSource] (h : Decided validator start t) {k : Nat} {c : Caller}
    (hc : t.callers[k]? = some c) {call : Call Transaction} {world : World ξ}
    (hs : SymbolService.StepsTo codec c.ctx c.call t.world call world) :
    Decided validator start
      ⟨world, t.callers.set k { c with call }, t.deeds ++ [⟨k, t.world, world⟩]⟩ := by
  have hl := h.contended.lawful
  have hstanding := hl.standing k c hc
  refine ⟨h.contended.step hc hs, ?_, ?_⟩
  · intro j c' e hj hf hr
    rw [Lawful.deedsOf_snoc]
    rcases callers_set hj with ⟨rfl, rfl⟩ | ⟨hjk, hj⟩
    · rw [if_pos rfl]
      cases hbefore : c.call.failure? with
      | none =>
        exact ⟨_, List.mem_append_right _ (List.mem_singleton_self _), hs.hindered hbefore hf hr⟩
      | some e' =>
        cases (hs.failure hbefore).symm.trans hf
        obtain ⟨d, hd, hhindered⟩ := h.explained j c e hc hbefore hr
        exact ⟨d, List.mem_append_left _ hd, hhindered⟩
    · rw [if_neg (Ne.symm hjk)]
      exact h.explained j c' e hj hf hr
  · intro code free only unhindered c' hc' symbol hwhat hcode hvalid hf
    have honly := onlyCreates_of_step hc only
    have hunhindered := unhindered_of_step hc hs unhindered
    refine promised_step hl hc hs honly unhindered ?_
    obtain ⟨j, hj⟩ := List.getElem?_of_mem hc'
    rcases callers_set hj with ⟨rfl, rfl⟩ | ⟨_, hj⟩
    · cases hbefore : c.call.failure? with
      | some e =>
        exact h.claimed code free honly hunhindered c (List.mem_of_getElem? hc) symbol hwhat hcode hvalid
          (by rw [hbefore]; exact Option.some_ne_none e)
      | none =>
        obtain ⟨e, he⟩ := Option.ne_none_iff_exists'.mp hf
        have hr := unhindered _ hc' symbol e hwhat hcode he
        have hwhat : c.what = .create symbol := hwhat
        rw [hwhat] at hstanding
        have htaken := hs.taken hstanding hbefore he hr
        rw [hcode] at htaken
        exact h.contended.promised_of_taken honly free hunhindered htaken
    · exact h.claimed code free honly hunhindered c' (List.mem_of_getElem? hj) symbol hwhat hcode hvalid
        hf

end Decided

/-- **After any moves the failures of the calls have their reasons.** -/
theorem decided_run [BinaryFormat] [IdSource] (codec : Codec)
    (validator : Symbol → Except ValidationError Unit) {start : World ξ} (h : AtRest start.store)
    (moves : List Move) :
    Decided validator start (run (SymbolService.direct codec validator) start moves) := by
  refine run_induction codec validator (Decided validator start) (.atStart h) ?_ ?_ ?_ ?_ moves
  · intro t ctx what h
    exact h.call ctx what
  · intro t disturbance h
    exact h.disturb disturbance
  · intro t k c h hc
    exact (h.contended.lawful.standing k c hc).ready
  · intro t k c call world h hc hs
    exact h.step hc hs

end Traffic

end SymbolRelay
