import SymbolRelay.Proofs.Store.UnitSteps

/-!
# The protocol of a unit of work

A transactor that keeps a record of its calls shows what a unit of work asks of it, in which order, and
where in between the body of the unit comes to its end. Whatever the transactor answers and whatever the
body does, the record reads

```text
begin, vote …, end of the body, (vote), commit or rollback
```

and it decides the outcome.

## Results

* `unusable_iff` — a context is unusable through any of its ancestors if it is so itself;
* `perform_recorded` — inside a unit there are only votes, none of them after one that was granted;
* `run_follows_protocol` — every run of a unit follows the protocol.
-/

set_option autoImplicit false

namespace SymbolRelay

variable {ξ τ ε α : Type}

/-! ## Ancestors of a context -/

/-- The second context comes from the first one through any number of copies, with other values
perhaps, children and bindings to a transaction. -/
inductive Context.AncestorOf (origin : Context) : Context → Prop where
  | refl : AncestorOf origin origin
  | setValue {ctx : Context} (h : AncestorOf origin ctx) (key value : String) :
    AncestorOf origin (ctx.setValue key value)
  | child {ctx : Context} (h : AncestorOf origin ctx) (scopes : Scopes) :
    AncestorOf origin (ctx.child scopes).1
  | bindTransaction {ctx : Context} (h : AncestorOf origin ctx) (scopes : Scopes) :
    AncestorOf origin (ctx.bindTransaction scopes).1

namespace Context

variable {origin ctx : Context} {scopes : Scopes}

/-- Whatever comes from a context inside a transaction is inside one. -/
theorem AncestorOf.inTransaction (h : origin.AncestorOf ctx) (ho : origin.inTransaction = true) :
    ctx.inTransaction = true := by
  induction h with
  | refl => exact ho
  | setValue _ _ _ ih => exact ih
  | child _ _ ih => exact ih
  | bindTransaction _ _ _ => rfl

/-- Whatever comes from a cancelled context is cancelled. -/
theorem AncestorOf.isCancelled (h : origin.AncestorOf ctx)
    (ho : origin.isCancelled scopes = true) : ctx.isCancelled scopes = true := by
  induction h with
  | refl => exact ho
  | setValue _ _ _ ih => exact ih
  | child _ _ ih | bindTransaction _ _ ih =>
    -- the scopes of a child are a new one and those of its parent
    simp only [Context.isCancelled] at ih
    simp [Context.isCancelled, Context.bindTransaction, Context.child, ih]

/-- A context with which no unit of work may begin: it or one that it comes from is inside a transaction
already, or was cancelled. -/
def Unusable (ctx : Context) (scopes : Scopes) : Prop :=
  ∃ origin : Context, origin.AncestorOf ctx ∧
    (origin.inTransaction = true ∨ origin.isCancelled scopes = true)

theorem unusable_iff (ctx : Context) (scopes : Scopes) :
    ctx.Unusable scopes ↔ ctx.inTransaction = true ∨ ctx.isCancelled scopes = true := by
  constructor
  · rintro ⟨origin, hd, ho | ho⟩
    · exact .inl (hd.inTransaction ho)
    · exact .inr (hd.isCancelled ho)
  · intro h
    exact ⟨ctx, .refl, h⟩

end Context

/-! ## The record of a unit -/

/-- What the record of a unit holds: the calls of the transactor and how they ended, and the end of the
body. A vote and the end of the body are recorded with the scopes at that time. -/
inductive UnitEvent (ε α : Type) where
  | begin (result : Outcome DataError Unit)
  | vote (scopes : Scopes) (result : Outcome DataError Unit)
  | returned (scopes : Scopes) (result : Except ε α)
  | commit (result : Outcome DataError Unit)
  | rollback (result : Outcome DataError Unit)

namespace UnitEvent

/-- What an entry of the record is about. -/
inductive Kind where
  | begin
  | vote
  | returned
  /-- A transaction is committed or rolled back. -/
  | close
  deriving DecidableEq

/-- What this entry is about. -/
def kind : UnitEvent ε α → Kind
  | .begin _ => .begin
  | .vote _ _ => .vote
  | .returned _ _ => .returned
  | .commit _ | .rollback _ => .close

@[simp] theorem kind_begin (o : Outcome DataError Unit) :
    (.begin o : UnitEvent ε α).kind = .begin := rfl

@[simp] theorem kind_vote (scopes : Scopes) (o : Outcome DataError Unit) :
    (.vote scopes o : UnitEvent ε α).kind = .vote := rfl

@[simp] theorem kind_returned (scopes : Scopes) (r : Except ε α) :
    (.returned scopes r : UnitEvent ε α).kind = .returned := rfl

@[simp] theorem kind_commit (o : Outcome DataError Unit) :
    (.commit o : UnitEvent ε α).kind = .close := rfl

@[simp] theorem kind_rollback (o : Outcome DataError Unit) :
    (.rollback o : UnitEvent ε α).kind = .close := rfl

/-- The end of a body, on record. -/
def conclude (result : Except ε α) : UnitAction (ξ × List (UnitEvent ε α)) τ ε α := fun s =>
  (.ofExcept result, s.1.bare.withRecord (s.1.record ++ [.returned s.1.scopes result]), s.2)

end UnitEvent

namespace Transactor

/-- The transactor with its calls on record. -/
def recorded (t : Transactor ξ τ) : Transactor (ξ × List (UnitEvent ε α)) τ where
  begin ctx := (t.begin ctx).recorded fun _ o => .begin (o.map fun _ => ())
  prepare tx := (t.prepare tx).recorded fun w o => .vote w.scopes (o.map fun _ => ())
  commit tx := (t.commit tx).recorded fun _ o => .commit o
  rollback tx := (t.rollback tx).recorded fun _ o => .rollback o

variable {t : Transactor ξ τ} {w w' : World (ξ × List (UnitEvent ε α))}

theorem Returns.recorded (h : t.Returns) :
    (t.recorded : Transactor (ξ × List (UnitEvent ε α)) τ).Returns where
  begin ctx := (h.begin ctx).recorded _
  prepare tx := (h.prepare tx).recorded _
  commit tx := (h.commit tx).recorded _
  rollback tx := (h.rollback tx).recorded _

theorem record_of_begin {ctx : Context} {o : Outcome DataError τ}
    (h : t.recorded.begin ctx w = (o, w')) :
    w'.record = w.record ++ [.begin (o.map fun _ => ())] := by
  simp only [recorded, Action.recorded_apply] at h
  cases h
  rfl

theorem record_of_prepare {tx : τ} {o : Outcome DataError τ}
    (h : t.recorded.prepare tx w = (o, w')) :
    w'.record = w.record ++ [.vote w.scopes (o.map fun _ => ())] := by
  simp only [recorded, Action.recorded_apply] at h
  cases h
  rfl

theorem record_of_commit {tx : τ} {o : Outcome DataError Unit}
    (h : t.recorded.commit tx w = (o, w')) : w'.record = w.record ++ [.commit o] := by
  simp only [recorded, Action.recorded_apply] at h
  cases h
  rfl

theorem record_of_rollback (t : Transactor ξ τ) (tx : τ) (w : World (ξ × List (UnitEvent ε α))) :
    (t.recorded.rollback tx w).2.record =
      w.record ++ [.rollback (t.recorded.rollback tx w).1] := rfl

end Transactor

/-- A change that leaves the record alone. -/
def UnitChange.Unrecorded (change : UnitChange (ξ × List (UnitEvent ε α)) τ) : Prop :=
  ∀ s, (change s).1.record = s.1.record

/-! ## Ballots -/

/-- A vote as it is on record: the scopes when it was taken, and how it went. -/
abbrev Ballot : Type := Scopes × Outcome DataError Unit

/-- What holds of the votes on a unit, in their order: they were taken while its context was not
cancelled, and none was taken after one that was granted. -/
structure Canvass (bound : Context) (ballots : List Ballot) (granted : Bool) : Prop where
  live : ∀ b ∈ ballots, bound.isCancelled b.1 = false
  granted_iff : granted = true ↔ ∃ scopes, (scopes, .ok ()) ∈ ballots
  last : ballots.Pairwise fun b _ => b.2 ≠ .ok ()

namespace Canvass

variable {bound : Context} {ballots : List Ballot}

theorem nil (bound : Context) : Canvass bound [] false where
  live := by simp
  granted_iff := by simp
  last := List.Pairwise.nil

/-- A vote is taken, which none before has granted. -/
theorem snoc (h : Canvass bound ballots false) {scopes : Scopes}
    (hlive : bound.isCancelled scopes = false) (result : Outcome DataError Unit) :
    Canvass bound (ballots ++ [(scopes, result)]) result.isOk := by
  have hnone : ∀ scopes', (scopes', .ok ()) ∉ ballots := by
    intro scopes' hb
    have hgranted := h.granted_iff.mpr ⟨scopes', hb⟩
    cases hgranted
  have hok : result.isOk = true ↔ result = .ok () := by
    cases result with
    | ok v => simp [Outcome.isOk]
    | error e => simp [Outcome.isOk]
    | panic p => simp [Outcome.isOk]
  constructor
  · intro b hb
    rcases List.mem_append.mp hb with hb | hb
    · exact h.live b hb
    · rw [List.mem_singleton] at hb
      rw [hb]
      exact hlive
  · rw [hok]
    constructor
    · intro hresult
      exact ⟨scopes, by simp [hresult]⟩
    · rintro ⟨scopes', hb⟩
      rcases List.mem_append.mp hb with hb | hb
      · exact absurd hb (hnone scopes')
      · rw [List.mem_singleton] at hb
        injection hb with _ hresult
        exact hresult.symm
  · rw [List.pairwise_append]
    refine ⟨h.last, List.pairwise_singleton _ _, ?_⟩
    rintro ⟨scopes', o⟩ hb b' _ rfl
    exact hnone scopes' hb

end Canvass

/-- Votes on record. -/
def polls (ballots : List Ballot) : List (UnitEvent ε α) := ballots.map fun b => .vote b.1 b.2

theorem polls_snoc (ballots : List Ballot) (b : Ballot) :
    (polls (ballots ++ [b]) : List (UnitEvent ε α)) = polls ballots ++ [.vote b.1 b.2] := by
  simp [polls]

@[simp] theorem vote_mem_polls {scopes : Scopes} {o : Outcome DataError Unit} {ballots : List Ballot} :
    .vote scopes o ∈ (polls ballots : List (UnitEvent ε α)) ↔ (scopes, o) ∈ ballots := by
  simp [polls]

theorem kind_of_mem_polls {e : UnitEvent ε α} {ballots : List Ballot} (h : e ∈ polls ballots) :
    e.kind = .vote := by
  obtain ⟨b, _, rfl⟩ := List.mem_map.mp h
  rfl

/-- No vote was granted before another one. -/
theorem Canvass.pairwise {bound : Context} {ballots : List Ballot} {granted : Bool}
    (h : Canvass bound ballots granted) :
    (polls ballots : List (UnitEvent ε α)).Pairwise
      fun e e' => (∃ scopes, e = .vote scopes (.ok ())) → e'.kind ≠ .vote := by
  rw [polls, List.pairwise_map]
  refine h.last.imp ?_
  rintro b b' hb ⟨scopes, hgranted⟩
  injection hgranted with _ hok
  exact absurd hok hb

namespace UnitOfWork

variable {t : Transactor ξ τ} {lift : DataError → ε} {bound : Context} {u : UnitOfWork τ}
  {w w' : World (ξ × List (UnitEvent ε α))} {start : List (UnitEvent ε α)}
  {earlier ballots : List Ballot}

/-! ## While the body runs -/

/-- A unit and what is on record for it: the votes since `start`, before which there were `earlier`
ones. -/
structure Underway (bound : Context) (start : List (UnitEvent ε α)) (earlier : List Ballot)
    (u : UnitOfWork τ) (w : World (ξ × List (UnitEvent ε α))) (ballots : List Ballot) : Prop where
  ctx : u.ctx = bound
  record : w.record = start ++ polls ballots
  canvass : Canvass bound (earlier ++ ballots) u.prepared

namespace Underway

/-- One more vote is taken, which none before has granted. -/
theorem vote (h : Underway bound start earlier u w ballots) (hp : u.prepared = false)
    (hc : u.ctx.isCancelled w.scopes = false) {o : Outcome DataError τ}
    (hv : t.recorded.prepare u.tx w = (o, w')) :
    w'.record = start ++ polls (ballots ++ [(w.scopes, o.map fun _ => ())]) ∧
      Canvass bound (earlier ++ (ballots ++ [(w.scopes, o.map fun _ => ())])) o.isOk := by
  have hcanvass : Canvass bound (earlier ++ ballots) false := hp ▸ h.canvass
  have hlive : bound.isCancelled w.scopes = false := h.ctx ▸ hc
  have hok : (o.map fun _ => ()).isOk = o.isOk := by
    cases o with
    | ok v => rfl
    | error e => rfl
    | panic p => rfl
  constructor
  · rw [Transactor.record_of_prepare hv, h.record, polls_snoc, List.append_assoc]
  · have hsnoc := hcanvass.snoc hlive (o.map fun _ => ())
    rw [hok, List.append_assoc] at hsnoc
    exact hsnoc

/-- After a poll that went well there may be one more vote, and the unit was voted for. -/
theorem granted (h : Underway bound start earlier u w ballots) {u' : UnitOfWork τ}
    (hp : Poll t.recorded u w (.ok u') w') :
    ∃ ballots', Underway bound start earlier u' w' ballots' ∧ u'.prepared = true := by
  cases hp with
  | kept hprepared => exact ⟨ballots, h, hprepared⟩
  | granted hprepared hc hv =>
    obtain ⟨hrecord, hcanvass⟩ := h.vote hprepared hc hv
    exact ⟨_, ⟨h.ctx, hrecord, hcanvass⟩, rfl⟩

/-- After a poll that went badly either nothing was asked, since the context of the unit is cancelled,
or the vote was refused. -/
theorem refused (h : Underway bound start earlier u w ballots) {e : DataError}
    (hp : Poll t.recorded u w (.error e) w') :
    u.prepared = false ∧
      ((Underway bound start earlier u w' ballots ∧ bound.isCancelled w.scopes = true ∧
          e = .transactionFailed "context cancelled") ∨
        Underway bound start earlier u w' (ballots ++ [(w.scopes, .error e)])) := by
  cases hp with
  | cancelled hprepared hc => exact ⟨hprepared, .inl ⟨h, h.ctx ▸ hc, rfl⟩⟩
  | refused hprepared hc hv =>
    obtain ⟨hrecord, hcanvass⟩ := h.vote hprepared hc hv
    refine ⟨hprepared, .inr ⟨h.ctx, hrecord, ?_⟩⟩
    rw [hprepared]
    exact hcanvass

/-- A change that leaves the record alone leaves the unit underway. -/
theorem act (h : Underway bound start earlier u w ballots)
    {change : UnitChange (ξ × List (UnitEvent ε α)) τ} (hu : change.Unrecorded) :
    Underway bound start earlier (change.apply (w, u)).2 (change.apply (w, u)).1 ballots where
  ctx := h.ctx
  record := (hu (w, u)).trans h.record
  canvass := h.canvass

/-- The body comes to its end. -/
theorem conclude (h : Underway bound start [] u w ballots) (result : Except ε α) :
    Underway bound (start ++ polls ballots ++ [.returned w.scopes result]) ballots u
      (UnitEvent.conclude result (w, u)).2.1 [] where
  ctx := h.ctx
  record := by
    show w.record ++ [.returned w.scopes result] = _
    rw [h.record]
    simp [polls]
  canvass := by
    rw [List.append_nil]
    exact h.canvass

end Underway

/-- How a body ends: with a result that is on record, after some more votes. -/
theorem perform_recorded (returns : t.Returns)
    (body : UnitBody (UnitChange.Unrecorded (ξ := ξ) (τ := τ) (ε := ε) (α := α)) (Except ε α))
    (h : Underway bound start earlier u w ballots) :
    ∃ result ballots' u' w', Underway bound start earlier u' w' ballots' ∧
      body.perform t.recorded UnitEvent.conclude (w, u) = UnitEvent.conclude result (w', u') := by
  induction body generalizing u w ballots with
  | act change hu next ih =>
    simp only [UnitBody.perform]
    exact ih (w, u) (h.act hu)
  | vote next ih =>
    rcases UnitBody.perform_vote returns.recorded UnitEvent.conclude next w u with
      ⟨u', w', hp, heq⟩ | ⟨e, w', hp, heq⟩
    · obtain ⟨more, hunder, _⟩ := h.granted hp
      rw [heq]
      exact ih (.ok ()) hunder
    · rw [heq]
      obtain ⟨_, ⟨hunder, _, _⟩ | hunder⟩ := h.refused hp
      · exact ih (.error e) hunder
      · exact ih (.error e) hunder
  | done result => exact ⟨result, ballots, u, w, h, rfl⟩

/-! ## How a run goes -/

/-- The record of a unit that was opened: the votes that its body asked for, the end of the body, the
votes after it, and how the transaction was ended. -/
def transcript (before : List Ballot) (scopes : Scopes) (result : Except ε α) (after : List Ballot)
    (last : UnitEvent ε α) : List (UnitEvent ε α) :=
  [.begin (.ok ())] ++ polls before ++ [.returned scopes result] ++ polls after ++ [last]

/-- A run of a unit of work, on record. -/
def recordedRun (t : Transactor ξ τ) (lift : DataError → ε) (ctx : Context)
    (body : UnitBody (UnitChange.Unrecorded (ξ := ξ) (τ := τ) (ε := ε) (α := α)) (Except ε α))
    (w : World ξ) : Outcome ε α × World (ξ × List (UnitEvent ε α)) :=
  run t.recorded lift ctx (body.perform t.recorded UnitEvent.conclude) w.observed

/-- How a run can go: what is on record then, and what comes out. -/
inductive Course (lift : DataError → ε) (bound : Context) :
    List (UnitEvent ε α) → Outcome ε α → Prop where
  | unopened {e : DataError} : Course lift bound [.begin (.error e)] (.error (lift e))
  | failed {before : List Ballot} {granted : Bool} (h : Canvass bound (before ++ []) granted)
      {scopes : Scopes} {e : ε} {o : Outcome DataError Unit} :
    Course lift bound (transcript before scopes (.error e) [] (.rollback o)) (.error e)
  | committed {before after : List Ballot} (h : Canvass bound (before ++ after) true)
      {scopes : Scopes} {v : α} :
    Course lift bound (transcript before scopes (.ok v) after (.commit (.ok ()))) (.ok v)
  | uncommitted {before after : List Ballot} (h : Canvass bound (before ++ after) true)
      {scopes : Scopes} {v : α} {e : DataError} :
    Course lift bound (transcript before scopes (.ok v) after (.commit (.error e)))
      (.error (lift (commitError e)))
  | cancelled {before : List Ballot} (h : Canvass bound (before ++ []) false) {scopes : Scopes} {v : α}
      {o : Outcome DataError Unit} (hc : bound.isCancelled scopes = true) :
    Course lift bound (transcript before scopes (.ok v) [] (.rollback o))
      (.error (lift (.transactionFailed "context cancelled")))
  | refused {before : List Ballot} {scopes : Scopes} {e : DataError}
      (h : Canvass bound (before ++ [(scopes, .error e)]) false) {v : α}
      {o : Outcome DataError Unit} :
    Course lift bound (transcript before scopes (.ok v) [(scopes, .error e)] (.rollback o))
      (.error (lift e))

/-- How a unit is left whose body has just come to its end. -/
theorem Exit.course {result : Except ε α} {scopes : Scopes} {o : Outcome ε α}
    (hexit : Exit t.recorded lift u w (.ofExcept result) o w') (hscopes : w.scopes = scopes)
    (h : Underway bound ([.begin (.ok ())] ++ polls earlier ++ [.returned scopes result]) earlier u w
      []) : Course lift bound w'.record o := by
  cases result with
  | error e =>
    cases hexit with
    | failed =>
      have hrecord : (t.recorded.rollback u.tx w).2.record =
          transcript earlier scopes (.error e) [] (.rollback (t.recorded.rollback u.tx w).1) := by
        rw [Transactor.record_of_rollback, h.record, transcript]
      rw [hrecord]
      exact .failed h.canvass
  | ok v =>
    cases hexit with
    | @unvoted _ e w₁ hp =>
      have hrolled := Transactor.record_of_rollback t u.tx w₁
      obtain ⟨hprepared, ⟨hunder, hc, rfl⟩ | hunder⟩ := h.refused hp
      · have hcanvass := hunder.canvass
        rw [hprepared] at hcanvass
        rw [hunder.record] at hrolled
        rw [hrolled]
        exact .cancelled hcanvass (hscopes ▸ hc)
      · have hcanvass := hunder.canvass
        rw [List.nil_append, hprepared, hscopes] at hcanvass
        rw [hunder.record, hscopes] at hrolled
        rw [hrolled]
        exact .refused hcanvass
    | committed hp hc =>
      obtain ⟨after, hunder, hgranted⟩ := h.granted hp
      have hcanvass := hunder.canvass
      rw [hgranted] at hcanvass
      rw [Transactor.record_of_commit hc, hunder.record]
      exact .committed hcanvass
    | uncommitted hp hc =>
      obtain ⟨after, hunder, hgranted⟩ := h.granted hp
      have hcanvass := hunder.canvass
      rw [hgranted] at hcanvass
      rw [Transactor.record_of_commit hc, hunder.record]
      exact .uncommitted hcanvass

/-- How a run of a unit goes that is tried at all: either it is not opened, or it goes on from there. -/
theorem recordedRun_course (returns : t.Returns) {ctx : Context}
    (body : UnitBody (UnitChange.Unrecorded (ξ := ξ) (τ := τ) (ε := ε) (α := α)) (Except ε α))
    {w : World ξ} (ht : ctx.inTransaction = false) (hc : ctx.isCancelled w.scopes = false) :
    Course lift (ctx.bindTransaction w.scopes).1 (recordedRun t lift ctx body w).2.record
      (recordedRun t lift ctx body w).1 := by
  have hentry := entry returns.recorded ctx (w.observed : World (ξ × List (UnitEvent ε α)))
  cases henter : enter t.recorded ctx (w.observed : World (ξ × List (UnitEvent ε α))) with
  | mk o w' =>
    rw [henter] at hentry
    cases hentry with
    | bound h => 
      rw [ht] at h
      cases h
    | cancelled _ h =>
      have h' : ctx.isCancelled w.scopes = true := h
      rw [hc] at h'
      cases h'
    | unopened _ _ hb =>
      have hrecord := Transactor.record_of_begin hb
      simp only [recordedRun, run_of_refused henter]
      rw [hrecord]
      exact .unopened
    | @opened tx _ _ _ hb =>
      have hrecord := Transactor.record_of_begin hb
      have hopened : Underway (ctx.bindTransaction w.scopes).1 [.begin (.ok ())] []
          { ctx := (ctx.bindTransaction w.scopes).1, tx } w' [] := by
        refine ⟨rfl, ?_, Canvass.nil _⟩
        rw [hrecord]
        rfl
      obtain ⟨result, ballots, u', w'', hunder, hbody⟩ := perform_recorded returns body hopened
      have hexit := exit returns.recorded lift u' (.ofExcept result)
        (UnitEvent.conclude result (w'', u')).2.1
      have hrun : recordedRun t lift ctx body w = leave t.recorded lift u' (.ofExcept result)
          (UnitEvent.conclude result (w'', u')).2.1 := by
        rw [recordedRun, run_of_opened henter]
        exact congrArg (fun r => leave t.recorded lift r.2.2 r.1 r.2.1) hbody
      rw [hrun]
      exact hexit.course rfl (hunder.conclude result)

@[simp] theorem mem_transcript {before after : List Ballot} {scopes : Scopes} {r : Except ε α}
    {e last : UnitEvent ε α} :
    e ∈ transcript before scopes r after last ↔
      e = .begin (.ok ()) ∨ e ∈ polls before ∨ e = .returned scopes r ∨ e ∈ polls after ∨
        e = last := by
  simp [transcript]

theorem granted_mem_transcript {before after : List Ballot} {granted : Bool}
    (h : Canvass bound (before ++ after) granted) {scopes : Scopes} {r : Except ε α}
    {last : UnitEvent ε α} (hlast : last.kind = .close) :
    (∃ scopes', .vote scopes' (.ok ()) ∈ transcript before scopes r after last) ↔
      granted = true := by
  have hother : ∀ scopes', last ≠ .vote scopes' (.ok ()) := by
    rintro scopes' rfl
    cases hlast
  rw [h.granted_iff]
  simp [Ne.symm (hother _)]

/-! ## The protocol -/

/-- The order in which things happen to a unit of work that is tried at all, under a context bound to
its transaction. -/
structure Ordered (bound : Context) (events : List (UnitEvent ε α)) : Prop where
  /-- A transaction is opened once, before all else. -/
  begun : ∃ o rest, events = .begin o :: rest ∧ ∀ e ∈ rest, e.kind ≠ .begin
  /-- The body comes to one end. -/
  returned : .begin (.ok ()) ∈ events →
    ∃ scopes r, events.filter (·.kind = .returned) = [.returned scopes r]
  /-- A transaction that was opened is committed or rolled back, once and last. -/
  closed : .begin (.ok ()) ∈ events →
    ∃ earlier last, events = earlier ++ [last] ∧ last.kind = .close ∧
      ∀ e ∈ earlier, e.kind ≠ .close
  /-- A vote is taken only while no context around it is cancelled. -/
  live : ∀ scopes o, .vote scopes o ∈ events →
    ∀ origin : Context, origin.AncestorOf bound → origin.isCancelled scopes = false
  /-- No vote is taken after one that was granted. -/
  decided : events.Pairwise fun e e' => (∃ scopes, e = .vote scopes (.ok ())) → e'.kind ≠ .vote

/-- The protocol of a unit of work that is tried at all: in which order things happen to it, and what
comes out. -/
structure Protocol (lift : DataError → ε) (bound : Context) (events : List (UnitEvent ε α))
    (result : Outcome ε α) : Prop extends Ordered bound events where
  /-- If no transaction can be opened, that error is the result, and nothing else happens. -/
  unopened : ∀ e, .begin (.error e) ∈ events →
    events = [.begin (.error e)] ∧ result = .error (lift e)
  /-- The transaction is committed exactly if the body ended well and a vote was granted. -/
  commits_iff : (∃ o, .commit o ∈ events) ↔
    (∃ scopes v, .returned scopes (.ok v) ∈ events) ∧ ∃ scopes, .vote scopes (.ok ()) ∈ events
  /-- The error of the body is the result, however the rollback went. -/
  failed : ∀ scopes e, .returned scopes (.error e) ∈ events → result = .error e
  /-- After a commit the value of the body is the result. -/
  committed : ∀ scopes v, .returned scopes (.ok v) ∈ events → .commit (.ok ()) ∈ events →
    result = .ok v
  /-- A commit that failed is reported as a failure of the database. -/
  uncommitted : ∀ e, .commit (.error e) ∈ events →
    ∃ reason, result = .error (lift (.database reason)) ∧
      (e = .database reason ∨ reason = "commit failed: " ++ e.message)
  /-- A unit whose body ended well is rolled back since it was cancelled by then, or since its vote was
  refused after that. -/
  refused : ∀ scopes v o, .returned scopes (.ok v) ∈ events → .rollback o ∈ events →
    (bound.isCancelled scopes = true ∧
        result = .error (lift (.transactionFailed "context cancelled"))) ∨
      ∃ earlier e, events =
          earlier ++ [.returned scopes (.ok v), .vote scopes (.error e), .rollback o] ∧
        result = .error (lift e)

theorem transcript_ordered {before after : List Ballot} {granted : Bool}
    (h : Canvass bound (before ++ after) granted) (scopes : Scopes) (r : Except ε α)
    {last : UnitEvent ε α} (hlast : last.kind = .close) :
    Ordered bound (transcript before scopes r after last) where
  begun := by
    refine ⟨.ok (), polls before ++ [.returned scopes r] ++ polls after ++ [last],
      by simp [transcript], ?_⟩
    intro e he
    simp only [List.mem_append, List.mem_singleton] at he
    rcases he with ((he | rfl) | he) | rfl
    · simp [kind_of_mem_polls he]
    · simp
    · simp [kind_of_mem_polls he]
    · simp [hlast]
  returned := fun _ => by
    have hpolls : ∀ ballots : List Ballot,
        (polls ballots : List (UnitEvent ε α)).filter (·.kind = .returned) = [] := by
      intro ballots
      rw [List.filter_eq_nil_iff]
      intro e he
      simp [kind_of_mem_polls he]
    refine ⟨scopes, r, ?_⟩
    simp [transcript, hpolls, hlast]
  closed := fun _ => by
    refine ⟨_, last, rfl, hlast, ?_⟩
    intro e he
    simp only [List.mem_append, List.mem_singleton] at he
    rcases he with ((rfl | he) | rfl) | he
    · simp
    · simp [kind_of_mem_polls he]
    · simp
    · simp [kind_of_mem_polls he]
  live := fun scopes' o hm origin horigin => by
    have hballot : (scopes', o) ∈ before ++ after := by
      rw [mem_transcript] at hm
      rcases hm with hm | hm | hm | hm | rfl
      · cases hm
      · exact List.mem_append_left _ (vote_mem_polls.mp hm)
      · cases hm
      · exact List.mem_append_right _ (vote_mem_polls.mp hm)
      · cases hlast
    have hbound := h.live _ hballot
    cases hcancelled : origin.isCancelled scopes' with
    | false => rfl
    | true =>
      rw [horigin.isCancelled hcancelled] at hbound
      cases hbound
  decided := by
    have hpairs := h.pairwise (ε := ε) (α := α)
    have hsplit : (polls (before ++ after) : List (UnitEvent ε α)) = polls before ++ polls after := by
      simp [polls]
    rw [hsplit, List.pairwise_append] at hpairs
    obtain ⟨hbefore, hafter, hacross⟩ := hpairs
    -- votes stand only in the two parts with polls
    have hnone : ∀ e e' : UnitEvent ε α, e.kind ≠ .vote →
        (∃ scopes, e = .vote scopes (.ok ())) → e'.kind ≠ .vote := by
      rintro e e' he ⟨scopes, rfl⟩
      simp at he
    simp only [transcript, List.pairwise_append, List.pairwise_singleton, List.mem_append,
      List.mem_singleton]
    refine ⟨⟨⟨⟨trivial, hbefore, ?_⟩, trivial, ?_⟩, hafter, ?_⟩, trivial, ?_⟩
    · rintro e rfl e' _
      exact hnone _ e' (by simp)
    · rintro e _ e' rfl _
      simp
    · rintro e ((rfl | he) | rfl) e' he'
      · exact hnone _ e' (by simp)
      · exact hacross e he e' he'
      · exact hnone _ e' (by simp)
    · rintro e _ e' rfl _
      simp [hlast]

theorem Course.protocol {events : List (UnitEvent ε α)} {result : Outcome ε α}
    (h : Course lift bound events result) : Protocol lift bound events result := by
  cases h with
  | unopened =>
    exact {
      begun := ⟨_, [], rfl, by simp⟩
      returned := by simp
      closed := by simp
      live := by simp
      decided := by simp
      unopened := by simp
      commits_iff := by simp
      failed := by simp
      committed := by simp
      uncommitted := by simp
      refused := by simp }
  | failed h =>
    exact {
      toOrdered := transcript_ordered h _ _ rfl
      unopened := by simp [polls]
      commits_iff := by simp [polls]
      failed := by simp [polls]
      committed := by simp [polls]
      uncommitted := by simp [polls]
      refused := by simp [polls] }
  | committed h =>
    exact {
      toOrdered := transcript_ordered h _ _ rfl
      unopened := by simp [polls]
      commits_iff := by
        rw [granted_mem_transcript h rfl]
        simp [polls]
      failed := by simp [polls]
      committed := by simp [polls]
      uncommitted := by simp [polls]
      refused := by simp [polls] }
  | @uncommitted _ _ h _ _ e =>
    have hreason : ∃ reason, commitError e = .database reason ∧
        (e = .database reason ∨ reason = "commit failed: " ++ e.message) := by
      cases e with
      | database reason => exact ⟨reason, rfl, .inl rfl⟩
      | _ => exact ⟨_, rfl, .inr rfl⟩
    exact {
      toOrdered := transcript_ordered h _ _ rfl
      unopened := by simp [polls]
      commits_iff := by
        rw [granted_mem_transcript h rfl]
        simp [polls]
      failed := by simp [polls]
      committed := by simp [polls]
      uncommitted := by
        intro e' he'
        have heq : e' = e := by simpa [polls] using he'
        obtain ⟨reason, hcommit, hfrom⟩ := hreason
        exact ⟨reason, by rw [hcommit], heq ▸ hfrom⟩
      refused := by simp [polls] }
  | cancelled h hc =>
    exact {
      toOrdered := transcript_ordered h _ _ rfl
      unopened := by simp [polls]
      commits_iff := by
        rw [granted_mem_transcript h rfl]
        simp [polls]
      failed := by simp [polls]
      committed := by simp [polls]
      uncommitted := by simp [polls]
      refused := by
        intro scopes v o hr _
        obtain ⟨rfl, rfl⟩ : scopes = _ ∧ v = _ := by simpa [polls] using hr
        exact .inl ⟨hc, rfl⟩ }
  | @refused before scopes e h v o =>
    exact {
      toOrdered := transcript_ordered h _ _ rfl
      unopened := by simp [polls]
      commits_iff := by
        rw [granted_mem_transcript h rfl]
        simp [polls]
      failed := by simp [polls]
      committed := by simp [polls]
      uncommitted := by simp [polls]
      refused := by
        intro scopes' v' o' hr ho
        obtain ⟨rfl, rfl⟩ : scopes' = scopes ∧ v' = v := by simpa [polls] using hr
        obtain rfl : o' = o := by simpa [polls] using ho
        refine .inr ⟨.begin (.ok ()) :: polls before, e, ?_, rfl⟩
        simp [transcript, polls] }

/-- Every unit of work follows the protocol, whatever its transactor answers and its body does. If its
context is unusable then nothing happens at all. -/
theorem run_follows_protocol (returns : t.Returns) (lift : DataError → ε) (ctx : Context)
    (body : UnitBody (UnitChange.Unrecorded (ξ := ξ) (τ := τ) (ε := ε) (α := α)) (Except ε α))
    (w : World ξ) :
    (ctx.Unusable w.scopes → ∃ reason, recordedRun t lift ctx body w =
        (.error (lift (.transactionFailed reason)), w.observed)) ∧
      (¬ ctx.Unusable w.scopes →
        Protocol lift (ctx.bindTransaction w.scopes).1 (recordedRun t lift ctx body w).2.record
          (recordedRun t lift ctx body w).1) := by
  rw [Context.unusable_iff]
  constructor
  · intro h
    cases ht : ctx.inTransaction with
    | true => exact ⟨_, run_of_refused (enter_of_inTransaction t.recorded w.observed ht) _⟩
    | false =>
      have hc : ctx.isCancelled w.scopes = true := by simpa [ht] using h
      exact ⟨_, run_of_refused (enter_of_cancelled t.recorded (w := w.observed) ht hc) _⟩
  · intro h
    have ht : ctx.inTransaction = false := by simpa using fun ht => h (.inl ht)
    have hc : ctx.isCancelled w.scopes = false := by simpa using fun hc => h (.inr hc)
    exact (recordedRun_course returns body ht hc).protocol

/-- A body that has the vote taken, gets its context cancelled and ends well. -/
def votesThenCancelled (ctx : Context) :
    UnitBody (UnitChange.Unrecorded (ξ := Unit) (τ := Transaction) (ε := DataError) (α := Nat))
      (Except DataError Nat) :=
  .vote fun _ =>
    .act (fun s => ({ s.1 with scopes := ctx.cancel s.1.scopes }, s.2.tx)) (fun _ => rfl) fun _ =>
      .done (.ok 7)

/-- A unit that is cancelled after its vote is committed all the same. -/
theorem votesThenCancelled_commits :
    let start : World Unit := { extra := () }
    let ctx : Context := { scope := 9 }
    let ran := recordedRun Storage.ofStore.toTransactor id ctx (votesThenCancelled ctx) start
    Protocol id (ctx.bindTransaction start.scopes).1 ran.2.record ran.1 ∧
      ran.2.record.map UnitEvent.kind = [.begin, .vote, .returned, .close] ∧ ran.1 = .ok 7 := by
  refine ⟨(run_follows_protocol Storage.ofStore_returns id _ (votesThenCancelled _) _).2 ?_,
    by decide +kernel, by decide +kernel⟩
  rw [Context.unusable_iff]
  decide

end UnitOfWork

end SymbolRelay
