import SymbolRelay.Proofs.Delivery.Metered

/-!
# What the meters say

A recorder that counts what it is told, and never panics, tells of each topic how many calls there were,
how many of them went well and how many failed, and has a duration for each one that returned.

## Results

* `record_observe` — what is kept after a measured call, by how the call ended;
* `tallied_makeAll` — after any calls the counters have grown by the calls, the good answers and the
  errors of their topic;
* `Tallied.balanced` — if all calls returned, attempts are successes and errors together, and durations.
-/

set_option autoImplicit false

namespace SymbolRelay

open SymbolRelay.Action

variable {ξ κ ε α : Type}

/-! ## Recorders that count -/

/-- A recorder that counts what it is told and never panics, with the readings of its counters and the
numbers of its samples, by metric and topic. -/
structure Meter (κ : Type) where
  recorder : Recorder (List κ)
  counter : String → String → List κ → Nat
  samples : String → String → List κ → Nat
  increment_returns : ∀ metric topic kept, (recorder.increment metric topic kept).1 = .ok ()
  sample_returns : ∀ metric topic kept, (recorder.sample metric topic kept).1 = .ok ()
  counter_increment : ∀ metric topic kept m t,
    counter m t (recorder.increment metric topic kept).2 =
      counter m t kept + if m = metric ∧ t = topic then 1 else 0
  counter_sample : ∀ metric topic kept m t,
    counter m t (recorder.sample metric topic kept).2 = counter m t kept
  samples_increment : ∀ metric topic kept m t,
    samples m t (recorder.increment metric topic kept).2 = samples m t kept
  samples_sample : ∀ metric topic kept m t,
    samples m t (recorder.sample metric topic kept).2 =
      samples m t kept + if m = metric ∧ t = topic then 1 else 0

/-- What a recorder is told. -/
inductive MeterNote where
  | count (metric topic : String)
  | duration (metric topic : String)
  deriving DecidableEq

/-- The recorder that keeps everything it is told, and panics at some of it, by how much it was told
before. -/
def Recorder.keeping (panics : Nat → Option Panic) : Recorder (List MeterNote) where
  increment metric topic kept :=
    (((panics kept.length).map .panic).getD (.ok ()), kept ++ [.count metric topic])
  sample metric topic kept :=
    (((panics kept.length).map .panic).getD (.ok ()), kept ++ [.duration metric topic])

/-- The recorder that keeps everything and never panics. -/
def Meter.ledger : Meter MeterNote where
  recorder := .keeping fun _ => none
  counter metric topic kept := kept.count (.count metric topic)
  samples metric topic kept := kept.count (.duration metric topic)
  increment_returns _ _ _ := rfl
  sample_returns _ _ _ := rfl
  counter_increment := by
    intro metric topic kept m t
    simp only [Recorder.keeping, List.count_append, List.count_singleton, beq_iff_eq,
      MeterNote.count.injEq, eq_comm (b := m), eq_comm (b := t)]
  counter_sample := by simp [Recorder.keeping]
  samples_increment := by simp [Recorder.keeping]
  samples_sample := by
    intro metric topic kept m t
    simp only [Recorder.keeping, List.count_append, List.count_singleton, beq_iff_eq,
      MeterNote.duration.injEq, eq_comm (b := m), eq_comm (b := t)]

/-! ## One call -/

/-- How a call ended, as far as it is measured. -/
inductive CallEnd where
  | well
  | failed
  | panicked
  deriving DecidableEq

/-- How an outcome is measured. -/
def Outcome.ending : Outcome ε α → CallEnd
  | .ok _ => .well
  | .error _ => .failed
  | .panic _ => .panicked

namespace Meter

/-- What is kept after a call that was measured. -/
def kept (meter : Meter κ) (names : MetricNames) (topic : String) (ending : CallEnd) (before : List κ) :
    List κ :=
  let attempted := (meter.recorder.increment names.attempts topic before).2
  match ending with
  | .well =>
    (meter.recorder.sample names.duration topic (meter.recorder.increment names.success topic attempted).2).2
  | .failed =>
    (meter.recorder.sample names.duration topic (meter.recorder.increment names.errors topic attempted).2).2
  | .panicked => attempted

variable (meter : Meter κ) (names : MetricNames) (topic : String)

theorem record_recordEnd (succeeded : Bool) (w : World (ξ × List κ)) :
    (Metering.recordEnd (ε := ε) meter.recorder.beside names topic succeeded w).2.record =
      (meter.recorder.sample names.duration topic (meter.recorder.increment
        (if succeeded then names.success else names.errors) topic w.record).2).2 := by
  -- the recorder does not panic at the counter, so it comes to the sample
  have hincrement : (meter.recorder.beside.increment (if succeeded then names.success else names.errors)
      topic : Action (ξ × List κ) Empty Unit) w.extra =
        (.ok (), w.extra.1, (meter.recorder.increment
          (if succeeded then names.success else names.errors) topic w.record).2) :=
    Prod.ext (meter.increment_returns _ _ _) rfl
  simp only [Metering.recordEnd, Metering.bestEffort, World.onExtra_snd, bind_ok hincrement]
  rfl

/-- What is kept after a measured call, by how the call ended. -/
theorem record_observe (call : Action (World ξ) ε α) (w : World (ξ × List κ)) :
    (Metering.observe meter.recorder.beside names topic call.unseen w).2.record =
      meter.kept names topic (call w.bare).1.ending w.record := by
  have hattempt : (Metering.bestEffort (ε := ε) (meter.recorder.beside.increment names.attempts topic)) w =
      (.ok (), w.bare.withRecord (meter.recorder.increment names.attempts topic w.record).2) := rfl
  rw [Metering.observe, bind_ok hattempt, bind_attempt]
  have hcall : call.unseen (w.bare.withRecord (meter.recorder.increment names.attempts topic w.record).2) =
      ((call w.bare).1, (call w.bare).2.withRecord
        (meter.recorder.increment names.attempts topic w.record).2) := rfl
  rw [hcall]
  cases (call w.bare).1 with
  | panic p => rfl
  | ok v => exact meter.record_recordEnd (ε := ε) names topic true _
  | error e => exact meter.record_recordEnd (ε := ε) names topic false _

end Meter

/-! ## Readings after any calls -/

namespace DeliveryAnswer

/-- Whether an answer is to a call on a topic that is measured under these names. -/
def isOf (names : MetricNames) (topic : String) : DeliveryAnswer ξ → Bool
  | sent t _ => names = publishMetrics ∧ topic = t
  | opened t _ => names = subscribeMetrics ∧ topic = t
  | closed _ => false

/-- How the call ended. -/
def ending : DeliveryAnswer ξ → CallEnd
  | sent _ outcome => outcome.ending
  | opened _ outcome => outcome.ending
  | closed outcome => outcome.ending

end DeliveryAnswer

/-- The names under which calls are measured. -/
def measuredNames : List MetricNames := [publishMetrics, subscribeMetrics]

/-- The metrics of one kind of call are apart from each other and from those of the other kind. -/
theorem measuredNames_apart : ∀ a ∈ measuredNames, ∀ b ∈ measuredNames,
    (a.attempts = b.attempts ↔ a = b) ∧ (a.success = b.success ↔ a = b) ∧
      (a.errors = b.errors ↔ a = b) ∧ (a.duration = b.duration ↔ a = b) ∧
      (a.attempts ≠ b.success ∧ a.success ≠ b.attempts) ∧
      (a.attempts ≠ b.errors ∧ a.errors ≠ b.attempts) ∧
      (a.success ≠ b.errors ∧ a.errors ≠ b.success) := by
  decide

namespace Meter

/-- The readings of one kind of calls on a topic have grown by what was answered. -/
structure Tallied (meter : Meter κ) (names : MetricNames) (topic : String)
    (answers : List (DeliveryAnswer ξ)) (before after : List κ) : Prop where
  attempts : meter.counter names.attempts topic after =
    meter.counter names.attempts topic before + answers.countP (·.isOf names topic)
  successes : meter.counter names.success topic after =
    meter.counter names.success topic before +
      answers.countP fun a => a.isOf names topic && a.ending = .well
  errors : meter.counter names.errors topic after =
    meter.counter names.errors topic before +
      answers.countP fun a => a.isOf names topic && a.ending = .failed
  durations : meter.samples names.duration topic after =
    meter.samples names.duration topic before +
      answers.countP fun a => a.isOf names topic && a.ending ≠ .panicked

/-- Every attempt is a success or an error, and has a duration. -/
structure Balanced (meter : Meter κ) (names : MetricNames) (topic : String) (kept : List κ) : Prop where
  outcomes : meter.counter names.attempts topic kept =
    meter.counter names.success topic kept + meter.counter names.errors topic kept
  durations : meter.counter names.attempts topic kept = meter.samples names.duration topic kept

variable {meter : Meter κ} {names names' : MetricNames} {topic topic' : String}

/-- What a measured call adds to the readings of its kind and topic, and to no others. -/
theorem Tallied.ofCall (hnames : names ∈ measuredNames) (hnames' : names' ∈ measuredNames)
    {answer : DeliveryAnswer ξ} (hof : answer.isOf names topic = decide (names = names' ∧ topic = topic'))
    (before : List κ) :
    meter.Tallied names topic [answer] before (meter.kept names' topic' answer.ending before) := by
  obtain ⟨hattempts, hsuccess, herrors, hduration, has, hae, hse⟩ :=
    measuredNames_apart names hnames names' hnames'
  cases hending : answer.ending <;> constructor <;>
    simp [kept, meter.counter_increment, meter.counter_sample, meter.samples_increment,
      meter.samples_sample, hattempts, hsuccess, herrors, hduration, has, hae, hse, hof, hending,
      List.countP_cons]

theorem Tallied.refl (meter : Meter κ) (names : MetricNames) (topic : String) (kept : List κ) :
    meter.Tallied names topic ([] : List (DeliveryAnswer ξ)) kept kept :=
  ⟨rfl, rfl, rfl, rfl⟩

theorem Tallied.append {first rest : List (DeliveryAnswer ξ)} {before between after : List κ}
    (hfirst : meter.Tallied names topic first before between)
    (hrest : meter.Tallied names topic rest between after) :
    meter.Tallied names topic (first ++ rest) before after where
  attempts := by rw [hrest.attempts, hfirst.attempts, List.countP_append, Nat.add_assoc]
  successes := by rw [hrest.successes, hfirst.successes, List.countP_append, Nat.add_assoc]
  errors := by rw [hrest.errors, hfirst.errors, List.countP_append, Nat.add_assoc]
  durations := by rw [hrest.durations, hfirst.durations, List.countP_append, Nat.add_assoc]

/-- An answer of another kind or on another topic adds nothing to the readings. -/
theorem Tallied.ofOther {answer : DeliveryAnswer ξ} (hof : answer.isOf names topic = false)
    (kept : List κ) : meter.Tallied names topic [answer] kept kept := by
  constructor <;> simp [hof]

/-- **If every call of a kind and topic returned, its attempts stay in balance.** -/
theorem Tallied.balanced {answers : List (DeliveryAnswer ξ)} {before after : List κ}
    (h : meter.Tallied names topic answers before after) (hbefore : meter.Balanced names topic before)
    (hreturned : ∀ a ∈ answers, a.isOf names topic = true → a.ending ≠ .panicked) :
    meter.Balanced names topic after := by
  have houtcomes : answers.countP (·.isOf names topic) =
      answers.countP (fun a => a.isOf names topic && a.ending = .well) +
        answers.countP (fun a => a.isOf names topic && a.ending = .failed) := by
    clear h
    induction answers with
    | nil => rfl
    | cons a rest ih =>
      have hrest := ih fun b hb => hreturned b (List.mem_cons_of_mem a hb)
      have ha := hreturned a List.mem_cons_self
      simp only [List.countP_cons, hrest]
      cases hof : a.isOf names topic with
      | false => simp
      | true =>
        cases hending : a.ending with
        | well => simp; omega
        | failed => simp; omega
        | panicked => exact absurd hending (ha hof)
  have hdurations : answers.countP (·.isOf names topic) =
      answers.countP fun a => a.isOf names topic && a.ending ≠ .panicked := by
    refine List.countP_congr fun a ha => ?_
    simp only [Bool.and_eq_true, decide_eq_true_eq]
    exact ⟨fun hof => ⟨hof, hreturned a ha hof⟩, fun hboth => hboth.1⟩
  constructor
  · rw [h.attempts, h.successes, h.errors, hbefore.outcomes, houtcomes]
    omega
  · rw [h.attempts, h.durations, hbefore.durations, hdurations]

end Meter

/-! ## Any calls -/

namespace DeliveryCall

variable (meter : Meter κ) {names : MetricNames} (topic : String) (p : Publisher ξ) (s : Subscriber ξ)

/-- A message that is sent is counted under the names for publishing. -/
theorem tallied_send (hnames : names ∈ measuredNames) (ctx : Context) (t : String) (m : Message)
    (w : World (ξ × List κ)) :
    meter.Tallied names topic
      [(DeliveryAnswer.sent t ((p.unseen.metered meter.recorder.beside).send ctx t m w).1 :
        DeliveryAnswer (ξ × List κ))]
      w.record ((p.unseen.metered meter.recorder.beside).send ctx t m w).2.record := by
  have houtcome := (Publisher.metered_mirrors meter.recorder p.unseen_mirrors ctx t m).outcome w
  have hrecord : ((p.unseen.metered meter.recorder.beside).send ctx t m w).2.record =
      meter.kept publishMetrics t (p.send ctx t m w.bare).1.ending w.record :=
    meter.record_observe publishMetrics t (p.send ctx t m) w
  rw [houtcome, hrecord]
  exact Meter.Tallied.ofCall hnames List.mem_cons_self rfl w.record

/-- A subscription that is asked for is counted under the names for subscribing. -/
theorem tallied_subscribe (hnames : names ∈ measuredNames) (ctx : Context) (t : String)
    (w : World (ξ × List κ)) :
    meter.Tallied names topic
      [DeliveryAnswer.opened t ((s.unseen.metered meter.recorder.beside).subscribe ctx t w).1]
      w.record ((s.unseen.metered meter.recorder.beside).subscribe ctx t w).2.record := by
  have houtcome := ((Subscriber.metered_mirrors meter.recorder s.unseen_mirrors).subscribe ctx t).outcome w
  let asked : Action (World ξ) SubscribeError (Subscription (ξ × List κ)) :=
    s.subscribe ctx t >>= fun opened => Pure.pure opened.unseen
  have hrecord : ((s.unseen.metered meter.recorder.beside).subscribe ctx t w).2.record =
      meter.kept subscribeMetrics t (asked w.bare).1.ending w.record :=
    meter.record_observe subscribeMetrics t asked w
  rw [houtcome, hrecord]
  exact Meter.Tallied.ofCall hnames (List.mem_cons_of_mem _ List.mem_cons_self) rfl w.record

theorem tallied_make (hnames : names ∈ measuredNames) (call : DeliveryCall) (w : World (ξ × List κ)) :
    let made := call.make (p.unseen.metered meter.recorder.beside)
      (s.unseen.metered meter.recorder.beside) w
    meter.Tallied names topic [made.1] w.record made.2.record := by
  cases call with
  | publish ctx t payload => exact tallied_send meter topic p hnames ctx t { payload } w
  | publishMessage ctx t m => exact tallied_send meter topic p hnames ctx t m w
  | subscribe ctx t => exact tallied_subscribe meter topic s hnames ctx t w
  | close => exact Meter.Tallied.ofOther rfl w.record

/-- **The readings of a topic grow by the calls on it and by how they ended**, whatever other calls are
made in between. -/
theorem tallied_makeAll (hnames : names ∈ measuredNames) (calls : List DeliveryCall)
    (w : World (ξ × List κ)) :
    let made := makeAll (p.unseen.metered meter.recorder.beside)
      (s.unseen.metered meter.recorder.beside) calls w
    meter.Tallied names topic made.1 w.record made.2.record := by
  induction calls generalizing w with
  | nil => exact Meter.Tallied.refl meter names topic w.record
  | cons call rest ih => exact (tallied_make meter topic p s hnames call w).append (ih _)

end DeliveryCall

end SymbolRelay
