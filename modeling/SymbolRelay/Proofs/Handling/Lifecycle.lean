import SymbolRelay.Handling.Lifecycle
import SymbolRelay.Proofs.Handling.Acts

/-!
# What a life keeps

The calls to run a router and to close it, the acts of its run and what others do come in any order. What
every move of a life keeps holds all along, and a life in which nobody comes in between is the running and
closing of the router.

## Results

* `play_keeps`, `states_keep` — what every move keeps holds all along a life;
* `play_since` — what holds whenever something is seen, and is kept, holds since it was seen;
* `Closes.advance` — a run over the queue that is asked to close is over after three steps;
* `follows_close` — if nobody comes in between, a call to close is the closing of the router.
-/

set_option autoImplicit false

namespace SymbolRelay

variable {ξ : Type}

/-! ## A run that is asked to close -/

namespace Run

variable {r : Router ξ} {run : Run ξ} {w : World ξ}

/-- Over the queue, routes are given back without a panic, and nothing but the queue changes. -/
theorem giveBack_ofQueue {routes : List (Route ξ)}
    (hbroker : ∀ route ∈ routes, route.subscription.broker = Broker.ofQueue) (w : World ξ) :
    ∃ requests, giveBack routes w = (none, { w with queue := w.queue.after requests }) := by
  induction routes generalizing w with
  | nil => exact ⟨[], rfl⟩
  | cons route routes ih =>
    obtain ⟨requests, hrest⟩ := ih (fun other ho => hbroker other (List.mem_cons_of_mem _ ho))
      { w with queue := w.queue.after route.subscription.farewell }
    refine ⟨route.subscription.farewell ++ requests, ?_⟩
    rw [giveBack_cons, Subscription.discard_ofQueue (hbroker route List.mem_cons_self), hrest]
    simp only [Outcome.panic?, Option.none_or, Queue.after, List.foldl_append]

/-- How many steps it takes, at most, until a run that is asked to close is over. -/
def stepsLeft (run : Run ξ) : Nat :=
  match run.point with
  | .ended _ => 0
  | .leaving _ _ => 1
  | .top _ | .resting _ => 2
  | .round _ _ _ => 3

theorem stepsLeft_le (run : Run ξ) : run.stepsLeft ≤ Router.stepsToClose := by
  unfold stepsLeft
  split <;> decide

theorem ended_of_stepsLeft (run : Run ξ) (h : run.stepsLeft = 0) : ∃ outcome, run.point = .ended outcome := by
  unfold stepsLeft at h
  split at h
  · rename_i outcome hended
    exact ⟨outcome, hended⟩
  all_goals simp at h

/-- A run over the queue that is asked to close. -/
structure Closes (run : Run ξ) (w : World ξ) : Prop where
  closing : w.control.closing = true
  broker : ∀ route ∈ (Course.ofRun run).stage.routes, route.subscription.broker = Broker.ofQueue

/-- The end of the round in which a run is asked to close. -/
theorem Closes.sweep {ctx : Context} {passed : List (Route ξ × Bool)} {ahead : List (Route ξ)} {idle : Bool}
    (h : Closes ⟨ctx, .round passed ahead idle⟩ w) :
    Closes ⟨ctx, (Run.sweep passed ahead idle w).1⟩ (Run.sweep passed ahead idle w).2 ∧
      stepsLeft ⟨ctx, (Run.sweep passed ahead idle w).1⟩ ≤ 2 := by
  have hpassed : ∀ (p : Route ξ × Bool → Bool), ∀ route ∈ (passed.filter p).map (·.1),
      route.subscription.broker = Broker.ofQueue := by
    intro p route hroute
    obtain ⟨e, he, rfl⟩ := List.mem_map.mp hroute
    exact h.broker e.1 (List.mem_append_left _ (List.mem_map_of_mem (List.mem_of_mem_filter he)))
  have hkept : ∀ route ∈ (passed.filter fun e => !e.2).map (·.1) ++ ahead,
      route.subscription.broker = Broker.ofQueue := by
    intro route hroute
    rcases List.mem_append.mp hroute with hroute | hroute
    · exact hpassed _ route hroute
    · exact h.broker route (List.mem_append_right _ hroute)
  have hlost := hpassed (·.2)
  simp only [Run.sweep]
  generalize (passed.filter (·.2)).map (·.1) = lost at hlost ⊢
  generalize (passed.filter fun e => !e.2).map (·.1) ++ ahead = kept at hkept ⊢
  have hagain : ∀ w' : World ξ, w'.control.closing = true →
      Closes ⟨ctx, if idle then .resting kept else .top kept⟩ w' ∧
        stepsLeft (⟨ctx, if idle then .resting kept else .top kept⟩ : Run ξ) ≤ 2 := by
    intro w' hclosing
    cases idle <;> exact ⟨⟨hclosing, hkept⟩, Nat.le_refl _⟩
  split
  · exact hagain w h.closing
  · obtain ⟨requests, hgiven⟩ := giveBack_ofQueue hlost w
    simp only [hgiven]
    split
    · exact ⟨⟨h.closing, List.forall_mem_nil _⟩, Nat.le_succ _⟩
    · exact hagain _ h.closing

/-- **One more step of a run that is asked to close.** -/
theorem Closes.step (h : Closes run w) :
    Closes (run.step r w).1 (run.step r w).2 ∧ (run.step r w).1.stepsLeft ≤ run.stepsLeft - 1 := by
  obtain ⟨ctx, point⟩ := run
  have hround : ∀ routes, Run.beginRound ctx routes w = .leaving (.ok ()) routes := by
    intro routes
    simp only [Run.beginRound, h.closing, Bool.true_or, if_true]
  cases point with
  | top routes | resting routes =>
    simp only [Run.step, stepPoint, hround]
    exact ⟨⟨h.closing, h.broker⟩, Nat.le_refl _⟩
  | round passed ahead idle =>
    cases ahead with
    | nil => exact h.sweep
    | cons route ahead =>
      simp only [Run.step, stepPoint, h.closing, if_true]
      exact h.sweep
  | leaving result routes =>
    have hbroker : ∀ route ∈ routes, route.subscription.broker = Broker.ofQueue := h.broker
    obtain ⟨requests, hgiven⟩ := giveBack_ofQueue hbroker (setPhase .draining w)
    simp only [Run.step, stepPoint, hgiven, endWith]
    exact ⟨⟨h.closing, List.forall_mem_nil _⟩, Nat.le_refl _⟩
  | ended outcome => exact ⟨h, Nat.le_refl _⟩

/-- If nobody comes in between, single acts make up the steps of a run that is asked to close. -/
theorem Closes.advance [RetryLoop] (h : Closes run w) (rung : Bool) (n : Nat) :
    Course.Reaches r rung (Course.ofRun run, w)
        (Course.ofRun (run.advance r n w).1, (run.advance r n w).2) ∧
      (run.advance r n w).1.stepsLeft ≤ run.stepsLeft - n := by
  induction n generalizing run w with
  | zero => exact ⟨.refl _, Nat.le_refl _⟩
  | succ n ih =>
    obtain ⟨hnext, hfewer⟩ := h.step (r := r)
    obtain ⟨hrest, hleft⟩ := ih hnext
    refine ⟨(Course.follows_run (fun _ => h.closing) run).trans hrest, Nat.le_trans hleft ?_⟩
    omega

end Run

namespace Lifecycle

/-- What is asked of every move of a life, where it is made. -/
def Along [RetryLoop] (r : Router ξ) (Q : Lifecycle ξ → Move ξ → Prop) : Lifecycle ξ → List (Move ξ) → Prop
  | _, [] => True
  | l, move :: moves => Q l move ∧ Along r Q (l.move r move) moves

variable {r : Router ξ} {Q : Lifecycle ξ → Move ξ → Prop} {l : Lifecycle ξ}

theorem advance_of_some [RetryLoop] {c : Course ξ} (h : l.course = some c) :
    l.advance r = { l with
      world := (c.step r l.rung l.world).2
      course := some (c.step r l.rung l.world).1
      released := l.released || c.releases
      opened := l.opened ++ (c.opens? r l.world).toList
      taken := l.taken ++ (c.takes? l.world).toList
      settled := l.settled ++ (c.settles? l.world (c.step r l.rung l.world).2).toList } := by
  simp only [advance, h]

theorem play_append [RetryLoop] (r : Router ξ) (l : Lifecycle ξ) (before after : List (Move ξ)) :
    play r l (before ++ after) = play r (play r l before) after := List.foldl_append

theorem along_append [RetryLoop] {before after : List (Move ξ)} :
    Along r Q l (before ++ after) ↔ Along r Q l before ∧ Along r Q (play r l before) after := by
  induction before generalizing l with
  | nil => exact ⟨fun h => ⟨trivial, h⟩, fun h => h.2⟩
  | cons move before ih =>
    rw [List.cons_append, Along, Along, ih, and_assoc]
    rfl

theorem along_and [RetryLoop] {Q' : Lifecycle ξ → Move ξ → Prop} {moves : List (Move ξ)}
    (h : Along r Q l moves) (h' : Along r Q' l moves) : Along r (fun l m => Q l m ∧ Q' l m) l moves := by
  induction moves generalizing l with
  | nil => trivial
  | cons move moves ih => exact ⟨⟨h.1, h'.1⟩, ih h.2 h'.2⟩

/-- What every move keeps is kept by a life. -/
theorem play_keeps [RetryLoop] {P : Lifecycle ξ → Prop}
    (hmove : ∀ l move, Q l move → P l → P (l.move r move)) (h : P l) {moves : List (Move ξ)}
    (hm : Along r Q l moves) : P (play r l moves) := by
  induction moves generalizing l with
  | nil => exact h
  | cons move moves ih => exact ih (hmove l move hm.1 h) hm.2

/-- Everything that a life goes through it comes to after some of its moves. -/
theorem mem_states [RetryLoop] {s : Lifecycle ξ} {moves : List (Move ξ)} (h : s ∈ states r l moves) :
    ∃ before after, moves = before ++ after ∧ s = play r l before := by
  induction moves generalizing l with
  | nil => exact ⟨[], [], rfl, List.mem_singleton.mp h⟩
  | cons move moves ih =>
    rcases List.mem_cons.mp h with rfl | h
    · exact ⟨[], move :: moves, rfl, rfl⟩
    · obtain ⟨before, after, rfl, rfl⟩ := ih h
      exact ⟨move :: before, after, rfl, rfl⟩

theorem mem_states_self [RetryLoop] (r : Router ξ) (l : Lifecycle ξ) (moves : List (Move ξ)) :
    l ∈ states r l moves := by
  cases moves <;> exact List.mem_cons_self

/-- What was seen is not undone by what comes later. -/
theorem mem_phases_append [RetryLoop] {phase : Phase} {before : List (Move ξ)} (h : phase ∈ phases r l before)
    (after : List (Move ξ)) : phase ∈ phases r l (before ++ after) := by
  obtain ⟨s, hs, rfl⟩ := List.mem_map.mp h
  obtain ⟨first, rest, rfl, rfl⟩ := mem_states hs
  refine List.mem_map.mpr ⟨_, ?_, rfl⟩
  clear h hs
  induction first generalizing l with
  | nil => exact mem_states_self r l _
  | cons move first ih => exact List.mem_cons_of_mem _ ih

/-- What holds whenever a phase is shown, and is kept by every move, holds since that phase was shown. -/
theorem play_since [RetryLoop] {K P : Lifecycle ξ → Prop} {phase : Phase}
    (hkept : ∀ l move, Q l move → K l → K (l.move r move))
    (hmove : ∀ l move, Q l move → P l → P (l.move r move))
    (hshown : ∀ l : Lifecycle ξ, K l → l.world.control.phase = phase → P l) (h : K l)
    {moves : List (Move ξ)} (hm : Along r Q l moves) (hphase : phase ∈ phases r l moves) :
    P (play r l moves) := by
  obtain ⟨s, hs, hshows⟩ := List.mem_map.mp hphase
  obtain ⟨before, after, rfl, rfl⟩ := mem_states hs
  obtain ⟨hbefore, hafter⟩ := along_append.mp hm
  rw [play_append]
  exact play_keeps hmove (hshown _ (play_keeps hkept h hbefore) hshows) hafter

/-- What every move keeps holds all along a life. -/
theorem states_keep [RetryLoop] {P : Lifecycle ξ → Prop}
    (hmove : ∀ l move, Q l move → P l → P (l.move r move)) (h : P l) {moves : List (Move ξ)}
    (hm : Along r Q l moves) : ∀ s ∈ states r l moves, P s := by
  induction moves generalizing l with
  | nil =>
    intro s hs
    rw [List.mem_singleton.mp hs]
    exact h
  | cons move moves ih =>
    intro s hs
    rcases List.mem_cons.mp hs with rfl | hs
    · exact h
    · exact ih (hmove l move hm.1 h) hm.2 s hs

/-! ## Undisturbed -/

section Undisturbed

variable {c : Course ξ} {k : Nat}

/-- The acts of a run, with nobody in between. -/
theorem play_advances [RetryLoop] {rung : Bool} {s s' : Course ξ × World ξ} (h : Course.Reaches r rung s s')
    (hcourse : l.course = some s.1) (hworld : l.world = s.2) (hrung : l.rung = rung)
    (hreleased : ∀ outcome, s.1.stage = .returned outcome → l.released = true) :
    ∃ n, (play r l (List.replicate n .advance)).course = some s'.1 ∧
      (play r l (List.replicate n .advance)).world = s'.2 ∧
      (play r l (List.replicate n .advance)).closers = l.closers ∧
      ∀ outcome, s'.1.stage = .returned outcome →
        (play r l (List.replicate n .advance)).released = true := by
  induction h generalizing l with
  | refl s => exact ⟨0, hcourse, hworld, rfl, hreleased⟩
  | @head s s' _ ih =>
    obtain ⟨⟨ctx, stage⟩, w⟩ := s
    subst hworld hrung
    have hadvance := advance_of_some (r := r) hcourse
    obtain ⟨n, hrest⟩ := ih (l := l.advance r) (by rw [hadvance]) (by rw [hadvance]) (by rw [hadvance]) (by
      intro outcome hreturned
      rw [hadvance]
      by_cases hadmitted : stage = .admitted
      · subst hadmitted
        simp only [Course.step, Course.setOut] at hreturned
        split at hreturned <;> cases hreturned
      · rw [Course.step_of_ne r l.rung ctx hadmitted] at hreturned
        rcases Course.releases_or_returned hreturned with hreleases | hover
        · simp only [hreleases, Bool.or_true]
        · simp only [hreleased outcome hover, Bool.true_or])
    have hclosers : (l.advance r).closers = l.closers := by rw [hadvance]
    rw [hclosers] at hrest
    exact ⟨n + 1, hrest⟩

theorem closeOn_of_ringing (hk : l.closers[k]? = some .ringing) :
    l.closeOn r k = { l with rung := true, closers := l.closers.set k .looking } := by
  simp only [closeOn, hk]

theorem closeOn_of_looking (hk : l.closers[k]? = some .looking) (hstarted : l.world.control.started = true) :
    l.closeOn r k = { l with closers := l.closers.set k .waiting } := by
  simp only [closeOn, hk, hstarted, if_true]

theorem closeOn_of_waiting (hk : l.closers[k]? = some .waiting) :
    l.closeOn r k = { l with closers := l.closers.set k (if l.released then .shutting else .waiting) } := by
  simp only [closeOn, hk]

theorem closeOn_of_shutting (hk : l.closers[k]? = some .shutting) :
    l.closeOn r k = { l with
      world := (r.subscriber.close l.world).2
      closers := l.closers.set k (.returned ((r.subscriber.close l.world).1.mapError .close)) } := by
  simp only [closeOn, hk]

theorem getElem?_set_of_some {points : List ClosePoint} {point : ClosePoint} (h : points[k]? = some point)
    (next : ClosePoint) : (points.set k next)[k]? = some next := by
  obtain ⟨hlt, _⟩ := List.getElem?_eq_some_iff.mp h
  exact List.getElem?_set_self hlt

/-- A call to close that finds a run which is not over waits for its end. -/
theorem closeOn_awaits (hk : l.closers[k]? = some .ringing ∨ l.closers[k]? = some .looking)
    (hstarted : l.world.control.started = true) (hunreleased : l.released = false) :
    ∃ l', (l.closeOn r k).closeOn r k = l' ∧ l'.world = l.world ∧ l'.course = l.course ∧
      l'.closers[k]? = some .waiting := by
  refine ⟨_, rfl, ?_⟩
  rcases hk with hk | hk
  · have hnext : ({ l with rung := true, closers := l.closers.set k .looking } : Lifecycle ξ).closers[k]? =
        some .looking := getElem?_set_of_some hk _
    rw [closeOn_of_ringing hk, closeOn_of_looking hnext hstarted]
    exact ⟨rfl, rfl, getElem?_set_of_some hnext _⟩
  · have hnext : ({ l with closers := l.closers.set k .waiting } : Lifecycle ξ).closers[k]? = some .waiting :=
      getElem?_set_of_some hk _
    rw [closeOn_of_looking hk hstarted, closeOn_of_waiting hnext, hunreleased]
    exact ⟨rfl, rfl, getElem?_set_of_some hnext _⟩

/-- A call to close that waits closes the subscriber once the run is over. -/
theorem closeOn_released (hk : l.closers[k]? = some .waiting) (hreleased : l.released = true) :
    ∃ l', (l.closeOn r k).closeOn r k = l' ∧ l'.world = (r.subscriber.close l.world).2 ∧
      l'.course = l.course ∧
      l'.closers[k]? = some (.returned ((r.subscriber.close l.world).1.mapError .close)) := by
  have hnext : ({ l with closers := l.closers.set k .shutting } : Lifecycle ξ).closers[k]? = some .shutting :=
    getElem?_set_of_some hk _
  have hshut : l.closeOn r k = { l with closers := l.closers.set k .shutting } := by
    simp only [closeOn, hk, hreleased, if_true]
  refine ⟨_, rfl, ?_⟩
  rw [hshut, closeOn_of_shutting hnext]
  exact ⟨rfl, rfl, getElem?_set_of_some hnext _⟩

/-- **If nobody comes in between, a call to close is the closing of the router**: it asks for it, the run
acts until it is over, and the subscriber is closed. -/
theorem follows_close [RetryLoop] {run : Run ξ} (hcourse : l.course = some (.ofRun run))
    (hstarted : l.world.control.started = true) (hunreleased : l.released = false)
    (hongoing : ∀ outcome, run.point ≠ .ended outcome)
    (hbroker : ∀ route ∈ (Course.ofRun run).stage.routes, route.subscription.broker = Broker.ofQueue) :
    ∃ n, let k := l.closers.length
      let l' := play r l
        ([.close, .closer k, .closer k] ++ List.replicate n .advance ++ [.closer k, .closer k])
      l'.world = (r.close (some run) l.world).2 ∧
        l'.course = (r.close (some run) l.world).1.2.map Course.ofRun ∧
        l'.closers[k]? = some (.returned (r.close (some run) l.world).1.1) := by
  have hcloses : run.Closes (Router.askToClose l.world) := ⟨rfl, hbroker⟩
  have hfirst : l.close.closers[l.closers.length]? = some .ringing ∨
      l.close.closers[l.closers.length]? = some .looking := by
    cases hclosing : l.world.control.closing <;> simp [Lifecycle.close, hclosing]
  obtain ⟨waiting, hwaiting, hworld, hcourse', hk⟩ := closeOn_awaits (r := r) hfirst hstarted hunreleased
  obtain ⟨hreaches, hleft⟩ := hcloses.advance (r := r) waiting.rung Router.stepsToClose
  have hstill : waiting.world = Router.askToClose l.world := hworld
  rw [← hstill] at hreaches
  have hnotyet : ∀ outcome, (Course.ofRun run).stage ≠ .returned outcome := by
    intro outcome hreturned
    obtain ⟨ctx, point⟩ := run
    cases point with
    | ended o => exact hongoing o rfl
    | _ => cases hreturned
  obtain ⟨n, hover, hworld', hclosers, hreleased⟩ := play_advances hreaches (hcourse'.trans hcourse) rfl rfl
    fun outcome hreturned => absurd hreturned (hnotyet outcome)
  have hfew := run.stepsLeft_le
  obtain ⟨outcome, hended⟩ := Run.ended_of_stepsLeft (run.advance r Router.stepsToClose waiting.world).1
    (by rw [hstill]; omega)
  obtain ⟨l', hl', hlast, hcourse'', hreturned⟩ := closeOn_released (r := r)
    (l := play r waiting (List.replicate n .advance)) (by rw [hclosers]; exact hk)
    (hreleased outcome (by simp only [Course.ofRun, hended, Stage.ofPoint]))
  refine ⟨n, ?_⟩
  have hplay : play r l ([.close, .closer l.closers.length, .closer l.closers.length] ++
      List.replicate n .advance ++ [.closer l.closers.length, .closer l.closers.length]) = l' := by
    rw [play_append, play_append, ← hl', ← hwaiting]
    rfl
  simp only [hplay, hlast, hcourse'', hreturned, hover, hworld', hstill]
  exact ⟨rfl, rfl, rfl⟩

end Undisturbed

end Lifecycle

end SymbolRelay
