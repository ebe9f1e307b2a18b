import SymbolRelay.Proofs.Handling.Shutdown

/-!
# How a run sets out

A run that was admitted looks once whether closing was asked for. If it was, it is refused: it ends at once,
and says that the router is closed. If it was not, it sets out, and if nobody takes away what it subscribes to
it ends well, be it asked to close in its next act. From the moment at which closing was asked for, it is not
far from its end either way:

```text
to go   none: 2n + 15   admitted: 2n + 14   subscribing: 5 + 2 · ahead + opened   from there on: rank
```

## Results

* `Heading.move` — a run that set out stays on its way, and one that was refused stays refused;
* `Heading.sound_of_open`, `Heading.shut_of_closing` — what was asked for when it looked decides on which;
* `toGo_move`, `toGo_runner` — how far the end is, once it was asked for.
-/

set_option autoImplicit false

namespace SymbolRelay

variable {ξ : Type}

namespace Stage

/-- A run that set out, and with which nothing went wrong. -/
def Sound : Stage ξ → Prop
  | .subscribing _ _ => True
  | stage => stage.Smooth

theorem Smooth.sound {stage : Stage ξ} (h : stage.Smooth) : stage.Sound := by
  cases stage with
  | subscribing => trivial
  | _ => exact h

/-- A run that set out still subscribes, or came into its rounds. -/
theorem Sound.cases {stage : Stage ξ} (h : stage.Sound) :
    (∃ ahead opened, stage = .subscribing ahead opened) ∨ stage.Smooth := by
  cases stage with
  | subscribing ahead opened => exact .inl ⟨ahead, opened, rfl⟩
  | _ => exact .inr h

/-- How many acts a run over so many registrations takes at most until it has returned, once closing was
asked for. -/
def toGo (n : Nat) (w : World ξ) : Stage ξ → Nat
  | .admitted => 2 * n + 14
  | .subscribing ahead opened => 5 + 2 * ahead.length + opened.length
  | stage => stage.rank w

theorem Smooth.toGo_eq {stage : Stage ξ} (h : stage.Smooth) (n : Nat) (w : World ξ) :
    stage.toGo n w = stage.rank w := by
  cases stage with
  | admitted | subscribing => exact h.elim
  | _ => rfl

/-- What others do beside a run does not keep it from its end. -/
theorem toGo_beside {w w' : World ξ} {allowed : Queue.Request → Prop} (h : w.Beside allowed w') (n : Nat)
    (stage : Stage ξ) : stage.toGo n w' ≤ stage.toGo n w := by
  cases stage with
  | admitted | subscribing => exact Nat.le_refl _
  | _ => exact rank_beside h _

theorem toGo_le {n : Nat} {stage : Stage ξ} (h : stage.routes.length + stage.awaited.length ≤ n)
    (w : World ξ) : stage.toGo n w ≤ 2 * n + 14 := by
  cases stage with
  | admitted => exact Nat.le_refl _
  | subscribing ahead opened =>
    simp only [routes, awaited] at h
    simp only [toGo]
    omega
  | _ =>
    refine Nat.le_trans (Nat.add_le_add_right (remaining_le w _) _) ?_
    omega

end Stage

/-- Once admitted, a run is not admitted again. -/
theorem Course.goes_looked {ctx : Context} {w : World ξ} {stage stage' : Stage ξ}
    (h : Course.Goes ctx w stage stage') : stage' ≠ .admitted := by
  cases h with
  | @sweeps _ _ idle | @parted _ idle => cases idle <;> exact nofun
  | _ => exact nofun

namespace Lifecycle

/-- The run gets what it subscribes to next, and has where to publish what comes of it. -/
def Served (r : Router ξ) (l : Lifecycle ξ) : Prop :=
  ∀ ctx registration ahead opened, l.course = some ⟨ctx, .subscribing (registration :: ahead) opened⟩ →
    (registration.outputTopic.isSome && r.publisher.isNone) = false ∧
      ∃ s w', r.subscriber.subscribe ctx registration.topic l.world = (.ok s, w')

/-- Others spare what the run subscribed to, and the run gets what it subscribes to. -/
structure Clean (r : Router ξ) (l : Lifecycle ξ) (m : Move ξ) : Prop where
  sparing : l.Sparing r m
  served : m = .advance → l.Served r

/-- The run has looked whether closing was asked for. -/
def Looked (l : Lifecycle ξ) : Prop := ∃ c, l.course = some c ∧ c.stage ≠ .admitted

/-- How many acts of the run are left at most, once closing was asked for. -/
def toGo (r : Router ξ) (l : Lifecycle ξ) : Nat :=
  if l.world.control.closing then
    (l.course.map fun c => c.stage.toGo r.registrations.length l.world).getD (2 * r.registrations.length + 15)
  else 2 * r.registrations.length + 15

/-- Where a router over the queue is heading, if others spare it: its run did not look yet, it is on its way,
or it was refused. -/
inductive Heading (r : Router ξ) (l : Lifecycle ξ) : Prop
  | fresh (h : Fresh l) (hguarded : Guarded l)
  | admitted {ctx : Context} (h : Unharmed r l ⟨ctx, .admitted⟩) (hopened : l.opened = [])
  | sound {c : Course ξ} (h : Unharmed r l c) (hsound : c.stage.Sound)
  | refused {c : Course ξ} (h : Unharmed r l c) (hshut : Shut l) (hlooked : c.stage ≠ .admitted)

section Ways

variable {r : Router ξ} {l : Lifecycle ξ} {c c' : Course ξ} {m : Move ξ}

/-! ## One move -/

/-- Only its own acts get a run anywhere. -/
theorem Unharmed.course_move [RetryLoop] (h : Unharmed r l c) (hm : m ≠ .advance) :
    (l.move r m).course = some c := by
  cases m with
  | run ctx =>
    simp only [Lifecycle.move, h.steady.begun.run ctx]
    exact h.steady.begun.course
  | advance => exact absurd rfl hm
  | close => exact h.steady.begun.course
  | closer k =>
    simp only [Lifecycle.move, closeOn]
    split <;> exact h.steady.begun.course
  | meanwhile world => exact h.steady.begun.course

/-- What others do around a run keeps it where it is. -/
theorem Unharmed.beside [RetryLoop] (hr : r.OnQueue) (h : Unharmed r l c) (hspared : l.Sparing r m)
    (hm : m ≠ .advance) :
    Unharmed r (l.move r m) c := by
  obtain ⟨c', hnext, _⟩ := h.move hr hspared
  obtain rfl : c = c' := Option.some.inj ((h.course_move hm).symm.trans hnext.steady.begun.course)
  exact hnext

/-- The next act of a run that still subscribes. -/
theorem Unharmed.subscribing_advance [RetryLoop] {ctx : Context} {ahead : List (Registration ξ)}
    {opened : List (Route ξ)} (h : Unharmed r l ⟨ctx, .subscribing ahead opened⟩) (hserved : l.Served r) :
    (Course.step r l.rung ⟨ctx, .subscribing ahead opened⟩ l.world).1.stage.Sound ∧
      ∀ n, (Course.step r l.rung ⟨ctx, .subscribing ahead opened⟩ l.world).1.stage.toGo n
        (l.advance r).world < (Stage.subscribing ahead opened).toGo n l.world := by
  cases ahead with
  | nil =>
    refine ⟨trivial, fun n => ?_⟩
    simp only [Course.step, Course.act, Stage.toGo, Stage.rank, Stage.remaining, Stage.routes,
      List.length_nil]
    omega
  | cons registration ahead =>
    obtain ⟨hpublished, s, w', hsubscribed⟩ := hserved ctx registration ahead opened h.steady.begun.course
    simp only [Course.step, Course.act, Course.subscribe, hpublished, hsubscribed, Bool.false_eq_true,
      if_false]
    refine ⟨trivial, fun n => ?_⟩
    simp only [Stage.toGo, List.length_append, List.length_cons, List.length_nil]
    omega

/-- **The next act of a run that is on its way.** If closing was asked for, it is nearer to its end, or was
over. -/
theorem Unharmed.sound_advance [RetryLoop] (hr : r.OnQueue) (h : Unharmed r l c) (hsound : c.stage.Sound)
    (hclean : Clean r l .advance) :
    ∃ c', Unharmed r (l.advance r) c' ∧ c'.stage.Sound ∧
      ∀ n, l.world.control.closing = true →
        c'.stage.toGo n (l.advance r).world ≤ c.stage.toGo n l.world - 1 := by
  obtain ⟨hnext, hsmooth⟩ := h.advance hr hclean.sparing
  refine ⟨_, hnext, ?_⟩
  rcases hsound.cases with ⟨ahead, opened, hstage⟩ | hstill
  · obtain ⟨ctx, stage⟩ := c
    obtain rfl : stage = .subscribing ahead opened := hstage
    obtain ⟨hsound, hnearer⟩ := h.subscribing_advance (hclean.served rfl)
    exact ⟨hsound, fun n _ => Nat.le_sub_one_of_lt (hnearer n)⟩
  · have hafter := hsmooth hstill
    refine ⟨hafter.sound, fun n hclosing => ?_⟩
    have hwinding := h.steady.winding hstill.entered (.inl hclosing)
    obtain ⟨c', hwinding', _, hrank⟩ := hwinding.advance hr
    obtain rfl : c' = (c.step r l.rung l.world).1 :=
      Option.some.inj (hwinding'.steady.begun.course.symm.trans hnext.steady.begun.course)
    rwa [hafter.toGo_eq, hstill.toGo_eq]

/-- The next act of a run that was refused. -/
theorem Unharmed.refused_advance [RetryLoop] (hr : r.OnQueue) (h : Unharmed r l c) (hshut : Shut l)
    (hlooked : c.stage ≠ .admitted) (hclean : Clean r l .advance) :
    ∃ c', Unharmed r (l.advance r) c' ∧ c'.stage ≠ .admitted ∧
      ∀ n, c'.stage.toGo n (l.advance r).world ≤ c.stage.toGo n l.world - 1 := by
  obtain ⟨hnext, _⟩ := h.advance hr hclean.sparing
  have hrefused := hshut.refused c h.steady.begun.course
  refine ⟨_, hnext, ?_⟩
  obtain ⟨ctx, stage⟩ := c
  cases stage with
  | admitted => exact absurd rfl hlooked
  | giving outcome left =>
    obtain ⟨_, rfl⟩ := hrefused
    exact ⟨nofun, fun n => Nat.le_refl _⟩
  | releasing outcome | returned outcome => exact ⟨nofun, fun n => Nat.le_refl _⟩
  | _ => exact hrefused.elim

/-- A run that was admitted will be refused if closing was asked for. -/
theorem Unharmed.shut_of_admitted {ctx : Context} (h : Unharmed r l ⟨ctx, .admitted⟩)
    (hopened : l.opened = []) (hclosing : l.world.control.closing = true) : Shut l := by
  refine ⟨hclosing, h.steady.begun.fits, hopened, fun c hc => ?_⟩
  obtain rfl : ⟨ctx, .admitted⟩ = c := Option.some.inj (h.steady.begun.course.symm.trans hc)
  trivial

/-- **A run that was admitted** sets out, or is refused, as it finds the router. -/
theorem Unharmed.admitted_advance [RetryLoop] (hr : r.OnQueue) {ctx : Context}
    (h : Unharmed r l ⟨ctx, .admitted⟩) (hopened : l.opened = []) (hclean : Clean r l .advance) :
    ∃ c', Unharmed r (l.advance r) c' ∧ c'.stage ≠ .admitted ∧
      (l.advance r).world.control = l.world.control ∧
      (l.world.control.closing = false → c'.stage.Sound) ∧
      (l.world.control.closing = true → Shut (l.advance r) ∧
        ∀ n, c'.stage.toGo n (l.advance r).world ≤ Stage.toGo n l.world .admitted - 1) := by
  obtain ⟨hnext, _⟩ := h.advance hr hclean.sparing
  obtain ⟨_, _, hcontrol⟩ := Course.setOut_begins r ctx l.world
  have hworld : (l.advance r).world = (Course.setOut r ctx l.world).2 := by
    rw [advance_of_some h.steady.begun.course]
    rfl
  refine ⟨_, hnext, ?_, hworld ▸ hcontrol, ?_, ?_⟩
  · simp only [Course.step, Course.setOut]
    split <;> simp
  · intro hclosing
    simp only [Course.step, Course.setOut, hclosing, Bool.false_eq_true, if_false]
    trivial
  · intro hclosing
    refine ⟨(h.shut_of_admitted hopened hclosing).advance r, fun n => ?_⟩
    simp only [Course.step, Course.setOut, hclosing, if_true, Stage.toGo, Stage.rank, Stage.remaining,
      Stage.routes, List.length_nil]
    omega

/-- A run that was not called stays so until it is called. -/
theorem Fresh.course_move [RetryLoop] (h : Fresh l) (hm : ∀ ctx, m ≠ .run ctx) :
    (l.move r m).course = none := by
  cases m with
  | run ctx => exact absurd rfl (hm ctx)
  | advance =>
    simp only [Lifecycle.move, h.advance]
    exact h.unbegun.course
  | close => exact h.unbegun.course
  | closer k =>
    simp only [Lifecycle.move, closeOn]
    split <;> exact h.unbegun.course
  | meanwhile world => exact h.unbegun.course

/-- A run that set out stays on its way. -/
theorem Unharmed.sound_move [RetryLoop] (hr : r.OnQueue) (h : Unharmed r l c) (hsound : c.stage.Sound)
    (hclean : Clean r l m) : ∃ c', Unharmed r (l.move r m) c' ∧ c'.stage.Sound := by
  by_cases hm : m = .advance
  · subst hm
    obtain ⟨c', hnext, hstill, _⟩ := h.sound_advance hr hsound hclean
    exact ⟨c', hnext, hstill⟩
  · exact ⟨c, h.beside hr hclean.sparing hm, hsound⟩

/-- **One move keeps a router heading where it is heading.** -/
theorem Heading.move [RetryLoop] (hr : r.OnQueue) (h : Heading r l) (hclean : Clean r l m) :
    Heading r (l.move r m) := by
  cases h with
  | fresh h hguarded =>
    by_cases hrun : ∃ ctx, m = .run ctx
    · obtain ⟨ctx, rfl⟩ := hrun
      refine .admitted (h.unharmed hguarded ctx) ?_
      rw [Lifecycle.move, h.unbegun.run_eq]
      exact h.unbegun.opened
    · have hnone := h.course_move (r := r) (not_exists.mp hrun)
      rcases Safe.move hr (.inl ⟨h, hguarded⟩) hclean.sparing with ⟨hfresh, hstill⟩ | ⟨c, hbegun⟩
      · exact .fresh hfresh hstill
      · simp [hbegun.steady.begun.course] at hnone
  | admitted h hopened =>
    by_cases hm : m = .advance
    · subst hm
      obtain ⟨c, hnext, hlooked, _, hsound, hshut⟩ := h.admitted_advance hr hopened hclean
      cases hclosing : l.world.control.closing with
      | false => exact .sound hnext (hsound hclosing)
      | true => exact .refused hnext (hshut hclosing).1 hlooked
    · refine .admitted (h.beside hr hclean.sparing hm) ?_
      rcases move_cases hr.handsOut hclean.sparing.free with ⟨ctx, rfl⟩ | hadvance | ⟨_, ha⟩
      · simp only [Lifecycle.move, h.steady.begun.run ctx]
        exact hopened
      · exact absurd hadvance hm
      · exact ha.opened.trans hopened
  | sound h hsound =>
    obtain ⟨c, hnext, hstill⟩ := h.sound_move hr hsound hclean
    exact .sound hnext hstill
  | refused h hshut hlooked =>
    have hstill := hshut.move hr.handsOut hclean.sparing.free
    by_cases hm : m = .advance
    · subst hm
      obtain ⟨c, hnext, hlooked, _⟩ := h.refused_advance hr hshut hlooked hclean
      exact .refused hnext hstill hlooked
    · exact .refused (h.beside hr hclean.sparing hm) hstill hlooked

/-! ## The look -/

/-- A router that was called to run. -/
theorem Heading.unharmed (h : Heading r l) (hcourse : l.course = some c) : Unharmed r l c := by
  have hfrom : ∀ {c₀ : Course ξ}, Unharmed r l c₀ → Unharmed r l c := by
    intro c₀ h
    obtain rfl : c₀ = c := Option.some.inj (h.steady.begun.course.symm.trans hcourse)
    exact h
  cases h with
  | fresh h _ => simp [h.unbegun.course] at hcourse
  | admitted h _ => exact hfrom h
  | sound h _ => exact hfrom h
  | refused h _ _ => exact hfrom h

/-- A run does not look twice. -/
theorem Looked.move [RetryLoop] (hr : r.OnQueue) (h : Heading r l) (hlooked : l.Looked) :
    (l.move r m).Looked := by
  obtain ⟨c, hcourse, hstage⟩ := hlooked
  have hbegun := h.unharmed hcourse
  by_cases hm : m = .advance
  · subst hm
    obtain ⟨hnext, hgoes⟩ := hbegun.steady.advance hr
    exact ⟨_, hnext.begun.course, Course.goes_looked (hgoes hstage)⟩
  · exact ⟨c, hbegun.course_move hm, hstage⟩

/-- **What a run looks at it leaves alone.** -/
theorem Heading.looks [RetryLoop] (hr : r.OnQueue) (h : Heading r l) (hclean : Clean r l m) (hnot : ¬l.Looked)
    (hlooked : (l.move r m).Looked) : (l.move r m).world.control.closing = l.world.control.closing := by
  obtain ⟨c, hcourse, hstage⟩ := hlooked
  cases h with
  | fresh h hguarded =>
    by_cases hrun : ∃ ctx, m = .run ctx
    · obtain ⟨ctx, rfl⟩ := hrun
      simp only [Lifecycle.move, h.unbegun.run_eq]
    · simp [h.course_move (not_exists.mp hrun)] at hcourse
  | @admitted ctx h hopened =>
    by_cases hm : m = .advance
    · subst hm
      obtain ⟨_, _, _, hcontrol, _⟩ := h.admitted_advance hr hopened hclean
      exact congrArg Control.closing hcontrol
    · obtain rfl : ⟨ctx, .admitted⟩ = c := Option.some.inj ((h.course_move hm).symm.trans hcourse)
      exact absurd rfl hstage
  | @sound c₀ h hsound =>
    refine absurd ⟨c₀, h.steady.begun.course, fun hadmitted => ?_⟩ hnot
    rw [hadmitted] at hsound
    exact hsound
  | refused h _ hlooked => exact absurd ⟨_, h.steady.begun.course, hlooked⟩ hnot

/-- A run that has looked, and found that closing was not asked for, is on its way. -/
theorem Heading.sound_of_open (h : Heading r l) (hlooked : l.Looked)
    (hopen : l.world.control.closing = false) : ∃ c, Unharmed r l c ∧ c.stage.Sound := by
  obtain ⟨c, hcourse, hstage⟩ := hlooked
  cases h with
  | fresh h _ => simp [h.unbegun.course] at hcourse
  | admitted h _ =>
    obtain rfl := Option.some.inj (h.steady.begun.course.symm.trans hcourse)
    exact absurd rfl hstage
  | sound h hsound => exact ⟨_, h, hsound⟩
  | refused _ hshut _ => simp [hshut.closing] at hopen

/-- A run that has not looked will be refused once closing was asked for. -/
theorem Heading.shut_of_closing (h : Heading r l) (hnot : ¬l.Looked)
    (hclosing : l.world.control.closing = true) : Shut l := by
  cases h with
  | fresh h _ => exact h.unbegun.shut hclosing
  | admitted h hopened => exact h.shut_of_admitted hopened hclosing
  | @sound c h hsound =>
    refine absurd ⟨c, h.steady.begun.course, fun hadmitted => ?_⟩ hnot
    rw [hadmitted] at hsound
    exact hsound
  | refused _ hshut _ => exact hshut

/-! ## What is not undone -/

theorem Heading.guarded (h : Heading r l) : Guarded l := by
  cases h with
  | fresh _ hguarded => exact hguarded
  | admitted h _ => exact h.guarded
  | sound h _ => exact h.guarded
  | refused h _ _ => exact h.guarded

/-- A router that is seen to have been called to run was called. -/
theorem Heading.begun_of_started (h : Heading r l) (hstarted : l.world.control.started = true) :
    l.course ≠ none := by
  cases h with
  | fresh h _ => simp [h.unbegun.started] at hstarted
  | admitted h _ => simp [h.steady.begun.course]
  | sound h _ => simp [h.steady.begun.course]
  | refused h _ _ => simp [h.steady.begun.course]

/-- What a run ended with stays. -/
theorem Heading.outcome_move [RetryLoop] (h : Heading r l) {outcome : Outcome RouterError Unit}
    (ho : l.outcome? = some outcome) : (l.move r m).outcome? = some outcome := by
  cases hcourse : l.course with
  | none => simp [outcome?, hcourse] at ho
  | some c =>
    have hbegun := h.unharmed hcourse
    by_cases hm : m = .advance
    · subst hm
      have hstage := hbegun.steady.returned_of_outcome ho
      obtain ⟨ctx, stage⟩ := c
      obtain rfl : stage = .returned outcome := hstage
      simp only [Lifecycle.move, advance_of_some hcourse]
      rfl
    · simp only [outcome?, hbegun.course_move hm, ← hcourse]
      exact ho

/-- Only its own acts bring a run to its end. -/
theorem Heading.outcome_still [RetryLoop] (h : Heading r l) (hm : m ≠ .advance) (hgoing : l.outcome? = none) :
    (l.move r m).outcome? = none := by
  cases hcourse : l.course with
  | some c =>
    simp only [outcome?, (h.unharmed hcourse).course_move hm, ← hcourse]
    exact hgoing
  | none =>
    cases m with
    | advance => exact absurd rfl hm
    | run ctx =>
      simp only [Lifecycle.move, Lifecycle.run]
      split
      · exact hgoing
      · rfl
    | close => exact hgoing
    | closer k =>
      simp only [Lifecycle.move, closeOn]
      split <;> exact hgoing
    | meanwhile world => exact hgoing

/-- Who waits for the end of a run is not held back again. -/
theorem released_move [RetryLoop] (r : Router ξ) (hreleased : l.released = true) (m : Move ξ) :
    (l.move r m).released = true := by
  cases m with
  | run ctx =>
    simp only [Lifecycle.move, Lifecycle.run]
    split <;> exact hreleased
  | advance =>
    simp only [Lifecycle.move, Lifecycle.advance]
    split
    · exact hreleased
    · simp only [hreleased, Bool.true_or]
  | close => exact hreleased
  | closer k =>
    simp only [Lifecycle.move, closeOn]
    split <;> exact hreleased
  | meanwhile world => exact hreleased

/-! ## How far the end is -/

/-- What a router has to go by the stage of its run. -/
theorem Unharmed.toGo_eq (h : Unharmed r l c) (hclosing : l.world.control.closing = true) :
    l.toGo r = c.stage.toGo r.registrations.length l.world := by
  simp only [toGo, hclosing, if_true, h.steady.begun.course, Option.map_some, Option.getD_some]

theorem Unharmed.toGo_lt (h : Unharmed r l c) : c.stage.toGo r.registrations.length l.world <
    2 * r.registrations.length + 15 := Nat.lt_succ_of_le (Stage.toGo_le h.steady.few l.world)

/-- A run has so much to go at most. -/
theorem Heading.toGo_le (h : Heading r l) : l.toGo r ≤ 2 * r.registrations.length + 15 := by
  cases hclosing : l.world.control.closing with
  | false => simp [toGo, hclosing]
  | true =>
    cases hcourse : l.course with
    | none => simp [toGo, hcourse]
    | some c =>
      rw [(h.unharmed hcourse).toGo_eq hclosing]
      exact Nat.le_of_lt (h.unharmed hcourse).toGo_lt

/-- Closing is not called off. -/
theorem Heading.closing_move [RetryLoop] (hr : r.OnQueue) (h : Heading r l) (hclean : Clean r l m)
    (hclosing : l.world.control.closing = true) : (l.move r m).world.control.closing = true := by
  by_cases hlooked : l.Looked
  · obtain ⟨⟨ctx, stage⟩, hcourse, hstage⟩ := hlooked
    have hbegun := (h.unharmed hcourse).steady.begun
    rcases move_cases hr.handsOut hclean.sparing.free with ⟨other, rfl⟩ | rfl | ⟨_, ha⟩
    · simp only [Lifecycle.move, hbegun.run other]
      exact hclosing
    · simp only [Lifecycle.move, advance_of_some hcourse, Course.step_of_ne r l.rung ctx hstage]
      exact (Course.act_effect l.rung (hbegun.holds.setting hr.handsOut ctx) hstage).lasting.1 hclosing
    · exact ha.world.closing hclosing
  · exact ((h.shut_of_closing hlooked hclosing).move hr.handsOut hclean.sparing.free).closing

/-- What others do around a run does not keep it from its end. -/
theorem Unharmed.toGo_beside [RetryLoop] (hr : r.OnQueue) (h : Unharmed r l c) (hspared : l.Sparing r m)
    (hm : m ≠ .advance) (hclosing : l.world.control.closing = true)
    (hstill : (l.move r m).world.control.closing = true) : (l.move r m).toGo r ≤ l.toGo r := by
  rw [h.toGo_eq hclosing, (h.beside hr hspared hm).toGo_eq hstill]
  rcases move_cases hr.handsOut hspared.free with ⟨ctx, rfl⟩ | hadvance | ⟨_, ha⟩
  · simp only [Lifecycle.move, h.steady.begun.run ctx]
    exact Nat.le_refl _
  · exact absurd hadvance hm
  · exact Stage.toGo_beside ha.world _ _

/-- The next act of a run whose end was asked for. -/
theorem Heading.toGo_advance [RetryLoop] (hr : r.OnQueue) (h : Heading r l) (hcourse : l.course = some c)
    (hclean : Clean r l .advance) (hclosing : l.world.control.closing = true) :
    (l.advance r).toGo r ≤ l.toGo r - 1 := by
  have hstill : (l.advance r).world.control.closing = true := h.closing_move hr hclean hclosing
  cases h with
  | fresh h _ => simp [h.unbegun.course] at hcourse
  | admitted h hopened =>
    obtain ⟨c, hnext, _, _, _, hshut⟩ := h.admitted_advance hr hopened hclean
    rw [h.toGo_eq hclosing, hnext.toGo_eq hstill]
    exact (hshut hclosing).2 _
  | sound h hsound =>
    obtain ⟨c, hnext, _, hnearer⟩ := h.sound_advance hr hsound hclean
    rw [h.toGo_eq hclosing, hnext.toGo_eq hstill]
    exact hnearer _ hclosing
  | refused h hshut hlooked =>
    obtain ⟨c, hnext, _, hnearer⟩ := h.refused_advance hr hshut hlooked hclean
    rw [h.toGo_eq hclosing, hnext.toGo_eq hstill]
    exact hnearer _

/-- **Each act of who runs the router** brings it nearer to its end, once that was asked for. -/
theorem Heading.toGo_runner [RetryLoop] (hr : r.OnQueue) (h : Heading r l) {ctx : Context}
    (hclean : Clean r l (l.runner ctx)) (hclosing : l.world.control.closing = true) :
    (l.move r (l.runner ctx)).toGo r ≤ l.toGo r - 1 := by
  cases hcourse : l.course with
  | none =>
    have hrun : l.runner ctx = .run ctx := by simp only [runner, hcourse]
    cases h with
    | fresh h _ =>
      have hleft : l.toGo r = 2 * r.registrations.length + 15 := by simp [toGo, hcourse]
      rw [hrun, hleft, Lifecycle.move, h.unbegun.run_eq]
      simp [toGo, hclosing, Stage.toGo]
    | admitted h _ => simp [h.steady.begun.course] at hcourse
    | sound h _ => simp [h.steady.begun.course] at hcourse
    | refused h _ _ => simp [h.steady.begun.course] at hcourse
  | some c =>
    have hadvance : l.runner ctx = .advance := by simp only [runner, hcourse]
    rw [hadvance] at hclean ⊢
    exact h.toGo_advance hr hcourse hclean hclosing

/-- **No move takes a router away from its end.** -/
theorem Heading.toGo_move [RetryLoop] (hr : r.OnQueue) (h : Heading r l) (hclean : Clean r l m) :
    (l.move r m).toGo r ≤ l.toGo r := by
  cases hclosing : l.world.control.closing with
  | false =>
    have hleft : l.toGo r = 2 * r.registrations.length + 15 := by simp [toGo, hclosing]
    rw [hleft]
    exact (h.move hr hclean).toGo_le
  | true =>
    cases hcourse : l.course with
    | none =>
      have hleft : l.toGo r = 2 * r.registrations.length + 15 := by simp [toGo, hcourse]
      rw [hleft]
      exact (h.move hr hclean).toGo_le
    | some c =>
      by_cases hm : m = .advance
      · subst hm
        exact Nat.le_trans (h.toGo_advance hr hcourse hclean hclosing) (Nat.sub_le _ _)
      · exact (h.unharmed hcourse).toGo_beside hr hclean.sparing hm hclosing
          (h.closing_move hr hclean hclosing)

/-- A run that has nothing more to go has returned. -/
theorem Heading.toGo_pos (h : Heading r l) (hclosing : l.world.control.closing = true)
    (hgoing : l.outcome? = none) : 0 < l.toGo r := by
  cases h with
  | fresh h _ => simp [toGo, h.unbegun.course]
  | admitted h _ =>
    rw [h.toGo_eq hclosing]
    exact Nat.succ_pos _
  | @sound c h hsound =>
    rw [h.toGo_eq hclosing]
    rcases hsound.cases with ⟨ahead, opened, hstage⟩ | hsmooth
    · rw [hstage]
      simp only [Stage.toGo]
      omega
    · rw [hsmooth.toGo_eq]
      refine Nat.pos_of_ne_zero fun hzero => ?_
      obtain ⟨outcome, hover⟩ := (h.steady.winding hsmooth.entered (.inl hclosing)).returned hzero
      simp [hgoing] at hover
  | @refused c h hshut hlooked =>
    rw [h.toGo_eq hclosing]
    have hrefused := hshut.refused c h.steady.begun.course
    have hcourse := h.steady.begun.course
    obtain ⟨ctx, stage⟩ := c
    cases stage with
    | giving outcome left => exact Nat.lt_of_lt_of_le Nat.two_pos (Nat.le_add_right 2 _)
    | releasing outcome => exact Nat.succ_pos _
    | returned outcome => simp [outcome?, hcourse, Course.outcome?] at hgoing
    | admitted => exact absurd rfl hlooked
    | _ => exact hrefused.elim

end Ways

end Lifecycle

end SymbolRelay
