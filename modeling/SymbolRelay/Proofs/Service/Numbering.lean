import Mathlib.Data.List.Nodup
import Mathlib.Data.List.Pairwise
import SymbolRelay.Proofs.Service.Traffic

/-!
# No symbol id is given to two calls

The store's sequence gives every creation the next id. It starts over only after all 64-bit numbers, and
no call takes more than one, so fewer calls than that get different ids.

## Results

* `numbered_run` — the ids given so far are the first so many of the sequence;
* `Numbered.ids_disjoint` — no id was given to two calls;
* `sequenced_run` — the ids in the order in which they were given;
* `Sequenced.eq_of_issued` — no two steps gave one id, however many calls there were.
-/

set_option autoImplicit false

namespace SymbolRelay

variable {ξ : Type}

/-- Whether a call may still take an id from the sequence. -/
def Call.awaitsId : Call Transaction → Bool
  | .lookup _ | .begin _ | .stage _ _ => true
  | .prepare _ _ _ | .publish _ _ _ | .leave _ _ | .ended _ => false

theorem SymbolService.StepsTo.nextId [BinaryFormat] [IdSource] {codec : Codec} {ctx : Context} {what : Write}
    {ds : List (Deed ξ)} {c c' : Call Transaction} {w w' : World ξ} (h : StepsTo codec ctx c w c' w')
    (hs : Standing what ds c) :
    (c'.awaitsId = true → c.awaitsId = true) ∧
      (w'.store.nextId = w.store.nextId ∨
        w'.store.nextId = w.store.nextId + 1 ∧ c.awaitsId = true ∧ c'.awaitsId = false) := by
  cases h with
  | staged clock hcarry =>
    obtain ⟨asks, blank, _, _, _⟩ := hs
    obtain ⟨_, _, rfl, _⟩ := carryOut_ok blank asks hcarry
    refine ⟨fun h => Bool.noConfusion h, ?_⟩
    cases what with
    | create _ => exact .inr ⟨rfl, rfl, rfl⟩
    | update _ | delete _ => exact .inl rfl
  | rolledBack =>
    refine ⟨id, .inl ?_⟩
    simp only [Store.rollback]
    split <;> rfl
  | found _ | opened _ _ => exact ⟨fun _ => rfl, .inl rfl⟩
  | rested => exact ⟨id, .inl rfl⟩
  | _ => exact ⟨fun h => Bool.noConfusion h, .inl rfl⟩

namespace Traffic

/-- How many calls may still take an id. -/
def awaiting (t : Traffic ξ) : Nat := t.callers.countP (·.call.awaitsId)

theorem countP_step {callers : List Caller} {k : Nat} {c : Caller} (hc : callers[k]? = some c)
    (call : Call Transaction) :
    (callers.set k { c with call }).countP (·.call.awaitsId) + (if c.call.awaitsId then 1 else 0) =
      callers.countP (·.call.awaitsId) + (if call.awaitsId then 1 else 0) := by
  obtain ⟨hk, hget⟩ := List.getElem?_eq_some_iff.mp hc
  rw [List.countP_set hk, hget]
  cases hw : c.call.awaitsId with
  | false =>
    simp only [Bool.false_eq_true, if_false]
    omega
  | true =>
    have hpos : 0 < callers.countP (·.call.awaitsId) :=
      List.countP_pos_iff.mpr ⟨c, List.mem_of_getElem? hc, hw⟩
    simp only [if_true]
    omega

/-- The ids given so far are the first `m` of the sequence from `first`, to different calls unless there
are more calls than ids. -/
structure Numbered (first : Int64) (t : Traffic ξ) (m : Nat) : Prop where
  next : t.world.store.nextId = first + Int64.ofNat m
  given : ∀ d ∈ t.deeds, ∀ id ∈ d.issued, ∃ n < m, id = first + Int64.ofNat n
  few : m + t.awaiting ≤ t.callers.length
  own : t.callers.length ≤ 2 ^ 64 → ∀ d ∈ t.deeds, ∀ e ∈ t.deeds, ∀ id, id ∈ d.issued →
    id ∈ e.issued → d.caller = e.caller

theorem first_add_ne (first : Int64) {m n : Nat} (hm : m < 2 ^ 64) (hn : n < m) :
    first + Int64.ofNat n ≠ first + Int64.ofNat m := by
  intro h
  have h' := congrArg (fun i : Int64 => i.toUInt64.toNat) ((Int64.add_right_inj first).mp h)
  simp only [Int64.toUInt64_ofNat', UInt64.toNat_ofNat'] at h'
  omega

theorem ofNat_succ (first : Int64) (m : Nat) :
    first + Int64.ofNat m + 1 = first + Int64.ofNat (m + 1) := by
  rw [Int64.ofNat_add, Int64.add_assoc]
  rfl

namespace Numbered

variable {codec : Codec} {first : Int64} {start : World ξ} {t : Traffic ξ} {m : Nat}

theorem atStart (world : World ξ) : Numbered world.store.nextId { world } 0 where
  next := (Int64.add_zero _).symm
  given := fun _ hn => by cases hn
  few := Nat.le_refl _
  own := fun _ _ hn => by cases hn

theorem disturb (h : Numbered first t m) (disturbance : Disturbance) :
    Numbered first { t with world := disturbance.act t.world } m := by
  refine ⟨?_, h.given, h.few, h.own⟩
  rw [← h.next]
  cases disturbance <;> rfl

theorem call [BinaryFormat] (h : Numbered first t m) (s : SymbolService ξ Transaction) (ctx : Context)
    (what : Write) :
    Numbered first (t.move s (.call ctx what)) m := by
  have hfew := h.few
  have hone := List.countP_le_length (p := fun c : Caller => c.call.awaitsId)
    (l := [⟨ctx, what, s.start what⟩])
  refine ⟨h.next, h.given, ?_, fun hle => h.own ?_⟩
  · simp only [awaiting, move, List.countP_append, List.length_append, List.length_singleton] at hone hfew ⊢
    omega
  · simp only [move, List.length_append, List.length_singleton] at hle
    omega

theorem step [BinaryFormat] [IdSource] (h : Numbered first t m) (hl : Lawful start t) {k : Nat} {c : Caller}
    (hc : t.callers[k]? = some c) {call : Call Transaction} {world : World ξ}
    (hs : SymbolService.StepsTo codec c.ctx c.call t.world call world) :
    ∃ m', Numbered first
      ⟨world, t.callers.set k { c with call }, t.deeds ++ [⟨k, t.world, world⟩]⟩ m' := by
  obtain ⟨hawaits, hnext⟩ := hs.nextId (hl.standing k c hc)
  have hcount := countP_step hc call
  have hfew := h.few
  simp only [awaiting] at hfew
  rcases hnext with hsame | ⟨hnew, hbefore, hafter⟩
  · -- No id was taken.
    have hnone : (⟨k, t.world, world⟩ : Deed ξ).issued = [] := Deed.issued_eq_nil hsame
    refine ⟨m, hsame.trans h.next, ?_, ?_, ?_⟩
    · intro d hd id hid
      rcases List.mem_append.mp hd with hd | hd
      · exact h.given d hd id hid
      · rw [List.mem_singleton] at hd
        rw [hd, hnone] at hid
        cases hid
    · simp only [awaiting, List.length_set]
      have hfewer : (t.callers.set k { c with call }).countP (·.call.awaitsId) ≤
          t.callers.countP (·.call.awaitsId) := by
        cases ha : call.awaitsId with
        | true =>
          rw [hawaits ha, ha] at hcount
          exact Nat.le_of_eq (Nat.add_right_cancel hcount)
        | false =>
          rw [ha, if_neg Bool.false_ne_true, Nat.add_zero] at hcount
          exact Nat.le.intro hcount
      omega
    · intro hle d hd e he id hid hie
      rw [List.length_set] at hle
      rcases List.mem_append.mp hd with hd | hd <;> rcases List.mem_append.mp he with he | he
      · exact h.own hle d hd e he id hid hie
      · rw [List.mem_singleton] at he
        rw [he, hnone] at hie
        cases hie
      · rw [List.mem_singleton] at hd
        rw [hd, hnone] at hid
        cases hid
      · rw [List.mem_singleton] at hd he
        rw [hd, he]
  · -- The next id was taken; it is none of those before.
    rw [hbefore, hafter] at hcount
    simp only [Bool.false_eq_true, if_false, if_true] at hcount
    have hone : (⟨k, t.world, world⟩ : Deed ξ).issued = [first + Int64.ofNat m] := by
      rw [Deed.issued, if_neg, h.next]
      show ¬ world.store.nextId = t.world.store.nextId
      rw [hnew]
      exact SymbolService.add_one_ne _
    have new : t.callers.length ≤ 2 ^ 64 → ∀ f ∈ t.deeds, ∀ id ∈ f.issued,
        id ∉ (⟨k, t.world, world⟩ : Deed ξ).issued := by
      intro hle f hf id hif hin
      obtain ⟨n, hn, rfl⟩ := h.given f hf id hif
      rw [hone, List.mem_singleton] at hin
      exact first_add_ne first (by omega) hn hin
    refine ⟨m + 1, ?_, ?_, ?_, ?_⟩
    · show world.store.nextId = _
      rw [hnew, h.next, ofNat_succ]
    · intro d hd id hid
      rcases List.mem_append.mp hd with hd | hd
      · obtain ⟨n, hn, hid⟩ := h.given d hd id hid
        exact ⟨n, Nat.lt_succ_of_lt hn, hid⟩
      · rw [List.mem_singleton] at hd
        rw [hd, hone, List.mem_singleton] at hid
        exact ⟨m, Nat.lt_succ_self m, hid⟩
    · simp only [awaiting, List.length_set]
      omega
    · intro hle d hd e he id hid hie
      rw [List.length_set] at hle
      rcases List.mem_append.mp hd with hd | hd <;> rcases List.mem_append.mp he with he | he
      · exact h.own hle d hd e he id hid hie
      · rw [List.mem_singleton] at he
        subst he
        exact absurd hie (new hle d hd id hid)
      · rw [List.mem_singleton] at hd
        subst hd
        exact absurd hid (new hle e he id hie)
      · rw [List.mem_singleton] at hd he
        rw [hd, he]

/-- No id was given to two calls. -/
theorem ids_disjoint (h : Numbered first t m) (few : t.callers.length ≤ 2 ^ 64) {j k : Nat} (hjk : j ≠ k)
    {id : Int64} (hj : id ∈ (t.deedsOf j).flatMap Deed.issued) :
    id ∉ (t.deedsOf k).flatMap Deed.issued := by
  intro hk
  obtain ⟨d, hd, hid⟩ := List.mem_flatMap.mp hj
  obtain ⟨e, he, hie⟩ := List.mem_flatMap.mp hk
  rw [Lawful.mem_deedsOf] at hd he
  have hcaller := h.own few d hd.1 e he.1 id hid hie
  rw [hd.2, he.2] at hcaller
  exact hjk hcaller

end Numbered

/-- The ids given so far are the first so many of the sequence. -/
theorem numbered_run [BinaryFormat] [IdSource] (codec : Codec)
    (validator : Symbol → Except ValidationError Unit) {start : World ξ} (h : AtRest start.store)
    (moves : List Move) :
    ∃ m, Numbered start.store.nextId (run (SymbolService.direct codec validator) start moves) m := by
  let Inv : Traffic ξ → Prop := fun t => Lawful start t ∧ ∃ m, Numbered start.store.nextId t m
  suffices both : Inv (run (SymbolService.direct codec validator) start moves) from both.2
  have first : Inv { world := start } := ⟨.atStart h, 0, .atStart start⟩
  refine run_induction codec validator Inv first ?_ ?_ ?_ ?_ moves
  · rintro t ctx what ⟨hl, m, hm⟩
    exact ⟨hl.call _ ctx what, m, hm.call _ ctx what⟩
  · rintro t disturbance ⟨hl, m, hm⟩
    exact ⟨hl.disturb disturbance, m, hm.disturb disturbance⟩
  · rintro t k c ⟨hl, _⟩ hc
    exact (hl.standing k c hc).ready
  · rintro t k c call world ⟨hl, m, hm⟩ hc hs
    exact ⟨hl.step hc hs, hm.step hl hc hs⟩

/-! ## In the order in which they were given -/

/-- No number of the sequence comes again before all have come. -/
theorem nodup_sequence (first : Int64) {m : Nat} (few : m ≤ 2 ^ 64) :
    ((List.range m).map fun n => first + Int64.ofNat n).Nodup := by
  refine List.Nodup.map_on (fun a ha b hb hab => ?_) List.nodup_range
  rw [List.mem_range] at ha hb
  rcases Nat.lt_trichotomy a b with hlt | heq | hlt
  · exact absurd hab (first_add_ne first (by omega) hlt)
  · exact heq
  · exact absurd hab.symm (first_add_ne first (by omega) hlt)

/-- The ids given so far are the first `m` of the sequence from `first`, in this order. -/
structure Sequenced (first : Int64) (t : Traffic ξ) (m : Nat) : Prop where
  next : t.world.store.nextId = first + Int64.ofNat m
  issued : t.deeds.flatMap Deed.issued = (List.range m).map fun n => first + Int64.ofNat n

namespace Sequenced

variable {codec : Codec} {first : Int64} {start : World ξ} {t : Traffic ξ} {m : Nat}

theorem atStart (world : World ξ) : Sequenced world.store.nextId { world } 0 :=
  ⟨(Int64.add_zero _).symm, rfl⟩

theorem disturb (h : Sequenced first t m) (disturbance : Disturbance) :
    Sequenced first { t with world := disturbance.act t.world } m := by
  refine ⟨?_, h.issued⟩
  rw [← h.next]
  cases disturbance <;> rfl

theorem step [BinaryFormat] [IdSource] (h : Sequenced first t m) (hl : Lawful start t) {k : Nat} {c : Caller}
    (hc : t.callers[k]? = some c) {call : Call Transaction} {world : World ξ}
    (hs : SymbolService.StepsTo codec c.ctx c.call t.world call world) :
    ∃ m', Sequenced first
      ⟨world, t.callers.set k { c with call }, t.deeds ++ [⟨k, t.world, world⟩]⟩ m' := by
  rcases (hs.nextId (hl.standing k c hc)).2 with hsame | ⟨hnew, _, _⟩
  · refine ⟨m, hsame.trans h.next, ?_⟩
    rw [List.flatMap_append, List.flatMap_singleton, Deed.issued_eq_nil hsame, List.append_nil, h.issued]
  · have hone : (⟨k, t.world, world⟩ : Deed ξ).issued = [first + Int64.ofNat m] := by
      rw [Deed.issued, if_neg, h.next]
      show ¬ world.store.nextId = t.world.store.nextId
      rw [hnew]
      exact SymbolService.add_one_ne _
    refine ⟨m + 1, ?_, ?_⟩
    · show world.store.nextId = _
      rw [hnew, h.next, ofNat_succ]
    · rw [List.flatMap_append, List.flatMap_singleton, hone, h.issued, List.range_succ, List.map_append,
        List.map_singleton]

theorem length_issued (h : Sequenced first t m) : (t.deeds.flatMap Deed.issued).length = m := by
  rw [h.issued, List.length_map, List.length_range]

/-- Before the sequence has come round no two steps gave one id. -/
theorem eq_of_issued (h : Sequenced first t m) (few : m ≤ 2 ^ 64) {d e : Deed ξ} (hd : d ∈ t.deeds)
    (he : e ∈ t.deeds) {id : Int64} (hid : id ∈ d.issued) (hie : id ∈ e.issued) : d = e := by
  have distinct : (t.deeds.flatMap Deed.issued).Nodup := h.issued ▸ nodup_sequence first few
  have apart : t.deeds.Pairwise fun d e => d.issued.Disjoint e.issued := (List.nodup_flatMap.mp distinct).2
  have symm : Std.Symm fun d e : Deed ξ => d.issued.Disjoint e.issued := ⟨fun _ _ h _ hd he => h he hd⟩
  exact Classical.byContradiction fun hne => apart.forall hd he hne hid hie

end Sequenced

/-- The ids given so far are the first so many of the sequence, in the order in which they were given. -/
theorem sequenced_run [BinaryFormat] [IdSource] (codec : Codec)
    (validator : Symbol → Except ValidationError Unit) {start : World ξ} (h : AtRest start.store)
    (moves : List Move) :
    ∃ m, Sequenced start.store.nextId (run (SymbolService.direct codec validator) start moves) m := by
  let Inv : Traffic ξ → Prop := fun t => Lawful start t ∧ ∃ m, Sequenced start.store.nextId t m
  suffices both : Inv (run (SymbolService.direct codec validator) start moves) from both.2
  have first : Inv { world := start } := ⟨.atStart h, 0, .atStart start⟩
  refine run_induction codec validator Inv first ?_ ?_ ?_ ?_ moves
  · rintro t ctx what ⟨hl, m, hm⟩
    exact ⟨hl.call _ ctx what, m, hm.next, hm.issued⟩
  · rintro t disturbance ⟨hl, m, hm⟩
    exact ⟨hl.disturb disturbance, m, hm.disturb disturbance⟩
  · rintro t k c ⟨hl, _⟩ hc
    exact (hl.standing k c hc).ready
  · rintro t k c call world ⟨hl, m, hm⟩ hc hs
    exact ⟨hl.step hc hs, hm.step hl hc hs⟩

end Traffic

end SymbolRelay
