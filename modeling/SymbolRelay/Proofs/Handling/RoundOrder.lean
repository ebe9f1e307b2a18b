import Mathlib.Data.List.Nodup
import SymbolRelay.Proofs.Handling.Watching

/-!
# The order of rounds

In a round each topic has one turn, which takes the next message of the topic if there is one. Over a log
that stands still, the topics' messages are therefore taken by their numbers, and for each number by the
order of the topics, whatever the order in which they were published:

```text
created   c₀ c₁ c₂
updated   u₀            ↦   c₀ u₀ d₀ · c₁ d₁ · c₂
deleted   d₀ d₁
```

## Results

* `mem_roundOrder`, `nodup_roundOrder` — the order of rounds has what was published, and no message twice;
* `InRound.took`, `InRound.passedBy`, `InRound.ended` — a turn that takes a message, one that takes none,
  and the end of a round;
* `InRound.settled_prefix` — what was settled so far is the beginning of the order of rounds;
* `eq_roundOrder` — once everything is settled, it was settled in the order of rounds.
-/

set_option autoImplicit false

namespace SymbolRelay

/-! ## Turns and rounds -/

/-- The messages that topics give in the round with a number. -/
def turnsOf (topics : List String) (log : List (String × Message)) (i : Nat) : List Message :=
  topics.filterMap fun topic => (loggedOn log topic)[i]?

/-- The messages of the first so many rounds. -/
def firstRounds (topics : List String) (log : List (String × Message)) (k : Nat) : List Message :=
  (List.range k).flatMap (turnsOf topics log)

/-- The messages of a log, in the order in which rounds take them. -/
def roundOrder (topics : List String) (log : List (String × Message)) : List Message :=
  firstRounds topics log log.length

variable {topics : List String} {log : List (String × Message)}

theorem mem_loggedOn {topic : String} {m : Message} : m ∈ loggedOn log topic ↔ (topic, m) ∈ log := by
  simp [loggedOn]

theorem length_loggedOn_le (topic : String) : (loggedOn log topic).length ≤ log.length := by
  rw [loggedOn, List.length_map]
  exact List.length_filter_le _ log

theorem mem_turnsOf {i : Nat} {m : Message} :
    m ∈ turnsOf topics log i ↔ ∃ topic ∈ topics, (loggedOn log topic)[i]? = some m :=
  List.mem_filterMap

theorem turnsOf_append (passed ahead : List String) (i : Nat) :
    turnsOf (passed ++ ahead) log i = turnsOf passed log i ++ turnsOf ahead log i :=
  List.filterMap_append

theorem turnsOf_eq_nil {i : Nat} (h : log.length ≤ i) : turnsOf topics log i = [] := by
  rw [turnsOf, List.filterMap_eq_nil_iff]
  intro topic _
  rw [List.getElem?_eq_none_iff]
  exact Nat.le_trans (length_loggedOn_le topic) h

theorem firstRounds_succ (topics : List String) (log : List (String × Message)) (k : Nat) :
    firstRounds topics log (k + 1) = firstRounds topics log k ++ turnsOf topics log k := by
  rw [firstRounds, List.range_succ, List.flatMap_append, List.flatMap_singleton, firstRounds]

theorem firstRounds_prefix (k : Nat) : firstRounds topics log k <+: roundOrder topics log := by
  rcases Nat.le_total k log.length with h | h
  · obtain ⟨more, hmore⟩ := Nat.exists_eq_add_of_le h
    rw [roundOrder, hmore]
    clear h hmore
    induction more with
    | zero => exact List.prefix_refl _
    | succ more ih =>
      rw [← Nat.add_assoc, firstRounds_succ]
      exact ih.trans (List.prefix_append _ _)
  · -- the rounds after the last message give nothing
    obtain ⟨more, rfl⟩ := Nat.exists_eq_add_of_le h
    clear h
    induction more with
    | zero => exact List.prefix_refl _
    | succ more ih =>
      rw [← Nat.add_assoc, firstRounds_succ, turnsOf_eq_nil (Nat.le_add_right _ _), List.append_nil]
      exact ih

theorem mem_firstRounds {k : Nat} {m : Message} :
    m ∈ firstRounds topics log k ↔ ∃ i < k, ∃ topic ∈ topics, (loggedOn log topic)[i]? = some m := by
  simp only [firstRounds, List.mem_flatMap, List.mem_range, mem_turnsOf]

/-- The order of rounds has what was published on its topics. -/
theorem mem_roundOrder {m : Message} :
    m ∈ roundOrder topics log ↔ ∃ topic ∈ topics, (topic, m) ∈ log := by
  rw [roundOrder, mem_firstRounds]
  constructor
  · rintro ⟨i, _, topic, htopic, hget⟩
    exact ⟨topic, htopic, mem_loggedOn.mp (List.mem_of_getElem? hget)⟩
  · rintro ⟨topic, htopic, hm⟩
    obtain ⟨i, hget⟩ := List.mem_iff_getElem?.mp (mem_loggedOn.mpr hm)
    obtain ⟨hi, _⟩ := List.getElem?_eq_some_iff.mp hget
    exact ⟨i, Nat.lt_of_lt_of_le hi (length_loggedOn_le topic), topic, htopic, hget⟩

section Distinct

variable (distinct : (log.map (·.2)).Nodup)

include distinct

theorem nodup_loggedOn (topic : String) : (loggedOn log topic).Nodup :=
  distinct.sublist (List.filter_sublist.map _)

/-- A message has one topic and one number. -/
theorem place_unique {topic other : String} {i j : Nat} {m : Message}
    (h : (loggedOn log topic)[i]? = some m) (h' : (loggedOn log other)[j]? = some m) :
    topic = other ∧ i = j := by
  have hm := mem_loggedOn.mp (List.mem_of_getElem? h)
  have hm' := mem_loggedOn.mp (List.mem_of_getElem? h')
  have hentry : (topic, m) = (other, m) := List.inj_on_of_nodup_map distinct hm hm' rfl
  obtain rfl : topic = other := congrArg Prod.fst hentry
  obtain ⟨hi, _⟩ := List.getElem?_eq_some_iff.mp h
  exact ⟨rfl, (List.getElem?_inj hi (nodup_loggedOn distinct topic)).mp (h.trans h'.symm)⟩

/-- A message comes after the rounds before its own. -/
theorem mem_of_firstRounds_append {topic : String} {i : Nat} {m : Message} {rest : List Message}
    (known : topic ∈ topics) (h : (loggedOn log topic)[i]? = some m)
    (split : firstRounds topics log i ++ rest = roundOrder topics log) : m ∈ rest := by
  have hordered : m ∈ roundOrder topics log :=
    mem_roundOrder.mpr ⟨topic, known, mem_loggedOn.mp (List.mem_of_getElem? h)⟩
  rw [← split] at hordered
  refine (List.mem_append.mp hordered).resolve_left fun hearlier => ?_
  obtain ⟨i', hi', other, _, h'⟩ := mem_firstRounds.mp hearlier
  exact absurd (place_unique distinct h' h).2 (Nat.ne_of_lt hi')

/-- No message is taken twice. -/
theorem nodup_roundOrder (different : topics.Nodup) : (roundOrder topics log).Nodup := by
  rw [roundOrder, firstRounds, List.nodup_flatMap]
  constructor
  · intro i _
    refine different.filterMap fun topic other m hm hm' => ?_
    exact (place_unique distinct hm hm').1
  · refine List.nodup_range.imp_of_mem fun {i j} _ _ hij => ?_
    intro m hm hm'
    obtain ⟨topic, _, hi⟩ := mem_turnsOf.mp hm
    obtain ⟨other, _, hj⟩ := mem_turnsOf.mp hm'
    exact hij (place_unique distinct hi hj).2

end Distinct

/-! ## What was settled in the middle of a round -/

/-- After `k` rounds and the turns of some more topics: each topic has settled as many messages as it
had turns, or all of its messages. -/
structure InRound (log : List (String × Message)) (settled : List Settlement) (k : Nat)
    (passed ahead : List String) : Prop where
  had : ∀ topic ∈ passed, settledOn settled topic = (loggedOn log topic).take (k + 1)
  awaits : ∀ topic ∈ ahead, settledOn settled topic = (loggedOn log topic).take k
  order : settled.map (·.message) = firstRounds (passed ++ ahead) log k ++ turnsOf passed log k

/-- The message after the first `k` of a list is the one with the number `k`. -/
theorem getElem?_of_take_prefix {l : List Message} {m : Message} {k : Nat}
    (h : l.take k ++ [m] <+: l) : l[k]? = some m ∧ l.take (k + 1) = l.take k ++ [m] := by
  have hlen := h.length_le
  rw [List.length_append, List.length_take, List.length_singleton] at hlen
  have htake := List.prefix_iff_eq_take.mp h
  rw [List.length_append, List.length_take, List.length_singleton,
    Nat.min_eq_left (by omega)] at htake
  have hsplit := List.take_add_one (l := l) (i := k)
  rw [← htake] at hsplit
  have hlast := List.append_cancel_left hsplit
  refine ⟨?_, htake.symm⟩
  cases hget : l[k]? with
  | none =>
    rw [hget] at hlast
    cases hlast
  | some m' =>
    rw [hget] at hlast
    cases hlast
    rfl

namespace InRound

variable {settled : List Settlement} {k : Nat} {passed ahead : List String} {topic : String}

theorem start (log : List (String × Message)) (topics : List String) : InRound log [] 0 [] topics where
  had := by simp
  awaits := fun _ _ => (List.take_zero ..).symm
  order := rfl

/-- A turn that takes the next message of its topic. -/
theorem took (h : InRound log settled k passed (topic :: ahead))
    (distinct : (passed ++ topic :: ahead).Nodup) {t : Settlement} (ht : t.topic = topic)
    (next : settledOn settled topic ++ [t.message] <+: loggedOn log topic) :
    InRound log (settled ++ [t]) k (passed ++ [topic]) ahead := by
  subst ht
  rw [h.awaits t.topic List.mem_cons_self] at next
  obtain ⟨hget, htake⟩ := getElem?_of_take_prefix next
  obtain ⟨_, hahead, hapart⟩ := List.nodup_append.mp distinct
  have hothers : ∀ other, t.topic ≠ other →
      settledOn (settled ++ [t]) other = settledOn settled other :=
    fun other hne => settledOn_snoc_of_ne settled hne
  refine ⟨fun other ho => ?_, fun other ho => ?_, ?_⟩
  · rcases List.mem_append.mp ho with ho | ho
    · rw [hothers other fun heq => hapart other ho t.topic List.mem_cons_self heq.symm]
      exact h.had other ho
    · rw [List.mem_singleton] at ho
      rw [ho, settledOn_snoc_self, h.awaits t.topic List.mem_cons_self, htake]
  · rw [hothers other fun heq => (List.nodup_cons.mp hahead).1 (heq ▸ ho)]
    exact h.awaits other (List.mem_cons_of_mem _ ho)
  · have hturn : turnsOf [t.topic] log k = [t.message] := by
      rw [turnsOf, List.filterMap_cons, hget, List.filterMap_nil]
    rw [List.map_append, h.order, List.append_assoc passed, turnsOf_append, hturn,
      List.singleton_append, List.map_singleton, List.append_assoc]

/-- A turn of a topic of which everything is settled. -/
theorem passedBy (h : InRound log settled k passed (topic :: ahead))
    (all : loggedOn log topic = settledOn settled topic) :
    InRound log settled k (passed ++ [topic]) ahead := by
  have htaken := congrArg List.length (all.trans (h.awaits topic List.mem_cons_self))
  rw [List.length_take] at htaken
  have hlen : (loggedOn log topic).length ≤ k := by omega
  refine ⟨fun other ho => ?_, fun other ho => h.awaits other (List.mem_cons_of_mem _ ho), ?_⟩
  · rcases List.mem_append.mp ho with ho | ho
    · exact h.had other ho
    · rw [List.mem_singleton] at ho
      rw [ho, ← all, List.take_of_length_le (by omega)]
  · have hturn : turnsOf [topic] log k = [] := by
      rw [turnsOf, List.filterMap_cons, List.getElem?_eq_none hlen, List.filterMap_nil]
    rw [h.order, List.append_assoc passed, turnsOf_append, hturn, List.singleton_append,
      List.append_nil]

/-- The end of a round. -/
theorem ended (h : InRound log settled k topics []) : InRound log settled (k + 1) [] topics where
  had := by simp
  awaits := h.had
  order := by
    rw [h.order, List.append_nil, List.nil_append, firstRounds_succ]
    exact (List.append_nil _).symm

/-- What was settled so far is the beginning of the order of rounds. -/
theorem settled_prefix (h : InRound log settled k passed ahead) :
    settled.map (·.message) <+: roundOrder (passed ++ ahead) log := by
  have hrounds : firstRounds (passed ++ ahead) log (k + 1) <+: roundOrder (passed ++ ahead) log :=
    firstRounds_prefix (k + 1)
  rw [firstRounds_succ, turnsOf_append, ← List.append_assoc] at hrounds
  rw [h.order]
  exact (List.prefix_append _ _).trans hrounds

/-- After as many rounds as there are messages everything is settled. -/
theorem all_settled (h : InRound log settled k passed ahead) (enough : log.length ≤ k)
    {m : Message} (mem : topic ∈ passed ++ ahead) (published : (topic, m) ∈ log) :
    m ∈ settledOn settled topic := by
  have hlen : (loggedOn log topic).length ≤ k := Nat.le_trans (length_loggedOn_le topic) enough
  have hall : settledOn settled topic = loggedOn log topic := by
    rcases List.mem_append.mp mem with hp | ha
    · rw [h.had topic hp, List.take_of_length_le (by omega)]
    · rw [h.awaits topic ha, List.take_of_length_le hlen]
  rw [hall]
  exact mem_loggedOn.mpr published

end InRound

/-- Every message of a log was settled. -/
def AllSettled (log : List (String × Message)) (settled : List Settlement) : Prop :=
  ∀ e ∈ log, e.2 ∈ settledOn settled e.1

theorem message_mem_of_settledOn {settled : List Settlement} {topic : String} {m : Message}
    (h : m ∈ settledOn settled topic) : m ∈ settled.map (·.message) :=
  (List.filter_sublist.map _).subset h

/-- **Once everything is settled, it was settled in the order of rounds.** -/
theorem eq_roundOrder {settled : List Settlement} (distinct : (log.map (·.2)).Nodup)
    (different : topics.Nodup) (h : settled.map (·.message) <+: roundOrder topics log)
    (all : AllSettled log settled) : settled.map (·.message) = roundOrder topics log := by
  have hnodup := nodup_roundOrder distinct different
  obtain ⟨rest, hrest⟩ := h
  cases rest with
  | nil => rw [← hrest, List.append_nil]
  | cons m rest =>
    -- the message that is missing was settled, and would be there twice
    obtain ⟨topic, _, hm⟩ := mem_roundOrder.mp
      (hrest ▸ List.mem_append_right _ List.mem_cons_self)
    have hsettled := message_mem_of_settledOn (all _ hm)
    rw [← hrest] at hnodup
    exact absurd rfl ((List.nodup_append.mp hnodup).2.2 m hsettled m List.mem_cons_self)

end SymbolRelay
