import Mathlib.Data.Finset.Card
import SymbolRelay.Proofs.Handling.RoundOrder
import SymbolRelay.Proofs.Symbol.LastWord

/-!
# Events that are overtaken

The three kinds of events have a topic each, so a catalog that is given a whole log at once is given it in
the order of rounds. Then an event may be overtaken by a later one about the same symbol: if there were
fewer removals than creations before it, a removal comes before the creation of the symbol that it
removes.

```text
published    c₁ c₂ d₂
in rounds    c₁ d₂ c₂        symbol 2 is there in the end
```

In a log that tells only of symbols that were there, removals never get ahead of creations. So the
creation of a symbol that is still there is never overtaken by the removal of one that had its id before,
and no such symbol is missing in the order of rounds.

## Results

* `Orderly.exists_known` — there are never more removals than creations;
* `Orderly.known_in_rounds` — no symbol that is there is missing in the order of rounds.
-/

set_option autoImplicit false

namespace SymbolRelay

/-! ## Logs of the symbols' events -/

/-- A log of events about symbols, each on its topic, in which only symbols that are there are changed or
removed. -/
inductive Orderly [BinaryFormat] : List (String × Message) → Prop where
  | nil : Orderly []
  | snoc {log : List (String × Message)} {m : Message} {event : Event} (h : Orderly log)
    (decoded : Event.decode m = .ok event)
    (known : event.kind ≠ .created → lastWord event.symbolId (log.map (·.2)) ≠ none) :
    Orderly (log ++ [(event.topic, m)])

/-- An event is one more on the topic of its kind. -/
theorem loggedOn_snoc (log : List (String × Message)) (m : Message) (event : Event) (kind : EventKind) :
    loggedOn (log ++ [(event.topic, m)]) kind.topic =
      loggedOn log kind.topic ++ if event.kind = kind then [m] else [] := by
  by_cases h : event.kind = kind
  · have htopic : event.topic = kind.topic := congrArg EventKind.topic h
    simp [loggedOn, h, htopic]
  · have htopic : event.topic ≠ kind.topic := fun heq => h (EventKind.topic_injective heq)
    simp [loggedOn, h, htopic]

theorem length_loggedOn_snoc (log : List (String × Message)) (m : Message) (event : Event)
    (kind : EventKind) :
    (loggedOn (log ++ [(event.topic, m)]) kind.topic).length =
      (loggedOn log kind.topic).length + if event.kind = kind then 1 else 0 := by
  rw [loggedOn_snoc, List.length_append]
  split <;> rfl

theorem EventKind.topic_mem (kind : EventKind) : kind.topic ∈ symbolTopics := by
  cases kind <;> simp [symbolTopics, EventKind.all]

/-- Where a log creates a symbol that is there: after as many creations as there are removals up to the
last one of this symbol, or more. -/
def CreatedAt [BinaryFormat] (log : List (String × Message)) (id : Int64) (i : Nat) : Prop :=
  (∃ m event, (loggedOn log EventKind.created.topic)[i]? = some m ∧ Event.decode m = .ok event ∧
    event.symbolId = id ∧ event.kind = .created) ∧
  ∀ j m event, (loggedOn log EventKind.deleted.topic)[j]? = some m → Event.decode m = .ok event →
    event.symbolId = id → j < i

/-- The symbols that are there, of which there are no more than were created and not removed. -/
structure Known [BinaryFormat] (log : List (String × Message)) (known : Finset Int64) : Prop where
  mem_iff : ∀ id, id ∈ known ↔ lastWord id (log.map (·.2)) ≠ none
  count : known.card + (loggedOn log EventKind.deleted.topic).length ≤
    (loggedOn log EventKind.created.topic).length
  created : ∀ id ∈ known, ∃ i, CreatedAt log id i

section Snoc

variable {log : List (String × Message)} {m : Message} {event : Event}

theorem lastWord_log_snoc [BinaryFormat] (decoded : Event.decode m = .ok event) (topic : String)
    (id : Int64) :
    lastWord id ((log ++ [(topic, m)]).map (·.2)) =
      if event.symbolId = id then event.leaves else lastWord id (log.map (·.2)) := by
  rw [List.map_append, List.map_singleton, lastWord_snoc id _ decoded]

/-- An event that does not remove a symbol leaves it where it was created. -/
theorem CreatedAt.snoc [BinaryFormat] {id : Int64} {i : Nat} (h : CreatedAt log id i)
    (decoded : Event.decode m = .ok event) (kept : event.symbolId = id → event.kind ≠ .deleted) :
    CreatedAt (log ++ [(event.topic, m)]) id i := by
  obtain ⟨⟨m', event', hget, hevent'⟩, hremovals⟩ := h
  refine ⟨⟨m', event', ?_, hevent'⟩, fun j m'' event'' hget'' hdecoded hid => ?_⟩
  · obtain ⟨hi, _⟩ := List.getElem?_eq_some_iff.mp hget
    rw [loggedOn_snoc, List.getElem?_append_left hi]
    exact hget
  · rw [loggedOn_snoc] at hget''
    by_cases hj : j < (loggedOn log EventKind.deleted.topic).length
    · rw [List.getElem?_append_left hj] at hget''
      exact hremovals j m'' event'' hget'' hdecoded hid
    · -- the removal is the new event
      rw [List.getElem?_append_right (Nat.le_of_not_lt hj)] at hget''
      have hmem := List.mem_of_getElem? hget''
      split at hmem
      · rename_i hkind
        obtain rfl := List.mem_singleton.mp hmem
        obtain rfl : event = event'' := Except.ok.inj (decoded.symm.trans hdecoded)
        exact absurd hkind (kept hid)
      · cases hmem

namespace Known

variable [BinaryFormat] {known : Finset Int64} (h : Known log known) (decoded : Event.decode m = .ok event)

include h decoded

theorem keep {id : Int64} (hid : id ∈ known) (kept : event.symbolId = id → event.kind ≠ .deleted) :
    ∃ i, CreatedAt (log ++ [(event.topic, m)]) id i := by
  obtain ⟨i, hi⟩ := h.created id hid
  exact ⟨i, hi.snoc decoded kept⟩

/-- A symbol that is created is there after that. Its creation is the last one so far. -/
theorem create (kind : event.kind = .created) :
    Known (log ++ [(event.topic, m)]) (insert event.symbolId known) where
  mem_iff := fun id => by
    rw [lastWord_log_snoc decoded, Finset.mem_insert, h.mem_iff, Event.leaves, kind]
    by_cases hid : event.symbolId = id
    · simp [hid]
    · simp [hid, Ne.symm hid]
  count := by
    have hcard := Finset.card_insert_le event.symbolId known
    have hcount := h.count
    rw [length_loggedOn_snoc, length_loggedOn_snoc, if_pos kind, if_neg (by simp [kind])]
    omega
  created := fun id hid => by
    rcases Finset.mem_insert.mp hid with rfl | hid
    · refine ⟨(loggedOn log EventKind.created.topic).length, ⟨m, event, ?_, decoded, rfl, kind⟩,
        fun j m' event' hget _ _ => ?_⟩
      · rw [loggedOn_snoc, if_pos kind, List.getElem?_concat_length]
      · obtain ⟨hj, _⟩ := List.getElem?_eq_some_iff.mp hget
        rw [length_loggedOn_snoc, if_neg (by simp [kind])] at hj
        have hcount := h.count
        omega
    · exact h.keep decoded hid fun _ => by simp [kind]

theorem update (kind : event.kind = .updated) (there : event.symbolId ∈ known) :
    Known (log ++ [(event.topic, m)]) known where
  mem_iff := fun id => by
    rw [lastWord_log_snoc decoded, Event.leaves, kind]
    by_cases hid : event.symbolId = id
    · simp [hid, hid ▸ there]
    · simp [hid, h.mem_iff]
  count := by
    rw [length_loggedOn_snoc, length_loggedOn_snoc, if_neg (by simp [kind]), if_neg (by simp [kind])]
    exact h.count
  created := fun id hid => h.keep decoded hid fun _ => by simp [kind]

theorem remove (kind : event.kind = .deleted) (there : event.symbolId ∈ known) :
    Known (log ++ [(event.topic, m)]) (known.erase event.symbolId) where
  mem_iff := fun id => by
    rw [lastWord_log_snoc decoded, Finset.mem_erase, h.mem_iff, Event.leaves, kind]
    by_cases hid : event.symbolId = id
    · simp [hid]
    · simp [hid, Ne.symm hid]
  count := by
    have hcard := Finset.card_erase_add_one there
    have hcount := h.count
    rw [length_loggedOn_snoc, length_loggedOn_snoc, if_pos kind, if_neg (by simp [kind])]
    omega
  created := fun id hid => by
    obtain ⟨hne, hid⟩ := Finset.mem_erase.mp hid
    exact h.keep decoded hid fun heq => absurd heq.symm hne

end Known

end Snoc

namespace Orderly

variable {log : List (String × Message)}

theorem decoded [BinaryFormat] (h : Orderly log) :
    ∀ e ∈ log, ∃ event, Event.decode e.2 = .ok event ∧ event.topic = e.1 := by
  induction h with
  | nil => simp
  | @snoc log m event _ hdecoded _ ih =>
    intro e he
    rcases List.mem_append.mp he with he | he
    · exact ih e he
    · rw [List.mem_singleton.mp he]
      exact ⟨event, hdecoded, rfl⟩

/-- **There are never more removals than creations.** -/
theorem exists_known [BinaryFormat] (h : Orderly log) : ∃ known, Known log known := by
  induction h with
  | nil => exact ⟨∅, by simp [lastWord, eventsAbout], by simp [loggedOn], by simp⟩
  | @snoc log m event _ hdecoded hthere ih =>
    obtain ⟨known, hknown⟩ := ih
    have there : event.kind ≠ .created → event.symbolId ∈ known := fun hkind =>
      (hknown.mem_iff _).mpr (hthere hkind)
    cases hkind : event.kind with
    | created => exact ⟨_, hknown.create hdecoded hkind⟩
    | updated => exact ⟨_, hknown.update hdecoded hkind (there (by simp [hkind]))⟩
    | deleted => exact ⟨_, hknown.remove hdecoded hkind (there (by simp [hkind]))⟩

/-- **No symbol that is there is missing in the order of rounds.** -/
theorem known_in_rounds [BinaryFormat] (h : Orderly log) (distinct : (log.map (·.2)).Nodup) {id : Int64}
    (there : lastWord id (log.map (·.2)) ≠ none) : lastWord id (roundOrder symbolTopics log) ≠ none := by
  obtain ⟨known, hknown⟩ := h.exists_known
  obtain ⟨i, ⟨m, event, hget, hdecoded, rfl, hkind⟩, hremovals⟩ :=
    hknown.created id ((hknown.mem_iff id).mpr there)
  have hnodup : (roundOrder symbolTopics log).Nodup := nodup_roundOrder distinct (by decide)
  obtain ⟨rest, hrest⟩ : firstRounds symbolTopics log i <+: roundOrder symbolTopics log :=
    firstRounds_prefix i
  have hm : m ∈ rest := mem_of_firstRounds_append distinct (EventKind.topic_mem _) hget hrest
  obtain ⟨before, after, rfl⟩ := List.append_of_mem hm
  rw [← hrest] at hnodup
  rw [← hrest, ← List.append_assoc]
  refine exists_lastWord hdecoded rfl (by simp [hkind]) fun m' hm' event' hdecoded' hid' hkind' => ?_
  -- a removal of it was in one of those rounds, and does not come again
  have hafter : m' ∈ before ++ m :: after :=
    List.mem_append_right _ (List.mem_cons_of_mem _ hm')
  obtain ⟨topic, _, hlogged⟩ := mem_roundOrder.mp (hrest ▸ List.mem_append_right _ hafter)
  obtain ⟨_, hdecoded'', rfl⟩ := h.decoded _ hlogged
  obtain rfl := Except.ok.inj (hdecoded'.symm.trans hdecoded'')
  obtain ⟨j, hj⟩ := List.mem_iff_getElem?.mp (mem_loggedOn.mpr hlogged)
  rw [Event.topic, hkind'] at hj
  have hearlier : m' ∈ firstRounds symbolTopics log i :=
    mem_firstRounds.mpr ⟨j, hremovals j m' event' hj hdecoded' hid', _, EventKind.topic_mem _, hj⟩
  exact absurd rfl ((List.nodup_append.mp hnodup).2.2 m' hearlier m' hafter)

end Orderly

end SymbolRelay
