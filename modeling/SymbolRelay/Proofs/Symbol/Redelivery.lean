import Mathlib.Data.Finset.Card
import Mathlib.Data.Finset.SDiff
import SymbolRelay.Proofs.Encoding.Events
import SymbolRelay.Proofs.Symbol.CatalogReplay
import SymbolRelay.Standin.Compact

/-!
# Messages that come more than once

A queue may deliver a message again, any number of times and at any distance. A catalog remembers the
uuids that it accepted last; a uuid that comes again does not become newer by it, so the oldest is the
one that *first* came the longest ago. A message that comes again is noticed exactly as long as fewer
uuids than it remembers came up for the first time since the message came first.

The catalog after any deliveries is therefore told by the first deliveries alone, as long as each
message that comes again is still remembered (`Absorbed`): it holds what they say, and remembers the
last of their uuids.

## Results

* `Absorbed.mem_recent_iff` — when a message that came before is still remembered;
* `Absorbed.deliver` — one more delivery, new or remembered;
* `Catalog.apply_again_iff` — how late a message may come again without a trace;
* `Catalog.redelivery_absorbed` — deliveries that are prompt enough leave the same entries as the first
  delivery of each message.
-/

set_option autoImplicit false

namespace SymbolRelay

/-- The uuids of messages, in order. -/
def uuids (ms : List Message) : List String := ms.map (·.uuid)

@[simp] theorem uuids_nil : uuids [] = [] := rfl

@[simp] theorem uuids_cons (m : Message) (ms : List Message) : uuids (m :: ms) = m.uuid :: uuids ms := rfl

@[simp] theorem uuids_append (ms more : List Message) : uuids (ms ++ more) = uuids ms ++ uuids more :=
  List.map_append

/-! ## First deliveries -/

/-- Keeps a message, unless one with its uuid is kept already. -/
def keepFirst (kept : List Message) (m : Message) : List Message :=
  if m.uuid ∈ uuids kept then kept else kept ++ [m]

/-- The first delivery of each message. -/
def firstDeliveries (deliveries : List Message) : List Message := deliveries.foldl keepFirst []

theorem firstDeliveries_snoc (ms : List Message) (m : Message) :
    firstDeliveries (ms ++ [m]) = keepFirst (firstDeliveries ms) m := by
  rw [firstDeliveries, List.foldl_append]
  rfl

theorem mem_uuids_firstDeliveries (ms : List Message) (uuid : String) :
    uuid ∈ uuids (firstDeliveries ms) ↔ uuid ∈ uuids ms := by
  induction ms using List.reverseRecOn with
  | nil => rfl
  | append_singleton ms m ih =>
    rw [firstDeliveries_snoc, keepFirst]
    split
    · rename_i known
      rw [ih, uuids_append, List.mem_append, uuids_cons, uuids_nil, List.mem_singleton]
      refine ⟨.inl, ?_⟩
      rintro (h | rfl)
      · exact h
      · exact ih.mp known
    · rw [uuids_append, uuids_append, List.mem_append, List.mem_append, ih]

theorem nodup_uuids_firstDeliveries (ms : List Message) : (uuids (firstDeliveries ms)).Nodup := by
  induction ms using List.reverseRecOn with
  | nil => exact List.nodup_nil
  | append_singleton ms m ih =>
    rw [firstDeliveries_snoc, keepFirst]
    split
    · exact ih
    · rename_i new
      rw [uuids_append]
      exact List.nodup_append.mpr ⟨ih, List.nodup_singleton _,
        fun uuid hold other hother heq => new (by
          rw [uuids_cons, uuids_nil, List.mem_singleton] at hother
          exact hother ▸ heq ▸ hold)⟩

theorem firstDeliveries_subset (ms : List Message) : firstDeliveries ms ⊆ ms := by
  induction ms using List.reverseRecOn with
  | nil => exact List.Subset.refl _
  | append_singleton ms m ih =>
    rw [firstDeliveries_snoc, keepFirst]
    split
    · exact fun x hx => List.mem_append_left _ (ih hx)
    · exact List.append_subset.mpr
        ⟨fun x hx => List.mem_append_left _ (ih hx), List.subset_append_right ms [m]⟩

/-- Messages with different uuids are each delivered once. -/
theorem firstDeliveries_of_nodup {ms : List Message} (distinct : (uuids ms).Nodup) :
    firstDeliveries ms = ms := by
  induction ms using List.reverseRecOn with
  | nil => rfl
  | append_singleton ms m ih =>
    rw [uuids_append, List.nodup_append] at distinct
    obtain ⟨hms, -, hnew⟩ := distinct
    rw [firstDeliveries_snoc, ih hms, keepFirst, if_neg]
    exact fun known => hnew m.uuid known m.uuid (List.mem_singleton.mpr rfl) rfl

/-- The uuids that come up for the first time later. -/
def newUuids (earlier later : List String) : Finset String := later.toFinset \ earlier.toFinset

/-- The first deliveries among later messages come after those among the earlier ones, and there are as
many of them as new uuids. -/
theorem firstDeliveries_append (earlier later : List Message) :
    ∃ fresh, firstDeliveries (earlier ++ later) = firstDeliveries earlier ++ fresh ∧
      fresh.length = (newUuids (uuids earlier) (uuids later)).card := by
  obtain ⟨fresh, heq⟩ : ∃ fresh, firstDeliveries (earlier ++ later) = firstDeliveries earlier ++ fresh := by
    induction later using List.reverseRecOn with
    | nil => exact ⟨[], by rw [List.append_nil, List.append_nil]⟩
    | append_singleton later m ih =>
      obtain ⟨fresh, heq⟩ := ih
      rw [← List.append_assoc, firstDeliveries_snoc, heq, keepFirst]
      split
      · exact ⟨fresh, rfl⟩
      · exact ⟨fresh ++ [m], List.append_assoc _ _ _⟩
  have hnd := nodup_uuids_firstDeliveries (earlier ++ later)
  have hmem := mem_uuids_firstDeliveries (earlier ++ later)
  rw [heq, uuids_append] at hnd hmem
  obtain ⟨-, hfresh, hapart⟩ := List.nodup_append.mp hnd
  have hset : (uuids fresh).toFinset = newUuids (uuids earlier) (uuids later) := by
    ext uuid
    rw [newUuids, List.mem_toFinset, Finset.mem_sdiff, List.mem_toFinset, List.mem_toFinset]
    have hiff := hmem uuid
    rw [uuids_append, List.mem_append, List.mem_append, mem_uuids_firstDeliveries] at hiff
    constructor
    · intro h
      have hnew : uuid ∉ uuids earlier := fun hold =>
        hapart uuid ((mem_uuids_firstDeliveries earlier uuid).mpr hold) uuid h rfl
      exact ⟨(hiff.mp (.inr h)).resolve_left hnew, hnew⟩
    · rintro ⟨hlater, hnew⟩
      exact (hiff.mpr (.inr hlater)).resolve_left hnew
  refine ⟨fresh, heq, ?_⟩
  rw [← hset, List.toFinset_card_of_nodup hfresh, uuids, List.length_map]

/-! ## What a catalog keeps of the deliveries -/

namespace Catalog

/-- The entries after messages that are all taken in. -/
def entriesOf [BinaryFormat] (ms : List Message) : Table Int64 CatalogEntry :=
  ms.foldl (fun entries m => (Event.decode m).toOption.elim entries (applyEvent entries)) Table.empty

theorem entriesOf_snoc [BinaryFormat] (ms : List Message) {m : Message} {event : Event}
    (h : Event.decode m = .ok event) : entriesOf (ms ++ [m]) = applyEvent (entriesOf ms) event := by
  rw [entriesOf, List.foldl_append, ← entriesOf]
  show (Event.decode m).toOption.elim _ _ = _
  rw [h]
  rfl

theorem applyAll_snoc [BinaryFormat] {c after : Catalog} {ms : List Message} (m : Message)
    (h : c.applyAll ms = .ok after) : c.applyAll (ms ++ [m]) = after.apply m := by
  rw [applyAll, List.foldlM_append, ← applyAll, h]
  show (after.apply m >>= fun c => pure c) = after.apply m
  rw [bind_pure]

end Catalog

/-- A catalog that holds what the first deliveries say and remembers the last of their uuids. -/
structure Absorbed [BinaryFormat] (window : Nat) (deliveries : List Message) (c : Catalog) : Prop where
  entries : c.entries = Catalog.entriesOf (firstDeliveries deliveries)
  recent : c.recent.ids = (uuids (firstDeliveries deliveries)).reverse.take c.recent.capacity
  capacity : c.recent.capacity = max window 1

theorem absorbed_nil [BinaryFormat] (window : Nat) : Absorbed window [] (.withWindow window) where
  entries := rfl
  recent := List.take_nil.symm
  capacity := rfl

namespace Absorbed

variable {window : Nat} {deliveries : List Message} {c : Catalog}

/-- **When a message is still remembered**: as long as fewer new uuids than the catalog remembers came
up since its first delivery. -/
theorem mem_recent_iff [BinaryFormat] {before between : List Message} {first : Message}
    (h : Absorbed window (before ++ first :: between) c) (new : first.uuid ∉ uuids before) :
    first.uuid ∈ c.recent.ids ↔
      (newUuids (uuids (before ++ [first])) (uuids between)).card < max window 1 := by
  obtain ⟨fresh, heq, hlen⟩ := firstDeliveries_append (before ++ [first]) between
  have hsplit : firstDeliveries (before ++ first :: between) =
      firstDeliveries before ++ first :: fresh := by
    rw [List.append_cons, heq, firstDeliveries_snoc, keepFirst,
      if_neg (fun known => new ((mem_uuids_firstDeliveries before first.uuid).mp known)),
      List.append_assoc, List.singleton_append]
  have hnd := nodup_uuids_firstDeliveries (before ++ first :: between)
  rw [hsplit, uuids_append, uuids_cons, List.nodup_append] at hnd
  have hfresh : first.uuid ∉ uuids fresh := (List.nodup_cons.mp hnd.2.1).1
  have hbefore : first.uuid ∉ uuids (firstDeliveries before) := fun hm =>
    new ((mem_uuids_firstDeliveries before first.uuid).mp hm)
  rw [h.recent, hsplit, h.capacity, ← hlen, uuids_append, uuids_cons, List.reverse_append,
    List.reverse_cons, List.append_assoc, List.singleton_append, List.take_append, List.length_reverse,
    uuids, List.length_map, ← uuids]
  constructor
  · intro hm
    by_contra hlate
    rw [Nat.sub_eq_zero_of_le (Nat.le_of_not_lt hlate), List.take_zero, List.append_nil] at hm
    exact hfresh (List.mem_reverse.mp (List.mem_of_mem_take hm))
  · intro hsoon
    obtain ⟨room, hroom⟩ : ∃ room, max window 1 - fresh.length = room + 1 :=
      ⟨max window 1 - fresh.length - 1, by omega⟩
    rw [hroom, List.take_succ_cons]
    exact List.mem_append_right _ List.mem_cons_self

/-- **One more delivery**, of a message that is new or still remembered. -/
theorem deliver [BinaryFormat] (h : Absorbed window deliveries c) {m : Message} {event : Event}
    (decoded : Event.decode m = .ok event) (named : m.uuid ≠ "")
    (remembered : m.uuid ∈ uuids deliveries → m.uuid ∈ c.recent.ids) :
    ∃ after, c.apply m = .ok after ∧ Absorbed window (deliveries ++ [m]) after := by
  by_cases known : m.uuid ∈ uuids deliveries
  · refine ⟨c, Catalog.apply_of_remembered decoded named (remembered known), ?_⟩
    have hsame : firstDeliveries (deliveries ++ [m]) = firstDeliveries deliveries := by
      rw [firstDeliveries_snoc, keepFirst,
        if_pos ((mem_uuids_firstDeliveries deliveries m.uuid).mpr known)]
    exact ⟨hsame ▸ h.entries, hsame ▸ h.recent, h.capacity⟩
  · have hnew : m.uuid ∉ uuids (firstDeliveries deliveries) := fun hm =>
      known ((mem_uuids_firstDeliveries deliveries m.uuid).mp hm)
    have hforgotten : m.uuid ∉ c.recent.ids := by
      rw [h.recent]
      exact fun hm => hnew (List.mem_reverse.mp (List.mem_of_mem_take hm))
    obtain ⟨recent, haccept, -⟩ := RecentIds.exists_accept hforgotten
    have hcapacity := (RecentIds.ids_accept haccept).2
    have hfirst : firstDeliveries (deliveries ++ [m]) = firstDeliveries deliveries ++ [m] := by
      rw [firstDeliveries_snoc, keepFirst, if_neg hnew]
    refine ⟨⟨Catalog.applyEvent c.entries event, recent⟩, by
      simp [Catalog.apply, decoded, named, haccept], ?_, ?_, hcapacity.trans h.capacity⟩
    · rw [hfirst, Catalog.entriesOf_snoc _ decoded, ← h.entries]
    · rw [RecentIds.ids_accept_of_history haccept h.recent, hfirst, uuids_append, uuids_cons, uuids_nil,
        List.reverse_append, List.reverse_singleton, List.singleton_append]

end Absorbed

/-- Every uuid that comes again does so while fewer than `window` uuids came up for the first time since
it came first itself. -/
def Prompt (window : Nat) (delivered : List String) : Prop :=
  ∀ before uuid between after, delivered = before ++ uuid :: (between ++ uuid :: after) →
    uuid ∉ before → (newUuids (before ++ [uuid]) between).card < window

namespace Prompt

variable {window : Nat} {delivered : List String}

theorem of_append {more : List String} (h : Prompt window (delivered ++ more)) :
    Prompt window delivered := by
  rintro before uuid between after rfl hnew
  exact h before uuid between (after ++ more) (by simp) hnew

theorem of_nodup (distinct : delivered.Nodup) : Prompt window delivered := by
  rintro before uuid between after rfl -
  exact absurd (List.mem_append_right between List.mem_cons_self)
    (List.nodup_cons.mp (List.nodup_append.mp distinct).2.1).1

/-- A first delivery is never late, and a later one is not if it is soon enough. -/
theorem snoc {uuid : String} (h : Prompt window delivered)
    (soon : ∀ before between, delivered = before ++ uuid :: between → uuid ∉ before →
      (newUuids (before ++ [uuid]) between).card < window) : Prompt window (delivered ++ [uuid]) := by
  intro before other between after heq hnew
  obtain rfl | ⟨after, last, rfl⟩ := after.eq_nil_or_concat
  · rw [← List.cons_append, ← List.append_assoc] at heq
    obtain ⟨heq, hlast⟩ := List.append_inj' heq rfl
    cases hlast
    exact soon before between heq hnew
  · refine h before other between after ?_ hnew
    have hsplit : delivered ++ [uuid] = before ++ other :: (between ++ other :: after) ++ [last] := by
      rw [heq]
      simp
    exact (List.append_inj' hsplit rfl).1

theorem fresh {uuid : String} (h : Prompt window delivered) (new : uuid ∉ delivered) :
    Prompt window (delivered ++ [uuid]) :=
  h.snoc fun _ _ heq _ => absurd (heq ▸ List.mem_append_right _ List.mem_cons_self) new

/-- A uuid that comes again soon after it came first. -/
theorem again (before : List String) {between : List String} {uuid : String}
    (h : Prompt window (before ++ uuid :: between)) (new : uuid ∉ before)
    (soon : (newUuids (before ++ [uuid]) between).card < window) :
    Prompt window (before ++ uuid :: between ++ [uuid]) := by
  refine h.snoc fun front back heq hfront => ?_
  -- a uuid comes first at one place only
  obtain ⟨mid, rfl, hmid⟩ | ⟨mid, rfl, hmid⟩ := List.append_eq_append_iff.mp heq
  · cases mid with
    | nil =>
      cases hmid
      rwa [List.append_nil]
    | cons x mid =>
      cases hmid
      exact absurd (List.mem_append_right before List.mem_cons_self) hfront
  · cases mid with
    | nil =>
      cases hmid
      rwa [List.append_nil] at soon
    | cons x mid =>
      cases hmid
      exact absurd (List.mem_append_right front List.mem_cons_self) new

end Prompt

/-- A message that was delivered was delivered for a first time. -/
theorem exists_first {ms : List Message} {uuid : String} (h : uuid ∈ uuids ms) :
    ∃ before first between, ms = before ++ first :: between ∧ first.uuid = uuid ∧
      uuid ∉ uuids before := by
  obtain ⟨us, vs, heq, hnot⟩ := List.eq_append_cons_of_mem h
  obtain ⟨before, rest, rfl, rfl, hrest⟩ := List.map_eq_append_iff.mp heq
  obtain ⟨first, between, rfl, rfl, -⟩ := List.map_eq_cons_iff.mp hrest
  exact ⟨before, first, between, rfl, rfl, hnot⟩

/-! ## All deliveries -/

/-- **Prompt deliveries are absorbed.** Each is accepted. -/
theorem Absorbed.deliverAll [BinaryFormat] {window : Nat} {deliveries : List Message}
    (decodable : ∀ m ∈ deliveries, ∃ event, Event.decode m = .ok event)
    (named : ∀ m ∈ deliveries, m.uuid ≠ "") (prompt : Prompt window (uuids deliveries)) :
    ∃ c, (Catalog.withWindow window).applyAll deliveries = .ok c ∧ Absorbed window deliveries c := by
  induction deliveries using List.reverseRecOn with
  | nil => exact ⟨_, rfl, absorbed_nil window⟩
  | append_singleton deliveries m ih =>
    obtain ⟨c, hc, habsorbed⟩ := ih (fun x hx => decodable x (List.mem_append_left _ hx))
      (fun x hx => named x (List.mem_append_left _ hx)) (uuids_append _ _ ▸ prompt).of_append
    have hm : m ∈ deliveries ++ [m] := List.mem_append_right _ List.mem_cons_self
    obtain ⟨event, hevent⟩ := decodable m hm
    rw [Catalog.applyAll_snoc m hc]
    refine habsorbed.deliver hevent (named m hm) fun known => ?_
    obtain ⟨before, first, between, rfl, hsame, hnew⟩ := exists_first known
    have hsoon := prompt (uuids before) m.uuid (uuids between) [] (by simp [hsame]) hnew
    rw [← hsame] at hnew hsoon ⊢
    rw [habsorbed.mem_recent_iff hnew, uuids_append]
    exact Nat.lt_of_lt_of_le hsoon (Nat.le_max_left _ _)

namespace Catalog

/-- **How late a message may come again**: it leaves no trace exactly as long as fewer uuids than the
catalog remembers came up since its first delivery. -/
theorem apply_again_iff [BinaryFormat] {window : Nat} {before between : List Message} {first again : Message}
    {event : Event} {c : Catalog} (absorbed : Absorbed window (before ++ first :: between) c)
    (new : first.uuid ∉ uuids before) (decoded : Event.decode again = .ok event)
    (named : again.uuid ≠ "") (same : again.uuid = first.uuid) :
    c.apply again = .ok c ↔ (newUuids (uuids (before ++ [first])) (uuids between)).card < max window 1 := by
  rw [← absorbed.mem_recent_iff new, ← same]
  exact apply_eq_self_iff decoded named

/-- **Redelivery is absorbed.** A catalog that is given messages that may come again, each time while
fewer than `window` uuids came up since its first delivery, accepts every one, and holds in the end the
same entries, versions included, as a catalog that is given only the first delivery of each message. -/
theorem redelivery_absorbed [BinaryFormat] {window : Nat} {deliveries : List Message}
    (decodable : ∀ m ∈ deliveries, ∃ event, Event.decode m = .ok event)
    (named : ∀ m ∈ deliveries, m.uuid ≠ "") (prompt : Prompt window (uuids deliveries)) :
    ∃ absorbed once,
      (withWindow window).applyAll deliveries = .ok absorbed ∧
      (withWindow window).applyAll (firstDeliveries deliveries) = .ok once ∧
      absorbed.entries = once.entries := by
  obtain ⟨absorbed, hall, habsorbed⟩ := Absorbed.deliverAll decodable named prompt
  have hnd := nodup_uuids_firstDeliveries deliveries
  have hsub := firstDeliveries_subset deliveries
  have honlyFirst : Prompt window (uuids (firstDeliveries deliveries)) := .of_nodup hnd
  obtain ⟨once, honce, hentries⟩ := Absorbed.deliverAll (fun m hm => decodable m (hsub hm))
    (fun m hm => named m (hsub hm)) honlyFirst
  refine ⟨absorbed, once, hall, honce, ?_⟩
  rw [habsorbed.entries, hentries.entries, firstDeliveries_of_nodup hnd]

end Catalog

/-! ## A witness -/

/-- The message of an event with a uuid of its own. -/
def Event.delivery [BinaryFormat] (uuid : String) (e : Event) : Message :=
  ({ e.encode .json with uuid } : Message).setValue Header.routingKey e.topic

theorem Event.decode_delivery [BinaryFormat] (uuid : String) (e : Event) :
    decode (e.delivery uuid) = .ok e := by
  refine decode_of_stated .json ?_ ?_ rfl
  · rw [delivery, Message.value?_setValue_self]
    exact if_neg e.kind.topic_ne_empty
  · rw [delivery, Message.value?_setValue_of_ne _ _ (by decide)]
    exact encode_contentType .json e

namespace Catalog

/-- A symbol is created, changed and changed again, and the first two messages come a second time, the
one before, the other after the last change. -/
def renamedTwice : List Message :=
  let created := (Event.created ⟨1, "Bitcoin", "BTC", "", .epoch⟩).delivery "a"
  let renamed := (Event.updated ⟨1, "Bitcoin", "XBT", "", Time.epoch.next⟩).delivery "b"
  let described := (Event.updated ⟨1, "Bitcoin", "XBT", "a coin", Time.epoch.next.next⟩).delivery "c"
  [created, renamed, created, described, renamed]

theorem renamedTwice_absorbed :
    (∀ m ∈ renamedTwice, ∃ event, Event.decode m = .ok event) ∧
    (∀ m ∈ renamedTwice, m.uuid ≠ "") ∧ Prompt 2 (uuids renamedTwice) ∧
    ∃ absorbed once,
      (withWindow 2).applyAll renamedTwice = .ok absorbed ∧
      (withWindow 2).applyAll (firstDeliveries renamedTwice) = .ok once ∧
      absorbed.entries = once.entries := by
  have decodable : ∀ m ∈ renamedTwice, ∃ event, Event.decode m = .ok event := by
    simp only [renamedTwice, List.forall_mem_cons]
    exact ⟨⟨_, Event.decode_delivery _ _⟩, ⟨_, Event.decode_delivery _ _⟩,
      ⟨_, Event.decode_delivery _ _⟩, ⟨_, Event.decode_delivery _ _⟩, ⟨_, Event.decode_delivery _ _⟩,
      by simp⟩
  have named : ∀ m ∈ renamedTwice, m.uuid ≠ "" := by
    simp [renamedTwice, Event.delivery, Message.setValue]
  have opening : Prompt 2 ["a", "b"] := .of_nodup (by decide)
  have repeated : Prompt 2 ["a", "b", "a", "c"] :=
    (opening.again [] (by decide) (by decide)).fresh (by decide)
  have prompt : Prompt 2 (uuids renamedTwice) :=
    repeated.again ["a"] (by decide) (by decide)
  exact ⟨decodable, named, prompt, redelivery_absorbed decodable named prompt⟩

end Catalog

end SymbolRelay
