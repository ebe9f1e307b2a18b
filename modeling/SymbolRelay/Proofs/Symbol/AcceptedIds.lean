import Mathlib.Data.List.DropRight
import SymbolRelay.Proofs.Handling.Refusals

/-!
# The ids accepted last

Ids are offered to a memory one after the other. It accepts an id unless it remembers it, and what it
remembers is a queue with a set of the same ids to look them up in. An id that was pushed out may be
offered again and is accepted again; an id that is refused does not become newer by it. So neither what
was offered last nor what was offered first decides about an id, only what was *accepted* last.

```text
   capacity 2, offered         a    b    a    c    a
   answered                    yes  yes  no   yes  yes
   remembered, newest first    a    b a  b a  c b  a c
```

## Results

* `Windowed.offer`, `windowed_ofOffers` — what one offer and all of them preserve: the queue holds the
  accepted ids, from the newest back as far as there is room;
* `accepted_ofOffers` — which ids are accepted is told by the offers alone, without queue and set;
* `Intake.remembers_last_accepted` — queue and set in step, their size, and the answer to the next offer;
* `Catalog.leaves_no_trace_iff`, `Catalog.remembered_eq` — the same of the uuids that messages bring to
  a catalog.
-/

set_option autoImplicit false

namespace SymbolRelay

/-- What is remembered after ids were offered, and the ids that were accepted, the newest last. -/
structure Intake where
  recent : RecentIds
  accepted : List String

namespace Intake

/-- Nothing was offered yet, and there is room for so many ids. -/
def start (capacity : Nat) : Intake := ⟨.withCapacity capacity, []⟩

/-- Offers an id. One that is refused leaves everything as it is. -/
def offer (i : Intake) (id : String) : Intake :=
  match i.recent.accept? id with
  | none => i
  | some recent => ⟨recent, i.accepted ++ [id]⟩

/-- Ids that are offered one after the other, with room for so many. -/
def ofOffers (capacity : Nat) (offered : List String) : Intake := offered.foldl offer (start capacity)

theorem ofOffers_snoc (capacity : Nat) (offered : List String) (id : String) :
    ofOffers capacity (offered ++ [id]) = (ofOffers capacity offered).offer id := by
  rw [ofOffers, List.foldl_append]
  rfl

theorem offer_of_refused {i : Intake} {id : String} (h : i.recent.accept? id = none) : i.offer id = i := by
  rw [offer, h]

theorem offer_of_accepted {i : Intake} {id : String} {recent : RecentIds}
    (h : i.recent.accept? id = some recent) : i.offer id = ⟨recent, i.accepted ++ [id]⟩ := by
  rw [offer, h]

theorem recent_offer (i : Intake) (id : String) :
    (i.offer id).recent = (i.recent.accept? id).getD i.recent := by
  cases h : i.recent.accept? id with
  | none => rw [offer_of_refused h, Option.getD_none]
  | some recent => rw [offer_of_accepted h, Option.getD_some]

end Intake

/-! ## One offer -/

/-- What an accepted id does to what is remembered: it becomes the newest, and the oldest is forgotten for it
if there is no room. -/
structure RecentIds.Renewed (r : RecentIds) (id : String) (after : RecentIds) : Prop where
  capacity : after.capacity = r.capacity
  room : r.ids.length < r.capacity → after.ids = id :: r.ids
  full : r.ids.length = r.capacity → ∃ newer oldest, r.ids = newer ++ [oldest] ∧
    after.ids = id :: newer ∧ oldest ∉ after.ids ∧ oldest ∉ after.known

theorem RecentIds.renewed_accept {r after : RecentIds} {id : String} (h : r.accept? id = some after) :
    r.Renewed id after := by
  obtain ⟨hids, hcapacity⟩ := ids_accept h
  obtain ⟨n, hn⟩ := Nat.exists_eq_add_one.mpr r.capacity_pos
  rw [hn, List.take_succ_cons] at hids
  refine ⟨hcapacity, fun hroom => ?_, fun hfull => ?_⟩
  · rw [hids, List.take_of_length_le (by omega)]
  · obtain hempty | ⟨newer, oldest, hsplit⟩ := r.ids.eq_nil_or_concat'
    · rw [hempty, hn] at hfull
      cases hfull
    · have hlength : newer.length = n := by
        rw [hsplit, List.length_append, List.length_singleton, hn] at hfull
        exact Nat.succ.inj hfull
      have hafter : after.ids = id :: newer := by rw [hids, hsplit, ← hlength, List.take_left]
      -- the oldest stood in the queue once, and the new id is another one, for it did not stand there
      have honce : oldest ∉ newer := by
        have hdistinct := r.nodup
        rw [hsplit, ← List.concat_eq_append, List.nodup_concat] at hdistinct
        exact hdistinct.1
      have hforgotten : oldest ∉ after.ids := by
        rw [hafter, List.mem_cons, not_or]
        refine ⟨?_, honce⟩
        rintro rfl
        exact not_mem_of_accept h (hsplit ▸ List.mem_append_right newer List.mem_cons_self)
      exact ⟨newer, oldest, hsplit, hafter, hforgotten,
        fun known => hforgotten ((after.mem_known_iff oldest).mp known)⟩

/-- The queue holds the ids that were accepted last, at most so many. -/
structure Windowed (size : Nat) (i : Intake) : Prop where
  capacity : i.recent.capacity = size
  ids : i.recent.ids = (i.accepted.rtake size).reverse

theorem windowed_start (capacity : Nat) : Windowed (max capacity 1) (.start capacity) where
  capacity := rfl
  ids := by rw [Intake.start, List.rtake_nil]; rfl

namespace Windowed

variable {size : Nat} {i : Intake}

/-- What is remembered is the newest part of the history of accepted ids. -/
theorem ids_eq_take (h : Windowed size i) : i.recent.ids = i.accepted.reverse.take size := by
  rw [h.ids, List.rtake_eq_reverse_take_reverse, List.reverse_reverse]

theorem accept?_eq_none_iff (h : Windowed size i) (id : String) :
    i.recent.accept? id = none ↔ id ∈ i.accepted.rtake size := by
  rw [RecentIds.accept?_eq_none_iff, h.ids, List.mem_reverse]

theorem length_ids (h : Windowed size i) : i.recent.ids.length = min size i.accepted.length := by
  rw [h.ids_eq_take, List.length_take, List.length_reverse]

/-- **One offer** keeps the queue on the ids accepted last, whether it adds to them or not. -/
theorem offer (h : Windowed size i) (id : String) : Windowed size (i.offer id) := by
  cases haccept : i.recent.accept? id with
  | none => rwa [Intake.offer_of_refused haccept]
  | some recent =>
    rw [Intake.offer_of_accepted haccept]
    have hcapacity : recent.capacity = size := (RecentIds.ids_accept haccept).2.trans h.capacity
    have hhistory : recent.ids = (id :: i.accepted.reverse).take size :=
      hcapacity ▸ RecentIds.ids_accept_of_history haccept (h.capacity ▸ h.ids_eq_take)
    refine ⟨hcapacity, ?_⟩
    rw [List.rtake_eq_reverse_take_reverse, List.reverse_reverse, List.reverse_concat, hhistory]

end Windowed

/-! ## All offers -/

/-- **After any offers** the queue holds the ids that were accepted last. -/
theorem windowed_ofOffers (capacity : Nat) (offered : List String) :
    Windowed (max capacity 1) (.ofOffers capacity offered) := by
  induction offered using List.reverseRecOn with
  | nil => exact windowed_start capacity
  | append_singleton offered id ih =>
    rw [Intake.ofOffers_snoc]
    exact ih.offer id

/-- Adds an id to a history, unless it is one of its last so many. -/
def addUnlessRecent (size : Nat) (history : List String) (id : String) : List String :=
  if id ∈ history.rtake size then history else history ++ [id]

/-- The ids that are not among the last so many that were taken before them. -/
def recentlyNew (size : Nat) (offered : List String) : List String :=
  offered.foldl (addUnlessRecent size) []

theorem Windowed.accepted_offer {size : Nat} {i : Intake} (h : Windowed size i) (id : String) :
    (i.offer id).accepted = addUnlessRecent size i.accepted id := by
  rw [addUnlessRecent]
  cases haccept : i.recent.accept? id with
  | none => rw [Intake.offer_of_refused haccept, if_pos ((h.accept?_eq_none_iff id).mp haccept)]
  | some recent =>
    have hnew := RecentIds.not_mem_of_accept haccept
    rw [h.ids, List.mem_reverse] at hnew
    rw [Intake.offer_of_accepted haccept, if_neg hnew]

/-- **Which ids are accepted** is told by the offers alone. -/
theorem accepted_ofOffers (capacity : Nat) (offered : List String) :
    (Intake.ofOffers capacity offered).accepted = recentlyNew (max capacity 1) offered := by
  induction offered using List.reverseRecOn with
  | nil => rfl
  | append_singleton offered id ih =>
    rw [Intake.ofOffers_snoc, (windowed_ofOffers capacity offered).accepted_offer id, ih, recentlyNew,
      recentlyNew, List.foldl_append]
    rfl

example : recentlyNew 2 ["a", "b", "a", "c", "a"] = ["a", "b", "c", "a"] := by decide

/-- **The ids accepted last are remembered, and no others.** There is room for so many ids, and for one at
least; any ids are offered one after the other, and then one more:

* no id stands twice in the queue, and the set holds the ids of the queue;
* the queue is as long as ids were accepted, up to the room there is;
* the next id is refused exactly if it is among the last so many accepted, and then all stays as it is;
* otherwise it is accepted and becomes the newest, and if there is no room the oldest leaves queue and set. -/
theorem Intake.remembers_last_accepted (capacity : Nat) (offered : List String) :
    let size := max capacity 1
    let i := Intake.ofOffers capacity offered
    i.recent.ids.Nodup ∧
    (∀ id, id ∈ i.recent.known ↔ id ∈ i.recent.ids) ∧
    i.recent.count = i.recent.ids.length ∧ i.recent.ids.length = min size i.accepted.length ∧
    ∀ id,
      (i.recent.accept? id = none ↔ id ∈ i.accepted.rtake size) ∧
      (id ∈ i.accepted.rtake size → i.offer id = i) ∧
      (id ∉ i.accepted.rtake size → ∃ after, i.recent.accept? id = some after ∧
        i.offer id = ⟨after, i.accepted ++ [id]⟩ ∧ i.recent.Renewed id after) := by
  intro size i
  have h : Windowed size i := windowed_ofOffers capacity offered
  refine ⟨i.recent.nodup, i.recent.mem_known_iff, i.recent.count_eq, h.length_ids, fun id => ?_⟩
  refine ⟨h.accept?_eq_none_iff id, fun hrecent => ?_, fun hnew => ?_⟩
  · exact offer_of_refused ((h.accept?_eq_none_iff id).mpr hrecent)
  · cases haccept : i.recent.accept? id with
    | none => exact absurd ((h.accept?_eq_none_iff id).mp haccept) hnew
    | some after => exact ⟨after, rfl, offer_of_accepted haccept, RecentIds.renewed_accept haccept⟩

/-! ## The uuids that a catalog remembers -/

namespace Catalog

/-- The uuids under which messages are offered to a catalog: of those that hold an event, if they have one. -/
def offeredBy [BinaryFormat] (ms : List Message) : List String :=
  (uuids (ms.filter holdsEvent)).filter (· ≠ "")

theorem offeredBy_snoc [BinaryFormat] (ms : List Message) (m : Message) :
    offeredBy (ms ++ [m]) = offeredBy ms ++ if holdsEvent m = true ∧ m.uuid ≠ "" then [m.uuid] else [] := by
  rw [offeredBy, List.filter_append, uuids_append, List.filter_append, ← offeredBy]
  cases hevent : holdsEvent m <;> by_cases hempty : m.uuid = "" <;> simp [hevent, hempty]

/-- What a catalog remembers is what is remembered of the uuids that its messages offered. -/
theorem recent_foldl_takeIn [BinaryFormat] (window : Nat) (ms : List Message) :
    (ms.foldl takeIn (withWindow window)).recent = (Intake.ofOffers window (offeredBy ms)).recent := by
  induction ms using List.reverseRecOn with
  | nil => rfl
  | append_singleton ms m ih =>
    rw [List.foldl_append, List.foldl_cons, List.foldl_nil, recent_takeIn, ih, offeredBy_snoc]
    split
    · rw [Intake.ofOffers_snoc, Intake.recent_offer]
    · rw [List.append_nil]

/-- **Which messages leave no trace.** After any messages, with an event or without, a message that holds an
event leaves the catalog as it is exactly if its uuid is among the last so many that the catalog accepted. -/
theorem leaves_no_trace_iff [BinaryFormat] (window : Nat) (ms : List Message) {m : Message} {event : Event}
    (decoded : Event.decode m = .ok event) (named : m.uuid ≠ "") :
    let c := ms.foldl takeIn (withWindow window)
    c.apply m = .ok c ↔ m.uuid ∈ (recentlyNew (max window 1) (offeredBy ms)).rtake (max window 1) := by
  intro c
  have h := windowed_ofOffers window (offeredBy ms)
  rw [apply_eq_self_iff decoded named, recent_foldl_takeIn, h.ids, List.mem_reverse, accepted_ofOffers]

/-- **How many uuids are remembered**: as many as were accepted, up to the window. -/
theorem remembered_eq [BinaryFormat] (window : Nat) (ms : List Message) :
    (ms.foldl takeIn (withWindow window)).remembered =
      min (max window 1) (recentlyNew (max window 1) (offeredBy ms)).length := by
  rw [remembered, RecentIds.count_eq, recent_foldl_takeIn, (windowed_ofOffers window _).length_ids,
    accepted_ofOffers]

end Catalog

end SymbolRelay
