import SymbolRelay.Proofs.Delivery.Stamping
import SymbolRelay.Standin.NumberedIds

/-!
# Every value of a stamped message

A message keeps each value that it has. Under a name for which it has none, each step of stamping offers it
one, or none, and the first offer that is not empty stays. So what a stamped message says under a name is
told by the message and by what it is offered there:

| name | offered |
|------|---------|
| `message_id` | the uuid |
| `routing_key` | the topic |
| `correlation_id` | the context's value, else a fresh id |
| another name that describes one message only | nothing |
| anything else, `request_id` among it | the context's value, if any |

## Results

* `Filled.trans`, `Filled.again` — offers one after the other, and the same offers once more;
* `foldl_adoptValue_perm` — the order in which the values of a context are adopted does not matter;
* `filled_stamp` — what stamping offers;
* `stamp_again` — a message that was stamped is not changed by being stamped again;
* `stamped_values` — all of it.
-/

set_option autoImplicit false

namespace SymbolRelay

/-! ## Offers -/

/-- What is offered to a message under each name. -/
abbrev Offer : Type := String → Option String

namespace Offer

/-- An offer under one name. -/
def only (key : String) (value : Option String) : Offer := fun k => if k = key then value else none

/-- The first offer, and where it is empty or missing the second. -/
def orElse (first second : Offer) : Offer := fun key =>
  if (first key).filter (· ≠ "") = none then (second key).or (first key) else first key

theorem only_self (key : String) (value : Option String) : only key value key = value := if_pos rfl

theorem only_of_ne {key k : String} (value : Option String) (h : k ≠ key) : only key value k = none :=
  if_neg h

theorem orElse_of_none {first : Offer} {key : String} (h : first key = none) (second : Offer) :
    first.orElse second key = second key := by
  rw [orElse, h, Option.filter_none, if_pos rfl, Option.or_none]

theorem orElse_of_some {first : Offer} {key value : String} (h : first key = some value) (hvalue : value ≠ "")
    (second : Offer) : first.orElse second key = some value := by
  rw [orElse, h, if_neg (by simp [Option.filter, hvalue])]

theorem orElse_of_eq {first second : Offer} {key : String} (h : first key = second key) :
    first.orElse second key = second key := by
  rw [orElse, h, Option.or_self, ite_self]

/-- An offer under a name under which nothing was offered before. -/
theorem orElse_only {first : Offer} {key : String} (h : first key = none) (value : Option String)
    (k : String) : first.orElse (only key value) k = if k = key then value else first k := by
  by_cases hk : k = key
  · subst hk
    rw [orElse_of_none h, only_self, if_pos rfl]
  · rw [orElse, only_of_ne value hk, Option.none_or, ite_self, if_neg hk]

theorem orElse_of_second {second : Offer} {key : String} (first : Offer) (h : second key = none) :
    first.orElse second key = first key := by
  rw [orElse, h, Option.none_or, ite_self]

end Offer

/-- The message has its own values, and under the other names what it was offered. -/
structure Filled (m : Message) (offer : Offer) (out : Message) : Prop where
  kept : ∀ key, m.value? key ≠ none → out.metadata.get? key = m.metadata.get? key
  offered : ∀ key, m.value? key = none →
    out.metadata.get? key = (offer key).or (m.metadata.get? key)

namespace Filled

variable {m out out' : Message} {offer more : Offer}

/-- Nothing was offered. -/
theorem of_none (h : ∀ key, out.metadata.get? key = m.metadata.get? key) : Filled m (fun _ => none) out where
  kept key _ := h key
  offered key _ := h key

theorem congr (h : Filled m offer out) (hoffer : ∀ key, offer key = more key) : Filled m more out where
  kept := h.kept
  offered key hkey := by rw [h.offered key hkey, hoffer key]

theorem value?_of_some (h : Filled m offer out) {key : String} (hkey : m.value? key ≠ none) :
    out.value? key = m.value? key := Message.value?_congr (h.kept key hkey)

/-- A message has no value where it had none and got no offer but an empty one. -/
theorem value?_of_none (h : Filled m offer out) {key : String} (hkey : m.value? key = none) :
    out.value? key = (offer key).filter (· ≠ "") := by
  simp only [Message.value?, Metadata.value?, h.offered key hkey]
  cases offer key with
  | none => exact hkey
  | some value => rfl

/-- **Offers one after the other** are offers, of which the first that is not empty counts. -/
theorem trans (h : Filled m offer out) (h' : Filled out more out') :
    Filled m (offer.orElse more) out' where
  kept key hkey := by
    rw [h'.kept key (by rwa [h.value?_of_some hkey]), h.kept key hkey]
  offered key hkey := by
    have hvalue := h.value?_of_none hkey
    rw [Offer.orElse]
    split
    · rename_i hempty
      rw [h'.offered key (hvalue.trans hempty), h.offered key hkey, Option.or_assoc]
    · rename_i hfull
      rw [h'.kept key (by rwa [hvalue]), h.offered key hkey]

/-- **The same offers once more change nothing.** -/
theorem again (h : Filled m offer out) : Filled out offer out where
  kept _ _ := rfl
  offered key hkey := by
    by_cases hown : m.value? key = none
    · rw [h.offered key hown]
      cases offer key <;> rfl
    · rw [h.value?_of_some hown] at hkey
      exact absurd hkey hown

/-- A message and what it is offered determine what is said in the end. -/
theorem metadata_eq (h : Filled m offer out) (h' : Filled m offer out') : out.metadata = out'.metadata := by
  refine Table.ext fun key => ?_
  by_cases hkey : m.value? key = none
  · rw [h.offered key hkey, h'.offered key hkey]
  · rw [h.kept key hkey, h'.kept key hkey]

end Filled

theorem Message.eq_of_fields {m m' : Message} (huuid : m.uuid = m'.uuid) (hpayload : m.payload = m'.payload)
    (hmetadata : m.metadata = m'.metadata) : m = m' := by
  cases m
  cases m'
  cases huuid
  cases hpayload
  cases hmetadata
  rfl

/-! ## What each step offers -/

theorem filled_setAbsent (m : Message) (key value : String) :
    Filled m (.only key (some value)) (m.setAbsent key value) where
  kept k hk := by
    by_cases hkey : k = key
    · subst hkey
      rw [Message.get?_setAbsent_self, if_neg hk]
    · exact m.get?_setAbsent_of_ne value hkey
  offered k hk := by
    by_cases hkey : k = key
    · subst hkey
      rw [Message.get?_setAbsent_self, if_pos hk, Offer.only_self, Option.some_or]
    · rw [m.get?_setAbsent_of_ne value hkey, Offer.only_of_ne _ hkey, Option.none_or]

/-- A message that has a correlation id needs no other one. -/
theorem correlate_of_some [IdSource] (ctx : Context) {m : Message} (ids : Ids)
    (h : m.value? Header.correlationId ≠ none) : correlate ctx m ids = (m, ids) := by
  rw [correlate, if_pos (Option.isSome_iff_ne_none.mpr h)]

theorem filled_correlate [IdSource] (ctx : Context) (m : Message) (ids : Ids) :
    Filled m (.only Header.correlationId
      (some ((ctx.value? Header.correlationId).getD (IdSource.text ids.used)))) (correlate ctx m ids).1 := by
  have hset := filled_setAbsent m Header.correlationId
    ((ctx.value? Header.correlationId).getD (IdSource.text ids.used))
  simp only [correlate, Message.setAbsent] at hset ⊢
  split
  · rename_i hsome
    rwa [if_pos hsome] at hset
  · rename_i hnone
    rw [if_neg hnone] at hset
    cases hvalue : ctx.value? Header.correlationId with
    | none => rwa [hvalue] at hset
    | some id => rwa [hvalue] at hset

theorem filled_adoptRequest (ctx : Context) (m : Message) :
    Filled m (.only Header.requestId (ctx.value? Header.requestId)) (adoptRequest ctx m) := by
  unfold adoptRequest
  cases ctx.value? Header.requestId with
  | none => exact (Filled.of_none fun _ => rfl).congr fun _ => (ite_self _).symm
  | some id => exact filled_setAbsent m Header.requestId id

theorem filled_adoptValue (m : Message) (entry : String × String) :
    Filled m (.only entry.1 (if entry.2 = "" ∨ Header.isMessageScoped entry.1 then none else some entry.2))
      (adoptValue m entry) := by
  unfold adoptValue
  split
  · exact (Filled.of_none fun _ => rfl).congr fun _ => (ite_self _).symm
  · exact filled_setAbsent m entry.1 entry.2

/-! ## The values of a context, in any order -/

theorem Header.ne_of_scoped {key other : String} (h : isMessageScoped key = true)
    (h' : isMessageScoped other = false) : key ≠ other := by
  rintro rfl
  rw [h] at h'
  cases h'

/-- What a context offers: its values that are not empty, but none that describes one message only. -/
def shared (es : List (String × String)) : Offer := fun key =>
  if Header.isMessageScoped key then none else (Table.lookupIn key es).filter (· ≠ "")

theorem filled_foldl_adoptValue (es : List (String × String))
    (ascending : es.Pairwise fun a b => compare a.1 b.1 = .lt) (m : Message) :
    Filled m (shared es) (es.foldl adoptValue m) := by
  induction es generalizing m with
  | nil => exact (Filled.of_none fun _ => rfl).congr fun _ => (ite_self _).symm
  | cons e es ih =>
    obtain ⟨hfirst, hrest⟩ := List.pairwise_cons.mp ascending
    refine ((filled_adoptValue m e).trans (ih hrest (adoptValue m e))).congr fun key => ?_
    by_cases hkey : key = e.1
    · -- The values to come are under other names.
      subst hkey
      have hlater : shared es e.1 = none := by
        rw [shared, Table.lookupIn_eq_none_of_lt hfirst, Option.filter_none, ite_self]
      rw [Offer.orElse_of_second _ hlater, Offer.only_self, shared]
      by_cases hempty : e.2 = "" <;> simp [hempty, Table.lookupIn, Option.filter]
    · have hne : compare key e.1 ≠ .eq := fun he => hkey (Std.LawfulEqCmp.eq_of_compare he)
      rw [Offer.orElse_of_none (Offer.only_of_ne _ hkey), shared, shared, Table.lookupIn, if_neg hne]

/-- Values under two names are adopted in either order. -/
theorem adoptValue_comm (m : Message) {a b : String × String} (h : a.1 ≠ b.1) :
    adoptValue (adoptValue m a) b = adoptValue (adoptValue m b) a := by
  have hab := (filled_adoptValue m a).trans (filled_adoptValue (adoptValue m a) b)
  have hba := (filled_adoptValue m b).trans (filled_adoptValue (adoptValue m b) a)
  have hmetadata := hab.metadata_eq (hba.congr fun key => by
    by_cases hkey : key = a.1
    · rw [Offer.orElse_of_none (Offer.only_of_ne _ (hkey ▸ h)),
        Offer.orElse_of_second _ (Offer.only_of_ne _ (hkey ▸ h))]
    · rw [Offer.orElse_of_second _ (Offer.only_of_ne _ hkey), Offer.orElse_of_none (Offer.only_of_ne _ hkey)])
  have ha := adoptValue_payload m a
  have hb := adoptValue_payload m b
  have hab := adoptValue_payload (adoptValue m a) b
  have hba := adoptValue_payload (adoptValue m b) a
  have huuid : (adoptValue (adoptValue m a) b).uuid = (adoptValue (adoptValue m b) a).uuid := by
    rw [hab.2, hba.2, ha.2, hb.2]
  have hpayload : (adoptValue (adoptValue m a) b).payload = (adoptValue (adoptValue m b) a).payload := by
    rw [hab.1, hba.1, ha.1, hb.1]
  exact Message.eq_of_fields huuid hpayload hmetadata

/-- **The order in which the values of a context are adopted does not matter.** -/
theorem foldl_adoptValue_perm (values : Metadata) {order : List (String × String)}
    (h : order.Perm values.entries) (m : Message) :
    order.foldl adoptValue m = values.entries.foldl adoptValue m := by
  refine h.foldl_eq' (fun a ha b hb m => ?_) m
  by_cases hab : a.1 = b.1
  · -- A name has one value.
    have hva := (values.mem_entries_iff a.1 a.2).mp (h.mem_iff.mp ha)
    have hvb := (values.mem_entries_iff b.1 b.2).mp (h.mem_iff.mp hb)
    rw [hab, hvb, Option.some.injEq] at hva
    rw [Prod.ext hab hva.symm]
  · exact adoptValue_comm m hab

/-! ## Stamping -/

/-- Stamping, with the values of the context in this order. -/
def stampInOrder [IdSource] (order : List (String × String)) (ctx : Context) (topic : String) (m : Message)
    (ids : Ids) : Message × Ids :=
  let (m, ids) := identify m ids
  let m := m.setAbsent Header.messageId m.uuid
  let (m, ids) := correlate ctx m ids
  let m := (adoptRequest ctx m).setAbsent Header.routingKey topic
  (order.foldl adoptValue m, ids)

theorem stampInOrder_eq [IdSource] {order : List (String × String)} {ctx : Context}
    (h : order.Perm ctx.values.entries) (topic : String) (m : Message) (ids : Ids) :
    stampInOrder order ctx topic m ids = stamp ctx topic m ids := by
  simp only [stampInOrder, stamp, foldl_adoptValue_perm ctx.values h]

/-- What a message with this uuid is offered when it is stamped; `fresh` is the id for a conversation that
has none yet. -/
def stampOffer (ctx : Context) (topic uuid fresh : String) : Offer := fun key =>
  if key = Header.messageId then some uuid
  else if key = Header.routingKey then some topic
  else if key = Header.correlationId then some ((ctx.value? key).getD fresh)
  else if Header.isMessageScoped key then none
  else ctx.value? key

section Stamp

variable (ctx : Context) (topic : String) (m : Message) (ids : Ids)

/-- What a message is offered before the values of the context. -/
def ownOffer (ctx : Context) (topic uuid fresh : String) : Offer := fun key =>
  if key = Header.routingKey then some topic
  else if key = Header.requestId then ctx.value? Header.requestId
  else if key = Header.correlationId then some ((ctx.value? Header.correlationId).getD fresh)
  else if key = Header.messageId then some uuid
  else none

theorem stampOffer_eq (uuid : String) {fresh : String} (hfresh : fresh ≠ "") (key : String) :
    (ownOffer ctx topic uuid fresh).orElse (shared ctx.values.entries) key =
      stampOffer ctx topic uuid fresh key := by
  by_cases hscoped : Header.isMessageScoped key = true
  · have hcorrelation : key ≠ Header.correlationId := Header.ne_of_scoped hscoped (by decide)
    have hrequest : key ≠ Header.requestId := Header.ne_of_scoped hscoped (by decide)
    rw [Offer.orElse_of_second _ (if_pos hscoped), ownOffer, stampOffer, if_neg hcorrelation,
      if_neg hrequest, if_neg hcorrelation, if_pos hscoped]
    by_cases hroute : key = Header.routingKey
    · subst hroute
      rw [if_pos rfl, if_neg (by decide), if_pos rfl]
    · rw [if_neg hroute, if_neg hroute]
  · have hunscoped : Header.isMessageScoped key = false := Bool.eq_false_iff.mpr hscoped
    have hid : key ≠ Header.messageId := (Header.ne_of_scoped (by decide) hunscoped).symm
    have hroute : key ≠ Header.routingKey := (Header.ne_of_scoped (by decide) hunscoped).symm
    have hshared : shared ctx.values.entries key = ctx.value? key := if_neg hscoped
    rw [stampOffer, if_neg hid, if_neg hroute, if_neg hscoped]
    by_cases hcorrelation : key = Header.correlationId
    · subst hcorrelation
      have hvalue : (ctx.value? Header.correlationId).getD fresh ≠ "" := by
        cases hid : ctx.value? Header.correlationId with
        | none => exact hfresh
        | some id => exact Metadata.value?_ne_empty hid
      rw [if_pos rfl]
      refine Offer.orElse_of_some ?_ hvalue _
      rw [ownOffer, if_neg (by decide), if_neg (by decide), if_pos rfl]
    · rw [if_neg hcorrelation, ← hshared]
      by_cases hrequest : key = Header.requestId
      · refine Offer.orElse_of_eq ?_
        rw [ownOffer, if_neg hroute, if_pos hrequest, hshared, hrequest]
      · refine Offer.orElse_of_none ?_ _
        rw [ownOffer, if_neg hroute, if_neg hrequest, if_neg hcorrelation, if_neg hid]

/-- **What stamping offers.** -/
theorem filled_stamp [IdSource] :
    Filled m (stampOffer ctx topic (stamp ctx topic m ids).1.uuid (IdSource.text (identify m ids).2.used))
      (stamp ctx topic m ids).1 := by
  rw [(stamp_fields ctx topic m ids).2]
  have hidentified := Filled.of_none (get?_identify m ids)
  have hnamed := (hidentified.trans (filled_setAbsent _ Header.messageId (identify m ids).1.uuid)).congr
    (Offer.orElse_only rfl _)
  have hcorrelated := (hnamed.trans (filled_correlate ctx _ (identify m ids).2)).congr
    (Offer.orElse_only (if_neg (by decide)) _)
  have hrequested := (hcorrelated.trans (filled_adoptRequest ctx _)).congr
    (Offer.orElse_only ((if_neg (by decide)).trans (if_neg (by decide))) _)
  have hrouted := (hrequested.trans (filled_setAbsent _ Header.routingKey topic)).congr
    (Offer.orElse_only ((if_neg (by decide)).trans ((if_neg (by decide)).trans (if_neg (by decide)))) _)
  have hadopted := hrouted.trans (filled_foldl_adoptValue _ ctx.values.ascending _)
  exact hadopted.congr (stampOffer_eq ctx topic _ (IdSource.text_ne_empty _))

end Stamp

/-! ## Once more -/

/-- An id that a supply has not made yet. -/
def Ids.Unmade [IdSource] (ids : Ids) (id : String) : Prop := ∃ n, ids.used ≤ n ∧ id = IdSource.text n

theorem stamp_uuid_ne_empty [IdSource] (ctx : Context) (topic : String) (m : Message) (ids : Ids) :
    (stamp ctx topic m ids).1.uuid ≠ "" := by
  by_cases h : m.uuid = ""
  · rw [stamp_uuid_of_empty ctx topic ids h]
    exact IdSource.text_ne_empty _
  · rwa [stamp_uuid ctx topic m ids h]

/-- A message that was stamped belongs to a conversation. -/
theorem stamp_correlated [IdSource] (ctx : Context) (topic : String) (m : Message) (ids : Ids) :
    (stamp ctx topic m ids).1.value? Header.correlationId ≠ none := by
  have hfilled := filled_stamp ctx topic m ids
  by_cases h : m.value? Header.correlationId = none
  · have hne : (ctx.value? Header.correlationId).getD (IdSource.text (identify m ids).2.used) ≠ "" := by
      cases hvalue : ctx.value? Header.correlationId with
      | none => exact IdSource.text_ne_empty _
      | some id => exact Metadata.value?_ne_empty hvalue
    rw [hfilled.value?_of_none h, stampOffer, if_neg (by decide), if_neg (by decide), if_pos rfl]
    simp [Option.filter, hne]
  · rwa [hfilled.value?_of_some h]

/-- A message that has a uuid and belongs to a conversation takes no id out of the supply. -/
theorem stamp_ids [IdSource] (ctx : Context) (topic : String) {m : Message} (ids : Ids) (huuid : m.uuid ≠ "")
    (hcorrelation : m.value? Header.correlationId ≠ none) : (stamp ctx topic m ids).2 = ids := by
  have hidentified : identify m ids = (m, ids) := by rw [identify, if_neg huuid]
  have hnamed : (m.setAbsent Header.messageId m.uuid).value? Header.correlationId ≠ none := by
    rwa [m.value?_setAbsent_of_ne _ (by decide)]
  simp only [stamp, hidentified, correlate_of_some ctx ids hnamed]

/-- **A message that was stamped is not changed by being stamped again**, however many ids were made
meanwhile. -/
theorem stamp_again [IdSource] (ctx : Context) (topic : String) (m : Message) (ids later : Ids) :
    stamp ctx topic (stamp ctx topic m ids).1 later = ((stamp ctx topic m ids).1, later) := by
  have huuid := stamp_uuid_ne_empty ctx topic m ids
  have hcorrelated := stamp_correlated ctx topic m ids
  have hfirst := (filled_stamp ctx topic m ids).again
  have hsecond := filled_stamp ctx topic (stamp ctx topic m ids).1 later
  rw [stamp_uuid ctx topic _ later huuid] at hsecond
  refine Prod.ext (Message.eq_of_fields (stamp_uuid ctx topic _ later huuid)
    (stamp_payload ctx topic _ later) ?_) (stamp_ids ctx topic later huuid hcorrelated)
  refine Table.ext fun key => ?_
  by_cases hkey : (stamp ctx topic m ids).1.value? key = none
  · -- It has a correlation id, and everything else it is offered as before.
    have hother : key ≠ Header.correlationId := by
      rintro rfl
      exact hcorrelated hkey
    refine (hsecond.offered key hkey).trans (Eq.trans ?_ (hfirst.offered key hkey).symm)
    simp only [stampOffer, if_neg hother]
  · rw [hsecond.kept key hkey]

/-- **What a stamped message is.** Its payload is the message's, and so is its uuid, or if it has none the
next id of the supply. Under each name it says what the message says, or what it is offered there; the offer
of a conversation is the context's, or again the next id. The order in which the values of the context come
does not matter. Being stamped again by the same context for the same topic changes nothing, and being stamped
by another one, for another topic, changes neither the uuid nor any value that is not empty. -/
theorem stamped_values [IdSource] (ctx : Context) (topic : String) (m : Message) (ids : Ids)
    {order : List (String × String)} (horder : order.Perm ctx.values.entries) :
    let out := (stampInOrder order ctx topic m ids).1
    stampInOrder order ctx topic m ids = stamp ctx topic m ids ∧
    out.payload = m.payload ∧
    (∃ fresh, ids.Unmade fresh ∧
      (if m.uuid = "" then ids.Unmade out.uuid ∧ out.uuid ≠ fresh else out.uuid = m.uuid) ∧
      ∀ key, out.metadata.get? key =
        if m.value? key = none then (stampOffer ctx topic out.uuid fresh key).or (m.metadata.get? key)
        else m.metadata.get? key) ∧
    (∀ later, stamp ctx topic out later = (out, later)) ∧
    ∀ other topic' later, (stamp other topic' out later).1.uuid = out.uuid ∧
      (stamp other topic' out later).1.payload = out.payload ∧
      ∀ key value, out.value? key = some value →
        (stamp other topic' out later).1.value? key = some value := by
  intro out
  have hstamp := stampInOrder_eq horder topic m ids
  have hout : out = (stamp ctx topic m ids).1 := congrArg Prod.fst hstamp
  have hfilled := filled_stamp ctx topic m ids
  rw [← hout] at hfilled
  refine ⟨hstamp, hout ▸ stamp_payload ctx topic m ids,
    ⟨IdSource.text (identify m ids).2.used, ?_, ?_, ?_⟩, ?_, ?_⟩
  · refine ⟨_, ?_, rfl⟩
    rw [identify]
    split
    · exact Nat.le_succ _
    · exact Nat.le_refl _
  · split
    · rename_i hempty
      have huuid : out.uuid = IdSource.text ids.used := hout ▸ stamp_uuid_of_empty ctx topic ids hempty
      refine ⟨⟨ids.used, Nat.le_refl _, huuid⟩, ?_⟩
      rw [huuid, identify, if_pos hempty]
      exact fun h => absurd (IdSource.text_injective h) (Nat.ne_of_lt (Nat.lt_succ_self _))
    · rename_i hown
      exact hout ▸ stamp_uuid ctx topic m ids hown
  · intro key
    split
    · rename_i hkey
      exact hfilled.offered key hkey
    · rename_i hkey
      exact hfilled.kept key hkey
  · intro later
    rw [hout]
    exact stamp_again ctx topic m ids later
  · intro other topic' later
    have huuid : out.uuid ≠ "" := hout ▸ stamp_uuid_ne_empty ctx topic m ids
    refine ⟨stamp_uuid other topic' out later huuid, stamp_payload other topic' out later, ?_⟩
    intro key value hvalue
    rw [(filled_stamp other topic' out later).value?_of_some (by simp [hvalue]), hvalue]

/-! ## A draft -/

/-- A context with a value that describes one message only, and with an empty one. -/
def tenancy : Context where
  values := Table.ofList [("tenant", "acme"), ("request_id", "r-1"), ("content_type", "text"), ("trace", "")]
  scope := 0

/-- A message with a conversation of its own, and with an empty routing key. -/
def draft : Message where
  payload := [7]
  metadata := Table.ofList [("correlation_id", "c-1"), ("routing_key", ""), ("trace", "")]

/-- Its values come in reverse order. -/
def draftStamped : Message := (stampInOrder tenancy.values.entries.reverse tenancy "orders" draft {}).1

/-- **It keeps its conversation**, gets an id, the topic, and the values of the context that are for others as
well; the empty trace stays. Stamped for another topic it is still about orders. -/
theorem draft_stamped :
    tenancy.values.entries.reverse.Perm tenancy.values.entries ∧
      draftStamped.payload = [7] ∧ draftStamped.uuid = IdSource.text 0 ∧
      draftStamped.metadata.entries = [("correlation_id", "c-1"), ("message_id", IdSource.text 0),
        ("request_id", "r-1"), ("routing_key", "orders"), ("tenant", "acme"), ("trace", "")] ∧
      (∀ later, stamp tenancy "orders" draftStamped later = (draftStamped, later)) ∧
      ∀ later, (stamp { scope := 1 } "bills" draftStamped later).1.value? Header.routingKey =
        some "orders" := by
  have horder := List.reverse_perm tenancy.values.entries
  obtain ⟨_, hpayload, _, hagain, hkept⟩ := stamped_values tenancy "orders" draft {} horder
  refine ⟨horder, hpayload, by decide +kernel, by decide +kernel, hagain, fun later => ?_⟩
  exact (hkept { scope := 1 } "bills" later).2.2 Header.routingKey "orders" (by decide +kernel)

end SymbolRelay
