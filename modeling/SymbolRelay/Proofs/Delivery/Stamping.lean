import SymbolRelay.Delivery.Publisher

/-!
# What a stamped message says

A publisher fills in what is absent. What describes one message only never comes from the context, so
the topic of a message and the encoding of its payload are its own. Anything else that the message or its
context has a value for, the stamped message has a value for as well, and the message's own counts first.

## Results

* `get?_stamp_of_scoped`, `get?_stamp_messageId`, `get?_stamp_routingKey` — what describes one message only
  is its own, or made for it;
* `value?_stamp_of_some` — any other value of the message or its context is there;
* `stamp_uuid_of_empty`, `used_lt_stamp` — a message without a uuid gets a fresh one.
-/

set_option autoImplicit false

namespace SymbolRelay

/-! ## Setting values -/

theorem Metadata.value?_ne_empty {metadata : Metadata} {key value : String}
    (h : metadata.value? key = some value) : value ≠ "" := by
  have hfilter := Option.filter_eq_some_iff.mp h
  simpa using hfilter.2

namespace Message

theorem value?_congr {m m' : Message} {key : String} (h : m.metadata.get? key = m'.metadata.get? key) :
    m.value? key = m'.value? key := by
  simp only [value?, Metadata.value?, h]

theorem get?_setValue_of_ne (m : Message) {key other : String} (value : String) (h : other ≠ key) :
    (m.setValue key value).metadata.get? other = m.metadata.get? other :=
  Table.get?_insert_of_ne m.metadata value h

theorem value?_setValue_of_ne (m : Message) {key other : String} (value : String) (h : other ≠ key) :
    (m.setValue key value).value? other = m.value? other :=
  value?_congr (m.get?_setValue_of_ne value h)

theorem get?_setAbsent_of_ne (m : Message) {key other : String} (value : String) (h : other ≠ key) :
    (m.setAbsent key value).metadata.get? other = m.metadata.get? other := by
  unfold setAbsent
  split
  · rfl
  · exact m.get?_setValue_of_ne value h

theorem value?_setAbsent_of_ne (m : Message) {key other : String} (value : String) (h : other ≠ key) :
    (m.setAbsent key value).value? other = m.value? other :=
  value?_congr (m.get?_setAbsent_of_ne value h)

theorem get?_setAbsent_self (m : Message) (key value : String) :
    (m.setAbsent key value).metadata.get? key =
      if m.value? key = none then some value else m.metadata.get? key := by
  unfold setAbsent
  cases m.value? key with
  | none => simp [setValue]
  | some v => simp

theorem value?_setAbsent_self (m : Message) (key : String) {value : String} (h : value ≠ "") :
    (m.setAbsent key value).value? key = (m.value? key).or (some value) := by
  unfold setAbsent
  cases hv : m.value? key with
  | none => simp [value?_setValue_self, h]
  | some v => simp [hv]

/-- A value that a message lacks, or has: it is there as before, or it is the one that was to be there. -/
theorem value?_setAbsent_or (m : Message) {source : Option String} {key other value : String}
    (h : value ≠ "") (hsource : other = key → source = some value) :
    ((m.setAbsent key value).value? other).or source = (m.value? other).or source := by
  by_cases hkey : other = key
  · subst hkey
    rw [value?_setAbsent_self m other h, hsource rfl]
    cases m.value? other <;> rfl
  · rw [value?_setAbsent_of_ne m value hkey]

end Message

/-! ## What describes one message only -/

theorem get?_adoptValue_of_scoped (m : Message) (entry : String × String) {key : String}
    (own : Header.isMessageScoped key = true) :
    (adoptValue m entry).metadata.get? key = m.metadata.get? key := by
  unfold adoptValue
  split
  · rfl
  · rename_i h
    refine m.get?_setAbsent_of_ne entry.2 fun he => h (.inr ?_)
    rw [← he]
    exact own

theorem get?_foldl_adoptValue_of_scoped (es : List (String × String)) (m : Message) {key : String}
    (own : Header.isMessageScoped key = true) :
    (es.foldl adoptValue m).metadata.get? key = m.metadata.get? key := by
  induction es generalizing m with
  | nil => rfl
  | cons e es ih => rw [List.foldl_cons, ih, get?_adoptValue_of_scoped m e own]

theorem get?_identify [IdSource] (m : Message) (ids : Ids) (key : String) :
    (identify m ids).1.metadata.get? key = m.metadata.get? key := by
  unfold identify
  split <;> rfl

theorem get?_correlate [IdSource] (ctx : Context) (m : Message) (ids : Ids) {key : String}
    (h : key ≠ Header.correlationId) :
    (correlate ctx m ids).1.metadata.get? key = m.metadata.get? key := by
  unfold correlate
  split
  · rfl
  · split <;> exact m.get?_setValue_of_ne _ h

theorem get?_adoptRequest (ctx : Context) (m : Message) {key : String} (h : key ≠ Header.requestId) :
    (adoptRequest ctx m).metadata.get? key = m.metadata.get? key := by
  unfold adoptRequest
  split
  · exact m.get?_setAbsent_of_ne _ h
  · rfl

section Scoped

variable (ctx : Context) (topic : String) (m : Message) (ids : Ids)

/-- Neither the content type nor a mark of the poison topic is ever filled in. -/
theorem get?_stamp_of_scoped [IdSource] {key : String} (own : Header.isMessageScoped key = true)
    (hid : key ≠ Header.messageId) (hroute : key ≠ Header.routingKey) :
    (stamp ctx topic m ids).1.metadata.get? key = m.metadata.get? key := by
  have hcorrelation : key ≠ Header.correlationId := by
    rintro rfl
    revert own
    decide
  have hrequest : key ≠ Header.requestId := by
    rintro rfl
    revert own
    decide
  simp only [stamp]
  rw [get?_foldl_adoptValue_of_scoped _ _ own, Message.get?_setAbsent_of_ne _ _ hroute,
    get?_adoptRequest _ _ hrequest, get?_correlate _ _ _ hcorrelation,
    Message.get?_setAbsent_of_ne _ _ hid, get?_identify]

theorem value?_stamp_of_scoped [IdSource] {key : String} (own : Header.isMessageScoped key = true)
    (hid : key ≠ Header.messageId) (hroute : key ≠ Header.routingKey) :
    (stamp ctx topic m ids).1.value? key = m.value? key :=
  Message.value?_congr (get?_stamp_of_scoped ctx topic m ids own hid hroute)

/-- A message that does not tell its own id is given its uuid. -/
theorem get?_stamp_messageId [IdSource] :
    (stamp ctx topic m ids).1.metadata.get? Header.messageId =
      if m.value? Header.messageId = none then some (stamp ctx topic m ids).1.uuid
      else m.metadata.get? Header.messageId := by
  rw [(stamp_fields ctx topic m ids).2]
  simp only [stamp]
  rw [get?_foldl_adoptValue_of_scoped _ _ (by decide), Message.get?_setAbsent_of_ne _ _ (by decide),
    get?_adoptRequest _ _ (by decide), get?_correlate _ _ _ (by decide), Message.get?_setAbsent_self,
    get?_identify, Message.value?_congr (get?_identify m ids _)]

/-- A message that tells no topic is given the one that it is published on. -/
theorem get?_stamp_routingKey [IdSource] :
    (stamp ctx topic m ids).1.metadata.get? Header.routingKey =
      if m.value? Header.routingKey = none then some topic
      else m.metadata.get? Header.routingKey := by
  have hbefore : ∀ m' : Message, (adoptRequest ctx (correlate ctx
      ((identify m ids).1.setAbsent Header.messageId m'.uuid) (identify m ids).2).1).metadata.get?
        Header.routingKey = m.metadata.get? Header.routingKey := by
    intro m'
    rw [get?_adoptRequest _ _ (by decide), get?_correlate _ _ _ (by decide),
      Message.get?_setAbsent_of_ne _ _ (by decide), get?_identify]
  simp only [stamp]
  rw [get?_foldl_adoptValue_of_scoped _ _ (by decide), Message.get?_setAbsent_self, hbefore,
    Message.value?_congr (hbefore _)]

theorem value?_stamp_routingKey [IdSource] {topic : String} (h : topic ≠ "") :
    (stamp ctx topic m ids).1.value? Header.routingKey =
      some ((m.value? Header.routingKey).getD topic) := by
  have hraw := get?_stamp_routingKey ctx topic m ids
  cases hv : m.value? Header.routingKey with
  | none =>
    rw [if_pos hv] at hraw
    simp [Message.value?, Metadata.value?, hraw, Option.filter, h]
  | some v =>
    rw [if_neg (by simp [hv])] at hraw
    rw [Message.value?_congr hraw, hv]
    rfl

end Scoped

/-! ## What is handed on -/

/-- A value of a context is adopted. -/
theorem value?_foldl_adoptValue (es : List (String × String))
    (ascending : es.Pairwise fun a b => compare a.1 b.1 = .lt) (m : Message) {key : String}
    (shared : Header.isMessageScoped key = false) :
    (es.foldl adoptValue m).value? key =
      (m.value? key).or ((Table.lookupIn key es).filter (· ≠ "")) := by
  induction es generalizing m with
  | nil => simp [Table.lookupIn]
  | cons e es ih =>
    obtain ⟨hfirst, hrest⟩ := List.pairwise_cons.mp ascending
    rw [List.foldl_cons, ih hrest]
    by_cases hkey : key = e.1
    · subst hkey
      rw [Table.lookupIn_eq_none_of_lt hfirst]
      by_cases hempty : e.2 = ""
      · simp [adoptValue, hempty, Table.lookupIn, Option.filter]
      · have hadopt : adoptValue m e = m.setAbsent e.1 e.2 := by simp [adoptValue, hempty, shared]
        rw [hadopt, Message.value?_setAbsent_self m e.1 hempty]
        simp [Table.lookupIn, hempty, Option.filter]
    · have hother : (adoptValue m e).value? key = m.value? key := by
        unfold adoptValue
        split
        · rfl
        · exact m.value?_setAbsent_of_ne e.2 hkey
      have hlookup : Table.lookupIn key (e :: es) = Table.lookupIn key es := by
        have hne : compare key e.1 ≠ .eq := fun he => hkey (Std.LawfulEqCmp.eq_of_compare he)
        simp [Table.lookupIn, hne]
      rw [hother, hlookup]

theorem value?_adoptRequest_or (ctx : Context) (m : Message) (key : String) :
    ((adoptRequest ctx m).value? key).or (ctx.value? key) = (m.value? key).or (ctx.value? key) := by
  unfold adoptRequest
  split
  · rename_i id hid
    refine m.value?_setAbsent_or (Metadata.value?_ne_empty hid) ?_
    rintro rfl
    exact hid
  · rfl

theorem value?_correlate_or [IdSource] (ctx : Context) (m : Message) (ids : Ids) {key value : String}
    (h : (m.value? key).or (ctx.value? key) = some value) :
    ((correlate ctx m ids).1.value? key).or (ctx.value? key) = some value := by
  unfold correlate
  split
  · exact h
  · rename_i habsent
    rw [Bool.not_eq_true, Option.isSome_eq_false_iff, Option.isNone_iff_eq_none] at habsent
    by_cases hkey : key = Header.correlationId
    · subst hkey
      rw [habsent, Option.none_or] at h
      simp only [h]
      rw [Message.value?_setValue_self, if_neg (Metadata.value?_ne_empty h)]
      rfl
    · split
      · rw [Message.value?_setValue_of_ne _ _ hkey]
        exact h
      · rw [Message.value?_setValue_of_ne _ _ hkey]
        exact h

/-- **A value that a message or its context has is there when it was stamped**, and the message's own
counts first. -/
theorem value?_stamp_of_some [IdSource] (ctx : Context) (topic : String) (m : Message) (ids : Ids)
    {key value : String} (shared : Header.isMessageScoped key = false)
    (h : (m.value? key).or (ctx.value? key) = some value) :
    (stamp ctx topic m ids).1.value? key = some value := by
  have hid : key ≠ Header.messageId := by
    rintro rfl
    revert shared
    decide
  have hroute : key ≠ Header.routingKey := by
    rintro rfl
    revert shared
    decide
  have hidentified : ((identify m ids).1.setAbsent Header.messageId (identify m ids).1.uuid).value? key =
      m.value? key := by
    rw [Message.value?_setAbsent_of_ne _ _ hid, Message.value?_congr (get?_identify m ids key)]
  rw [← hidentified] at h
  have hcorrelated := value?_correlate_or ctx _ (identify m ids).2 h
  rw [← value?_adoptRequest_or] at hcorrelated
  simp only [stamp]
  rw [value?_foldl_adoptValue _ ctx.values.ascending _ shared, Message.value?_setAbsent_of_ne _ _ hroute]
  exact hcorrelated

/-! ## Fresh ids -/

theorem stamp_uuid_of_empty [IdSource] (ctx : Context) (topic : String) {m : Message} (ids : Ids)
    (h : m.uuid = "") : (stamp ctx topic m ids).1.uuid = IdSource.text ids.used := by
  rw [(stamp_fields ctx topic m ids).2, identify, if_pos h]
  rfl

theorem used_le_correlate [IdSource] (ctx : Context) (m : Message) (ids : Ids) :
    ids.used ≤ (correlate ctx m ids).2.used := by
  unfold correlate
  split
  · exact Nat.le_refl _
  · split
    · exact Nat.le_refl _
    · exact Nat.le_succ _

theorem used_le_stamp [IdSource] (ctx : Context) (topic : String) (m : Message) (ids : Ids) :
    ids.used ≤ (stamp ctx topic m ids).2.used := by
  have hid : ids.used ≤ (identify m ids).2.used := by
    unfold identify
    split
    · exact Nat.le_succ _
    · exact Nat.le_refl _
  exact Nat.le_trans hid (used_le_correlate ctx _ _)

/-- The uuid of a message that had none is not made again. -/
theorem used_lt_stamp [IdSource] (ctx : Context) (topic : String) {m : Message} (ids : Ids)
    (h : m.uuid = "") :
    ids.used < (stamp ctx topic m ids).2.used := by
  have hid : (identify m ids).2.used = ids.used + 1 := by
    rw [identify, if_pos h]
    rfl
  have hle := used_le_correlate ctx
    ((identify m ids).1.setAbsent Header.messageId (identify m ids).1.uuid) (identify m ids).2
  rw [hid] at hle
  exact hle

end SymbolRelay
