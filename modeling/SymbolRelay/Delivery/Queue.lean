import SymbolRelay.Message

/-!
# The message queue

A queue keeps a log of everything published and hands every message to the feeds of its topic. A feed
starts with what the log holds of its topic, and stays live until it is unsubscribed, its receiver is
found gone, or the queue closes; what waits in it can still be received after that.

## Results

* `publish_error_log` — a refused publish changes neither the log nor any feed;
* `publishedOn_publish` — an accepted one is added to its topic.
-/

set_option autoImplicit false

namespace SymbolRelay

/-- Why a broker refuses something. -/
inductive BrokerError where
  | closed
  | connectionFailed (reason : String)
  | rejected (reason : String)
  | poisoned (operation : String)
  deriving DecidableEq, Repr

/-- The text of the error. -/
def BrokerError.message : BrokerError → String
  | .closed => "broker closed"
  | .connectionFailed reason => "connection failed: " ++ reason
  | .rejected reason => "message rejected: " ++ reason
  | .poisoned operation => "broker state poisoned during " ++ operation

/-- What one subscriber gets of a topic. `live` says that the queue still delivers to it, `held` that
its receiver is still there. -/
structure Feed where
  id : Nat
  topic : String
  waiting : List Message
  live : Bool := true
  held : Bool := true
  deriving DecidableEq

/-- Hands a message to a feed of its topic; one without a receiver stops being live. -/
def Feed.deliver (f : Feed) (topic : String) (m : Message) : Feed :=
  if f.topic = topic ∧ f.live then
    if f.held then { f with waiting := f.waiting ++ [m] } else { f with live := false }
  else f

/-- Everything published so far, oldest first, the feeds, and what was settled. `rejecting` publishes
are refused before the next is accepted. -/
structure Queue where
  log : List (String × Message) := []
  feeds : List Feed := []
  nextFeed : Nat := 0
  acked : List String := []
  nacked : List (String × String) := []
  rejecting : Nat := 0
  closed : Bool := false
  deriving DecidableEq

namespace Queue

/-- The messages published on a topic. -/
def publishedOn (q : Queue) (topic : String) : List Message :=
  (q.log.filter (·.1 = topic)).map (·.2)

/-- How many feeds of a topic are live. -/
def subscriberCount (q : Queue) (topic : String) : Nat :=
  (q.feeds.filter fun f => f.topic = topic ∧ f.live).length

/-- Publishes a message on a topic. -/
def publish (q : Queue) (topic : String) (m : Message) : Except BrokerError Unit × Queue :=
  if q.closed then (.error .closed, q)
  else if 0 < q.rejecting then
    (.error (.rejected ("injected failure for " ++ topic)), { q with rejecting := q.rejecting - 1 })
  else
    (.ok (), { q with
      feeds := q.feeds.map fun f => f.deliver topic m
      log := q.log ++ [(topic, m)] })

/-- Opens a feed of a topic, which starts with what the log holds of it. -/
def subscribe (q : Queue) (topic : String) : Except BrokerError Nat × Queue :=
  if q.closed then (.error .closed, q)
  else
    (.ok q.nextFeed, { q with
      feeds := q.feeds ++ [⟨q.nextFeed, topic, q.publishedOn topic, true, true⟩]
      nextFeed := q.nextFeed + 1 })

/-- Changes the feed with an id. -/
def updateFeed (q : Queue) (id : Nat) (f : Feed → Feed) : Queue :=
  { q with feeds := q.feeds.map fun feed => if feed.id = id then f feed else feed }

/-- Stops delivering to a feed of a topic. -/
def unsubscribe (q : Queue) (topic : String) (id : Nat) : Queue :=
  q.updateFeed id fun f => if f.topic = topic then { f with live := false } else f

/-- The receiver of a feed is gone, and what waited in it with it. -/
def dropReceiver (q : Queue) (id : Nat) : Queue :=
  q.updateFeed id fun f => { f with held := false, waiting := [] }

/-- Takes the next message of a feed: `none` if nothing waits, an error if nothing ever will. -/
def receive (q : Queue) (id : Nat) : Except Unit (Option Message) × Queue :=
  match q.feeds.find? (·.id = id) with
  | none => (.error (), q)
  | some f =>
    match f.waiting with
    | m :: rest => (.ok (some m), q.updateFeed id fun f => { f with waiting := rest })
    | [] => (if f.live then .ok none else .error (), q)

/-- Records that a message was handled. -/
def ack (q : Queue) (id : String) : Queue := { q with acked := q.acked ++ [id] }

/-- Records that a message was not handled, and why. -/
def nack (q : Queue) (id reason : String) : Queue := { q with nacked := q.nacked ++ [(id, reason)] }

/-- Closes the queue: no feed is live any more. -/
def close (q : Queue) : Queue :=
  if q.closed then q
  else { q with closed := true, feeds := q.feeds.map fun f => { f with live := false } }

/-- Forgets what was published and settled. Feeds keep what waits in them. -/
def clear (q : Queue) : Queue := { q with log := [], acked := [], nacked := [] }

theorem publish_error_log {q : Queue} {topic : String} {m : Message} {e : BrokerError}
    (h : (q.publish topic m).1 = .error e) :
    (q.publish topic m).2.log = q.log ∧ (q.publish topic m).2.feeds = q.feeds := by
  unfold publish at h ⊢
  split
  · exact ⟨rfl, rfl⟩
  · split
    · exact ⟨rfl, rfl⟩
    · rename_i h₁ h₂
      simp [h₁, h₂] at h

theorem publishedOn_publish {q : Queue} {topic : String} {m : Message}
    (h : (q.publish topic m).1 = .ok ()) (t : String) :
    (q.publish topic m).2.publishedOn t =
      q.publishedOn t ++ if t = topic then [m] else [] := by
  unfold publish at h ⊢
  split
  · rename_i h₁
    simp [h₁] at h
  · split
    · rename_i h₁ h₂
      simp [h₁, h₂] at h
    · by_cases ht : topic = t
      · simp [publishedOn, ht]
      · simp [publishedOn, ht, Ne.symm ht]

end Queue

end SymbolRelay
