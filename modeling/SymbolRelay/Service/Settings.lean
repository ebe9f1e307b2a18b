import SymbolRelay.Codec
import SymbolRelay.Decimal.Reader
import SymbolRelay.Handling.Router

/-!
# Settings of the worker

What can be set for the symbol worker, from what text each setting is read, and which settings make no
sense together.

## Results

* `all_nodup`, `mem_all` — every setting is listed once.
-/

set_option autoImplicit false

namespace SymbolRelay

open SymbolRelay.Decimal

/-- The settings of the symbol worker. -/
structure Settings where
  logLevel : String := "info"
  jsonLogs : Bool := false
  maxRetries : Nat := 3
  initialBackoffMillis : Nat := 100
  backoffMultiplier : Float32 := 2
  maxBackoffMillis : Nat := 1000
  pollIntervalMillis : Nat := 50
  stopTimeoutSecs : Nat := 15
  poisonTopic : Option String := none
  eventCodec : Codec := .default
  deriving Inhabited

/-- Why settings make no sense. -/
inductive SettingsError where
  | zeroPollInterval
  | multiplier (value : Float32)
  | backoffRange (initialMillis maxMillis : Nat)

/-- The text of the error. -/
def SettingsError.message : SettingsError → String
  | .zeroPollInterval => "poll interval must be greater than zero"
  | .multiplier value => "backoff multiplier must be at least 1.0, got " ++ floatText value
  | .backoffRange initialMillis maxMillis =>
    "max backoff (" ++ toString maxMillis ++ "ms) is below the initial backoff (" ++
      toString initialMillis ++ "ms)"

namespace Settings

/-- Whether a factor is at least one. -/
def isAtLeastOne (x : Float32) : Bool := 1 ≤ x

/-- Whether the settings make sense; the first objection counts. -/
def validate (s : Settings) : Except SettingsError Unit :=
  if s.pollIntervalMillis = 0 then .error .zeroPollInterval
  else if !isAtLeastOne s.backoffMultiplier then .error (.multiplier s.backoffMultiplier)
  else if s.maxBackoffMillis < s.initialBackoffMillis then
    .error (.backoffRange s.initialBackoffMillis s.maxBackoffMillis)
  else .ok ()

/-- The settings of the router. An empty poison topic is none. -/
def routerConfig (s : Settings) : RouterConfig where
  maxRetries := s.maxRetries
  initialBackoff := .ofMillis s.initialBackoffMillis
  backoffMultiplier := s.backoffMultiplier
  maxBackoff := .ofMillis s.maxBackoffMillis
  pollInterval := .ofMillis s.pollIntervalMillis
  poisonTopic := s.poisonTopic.filter (· ≠ "")

/-- How long the worker waits for closing. -/
def stopTimeout (s : Settings) : Duration := .ofSecs s.stopTimeoutSecs

end Settings

/-- What can be set. -/
inductive Setting where
  | logLevel
  | jsonLogs
  | maxRetries
  | initialBackoff
  | backoffMultiplier
  | maxBackoff
  | pollInterval
  | stopTimeout
  | poisonTopic
  | eventCodec
  deriving DecidableEq, Repr

namespace Setting

/-- All settings, in the order in which their variables are looked at. -/
def all : List Setting :=
  [.logLevel, .jsonLogs, .maxRetries, .initialBackoff, .backoffMultiplier, .maxBackoff,
    .pollInterval, .stopTimeout, .poisonTopic, .eventCodec]

/-- The name of the setting's flag on the command line. -/
def flag : Setting → String
  | .logLevel => "log-level"
  | .jsonLogs => "json-logs"
  | .maxRetries => "max-retries"
  | .initialBackoff => "initial-backoff-ms"
  | .backoffMultiplier => "backoff-multiplier"
  | .maxBackoff => "max-backoff-ms"
  | .pollInterval => "poll-interval-ms"
  | .stopTimeout => "stop-timeout-secs"
  | .poisonTopic => "poison-topic"
  | .eventCodec => "event-codec"

/-- The name of the setting's environment variable. -/
def variable_ : Setting → String
  | .logLevel => "TXPUBLISH_LOG_LEVEL"
  | .jsonLogs => "TXPUBLISH_JSON_LOGS"
  | .maxRetries => "TXPUBLISH_MAX_RETRIES"
  | .initialBackoff => "TXPUBLISH_INITIAL_BACKOFF_MS"
  | .backoffMultiplier => "TXPUBLISH_BACKOFF_MULTIPLIER"
  | .maxBackoff => "TXPUBLISH_MAX_BACKOFF_MS"
  | .pollInterval => "TXPUBLISH_POLL_INTERVAL_MS"
  | .stopTimeout => "TXPUBLISH_STOP_TIMEOUT_SECS"
  | .poisonTopic => "TXPUBLISH_POISON_TOPIC"
  | .eventCodec => "TXPUBLISH_EVENT_CODEC"

/-- Whether the setting is switched on by its flag alone. -/
def isSwitch : Setting → Bool
  | .jsonLogs => true
  | _ => false

/-- The setting with a flag. -/
def ofFlag? (name : String) : Option Setting := all.find? (·.flag == name)

/-- Reads a whole number of 64 bits. -/
def readWord? (text : String) : Option Nat := readUnsigned? (2 ^ 64 - 1) text

/-- Reads a switch. -/
def readSwitch? (text : String) : Option Bool :=
  if text = "true" then some true else if text = "false" then some false else none

/-- Sets a setting to what a text says, if it says anything. -/
def assign? (setting : Setting) (text : String) (s : Settings) : Option Settings :=
  match setting with
  | .logLevel => some { s with logLevel := text }
  | .jsonLogs => (readSwitch? text).map fun on => { s with jsonLogs := on }
  | .maxRetries => (readWord? text).map fun n => { s with maxRetries := n }
  | .initialBackoff => (readWord? text).map fun n => { s with initialBackoffMillis := n }
  | .backoffMultiplier => (readFloat? text).map fun x => { s with backoffMultiplier := x }
  | .maxBackoff => (readWord? text).map fun n => { s with maxBackoffMillis := n }
  | .pollInterval => (readWord? text).map fun n => { s with pollIntervalMillis := n }
  | .stopTimeout => (readWord? text).map fun n => { s with stopTimeoutSecs := n }
  | .poisonTopic => some { s with poisonTopic := some text }
  | .eventCodec =>
    match Codec.ofName text with
    | .ok codec => some { s with eventCodec := codec }
    | .error _ => none

theorem all_nodup : all.Nodup := by decide

theorem mem_all (setting : Setting) : setting ∈ all := by cases setting <;> decide

end Setting

end SymbolRelay
