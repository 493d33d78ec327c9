import CandleFeed.Address
import CandleFeed.Clock
import CandleFeed.DropPolicy
import CandleFeed.Interval

namespace CandleFeed

structure PushSettings where
  heartbeatMillis : Nat
  idleTimeoutMillis : Nat
  queueCapacity : Nat
  dropPolicy : DropPolicy
  maxSubscriptions : Nat
  maxFrameSize : Nat
deriving DecidableEq

def PushSettings.ofHeartbeat (heartbeatMillis : Nat) : PushSettings where
  heartbeatMillis := heartbeatMillis
  idleTimeoutMillis := heartbeatMillis * 2
  queueCapacity := 1024
  dropPolicy := .disconnect
  maxSubscriptions := 100
  maxFrameSize := 65536

structure Retention where
  /-- An open candle stays for so many nominal lengths of its interval. -/
  openTtlMultiplier : Nat
  completedTtl : Nat
deriving DecidableEq

namespace Retention

def openTtlSeconds (r : Retention) (i : Interval) : Nat :=
  i.seconds.toNat * r.openTtlMultiplier % UInt64.size

/-- From every reading of a clock, each time to live leads to an instant. -/
structure Fits (r : Retention) : Prop where
  opens : ∀ i ∈ Interval.all, i.seconds.toNat * r.openTtlMultiplier * Clock.second < Clock.half
  completed : r.completedTtl < Clock.half

instance (r : Retention) : Decidable r.Fits :=
  decidable_of_iff
    ((∀ i ∈ Interval.all, i.seconds.toNat * r.openTtlMultiplier * Clock.second < Clock.half) ∧
      r.completedTtl < Clock.half)
    ⟨fun ⟨opens, completed⟩ => ⟨opens, completed⟩, fun ⟨opens, completed⟩ => ⟨opens, completed⟩⟩

end Retention

structure CachePolicy extends Retention where
  fits : toRetention.Fits
deriving DecidableEq

namespace CachePolicy

def standard : CachePolicy where
  openTtlMultiplier := 2
  completedTtl := 3600 * Clock.second
  fits := by decide

def openLifetime (p : CachePolicy) (i : Interval) : Lifetime where
  nanos := p.openTtlSeconds i * Clock.second
  short :=
    Nat.lt_of_le_of_lt (Nat.mul_le_mul_right _ (Nat.mod_le _ _)) (p.fits.opens i (Interval.mem_all i))

def completedLifetime (p : CachePolicy) : Lifetime where
  nanos := p.completedTtl
  short := p.fits.completed

end CachePolicy

structure Settings where
  bindAddress : SocketAddress
  wsPath : String
  push : PushSettings
  cache : CachePolicy
  dedupWindow : Nat
deriving DecidableEq

def Settings.standard : Settings where
  bindAddress := .v4 [0, 0, 0, 0] 8010
  wsPath := "/ws/market"
  push := .ofHeartbeat 30000
  cache := .standard
  dedupWindow := 10000

inductive SettingsError
  | invalidValue (name value : String)
  | relativePath (path : String)
  | noHeartbeat
  | dropPolicy (cause : UnknownDropPolicy)
deriving DecidableEq

def SettingsError.message : SettingsError → String
  | invalidValue name value => "invalid value for " ++ name ++ ": " ++ value
  | relativePath path => "MARKET_WS_PATH must start with '/': " ++ path
  | noHeartbeat => "MARKET_WS_HEARTBEAT_MS must be positive"
  | dropPolicy cause => "MARKET_WS_DROP_POLICY: " ++ cause.message

namespace Settings

abbrev Source := String → Option String

def readOr (source : Source) (name : String) (standard : α) (parse : List Char → Option α) :
    Except SettingsError α :=
  match source name with
  | none => .ok standard
  | some value =>
      match parse (Text.strip value.toList) with
      | some a => .ok a
      | none => .error (.invalidValue name value)

def readNumber (source : Source) (name : String) (standard : Nat) : Except SettingsError Nat :=
  readOr source name standard (Text.natural? Text.maxUInt64)

def readPath (source : Source) : Except SettingsError String :=
  let path := (source "MARKET_WS_PATH").getD standard.wsPath
  if path.toList.head? = some '/' then .ok path else .error (.relativePath path)

def readHeartbeat (source : Source) : Except SettingsError Nat := do
  let millis ← readNumber source "MARKET_WS_HEARTBEAT_MS" standard.push.heartbeatMillis
  if millis = 0 then .error .noHeartbeat else .ok millis

def readDropPolicy (source : Source) (standard : DropPolicy) : Except SettingsError DropPolicy :=
  match source "MARKET_WS_DROP_POLICY" with
  | none => .ok standard
  | some name => (DropPolicy.parse name).mapError .dropPolicy

def load (source : Source) : Except SettingsError Settings := do
  let bindAddress ←
    readOr source "MARKET_BIND_ADDR" standard.bindAddress SocketAddress.parse?
  let wsPath ← readPath source
  let push := PushSettings.ofHeartbeat (← readHeartbeat source)
  let maxFrameSize ← readNumber source "MARKET_WS_MAX_FRAME_SIZE" push.maxFrameSize
  let queueCapacity ← readNumber source "MARKET_WS_QUEUE_CAPACITY" push.queueCapacity
  let maxSubscriptions ← readNumber source "MARKET_WS_MAX_SUBSCRIPTIONS" push.maxSubscriptions
  let dropPolicy ← readDropPolicy source push.dropPolicy
  let dedupWindow ← readNumber source "MARKET_DEDUP_WINDOW" standard.dedupWindow
  .ok
    { bindAddress, wsPath, dedupWindow
      push := { push with maxFrameSize, queueCapacity, maxSubscriptions, dropPolicy }
      cache := standard.cache }

end Settings

end CandleFeed
