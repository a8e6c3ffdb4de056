import TicketRemaster.Lib.Doubles
import TicketRemaster.Types
set_option autoImplicit false

/-! The token blacklist in Redis, as far as the middleware of the orchestrators uses it. -/

namespace TicketRemaster.Auth

open Doubles

/-- What `payload.get` returns for one claim of a token. A value that is neither a string nor a
number nor a truth value is given by its truth value and its text. -/
inductive Claim where
  | null
  | bool (b : Bool)
  | int (n : Int)
  | float (x : Double) (text : String)
  | str (s : String)
  | other (truthy : Bool) (text : String)
  deriving DecidableEq, Repr

namespace Claim

def truthy : Claim → Bool
  | .null => false
  | .bool b => b
  | .int n => n ≠ 0
  | .float x _ => x ≠ .finite 0
  | .str s => s ≠ ""
  | .other b _ => b

def text : Claim → String
  | .null => "None"
  | .bool b => if b then "True" else "False"
  | .int n => toString n
  | .float _ s => s
  | .str s => s
  | .other _ s => s

/-- The instant that the value names, in seconds, has come. -/
def passed (exp : Claim) (now : Time) : Prop :=
  match exp with
  | .bool b => seconds (if b then 1 else 0) ≤ now
  | .int n => seconds n ≤ now
  | .float x _ => x.AtMost now 1000000
  | .null | .str _ | .other _ _ => False

end Claim

/-- A Redis server: whether it answers, and when each key expires. -/
structure Redis where
  up : Bool
  expiry : Table String Time

namespace Redis

/-- `SETEX`, which refuses a time that is no 64-bit number of milliseconds. -/
def setex (r : Redis) (now : Time) (key : String) (ttl : Int) : Option Redis :=
  if 0 < ttl ∧ now+seconds ttl < 2^63*1000 then
    some { r with expiry := r.expiry.insert key (now+seconds ttl) }
  else none

def holds (r : Redis) (now : Time) (key : String) : Bool :=
  (r.expiry.lookup key).any (now < ·)

end Redis

structure BlacklistConfig where
  blacklistPrefix : String
  ttlBuffer : Int

def wholeSeconds (now : Time) : Int := now/1000000

variable (cfg : BlacklistConfig)

def blacklistKey (jti : Claim) : String := cfg.blacklistPrefix ++ jti.text

def blacklistTtl (now : Time) (exp : Int) : Int :=
  let ttl := exp-wholeSeconds now+cfg.ttlBuffer
  if ttl ≤ 0 then cfg.ttlBuffer else ttl

/-- The clock is a `float` itself, so its whole seconds are one too. A sum that is a `float` stands
only until it is replaced by the buffer; Redis does not take it. -/
def blacklistTtlFloat (now : Time) (exp : Double) : Option Int :=
  match Double.ofInt cfg.ttlBuffer with
  | none => none
  | some buffer =>
      let ttl := (exp.sub (.finite (wholeSeconds now*one))).add buffer
      if ttl.nonpos then some cfg.ttlBuffer else none

/-- What `blacklist_token` makes of an expiry; what is no number cannot be added to. -/
def ttlOf (now : Time) : Claim → Option Int
  | .bool b => some (blacklistTtl cfg now (if b then 1 else 0))
  | .int n => some (blacklistTtl cfg now n)
  | .float x _ => blacklistTtlFloat cfg now x
  | .null | .str _ | .other _ _ => none

/-- `blacklist_token`, which is always given the `jti` twice. -/
def blacklistToken (r : Redis) (now : Time) (jti exp : Claim) : Bool × Redis :=
  if r.up then
    match ttlOf cfg now exp with
    | none => (false,r)
    | some ttl =>
        match r.setex now (blacklistKey cfg jti) ttl with
        | some r' => (true,r')
        | none => (false,r)
  else (false,r)

/-- Without Redis no token counts as revoked. -/
def isBlacklisted (r : Redis) (now : Time) (jti : Claim) : Bool :=
  r.up && r.holds now (blacklistKey cfg jti)

end TicketRemaster.Auth
