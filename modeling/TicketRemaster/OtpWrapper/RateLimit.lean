import TicketRemaster.Services.Platform
set_option autoImplicit false

/-! `POST /otp/verify` of otp-wrapper, with the counter and the lock it keeps in Redis for a phone
number. -/

namespace TicketRemaster.OtpWrapper

open Resumption SeatInventory

/-- The limits, in attempts and in seconds. -/
structure RateLimitConfig where
  attempts : Nat
  windowSeconds : Nat
  lockoutSeconds : Nat

inductive RateKey where
  | rate (phoneNumber : String)
  | lock (phoneNumber : String)
  deriving DecidableEq, Repr

/-- The commands sent to Redis; the pipeline of `INCR` and `EXPIRE` is one transaction. -/
inductive RedisCommand where
  | get (key : RateKey)
  | ttl (key : RateKey)
  | setex (key : RateKey) (seconds value : Nat)
  | incrExpire (key : RateKey) (seconds : Nat)
  | delete (keys : List RateKey)
  deriving DecidableEq, Repr

@[reducible] def RedisCommand.Val : RedisCommand → Type
  | .get _ => Option Nat
  | .ttl _ => Int
  | .setex _ _ _ => Unit
  | .incrExpire _ _ => Unit
  | .delete _ => Unit

/-- The flags of a success answer of SMU, each of which may be missing. -/
structure SmuPayload where
  verified : Option Bool
  is_verified : Option Bool
  isVerified : Option Bool
  success : Option Bool
  Success : Option Bool
  deriving DecidableEq, Repr

/-- How a verification by SMU ends: with status 400, with another failure, or with a body. -/
inductive SmuReply where
  | badRequest
  | failed (exc : String)
  | payload (p : SmuPayload)
  deriving DecidableEq, Repr

inductive OtpCall where
  | ping
  | redis (c : RedisCommand)
  | smuVerify (sid : Sid) (otp : Nat)
  deriving DecidableEq, Repr

/-- A command answers `none` where the client raises. -/
@[reducible] def OtpCall.Ans : OtpCall → Type
  | .ping => Bool
  | .redis c => Option c.Val
  | .smuVerify _ _ => SmuReply

@[reducible] def OtpApi : Interface := ⟨OtpCall,OtpCall.Ans⟩

/-- The outside's choices at a call: the clock, whether Redis can be reached, and SMU's answer. -/
structure OtpEnv where
  time : Time
  redisUp : Bool
  smu : SmuReply
  deriving DecidableEq, Repr

/-- The keys in Redis with their deadlines, the time of the last call, and what SMU has said to
the codes it was asked about, the newest first. -/
structure OtpDb where
  clock : Time
  keys : RateKey → Option (Nat × Time)
  outcomes : List (Time × Bool)

namespace OtpDb

def value (db : OtpDb) (now : Time) (key : RateKey) : Option Nat :=
  SeatDb.alive now (db.keys key)

def setKey (db : OtpDb) (key : RateKey) (value : Nat) (deadline : Time) : OtpDb :=
  { db with keys := Function.update db.keys key (some (value,deadline)) }

/-- Redis tells the time to live in seconds, rounded, and -2 without the key. -/
def ttl (db : OtpDb) (now : Time) (key : RateKey) : Int :=
  match db.keys key with
  | some (_,deadline) => if now < deadline then (deadline-now+500000)/1000000 else -2
  | none => -2

def execute (db : OtpDb) (now : Time) : (c : RedisCommand) → Option c.Val × OtpDb
  | .get key => (some (db.value now key),db)
  | .ttl key => (some (db.ttl now key),db)
  | .setex key n value =>
      if n = 0 then (none,db) else (some (),db.setKey key value (now+seconds n))
  | .incrExpire key n =>
      (some (),db.setKey key ((db.value now key).getD 0+1) (now+seconds n))
  | .delete keys =>
      (some (),{ db with keys := fun k => if k ∈ keys then none else db.keys k })

end OtpDb

/-- The first flag that is not missing. -/
def SmuPayload.flag (p : SmuPayload) : Option Bool :=
  p.verified.or (p.is_verified.or (p.isVerified.or (p.success.or p.Success)))

/-- Whether SMU has verified the code, if it has answered the question. -/
def SmuReply.outcome : SmuReply → Option Bool
  | .badRequest => some false
  | .failed _ => none
  | .payload p => some (p.flag = some true)

def OtpDb.record (db : OtpDb) (now : Time) (reply : SmuReply) : OtpDb :=
  match reply.outcome with
  | some verified => { db with outcomes := (now,verified) :: db.outcomes }
  | none => db

def perform (e : OtpEnv) (db : OtpDb) : (q : OtpCall) → q.Ans × OtpDb
  | .ping => (e.redisUp,{ db with clock := e.time })
  | .redis c =>
      if e.redisUp then
        let r := db.execute e.time c
        (r.1,{ r.2 with clock := e.time })
      else (none,{ db with clock := e.time })
  | .smuVerify _ _ => (e.smu,{ db.record e.time e.smu with clock := e.time })

/-- The calls come one after the other; time does not run backwards. -/
def server (ι : Type) : Server OtpApi ι OtpEnv OtpDb where
  ready db _ e _ := db.clock ≤ e.time
  serve _ e db q := perform e db q

section VerifyOtp

/-- What the Redis client raises. -/
inductive RedisError where
  | redisError
  deriving DecidableEq, Repr

abbrev OtpHandler (α : Type) := Prog OtpApi RedisError α

def command (c : RedisCommand) : OtpHandler c.Val :=
  .call (.redis c) fun
    | some v => .ret v
    | none => .raise .redisError

def getRedisClient : OtpHandler Bool := .call .ping .ret

variable (cfg : RateLimitConfig)

/-- Whether the request may go on, the attempts so far, and the seconds of a lock. -/
def checkRateLimit (phoneNumber : String) : OtpHandler (Bool × Nat × Int) := do
  match ← getRedisClient with
  | false => pure (true,0,0)
  | true =>
      let isLocked ← command (.get (.lock phoneNumber))
      if isLocked.isSome then
        let ttl ← command (.ttl (.lock phoneNumber))
        pure (false,cfg.attempts,ttl)
      else
        let attempts ← command (.get (.rate phoneNumber))
        if cfg.attempts ≤ attempts.getD 0 then
          command (.setex (.lock phoneNumber) cfg.lockoutSeconds 1)
          pure (false,attempts.getD 0,cfg.lockoutSeconds)
        else pure (true,attempts.getD 0,0)

def incrementAttempt (phoneNumber : String) : OtpHandler Nat := do
  match ← getRedisClient with
  | false => pure 0
  | true =>
      command (.incrExpire (.rate phoneNumber) cfg.windowSeconds)
      let attempts ← command (.get (.rate phoneNumber))
      pure (attempts.getD 0)

def resetAttempts (phoneNumber : String) : OtpHandler Unit := do
  match ← getRedisClient with
  | false => pure ()
  | true => command (.delete [.rate phoneNumber,.lock phoneNumber])

/-- The body of a request and its `X-Phone-Number` header. -/
structure VerifyRequest where
  sid : Option Sid
  otp : Option Nat
  phoneNumber : Option String
  phoneHeader : Option String
  deriving DecidableEq, Repr

/-- The phone number a request carries. -/
def VerifyRequest.phone (req : VerifyRequest) : String :=
  (req.phoneNumber.or req.phoneHeader).getD "unknown"

def smuVerify (sid : Sid) (otp : Nat) : OtpHandler SmuReply := .call (.smuVerify sid otp) .ret

/-- The refusal of a request that is not let through. -/
def limitExceeded (attempts : Nat) (lockRemaining : Int) : Response Bool :=
  if 0 < lockRemaining then
    .error "OTP_RATE_LIMIT_EXCEEDED"
      ("Account locked. Try again in " ++ toString lockRemaining ++ " seconds.") 429
  else .error "OTP_RATE_LIMIT_EXCEEDED"
    ("Rate limit exceeded. " ++ toString ((cfg.attempts : Int)-attempts) ++
      " attempts remaining.") 429

def verifyOtp (req : VerifyRequest) : OtpHandler (Response Bool) := do
  match req.sid, req.otp with
  | some sid, some otp =>
      let (allowed,attempts,lockRemaining) ← checkRateLimit cfg req.phone
      if !allowed then pure (limitExceeded cfg attempts lockRemaining)
      else
        match ← smuVerify sid otp with
        | .badRequest =>
            let newAttempts ← incrementAttempt cfg req.phone
            if cfg.attempts ≤ newAttempts then
              pure (.error "OTP_RATE_LIMIT_EXCEEDED"
                ("Maximum attempts reached. Account locked for " ++
                  toString cfg.lockoutSeconds ++ " seconds.") 429)
            else pure (.data 200 false)
        | .failed exc => pure (.error "OTP_VERIFY_FAILED" exc 502)
        | .payload p =>
            if p.flag = some true then
              resetAttempts req.phone
              pure (.data 200 true)
            else pure (.data 200 false)
  | _, _ => pure (.error "VALIDATION_ERROR" "Missing required fields: sid, otp" 400)

end VerifyOtp

end TicketRemaster.OtpWrapper
