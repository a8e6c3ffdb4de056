import TicketRemaster.SeatInventory.Store
set_option autoImplicit false

/-! The four procedures of `SeatInventoryGrpcService`, statement by statement. -/

namespace TicketRemaster.SeatInventory

open Resumption

inductive SeatExn where
  | db (e : DbError)
  | objectDeleted
  | runtimeError
  deriving DecidableEq, Repr

abbrev SeatProg (α : Type) := Prog SeatStore SeatExn α

/-- The settings read from the environment when the module is loaded, and whether the
service is called from inside another Flask application context. -/
structure SeatConfig where
  maxDeadlockRetries : Nat
  cacheRetryAttempts : Nat
  enclosingContext : Bool

def raiseDb {α : Type} : Except DbError α → SeatProg α
  | .ok a => .ret a
  | .error e => .raise (.db e)

def datetimeNow : SeatProg Time := .call .now .ret
def uuid4 : SeatProg HoldToken := .call .uuid4 .ret
def selectForUpdate : SeatProg (Option SeatInventory) := .call .selectForUpdate raiseDb
def sessionGet : SeatProg (Option SeatInventory) := .call .select raiseDb
def flush (c : RowChanges) : SeatProg Unit := .call (.update c) raiseDb
def commit : SeatProg Unit := .call .commit raiseDb
def rollback : SeatProg Unit := .call .rollback .ret

def updateAvailable (userId : UserId) (holdToken : HoldToken) (heldUntil : Time) : SeatProg Nat :=
  .call (.updateAvailable userId holdToken heldUntil) raiseDb

/-- A rollback expires the loaded object; its next attribute access selects the row again. -/
def refresh : SeatProg SeatInventory := do
  match ← sessionGet with
  | some r => pure r
  | none => .raise .objectDeleted

/-- Leaving the application context removes the session, which rolls back. -/
def withAppContext {α : Type} (body : SeatProg α) : SeatProg α := body.ensuring rollback

/-- `db.session.rollback()` in an `except` clause, after the context was left. -/
def rollbackOutside (cfg : SeatConfig) : SeatProg Unit :=
  if cfg.enclosingContext then .ret () else .raise .runtimeError

def getRedisClient : SeatProg Bool := .call .redisPing .ret

def writeHoldCache (userId : UserId) (holdToken : HoldToken) (heldUntil : Time)
    (ttlSeconds : Int) : SeatProg Unit := do
  if ← getRedisClient then
    let _ ← (.call (.cacheSetex ⟨.held,some userId,some holdToken,.at heldUntil⟩
      (seconds ttlSeconds)) .ret : SeatProg Bool)
    pure ()
  else pure ()

def deleteHoldCacheAttempts : Nat → SeatProg Unit
  | 0 => pure ()
  | n+1 => do
      let deleted ← (.call .cacheDelete .ret : SeatProg Bool)
      if deleted then pure ()
      else if n = 0 then .call .publishInvalidationFailure .ret
      else deleteHoldCacheAttempts n

def deleteHoldCache (cfg : SeatConfig) : SeatProg Unit := do
  if ← getRedisClient then deleteHoldCacheAttempts cfg.cacheRetryAttempts else pure ()

def checkIdempotency (holdToken : HoldToken) : SeatProg (Option Bool) := do
  if ← getRedisClient then .call (.idempotentGet holdToken) .ret else pure none

def cacheIdempotencyResult (holdToken : HoldToken) (success : Bool) : SeatProg Unit := do
  if ← getRedisClient then .call (.idempotentSetex holdToken success (seconds 3600)) .ret
  else pure ()

def holdHasExpired (inventory : SeatInventory) (now : Time) : Bool :=
  match inventory.status, inventory.heldUntil with
  | .held, some heldUntil => decide (heldUntil ≤ now)
  | _, _ => false

def clearHold (inventory : SeatInventory) : SeatInventory :=
  { inventory with
    status := .available
    heldByUserId := none
    holdToken := none
    heldUntil := none }

structure HoldSeatRequest where
  userId : UserId
  holdDurationSeconds : Int
  deriving DecidableEq, Repr

structure HoldSeatResponse where
  success : Bool
  status : SeatStatus
  heldUntil : Option Time
  errorCode : String
  holdToken : HoldToken
  deriving DecidableEq, Repr

def HoldSeatResponse.failed (status : SeatStatus) (heldUntil : Option Time)
    (errorCode : String) : HoldSeatResponse := ⟨false,status,heldUntil,errorCode,.empty⟩

structure SpendHoldRequest where
  userId : UserId
  holdToken : HoldToken
  deriving DecidableEq, Repr

def holdSeconds (req : HoldSeatRequest) : Int :=
  if req.holdDurationSeconds > 0 then req.holdDurationSeconds else 300

/-- An expired hold is cleared and flushed inside the caller's own transaction. -/
def reclaim (cfg : SeatConfig) (lockedRow : SeatInventory) (now : Time) :
    SeatProg SeatInventory := do
  if holdHasExpired lockedRow now then
    flush (changedColumns lockedRow (clearHold lockedRow))
    deleteHoldCache cfg
    pure (clearHold lockedRow)
  else pure lockedRow

def holdAttempt (cfg : SeatConfig) (req : HoldSeatRequest) : SeatProg HoldSeatResponse :=
  withAppContext do
    let now ← datetimeNow
    let heldUntil := now+seconds (holdSeconds req)
    let holdToken ← uuid4
    match ← selectForUpdate with
    | none =>
        rollback
        pure (.failed (.other "not_found") none "INVENTORY_NOT_FOUND")
    | some lockedRow =>
        let lockedRow ← reclaim cfg lockedRow now
        if lockedRow.status ≠ .available then
          rollback
          let lockedRow ← refresh
          pure (.failed lockedRow.status lockedRow.heldUntil "SEAT_NOT_AVAILABLE")
        else
          let updatedRows ← updateAvailable req.userId holdToken heldUntil
          if updatedRows ≠ 1 then
            rollback
            match ← sessionGet with
            | some latest => pure (.failed latest.status latest.heldUntil "SEAT_NOT_AVAILABLE")
            | none => pure (.failed (.other "not_found") none "SEAT_NOT_AVAILABLE")
          else
            commit
            writeHoldCache req.userId holdToken heldUntil (holdSeconds req)
            pure ⟨true,.held,some heldUntil,"",holdToken⟩

/-- The retry loop with `n` attempts left. Falling out of it returns no response, which
the gRPC runtime reports as an error. -/
def holdSeatAttempts (cfg : SeatConfig) (req : HoldSeatRequest) : Nat → SeatProg HoldSeatResponse
  | 0 => .raise .runtimeError
  | n+1 => (holdAttempt cfg req).handle fun exc =>
      match exc with
      | .db .deadlock =>
          if n = 0 then do
            rollbackOutside cfg
            pure (.failed (.other "error") none "DEADLOCK_FAILED")
          else do
            rollbackOutside cfg
            holdSeatAttempts cfg req n
      | .db .operational => do
          rollbackOutside cfg
          pure (.failed (.other "error") none "DATABASE_ERROR")
      | _ => do
          rollbackOutside cfg
          pure (.failed (.other "error") none "INTERNAL_ERROR")

def holdSeat (cfg : SeatConfig) (req : HoldSeatRequest) : SeatProg HoldSeatResponse :=
  holdSeatAttempts cfg req cfg.maxDeadlockRetries

/-- The test `ReleaseSeat` and `SellSeat` make before they touch the row. -/
def holdMatches (inventory : SeatInventory) (req : SpendHoldRequest) : Bool :=
  inventory.status = .held && inventory.heldByUserId = some req.userId &&
    inventory.holdToken = some req.holdToken

def releaseSeat (cfg : SeatConfig) (req : SpendHoldRequest) : SeatProg Bool :=
  withAppContext do
    match ← checkIdempotency req.holdToken with
    | some success => pure success
    | none =>
        let inventory ← selectForUpdate
        match inventory.filter (holdMatches · req) with
        | none =>
            rollback
            cacheIdempotencyResult req.holdToken false
            pure false
        | some inventory =>
            flush (changedColumns inventory (clearHold inventory))
            commit
            deleteHoldCache cfg
            cacheIdempotencyResult req.holdToken true
            pure true

def markSold (inventory : SeatInventory) : SeatInventory :=
  { clearHold inventory with status := .sold }

def sellSeat (cfg : SeatConfig) (req : SpendHoldRequest) : SeatProg Bool :=
  withAppContext do
    match ← selectForUpdate with
    | none =>
        rollback
        pure false
    | some inventory =>
        if holdMatches inventory req then
          flush (changedColumns inventory (markSold inventory))
          commit
          deleteHoldCache cfg
          pure true
        else
          rollback
          pure false

structure GetSeatStatusResponse where
  status : SeatStatus
  heldUntil : Option Time
  deriving DecidableEq, Repr

def getSeatStatus (cfg : SeatConfig) : SeatProg GetSeatStatusResponse :=
  withAppContext do
    match ← sessionGet with
    | none => pure ⟨.other "not_found",none⟩
    | some inventory =>
        let now ← datetimeNow
        if holdHasExpired inventory now then
          flush (changedColumns inventory (clearHold inventory))
          commit
          deleteHoldCache cfg
          let _ ← refresh
          pure ⟨.available,none⟩
        else pure ⟨inventory.status,inventory.heldUntil⟩

/-- A call on the row, by procedure. -/
inductive SeatCall where
  | holdSeat (req : HoldSeatRequest)
  | releaseSeat (req : SpendHoldRequest)
  | sellSeat (req : SpendHoldRequest)
  | getSeatStatus
  deriving DecidableEq, Repr

inductive SeatReply where
  | hold (r : HoldSeatResponse)
  | spend (success : Bool)
  | status (r : GetSeatStatusResponse)
  deriving DecidableEq, Repr

def SeatCall.prog (cfg : SeatConfig) : SeatCall → SeatProg SeatReply
  | .holdSeat req => .hold <$> SeatInventory.holdSeat cfg req
  | .releaseSeat req => .spend <$> SeatInventory.releaseSeat cfg req
  | .sellSeat req => .spend <$> SeatInventory.sellSeat cfg req
  | .getSeatStatus => .status <$> SeatInventory.getSeatStatus cfg

end TicketRemaster.SeatInventory
