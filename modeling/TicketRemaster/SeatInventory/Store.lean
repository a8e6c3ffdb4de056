import TicketRemaster.Types
import TicketRemaster.Lib.Interleaving
set_option autoImplicit false

/-! One row of `seat_inventory` with its row lock, the Redis keys that belong to it, and
the single statements of `grpc_server.py` on them. -/

namespace TicketRemaster.SeatInventory

open Resumption

inductive DbError where
  | deadlock
  | operational
  | other
  deriving DecidableEq, Repr

/-- The columns an ORM flush writes: those whose value differs from the loaded one. -/
structure RowChanges where
  status : Option SeatStatus
  heldByUserId : Option (Option UserId)
  holdToken : Option (Option HoldToken)
  heldUntil : Option (Option Time)
  deriving DecidableEq, Repr

def changedColumn {α : Type} [DecidableEq α] (loaded current : α) : Option α :=
  if loaded = current then none else some current

def changedColumns (loaded current : SeatInventory) : RowChanges where
  status := changedColumn loaded.status current.status
  heldByUserId := changedColumn loaded.heldByUserId current.heldByUserId
  holdToken := changedColumn loaded.holdToken current.holdToken
  heldUntil := changedColumn loaded.heldUntil current.heldUntil

def RowChanges.apply (c : RowChanges) (r : SeatInventory) : SeatInventory :=
  { r with
    status := c.status.getD r.status
    heldByUserId := c.heldByUserId.getD r.heldByUserId
    holdToken := c.holdToken.getD r.holdToken
    heldUntil := c.heldUntil.getD r.heldUntil }

theorem changedColumn_getD {α : Type} [DecidableEq α] (loaded current : α) :
    (changedColumn loaded current).getD loaded = current := by
  unfold changedColumn
  split
  · rename_i h; exact h
  · rfl

/-- Flushing onto the row that was loaded stores the object as it is in memory. -/
theorem changedColumns_apply {loaded current : SeatInventory}
    (he : current.eventId = loaded.eventId) (hs : current.seatId = loaded.seatId) :
    (changedColumns loaded current).apply loaded = current := by
  cases current
  simp_all [RowChanges.apply,changedColumns,changedColumn_getD]

/-- The statements the four procedures are made of. All of them address the row and the
Redis keys of the requested `inventory_id`. -/
inductive SeatOp where
  | now
  | uuid4
  | selectForUpdate
  | select
  | update (c : RowChanges)
  | updateAvailable (userId : UserId) (holdToken : HoldToken) (heldUntil : Time)
  | commit
  | rollback
  | redisPing
  | cacheSetex (payload : CachedHold) (ttl : Time)
  | cacheDelete
  | idempotentGet (holdToken : HoldToken)
  | idempotentSetex (holdToken : HoldToken) (success : Bool) (ttl : Time)
  | publishInvalidationFailure
  deriving DecidableEq

/-- What a statement hands back. Database statements can raise; a Redis command answers
`false`, or a miss, where the client would raise. -/
@[reducible] def SeatOp.Ans : SeatOp → Type
  | .now => Time
  | .uuid4 => HoldToken
  | .selectForUpdate => Except DbError (Option SeatInventory)
  | .select => Except DbError (Option SeatInventory)
  | .update _ => Except DbError Unit
  | .updateAvailable _ _ _ => Except DbError Nat
  | .commit => Except DbError Unit
  | .rollback => Unit
  | .redisPing => Bool
  | .cacheSetex _ _ => Bool
  | .cacheDelete => Bool
  | .idempotentGet _ => Option Bool
  | .idempotentSetex _ _ _ => Unit
  | .publishInvalidationFailure => Unit

@[reducible] def SeatStore : Interface := ⟨SeatOp,SeatOp.Ans⟩

/-- The outside's choices at one statement: the clock, the UUID drawn, whether Redis can
be reached, and the error the database reports, if any. -/
structure SeatEnv where
  time : Time
  uuid : Nat
  redisUp : Bool
  fault : Option DbError

/-- `row` is the committed row; `lock` names the transaction that holds the row lock,
with the version of the row it has written so far. -/
structure SeatDb (ι : Type) where
  row : Option SeatInventory
  lock : Option (ι × SeatInventory)
  clock : Time
  issued : List Nat
  cache : Option (CachedHold × Time)
  idempotent : Table HoldToken (Bool × Time)

namespace SeatDb

variable {ι : Type} [DecidableEq ι]

def locksOut (db : SeatDb ι) (i : ι) : Bool :=
  match db.lock with
  | some (j,_) => j ≠ i
  | none => false

/-- The row as transaction `i` reads it at READ COMMITTED. -/
def visible (db : SeatDb ι) (i : ι) : Option SeatInventory :=
  match db.lock with
  | some (j,w) => if j = i then some w else db.row
  | none => db.row

/-- Write a version of the row under the lock. -/
def write (db : SeatDb ι) (i : ι) (w : SeatInventory) : SeatDb ι := { db with lock := some (i,w) }

def release (db : SeatDb ι) (i : ι) : SeatDb ι :=
  match db.lock with
  | some (j,_) => if j = i then { db with lock := none } else db
  | none => db

theorem release_row (db : SeatDb ι) (i : ι) : (db.release i).row = db.row := by
  unfold release
  split
  · split <;> rfl
  · rfl

def publish (db : SeatDb ι) (i : ι) : SeatDb ι :=
  match db.lock with
  | some (j,w) => if j = i then { db with row := some w, lock := none } else db
  | none => db

/-- A database statement, or the error that aborts the transaction. -/
def statement {α : Type} (db : SeatDb ι) (i : ι) (e : SeatEnv) (run : α × SeatDb ι) :
    Except DbError α × SeatDb ι :=
  match e.fault with
  | some err => (.error err,db.release i)
  | none => (.ok run.1,run.2)

/-- A Redis value is served until its time to live has passed. -/
def alive {α : Type} (now : Time) (v : Option (α × Time)) : Option α :=
  match v with
  | some (a,deadline) => if now < deadline then some a else none
  | none => none

theorem alive_mono {α : Type} {v : Option (α × Time)} {a : α} {now now' : Time} (hn : now ≤ now')
    (h : alive now' v = some a) : alive now v = some a := by
  unfold alive at h ⊢
  split at h
  · split at h
    · rename_i hlt
      simp only [if_pos (hn.trans_lt hlt)]
      exact h
    · cases h
  · cases h

def ready (db : SeatDb ι) (i : ι) (e : SeatEnv) (q : SeatOp) : Bool :=
  decide (db.clock ≤ e.time) &&
    match q with
    | .selectForUpdate | .update _ | .updateAvailable _ _ _ => !db.locksOut i
    | .uuid4 => decide (e.uuid ∉ db.issued)
    | _ => true

def perform (i : ι) (e : SeatEnv) (db : SeatDb ι) : (q : SeatOp) → q.Ans × SeatDb ι
  | .now => (e.time,db)
  | .uuid4 => (.uuid e.uuid,{ db with issued := e.uuid :: db.issued })
  | .selectForUpdate => db.statement i e (match db.visible i with
      | some r => (some r,db.write i r)
      | none => (none,db))
  | .select => db.statement i e (db.visible i,db)
  | .update c => match db.visible i with
      | some r => db.statement i e ((),db.write i (c.apply r))
      | none => (.error .other,db.release i)
  | .updateAvailable userId holdToken heldUntil => db.statement i e (match db.visible i with
      | some r =>
          if r.status = .available then
            (1,db.write i { r with
              status := .held
              heldByUserId := some userId
              holdToken := some holdToken
              heldUntil := some heldUntil })
          else (0,db)
      | none => (0,db))
  | .commit => db.statement i e ((),db.publish i)
  | .rollback => ((),db.release i)
  | .redisPing => (e.redisUp,db)
  | .cacheSetex payload ttl =>
      if e.redisUp then (true,{ db with cache := some (payload,e.time+ttl) }) else (false,db)
  | .cacheDelete => if e.redisUp then (true,{ db with cache := none }) else (false,db)
  | .idempotentGet holdToken =>
      (if e.redisUp then alive e.time (db.idempotent.lookup holdToken) else none,db)
  | .idempotentSetex holdToken success ttl =>
      ((),if e.redisUp then
        { db with idempotent := db.idempotent.insert holdToken (success,e.time+ttl) } else db)
  | .publishInvalidationFailure => ((),db)

section Frame

variable {β : Type} {f : SeatDb ι → β} (hf : ∀ db row lock, f { db with row := row, lock := lock } =
  f db) (db : SeatDb ι) (i : ι)

include hf

/-- The end of a transaction shows only on the row and its lock. -/
theorem release_frame : f (db.release i) = f db := by
  unfold release
  split
  · split
    · exact hf db db.row none
    · rfl
  · rfl

theorem publish_frame : f (db.publish i) = f db := by
  unfold publish
  split
  · split
    · exact hf db _ none
    · rfl
  · rfl

theorem statement_frame {α : Type} {e : SeatEnv} {run : α × SeatDb ι} (hrun : f run.2 = f db) :
    f (db.statement i e run).2 = f db := by
  unfold statement
  split
  · exact release_frame hf db i
  · exact hrun

/-- The statements of the ORM session. -/
def OnRow : SeatOp → Prop
  | .selectForUpdate | .select | .update _ | .updateAvailable _ _ _ | .commit | .rollback => True
  | _ => False

theorem perform_frame_onRow {e : SeatEnv} {q : SeatOp} (hq : OnRow q) :
    f (perform i e db q).2 = f db := by
  cases q with
  | selectForUpdate =>
    refine statement_frame hf db i ?_
    split
    · exact hf db db.row _
    · rfl
  | select => exact statement_frame hf db i rfl
  | update c =>
    simp only [perform]
    split
    · exact statement_frame hf db i (hf db db.row _)
    · exact release_frame hf db i
  | updateAvailable userId holdToken heldUntil =>
    refine statement_frame hf db i ?_
    split
    · split
      · exact hf db db.row _
      · rfl
    · rfl
  | commit => exact statement_frame hf db i (publish_frame hf db i)
  | rollback => exact release_frame hf db i
  | _ => exact hq.elim

end Frame

/-- All other statements leave the row alone. -/
theorem perform_offRow (db : SeatDb ι) (i : ι) (e : SeatEnv) {q : SeatOp} (hq : ¬ OnRow q) :
    (perform i e db q).2.lock = db.lock ∧ (perform i e db q).2.row = db.row ∧
      (perform i e db q).2.clock = db.clock := by
  cases q with
  | cacheSetex payload ttl => simp only [perform]; split <;> exact ⟨rfl,rfl,rfl⟩
  | cacheDelete => simp only [perform]; split <;> exact ⟨rfl,rfl,rfl⟩
  | idempotentSetex holdToken success ttl => simp only [perform]; split <;> exact ⟨rfl,rfl,rfl⟩
  | now | uuid4 | redisPing | idempotentGet | publishInvalidationFailure => exact ⟨rfl,rfl,rfl⟩
  | _ => exact absurd trivial hq

/-- The clock never runs backwards and is shared by all calls. -/
def server (ι : Type) [DecidableEq ι] : Server SeatStore ι SeatEnv (SeatDb ι) where
  ready := ready
  serve i e db q := perform i e { db with clock := e.time } q

end SeatDb

end TicketRemaster.SeatInventory
