import TicketRemaster.SeatInventory.Rpc
set_option autoImplicit false

/-! Which replacements of the committed row the four procedures can make when their
statements interleave: exactly, and what follows for sold seats and live holds. -/

namespace TicketRemaster.SeatInventory

open Resumption

/-- What a call knows about its open transaction: no row lock, the row it locked by
reading it and its current version, or a lock taken by an `UPDATE` on a row read earlier. -/
inductive TxView where
  | idle
  | own (base work : SeatInventory)
  | blind

def TxView.after (v : TxView) : (q : SeatOp) → q.Ans → TxView
  | .selectForUpdate, .ok (some r) => .own r r
  | .selectForUpdate, .error _ => .idle
  | .select, .error _ => .idle
  | .update c, .ok _ => match v with
      | .own b w => .own b (c.apply w)
      | _ => .blind
  | .update _, .error _ => .idle
  | .updateAvailable userId holdToken heldUntil, .ok _ => match v with
      | .own b w => .own b (if w.status = .available then
          { w with
            status := .held
            heldByUserId := some userId
            holdToken := some holdToken
            heldUntil := some heldUntil } else w)
      | _ => v
  | .updateAvailable _ _ _, .error _ => .idle
  | .commit, _ => .idle
  | .rollback, _ => .idle
  | _, _ => v

def txView : List (Entry SeatStore) → TxView
  | [] => .idle
  | e :: h => (txView h).after e.1 e.2

@[simp] theorem txView_cons (e : Entry SeatStore) (h : List (Entry SeatStore)) :
    txView (e :: h) = (txView h).after e.1 e.2 := rfl

def clockAfter (t : Option Time) : (q : SeatOp) → q.Ans → Option Time
  | .now, t => some t
  | _, _ => t

/-- The latest clock reading of a call. -/
def lastNow : List (Entry SeatStore) → Option Time
  | [] => none
  | e :: h => clockAfter (lastNow h) e.1 e.2

@[simp] theorem lastNow_cons (e : Entry SeatStore) (h : List (Entry SeatStore)) :
    lastNow (e :: h) = clockAfter (lastNow h) e.1 e.2 := rfl

def tokenAfter (t : Option HoldToken) : (q : SeatOp) → q.Ans → Option HoldToken
  | .uuid4, token => some token
  | .commit, _ => none
  | _, _ => t

/-- The token a call has drawn for the hold that it is about to commit. -/
def drawnToken : List (Entry SeatStore) → Option HoldToken
  | [] => none
  | e :: h => tokenAfter (drawnToken h) e.1 e.2

@[simp] theorem drawnToken_cons (e : Entry SeatStore) (h : List (Entry SeatStore)) :
    drawnToken (e :: h) = tokenAfter (drawnToken h) e.1 e.2 := rfl

def publishedAfter (v : TxView) (l : List (SeatInventory × SeatInventory)) :
    (q : SeatOp) → q.Ans → List (SeatInventory × SeatInventory)
  | .commit, .ok _ => match v with
      | .own b w => (b,w) :: l
      | _ => l
  | _, _ => l

/-- What the commits of a call have published: each time the row it locked, and its version. -/
def published : List (Entry SeatStore) → List (SeatInventory × SeatInventory)
  | [] => []
  | e :: h => publishedAfter (txView h) (published h) e.1 e.2

@[simp] theorem published_cons (e : Entry SeatStore) (h : List (Entry SeatStore)) :
    published (e :: h) = publishedAfter (txView h) (published h) e.1 e.2 := rfl

/-- The call carries the user and the token of the hold in the row. -/
def SeatCall.spends (call : SeatCall) (r : SeatInventory) : Bool :=
  match call with
  | .releaseSeat req => holdMatches r req
  | .sellSeat req => holdMatches r req
  | _ => false

/-- The replacements of a committed row `b` by `w` that leave sold seats and live holds
alone: `now` is the time, and `call` the call that commits. -/
structure MayReplace (call : SeatCall) (now : Option Time) (b w : SeatInventory) : Prop where
  sold : b.status = .sold → w = b
  held : b.status = .held → w ≠ b → (∃ t, now = some t ∧ holdHasExpired b t) ∨ call.spends b

theorem holdHasExpired_iff {r : SeatInventory} {now : Time} :
    holdHasExpired r now ↔ r.status = .held ∧ ∃ u, r.heldUntil = some u ∧ u ≤ now := by
  unfold holdHasExpired
  split
  · rename_i hs hu; simp [hs,hu]
  · rename_i hn
    constructor
    · intro h; cases h
    · rintro ⟨hs,u,hu,-⟩; exact absurd hu (hn u hs)

theorem holdHasExpired_mono {r : SeatInventory} {t t' : Time} (h : holdHasExpired r t)
    (ht : t ≤ t') : holdHasExpired r t' := by
  obtain ⟨hs,u,hu,hle⟩ := holdHasExpired_iff.mp h
  exact holdHasExpired_iff.mpr ⟨hs,u,hu,le_trans hle ht⟩

theorem MayReplace.later {call : SeatCall} {b w : SeatInventory} {now : Option Time} {t : Time}
    (h : MayReplace call now b w) (ht : ∀ t', now = some t' → t' ≤ t) :
    MayReplace call (some t) b w where
  sold := h.sold
  held hs hw := by
    rcases h.held hs hw with ⟨t',hn,hexp⟩ | hsp
    · exact .inl ⟨t,rfl,holdHasExpired_mono hexp (ht t' hn)⟩
    · exact .inr hsp

/-- The discipline of the procedures: lock only once, update by condition only under the
own lock, and commit only replacements that are allowed. -/
def Allowed (call : SeatCall) (h : List (Entry SeatStore)) : SeatOp → Prop
  | .selectForUpdate => txView h = .idle
  | .updateAvailable _ _ _ => ∃ b w, txView h = .own b w
  | .commit => ∀ b w, txView h = .own b w → MayReplace call (lastNow h) b w
  | _ => True

def anyAnswer (_ : List (Entry SeatStore)) (q : SeatOp) (_ : q.Ans) : Prop := True

/-- The transaction is closed, whatever the result. -/
def Closed {α : Type} (_ : α) (h : List (Entry SeatStore)) : Prop := txView h = .idle

/-- The row as `HoldSeat` leaves it. -/
def heldFor (r : SeatInventory) (userId : UserId) (holdToken : HoldToken) (heldUntil : Time) :
    SeatInventory :=
  { r with
    status := .held
    heldByUserId := some userId
    holdToken := some holdToken
    heldUntil := some heldUntil }

/-- Exactly what a call commits: a hold of its own in place of none, or of one that had run out at
the call's clock reading; or the end of the hold that it names. -/
def Commits (call : SeatCall) (h : List (Entry SeatStore)) (b w : SeatInventory) : Prop :=
  match call with
  | .holdSeat req => ∃ now token, lastNow h = some now ∧ drawnToken h = some token ∧
      (b.status = .available ∨ holdHasExpired b now) ∧
      w = heldFor b req.userId token (now+seconds (holdSeconds req))
  | .releaseSeat req => holdMatches b req ∧ w = clearHold b
  | .sellSeat req => holdMatches b req ∧ w = markSold b
  | .getSeatStatus => False

/-- The exact discipline. Only the `UPDATE` of `GetSeatStatus` is made without the row lock. -/
def Exact (call : SeatCall) (h : List (Entry SeatStore)) : SeatOp → Prop
  | .selectForUpdate => txView h = .idle
  | .update _ => call = .getSeatStatus ∨ ∃ b w, txView h = .own b w
  | .updateAvailable _ _ _ => ∃ b w, txView h = .own b w
  | .commit => ∀ b w, txView h = .own b w → Commits call h b w
  | _ => True

theorem holdMatches_iff {r : SeatInventory} {req : SpendHoldRequest} :
    holdMatches r req ↔ r.status = .held ∧ r.heldByUserId = some req.userId ∧
      r.holdToken = some req.holdToken := by
  simp only [holdMatches,Bool.and_eq_true,decide_eq_true_eq,and_assoc]

theorem holdMatches_held {r : SeatInventory} {req : SpendHoldRequest} (h : holdMatches r req) :
    r.status = .held := (holdMatches_iff.mp h).1

theorem Commits.mayReplace {call : SeatCall} {h : List (Entry SeatStore)} {b w : SeatInventory}
    (hc : Commits call h b w) : MayReplace call (lastNow h) b w := by
  cases call with
  | holdSeat req =>
    obtain ⟨now,token,hnow,-,hfree | hexp,-⟩ := hc
    · exact ⟨fun hs => by simp [hfree] at hs,fun hs => by simp [hfree] at hs⟩
    · have hheld := (holdHasExpired_iff.mp hexp).1
      exact ⟨fun hs => by simp [hheld] at hs,fun _ _ => .inl ⟨now,hnow,hexp⟩⟩
  | releaseSeat req =>
    exact ⟨fun hs => by simp [holdMatches_held hc.1] at hs,fun _ _ => .inr hc.1⟩
  | sellSeat req =>
    exact ⟨fun hs => by simp [holdMatches_held hc.1] at hs,fun _ _ => .inr hc.1⟩
  | getSeatStatus => exact hc.elim

theorem Exact.allowed {call : SeatCall} (h : List (Entry SeatStore)) (q : SeatOp)
    (hq : Exact call h q) : Allowed call h q := by
  cases q with
  | commit => exact fun b w hbw => (hq b w hbw).mayReplace
  | selectForUpdate => exact hq
  | updateAvailable userId holdToken heldUntil => exact hq
  | _ => trivial

abbrev SeatProg.Follows {α : Type} (call : SeatCall) (p : SeatProg α)
    (fin : α → List (Entry SeatStore) → Prop) (exc : SeatExn → List (Entry SeatStore) → Prop)
    (h : List (Entry SeatStore)) : Prop :=
  Prog.Follows (Exact call) anyAnswer fin exc p h

/-- Redis commands and the broker say nothing about the transaction. -/
def OffTransaction : SeatOp → Prop
  | .redisPing | .cacheSetex _ _ | .cacheDelete | .idempotentGet _ | .idempotentSetex _ _ _
  | .publishInvalidationFailure => True
  | _ => False

/-- Only such calls, and no exception. -/
abbrev SeatProg.Off {α : Type} (p : SeatProg α) : Prop := p.Calls OffTransaction (fun _ => False)

theorem writeHoldCache_off (userId : UserId) (holdToken : HoldToken) (heldUntil : Time)
    (ttl : Int) : SeatProg.Off (writeHoldCache userId holdToken heldUntil ttl) := by
  refine Prog.calls_bind ⟨trivial,fun _ => trivial⟩ (fun up => ?_)
  cases up
  · trivial
  · exact Prog.calls_bind ⟨trivial,fun _ => trivial⟩ (fun _ => trivial)

/-- Those of them that write no record of a hold. -/
def Aside : SeatOp → Prop
  | .redisPing | .cacheDelete | .idempotentGet _ | .idempotentSetex _ _ _
  | .publishInvalidationFailure => True
  | _ => False

abbrev SeatProg.StaysAside {α : Type} (p : SeatProg α) : Prop := p.Calls Aside (fun _ => False)

theorem SeatProg.StaysAside.off {α : Type} {p : SeatProg α} (hp : p.StaysAside) : p.Off := by
  refine hp.mono (fun q hq => ?_) (fun _ h => h)
  cases q <;> trivial

theorem deleteHoldCacheAttempts_aside (n : Nat) :
    SeatProg.StaysAside (deleteHoldCacheAttempts n) := by
  induction n with
  | zero => trivial
  | succ n ih =>
    refine Prog.calls_bind ⟨trivial,fun _ => trivial⟩ (fun deleted => ?_)
    cases deleted
    · by_cases hn : n = 0
      · simp only [hn,if_true]; exact ⟨trivial,fun _ => trivial⟩
      · simpa [hn] using ih
    · trivial

theorem deleteHoldCache_aside (cfg : SeatConfig) : SeatProg.StaysAside (deleteHoldCache cfg) := by
  refine Prog.calls_bind ⟨trivial,fun _ => trivial⟩ (fun up => ?_)
  cases up
  · trivial
  · exact deleteHoldCacheAttempts_aside _

theorem checkIdempotency_aside (holdToken : HoldToken) :
    SeatProg.StaysAside (checkIdempotency holdToken) := by
  refine Prog.calls_bind ⟨trivial,fun _ => trivial⟩ (fun up => ?_)
  cases up
  · trivial
  · exact ⟨trivial,fun _ => trivial⟩

theorem cacheIdempotencyResult_aside (holdToken : HoldToken) (success : Bool) :
    SeatProg.StaysAside (cacheIdempotencyResult holdToken success) := by
  refine Prog.calls_bind ⟨trivial,fun _ => trivial⟩ (fun up => ?_)
  cases up
  · trivial
  · exact ⟨trivial,fun _ => trivial⟩

theorem deleteHoldCache_off (cfg : SeatConfig) : SeatProg.Off (deleteHoldCache cfg) :=
  (deleteHoldCache_aside cfg).off

theorem checkIdempotency_off (holdToken : HoldToken) :
    SeatProg.Off (checkIdempotency holdToken) := (checkIdempotency_aside holdToken).off

theorem cacheIdempotencyResult_off (holdToken : HoldToken) (success : Bool) :
    SeatProg.Off (cacheIdempotencyResult holdToken success) :=
  (cacheIdempotencyResult_aside holdToken success).off

/-- Two histories that say the same about the transaction. -/
structure SameLocal (h' h : List (Entry SeatStore)) : Prop where
  view : txView h' = txView h
  now : lastNow h' = lastNow h
  token : drawnToken h' = drawnToken h
  published : published h' = published h

/-- A part of a procedure that stays off the transaction leaves its view as it was. -/
theorem follows_off {α : Type} {call : SeatCall} {p : SeatProg α} (hp : SeatProg.Off p)
    {h : List (Entry SeatStore)} {fin : α → List (Entry SeatStore) → Prop}
    {exc : SeatExn → List (Entry SeatStore) → Prop}
    (hf : ∀ a h', SameLocal h' h → fin a h') : SeatProg.Follows call p fin exc h := by
  have hfol : SeatProg.Follows call p (fun _ h' => SameLocal h' h)
      (fun _ h' => False ∧ SameLocal h' h) h := by
    refine Prog.Calls.follows (J := fun h' => SameLocal h' h) hp ?_ ?_ ⟨rfl,rfl,rfl,rfl⟩
    · intro h' q hq hJ
      cases q <;> simp_all [OffTransaction,Exact]
    · rintro h' q a hq ⟨hv,hn,ht,hp⟩
      constructor <;> cases q <;>
        simp_all [OffTransaction,TxView.after,clockAfter,tokenAfter,publishedAfter]
  exact hfol.mono (fun a h' hJ => hf a h' hJ) (fun e h' hJ => hJ.1.elim)

/-- The discipline inside an application context. Leaving the context closes the
transaction, so an exception has nothing to answer for. -/
abbrev InContext {α : Type} (call : SeatCall) (p : SeatProg α)
    (fin : α → List (Entry SeatStore) → Prop) (h : List (Entry SeatStore)) : Prop :=
  SeatProg.Follows call p fin (fun _ _ => True) h

/-- The transaction is closed, and what the call reports is among what it has published. -/
def Ends {α : Type} (F : α → List (SeatInventory × SeatInventory) → Prop) (a : α)
    (h : List (Entry SeatStore)) : Prop := Closed a h ∧ F a (published h)

section Statements

variable {α β : Type} {call : SeatCall} {fin : β → List (Entry SeatStore) → Prop}
  {h : List (Entry SeatStore)}

theorem withAppContext_follows {body : SeatProg α}
    {F : α → List (SeatInventory × SeatInventory) → Prop}
    (hb : InContext call body (fun a h => F a (published h)) h) :
    SeatProg.Follows call (withAppContext body) (Ends F) Closed h := by
  refine Prog.follows_ensuring.mpr (hb.mono ?_ ?_)
  · intro a h hF; exact ⟨trivial,fun _ _ => ⟨rfl,hF⟩⟩
  · intro e h _; exact ⟨trivial,fun _ _ => rfl⟩

theorem datetimeNow_follows {f : Time → SeatProg β}
    (hf : ∀ t, InContext call (f t) fin (⟨.now,t⟩ :: h)) :
    InContext call (datetimeNow >>= f) fin h := ⟨trivial,fun t _ => hf t⟩

theorem uuid4_follows {f : HoldToken → SeatProg β}
    (hf : ∀ t, InContext call (f t) fin (⟨.uuid4,t⟩ :: h)) :
    InContext call (uuid4 >>= f) fin h := ⟨trivial,fun t _ => hf t⟩

theorem selectForUpdate_follows {f : Option SeatInventory → SeatProg β} (hv : txView h = .idle)
    (hf : ∀ r, InContext call (f r) fin (⟨.selectForUpdate,.ok r⟩ :: h)) :
    InContext call (selectForUpdate >>= f) fin h := by
  refine ⟨hv,fun a _ => ?_⟩
  cases a with
  | error e => trivial
  | ok r => exact hf r

theorem sessionGet_follows {f : Option SeatInventory → SeatProg β}
    (hf : ∀ r, InContext call (f r) fin (⟨.select,.ok r⟩ :: h)) :
    InContext call (sessionGet >>= f) fin h := by
  refine ⟨trivial,fun a _ => ?_⟩
  cases a with
  | error e => trivial
  | ok r => exact hf r

theorem flush_follows {c : RowChanges} {f : Unit → SeatProg β}
    (hc : call = .getSeatStatus ∨ ∃ b w, txView h = .own b w)
    (hf : InContext call (f ()) fin (⟨.update c,.ok ()⟩ :: h)) :
    InContext call (flush c >>= f) fin h := by
  refine ⟨hc,fun a _ => ?_⟩
  cases a with
  | error e => trivial
  | ok u => exact hf

theorem updateAvailable_follows {userId : UserId} {holdToken : HoldToken} {heldUntil : Time}
    {f : Nat → SeatProg β} {b w : SeatInventory} (hv : txView h = .own b w)
    (hf : ∀ n, InContext call (f n) fin
      (⟨.updateAvailable userId holdToken heldUntil,.ok n⟩ :: h)) :
    InContext call (updateAvailable userId holdToken heldUntil >>= f) fin h := by
  refine ⟨⟨b,w,hv⟩,fun a _ => ?_⟩
  cases a with
  | error e => trivial
  | ok n => exact hf n

theorem commit_follows {f : Unit → SeatProg β}
    (hc : ∀ b w, txView h = .own b w → Commits call h b w)
    (hf : InContext call (f ()) fin (⟨.commit,.ok ()⟩ :: h)) :
    InContext call (commit >>= f) fin h := by
  refine ⟨hc,fun a _ => ?_⟩
  cases a with
  | error e => trivial
  | ok u => exact hf

theorem rollback_follows {f : Unit → SeatProg β}
    (hf : InContext call (f ()) fin (⟨.rollback,()⟩ :: h)) :
    InContext call (rollback >>= f) fin h := ⟨trivial,fun _ _ => hf⟩

theorem refresh_follows {f : SeatInventory → SeatProg β} (hf : ∀ r h, InContext call (f r) fin h) :
    InContext call (refresh >>= f) fin h := by
  refine Prog.follows_bind.mpr (sessionGet_follows fun r => ?_)
  cases r with
  | none => trivial
  | some r => exact hf r _

/-- A part of a procedure that stays off the transaction can be skipped. -/
theorem off_follows {p : SeatProg α} (hp : SeatProg.Off p) {f : α → SeatProg β}
    (hf : ∀ a h', SameLocal h' h → InContext call (f a) fin h') :
    InContext call (p >>= f) fin h :=
  Prog.follows_bind.mpr (follows_off hp hf)

theorem clearHold_flush (r : SeatInventory) :
    (changedColumns r (clearHold r)).apply r = clearHold r := changedColumns_apply rfl rfl

theorem markSold_flush (r : SeatInventory) :
    (changedColumns r (markSold r)).apply r = markSold r := changedColumns_apply rfl rfl

/-- After reclaiming, the object in memory is the version written so far, and it differs
from the locked row only if the hold in it had expired. -/
theorem reclaim_follows (cfg : SeatConfig) {r : SeatInventory} {now : Time} {token : HoldToken}
    (hv : txView h = .own r r) (hn : lastNow h = some now) (ht : drawnToken h = some token)
    {f : SeatInventory → SeatProg β}
    (hf : ∀ r' h, txView h = .own r r' → lastNow h = some now → drawnToken h = some token →
      (r' = r ∨ holdHasExpired r now ∧ r' = clearHold r) → InContext call (f r') fin h) :
    InContext call (reclaim cfg r now >>= f) fin h := by
  unfold reclaim
  split
  · rename_i hexp
    refine Prog.follows_bind.mpr (flush_follows (.inr ⟨r,r,hv⟩)
      (off_follows (deleteHoldCache_off cfg) ?_))
    intro _ h' hsame
    refine hf _ h' ?_ (hsame.now.trans hn) (hsame.token.trans ht) (.inr ⟨hexp,rfl⟩)
    simp [hsame.view,TxView.after,hv,clearHold_flush]
  · exact hf r h hv hn ht (.inl rfl)

end Statements

/-- A successful answer of `HoldSeat` names the hold it has published. -/
def HoldReported (r : HoldSeatResponse) (l : List (SeatInventory × SeatInventory)) : Prop :=
  r.success → ∃ b userId heldUntil, (b,heldFor b userId r.holdToken heldUntil) ∈ l ∧
    r.heldUntil = some heldUntil

theorem holdReported_failed {status : SeatStatus} {heldUntil : Option Time} {errorCode : String}
    {l : List (SeatInventory × SeatInventory)} :
    HoldReported (.failed status heldUntil errorCode) l := fun h => by cases h

theorem holdAttempt_follows (cfg : SeatConfig) (req : HoldSeatRequest)
    {h : List (Entry SeatStore)} (hv : txView h = .idle) :
    SeatProg.Follows (.holdSeat req) (holdAttempt cfg req) (Ends HoldReported) Closed h := by
  refine withAppContext_follows (datetimeNow_follows fun now => uuid4_follows fun token => ?_)
  refine selectForUpdate_follows hv fun r => ?_
  cases r with
  | none => exact rollback_follows holdReported_failed
  | some r =>
    refine reclaim_follows cfg rfl rfl rfl fun r' h hv hn ht hr' => ?_
    by_cases hs : r'.status = .available
    · rw [if_neg (not_not_intro hs)]
      refine updateAvailable_follows hv fun n => ?_
      by_cases hn1 : n = 1
      · rw [if_neg (not_not_intro hn1)]
        have hview : txView (⟨.updateAvailable req.userId token (now+seconds (holdSeconds req)),
            .ok n⟩ :: h) = .own r (heldFor r req.userId token (now+seconds (holdSeconds req))) := by
          rcases hr' with rfl | ⟨-,rfl⟩
          · simp [TxView.after,hv,hs,heldFor]
          · simp [TxView.after,hv,clearHold,heldFor]
        refine commit_follows ?_ (off_follows (writeHoldCache_off _ _ _ _) fun _ h' hsame => ?_)
        -- the locked row was free, or its hold had run out at the reading before the lock
        · intro b w hbw
          obtain ⟨rfl,rfl⟩ := TxView.own.inj (hview.symm.trans hbw)
          refine ⟨now,token,hn,ht,?_,rfl⟩
          rcases hr' with rfl | ⟨hexp,-⟩
          · exact .inl hs
          · exact .inr hexp
        · intro _
          refine ⟨r,req.userId,now+seconds (holdSeconds req),?_,rfl⟩
          rw [hsame.published,published_cons,hview]
          exact List.mem_cons_self
      · rw [if_pos hn1]
        refine rollback_follows (sessionGet_follows fun r => ?_)
        cases r <;> exact holdReported_failed
    · rw [if_pos hs]
      exact rollback_follows (refresh_follows fun _ _ => holdReported_failed)

theorem rollbackOutside_follows {call : SeatCall} (cfg : SeatConfig) {α : Type} {p : SeatProg α}
    {F : α → List (SeatInventory × SeatInventory) → Prop} {h : List (Entry SeatStore)}
    (hv : txView h = .idle) (hp : SeatProg.Follows call p (Ends F) Closed h) :
    SeatProg.Follows call (do rollbackOutside cfg; p) (Ends F) Closed h := by
  unfold rollbackOutside
  split
  · exact hp
  · exact hv

theorem holdSeatAttempts_follows (cfg : SeatConfig) (req : HoldSeatRequest) (n : Nat)
    {h : List (Entry SeatStore)} (hv : txView h = .idle) :
    SeatProg.Follows (.holdSeat req) (holdSeatAttempts cfg req n) (Ends HoldReported) Closed h := by
  induction n generalizing h with
  | zero => exact hv
  | succ n ih =>
    refine Prog.follows_handle.mpr ((holdAttempt_follows cfg req hv).mono (fun _ _ h => h) ?_)
    intro exc h hv
    split
    · by_cases hn : n = 0
      · rw [if_pos hn]; exact rollbackOutside_follows cfg hv ⟨hv,holdReported_failed⟩
      · rw [if_neg hn]; exact rollbackOutside_follows cfg hv (ih hv)
    · exact rollbackOutside_follows cfg hv ⟨hv,holdReported_failed⟩
    · exact rollbackOutside_follows cfg hv ⟨hv,holdReported_failed⟩

/-- The view after the matching row has been locked and the change flushed. -/
theorem view_flushed {r w : SeatInventory} {h : List (Entry SeatStore)}
    (hw : (changedColumns r w).apply r = w) :
    txView (⟨.update (changedColumns r w),.ok ()⟩ :: ⟨.selectForUpdate,.ok (some r)⟩ :: h) =
      .own r w := by
  simp [TxView.after,hw]

theorem releaseSeat_follows (cfg : SeatConfig) (req : SpendHoldRequest)
    {h : List (Entry SeatStore)} (hv : txView h = .idle) :
    SeatProg.Follows (.releaseSeat req) (releaseSeat cfg req) (Ends fun _ _ => True) Closed h := by
  refine withAppContext_follows (off_follows (checkIdempotency_off _) fun cached h' hsame => ?_)
  cases cached with
  | some success => trivial
  | none =>
    refine selectForUpdate_follows (hsame.view.trans hv) fun inventory => ?_
    cases hm : inventory.filter (holdMatches · req) with
    | none =>
      simp only
      exact rollback_follows (off_follows (cacheIdempotencyResult_off _ _) fun _ _ _ => trivial)
    | some r =>
      obtain ⟨rfl,hreq⟩ := Option.filter_eq_some_iff.mp hm
      refine flush_follows (.inr ⟨r,r,rfl⟩) (commit_follows (fun b w hbw => ?_) ?_)
      · obtain ⟨rfl,rfl⟩ := TxView.own.inj ((view_flushed (clearHold_flush r)).symm.trans hbw)
        exact ⟨hreq,rfl⟩
      · refine off_follows (deleteHoldCache_off cfg) fun _ _ _ => ?_
        exact off_follows (cacheIdempotencyResult_off _ _) fun _ _ _ => trivial

/-- A successful `SellSeat` has published its sale. -/
def SaleReported (success : Bool) (l : List (SeatInventory × SeatInventory)) : Prop :=
  success → ∃ b, (b,markSold b) ∈ l

theorem sellSeat_follows (cfg : SeatConfig) (req : SpendHoldRequest)
    {h : List (Entry SeatStore)} (hv : txView h = .idle) :
    SeatProg.Follows (.sellSeat req) (sellSeat cfg req) (Ends SaleReported) Closed h := by
  refine withAppContext_follows (selectForUpdate_follows hv fun inventory => ?_)
  cases inventory with
  | none => exact rollback_follows fun hs => by cases hs
  | some r =>
    by_cases hreq : holdMatches r req
    · simp only [hreq,if_true]
      have hview := view_flushed (h := h) (markSold_flush r)
      refine flush_follows (.inr ⟨r,r,rfl⟩) (commit_follows (fun b w hbw => ?_) ?_)
      · obtain ⟨rfl,rfl⟩ := TxView.own.inj (hview.symm.trans hbw)
        exact ⟨hreq,rfl⟩
      · refine off_follows (deleteHoldCache_off cfg) fun _ h' hsame _ => ⟨r,?_⟩
        rw [hsame.published,published_cons,hview]
        exact List.mem_cons_self
    · simp only [hreq]
      exact rollback_follows fun hs => by cases hs

/-- Its `UPDATE` takes the lock without having read the row under it, so the commit has
no locked row to compare with. -/
theorem getSeatStatus_follows (cfg : SeatConfig) {h : List (Entry SeatStore)}
    (hv : txView h = .idle) : SeatProg.Follows .getSeatStatus (getSeatStatus cfg)
      (Ends fun _ _ => True) Closed h := by
  refine withAppContext_follows (sessionGet_follows fun inventory => ?_)
  cases inventory with
  | none => trivial
  | some r =>
    refine datetimeNow_follows fun now => ?_
    by_cases hexp : holdHasExpired r now
    · rw [if_pos hexp]
      refine flush_follows (.inl rfl) (commit_follows ?_ ?_)
      · intro b w hbw
        simp [TxView.after,hv] at hbw
      · refine off_follows (deleteHoldCache_off cfg) fun _ _ _ => ?_
        exact refresh_follows fun _ _ => trivial
    · rw [if_neg hexp]
      trivial

/-- What the answer of a call says about its commits. -/
def Reported (call : SeatCall) (reply : SeatReply) (l : List (SeatInventory × SeatInventory)) :
    Prop :=
  match call, reply with
  | .holdSeat _, .hold r => HoldReported r l
  | .sellSeat _, .spend success => SaleReported success l
  | .releaseSeat _, .spend _ => True
  | .getSeatStatus, .status _ => True
  | _, _ => False

theorem prog_exact (cfg : SeatConfig) (call : SeatCall) :
    SeatProg.Follows call (call.prog cfg) (Ends (Reported call)) Closed [] := by
  cases call with
  | holdSeat req => exact Prog.follows_map.mpr (holdSeatAttempts_follows cfg req _ rfl)
  | releaseSeat req => exact Prog.follows_map.mpr (releaseSeat_follows cfg req rfl)
  | sellSeat req => exact Prog.follows_map.mpr (sellSeat_follows cfg req rfl)
  | getSeatStatus => exact Prog.follows_map.mpr (getSeatStatus_follows cfg rfl)

theorem prog_follows (cfg : SeatConfig) (call : SeatCall) :
    Prog.Follows (Allowed call) anyAnswer Closed Closed (call.prog cfg) [] :=
  ((prog_exact cfg call).weaken fun _ _ hq => hq.allowed).mono (fun _ _ hends => hends.1)
    (fun _ _ hclosed => hclosed)

end TicketRemaster.SeatInventory
