import TicketRemaster.SeatInventory.LiveHolds
set_option autoImplicit false

/-! Conditions on the row that every call keeps, however the statements of the calls interleave: the
unlocked `UPDATE` of `GetSeatStatus` may land on any version of the row. -/

namespace TicketRemaster.SeatInventory

open Resumption

/-- All that the procedures do to a row keeps the condition. What is flushed was worked out on a row
`r` read before, and may be applied to another one. -/
structure Preserved (P : SeatInventory → Prop) : Prop where
  clear (r r' : SeatInventory) : P r → P r' →
    ((∃ now, holdHasExpired r now) ∨ ∃ req, holdMatches r req) →
      P ((changedColumns r (clearHold r)).apply r')
  sell (r r' : SeatInventory) (req : SpendHoldRequest) : P r → P r' → holdMatches r req →
    P ((changedColumns r (markSold r)).apply r')
  hold (r : SeatInventory) (userId : UserId) (holdToken : HoldToken) (heldUntil : Time) : P r →
    r.status = .available → P (heldFor r userId holdToken heldUntil)

/-- What a procedure may flush: columns that keep the condition on any row. -/
def FlushesWithin (P : SeatInventory → Prop) (_ : List (Entry SeatStore)) : SeatOp → Prop
  | .update c => ∀ r, P r → P (c.apply r)
  | _ => True

/-- What the procedures do flush: columns without the hold that they have read. -/
inductive ClearsHold (P : SeatInventory → Prop) : RowChanges → Prop where
  | clear {r : SeatInventory} (hr : P r)
      (hend : (∃ now, holdHasExpired r now) ∨ ∃ req, holdMatches r req) :
      ClearsHold P (changedColumns r (clearHold r))
  | sell {r : SeatInventory} {req : SpendHoldRequest} (hr : P r) (hm : holdMatches r req) :
      ClearsHold P (changedColumns r (markSold r))

def FlushesClear (P : SeatInventory → Prop) : SeatOp → Prop
  | .update c => ClearsHold P c
  | _ => True

theorem Preserved.within {P : SeatInventory → Prop} (hP : Preserved P) (h : List (Entry SeatStore))
    (q : SeatOp) (hq : FlushesClear P q) : FlushesWithin P h q := by
  cases q with
  | update c =>
    intro r' hr'
    cases hq with
    | clear hr hend => exact hP.clear _ r' hr hr' hend
    | sell hr hm => exact hP.sell _ r' _ hr hr' hm
  | _ => trivial

/-- The conditional update keeps the condition. -/
def HoldsWithin (P : SeatInventory → Prop) : SeatOp → Prop
  | .updateAvailable userId holdToken heldUntil =>
      ∀ r, P r → r.status = .available → P (heldFor r userId holdToken heldUntil)
  | _ => True

theorem Preserved.holds {P : SeatInventory → Prop} (hP : Preserved P) (q : SeatOp) :
    HoldsWithin P q := by
  cases q with
  | updateAvailable userId holdToken heldUntil =>
    exact fun r hr hs => hP.hold r userId holdToken heldUntil hr hs
  | _ => trivial

/-- The rows that are read satisfy the condition. -/
def ReadsWithin (P : SeatInventory → Prop) (_ : List (Entry SeatStore)) :
    (q : SeatOp) → q.Ans → Prop
  | .selectForUpdate, .ok (some r) => P r
  | .select, .ok (some r) => P r
  | _, _ => True

/-- From any history on, the procedure keeps to the condition, and returns only what `F` admits. -/
def SeatProg.Within {α : Type} (P : SeatInventory → Prop) (p : SeatProg α) (F : α → Prop) : Prop :=
  ∀ h, Prog.Follows (FlushesWithin P) (ReadsWithin P) (fun a _ => F a) (fun _ _ => True) p h

/-- From any history on, the procedure flushes nothing else, and returns only what `F` admits. -/
def SeatProg.Clears {α : Type} (P : SeatInventory → Prop) (p : SeatProg α) (F : α → Prop) : Prop :=
  ∀ h, Prog.Follows (fun _ => FlushesClear P) (ReadsWithin P) (fun a _ => F a) (fun _ _ => True) p h

section Statements

variable {P : SeatInventory → Prop} {α β : Type} {F : α → Prop} {G : β → Prop}

theorem clears_ret {a : α} (ha : F a) : SeatProg.Clears P (.ret a) F := fun _ => ha

theorem clears_raise {e : SeatExn} : SeatProg.Clears P (.raise e) F := fun _ => trivial

theorem clears_bind {p : SeatProg α} {f : α → SeatProg β} (hp : SeatProg.Clears P p F)
    (hf : ∀ a, F a → SeatProg.Clears P (f a) G) : SeatProg.Clears P (p >>= f) G :=
  fun h => Prog.follows_bind.mpr ((hp h).mono (fun a h' ha => hf a ha h') (fun _ _ _ => trivial))

theorem clears_handle {p : SeatProg α} {f : SeatExn → SeatProg α} (hp : SeatProg.Clears P p F)
    (hf : ∀ e, SeatProg.Clears P (f e) F) : SeatProg.Clears P (p.handle f) F :=
  fun h => Prog.follows_handle.mpr ((hp h).mono (fun _ _ ha => ha) (fun e h' _ => hf e h'))

theorem clears_off {p : SeatProg α} (hp : SeatProg.Off p) :
    SeatProg.Clears P p (fun _ => True) := by
  intro h
  refine (Prog.Calls.follows (J := fun _ => True) hp ?_ (fun _ _ _ _ _ => trivial) trivial).mono
    (fun _ _ _ => trivial) (fun _ _ _ => trivial)
  intro h' q hq _
  cases q <;> trivial

theorem clears_withAppContext {body : SeatProg α} (hb : SeatProg.Clears P body F) :
    SeatProg.Clears P (withAppContext body) F := by
  intro h
  refine Prog.follows_ensuring.mpr ((hb h).mono ?_ ?_)
  · exact fun a h' ha => ⟨trivial,fun _ _ => ha⟩
  · exact fun e h' _ => ⟨trivial,fun _ _ => trivial⟩

theorem clears_datetimeNow : SeatProg.Clears P datetimeNow (fun _ => True) :=
  fun _ => ⟨trivial,fun _ _ => trivial⟩

theorem clears_uuid4 : SeatProg.Clears P uuid4 (fun _ => True) :=
  fun _ => ⟨trivial,fun _ _ => trivial⟩

theorem clears_rollback : SeatProg.Clears P rollback (fun _ => True) :=
  fun _ => ⟨trivial,fun _ _ => trivial⟩

theorem clears_commit : SeatProg.Clears P commit (fun _ => True) := by
  refine fun _ => ⟨trivial,fun a _ => ?_⟩
  cases a <;> trivial

theorem clears_updateAvailable {userId : UserId} {holdToken : HoldToken} {heldUntil : Time} :
    SeatProg.Clears P (updateAvailable userId holdToken heldUntil) (fun _ => True) := by
  refine fun _ => ⟨trivial,fun a _ => ?_⟩
  cases a <;> trivial

theorem clears_flush {c : RowChanges} (hc : ClearsHold P c) :
    SeatProg.Clears P (flush c) (fun _ => True) := by
  refine fun _ => ⟨hc,fun a _ => ?_⟩
  cases a <;> trivial

/-- What a read of the row may find. -/
def Found (P : SeatInventory → Prop) (row : Option SeatInventory) : Prop := ∀ r, row = some r → P r

theorem clears_selectForUpdate : SeatProg.Clears P selectForUpdate (Found P) := by
  refine fun _ => ⟨trivial,fun a ha => ?_⟩
  cases a with
  | error e => trivial
  | ok row =>
    intro r hr
    subst hr
    exact ha

theorem clears_sessionGet : SeatProg.Clears P sessionGet (Found P) := by
  refine fun _ => ⟨trivial,fun a ha => ?_⟩
  cases a with
  | error e => trivial
  | ok row =>
    intro r hr
    subst hr
    exact ha

theorem clears_refresh : SeatProg.Clears P refresh P := by
  refine clears_bind clears_sessionGet fun row hrow => ?_
  cases row with
  | none => exact clears_raise
  | some r => exact clears_ret (hrow r rfl)

end Statements

section Procedures

variable {P : SeatInventory → Prop} (cfg : SeatConfig)

theorem clears_reclaim {r : SeatInventory} {now : Time} (hr : P r) :
    SeatProg.Clears P (reclaim cfg r now) (fun r' => r'.status = .available →
      r.status = .available ∨ holdHasExpired r now) := by
  unfold reclaim
  split
  · rename_i hexp
    refine clears_bind (clears_flush (.clear hr (.inl ⟨now,hexp⟩))) ?_
    exact fun _ _ => clears_bind (clears_off (deleteHoldCache_off cfg))
      (fun _ _ => clears_ret fun _ => .inr hexp)
  · exact clears_ret .inl

/-- A hold is only placed on a row that was found free, or with a hold that had run out. -/
def PlacedWithin (P : SeatInventory → Prop) (reply : HoldSeatResponse) : Prop :=
  reply.success → ∃ r now, P r ∧ (r.status = .available ∨ holdHasExpired r now)

theorem placedWithin_failed {status : SeatStatus} {heldUntil : Option Time} {errorCode : String} :
    PlacedWithin P (.failed status heldUntil errorCode) := fun h => by cases h

theorem clears_holdAttempt (req : HoldSeatRequest) :
    SeatProg.Clears P (holdAttempt cfg req) (PlacedWithin P) := by
  refine clears_withAppContext (clears_bind clears_datetimeNow fun now _ => ?_)
  refine clears_bind clears_uuid4 fun token _ => ?_
  refine clears_bind clears_selectForUpdate fun row hrow => ?_
  cases row with
  | none => exact clears_bind clears_rollback fun _ _ => clears_ret placedWithin_failed
  | some r =>
    refine clears_bind (clears_reclaim cfg (hrow r rfl)) fun r' hr' => ?_
    split
    · refine clears_bind clears_rollback fun _ _ => ?_
      exact clears_bind clears_refresh fun _ _ => clears_ret placedWithin_failed
    · rename_i hs
      refine clears_bind clears_updateAvailable fun n _ => ?_
      split
      · refine clears_bind clears_rollback fun _ _ => clears_bind clears_sessionGet fun row _ => ?_
        cases row <;> exact clears_ret placedWithin_failed
      · refine clears_bind clears_commit fun _ _ => ?_
        refine clears_bind (clears_off (writeHoldCache_off _ _ _ _)) fun _ _ =>
          clears_ret fun _ => ?_
        exact ⟨r,now,hrow r rfl,hr' (not_not.mp hs)⟩

theorem clears_rollbackOutside {α : Type} {F : α → Prop} {p : SeatProg α}
    (hp : SeatProg.Clears P p F) :
    SeatProg.Clears P (do rollbackOutside cfg; p) F := by
  unfold rollbackOutside
  split
  · exact hp
  · exact clears_raise

theorem clears_holdSeatAttempts (req : HoldSeatRequest) (n : Nat) :
    SeatProg.Clears P (holdSeatAttempts cfg req n) (PlacedWithin P) := by
  induction n with
  | zero => exact clears_raise
  | succ n ih =>
    refine clears_handle (clears_holdAttempt cfg req) fun exc => ?_
    split
    · split
      · exact clears_rollbackOutside cfg (clears_ret placedWithin_failed)
      · exact clears_rollbackOutside cfg ih
    · exact clears_rollbackOutside cfg (clears_ret placedWithin_failed)
    · exact clears_rollbackOutside cfg (clears_ret placedWithin_failed)

theorem clears_releaseSeat (req : SpendHoldRequest) :
    SeatProg.Clears P (releaseSeat cfg req) (fun _ => True) := by
  refine clears_withAppContext
    (clears_bind (clears_off (checkIdempotency_off _)) fun cached _ => ?_)
  cases cached with
  | some success => exact clears_ret trivial
  | none =>
    refine clears_bind clears_selectForUpdate fun row hrow => ?_
    cases hm : row.filter (holdMatches · req) with
    | none =>
      refine clears_bind clears_rollback fun _ _ => ?_
      exact clears_bind (clears_off (cacheIdempotencyResult_off _ _)) fun _ _ => clears_ret trivial
    | some r =>
      obtain ⟨rfl,hreq⟩ := Option.filter_eq_some_iff.mp hm
      refine clears_bind (clears_flush (.clear (hrow r rfl) (.inr ⟨req,hreq⟩))) fun _ _ => ?_
      refine clears_bind clears_commit fun _ _ => ?_
      refine clears_bind (clears_off (deleteHoldCache_off cfg)) fun _ _ => ?_
      exact clears_bind (clears_off (cacheIdempotencyResult_off _ _)) fun _ _ => clears_ret trivial

theorem clears_sellSeat (req : SpendHoldRequest) :
    SeatProg.Clears P (sellSeat cfg req) (fun _ => True) := by
  refine clears_withAppContext (clears_bind clears_selectForUpdate fun row hrow => ?_)
  cases row with
  | none => exact clears_bind clears_rollback fun _ _ => clears_ret trivial
  | some r =>
    dsimp only
    split
    · rename_i hm
      refine clears_bind (clears_flush (.sell (hrow r rfl) hm)) ?_
      refine fun _ _ => clears_bind clears_commit fun _ _ => ?_
      exact clears_bind (clears_off (deleteHoldCache_off cfg)) fun _ _ => clears_ret trivial
    · exact clears_bind clears_rollback fun _ _ => clears_ret trivial

theorem clears_getSeatStatus :
    SeatProg.Clears P (getSeatStatus cfg) (fun _ => True) := by
  refine clears_withAppContext (clears_bind clears_sessionGet fun row hrow => ?_)
  cases row with
  | none => exact clears_ret trivial
  | some r =>
    refine clears_bind clears_datetimeNow fun now _ => ?_
    split
    · rename_i hexp
      refine clears_bind (clears_flush (.clear (hrow r rfl) (.inl ⟨now,hexp⟩))) fun _ _ => ?_
      refine clears_bind clears_commit fun _ _ => ?_
      refine clears_bind (clears_off (deleteHoldCache_off cfg)) fun _ _ => ?_
      exact clears_bind clears_refresh fun _ _ => clears_ret trivial
    · exact clears_ret trivial

/-- What the answer of a call may be. -/
def AnsweredWithin (P : SeatInventory → Prop) : SeatReply → Prop
  | .hold reply => PlacedWithin P reply
  | .spend _ | .status _ => True

theorem clears_prog (call : SeatCall) :
    SeatProg.Clears P (call.prog cfg) (AnsweredWithin P) := by
  cases call with
  | holdSeat req =>
    exact clears_bind (clears_holdSeatAttempts cfg req _) fun _ ha => clears_ret ha
  | releaseSeat req =>
    exact clears_bind (clears_releaseSeat cfg req) fun _ _ => clears_ret trivial
  | sellSeat req => exact clears_bind (clears_sellSeat cfg req) fun _ _ => clears_ret trivial
  | getSeatStatus => exact clears_bind (clears_getSeatStatus cfg) fun _ _ => clears_ret trivial

theorem within_prog (hP : Preserved P) (call : SeatCall) :
    SeatProg.Within P (call.prog cfg) (AnsweredWithin P) :=
  fun h => (clears_prog cfg call h).weaken fun h q hq => hP.within h q hq

end Procedures

section Rows

variable {ι : Type} [DecidableEq ι] {P : SeatInventory → Prop} {db : SeatDb ι} {i : ι}

/-- There is a committed row, and it and the version under the lock satisfy the condition. -/
structure RowsWithin (P : SeatInventory → Prop) (db : SeatDb ι) : Prop where
  row : ∃ r, db.row = some r ∧ P r
  lock (i : ι) (w : SeatInventory) : db.lock = some (i,w) → P w

omit [DecidableEq ι] in
theorem RowsWithin.mono {Q : SeatInventory → Prop} (h : RowsWithin P db) (hPQ : ∀ r, P r → Q r) :
    RowsWithin Q db :=
  ⟨h.row.imp fun r hr => ⟨hr.1,hPQ r hr.2⟩,fun i w hl => hPQ w (h.lock i w hl)⟩

theorem RowsWithin.visible (h : RowsWithin P db) {r : SeatInventory}
    (hr : db.visible i = some r) : P r := by
  unfold SeatDb.visible at hr
  obtain ⟨r',hrow,hr'⟩ := h.row
  split at hr
  · rename_i j w hl
    split at hr
    · cases hr
      exact h.lock j _ hl
    · rw [hrow] at hr
      cases hr
      exact hr'
  · rw [hrow] at hr
    cases hr
    exact hr'

omit [DecidableEq ι] in
theorem RowsWithin.write (h : RowsWithin P db) {w : SeatInventory} (hw : P w) :
    RowsWithin P (db.write i w) :=
  ⟨h.row,fun j w' hl => by cases hl; exact hw⟩

theorem RowsWithin.release (h : RowsWithin P db) : RowsWithin P (db.release i) := by
  unfold SeatDb.release
  split
  · split
    · exact ⟨h.row,fun j w hl => by cases hl⟩
    · exact h
  · exact h

theorem RowsWithin.publish (h : RowsWithin P db) : RowsWithin P (db.publish i) := by
  unfold SeatDb.publish
  split
  · rename_i j w hl
    split
    · exact ⟨⟨w,rfl,h.lock j w hl⟩,fun j w hl => by cases hl⟩
    · exact h
  · exact h

/-- A database statement keeps the condition if its effect does, for the rollback of a failed one
does too. -/
theorem RowsWithin.statement {α : Type} (h : RowsWithin P db) {e : SeatEnv} {run : α × SeatDb ι}
    (hrun : RowsWithin P run.2) : RowsWithin P (db.statement i e run).2 := by
  unfold SeatDb.statement
  split
  · exact h.release
  · exact hrun

theorem RowsWithin.offRow (h : RowsWithin P db) {e : SeatEnv} {q : SeatOp}
    (hq : ¬ SeatDb.OnRow q) : RowsWithin P (SeatDb.perform i e db q).2 := by
  obtain ⟨hl,hr,-⟩ := SeatDb.perform_offRow db i e hq
  exact ⟨hr ▸ h.row,hl ▸ h.lock⟩

theorem RowsWithin.perform (h : RowsWithin P db) {e : SeatEnv} {q : SeatOp}
    (hq : FlushesWithin P [] q) (hhold : HoldsWithin P q) :
    RowsWithin P (SeatDb.perform i e db q).2 := by
  cases q with
  | selectForUpdate =>
    refine h.statement ?_
    split
    · rename_i r hr
      exact h.write (h.visible hr)
    · exact h
  | select => exact h.statement h
  | update c =>
    simp only [SeatDb.perform]
    split
    · rename_i r hr
      exact h.statement (h.write (hq r (h.visible hr)))
    · exact h.release
  | updateAvailable userId holdToken heldUntil =>
    refine h.statement ?_
    split
    · rename_i r hr
      split
      · rename_i hs
        exact h.write (hhold r (h.visible hr) hs)
      · exact h
    · exact h
  | commit => exact h.statement h.publish
  | rollback => exact h.release
  | _ => exact h.offRow id

theorem RowsWithin.answer (h : RowsWithin P db) {e : SeatEnv} (q : SeatOp) :
    ReadsWithin P [] q (SeatDb.perform i e db q).1 := by
  cases q with
  | selectForUpdate =>
    simp only [SeatDb.perform,SeatDb.statement]
    cases e.fault with
    | some err => trivial
    | none =>
      cases hr : db.visible i with
      | none => trivial
      | some r => exact h.visible hr
  | select =>
    simp only [SeatDb.perform,SeatDb.statement]
    cases e.fault with
    | some err => trivial
    | none =>
      cases hr : db.visible i with
      | none => trivial
      | some r => exact h.visible hr
  | _ => trivial

theorem rowsWithin_keeps (hP : Preserved P) :
    Keeps (SeatDb.server ι) Config.anyStep (fun _ => FlushesWithin P) (fun _ => ReadsWithin P)
      (fun db _ => RowsWithin P db) := by
  intro db past i e q h _ _ hq
  have htime : RowsWithin P { db with clock := e.time } := ⟨h.row,h.lock⟩
  exact ⟨htime.answer q,htime.perform hq (hP.holds q)⟩

/-- Whatever calls run side by side: the row keeps to the condition, and holds are only placed
on rows within it. -/
theorem rowsWithin_reach (hP : Preserved P) (cfg : SeatConfig) (calls : ι → SeatCall)
    {db₀ : SeatDb ι} (h₀ : RowsWithin P db₀) {c : SeatRun ι}
    (hrun : Config.Reach (SeatDb.server ι) Config.anyStep
      (.start db₀ (fun i => (calls i).prog cfg)) c) :
    RowsWithin P c.shared ∧ ∀ i reply, c.result i = some reply → AnsweredWithin P reply := by
  have hstart : (Config.start db₀ (fun i => (calls i).prog cfg)).Disciplined
      (fun _ => FlushesWithin P) (fun _ => ReadsWithin P) (fun _ a _ => AnsweredWithin P a)
      (fun _ _ _ => True) (fun db _ => RowsWithin P db) :=
    Config.disciplined_start h₀ (fun i => within_prog cfg hP (calls i) [])
  have hc := hstart.reach (rowsWithin_keeps hP) hrun
  exact ⟨hc.1,fun i reply hi => hc.result hi⟩

end Rows

section Locks

variable {ι : Type} [DecidableEq ι]

/-- A call without an open transaction does not hold the row lock. -/
def LockSeen (db : SeatDb ι) (past : ι → List (Entry SeatStore)) : Prop :=
  ∀ i, txView (past i) = .idle → Holds db i .idle

theorem lockSeen_own {db : SeatDb ι} {i : ι} {e : SeatEnv} {q : SeatOp} {call : SeatCall}
    {h : List (Entry SeatStore)} (hv : txView h = .idle → Holds db i .idle) (hok : Allowed call h q)
    (hafter : (txView h).after q (SeatDb.perform i e db q).1 = .idle) :
    Holds (SeatDb.perform i e db q).2 i .idle := by
  cases q with
  | selectForUpdate =>
    simp only [SeatDb.perform,SeatDb.statement] at hafter ⊢
    cases hf : e.fault with
    | some err => exact release_idle db i
    | none =>
      cases hr : db.visible i with
      | none => exact hv hok
      | some r => simp [hf,hr,TxView.after] at hafter
  | select =>
    simp only [SeatDb.perform,SeatDb.statement] at hafter ⊢
    cases hf : e.fault with
    | some err => exact release_idle db i
    | none =>
      simp only [hf,TxView.after] at hafter
      exact hv hafter
  | update c =>
    simp only [SeatDb.perform,SeatDb.statement] at hafter ⊢
    cases hr : db.visible i with
    | none => exact release_idle db i
    | some r =>
      cases hf : e.fault with
      | some err => exact release_idle db i
      | none =>
        simp only [hr,hf,TxView.after] at hafter
        split at hafter <;> cases hafter
  | updateAvailable userId holdToken heldUntil =>
    obtain ⟨b,w,hview⟩ := hok
    simp only [SeatDb.perform,SeatDb.statement] at hafter ⊢
    cases hf : e.fault with
    | some err => exact release_idle db i
    | none => simp [hf,hview,TxView.after] at hafter
  | commit => exact commit_idle db i e
  | rollback => exact release_idle db i
  | _ => exact (hv hafter).offRow id

theorem lockSeen_keeps (calls : ι → SeatCall) : Keeps (SeatDb.server ι) Config.anyStep
    (fun i => Allowed (calls i)) (fun _ => anyAnswer) LockSeen := by
  intro db past i e q h hready _ hok
  have htime : ∀ j, txView (past j) = .idle → Holds { db with clock := e.time } j .idle :=
    fun j hj => (h j hj).congr rfl rfl (clock_of_ready hready)
  refine ⟨trivial,fun j hidle => ?_⟩
  by_cases hj : j = i
  · subst hj
    rw [Function.update_self] at hidle
    exact lockSeen_own (htime j) hok hidle
  · rw [Function.update_of_ne hj] at hidle
    exact perform_frame (htime j hidle) hj (ready_at_time hready)

/-- When all calls have ended, nobody holds the row lock. -/
theorem unlocked_of_ended (cfg : SeatConfig) (calls : ι → SeatCall) {db₀ : SeatDb ι}
    (hlock : db₀.lock = none) {c : SeatRun ι}
    (hrun : Config.Reach (SeatDb.server ι) Config.anyStep
      (.start db₀ (fun i => (calls i).prog cfg)) c) (hended : ∀ i, c.ended i) :
    c.shared.lock = none := by
  have hstart : (Config.start db₀ (fun i => (calls i).prog cfg)).Disciplined
      (fun i => Allowed (calls i)) (fun _ => anyAnswer) (fun _ => Closed) (fun _ => Closed)
      LockSeen :=
    Config.disciplined_start (fun i _ w => by simp [hlock]) (fun i => prog_follows cfg (calls i))
  have hc := hstart.reach (lockSeen_keeps calls) hrun
  cases hl : c.shared.lock with
  | none => rfl
  | some l =>
    have hidle : txView (c.past l.1) = .idle := by
      rcases hc.ended (hended l.1) with ⟨_,_,hclosed⟩ | ⟨_,_,hclosed⟩
      · exact hclosed
      · exact hclosed
    exact absurd hl (hc.1 l.1 hidle l.2)

end Locks

end TicketRemaster.SeatInventory
