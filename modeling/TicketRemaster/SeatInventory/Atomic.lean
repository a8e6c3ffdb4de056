import TicketRemaster.SeatInventory.RowLock
set_option autoImplicit false

/-! What a procedure does to the row when nothing else runs and no statement fails. -/

namespace TicketRemaster.SeatInventory

open Resumption

/-- The committed row, and the row as the running transaction sees it. -/
structure SeatDb.Shows (row current : Option SeatInventory) (db : SeatDb Unit) : Prop where
  row : db.row = row
  current : db.visible () = current

/-- Every statement is made in the environment `e`. From a store that shows these rows the
program returns without raising, and `Q` holds of its result and the committed row. -/
def SeatProg.Alone {α : Type} (e : SeatEnv) (p : SeatProg α)
    (Q : α → Option SeatInventory → Prop) (row current : Option SeatInventory) : Prop :=
  ∀ h (db : SeatDb Unit), db.Shows row current →
    p.Always (SeatDb.server Unit) () (fun _ e' => e = e') (fun a _ s => Q a s.row)
      (fun _ _ _ => False) h db

section Statements

variable {α β : Type} {e : SeatEnv} {Q : β → Option SeatInventory → Prop}
  {row current : Option SeatInventory}

theorem alone_ret {a : β} (hq : Q a row) : SeatProg.Alone e (.ret a) Q row current := by
  rintro h db ⟨rfl,-⟩
  exact hq

theorem alone_now {f : Time → SeatProg β} (hf : SeatProg.Alone e (f e.time) Q row current) :
    SeatProg.Alone e (datetimeNow >>= f) Q row current := by
  rintro h db hdb _ rfl
  exact hf _ _ ⟨hdb.row,hdb.current⟩

theorem alone_uuid4 {f : HoldToken → SeatProg β}
    (hf : SeatProg.Alone e (f (.uuid e.uuid)) Q row current) :
    SeatProg.Alone e (uuid4 >>= f) Q row current := by
  rintro h db hdb _ rfl
  exact hf _ _ ⟨hdb.row,hdb.current⟩

/-- Reading under the lock and reading without it show the same row. -/
theorem alone_selectForUpdate (he : e.fault = none) {f : Option SeatInventory → SeatProg β}
    (hf : SeatProg.Alone e (f current) Q row current) :
    SeatProg.Alone e (selectForUpdate >>= f) Q row current := by
  rintro h db ⟨hrow,hcur⟩ _ rfl
  have hcur' : ({ db with clock := e.time } : SeatDb Unit).visible () = current := hcur
  cases current with
  | none =>
    simp [SeatDb.server,SeatDb.perform,SeatDb.statement,he,hcur',raiseDb]
    exact hf _ _ ⟨hrow,hcur⟩
  | some r =>
    simp [SeatDb.server,SeatDb.perform,SeatDb.statement,he,hcur',raiseDb]
    exact hf _ _ ⟨hrow,by simp [SeatDb.visible,SeatDb.write]⟩

theorem alone_sessionGet (he : e.fault = none) {f : Option SeatInventory → SeatProg β}
    (hf : SeatProg.Alone e (f current) Q row current) :
    SeatProg.Alone e (sessionGet >>= f) Q row current := by
  rintro h db ⟨hrow,hcur⟩ _ rfl
  have hcur' : ({ db with clock := e.time } : SeatDb Unit).visible () = current := hcur
  simp [SeatDb.server,SeatDb.perform,SeatDb.statement,he,hcur',raiseDb]
  exact hf _ _ ⟨hrow,hcur⟩

theorem alone_refresh (he : e.fault = none) {r : SeatInventory} {f : SeatInventory → SeatProg β}
    (hf : SeatProg.Alone e (f r) Q row (some r)) :
    SeatProg.Alone e (refresh >>= f) Q row (some r) := by
  unfold refresh
  rw [Prog.bind_assoc]
  exact alone_sessionGet he hf

theorem alone_flush (he : e.fault = none) {c : RowChanges} {r : SeatInventory}
    {f : Unit → SeatProg β} (hf : SeatProg.Alone e (f ()) Q row (some (c.apply r))) :
    SeatProg.Alone e (flush c >>= f) Q row (some r) := by
  rintro h db ⟨hrow,hcur⟩ _ rfl
  have hcur' : ({ db with clock := e.time } : SeatDb Unit).visible () = some r := hcur
  simp [SeatDb.server,SeatDb.perform,SeatDb.statement,he,hcur',raiseDb]
  exact hf _ _ ⟨hrow,by simp [SeatDb.visible,SeatDb.write]⟩

/-- The conditional `UPDATE` finds the seat free. -/
theorem alone_updateAvailable (he : e.fault = none) {r : SeatInventory}
    (hr : r.status = .available) {userId : UserId} {holdToken : HoldToken} {heldUntil : Time}
    {f : Nat → SeatProg β}
    (hf : SeatProg.Alone e (f 1) Q row (some (heldFor r userId holdToken heldUntil))) :
    SeatProg.Alone e (updateAvailable userId holdToken heldUntil >>= f) Q row (some r) := by
  rintro h db ⟨hrow,hcur⟩ _ rfl
  have hcur' : ({ db with clock := e.time } : SeatDb Unit).visible () = some r := hcur
  simp [SeatDb.server,SeatDb.perform,SeatDb.statement,he,hcur',hr,raiseDb]
  exact hf _ _ ⟨hrow,by simp [SeatDb.visible,SeatDb.write,heldFor]⟩

theorem alone_commit (he : e.fault = none) {f : Unit → SeatProg β}
    (hf : SeatProg.Alone e (f ()) Q current current) :
    SeatProg.Alone e (commit >>= f) Q row current := by
  rintro h db ⟨hrow,hcur⟩ _ rfl
  simp [SeatDb.server,SeatDb.perform,SeatDb.statement,he,raiseDb]
  refine hf _ _ ?_
  unfold SeatDb.publish
  cases hl : db.lock with
  | none =>
    have hv : db.row = current := by simpa [SeatDb.visible,hl] using hcur
    exact ⟨by simp [hv],by simp [SeatDb.visible,hv]⟩
  | some l =>
    have hv : some l.2 = current := by simpa [SeatDb.visible,hl] using hcur
    exact ⟨by simp [hv],by simp [SeatDb.visible,hv]⟩

theorem alone_rollback {f : Unit → SeatProg β} (hf : SeatProg.Alone e (f ()) Q row row) :
    SeatProg.Alone e (rollback >>= f) Q row current := by
  rintro h db ⟨hrow,hcur⟩ _ rfl
  refine hf _ _ ?_
  cases hl : db.lock with
  | none => exact ⟨by simp [SeatDb.server,SeatDb.perform,SeatDb.release,hl,hrow],
      by simp [SeatDb.server,SeatDb.perform,SeatDb.release,SeatDb.visible,hl,hrow]⟩
  | some l => exact ⟨by simp [SeatDb.server,SeatDb.perform,SeatDb.release,hl,hrow],
      by simp [SeatDb.server,SeatDb.perform,SeatDb.release,SeatDb.visible,hl,hrow]⟩

/-- Redis and the broker do not touch the row. -/
theorem alone_off {p : SeatProg α} (hp : SeatProg.Off p) {f : α → SeatProg β}
    (hf : ∀ a, SeatProg.Alone e (f a) Q row current) :
    SeatProg.Alone e (p >>= f) Q row current := by
  intro h db hdb
  have hkept : p.Always (SeatDb.server Unit) () (fun _ e' => e = e')
      (fun _ _ s => SeatDb.Shows row current s)
      (fun _ _ s => False ∧ SeatDb.Shows row current s) h db := by
    refine Prog.Calls.always (J := fun _ s => SeatDb.Shows row current s) hp ?_ hdb
    intro q hq h e' s he hs
    cases q <;> simp only [OffTransaction] at hq <;>
      simp only [SeatDb.server,SeatDb.perform] <;>
      first | exact ⟨hs.row,hs.current⟩ | (split <;> exact ⟨hs.row,hs.current⟩)
  refine Prog.always_bind.mpr (hkept.mono ?_ ?_)
  · exact fun a h s hs => hf a h s hs
  · exact fun x h s hs => hs.1.elim

theorem alone_map {p : SeatProg α} {f : α → β} {P : α → Option SeatInventory → Prop}
    (hp : SeatProg.Alone e p P row current) :
    SeatProg.Alone e (f <$> p) (fun b row' => ∃ a, b = f a ∧ P a row') row current :=
  fun h db hdb => Prog.always_map.mpr ((hp h db hdb).mono (fun a _ _ ha => ⟨a,rfl,ha⟩)
    (fun _ _ _ hf => hf))

/-- What does not raise needs no handler. -/
theorem alone_handle {p : SeatProg β} {f : SeatExn → SeatProg β}
    (hp : SeatProg.Alone e p Q row current) : SeatProg.Alone e (p.handle f) Q row current :=
  fun h db hdb => Prog.always_handle.mpr ((hp h db hdb).mono (fun _ _ _ ha => ha)
    (fun _ _ _ hf => hf.elim))

/-- Leaving the application context rolls back what was not committed. -/
theorem alone_withAppContext {body : SeatProg β} (hb : SeatProg.Alone e body Q row current) :
    SeatProg.Alone e (withAppContext body) Q row current := by
  intro h db hdb
  refine Prog.always_ensuring.mpr ((hb h db hdb).mono ?_ (fun _ _ _ hf => hf.elim))
  intro a h s hq
  rintro _ rfl
  have hrow : (SeatDb.release { s with clock := e.time } ()).row = s.row := SeatDb.release_row _ ()
  exact Prog.always_ret.mpr (hrow ▸ hq)

end Statements

section Procedures

variable {e : SeatEnv} {row : Option SeatInventory}

/-- `HoldSeat` as one step on the row. -/
def holdRow (now : Time) (token : HoldToken) (req : HoldSeatRequest) :
    Option SeatInventory → HoldSeatResponse × Option SeatInventory
  | some r =>
      if r.status = .available ∨ holdHasExpired r now then
        (⟨true,.held,some (now+seconds (holdSeconds req)),"",token⟩,
          some (heldFor r req.userId token (now+seconds (holdSeconds req))))
      else (.failed r.status r.heldUntil "SEAT_NOT_AVAILABLE",some r)
  | none => (.failed (.other "not_found") none "INVENTORY_NOT_FOUND",none)

/-- `SellSeat` as one step on the row. -/
def sellRow (req : SpendHoldRequest) : Option SeatInventory → Bool × Option SeatInventory
  | some r => if holdMatches r req then (true,some (markSold r)) else (false,some r)
  | none => (false,none)

/-- `GetSeatStatus` as one step on the row. -/
def queryRow (now : Time) : Option SeatInventory → GetSeatStatusResponse × Option SeatInventory
  | some r =>
      if holdHasExpired r now then (⟨.available,none⟩,some (clearHold r))
      else (⟨r.status,r.heldUntil⟩,some r)
  | none => (⟨.other "not_found",none⟩,none)

/-- The part of `HoldSeat` after the row, free by now, has been locked. -/
theorem holdFree_alone (req : HoldSeatRequest) {token : HoldToken}
    {heldUntil : Time} {r : SeatInventory} (hr : r.status = .available) (he : e.fault = none)
    {Q : HoldSeatResponse → Option SeatInventory → Prop}
    (hQ : Q ⟨true,.held,some heldUntil,"",token⟩ (some (heldFor r req.userId token heldUntil))) :
    SeatProg.Alone e (do
      let updatedRows ← updateAvailable req.userId token heldUntil
      if updatedRows ≠ 1 then
        rollback
        match ← sessionGet with
        | some latest => pure (.failed latest.status latest.heldUntil "SEAT_NOT_AVAILABLE")
        | none => pure (.failed (.other "not_found") none "SEAT_NOT_AVAILABLE")
      else
        commit
        writeHoldCache req.userId token heldUntil (holdSeconds req)
        pure ⟨true,.held,some heldUntil,"",token⟩) Q row (some r) := by
  refine alone_updateAvailable he hr ?_
  rw [if_neg (by decide)]
  exact alone_commit he (alone_off (writeHoldCache_off _ _ _ _) fun _ => alone_ret hQ)

theorem holdSeat_alone (cfg : SeatConfig) (req : HoldSeatRequest) (he : e.fault = none) (n : Nat) :
    SeatProg.Alone e (holdSeatAttempts cfg req (n+1))
      (fun reply row' => (reply,row') = holdRow e.time (.uuid e.uuid) req row) row row := by
  refine alone_handle (alone_withAppContext (alone_now (alone_uuid4 ?_)))
  refine alone_selectForUpdate he ?_
  cases row with
  | none => exact alone_rollback (alone_ret rfl)
  | some r =>
    unfold reclaim
    by_cases hexp : holdHasExpired r e.time
    · simp only [hexp,if_true,Prog.bind_assoc]
      refine alone_flush he (alone_off (deleteHoldCache_off cfg) fun _ => ?_)
      rw [clearHold_flush,Prog.pure_eq,Prog.ret_bind,if_neg (by simp [clearHold])]
      exact holdFree_alone req rfl he (by simp [holdRow,hexp,heldFor,clearHold])
    · simp only [hexp]
      rw [if_neg (by simp),Prog.pure_eq,Prog.ret_bind]
      by_cases hs : r.status = .available
      · rw [if_neg (not_not_intro hs)]
        exact holdFree_alone req hs he (by simp [holdRow,hs])
      · rw [if_pos hs]
        exact alone_rollback (alone_refresh he (alone_ret (by simp [holdRow,hs,hexp])))

theorem sellSeat_alone (cfg : SeatConfig) (req : SpendHoldRequest) (he : e.fault = none) :
    SeatProg.Alone e (sellSeat cfg req) (fun sold row' => (sold,row') = sellRow req row)
      row row := by
  refine alone_withAppContext (alone_selectForUpdate he ?_)
  cases row with
  | none => exact alone_rollback (alone_ret rfl)
  | some r =>
    by_cases hm : holdMatches r req
    · simp only [hm,if_true,sellRow]
      refine alone_flush he (alone_commit he (alone_off (deleteHoldCache_off cfg) fun _ => ?_))
      exact alone_ret (by rw [markSold_flush])
    · simp only [hm,sellRow]
      exact alone_rollback (alone_ret rfl)

/-- Whatever the cache of earlier answers says, only a matching hold is released. -/
theorem releaseSeat_alone (cfg : SeatConfig) (req : SpendHoldRequest) (he : e.fault = none) :
    SeatProg.Alone e (releaseSeat cfg req) (fun _ row' => row' = row ∨
      ∃ r, row = some r ∧ holdMatches r req ∧ row' = some (clearHold r)) row row := by
  refine alone_withAppContext (alone_off (checkIdempotency_off _) fun cached => ?_)
  cases cached with
  | some success => exact alone_ret (.inl rfl)
  | none =>
    refine alone_selectForUpdate he ?_
    cases hm : row.filter (holdMatches · req) with
    | none =>
      refine alone_rollback (alone_off (cacheIdempotencyResult_off _ _) fun _ => ?_)
      exact alone_ret (.inl rfl)
    | some r =>
      obtain ⟨rfl,hreq⟩ := Option.filter_eq_some_iff.mp hm
      refine alone_flush he (alone_commit he (alone_off (deleteHoldCache_off cfg) fun _ => ?_))
      refine alone_off (cacheIdempotencyResult_off _ _) fun _ => ?_
      exact alone_ret (.inr ⟨r,rfl,hreq,by rw [clearHold_flush]⟩)

theorem getSeatStatus_alone (cfg : SeatConfig) (he : e.fault = none) :
    SeatProg.Alone e (getSeatStatus cfg) (fun reply row' => (reply,row') = queryRow e.time row)
      row row := by
  refine alone_withAppContext (alone_sessionGet he ?_)
  cases row with
  | none => exact alone_ret rfl
  | some r =>
    refine alone_now ?_
    by_cases hexp : holdHasExpired r e.time
    · simp only [hexp,if_true,queryRow]
      refine alone_flush he (alone_commit he (alone_off (deleteHoldCache_off cfg) fun _ => ?_))
      exact alone_refresh he (alone_ret (by rw [clearHold_flush]))
    · simp only [hexp,queryRow]
      exact alone_ret rfl

end Procedures

end TicketRemaster.SeatInventory
