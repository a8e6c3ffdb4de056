import TicketRemaster.SeatInventory.Atomic
import TicketRemaster.SeatInventory.Releases
set_option autoImplicit false

/-! The answers that `ReleaseSeat` keeps in Redis, where nothing else runs and no statement fails:
what is kept under a token, and what an answer then says about the row. -/

namespace TicketRemaster.SeatInventory

open Resumption

abbrev Answers := Table HoldToken (Bool × Time)

/-- The rows that are shown, and the answers that are kept. -/
structure SeatDb.Keeps (row current : Option SeatInventory) (answers : Answers) (db : SeatDb Unit) :
    Prop extends SeatDb.Shows row current db where
  answers : db.idempotent = answers

/-- As `SeatProg.Alone`, with `Q` about the answers as well. -/
def SeatProg.AloneWith {α : Type} (e : SeatEnv) (p : SeatProg α)
    (Q : α → Option SeatInventory → Answers → Prop) (row current : Option SeatInventory)
    (answers : Answers) : Prop :=
  ∀ h (db : SeatDb Unit), db.Keeps row current answers →
    p.Always (SeatDb.server Unit) () (fun _ e' => e = e') (fun a _ s => Q a s.row s.idempotent)
      (fun _ _ _ => False) h db

section Statements

variable {α β : Type} {e : SeatEnv} {Q : β → Option SeatInventory → Answers → Prop}
  {row current : Option SeatInventory} {answers : Answers}

theorem with_ret {a : β} (hq : Q a row answers) :
    SeatProg.AloneWith e (.ret a) Q row current answers := by
  rintro h db ⟨⟨rfl,-⟩,rfl⟩
  exact hq

theorem with_selectForUpdate (he : e.fault = none) {f : Option SeatInventory → SeatProg β}
    (hf : SeatProg.AloneWith e (f current) Q row current answers) :
    SeatProg.AloneWith e (selectForUpdate >>= f) Q row current answers := by
  rintro h db ⟨⟨hrow,hcur⟩,hans⟩ _ rfl
  have hcur' : ({ db with clock := e.time } : SeatDb Unit).visible () = current := hcur
  cases current with
  | none =>
    simp [SeatDb.server,SeatDb.perform,SeatDb.statement,he,hcur',raiseDb]
    exact hf _ _ ⟨⟨hrow,hcur⟩,hans⟩
  | some r =>
    simp [SeatDb.server,SeatDb.perform,SeatDb.statement,he,hcur',raiseDb]
    exact hf _ _ ⟨⟨hrow,by simp [SeatDb.visible,SeatDb.write]⟩,hans⟩

theorem with_flush (he : e.fault = none) {c : RowChanges} {r : SeatInventory}
    {f : Unit → SeatProg β}
    (hf : SeatProg.AloneWith e (f ()) Q row (some (c.apply r)) answers) :
    SeatProg.AloneWith e (flush c >>= f) Q row (some r) answers := by
  rintro h db ⟨⟨hrow,hcur⟩,hans⟩ _ rfl
  have hcur' : ({ db with clock := e.time } : SeatDb Unit).visible () = some r := hcur
  simp [SeatDb.server,SeatDb.perform,SeatDb.statement,he,hcur',raiseDb]
  exact hf _ _ ⟨⟨hrow,by simp [SeatDb.visible,SeatDb.write]⟩,hans⟩

theorem with_commit (he : e.fault = none) {r : SeatInventory} {f : Unit → SeatProg β}
    (hf : SeatProg.AloneWith e (f ()) Q (some r) (some r) answers) :
    SeatProg.AloneWith e (commit >>= f) Q row (some r) answers := by
  rintro h db ⟨⟨hrow,hcur⟩,hans⟩ _ rfl
  simp [SeatDb.server,SeatDb.perform,SeatDb.statement,he,raiseDb]
  refine hf _ _ ⟨?_,(SeatDb.publish_frame (f := SeatDb.idempotent) (fun _ _ _ => rfl) _ _).trans hans⟩
  unfold SeatDb.publish
  cases hl : db.lock with
  | none =>
    have hv : db.row = some r := by simpa [SeatDb.visible,hl] using hcur
    exact ⟨by simp [hv],by simp [SeatDb.visible,hv]⟩
  | some l =>
    have hv : l.2 = r := by simpa [SeatDb.visible,hl] using hcur
    exact ⟨by simp [hv],by simp [SeatDb.visible,hv]⟩

theorem with_rollback {f : Unit → SeatProg β}
    (hf : SeatProg.AloneWith e (f ()) Q row row answers) :
    SeatProg.AloneWith e (rollback >>= f) Q row current answers := by
  rintro h db ⟨⟨hrow,hcur⟩,hans⟩ _ rfl
  refine hf _ _ ⟨?_,(SeatDb.release_frame (f := SeatDb.idempotent) (fun _ _ _ => rfl) _ _).trans hans⟩
  cases hl : db.lock with
  | none => exact ⟨by simp [SeatDb.server,SeatDb.perform,SeatDb.release,hl,hrow],
      by simp [SeatDb.server,SeatDb.perform,SeatDb.release,SeatDb.visible,hl,hrow]⟩
  | some l => exact ⟨by simp [SeatDb.server,SeatDb.perform,SeatDb.release,hl,hrow],
      by simp [SeatDb.server,SeatDb.perform,SeatDb.release,SeatDb.visible,hl,hrow]⟩

theorem with_deleteHoldCache (cfg : SeatConfig) {f : Unit → SeatProg β}
    (hf : SeatProg.AloneWith e (f ()) Q row current answers) :
    SeatProg.AloneWith e (deleteHoldCache cfg >>= f) Q row current answers := by
  intro h db hdb
  have hkept : (deleteHoldCache cfg).Always (SeatDb.server Unit) () (fun _ e' => e = e')
      (fun _ _ s => SeatDb.Keeps row current answers s)
      (fun _ _ s => (False ∧ True) ∧ SeatDb.Keeps row current answers s) h db := by
    refine ((deleteHoldCache_off cfg).and (deleteHoldCache_silent cfg)).always
      (J := fun _ s => SeatDb.Keeps row current answers s) ?_ hdb
    rintro q ⟨hq,hsilent⟩ h e' s he hs
    cases q <;> simp only [OffTransaction,StoresNothing] at hq hsilent <;>
      simp only [SeatDb.server,SeatDb.perform] <;>
      first | exact ⟨⟨hs.row,hs.current⟩,hs.answers⟩ | (split <;>
        exact ⟨⟨hs.row,hs.current⟩,hs.answers⟩)
  refine Prog.always_bind.mpr (hkept.mono ?_ ?_)
  · exact fun a h s hs => hf h s hs
  · exact fun x h s hs => hs.1.1.elim

theorem with_withAppContext {body : SeatProg β}
    (hb : SeatProg.AloneWith e body Q row current answers) :
    SeatProg.AloneWith e (withAppContext body) Q row current answers := by
  intro h db hdb
  refine Prog.always_ensuring.mpr ((hb h db hdb).mono ?_ (fun _ _ _ hf => hf.elim))
  intro a h s hq
  rintro _ rfl
  have hrow : (SeatDb.release { s with clock := e.time } ()).row = s.row := SeatDb.release_row _ ()
  have hans : (SeatDb.release { s with clock := e.time } ()).idempotent = s.idempotent :=
    SeatDb.release_frame (f := SeatDb.idempotent) (fun _ _ _ => rfl) _ _
  exact Prog.always_ret.mpr (hrow ▸ hans ▸ hq)

/-- The answer that is found under the token. -/
def keptAnswer (e : SeatEnv) (answers : Answers) (holdToken : HoldToken) : Option Bool :=
  if e.redisUp then SeatDb.alive e.time (answers.lookup holdToken) else none

theorem with_checkIdempotency {holdToken : HoldToken} {f : Option Bool → SeatProg β}
    (hf : SeatProg.AloneWith e (f (keptAnswer e answers holdToken)) Q row current answers) :
    SeatProg.AloneWith e (checkIdempotency holdToken >>= f) Q row current answers := by
  rintro h db ⟨⟨hrow,hcur⟩,rfl⟩ _ rfl
  unfold keptAnswer at hf
  cases hup : e.redisUp with
  | false =>
    rw [hup] at hf
    simp only [SeatDb.server,SeatDb.perform,hup]
    exact hf _ _ ⟨⟨hrow,hcur⟩,rfl⟩
  | true =>
    rw [hup] at hf
    simp only [SeatDb.server,SeatDb.perform,hup]
    rintro _ rfl
    simp only [hup]
    exact hf _ _ ⟨⟨hrow,hcur⟩,rfl⟩

/-- An answer that is found has been kept. -/
theorem keptAnswer_lookup {holdToken : HoldToken} {success : Bool}
    (h : keptAnswer e answers holdToken = some success) :
    ∃ t, answers.lookup holdToken = some (success,t) := by
  unfold keptAnswer SeatDb.alive at h
  split at h
  · split at h
    · rename_i a t ht
      split at h
      · obtain rfl := Option.some.inj h
        exact ⟨t,ht⟩
      · cases h
    · cases h
  · cases h

/-- The answers after one more has been stored. -/
def storedAnswer (e : SeatEnv) (answers : Answers) (holdToken : HoldToken) (success : Bool) :
    Answers :=
  if e.redisUp then answers.insert holdToken (success,e.time+seconds 3600) else answers

theorem with_cacheIdempotencyResult {holdToken : HoldToken} {success : Bool}
    {f : Unit → SeatProg β}
    (hf : SeatProg.AloneWith e (f ()) Q row current (storedAnswer e answers holdToken success)) :
    SeatProg.AloneWith e (cacheIdempotencyResult holdToken success >>= f) Q row current
      answers := by
  rintro h db ⟨⟨hrow,hcur⟩,rfl⟩ _ rfl
  unfold storedAnswer at hf
  cases hup : e.redisUp with
  | false =>
    rw [hup] at hf
    simp only [SeatDb.server,SeatDb.perform,hup]
    exact hf _ _ ⟨⟨hrow,hcur⟩,rfl⟩
  | true =>
    rw [hup] at hf
    simp only [SeatDb.server,SeatDb.perform,hup]
    rintro _ rfl
    simp only [hup]
    exact hf _ _ ⟨⟨hrow,hcur⟩,rfl⟩

theorem with_map {p : SeatProg α} {f : α → β}
    {P : α → Option SeatInventory → Answers → Prop}
    (hp : SeatProg.AloneWith e p P row current answers) :
    SeatProg.AloneWith e (f <$> p) (fun b row' answers' => ∃ a, b = f a ∧ P a row' answers') row
      current answers :=
  fun h db hdb => Prog.always_map.mpr ((hp h db hdb).mono (fun a _ _ ha => ⟨a,rfl,ha⟩)
    (fun _ _ _ hf => hf))

end Statements

section Procedures

/-- `ReleaseSeat` as one step on the row and the answers. -/
def releaseRow (e : SeatEnv) (req : SpendHoldRequest) (row : Option SeatInventory)
    (answers : Answers) : Bool × Option SeatInventory × Answers :=
  match keptAnswer e answers req.holdToken with
  | some success => (success,row,answers)
  | none =>
      match row.filter (holdMatches · req) with
      | none => (false,row,storedAnswer e answers req.holdToken false)
      | some r => (true,some (clearHold r),storedAnswer e answers req.holdToken true)

variable {e : SeatEnv} {row : Option SeatInventory} {answers : Answers}

theorem releaseSeat_aloneWith (cfg : SeatConfig) (req : SpendHoldRequest) (he : e.fault = none) :
    SeatProg.AloneWith e (releaseSeat cfg req)
      (fun success row' answers' => (success,row',answers') = releaseRow e req row answers)
      row row answers := by
  refine with_withAppContext (with_checkIdempotency ?_)
  cases hkept : keptAnswer e answers req.holdToken with
  | some success => exact with_ret (by simp [releaseRow,hkept])
  | none =>
    refine with_selectForUpdate he ?_
    cases hm : row.filter (holdMatches · req) with
    | none =>
      refine with_rollback (with_cacheIdempotencyResult (with_ret ?_))
      simp [releaseRow,hkept,hm]
    | some r =>
      obtain ⟨rfl,-⟩ := Option.filter_eq_some_iff.mp hm
      refine with_flush he ?_
      rw [clearHold_flush]
      refine with_commit he (with_deleteHoldCache cfg ?_)
      refine with_cacheIdempotencyResult (with_ret ?_)
      simp [releaseRow,hkept,hm]

theorem getSeatStatus_silent (cfg : SeatConfig) : SeatProg.KeepsSilent (getSeatStatus cfg) := by
  have hrollback : SeatProg.KeepsSilent rollback := ⟨trivial,fun _ => trivial⟩
  refine Prog.calls_ensuring ?_ hrollback
  refine Prog.calls_bind ⟨trivial,fun a => raiseDb_silent a⟩ fun inventory => ?_
  cases inventory with
  | none => trivial
  | some r =>
    refine Prog.calls_bind ⟨trivial,fun _ => trivial⟩ fun now => Prog.calls_ite ?_ trivial
    refine Prog.calls_bind ⟨trivial,fun a => raiseDb_silent a⟩ fun _ => ?_
    refine Prog.calls_bind ⟨trivial,fun a => raiseDb_silent a⟩ fun _ => ?_
    refine Prog.calls_bind (deleteHoldCache_silent cfg) fun _ => ?_
    exact Prog.calls_bind refresh_silent fun _ => trivial

/-- Only `ReleaseSeat` stores answers. -/
theorem prog_silent (cfg : SeatConfig) {call : SeatCall} (hcall : ∀ req, call ≠ .releaseSeat req) :
    SeatProg.KeepsSilent (call.prog cfg) := by
  cases call with
  | holdSeat req => exact Prog.calls_bind (holdSeatAttempts_silent cfg req _) fun _ => trivial
  | releaseSeat req => exact absurd rfl (hcall req)
  | sellSeat req => exact Prog.calls_bind (sellSeat_silent cfg req) fun _ => trivial
  | getSeatStatus => exact Prog.calls_bind (getSeatStatus_silent cfg) fun _ => trivial

/-- A program that stores nothing leaves the answers as they are. -/
theorem exec_answers {α : Type} {p : SeatProg α} (hp : SeatProg.KeepsSilent p)
    (ω : List (Entry SeatStore) → SeatEnv) (h : List (Entry SeatStore)) (db : SeatDb Unit) :
    (p.exec (SeatDb.server Unit) () ω h db).state.idempotent = db.idempotent := by
  induction p generalizing h db with
  | ret a => rfl
  | raise x => rfl
  | call q k ih =>
    refine (ih _ (hp.2 _) _ _).trans ?_
    by_cases hq : SeatDb.OnRow q
    · exact SeatDb.perform_frame_onRow (f := SeatDb.idempotent) (fun _ _ _ => rfl) _ _ hq
    · cases q with
      | cacheSetex payload ttl => simp only [SeatDb.server,SeatDb.perform]; split <;> rfl
      | cacheDelete => simp only [SeatDb.server,SeatDb.perform]; split <;> rfl
      | idempotentSetex holdToken success ttl => exact hp.1.elim
      | now | uuid4 | redisPing | idempotentGet | publishInvalidationFailure => rfl
      | _ => exact absurd trivial hq

end Procedures

end TicketRemaster.SeatInventory
