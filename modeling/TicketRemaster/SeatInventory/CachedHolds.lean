import TicketRemaster.SeatInventory.Imported
set_option autoImplicit false

/-! What a hold record in Redis can be: that of any hold that a `HoldSeat` has drawn up. As each has
a token of its own, a record with the token of the row's hold is the record of that hold. -/

namespace TicketRemaster.SeatInventory

open Resumption

/-- A hold as a `HoldSeat` draws it up, before it knows whether the seat is free. -/
structure DrawnHold where
  userId : UserId
  holdToken : HoldToken
  heldUntil : Time
  deriving DecidableEq, Repr

def DrawnHold.record (x : DrawnHold) : CachedHold :=
  ⟨.held,some x.userId,some x.holdToken,.at x.heldUntil⟩

@[simp] theorem DrawnHold.record_holdToken (x : DrawnHold) :
    x.record.holdToken = some x.holdToken := rfl

def drawnNow (call : SeatCall) (now : Option Time) : (q : SeatOp) → q.Ans → Option DrawnHold
  | .uuid4, token => match call, now with
      | .holdSeat req, some now => some ⟨req.userId,token,now+seconds (holdSeconds req)⟩
      | _, _ => none
  | _, _ => none

/-- The holds that a call has drawn up, one for each attempt, newest first. -/
def holdsDrawn (call : SeatCall) : List (Entry SeatStore) → List DrawnHold
  | [] => []
  | e :: h => (drawnNow call (lastNow h) e.1 e.2).toList ++ holdsDrawn call h

theorem mem_holdsDrawn {call : SeatCall} {e : Entry SeatStore} {h : List (Entry SeatStore)}
    {x : DrawnHold} : x ∈ holdsDrawn call (e :: h) ↔
      drawnNow call (lastNow h) e.1 e.2 = some x ∨ x ∈ holdsDrawn call h := by
  simp [holdsDrawn]

/-- The discipline: a call places and records only holds that it has drawn up itself. -/
def Draws (call : SeatCall) (h : List (Entry SeatStore)) : SeatOp → Prop
  | .updateAvailable userId holdToken heldUntil => ⟨userId,holdToken,heldUntil⟩ ∈ holdsDrawn call h
  | .cacheSetex payload _ => ∃ x ∈ holdsDrawn call h, payload = x.record
  | _ => True

/-- The only hold that is placed or recorded is this one, if any. -/
def Places (x : Option DrawnHold) : SeatOp → Prop
  | .updateAvailable userId holdToken heldUntil => x = some ⟨userId,holdToken,heldUntil⟩
  | .cacheSetex payload _ => ∃ y, x = some y ∧ payload = y.record
  | _ => True

abbrev SeatProg.Places {α : Type} (x : Option DrawnHold) (p : SeatProg α) : Prop :=
  p.Calls (SeatInventory.Places x) (fun _ => True)

section Procedures

variable {x : Option DrawnHold} {α : Type} (cfg : SeatConfig)

theorem raiseDb_places (a : Except DbError α) : SeatProg.Places x (raiseDb a) := by
  cases a <;> trivial

theorem aside_places {p : SeatProg α} (hp : SeatProg.StaysAside p) : SeatProg.Places x p := by
  refine hp.mono (fun q hq => ?_) (fun _ _ => trivial)
  cases q <;> trivial

theorem rollback_places : SeatProg.Places x rollback := ⟨trivial,fun _ => trivial⟩

theorem selectForUpdate_places : SeatProg.Places x selectForUpdate :=
  ⟨trivial,fun a => raiseDb_places a⟩

theorem sessionGet_places : SeatProg.Places x sessionGet := ⟨trivial,fun a => raiseDb_places a⟩

theorem flush_places (c : RowChanges) : SeatProg.Places x (flush c) :=
  ⟨trivial,fun a => raiseDb_places a⟩

theorem commit_places : SeatProg.Places x commit := ⟨trivial,fun a => raiseDb_places a⟩

theorem refresh_places : SeatProg.Places x refresh := by
  refine Prog.calls_bind sessionGet_places fun row => ?_
  cases row <;> trivial

theorem withAppContext_places {body : SeatProg α} (hb : SeatProg.Places x body) :
    SeatProg.Places x (withAppContext body) := Prog.calls_ensuring hb rollback_places

theorem reclaim_places (r : SeatInventory) (now : Time) :
    SeatProg.Places x (reclaim cfg r now) := by
  refine Prog.calls_ite ?_ trivial
  refine Prog.calls_bind (flush_places _) fun _ => ?_
  exact Prog.calls_bind (aside_places (deleteHoldCache_aside cfg)) fun _ => trivial

theorem rollbackOutside_places : SeatProg.Places x (rollbackOutside cfg) := by
  unfold rollbackOutside
  split <;> trivial

theorem releaseSeat_places (req : SpendHoldRequest) :
    SeatProg.Places x (releaseSeat cfg req) := by
  refine withAppContext_places ?_
  refine Prog.calls_bind (aside_places (checkIdempotency_aside _)) fun cached => ?_
  cases cached with
  | some success => trivial
  | none =>
    refine Prog.calls_bind selectForUpdate_places fun inventory => ?_
    have hcached : ∀ success, SeatProg.Places x (cacheIdempotencyResult req.holdToken success) :=
      fun _ => aside_places (cacheIdempotencyResult_aside _ _)
    cases inventory.filter (holdMatches · req) with
    | none =>
      refine Prog.calls_bind rollback_places fun _ => ?_
      exact Prog.calls_bind (hcached false) fun _ => trivial
    | some r =>
      refine Prog.calls_bind (flush_places _) fun _ => ?_
      refine Prog.calls_bind commit_places fun _ => ?_
      refine Prog.calls_bind (aside_places (deleteHoldCache_aside cfg)) fun _ => ?_
      exact Prog.calls_bind (hcached true) fun _ => trivial

theorem sellSeat_places (req : SpendHoldRequest) : SeatProg.Places x (sellSeat cfg req) := by
  refine withAppContext_places (Prog.calls_bind selectForUpdate_places fun inventory => ?_)
  cases inventory with
  | none => exact Prog.calls_bind rollback_places fun _ => trivial
  | some r =>
    refine Prog.calls_ite ?_ (Prog.calls_bind rollback_places fun _ => trivial)
    refine Prog.calls_bind (flush_places _) fun _ => ?_
    refine Prog.calls_bind commit_places fun _ => ?_
    exact Prog.calls_bind (aside_places (deleteHoldCache_aside cfg)) fun _ => trivial

theorem getSeatStatus_places : SeatProg.Places x (getSeatStatus cfg) := by
  refine withAppContext_places (Prog.calls_bind sessionGet_places fun inventory => ?_)
  cases inventory with
  | none => trivial
  | some r =>
    refine ⟨trivial,fun now => Prog.calls_ite ?_ trivial⟩
    refine Prog.calls_bind (flush_places _) fun _ => ?_
    refine Prog.calls_bind commit_places fun _ => ?_
    refine Prog.calls_bind (aside_places (deleteHoldCache_aside cfg)) fun _ => ?_
    exact Prog.calls_bind refresh_places fun _ => trivial

theorem writeHoldCache_places (y : DrawnHold) (ttl : Int) :
    SeatProg.Places (some y) (writeHoldCache y.userId y.holdToken y.heldUntil ttl) := by
  refine Prog.calls_bind ⟨trivial,fun _ => trivial⟩ fun up => Prog.calls_ite ?_ trivial
  exact ⟨⟨y,rfl,rfl⟩,fun _ => trivial⟩

end Procedures

section Disciplines

variable {α : Type} {call : SeatCall} {x : Option DrawnHold} {h : List (Entry SeatStore)}

/-- A part of a procedure that places only a hold that has been drawn up keeps to the discipline. -/
theorem places_draws {p : SeatProg α} (hp : SeatProg.Places x p)
    (hx : ∀ y, x = some y → y ∈ holdsDrawn call h) :
    Prog.Follows (Draws call) anyAnswer (fun _ _ => True) (fun _ _ => True) p h := by
  refine (Prog.Calls.follows (J := fun h => ∀ y, x = some y → y ∈ holdsDrawn call h) hp ?_
    (fun h q a _ hJ y hy => mem_holdsDrawn.mpr (.inr (hJ y hy))) hx).mono
    (fun _ _ _ => trivial) (fun _ _ _ => trivial)
  intro h q hq hJ
  cases q with
  | updateAvailable userId holdToken heldUntil => exact hJ _ hq
  | cacheSetex payload ttl =>
    obtain ⟨y,hy,hpayload⟩ := hq
    exact ⟨y,hJ y hy,hpayload⟩
  | _ => trivial

theorem holdAttempt_draws (cfg : SeatConfig) (req : HoldSeatRequest) :
    Prog.Follows (Draws (.holdSeat req)) anyAnswer (fun _ _ => True) (fun _ _ => True)
      (holdAttempt cfg req) h := by
  refine ⟨trivial,fun now _ => ⟨trivial,fun token _ => ?_⟩⟩
  -- from here on the attempt has its hold
  refine places_draws (x := some ⟨req.userId,token,now+seconds (holdSeconds req)⟩) ?_ ?_
  · change SeatProg.Places _ (withAppContext (selectForUpdate >>= _))
    refine withAppContext_places (Prog.calls_bind selectForUpdate_places fun row => ?_)
    cases row with
    | none => exact Prog.calls_bind rollback_places fun _ => trivial
    | some r =>
      refine Prog.calls_bind (reclaim_places cfg r now) fun r' => Prog.calls_ite ?_ ?_
      · refine Prog.calls_bind rollback_places fun _ => ?_
        exact Prog.calls_bind refresh_places fun _ => trivial
      · refine Prog.calls_bind ⟨rfl,fun a => raiseDb_places a⟩ fun n => Prog.calls_ite ?_ ?_
        · refine Prog.calls_bind rollback_places fun _ => ?_
          refine Prog.calls_bind sessionGet_places fun row => ?_
          cases row <;> trivial
        · refine Prog.calls_bind commit_places fun _ => ?_
          exact Prog.calls_bind (writeHoldCache_places _ _) fun _ => trivial
  · rintro y ⟨⟩
    exact mem_holdsDrawn.mpr (.inl rfl)

theorem holdSeatAttempts_draws (cfg : SeatConfig) (req : HoldSeatRequest) (n : Nat) :
    Prog.Follows (Draws (.holdSeat req)) anyAnswer (fun _ _ => True) (fun _ _ => True)
      (holdSeatAttempts cfg req n) h := by
  induction n generalizing h with
  | zero => trivial
  | succ n ih =>
    refine Prog.follows_handle.mpr ((holdAttempt_draws cfg req).mono (fun _ _ _ => trivial) ?_)
    intro exc h _
    have hend : ∀ reply : HoldSeatResponse, Prog.Follows (Draws (.holdSeat req)) anyAnswer
        (fun _ _ => True) (fun _ _ => True) (do rollbackOutside cfg; pure reply) h := fun reply =>
      places_draws (x := none) (Prog.calls_bind (rollbackOutside_places cfg) fun _ => trivial)
        (fun _ hy => by cases hy)
    split
    · split
      · exact hend _
      · refine Prog.follows_bind.mpr ((places_draws (x := none) (rollbackOutside_places cfg)
          (fun _ hy => by cases hy)).mono (fun _ _ _ => ih) (fun _ _ _ => trivial))
    · exact hend _
    · exact hend _

theorem prog_draws (cfg : SeatConfig) (call : SeatCall) :
    Prog.Follows (Draws call) anyAnswer (fun _ _ => True) (fun _ _ => True) (call.prog cfg) h := by
  have hnone : ∀ p : SeatProg SeatReply, SeatProg.Places none p →
      Prog.Follows (Draws call) anyAnswer (fun _ _ => True) (fun _ _ => True) p h :=
    fun p hp => places_draws hp (fun _ hy => by cases hy)
  cases call with
  | holdSeat req => exact Prog.follows_map.mpr (holdSeatAttempts_draws cfg req _)
  | releaseSeat req =>
    exact hnone _ (Prog.calls_bind (releaseSeat_places cfg req) fun _ => trivial)
  | sellSeat req => exact hnone _ (Prog.calls_bind (sellSeat_places cfg req) fun _ => trivial)
  | getSeatStatus => exact hnone _ (Prog.calls_bind (getSeatStatus_places cfg) fun _ => trivial)

end Disciplines

section Records

variable {ι : Type} {calls : ι → SeatCall} {past : ι → List (Entry SeatStore)}

/-- Some call has drawn up the hold. -/
def Drawn (calls : ι → SeatCall) (past : ι → List (Entry SeatStore)) (x : DrawnHold) : Prop :=
  ∃ i, x ∈ holdsDrawn (calls i) (past i)

/-- There is no hold on the row, or one of these. -/
def Carries (S : DrawnHold → Prop) (r : SeatInventory) : Prop :=
  Unheld r ∨ ∃ x, S x ∧ r = heldFor r x.userId x.holdToken x.heldUntil

theorem Carries.sound {S : DrawnHold → Prop} {r : SeatInventory} (h : Carries S r) : Sound r := by
  rcases h with h | ⟨x,-,hr⟩
  · exact .inr h
  · rw [hr]
    exact .inl (heldFor_held _ _ _ _)

theorem Carries.mono {S T : DrawnHold → Prop} (hST : ∀ x, S x → T x) {r : SeatInventory}
    (h : Carries S r) : Carries T r := h.imp_right fun ⟨x,hx,hr⟩ => ⟨x,hST x hx,hr⟩

/-- A flush that clears a proper hold leaves no hold on the row it meets. -/
theorem ClearsHold.unheld {c : RowChanges} (h : ClearsHold Sound c) (r' : SeatInventory) :
    Unheld (c.apply r') := by
  cases h with
  | clear hr hend =>
    rw [flush_clear (hr.held hend)]
    exact ⟨rfl,rfl,rfl⟩
  | sell hr hm =>
    rw [flush_sold (hr.held (.inr ⟨_,hm⟩))]
    exact ⟨rfl,rfl,rfl⟩

/-- The row carries a drawn hold, if any, the record in Redis is that of a drawn hold, and tokens
tell drawn holds apart. -/
structure Recorded (calls : ι → SeatCall) (db : SeatDb ι) (past : ι → List (Entry SeatStore)) :
    Prop where
  row : RowsWithin (Carries (Drawn calls past)) db
  record (payload : CachedHold) (deadline : Time) : db.cache = some (payload,deadline) →
    ∃ x, Drawn calls past x ∧ payload = x.record
  token (x : DrawnHold) : Drawn calls past x → ∃ n ∈ db.issued, x.holdToken = .uuid n
  unique (x y : DrawnHold) : Drawn calls past x → Drawn calls past y →
    x.holdToken = y.holdToken → x = y

variable {db : SeatDb ι} {x : DrawnHold}

theorem Recorded.carried (h : Recorded calls db past) {r : SeatInventory} (hr : db.row = some r)
    {userId : UserId} (hu : r.heldByUserId = some userId) :
    ∃ x, Drawn calls past x ∧ r = heldFor r x.userId x.holdToken x.heldUntil := by
  obtain ⟨r',hr',hcarries⟩ := h.row.row
  obtain rfl := Option.some.inj (hr.symm.trans hr')
  refine hcarries.resolve_left fun hunheld => ?_
  rw [hunheld.1] at hu
  cases hu

theorem Recorded.live (h : Recorded calls db past) {now : Time} {hold : CachedHold}
    (hlive : SeatDb.alive now db.cache = some hold) :
    ∃ x, Drawn calls past x ∧ hold = x.record := by
  cases hc : db.cache with
  | none => rw [hc] at hlive; cases hlive
  | some v =>
    rw [hc] at hlive
    simp only [SeatDb.alive] at hlive
    split at hlive
    · cases hlive
      exact h.record _ _ hc
    · cases hlive

theorem Recorded.token_ne (h : Recorded calls db past) (hx : Drawn calls past x) :
    x.holdToken ≠ .empty := by
  obtain ⟨n,-,hn⟩ := h.token x hx
  rw [hn]
  exact HoldToken.noConfusion

variable [DecidableEq ι] {i : ι} {e : SeatEnv} {q : SeatOp}

theorem drawn_step (a : q.Ans) : Drawn calls (Function.update past i (⟨q,a⟩ :: past i)) x ↔
    drawnNow (calls i) (lastNow (past i)) q a = some x ∨ Drawn calls past x := by
  constructor
  · rintro ⟨j,hj⟩
    by_cases hji : j = i
    · subst hji
      rw [Function.update_self,mem_holdsDrawn] at hj
      exact hj.imp_right fun h => ⟨j,h⟩
    · rw [Function.update_of_ne hji] at hj
      exact .inr ⟨j,hj⟩
  · rintro (hnow | ⟨j,hj⟩)
    · exact ⟨i,by rw [Function.update_self,mem_holdsDrawn]; exact .inl hnow⟩
    · refine ⟨j,?_⟩
      by_cases hji : j = i
      · subst hji
        rw [Function.update_self,mem_holdsDrawn]
        exact .inr hj
      · rwa [Function.update_of_ne hji]

/-- A hold is drawn up with the token that has just been drawn. -/
theorem drawnNow_token {call : SeatCall} {now : Option Time}
    (h : drawnNow call now q (SeatDb.perform i e db q).1 = some x) :
    q = .uuid4 ∧ x.holdToken = .uuid e.uuid := by
  cases q with
  | uuid4 =>
    refine ⟨rfl,?_⟩
    cases call <;> cases now <;> cases h
    rfl
  | _ => cases h

theorem issued_grows {n : Nat} (hn : n ∈ db.issued) : n ∈ (SeatDb.perform i e db q).2.issued := by
  by_cases hq : q = .uuid4
  · subst hq
    exact List.mem_cons_of_mem _ hn
  · rwa [perform_issued db hq]

theorem perform_cache (i : ι) (e : SeatEnv) (db : SeatDb ι) (q : SeatOp) :
    (SeatDb.perform i e db q).2.cache = db.cache ∨ (SeatDb.perform i e db q).2.cache = none ∨
      ∃ payload ttl, q = .cacheSetex payload ttl ∧
        (SeatDb.perform i e db q).2.cache = some (payload,e.time+ttl) := by
  cases q with
  | cacheSetex payload ttl =>
    simp only [SeatDb.perform]
    split
    · exact .inr (.inr ⟨payload,ttl,rfl,rfl⟩)
    · exact .inl rfl
  | cacheDelete =>
    simp only [SeatDb.perform]
    split
    · exact .inr (.inl rfl)
    · exact .inl rfl
  | idempotentSetex holdToken success ttl => left; simp only [SeatDb.perform]; split <;> rfl
  | now | uuid4 | redisPing | idempotentGet | publishInvalidationFailure => exact .inl rfl
  | _ => exact .inl (SeatDb.perform_frame_onRow (f := SeatDb.cache) (fun _ _ _ => rfl) db i trivial)

/-- The discipline of all four procedures. -/
def Records (call : SeatCall) (h : List (Entry SeatStore)) (q : SeatOp) : Prop :=
  FlushesClear Sound q ∧ Draws call h q

theorem recorded_row (h : Recorded calls db past) (hok : Records (calls i) (past i) q) :
    RowsWithin (Carries (Drawn calls past))
      (SeatDb.perform i e { db with clock := e.time } q).2 := by
  have htime : RowsWithin (Carries (Drawn calls past)) { db with clock := e.time } :=
    ⟨h.row.row,h.row.lock⟩
  cases q with
  | update c => exact htime.perform (fun r _ => .inl (hok.1.unheld r)) trivial
  | updateAvailable userId holdToken heldUntil =>
    exact htime.perform trivial fun r _ _ => .inr ⟨_,⟨i,hok.2⟩,rfl⟩
  | _ => exact htime.perform trivial trivial

theorem recorded_cache (h : Recorded calls db past) (hok : Records (calls i) (past i) q)
    {payload : CachedHold} {deadline : Time}
    (hc : (SeatDb.perform i e { db with clock := e.time } q).2.cache = some (payload,deadline)) :
    ∃ x, Drawn calls past x ∧ payload = x.record := by
  rcases perform_cache i e { db with clock := e.time } q with hsame | hnone | ⟨p,ttl,rfl,hset⟩
  · exact h.record payload deadline (hsame ▸ hc)
  · cases hnone.symm.trans hc
  · obtain ⟨x,hx,hp⟩ := hok.2
    obtain rfl : p = payload := congrArg Prod.fst (Option.some.inj (hset.symm.trans hc))
    exact ⟨x,⟨i,hx⟩,hp⟩

/-- A token that has just been drawn is not that of an earlier hold. -/
theorem recorded_unique (h : Recorded calls db past) (hready : SeatDb.ready db i e q)
    {x y : DrawnHold}
    (hx : drawnNow (calls i) (lastNow (past i)) q
      (SeatDb.perform i e { db with clock := e.time } q).1 = some x)
    (hy : Drawn calls past y) : x.holdToken ≠ y.holdToken := by
  obtain ⟨rfl,hxt⟩ := drawnNow_token hx
  obtain ⟨n,hn,hyt⟩ := h.token y hy
  simp only [SeatDb.ready,Bool.and_eq_true,decide_eq_true_eq] at hready
  intro heq
  rw [hxt,hyt] at heq
  exact hready.2 (HoldToken.uuid.inj heq ▸ hn)

theorem recorded_keeps (calls : ι → SeatCall) :
    Keeps (SeatDb.server ι) Config.anyStep (fun i => Records (calls i))
      (fun _ => ReadsWithin Sound) (Recorded calls) := by
  intro db past i e q h hready _ hok
  have htime : RowsWithin Sound { db with clock := e.time } :=
    RowsWithin.mono ⟨h.row.row,h.row.lock⟩ fun _ => Carries.sound
  refine ⟨htime.answer q,?_,?_,?_,?_⟩
  · exact (recorded_row h hok).mono fun r hr =>
      hr.mono fun x hx => (drawn_step _).mpr (.inr hx)
  · intro payload deadline hc
    obtain ⟨x,hx,hp⟩ := recorded_cache h hok hc
    exact ⟨x,(drawn_step _).mpr (.inr hx),hp⟩
  · intro x hx
    rcases (drawn_step _).mp hx with hnow | hx
    · obtain ⟨rfl,ht⟩ := drawnNow_token hnow
      exact ⟨e.uuid,List.mem_cons_self,ht⟩
    · obtain ⟨n,hn,ht⟩ := h.token x hx
      exact ⟨n,issued_grows hn,ht⟩
  · intro x y hx hy hxy
    rcases (drawn_step _).mp hx with hxn | hx <;> rcases (drawn_step _).mp hy with hyn | hy
    · exact Option.some.inj (hxn.symm.trans hyn)
    · exact absurd hxy (recorded_unique h hready hxn hy)
    · exact absurd hxy.symm (recorded_unique h hready hyn hx)
    · exact h.unique x y hx hy hxy

theorem recorded_reach (cfg : SeatConfig) (calls : ι → SeatCall) {db₀ : SeatDb ι}
    {r₀ : SeatInventory} (hrow : db₀.row = some r₀) (hunheld : Unheld r₀) (hlock : db₀.lock = none)
    (hcache : db₀.cache = none) {c : SeatRun ι}
    (hrun : Config.Reach (SeatDb.server ι) Config.anyStep
      (.start db₀ (fun i => (calls i).prog cfg)) c) : Recorded calls c.shared c.past := by
  have hnothing : ∀ x, ¬ Drawn calls (fun _ => []) x := fun x ⟨i,hi⟩ => by cases hi
  have hstart : (Config.start db₀ (fun i => (calls i).prog cfg)).Disciplined
      (fun i => Records (calls i)) (fun _ => ReadsWithin Sound) (fun _ _ _ => True)
      (fun _ _ _ => True) (Recorded calls) := by
    refine Config.disciplined_start ⟨rowsWithin_start hrow hlock (.inl hunheld),?_,?_,?_⟩ ?_
    · intro payload deadline hc
      rw [hcache] at hc
      cases hc
    · exact fun x hx => absurd hx (hnothing x)
    · exact fun x y hx => absurd hx (hnothing x)
    · exact fun i => ((clears_prog cfg (calls i) []).and (prog_draws cfg (calls i))).mono
        (fun _ _ _ => trivial) (fun _ _ _ => trivial)
  exact (hstart.reach (recorded_keeps calls) hrun).1

/-- A record is written only while the row has no other hold, and a hold is committed only while no
record of another one is live. -/
def keptInStep (db : SeatDb ι) (_ : ι → List (Entry SeatStore)) (i : ι) (e : SeatEnv) :
    SeatOp → Bool
  | .cacheSetex payload _ => db.row.all fun r =>
      r.status ≠ .held || payload.holdToken = r.holdToken
  | .commit => db.lock.all fun l => l.1 ≠ i || l.2.status ≠ .held ||
      (SeatDb.alive e.time db.cache).all fun payload => payload.holdToken = l.2.holdToken
  | _ => true

/-- From now on, a live record has the token of the hold on the row, if there is one. -/
def CacheInStep (db : SeatDb ι) : Prop :=
  ∀ r, db.row = some r → r.status = .held → ∀ t payload, db.clock ≤ t →
    SeatDb.alive t db.cache = some payload → payload.holdToken = r.holdToken

theorem cacheInStep_serve (h : CacheInStep db) (hready : SeatDb.ready db i e q)
    (hC : keptInStep db past i e q) : CacheInStep ((SeatDb.server ι).serve i e db q).2 := by
  have hclock := clock_of_ready hready
  have htime := perform_clock (ready_at_time hready)
  intro r hr hs t payload ht hp
  rw [server_serve] at hr ht hp
  rw [htime] at ht
  rcases perform_cache i e { db with clock := e.time } q with hsame | hnone | ⟨p,ttl,rfl,hset⟩
  · rw [hsame] at hp
    rcases perform_row (ready_at_time hready) with hrow | ⟨rfl,w,hlock,hrow⟩
    · rw [hrow] at hr
      exact h r hr hs t payload (hclock.trans ht) hp
    · obtain rfl := Option.some.inj (hrow.symm.trans hr)
      have hlocked : db.lock = some (i,w) := hlock
      simpa [keptInStep,hlocked,hs,SeatDb.alive_mono ht hp] using hC
  · rw [hnone] at hp
    cases hp
  · rw [hset] at hp
    simp only [SeatDb.alive] at hp
    split at hp
    · cases hp
      rcases perform_row (ready_at_time hready) with hrow | ⟨hq,-⟩
      · have hrow' : db.row = some r := hrow.symm.trans hr
        simpa [keptInStep,hrow',hs] using hC
      · cases hq
    · cases hp

theorem cacheInStep_reach (cfg : SeatConfig) (calls : ι → SeatCall) {db₀ : SeatDb ι}
    (hcache : db₀.cache = none) {c : SeatRun ι}
    (hrun : Config.Reach (SeatDb.server ι) (keptInStep · · · · ·)
      (.start db₀ (fun i => (calls i).prog cfg)) c) : CacheInStep c.shared := by
  refine Config.reach_shared
    (fun db past i e q hC hready h => cacheInStep_serve h hready hC) ?_ hrun
  intro r _ _ t payload _ hp
  rw [show (Config.start db₀ (fun i => (calls i).prog cfg)).shared.cache = none from hcache] at hp
  cases hp

end Records

end TicketRemaster.SeatInventory
