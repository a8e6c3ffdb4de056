import Mathlib.Data.Fintype.Basic
import TicketRemaster.SeatInventory.Exclusive
set_option autoImplicit false

/-! What an answer of `ReleaseSeat` says about the row. Redis keeps the answers under the inventory
and the token, without the user. -/

namespace TicketRemaster.SeatInventory

open Resumption

variable {ι : Type}

/-- The row with its changes, and the call that wrote the answer Redis has under each token. -/
structure AnsweredDb (ι : Type) where
  logged : LoggedDb ι
  writer : HoldToken → Option ι

abbrev AnsweredRun (ι : Type) := Config ι SeatStore SeatExn SeatReply (AnsweredDb ι)

section Server

variable [DecidableEq ι]

def writerAfter (i : ι) (e : SeatEnv) (writer : HoldToken → Option ι) :
    SeatOp → HoldToken → Option ι
  | .idempotentSetex holdToken _ _ =>
      if e.redisUp then Function.update writer holdToken (some i) else writer
  | _ => writer

def AnsweredDb.server (ι : Type) [DecidableEq ι] : Server SeatStore ι SeatEnv (AnsweredDb ι) where
  ready s i e q := SeatDb.ready s.logged.db i e q
  serve i e s q :=
    let r := (LoggedDb.server ι).serve i e s.logged q
    (r.1,⟨r.2,writerAfter i e s.writer q⟩)

end Server

def SeatCall.releases (call : SeatCall) (holdToken : HoldToken) : Bool :=
  match call with
  | .releaseSeat req => req.holdToken = holdToken
  | _ => false

/-- The side condition: what Redis answers was written by a call with the same arguments, and a hold
is committed under a token that nobody has tried to release before. -/
def AnswersOwn (calls : ι → SeatCall) (s : AnsweredDb ι) (past : ι → List (Entry SeatStore)) (i : ι)
    (e : SeatEnv) : SeatOp → Prop
  | .idempotentGet holdToken => e.redisUp →
      (SeatDb.alive e.time (s.logged.db.idempotent.lookup holdToken)).isSome →
        (s.writer holdToken).map calls = some (calls i)
  | .commit => ∀ holdToken ∈ drawnToken (past i),
      ∀ j, (calls j).releases holdToken → (past j).isEmpty
  | _ => True

instance [Fintype ι] (calls : ι → SeatCall) (s : AnsweredDb ι) (past : ι → List (Entry SeatStore))
    (i : ι) (e : SeatEnv) (q : SeatOp) : Decidable (AnswersOwn calls s past i e q) :=
  match q with
  | .idempotentGet _ => inferInstanceAs (Decidable (e.redisUp → _ → _ = some (calls i)))
  | .commit => inferInstanceAs (Decidable (∀ _ ∈ drawnToken (past i), ∀ _, _ → _))
  | .now | .uuid4 | .selectForUpdate | .select | .update _ | .updateAvailable _ _ _ | .rollback
  | .redisPing | .cacheSetex _ _ | .cacheDelete | .idempotentSetex _ _ _
  | .publishInvalidationFailure => inferInstanceAs (Decidable True)

/-- The row was locked and found without the hold. -/
def Denied (req : SpendHoldRequest) (h : List (Entry SeatStore)) : Prop :=
  ∃ row, (⟨.selectForUpdate,.ok row⟩ : Entry SeatStore) ∈ h ∧ row.filter (holdMatches · req) = none

/-- Where a `ReleaseSeat` has its answer from: Redis, the row, or its own commit. -/
def Answered (req : SpendHoldRequest) (success : Bool) (h : List (Entry SeatStore)) : Prop :=
  (⟨.idempotentGet req.holdToken,some success⟩ : Entry SeatStore) ∈ h ∨
    success = false ∧ Denied req h ∨ success = true ∧ published h ≠ []

/-- What the answer is relied on for. -/
def Settled (calls : ι → SeatCall) (s : LoggedDb ι) (req : SpendHoldRequest) (success : Bool) :
    Prop :=
  (∀ r, s.db.row = some r → ¬ holdMatches r req) ∧
    (success → ∃ x ∈ s.changes, calls x.call = .releaseSeat req ∧ holdMatches x.before req ∧
      x.after = clearHold x.before)

theorem published_grows {h : List (Entry SeatStore)} (hp : published h ≠ []) (x : Entry SeatStore) :
    published (x :: h) ≠ [] := by
  obtain ⟨q,a⟩ := x
  cases q with
  | commit =>
    cases a with
    | error e => exact hp
    | ok u =>
      rw [published_cons]
      cases txView h with
      | own b w => exact List.cons_ne_nil _ _
      | idle => exact hp
      | blind => exact hp
  | _ => exact hp

theorem Answered.older {req : SpendHoldRequest} {success : Bool} {h : List (Entry SeatStore)}
    (ha : Answered req success h) (x : Entry SeatStore) : Answered req success (x :: h) := by
  rcases ha with hmem | ⟨rfl,row,hrow,hno⟩ | ⟨rfl,hp⟩
  · exact .inl (List.mem_cons_of_mem _ hmem)
  · exact .inr (.inl ⟨rfl,row,List.mem_cons_of_mem _ hrow,hno⟩)
  · exact .inr (.inr ⟨rfl,published_grows hp x⟩)

theorem Answered.started {req : SpendHoldRequest} {success : Bool} {h : List (Entry SeatStore)}
    (ha : Answered req success h) : h ≠ [] := by
  rintro rfl
  rcases ha with hmem | ⟨-,row,hrow,-⟩ | ⟨-,hp⟩
  · cases hmem
  · cases hrow
  · exact hp rfl

section Discipline

/-- The discipline: only a `ReleaseSeat` that has its answer stores it. -/
def StoresAnswer (call : SeatCall) (h : List (Entry SeatStore)) : SeatOp → Prop
  | .idempotentSetex holdToken success _ =>
      ∃ req, call = .releaseSeat req ∧ holdToken = req.holdToken ∧ Answered req success h
  | _ => True

def StoresNothing : SeatOp → Prop
  | .idempotentSetex _ _ _ => False
  | _ => True

abbrev SeatProg.KeepsSilent {α : Type} (p : SeatProg α) : Prop :=
  p.Calls StoresNothing (fun _ => True)

variable {α : Type} (cfg : SeatConfig)

theorem raiseDb_silent (a : Except DbError α) : SeatProg.KeepsSilent (raiseDb a) := by
  cases a <;> trivial

theorem deleteHoldCacheAttempts_silent (n : Nat) :
    SeatProg.KeepsSilent (deleteHoldCacheAttempts n) := by
  induction n with
  | zero => trivial
  | succ n ih =>
    refine Prog.calls_bind ⟨trivial,fun _ => trivial⟩ fun deleted => ?_
    exact Prog.calls_ite trivial (Prog.calls_ite ⟨trivial,fun _ => trivial⟩ ih)

theorem deleteHoldCache_silent : SeatProg.KeepsSilent (deleteHoldCache cfg) :=
  Prog.calls_bind ⟨trivial,fun _ => trivial⟩ fun _ =>
    Prog.calls_ite (deleteHoldCacheAttempts_silent _) trivial

theorem rollbackOutside_silent : SeatProg.KeepsSilent (rollbackOutside cfg) := by
  unfold rollbackOutside
  split <;> trivial

theorem refresh_silent : SeatProg.KeepsSilent refresh := by
  refine Prog.calls_bind ⟨trivial,fun a => raiseDb_silent a⟩ fun row => ?_
  cases row <;> trivial

theorem reclaim_silent (r : SeatInventory) (now : Time) :
    SeatProg.KeepsSilent (reclaim cfg r now) := by
  refine Prog.calls_ite ?_ trivial
  refine Prog.calls_bind ⟨trivial,fun a => raiseDb_silent a⟩ fun _ => ?_
  exact Prog.calls_bind (deleteHoldCache_silent cfg) fun _ => trivial

theorem holdAttempt_silent (req : HoldSeatRequest) :
    SeatProg.KeepsSilent (holdAttempt cfg req) := by
  have hrollback : SeatProg.KeepsSilent rollback := ⟨trivial,fun _ => trivial⟩
  refine Prog.calls_ensuring ?_ hrollback
  refine Prog.calls_bind ⟨trivial,fun _ => trivial⟩ fun now => ?_
  refine Prog.calls_bind ⟨trivial,fun _ => trivial⟩ fun token => ?_
  refine Prog.calls_bind ⟨trivial,fun a => raiseDb_silent a⟩ fun row => ?_
  cases row with
  | none => exact Prog.calls_bind hrollback fun _ => trivial
  | some r =>
    refine Prog.calls_bind (reclaim_silent cfg r now) fun r' => Prog.calls_ite ?_ ?_
    · refine Prog.calls_bind hrollback fun _ => ?_
      exact Prog.calls_bind refresh_silent fun _ => trivial
    · refine Prog.calls_bind ⟨trivial,fun a => raiseDb_silent a⟩ fun n => Prog.calls_ite ?_ ?_
      · refine Prog.calls_bind hrollback fun _ => ?_
        refine Prog.calls_bind ⟨trivial,fun a => raiseDb_silent a⟩ fun row => ?_
        cases row <;> trivial
      · refine Prog.calls_bind ⟨trivial,fun a => raiseDb_silent a⟩ fun _ => ?_
        refine Prog.calls_bind ?_ fun _ => trivial
        refine Prog.calls_bind ⟨trivial,fun _ => trivial⟩ fun up => Prog.calls_ite ?_ trivial
        exact ⟨trivial,fun _ => trivial⟩

theorem holdSeatAttempts_silent (req : HoldSeatRequest) (n : Nat) :
    SeatProg.KeepsSilent (holdSeatAttempts cfg req n) := by
  induction n with
  | zero => trivial
  | succ n ih =>
    refine Prog.calls_handle (holdAttempt_silent cfg req) fun exc _ => ?_
    split
    · exact Prog.calls_ite (Prog.calls_bind (rollbackOutside_silent cfg) fun _ => trivial)
        (Prog.calls_bind (rollbackOutside_silent cfg) fun _ => ih)
    · exact Prog.calls_bind (rollbackOutside_silent cfg) fun _ => trivial
    · exact Prog.calls_bind (rollbackOutside_silent cfg) fun _ => trivial

theorem sellSeat_silent (req : SpendHoldRequest) : SeatProg.KeepsSilent (sellSeat cfg req) := by
  have hrollback : SeatProg.KeepsSilent rollback := ⟨trivial,fun _ => trivial⟩
  refine Prog.calls_ensuring ?_ hrollback
  refine Prog.calls_bind ⟨trivial,fun a => raiseDb_silent a⟩ fun inventory => ?_
  cases inventory with
  | none => exact Prog.calls_bind hrollback fun _ => trivial
  | some r =>
    refine Prog.calls_ite ?_ (Prog.calls_bind hrollback fun _ => trivial)
    refine Prog.calls_bind ⟨trivial,fun a => raiseDb_silent a⟩ fun _ => ?_
    refine Prog.calls_bind ⟨trivial,fun a => raiseDb_silent a⟩ fun _ => ?_
    exact Prog.calls_bind (deleteHoldCache_silent cfg) fun _ => trivial

/-- The discipline, with what holds when the program returns. -/
abbrev SeatProg.Stores (req : SpendHoldRequest) (p : SeatProg α)
    (fin : α → List (Entry SeatStore) → Prop) (h : List (Entry SeatStore)) : Prop :=
  Prog.Follows (StoresAnswer (.releaseSeat req)) anyAnswer fin (fun _ _ => True) p h

variable {req : SpendHoldRequest} {h : List (Entry SeatStore)}

theorem withAppContext_stores {body : SeatProg Bool}
    (hb : SeatProg.Stores req body (Answered req) h) :
    SeatProg.Stores req (withAppContext body) (Answered req) h := by
  refine Prog.follows_ensuring.mpr (hb.mono ?_ ?_)
  · exact fun success h' ha => ⟨trivial,fun _ _ => ha.older _⟩
  · exact fun _ _ _ => ⟨trivial,fun _ _ => trivial⟩

theorem checkIdempotency_stores : SeatProg.Stores req (checkIdempotency req.holdToken)
    (fun cached h' => ∀ success, cached = some success → Answered req success h') h := by
  refine ⟨trivial,fun up _ => Prog.follows_ite (fun _ => ⟨trivial,fun a _ => ?_⟩) fun _ => ?_⟩
  · rintro success rfl
    exact .inl List.mem_cons_self
  · rintro success ⟨⟩

theorem deleteHoldCache_stores (hp : published h ≠ []) :
    SeatProg.Stores req (deleteHoldCache cfg) (fun _ h' => published h' ≠ []) h := by
  refine (Prog.Calls.follows (deleteHoldCache_silent cfg) ?_ ?_ hp).mono (fun _ _ hp => hp)
    fun _ _ _ => trivial
  · intro h' q hq _
    cases q with
    | idempotentSetex holdToken success ttl => exact hq.elim
    | _ => trivial
  · exact fun h' q a _ hp => published_grows hp _

theorem cacheIdempotencyResult_stores {success : Bool} (ha : Answered req success h) :
    SeatProg.Stores req (do cacheIdempotencyResult req.holdToken success; pure success)
      (Answered req) h := by
  refine Prog.follows_bind.mpr
    ⟨trivial,fun up _ => Prog.follows_ite (fun _ => ?_) fun _ => ha.older _⟩
  exact ⟨⟨req,rfl,rfl,ha.older _⟩,fun _ _ => (ha.older _).older _⟩

theorem selectForUpdate_stores {f : Option SeatInventory → SeatProg α}
    {fin : α → List (Entry SeatStore) → Prop}
    (hf : ∀ row, SeatProg.Stores req (f row) fin (⟨.selectForUpdate,.ok row⟩ :: h)) :
    SeatProg.Stores req (selectForUpdate >>= f) fin h := by
  refine Prog.follows_bind.mpr ⟨trivial,fun a _ => ?_⟩
  cases a with
  | error e => trivial
  | ok row => exact hf row

/-- A `ReleaseSeat` has its answer when it stores it, and when it returns it. -/
theorem releaseSeat_stores : SeatProg.Stores req (releaseSeat cfg req) (Answered req) h := by
  refine withAppContext_stores (Prog.follows_bind.mpr (checkIdempotency_stores.mono ?_ ?_))
  · intro cached h' hcached
    cases cached with
    | some success => exact hcached success rfl
    | none =>
      refine selectForUpdate_stores fun row => ?_
      cases hm : row.filter (holdMatches · req) with
      | none =>
        refine Prog.follows_bind.mpr ⟨trivial,fun _ _ => cacheIdempotencyResult_stores ?_⟩
        exact .inr (.inl ⟨rfl,row,by simp,hm⟩)
      | some r =>
        obtain ⟨rfl,-⟩ := Option.filter_eq_some_iff.mp hm
        refine Prog.follows_bind.mpr ⟨trivial,fun a _ => ?_⟩
        cases a with
        | error e => trivial
        | ok u =>
          refine Prog.follows_bind.mpr ⟨trivial,fun a _ => ?_⟩
          cases a with
          | error e => trivial
          | ok u =>
            refine Prog.follows_bind.mpr ((deleteHoldCache_stores cfg ?_).mono ?_ ?_)
            · simp [publishedAfter,TxView.after]
            · exact fun _ h' hp => cacheIdempotencyResult_stores (.inr (.inr ⟨rfl,hp⟩))
            · exact fun _ _ h => h
  · exact fun _ _ _ => trivial

def ReplyAnswered (call : SeatCall) (reply : SeatReply) (h : List (Entry SeatStore)) : Prop :=
  ∀ req success, call = .releaseSeat req → reply = .spend success → Answered req success h

theorem prog_stores (call : SeatCall) (hcall : call ≠ .getSeatStatus) :
    Prog.Follows (StoresAnswer call) anyAnswer (ReplyAnswered call) (fun _ _ => True)
      (call.prog cfg) [] := by
  have hsilent : ∀ {β : Type} (p : SeatProg β), SeatProg.KeepsSilent p →
      Prog.Follows (StoresAnswer call) anyAnswer (fun _ _ => True) (fun _ _ => True) p [] := by
    intro β p hp
    refine (Prog.Calls.follows (J := fun _ => True) hp ?_ (fun _ _ _ _ _ => trivial) trivial).mono
      (fun _ _ _ => trivial) fun _ _ _ => trivial
    intro h' q hq _
    cases q with
    | idempotentSetex holdToken success ttl => exact hq.elim
    | _ => trivial
  cases call with
  | holdSeat req =>
    exact Prog.follows_map.mpr ((hsilent _ (holdSeatAttempts_silent cfg req _)).mono
      (fun _ _ _ _ _ => nofun) fun _ _ _ => trivial)
  | releaseSeat req =>
    refine Prog.follows_map.mpr ((releaseSeat_stores cfg).mono ?_ fun _ _ _ => trivial)
    rintro success h' ha _ _ ⟨⟩ ⟨⟩
    exact ha
  | sellSeat req =>
    exact Prog.follows_map.mpr ((hsilent _ (sellSeat_silent cfg req)).mono
      (fun _ _ _ _ _ => nofun) fun _ _ _ => trivial)
  | getSeatStatus => exact absurd rfl hcall

end Discipline

section Steps

variable {calls : ι → SeatCall}

/-- The hold that a release has cleared does not come back. -/
theorem Exclusive.settled {s : LoggedDb ι} {past : ι → List (Entry SeatStore)}
    (h : Exclusive calls s past) {i : ι} {req : SpendHoldRequest} (hi : calls i = .releaseSeat req)
    (hp : published (past i) ≠ []) : Settled calls s req true := by
  obtain ⟨⟨b,w⟩,hbw⟩ := List.exists_mem_of_ne_nil _ hp
  have hx := h.logged i b w hbw
  have hmade := h.made _ hx
  simp only [hi] at hmade
  refine ⟨fun r hr hm => ?_,fun _ => ⟨_,hx,hi,hmade⟩⟩
  obtain ⟨hheld,-,htoken⟩ := holdMatches_iff.mp hm
  exact h.tokens.live r _ hr hheld htoken _ hx (by simp [Change.spent,hi,SeatCall.spentToken])

variable [DecidableEq ι]

/-- Only a commit of a hold with this token would bring back what a release has settled. -/
theorem Settled.kept {s : LoggedDb ι} {past : ι → List (Entry SeatStore)} {i j : ι} {e : SeatEnv}
    {q : SeatOp} {req : SpendHoldRequest} {success : Bool} (hs : Settled calls s req success)
    (h : Exclusive calls s past) (hready : SeatDb.ready s.db i e q)
    (hok : Exact (calls i) (past i) q)
    (hfresh : q = .commit → ∀ holdToken ∈ drawnToken (past i),
      ∀ k, (calls k).releases holdToken → (past k).isEmpty)
    (hj : calls j = .releaseSeat req) (hstarted : past j ≠ []) :
    Settled calls ((LoggedDb.server ι).serve i e s q).2 req success := by
  by_cases hq : q = .commit
  · subst hq
    refine ⟨fun r hr hm => ?_,fun hsuccess => ?_⟩
    · rcases perform_row (ready_at_time hready) with hrow | ⟨-,w,hlock,hrow⟩
      · exact hs.1 r (hrow.symm.trans hr) hm
      · obtain rfl : w = r := Option.some.inj (hrow.symm.trans hr)
        have hview := h.row.view i
        cases hv : txView (past i) with
        | blind => exact h.sighted i hv
        | idle =>
          rw [hv] at hview
          exact hview w hlock
        | own b w' =>
          rw [hv] at hview
          obtain rfl : w' = w := by simpa using hview.1.symm.trans hlock
          have hc := hok b w' hv
          obtain ⟨hheld,-,htoken⟩ := holdMatches_iff.mp hm
          cases hi : calls i with
          | holdSeat hreq =>
            rw [hi] at hc
            obtain ⟨now,token,-,hdrawn,-,rfl⟩ := hc
            obtain rfl : token = req.holdToken := Option.some.inj htoken
            have hempty := hfresh rfl req.holdToken hdrawn j (by simp [hj,SeatCall.releases])
            exact hstarted (List.isEmpty_iff.mp hempty)
          | releaseSeat sreq =>
            rw [hi] at hc
            rw [hc.2] at hheld
            cases hheld
          | sellSeat sreq =>
            rw [hi] at hc
            rw [hc.2] at hheld
            cases hheld
          | getSeatStatus =>
            rw [hi] at hc
            exact hc
    · obtain ⟨x,hx,hcall⟩ := hs.2 hsuccess
      exact ⟨x,List.mem_append_right _ hx,hcall⟩
  · obtain ⟨hrow,hchanges⟩ := serve_row (s := s) hready hq
    exact ⟨fun r hr => hs.1 r (hrow ▸ hr),fun hsuccess => hchanges ▸ hs.2 hsuccess⟩

/-- The calls that have their answers can be relied on, and Redis has kept only such answers. -/
structure Reliable (calls : ι → SeatCall) (s : AnsweredDb ι) (past : ι → List (Entry SeatStore)) :
    Prop where
  exclusive : Exclusive calls s.logged past
  settled : ∀ i req success, calls i = .releaseSeat req → Answered req success (past i) →
    Settled calls s.logged req success
  stored : ∀ holdToken success deadline,
    s.logged.db.idempotent.lookup holdToken = some (success,deadline) →
    ∀ j, s.writer holdToken = some j → ∃ req, calls j = .releaseSeat req ∧
      req.holdToken = holdToken ∧ Answered req success (past j)

theorem Answered.later {past : ι → List (Entry SeatStore)} {i j : ι} {req : SpendHoldRequest}
    {success : Bool} (ha : Answered req success (past j)) (x : Entry SeatStore) :
    Answered req success (Function.update past i (x :: past i) j) := by
  by_cases hj : j = i
  · subst hj
    rw [Function.update_self]
    exact ha.older x
  · rwa [Function.update_of_ne hj]

/-- A new answer comes from Redis, from the row under its lock, or from the commit. -/
theorem answered_cases {req : SpendHoldRequest} {success : Bool} {q : SeatOp} {a : q.Ans}
    {h : List (Entry SeatStore)} (ha : Answered req success (⟨q,a⟩ :: h)) :
    Answered req success h ∨
    (⟨q,a⟩ : Entry SeatStore) = ⟨.idempotentGet req.holdToken,some success⟩ ∨
    (success = false ∧ ∃ row, (⟨q,a⟩ : Entry SeatStore) = ⟨.selectForUpdate,.ok row⟩ ∧
      row.filter (holdMatches · req) = none) ∨
    success = true ∧ published (⟨q,a⟩ :: h) ≠ [] := by
  rcases ha with hmem | ⟨rfl,row,hrow,hno⟩ | hp
  · rcases List.mem_cons.mp hmem with heq | hmem
    · exact .inr (.inl heq.symm)
    · exact .inl (.inl hmem)
  · rcases List.mem_cons.mp hrow with heq | hrow
    · exact .inr (.inr (.inl ⟨rfl,row,heq.symm,hno⟩))
    · exact .inl (.inr (.inl ⟨rfl,row,hrow,hno⟩))
  · exact .inr (.inr (.inr hp))

/-- Only a stored answer changes what Redis has under the tokens. -/
theorem perform_idempotent (db : SeatDb ι) (i : ι) (e : SeatEnv) {q : SeatOp}
    (hq : StoresNothing q) : (SeatDb.perform i e db q).2.idempotent = db.idempotent := by
  cases q with
  | idempotentSetex holdToken success ttl => exact hq.elim
  | cacheSetex payload ttl => simp only [SeatDb.perform]; split <;> rfl
  | cacheDelete => simp only [SeatDb.perform]; split <;> rfl
  | now | uuid4 | redisPing | idempotentGet | publishInvalidationFailure => rfl
  | _ => exact SeatDb.perform_frame_onRow (f := SeatDb.idempotent) (fun _ _ _ => rfl) db i trivial

theorem alive_lookup {v : Option (Bool × Time)} {now : Time} {success : Bool}
    (h : SeatDb.alive now v = some success) : ∃ deadline, v = some (success,deadline) := by
  unfold SeatDb.alive at h
  split at h
  · split at h
    · cases h
      exact ⟨_,rfl⟩
    · cases h
  · cases h

theorem Reliable.settle {s : AnsweredDb ι} {past : ι → List (Entry SeatStore)} {i : ι} {e : SeatEnv}
    {q : SeatOp} (hinv : Reliable calls s past) (hready : SeatDb.ready s.logged.db i e q)
    (hC : AnswersOwn calls s past i e q) (hok : Exact (calls i) (past i) q)
    {j : ι} {req : SpendHoldRequest} {success : Bool} (hj : calls j = .releaseSeat req)
    (ha : Answered req success (past j)) :
    Settled calls ((LoggedDb.server ι).serve i e s.logged q).2 req success := by
  refine (hinv.settled j req success hj ha).kept hinv.exclusive hready hok ?_ hj ha.started
  rintro rfl
  exact hC

/-- An answer that was in Redis: the call that wrote it has it too. -/
theorem Reliable.settle_stored {s : AnsweredDb ι} {past : ι → List (Entry SeatStore)} {i : ι}
    {e : SeatEnv} {req : SpendHoldRequest} {success : Bool} (hinv : Reliable calls s past)
    (hready : SeatDb.ready s.logged.db i e (.idempotentGet req.holdToken))
    (hC : AnswersOwn calls s past i e (.idempotentGet req.holdToken))
    (hok : Exact (calls i) (past i) (.idempotentGet req.holdToken))
    (hi : calls i = .releaseSeat req)
    (hserved : (if e.redisUp then SeatDb.alive e.time
      (s.logged.db.idempotent.lookup req.holdToken) else none) = some success) :
    Settled calls ((LoggedDb.server ι).serve i e s.logged (.idempotentGet req.holdToken)).2 req
      success := by
  by_cases hup : e.redisUp
  · rw [if_pos hup] at hserved
    have hwriter := hC hup (by rw [hserved]; rfl)
    obtain ⟨k,hk,hcall⟩ := Option.map_eq_some_iff.mp hwriter
    obtain ⟨deadline,hlook⟩ := alive_lookup hserved
    obtain ⟨kreq,hkreq,-,hka⟩ := hinv.stored _ _ _ hlook k hk
    obtain rfl : kreq = req := SeatCall.releaseSeat.inj (hkreq.symm.trans (hcall.trans hi))
    exact hinv.settle hready hC hok hkreq hka
  · rw [if_neg hup] at hserved
    cases hserved

/-- A call only stores the answer that it has. -/
theorem Reliable.stored_kept {s : AnsweredDb ι} {past : ι → List (Entry SeatStore)} {i : ι}
    {e : SeatEnv} {q : SeatOp} (hinv : Reliable calls s past)
    (hstores : StoresAnswer (calls i) (past i) q) {holdToken : HoldToken} {success : Bool}
    {deadline : Time} {j : ι}
    (hlook : ((AnsweredDb.server ι).serve i e s q).2.logged.db.idempotent.lookup holdToken =
      some (success,deadline))
    (hwriter : ((AnsweredDb.server ι).serve i e s q).2.writer holdToken = some j) :
    ∃ req, calls j = .releaseSeat req ∧ req.holdToken = holdToken ∧ Answered req success
      (Function.update past i (⟨q,((AnsweredDb.server ι).serve i e s q).1⟩ :: past i) j) := by
  have hkept : s.logged.db.idempotent.lookup holdToken = some (success,deadline) →
      s.writer holdToken = some j → ∃ req, calls j = .releaseSeat req ∧
        req.holdToken = holdToken ∧ Answered req success
          (Function.update past i (⟨q,((AnsweredDb.server ι).serve i e s q).1⟩ :: past i) j) := by
    intro hlook hwriter
    obtain ⟨req,hj,htoken,ha⟩ := hinv.stored _ _ _ hlook j hwriter
    exact ⟨req,hj,htoken,ha.later _⟩
  by_cases hsilent : StoresNothing q
  · have hsame := perform_idempotent { s.logged.db with clock := e.time } i e hsilent
    refine hkept (hsame ▸ hlook) ?_
    cases q with
    | idempotentSetex => exact hsilent.elim
    | _ => exact hwriter
  · cases q with
    | idempotentSetex stored answer ttl =>
      by_cases hup : e.redisUp
      · simp only [AnsweredDb.server,writerAfter,hup,if_true] at hwriter
        simp only [AnsweredDb.server,LoggedDb.server,server_serve,SeatDb.perform,hup,if_true]
          at hlook
        by_cases htoken : holdToken = stored
        · subst htoken
          rw [Function.update_self] at hwriter
          rw [AList.lookup_insert] at hlook
          cases hwriter
          cases hlook
          obtain ⟨req,hi,rfl,ha⟩ := hstores
          exact ⟨req,hi,rfl,ha.later _⟩
        · rw [Function.update_of_ne htoken] at hwriter
          rw [AList.lookup_insert_ne htoken] at hlook
          exact hkept hlook hwriter
      · simp only [AnsweredDb.server,writerAfter,hup] at hwriter
        simp only [AnsweredDb.server,LoggedDb.server,server_serve,SeatDb.perform,hup] at hlook
        exact hkept hlook hwriter
    | _ => exact absurd trivial hsilent

theorem reliable_kept (hcalls : ∀ i, calls i ≠ .getSeatStatus) :
    Keeps (AnsweredDb.server ι) (AnswersOwn calls)
      (fun i h q => Exact (calls i) h q ∧ StoresAnswer (calls i) h q) (fun _ => anyAnswer)
      (Reliable calls) := by
  intro s past i e q hinv hready hC hok
  have hready : SeatDb.ready s.logged.db i e q := hready
  have hex := (exclusive_kept hcalls s.logged past i e q hinv.exclusive hready trivial hok.1).2
  refine ⟨trivial,hex,?_,fun _ _ _ hlook _ hwriter => hinv.stored_kept hok.2 hlook hwriter⟩
  intro j req success hj ha
  by_cases hji : j = i
  · subst hji
    rw [Function.update_self] at ha
    rcases answered_cases ha with hold | hget | ⟨rfl,row,hselect,hno⟩ | ⟨rfl,hp⟩
    · exact hinv.settle hready hC hok.1 hj hold
    · obtain ⟨rfl,hanswer⟩ := Sigma.mk.inj_iff.mp hget
      exact hinv.settle_stored hready hC hok.1 hj (eq_of_heq hanswer)
    · obtain ⟨rfl,hanswer⟩ := Sigma.mk.inj_iff.mp hselect
      have hidle : Holds { s.logged.db with clock := e.time } j .idle := by
        have hview := hinv.exclusive.row.view j
        rw [show txView (past j) = .idle from hok.1] at hview
        exact hview.congr rfl rfl (clock_of_ready hready)
      obtain rfl := selectForUpdate_reads hidle (ready_at_time hready) (eq_of_heq hanswer)
      have hrow := (serve_row (s := s.logged) hready nofun).1
      refine ⟨fun r hr hm => ?_,nofun⟩
      have hsame : s.logged.db.row = some r := hrow.symm.trans hr
      simp [hsame,hm] at hno
    · exact hex.settled hj (by rwa [Function.update_self])
  · rw [Function.update_of_ne hji] at ha
    exact hinv.settle hready hC hok.1 hj ha

end Steps

section Runs

/-- What every answer of `ReleaseSeat` is relied on for. -/
def ReleasesReliable (calls : ι → SeatCall) (c : AnsweredRun ι) : Prop :=
  ∀ i req success, calls i = .releaseSeat req → c.result i = some (.spend success) →
    Settled calls c.shared.logged req success

/-- Before the first call: nothing has changed, and Redis has no answer of these calls. -/
def answersStart (cfg : SeatConfig) (calls : ι → SeatCall) (db : SeatDb ι) : AnsweredRun ι :=
  .start ⟨⟨db,[]⟩,fun _ => none⟩ fun i => (calls i).prog cfg

variable [DecidableEq ι]

/-- Every answer of `ReleaseSeat` can be relied on if Redis answers a call only with what it got
from one with the same arguments, and nobody tries to release a hold before it is committed. -/
theorem releases_reliable (cfg : SeatConfig) (calls : ι → SeatCall)
    (hcalls : ∀ i, calls i ≠ .getSeatStatus) (db₀ : SeatDb ι) (hlock : db₀.lock = none)
    (hfresh : ∀ r n, db₀.row = some r → r.holdToken = some (.uuid n) → n ∈ db₀.issued)
    {c : AnsweredRun ι} (hc : Config.Reach (AnsweredDb.server ι) (AnswersOwn calls)
      (answersStart cfg calls db₀) c) : ReleasesReliable calls c := by
  have hstart : (answersStart cfg calls db₀).Disciplined
      (fun i h q => Exact (calls i) h q ∧ StoresAnswer (calls i) h q) (fun _ => anyAnswer)
      (fun i reply h => Ends (Reported (calls i)) reply h ∧ ReplyAnswered (calls i) reply h)
      (fun _ _ h => Closed () h ∧ True) (Reliable calls) := by
    refine Config.disciplined_start ⟨(exclusive_start cfg calls hlock hfresh).1,?_,?_⟩ fun i =>
      (prog_exact cfg (calls i)).both (prog_stores cfg (calls i) (hcalls i))
    · exact fun i req success _ ha => absurd rfl ha.started
    · exact fun _ _ _ _ _ => nofun
  intro i req success hi hresult
  have hreached := hstart.reach (reliable_kept hcalls) hc
  exact hreached.1.settled i req success hi ((hreached.result hresult).2 req success hi rfl)

end Runs

section Example

/-- A hold of user 7, a release with its token by some user, and one by user 7. -/
def releasing (userId : UserId) : Fin 3 → SeatCall
  | 0 => .holdSeat ⟨7,300⟩
  | 1 => .releaseSeat ⟨userId,.uuid 0⟩
  | 2 => .releaseSeat ⟨7,.uuid 0⟩

def offeredSeat : SeatDb (Fin 3) where
  row := some ⟨1,1,.available,none,none,none⟩
  lock := none
  clock := 0
  issued := []
  cache := none
  idempotent := ∅

/-- Participant `i` makes `n` statements, `i` microseconds after the start. -/
def statementsOf (i : Fin 3) (n : Nat) : List (Fin 3 × SeatEnv) :=
  List.replicate n (i,⟨i.val,0,true,none⟩)

/-- The three calls one after the other; the first release makes `n` statements. -/
def inTurn (userId : UserId) (n : Nat) (check : AnsweredDb (Fin 3) →
    (Fin 3 → List (Entry SeatStore)) → Fin 3 → SeatEnv → SeatOp → Bool) : AnsweredRun (Fin 3) :=
  (answersStart ⟨3,3,false⟩ (releasing userId) offeredSeat).schedule (AnsweredDb.server _) check
    (statementsOf ⟨0,by decide⟩ 8 ++ statementsOf ⟨1,by decide⟩ n ++ statementsOf ⟨2,by decide⟩ 3)

/-- User 7 releases the hold twice, and is told so twice. -/
def releasedTwice : AnsweredRun (Fin 3) :=
  inTurn 7 10 fun s past i e q => decide (AnswersOwn (releasing 7) s past i e q)

theorem releases_reliable_releasedTwice : releasedTwice.result 1 = some (.spend true) ∧
    releasedTwice.result 2 = some (.spend true) ∧ ReleasesReliable (releasing 7) releasedTwice :=
  ⟨by decide +kernel,by decide +kernel,releases_reliable ⟨3,3,false⟩ (releasing 7) (by decide)
    offeredSeat rfl (fun r n hr hn => by cases hr; cases hn)
    (Config.reach_schedule (fun _ _ _ _ _ h => of_decide_eq_true h) _ _)⟩

/-- User 8 has tried the token first, and user 7 is told what user 8 was told. -/
def releasedInVain : AnsweredRun (Fin 3) := inTurn 8 7 fun _ _ _ _ _ => true

/-- The release of user 7 answers that there is nothing to release, and the seat stays held. -/
theorem release_refused_in_error : ∃ c : AnsweredRun (Fin 3),
    Config.Reach (AnsweredDb.server _) Config.anyStep
      (answersStart ⟨3,3,false⟩ (releasing 8) offeredSeat) c ∧
    (∀ i, c.ended i) ∧ c.result 2 = some (.spend false) ∧
    (∃ r, c.shared.logged.db.row = some r ∧ holdMatches r ⟨7,.uuid 0⟩) ∧
    ¬ ReleasesReliable (releasing 8) c := by
  have hresult : releasedInVain.result 2 = some (.spend false) := by decide +kernel
  have hheld : ∃ r ∈ releasedInVain.shared.logged.db.row, holdMatches r ⟨7,.uuid 0⟩ := by
    decide +kernel
  obtain ⟨r,hr,hm⟩ := hheld
  refine ⟨releasedInVain,Config.reach_schedule (fun _ _ _ _ _ _ => trivial) _ _,
    by decide +kernel,hresult,⟨r,hr,hm⟩,fun hreliable => ?_⟩
  exact (hreliable 2 ⟨7,.uuid 0⟩ false rfl hresult).1 r hr hm

end Example

end TicketRemaster.SeatInventory
