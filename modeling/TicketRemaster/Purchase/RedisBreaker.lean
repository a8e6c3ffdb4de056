import Mathlib.Tactic.Linarith
import TicketRemaster.Lib.Interleaving
import TicketRemaster.Types
set_option autoImplicit false

/-! The circuit breaker before Redis in the purchase orchestrator: when it skips a call, how few calls
an outage of Redis costs, and how it closes again. -/

namespace TicketRemaster.Purchase

open Resumption

/-- `_redis_cb_failures`, `_redis_cb_last_failure_time` and `_redis_cb_open`; each visit to them
holds the lock. -/
structure RedisBreaker where
  failures : Nat
  lastFailureTime : Time
  isOpen : Bool
  deriving DecidableEq

structure RedisBreakerConfig where
  failureThreshold : Int
  recoverySeconds : Int

inductive RedisCall where
  | enter
  | ping
  | succeed
  | fail
  deriving DecidableEq

/-- The check at the entry answers whether it lets the call through, and `ping` whether Redis does. -/
@[reducible] def RedisCall.Ans : RedisCall → Type
  | .enter => Bool
  | .ping => Bool
  | .succeed => Unit
  | .fail => Unit

@[reducible] def RedisIf : Interface := ⟨RedisCall,RedisCall.Ans⟩

/-- `_get_redis_client`, up to the client: whether there is one. -/
def getRedisClient (redisUrl : Bool) : Prog RedisIf Unit Bool :=
  if redisUrl then
    .call .enter fun allowed =>
      if allowed then
        .call .ping fun up =>
          if up then .call .succeed fun _ => .ret true
          else .call .fail fun _ => .ret false
      else .ret false
  else .ret false

namespace RedisBreaker

variable (cfg : RedisBreakerConfig) (now : Time) (b : RedisBreaker)

/-- Once the recovery period has passed, the count starts anew. -/
def enter : Bool × RedisBreaker :=
  if b.isOpen then
    if seconds cfg.recoverySeconds < now-b.lastFailureTime then
      (true,{ b with isOpen := false, failures := 0 })
    else (false,b)
  else (true,b)

def succeed : RedisBreaker :=
  if 0 < b.failures then { b with failures := 0, isOpen := false } else b

def fail : RedisBreaker where
  failures := b.failures+1
  lastFailureTime := now
  isOpen := b.isOpen || cfg.failureThreshold ≤ (b.failures+1 : Nat)

end RedisBreaker

/-- The breaker, and a clock that never runs back. -/
structure RedisState where
  breaker : RedisBreaker
  clock : Time
  deriving DecidableEq

structure RedisEnv where
  time : Time
  up : Bool

section Server

variable (cfg : RedisBreakerConfig) (e : RedisEnv) (s : RedisState)

def RedisState.perform : (q : RedisCall) → q.Ans × RedisState
  | .enter => ((s.breaker.enter cfg e.time).1,⟨(s.breaker.enter cfg e.time).2,e.time⟩)
  | .ping => (e.up,⟨s.breaker,e.time⟩)
  | .succeed => ((),⟨s.breaker.succeed,e.time⟩)
  | .fail => ((),⟨s.breaker.fail cfg e.time,e.time⟩)

def redisServer (ι : Type) : Server RedisIf ι RedisEnv RedisState where
  ready s _ e _ := s.clock ≤ e.time
  serve _ e s q := s.perform cfg e q

end Server

section Counting

variable {ι : Type}

abbrev RedisLog (ι : Type) : Type := List (Moved RedisIf ι RedisState)

/-- The call is let through. -/
def allowed (x : Moved RedisIf ι RedisState) : Bool :=
  x.op = RedisCall.enter ∧ x.after.breaker.isOpen = false

/-- The call is let through because the recovery period has passed. -/
def recovers (x : Moved RedisIf ι RedisState) : Bool :=
  x.op = RedisCall.enter ∧ x.before.breaker.isOpen = true ∧ x.after.breaker.isOpen = false

/-- The call is skipped. -/
def skipped (x : Moved RedisIf ι RedisState) : Prop :=
  x.op = RedisCall.enter ∧ x.after.breaker.isOpen = true

def ends (x : Moved RedisIf ι RedisState) : Bool :=
  x.op = RedisCall.succeed ∨ x.op = RedisCall.fail

/-- The failures in a row: since the last success, or since the breaker has recovered. -/
def failuresInRow : RedisLog ι → Nat
  | [] => 0
  | x :: log =>
      if x.op = RedisCall.fail then failuresInRow log+1
      else if x.op = RedisCall.succeed ∨ recovers x then 0
      else failuresInRow log

variable [DecidableEq ι]

/-- The calls that have been let through and have not ended. -/
def inFlight : RedisLog ι → List ι
  | [] => []
  | x :: log =>
      if allowed x then x.who :: inFlight log
      else if ends x then (inFlight log).erase x.who
      else inFlight log

/-- The calls let through since the breaker has recovered last. -/
def sinceRecovery : RedisLog ι → Nat
  | [] => 0
  | x :: log =>
      if recovers x then 1
      else if allowed x then sinceRecovery log+1
      else sinceRecovery log

end Counting

section Steps

variable {ι : Type} {cfg : RedisBreakerConfig} {now : Time} {b : RedisBreaker}

/-- The breaker is closed, has waited long enough, or skips the call. -/
theorem RedisBreaker.enter_cases (cfg : RedisBreakerConfig) (now : Time) (b : RedisBreaker) :
    (b.isOpen = false ∧ b.enter cfg now = (true,b)) ∨
    (b.isOpen = true ∧ seconds cfg.recoverySeconds < now-b.lastFailureTime ∧
      b.enter cfg now = (true,{ b with isOpen := false, failures := 0 })) ∨
    (b.isOpen = true ∧ b.enter cfg now = (false,b)) := by
  unfold enter
  cases b.isOpen with
  | false => simp
  | true =>
    by_cases hlong : seconds cfg.recoverySeconds < now-b.lastFailureTime <;> simp [hlong]

variable {i : ι} {s s' : RedisState}

theorem recovers_allowed {x : Moved RedisIf ι RedisState} (hx : recovers x) : allowed x := by
  simp only [recovers,allowed,decide_eq_true_eq] at hx ⊢
  exact ⟨hx.1,hx.2.2⟩

/-- The calls let through, those that made the breaker recover, and those since it last did. -/
def counts (log : RedisLog ι) : Nat × Nat × Nat :=
  (log.countP allowed,log.countP recovers,sinceRecovery log)

theorem counts_pass {x : Moved RedisIf ι RedisState} (log : RedisLog ι) (hx : allowed x)
    (hr : recovers x = false) : counts (x :: log) =
      (log.countP allowed+1,log.countP recovers,sinceRecovery log+1) := by
  simp [counts,sinceRecovery,hx,hr]

theorem counts_recover {x : Moved RedisIf ι RedisState} (log : RedisLog ι) (hr : recovers x) :
    counts (x :: log) = (log.countP allowed+1,log.countP recovers+1,1) := by
  simp [counts,sinceRecovery,recovers_allowed hr,hr]

theorem counts_other {x : Moved RedisIf ι RedisState} (log : RedisLog ι)
    (hx : allowed x = false) : counts (x :: log) = counts log := by
  have hr : recovers x = false := Bool.eq_false_iff.mpr fun hr => by
    rw [recovers_allowed hr] at hx
    cases hx
  simp [counts,sinceRecovery,hx,hr]

end Steps

section Sound

variable {ι : Type} (cfg : RedisBreakerConfig)

/-- The breaker is open if and only if there have been too many failures in a row, and no call has
been skipped without. -/
structure BreakerSound (s : Logged RedisIf ι RedisState) : Prop where
  tripped : s.state.breaker.isOpen = decide (cfg.failureThreshold ≤ s.state.breaker.failures)
  counted : s.state.breaker.failures = failuresInRow s.log
  skipping : ∀ x older, (x :: older) <:+ s.log → skipped x →
    cfg.failureThreshold ≤ failuresInRow older

variable {cfg} {s : Logged RedisIf ι RedisState}

/-- A step that skips no call without reason. -/
theorem BreakerSound.next (h : BreakerSound cfg s) {i : ι} {q : RedisCall} {s' : RedisState}
    (htripped : s'.breaker.isOpen = decide (cfg.failureThreshold ≤ s'.breaker.failures))
    (hcounted : s'.breaker.failures = failuresInRow (⟨i,q,s.state,s'⟩ :: s.log))
    (hskip : q = .enter → s'.breaker.isOpen = true → s.state.breaker.isOpen = true) :
    BreakerSound cfg ⟨s',⟨i,q,s.state,s'⟩ :: s.log⟩ := by
  refine ⟨htripped,hcounted,fun x older hsuffix hx => ?_⟩
  rcases List.suffix_cons_iff.mp hsuffix with heq | hold
  · obtain ⟨rfl,rfl⟩ := List.cons.inj heq
    have hopen := hskip hx.1 hx.2
    rw [h.tripped,decide_eq_true_eq,h.counted] at hopen
    exact hopen
  · exact h.skipping x older hold hx

theorem breakerSound_serve (hpos : 0 < cfg.failureThreshold) (h : BreakerSound cfg s) (i : ι)
    (e : RedisEnv) (q : RedisCall) : BreakerSound cfg ((redisServer cfg ι).logged.serve i e s q).2 := by
  have htripped := h.tripped
  have hcounted := h.counted
  simp only [Server.logged,redisServer]
  cases q with
  | enter =>
    rcases RedisBreaker.enter_cases cfg e.time s.state.breaker with
      ⟨hclosed,hb⟩ | ⟨hopen,-,hb⟩ | ⟨hopen,hb⟩ <;> simp only [RedisState.perform,hb]
    · refine h.next htripped ?_ fun _ hs => hs
      simp [failuresInRow,recovers,hclosed,hcounted]
    · refine h.next (by simp [hpos]) ?_ fun _ hs => by simp at hs
      simp [failuresInRow,recovers,hopen]
    · refine h.next htripped ?_ fun _ hs => hs
      simp [failuresInRow,recovers,hopen,hcounted]
  | ping =>
    exact h.next htripped (by simp [failuresInRow,recovers,RedisState.perform,hcounted])
      fun hq => by cases hq
  | succeed =>
    refine h.next ?_ ?_ fun hq => by cases hq
    · simp only [RedisState.perform,RedisBreaker.succeed]
      split
      · simp [hpos]
      · exact htripped
    · simp only [RedisState.perform,RedisBreaker.succeed]
      split
      · simp [failuresInRow]
      · simp only [failuresInRow]
        simp
        omega
  | fail =>
    refine h.next ?_ ?_ fun hq => by cases hq
    · rw [Bool.eq_iff_iff]
      simp only [RedisState.perform,RedisBreaker.fail,htripped,Bool.or_eq_true,decide_eq_true_eq]
      omega
    · simp [RedisState.perform,RedisBreaker.fail,failuresInRow,hcounted]

/-- After the recovery period the next call is let through. -/
theorem BreakerSound.passes (hpos : 0 < cfg.failureThreshold) (h : BreakerSound cfg s) {now : Time}
    (hlate : s.state.breaker.lastFailureTime+seconds cfg.recoverySeconds < now) :
    ∃ b, s.state.breaker.enter cfg now = (true,b) ∧
      b.isOpen = decide (cfg.failureThreshold ≤ b.failures) := by
  rcases RedisBreaker.enter_cases cfg now s.state.breaker with
    ⟨-,hb⟩ | ⟨-,-,hb⟩ | ⟨hopen,hb⟩
  · exact ⟨_,hb,h.tripped⟩
  · exact ⟨_,hb,by simp [hpos]⟩
  · have hwaited : seconds cfg.recoverySeconds < now-s.state.breaker.lastFailureTime := by linarith
    simp [RedisBreaker.enter,hopen,hwaited] at hb

theorem RedisBreaker.succeed_closed (b : RedisBreaker) (hpos : 0 < cfg.failureThreshold)
    (htripped : b.isOpen = decide (cfg.failureThreshold ≤ b.failures)) :
    b.succeed.isOpen = false ∧ b.succeed.failures = 0 := by
  unfold RedisBreaker.succeed
  split
  · exact ⟨rfl,rfl⟩
  · rename_i hnone
    have hzero : b.failures = 0 := by omega
    exact ⟨by simp [htripped,hzero,hpos],hzero⟩

end Sound

section Outage

variable {ι : Type} [DecidableEq ι] (cfg : RedisBreakerConfig) (k : Nat) (t₀ : Time)

/-- A call that was let through and has not ended. -/
def Flying (h : List (Entry RedisIf)) : Prop :=
  (⟨.enter,true⟩ : Entry RedisIf) ∈ h ∧ ∀ x ∈ h, x.1 ≠ RedisCall.fail

/-- While Redis is down a call that was let through reports one failure. -/
def OutageOk (h : List (Entry RedisIf)) : RedisCall → Prop
  | .succeed => False
  | .fail => Flying h
  | _ => True

/-- While Redis is down nobody reaches it. -/
def OutageFeas : (q : RedisCall) → q.Ans → Prop
  | .ping, up => up = false
  | _, _ => True

theorem getRedisClient_outage (redisUrl : Bool) :
    (getRedisClient redisUrl).Follows OutageOk (fun _ => OutageFeas) (fun _ _ => True)
      (fun _ _ => True) [] := by
  cases redisUrl with
  | false => trivial
  | true =>
    refine ⟨trivial,fun a _ => ?_⟩
    cases a with
    | false => trivial
    | true =>
      refine ⟨trivial,fun up hup => ?_⟩
      obtain rfl : up = false := hup
      exact ⟨⟨by simp,by simp⟩,fun _ _ => trivial⟩

/-- Redis is down, and a call only begins while fewer than `k` are under way. -/
def DownWith (s : Logged RedisIf ι RedisState) (_ : ι → List (Entry RedisIf)) (_ : ι)
    (e : RedisEnv) (q : RedisCall) : Prop :=
  e.up = false ∧ (q = .enter → (inFlight s.log).length < k)

/-- How far the calls let through exceed the failures, and how often the breaker can have recovered
in the time that has passed. -/
structure Spared (s : Logged RedisIf ι RedisState) (past : ι → List (Entry RedisIf)) : Prop where
  sound : BreakerSound cfg s
  flying : ∀ i, Flying (past i) → i ∈ inFlight s.log
  epoch : sinceRecovery s.log ≤ s.state.breaker.failures+(inFlight s.log).length
  bounded : (sinceRecovery s.log : Int) ≤ cfg.failureThreshold+k-1
  total : (s.log.countP allowed : Int) ≤
    s.log.countP recovers*(cfg.failureThreshold+k-1)+sinceRecovery s.log
  paced : s.log.countP recovers*seconds cfg.recoverySeconds ≤ s.state.clock-t₀
  pacedFailure : 0 < s.state.breaker.failures →
    s.log.countP recovers*seconds cfg.recoverySeconds ≤ s.state.breaker.lastFailureTime-t₀

variable {cfg k t₀}

theorem flying_update {past : ι → List (Entry RedisIf)} {i j : ι} {x : Entry RedisIf}
    (h : Flying (Function.update past i (x :: past i) j)) :
    Flying (past j) ∨ j = i ∧ x = ⟨.enter,true⟩ := by
  obtain ⟨hentered,hopen⟩ := h
  rcases mem_update hentered with hold | ⟨rfl,hx⟩
  · exact .inl ⟨hold,fun y hy => hopen y (mem_update_of_mem hy)⟩
  · exact .inr ⟨rfl,hx.symm⟩

/-- A step that neither lets a call through nor ends one leaves the breaker as it is. -/
theorem Spared.other {s : Logged RedisIf ι RedisState} {past : ι → List (Entry RedisIf)}
    (h : Spared cfg k t₀ s past) {i : ι} {q : RedisCall} {a : q.Ans} {now : Time}
    (hclock : s.state.clock ≤ now)
    (hsound : BreakerSound cfg ⟨⟨s.state.breaker,now⟩,⟨i,q,s.state,⟨s.state.breaker,now⟩⟩ :: s.log⟩)
    (hallowed : allowed (⟨i,q,s.state,⟨s.state.breaker,now⟩⟩ : Moved RedisIf ι RedisState) = false)
    (hends : ends (⟨i,q,s.state,⟨s.state.breaker,now⟩⟩ : Moved RedisIf ι RedisState) = false)
    (hentry : (⟨q,a⟩ : Entry RedisIf) ≠ ⟨.enter,true⟩) :
    Spared cfg k t₀ ⟨⟨s.state.breaker,now⟩,⟨i,q,s.state,⟨s.state.breaker,now⟩⟩ :: s.log⟩
      (Function.update past i (⟨q,a⟩ :: past i)) := by
  have hcounts := counts_other s.log hallowed
  simp only [counts,Prod.mk.injEq] at hcounts
  obtain ⟨hpasses,hrecoveries,hsince⟩ := hcounts
  have hfly : inFlight (⟨i,q,s.state,⟨s.state.breaker,now⟩⟩ :: s.log) = inFlight s.log := by
    simp [inFlight,hallowed,hends]
  refine ⟨hsound,fun j hj => ?_,?_,?_,?_,?_,fun hf => ?_⟩
  all_goals simp only [hpasses,hrecoveries,hsince,hfly]
  · rcases flying_update hj with hold | ⟨-,hx⟩
    · exact h.flying j hold
    · exact absurd hx hentry
  · exact h.epoch
  · exact h.bounded
  · exact h.total
  · exact h.paced.trans (sub_le_sub_right hclock _)
  · exact h.pacedFailure hf

theorem flying_pass {past : ι → List (Entry RedisIf)} {flying : List ι} {i j : ι}
    {x : Entry RedisIf} (h : ∀ j, Flying (past j) → j ∈ flying)
    (hj : Flying (Function.update past i (x :: past i) j)) : j ∈ i :: flying := by
  rcases flying_update hj with hold | ⟨rfl,-⟩
  · exact List.mem_cons_of_mem _ (h j hold)
  · exact List.mem_cons_self

theorem Spared.pass {s : Logged RedisIf ι RedisState} {past : ι → List (Entry RedisIf)}
    (h : Spared cfg k t₀ s past) {i : ι} {a : Bool} {now : Time} (hclock : s.state.clock ≤ now)
    (hclosed : s.state.breaker.isOpen = false) (hroom : (inFlight s.log).length < k)
    (hsound : BreakerSound cfg
      ⟨⟨s.state.breaker,now⟩,⟨i,.enter,s.state,⟨s.state.breaker,now⟩⟩ :: s.log⟩) :
    Spared cfg k t₀ ⟨⟨s.state.breaker,now⟩,⟨i,.enter,s.state,⟨s.state.breaker,now⟩⟩ :: s.log⟩
      (Function.update past i (⟨.enter,a⟩ :: past i)) := by
  have hfew : ¬ cfg.failureThreshold ≤ s.state.breaker.failures := by
    simpa [hclosed] using h.sound.tripped
  have hcounts := counts_pass (x := ⟨i,.enter,s.state,⟨s.state.breaker,now⟩⟩) s.log
    (by simp [allowed,hclosed]) (by simp [recovers,hclosed])
  simp only [counts,Prod.mk.injEq] at hcounts
  obtain ⟨hpasses,hrecoveries,hsince⟩ := hcounts
  have hfly : inFlight (⟨i,.enter,s.state,⟨s.state.breaker,now⟩⟩ :: s.log) =
      i :: inFlight s.log := by simp [inFlight,allowed,hclosed]
  have hepoch := h.epoch
  have htotal := h.total
  refine ⟨hsound,fun j hj => ?_,?_,?_,?_,?_,fun hf => ?_⟩
  all_goals simp only [hpasses,hrecoveries,hsince,hfly,List.length_cons]
  · exact flying_pass h.flying hj
  · omega
  · omega
  · omega
  · exact h.paced.trans (sub_le_sub_right hclock _)
  · exact h.pacedFailure hf

/-- The failure that opened the breaker came a recovery period ago, so the recoveries keep pace. -/
theorem Spared.recover (hpos : 0 < cfg.failureThreshold) (hk : 0 < k)
    {s : Logged RedisIf ι RedisState} {past : ι → List (Entry RedisIf)}
    (h : Spared cfg k t₀ s past) {i : ι} {a : Bool} {now : Time}
    (hopen : s.state.breaker.isOpen = true)
    (hwaited : seconds cfg.recoverySeconds < now-s.state.breaker.lastFailureTime)
    (hsound : BreakerSound cfg
      ⟨⟨{ s.state.breaker with isOpen := false, failures := 0 },now⟩,⟨i,.enter,s.state,
        ⟨{ s.state.breaker with isOpen := false, failures := 0 },now⟩⟩ :: s.log⟩) :
    Spared cfg k t₀
      ⟨⟨{ s.state.breaker with isOpen := false, failures := 0 },now⟩,⟨i,.enter,s.state,
        ⟨{ s.state.breaker with isOpen := false, failures := 0 },now⟩⟩ :: s.log⟩
      (Function.update past i (⟨.enter,a⟩ :: past i)) := by
  have hfailed : cfg.failureThreshold ≤ s.state.breaker.failures := by
    simpa [hopen] using h.sound.tripped
  have hcounts := counts_recover (x := ⟨i,.enter,s.state,
    ⟨{ s.state.breaker with isOpen := false, failures := 0 },now⟩⟩) s.log
    (by simp [recovers,hopen])
  simp only [counts,Prod.mk.injEq] at hcounts
  obtain ⟨hpasses,hrecoveries,hsince⟩ := hcounts
  have hfly : inFlight (⟨i,.enter,s.state,
      ⟨{ s.state.breaker with isOpen := false, failures := 0 },now⟩⟩ :: s.log) =
      i :: inFlight s.log := by simp [inFlight,allowed]
  have hlast := h.pacedFailure (by omega)
  have hbounded := h.bounded
  have htotal := h.total
  refine ⟨hsound,fun j hj => ?_,?_,?_,?_,?_,fun hf => ?_⟩
  all_goals simp only [hpasses,hrecoveries,hsince,hfly,List.length_cons,Nat.cast_add,
    Nat.cast_one,add_mul,one_mul]
  · exact flying_pass h.flying hj
  · omega
  · omega
  · omega
  · linarith
  · exact absurd hf (lt_irrefl _)

/-- A failure counts, and ends a call that was under way. -/
theorem Spared.fails {s : Logged RedisIf ι RedisState} {past : ι → List (Entry RedisIf)}
    (h : Spared cfg k t₀ s past) {i : ι} {now : Time} (hclock : s.state.clock ≤ now)
    (hi : Flying (past i))
    (hsound : BreakerSound cfg ⟨⟨s.state.breaker.fail cfg now,now⟩,
      ⟨i,.fail,s.state,⟨s.state.breaker.fail cfg now,now⟩⟩ :: s.log⟩) :
    Spared cfg k t₀ ⟨⟨s.state.breaker.fail cfg now,now⟩,
        ⟨i,.fail,s.state,⟨s.state.breaker.fail cfg now,now⟩⟩ :: s.log⟩
      (Function.update past i (⟨.fail,()⟩ :: past i)) := by
  have hcounts := counts_other
    (x := ⟨i,.fail,s.state,⟨s.state.breaker.fail cfg now,now⟩⟩) s.log (by simp [allowed])
  simp only [counts,Prod.mk.injEq] at hcounts
  obtain ⟨hpasses,hrecoveries,hsince⟩ := hcounts
  have hfly : inFlight (⟨i,.fail,s.state,⟨s.state.breaker.fail cfg now,now⟩⟩ :: s.log) =
      (inFlight s.log).erase i := by simp [inFlight,allowed,ends]
  have hmem := h.flying i hi
  have hlength := List.length_erase_of_mem hmem
  have hsome := List.length_pos_of_mem hmem
  have hepoch := h.epoch
  refine ⟨hsound,fun j hj => ?_,?_,?_,?_,?_,fun hf => ?_⟩
  all_goals simp only [hpasses,hrecoveries,hsince,hfly]
  · rcases flying_update hj with hold | ⟨-,hx⟩
    · have hne : j ≠ i := by
        rintro rfl
        exact hj.2 _ mem_update_self rfl
      exact (List.mem_erase_of_ne hne).mpr (h.flying j hold)
    · cases hx
  · have hcounted : (s.state.breaker.fail cfg now).failures = s.state.breaker.failures+1 := rfl
    omega
  · exact h.bounded
  · exact h.total
  · exact h.paced.trans (sub_le_sub_right hclock _)
  · exact h.paced.trans (sub_le_sub_right hclock _)

theorem spared_keeps (hpos : 0 < cfg.failureThreshold) (hk : 0 < k) :
    Keeps (redisServer cfg ι).logged (DownWith k) (fun _ => OutageOk) (fun _ _ => OutageFeas)
      (Spared cfg k t₀) := by
  intro s past i e q h hready hdown hok
  have hclock : s.state.clock ≤ e.time := by simpa [Server.logged,redisServer] using hready
  have hsound := breakerSound_serve hpos h.sound i e q
  cases q with
  | enter =>
    refine ⟨trivial,?_⟩
    rcases RedisBreaker.enter_cases cfg e.time s.state.breaker with
      ⟨hclosed,hb⟩ | ⟨hopen,hwaited,hb⟩ | ⟨hopen,hb⟩ <;>
      simp only [Server.logged,redisServer,RedisState.perform,hb] at hsound ⊢
    · exact h.pass hclock hclosed (hdown.2 rfl) hsound
    · exact h.recover hpos hk hopen hwaited hsound
    · exact h.other hclock hsound (by simp [allowed,hopen]) (by simp [ends])
        (fun heq => by cases heq)
  | ping =>
    exact ⟨hdown.1,h.other hclock hsound (by simp [allowed]) (by simp [ends])
      (fun heq => by cases heq)⟩
  | succeed => exact hok.elim
  | fail => exact ⟨trivial,h.fails hclock hok hsound⟩

end Outage

section Runs

variable {ι : Type} [DecidableEq ι]

abbrev RedisCalls (ι : Type) : Type := Config ι RedisIf Unit Bool (Logged RedisIf ι RedisState)

/-- Calls of `_get_redis_client`, from a closed breaker on that has no failure to count. -/
def redisCalls (ι : Type) (lastFailureTime t₀ : Time) : RedisCalls ι :=
  .start ⟨⟨⟨0,lastFailureTime,false⟩,t₀⟩,[]⟩ fun _ => getRedisClient true

omit [DecidableEq ι] in
theorem breakerSound_start {cfg : RedisBreakerConfig} (hpos : 0 < cfg.failureThreshold)
    (lastFailureTime t₀ : Time) :
    BreakerSound cfg (redisCalls ι lastFailureTime t₀).shared where
  tripped := by simp [redisCalls,Config.start,hpos]
  counted := rfl
  skipping x older h := by
    have hlength := h.length_le
    simp [redisCalls,Config.start] at hlength

/-- While Redis is down, the calls that try to connect are few: at most those of the threshold and
those under way with the last of them, once and again after each recovery period. -/
theorem outage_attempts_bounded (cfg : RedisBreakerConfig) (hpos : 0 < cfg.failureThreshold)
    (hrecovery : 0 < cfg.recoverySeconds) (k : Nat) (hk : 0 < k) (lastFailureTime t₀ : Time)
    (c : RedisCalls ι) (hrun : Config.Reach (redisServer cfg ι).logged (DownWith k)
      (redisCalls ι lastFailureTime t₀) c) :
    (c.shared.log.countP allowed : Int) ≤
      ((c.shared.state.clock-t₀)/seconds cfg.recoverySeconds+1)*(cfg.failureThreshold+k-1) := by
  have hstart : Spared cfg k t₀ (redisCalls ι lastFailureTime t₀).shared
      (redisCalls ι lastFailureTime t₀).past := by
    refine ⟨breakerSound_start hpos _ _,fun i hi => ?_,?_,?_,?_,?_,?_⟩
    · cases hi.1
    all_goals simp [redisCalls,Config.start,sinceRecovery]
    omega
  have hdisciplined : (redisCalls ι lastFailureTime t₀).Disciplined (fun _ => OutageOk)
      (fun _ _ => OutageFeas) (fun _ _ _ => True) (fun _ _ _ => True) (Spared cfg k t₀) :=
    ⟨hstart,fun _ => getRedisClient_outage true⟩
  obtain ⟨-,-,-,hbounded,htotal,hpaced,-⟩ := (hdisciplined.reach (spared_keeps hpos hk) hrun).1
  have hperiod : (0 : Int) < seconds cfg.recoverySeconds := by
    unfold seconds
    omega
  have hrecoveries : (c.shared.log.countP recovers : Int) ≤
      (c.shared.state.clock-t₀)/seconds cfg.recoverySeconds :=
    (Int.le_ediv_iff_mul_le hperiod).mpr hpaced
  have hfactor : 0 ≤ cfg.failureThreshold+k-1 := by omega
  calc (c.shared.log.countP allowed : Int)
      ≤ (c.shared.log.countP recovers+1)*(cfg.failureThreshold+k-1) := by linarith
    _ ≤ _ := mul_le_mul_of_nonneg_right (by linarith) hfactor

/-- Whatever calls run side by side: the breaker skips a call only after as many failures in a row
as the threshold says, and lets the first call after the recovery period through; if Redis is up
again, that call closes it. -/
theorem breaker_skips_and_recovers (cfg : RedisBreakerConfig) (hpos : 0 < cfg.failureThreshold)
    (lastFailureTime t₀ : Time) (c : RedisCalls ι)
    (hrun : Config.Reach (redisServer cfg ι).logged Config.anyStep
      (redisCalls ι lastFailureTime t₀) c) :
    (∀ x older, (x :: older) <:+ c.shared.log → skipped x →
      cfg.failureThreshold ≤ failuresInRow older) ∧
    ∀ e : RedisEnv, e.up = true →
      c.shared.state.breaker.lastFailureTime+seconds cfg.recoverySeconds < e.time →
      ∃ b, ((getRedisClient true).exec (redisServer cfg Unit) () (fun _ => e) []
          c.shared.state).result = .ok true ∧
        ((getRedisClient true).exec (redisServer cfg Unit) () (fun _ => e) []
          c.shared.state).state = ⟨b,e.time⟩ ∧ b.isOpen = false ∧ b.failures = 0 := by
  have hsound : BreakerSound cfg c.shared :=
    @Config.reach_shared _ _ _ _ _ _ _ _ _ (BreakerSound cfg)
      (fun s past i e q _ _ h => breakerSound_serve hpos h i e q) _ _
      (breakerSound_start hpos _ _) hrun
  refine ⟨hsound.skipping,fun e hup hlate => ?_⟩
  obtain ⟨b,hpass,htripped⟩ := hsound.passes hpos hlate
  refine ⟨b.succeed,?_,?_,b.succeed_closed hpos htripped⟩
  all_goals simp [getRedisClient,Prog.exec,redisServer,RedisState.perform,hpass,hup]

end Runs

section Outages

def threeDown : RedisBreakerConfig := ⟨3,30⟩

/-- Call `i` makes its next step after so many seconds. -/
def outageStep (i : Nat) (t : Int) (up : Bool) : Nat × RedisEnv := (i,⟨seconds t,up⟩)

/-- Three calls find that Redis is down, the next one is skipped; half a minute later one more call
finds Redis down, and another one that comes with it is let through as well. -/
def twiceTripped : RedisCalls Nat :=
  (redisCalls Nat 0 0).schedule (redisServer threeDown Nat).logged
    (fun s _ _ e q => !e.up && (q != RedisCall.enter || decide ((inFlight s.log).length < 2)))
    [outageStep 0 1 false,outageStep 0 1 false,outageStep 1 1 false,outageStep 0 2 false,
      outageStep 1 2 false,outageStep 1 3 false,outageStep 2 3 false,outageStep 2 4 false,
      outageStep 2 5 false,outageStep 3 6 false,outageStep 4 36 false,outageStep 5 36 false,
      outageStep 4 37 false,outageStep 4 37 false]

theorem outage_attempts_bounded_twiceTripped :
    twiceTripped.shared.log.countP allowed = 5 ∧
      (twiceTripped.shared.log.countP allowed : Int) ≤
        ((twiceTripped.shared.state.clock-0)/seconds threeDown.recoverySeconds+1)*
          (threeDown.failureThreshold+(2 : Nat)-1) := by
  refine ⟨by decide +kernel,outage_attempts_bounded threeDown (by decide) (by decide) 2 (by decide) 0 0
    twiceTripped (Config.reach_schedule (fun s past i e q h => ?_) _ _)⟩
  simp only [Bool.and_eq_true,Bool.or_eq_true,Bool.not_eq_true',bne_iff_ne,ne_eq,
    decide_eq_true_eq] at h
  exact ⟨h.1,fun hq => h.2.resolve_left fun hne => hne hq⟩

/-- One of the calls is skipped; once Redis is back, the first call after half a minute closes the
breaker. -/
theorem breaker_skips_and_recovers_twiceTripped :
    (twiceTripped.shared.log.filter fun x =>
        decide (x.op = RedisCall.enter) && x.after.breaker.isOpen).map Moved.who = [3] ∧
      (∀ x older, (x :: older) <:+ twiceTripped.shared.log → skipped x →
        threeDown.failureThreshold ≤ failuresInRow older) ∧
      ∃ b, ((getRedisClient true).exec (redisServer threeDown Unit) () (fun _ => ⟨seconds 68,true⟩)
          [] twiceTripped.shared.state).result = .ok true ∧
        ((getRedisClient true).exec (redisServer threeDown Unit) () (fun _ => ⟨seconds 68,true⟩)
          [] twiceTripped.shared.state).state = ⟨b,seconds 68⟩ ∧
        b.isOpen = false ∧ b.failures = 0 := by
  have hboth := breaker_skips_and_recovers threeDown (by decide) 0 0 twiceTripped
    (Config.reach_schedule (fun _ _ _ _ _ _ => trivial) _ _)
  exact ⟨by decide +kernel,hboth.1,hboth.2 ⟨seconds 68,true⟩ rfl (by decide +kernel)⟩

end Outages

end TicketRemaster.Purchase
