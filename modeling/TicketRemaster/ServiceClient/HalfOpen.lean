import TicketRemaster.ServiceClient.CircuitBreaker
set_option autoImplicit false

/-! The trials of a half-open circuit breaker: how many calls it lets through, and whose successes
close it. -/

namespace TicketRemaster.ServiceClient

open Resumption

section Trials

variable {ι α : Type}

/-- A run of calls, with a log of their steps. -/
abbrev LoggedCalls (ι α : Type) : Type :=
  Config ι (Breaker α) Raised α (Logged (Breaker α) ι CircuitBreaker)

def loggedCalls (ι α : Type) : LoggedCalls ι α := .start ⟨.init,[]⟩ (fun _ => call α)

abbrev BreakerLog (ι α : Type) : Type := List (Moved (Breaker α) ι CircuitBreaker)

/-- The steps since the breaker has become half open, the one that made it so included. -/
def sinceHalfOpen (log : BreakerLog ι α) : BreakerLog ι α :=
  log.takeWhile fun x => x.after.state = .halfOpen

/-- The calls that have made this step. -/
def whoMade (q : BreakerCall) (log : BreakerLog ι α) : List ι :=
  (log.filter fun x => decide (@Eq BreakerCall x.op q)).map (·.who)

/-- The calls that the entry check has let through since the breaker has become half open. -/
def trials (log : BreakerLog ι α) : List ι := whoMade .enter (sinceHalfOpen log)

/-- While the breaker has been half open, no more calls than allowed have started their function;
and if it has just been closed, the successes of as many as are required have done it, all of them
calls that had started in this time. -/
structure TrialsLimited (cfg : BreakerConfig) (log : BreakerLog ι α) : Prop where
  bounded : (whoMade .func (sinceHalfOpen log)).length ≤ cfg.halfOpenMaxRequests
  closed (x : Moved (Breaker α) ι CircuitBreaker) (older : BreakerLog ι α) : log = x :: older →
    x.before.state = .halfOpen → x.after.state = .closed →
      x.op = BreakerCall.onSuccess ∧
      cfg.halfOpenMaxRequests ≤ (whoMade .onSuccess (x :: sinceHalfOpen older)).length ∧
      ∀ i ∈ whoMade .onSuccess (x :: sinceHalfOpen older), i ∈ whoMade .func (sinceHalfOpen older)

variable [DecidableEq ι]

/-- While the breaker is half open, calls come to the entry check only as long as trials are left,
and no call that was let through before starts its function or reports a success. -/
def OnlyTrials (cfg : BreakerConfig) (s : Logged (Breaker α) ι CircuitBreaker)
    (_ : ι → List (Entry (Breaker α))) (i : ι) (_ : Moment α) (q : BreakerCall) : Prop :=
  s.state.state = .halfOpen → match q with
    | .enter => (trials s.log).length < cfg.halfOpenMaxRequests
    | .func | .onSuccess => i ∈ trials s.log
    | .onFailure => True

instance (cfg : BreakerConfig) (s : Logged (Breaker α) ι CircuitBreaker)
    (past : ι → List (Entry (Breaker α))) (i : ι) (m : Moment α) (q : BreakerCall) :
    Decidable (OnlyTrials cfg s past i m q) := by
  unfold OnlyTrials
  cases q <;> infer_instance

end Trials

section Order

variable {α : Type}

/-- The steps that a call has made. -/
def stepsOf (h : List (Entry (Breaker α))) : List BreakerCall := h.map Sigma.fst

/-- The discipline of a call: it enters first, runs its function once, and then reports. -/
def InOrder (h : List (Entry (Breaker α))) : BreakerCall → Prop
  | .enter => stepsOf h = []
  | .func => .func ∉ stepsOf h
  | .onSuccess | .onFailure => .func ∈ stepsOf h

theorem call_inOrder (α : Type) : (call α).Follows (I := Breaker α) InOrder (fun _ _ _ => True)
    (fun _ _ => True) (fun _ _ => True) [] := by
  refine ⟨rfl,fun state _ => ?_⟩
  cases state with
  | none => trivial
  | some state =>
    refine ⟨by simp [InOrder,stepsOf],fun outcome _ => ?_⟩
    cases outcome with
    | ok a => exact ⟨by simp [InOrder,stepsOf],fun _ _ => trivial⟩
    | error e =>
      have hran : ∀ q, e.report = some q →
          InOrder ([⟨.func,.error e⟩,⟨.enter,some state⟩] : List (Entry (Breaker α))) q := by
        intro q hq
        cases e with
        | serviceHttpError statusCode code =>
          simp only [Raised.report] at hq
          split at hq <;> cases hq <;> simp [InOrder,stepsOf]
        | base => cases hq
        | _ => cases hq; simp [InOrder,stepsOf]
      dsimp only
      split
      · rename_i q hq
        exact ⟨hran q hq,fun _ _ => trivial⟩
      · trivial

end Order

section Invariant

variable {ι α : Type}

theorem sinceHalfOpen_cons (x : Moved (Breaker α) ι CircuitBreaker) (log : BreakerLog ι α) :
    sinceHalfOpen (x :: log) =
      if x.after.state = .halfOpen then x :: sinceHalfOpen log else [] := by
  simp [sinceHalfOpen,List.takeWhile_cons]

theorem whoMade_cons (q : BreakerCall) (x : Moved (Breaker α) ι CircuitBreaker)
    (log : BreakerLog ι α) :
    whoMade q (x :: log) =
      if @Eq BreakerCall x.op q then x.who :: whoMade q log else whoMade q log := by
  simp only [whoMade,List.filter_cons,decide_eq_true_eq]
  split <;> rfl

theorem mem_whoMade {q : BreakerCall} {log : BreakerLog ι α} {i : ι} :
    i ∈ whoMade q log ↔ ∃ x ∈ log, x.op = q ∧ x.who = i := by
  simp [whoMade,and_assoc]

theorem sinceHalfOpen_subset (log : BreakerLog ι α) : sinceHalfOpen log ⊆ log :=
  (List.takeWhile_prefix _).subset

/-- While the breaker is half open: who is on trial, and what became of it so far. -/
structure Trying (cfg : BreakerConfig) (s : Logged (Breaker α) ι CircuitBreaker)
    (past : ι → List (Entry (Breaker α))) : Prop where
  few : (trials s.log).length ≤ cfg.halfOpenMaxRequests
  onTrial : whoMade .func (sinceHalfOpen s.log) ⊆ trials s.log
  once : (whoMade .func (sinceHalfOpen s.log)).Nodup
  ran : ∀ i ∈ trials s.log, .func ∈ stepsOf (past i) → i ∈ whoMade .func (sinceHalfOpen s.log)
  succeeded : whoMade .onSuccess (sinceHalfOpen s.log) ⊆ whoMade .func (sinceHalfOpen s.log)
  counted : s.state.halfOpenSuccesses = (whoMade .onSuccess (sinceHalfOpen s.log)).length

structure TrialInv (cfg : BreakerConfig) (s : Logged (Breaker α) ι CircuitBreaker)
    (past : ι → List (Entry (Breaker α))) : Prop where
  trying : s.state.state = .halfOpen → Trying cfg s past
  apart : s.state.state ≠ .halfOpen → sinceHalfOpen s.log = []
  limited : TrialsLimited cfg s.log
  faithful : s.Faithful past

variable {cfg : BreakerConfig} {s : Logged (Breaker α) ι CircuitBreaker}
  {past : ι → List (Entry (Breaker α))}

theorem Trying.bounded (h : Trying cfg s past) :
    (whoMade .func (sinceHalfOpen s.log)).length ≤ cfg.halfOpenMaxRequests := by
  have hle := (List.subperm_of_subset h.once h.onTrial).length_le
  have hfew := h.few
  omega

variable [DecidableEq ι] {i : ι} {a : (Breaker α).Ans .enter}

theorem mem_stepsOf_update {q q' : BreakerCall} {a : (Breaker α).Ans q} {j : ι} :
    q' ∈ stepsOf (Function.update past i (⟨q,a⟩ :: past i) j) ↔
      j = i ∧ q' = q ∨ q' ∈ stepsOf (past j) := by
  by_cases hj : j = i
  · subst hj
    simp [stepsOf]
  · simp [stepsOf,hj]

omit [DecidableEq ι] in
theorem sinceHalfOpen_stays {q : BreakerCall} {cb cb' : CircuitBreaker}
    (hs : cb'.state = .halfOpen) (log : BreakerLog ι α) :
    sinceHalfOpen (⟨i,q,cb,cb'⟩ :: log) = ⟨i,q,cb,cb'⟩ :: sinceHalfOpen log := by
  rw [sinceHalfOpen_cons,if_pos hs]

/-- The first trial of a half-open breaker. -/
theorem trying_opens (hmax : 1 ≤ cfg.halfOpenMaxRequests) (hover : sinceHalfOpen s.log = [])
    (hnew : stepsOf (past i) = []) {cb : CircuitBreaker} (hs : cb.state = .halfOpen)
    (hc : cb.halfOpenSuccesses = 0) :
    Trying cfg ⟨cb,⟨i,.enter,s.state,cb⟩ :: s.log⟩
      (Function.update past i (⟨.enter,a⟩ :: past i)) := by
  constructor
  all_goals simp only [trials,sinceHalfOpen_stays hs,hover]
  · simpa [whoMade] using hmax
  · simp [whoMade]
  · simp [whoMade]
  · intro j hj hran
    obtain rfl : j = i := by simpa [whoMade] using hj
    rcases mem_stepsOf_update.mp hran with ⟨-,hq⟩ | hran
    · cases hq
    · rw [hnew] at hran
      cases hran
  · simp [whoMade]
  · simpa [whoMade] using hc

/-- One more trial. -/
theorem Trying.enter (h : Trying cfg s past) (hs : s.state.state = .halfOpen)
    (hleft : (trials s.log).length < cfg.halfOpenMaxRequests) (hnew : stepsOf (past i) = []) :
    Trying cfg ⟨s.state,⟨i,.enter,s.state,s.state⟩ :: s.log⟩
      (Function.update past i (⟨.enter,a⟩ :: past i)) := by
  obtain ⟨hfew,honTrial,honce,hran,hsucceeded,hcounted⟩ := h
  constructor
  all_goals
    simp only [trials,sinceHalfOpen_stays hs,whoMade_cons,if_true,reduceCtorEq,if_false]
  · rw [List.length_cons,Nat.cast_add_one]
    exact hleft
  · exact fun j hj => List.mem_cons_of_mem _ (honTrial hj)
  · exact honce
  · intro j hj hfunc
    rcases mem_stepsOf_update.mp hfunc with ⟨-,hq⟩ | hfunc
    · cases hq
    · rcases List.mem_cons.mp hj with hi | hj
      · rw [hi,hnew] at hfunc
        cases hfunc
      · exact hran j hj hfunc
  · exact hsucceeded
  · exact hcounted

/-- A call on trial starts its function. -/
theorem Trying.func (h : Trying cfg s past) (hs : s.state.state = .halfOpen)
    (hfaithful : s.Faithful past) (hi : i ∈ trials s.log) (hnew : .func ∉ stepsOf (past i))
    {a : (Breaker α).Ans .func} :
    Trying cfg ⟨s.state,⟨i,.func,s.state,s.state⟩ :: s.log⟩
      (Function.update past i (⟨.func,a⟩ :: past i)) := by
  obtain ⟨hfew,honTrial,honce,hran,hsucceeded,hcounted⟩ := h
  constructor
  all_goals
    simp only [trials,sinceHalfOpen_stays hs,whoMade_cons,if_true,reduceCtorEq,if_false]
  · exact hfew
  · exact List.cons_subset.mpr ⟨hi,honTrial⟩
  · refine List.nodup_cons.mpr ⟨fun hmem => hnew ?_,honce⟩
    obtain ⟨x,hx,hop,rfl⟩ := mem_whoMade.mp hmem
    rw [← hop]
    exact hfaithful x (sinceHalfOpen_subset _ hx)
  · intro j hj hfunc
    rcases mem_stepsOf_update.mp hfunc with ⟨rfl,-⟩ | hfunc
    · exact List.mem_cons_self
    · exact List.mem_cons_of_mem _ (hran j hj hfunc)
  · exact fun j hj => List.mem_cons_of_mem _ (hsucceeded hj)
  · exact hcounted

/-- A call on trial succeeds, and more successes are required. -/
theorem Trying.onSuccess (h : Trying cfg s past) (hi : i ∈ trials s.log)
    (hfunc : .func ∈ stepsOf (past i)) {cb : CircuitBreaker} (hs : cb.state = .halfOpen)
    (hc : cb.halfOpenSuccesses = s.state.halfOpenSuccesses+1) {a : (Breaker α).Ans .onSuccess} :
    Trying cfg ⟨cb,⟨i,.onSuccess,s.state,cb⟩ :: s.log⟩
      (Function.update past i (⟨.onSuccess,a⟩ :: past i)) := by
  obtain ⟨hfew,honTrial,honce,hran,hsucceeded,hcounted⟩ := h
  constructor
  all_goals
    simp only [trials,sinceHalfOpen_stays hs,whoMade_cons,if_true,reduceCtorEq,if_false]
  · exact hfew
  · exact honTrial
  · exact honce
  · intro j hj hfunc
    rcases mem_stepsOf_update.mp hfunc with ⟨-,hq⟩ | hfunc
    · cases hq
    · exact hran j hj hfunc
  · exact List.cons_subset.mpr ⟨hran i hi hfunc,hsucceeded⟩
  · rw [hc,hcounted]
    simp

/-- A call fails without opening the circuit. -/
theorem Trying.onFailure (h : Trying cfg s past) {cb : CircuitBreaker} (hs : cb.state = .halfOpen)
    (hc : cb.halfOpenSuccesses = s.state.halfOpenSuccesses) {a : (Breaker α).Ans .onFailure} :
    Trying cfg ⟨cb,⟨i,.onFailure,s.state,cb⟩ :: s.log⟩
      (Function.update past i (⟨.onFailure,a⟩ :: past i)) := by
  obtain ⟨hfew,honTrial,honce,hran,hsucceeded,hcounted⟩ := h
  constructor
  all_goals
    simp only [trials,sinceHalfOpen_stays hs,whoMade_cons,reduceCtorEq,if_false]
  · exact hfew
  · exact honTrial
  · exact honce
  · intro j hj hfunc
    rcases mem_stepsOf_update.mp hfunc with ⟨-,hq⟩ | hfunc
    · cases hq
    · exact hran j hj hfunc
  · exact hsucceeded
  · exact hc.trans hcounted

/-- Where the step does not close the circuit, all there is to show is what holds while the breaker
is half open. -/
theorem TrialInv.next (h : TrialInv cfg s past) (hmax : 1 ≤ cfg.halfOpenMaxRequests)
    {q : BreakerCall} {a : (Breaker α).Ans q} {cb : CircuitBreaker}
    (htrying : cb.state = .halfOpen → Trying cfg ⟨cb,⟨i,q,s.state,cb⟩ :: s.log⟩
      (Function.update past i (⟨q,a⟩ :: past i)))
    (hclosed : s.state.state = .halfOpen → cb.state = .closed → q = .onSuccess ∧
      cfg.halfOpenMaxRequests ≤ s.state.halfOpenSuccesses+1 ∧
      i ∈ whoMade .func (sinceHalfOpen s.log))
    (hfaithful : Logged.Faithful ⟨cb,⟨i,q,s.state,cb⟩ :: s.log⟩
      (Function.update past i (⟨q,a⟩ :: past i))) :
    TrialInv cfg ⟨cb,⟨i,q,s.state,cb⟩ :: s.log⟩
      (Function.update past i (⟨q,a⟩ :: past i)) := by
  refine ⟨htrying,fun hs => ?_,⟨?_,?_⟩,hfaithful⟩
  · exact (sinceHalfOpen_cons _ _).trans (if_neg hs)
  · by_cases hs : cb.state = .halfOpen
    · exact (htrying hs).bounded
    · rw [sinceHalfOpen_cons,if_neg hs]
      exact Int.le_of_lt hmax
  · rintro x older hlog hbefore hafter
    obtain ⟨rfl,rfl⟩ := List.cons.inj hlog
    obtain ⟨rfl,hrequired,hi⟩ := hclosed hbefore hafter
    obtain ⟨-,-,-,-,hsucceeded,hcounted⟩ := h.trying hbefore
    refine ⟨rfl,?_,?_⟩
    · rw [whoMade_cons,if_pos rfl,List.length_cons,Nat.cast_add_one,← hcounted]
      exact hrequired
    · rw [whoMade_cons,if_pos rfl]
      exact List.cons_subset.mpr ⟨hi,hsucceeded⟩

end Invariant

namespace CircuitBreaker

variable {cfg : BreakerConfig} {cb : CircuitBreaker}

theorem enter_cases (cfg : BreakerConfig) (cb : CircuitBreaker) (now : Time) :
    (cb.enter cfg now).2 = cb ∨ cb.state = .opened ∧
    (cb.enter cfg now).2 = { cb with state := .halfOpen, halfOpenSuccesses := 0 } := by
  unfold enter
  split
  · rename_i hs
    split
    · exact .inr ⟨hs,rfl⟩
    · exact .inl rfl
  · exact .inl rfl

/-- While the breaker is half open, a success is counted, and closes it if it is the last one
required. -/
theorem onSuccess_halfOpen (hs : cb.state = .halfOpen) :
    (cb.onSuccess cfg).halfOpenSuccesses = cb.halfOpenSuccesses+1 ∧
    ((cb.onSuccess cfg).state = .closed → cfg.halfOpenMaxRequests ≤ cb.halfOpenSuccesses+1) := by
  unfold onSuccess
  rw [if_pos hs]
  split
  · rename_i hlast
    exact ⟨rfl,fun _ => hlast⟩
  · exact ⟨rfl,fun hclosed => by simp [hs] at hclosed⟩

theorem onSuccess_state (hs : cb.state ≠ .halfOpen) :
    (cb.onSuccess cfg).state = cb.state := by
  unfold onSuccess
  rw [if_neg hs]

theorem onFailure_cases (cfg : BreakerConfig) (cb : CircuitBreaker) (now : Time) :
    (cb.onFailure cfg now).halfOpenSuccesses = cb.halfOpenSuccesses ∧
    ((cb.onFailure cfg now).state = .opened ∨ (cb.onFailure cfg now).state = cb.state) := by
  simp only [onFailure]
  split
  · exact ⟨rfl,.inl rfl⟩
  · exact ⟨rfl,.inr rfl⟩

end CircuitBreaker

section Steps

variable {ι α : Type} [DecidableEq ι] {cfg : BreakerConfig}

theorem trialInv_kept (hmax : 1 ≤ cfg.halfOpenMaxRequests) :
    Keeps (server cfg ι α).logged (OnlyTrials cfg) (fun _ => InOrder) (fun _ _ _ _ => True)
      (TrialInv cfg) := by
  intro s past i m q h _ hC hok
  refine ⟨trivial,?_⟩
  have hfaithful := h.faithful.serve (server cfg ι α) i m q
    ((server cfg ι α).logged.serve i m s q).1
  cases q with
  | enter =>
    refine h.next hmax (fun hs => ?_) (fun hs hclosed => ?_) hfaithful
    · rcases CircuitBreaker.enter_cases cfg s.state m.monotonic with
        hsame | ⟨hopened,hnow⟩
      · have hs' : s.state.state = .halfOpen := by
          rw [← hsame]
          exact hs
        simp only [server,perform,hsame]
        exact (h.trying hs').enter hs' (hC hs') hok
      · refine trying_opens hmax (h.apart (by simp [hopened])) hok hs ?_
        exact congrArg CircuitBreaker.halfOpenSuccesses hnow
    · have hsame : (s.state.enter cfg m.monotonic).2 = s.state := by
        unfold CircuitBreaker.enter
        rw [if_neg (by simp [hs])]
      have hstill : (s.state.enter cfg m.monotonic).2.state = .closed := hclosed
      rw [hsame,hs] at hstill
      cases hstill
  | func =>
    refine h.next hmax (fun hs => ?_) (fun hs hclosed => ?_) hfaithful
    · exact (h.trying hs).func hs h.faithful (hC hs) hok
    · exact absurd (hs.symm.trans hclosed) (by decide)
  | onSuccess =>
    refine h.next hmax (fun hs => ?_) (fun hs hclosed => ?_) hfaithful
    · have hs' : s.state.state = .halfOpen := by
        by_contra hne
        exact hne ((CircuitBreaker.onSuccess_state hne).symm.trans hs)
      exact (h.trying hs').onSuccess (hC hs') hok hs (CircuitBreaker.onSuccess_halfOpen hs').1
    · exact ⟨rfl,(CircuitBreaker.onSuccess_halfOpen hs).2 hclosed,
        (h.trying hs).ran i (hC hs) hok⟩
  | onFailure =>
    obtain ⟨hsame,hcases⟩ := CircuitBreaker.onFailure_cases cfg s.state m.monotonic
    refine h.next hmax (fun hs => ?_) (fun hs hclosed => ?_) hfaithful
    · have hs' : s.state.state = .halfOpen := by
        rcases hcases with hopened | hstate
        · exact absurd (hopened.symm.trans hs) (by decide)
        · exact hstate.symm.trans hs
      exact (h.trying hs').onFailure hs hsame
    · rcases hcases with hopened | hstate
      · exact absurd (hopened.symm.trans hclosed) (by decide)
      · exact absurd (hs.symm.trans (hstate.symm.trans hclosed)) (by decide)

/-- Whatever calls run side by side: as long as a half-open breaker only deals with calls it has let
through itself, no more than allowed of which come, it starts no more than these, and closes only
because of their successes. -/
theorem trials_limited (cfg : BreakerConfig) (hmax : 1 ≤ cfg.halfOpenMaxRequests)
    (c : LoggedCalls ι α)
    (hrun : Config.Reach (server cfg ι α).logged (OnlyTrials cfg) (loggedCalls ι α) c) :
    TrialsLimited cfg c.shared.log := by
  have hinit : TrialInv cfg (⟨.init,[]⟩ : Logged (Breaker α) ι CircuitBreaker) (fun _ => []) := by
    refine ⟨fun hs => (by cases hs),fun _ => rfl,⟨?_,?_⟩,?_⟩
    · exact Int.le_of_lt hmax
    · intro x older hlog
      cases hlog
    · intro x hx
      cases hx
  have hstart : (loggedCalls ι α).Disciplined (fun _ => InOrder) (fun _ _ _ _ => True)
      (fun _ _ _ => True) (fun _ _ _ => True) (TrialInv cfg) :=
    Config.disciplined_start hinit fun _ => call_inOrder α
  exact (hstart.reach (trialInv_kept hmax) hrun).1.limited

end Steps

section Stragglers

/-- While call 0 runs its function, three failures open the circuit; after the cooldown call 5 is
admitted for the only trial. -/
def beforeTrials (late : List (Nat × Moment Unit)) : LoggedCalls Nat Unit :=
  (loggedCalls Nat Unit).schedule (server threeStrikes Nat Unit).logged (fun _ _ _ _ _ => true)
    ([moment 0 0,moment 0 0,moment 1 0,moment 2 0,moment 3 0,moment 1 1,moment 1 1,moment 2 1,
      moment 2 1,moment 3 1,moment 3 1,moment 5 40] ++ late)

def oneTrial : LoggedCalls Nat Unit :=
  (loggedCalls Nat Unit).schedule (server threeStrikes Nat Unit).logged
    (fun s past i m q => decide (OnlyTrials threeStrikes s past i m q))
    [moment 1 0,moment 2 0,moment 3 0,moment 1 1,moment 1 1,moment 2 1,moment 2 1,moment 3 1,
      moment 3 1,moment 0 40,moment 0 41]

theorem trials_limited_oneTrial :
    whoMade .func (sinceHalfOpen oneTrial.shared.log) = [0] ∧
      TrialsLimited threeStrikes oneTrial.shared.log :=
  ⟨by decide +kernel,trials_limited threeStrikes (by decide) _
    (Config.reach_schedule (fun _ _ _ _ _ h => of_decide_eq_true h) _ _)⟩

/-- The success of call 0 comes in before the trial has started. -/
def lateClose : LoggedCalls Nat Unit := beforeTrials [moment 0 41]

theorem lateClose_log : lateClose.shared.log ≠ [] := by decide +kernel

/-- Where one trial is allowed, three calls start their functions while the breaker is half open;
and the success of a call that was admitted while the breaker was closed closes it, although the
function of the trial has not even started. -/
theorem half_open_lets_all_through :
    (∃ c : LoggedCalls Nat Unit,
      Config.Reach (server threeStrikes Nat Unit).logged Config.anyStep (loggedCalls Nat Unit) c ∧
      whoMade .func (sinceHalfOpen c.shared.log) = [7,6,5] ∧
      ¬ TrialsLimited threeStrikes c.shared.log) ∧
    ∃ c : LoggedCalls Nat Unit,
      Config.Reach (server threeStrikes Nat Unit).logged Config.anyStep (loggedCalls Nat Unit) c ∧
      c.shared.state.state = .closed ∧ stepsOf (c.past 5) = [.enter] ∧
      ¬ TrialsLimited threeStrikes c.shared.log := by
  refine ⟨⟨beforeTrials [moment 6 40,moment 7 40,moment 5 40,moment 6 40,moment 7 40],
    Config.reach_schedule (fun _ _ _ _ _ _ => trivial) _ _,by decide +kernel,fun h => ?_⟩,
    ⟨lateClose,
      Config.reach_schedule (fun _ _ _ _ _ _ => trivial) _ _,by decide +kernel,by decide +kernel,
      fun h => ?_⟩⟩
  · exact absurd h.bounded (by decide +kernel)
  · have hlast := h.closed _ _ (List.cons_head_tail lateClose_log).symm (by decide +kernel)
      (by decide +kernel)
    exact absurd (hlast.2.2 0 (by decide +kernel)) (by decide +kernel)

end Stragglers

end TicketRemaster.ServiceClient
