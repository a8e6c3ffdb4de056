import TicketRemaster.Lib.Interleaving
import TicketRemaster.Types
set_option autoImplicit false

/-! The circuit breaker of the shared HTTP client: any number of calls side by side, each of which
passes the entry check, runs its function and reports how that went. -/

namespace TicketRemaster.ServiceClient

open Resumption

structure BreakerConfig where
  failureThreshold : Int
  recoveryTimeout : Time
  halfOpenMaxRequests : Int

inductive BreakerState where
  | closed
  | opened
  | halfOpen
  deriving DecidableEq, Repr

structure CircuitBreaker where
  state : BreakerState
  failureCount : Int
  lastFailureTime : Option Time
  halfOpenSuccesses : Int
  deriving DecidableEq, Repr

/-- How the function of a call ends if it does not return. An `other` exception is an `Exception`; a
`base` exception, such as `KeyboardInterrupt`, passes all handlers. -/
inductive Raised where
  | circuitBreakerOpen
  | cancelled
  | serviceHttpError (statusCode : Nat) (code : String)
  | other
  | base
  deriving DecidableEq, Repr

namespace CircuitBreaker

def init : CircuitBreaker := ⟨.closed,0,none,0⟩

variable (cfg : BreakerConfig)

def shouldAttemptReset (now : Time) (cb : CircuitBreaker) : Bool :=
  match cb.lastFailureTime with
  | none => true
  | some last => cfg.recoveryTimeout ≤ now-last

/-- The entry check of `call`. An admitted call is told the state it was admitted in. -/
def enter (now : Time) (cb : CircuitBreaker) : Option BreakerState × CircuitBreaker :=
  if cb.state = .opened then
    if cb.shouldAttemptReset cfg now then
      (some .halfOpen,{ cb with state := .halfOpen, halfOpenSuccesses := 0 })
    else (none,cb)
  else (some cb.state,cb)

def onSuccess (cb : CircuitBreaker) : CircuitBreaker :=
  if cb.state = .halfOpen then
    if cfg.halfOpenMaxRequests ≤ cb.halfOpenSuccesses+1 then
      { cb with state := .closed, failureCount := 0, halfOpenSuccesses := cb.halfOpenSuccesses+1 }
    else { cb with halfOpenSuccesses := cb.halfOpenSuccesses+1 }
  else { cb with failureCount := 0 }

def onFailure (now : Time) (cb : CircuitBreaker) : CircuitBreaker :=
  let cb := { cb with failureCount := cb.failureCount+1, lastFailureTime := some now }
  if cfg.failureThreshold ≤ cb.failureCount then { cb with state := .opened } else cb

end CircuitBreaker

section Calls

/-- The steps of a call, each of them atomic: the two reports and the entry check hold the lock. -/
inductive BreakerCall where
  | enter
  | func
  | onSuccess
  | onFailure
  deriving DecidableEq, Repr

def BreakerCall.Ans (α : Type) : BreakerCall → Type
  | .enter => Option BreakerState
  | .func => Except Raised α
  | .onSuccess => Unit
  | .onFailure => Unit

abbrev Breaker (α : Type) : Interface := ⟨BreakerCall,BreakerCall.Ans α⟩

/-- What the outside decides at a step: the monotonic clock and, for the function, its outcome. -/
structure Moment (α : Type) where
  monotonic : Time
  outcome : Except Raised α

variable {α : Type}

def perform (cfg : BreakerConfig) (m : Moment α) (cb : CircuitBreaker) :
    (q : BreakerCall) → q.Ans α × CircuitBreaker
  | .enter => cb.enter cfg m.monotonic
  | .func => (m.outcome,cb)
  | .onSuccess => ((),cb.onSuccess cfg)
  | .onFailure => ((),cb.onFailure cfg m.monotonic)

def server (cfg : BreakerConfig) (ι α : Type) :
    Server (Breaker α) ι (Moment α) CircuitBreaker where
  ready _ _ _ _ := true
  serve _ m cb q := perform cfg m cb q

/-- Which of the two reports the handlers of `call` make on an exception. -/
def Raised.report : Raised → Option BreakerCall
  | .cancelled => some .onFailure
  | .serviceHttpError statusCode _ => if statusCode < 500 then some .onSuccess else some .onFailure
  | .circuitBreakerOpen | .other => some .onFailure
  | .base => none

def call (α : Type) : Prog (Breaker α) Raised α :=
  .call .enter fun
    | none => .raise .circuitBreakerOpen
    | some _ => .call .func fun
        | .ok result => .call .onSuccess fun _ => .ret result
        | .error e =>
            match e.report with
            | some report => .call report fun _ => .raise e
            | none => .raise e

end Calls

section Trials

variable {ι α : Type}

abbrev Calls (ι α : Type) : Type := Config ι (Breaker α) Raised α CircuitBreaker

/-- Every call side by side with the others, on a breaker that has just been made. -/
def calls (ι α : Type) : Calls ι α := .start .init (fun _ => call α)

/-- The state that the entry check has admitted the call in. -/
def admittedIn : List (Entry (Breaker α)) → Option BreakerState
  | [] => none
  | ⟨.enter,state⟩ :: _ => state
  | ⟨.func,_⟩ :: h | ⟨.onSuccess,_⟩ :: h | ⟨.onFailure,_⟩ :: h => admittedIn h

def nextCall : Prog (Breaker α) Raised α → Option BreakerCall
  | .call q _ => some q
  | _ => none

variable [DecidableEq ι]

/-- A call admitted for a trial that is about to report a failure, the trial being still on, opens
the circuit. -/
def TrialsReopen (cfg : BreakerConfig) (c : Calls ι α) : Prop :=
  ∀ i m d, admittedIn (c.past i) = some .halfOpen → nextCall (c.thread i).rest = some .onFailure →
    c.shared.state = .halfOpen → c.advance (server cfg ι α) i m = some d → d.shared.state = .opened

/-- No success is reported while the circuit is open, unless one failure is enough to open it. -/
def NotWhileOpen (cfg : BreakerConfig) (cb : CircuitBreaker) (_ : ι → List (Entry (Breaker α)))
    (_ : ι) (_ : Moment α) (q : BreakerCall) : Prop :=
  q = .onSuccess → cb.state = .opened → cfg.failureThreshold ≤ 1
  deriving Decidable

/-- Unless the circuit is closed, one failure more reaches the threshold. -/
structure CircuitBreaker.Primed (cfg : BreakerConfig) (cb : CircuitBreaker) : Prop where
  nonneg : 0 ≤ cb.failureCount
  primed : cb.state ≠ .closed → cfg.failureThreshold ≤ cb.failureCount+1

namespace CircuitBreaker

variable {cfg : BreakerConfig} {cb : CircuitBreaker}

theorem primed_init : init.Primed cfg := ⟨le_rfl,fun h => absurd rfl h⟩

theorem Primed.enter (hp : cb.Primed cfg) (now : Time) : (cb.enter cfg now).2.Primed cfg := by
  obtain ⟨hnonneg,hprimed⟩ := hp
  unfold CircuitBreaker.enter
  split
  · rename_i ho
    split
    · exact ⟨hnonneg,fun _ => hprimed (by simp [ho])⟩
    · exact ⟨hnonneg,hprimed⟩
  · exact ⟨hnonneg,hprimed⟩

theorem Primed.onSuccess (hp : cb.Primed cfg)
    (hopen : cb.state = .opened → cfg.failureThreshold ≤ 1) : (cb.onSuccess cfg).Primed cfg := by
  obtain ⟨hnonneg,hprimed⟩ := hp
  unfold CircuitBreaker.onSuccess
  split
  · rename_i hhalf
    split
    · exact ⟨le_rfl,fun h => absurd rfl h⟩
    · exact ⟨hnonneg,hprimed⟩
  · rename_i hhalf
    refine ⟨le_rfl,fun hclosed => ?_⟩
    cases hs : cb.state with
    | closed => exact absurd hs hclosed
    | opened => exact hopen hs
    | halfOpen => exact absurd hs hhalf

/-- A failure opens the circuit, or leaves it closed. -/
theorem Primed.onFailure_state (hp : cb.Primed cfg) (now : Time) (hs : cb.state ≠ .closed) :
    (cb.onFailure cfg now).state = .opened := by
  have hreached : cfg.failureThreshold ≤ cb.failureCount+1 := hp.primed hs
  simp [CircuitBreaker.onFailure,hreached]

theorem Primed.onFailure (hp : cb.Primed cfg) (now : Time) :
    (cb.onFailure cfg now).Primed cfg := by
  obtain ⟨hnonneg,hprimed⟩ := hp
  simp only [CircuitBreaker.onFailure]
  split
  · rename_i hreached
    exact ⟨by simp only; omega,fun _ => by simp only; omega⟩
  · rename_i hbelow
    refine ⟨by simp only; omega,fun hs => ?_⟩
    have hlast := hprimed hs
    omega

end CircuitBreaker

variable {cfg : BreakerConfig}

theorem primed_reach {c : Calls ι α}
    (hrun : Config.Reach (server cfg ι α) (NotWhileOpen cfg) (calls ι α) c) :
    c.shared.Primed cfg := by
  refine Config.reach_shared ?_ CircuitBreaker.primed_init hrun
  intro cb past i m q hC _ hp
  cases q with
  | enter => exact hp.enter m.monotonic
  | func => exact hp
  | onSuccess => exact hp.onSuccess (hC rfl)
  | onFailure => exact hp.onFailure m.monotonic

/-- Whatever calls run side by side: unless a success comes in while the circuit is open, a trial
that fails opens it again. -/
theorem failed_trial_reopens (cfg : BreakerConfig) (c : Calls ι α)
    (hrun : Config.Reach (server cfg ι α) (NotWhileOpen cfg) (calls ι α) c) :
    TrialsReopen cfg c := by
  intro i m d _ hnext hhalf hadv
  obtain ⟨q,k,hr,-,rfl⟩ := Config.advance_cases hadv
  rw [hr] at hnext
  obtain rfl : q = .onFailure := Option.some.inj hnext
  exact (primed_reach hrun).onFailure_state m.monotonic (by simp [hhalf])

end Trials

section LateSuccess

/-- Call 0 returns in the end, all other calls fail; the clock stands at second `t`. -/
def moment (i : Nat) (t : Int) : Nat × Moment Unit :=
  (i,⟨seconds t,if i = 0 then .ok () else .error .other⟩)

def threeStrikes : BreakerConfig := ⟨3,seconds 30,1⟩

/-- Call 0 is admitted, three failures open the circuit, and after the cooldown call 4 is admitted
for a trial that fails. In between, `late` happens. -/
def trial (late : List (Nat × Moment Unit)) : List (Nat × Moment Unit) :=
  [moment 0 0,moment 1 0,moment 2 0,moment 3 0,moment 1 1,moment 1 1,moment 2 1,moment 2 1,
    moment 3 1,moment 3 1] ++ late ++ [moment 4 40,moment 4 41]

def undisturbed : Calls Nat Unit :=
  (calls Nat Unit).schedule (server threeStrikes Nat Unit)
    (fun cb past i m q => decide (NotWhileOpen threeStrikes cb past i m q)) (trial [])

theorem failed_trial_reopens_undisturbed :
    admittedIn (undisturbed.past 4) = some .halfOpen ∧ undisturbed.shared.state = .halfOpen ∧
      TrialsReopen threeStrikes undisturbed := by
  refine ⟨by decide +kernel,by decide +kernel,?_⟩
  exact failed_trial_reopens threeStrikes _
    (Config.reach_schedule (fun _ _ _ _ _ h => of_decide_eq_true h) _ _)

/-- Call 0 succeeds while the circuit is open. -/
def successInBetween : Calls Nat Unit :=
  (calls Nat Unit).schedule (server threeStrikes Nat Unit) (fun _ _ _ _ _ => true)
    (trial [moment 0 2,moment 0 2])

/-- The trial fails, and the circuit stays half open. -/
theorem trial_fails_unnoticed :
    Config.Reach (server threeStrikes Nat Unit) Config.anyStep (calls Nat Unit) successInBetween ∧
      ¬ TrialsReopen threeStrikes successInBetween := by
  refine ⟨Config.reach_schedule (fun _ _ _ _ _ _ => trivial) _ _,fun hreopen => ?_⟩
  have hafter : (successInBetween.advance (server threeStrikes Nat Unit) 4 (moment 4 41).2).map
      (·.shared.state) = some .halfOpen := by decide +kernel
  obtain ⟨d,hadv,hd⟩ := Option.map_eq_some_iff.mp hafter
  have hopened := hreopen 4 (moment 4 41).2 d (by decide +kernel) (by decide +kernel)
    (by decide +kernel) hadv
  simp [hopened] at hd

end LateSuccess

end TicketRemaster.ServiceClient
