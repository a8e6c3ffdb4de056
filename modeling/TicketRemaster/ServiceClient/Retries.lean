import Mathlib.Tactic.Linarith
import Mathlib.Tactic.Positivity
import TicketRemaster.ServiceClient.Slots
set_option autoImplicit false

/-! The retry loop of the HTTP client: how many attempts it makes, when, and after what. -/

namespace TicketRemaster.ServiceClient

open Resumption

section History

/-- An attempt starts where the circuit breaker is entered. -/
def isAttempt : Entry Client → Bool
  | ⟨.enterBreaker _,_⟩ => true
  | _ => false

def isRequest : Entry Client → Bool
  | ⟨.stream _,_⟩ => true
  | _ => false

def attempts (h : List (Entry Client)) : Nat := h.countP isAttempt

def requests (h : List (Entry Client)) : Nat := h.countP isRequest

def reading : Entry Client → Option Seconds
  | ⟨.monotonic,now⟩ => some now
  | _ => none

/-- What a history has read from the clock. -/
def readings (h : List (Entry Client)) : List Seconds := h.filterMap reading

def exchanged : Entry Client → Option Exchange
  | ⟨.stream _,exchange⟩ => some exchange
  | _ => none

def lastExchange (h : List (Entry Client)) : Option Exchange := h.findSome? exchanged

/-- A status that may be retried, or a transient transport error. -/
def Exchange.mayRetry : Exchange → Bool
  | .failed (.transport t) => t.transient
  | .failed _ => false
  | .response statusCode _ brokenOff => decide (statusCode ∈ retryStatusCodes) ||
      match brokenOff with
      | some (.transport t) => t.transient
      | _ => false

/-- A 2xx response that has been read to its end, and the JSON that it stands for. -/
def Exchange.Complete (loads : Bytes → Option Json) (method : String) (json : Json) :
    Exchange → Prop
  | .failed _ => False
  | .response statusCode chunks brokenOff => isSuccess statusCode ∧ brokenOff = none ∧
      chunks.flatten.length ≤ maxResponseBytes ∧
      if statusCode ∈ [204,205] ∨ method = "HEAD" then json = .obj []
      else loads chunks.flatten = some json

/-- After the complete response of the last attempt the clock has been read again, before the
deadline. -/
def Succeeded (loads : Bytes → Option Json) (task : Task) (h : List (Entry Client)) (json : Json) :
    Prop :=
  ∃ newer older now exchange, h = newer ++ ⟨.monotonic,now⟩ :: older ∧ now < task.deadline ∧
    requests older = attempts older ∧ lastExchange older = some exchange ∧
    exchange.Complete loads task.method json

/-- The clock does not go back, and `random.uniform(0, 0.1)` is not negative. -/
def steadyEntry (h : List (Entry Client)) : Entry Client → Bool
  | ⟨.monotonic,now⟩ => decide (∀ earlier ∈ readings h, earlier ≤ now)
  | ⟨.uniform,jitter⟩ => decide (0 ≤ jitter)
  | _ => true

def Steady : List (Entry Client) → Prop
  | [] => True
  | x :: h => steadyEntry h x ∧ Steady h

instance decidableSteady : DecidablePred Steady
  | [] => instDecidableTrue
  | _ :: h => @instDecidableAnd _ _ _ (decidableSteady h)

/-- On a steady clock, and if the wait does not shrink, nothing was read at or past the deadline. -/
def InTime (cfg : ClientConfig) (task : Task) (h : List (Entry Client)) : Prop :=
  0 ≤ cfg.retryBackoffFactor → Steady h → ∀ now ∈ readings h, now < task.deadline

/-- No attempt has been made, or the exchange of the last one may be retried. -/
def MayGoOn (h : List (Entry Client)) : Prop :=
  requests h = attempts h ∧
    (attempts h = 0 ∨ ∃ exchange, lastExchange h = some exchange ∧ exchange.mayRetry)

structure MayAttempt (cfg : ClientConfig) (task : Task) (h : List (Entry Client)) : Prop where
  inTime : InTime cfg task h
  left : attempts h < attemptsAllowed cfg task.method
  again : MayGoOn h

def BudgetOrder (cfg : ClientConfig) (loads : Bytes → Option Json) (task : Task)
    (h : List (Entry Client)) : ClientOp → Prop
  | .enterBreaker _ => MayAttempt cfg task h
  | .stream request => request.followRedirects = false ∧ requests h < attempts h ∧ InTime cfg task h
  | .sleep _ => InTime cfg task h
  | .finish (.ok (.ok json)) => Succeeded loads task h json
  | .begin | .acquire | .submit _ | .result _ => False
  | _ => True

end History

section Response

variable {loads : Bytes → Option Json} {method : String}

theorem readBody_ok {body : Bytes} {brokenOff : Option Failure} {chunks : List Bytes} {whole : Bytes}
    (h : readBody body brokenOff chunks = .ok whole) :
    brokenOff = none ∧ whole = body ++ chunks.flatten ∧
      (chunks = [] ∨ (body ++ chunks.flatten).length ≤ maxResponseBytes) := by
  induction chunks generalizing body with
  | nil =>
    cases brokenOff with
    | none =>
      cases h
      exact ⟨rfl,by simp,.inl rfl⟩
    | some f => cases h
  | cons chunk chunks ih =>
    unfold readBody at h
    split at h
    · cases h
    · rename_i hfits
      obtain ⟨hbroken,rfl,hlength⟩ := ih h
      refine ⟨hbroken,by simp,.inr ?_⟩
      rcases hlength with rfl | hlength
      · simpa using hfits
      · simpa using hlength

theorem readBody_error {body : Bytes} {brokenOff : Option Failure} {chunks : List Bytes}
    {e : ClientExn} (h : readBody body brokenOff chunks = .error e) :
    e = .invalidServiceResponse ∨ ∃ f, brokenOff = some f ∧ e = f.exn := by
  induction chunks generalizing body with
  | nil =>
    cases brokenOff with
    | none => cases h
    | some f =>
      cases h
      exact .inr ⟨f,rfl,rfl⟩
  | cons chunk chunks ih =>
    unfold readBody at h
    split at h
    · cases h
      exact .inl rfl
    · exact ih h

theorem responseJson_ok {exchange : Exchange} {json : Json}
    (h : responseJson loads method exchange = .ok json) : exchange.Complete loads method json := by
  cases exchange with
  | failed f => cases h
  | response statusCode chunks brokenOff =>
    cases hbody : readBody [] brokenOff chunks with
    | error e =>
      simp only [responseJson,hbody] at h
      cases h
    | ok body =>
      obtain ⟨hbroken,hwhole,hlength⟩ := readBody_ok hbody
      rw [List.nil_append] at hwhole hlength
      simp only [responseJson,hbody] at h
      by_cases hsuccess : isSuccess statusCode
      · refine ⟨hsuccess,hbroken,?_,?_⟩
        · rcases hlength with rfl | hlength
          · exact Nat.zero_le _
          · exact hlength
        · rw [if_neg (not_not.mpr hsuccess)] at h
          by_cases hempty : statusCode ∈ [204,205] ∨ method = "HEAD"
          · rw [if_pos hempty] at h ⊢
            cases h
            rfl
          · rw [if_neg hempty] at h ⊢
            rw [← hwhole]
            by_cases hnone : body = []
            · rw [if_pos hnone] at h
              cases h
            · rw [if_neg hnone] at h
              cases hloads : loads body with
              | none =>
                rw [hloads] at h
                cases h
              | some payload =>
                rw [hloads] at h
                cases h
                rfl
      · rw [if_pos hsuccess] at h
        cases h

/-- The exceptions after which the loop may go on. -/
def ClientExn.mayRetry : ClientExn → Bool
  | .serviceHttpError statusCode _ => decide (statusCode ∈ retryStatusCodes)
  | .transport t => t.transient
  | _ => false

theorem responseJson_mayRetry {exchange : Exchange} {e : ClientExn}
    (h : responseJson loads method exchange = .error e) (he : e.mayRetry) : exchange.mayRetry := by
  cases exchange with
  | failed f =>
    cases h
    cases f <;> exact he
  | response statusCode chunks brokenOff =>
    cases hbody : readBody [] brokenOff chunks with
    | error e' =>
      simp only [responseJson,hbody] at h
      cases h
      obtain rfl | ⟨f,rfl,rfl⟩ := readBody_error hbody
      · cases he
      · cases f with
        | transport t =>
          have ht : t.transient := he
          simp [Exchange.mayRetry,ht]
        | _ => cases he
    | ok body =>
      simp only [responseJson,hbody] at h
      split at h
      · cases h
        have hstatus : statusCode ∈ retryStatusCodes := of_decide_eq_true he
        simp [Exchange.mayRetry,hstatus]
      · split at h
        · cases h
        · split at h
          · cases h
            cases he
          · cases h

end Response

section Loop

variable (cfg : ClientConfig) (loads : Bytes → Option Json) (task : Task)

/-- The program keeps the budget, from one history to others. -/
abbrev ClientProg.Budgeted {α : Type} (p : ClientProg α) (fin : α → List (Entry Client) → Prop)
    (exc : ClientExn → List (Entry Client) → Prop) (h : List (Entry Client)) : Prop :=
  p.Follows (BudgetOrder cfg loads task) (fun _ _ _ => True) fin exc h

/-- The last exchange ended in this result, or the circuit breaker was open. -/
def EndedIn (h : List (Entry Client)) : Except ClientExn Json → Prop
  | .error .circuitBreakerOpen => True
  | ended => requests h = attempts h ∧
      ∃ exchange, lastExchange h = some exchange ∧ responseJson loads task.method exchange = ended

/-- A result is only a success after a complete response in time. -/
def Earned (result : ServiceResult) (h : List (Entry Client)) : Prop :=
  ∀ json, result = .ok json → Succeeded loads task h json

theorem Succeeded.cons {h : List (Entry Client)} {json : Json} (hh : Succeeded loads task h json)
    (x : Entry Client) : Succeeded loads task (x :: h) json := by
  obtain ⟨newer,older,now,exchange,rfl,hrest⟩ := hh
  exact ⟨x :: newer,older,now,exchange,rfl,hrest⟩

theorem Earned.cons {result : ServiceResult} {h : List (Entry Client)}
    (hh : Earned loads task result h) {x : Entry Client} : Earned loads task result (x :: h) :=
  fun json hjson => (hh json hjson).cons loads task x

@[simp] theorem attempts_cons (x : Entry Client) (h : List (Entry Client)) :
    attempts (x :: h) = attempts h+if isAttempt x then 1 else 0 := List.countP_cons

@[simp] theorem requests_cons (x : Entry Client) (h : List (Entry Client)) :
    requests (x :: h) = requests h+if isRequest x then 1 else 0 := List.countP_cons

theorem lastExchange_cons (x : Entry Client) (h : List (Entry Client)) (hx : exchanged x = none) :
    lastExchange (x :: h) = lastExchange h := by
  rw [lastExchange,List.findSome?_cons,hx]
  rfl

theorem InTime.cons {x : Entry Client} {h : List (Entry Client)} (hh : InTime cfg task h)
    (hx : reading x = none) : InTime cfg task (x :: h) := by
  intro hfactor hsteady
  rw [readings,List.filterMap_cons_none hx]
  exact hh hfactor hsteady.2

/-- A reading before the deadline puts all that were made before in time. -/
theorem InTime.of_reading {h : List (Entry Client)} {now : Seconds}
    (hnow : 0 ≤ cfg.retryBackoffFactor → Steady h → now < task.deadline) :
    InTime cfg task (⟨.monotonic,now⟩ :: h) := by
  intro hfactor hsteady earlier hearlier
  rcases List.mem_cons.mp hearlier with rfl | hearlier
  · exact hnow hfactor hsteady.2
  · exact lt_of_le_of_lt (of_decide_eq_true hsteady.1 earlier hearlier) (hnow hfactor hsteady.2)

theorem EndedIn.of_exchange {h : List (Entry Client)} {exchange : Exchange}
    {ended : Except ClientExn Json} (heq : requests h = attempts h)
    (hlast : lastExchange h = some exchange)
    (hended : responseJson loads task.method exchange = ended) : EndedIn loads task h ended := by
  unfold EndedIn
  split
  · trivial
  · exact ⟨heq,exchange,hlast,hended⟩

/-- A step that is neither an attempt nor a request changes nothing about the last exchange. -/
theorem EndedIn.cons {h : List (Entry Client)} {ended : Except ClientExn Json}
    (hended : EndedIn loads task h ended) {x : Entry Client} (hattempt : isAttempt x = false)
    (hrequest : isRequest x = false) (hexchange : exchanged x = none) :
    EndedIn loads task (x :: h) ended := by
  unfold EndedIn at hended ⊢
  split
  · trivial
  · rw [attempts_cons,requests_cons,hattempt,hrequest,lastExchange_cons _ _ hexchange]
    simpa using hended

theorem readResponse_budgeted {kwargs : RequestArgs} (hredirect : kwargs.followRedirects = none)
    {h : List (Entry Client)} (hone : requests h+1 = attempts h) (hh : InTime cfg task h) :
    (readResponse loads task.method task.url kwargs).Budgeted cfg loads task
      (fun json h' => attempts h' = attempts h ∧ EndedIn loads task h' (.ok json))
      (fun e h' => attempts h' = attempts h ∧ EndedIn loads task h' (.error e)) h := by
  refine ⟨⟨by rw [hredirect]; rfl,by omega,hh⟩,fun exchange _ => ?_⟩
  have hkept : ∀ request, attempts (⟨.stream request,exchange⟩ :: h) = attempts h :=
    fun request => by simp [isAttempt]
  have heq : ∀ request, requests (⟨.stream request,exchange⟩ :: h) =
      attempts (⟨.stream request,exchange⟩ :: h) := fun request => by
    rw [hkept,← hone]
    simp [isRequest]
  dsimp only
  cases hended : responseJson loads task.method exchange with
  | ok json => exact ⟨hkept _,EndedIn.of_exchange loads task (heq _) rfl hended⟩
  | error e => exact ⟨hkept _,EndedIn.of_exchange loads task (heq _) rfl hended⟩

theorem breakerCall_budgeted {func : ClientProg Json} {h : List (Entry Client)}
    (hmay : MayAttempt cfg task h)
    (hfunc : ∀ x : Entry Client, isAttempt x → reading x = none → isRequest x = false →
      func.Budgeted cfg loads task
        (fun json h' => attempts h' = attempts h+1 ∧ EndedIn loads task h' (.ok json))
        (fun e h' => attempts h' = attempts h+1 ∧ EndedIn loads task h' (.error e)) (x :: h)) :
    (breakerCall (serviceName task.url) func).Budgeted cfg loads task
      (fun json h' => attempts h' = attempts h+1 ∧ EndedIn loads task h' (.ok json))
      (fun e h' => attempts h' = attempts h+1 ∧ EndedIn loads task h' (.error e)) h := by
  refine ⟨hmay,fun admitted _ => ?_⟩
  cases admitted with
  | false => exact ⟨by simp [isAttempt],trivial⟩
  | true =>
    refine Prog.follows_handle.mpr (Prog.follows_bind.mpr
      ((hfunc ⟨.enterBreaker _,true⟩ rfl rfl rfl).mono ?_ ?_))
    · intro json h' hh
      exact ⟨trivial,fun _ _ => ⟨by simpa [isAttempt] using hh.1,hh.2.cons loads task rfl rfl rfl⟩⟩
    · intro e h' hh
      cases e.raised.report with
      | some q =>
        exact ⟨trivial,fun _ _ => ⟨by simpa [isAttempt] using hh.1,hh.2.cons loads task rfl rfl rfl⟩⟩
      | none => exact hh

theorem attempt_budgeted {h : List (Entry Client)} (hmay : MayAttempt cfg task h) :
    (attempt loads task).Budgeted cfg loads task
      (fun ended h' => attempts h' = attempts h+1 ∧ EndedIn loads task h' ended)
      (fun _ _ => False) h := by
  refine Prog.follows_handle.mpr (Prog.follows_bind.mpr
    (breakerCall_budgeted cfg loads task hmay ?_))
  intro x hattempt hreading hrequest
  have hcount : attempts (x :: h) = attempts h+1 := by rw [attempts_cons,if_pos hattempt]
  rw [← hcount]
  refine readResponse_budgeted cfg loads task rfl ?_ (hmay.inTime.cons cfg task hreading)
  rw [requests_cons,hrequest,hcount,hmay.again.1]
  rfl

/-- The loop may go on after an exception that it retries. -/
theorem EndedIn.mayGoOn {h : List (Entry Client)} {e : ClientExn}
    (hended : EndedIn loads task h (.error e)) (he : e.mayRetry) : MayGoOn h := by
  unfold EndedIn at hended
  split at hended
  · rename_i heq
    cases heq
    cases he
  · obtain ⟨heq,exchange,hlast,hresponse⟩ := hended
    exact ⟨heq,.inr ⟨exchange,hlast,responseJson_mayRetry hresponse he⟩⟩

theorem MayGoOn.cons {h : List (Entry Client)} (hh : MayGoOn h) {x : Entry Client}
    (hattempt : isAttempt x = false) (hrequest : isRequest x = false)
    (hexchange : exchanged x = none) : MayGoOn (x :: h) := by
  unfold MayGoOn at hh ⊢
  rw [attempts_cons,requests_cons,hattempt,hrequest,lastExchange_cons _ _ hexchange]
  simpa using hh

/-- The end of an attempt is in time, or the code of a failure is tried again. -/
theorem afterAttempt_budgeted {retry : String → ClientProg ServiceResult} {h : List (Entry Client)}
    {ended : Except ClientExn Json} (hended : EndedIn loads task h ended)
    (hretry : MayGoOn h → ∀ code, (retry code).Budgeted cfg loads task (Earned loads task)
      (fun _ _ => True) h) :
    (afterAttempt task retry ended).Budgeted cfg loads task (Earned loads task)
      (fun _ _ => True) h := by
  have hnone : ∀ code h', Earned loads task (.error code) h' := fun _ _ _ hjson => by cases hjson
  cases ended with
  | ok result =>
    refine ⟨trivial,fun now _ => Prog.follows_ite (fun _ => hnone _ _) fun hnow => ?_⟩
    · rintro json ⟨⟩
      obtain ⟨heq,exchange,hlast,hresponse⟩ := hended
      exact ⟨[],h,now,exchange,rfl,not_le.mp hnow,heq,hlast,responseJson_ok hresponse⟩
  | error e =>
    cases e with
    | serviceHttpError statusCode code =>
      refine Prog.follows_ite (fun hstatus => hretry (hended.mayGoOn loads task ?_) code)
        fun _ => hnone _ _
      exact decide_eq_true hstatus
    | transport t =>
      exact Prog.follows_ite (fun ht => hretry (hended.mayGoOn loads task ht) _) fun _ => hnone _ _
    | circuitBreakerOpen | invalidServiceResponse => exact hnone _ _
    | _ => trivial

/-- A wait is only begun in time, and then the loop goes on. -/
theorem backOff_budgeted {number left : Nat} {code : String}
    {next : ClientProg ServiceResult} {h : List (Entry Client)} (hh : MayGoOn h)
    (hnext : ∀ h', attempts h' = attempts h → MayGoOn h' → left ≠ 0 →
      next.Budgeted cfg loads task (Earned loads task) (fun _ _ => True) h') :
    (backOff cfg task number left code next).Budgeted cfg loads task (Earned loads task)
      (fun _ _ => True) h := by
  have hnone : ∀ h', Earned loads task (.error code) h' := fun _ _ hjson => by cases hjson
  refine Prog.follows_ite (fun _ => hnone _) fun hleft => ?_
  refine ⟨trivial,fun jitter _ => ⟨trivial,fun now _ => ?_⟩⟩
  refine Prog.follows_ite (fun _ => hnone _) fun hfits => ?_
  have hbefore : 0 ≤ cfg.retryBackoffFactor → Steady (⟨.uniform,jitter⟩ :: h) →
      now < task.deadline := by
    intro hfactor hsteady
    have hdelay : 0 ≤ cfg.retryBackoffFactor*2^number+jitter :=
      add_nonneg (mul_nonneg hfactor (by positivity)) (of_decide_eq_true hsteady.1)
    linarith
  refine Prog.follows_bind.mpr ⟨InTime.of_reading cfg task hbefore,fun failure _ => ?_⟩
  cases failure with
  | some f => trivial
  | none =>
    refine hnext _ (by simp [isAttempt]) ?_ hleft
    exact ((hh.cons rfl rfl rfl).cons rfl rfl rfl).cons rfl rfl rfl

theorem attemptLoop_budgeted {number left : Nat} {lastCode : String} {h : List (Entry Client)}
    (hleft : attempts h+left = attemptsAllowed cfg task.method) (hh : MayGoOn h) :
    (attemptLoop cfg loads task number lastCode left).Budgeted cfg loads task (Earned loads task)
      (fun _ _ => True) h := by
  induction left generalizing number lastCode h with
  | zero => exact fun _ hjson => by cases hjson
  | succ left ih =>
    refine ⟨trivial,fun now _ => Prog.follows_ite (fun _ _ hjson => by cases hjson)
      fun hbefore => ?_⟩
    have hmay : MayAttempt cfg task (⟨.monotonic,now⟩ :: h) := by
      refine ⟨InTime.of_reading cfg task fun _ _ => not_le.mp hbefore,?_,hh.cons rfl rfl rfl⟩
      simp only [attempts_cons,isAttempt]
      simp only [Bool.false_eq_true,if_false]
      omega
    refine Prog.follows_bind.mpr ((attempt_budgeted cfg loads task hmay).mono ?_
      fun _ _ hf => hf.elim)
    intro ended h' hh'
    have hcount : attempts h' = attempts h+1 := by
      simpa [isAttempt] using hh'.1
    refine afterAttempt_budgeted cfg loads task hh'.2 fun hgo code => ?_
    refine backOff_budgeted cfg loads task hgo fun h'' hsame hgo' _ => ih ?_ hgo'
    omega

/-- Whatever a handler makes of an exception, it earns no success that there was not. -/
theorem Budgeted.recovering {p : ClientProg ServiceResult} {f : ClientExn → ClientProg ServiceResult}
    {h : List (Entry Client)}
    (hp : p.Budgeted cfg loads task (Earned loads task) (fun _ _ => True) h)
    (hf : ∀ e h', (f e).Budgeted cfg loads task (Earned loads task) (fun _ _ => True) h') :
    ClientProg.Budgeted cfg loads task (p.handle f) (Earned loads task) (fun _ _ => True) h :=
  Prog.follows_handle.mpr (hp.mono (fun _ _ hearned => hearned) fun e h' _ => hf e h')

/-- A last step that returns nothing, or raises, leaves a result as it was earned. -/
theorem Budgeted.closing {p : ClientProg ServiceResult} {q : ClientOp} {k : q.Ans → ClientProg Unit}
    {h : List (Entry Client)}
    (hp : p.Budgeted cfg loads task (Earned loads task) (fun _ _ => True) h)
    (hq : ∀ h', BudgetOrder cfg loads task h' q) (hk : ∀ a, k a = .ret () ∨ ∃ e, k a = .raise e) :
    ClientProg.Budgeted cfg loads task (p.ensuring (.call q k)) (Earned loads task)
      (fun _ _ => True) h := by
  refine Prog.follows_ensuring.mpr (hp.mono (fun result h' hearned => ⟨hq h',fun a _ => ?_⟩)
    fun e h' _ => ⟨hq h',fun a _ => ?_⟩)
  · obtain hret | ⟨e,hraise⟩ := hk a
    · rw [hret]
      exact hearned.cons
    · rw [hraise]
      trivial
  · obtain hret | ⟨e',hraise⟩ := hk a
    · rw [hret]
      trivial
    · rw [hraise]
      trivial

theorem interruptible_ends (f : Option Failure) :
    (interruptible () f : ClientProg Unit) = .ret () ∨
      ∃ e, (interruptible () f : ClientProg Unit) = .raise e := by
  cases f with
  | none => exact .inl rfl
  | some f => exact .inr ⟨_,rfl⟩

theorem callServiceAsync_budgeted {h : List (Entry Client)}
    (hattempts : attempts h = 0) (hrequests : requests h = 0) :
    (callServiceAsync cfg loads task).Budgeted cfg loads task (Earned loads task)
      (fun _ _ => True) h := by
  refine ⟨trivial,fun now _ => Budgeted.recovering cfg loads task ?_ fun e h' => ?_⟩
  · refine Prog.follows_bind.mpr ⟨trivial,fun failure _ => ?_⟩
    cases failure with
    | some f => trivial
    | none =>
      refine Budgeted.closing cfg loads task (attemptLoop_budgeted cfg loads task ?_ ?_)
        (fun _ => trivial) interruptible_ends
      · simp [isAttempt,hattempts]
      · exact ⟨by simp [isAttempt,isRequest,hattempts,hrequests],
          .inl (by simp [isAttempt,hattempts])⟩
  · cases e <;> trivial

theorem runServiceCall_budgeted {h : List (Entry Client)}
    (hattempts : attempts h = 0) (hrequests : requests h = 0) :
    (runServiceCall cfg loads task).Budgeted cfg loads task (Earned loads task)
      (fun _ _ => True) h := by
  have hnone : ∀ h', Earned loads task unavailable h' := fun _ _ hjson => by cases hjson
  refine Budgeted.closing cfg loads task (Budgeted.recovering cfg loads task ?_ fun e h' => ?_)
    (fun _ => trivial) fun fine => ?_
  · refine ⟨trivial,fun now _ => Prog.follows_ite (fun _ => hnone _) fun _ => ?_⟩
    exact callServiceAsync_budgeted cfg loads task (by simp [isAttempt,hattempts])
      (by simp [isRequest,hrequests])
  · cases e <;> first | trivial | exact hnone _
  · cases fine with
    | true => exact .inl rfl
    | false => exact .inr ⟨_,rfl⟩

end Loop

section Run

variable {ι : Type} (cfg : ClientConfig) (loads : Bytes → Option Json) (calls : ι → ServiceCall)

/-- The work that a history has begun with. -/
def Begun (task : Task) (h : List (Entry Client)) : Prop := h.getLast? = some ⟨.begin,task⟩

/-- What a call hands to the pool: its method in capitals, and a deadline. -/
def CallerBudget (call : ServiceCall) (h : List (Entry Client)) : ClientOp → Prop
  | .submit task => task.method = call.method.toUpper ∧
      ∃ start, ⟨.monotonic,start⟩ ∈ h ∧ task.deadline = start+cfg.totalTimeout
  | .monotonic | .acquire | .release | .result _ => True
  | _ => False

def WorkerBudget (h : List (Entry Client)) : ClientOp → Prop
  | .begin => h = []
  | q => ∃ task, Begun task h ∧ BudgetOrder cfg loads task h q

def PartyBudget : Party ι → List (Entry Client) → ClientOp → Prop
  | .caller i => CallerBudget cfg (calls i)
  | .worker _ => WorkerBudget cfg loads

/-- A success comes from the future. -/
def Received (result : ServiceResult) (h : List (Entry Client)) : Prop :=
  ∀ json, result = .ok json → ∃ t, ⟨.result t,some (.ok (.ok json))⟩ ∈ h

def PartyReceived : Party ι → Option ServiceResult → List (Entry Client) → Prop
  | .caller _, some result, h => Received result h
  | _, _, _ => True

theorem Begun.cons {task : Task} {h : List (Entry Client)} (hb : Begun task h) (x : Entry Client) :
    Begun task (x :: h) := by
  cases h with
  | nil => cases hb
  | cons y h => exact hb

theorem Begun.eq {task task' : Task} {h : List (Entry Client)} (hb : Begun task h)
    (hb' : Begun task' h) : task = task' := by
  have heq : (⟨.begin,task⟩ : Entry Client) = ⟨.begin,task'⟩ :=
    Option.some.inj (hb.symm.trans hb')
  cases heq
  rfl

theorem Budgeted.begun {α : Type} (task : Task) {p : ClientProg α}
    {fin : α → List (Entry Client) → Prop} {exc : ClientExn → List (Entry Client) → Prop}
    {h : List (Entry Client)} (hp : p.Budgeted cfg loads task fin exc h) (hb : Begun task h) :
    p.Follows (WorkerBudget cfg loads) (fun _ _ _ => True) fin exc h := by
  induction p generalizing h with
  | ret a => exact hp
  | raise e => exact hp
  | call q k ih =>
    refine ⟨?_,fun a ha => ih a (hp.2 a ha) (hb.cons _)⟩
    cases q with
    | begin => exact hp.1.elim
    | _ => exact ⟨task,hb,hp.1⟩

theorem workItem_budget : (workItem cfg loads).Follows (WorkerBudget cfg loads) (fun _ _ _ => True)
    (fun _ _ => True) (fun _ _ => True) [] := by
  refine ⟨rfl,fun task _ => ?_⟩
  have hrun := runServiceCall_budgeted cfg loads task (h := [⟨.begin,task⟩]) rfl rfl
  refine Budgeted.begun cfg loads task (Prog.follows_bind.mpr (Prog.follows_handle.mpr
    (Prog.follows_bind.mpr (hrun.mono ?_ ?_)))) rfl
  · intro result h hearned
    refine ⟨?_,fun _ _ => trivial⟩
    cases result with
    | ok json => exact hearned json rfl
    | error code => trivial
  · exact fun e h _ => ⟨trivial,fun _ _ => trivial⟩

theorem callService_budget (call : ServiceCall) :
    (callService cfg call.method call.url call.kwargs).Follows (CallerBudget cfg call)
      (fun _ _ _ => True) Received (fun _ _ => True) [] := by
  have hnone : ∀ h, Received unavailable h := fun _ _ hjson => by cases hjson
  refine ⟨trivial,fun now _ => Prog.follows_ite (fun _ => hnone _) fun _ =>
    ⟨trivial,fun got _ => ?_⟩⟩
  cases got with
  | false => exact hnone _
  | true =>
    refine ⟨⟨rfl,now,by simp,rfl⟩,fun accepted _ => ?_⟩
    cases accepted with
    | false =>
      refine ⟨trivial,fun fine _ => ?_⟩
      cases fine <;> trivial
    | true =>
      refine ⟨trivial,fun now' _ => ⟨trivial,fun outcome _ => ?_⟩⟩
      rcases outcome with - | e | result
      · exact hnone _
      · cases e <;> first | trivial | exact hnone _
      · rintro json rfl
        exact ⟨_,List.mem_cons_self⟩

theorem prog_budget (p : Party ι) : (p.prog cfg loads calls).Follows (PartyBudget cfg loads calls p)
    (fun _ _ _ => True) (PartyReceived p) (fun _ _ => True) [] := by
  cases p with
  | caller i => exact Prog.follows_map.mpr (callService_budget cfg (calls i))
  | worker i => exact Prog.follows_map.mpr (workItem_budget cfg loads)

/-- What is queued or begun has been submitted, and what a caller gets has been finished. -/
structure TaskInv (s : Pool ι) (past : Party ι → List (Entry Client)) : Prop where
  queued : ∀ x ∈ s.queue, ⟨.submit x.2,true⟩ ∈ past (.caller x.1)
  begun : ∀ i task, ⟨.begin,task⟩ ∈ past (.worker i) → ⟨.submit task,true⟩ ∈ past (.caller i)
  finished : ∀ i outcome, s.futures i = some outcome → ⟨.finish outcome,()⟩ ∈ past (.worker i)
  received : ∀ i t outcome, ⟨.result t,some outcome⟩ ∈ past (.caller i) →
    ⟨.finish outcome,()⟩ ∈ past (.worker i)

theorem taskInv_start : TaskInv (Pool.idle ι) fun _ => [] :=
  ⟨nofun,nofun,nofun,nofun⟩

variable [DecidableEq ι]

variable {s : Pool ι} {past : Party ι → List (Entry Client)} {p : Party ι} {q : ClientOp} {i : ι}
  {e : Outside}

theorem mem_added {y : Entry Client} {p' : Party ι} {x : Entry Client} (h : y ∈ past p') :
    y ∈ added past p x p' := by
  by_cases hp : p' = p
  · subst hp
    rw [added,Function.update_self]
    exact List.mem_cons_of_mem _ h
  · rwa [added,Function.update_of_ne hp]

theorem of_mem_added {y : Entry Client} {p' : Party ι} {x : Entry Client}
    (h : y ∈ added past p x p') : p' = p ∧ y = x ∨ y ∈ past p' := by
  by_cases hp : p' = p
  · subst hp
    rw [added,Function.update_self] at h
    exact (List.mem_cons.mp h).imp_left fun hy => ⟨rfl,hy⟩
  · rw [added,Function.update_of_ne hp] at h
    exact .inr h

/-- Only a submission that is accepted puts something into the queue. -/
theorem perform_queue {x : ι × Task} (h : x ∈ (Pool.perform i e s q).2.queue) : x ∈ s.queue ∨
    x.1 = i ∧ (⟨q,(Pool.perform i e s q).1⟩ : Entry Client) = ⟨.submit x.2,true⟩ := by
  cases q with
  | submit task =>
    simp only [Pool.perform] at h ⊢
    split at h
    · exact .inl h
    · rename_i hraises
      rw [if_neg hraises]
      rcases List.mem_append.mp h with h | h
      · exact .inl h
      · obtain rfl := List.mem_singleton.mp h
        exact .inr ⟨rfl,rfl⟩
  | begin => exact .inl (List.mem_of_mem_tail h)
  | acquire | release =>
    simp only [Pool.perform] at h
    split at h <;> exact .inl h
  | _ => exact .inl h

theorem perform_futures {j : ι} {outcome : Outcome}
    (h : (Pool.perform i e s q).2.futures j = some outcome) : s.futures j = some outcome ∨
      j = i ∧ (⟨q,(Pool.perform i e s q).1⟩ : Entry Client) = ⟨.finish outcome,()⟩ := by
  cases q with
  | finish o =>
    by_cases hj : j = i
    · subst hj
      simp only [Pool.perform,Function.update_self] at h
      cases h
      exact .inr ⟨rfl,rfl⟩
    · simp only [Pool.perform,Function.update_of_ne hj] at h
      exact .inl h
  | acquire | release | submit =>
    simp only [Pool.perform] at h
    split at h <;> exact .inl h
  | _ => exact .inl h

theorem begin_queued (hready : Pool.ready s i e .begin) :
    (i,(Pool.perform i e s .begin).1) ∈ s.queue := by
  have hhead : s.queue.head?.map Prod.fst = some i := (of_decide_eq_true hready).1
  cases hq : s.queue with
  | nil =>
    rw [hq] at hhead
    cases hhead
  | cons x rest =>
    rw [hq] at hhead
    cases hhead
    simp [Pool.perform,hq]

theorem TaskInv.next (h : TaskInv s past) (hready : Pool.ready s p.callOf e q)
    (hok : PartyBudget cfg loads calls p (past p) q) :
    TaskInv (Pool.perform p.callOf e s q).2
      (added past p ⟨q,(Pool.perform p.callOf e s q).1⟩) := by
  refine ⟨fun x hx => ?_,fun i task hi => ?_,fun i outcome hi => ?_,fun i t outcome hi => ?_⟩
  · obtain hold | ⟨hwho,hnew⟩ := perform_queue hx
    · exact mem_added (h.queued x hold)
    · cases p with
      | caller i =>
        obtain rfl : x.1 = i := hwho
        rw [hnew,added,Function.update_self]
        exact List.mem_cons_self
      | worker i =>
        cases q with
        | submit task =>
          obtain ⟨_,_,hfalse⟩ := hok
          exact hfalse.elim
        | _ => cases hnew
  · obtain ⟨rfl,hnew⟩ | hold := of_mem_added hi
    · cases q with
      | begin =>
        cases hnew
        exact mem_added (h.queued _ (begin_queued hready))
      | _ => cases hnew
    · exact mem_added (h.begun i task hold)
  · obtain hold | ⟨hwho,hnew⟩ := perform_futures hi
    · exact mem_added (h.finished i outcome hold)
    · cases p with
      | caller i' =>
        cases q with
        | finish o => exact hok.elim
        | _ => cases hnew
      | worker i' =>
        obtain rfl : i = i' := hwho
        rw [hnew,added,Function.update_self]
        exact List.mem_cons_self
  · obtain ⟨rfl,hnew⟩ | hold := of_mem_added hi
    · cases q with
      | result t' =>
        refine mem_added (h.finished i outcome ?_)
        generalize hanswer : (Pool.perform (Party.caller i).callOf e s (.result t')).1 = answer at hnew
        cases hnew
        simp only [Pool.perform] at hanswer
        split at hanswer
        · cases hanswer
        · exact hanswer
      | _ => cases hnew
    · exact mem_added (h.received i t outcome hold)

theorem taskInv_kept : Keeps (Pool.server ι) Config.anyStep (PartyBudget cfg loads calls)
    (fun _ _ _ _ => True) (fun s past => TaskInv s past) :=
  fun _ _ _ _ _ h hready _ hok => ⟨trivial,h.next cfg loads calls hready hok⟩

/-- The steps that start something. -/
def Starts : ClientOp → Prop
  | .enterBreaker _ | .stream _ | .sleep _ => True
  | _ => False

/-- What a worker that has begun with some work has done so far. -/
structure BudgetKept (cfg : ClientConfig) (method : String) (task : Task) (h : List (Entry Client)) :
    Prop where
  bounded : attempts h ≤
    if method.toUpper ∈ retryMethods then (max 0 cfg.maxRetries).toNat+1 else 1
  requested : requests h ≤ attempts h
  inTime : ∀ newer x older, h = newer ++ x :: older → Starts x.1 →
    ∀ now ∈ readings older, now < task.deadline
  notFollowed : ∀ request exchange, ⟨.stream request,exchange⟩ ∈ h → request.followRedirects = false
  retried : ∀ newer x older, h = newer ++ x :: older → isAttempt x → MayGoOn older

theorem Begun.tail {task : Task} {x : Entry Client} {h : List (Entry Client)}
    (hb : Begun task (x :: h)) : h = [] ∧ x = ⟨.begin,task⟩ ∨ Begun task h := by
  cases h with
  | nil => exact .inl ⟨rfl,Option.some.inj hb⟩
  | cons y h => exact .inr hb

/-- What a worker did was allowed for the work that it has begun with. -/
theorem obeyed_order {task : Task} {h : List (Entry Client)} {x : Entry Client}
    (hx : WorkerBudget cfg loads h x.1) (hb : Begun task h) : BudgetOrder cfg loads task h x.1 := by
  obtain ⟨q,a⟩ := x
  cases q with
  | begin =>
    have hempty : h = [] := hx
    rw [hempty] at hb
    cases hb
  | _ =>
    obtain ⟨task',hb',hok⟩ := hx
    rwa [hb.eq hb']

theorem obeyed_counts {task : Task} {h : List (Entry Client)} (hb : Begun task h)
    (hobeyed : Obeyed (WorkerBudget cfg loads) h) :
    attempts h ≤ attemptsAllowed cfg task.method ∧ requests h ≤ attempts h := by
  induction h with
  | nil => exact ⟨Nat.zero_le _,Nat.le_refl 0⟩
  | cons x h ih =>
    obtain ⟨rfl,rfl⟩ | hb' := hb.tail
    · exact ⟨Nat.zero_le _,Nat.le_refl 0⟩
    · obtain ⟨hbound,hle⟩ := ih hb' hobeyed.2
      have hok := obeyed_order cfg loads hobeyed.1 hb'
      obtain ⟨q,a⟩ := x
      rw [attempts_cons,requests_cons]
      cases q with
      | enterBreaker service =>
        have hleft := hok.left
        exact ⟨hleft,Nat.le_succ_of_le hle⟩
      | stream request => exact ⟨hbound,hok.2.1⟩
      | _ => exact ⟨hbound,hle⟩

theorem obeyed_at {task : Task} {newer older : List (Entry Client)} {x : Entry Client}
    (hb : Begun task (newer ++ x :: older))
    (hobeyed : Obeyed (WorkerBudget cfg loads) (newer ++ x :: older)) :
    older = [] ∧ x = ⟨.begin,task⟩ ∨ BudgetOrder cfg loads task older x.1 := by
  have hb' : Begun task (x :: older) := by
    rw [Begun,List.getLast?_append] at hb
    cases hlast : (x :: older).getLast? with
    | none => simp at hlast
    | some y =>
      rw [hlast] at hb
      exact hlast.trans hb
  exact hb'.tail.imp_right fun hb'' => obeyed_order cfg loads hobeyed.at hb''

theorem Steady.older {newer older : List (Entry Client)} (h : Steady (newer ++ older)) :
    Steady older := by
  induction newer with
  | nil => exact h
  | cons x newer ih => exact ih h.2

theorem budgetKept_of_obeyed {method : String} {task : Task} {h : List (Entry Client)}
    (hfactor : 0 ≤ cfg.retryBackoffFactor) (hsteady : Steady h) (hb : Begun task h)
    (hobeyed : Obeyed (WorkerBudget cfg loads) h) (hmethod : task.method = method.toUpper) :
    BudgetKept cfg method task h := by
  obtain ⟨hbound,hle⟩ := obeyed_counts cfg loads hb hobeyed
  refine ⟨?_,hle,?_,?_,?_⟩
  · rwa [attemptsAllowed,hmethod] at hbound
  · rintro newer ⟨q,a⟩ older rfl hstarts
    have holder : Steady older := hsteady.older.2
    obtain ⟨-,hbegin⟩ | hok := obeyed_at cfg loads hb hobeyed
    · cases hbegin
      exact hstarts.elim
    · cases q with
      | enterBreaker service => exact hok.inTime hfactor holder
      | stream request => exact hok.2.2 hfactor holder
      | sleep delay => exact hok hfactor holder
      | _ => exact hstarts.elim
  · intro request exchange hmem
    obtain ⟨newer,older,rfl⟩ := List.append_of_mem hmem
    obtain ⟨-,hbegin⟩ | hok := obeyed_at cfg loads hb hobeyed
    · cases hbegin
    · exact hok.1
  · rintro newer ⟨q,a⟩ older rfl hattempt
    obtain ⟨-,hbegin⟩ | hok := obeyed_at cfg loads hb hobeyed
    · cases hbegin
      cases hattempt
    · cases q with
      | enterBreaker service => exact hok.again
      | _ => cases hattempt

/-- What a call does: the caller itself starts nothing, its worker keeps to the budget, and a
success has been earned. -/
structure CallKept (call : ServiceCall) (c : ClientRun ι) (i : ι) : Prop where
  caller : ∀ x ∈ c.past (.caller i), ¬ Starts x.1
  worker : c.past (.worker i) = [] ∨ ∃ task start, Begun task (c.past (.worker i)) ∧
    ⟨.monotonic,start⟩ ∈ c.past (.caller i) ∧ task.deadline = start+cfg.totalTimeout ∧
    BudgetKept cfg call.method task (c.past (.worker i))
  success : ∀ json, c.result (.caller i) = some (some (.ok json)) → ∃ task,
    Begun task (c.past (.worker i)) ∧ Succeeded loads task (c.past (.worker i)) json

theorem begun_of_obeyed {h : List (Entry Client)} (hobeyed : Obeyed (WorkerBudget cfg loads) h)
    (hne : h ≠ []) : ∃ task, Begun task h := by
  obtain ⟨⟨q,a⟩,older,rfl⟩ := List.exists_cons_of_ne_nil hne
  have hok := hobeyed.1
  cases q with
  | begin =>
    have hempty : older = [] := hok
    exact ⟨a,by rw [hempty]; rfl⟩
  | _ =>
    obtain ⟨task,hb,-⟩ := hok
    exact ⟨task,hb.cons _⟩

theorem Begun.mem {task : Task} {h : List (Entry Client)} (hb : Begun task h) :
    ⟨.begin,task⟩ ∈ h := List.mem_of_getLast? hb

theorem Begun.append {task : Task} {h : List (Entry Client)} (hb : Begun task h)
    (newer : List (Entry Client)) : Begun task (newer ++ h) := by
  induction newer with
  | nil => exact hb
  | cons x newer ih => exact ih.cons x

theorem Succeeded.append {task : Task} {h : List (Entry Client)} {json : Json}
    (hs : Succeeded loads task h json) (newer : List (Entry Client)) :
    Succeeded loads task (newer ++ h) json := by
  induction newer with
  | nil => exact hs
  | cons x newer ih => exact ih.cons loads task x

theorem lastExchange_pos {h : List (Entry Client)} {exchange : Exchange}
    (hlast : lastExchange h = some exchange) : 0 < requests h := by
  obtain ⟨⟨q,a⟩,hmem,hx⟩ := List.exists_of_findSome?_eq_some hlast
  refine List.countP_pos_iff.mpr ⟨_,hmem,?_⟩
  cases q with
  | stream request => rfl
  | _ => cases hx

/-- After an exchange that may not be retried there is no other. -/
theorem nothing_after {task : Task} {newer older : List (Entry Client)} {exchange : Exchange}
    (hb : Begun task (newer ++ older)) (hobeyed : Obeyed (WorkerBudget cfg loads) (newer ++ older))
    (heq : requests older = attempts older) (hlast : lastExchange older = some exchange)
    (hretry : exchange.mayRetry = false) : requests (newer ++ older) = attempts (newer ++ older) ∧
      lastExchange (newer ++ older) = some exchange := by
  induction newer with
  | nil => exact ⟨heq,hlast⟩
  | cons x newer ih =>
    obtain ⟨hnil,-⟩ | hb' := Begun.tail hb
    · rw [(List.append_eq_nil_iff.mp hnil).2] at hlast
      cases hlast
    · obtain ⟨heq',hlast'⟩ := ih hb' hobeyed.2
      have hok := obeyed_order cfg loads hobeyed.1 hb'
      obtain ⟨q,a⟩ := x
      rw [List.cons_append,attempts_cons,requests_cons]
      cases q with
      | enterBreaker service =>
        obtain ⟨-,hnone | ⟨exchange',hlast'',hretry'⟩⟩ := hok.again
        · exact absurd (heq'.trans hnone) (Nat.ne_of_gt (lastExchange_pos hlast'))
        · rw [Option.some.inj (hlast'.symm.trans hlast''),hretry'] at hretry
          cases hretry
      | stream request => exact absurd heq' (Nat.ne_of_lt hok.2.1)
      | _ => exact ⟨heq',hlast'⟩

theorem Exchange.Complete.mayRetry {exchange : Exchange} {method : String} {json : Json}
    (h : exchange.Complete loads method json) : exchange.mayRetry = false := by
  cases exchange with
  | failed f => exact h.elim
  | response statusCode chunks brokenOff =>
    obtain ⟨hsuccess,rfl,-⟩ := h
    have hstatus : statusCode ∉ retryStatusCodes := by
      intro hmem
      simp only [retryStatusCodes,List.mem_cons,List.not_mem_nil,or_false] at hmem
      rcases hmem with rfl | rfl | rfl | rfl <;> cases hsuccess
    simp [Exchange.mayRetry,hstatus]

variable {c : ClientRun ι}
  (h : Config.Reach (Pool.server ι) Config.anyStep (clientRun cfg loads calls) c)

include h

theorem clientRun_obeyed (p : Party ι) : Obeyed (PartyBudget cfg loads calls p) (c.past p) := by
  have hstart : (clientRun cfg loads calls).Disciplined (PartyBudget cfg loads calls)
      (fun _ _ _ _ => True) PartyReceived (fun _ _ _ => True) (fun s past => TaskInv s past) :=
    Config.disciplined_start taskInv_start (prog_budget cfg loads calls)
  exact hstart.obeyed (taskInv_kept cfg loads calls) (fun _ => trivial) h p

theorem clientRun_tasks : c.Disciplined (PartyBudget cfg loads calls) (fun _ _ _ _ => True)
    PartyReceived (fun _ _ _ => True) (fun s past => TaskInv s past) :=
  (Config.disciplined_start taskInv_start (prog_budget cfg loads calls)).reach
    (taskInv_kept cfg loads calls) h

/-- A success that a caller returns has been earned by its worker. -/
theorem success_earned {i : ι} {json : Json}
    (hresult : c.result (.caller i) = some (some (.ok json))) :
    ∃ task, Begun task (c.past (.worker i)) ∧ Succeeded loads task (c.past (.worker i)) json := by
  have hc := clientRun_tasks cfg loads calls h
  have hworker : Obeyed (WorkerBudget cfg loads) (c.past (.worker i)) :=
    clientRun_obeyed cfg loads calls h (.worker i)
  have hreceived : Received (.ok json) (c.past (.caller i)) := hc.result hresult
  obtain ⟨t,ht⟩ := hreceived json rfl
  obtain ⟨newer,older,hsplit⟩ := List.append_of_mem (hc.1.received i t _ ht)
  rw [hsplit] at hworker ⊢
  obtain ⟨task,hb,hs⟩ := hworker.at
  exact ⟨task,(hb.cons _).append newer,(hs.cons loads task _).append loads newer⟩

/-- It is the last exchange of the worker that has succeeded. -/
theorem success_final {i : ι} {json : Json}
    (hresult : c.result (.caller i) = some (some (.ok json))) :
    ∃ (task : Task) (exchange : Exchange),
      lastExchange (c.past (.worker i)) = some exchange ∧
      exchange.Complete loads task.method json := by
  obtain ⟨task,hb,newer,older,now,exchange,hsplit,-,heq,hlast,hcomplete⟩ :=
    success_earned cfg loads calls h hresult
  have hworker : Obeyed (WorkerBudget cfg loads) (c.past (.worker i)) :=
    clientRun_obeyed cfg loads calls h (.worker i)
  have hsplit' : c.past (.worker i) = (newer ++ [⟨.monotonic,now⟩]) ++ older := by
    rw [hsplit,List.append_assoc]
    rfl
  rw [hsplit'] at hworker hb ⊢
  exact ⟨task,exchange,
    (nothing_after cfg loads hb hworker heq hlast (hcomplete.mayRetry loads)).2,hcomplete⟩

/-- However calls and workers interleave, the retry loop of every call keeps to its budget. -/
theorem retries_kept (hfactor : 0 ≤ cfg.retryBackoffFactor) (i : ι)
    (hsteady : Steady (c.past (.worker i))) : CallKept cfg loads (calls i) c i := by
  have hworker : Obeyed (WorkerBudget cfg loads) (c.past (.worker i)) :=
    clientRun_obeyed cfg loads calls h (.worker i)
  have hcaller : Obeyed (CallerBudget cfg (calls i)) (c.past (.caller i)) :=
    clientRun_obeyed cfg loads calls h (.caller i)
  refine ⟨?_,?_,fun json hresult => success_earned cfg loads calls h hresult⟩
  · rintro ⟨q,a⟩ hmem hstarts
    obtain ⟨newer,older,hsplit⟩ := List.append_of_mem hmem
    rw [hsplit] at hcaller
    have hok := hcaller.at
    cases q <;> first | exact hok.elim | exact hstarts.elim
  · by_cases hnone : c.past (.worker i) = []
    · exact .inl hnone
    · obtain ⟨task,hb⟩ := begun_of_obeyed cfg loads hworker hnone
      obtain ⟨newer,older,hsplit⟩ :=
        List.append_of_mem ((clientRun_tasks cfg loads calls h).1.begun i task hb.mem)
      have hok : CallerBudget cfg (calls i) older (.submit task) := by
        rw [hsplit] at hcaller
        exact hcaller.at
      obtain ⟨hmethod,start,hread,hdeadline⟩ := hok
      refine .inr ⟨task,start,hb,?_,hdeadline,
        budgetKept_of_obeyed cfg loads hfactor hsteady hb hworker hmethod⟩
      rw [hsplit]
      exact List.mem_append_right _ (List.mem_cons_of_mem _ hread)

end Run

section Retried

def serving (now : Seconds) (exchange : Exchange) : Outside :=
  ⟨now,0,true,exchange,none,false,false⟩

def firstAnswer : Exchange := .response 503 [] none

def secondAnswer : Exchange := .response 200 [[123,125]] none

/-- A read whose first attempt is answered 503 and whose second one succeeds. -/
def retriedMoves : List (Party Nat × Outside) :=
  List.replicate 4 (.caller 0,serving 0 firstAnswer) ++
    List.replicate 8 (.worker 0,serving 1 firstAnswer) ++
    List.replicate 11 (.worker 0,serving 2 secondAnswer) ++ [(.caller 0,serving 3 secondAnswer)]

def retriedRead : ClientRun Nat :=
  (clientRun usualConfig (fun _ => some (.obj [])) fun _ => seatCall).schedule (Pool.server Nat)
    (fun _ _ _ _ _ => true) retriedMoves

theorem retries_kept_retriedRead : requests (retriedRead.past (.worker 0)) = 2 ∧
    (retriedRead.result (.caller 0)).isSome ∧
      CallKept usualConfig (fun _ => some (.obj [])) seatCall retriedRead 0 :=
  ⟨by decide +kernel,by decide +kernel,retries_kept usualConfig (fun _ => some (.obj []))
    (fun _ => seatCall) (Config.reach_schedule (fun _ _ _ _ _ _ => trivial) _ _)
    (by decide +kernel) 0 (by decide +kernel)⟩

end Retried

end TicketRemaster.ServiceClient
