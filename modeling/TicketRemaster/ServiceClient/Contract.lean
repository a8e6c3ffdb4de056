import TicketRemaster.ServiceClient.Retries
set_option autoImplicit false

/-! What the callers of `call_service` rely on, in the four orchestrators: a pair of JSON and an
error that is `None` only after a 2xx response. -/

namespace TicketRemaster.ServiceClient

open Resumption

section Requests

/-- What comes of a request: no response, or the final status and its body. -/
inductive Downstream where
  | connectionFailure
  | timeout
  | response (statusCode : Nat) (body : Bytes)

def Downstream.finalStatus : Downstream → Option Nat
  | .response statusCode _ => some statusCode
  | _ => none

/-- A pair as `call_service` returns it, with `None` as null. -/
structure Pair where
  json : Json
  error : Json

def failure (code : String) : Pair := ⟨.null,.str code⟩

/-- `body.get("error", {}).get("code", "SERVICE_UNAVAILABLE")` of the decoded body, or that default
if any of it raises. -/
def downstreamCode : Option Json → Json
  | some (.obj body) => match body.lookup "error" with
      | some (.obj error) => (error.lookup "code").getD (.str "SERVICE_UNAVAILABLE")
      | _ => .str "SERVICE_UNAVAILABLE"
  | _ => .str "SERVICE_UNAVAILABLE"

/-- `raise_for_status` raises. -/
def isHttpError (statusCode : Nat) : Bool := 400 ≤ statusCode && statusCode < 600

/-- `call_service` on top of `requests`; `none` stands for an exception, and `loads` decodes JSON or
raises. -/
def requestsCallService (timeoutCode : String) (loads : Bytes → Option Json) :
    Downstream → Option Pair
  | .timeout => some (failure timeoutCode)
  | .connectionFailure => some (failure "SERVICE_UNAVAILABLE")
  | .response statusCode body =>
      if isHttpError statusCode then some ⟨.null,downstreamCode (loads body)⟩
      else (loads body).map fun json => ⟨json,.null⟩

def transferCallService := requestsCallService "SERVICE_UNAVAILABLE"
def creditCallService := requestsCallService "SERVICE_UNAVAILABLE"
def verificationCallService := requestsCallService "SERVICE_TIMEOUT"

/-- A pair whose error is `None` only after a 2xx, and a text with something in it otherwise. -/
def Contract (finalStatus : Option Nat) (reply : Option Pair) : Prop :=
  ∃ pair, reply = some pair ∧
    ((pair.error = .null ∧ ∃ statusCode, finalStatus = some statusCode ∧ isSuccess statusCode) ∨
      ∃ code, pair.error = .str code ∧ code ≠ "")

/-- The body has an error code that is not a text with something in it. -/
def OddCode (payload : Option Json) : Prop :=
  ∃ body error code, payload = some (.obj body) ∧ body.lookup "error" = some (.obj error) ∧
    error.lookup "code" = some code ∧ ∀ text, code = .str text → text = ""

/-- A response that the clients on top of `requests` can deal with. -/
def Manageable (loads : Bytes → Option Json) : Downstream → Prop
  | .response statusCode body => isSuccess statusCode ∧ (loads body).isSome ∨
      isHttpError statusCode ∧ ¬ OddCode (loads body)
  | _ => True

theorem downstreamCode_odd {payload : Option Json} (h : OddCode payload) :
    ∀ code, downstreamCode payload = .str code → code = "" := by
  obtain ⟨body,error,code,rfl,herror,hcode,hodd⟩ := h
  intro text htext
  rw [downstreamCode,herror] at htext
  simp only [hcode,Option.getD_some] at htext
  exact hodd text htext

theorem downstreamCode_text {payload : Option Json} (h : ¬ OddCode payload) :
    ∃ code, downstreamCode payload = .str code ∧ code ≠ "" := by
  have hdefault : ∃ code, Json.str "SERVICE_UNAVAILABLE" = .str code ∧ code ≠ "" :=
    ⟨_,rfl,by decide⟩
  unfold downstreamCode
  split
  · rename_i body
    split
    · rename_i error herror
      cases hcode : error.lookup "code" with
      | none => exact hdefault
      | some code =>
        by_contra hnone
        refine h ⟨body,error,code,rfl,herror,hcode,fun text htext => ?_⟩
        by_contra hne
        exact hnone ⟨text,htext,hne⟩
    · exact hdefault
  · exact hdefault

theorem failure_contract {code : String} (hcode : code ≠ "") (finalStatus : Option Nat) :
    Contract finalStatus (some (failure code)) := ⟨_,rfl,.inr ⟨code,rfl,hcode⟩⟩

theorem requestsCallService_contract {timeoutCode : String} (hcode : timeoutCode ≠ "")
    (loads : Bytes → Option Json) (d : Downstream) :
    Contract d.finalStatus (requestsCallService timeoutCode loads d) ↔ Manageable loads d := by
  cases d with
  | connectionFailure => exact iff_of_true (failure_contract (by decide) _) trivial
  | timeout => exact iff_of_true (failure_contract hcode _) trivial
  | response statusCode body =>
    simp only [requestsCallService,Manageable]
    by_cases herror : isHttpError statusCode
    · have hnot : ¬ isSuccess statusCode := by
        simp only [isHttpError,isSuccess,Bool.and_eq_true,decide_eq_true_eq] at herror ⊢
        omega
      rw [if_pos herror]
      constructor
      · rintro ⟨pair,hpair,⟨-,status,hstatus,hsuccess⟩ | ⟨code,htext,hne⟩⟩
        · cases hstatus
          exact absurd hsuccess hnot
        · cases hpair
          exact .inr ⟨herror,fun hodd => hne (downstreamCode_odd hodd code htext)⟩
      · rintro (⟨hsuccess,-⟩ | ⟨-,hodd⟩)
        · exact absurd hsuccess hnot
        · exact ⟨_,rfl,.inr (downstreamCode_text hodd)⟩
    · rw [if_neg herror]
      cases hjson : loads body with
      | none =>
        refine iff_of_false (fun h => ?_) (fun h => ?_)
        · obtain ⟨pair,hpair,-⟩ := h
          cases hpair
        · rcases h with ⟨-,hsome⟩ | ⟨herror',-⟩
          · cases hsome
          · exact herror herror'
      | some json =>
        constructor
        · rintro ⟨pair,hpair,⟨-,status,hstatus,hsuccess⟩ | ⟨code,htext,-⟩⟩
          · cases hstatus
            exact .inl ⟨hsuccess,rfl⟩
          · cases hpair
            cases htext
        · rintro (⟨hsuccess,-⟩ | ⟨herror',-⟩)
          · exact ⟨_,rfl,.inl ⟨rfl,statusCode,rfl,hsuccess⟩⟩
          · exact absurd herror' herror

end Requests

section Outcomes

/-- What the network does to an `await`: nothing else goes wrong in the process. -/
def Failure.ofNetwork : Failure → Bool
  | .cancelled | .transport _ => true
  | .other | .base => false

def Exchange.ofNetwork : Exchange → Bool
  | .failed f => f.ofNetwork
  | .response _ _ brokenOff => brokenOff.all Failure.ofNetwork

/-- Only the network decides: no error inside the process, work is accepted, and `asyncio` only
interrupts at the deadline. -/
def NetworkOnly {ι : Type} (_ : Pool ι) (_ : Party ι → List (Entry Client)) (_ : Party ι)
    (e : Outside) (_ : ClientOp) : Prop :=
  e.exchange.ofNetwork ∧ e.interrupted.all (· = .cancelled) ∧ ¬ e.submitRaises

/-- What a future may have: a result whose error is a text with something in it, or the timeout. -/
def Outcome.Good : Outcome → Prop
  | .ok (.ok _) => True
  | .ok (.error code) => code ≠ ""
  | .error e => e = .timeoutError

def OutcomeOrder (_ : List (Entry Client)) : ClientOp → Prop
  | .finish outcome => outcome.Good
  | _ => True

def NetworkAnswer (_ : List (Entry Client)) : (q : ClientOp) → q.Ans → Prop
  | .stream _, exchange => exchange.ofNetwork
  | .openClient _, f | .closeClient, f | .sleep _, f => f.all (· = .cancelled)
  | .submit _, accepted => accepted
  | .release, fine => fine
  | .result _, answer => ∀ outcome, answer = some outcome → outcome.Good
  | _, _ => True

/-- On a network that is the only thing to fail, the program returns in `Q` or raises in `X`. -/
abbrev ClientProg.Ends {α : Type} (p : ClientProg α) (Q : α → Prop) (X : ClientExn → Prop) : Prop :=
  ∀ h, p.Follows OutcomeOrder NetworkAnswer (fun a _ => Q a) (fun e _ => X e) h

variable {Q : ServiceResult → Prop} {X : ClientExn → Prop} (cfg : ClientConfig)
  (loads : Bytes → Option Json) (task : Task)

/-- What an attempt can raise on such a network. -/
def ClientExn.Usual : ClientExn → Prop
  | .circuitBreakerOpen | .cancelled | .transport _ | .invalidServiceResponse => True
  | .serviceHttpError _ code => code ≠ ""
  | .timeoutError | .other | .base => False

def HasCode (result : ServiceResult) : Prop := ∀ code, result = .error code → code ≠ ""

theorem hasCode_error {code : String} (hcode : code ≠ "") : HasCode (.error code) := by
  rintro _ ⟨⟩
  exact hcode

theorem hasCode_unavailable : HasCode unavailable := hasCode_error (by decide)

theorem hasCode_ok (json : Json) : HasCode (.ok json) := nofun

theorem errorCode_ne (payload : Json) : errorCode payload ≠ "" := by
  unfold errorCode
  split
  · split
    · split
      · split
        · rename_i code hlength
          rintro rfl
          exact absurd hlength.1 (by decide)
        · decide
      · decide
    · decide
  · decide

theorem Failure.usual {f : Failure} (h : f.ofNetwork) : f.exn.Usual := by
  cases f <;> trivial

theorem responseJson_usual {method : String} {exchange : Exchange} {e : ClientExn}
    (hnetwork : exchange.ofNetwork) (h : responseJson loads method exchange = .error e) :
    e.Usual := by
  cases exchange with
  | failed f =>
    cases h
    exact Failure.usual hnetwork
  | response statusCode chunks brokenOff =>
    cases hbody : readBody [] brokenOff chunks with
    | error e' =>
      simp only [responseJson,hbody] at h
      cases h
      obtain rfl | ⟨f,rfl,rfl⟩ := readBody_error hbody
      · trivial
      · exact Failure.usual hnetwork
    | ok body =>
      simp only [responseJson,hbody] at h
      split at h
      · cases h
        exact errorCode_ne _
      · split at h
        · cases h
        · split at h
          · cases h
            trivial
          · cases h

theorem breakerCall_ends {service : String} {func : ClientProg Json}
    {Q : Json → Prop} {X : ClientExn → Prop}
    (hfunc : func.Ends Q X) (hopen : X .circuitBreakerOpen) :
    (breakerCall service func).Ends Q X := by
  intro h
  refine ⟨trivial,fun admitted _ => ?_⟩
  cases admitted with
  | false => exact hopen
  | true =>
    refine Prog.follows_handle.mpr (Prog.follows_bind.mpr ((hfunc _).mono ?_ ?_))
    · intro json h' hjson
      exact ⟨trivial,fun _ _ => hjson⟩
    · intro e h' he
      cases e.raised.report with
      | some q => exact ⟨trivial,fun _ _ => he⟩
      | none => exact he

theorem readResponse_ends {method : String} {url : Url} {kwargs : RequestArgs} :
    (readResponse loads method url kwargs).Ends (fun _ => True) ClientExn.Usual := by
  refine fun h => ⟨trivial,fun exchange hexchange => ?_⟩
  dsimp only
  cases hended : responseJson loads method exchange with
  | ok json => trivial
  | error e => exact responseJson_usual loads hexchange hended

theorem attempt_ends : (attempt loads task).Ends
    (fun ended => ∀ e, ended = .error e → e.Usual) (fun _ => False) := by
  intro h
  refine Prog.follows_handle.mpr (Prog.follows_bind.mpr
    ((breakerCall_ends (readResponse_ends loads) trivial h).mono ?_ ?_))
  · exact fun _ _ _ _ => nofun
  · rintro e _ husual _ ⟨⟩
    exact husual

theorem afterAttempt_ends {retry : String → ClientProg ServiceResult}
    (hretry : ∀ code, code ≠ "" → (retry code).Ends HasCode (· = .cancelled))
    {ended : Except ClientExn Json} (hended : ∀ e, ended = .error e → e.Usual) :
    (afterAttempt task retry ended).Ends HasCode (· = .cancelled) := by
  intro h
  cases ended with
  | ok result =>
    exact ⟨trivial,fun now _ => Prog.follows_ite (fun _ => hasCode_unavailable)
      fun _ => hasCode_ok result⟩
  | error e =>
    have husual := hended e rfl
    cases e with
    | serviceHttpError statusCode code =>
      exact Prog.follows_ite (fun _ => hretry code husual h) fun _ => hasCode_error husual
    | transport t =>
      exact Prog.follows_ite (fun _ => hretry _ (by decide) h) fun _ => hasCode_unavailable
    | circuitBreakerOpen | invalidServiceResponse => exact hasCode_unavailable
    | cancelled => exact rfl
    | timeoutError | other | base => exact husual.elim

/-- At the end of an interruptible wait the program goes on, or it is cancelled. -/
theorem interrupted_cases {f : Option Failure} (h : f.all (· = .cancelled)) :
    f = none ∨ f = some .cancelled := by
  cases f with
  | none => exact .inl rfl
  | some f => exact .inr (congrArg some (of_decide_eq_true h))

theorem backOff_ends {number left : Nat} {code : String} {next : ClientProg ServiceResult}
    (hcode : code ≠ "") (hnext : next.Ends HasCode (· = .cancelled)) :
    (backOff cfg task number left code next).Ends HasCode (· = .cancelled) := by
  refine fun h => Prog.follows_ite (fun _ => hasCode_error hcode) fun _ => ?_
  refine ⟨trivial,fun jitter _ => ⟨trivial,fun now _ => ?_⟩⟩
  refine Prog.follows_ite (fun _ => hasCode_error hcode) fun _ => ?_
  refine Prog.follows_bind.mpr ⟨trivial,fun f hf => ?_⟩
  obtain rfl | rfl := interrupted_cases hf
  · exact hnext _
  · exact rfl

theorem attemptLoop_ends {number left : Nat} {lastCode : String} (hcode : lastCode ≠ "") :
    (attemptLoop cfg loads task number lastCode left).Ends HasCode (· = .cancelled) := by
  induction left generalizing number lastCode with
  | zero => exact fun _ => hasCode_error hcode
  | succ left ih =>
    refine fun h => ⟨trivial,fun now _ => Prog.follows_ite (fun _ => hasCode_unavailable)
      fun _ => Prog.follows_bind.mpr ?_⟩
    refine (attempt_ends loads task _).mono (fun ended h' hended => ?_) fun _ _ hf => hf.elim
    exact afterAttempt_ends task (fun code hne => backOff_ends cfg task hne (ih hne)) hended h'

theorem callServiceAsync_ends :
    (callServiceAsync cfg loads task).Ends HasCode (· = .timeoutError) := by
  refine fun h => ⟨trivial,fun now _ => Prog.follows_handle.mpr (Prog.follows_bind.mpr
    ⟨trivial,fun f hf => ?_⟩)⟩
  obtain rfl | rfl := interrupted_cases hf
  · refine Prog.follows_ensuring.mpr ((attemptLoop_ends cfg loads task (by decide) _).mono
      (fun result h' hresult => ⟨trivial,fun f hf => ?_⟩) ?_)
    · obtain rfl | rfl := interrupted_cases hf
      · exact hresult
      · exact rfl
    · rintro _ h' rfl
      refine ⟨trivial,fun f hf => ?_⟩
      obtain rfl | rfl := interrupted_cases hf <;> exact rfl
  · exact rfl

theorem runServiceCall_ends : (runServiceCall cfg loads task).Ends HasCode fun _ => False := by
  refine fun h => Prog.follows_ensuring.mpr (Prog.follows_handle.mpr ⟨trivial,fun now _ =>
    Prog.follows_ite (fun _ => ⟨trivial,fun fine hfine => ?_⟩) fun _ =>
      (callServiceAsync_ends cfg loads task _).mono (fun result h' hresult =>
        ⟨trivial,fun fine hfine => ?_⟩) ?_⟩)
  · cases fine with
    | true => exact hasCode_unavailable
    | false => cases hfine
  · cases fine with
    | true => exact hresult
    | false => cases hfine
  · rintro _ h' rfl
    refine ⟨trivial,fun fine hfine => ?_⟩
    cases fine with
    | true => exact hasCode_unavailable
    | false => cases hfine

theorem workItem_ends : (workItem cfg loads).Ends (fun _ => True) fun _ => True := by
  refine fun h => ⟨trivial,fun task _ => Prog.follows_bind.mpr (Prog.follows_handle.mpr
    (Prog.follows_bind.mpr ((runServiceCall_ends cfg loads task _).mono
      (fun result h' hresult => ⟨?_,fun _ _ => trivial⟩) fun _ _ hf => hf.elim)))⟩
  cases result with
  | ok json => trivial
  | error code => exact hresult code rfl

theorem callService_ends (method : String) (url : Url) (kwargs : RequestArgs) :
    (callService cfg method url kwargs).Ends HasCode fun _ => False := by
  refine fun h => ⟨trivial,fun now _ => Prog.follows_ite (fun _ => hasCode_unavailable)
    fun _ => ⟨trivial,fun got _ => ?_⟩⟩
  cases got with
  | false => exact hasCode_unavailable
  | true =>
    refine ⟨trivial,fun accepted haccepted => ?_⟩
    cases accepted with
    | false => cases haccepted
    | true =>
      refine ⟨trivial,fun now' _ => ⟨trivial,fun outcome houtcome => ?_⟩⟩
      rcases outcome with - | e | result
      · exact hasCode_unavailable
      · obtain rfl : e = .timeoutError := houtcome _ rfl
        exact hasCode_unavailable
      · cases result with
        | ok json => exact hasCode_ok json
        | error code => exact hasCode_error (houtcome _ rfl)

end Outcomes

section Run

variable {ι : Type} (cfg : ClientConfig) (loads : Bytes → Option Json) (calls : ι → ServiceCall)

def Exchange.statusCode : Exchange → Option Nat
  | .failed _ => none
  | .response statusCode _ _ => some statusCode

/-- The status of the last exchange of a worker. -/
def finalStatus (h : List (Entry Client)) : Option Nat := (lastExchange h).bind Exchange.statusCode

def pairOf : ServiceResult → Pair
  | .ok json => ⟨json,.null⟩
  | .error code => failure code

def purchaseReply (c : ClientRun ι) (i : ι) : Option Pair := (c.result (.caller i)).join.map pairOf

def PartyReplies : Party ι → Option ServiceResult → Prop
  | .caller _, answer => ∃ result, answer = some result ∧ HasCode result
  | .worker _, _ => True

def PartyRaises : Party ι → Prop
  | .caller _ => False
  | .worker _ => True

theorem prog_ends (p : Party ι) : (p.prog cfg loads calls).Ends (PartyReplies p)
    fun _ => PartyRaises p := by
  intro h
  cases p with
  | caller i =>
    exact Prog.follows_map.mpr ((callService_ends cfg _ _ _ h).mono
      (fun result _ hresult => ⟨result,rfl,hresult⟩) fun _ _ hf => hf)
  | worker i => exact Prog.follows_map.mpr (workItem_ends cfg loads h)

theorem NetworkAnswer.fine {h : List (Entry Client)} {q : ClientOp} {a : q.Ans}
    (ha : NetworkAnswer h q a) : FineRelease h q a := by
  cases q <;> first | exact ha | trivial

/-- The slots are kept, and what the futures have is good. -/
structure NetworkInv (s : Pool ι) (past : Party ι → List (Entry Client)) : Prop where
  slots : SlotInv s past
  futures : ∀ i outcome, s.futures i = some outcome → outcome.Good

variable [DecidableEq ι]

theorem networkInv_kept : Keeps (Pool.server ι) NetworkOnly
    (fun p h q => PartyOrder p h q ∧ OutcomeOrder h q) (fun _ => NetworkAnswer)
    (fun s past => NetworkInv s past) := by
  intro s past p e q h hready hnetwork hok
  obtain ⟨hfine,hslots⟩ := slotInv_kept s past p e q h.slots hready trivial hok.1
  refine ⟨?_,hslots,fun i outcome hi => ?_⟩
  · cases q with
    | stream request => exact hnetwork.1
    | openClient timeout | closeClient | sleep delay => exact hnetwork.2.1
    | submit task =>
      show (Pool.perform p.callOf e s (.submit task)).1
      rw [Pool.perform,if_neg hnetwork.2.2]
    | release => exact hfine
    | result timeout =>
      intro outcome houtcome
      have hanswer : (if e.timedOut then none else s.futures p.callOf) = some outcome := houtcome
      split at hanswer
      · cases hanswer
      · exact h.futures _ _ hanswer
    | _ => trivial
  · obtain hold | ⟨-,hnew⟩ := perform_futures hi
    · exact h.futures i outcome hold
    · cases q with
      | finish outcome' =>
        cases hnew
        exact hok.2
      | _ => cases hnew

/-- Whatever the network does, every call that has ended returned a pair as its callers expect it. -/
theorem purchase_contract {c : ClientRun ι}
    (h : Config.Reach (Pool.server ι) NetworkOnly (clientRun cfg loads calls) c) {i : ι}
    (hend : c.ended (.caller i)) :
    Contract (finalStatus (c.past (.worker i))) (purchaseReply c i) := by
  have hstart : (clientRun cfg loads calls).Disciplined
      (fun p h q => PartyOrder p h q ∧ OutcomeOrder h q) (fun _ => NetworkAnswer)
      (fun p a h => PartyDone p h ∧ PartyReplies p a) (fun p _ h => PartyDone p h ∧ PartyRaises p)
      (fun s past => NetworkInv s past) :=
    Config.disciplined_start ⟨slotInv_start,nofun⟩ fun p =>
      ((prog_follows cfg loads calls p).restrict fun _ _ _ ha => ha.fine).both
        (prog_ends cfg loads calls p [])
  obtain ⟨answer,hresult,-,result,rfl,hcode⟩ | ⟨-,_,-,hf⟩ :=
    (hstart.reach networkInv_kept h).ended hend
  · refine ⟨pairOf result,by simp [purchaseReply,hresult],?_⟩
    cases result with
    | error code => exact .inr ⟨code,rfl,hcode code rfl⟩
    | ok json =>
      obtain ⟨task,exchange,hlast,hcomplete⟩ := success_final cfg loads calls
        (Config.reach_mono (fun _ _ _ _ _ _ => trivial) h) hresult
      cases exchange with
      | failed f => exact hcomplete.elim
      | response statusCode chunks brokenOff =>
        exact .inl ⟨rfl,statusCode,by rw [finalStatus,hlast]; rfl,hcomplete.1⟩
  · exact hf.elim

end Run

/-- The client of the purchase orchestrator always returns what its callers expect, the other three
do so for the responses that they can deal with. -/
theorem contract_kept_iff (loads : Bytes → Option Json) :
    (∀ d : Downstream,
      (Contract d.finalStatus (transferCallService loads d) ↔ Manageable loads d) ∧
      (Contract d.finalStatus (creditCallService loads d) ↔ Manageable loads d) ∧
      (Contract d.finalStatus (verificationCallService loads d) ↔ Manageable loads d)) ∧
    ∀ (ι : Type) [DecidableEq ι] (cfg : ClientConfig) (calls : ι → ServiceCall) (c : ClientRun ι),
      Config.Reach (Pool.server ι) NetworkOnly (clientRun cfg loads calls) c →
      ∀ i, c.ended (.caller i) → Contract (finalStatus (c.past (.worker i))) (purchaseReply c i) :=
  ⟨fun d => ⟨requestsCallService_contract (by decide) loads d,
    requestsCallService_contract (by decide) loads d,
    requestsCallService_contract (by decide) loads d⟩,
    fun _ _ cfg calls _ h _ hend => purchase_contract cfg loads calls h hend⟩

section NullCode

instance {ι : Type} (s : Pool ι) (past : Party ι → List (Entry Client)) (p : Party ι) (e : Outside)
    (q : ClientOp) : Decidable (NetworkOnly s past p e q) := inferInstanceAs (Decidable (_ ∧ _))

def networkRead : ClientRun Nat :=
  (clientRun usualConfig (fun _ => some (.obj [])) fun _ => seatCall).schedule (Pool.server Nat)
    (fun s past p e q => decide (NetworkOnly s past p e q)) retriedMoves

theorem contract_kept_iff_networkRead :
    Contract (some 200) (transferCallService (fun _ => some (.obj [])) (.response 200 [123,125])) ∧
      networkRead.ended (.caller 0) ∧
      Contract (finalStatus (networkRead.past (.worker 0))) (purchaseReply networkRead 0) :=
  have h := contract_kept_iff fun _ => some (.obj [])
  have hend : networkRead.ended (.caller 0) := by decide +kernel
  ⟨(h.1 _).1.mpr (.inl ⟨rfl,rfl⟩),hend,h.2 Nat usualConfig (fun _ => seatCall) networkRead
    (Config.reach_schedule (fun _ _ _ _ _ h => of_decide_eq_true h) _ _) 0 hend⟩

/-- The bytes of a body with the error code null. -/
def nullCodeBody : Bytes :=
  [123,34,101,114,114,111,114,34,58,123,34,99,111,100,101,34,58,110,117,108,108,125,125]

def decodeNullCode (body : Bytes) : Option Json :=
  if body = nullCodeBody then some (.obj [("error",.obj [("code",.null)])]) else none

/-- A conflict whose error code is null reads as a success with nothing in it, and a 204 without a
body raises. -/
theorem null_code_reads_as_success :
    transferCallService decodeNullCode (.response 409 nullCodeBody) = some ⟨.null,.null⟩ ∧
      ¬ Contract (some 409) (transferCallService decodeNullCode (.response 409 nullCodeBody)) ∧
      transferCallService decodeNullCode (.response 204 []) = none ∧
      ¬ Contract (some 204) (transferCallService decodeNullCode (.response 204 [])) := by
  have hnull : transferCallService decodeNullCode (.response 409 nullCodeBody) =
      some ⟨.null,.null⟩ := rfl
  have hraises : transferCallService decodeNullCode (.response 204 []) = none := rfl
  refine ⟨hnull,?_,hraises,?_⟩
  · rw [hnull]
    rintro ⟨pair,hpair,⟨-,status,hstatus,hsuccess⟩ | ⟨code,htext,-⟩⟩
    · cases hstatus
      cases hsuccess
    · cases hpair
      cases htext
  · rw [hraises]
    rintro ⟨pair,hpair,-⟩
    cases hpair

end NullCode

end TicketRemaster.ServiceClient
