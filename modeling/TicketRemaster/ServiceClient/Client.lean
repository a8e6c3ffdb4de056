import TicketRemaster.ServiceClient.CircuitBreaker
import TicketRemaster.Services.Json
set_option autoImplicit false

/-! `call_service` of the ticket purchase orchestrator: a caller that waits within a budget of time,
and the work that a pool does for it, with its attempts. -/

namespace TicketRemaster.ServiceClient

open Resumption

/-- Readings of the monotonic clock and durations, in seconds; floating-point rounding is not
modelled. -/
abbrev Seconds := ℚ

abbrev Bytes := List UInt8

/-- The settings read from the environment when the module is loaded. -/
structure ClientConfig where
  connectTimeout : Int
  readTimeout : Int
  totalTimeout : Int
  maxRetries : Int
  retryBackoffFactor : ℚ

def maxResponseBytes : Nat := 1024*1024
def maxOutstandingCalls : Nat := 4
def retryMethods : List String := ["GET","HEAD","OPTIONS"]
def retryStatusCodes : List Nat := [500,502,503,504]

/-- A `timeout` argument: one number, or one for connecting and one for reading. -/
inductive TimeoutArg where
  | scalar (value : Seconds)
  | phases (connect read : Seconds)
  deriving DecidableEq

structure PhaseTimeout where
  connect : Seconds
  read : Seconds
  write : Seconds
  pool : Seconds
  deriving DecidableEq

/-- The keyword arguments of a call; `rest` is what `httpx` gets to see of them. -/
structure RequestArgs where
  timeout : Option TimeoutArg
  allowRedirects : Option Bool
  followRedirects : Option Bool
  rest : List (String × Json)

/-- A URL as `urlsplit` takes it apart. -/
structure Url where
  scheme : String
  hostname : String
  port : Option Nat
  path : String
  deriving DecidableEq

structure HttpRequest where
  method : String
  url : Url
  followRedirects : Bool
  kwargs : List (String × Json)

/-- The classes of `httpx.HTTPError` that the client tells apart. -/
inductive TransportError where
  | timeoutException
  | networkError
  | remoteProtocolError
  | otherHttpError
  deriving DecidableEq, Repr

def TransportError.transient : TransportError → Bool
  | .otherHttpError => false
  | _ => true

/-- What ends a call before it returns. -/
inductive ClientExn where
  | circuitBreakerOpen
  | cancelled
  | timeoutError
  | serviceHttpError (statusCode : Nat) (code : String)
  | transport (t : TransportError)
  | invalidServiceResponse
  | other
  | base
  deriving DecidableEq, Repr

/-- What an `await` raises: `asyncio` cancels it, `httpx` fails, or something else goes wrong. -/
inductive Failure where
  | cancelled
  | transport (t : TransportError)
  | other
  | base
  deriving DecidableEq, Repr

def Failure.exn : Failure → ClientExn
  | .cancelled => .cancelled
  | .transport t => .transport t
  | .other => .other
  | .base => .base

/-- An HTTP exchange: it fails before the status is known, or there is a status and the chunks of a
body, which may break off. -/
inductive Exchange where
  | failed (f : Failure)
  | response (statusCode : Nat) (chunks : List Bytes) (brokenOff : Option Failure)
  deriving DecidableEq

/-- The work that is handed to the pool. -/
structure Task where
  method : String
  url : Url
  deadline : Seconds
  kwargs : RequestArgs

/-- What `call_service` returns: the JSON, or an error code. -/
abbrev ServiceResult := Except String Json

/-- What a future gets: the result of its work, or an exception. -/
abbrev Outcome := Except ClientExn ServiceResult

/-- The steps of callers and of the workers of the pool. -/
inductive ClientOp where
  | monotonic
  | uniform
  | acquire
  | submit (task : Task)
  | result (timeout : Seconds)
  | release
  | begin
  | openClient (timeout : PhaseTimeout)
  | closeClient
  | enterBreaker (serviceName : String)
  | report (serviceName : String) (q : BreakerCall)
  | stream (request : HttpRequest)
  | sleep (delay : Seconds)
  | finish (outcome : Outcome)

/-- `submit` and `release` answer `false` where they raise, `result` answers `none` where it gives
up waiting. -/
@[reducible] def ClientOp.Ans : ClientOp → Type
  | .monotonic => Seconds
  | .uniform => Seconds
  | .acquire => Bool
  | .submit _ => Bool
  | .result _ => Option Outcome
  | .release => Bool
  | .begin => Task
  | .openClient _ => Option Failure
  | .closeClient => Option Failure
  | .enterBreaker _ => Bool
  | .report _ _ => Unit
  | .stream _ => Exchange
  | .sleep _ => Option Failure
  | .finish _ => Unit

@[reducible] def Client : Interface := ⟨ClientOp,ClientOp.Ans⟩

abbrev ClientProg (α : Type) := Prog Client ClientExn α

def monotonic : ClientProg Seconds := .call .monotonic .ret

def interruptible {α : Type} (a : α) : Option Failure → ClientProg α
  | none => .ret a
  | some f => .raise f.exn

def unavailable : ServiceResult := .error "SERVICE_UNAVAILABLE"

section Response

def errorCode : Json → String
  | .obj body => match Json.get body "error" with
      | .obj error => match Json.get error "code" with
          | .str code =>
              if 0 < code.length ∧ code.length ≤ 128 then code else "SERVICE_UNAVAILABLE"
          | _ => "SERVICE_UNAVAILABLE"
      | _ => "SERVICE_UNAVAILABLE"
  | _ => "SERVICE_UNAVAILABLE"

/-- Read the body chunk by chunk, up to the limit. -/
def readBody (body : Bytes) (brokenOff : Option Failure) : List Bytes → Except ClientExn Bytes
  | [] => match brokenOff with
      | none => .ok body
      | some f => .error f.exn
  | chunk :: chunks =>
      if maxResponseBytes < body.length+chunk.length then .error .invalidServiceResponse
      else readBody (body ++ chunk) brokenOff chunks

def isSuccess (statusCode : Nat) : Bool := 200 ≤ statusCode && statusCode < 300

/-- `_read_response` once the exchange is over; `loads` is `json.loads`, which returns a value or
raises a `ValueError`. -/
def responseJson (loads : Bytes → Option Json) (method : String) : Exchange → Except ClientExn Json
  | .failed f => .error f.exn
  | .response statusCode chunks brokenOff =>
      match readBody [] brokenOff chunks with
      | .error e => .error e
      | .ok body =>
          let payload := if body = [] then none else loads body
          if ¬ isSuccess statusCode then
            .error (.serviceHttpError statusCode (errorCode (payload.getD .null)))
          else if statusCode ∈ [204,205] ∨ method = "HEAD" then .ok (.obj [])
          else match payload with
            | none => .error .invalidServiceResponse
            | some json => .ok json

/-- The client does not follow redirects unless the request says so. -/
def readResponse (loads : Bytes → Option Json) (method : String) (url : Url)
    (kwargs : RequestArgs) : ClientProg Json :=
  .call (.stream ⟨method,url,kwargs.followRedirects.getD false,kwargs.rest⟩) fun exchange =>
    match responseJson loads method exchange with
    | .ok json => .ret json
    | .error e => .raise e

end Response

section Attempts

/-- The exception as `CircuitBreaker.call` sees it. -/
def ClientExn.raised : ClientExn → Raised
  | .circuitBreakerOpen => .circuitBreakerOpen
  | .cancelled => .cancelled
  | .serviceHttpError statusCode code => .serviceHttpError statusCode code
  | .base => .base
  | .timeoutError | .transport _ | .invalidServiceResponse | .other => .other

def reportTo (serviceName : String) (q : BreakerCall) : ClientProg Unit :=
  .call (.report serviceName q) .ret

/-- `CircuitBreaker.call`, on the breaker of the service. -/
def breakerCall (serviceName : String) (func : ClientProg Json) : ClientProg Json :=
  .call (.enterBreaker serviceName) fun
    | false => .raise .circuitBreakerOpen
    | true =>
        (do
          let result ← func
          reportTo serviceName .onSuccess
          pure result : ClientProg Json).handle fun e =>
            match e.raised.report with
            | some q => do
                reportTo serviceName q
                .raise e
            | none => .raise e

def phaseTimeout (cfg : ClientConfig) (value : TimeoutArg) : PhaseTimeout :=
  match value with
  | .scalar v => ⟨v,v,cfg.readTimeout,cfg.connectTimeout⟩
  | .phases connect read => ⟨connect,read,cfg.readTimeout,cfg.connectTimeout⟩

def defaultTimeout (cfg : ClientConfig) : TimeoutArg := .phases cfg.connectTimeout cfg.readTimeout

/-- The key of the circuit breaker. -/
def serviceName (url : Url) : String :=
  let port := match url.port with
    | none | some 0 => if url.scheme = "https" then 443 else 80
    | some port => port
  url.scheme ++ "://" ++ url.hostname ++ ":" ++ toString port

def attemptsAllowed (cfg : ClientConfig) (method : String) : Nat :=
  if method ∈ retryMethods then (max 0 cfg.maxRetries).toNat+1 else 1

variable (cfg : ClientConfig) (loads : Bytes → Option Json) (task : Task)

/-- One attempt: the JSON, or the exception it ended in. The arguments are those that are left when
the client has taken its own. -/
def attempt : ClientProg (Except ClientExn Json) :=
  (do
    let result ← breakerCall (serviceName task.url) (readResponse loads task.method task.url
      { task.kwargs with timeout := none, allowRedirects := none, followRedirects := none })
    pure (.ok result) : ClientProg (Except ClientExn Json)).handle fun e => pure (.error e)

/-- The end of an attempt: what it returns, or how it goes on after a failure with some code. -/
def afterAttempt (retry : String → ClientProg ServiceResult) :
    Except ClientExn Json → ClientProg ServiceResult
  | .ok result => do
      if task.deadline ≤ (← monotonic) then pure unavailable
      else pure (.ok result)
  | .error .circuitBreakerOpen => pure unavailable
  | .error (.serviceHttpError statusCode code) =>
      if statusCode ∈ retryStatusCodes then retry code else pure (.error code)
  | .error (.transport t) =>
      if t.transient then retry "SERVICE_UNAVAILABLE" else pure unavailable
  | .error .invalidServiceResponse => pure unavailable
  | .error e => .raise e

/-- The wait before the attempt after this one, if there is to be one. -/
def backOff (number left : Nat) (lastCode : String) (next : ClientProg ServiceResult) :
    ClientProg ServiceResult := do
  if left = 0 then pure (.error lastCode)
  else
    let jitter ← (.call .uniform .ret : ClientProg Seconds)
    let delay := cfg.retryBackoffFactor*2^number+jitter
    if task.deadline-(← monotonic) ≤ delay then pure (.error lastCode)
    else
      .call (.sleep (max 0 delay)) (interruptible ())
      next

/-- The loop from attempt `number` on, with `left` attempts to make. -/
def attemptLoop (number : Nat) (lastCode : String) : Nat → ClientProg ServiceResult
  | 0 => pure (.error lastCode)
  | left+1 => do
      if task.deadline ≤ (← monotonic) then pure unavailable
      else
        let ended ← attempt loads task
        afterAttempt task (fun code =>
          backOff cfg task number left code (attemptLoop (number+1) code left)) ended

/-- `_call_service`: `asyncio.timeout` turns a cancellation at the deadline into a
`TimeoutError`. -/
def callServiceAsync : ClientProg ServiceResult := do
  let _ ← monotonic
  (do
    .call (.openClient (phaseTimeout cfg (task.kwargs.timeout.getD (defaultTimeout cfg))))
      (interruptible ())
    (attemptLoop cfg loads task 0 "SERVICE_UNAVAILABLE" (attemptsAllowed cfg task.method)).ensuring
      (.call .closeClient (interruptible ())) : ClientProg ServiceResult).handle fun
        | .cancelled => .raise .timeoutError
        | e => .raise e

/-- A semaphore that is released too often raises a `ValueError`. -/
def releaseSlot : ClientProg Unit :=
  .call .release fun
    | true => .ret ()
    | false => .raise .other

def runServiceCall : ClientProg ServiceResult :=
  ((do
    if task.deadline ≤ (← monotonic) then pure unavailable
    else callServiceAsync cfg loads task : ClientProg ServiceResult).handle fun
      | .timeoutError => pure unavailable
      | e => .raise e).ensuring releaseSlot

end Attempts

section Calls

/-- A work item of the pool, run by one of its threads. -/
def workItem (cfg : ClientConfig) (loads : Bytes → Option Json) : ClientProg Unit :=
  .call .begin fun task =>
    (do
      let result ← runServiceCall cfg loads task
      pure (.ok result) : ClientProg Outcome).handle (fun e => pure (.error e)) >>= fun outcome =>
        .call (.finish outcome) .ret

/-- What the future has for its caller; giving up the wait is a `TimeoutError`, too. -/
def futureResult : Option Outcome → ClientProg ServiceResult
  | some (.ok result) => pure result
  | none | some (.error .timeoutError) => pure unavailable
  | some (.error e) => .raise e

def callService (cfg : ClientConfig) (method : String) (url : Url) (kwargs : RequestArgs) :
    ClientProg ServiceResult := do
  let deadline := (← monotonic)+cfg.totalTimeout
  if cfg.totalTimeout ≤ 0 then pure unavailable
  else if ← (.call .acquire .ret : ClientProg Bool) then
    if ← (.call (.submit ⟨method.toUpper,url,deadline,kwargs⟩) .ret : ClientProg Bool) then
      let timeout := max 0 (deadline-(← monotonic))
      .call (.result timeout) futureResult
    else do
      releaseSlot
      .raise .other
  else pure unavailable

end Calls

end TicketRemaster.ServiceClient
