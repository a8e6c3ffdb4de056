import Mathlib.Logic.Relation
import TicketRemaster.ServiceClient.Client
set_option autoImplicit false

/-! `_read_response` chunk by chunk. What has been buffered is at every moment what has come so far,
so the end of it is a matter of the whole body alone. -/

namespace TicketRemaster.ServiceClient

/-- What `json.loads` raises: a `ValueError` where there is no JSON, and something else where it
cannot go on, such as a `RecursionError` at a value that is nested too deep. -/
inductive LoadsError where
  | valueError
  | other
  deriving DecidableEq, Repr

abbrev Loads := Bytes → Except LoadsError Json

/-- `_read_response` inside its loop, with the chunks that are still to come, or at its end. -/
inductive ReadState where
  | reading (body : Bytes) (pending : List Bytes)
  | ended (outcome : Except ClientExn Json)

section Response

variable (loads : Loads) (method : String) (statusCode : Nat) (brokenOff : Option Failure)

/-- The payload, if there is one: `None` for it stands for a body that is empty or no JSON. -/
def decodeBody (body : Bytes) : Except ClientExn (Option Json) :=
  if body = [] then .ok none
  else match loads body with
    | .ok payload => .ok (some payload)
    | .error .valueError => .ok none
    | .error .other => .error .other

/-- What comes after the loop. -/
def concludeResponse (body : Bytes) : Except ClientExn Json :=
  match decodeBody loads body with
  | .error e => .error e
  | .ok payload =>
      if ¬ isSuccess statusCode then
        .error (.serviceHttpError statusCode (errorCode (payload.getD .null)))
      else if statusCode ∈ [204,205] ∨ method = "HEAD" then .ok (.obj [])
      else match payload with
        | none => .error .invalidServiceResponse
        | some json => .ok json

def ReadState.step : ReadState → Option ReadState
  | .reading body (chunk :: pending) =>
      if maxResponseBytes < body.length+chunk.length then
        some (.ended (.error .invalidServiceResponse))
      else some (.reading (body ++ chunk) pending)
  | .reading body [] =>
      match brokenOff with
      | none => some (.ended (concludeResponse loads method statusCode body))
      | some f => some (.ended (.error f.exn))
  | .ended _ => none

/-- Any number of steps of `_read_response`. -/
abbrev Reads : ReadState → ReadState → Prop :=
  Relation.ReflTransGen fun s s' => s.step loads method statusCode brokenOff = some s'

/-- What should come of a body that is there at once. -/
def wholeResponse (body : Bytes) : Except ClientExn Json :=
  if maxResponseBytes < body.length then .error .invalidServiceResponse
  else concludeResponse loads method statusCode body

end Response

section Loop

variable {loads : Loads} {method : String} {statusCode : Nat} {brokenOff : Option Failure}

/-- The buffer and what is to come are the body, and the buffer is within the limit. -/
def ReadState.Sound (loads : Loads) (method : String) (statusCode : Nat)
    (brokenOff : Option Failure) (whole : Bytes) : ReadState → Prop
  | .reading body pending => body ++ pending.flatten = whole ∧ body.length ≤ maxResponseBytes
  | .ended outcome => brokenOff = none → outcome = wholeResponse loads method statusCode whole

theorem wholeResponse_over {whole : Bytes} (h : maxResponseBytes < whole.length) :
    wholeResponse loads method statusCode whole = .error .invalidServiceResponse := if_pos h

theorem wholeResponse_within {whole : Bytes} (h : whole.length ≤ maxResponseBytes) :
    wholeResponse loads method statusCode whole =
      concludeResponse loads method statusCode whole := if_neg (Nat.not_lt.mpr h)

theorem ReadState.Sound.step {whole : Bytes} {s s' : ReadState}
    (hs : s.Sound loads method statusCode brokenOff whole)
    (h : s.step loads method statusCode brokenOff = some s') :
    s'.Sound loads method statusCode brokenOff whole := by
  cases s with
  | ended outcome => cases h
  | reading body pending =>
    obtain ⟨hwhole,hfits⟩ := hs
    cases pending with
    | nil =>
      simp only [List.flatten_nil,List.append_nil] at hwhole
      subst hwhole
      cases brokenOff with
      | some f =>
        cases h
        exact nofun
      | none =>
        cases h
        exact fun _ => (wholeResponse_within hfits).symm
    | cons chunk pending =>
      simp only [ReadState.step] at h
      split at h
      · rename_i hover
        cases h
        refine fun _ => (wholeResponse_over ?_).symm
        rw [← hwhole]
        simp only [List.length_append,List.flatten_cons]
        omega
      · rename_i hroom
        cases h
        refine ⟨?_,?_⟩
        · rw [List.append_assoc]
          exact hwhole
        · rw [List.length_append]
          omega

theorem ReadState.Sound.reads {whole : Bytes} {s s' : ReadState}
    (hs : s.Sound loads method statusCode brokenOff whole)
    (h : Reads loads method statusCode brokenOff s s') :
    s'.Sound loads method statusCode brokenOff whole := by
  induction h with
  | refl => exact hs
  | tail _ hstep ih => exact ih.step hstep

/-- The outcome of the loop, as `readBody` gives it, and what comes after. -/
def afterLoop (loads : Loads) (method : String) (statusCode : Nat) :
    Except ClientExn Bytes → Except ClientExn Json
  | .error e => .error e
  | .ok body => concludeResponse loads method statusCode body

/-- The steps of the loop are those of `readBody`. -/
theorem reads_readBody (body : Bytes) (pending : List Bytes) :
    Reads loads method statusCode brokenOff (.reading body pending)
      (.ended (afterLoop loads method statusCode (readBody body brokenOff pending))) := by
  induction pending generalizing body with
  | nil =>
    cases brokenOff with
    | none => exact .single rfl
    | some f => exact .single rfl
  | cons chunk pending ih =>
    by_cases hover : maxResponseBytes < body.length+chunk.length
    · rw [readBody,if_pos hover]
      exact .single (if_pos hover)
    · rw [readBody,if_neg hover]
      exact .head (if_neg hover) (ih (body ++ chunk))

theorem sound_start (chunks : List Bytes) :
    (ReadState.reading [] chunks).Sound loads method statusCode brokenOff chunks.flatten :=
  ⟨rfl,Nat.zero_le _⟩

end Loop

/-- However a body is cut into chunks, no more than the limit is ever buffered; and if it comes to
its end, what comes of it is what comes of the whole of it: a refusal if it is longer than the
limit, and otherwise what its status, the method and its bytes say. -/
theorem read_in_chunks_eq_whole (loads : Loads) (method : String) (statusCode : Nat)
    (chunks : List Bytes) :
    (∀ brokenOff body pending,
      Reads loads method statusCode brokenOff (.reading [] chunks) (.reading body pending) →
        body.length ≤ maxResponseBytes) ∧
    ∀ outcome, Reads loads method statusCode none (.reading [] chunks) (.ended outcome) ↔
      outcome = if maxResponseBytes < chunks.flatten.length then .error .invalidServiceResponse
        else concludeResponse loads method statusCode chunks.flatten := by
  refine ⟨fun brokenOff body pending h => ((sound_start chunks).reads h).2,fun outcome => ?_⟩
  constructor
  · exact fun h => (sound_start chunks).reads h rfl
  · intro houtcome
    have hreads : Reads loads method statusCode none (.reading [] chunks) (.ended _) :=
      reads_readBody [] chunks
    have hwhole := (sound_start chunks).reads hreads rfl
    rw [hwhole] at hreads
    exact houtcome ▸ hreads

section Client

variable {method : String} {statusCode : Nat} {brokenOff : Option Failure}

/-- A decoder that only ever raises a `ValueError`. -/
def Loads.ofOption (loads : Bytes → Option Json) : Loads := fun body =>
  match loads body with
  | some json => .ok json
  | none => .error .valueError

theorem decodeBody_ofOption (loads : Bytes → Option Json) (body : Bytes) :
    decodeBody (.ofOption loads) body = .ok (if body = [] then none else loads body) := by
  unfold decodeBody Loads.ofOption
  split
  · rfl
  · cases loads body <;> rfl

theorem responseJson_eq (loads : Bytes → Option Json) (chunks : List Bytes) :
    responseJson loads method (.response statusCode chunks brokenOff) =
      afterLoop (.ofOption loads) method statusCode (readBody [] brokenOff chunks) := by
  cases hbody : readBody [] brokenOff chunks with
  | error e => simp only [responseJson,hbody,afterLoop]
  | ok body =>
    cases hpayload : if body = [] then none else loads body with
    | none =>
      simp only [responseJson,hbody,afterLoop,concludeResponse,decodeBody_ofOption,hpayload]
    | some json =>
      simp only [responseJson,hbody,afterLoop,concludeResponse,decodeBody_ofOption,hpayload]

theorem reads_ended_unique {loads : Loads} {s : ReadState} {a b : Except ClientExn Json}
    (ha : Reads loads method statusCode brokenOff s (.ended a))
    (hb : Reads loads method statusCode brokenOff s (.ended b)) : a = b := by
  have hfinal : ∀ {a s}, Reads loads method statusCode brokenOff (.ended a) s → s = .ended a := by
    intro a s h
    rcases h.cases_head with rfl | ⟨s',hstep,-⟩
    · rfl
    · cases hstep
  have hright : Relator.RightUnique fun s s' : ReadState =>
      s.step loads method statusCode brokenOff = some s' :=
    fun _ _ _ h h' => Option.some.inj (h.symm.trans h')
  rcases ha.total_of_right_unique hright hb with h | h
  · cases hfinal h
    rfl
  · cases hfinal h
    rfl

/-- The client of the other modules reads its responses in these steps. -/
theorem reads_iff_responseJson (loads : Bytes → Option Json) (chunks : List Bytes)
    (outcome : Except ClientExn Json) :
    Reads (.ofOption loads) method statusCode brokenOff (.reading [] chunks) (.ended outcome) ↔
      outcome = responseJson loads method (.response statusCode chunks brokenOff) := by
  have hreads : Reads (.ofOption loads) method statusCode brokenOff (.reading [] chunks)
      (.ended (responseJson loads method (.response statusCode chunks brokenOff))) := by
    rw [responseJson_eq]
    exact reads_readBody [] chunks
  constructor
  · exact fun h => reads_ended_unique h hreads
  · rintro rfl
    exact hreads

/-- For it, too, only the whole body counts. -/
theorem responseJson_whole (loads : Bytes → Option Json) (chunks : List Bytes) :
    responseJson loads method (.response statusCode chunks none) =
      wholeResponse (.ofOption loads) method statusCode chunks.flatten :=
  (sound_start chunks).reads ((reads_iff_responseJson loads chunks _).mpr rfl) rfl

end Client

end TicketRemaster.ServiceClient
