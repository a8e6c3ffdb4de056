import TicketRemaster.Transfer.Saga
import TicketRemaster.Services.Rules
set_option autoImplicit false

/-! When a failed saga gives the ticket back: exactly when it fails before its first ledger
entry, since ledger entries are never reversed and no ticket is ever put back. -/

namespace TicketRemaster.Transfer

open Resumption SeatInventory

/-- What the saga may not change when it raises. -/
structure Restored (a : Saga) (w w' : World) : Prop where
  ticket : ∀ i, a.ticketId = some i →
    (w'.tickets.lookup i).map (fun t => (t.ownerId,t.status)) =
      (w.tickets.lookup i).map (fun t => (t.ownerId,t.status))
  listing : (w'.listings.lookup a.listingId).map (·.status) =
    (w.listings.lookup a.listingId).map (·.status)
  ledger : w'.creditTransactions = w.creditTransactions

def failedCall : Entry Platform → Bool
  | ⟨.http _,.error _⟩ => true
  | _ => false

/-- A ledger entry that credit-transaction-service has taken. -/
def loggedEntry : Entry Platform → Bool
  | ⟨.http (.createCreditTransaction _),.ok _⟩ => true
  | _ => false

/-- Every outcome is definite, and after the first error all calls are healthy. -/
def OneFailure (h : List (Entry Platform)) (e : Env) : Prop :=
  e.Definite ∧ (h.any failedCall → e.fault = none)

theorem oneFailure_definite (h : List (Entry Platform)) (e : Env) (he : OneFailure h e) :
    e.Definite := he.1

section Rules

variable {cfg : SeatConfig} {β : Type} {E : List (Entry Platform) → Env → Prop}
  {Q : β → List (Entry Platform) → World → Prop}
  {X : Unhandled → List (Entry Platform) → World → Prop}
  {h : List (Entry Platform)} {w : World} {a : Saga}

theorem tryService_always {q : Http} {f : Except Unhandled (Except String q.Val) → Handler β}
    (hok : ∀ e v w', E h e → World.perform cfg e w (.http q) = (.ok v,w') →
      Handler.Always cfg E Q X (f (.ok (.ok v))) (⟨.http q,.ok v⟩ :: h) w')
    (herr : ∀ e code w', E h e → World.perform cfg e w (.http q) = (.error code,w') →
      Handler.Always cfg E Q X (f (.ok (.error code))) (⟨.http q,.error code⟩ :: h) w')
    (hraised : ∀ e w', E h e → World.perform cfg e w (.http q) = (.raised,w') →
      Handler.Always cfg E Q X (f (.error .client)) (⟨.http q,.raised⟩ :: h) w') :
    Handler.Always cfg E Q X (tryService q >>= f) h w := by
  refine Prog.always_bind.mpr (Prog.always_handle.mpr ?_)
  refine callService_always (fun e v w' he hp => hok e v w' he hp)
    (fun e code w' he hp => herr e code w' he hp) (fun e w' he hp => ?_)
  exact hraised e w' he hp

/-- A step either is served, or fails with an error. -/
theorem attempt_always (hE : ∀ h e, E h e → e.Definite) (step : SagaStep) {now : Time}
    {f : Option Unhandled → Handler β}
    (hok : ∀ e v w', E h e → w.serve e (a.request now step) = (.ok v,w') →
      Handler.Always cfg E Q X (f none) (⟨.http (a.request now step),.ok v⟩ :: h) w')
    (herr : ∀ e code w', E h e →
      World.perform cfg e w (.http (a.request now step)) = (.error code,w') →
      Handler.Always cfg E Q X (f (some .runtimeError))
        (⟨.http (a.request now step),.error code⟩ :: h) w') :
    Handler.Always cfg E Q X (a.attempt now step >>= f) h w := by
  refine Prog.always_bind.mpr (tryService_always ?_ ?_ ?_)
  · exact fun e v w' he hp => Prog.always_ret.mpr (hok e v w' he (World.perform_ok hp))
  · exact fun e code w' he hp => Prog.always_ret.mpr (herr e code w' he hp)
  · intro e w' he hp
    exact absurd (congrArg Prod.fst hp) (definite_not_raised (hE h e he))

variable {P : Call → Prop} {R : Unhandled → Prop}

theorem tryService_calls {q : Http} (hq : P (.http q)) : (tryService q).Calls P R := by
  refine Prog.calls_handle (S := fun _ => True) ?_ (fun _ _ => trivial)
  exact Prog.calls_bind (callService_calls hq trivial) (fun _ => trivial)

/-- A compensation makes the requests that undo a completed step. -/
theorem compensate_calls {completed : List SagaStep} {l : List (SagaStep × Http × String)}
    (hl : ∀ c ∈ l, c.1 ∈ completed → P (.http c.2.1)) : (compensate completed l).Calls P R := by
  induction l with
  | nil => trivial
  | cons c rest ih =>
    obtain ⟨step,q,message⟩ := c
    have hrest := ih (fun c hc => hl c (List.mem_cons_of_mem _ hc))
    unfold compensate
    split
    · rename_i hstep
      refine Prog.calls_bind (tryService_calls (hl _ List.mem_cons_self hstep)) fun answer => ?_
      cases answer with
      | error exc => trivial
      | ok reply =>
        cases reply with
        | ok v => exact hrest
        | error code => exact Prog.calls_bind hrest (fun _ => trivial)
    · exact hrest

theorem rollBack_calls {completed : List SagaStep}
    (hl : ∀ c ∈ a.compensations, c.1 ∈ completed → P (.http c.2.1))
    (ht : P (.http (.patchTransfer a.transferId { status := some .failed })))
    (hp : ∀ m, P (.publish m)) : (a.rollBack completed).Calls P (fun _ => True) := by
  refine Prog.calls_bind (compensate_calls hl) fun errors => ?_
  refine Prog.calls_bind (callService_calls ht trivial) fun _ => ?_
  split
  · exact ⟨hp _,fun _ => trivial⟩
  · trivial

end Rules

section Proofs

variable {cfg : SeatConfig} {a : Saga} {w w₀ : World} {h : List (Entry Platform)}

/-- The tables that a saga has to give back. -/
structure Kept (w₀ w : World) : Prop where
  tickets : w.tickets = w₀.tickets
  listings : w.listings = w₀.listings
  ledger : w.creditTransactions = w₀.creditTransactions

theorem Kept.restored (hk : Kept w₀ w) : Restored a w₀ w where
  ticket i _ := by rw [hk.tickets]
  listing := by rw [hk.listings]
  ledger := hk.ledger

/-- The requests that leave tickets, listings and the ledger alone. -/
def Harmless (q : Call) : Prop :=
  q.writes ≠ some .tickets ∧ q.writes ≠ some .listings ∧ q.writes ≠ some .creditTransactions

theorem Kept.perform {e : Env} {q : Call} (hk : Kept w₀ w) (hq : Harmless q) :
    Kept w₀ (World.perform cfg e w q).2 := by
  have hf : World.Frame q.writes w (World.perform cfg e w q).2 := World.perform_frame q
  exact ⟨(hf.tickets hq.1).trans hk.tickets,(hf.listings hq.2.1).trans hk.listings,
    (hf.creditTransactions hq.2.2).trans hk.ledger⟩

theorem logging_call {q : Call} (hq : q.writes = some .creditTransactions) :
    ∃ d, q = .http (.createCreditTransaction d) := by
  cases q with
  | http r => cases r <;> simp_all [Call.writes,Http.writes]
  | _ => simp [Call.writes] at hq

/-- An accepted ledger entry makes the ledger longer. -/
theorem logged_length {e : Env} {q : Call} {answer : q.Ans} {w' : World}
    (hp : World.perform cfg e w q = (answer,w')) (hl : loggedEntry ⟨q,answer⟩ = true) :
    w'.creditTransactions.length = w.creditTransactions.length+1 := by
  unfold loggedEntry at hl
  split at hl
  · rename_i d v heq
    cases heq
    have hs := World.perform_ok hp
    cases hs
    rfl
  · cases hl

/-- What the ledger has gained so far: at least one entry once one has been taken. -/
def Gained (w₀ : World) (h : List (Entry Platform)) (w : World) : Prop :=
  w₀.creditTransactions.length + (if h.any loggedEntry then 1 else 0) ≤
    w.creditTransactions.length

theorem gained_nil (w : World) : Gained w [] w := by simp [Gained]

theorem gained_perform {e : Env} (q : Call) (hg : Gained w₀ h w) :
    Gained w₀ (⟨q,(World.perform cfg e w q).1⟩ :: h) (World.perform cfg e w q).2 := by
  have hf : World.Frame q.writes w (World.perform cfg e w q).2 := World.perform_frame q
  generalize hr : World.perform cfg e w q = r at hf ⊢
  obtain ⟨answer,w'⟩ := r
  unfold Gained at hg ⊢
  rw [List.any_cons]
  cases hl : loggedEntry ⟨q,answer⟩ with
  | false =>
    have hlen : w.creditTransactions.length ≤ w'.creditTransactions.length := by
      by_cases hq : q.writes = some .creditTransactions
      · obtain ⟨d,rfl⟩ := logging_call hq
        rcases World.perform_http_cases cfg e w (.createCreditTransaction d) with hw | hw <;>
          simp [hr] at hw <;> simp [hw,World.serve,World.createCreditTransaction]
      · rw [hf.creditTransactions hq]
    exact hg.trans hlen
  | true =>
    rw [logged_length hr hl]
    simp only [Bool.true_or,if_true]
    have := Nat.le_of_add_right_le hg
    omega

theorem always_gained {α : Type} {E : List (Entry Platform) → Env → Prop} (p : Handler α)
    (hg : Gained w₀ h w) :
    Handler.Always cfg E (fun _ => Gained w₀) (fun _ => Gained w₀) p h w := by
  refine (Prog.Calls.always (J := Gained w₀) p.calls_true ?_ hg).mono (fun _ _ _ hJ => hJ)
    (fun _ _ _ hJ => hJ.2)
  exact fun q _ h e w _ hJ => gained_perform q hJ

/-- How a saga may end: what it has to give back is as before, unless the ledger took an entry. -/
def GivesBack (w₀ : World) (h : List (Entry Platform)) (w : World) : Prop :=
  ¬ h.any loggedEntry → Kept w₀ w

theorem givesBack_logged {α : Type} {E : List (Entry Platform) → Env → Prop}
    {Q : α → List (Entry Platform) → World → Prop} (p : Handler α) (hl : h.any loggedEntry)
    (hQ : ∀ r h w, Q r h w) : Handler.Always cfg E Q (fun _ => GivesBack w₀) p h w := by
  refine (Prog.Calls.always (J := fun h _ => h.any loggedEntry) p.calls_true ?_ hl).mono
    (fun _ _ _ _ => hQ _ _ _) (fun _ _ _ hJ hno => absurd hJ.2 hno)
  intro q _ h e w _ hJ
  rw [List.any_cons,hJ,Bool.or_true]

/-- A saga that fails early restores balances only. -/
theorem rollBack_givesBack {E : List (Entry Platform) → Env → Prop} {exc : Unhandled}
    {completed : List SagaStep}
    (hc : ∀ step ∈ completed, step = .buyerDeducted ∨ step = .sellerCredited) (hk : Kept w₀ w) :
    Handler.Always cfg E (fun _ _ _ => True) (fun _ => GivesBack w₀)
      (do a.rollBack completed; .raise exc : Handler Unit) h w := by
  have hcalls : (a.rollBack completed).Calls Harmless (fun _ => True) := by
    refine rollBack_calls ?_ (by simp [Harmless,Call.writes,Http.writes])
      (fun m => by simp [Harmless,Call.writes])
    intro c hmem hstep
    simp only [Saga.compensations,List.mem_cons,List.not_mem_nil,or_false] at hmem
    rcases hmem with rfl | rfl | rfl | rfl | rfl | rfl
    · rcases hc _ hstep with h | h <;> cases h
    · rcases hc _ hstep with h | h <;> cases h
    all_goals simp [Harmless,Call.writes,Http.writes]
  refine Prog.always_bind.mpr ((hcalls.always (J := fun _ w => Kept w₀ w) ?_ hk).mono
    (fun _ _ _ hJ _ => hJ) (fun _ _ _ hJ _ => hJ.2))
  exact fun q hq h e w _ hJ => hJ.perform hq

theorem Kept.failed {q : Http} {e : Env} {code : String} {w' : World} (hk : Kept w₀ w)
    (he : e.Definite) (hq : q.writes ≠ some .transfers)
    (hp : World.perform cfg e w (.http q) = (.error code,w')) : Kept w₀ w' := by
  have hw := definite_error he hq (congrArg Prod.fst hp)
  rw [hp] at hw
  subst hw
  exact hk

theorem executeSaga_givesBack (cfg : SeatConfig) (a : Saga) (w₀ : World) :
    Handler.Always cfg OneFailure (fun _ _ _ => True) (fun _ => GivesBack w₀) (executeSaga a) []
      w₀ := by
  refine Prog.always_bind.mpr ?_
  refine attempt_always oneFailure_definite .buyerDeducted ?_ ?_
  · intro e v w₁ he hserve
    have hk : Kept w₀ w₁ := by
      obtain ⟨-,rfl⟩ := World.serve_patchCredits_ok hserve
      exact ⟨rfl,rfl,rfl⟩
    refine attempt_always oneFailure_definite .sellerCredited ?_ ?_
    · intro e v w₂ he hserve
      replace hk : Kept w₀ w₂ := by
        obtain ⟨-,rfl⟩ := World.serve_patchCredits_ok hserve
        exact ⟨hk.tickets,hk.listings,hk.ledger⟩
      refine attempt_always oneFailure_definite .buyerTxnLogged ?_ ?_
      · intro e v w₃ he hserve
        exact Prog.always_bind.mp (givesBack_logged _ rfl (fun _ _ _ => trivial))
      · intro e code w₃ he hp
        refine rollBack_givesBack (by simp) (hk.failed he.1 ?_ hp)
        simp [Saga.request,Http.writes]
    · intro e code w₂ he hp
      refine rollBack_givesBack (by simp) (hk.failed he.1 ?_ hp)
      simp [Saga.request,Http.writes]
  · intro e code w₁ he hp
    refine rollBack_givesBack (by simp) (Kept.failed ⟨rfl,rfl,rfl⟩ he.1 ?_ hp)
    simp [Saga.request,Http.writes]

end Proofs

/-- With one failure, and compensating calls that reach healthy services, a saga that raises
gives the ticket, the listing and the ledger back if and only if the failure came before the
first ledger entry was taken. -/
theorem saga_restored_iff (cfg : SeatConfig) (a : Saga) (w : World)
    (ω : List (Entry Platform) → Env) (hω : ∀ h, OneFailure h (ω h)) (exc : Unhandled)
    (hraise : ((executeSaga a).exec (World.server cfg Unit) () ω [] w).result = .error exc) :
    Restored a w ((executeSaga a).exec (World.server cfg Unit) () ω [] w).state ↔
      ¬ ((executeSaga a).exec (World.server cfg Unit) () ω [] w).past.any loggedEntry := by
  have hgains : Handler.Always cfg OneFailure (fun _ => Gained w) (fun _ => Gained w)
      (executeSaga a) [] w := always_gained (executeSaga a) (gained_nil w)
  constructor
  · intro hr hl
    have hgained := (hgains.exec ω hω).error hraise
    rw [Gained,hl,hr.ledger] at hgained
    simp at hgained
  · exact fun hno => (((executeSaga_givesBack cfg a w).exec ω hω).error hraise hno).restored

section RefusedListing

/-- A listing of user 1's ticket, and a transfer of it to user 2 for 30 credits. -/
def listedTicketWorld : World where
  users := ∅
  events := ∅
  venues := ∅
  seats := ∅
  inventory := ∅
  holdCache := ∅
  released := ∅
  tickets := AList.singleton 5 ⟨1,1,1,1,30,.listed,none,none,0⟩
  ticketLogs := []
  listings := AList.singleton 6 ⟨5,1,30,.active,0⟩
  transfers := AList.singleton 8
    ⟨6,2,1,.pendingSellerOtp,30,true,true,some 3,some 4,none,seconds 86400,0⟩
  credits := (AList.singleton 1 0).insert 2 100
  creditTransactions := []
  paymentIntents := ∅
  scanLocks := ∅

def refusedListingSaga : Saga := ⟨8,2,1,30,some 5,6,100,0⟩

/-- Everything is healthy, except that marketplace-service does not answer at step 6. -/
def marketplaceDown (h : List (Entry Platform)) : Env where
  time := seconds 10
  uuid := 9
  hex := 9
  redisUp := true
  otpVerified := true
  fault :=
    if h.any failedCall then none
    else match h with
      | ⟨.http (.updateTicket _ _),_⟩ :: _ => some ⟨false,some "SERVICE_UNAVAILABLE"⟩
      | _ => none

theorem marketplaceDown_oneFailure (h : List (Entry Platform)) :
    OneFailure h (marketplaceDown h) := by
  refine ⟨fun f hf => ?_,fun hc => by simp [marketplaceDown,hc]⟩
  simp only [marketplaceDown] at hf
  split at hf
  · cases hf
  · split at hf
    · cases hf; exact ⟨rfl,rfl⟩
    · cases hf

def refusedListingRun : Final Platform Unhandled Unit World :=
  (executeSaga refusedListingSaga).exec (World.server ⟨3,3,false⟩ Unit) () marketplaceDown []
    listedTicketWorld

theorem saga_restored_iff_refusedListing :
    Restored refusedListingSaga listedTicketWorld refusedListingRun.state ↔
      ¬ refusedListingRun.past.any loggedEntry :=
  saga_restored_iff ⟨3,3,false⟩ refusedListingSaga listedTicketWorld marketplaceDown
    marketplaceDown_oneFailure .runtimeError (by decide +kernel)

/-- The saga raises, and the ticket stays with the buyer. -/
theorem refused_listing_keeps_ticket : refusedListingRun.result = .error .runtimeError ∧
    ¬ Restored refusedListingSaga listedTicketWorld refusedListingRun.state := by
  refine ⟨by decide +kernel,fun hr => ?_⟩
  have howner := hr.ticket 5 rfl
  revert howner
  decide +kernel

end RefusedListing

end TicketRemaster.Transfer
