import TicketRemaster.Transfer.Compensation
import TicketRemaster.Lib.Interleaving
set_option autoImplicit false

/-! Which balances a saga leaves: the right ones, unless its compensation is cut short. The
listing and the ticket are put back before the balances, in one `try`, so an exception from either
keeps the buyer's credits from being given back. -/

namespace TicketRemaster.Transfer

open Resumption SeatInventory

/-- The balance of a user who had `b`, after the writes that were accepted. -/
def balanceAfter (u : UserId) (b : Credits) : (q : Call) → q.Ans → Credits
  | .http (.patchCredits i b'), .ok _ => if i = u then b' else b
  | _, _ => b

def balanceOf (u : UserId) (b₀ : Credits) : List (Entry Platform) → Credits
  | [] => b₀
  | entry :: h => balanceAfter u (balanceOf u b₀ h) entry.1 entry.2

@[simp] theorem balanceOf_cons (u : UserId) (b₀ : Credits) (entry : Entry Platform)
    (h : List (Entry Platform)) :
    balanceOf u b₀ (entry :: h) = balanceAfter u (balanceOf u b₀ h) entry.1 entry.2 := rfl

/-- An error or an exception. -/
def failedEntry : Entry Platform → Bool
  | ⟨.http _,.ok _⟩ => false
  | ⟨.http _,_⟩ => true
  | _ => false

/-- An exception from a call that puts the listing or the ticket back. -/
def interrupted : Entry Platform → Bool
  | ⟨.http (.updateListing _ .active),.raised⟩ => true
  | ⟨.http (.updateTicket _ p),.raised⟩ => p.status = some .sold
  | _ => false

def isCreditWrite : Call → Bool
  | .http (.patchCredits _ _) => true
  | _ => false

/-- A write of a balance that fails has no effect, and none fails once the saga compensates. -/
def creditsReliable (h : List (Entry Platform)) (e : Env) (q : Call) : Bool :=
  match isCreditWrite q, e.fault with
  | true, some f => !f.applied && !h.any failedEntry
  | _, _ => true

section Discipline

variable {a : Saga} {h : List (Entry Platform)} {α : Type}

/-- Only the two balances are written. -/
def TwoAccounts (a : Saga) (_ : List (Entry Platform)) : Call → Prop
  | .http (.patchCredits i _) => i = a.buyerId ∨ i = a.sellerId
  | _ => True

/-- Once the saga compensates, a write of a balance is accepted. -/
def Reliable (h : List (Entry Platform)) : (q : Call) → q.Ans → Prop
  | .http (.patchCredits _ _), r => h.any failedEntry → r = .ok ()
  | _, _ => True

/-- The balances at a point of the saga where these steps are completed. -/
structure Charged (a : Saga) (completed : List SagaStep) (h : List (Entry Platform)) : Prop where
  buyer : balanceOf a.buyerId a.buyerBalance h =
    if .buyerDeducted ∈ completed then a.buyerBalance-a.creditAmount else a.buyerBalance
  seller : balanceOf a.sellerId a.sellerBalance h =
    if .sellerCredited ∈ completed then a.sellerBalance+a.creditAmount else a.sellerBalance

theorem charged_start (a : Saga) : Charged a [] [] := ⟨rfl,rfl⟩

/-- How a saga that fails leaves the balances: cut short after the buyer has paid, or as they
were. -/
def Reversed (a : Saga) (h : List (Entry Platform)) : Prop :=
  (h.any interrupted ∧ ∃ completed, .buyerDeducted ∈ completed ∧ Charged a completed h) ∨
    (h.any interrupted = false ∧ balanceOf a.buyerId a.buyerBalance h = a.buyerBalance ∧
      balanceOf a.sellerId a.sellerBalance h = a.sellerBalance)

abbrev Handler.Balances (a : Saga) (p : Handler α) (fin : α → List (Entry Platform) → Prop)
    (exc : Unhandled → List (Entry Platform) → Prop) (h : List (Entry Platform)) : Prop :=
  p.Follows (TwoAccounts a) Reliable fin exc h

variable {fin : α → List (Entry Platform) → Prop} {exc : Unhandled → List (Entry Platform) → Prop}

theorem tryService_balances {q : Http} {f : Except Unhandled (Except String q.Val) → Handler α}
    (hq : TwoAccounts a h (.http q))
    (hok : ∀ v, Handler.Balances a (f (.ok (.ok v))) fin exc (⟨.http q,.ok v⟩ :: h))
    (herr : ∀ code, Reliable h (.http q) (.error code) →
      Handler.Balances a (f (.ok (.error code))) fin exc (⟨.http q,.error code⟩ :: h))
    (hraised : Reliable h (.http q) .raised →
      Handler.Balances a (f (.error .client)) fin exc (⟨.http q,.raised⟩ :: h)) :
    Handler.Balances a (tryService q >>= f) fin exc h := by
  refine Prog.follows_bind.mpr (Prog.follows_handle.mpr ⟨hq,fun r hr => ?_⟩)
  cases r with
  | ok v => exact hok v
  | error code => exact herr code hr
  | raised => exact hraised hr

@[simp] theorem balanceAfter_error (u : UserId) (b : Credits) (q : Http) (code : String) :
    balanceAfter u b (.http q) (.error code) = b := by cases q <;> rfl

@[simp] theorem balanceAfter_raised (u : UserId) (b : Credits) (q : Http) :
    balanceAfter u b (.http q) .raised = b := by cases q <;> rfl

theorem request_not_interrupted (a : Saga) (now : Time) (step : SagaStep)
    (r : Reply (a.request now step).Val) :
    interrupted ⟨.http (a.request now step),r⟩ = false := by cases step <;> cases r <;> rfl

theorem Charged.taken {completed : List SagaStep} (hne : a.buyerId ≠ a.sellerId)
    (hc : Charged a completed h) (now : Time) (step : SagaStep) (v : (a.request now step).Val) :
    Charged a (completed ++ [step]) (⟨.http (a.request now step),.ok v⟩ :: h) := by
  obtain ⟨hbuyer,hseller⟩ := hc
  cases step with
  | buyerDeducted => constructor <;> simp [Saga.request,balanceAfter,hne,hseller]
  | sellerCredited => constructor <;> simp [Saga.request,balanceAfter,Ne.symm hne,hbuyer]
  | _ => constructor <;> simp [Saga.request,balanceAfter,hbuyer,hseller]

theorem Charged.failed {completed : List SagaStep} (hc : Charged a completed h) {q : Http}
    {r : Reply q.Val} (hr : ∀ v, r ≠ .ok v) : Charged a completed (⟨.http q,r⟩ :: h) := by
  cases r with
  | ok v => exact absurd rfl (hr v)
  | error code => exact ⟨by simpa using hc.buyer,by simpa using hc.seller⟩
  | raised => exact ⟨by simpa using hc.buyer,by simpa using hc.seller⟩

/-- A step is taken, or fails and leaves the balances as they are. -/
theorem attempt_balances (step : SagaStep) {now : Time} {completed : List SagaStep}
    {f : Option Unhandled → Handler α} (hne : a.buyerId ≠ a.sellerId)
    (hc : Charged a completed h) (hclean : h.any interrupted = false)
    (hok : ∀ h', Charged a (completed ++ [step]) h' → h'.any interrupted = false →
      Handler.Balances a (f none) fin exc h')
    (hfail : ∀ x h', Charged a completed h' → h'.any failedEntry →
      h'.any interrupted = false → Handler.Balances a (f (some x)) fin exc h') :
    Handler.Balances a (a.attempt now step >>= f) fin exc h := by
  have hclean' : ∀ r, (List.any (⟨.http (a.request now step),r⟩ :: h) interrupted) = false := by
    intro r
    rw [List.any_cons,request_not_interrupted,hclean,Bool.false_or]
  refine Prog.follows_bind.mpr
    (tryService_balances ?_ (fun v => ?_) (fun code _ => ?_) (fun _ => ?_))
  · cases step <;> first | exact .inl rfl | exact .inr rfl | trivial
  · exact hok _ (hc.taken hne now step v) (hclean' _)
  · exact hfail _ _ (hc.failed (by simp)) rfl (hclean' _)
  · exact hfail _ _ (hc.failed (by simp)) rfl (hclean' _)

/-- Taking the steps ends with all of them taken, or with a failure after some of them. -/
theorem forward_balances {a : Saga} (hne : a.buyerId ≠ a.sellerId) (steps completed : List SagaStep)
    {h : List (Entry Platform)} (hc : Charged a completed h) (hclean : h.any interrupted = false) :
    Handler.Balances a (a.forward steps completed) (fun r h' => Charged a r.2 h' ∧
      h'.any interrupted = false ∧ r.2 <+: completed ++ steps ∧
      (r.1 = none → r.2 = completed ++ steps) ∧ (r.1 ≠ none → h'.any failedEntry)) exc h := by
  induction steps generalizing completed h with
  | nil => exact ⟨hc,hclean,by simp,fun _ => by simp,fun hno => absurd rfl hno⟩
  | cons step rest ih =>
    have hstep : ∀ now {h}, Charged a completed h → h.any interrupted = false →
        Handler.Balances a (a.attempt now step >>= a.goOn step rest completed)
          (fun r h' => Charged a r.2 h' ∧
            h'.any interrupted = false ∧ r.2 <+: completed ++ step :: rest ∧
            (r.1 = none → r.2 = completed ++ step :: rest) ∧
            (r.1 ≠ none → h'.any failedEntry)) exc h := by
      intro now h hc hclean
      refine attempt_balances step hne hc hclean (fun h' hc' hclean' => ?_)
        (fun x h' hc' hfailed hclean' => ?_)
      · simpa [Saga.goOn] using ih (completed ++ [step]) hc' hclean'
      · exact ⟨hc',hclean',List.prefix_append completed _,by simp,fun _ => hfailed⟩
    cases step with
    | transferCompleted =>
      refine ⟨trivial,fun now _ => hstep now ⟨hc.buyer,hc.seller⟩ ?_⟩
      simpa [interrupted] using hclean
    | _ => exact hstep 0 hc hclean

/-- A compensating call that is no write of a balance: whatever it answers, the balances stay. -/
theorem compensate_balances {completed : List SagaStep} {step : SagaStep} {q : Http}
    {message : String} {rest : List (SagaStep × Http × String)}
    {J : List (Entry Platform) → Prop} (hq : TwoAccounts a h (.http q))
    (hskip : step ∉ completed → Handler.Balances a (compensate completed rest) (fun _ => J) exc h)
    (hok : step ∈ completed → ∀ v,
      Handler.Balances a (compensate completed rest) (fun _ => J) exc (⟨.http q,.ok v⟩ :: h))
    (herr : step ∈ completed → ∀ code, Reliable h (.http q) (.error code) →
      Handler.Balances a (compensate completed rest) (fun _ => J) exc (⟨.http q,.error code⟩ :: h))
    (hraised : step ∈ completed → Reliable h (.http q) .raised → J (⟨.http q,.raised⟩ :: h)) :
    Handler.Balances a (compensate completed ((step,q,message) :: rest)) (fun _ => J) exc h := by
  unfold compensate
  split
  · rename_i hmem
    refine tryService_balances hq (hok hmem) (fun code hr => ?_) (hraised hmem)
    exact Prog.follows_bind.mpr ((herr hmem code hr).mono (fun _ _ hJ => hJ) (fun _ _ he => he))
  · rename_i hmem
    exact hskip hmem

theorem first_step {completed : List SagaStep} {step : SagaStep} (hp : completed <+: sagaSteps)
    (hs : step ∈ completed) : .buyerDeducted ∈ completed := by
  cases completed with
  | nil => cases hs
  | cons s rest =>
    obtain ⟨rfl,-⟩ := List.cons_prefix_cons.mp hp
    exact List.mem_cons_self

theorem Charged.cons {completed : List SagaStep} {entry : Entry Platform}
    (hc : Charged a completed h) (hb : ∀ u b, balanceAfter u b entry.1 entry.2 = b) :
    Charged a completed (entry :: h) :=
  ⟨by rw [balanceOf_cons,hb]; exact hc.buyer,by rw [balanceOf_cons,hb]; exact hc.seller⟩

theorem Reversed.cons {entry : Entry Platform} (hr : Reversed a h) (hi : interrupted entry = false)
    (hb : ∀ u b, balanceAfter u b entry.1 entry.2 = b) : Reversed a (entry :: h) := by
  unfold Reversed
  rw [List.any_cons,hi,Bool.false_or,balanceOf_cons,balanceOf_cons,hb,hb]
  refine hr.imp_left ?_
  rintro ⟨hcut,completed,hmem,hc⟩
  exact ⟨hcut,completed,hmem,hc.cons hb⟩

/-- The ledger entries come last in a compensation, and their reversal changes no balance. -/
theorem reverseLogs_balances {completed : List SagaStep} (hr : Reversed a h) :
    Handler.Balances a (compensate completed (a.compensations.drop 4)) (fun _ => Reversed a) exc
      h := by
  have hkept : ∀ {h} r, Reversed a h → Reversed a
      (⟨.http (.patchCreditTransactionByReference (.transfer a.transferId)),r⟩ :: h) :=
    fun r hr => hr.cons (by cases r <;> rfl) (fun _ _ => by cases r <;> rfl)
  have hbuyer : ∀ {h}, Reversed a h → Handler.Balances a
      (compensate completed (a.compensations.drop 5)) (fun _ => Reversed a) exc h := by
    intro h hr
    exact compensate_balances trivial (fun _ => hr) (fun _ _ => hkept _ hr)
      (fun _ _ _ => hkept _ hr) (fun _ _ => hkept _ hr)
  exact compensate_balances trivial (fun _ => hbuyer hr) (fun _ _ => hbuyer (hkept _ hr))
    (fun _ _ _ => hbuyer (hkept _ hr)) (fun _ _ => hkept _ hr)

/-- A step has failed after these, and nothing has been put back yet. -/
structure Failing (a : Saga) (completed : List SagaStep) (h : List (Entry Platform)) : Prop where
  charged : Charged a completed h
  failed : h.any failedEntry
  clean : h.any interrupted = false

theorem Failing.cons {completed : List SagaStep} {entry : Entry Platform}
    (hf : Failing a completed h) (hi : interrupted entry = false)
    (hb : ∀ u b, balanceAfter u b entry.1 entry.2 = b) : Failing a completed (entry :: h) := by
  refine ⟨hf.charged.cons hb,by simp [hf.failed],?_⟩
  rw [List.any_cons,hi,hf.clean,Bool.false_or]

/-- The buyer's balance is restored last. -/
theorem restoreBuyer_balances {completed : List SagaStep} (hne : a.buyerId ≠ a.sellerId)
    (hfailed : h.any failedEntry) (hclean : h.any interrupted = false)
    (hbuyer : .buyerDeducted ∉ completed →
      balanceOf a.buyerId a.buyerBalance h = a.buyerBalance)
    (hseller : balanceOf a.sellerId a.sellerBalance h = a.sellerBalance) :
    Handler.Balances a (compensate completed (a.compensations.drop 3)) (fun _ => Reversed a) exc
      h := by
  refine compensate_balances (.inl rfl) (fun hno => ?_) (fun _ _ => ?_)
    (fun _ code hr => absurd (hr hfailed) (by simp)) (fun _ hr => absurd (hr hfailed) (by simp))
  · exact reverseLogs_balances (.inr ⟨hclean,hbuyer hno,hseller⟩)
  · refine reverseLogs_balances (.inr ⟨?_,?_,?_⟩)
    · simpa [interrupted] using hclean
    · simp [balanceAfter]
    · simpa [balanceAfter,hne] using hseller

theorem restoreBalances_balances {completed : List SagaStep} (hne : a.buyerId ≠ a.sellerId)
    (hf : Failing a completed h) :
    Handler.Balances a (compensate completed (a.compensations.drop 2)) (fun _ => Reversed a) exc
      h := by
  have hbuyer : .buyerDeducted ∉ completed →
      balanceOf a.buyerId a.buyerBalance h = a.buyerBalance := by
    intro hno
    rw [hf.charged.buyer,if_neg hno]
  refine compensate_balances (.inr rfl) (fun hno => ?_) (fun _ _ => ?_)
    (fun _ code hr => absurd (hr hf.failed) (by simp))
    (fun _ hr => absurd (hr hf.failed) (by simp))
  · refine restoreBuyer_balances hne hf.failed hf.clean hbuyer ?_
    rw [hf.charged.seller,if_neg hno]
  · refine restoreBuyer_balances hne (by simp [hf.failed]) ?_ (fun hno => ?_) ?_
    · simpa [interrupted] using hf.clean
    · simpa [balanceAfter,Ne.symm hne] using hbuyer hno
    · simp [balanceAfter]

/-- A call that puts the ticket or the listing back: unless it raises, the compensation goes on. -/
theorem putBack_balances {completed : List SagaStep} {step : SagaStep} {q : Http}
    {message : String} {rest : List (SagaStep × Http × String)}
    (hp : completed <+: sagaSteps) (hf : Failing a completed h)
    (hq : isCreditWrite (.http q) = false)
    (hi : interrupted ⟨.http q,.raised⟩) (hrest : ∀ {h}, Failing a completed h →
      Handler.Balances a (compensate completed rest) (fun _ => Reversed a) exc h) :
    Handler.Balances a (compensate completed ((step,q,message) :: rest)) (fun _ => Reversed a) exc
      h := by
  have hsame : ∀ r u b, balanceAfter u b (.http q) r = b := by
    intro r u b
    cases q with
    | patchCredits i b' => cases hq
    | _ => rfl
  have hfine : ∀ r, r ≠ .raised → interrupted ⟨.http q,r⟩ = false := by
    intro r hr
    cases r with
    | raised => exact absurd rfl hr
    | ok v => cases q <;> first | rfl | (rename_i s; cases s <;> rfl)
    | error code => cases q <;> first | rfl | (rename_i s; cases s <;> rfl)
  refine compensate_balances ?_ (fun _ => hrest hf)
    (fun _ v => hrest (hf.cons (hfine _ (by simp)) (hsame _)))
    (fun _ code _ => hrest (hf.cons (hfine _ (by simp)) (hsame _))) (fun hs _ => .inl ⟨?_,?_⟩)
  · cases q with
    | patchCredits i b' => cases hq
    | _ => trivial
  · simp [hi]
  · exact ⟨completed,first_step hp hs,hf.charged.cons (hsame _)⟩

/-- The listing and the ticket come first; an exception from either ends the compensation. -/
theorem compensations_balances {completed : List SagaStep} (hne : a.buyerId ≠ a.sellerId)
    (hp : completed <+: sagaSteps) (hf : Failing a completed h) :
    Handler.Balances a (compensate completed a.compensations) (fun _ => Reversed a) exc h := by
  refine putBack_balances hp hf rfl rfl fun hf => ?_
  refine putBack_balances hp hf rfl rfl fun hf => ?_
  exact restoreBalances_balances hne hf

theorem rollBack_balances {completed : List SagaStep} (hne : a.buyerId ≠ a.sellerId)
    (hp : completed <+: sagaSteps) (hf : Failing a completed h) :
    Handler.Balances a (a.rollBack completed) (fun _ h => Reversed a h) (fun _ h => Reversed a h)
      h := by
  refine Prog.follows_bind.mpr ((compensations_balances hne hp hf).mono (fun errors h' hr => ?_)
    (fun _ _ he => he))
  have hmarked : ∀ r, Reversed a
      (⟨.http (.patchTransfer a.transferId { status := some .failed }),r⟩ :: h') :=
    fun r => hr.cons (by cases r <;> rfl) (fun _ _ => by cases r <;> rfl)
  have hpublished : ∀ {h}, Reversed a h → Handler.Balances a (if errors ≠ [] then (do
        let _ ← (.call (.publish (.transferCompensationFailed a.transferId a.buyerId a.sellerId
          (completed.map SagaStep.text) errors)) .ret : Handler Bool)
        pure ()) else pure () : Handler Unit) (fun _ h => Reversed a h) (fun _ h => Reversed a h)
        h := by
    intro h hr
    split
    · exact ⟨trivial,fun _ _ => hr.cons rfl (fun _ _ => rfl)⟩
    · exact hr
  refine ⟨trivial,fun r _ => ?_⟩
  cases r with
  | raised => exact hmarked _
  | ok v => exact hpublished (hmarked _)
  | error code => exact hpublished (hmarked _)

/-- A saga returns with the amount moved, or raises with the balances reversed. -/
theorem executeSaga_balances {a : Saga} (hne : a.buyerId ≠ a.sellerId) :
    Handler.Balances a (executeSaga a)
      (fun _ h => h.any interrupted = false ∧ Charged a sagaSteps h) (fun _ h => Reversed a h)
      [] := by
  refine Prog.follows_bind.mpr ((forward_balances hne sagaSteps [] (charged_start a) rfl).mono
    (fun r h hr => ?_) (fun _ _ he => he))
  obtain ⟨failure,completed⟩ := r
  obtain ⟨hc,hclean,hp,hall,hsome⟩ := hr
  cases failure with
  | none =>
    obtain rfl : completed = sagaSteps := hall rfl
    exact ⟨hclean,hc⟩
  | some x =>
    exact Prog.follows_bind.mpr ((rollBack_balances hne hp ⟨hc,hsome (by simp),hclean⟩).mono
      (fun _ _ hr => hr) (fun _ _ hr => hr))

end Discipline

section Runs

variable {cfg : SeatConfig} {a : Saga} {w₀ : World}

abbrev SagaConfig : Type := Config Unit Platform Unhandled Unit World

/-- Both users have the balances that the saga was given. -/
structure Opening (a : Saga) (w : World) : Prop where
  buyer : w.credits.lookup a.buyerId = some a.buyerBalance
  seller : w.credits.lookup a.sellerId = some a.sellerBalance

/-- The stored balances are those the history tells. -/
structure Stored (a : Saga) (w : World) (h : List (Entry Platform)) : Prop where
  buyer : w.credits.lookup a.buyerId = some (balanceOf a.buyerId a.buyerBalance h)
  seller : w.credits.lookup a.sellerId = some (balanceOf a.sellerId a.sellerBalance h)

/-- A reliable write is accepted and stored, or fails without effect before any compensation. -/
theorem Stored.written {w : World} {h : List (Entry Platform)} {i : UserId} {b : Credits} {e : Env}
    (hs : Stored a w h) (hc : creditsReliable h e (.http (.patchCredits i b)))
    (hq : TwoAccounts a h (.http (.patchCredits i b))) :
    Reliable h (.http (.patchCredits i b)) (World.perform cfg e w (.http (.patchCredits i b))).1 ∧
      Stored a (World.perform cfg e w (.http (.patchCredits i b))).2
        (⟨.http (.patchCredits i b),(World.perform cfg e w (.http (.patchCredits i b))).1⟩ ::
          h) := by
  cases hfault : e.fault with
  | some f =>
    simp only [creditsReliable,isCreditWrite,hfault,Bool.and_eq_true,Bool.not_eq_true'] at hc
    have hp : World.perform cfg e w (.http (.patchCredits i b)) = (World.httpFault f,w) := by
      simp [World.perform,World.faulty,hfault,hc.1]
    rw [hp]
    refine ⟨fun hfailed => absurd hfailed (by rw [hc.2]; exact Bool.false_ne_true),?_⟩
    unfold World.httpFault
    cases f.code <;> exact ⟨hs.buyer,hs.seller⟩
  | none =>
    have hknown : (w.credits.lookup i).isSome := by
      rcases hq with rfl | rfl
      · simp [hs.buyer]
      · simp [hs.seller]
    have hp : World.perform cfg e w (.http (.patchCredits i b)) =
        (.ok (),{ w with credits := w.credits.insert i b }) := by
      simp [World.perform,World.faulty,hfault,World.serve,World.patchCredits,hknown,World.httpReply]
    rw [hp]
    have hlookup : ∀ {u b₀}, w.credits.lookup u = some b₀ →
        (w.credits.insert i b).lookup u = some (if i = u then b else b₀) := by
      intro u b₀ hu
      by_cases hi : u = i
      · subst hi; simp
      · rw [AList.lookup_insert_ne hi,hu,if_neg (Ne.symm hi)]
    exact ⟨fun _ => rfl,hlookup hs.buyer,hlookup hs.seller⟩

theorem stored_keeps (cfg : SeatConfig) (a : Saga) :
    Keeps (World.server cfg Unit) (fun _ past k e q => creditsReliable (past k) e q)
      (fun _ => TwoAccounts a) (fun _ => Reliable) (fun w past => Stored a w (past ())) := by
  intro w past k e q hs _ hc hq
  have hframe : World.Frame q.writes w (World.perform cfg e w q).2 := World.perform_frame q
  simp only [World.server,Function.update_self]
  by_cases hw : isCreditWrite q
  · cases q with
    | http q =>
      cases q with
      | patchCredits i b => exact hs.written hc hq
      | _ => cases hw
    | _ => cases hw
  · have hsame : ∀ r u b, balanceAfter u b q r = b := by
      intro r u b
      cases q with
      | http q => cases q <;> first | rfl | exact absurd rfl hw
      | _ => rfl
    have hcredits : (World.perform cfg e w q).2.credits = w.credits := by
      refine hframe.credits ?_
      cases q with
      | http q =>
        cases q with
        | patchCredits i b => exact absurd rfl hw
        | _ => simp [Call.writes,Http.writes]
      | _ => simp [Call.writes]
    refine ⟨?_,?_,?_⟩
    · cases q with
      | http q => cases q <;> trivial
      | _ => trivial
    · rw [hcredits,balanceOf_cons,hsame]; exact hs.buyer
    · rw [hcredits,balanceOf_cons,hsame]; exact hs.seller

/-- Either the saga returns and the amount has moved, or it does not and both balances are as
they were. -/
def BalancesRight (a : Saga) (c : SagaConfig) : Prop :=
  match c.result () with
  | some _ => c.shared.credits.lookup a.buyerId = some (a.buyerBalance-a.creditAmount) ∧
      c.shared.credits.lookup a.sellerId = some (a.sellerBalance+a.creditAmount)
  | none => c.shared.credits.lookup a.buyerId = some a.buyerBalance ∧
      c.shared.credits.lookup a.sellerId = some a.sellerBalance

/-- Whatever the calls do that write no balance, and if a write of a balance fails only without
effect and not while compensating: the saga leaves the balances right if and only if nothing is
to be moved, or no call that puts the listing or the ticket back raises. -/
theorem saga_balances_iff (cfg : SeatConfig) (a : Saga) (hne : a.buyerId ≠ a.sellerId) (w : World)
    (ho : Opening a w) (c : SagaConfig)
    (hrun : Config.Reach (World.server cfg Unit) (fun _ past k e q => creditsReliable (past k) e q)
      (Config.start w (fun _ => executeSaga a)) c) (hend : c.ended ()) :
    BalancesRight a c ↔ a.creditAmount = 0 ∨ (c.past ()).any interrupted = false := by
  have hstart : (Config.start w (fun _ : Unit => executeSaga a)).Disciplined
      (fun _ => TwoAccounts a) (fun _ => Reliable)
      (fun _ _ h => h.any interrupted = false ∧ Charged a sagaSteps h) (fun _ _ => Reversed a)
      (fun w past => Stored a w (past ())) :=
    Config.disciplined_start ⟨ho.buyer,ho.seller⟩ (fun _ => executeSaga_balances hne)
  have hc := hstart.reach (stored_keeps cfg a) hrun
  obtain ⟨hbuyer,hseller⟩ := hc.1
  unfold BalancesRight
  rcases hc.ended hend with ⟨r,hr,hclean,hcharged⟩ | ⟨hnone,x,hr⟩
  · rw [hr]
    rw [hcharged.buyer] at hbuyer
    rw [hcharged.seller] at hseller
    exact iff_of_true ⟨hbuyer,hseller⟩ (.inr hclean)
  · rw [hnone]
    rcases hr with ⟨hcut,completed,hpaid,hcharged⟩ | ⟨hclean,hb,hs⟩
    · rw [hcharged.buyer,if_pos hpaid] at hbuyer
      rw [hcharged.seller] at hseller
      simp only [hbuyer,hseller,Option.some.injEq,hcut,Bool.true_eq_false,or_false]
      constructor
      · exact fun h => sub_eq_self.mp h.1
      · intro hzero
        simp [hzero]
    · rw [hb] at hbuyer
      rw [hs] at hseller
      exact iff_of_true ⟨hbuyer,hseller⟩ (.inr hclean)

end Runs

section CutShort

def saga : SagaConfig := .start listedTicketWorld (fun _ => executeSaga refusedListingSaga)

def healthyCall : Env := ⟨seconds 10,9,9,true,true,none⟩

def scheduled (faults : List (Option Fault)) : SagaConfig :=
  saga.schedule (World.server ⟨3,3,false⟩ Unit) (fun _ past k e q => creditsReliable (past k) e q)
    (faults.map fun fault => ((),{ healthyCall with fault := fault }))

/-- transfer-service does not answer at step 7, and everything is put back. -/
def putBack : SagaConfig :=
  scheduled (List.replicate 7 none ++ [some ⟨false,some "SERVICE_UNAVAILABLE"⟩] ++
    List.replicate 8 none)

/-- As before, but the answer to putting the listing back cannot be read. -/
def cutShort : SagaConfig :=
  scheduled (List.replicate 7 none ++ [some ⟨false,some "SERVICE_UNAVAILABLE"⟩,some ⟨true,none⟩] ++
    List.replicate 2 none)

theorem listedTicket_opening : Opening refusedListingSaga listedTicketWorld :=
  ⟨by decide +kernel,by decide +kernel⟩

theorem saga_balances_iff_putBack : putBack.ended () ∧
    (BalancesRight refusedListingSaga putBack ↔
      refusedListingSaga.creditAmount = 0 ∨ (putBack.past ()).any interrupted = false) := by
  have hended : putBack.ended () := by decide +kernel
  exact ⟨hended,saga_balances_iff ⟨3,3,false⟩ refusedListingSaga (by decide) listedTicketWorld
    listedTicket_opening putBack (Config.reach_schedule (fun _ _ _ _ _ h => h) _ _) hended⟩

/-- The saga raises, and the buyer's credits stay with the seller. -/
theorem cut_short_keeps_credits :
    Config.Reach (World.server ⟨3,3,false⟩ Unit)
        (fun _ past k e q => creditsReliable (past k) e q) saga cutShort ∧ cutShort.ended () ∧
      cutShort.result () = none ∧ ¬ BalancesRight refusedListingSaga cutShort ∧
      cutShort.shared.credits.lookup 2 = some 70 ∧ cutShort.shared.credits.lookup 1 = some 30 := by
  have hbuyer : cutShort.shared.credits.lookup 2 = some 70 := by decide +kernel
  refine ⟨Config.reach_schedule (fun _ _ _ _ _ h => h) _ _,by decide +kernel,by decide +kernel,?_,
    hbuyer,by decide +kernel⟩
  have hnone : cutShort.result () = none := by decide +kernel
  intro hr
  rw [BalancesRight,hnone] at hr
  have hrestored := hbuyer.symm.trans hr.1
  revert hrestored
  decide +kernel

end CutShort

end TicketRemaster.Transfer
