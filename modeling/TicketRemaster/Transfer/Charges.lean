import TicketRemaster.Transfer.Balances
import TicketRemaster.Transfer.Calls
set_option autoImplicit false

/-! Which failures of a saga leave a balance moved, and how the history tells that its last step
was taken. -/

namespace TicketRemaster

/-- A call that reports an error has had no effect; one that raises may have had one. -/
def Env.Announced (e : Env) : Prop :=
  ∀ f code, e.fault = some f → f.code = some code → f.applied = false

namespace Transfer

open Resumption SeatInventory

/-- The failures after which an account is not what it was in `w`. A write of the balance that it
had in `w` is a compensation, any other a charge; the buyer's compensation comes last. -/
def leavesCharge (w : World) (buyerId : UserId) (e : Env) : Entry Platform → Bool
  | ⟨.http (.patchCredits u b),.error _⟩ => w.credits.lookup u = some b
  | ⟨.http (.patchCredits u b),.raised⟩ =>
      if w.credits.lookup u = some b then u ≠ buyerId || !e.fault.any (·.applied)
      else e.fault.any (·.applied)
  | x => interrupted x

def chargeLeft (w : World) (buyerId : UserId) (ω : List (Entry Platform) → Env) :
    List (Entry Platform) → Bool
  | [] => false
  | x :: h => leavesCharge w buyerId (ω h) x || chargeLeft w buyerId ω h

/-- The last step of the saga has been taken. -/
def completing : Entry Platform → Bool
  | ⟨.http (.patchTransfer _ p),.ok _⟩ => p.status = some .completed
  | _ => false

section Rules

variable {cfg : SeatConfig} {β : Type} {E : List (Entry Platform) → Env → Prop}
  {Q : β → List (Entry Platform) → World → Prop}
  {X : Unhandled → List (Entry Platform) → World → Prop}
  {h : List (Entry Platform)} {w : World} {a : Saga}

/-- A step is taken or fails, after a look at the clock if it is the last one. -/
theorem run_always (step : SagaStep) {J : List (Entry Platform) → Prop}
    {f : Option Unhandled → Handler β} (hJ : J h) (hnow : ∀ t, J h → J (⟨.now,t⟩ :: h))
    (hok : ∀ now h' e v w', J h' → E h' e →
      World.perform cfg e w (.http (a.request now step)) = (.ok v,w') →
      Handler.Always cfg E Q X (f none) (⟨.http (a.request now step),.ok v⟩ :: h') w')
    (hfail : ∀ now h' e r w' exc, J h' → E h' e →
      World.perform cfg e w (.http (a.request now step)) = (r,w') → (∀ v, r ≠ .ok v) →
      Handler.Always cfg E Q X (f (some exc)) (⟨.http (a.request now step),r⟩ :: h') w') :
    Handler.Always cfg E Q X (a.run step >>= f) h w := by
  have hattempt : ∀ now h', J h' →
      Handler.Always cfg E Q X (a.attempt now step >>= f) h' w := by
    intro now h' hJ'
    refine Prog.always_bind.mpr (tryService_always ?_ ?_ ?_)
    · exact fun e v w' he hp => hok now h' e v w' hJ' he hp
    · exact fun e code w' he hp => hfail now h' e _ w' _ hJ' he hp (by simp)
    · exact fun e w' he hp => hfail now h' e _ w' _ hJ' he hp (by simp)
  cases step with
  | transferCompleted =>
    refine Prog.always_bind.mpr (datetimeNow_always fun e _ => ?_)
    exact Prog.always_bind.mp (hattempt e.time _ (hnow _ hJ))
  | _ => exact hattempt 0 h hJ

/-- A compensating call is skipped, or is answered, or ends the compensation. -/
theorem compensate_always {completed : List SagaStep} {step : SagaStep} {q : Http}
    {message : String} {rest : List (SagaStep × Http × String)}
    {J : List (Entry Platform) → World → Prop}
    (hskip : step ∉ completed → Handler.Always cfg E (fun _ => J) X (compensate completed rest) h w)
    (hok : ∀ e v w', step ∈ completed → E h e → World.perform cfg e w (.http q) = (.ok v,w') →
      Handler.Always cfg E (fun _ => J) X (compensate completed rest) (⟨.http q,.ok v⟩ :: h) w')
    (herr : ∀ e code w', step ∈ completed → E h e →
      World.perform cfg e w (.http q) = (.error code,w') →
      Handler.Always cfg E (fun _ => J) X (compensate completed rest)
        (⟨.http q,.error code⟩ :: h) w')
    (hraised : ∀ e w', step ∈ completed → E h e →
      World.perform cfg e w (.http q) = (.raised,w') → J (⟨.http q,.raised⟩ :: h) w') :
    Handler.Always cfg E (fun _ => J) X (compensate completed ((step,q,message) :: rest)) h w := by
  unfold compensate
  split
  · rename_i hmem
    refine tryService_always (fun e v w' he hp => hok e v w' hmem he hp)
      (fun e code w' he hp => ?_) (fun e w' he hp => hraised e w' hmem he hp)
    exact Prog.always_bind.mpr ((herr e code w' hmem he hp).mono (fun _ _ _ hJ => hJ)
      (fun _ _ _ hx => hx))
  · rename_i hmem
    exact hskip hmem

end Rules

section LastStep

variable {cfg : SeatConfig} {E : List (Entry Platform) → Env → Prop} {h : List (Entry Platform)}
  {w : World} {a : Saga}

theorem completing_failed {q : Http} {r : Reply q.Val} (hr : ∀ v, r ≠ .ok v) :
    completing ⟨.http q,r⟩ = false := by
  cases r with
  | ok v => exact absurd rfl (hr v)
  | error code => cases q <;> rfl
  | raised => cases q <;> rfl

/-- The steps before the last one leave no trace of completion. -/
theorem forward_completing {X : Unhandled → List (Entry Platform) → World → Prop}
    (init completed : List SagaStep) (hinit : .transferCompleted ∉ init)
    (hh : h.any completing = false) :
    Handler.Always cfg E (fun r h' _ =>
        (r.1 = none → ∃ x rest, h' = x :: rest ∧ completing x) ∧
        (r.1 ≠ none → h'.any completing = false)) X
      (a.forward (init ++ [.transferCompleted]) completed) h w := by
  induction init generalizing completed h w with
  | nil =>
    refine run_always (J := fun h => h.any completing = false) .transferCompleted hh
      (fun t hh => by simpa [completing] using hh) ?_ ?_
    · exact fun now h' e v w' _ _ _ => ⟨fun _ => ⟨_,_,rfl,rfl⟩,fun hno => absurd rfl hno⟩
    · intro now h' e r w' exc hh' _ _ hr
      refine ⟨nofun,fun _ => ?_⟩
      rw [List.any_cons,completing_failed hr,hh']
      rfl
  | cons step init ih =>
    have hstep : step ≠ .transferCompleted := fun heq => hinit (heq ▸ List.mem_cons_self)
    have hrest : .transferCompleted ∉ init := fun hmem => hinit (List.mem_cons_of_mem _ hmem)
    refine run_always (J := fun h => h.any completing = false) step hh
      (fun t hh => by simpa [completing] using hh) ?_ ?_
    · intro now h' e v w' hh' _ _
      refine ih (completed ++ [step]) hrest ?_
      have hx : completing ⟨.http (a.request now step),.ok v⟩ = false := by
        cases step <;> first | rfl | exact absurd rfl hstep
      rw [List.any_cons,hx,hh']
      rfl
    · intro now h' e r w' exc hh' _ _ hr
      refine ⟨nofun,fun _ => ?_⟩
      rw [List.any_cons,completing_failed hr,hh']
      rfl

/-- A saga that returns has just taken its last step, and one that raises has not taken it. -/
theorem executeSaga_completing (hh : h.any completing = false) :
    Handler.Always cfg E (fun _ h' _ => ∃ x rest, h' = x :: rest ∧ completing x)
      (fun _ h' _ => h'.any completing = false) (executeSaga a) h w := by
  refine Prog.always_bind.mpr ((forward_completing (X := fun _ _ _ => False) (sagaSteps.take 6) []
    (by decide) hh).mono ?_ fun _ _ _ hf => hf.elim)
  rintro ⟨failure,completed⟩ h' w' ⟨hdone,hfailed⟩
  cases failure with
  | none => exact hdone rfl
  | some exc =>
    -- nothing in the compensation completes a transfer
    have hcalls : (a.rollBack completed).Calls (fun q => ∀ r, completing ⟨q,r⟩ = false)
        (fun _ => True) := by
      refine rollBack_calls ?_ ?_ fun m r => rfl
      · intro c hc _ r
        simp only [Saga.compensations,List.mem_cons,List.not_mem_nil,or_false] at hc
        rcases hc with rfl | rfl | rfl | rfl | rfl | rfl <;> rfl
      · intro r
        cases r <;> rfl
    refine Prog.always_bind.mpr ((hcalls.always (J := fun h _ => h.any completing = false) ?_
      (hfailed (by simp))).mono (fun _ _ _ hJ => hJ) fun _ _ _ hJ => hJ.2)
    intro q hq h e w _ hJ
    rw [List.any_cons,hq,hJ]
    rfl

end LastStep

section Restored

variable {cfg : SeatConfig} {ω : List (Entry Platform) → Env} {h : List (Entry Platform)}
  {w₀ w : World} {a : Saga} {α : Type}

@[simp] theorem chargeLeft_cons (w : World) (u : UserId) (x : Entry Platform) :
    chargeLeft w u ω (x :: h) = (leavesCharge w u (ω h) x || chargeLeft w u ω h) := rfl

theorem leavesCharge_other {q : Http} (hq : isCreditWrite (.http q) = false) (w : World)
    (u : UserId) (e : Env) (r : Reply q.Val) :
    leavesCharge w u e ⟨.http q,r⟩ = interrupted ⟨.http q,r⟩ := by
  cases q with
  | patchCredits i b => cases hq
  | _ => rfl

section Writes

variable {e : Env} {u : UserId} {b : Credits} {w' : World}

theorem patched_ok {v : Unit}
    (hp : World.perform cfg e w (.http (.patchCredits u b)) = (.ok v,w')) :
    w'.credits = w.credits.insert u b := by
  obtain ⟨-,rfl⟩ := World.serve_patchCredits_ok (World.perform_ok hp)
  rfl

/-- A write of a balance that is reported as failed has no effect. -/
theorem patched_error {code : String} (he : e.Announced)
    (hp : World.perform cfg e w (.http (.patchCredits u b)) = (.error code,w')) :
    w'.credits = w.credits := by
  simp only [World.perform,World.faulty] at hp
  split at hp
  · rename_i f hf
    obtain ⟨hcode,hw⟩ := Prod.mk.inj hp
    have happ : f.applied = false := by
      unfold World.httpFault at hcode
      split at hcode
      · rename_i c hc
        exact he f c hf hc
      · cases hcode
    rw [happ,if_neg (by decide)] at hw
    rw [hw]
  · obtain ⟨hcode,hw⟩ := Prod.mk.inj hp
    rcases World.serve_patchCredits_cases (w := w) e u b with hsame | ⟨hknown,-⟩
    · rw [← hw,hsame]
    · simp [World.serve,World.patchCredits,hknown,World.httpReply] at hcode

theorem patched_raised (hknown : (w.credits.lookup u).isSome)
    (hp : World.perform cfg e w (.http (.patchCredits u b)) = (.raised,w')) :
    ∃ f, e.fault = some f ∧
      w'.credits = if f.applied then w.credits.insert u b else w.credits := by
  simp only [World.perform,World.faulty] at hp
  split at hp
  · rename_i f hf
    obtain ⟨-,hw⟩ := Prod.mk.inj hp
    refine ⟨f,hf,?_⟩
    rw [← hw]
    split
    · simp [World.serve,World.patchCredits,hknown]
    · rfl
  · have hraised := (Prod.mk.inj hp).1
    simp [World.serve,World.patchCredits,hknown,World.httpReply] at hraised

end Writes

/-- The stored balances after these steps of the saga. -/
structure Owing (a : Saga) (completed : List SagaStep) (w : World) : Prop where
  buyer : w.credits.lookup a.buyerId = some
    (if .buyerDeducted ∈ completed then a.buyerBalance-a.creditAmount else a.buyerBalance)
  seller : w.credits.lookup a.sellerId = some
    (if .sellerCredited ∈ completed then a.sellerBalance+a.creditAmount else a.sellerBalance)

theorem Owing.same {completed : List SagaStep} {w' : World} (hw : Owing a completed w)
    (hsame : w'.credits = w.credits) : Owing a completed w' :=
  ⟨by rw [hsame]; exact hw.buyer,by rw [hsame]; exact hw.seller⟩

/-- A balance that one of the two does not start with. -/
def Astray (a : Saga) (u : UserId) (v : Credits) : Prop :=
  (u = a.buyerId ∧ v ≠ a.buyerBalance) ∨ (u = a.sellerId ∧ v ≠ a.sellerBalance)

/-- Something has gone wrong that leaves this account with this balance. -/
structure Stuck (w₀ : World) (buyerId : UserId) (ω : List (Entry Platform) → Env) (u : UserId)
    (v : Credits) (h : List (Entry Platform)) (w : World) : Prop where
  left : chargeLeft w₀ buyerId ω h = true
  balance : w.credits.lookup u = some v

/-- Where a saga that raises has to end. -/
def Settled (a : Saga) (w₀ : World) (ω : List (Entry Platform) → Env)
    (h : List (Entry Platform)) (w : World) : Prop :=
  Opening a w ↔ chargeLeft w₀ a.buyerId ω h = false

theorem Stuck.settled {u : UserId} {v : Credits} (hs : Stuck w₀ a.buyerId ω u v h w)
    (hv : Astray a u v) : Settled a w₀ ω h w := by
  refine iff_of_false (fun ho => ?_) (by simp [hs.left])
  rcases hv with ⟨rfl,hv⟩ | ⟨rfl,hv⟩
  · exact hv (Option.some.inj (hs.balance.symm.trans ho.buyer))
  · exact hv (Option.some.inj (hs.balance.symm.trans ho.seller))

/-- Only a write of the account can change what is stored in it. -/
theorem perform_account {e : Env} {q : Call} {u : UserId}
    (hq : ∀ b, q ≠ .http (.patchCredits u b)) :
    (World.perform cfg e w q).2.credits.lookup u = w.credits.lookup u := by
  by_cases hw : q.writes = some .credits
  · cases q with
    | http q =>
      cases q with
      | patchCredits i b =>
        have hi : u ≠ i := fun heq => hq b (by rw [heq])
        rcases World.perform_patchCredits_cases cfg e w i b with hp | ⟨-,hp⟩
        · rw [hp]
        · rw [hp]
          exact AList.lookup_insert_ne hi
      | _ => simp [Call.writes,Http.writes] at hw
    | _ => simp [Call.writes] at hw
  · rw [(World.perform_frame q).credits hw]

theorem stuck_always {E : List (Entry Platform) → Env → Prop} {p : Handler α} {u : UserId}
    {v : Credits} {R : Unhandled → Prop}
    (hp : p.Calls (fun q : Call => ∀ b, q ≠ .http (.patchCredits u b)) R)
    (hs : Stuck w₀ a.buyerId ω u v h w) :
    Handler.Always cfg E (fun _ => Stuck w₀ a.buyerId ω u v)
      (fun exc h w => R exc ∧ Stuck w₀ a.buyerId ω u v h w) p h w := by
  refine hp.always ?_ hs
  intro q hq h e w _ hJ
  exact ⟨by rw [chargeLeft_cons,hJ.left,Bool.or_true],(perform_account hq).trans hJ.balance⟩

/-- Calls that neither write a balance nor put the ticket or the listing back. -/
def Neutral (q : Call) : Prop :=
  q.writes ≠ some .credits ∧ ∀ w u e r, leavesCharge w u e ⟨q,r⟩ = false

theorem settled_always {E : List (Entry Platform) → Env → Prop} {p : Handler α}
    {R : Unhandled → Prop} (hp : p.Calls Neutral R) (hs : Settled a w₀ ω h w) :
    Handler.Always cfg E (fun _ => Settled a w₀ ω) (fun exc h w => R exc ∧ Settled a w₀ ω h w)
      p h w := by
  refine hp.always ?_ hs
  intro q hq h e w _ hJ
  have hframe : World.Frame q.writes w (World.perform cfg e w q).2 := World.perform_frame q
  have hsame := hframe.credits hq.1
  unfold Settled at hJ ⊢
  rw [chargeLeft_cons,hq.2,Bool.false_or,← hJ]
  constructor
  · exact fun ho => ⟨hsame ▸ ho.buyer,hsame ▸ ho.seller⟩
  · exact fun ho => ⟨hsame.symm ▸ ho.buyer,hsame.symm ▸ ho.seller⟩

section Compensation

variable {X : Unhandled → List (Entry Platform) → World → Prop}

abbrev AsChosen (ω : List (Entry Platform) → Env) (h : List (Entry Platform)) (e : Env) : Prop :=
  e = ω h ∧ e.Announced

theorem patch_left_error {u : UserId} {b : Credits} {code : String} {e : Env}
    (hb : w₀.credits.lookup u = some b) :
    leavesCharge w₀ a.buyerId e ⟨.http (.patchCredits u b),.error code⟩ = true := by
  simp [leavesCharge,hb]

/-- Whatever becomes of the ledger entries, it is none of the balances' concern. -/
theorem reverseLogs_settled {completed : List SagaStep} (hs : Settled a w₀ ω h w) :
    Handler.Always cfg (AsChosen ω) (fun _ => Settled a w₀ ω) X
      (compensate completed (a.compensations.drop 4)) h w := by
  have hcalls : (compensate completed (a.compensations.drop 4)).Calls Neutral
      (fun _ => False) := by
    refine compensate_calls fun c hc _ => ?_
    simp only [Saga.compensations,List.drop_succ_cons,List.drop_zero,List.mem_cons,
      List.not_mem_nil,or_false] at hc
    rcases hc with rfl | rfl <;>
      exact ⟨by simp [Call.writes,Http.writes],fun _ _ _ r => by cases r <;> rfl⟩
  exact (settled_always hcalls hs).mono (fun _ _ _ hJ => hJ) fun _ _ _ hJ => hJ.1.elim

/-- The buyer's balance is restored last. -/
theorem restoreBuyer_settled {completed : List SagaStep} (ho : Opening a w₀)
    (hne : a.buyerId ≠ a.sellerId) (hc : a.creditAmount ≠ 0)
    (hh : chargeLeft w₀ a.buyerId ω h = false)
    (hbuyer : w.credits.lookup a.buyerId = some
      (if .buyerDeducted ∈ completed then a.buyerBalance-a.creditAmount else a.buyerBalance))
    (hseller : w.credits.lookup a.sellerId = some a.sellerBalance) :
    Handler.Always cfg (AsChosen ω) (fun _ => Settled a w₀ ω) X
      (compensate completed (a.compensations.drop 3)) h w := by
  have hcharged : .buyerDeducted ∈ completed → Astray a a.buyerId
      (a.buyerBalance-a.creditAmount) := fun _ => .inl ⟨rfl,fun heq => hc (sub_eq_self.mp heq)⟩
  refine compensate_always (fun hno => ?_) (fun e v w' hmem he hp => ?_)
    (fun e code w' hmem he hp => ?_) (fun e w' hmem he hp => ?_)
  · rw [if_neg hno] at hbuyer
    exact reverseLogs_settled (iff_of_true ⟨hbuyer,hseller⟩ hh)
  · refine reverseLogs_settled (iff_of_true ⟨?_,?_⟩ ?_)
    · rw [patched_ok hp,AList.lookup_insert]
    · rw [patched_ok hp,AList.lookup_insert_ne hne.symm,hseller]
    · simpa [leavesCharge,interrupted] using hh
  · refine reverseLogs_settled (Stuck.settled ⟨?_,?_⟩ (hcharged hmem))
    · rw [chargeLeft_cons,patch_left_error ho.buyer,Bool.true_or]
    · rw [patched_error he.2 hp,hbuyer,if_pos hmem]
  · obtain ⟨f,hf,hw'⟩ := patched_raised (by simp [hbuyer]) hp
    have hfault : (ω h).fault = some f := by rw [← he.1,hf]
    cases happ : f.applied with
    | true =>
      rw [happ,if_pos rfl] at hw'
      refine iff_of_true ⟨?_,?_⟩ ?_
      · rw [hw',AList.lookup_insert]
      · rw [hw',AList.lookup_insert_ne hne.symm,hseller]
      · simp [leavesCharge,ho.buyer,hfault,happ,hh]
    | false =>
      rw [happ,if_neg (by decide)] at hw'
      refine Stuck.settled ⟨?_,?_⟩ (hcharged hmem)
      · simp [leavesCharge,ho.buyer,hfault,happ]
      · rw [hw',hbuyer,if_pos hmem]

/-- The seller's balance is restored before it; if that fails, the seller keeps the amount, or the
buyer does not get it back. -/
theorem restoreBalances_settled {completed : List SagaStep} (ho : Opening a w₀)
    (hne : a.buyerId ≠ a.sellerId) (hc : a.creditAmount ≠ 0) (hp : completed <+: sagaSteps)
    (hh : chargeLeft w₀ a.buyerId ω h = false) (hw : Owing a completed w) :
    Handler.Always cfg (AsChosen ω) (fun _ => Settled a w₀ ω) X
      (compensate completed (a.compensations.drop 2)) h w := by
  have hmoved : a.sellerBalance+a.creditAmount ≠ a.sellerBalance :=
    fun heq => hc (add_eq_left.mp heq)
  have hknown : (w.credits.lookup a.sellerId).isSome := by simp [hw.seller]
  refine compensate_always (fun hno => ?_) (fun e v w' hmem he hp => ?_)
    (fun e code w' hmem he hp => ?_) (fun e w' hmem he hp' => ?_)
  · refine restoreBuyer_settled ho hne hc hh hw.buyer ?_
    rw [hw.seller,if_neg hno]
  · refine restoreBuyer_settled ho hne hc ?_ ?_ ?_
    · simpa [leavesCharge,interrupted] using hh
    · rw [patched_ok hp,AList.lookup_insert_ne hne]
      exact hw.buyer
    · rw [patched_ok hp,AList.lookup_insert]
  · -- nothing that is left to do writes the seller's balance
    have hcalls : (compensate completed (a.compensations.drop 3)).Calls
        (fun q : Call => ∀ b, q ≠ .http (.patchCredits a.sellerId b)) (fun _ => False) := by
      refine compensate_calls fun c hc _ b heq => ?_
      simp only [Saga.compensations,List.drop_succ_cons,List.drop_zero,List.mem_cons,
        List.not_mem_nil,or_false] at hc
      rcases hc with rfl | rfl | rfl
      · simp only [Call.http.injEq,Http.patchCredits.injEq] at heq
        exact hne heq.1
      · cases heq
      · cases heq
    have hstuck : Stuck w₀ a.buyerId ω a.sellerId (a.sellerBalance+a.creditAmount)
        (⟨.http (.patchCredits a.sellerId a.sellerBalance),.error code⟩ :: h) w' := by
      constructor
      · rw [chargeLeft_cons,patch_left_error ho.seller,Bool.true_or]
      · rw [patched_error he.2 hp,hw.seller,if_pos hmem]
    exact (stuck_always hcalls hstuck).mono (fun _ _ _ hs => hs.settled (.inr ⟨rfl,hmoved⟩))
      fun _ _ _ hs => hs.1.elim
  · -- the buyer does not get the amount back
    refine Stuck.settled (u := a.buyerId) (v := a.buyerBalance-a.creditAmount) ⟨?_,?_⟩
      (.inl ⟨rfl,fun heq => hc (sub_eq_self.mp heq)⟩)
    · simp [leavesCharge,ho.seller,hne.symm]
    · obtain ⟨f,-,hw'⟩ := patched_raised hknown hp'
      have hbuyer := hw.buyer
      rw [if_pos (first_step hp hmem)] at hbuyer
      rw [hw']
      split
      · rw [AList.lookup_insert_ne hne,hbuyer]
      · exact hbuyer

/-- An exception from the call that puts the listing or the ticket back leaves the buyer charged. -/
theorem putBack_settled {completed : List SagaStep} {step : SagaStep} {q : Http}
    {message : String} {rest : List (SagaStep × Http × String)} (hc : a.creditAmount ≠ 0)
    (hp : completed <+: sagaSteps) (hh : chargeLeft w₀ a.buyerId ω h = false)
    (hw : Owing a completed w) (hq : isCreditWrite (.http q) = false)
    (hi : ∀ r, interrupted ⟨.http q,r⟩ = true ↔ r = .raised)
    (hrest : ∀ {h w}, chargeLeft w₀ a.buyerId ω h = false → Owing a completed w →
      Handler.Always cfg (AsChosen ω) (fun _ => Settled a w₀ ω) X (compensate completed rest) h w) :
    Handler.Always cfg (AsChosen ω) (fun _ => Settled a w₀ ω) X
      (compensate completed ((step,q,message) :: rest)) h w := by
  have hkept : ∀ {e r w'}, World.perform cfg e w (.http q) = (r,w') → w'.credits = w.credits := by
    intro e r w' hp
    refine (World.frame_of_perform hp).credits ?_
    cases q with
    | patchCredits u b => cases hq
    | _ => simp [Call.writes,Http.writes]
  have hclean : ∀ r, r ≠ .raised → chargeLeft w₀ a.buyerId ω (⟨.http q,r⟩ :: h) = false := by
    intro r hr
    rw [chargeLeft_cons,leavesCharge_other hq,hh,Bool.or_false]
    exact Bool.eq_false_iff.mpr fun hraised => hr ((hi r).mp hraised)
  refine compensate_always (fun _ => hrest hh hw)
    (fun e v w' _ _ hp => hrest (hclean _ (by simp)) (hw.same (hkept hp)))
    (fun e code w' _ _ hp => hrest (hclean _ (by simp)) (hw.same (hkept hp)))
    (fun e w' hmem _ hp' => ?_)
  refine Stuck.settled (u := a.buyerId) (v := a.buyerBalance-a.creditAmount) ⟨?_,?_⟩
    (.inl ⟨rfl,fun heq => hc (sub_eq_self.mp heq)⟩)
  · rw [chargeLeft_cons,leavesCharge_other hq,(hi _).mpr rfl,Bool.true_or]
  · rw [hkept hp',hw.buyer,if_pos (first_step hp hmem)]

theorem compensations_settled {completed : List SagaStep} (ho : Opening a w₀)
    (hne : a.buyerId ≠ a.sellerId) (hc : a.creditAmount ≠ 0) (hp : completed <+: sagaSteps)
    (hh : chargeLeft w₀ a.buyerId ω h = false) (hw : Owing a completed w) :
    Handler.Always cfg (AsChosen ω) (fun _ => Settled a w₀ ω) X
      (compensate completed a.compensations) h w := by
  refine putBack_settled hc hp hh hw rfl (fun r => by cases r <;> simp [interrupted])
    fun hh hw => ?_
  refine putBack_settled hc hp hh hw rfl (fun r => by cases r <;> simp [interrupted])
    fun hh hw => ?_
  exact restoreBalances_settled ho hne hc hp hh hw

/-- The compensations after these steps do not write this account. -/
def Avoids (a : Saga) (completed : List SagaStep) (u : UserId) : Prop :=
  ∀ c ∈ a.compensations, c.1 ∈ completed → ∀ b, c.2.1 ≠ .patchCredits u b

/-- How the steps of a saga can fail: with what they have moved accounted for, or with a charge
that the compensation knows nothing of. -/
structure Failed (a : Saga) (w₀ : World) (ω : List (Entry Platform) → Env)
    (completed : List SagaStep) (h : List (Entry Platform)) (w : World) : Prop where
  started : completed <+: sagaSteps
  cause : (chargeLeft w₀ a.buyerId ω h = false ∧ Owing a completed w) ∨
    ∃ u v, Astray a u v ∧ Stuck w₀ a.buyerId ω u v h w ∧ Avoids a completed u

theorem rollBack_settled {completed : List SagaStep} {exc : Unhandled}
    {Q : Unit → List (Entry Platform) → World → Prop} (ho : Opening a w₀)
    (hne : a.buyerId ≠ a.sellerId) (hc : a.creditAmount ≠ 0)
    (hf : Failed a w₀ ω completed h w) :
    Handler.Always cfg (AsChosen ω) Q (fun _ => Settled a w₀ ω)
      (do a.rollBack completed; .raise exc : Handler Unit) h w := by
  refine Prog.always_bind.mpr ?_
  rcases hf.cause with ⟨hh,hw⟩ | ⟨u,v,hv,hs,hu⟩
  · refine Prog.always_bind.mpr
      ((compensations_settled ho hne hc hf.started hh hw).mono ?_ fun _ _ _ hx => hx)
    intro errors h' w' hs
    have hcalls : (do
        let _ ← callService (.patchTransfer a.transferId { status := some .failed })
        if errors ≠ [] then
          let _ ← (.call (.publish (.transferCompensationFailed a.transferId a.buyerId a.sellerId
            (completed.map SagaStep.text) errors)) .ret : Handler Bool) :
        Handler Unit).Calls Neutral (fun _ => True) := by
      refine ask_calls ⟨by simp [Call.writes,Http.writes],fun _ _ _ r => by cases r <;> rfl⟩
        fun _ => ?_
      split
      · exact ⟨⟨by simp [Call.writes],fun _ _ _ _ => rfl⟩,fun _ => trivial⟩
      · trivial
    exact (settled_always hcalls hs).mono (fun _ _ _ hJ => hJ) fun _ _ _ hJ => hJ.2
  · have hcalls : (a.rollBack completed).Calls
        (fun q : Call => ∀ b, q ≠ .http (.patchCredits u b)) (fun _ => True) := by
      refine rollBack_calls (fun c hc hmem b heq => ?_) (fun b heq => ?_) (fun m b heq => ?_)
      · exact hu c hc hmem b (Call.http.inj heq)
      · cases heq
      · cases heq
    exact (stuck_always hcalls hs).mono (fun _ _ _ hs => hs.settled hv)
      fun _ _ _ hs => hs.2.settled hv

theorem avoids_buyer {completed : List SagaStep} (hne : a.buyerId ≠ a.sellerId)
    (hno : .buyerDeducted ∉ completed) : Avoids a completed a.buyerId := by
  intro c hc hmem b heq
  simp only [Saga.compensations,List.mem_cons,List.not_mem_nil,or_false] at hc
  rcases hc with rfl | rfl | rfl | rfl | rfl | rfl
  case inr.inr.inl => exact hne.symm (Http.patchCredits.inj heq).1
  case inr.inr.inr.inl => exact hno hmem
  all_goals cases heq

theorem avoids_seller {completed : List SagaStep} (hne : a.buyerId ≠ a.sellerId)
    (hno : .sellerCredited ∉ completed) : Avoids a completed a.sellerId := by
  intro c hc hmem b heq
  simp only [Saga.compensations,List.mem_cons,List.not_mem_nil,or_false] at hc
  rcases hc with rfl | rfl | rfl | rfl | rfl | rfl
  case inr.inr.inl => exact hno hmem
  case inr.inr.inr.inl => exact hne (Http.patchCredits.inj heq).1
  all_goals cases heq

/-- A charge that fails has not been made, or was made by a call that raised. -/
theorem charge_failed {completed : List SagaStep} {u : UserId} {b b₀ : Credits} {e : Env}
    {r : Reply Unit} {w' : World} (he : AsChosen ω h e) (hb₀ : w₀.credits.lookup u = some b₀)
    (hb : w.credits.lookup u = some b₀) (hmoved : b ≠ b₀) (hv : Astray a u b)
    (hstart : completed <+: sagaSteps) (hu : Avoids a completed u)
    (hh : chargeLeft w₀ a.buyerId ω h = false) (hw : Owing a completed w)
    (hp : World.perform cfg e w (.http (.patchCredits u b)) = (r,w')) (hr : ∀ v, r ≠ .ok v) :
    Failed a w₀ ω completed (⟨.http (.patchCredits u b),r⟩ :: h) w' := by
  have hother : w₀.credits.lookup u ≠ some b := by
    rw [hb₀]
    exact fun heq => hmoved (Option.some.inj heq).symm
  refine ⟨hstart,?_⟩
  cases r with
  | ok v => exact absurd rfl (hr v)
  | error code =>
    refine .inl ⟨?_,hw.same (patched_error he.2 hp)⟩
    simp [leavesCharge,hother,hh]
  | raised =>
    obtain ⟨f,hf,hw'⟩ := patched_raised (by simp [hb]) hp
    have hfault : (ω h).fault = some f := by rw [← he.1,hf]
    cases happ : f.applied with
    | true =>
      refine .inr ⟨u,b,hv,⟨?_,?_⟩,hu⟩
      · simp [leavesCharge,hother,hfault,happ]
      · rw [hw',happ,if_pos rfl,AList.lookup_insert]
    | false =>
      rw [happ,if_neg (by decide)] at hw'
      refine .inl ⟨?_,hw.same hw'⟩
      simp [leavesCharge,hother,hfault,happ,hh]

/-- The steps that write no balance. -/
theorem step_other {completed : List SagaStep} {now : Time} {step : SagaStep} {e : Env}
    {r : Reply (a.request now step).Val} {w' : World}
    (hq : isCreditWrite (.http (a.request now step)) = false)
    (hh : chargeLeft w₀ a.buyerId ω h = false) (hw : Owing a completed w)
    (hp : World.perform cfg e w (.http (a.request now step)) = (r,w')) :
    chargeLeft w₀ a.buyerId ω (⟨.http (a.request now step),r⟩ :: h) = false ∧
      Owing a completed w' := by
  constructor
  · rw [chargeLeft_cons,leavesCharge_other hq,request_not_interrupted,hh]
    rfl
  · refine hw.same ((World.frame_of_perform hp).credits ?_)
    cases step with
    | buyerDeducted => cases hq
    | sellerCredited => cases hq
    | _ => simp [Saga.request,Call.writes,Http.writes]

theorem step_failed {completed : List SagaStep} {now : Time} {step : SagaStep} {e : Env}
    {r : Reply (a.request now step).Val} {w' : World} (ho : Opening a w₀)
    (hne : a.buyerId ≠ a.sellerId) (hc : a.creditAmount ≠ 0) (hstart : completed <+: sagaSteps)
    (hnew : step ∉ completed) (hh : chargeLeft w₀ a.buyerId ω h = false) (hw : Owing a completed w)
    (he : AsChosen ω h e)
    (hp : World.perform cfg e w (.http (a.request now step)) = (r,w')) (hr : ∀ v, r ≠ .ok v) :
    Failed a w₀ ω completed (⟨.http (a.request now step),r⟩ :: h) w' := by
  cases step with
  | buyerDeducted =>
    have hmoved : a.buyerBalance-a.creditAmount ≠ a.buyerBalance :=
      fun heq => hc (sub_eq_self.mp heq)
    refine charge_failed he ho.buyer ?_ hmoved (.inl ⟨rfl,hmoved⟩) hstart (avoids_buyer hne hnew) hh
      hw hp hr
    rw [hw.buyer,if_neg hnew]
  | sellerCredited =>
    have hmoved : a.sellerBalance+a.creditAmount ≠ a.sellerBalance :=
      fun heq => hc (add_eq_left.mp heq)
    refine charge_failed he ho.seller ?_ hmoved (.inr ⟨rfl,hmoved⟩) hstart (avoids_seller hne hnew)
      hh hw hp hr
    rw [hw.seller,if_neg hnew]
  | _ => exact ⟨hstart,.inl (step_other rfl hh hw hp)⟩

theorem step_taken {completed : List SagaStep} {now : Time} {step : SagaStep} {e : Env}
    {v : (a.request now step).Val} {w' : World} (hne : a.buyerId ≠ a.sellerId)
    (hh : chargeLeft w₀ a.buyerId ω h = false) (hw : Owing a completed w)
    (hp : World.perform cfg e w (.http (a.request now step)) = (.ok v,w')) :
    chargeLeft w₀ a.buyerId ω (⟨.http (a.request now step),.ok v⟩ :: h) = false ∧
      Owing a (completed ++ [step]) w' := by
  cases step with
  | buyerDeducted =>
    have hw' : w'.credits = _ := patched_ok hp
    refine ⟨by simpa [Saga.request,leavesCharge,interrupted] using hh,?_,?_⟩
    · rw [hw',AList.lookup_insert,if_pos (by simp)]
    · rw [hw',AList.lookup_insert_ne hne.symm,hw.seller]
      simp
  | sellerCredited =>
    have hw' : w'.credits = _ := patched_ok hp
    refine ⟨by simpa [Saga.request,leavesCharge,interrupted] using hh,?_,?_⟩
    · rw [hw',AList.lookup_insert_ne hne,hw.buyer]
      simp
    · rw [hw',AList.lookup_insert,if_pos (by simp)]
  | _ =>
    obtain ⟨hh',hw'⟩ := step_other rfl hh hw hp
    exact ⟨hh',by simpa using hw'.buyer,by simpa using hw'.seller⟩

theorem forward_settled (ho : Opening a w₀) (hne : a.buyerId ≠ a.sellerId)
    (hc : a.creditAmount ≠ 0) (steps completed : List SagaStep)
    (hall : completed ++ steps = sagaSteps) (hh : chargeLeft w₀ a.buyerId ω h = false)
    (hw : Owing a completed w) :
    Handler.Always cfg (AsChosen ω) (fun r h w =>
        (r.1 = none → chargeLeft w₀ a.buyerId ω h = false) ∧
        (r.1 ≠ none → Failed a w₀ ω r.2 h w)) X (a.forward steps completed) h w := by
  induction steps generalizing completed h w with
  | nil => exact ⟨fun _ => hh,fun hno => absurd rfl hno⟩
  | cons step rest ih =>
    have hstart : completed <+: sagaSteps := ⟨step :: rest,hall⟩
    have hnew : step ∉ completed := by
      have hnodup : (completed ++ step :: rest).Nodup := by rw [hall]; decide
      exact fun hmem => (List.nodup_append.mp hnodup).2.2 step hmem step List.mem_cons_self rfl
    refine run_always (J := fun h => chargeLeft w₀ a.buyerId ω h = false) step hh
      (fun t hh => by simpa [leavesCharge,interrupted] using hh) ?_ ?_
    · intro now h' e v w' hh' _ hp
      obtain ⟨hh'',hw'⟩ := step_taken hne hh' hw hp
      exact ih (completed ++ [step]) (by simpa using hall) hh'' hw'
    · intro now h' e r w' exc hh' he hp hr
      exact ⟨by simp,fun _ => step_failed ho hne hc hstart hnew hh' hw he hp hr⟩

/-- A saga that returns has left nothing over, and one that raises has left the balances as they
were if and only if none of these failures happened. -/
theorem executeSaga_settled (ho : Opening a w₀) (hne : a.buyerId ≠ a.sellerId)
    (hc : a.creditAmount ≠ 0) (hh : chargeLeft w₀ a.buyerId ω h = false) (hw : Opening a w) :
    Handler.Always cfg (AsChosen ω) (fun _ h _ => chargeLeft w₀ a.buyerId ω h = false)
      (fun _ => Settled a w₀ ω) (executeSaga a) h w := by
  refine Prog.always_bind.mpr ((forward_settled (X := fun _ _ _ => False) ho hne hc sagaSteps [] rfl
    hh ⟨hw.buyer,hw.seller⟩).mono ?_ fun _ _ _ hf => hf.elim)
  rintro ⟨failure,completed⟩ h' w' ⟨hdone,hfailed⟩
  cases failure with
  | none => exact hdone rfl
  | some exc => exact rollBack_settled ho hne hc (hfailed (by simp))

/-- Where nothing is to be moved, every write of a balance writes what is there. -/
theorem executeSaga_unmoved {E : List (Entry Platform) → Env → Prop} (ho : Opening a w)
    (hc : a.creditAmount = 0) :
    Handler.Always cfg E (fun _ _ => Opening a) (fun _ _ => Opening a) (executeSaga a) h w := by
  have hcalls : (executeSaga a).Calls (fun q : Call => ∀ u b, q = .http (.patchCredits u b) →
      w.credits.lookup u = some b) (fun _ => True) := by
    refine executeSaga_calls ?_ ?_ ?_ ?_
    · rintro q hq u b rfl
      rcases hq with hq | ⟨i,hq⟩
      · cases hq
      · cases hq
    · intro now step u b heq
      cases step <;> cases heq
      · rw [ho.buyer,hc,sub_zero]
      · rw [ho.seller,hc,add_zero]
    · intro c hmem u b heq
      simp only [Saga.compensations,List.mem_cons,List.not_mem_nil,or_false] at hmem
      rcases hmem with rfl | rfl | rfl | rfl | rfl | rfl <;> cases heq
      · exact ho.seller
      · exact ho.buyer
    · intro u b heq
      cases heq
  refine (Prog.Calls.always (J := fun _ w' => ∀ u, w'.credits.lookup u = w.credits.lookup u)
    hcalls ?_ fun _ => rfl).mono ?_ ?_
  · intro q hq h e w' _ hJ u
    by_cases hu : ∃ b, q = .http (.patchCredits u b)
    · obtain ⟨b,rfl⟩ := hu
      have hb := hq u b rfl
      rcases World.perform_patchCredits_cases cfg e w' u b with hp | ⟨-,hp⟩
      · exact (congrArg (fun w => AList.lookup u w.credits) hp).trans (hJ u)
      · refine (congrArg (fun w => AList.lookup u w.credits) hp).trans ?_
        exact (AList.lookup_insert _).trans hb.symm
    · exact (perform_account fun b heq => hu ⟨b,heq⟩).trans (hJ u)
  · exact fun _ _ _ hJ => ⟨(hJ _).trans ho.buyer,(hJ _).trans ho.seller⟩
  · exact fun _ _ _ hJ => ⟨(hJ.2 _).trans ho.buyer,(hJ.2 _).trans ho.seller⟩

end Compensation

end Restored

end Transfer

end TicketRemaster
