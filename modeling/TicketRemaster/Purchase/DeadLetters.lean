import TicketRemaster.Purchase.Atomicity
set_option autoImplicit false

/-! Which purchases that end halfway are published for manual reconciliation: those whose deduction
of the credits reports an error, and no others. -/

namespace TicketRemaster.Purchase

open Resumption SeatInventory

/-- The seat is sold that was not, or there is an active ticket that was not there. -/
def LeftBehind (req : ConfirmRequest) (w w' : World) : Prop :=
  (SeatSold req.inventoryId w' ∧ ¬ SeatSold req.inventoryId w) ∨
    ∃ i t, w'.tickets.lookup i = some t ∧ w.tickets.lookup i = none ∧ t.status = .active

/-- The message about this seat has reached the dead-letter queue. -/
def reported (inventoryId : InventoryId) : Entry Platform → Bool
  | ⟨.publish (.purchaseCompensationFailed _ i _ _),true⟩ => i = inventoryId
  | _ => false

def notPublished : Entry Platform → Bool
  | ⟨.publish _,false⟩ => true
  | _ => false

/-- The failures after the sale that nobody hears of. -/
def unnoticed : Entry Platform → Bool
  | ⟨.http (.createTicket _),.error _⟩ => true
  | ⟨.http (.createTicket _),.raised⟩ => true
  | ⟨.http (.patchCredits _ _),.raised⟩ => true
  | ⟨.http (.createCreditTransaction _),.raised⟩ => true
  | _ => false

/-- A `SellSeat` has raised although it had been carried out. -/
def saleLost (ω : List (Entry Platform) → Env) : List (Entry Platform) → Bool
  | [] => false
  | ⟨.seatRpc _ (.sellSeat _),none⟩ :: h => (ω h).fault.any (·.applied) || saleLost ω h
  | _ :: h => saleLost ω h

abbrev ConfirmRun := Final Platform Unhandled ConfirmResponse World

/-- No purchase that ends halfway is silent about it. -/
def NotSilent (req : ConfirmRequest) (w : World) (f : ConfirmRun) : Prop :=
  (∀ c, f.result ≠ .ok (.data 201 c)) → LeftBehind req w f.state →
    f.past.any (reported req.inventoryId)

/-- The purchase fails before the sale, in the deduction of the credits, or not at all. -/
def InSight (req : ConfirmRequest) (w : World) (ω : List (Entry Platform) → Env)
    (h : List (Entry Platform)) : Prop :=
  ¬ h.any unnoticed ∧
    ¬ ((w.inventory.lookup req.inventoryId).any (holdMatches · req.spend) ∧ saleLost ω h)

section Proofs

variable {cfg : SeatConfig} {req : ConfirmRequest} {ω : List (Entry Platform) → Env} {w₀ w : World}
  {h : List (Entry Platform)} {α : Type}

/-- Where every run has to end, if RabbitMQ can be reached. -/
def Told (req : ConfirmRequest) (w₀ : World) (ω : List (Entry Platform) → Env)
    (result : Except Unhandled ConfirmResponse) (h : List (Entry Platform)) (w : World) : Prop :=
  h.any notPublished = false → (NotSilent req w₀ ⟨result,h,w⟩ ↔ InSight req w₀ ω h)

abbrev Telling (cfg : SeatConfig) (req : ConfirmRequest) (w₀ : World)
    (ω : List (Entry Platform) → Env) (p : Handler ConfirmResponse) (h : List (Entry Platform))
    (w : World) : Prop :=
  Handler.Always cfg (fun h e => e = ω h) (fun r h w => Told req w₀ ω (.ok r) h w)
    (fun x h w => Told req w₀ ω (.error x) h w) p h w

/-- So far nothing has gone wrong that would leave something behind. -/
structure Calm (ω : List (Entry Platform) → Env) (inventoryId : InventoryId)
    (h : List (Entry Platform)) : Prop where
  noticed : h.any unnoticed = false
  sale : saleLost ω h = false
  unreported : h.any (reported inventoryId) = false

theorem Calm.inSight (hh : Calm ω req.inventoryId h) : InSight req w₀ ω h :=
  ⟨by simp [hh.noticed],by simp [hh.sale]⟩

theorem calm_nil (i : InventoryId) : Calm ω i [] := ⟨rfl,rfl,rfl⟩

/-- Entries that say nothing of the kind. -/
def Harmless (i : InventoryId) (x : Entry Platform) : Prop :=
  unnoticed x = false ∧ reported i x = false ∧
    ∀ j spend, x ≠ ⟨.seatRpc j (.sellSeat spend),none⟩

theorem Calm.cons {i : InventoryId} {x : Entry Platform} (hh : Calm ω i h) (hx : Harmless i x) :
    Calm ω i (x :: h) where
  noticed := by rw [List.any_cons,hx.1,hh.noticed]; rfl
  sale := by
    unfold saleLost
    split
    · rfl
    · rename_i j spend h' heq
      exact absurd (List.cons.inj heq).1 (hx.2.2 j spend)
    · rename_i y h' _ heq
      rw [← (List.cons.inj heq).2]
      exact hh.sale
  unreported := by rw [List.any_cons,hx.2.1,hh.unreported]; rfl

/-- A request that is answered leaves the run calm, unless it failed unnoticed. -/
theorem Calm.http {i : InventoryId} {q : Http} {a : Reply q.Val} (hh : Calm ω i h)
    (ha : unnoticed ⟨.http q,a⟩ = false) : Calm ω i (⟨.http q,a⟩ :: h) :=
  hh.cons ⟨ha,rfl,fun _ _ heq => nomatch heq⟩

theorem harmless_checks {x : Entry Platform} (hx : Checks x.1) (i : InventoryId) : Harmless i x := by
  obtain ⟨q,a⟩ := x
  cases q with
  | http q => exact hx.elim
  | publish m => exact hx.elim
  | seatRpc j call =>
    cases call with
    | getSeatStatus => exact ⟨rfl,rfl,fun _ _ heq => nomatch heq⟩
    | _ => exact hx.elim
  | _ => exact ⟨rfl,rfl,fun _ _ heq => nomatch heq⟩

theorem Calm.checked {i : InventoryId} {h' : List (Entry Platform)} (hh : Calm ω i h)
    (hchecks : OnlyChecks h h') : Calm ω i h' := by
  obtain ⟨new,rfl,hnew⟩ := hchecks
  induction new with
  | nil => exact hh
  | cons x new ih =>
    have hrest := ih fun y hy => hnew y (List.mem_cons_of_mem _ hy)
    exact hrest.cons (harmless_checks (hnew x List.mem_cons_self) i)

section Ends

variable {result : Except Unhandled ConfirmResponse}

theorem told_untouched (hun : Untouched req w₀ w) (hin : InSight req w₀ ω h) :
    Told req w₀ ω result h w := by
  refine fun _ => iff_of_true (fun _ hleft => ?_) hin
  rcases hleft with ⟨⟨r,hr,hsold⟩,hunsold⟩ | ⟨i,t,ht,hnew,hactive⟩
  · exact absurd (hun.seat r hr hsold) hunsold
  · exact absurd hactive (hun.tickets i t ht hnew)

theorem told_created {c : Confirmation} (hin : InSight req w₀ ω h) :
    Told req w₀ ω (.ok (.data 201 c)) h w :=
  fun _ => iff_of_true (fun hno _ => absurd rfl (hno c)) hin

theorem told_silent (hno : ∀ c, result ≠ .ok (.data 201 c)) (hs : SeatSold req.inventoryId w)
    (h₀ : ¬ SeatSold req.inventoryId w₀) (hunreported : h.any (reported req.inventoryId) = false)
    (hout : ¬ InSight req w₀ ω h) : Told req w₀ ω result h w := by
  refine fun _ => iff_of_false (fun htold => ?_) hout
  have hreported := htold hno (.inl ⟨hs,h₀⟩)
  rw [hunreported] at hreported
  cases hreported

end Ends

theorem paymentFailed_refused {e : Env} {ticketId : Option TicketId} {v : Ticket} :
    (w.serve e (.updateTicket ticketId { status := some .paymentFailed })).1 ≠ .ok v := by
  simp only [World.serve,World.updateTicket]
  split
  · simp
  · split
    · simp
    · rw [if_pos (by decide)]
      simp

theorem releaseSeat_told {f : Option Bool → Handler α}
    {Q : α → List (Entry Platform) → World → Prop}
    {X : Unhandled → List (Entry Platform) → World → Prop}
    {E : List (Entry Platform) → Env → Prop}
    (hf : ∀ e released a w',
      World.perform cfg e w (.seatRpc req.inventoryId (.releaseSeat req.spend)) = (a,w') →
      Handler.Always cfg E Q X (f released)
        (⟨.seatRpc req.inventoryId (.releaseSeat req.spend),a⟩ :: h) w') :
    Handler.Always cfg E Q X (releaseSeat req >>= f) h w := by
  refine call_always fun e a w' _ hp => ?_
  rcases a with _ | _ | success | _
  · exact hf e none _ w' hp
  · exact hf e none _ w' hp
  · exact hf e (some success) _ w' hp
  · exact hf e none _ w' hp

theorem harmless_release {i j : InventoryId} {spend : SpendHoldRequest} (a : Option SeatReply) :
    Harmless i ⟨.seatRpc j (.releaseSeat spend),a⟩ := ⟨rfl,rfl,fun _ _ heq => nomatch heq⟩

/-- The compensation of a failed deduction is published: marking the ticket never succeeds. -/
theorem compensateDeduction_told (w₀ : World) (ticketId : TicketId)
    (hh : Calm ω req.inventoryId h) :
    Handler.Always cfg (fun h e => e = ω h)
      (fun _ h' _ => InSight req w₀ ω h' ∧
        (h'.any notPublished = false → h'.any (reported req.inventoryId)))
      (fun _ _ _ => False) (compensateDeduction req ticketId) h w := by
  refine Prog.always_bind.mpr ((Prog.Always.mono (Q := fun errors h' _ =>
    errors ≠ [] ∧ Calm ω req.inventoryId h') (X := fun _ _ _ => False) ?_ ?_) fun _ _ _ hx => hx)
  · refine Prog.always_handle.mpr (callService_always ?_ ?_ ?_)
    · intro e v w' _ hp
      exact absurd (congrArg Prod.fst (World.perform_ok hp)) paymentFailed_refused
    · exact fun e code w' _ _ => ⟨List.cons_ne_nil _ _,hh.http rfl⟩
    · exact fun e w' _ _ => ⟨List.cons_ne_nil _ _,hh.http rfl⟩
  · rintro errors h' w' ⟨herrors,hh'⟩
    refine releaseSeat_told fun e released a w'' _ => ?_
    have hreleased : Calm ω req.inventoryId
        (⟨.seatRpc req.inventoryId (.releaseSeat req.spend),a⟩ :: h') :=
      hh'.cons (harmless_release a)
    simp only
    rw [if_neg (by simp [herrors])]
    refine call_always fun e published w''' _ _ => ?_
    refine ⟨⟨?_,?_⟩,?_⟩
    · rw [List.any_cons,hreleased.noticed]
      simp [unnoticed]
    · rintro ⟨-,hlost⟩
      rw [saleLost,hreleased.sale] at hlost
      · cases hlost
      · nofun
    · cases published with
      | true => simp [reported]
      | false => simp [notPublished]

/-- After a failure that nobody hears of the seat stays sold. -/
theorem told_unnoticed {result : Except Unhandled ConfirmResponse} {x : Entry Platform}
    (hh : Calm ω req.inventoryId h) (hno : ∀ c, result ≠ .ok (.data 201 c))
    (hs : SeatSold req.inventoryId w) (h₀ : ¬ SeatSold req.inventoryId w₀)
    (hx : unnoticed x = true) (hreport : reported req.inventoryId x = false) :
    Told req w₀ ω result (x :: h) w := by
  refine told_silent hno hs h₀ ?_ fun hin => hin.1 ?_
  · rw [List.any_cons,hreport,hh.unreported]
    rfl
  · rw [List.any_cons,hx]
    rfl

theorem SeatSold.frame {i : InventoryId} {w' : World} {T : Option TableName}
    (hs : SeatSold i w) (hframe : World.Frame T w w') (hT : T ≠ some .inventory) :
    SeatSold i w' := by
  obtain ⟨r,hr,hsold⟩ := hs
  exact ⟨r,by rw [hframe.inventory hT,hr],hsold⟩

theorem deductCredits_told {eventId : EventId} {event : Event} {balance : Credits}
    {ticketId : TicketId} {ticket : Ticket} (hs : SeatSold req.inventoryId w)
    (h₀ : ¬ SeatSold req.inventoryId w₀) (hh : Calm ω req.inventoryId h) :
    Telling cfg req w₀ ω (deductCredits req eventId event balance ticketId ticket) h w := by
  refine callService_always ?_ ?_ ?_
  · intro e v w' _ hp
    have hs' := hs.frame (World.frame_of_perform hp) (by simp [Call.writes,Http.writes])
    refine callService_always ?_ ?_ ?_
    · exact fun e v w'' _ _ => told_created ((hh.http rfl).http rfl).inSight
    · exact fun e code w'' _ _ => told_created ((hh.http rfl).http rfl).inSight
    · intro e w'' _ hp
      have hs'' := hs'.frame (World.frame_of_perform hp) (by simp [Call.writes,Http.writes])
      exact told_unnoticed (hh.http rfl) (by simp) hs'' h₀ rfl rfl
  · intro e code w' _ _
    refine Prog.always_bind.mpr ((compensateDeduction_told w₀ ticketId (hh.http rfl)).mono ?_
      fun _ _ _ hx => hx.elim)
    rintro _ h' w'' ⟨hin,hreport⟩ hpublished
    exact iff_of_true (fun _ _ => hreport hpublished) hin
  · intro e w' _ hp
    have hs' := hs.frame (World.frame_of_perform hp) (by simp [Call.writes,Http.writes])
    exact told_unnoticed hh (by simp) hs' h₀ rfl rfl

theorem issueTicket_told {eventId : EventId} {event : Event} {balance : Credits}
    (hs : SeatSold req.inventoryId w) (h₀ : ¬ SeatSold req.inventoryId w₀)
    (hh : Calm ω req.inventoryId h) :
    Telling cfg req w₀ ω (issueTicket req eventId event balance) h w := by
  refine callService_always ?_ ?_ ?_
  · intro e v w' _ hp
    have hs' := hs.frame (World.frame_of_perform hp) (by simp [Call.writes,Http.writes])
    exact deductCredits_told hs' h₀ (hh.http rfl)
  · intro e code w' _ hp
    have hs' := hs.frame (World.frame_of_perform hp) (by simp [Call.writes,Http.writes])
    -- the release is refused, as the seat is sold
    refine releaseSeat_told fun e released a w'' hp => ?_
    have hs'' : SeatSold req.inventoryId w'' := by
      have hkept : SeatSold req.inventoryId (World.perform cfg e w'
        (.seatRpc req.inventoryId (.releaseSeat req.spend))).2 :=
        compensating_sold (.inr ⟨_,_,rfl⟩) hs'
      rwa [hp] at hkept
    refine told_silent (by simp) hs'' h₀ ?_ fun hin => hin.1 ?_
    · simp [reported,hh.unreported]
    · simp [unnoticed]
  · intro e w' _ hp
    have hs' := hs.frame (World.frame_of_perform hp) (by simp [Call.writes,Http.writes])
    exact told_unnoticed hh (by simp) hs' h₀ rfl rfl

theorem sellRow_accepts (spend : SpendHoldRequest) (row : Option SeatInventory) :
    (sellRow spend row).1 = row.any (holdMatches · spend) := by
  cases row with
  | none => rfl
  | some r =>
    simp only [sellRow,Option.any_some]
    split <;> simp_all

/-- Until the sale every exit leaves everything as it was. -/
theorem told_checked {result : Except Unhandled ConfirmResponse} (hw : Checked req w₀ w)
    (hh : Calm ω req.inventoryId h) : Told req w₀ ω result h w :=
  told_untouched hw.untouched hh.inSight

/-- A sale that raises has sold the seat if it was carried out and the hold was the buyer's. -/
theorem saleRaised_told {w' : World} (hw : Checked req w₀ w) (hh : Calm ω req.inventoryId h)
    (hrow : w.inventory.lookup req.inventoryId = w₀.inventory.lookup req.inventoryId)
    (hp : World.perform cfg (ω h) w (.seatRpc req.inventoryId (.sellSeat req.spend)) = (none,w')) :
    Told req w₀ ω (.ok inventoryUnavailable)
      (⟨.seatRpc req.inventoryId (.sellSeat req.spend),none⟩ :: h) w' := by
  have hnoticed : (⟨.seatRpc req.inventoryId (.sellSeat req.spend),none⟩ :: h :
      List (Entry Platform)).any unnoticed = false := by
    rw [List.any_cons,hh.noticed]
    rfl
  simp only [World.perform,World.faulty] at hp
  split at hp
  · rename_i f hf
    cases happ : f.applied with
    | false =>
      rw [happ,if_neg (by decide)] at hp
      obtain rfl := (Prod.mk.inj hp).2
      refine told_untouched hw.untouched ⟨by simp [hnoticed],fun hlost => ?_⟩
      simp [saleLost,hf,happ,hh.sale] at hlost
    | true =>
      rw [happ,if_pos rfl] at hp
      obtain rfl := (Prod.mk.inj hp).2
      cases hsale : (sellRow req.spend (w.inventory.lookup req.inventoryId)).1 with
      | false =>
        refine told_untouched (hw.refused hsale).untouched ⟨by simp [hnoticed],fun hlost => ?_⟩
        rw [← hrow,← sellRow_accepts,hsale] at hlost
        cases hlost.1
      | true =>
        obtain ⟨hs,h₀⟩ : SeatSold req.inventoryId
            (w.seatRpc cfg (ω h) req.inventoryId (.sellSeat req.spend)).2 ∧
              ¬ SeatSold req.inventoryId w₀ := hw.sold hsale
        refine told_silent (by simp [inventoryUnavailable]) hs h₀ ?_ fun hin => hin.2 ⟨?_,?_⟩
        · rw [List.any_cons,hh.unreported]
          rfl
        · rw [← hrow,← sellRow_accepts,hsale]
        · simp [saleLost,hf,happ]
  · exact absurd (congrArg Prod.fst hp) (by rw [(World.seatRpc_sellSeat _).1]; simp)

theorem chargeAndSell_told {eventId : EventId} {event : Event} (hw : Checked req w₀ w)
    (hrow : w.inventory.lookup req.inventoryId = w₀.inventory.lookup req.inventoryId)
    (hh : Calm ω req.inventoryId h) :
    Telling cfg req w₀ ω (chargeAndSell req eventId event) h w := by
  refine callService_always ?_ ?_ ?_
  · intro e creditData w' _ hp
    obtain rfl := World.perform_read rfl hp
    have hh' := hh.http (q := .getCredits req.userId) (a := .ok creditData) rfl
    simp only
    split
    · exact told_checked hw hh'
    · refine sellSeat_always (fun e w'' he hp => ?_) fun e _ => ?_
      · subst he
        exact saleRaised_told hw hh' hrow hp
      · have hsold := hh'.cons (x := ⟨.seatRpc req.inventoryId (.sellSeat req.spend),
          some (.spend (sellRow req.spend (w'.inventory.lookup req.inventoryId)).1)⟩)
          ⟨rfl,rfl,fun _ _ heq => nomatch heq⟩
        cases hs : (sellRow req.spend (w'.inventory.lookup req.inventoryId)).1 with
        | false =>
          rw [hs] at hsold
          exact told_checked (hw.refused hs) hsold
        | true =>
          rw [hs] at hsold
          obtain ⟨hseat,h₀⟩ : SeatSold req.inventoryId
              (w'.seatRpc cfg e req.inventoryId (.sellSeat req.spend)).2 ∧
                ¬ SeatSold req.inventoryId w₀ := hw.sold hs
          exact issueTicket_told hseat h₀ hsold
  · intro e code w' _ hp
    obtain rfl := World.perform_read rfl hp
    exact told_checked hw (hh.http rfl)
  · intro e w' _ hp
    obtain rfl := World.perform_read rfl hp
    exact told_checked hw (hh.http rfl)

theorem confirmPurchase_told (cfg : SeatConfig) (req : ConfirmRequest) (w₀ : World)
    (ω : List (Entry Platform) → Env) : Telling cfg req w₀ ω (confirmPurchase req) [] w₀ := by
  unfold confirmPurchase
  cases req.eventId with
  | none => exact told_checked (Checked.refl req w₀) (calm_nil _)
  | some eventId =>
    refine Prog.always_bind.mpr (checkHold_always.mono ?_ fun _ _ _ hf => hf.elim)
    rintro refusal h w ⟨-,hchecks,hw,hrow⟩
    have hh : Calm ω req.inventoryId h := (calm_nil _).checked hchecks
    cases refusal with
    | some r => exact told_checked hw hh
    | none =>
      refine callService_always ?_ ?_ ?_
      · intro e event w' _ hp
        obtain rfl := World.perform_read rfl hp
        exact chargeAndSell_told hw (hrow rfl) (hh.http rfl)
      · intro e code w' _ hp
        obtain rfl := World.perform_read rfl hp
        exact told_checked hw (hh.http rfl)
      · intro e w' _ hp
        obtain rfl := World.perform_read rfl hp
        exact told_checked hw (hh.http rfl)

end Proofs

/-- With RabbitMQ within reach, a purchase that ends halfway is published if and only if its sale
was not carried out in an RPC that raised, and after it neither the ticket's creation fails nor
any other request raises. -/
theorem purchase_told_iff (cfg : SeatConfig) (req : ConfirmRequest) (w : World)
    (ω : List (Entry Platform) → Env)
    (hrabbit : ((confirmPurchase req).exec (World.server cfg Unit) () ω [] w).past.any
      notPublished = false) :
    NotSilent req w ((confirmPurchase req).exec (World.server cfg Unit) () ω [] w) ↔
      InSight req w ω ((confirmPurchase req).exec (World.server cfg Unit) () ω [] w).past := by
  have hends := (confirmPurchase_told cfg req w ω).exec ω fun _ => rfl
  unfold Final.Meets at hends
  split at hends
  · rename_i r hr
    have htold := hends hrabbit
    rwa [← hr] at htold
  · rename_i x hx
    have htold := hends hrabbit
    rwa [← hx] at htold

section FailedTicket

/-- Only credit-service is down, from the sale on. -/
def creditServiceDown : List (Entry Platform) → Env
  | ⟨.http (.createTicket _),_⟩ :: _ =>
      ⟨seconds 10,9,9,true,true,some ⟨false,some "SERVICE_UNAVAILABLE"⟩⟩
  | _ => ⟨seconds 10,9,9,true,true,none⟩

def failedDeductionRun : ConfirmRun :=
  (confirmPurchase heldSeatRequest).exec (World.server ⟨3,3,false⟩ Unit) () creditServiceDown []
    heldSeatWorld

theorem purchase_told_iff_failedDeduction :
    NotSilent heldSeatRequest heldSeatWorld failedDeductionRun ↔
      InSight heldSeatRequest heldSeatWorld creditServiceDown failedDeductionRun.past :=
  purchase_told_iff ⟨3,3,false⟩ heldSeatRequest heldSeatWorld creditServiceDown (by decide +kernel)

example : failedDeductionRun.past.any (reported 1) := by decide +kernel

/-- The seat stays sold without a ticket, and nothing is published. -/
theorem failed_ticket_not_reported :
    failedTicketRun.past.any notPublished = false ∧
      ¬ NotSilent heldSeatRequest heldSeatWorld failedTicketRun := by
  have hres : failedTicketRun.result =
      .ok (.error "INTERNAL_ERROR" "Could not create ticket record." 500) := by decide +kernel
  have hrow : failedTicketRun.state.inventory.lookup 1 = some ⟨1,1,.sold,none,none,none⟩ := by
    decide +kernel
  refine ⟨by decide +kernel,fun htold => ?_⟩
  have hreported := htold (fun c => by rw [hres]; nofun) (.inl ⟨⟨_,hrow,rfl⟩,?_⟩)
  · exact absurd hreported (by decide +kernel)
  · rintro ⟨r,hr,hsold⟩
    cases hr
    cases hsold

end FailedTicket

end TicketRemaster.Purchase
