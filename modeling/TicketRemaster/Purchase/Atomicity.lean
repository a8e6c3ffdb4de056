import TicketRemaster.Purchase.Confirm
import TicketRemaster.Services.Rules
set_option autoImplicit false

/-! When a purchase is all or nothing: exactly when neither of its compensation branches is
entered, since a sold seat is never released and no ticket is ever marked as unpaid. -/

namespace TicketRemaster.Purchase

open Resumption SeatInventory

/-- What a confirmed purchase leaves behind. -/
structure Bought (req : ConfirmRequest) (w w' : World) (c : Confirmation) : Prop where
  seat : ∃ r, w'.inventory.lookup req.inventoryId = some r ∧ r.status = .sold
  ticket : ∃ t, w'.tickets.lookup c.ticketId = some t ∧ t.inventoryId = req.inventoryId ∧
    t.ownerId = req.userId ∧ t.status = .active ∧ t.price = c.price
  new : w.tickets.lookup c.ticketId = none
  only : ∀ i, i ≠ c.ticketId → w'.tickets.lookup i = w.tickets.lookup i
  charged : ∃ b, w.credits.lookup req.userId = some b ∧
    w'.credits.lookup req.userId = some (b-c.price)

/-- What any other answer has to leave behind. -/
structure Untouched (req : ConfirmRequest) (w w' : World) : Prop where
  seat : ∀ r', w'.inventory.lookup req.inventoryId = some r' → r'.status = .sold →
    ∃ r, w.inventory.lookup req.inventoryId = some r ∧ r.status = .sold
  tickets : ∀ i t, w'.tickets.lookup i = some t → w.tickets.lookup i = none → t.status ≠ .active
  balance : w'.credits.lookup req.userId = w.credits.lookup req.userId

def AllOrNothing (req : ConfirmRequest) (w w' : World) (result : Except Unhandled ConfirmResponse) :
    Prop :=
  (∃ c, result = .ok (.data 201 c) ∧ Bought req w w' c) ∨
    ((∀ c, result ≠ .ok (.data 201 c)) ∧ Untouched req w w')

/-- The two calls after the sale whose errors the handler compensates for. -/
def needsCompensation : Entry Platform → Bool
  | ⟨.http (.createTicket _),.error _⟩ => true
  | ⟨.http (.patchCredits _ _),.error _⟩ => true
  | _ => false

/-- Every outcome is definite, and once there is something to compensate all calls succeed. -/
def DefiniteOutcomes (h : List (Entry Platform)) (e : Env) : Prop :=
  e.Definite ∧ (h.any needsCompensation → e.fault = none)

theorem quiet_cons {entry : Entry Platform} {h : List (Entry Platform)}
    (he : needsCompensation entry = false) (hh : ¬ h.any needsCompensation) :
    ¬ (entry :: h).any needsCompensation := by
  rwa [List.any_cons,he,Bool.false_or]

theorem loud_cons {entry : Entry Platform} {h : List (Entry Platform)}
    (he : needsCompensation entry = true) : (entry :: h).any needsCompensation := by
  rw [List.any_cons,he,Bool.true_or]

theorem definiteOutcomes_definite (h : List (Entry Platform)) (e : Env)
    (he : DefiniteOutcomes h e) : e.Definite := he.1

section Proofs

variable {cfg : SeatConfig} {req : ConfirmRequest} {w : World} {h : List (Entry Platform)}

/-- The check of the hold at most frees the seat. -/
structure Checked (req : ConfirmRequest) (w w' : World) : Prop where
  frame : World.Frame (some .inventory) w w'
  seat : ∀ r, w'.inventory.lookup req.inventoryId = some r →
    r.status = .available ∨ w.inventory.lookup req.inventoryId = some r

theorem Checked.refl (req : ConfirmRequest) (w : World) : Checked req w w :=
  ⟨.refl _ w,fun _ hr => .inr hr⟩

theorem Checked.untouched {w' : World} (hw : Checked req w w') : Untouched req w w' where
  seat r' hr hs := by
    rcases hw.seat r' hr with ha | hsame
    · rw [ha] at hs; cases hs
    · exact ⟨r',hsame,hs⟩
  tickets i t ht hn := by
    rw [hw.frame.tickets (by decide),hn] at ht
    cases ht
  balance := by rw [hw.frame.credits (by decide)]

def IsError {δ : Type} : Response δ → Prop
  | .error _ _ _ => True
  | .data _ _ => False

section Calls

variable {β : Type} {E : List (Entry Platform) → Env → Prop}
  {Q : β → List (Entry Platform) → World → Prop}
  {X : Unhandled → List (Entry Platform) → World → Prop}

theorem getCachedHold_always {inventoryId : InventoryId} {f : Option CachedHold → Handler β}
    (hf : ∀ cached,
      Handler.Always cfg E Q X (f cached) (⟨.getHoldCache inventoryId,cached⟩ :: h) w) :
    Handler.Always cfg E Q X (getCachedHold inventoryId >>= f) h w := fun _ _ => hf _

/-- A remote call fails, or gives the reply of its procedure. -/
theorem getSeatStatus_always {inventoryId : InventoryId}
    {f : Option GetSeatStatusResponse → Handler β}
    (hfail : ∀ e w', E h e →
      World.perform cfg e w (.seatRpc inventoryId .getSeatStatus) = (none,w') →
      Handler.Always cfg E Q X (f none) (⟨.seatRpc inventoryId .getSeatStatus,none⟩ :: h) w')
    (hok : ∀ e, E h e →
      Handler.Always cfg E Q X (f (some (queryRow e.time (w.inventory.lookup inventoryId)).1))
        (⟨.seatRpc inventoryId .getSeatStatus,
          some (.status (queryRow e.time (w.inventory.lookup inventoryId)).1)⟩ :: h)
        (w.seatRpc cfg e inventoryId .getSeatStatus).2) :
    Handler.Always cfg E Q X (getSeatStatus inventoryId >>= f) h w := by
  refine call_always fun e a w' he hp => ?_
  rcases rpc_cases hp with rfl | hrun
  · exact hfail e w' he hp
  · have ha : a = some (.status (queryRow e.time (w.inventory.lookup inventoryId)).1) := by
      rw [← World.seatRpc_getSeatStatus.1,hrun]
    have hw : w' = (w.seatRpc cfg e inventoryId .getSeatStatus).2 := by rw [hrun]
    subst ha hw
    exact hok e he

theorem sellSeat_always {f : Option Bool → Handler β}
    (hfail : ∀ e w', E h e →
      World.perform cfg e w (.seatRpc req.inventoryId (.sellSeat req.spend)) = (none,w') →
      Handler.Always cfg E Q X (f none)
        (⟨.seatRpc req.inventoryId (.sellSeat req.spend),none⟩ :: h) w')
    (hok : ∀ e, E h e →
      Handler.Always cfg E Q X (f (some (sellRow req.spend (w.inventory.lookup req.inventoryId)).1))
        (⟨.seatRpc req.inventoryId (.sellSeat req.spend),
          some (.spend (sellRow req.spend (w.inventory.lookup req.inventoryId)).1)⟩ :: h)
        (w.seatRpc cfg e req.inventoryId (.sellSeat req.spend)).2) :
    Handler.Always cfg E Q X (sellSeat req >>= f) h w := by
  refine call_always fun e a w' he hp => ?_
  rcases rpc_cases hp with rfl | hrun
  · exact hfail e w' he hp
  · have ha : a = some (.spend (sellRow req.spend (w.inventory.lookup req.inventoryId)).1) := by
      rw [← (World.seatRpc_sellSeat req.spend).1,hrun]
    have hw : w' = (w.seatRpc cfg e req.inventoryId (.sellSeat req.spend)).2 := by rw [hrun]
    subst ha hw
    exact hok e he

end Calls

/-- The calls that the check of the hold makes. -/
def Checks : Call → Prop
  | .getHoldCache _ | .seatRpc _ .getSeatStatus | .now => True
  | _ => False

/-- The history has grown by such calls only. -/
def OnlyChecks (h h' : List (Entry Platform)) : Prop :=
  ∃ new, h' = new ++ h ∧ ∀ x ∈ new, Checks x.1

theorem OnlyChecks.refl (h : List (Entry Platform)) : OnlyChecks h h := ⟨[],rfl,by simp⟩

theorem OnlyChecks.cons {h h' : List (Entry Platform)} {x : Entry Platform}
    (hh : OnlyChecks (x :: h) h') (hx : Checks x.1) : OnlyChecks h h' := by
  obtain ⟨new,rfl,hnew⟩ := hh
  refine ⟨new ++ [x],by simp,fun y hy => ?_⟩
  rcases List.mem_append.mp hy with hy | hy
  · exact hnew y hy
  · rw [List.mem_singleton.mp hy]
    exact hx

theorem OnlyChecks.any {h h' : List (Entry Platform)} (hh : OnlyChecks h h')
    {p : Entry Platform → Bool} (hp : ∀ x, Checks x.1 → p x = false) : h'.any p = h.any p := by
  obtain ⟨new,rfl,hnew⟩ := hh
  have hnone : new.any p = false := by
    simp only [List.any_eq_false]
    exact fun x hx => by simp [hp x (hnew x hx)]
  rw [List.any_append,hnone,Bool.false_or]

theorem needsCompensation_checks (x : Entry Platform) (hx : Checks x.1) :
    needsCompensation x = false := by
  obtain ⟨q,a⟩ := x
  cases q with
  | http q => exact hx.elim
  | _ => rfl

/-- Only a hold passes. -/
theorem validateHoldState_always {E : List (Entry Platform) → Env → Prop} (status : SeatStatus)
    (heldUntil : HeldUntilText) :
    Handler.Always cfg E (fun refusal h' w' => (∀ r ∈ refusal, IsError r) ∧
      OnlyChecks h h' ∧ w' = w ∧ (refusal = none → status = .held)) (fun _ _ _ => False)
      (validateHoldState status heldUntil) h w := by
  unfold validateHoldState
  split
  · refine ⟨?_,.refl h,rfl,nofun⟩
    split <;> simp [IsError,seatUnavailable]
  · rename_i hheld
    have hheld : status = .held := not_not.mp hheld
    cases heldUntil with
    | «at» t =>
      refine datetimeNow_always fun e _ => ?_
      have hnow : OnlyChecks h (⟨.now,e.time⟩ :: h) := (OnlyChecks.refl _).cons trivial
      split <;> exact ⟨by simp [IsError],hnow,rfl,fun _ => hheld⟩
    | empty => exact ⟨by simp,.refl h,rfl,fun _ => hheld⟩
    | unparsable => exact ⟨by simp,.refl h,rfl,fun _ => hheld⟩

theorem checked_seatRpc {e : Env} :
    Checked req w (w.seatRpc cfg e req.inventoryId .getSeatStatus).2 where
  frame := by constructor <;> simp [World.seatRpc,World.setSeatDb]
  seat r hr := by
    rw [World.seatRpc_getSeatStatus.2] at hr
    unfold queryRow at hr
    split at hr
    · rename_i r' hrow
      split at hr
      · cases hr; exact .inl rfl
      · exact .inr (hrow.trans hr)
    · cases hr

/-- A row that is reported as held is left as it is. -/
theorem queryRow_held {now : Time} {row : Option SeatInventory}
    (h : (queryRow now row).1.status = .held) : (queryRow now row).2 = row := by
  cases row with
  | none => cases h
  | some r =>
    by_cases hexp : holdHasExpired r now
    · simp only [queryRow,hexp,if_true] at h
      cases h
    · simp [queryRow,hexp]

/-- All that the check did was to free the seat, and not even that if it passes. -/
theorem checkHold_always {E : List (Entry Platform) → Env → Prop} :
    Handler.Always cfg E (fun refusal h' w' => (∀ r ∈ refusal, IsError r) ∧
      OnlyChecks h h' ∧ Checked req w w' ∧ (refusal = none →
        w'.inventory.lookup req.inventoryId = w.inventory.lookup req.inventoryId))
      (fun _ _ _ => False) (checkHold req) h w := by
  refine getCachedHold_always fun cached => ?_
  have hcached : ∀ {h'}, OnlyChecks (⟨.getHoldCache req.inventoryId,cached⟩ :: h) h' →
      OnlyChecks h h' := fun hh => hh.cons trivial
  cases cached with
  | some hold =>
    simp only
    split
    · exact ⟨by simp [IsError,seatUnavailable],hcached (.refl _),.refl req w,fun _ => rfl⟩
    · split
      · exact ⟨by simp [IsError,seatUnavailable],hcached (.refl _),.refl req w,fun _ => rfl⟩
      · refine (validateHoldState_always _ _).mono ?_ (fun _ _ _ hf => hf)
        rintro refusal h' _ ⟨hr,hh,rfl,-⟩
        exact ⟨hr,hcached hh,.refl req _,fun _ => rfl⟩
  | none =>
    refine getSeatStatus_always (fun e w' he hp => ?_) (fun e _ => ?_)
    · refine ⟨by simp [IsError,inventoryUnavailable],
        hcached ((OnlyChecks.refl _).cons trivial),?_,nofun⟩
      obtain rfl := congrArg Prod.snd hp
      simp only [World.perform,World.faulty]
      split
      · split
        · exact checked_seatRpc
        · exact .refl req w
      · exact checked_seatRpc
    · refine (validateHoldState_always _ _).mono ?_ (fun _ _ _ hf => hf)
      rintro refusal h' _ ⟨hr,hh,rfl,hheld⟩
      refine ⟨hr,hcached (hh.cons trivial),checked_seatRpc,fun hn => ?_⟩
      rw [World.seatRpc_getSeatStatus.2]
      exact queryRow_held (hheld hn)

/-- The calls of the compensation branches. -/
def Compensating (q : Call) : Prop :=
  q.writes ≠ some .inventory ∨ ∃ i spend, q = .seatRpc i (.releaseSeat spend)

def SeatSold (inventoryId : InventoryId) (w : World) : Prop :=
  ∃ r, w.inventory.lookup inventoryId = some r ∧ r.status = .sold

theorem releaseSeat_sold {e : Env} {i j : InventoryId} {spend : SpendHoldRequest}
    (hs : SeatSold i w) : SeatSold i (w.seatRpc cfg e j (.releaseSeat spend)).2 := by
  obtain ⟨r,hr,hsold⟩ := hs
  by_cases hij : i = j
  · subst hij
    rcases World.seatRpc_releaseSeat cfg e w i spend with hsame | ⟨r',hr',hm,-⟩
    · exact ⟨r,hsame.trans hr,hsold⟩
    · obtain rfl : r' = r := Option.some.inj (hr'.symm.trans hr)
      rw [holdMatches_held hm] at hsold
      cases hsold
  · exact ⟨r,(World.seatRpc_inventory_ne cfg e w j _ hij).trans hr,hsold⟩

/-- No compensation takes the seat back: a release refuses a seat that is sold. -/
theorem compensating_sold {e : Env} {i : InventoryId} {q : Call} (hq : Compensating q)
    (hs : SeatSold i w) : SeatSold i (World.perform cfg e w q).2 := by
  rcases hq with hq | ⟨j,spend,rfl⟩
  · obtain ⟨r,hr,hsold⟩ := hs
    exact ⟨r,by rw [(World.perform_frame q).inventory hq,hr],hsold⟩
  · simp only [World.perform,World.faulty]
    split
    · split
      · exact releaseSeat_sold hs
      · exact hs
    · exact releaseSeat_sold hs

theorem releaseSeat_calls : (releaseSeat req).Calls Compensating (fun _ => False) := by
  refine ⟨.inr ⟨_,_,rfl⟩,fun a => ?_⟩
  simp only
  split <;> trivial

theorem compensateDeduction_calls (ticketId : TicketId) :
    (compensateDeduction req ticketId).Calls Compensating (fun _ => False) := by
  refine Prog.calls_bind ?_ (fun patched => Prog.calls_bind releaseSeat_calls fun released => ?_)
  · refine Prog.calls_handle (Prog.calls_bind (callService_calls (R := fun _ => True)
      (.inl (by simp [Call.writes,Http.writes])) trivial) fun a => ?_) (fun _ _ => trivial)
    cases a <;> trivial
  · simp only
    generalize patched ++ (if released.isNone then _ else _) = errors
    split
    · trivial
    · exact ⟨.inl (by simp [Call.writes]),fun _ => trivial⟩

/-- Where every run of a handler has to end: all or nothing, unless it had to compensate. -/
def Verdict (req : ConfirmRequest) (w : World) (result : Except Unhandled ConfirmResponse)
    (h : List (Entry Platform)) (w' : World) : Prop :=
  AllOrNothing req w w' result ↔ ¬ h.any needsCompensation

abbrev Ends (cfg : SeatConfig) (req : ConfirmRequest) (w₀ : World) (p : Handler ConfirmResponse)
    (h : List (Entry Platform)) (w : World) : Prop :=
  Handler.Always cfg DefiniteOutcomes (fun r h w => Verdict req w₀ (.ok r) h w)
    (fun x h w => Verdict req w₀ (.error x) h w) p h w

/-- After a compensation the seat is still sold, although the answer is an error. -/
theorem verdict_compensated {w₀ : World} {r : ConfirmResponse} (hr : IsError r)
    (hs : SeatSold req.inventoryId w) (h₀ : ¬ SeatSold req.inventoryId w₀)
    (hc : h.any needsCompensation) : Verdict req w₀ (.ok r) h w := by
  refine iff_of_false ?_ (not_not_intro hc)
  rintro (⟨c,hres,-⟩ | ⟨-,hun⟩)
  · cases hres; exact hr
  · obtain ⟨row,hrow,hsold⟩ := hs
    exact h₀ (hun.seat row hrow hsold)

/-- An error answer that touched nothing is fine. -/
theorem verdict_untouched {w₀ : World} {r : ConfirmResponse} (hr : IsError r)
    (hun : Untouched req w₀ w) (hc : ¬ h.any needsCompensation) : Verdict req w₀ (.ok r) h w := by
  refine iff_of_true (.inr ⟨?_,hun⟩) hc
  rintro c hres
  cases hres
  exact hr

/-- A branch that compensates ends with the seat sold. -/
theorem ends_compensating {w₀ : World} {α : Type} {p : Handler α} {r : ConfirmResponse}
    (hp : p.Calls Compensating (fun _ => False)) (hr : IsError r)
    (hs : SeatSold req.inventoryId w) (h₀ : ¬ SeatSold req.inventoryId w₀)
    (hc : h.any needsCompensation) : Ends cfg req w₀ (do let _ ← p; pure r) h w := by
  have hkept : Handler.Always cfg DefiniteOutcomes
      (fun _ h w => SeatSold req.inventoryId w ∧ h.any needsCompensation)
      (fun _ h w => False ∧ SeatSold req.inventoryId w ∧ h.any needsCompensation) p h w := by
    refine Prog.Calls.always
      (J := fun h w => SeatSold req.inventoryId w ∧ h.any needsCompensation) hp ?_ ⟨hs,hc⟩
    intro q hq h e w he hJ
    exact ⟨compensating_sold hq hJ.1,by rw [List.any_cons,hJ.2,Bool.or_true]⟩
  refine Prog.always_bind.mpr (hkept.mono ?_ (fun _ _ _ hf => hf.1.elim))
  intro _ h w hJ
  exact verdict_compensated hr hJ.1 h₀ hJ.2

/-- Where the run stands once the ticket has been created. -/
structure Issued (req : ConfirmRequest) (w₀ w : World) (balance price : Credits)
    (ticketId : TicketId) (t : Ticket) : Prop where
  sold : SeatSold req.inventoryId w
  unsold : ¬ SeatSold req.inventoryId w₀
  row : w.tickets.lookup ticketId = some t
  ticket : t.inventoryId = req.inventoryId ∧ t.ownerId = req.userId ∧ t.status = .active ∧
    t.price = price
  new : w₀.tickets.lookup ticketId = none
  only : ∀ i, i ≠ ticketId → w.tickets.lookup i = w₀.tickets.lookup i
  balance : w₀.credits.lookup req.userId = some balance

theorem Issued.bought {w₀ : World} {balance : Credits} {event : Event} {eventId : EventId}
    {ticketId : TicketId} {t : Ticket} (hi : Issued req w₀ w balance event.price ticketId t) :
    Bought req w₀ { w with credits := w.credits.insert req.userId (balance-event.price) }
      ⟨ticketId,eventId,event.venueId,req.inventoryId,event.price,.active,t.createdAt⟩ where
  seat := hi.sold
  ticket := ⟨t,hi.row,hi.ticket⟩
  new := hi.new
  only := hi.only
  charged := ⟨balance,hi.balance,AList.lookup_insert _⟩

/-- The log of the transaction has no say in it. -/
theorem Bought.logged {w₀ w' : World} {c : Confirmation} (hb : Bought req w₀ w c)
    (hf : World.Frame (some .creditTransactions) w w') : Bought req w₀ w' c where
  seat := by rw [hf.inventory (by decide)]; exact hb.seat
  ticket := by rw [hf.tickets (by decide)]; exact hb.ticket
  new := hb.new
  only := by rw [hf.tickets (by decide)]; exact hb.only
  charged := by rw [hf.credits (by decide)]; exact hb.charged

theorem verdict_bought {w₀ : World} {c : Confirmation} (hb : Bought req w₀ w c)
    (hh : ¬ h.any needsCompensation) : Verdict req w₀ (.ok (.data 201 c)) h w :=
  iff_of_true (.inl ⟨c,rfl,hb⟩) hh

theorem deductCredits_ends {w₀ : World} {eventId : EventId} {event : Event} {balance : Credits}
    {ticketId : TicketId} {t : Ticket} (hi : Issued req w₀ w balance event.price ticketId t)
    (hh : ¬ h.any needsCompensation) :
    Ends cfg req w₀ (deductCredits req eventId event balance ticketId t) h w := by
  refine callService_definite definiteOutcomes_definite (by simp [Http.writes]) ?_ ?_
  · intro e v w' he hserve
    obtain ⟨-,rfl⟩ := World.serve_patchCredits_ok hserve
    refine callService_definite definiteOutcomes_definite (by simp [Http.writes]) ?_ ?_
    · intro e v w' he hserve
      have hframe := World.serve_frame e
        { w with credits := w.credits.insert req.userId (balance-event.price) }
        (.createCreditTransaction ⟨req.userId,-event.price,.ticketPurchase,some (.ticket ticketId)⟩)
      rw [hserve] at hframe
      exact verdict_bought (hi.bought.logged hframe) (quiet_cons rfl hh)
    · intro code
      exact verdict_bought hi.bought (quiet_cons rfl hh)
  · intro code
    refine ends_compensating (compensateDeduction_calls ticketId) trivial hi.sold hi.unsold ?_
    exact loud_cons rfl

theorem issueTicket_ends {w₀ : World} {eventId : EventId} {event : Event} {balance : Credits}
    (hs : SeatSold req.inventoryId w) (h₀ : ¬ SeatSold req.inventoryId w₀)
    (ht : w.tickets = w₀.tickets) (hb : w₀.credits.lookup req.userId = some balance)
    (hh : ¬ h.any needsCompensation) :
    Ends cfg req w₀ (issueTicket req eventId event balance) h w := by
  refine callService_definite definiteOutcomes_definite (by simp [Http.writes]) ?_ ?_
  · intro e v w' he hserve
    obtain ⟨hv,hnew,rfl⟩ := World.serve_createTicket_ok hserve
    obtain ⟨ticketId,t⟩ := v
    obtain ⟨-,rfl⟩ := Prod.mk.inj hv
    refine deductCredits_ends ⟨hs,h₀,AList.lookup_insert _,⟨rfl,rfl,rfl,rfl⟩,ht ▸ hnew,?_,hb⟩ ?_
    · exact fun i hi => (AList.lookup_insert_ne hi).trans (by rw [ht])
    · exact quiet_cons rfl hh
  · intro code
    refine ends_compensating releaseSeat_calls trivial hs h₀ ?_
    exact loud_cons rfl

/-- A refused sale leaves the row as it was. -/
theorem Checked.refused {w₀ : World} {e : Env} (hw : Checked req w₀ w)
    (hs : (sellRow req.spend (w.inventory.lookup req.inventoryId)).1 = false) :
    Checked req w₀ (w.seatRpc cfg e req.inventoryId (.sellSeat req.spend)).2 where
  frame := by
    have hf : World.Frame (some .inventory) w
        (w.seatRpc cfg e req.inventoryId (.sellSeat req.spend)).2 := by
      constructor <;> simp [World.seatRpc,World.setSeatDb]
    exact hw.frame.trans hf
  seat r hr := by
    rw [(World.seatRpc_sellSeat req.spend).2] at hr
    refine hw.seat r ?_
    unfold sellRow at hs hr
    split at hr
    · split at hr
      · simp_all
      · simp_all
    · cases hr

/-- An accepted sale sells a seat that was held from the start. -/
theorem Checked.sold {w₀ : World} {e : Env} (hw : Checked req w₀ w)
    (hs : (sellRow req.spend (w.inventory.lookup req.inventoryId)).1 = true) :
    SeatSold req.inventoryId (w.seatRpc cfg e req.inventoryId (.sellSeat req.spend)).2 ∧
      ¬ SeatSold req.inventoryId w₀ := by
  cases hrow : w.inventory.lookup req.inventoryId with
  | none => simp [hrow,sellRow] at hs
  | some r =>
    by_cases hm : holdMatches r req.spend
    · refine ⟨⟨markSold r,?_,rfl⟩,?_⟩
      · rw [(World.seatRpc_sellSeat req.spend).2,hrow]
        simp [sellRow,hm]
      · rintro ⟨r₀,hr₀,hsold⟩
        have hheld := holdMatches_held hm
        rcases hw.seat r hrow with ha | hsame
        · rw [hheld] at ha; cases ha
        · obtain rfl : r = r₀ := Option.some.inj (hsame.symm.trans hr₀)
          rw [hheld] at hsold; cases hsold
    · simp [hrow,sellRow,hm] at hs

theorem chargeAndSell_ends {w₀ : World} {eventId : EventId} {event : Event}
    (hw : Checked req w₀ w) (hh : ¬ h.any needsCompensation) :
    Ends cfg req w₀ (chargeAndSell req eventId event) h w := by
  refine callService_definite definiteOutcomes_definite (by simp [Http.writes]) ?_ ?_
  · intro e d w' he hserve
    obtain ⟨rfl,b,hb,rfl⟩ := World.serve_getCredits_ok hserve
    have hb₀ : w₀.credits.lookup req.userId = some b := by rw [← hw.frame.credits (by decide),hb]
    have hh' : ¬ (⟨.http (.getCredits req.userId),.ok ⟨some b,none,none⟩⟩ :: h :
        List (Entry Platform)).any needsCompensation := quiet_cons rfl hh
    simp only
    split
    · exact verdict_untouched trivial hw.untouched hh'
    · refine sellSeat_always (fun e w'' he hp => ?_) (fun e he => ?_)
      · obtain rfl := rpc_definite he.1 hp (by rw [(World.seatRpc_sellSeat _).1]; simp)
        exact verdict_untouched trivial hw.untouched (quiet_cons rfl hh)
      · cases hs : (sellRow req.spend (w'.inventory.lookup req.inventoryId)).1 with
        | false =>
          exact verdict_untouched trivial (hw.refused hs).untouched
            (quiet_cons rfl hh)
        | true =>
          obtain ⟨hsold,h₀⟩ := hw.sold hs
          refine issueTicket_ends hsold h₀ ?_ hb₀ (quiet_cons rfl hh)
          exact hw.frame.tickets (by decide)
  · intro code
    exact verdict_untouched trivial hw.untouched (quiet_cons rfl hh)

theorem confirmPurchase_ends (cfg : SeatConfig) (req : ConfirmRequest) (w₀ : World) :
    Ends cfg req w₀ (confirmPurchase req) [] w₀ := by
  unfold confirmPurchase
  cases req.eventId with
  | none => exact verdict_untouched trivial (Checked.refl req w₀).untouched (by simp)
  | some eventId =>
    refine Prog.always_bind.mpr (checkHold_always.mono ?_ (fun _ _ _ hf => hf.elim))
    rintro refusal h w ⟨hr,hh,hw,-⟩
    have hh : ¬ h.any needsCompensation := by simp [hh.any needsCompensation_checks]
    cases refusal with
    | some r => exact verdict_untouched (hr r rfl) hw.untouched hh
    | none =>
      refine callService_definite definiteOutcomes_definite (by simp [Http.writes]) ?_ ?_
      · intro e event w' he hserve
        obtain ⟨rfl,hevent⟩ := World.serve_getEvent_ok hserve
        exact chargeAndSell_ends hw (quiet_cons rfl hh)
      · intro code
        exact verdict_untouched trivial hw.untouched (quiet_cons rfl hh)

end Proofs

/-- With definite outcomes and healthy compensations, a run is all or nothing if and only if
neither the ticket's creation nor the deduction of the credits reports an error. -/
theorem purchase_all_or_nothing_iff (cfg : SeatConfig) (req : ConfirmRequest) (w : World)
    (ω : List (Entry Platform) → Env) (hω : ∀ h, DefiniteOutcomes h (ω h)) :
    AllOrNothing req w ((confirmPurchase req).exec (World.server cfg Unit) () ω [] w).state
        ((confirmPurchase req).exec (World.server cfg Unit) () ω [] w).result ↔
      ¬ ((confirmPurchase req).exec (World.server cfg Unit) () ω [] w).past.any
        needsCompensation := by
  have hends := (confirmPurchase_ends cfg req w).exec ω hω
  unfold Final.Meets at hends
  split at hends
  · rename_i r hr; rw [hr]; exact hends
  · rename_i x hx; rw [hx]; exact hends

section FailedTicket

/-- One held seat of an event that costs 30, and a buyer with 100 credits. -/
def heldSeatWorld : World where
  users := ∅
  events := AList.singleton 1 ⟨1,"Concert",0,"",30⟩
  venues := ∅
  seats := ∅
  inventory := AList.singleton 1 ⟨1,1,.held,some 7,some (.uuid 5),some (seconds 300)⟩
  holdCache := ∅
  released := ∅
  tickets := ∅
  ticketLogs := []
  listings := ∅
  transfers := ∅
  credits := AList.singleton 7 100
  creditTransactions := []
  paymentIntents := ∅
  scanLocks := ∅

def heldSeatRequest : ConfirmRequest := ⟨7,1,some 1,.uuid 5⟩

/-- Everything is healthy, except that ticket-service refuses the ticket. -/
def ticketServiceDown (h : List (Entry Platform)) : Env where
  time := seconds 10
  uuid := 9
  hex := 9
  redisUp := true
  otpVerified := true
  fault :=
    if h.any needsCompensation then none
    else match h with
      | ⟨.seatRpc _ (.sellSeat _),_⟩ :: _ => some ⟨false,some "SERVICE_UNAVAILABLE"⟩
      | _ => none

theorem ticketServiceDown_definite (h : List (Entry Platform)) :
    DefiniteOutcomes h (ticketServiceDown h) := by
  refine ⟨fun f hf => ?_,fun hc => by simp [ticketServiceDown,hc]⟩
  simp only [ticketServiceDown] at hf
  split at hf
  · cases hf
  · split at hf
    · cases hf; exact ⟨rfl,rfl⟩
    · cases hf

def failedTicketRun : Final Platform Unhandled ConfirmResponse World :=
  (confirmPurchase heldSeatRequest).exec (World.server ⟨3,3,false⟩ Unit) () ticketServiceDown []
    heldSeatWorld

theorem purchase_all_or_nothing_iff_failedTicket :
    AllOrNothing heldSeatRequest heldSeatWorld failedTicketRun.state failedTicketRun.result ↔
      ¬ failedTicketRun.past.any needsCompensation :=
  purchase_all_or_nothing_iff ⟨3,3,false⟩ heldSeatRequest heldSeatWorld ticketServiceDown
    ticketServiceDown_definite

/-- The seat was held before the run and is sold after it, without a ticket. -/
theorem failed_ticket_leaves_seat_sold :
    ¬ AllOrNothing heldSeatRequest heldSeatWorld failedTicketRun.state failedTicketRun.result := by
  have hres : failedTicketRun.result =
      .ok (.error "INTERNAL_ERROR" "Could not create ticket record." 500) := by decide +kernel
  have hrow : (failedTicketRun.state.inventory.lookup 1) =
      some ⟨1,1,.sold,none,none,none⟩ := by decide +kernel
  rintro (⟨c,hc,-⟩ | ⟨-,hun⟩)
  · rw [hres] at hc; cases hc
  · obtain ⟨r,hr,hsold⟩ := hun.seat _ hrow rfl
    cases hr
    cases hsold

end FailedTicket

end TicketRemaster.Purchase
