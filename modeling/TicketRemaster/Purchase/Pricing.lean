import TicketRemaster.Purchase.Atomicity
set_option autoImplicit false

/-! Which event a confirmed purchase pays for. Seat, price and hold are looked up by three
independent parts of the request, and only the hold ties the seat to the buyer. -/

namespace TicketRemaster.Purchase

open Resumption SeatInventory

/-- The ticket is for the event the sold seat belongs to, and that event's price is what it
shows and what the buyer paid. -/
def PricedBySeat (req : ConfirmRequest) (w w' : World) (c : Confirmation) : Prop :=
  ∃ row t event b, w'.inventory.lookup req.inventoryId = some row ∧ row.status = .sold ∧
    w'.tickets.lookup c.ticketId = some t ∧ t.eventId = row.eventId ∧
    w.events.lookup row.eventId = some event ∧ t.price = event.price ∧
    w.credits.lookup req.userId = some b ∧ w'.credits.lookup req.userId = some (b-event.price)

/-- What has been looked up and done when the seat has just been sold. -/
structure Sale (req : ConfirmRequest) (w w' : World) (row : SeatInventory) (eventId : EventId)
    (event : Event) (b : Credits) : Prop where
  requested : req.eventId = some eventId
  known : w.events.lookup eventId = some event
  seat : w.inventory.lookup req.inventoryId = some row
  sold : w'.inventory.lookup req.inventoryId = some (markSold row)
  balance : w.credits.lookup req.userId = some b

/-- What a run that answers 201 has done, whatever went on around it. -/
structure Receipt (req : ConfirmRequest) (w w' : World) (c : Confirmation) (row : SeatInventory)
    (eventId : EventId) (event : Event) (b : Credits) (t : Ticket) : Prop
    extends Sale req w w' row eventId event b where
  ticket : w'.tickets.lookup c.ticketId = some t
  ticketEvent : t.eventId = eventId
  ticketPrice : t.price = event.price
  paid : w'.credits.lookup req.userId = some (b-event.price)

theorem Receipt.logged {req : ConfirmRequest} {w w' w'' : World} {c : Confirmation}
    {row : SeatInventory} {eventId : EventId} {event : Event} {b : Credits} {t : Ticket}
    (hr : Receipt req w w' c row eventId event b t)
    (hf : World.Frame (some .creditTransactions) w' w'') :
    Receipt req w w'' c row eventId event b t where
  requested := hr.requested
  known := hr.known
  seat := hr.seat
  sold := by rw [hf.inventory (by decide)]; exact hr.sold
  balance := hr.balance
  ticket := by rw [hf.tickets (by decide)]; exact hr.ticket
  ticketEvent := hr.ticketEvent
  ticketPrice := hr.ticketPrice
  paid := by rw [hf.credits (by decide)]; exact hr.paid

theorem Receipt.priced_iff {req : ConfirmRequest} {w w' : World} {c : Confirmation}
    {row : SeatInventory} {eventId : EventId} {event : Event} {b : Credits} {t : Ticket}
    (hr : Receipt req w w' c row eventId event b t) :
    PricedBySeat req w w' c ↔ eventId = row.eventId := by
  constructor
  · rintro ⟨row',t',event',b',hrow,-,ht,hte,-⟩
    obtain rfl := Option.some.inj (hr.sold.symm.trans hrow)
    obtain rfl := Option.some.inj (hr.ticket.symm.trans ht)
    exact hr.ticketEvent.symm.trans hte
  · rintro rfl
    exact ⟨markSold row,t,event,b,hr.sold,rfl,hr.ticket,hr.ticketEvent,hr.known,hr.ticketPrice,
      hr.balance,hr.paid⟩

section Proofs

variable {cfg : SeatConfig} {req : ConfirmRequest} {w w₀ : World} {h : List (Entry Platform)}

def anyEnv (_ : List (Entry Platform)) (_ : Env) : Prop := True

/-- A run that answers 201 leaves a receipt. -/
def Receipted (req : ConfirmRequest) (w₀ : World) (r : ConfirmResponse) (w : World) : Prop :=
  ∀ c, r = .data 201 c → ∃ row eventId event b t, Receipt req w₀ w c row eventId event b t

abbrev LeavesReceipt (cfg : SeatConfig) (req : ConfirmRequest) (w₀ : World)
    (p : Handler ConfirmResponse) (h : List (Entry Platform)) (w : World) : Prop :=
  Handler.Always cfg anyEnv (fun r _ w => Receipted req w₀ r w) (fun _ _ _ => True) p h w

theorem receipted_error {r : ConfirmResponse} (hr : IsError r) : Receipted req w₀ r w := by
  rintro c rfl
  exact hr.elim

/-- A part of the handler that ends in an error answer leaves none. -/
theorem leaves_error {α : Type} {p : Handler α} {r : ConfirmResponse} (hr : IsError r) :
    LeavesReceipt cfg req w₀ (do let _ ← p; pure r) h w :=
  Prog.always_bind.mpr ((Prog.always_true p).mono (fun _ _ _ _ => receipted_error hr)
    (fun _ _ _ _ => trivial))

theorem receipted_logged {c : Confirmation} {row : SeatInventory} {eventId : EventId}
    {event : Event} {b : Credits} {t : Ticket} {w' : World}
    (hr : Receipt req w₀ w c row eventId event b t)
    (hf : World.Frame (some .creditTransactions) w w') : Receipted req w₀ (.data 201 c) w' := by
  rintro c' hc
  cases hc
  exact ⟨row,eventId,event,b,t,hr.logged hf⟩

theorem deductCredits_receipted {row : SeatInventory} {eventId : EventId} {event : Event}
    {b : Credits} {ticketId : TicketId} {t : Ticket} (hs : Sale req w₀ w row eventId event b)
    (ht : w.tickets.lookup ticketId = some t) (hte : t.eventId = eventId)
    (htp : t.price = event.price) :
    LeavesReceipt cfg req w₀ (deductCredits req eventId event b ticketId t) h w := by
  refine callService_always ?_ ?_ (fun _ _ _ _ => trivial)
  · intro e v w' he hp
    obtain ⟨-,rfl⟩ := World.serve_patchCredits_ok (World.perform_ok hp)
    have hr : Receipt req w₀
        { w with credits := w.credits.insert req.userId (b-event.price) }
        ⟨ticketId,eventId,event.venueId,req.inventoryId,event.price,.active,t.createdAt⟩ row
        eventId event b t :=
      ⟨⟨hs.requested,hs.known,hs.seat,hs.sold,hs.balance⟩,ht,hte,htp,AList.lookup_insert _⟩
    refine callService_always ?_ ?_ (fun _ _ _ _ => trivial)
    · exact fun e a w' _ hp => receipted_logged hr (World.frame_of_perform hp)
    · exact fun e code w' _ hp => receipted_logged hr (World.frame_of_perform hp)
  · intro e code w' he hp
    exact leaves_error trivial

theorem issueTicket_receipted {row : SeatInventory} {eventId : EventId} {event : Event}
    {b : Credits} (hs : Sale req w₀ w row eventId event b) :
    LeavesReceipt cfg req w₀ (issueTicket req eventId event b) h w := by
  refine callService_always ?_ ?_ (fun _ _ _ _ => trivial)
  · intro e v w' he hp
    obtain ⟨hv,-,rfl⟩ := World.serve_createTicket_ok (World.perform_ok hp)
    obtain ⟨ticketId,t⟩ := v
    obtain ⟨-,rfl⟩ := Prod.mk.inj hv
    exact deductCredits_receipted ⟨hs.requested,hs.known,hs.seat,hs.sold,hs.balance⟩
      (AList.lookup_insert _) rfl rfl
  · intro e code w' he hp
    exact leaves_error trivial

theorem chargeAndSell_receipted {eventId : EventId} {event : Event} (hw : Checked req w₀ w)
    (hreq : req.eventId = some eventId) (hevent : w₀.events.lookup eventId = some event) :
    LeavesReceipt cfg req w₀ (chargeAndSell req eventId event) h w := by
  refine callService_always ?_ (fun _ _ _ _ _ => receipted_error trivial) (fun _ _ _ _ => trivial)
  intro e d w' he hp
  obtain ⟨rfl,b,hb,rfl⟩ := World.serve_getCredits_ok (World.perform_ok hp)
  simp only
  split
  · exact receipted_error trivial
  · refine sellSeat_always (fun _ _ _ _ => receipted_error trivial) (fun e he => ?_)
    cases hrow : w'.inventory.lookup req.inventoryId with
    | none => exact receipted_error trivial
    | some row =>
      by_cases hm : holdMatches row req.spend
      · -- a hold that is still there after the check was there before it
        have hseat : w₀.inventory.lookup req.inventoryId = some row := by
          rcases hw.seat row hrow with ha | hsame
          · rw [holdMatches_held hm] at ha; cases ha
          · exact hsame
        simp only [sellRow,hm,if_true]
        refine issueTicket_receipted ⟨hreq,hevent,hseat,?_,?_⟩
        · rw [(World.seatRpc_sellSeat req.spend).2,hrow]
          simp [sellRow,hm]
        · exact hw.frame.credits (by decide) ▸ hb
      · simp only [sellRow,hm]
        exact receipted_error trivial

theorem confirmPurchase_receipted (cfg : SeatConfig) (req : ConfirmRequest) (w₀ : World) :
    LeavesReceipt cfg req w₀ (confirmPurchase req) [] w₀ := by
  unfold confirmPurchase
  cases hreq : req.eventId with
  | none => exact receipted_error trivial
  | some eventId =>
    refine Prog.always_bind.mpr (checkHold_always.mono ?_ (fun _ _ _ hf => hf.elim))
    rintro refusal h w ⟨hr,-,hw,-⟩
    cases refusal with
    | some r => exact receipted_error (hr r rfl)
    | none =>
      refine callService_always ?_ (fun _ _ _ _ _ => receipted_error trivial)
        (fun _ _ _ _ => trivial)
      intro e event w' he hp
      obtain ⟨rfl,hevent⟩ := World.serve_getEvent_ok (World.perform_ok hp)
      exact chargeAndSell_receipted hw hreq (hw.frame.events ▸ hevent)

end Proofs

/-- A run that answers 201 charges the price of the seat's own event if and only if the
request named that event. -/
theorem purchase_price_iff (cfg : SeatConfig) (req : ConfirmRequest) (w : World)
    (ω : List (Entry Platform) → Env) (c : Confirmation)
    (h201 : ((confirmPurchase req).exec (World.server cfg Unit) () ω [] w).result =
      .ok (.data 201 c)) :
    PricedBySeat req w ((confirmPurchase req).exec (World.server cfg Unit) () ω [] w).state c ↔
      ∃ row, w.inventory.lookup req.inventoryId = some row ∧ req.eventId = some row.eventId := by
  have hends := (confirmPurchase_receipted cfg req w).exec ω
    (fun _ => trivial)
  unfold Final.Meets at hends
  rw [h201] at hends
  obtain ⟨row,eventId,event,b,t,hr⟩ := hends c rfl
  rw [hr.priced_iff]
  constructor
  · rintro rfl
    exact ⟨row,hr.seat,hr.requested⟩
  · rintro ⟨row',hrow,hreq⟩
    obtain rfl := Option.some.inj (hr.seat.symm.trans hrow)
    exact Option.some.inj (hr.requested.symm.trans hreq)

section CheaperEvent

/-- The seat of the dear event 1 is bought at the price of the cheap event 2. -/
def twoEventsWorld : World :=
  { heldSeatWorld with
    events := (AList.singleton 1 ⟨1,"Concert",0,"",30⟩).insert 2 ⟨1,"Rehearsal",0,"",1⟩ }

def cheaperRequest : ConfirmRequest := ⟨7,1,some 2,.uuid 5⟩

def healthyAt (_ : List (Entry Platform)) : Env := ⟨seconds 10,9,9,true,true,none⟩

def cheaperRun : Final Platform Unhandled ConfirmResponse World :=
  (confirmPurchase cheaperRequest).exec (World.server ⟨3,3,false⟩ Unit) () healthyAt []
    twoEventsWorld

theorem purchase_price_iff_cheaper :
    PricedBySeat cheaperRequest twoEventsWorld cheaperRun.state ⟨9,2,1,1,1,.active,seconds 10⟩ ↔
      ∃ row, twoEventsWorld.inventory.lookup 1 = some row ∧ some 2 = some row.eventId :=
  purchase_price_iff ⟨3,3,false⟩ cheaperRequest twoEventsWorld healthyAt _ (by decide +kernel)

theorem cheaper_event_sells_seat :
    cheaperRun.result = .ok (.data 201 ⟨9,2,1,1,1,.active,seconds 10⟩) ∧
      ¬ PricedBySeat cheaperRequest twoEventsWorld cheaperRun.state
        ⟨9,2,1,1,1,.active,seconds 10⟩ := by
  refine ⟨by decide +kernel,?_⟩
  rintro ⟨row,t,event,b,hrow,-,ht,hte,-⟩
  have hrow' : cheaperRun.state.inventory.lookup 1 = some ⟨1,1,.sold,none,none,none⟩ := by
    decide +kernel
  have ht' : (cheaperRun.state.tickets.lookup 9).map (·.eventId) = some 2 := by decide +kernel
  obtain rfl := Option.some.inj (hrow'.symm.trans hrow)
  rw [ht] at ht'
  exact absurd (hte.symm.trans (Option.some.inj ht')) (by decide)

end CheaperEvent

end TicketRemaster.Purchase
