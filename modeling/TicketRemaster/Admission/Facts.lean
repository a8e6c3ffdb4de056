import TicketRemaster.Purchase.OneTicket
set_option autoImplicit false

/-! What a handler has been told of tickets, events and seats, and stays true whatever anybody does:
where a ticket is for, where an event is, that a seat is sold. -/

namespace TicketRemaster.Admission

open Resumption SeatInventory Purchase

/-- The tickets are for the same seat of the same event. -/
structure SamePlace (t t' : Ticket) : Prop where
  inventory : t'.inventoryId = t.inventoryId
  venue : t'.venueId = t.venueId
  event : t'.eventId = t.eventId

/-- The ticket exists, for the place that `t` is for. -/
def Placed (w : World) (i : TicketId) (t : Ticket) : Prop :=
  ∃ t', w.tickets.lookup i = some t' ∧ SamePlace t t'

/-- What is said of the seat is so, but that it may have been sold since. -/
def SeatAsTold (w : World) (eventId : EventId) (item : InventoryItem) : Prop :=
  ∃ r, w.inventory.lookup item.inventoryId = some r ∧ r.eventId = eventId ∧
    r.seatId = item.seatId ∧ (item.status = .sold → r.status = .sold)

def Told (w : World) : Entry Platform → Prop
  | ⟨.http (.createTicket data),.ok (i,_)⟩ => ∃ t, w.tickets.lookup i = some t ∧
      t.inventoryId = data.inventoryId ∧ t.venueId = data.venueId ∧ t.eventId = data.eventId
  | ⟨.http (.getTicket i),.ok t⟩ => Placed w i t
  | ⟨.http (.getTicketByQrHash _),.ok (i,t)⟩ => Placed w i t
  | ⟨.http (.getEvent eventId),.ok event⟩ => w.events.lookup eventId = some event
  | ⟨.http (.listInventoryByEvent eventId),.ok items⟩ => ∀ item ∈ items, SeatAsTold w eventId item
  | _ => True

section Calls

variable {cfg : SeatConfig} {e : Env} {w : World}

theorem samePlace_patch (p : TicketPatch) (t : Ticket) : SamePlace t (World.patchTicket p t) :=
  ⟨rfl,rfl,rfl⟩

theorem SamePlace.trans {t₁ t₂ t₃ : Ticket} (h : SamePlace t₁ t₂) (h' : SamePlace t₂ t₃) :
    SamePlace t₁ t₃ :=
  ⟨h'.inventory.trans h.inventory,h'.venue.trans h.venue,h'.event.trans h.event⟩

/-- No call takes a ticket to another place. -/
theorem perform_placed (q : Call) {i : TicketId} {t : Ticket}
    (ht : w.tickets.lookup i = some t) :
    ∃ t', (World.perform cfg e w q).2.tickets.lookup i = some t' ∧ SamePlace t t' := by
  have hsame : ∃ t', w.tickets.lookup i = some t' ∧ SamePlace t t' := ⟨t,ht,rfl,rfl,rfl⟩
  by_cases hw : q.writes = some .tickets
  · cases q with
    | http q =>
      rcases World.perform_http_cases cfg e w q with hkeep | hserve
      · rwa [hkeep]
      · rw [hserve]
        cases q with
        | createTicket data =>
          rcases World.serve_createTicket_cases (w := w) e data with hkeep | ⟨hnew,hw'⟩
          · rwa [hkeep]
          · have hother : i ≠ e.uuid := by
              rintro rfl
              cases hnew.symm.trans ht
            rw [hw']
            exact ⟨t,(AList.lookup_insert_ne hother).trans ht,rfl,rfl,rfl⟩
        | updateTicket j p =>
          rcases World.serve_updateTicket_cases (w := w) e j p with hkeep | ⟨k,t₀,-,hk,hw'⟩
          · rwa [hkeep]
          · rw [hw']
            by_cases hi : i = k
            · subst hi
              obtain rfl := Option.some.inj (hk.symm.trans ht)
              exact ⟨_,AList.lookup_insert _,samePlace_patch p t₀⟩
            · exact ⟨t,(AList.lookup_insert_ne hi).trans ht,rfl,rfl,rfl⟩
        | _ => cases hw
    | _ => cases hw
  · rwa [(World.perform_frame q).tickets hw]

/-- The seat of an inventory row, and the event it is for. -/
def seatOf (w : World) (k : InventoryId) : Option (EventId × SeatId) :=
  (w.inventory.lookup k).map fun r => (r.eventId,r.seatId)

theorem seatRpc_seatOf (cfg : SeatConfig) (e : Env) (w : World) (j k : InventoryId)
    (call : SeatCall) : seatOf (w.seatRpc cfg e j call).2 k = seatOf w k := by
  unfold seatOf
  by_cases hk : k = j
  · subst hk
    cases call with
    | holdSeat req =>
      rcases World.seatRpc_holdSeat cfg e w k req with hsame | ⟨r,hr,-,hafter⟩
      · rw [hsame]
      · rw [hafter,hr]
        rfl
    | releaseSeat req =>
      rcases World.seatRpc_releaseSeat cfg e w k req with hsame | ⟨r,hr,-,hafter⟩
      · rw [hsame]
      · rw [hafter,hr]
        rfl
    | sellSeat req =>
      rw [(World.seatRpc_sellSeat req).2]
      cases w.inventory.lookup k with
      | none => rfl
      | some r =>
        rw [sellRow]
        split <;> rfl
    | getSeatStatus =>
      rw [World.seatRpc_getSeatStatus.2]
      cases w.inventory.lookup k with
      | none => rfl
      | some r =>
        rw [queryRow]
        split <;> rfl
  · rw [World.seatRpc_inventory_ne _ _ _ _ _ hk]

/-- No call makes an inventory row one of another seat, or of another event. -/
theorem perform_seatOf (q : Call) (k : InventoryId) :
    seatOf (World.perform cfg e w q).2 k = seatOf w k := by
  by_cases hw : q.writes = some .inventory
  · cases q with
    | seatRpc j call =>
      simp only [World.perform,World.faulty]
      split
      · split
        · exact seatRpc_seatOf cfg e w j k call
        · rfl
      · exact seatRpc_seatOf cfg e w j k call
    | http q => cases q <;> cases hw
    | _ => cases hw
  · rw [seatOf,(World.perform_frame q).inventory hw]
    rfl

theorem SeatAsTold.perform {eventId : EventId} {item : InventoryItem}
    (h : SeatAsTold w eventId item) (q : Call) :
    SeatAsTold (World.perform cfg e w q).2 eventId item := by
  obtain ⟨r,hr,hevent,hseat,hsold⟩ := h
  have hsame : seatOf (World.perform cfg e w q).2 item.inventoryId = some (r.eventId,r.seatId) := by
    rw [perform_seatOf,seatOf,hr]
    rfl
  obtain ⟨r',hr',hpair⟩ := Option.map_eq_some_iff.mp hsame
  obtain ⟨hevent',hseat'⟩ := Prod.mk.inj hpair
  refine ⟨r',hr',hevent'.trans hevent,hseat'.trans hseat,fun hs => ?_⟩
  obtain rfl := Option.some.inj ((perform_sold q hr (hsold hs)).symm.trans hr')
  exact hsold hs

/-- Whatever anybody does, what has been told stays true. -/
theorem Told.stays {x : Entry Platform} (h : Told w x) (q : Call) :
    Told (World.perform cfg e w q).2 x := by
  unfold Told at h ⊢
  split at h
  · obtain ⟨t,ht,hplace⟩ := h
    obtain ⟨t',ht',hsame⟩ := perform_placed q ht
    exact ⟨t',ht',hsame.inventory.trans hplace.1,hsame.venue.trans hplace.2.1,
      hsame.event.trans hplace.2.2⟩
  · obtain ⟨t,ht,hplace⟩ := h
    obtain ⟨t',ht',hsame⟩ := perform_placed q ht
    exact ⟨t',ht',hplace.trans hsame⟩
  · obtain ⟨t,ht,hplace⟩ := h
    obtain ⟨t',ht',hsame⟩ := perform_placed q ht
    exact ⟨t',ht',hplace.trans hsame⟩
  · rwa [(World.perform_frame q).events]
  · exact fun item hitem => (h item hitem).perform q
  · trivial

theorem placed_of_lookup {i : TicketId} {t : Ticket} (h : w.tickets.lookup i = some t) :
    Placed w i t := ⟨t,h,rfl,rfl,rfl⟩

/-- The rows of an event's inventory are as `GET /inventory/event/<event_id>` lists them. -/
theorem seatAsTold_listed {eventId : EventId} {item : InventoryItem} {items : List InventoryItem}
    (h : (w.listInventoryByEvent eventId).1 = .ok items) (hitem : item ∈ items) :
    SeatAsTold w eventId item := by
  simp only [World.listInventoryByEvent,Except.ok.injEq] at h
  subst h
  obtain ⟨entry,hmem,rfl⟩ := List.mem_map.mp hitem
  obtain ⟨hrow,hevent⟩ := List.mem_filter.mp hmem
  exact ⟨entry.2,AList.mem_lookup_iff.mpr hrow,of_decide_eq_true hevent,rfl,id⟩

/-- What an answer tells is so. -/
theorem told_answer (q : Call) :
    Told (World.perform cfg e w q).2 ⟨q,(World.perform cfg e w q).1⟩ := by
  generalize hp : World.perform cfg e w q = r
  obtain ⟨a,w'⟩ := r
  simp only
  unfold Told
  split
  · rename_i data i v heq
    cases heq
    obtain ⟨hv,-,rfl⟩ := World.serve_createTicket_ok (World.perform_ok hp)
    cases hv
    exact ⟨_,AList.lookup_insert _,rfl,rfl,rfl⟩
  · rename_i i t heq
    cases heq
    have hs := World.perform_ok hp
    simp only [World.serve,World.getTicket,World.found] at hs
    split at hs
    · rename_i row hrow
      cases hs
      exact placed_of_lookup hrow
    · cases hs
  · rename_i hash i t heq
    cases heq
    have hs := World.perform_ok hp
    simp only [World.serve,World.getTicketByQrHash,World.found] at hs
    split at hs
    · rename_i row hfind
      cases hs
      exact placed_of_lookup (Table.findRow_lookup hfind)
    · cases hs
  · rename_i eventId event heq
    cases heq
    obtain ⟨rfl,hevent⟩ := World.serve_getEvent_ok (World.perform_ok hp)
    exact hevent
  · rename_i eventId items heq
    cases heq
    have hs := World.perform_ok hp
    have hw : w' = w := congrArg Prod.snd hs.symm
    subst hw
    exact fun item hitem => seatAsTold_listed (congrArg Prod.fst hs) hitem
  · trivial

end Calls

/-- In every run of any handlers, all that they have been told is so. -/
theorem reach_told {ι α : Type} [DecidableEq ι] {cfg : SeatConfig}
    {C : World → (ι → List (Entry Platform)) → ι → Env → Call → Prop} {w₀ : World}
    {p : ι → Handler α} {c : Config ι Platform Unhandled α World}
    (h : Config.Reach (World.server cfg ι) C (.start w₀ p) c) :
    ∀ i, ∀ x ∈ c.past i, Told c.shared x :=
  Config.reach_told (fun _ _ _ q => told_answer q) (fun _ _ _ q _ hx => hx.stays q)
    (fun _ _ hx => (by cases hx)) h

end TicketRemaster.Admission
