import TicketRemaster.Purchase.Atomicity
import TicketRemaster.Purchase.Holds
set_option autoImplicit false

/-! At most one ticket per seat: a purchase creates a ticket only after its own sale of the seat,
and a seat is sold once. -/

namespace TicketRemaster.Purchase

open Resumption SeatInventory

def isCreateTicket : Entry Platform → Bool
  | ⟨.http (.createTicket _),_⟩ => true
  | _ => false

/-- The run was told that the hold of this user on the seat has been sold. -/
def SoldTo (inventoryId : InventoryId) (userId : UserId) (h : List (Entry Platform)) : Prop :=
  ∃ token, (⟨.seatRpc inventoryId (.sellSeat ⟨userId,token⟩),some (.spend true)⟩ :
    Entry Platform) ∈ h

/-- A run creates at most one ticket, for a seat and a user it has made a sale for, and gives no
ticket to somebody else. -/
def TicketBySale (h : List (Entry Platform)) : Call → Prop
  | .http (.createTicket data) =>
      SoldTo data.inventoryId data.ownerId h ∧ h.any isCreateTicket = false
  | .http (.updateTicket _ p) => p.ownerId = none
  | _ => True

/-- A call that creates no ticket and gives none away. -/
def Ticketless : Call → Prop
  | .http (.createTicket _) => False
  | .http (.updateTicket _ p) => p.ownerId = none
  | _ => True

section Discipline

variable {α β : Type} {h : List (Entry Platform)}

abbrev BySale (p : Handler α) (h : List (Entry Platform))
    (fin : α → List (Entry Platform) → Prop) : Prop :=
  p.Follows TicketBySale (fun _ _ _ => True) fin (fun _ _ => True) h

theorem Ticketless.bySale {q : Call} (hq : Ticketless q) : TicketBySale h q := by
  cases q with
  | http q =>
    cases q with
    | createTicket data => exact hq.elim
    | updateTicket ticketId p => exact hq
    | _ => trivial
  | _ => trivial

/-- No ticket has been created yet in this run. -/
def NoTicketYet (h : List (Entry Platform)) : Prop := h.any isCreateTicket = false

theorem Ticketless.noTicketYet {q : Call} (hq : Ticketless q) (a : q.Ans) (hh : NoTicketYet h) :
    NoTicketYet (⟨q,a⟩ :: h) := by
  have hentry : isCreateTicket ⟨q,a⟩ = false := by
    cases q with
    | http q =>
      cases q with
      | createTicket data => exact hq.elim
      | _ => rfl
    | _ => rfl
  simp only [NoTicketYet,List.any_cons,hentry,Bool.false_or]
  exact hh

theorem ticketless_bySale {p : Handler α} (hp : p.Calls Ticketless (fun _ => True)) :
    BySale p h (fun _ _ => True) :=
  (hp.follows (J := fun _ => True) (fun _ _ hq _ => hq.bySale) (fun _ _ _ _ _ => trivial)
    trivial).mono (fun _ _ _ => trivial) (fun _ _ _ => trivial)

theorem ticketless_first {p : Handler β} {f : β → Handler α}
    {fin : α → List (Entry Platform) → Prop} (hp : p.Calls Ticketless (fun _ => True))
    (hh : NoTicketYet h) (hf : ∀ b h', NoTicketYet h' → BySale (f b) h' fin) :
    BySale (p >>= f) h fin := by
  refine Prog.follows_bind.mpr ((hp.follows (J := NoTicketYet) (fun _ _ hq _ => hq.bySale)
    (fun _ _ a hq hJ => hq.noTicketYet a hJ) hh).mono (fun b h' hJ => hf b h' hJ) ?_)
  exact fun _ _ _ => trivial

theorem validateHoldState_ticketless (status : SeatStatus) (heldUntil : HeldUntilText) :
    (validateHoldState status heldUntil).Calls Ticketless (fun _ => True) := by
  unfold validateHoldState
  refine Prog.calls_ite trivial ?_
  cases heldUntil with
  | «at» t =>
    exact Prog.calls_bind ⟨trivial,fun _ => trivial⟩ fun _ => Prog.calls_ite trivial trivial
  | _ => trivial

theorem seatRpc_ticketless {inventoryId : InventoryId} {call : SeatCall}
    {k : Option SeatReply → Handler α} (hk : ∀ reply, (k reply).Calls Ticketless (fun _ => True)) :
    (Prog.call (.seatRpc inventoryId call) k : Handler α).Calls Ticketless (fun _ => True) :=
  ⟨trivial,hk⟩

theorem getSeatStatus_ticketless (inventoryId : InventoryId) :
    (getSeatStatus inventoryId).Calls Ticketless (fun _ => True) :=
  seatRpc_ticketless fun reply => by split <;> trivial

theorem checkHold_ticketless (req : ConfirmRequest) :
    (checkHold req).Calls Ticketless (fun _ => True) := by
  refine Prog.calls_bind ⟨trivial,fun _ => trivial⟩ fun cached => ?_
  cases cached with
  | some cachedHold =>
    refine Prog.calls_ite trivial (Prog.calls_ite trivial ?_)
    exact validateHoldState_ticketless _ _
  | none =>
    refine Prog.calls_bind (getSeatStatus_ticketless _) fun seatStatus => ?_
    cases seatStatus with
    | none => trivial
    | some seatStatus => exact validateHoldState_ticketless _ _

theorem releaseSeat_ticketless (req : ConfirmRequest) :
    (releaseSeat req).Calls Ticketless (fun _ => True) :=
  seatRpc_ticketless fun reply => by split <;> trivial

theorem compensateDeduction_ticketless (req : ConfirmRequest) (ticketId : TicketId) :
    (compensateDeduction req ticketId).Calls Ticketless (fun _ => True) := by
  refine Prog.calls_bind (Prog.calls_handle (S := fun _ => True) ?_ fun _ _ => trivial) fun _ => ?_
  · refine ask_calls rfl fun patched => ?_
    cases patched <;> trivial
  · refine Prog.calls_bind (releaseSeat_ticketless req) fun released => ?_
    exact Prog.calls_ite trivial ⟨trivial,fun _ => trivial⟩

theorem deductCredits_ticketless (req : ConfirmRequest) (eventId : EventId) (event : Event)
    (balance : Credits) (ticketId : TicketId) (ticket : Ticket) :
    (deductCredits req eventId event balance ticketId ticket).Calls Ticketless (fun _ => True) := by
  refine ask_calls trivial fun patched => ?_
  cases patched with
  | error code => exact Prog.calls_bind (compensateDeduction_ticketless _ _) fun _ => trivial
  | ok _ => exact ask_calls trivial fun _ => trivial

/-- The ticket of a sale that was reported to this run. -/
theorem issueTicket_bySale (req : ConfirmRequest) (eventId : EventId) (event : Event)
    (balance : Credits) (hsold : SoldTo req.inventoryId req.userId h) (hh : NoTicketYet h) :
    BySale (issueTicket req eventId event balance) h (fun _ _ => True) := by
  refine Prog.follows_bind.mpr ⟨⟨hsold,hh⟩,fun a _ => ?_⟩
  cases a with
  | ok v => exact ticketless_bySale (deductCredits_ticketless _ _ _ _ _ _)
  | error code => exact ticketless_bySale (Prog.calls_bind (releaseSeat_ticketless req)
      fun _ => trivial)
  | raised => trivial

theorem chargeAndSell_bySale (req : ConfirmRequest) (eventId : EventId) (event : Event)
    (hh : NoTicketYet h) : BySale (chargeAndSell req eventId event) h (fun _ _ => True) := by
  refine ticketless_first (callService_calls trivial trivial) hh fun credits h hh => ?_
  cases credits with
  | error code => trivial
  | ok creditData =>
    simp only
    split
    · trivial
    · refine Prog.follows_bind.mpr ⟨trivial,fun reply _ => ?_⟩
      have hlater : NoTicketYet (⟨.seatRpc req.inventoryId (.sellSeat req.spend),reply⟩ :: h) :=
        Ticketless.noTicketYet (q := .seatRpc _ _) trivial reply hh
      match reply with
      | some (.spend true) =>
        exact issueTicket_bySale req eventId event _ ⟨req.holdToken,List.mem_cons_self⟩ hlater
      | some (.spend false) => trivial
      | some (.hold _) => trivial
      | some (.status _) => trivial
      | none => trivial

theorem confirmPurchase_bySale (req : ConfirmRequest) :
    BySale (confirmPurchase req) [] (fun _ _ => True) := by
  unfold confirmPurchase
  cases req.eventId with
  | none => trivial
  | some eventId =>
    refine ticketless_first (checkHold_ticketless req) rfl fun refusal h hh => ?_
    cases refusal with
    | some refusal => trivial
    | none =>
      refine ticketless_first (callService_calls trivial trivial) hh fun event h hh => ?_
      cases event with
      | error code => trivial
      | ok event => exact chargeAndSell_bySale req eventId event hh

theorem requestRelease_ticketless (inventoryId : InventoryId) (userId : UserId)
    (holdToken : HoldToken) :
    (requestRelease inventoryId userId holdToken).Calls Ticketless (fun _ => True) :=
  seatRpc_ticketless fun reply => by split <;> trivial

theorem publishAttempts_ticketless (m : Message) (n : Nat) :
    (publishAttempts m n).Calls Ticketless (fun _ => True) := by
  induction n with
  | zero => trivial
  | succ n ih =>
    refine Prog.calls_bind ⟨trivial,fun _ => trivial⟩ fun published => ?_
    exact Prog.calls_ite trivial ih

theorem holdSeat_ticketless (holdSeconds : Int) (userId : UserId) (inventoryId : InventoryId) :
    (holdSeat holdSeconds userId inventoryId).Calls Ticketless (fun _ => True) := by
  refine Prog.calls_bind (seatRpc_ticketless fun reply => by split <;> trivial) fun resp => ?_
  cases resp with
  | none => trivial
  | some resp =>
    refine Prog.calls_ite ?_ trivial
    exact Prog.calls_bind (publishAttempts_ticketless _ _) fun _ => trivial

theorem releaseHold_ticketless (userId : UserId) (inventoryId : InventoryId)
    (holdToken : HoldToken) :
    (releaseHold userId inventoryId holdToken).Calls Ticketless (fun _ => True) := by
  refine Prog.calls_bind (requestRelease_ticketless _ _ _) fun released => ?_
  match released with
  | none => trivial
  | some false => trivial
  | some true => trivial

theorem onExpired_ticketless (inventoryId : InventoryId) (userId : UserId)
    (holdToken : HoldToken) :
    (onExpired inventoryId userId holdToken).Calls Ticketless (fun _ => True) := by
  refine Prog.calls_bind (requestRelease_ticketless _ _ _) fun released => ?_
  cases released <;> trivial

theorem handler_bySale (holdSeconds : Int) (r : Request) :
    BySale (r.handler holdSeconds) [] (fun _ _ => True) := by
  cases r with
  | holdSeat userId inventoryId =>
    exact Prog.follows_map.mpr (ticketless_bySale (holdSeat_ticketless _ _ _))
  | releaseHold userId inventoryId holdToken =>
    exact Prog.follows_map.mpr (ticketless_bySale (releaseHold_ticketless _ _ _))
  | confirmPurchase req => exact Prog.follows_map.mpr (confirmPurchase_bySale req)
  | expiredHold inventoryId userId holdToken =>
    exact Prog.follows_map.mpr (ticketless_bySale (onExpired_ticketless _ _ _))
  | seatStatus inventoryId =>
    exact Prog.follows_map.mpr (ticketless_bySale (getSeatStatus_ticketless inventoryId))

end Discipline

section Effects

variable {cfg : SeatConfig} {e : Env} {w : World} {q : Call}

/-- Where a ticket after a call comes from: it was there, for the same seat and owner, or the call
has created it. -/
theorem perform_tickets {h : List (Entry Platform)} (hq : TicketBySale h q) {k : TicketId}
    {t' : Ticket} (ht : (World.perform cfg e w q).2.tickets.lookup k = some t') :
    (∃ t, w.tickets.lookup k = some t ∧ t.inventoryId = t'.inventoryId ∧
      t.ownerId = t'.ownerId) ∨
    ∃ data, q = .http (.createTicket data) ∧ k = e.uuid ∧ w.tickets.lookup k = none ∧
      data.inventoryId = t'.inventoryId ∧ data.ownerId = t'.ownerId := by
  by_cases hw : q.writes = some .tickets
  · cases q with
    | http q =>
      rcases World.perform_http_cases cfg e w q with hsame | hserved
      · rw [hsame] at ht
        exact .inl ⟨t',ht,rfl,rfl⟩
      · rw [hserved] at ht
        cases q with
        | createTicket data =>
          rcases World.serve_createTicket_cases (w := w) e data with hkeep | ⟨hnew,hw'⟩
          · rw [hkeep] at ht
            exact .inl ⟨t',ht,rfl,rfl⟩
          · rw [hw'] at ht
            rcases Table.lookup_insert_cases ht with ⟨rfl,rfl⟩ | ⟨-,hold⟩
            · exact .inr ⟨data,rfl,rfl,hnew,rfl,rfl⟩
            · exact .inl ⟨t',hold,rfl,rfl⟩
        | updateTicket ticketId p =>
          rcases World.serve_updateTicket_cases (w := w) e ticketId p with
            hkeep | ⟨i,ticket,-,hold,hw'⟩
          · rw [hkeep] at ht
            exact .inl ⟨t',ht,rfl,rfl⟩
          · rw [hw'] at ht
            rcases Table.lookup_insert_cases ht with ⟨rfl,rfl⟩ | ⟨-,hold'⟩
            · have howner : p.ownerId = none := hq
              exact .inl ⟨ticket,hold,rfl,by simp [World.patchTicket,howner]⟩
            · exact .inl ⟨t',hold',rfl,rfl⟩
        | _ => cases hw
    | _ => cases hw
  · rw [(World.perform_frame q).tickets hw] at ht
    exact .inl ⟨t',ht,rfl,rfl⟩

/-- A sold seat stays sold, whatever call comes next. -/
theorem perform_sold (q : Call) {inventoryId : InventoryId} {r : SeatInventory}
    (hr : w.inventory.lookup inventoryId = some r) (hs : r.status = .sold) :
    (World.perform cfg e w q).2.inventory.lookup inventoryId = some r := by
  by_cases hw : q.writes = some .inventory
  · cases q with
    | seatRpc j call =>
      simp only [World.perform,World.faulty]
      split
      · split
        · exact World.seatRpc_sold cfg e w j call hr hs
        · exact hr
      · exact World.seatRpc_sold cfg e w j call hr hs
    | http q => cases q <;> cases hw
    | _ => cases hw
  · rw [(World.perform_frame q).inventory hw,hr]

/-- A call that sells a seat is a sale with the user and the token of its hold. -/
theorem perform_sells {inventoryId : InventoryId} {r' : SeatInventory}
    (hr' : (World.perform cfg e w q).2.inventory.lookup inventoryId = some r')
    (hs : r'.status = .sold) : w.inventory.lookup inventoryId = some r' ∨
      ∃ req r, q = .seatRpc inventoryId (.sellSeat req) ∧
        w.inventory.lookup inventoryId = some r ∧ holdMatches r req := by
  by_cases hw : q.writes = some .inventory
  · cases q with
    | seatRpc j call =>
      have hsells : (w.seatRpc cfg e j call).2.inventory.lookup inventoryId = some r' →
          w.inventory.lookup inventoryId = some r' ∨ ∃ req r,
            Call.seatRpc j call = .seatRpc inventoryId (.sellSeat req) ∧
            w.inventory.lookup inventoryId = some r ∧ holdMatches r req := by
        intro hrun
        rcases World.seatRpc_sells cfg e w j call hrun hs with hsame | ⟨req,r,rfl,rfl,hr,hm⟩
        · exact .inl hsame
        · exact .inr ⟨req,r,rfl,hr,hm⟩
      simp only [World.perform,World.faulty] at hr'
      split at hr'
      · split at hr'
        · exact hsells hr'
        · exact .inl hr'
      · exact hsells hr'
    | http q => cases q <;> cases hw
    | _ => cases hw
  · rw [(World.perform_frame q).inventory hw] at hr'
    exact .inl hr'

/-- A sale that is reported found the hold, and leaves the seat sold. -/
theorem perform_sale {inventoryId : InventoryId} {req : SpendHoldRequest} {w' : World}
    (hp : World.perform cfg e w (.seatRpc inventoryId (.sellSeat req)) =
      (some (.spend true),w')) : ∃ r, w.inventory.lookup inventoryId = some r ∧
      holdMatches r req ∧ w'.inventory.lookup inventoryId = some (markSold r) := by
  have hrun : w.seatRpc cfg e inventoryId (.sellSeat req) = (some (.spend true),w') := by
    rcases rpc_cases hp with hnone | hrun
    · cases hnone
    · exact hrun
  obtain ⟨hreply,hrow⟩ := @World.seatRpc_sellSeat cfg e w inventoryId req
  rw [hrun] at hreply hrow
  cases hr : w.inventory.lookup inventoryId with
  | none => rw [hr] at hreply; simp [sellRow] at hreply
  | some r =>
    rw [hr,sellRow] at hreply hrow
    split at hreply
    · rename_i hm
      rw [if_pos hm] at hrow
      exact ⟨r,rfl,hm,hrow⟩
    · simp at hreply

end Effects

section Runs

variable {ι : Type} {w₀ w : World} {past : ι → List (Entry Platform)}

/-- The ticket has been created since the start in `w₀`. -/
def TicketCreated (w₀ w : World) (k : TicketId) (t : Ticket) : Prop :=
  w.tickets.lookup k = some t ∧ w₀.tickets.lookup k = none

def Sold (w : World) (inventoryId : InventoryId) : Prop :=
  ∃ r, w.inventory.lookup inventoryId = some r ∧ r.status = .sold

/-- What holds between the databases and what the runs know of their sales. -/
structure SaleInv (w₀ w : World) (past : ι → List (Entry Platform)) : Prop where
  kept : ∀ inventoryId, Sold w₀ inventoryId → Sold w inventoryId
  sold : ∀ i inventoryId u, SoldTo inventoryId u (past i) →
    Sold w inventoryId ∧ ¬Sold w₀ inventoryId
  one : ∀ i j inventoryId u v, SoldTo inventoryId u (past i) → SoldTo inventoryId v (past j) →
    i = j ∧ u = v
  made : ∀ k t, TicketCreated w₀ w k t →
    ∃ i, SoldTo t.inventoryId t.ownerId (past i) ∧ (past i).any isCreateTicket
  single : ∀ k k' t t', TicketCreated w₀ w k t → TicketCreated w₀ w k' t' →
    t.inventoryId = t'.inventoryId → k = k'

theorem Sold.perform {cfg : SeatConfig} {e : Env} {inventoryId : InventoryId}
    (h : Sold w inventoryId) (q : Call) : Sold (World.perform cfg e w q).2 inventoryId := by
  obtain ⟨r,hr,hs⟩ := h
  exact ⟨r,perform_sold q hr hs,hs⟩

variable [DecidableEq ι] {i : ι}

theorem SoldTo.later {inventoryId : InventoryId} {u : UserId} {j : ι}
    (h : SoldTo inventoryId u (past j)) (entry : Entry Platform) :
    SoldTo inventoryId u (Function.update past i (entry :: past i) j) := by
  obtain ⟨token,hmem⟩ := h
  refine ⟨token,?_⟩
  by_cases hj : j = i
  · subst hj
    rw [Function.update_self]
    exact List.mem_cons_of_mem _ hmem
  · rwa [Function.update_of_ne hj]

/-- A sale that a run knows of was known before, or is the one just reported to it. -/
theorem soldTo_cases {inventoryId : InventoryId} {u : UserId} {j : ι} {entry : Entry Platform}
    (h : SoldTo inventoryId u (Function.update past i (entry :: past i) j)) :
    SoldTo inventoryId u (past j) ∨ j = i ∧ ∃ token,
      entry = ⟨.seatRpc inventoryId (.sellSeat ⟨u,token⟩),some (.spend true)⟩ := by
  obtain ⟨token,hmem⟩ := h
  by_cases hj : j = i
  · subst hj
    rw [Function.update_self] at hmem
    rcases List.mem_cons.mp hmem with heq | hmem
    · exact .inr ⟨rfl,token,heq.symm⟩
    · exact .inl ⟨token,hmem⟩
  · rw [Function.update_of_ne hj] at hmem
    exact .inl ⟨token,hmem⟩

variable {cfg : SeatConfig} {e : Env} {q : Call}

/-- A reported sale found the seat held by its user. -/
theorem sale_reported {inventoryId : InventoryId} {u : UserId} {token : HoldToken}
    (h : (⟨q,(World.perform cfg e w q).1⟩ : Entry Platform) =
      ⟨.seatRpc inventoryId (.sellSeat ⟨u,token⟩),some (.spend true)⟩) :
    (∃ r, w.inventory.lookup inventoryId = some r ∧ r.status = .held ∧
      r.heldByUserId = some u) ∧ Sold (World.perform cfg e w q).2 inventoryId := by
  obtain rfl : q = _ := congrArg Sigma.fst h
  have ha := eq_of_heq (Sigma.mk.inj h).2
  obtain ⟨r,hr,hm,hr'⟩ := perform_sale (Prod.ext ha rfl)
  obtain ⟨hheld,huser,-⟩ := holdMatches_iff.mp hm
  exact ⟨⟨r,hr,hheld,huser⟩,_,hr',rfl⟩

theorem Sold.not_held {inventoryId : InventoryId} (h : Sold w inventoryId) {r : SeatInventory}
    (hr : w.inventory.lookup inventoryId = some r) : r.status ≠ .held := by
  obtain ⟨r',hr',hs⟩ := h
  obtain rfl := Option.some.inj (hr.symm.trans hr')
  simp [hs]

theorem any_later {p : Entry Platform → Bool} {j : ι} (h : (past j).any p)
    (entry : Entry Platform) : (Function.update past i (entry :: past i) j).any p := by
  by_cases hj : j = i
  · subst hj
    rw [Function.update_self,List.any_cons,h,Bool.or_true]
  · rwa [Function.update_of_ne hj]

omit [DecidableEq ι] in
/-- A new ticket was new before this call, or the call has created it after its own sale. -/
theorem newTicket_cases (hok : TicketBySale (past i) q) {k : TicketId} {t : Ticket}
    (ht : TicketCreated w₀ (World.perform cfg e w q).2 k t) :
    (∃ t₁, TicketCreated w₀ w k t₁ ∧ t₁.inventoryId = t.inventoryId ∧ t₁.ownerId = t.ownerId) ∨
    (k = e.uuid ∧ isCreateTicket ⟨q,(World.perform cfg e w q).1⟩ ∧
      SoldTo t.inventoryId t.ownerId (past i) ∧ (past i).any isCreateTicket = false) := by
  rcases perform_tickets hok ht.1 with ⟨t₁,hold,hinv,howner⟩ | ⟨data,rfl,hk,-,hinv,howner⟩
  · exact .inl ⟨t₁,⟨hold,ht.2⟩,hinv,howner⟩
  · rw [← hinv,← howner]
    exact .inr ⟨hk,rfl,hok.1,hok.2⟩

theorem saleInv_kept : Keeps (World.server cfg ι) Config.anyStep (fun _ => TicketBySale)
    (fun _ _ _ _ => True) (SaleInv w₀) := by
  intro w past i e q h _ _ hok
  refine ⟨trivial,?_⟩
  have hsale : ∀ inventoryId u token,
      (⟨q,(World.perform cfg e w q).1⟩ : Entry Platform) =
        ⟨.seatRpc inventoryId (.sellSeat ⟨u,token⟩),some (.spend true)⟩ →
      ¬Sold w inventoryId := by
    intro inventoryId u token heq hsold
    obtain ⟨⟨r,hr,hheld,-⟩,-⟩ := sale_reported heq
    exact hsold.not_held hr hheld
  constructor
  · intro inventoryId hsold
    exact (h.kept inventoryId hsold).perform q
  · intro j inventoryId u hj
    rcases soldTo_cases hj with hold | ⟨rfl,token,heq⟩
    · exact ⟨(h.sold j inventoryId u hold).1.perform q,(h.sold j inventoryId u hold).2⟩
    · exact ⟨(sale_reported heq).2,fun hs => hsale _ _ _ heq (h.kept _ hs)⟩
  · intro j k inventoryId u v hj hk
    rcases soldTo_cases hj with hold | ⟨rfl,token,heq⟩
    · rcases soldTo_cases hk with hold' | ⟨rfl,token,heq⟩
      · exact h.one j k inventoryId u v hold hold'
      · exact absurd (h.sold j inventoryId u hold).1 (hsale _ _ _ heq)
    · rcases soldTo_cases hk with hold' | ⟨rfl,token',heq'⟩
      · exact absurd (h.sold k inventoryId v hold').1 (hsale _ _ _ heq)
      · have hsame := congrArg Sigma.fst (heq.symm.trans heq')
        cases hsame
        exact ⟨rfl,rfl⟩
  · intro k t ht
    rcases newTicket_cases hok ht with ⟨t₁,hold,hinv,howner⟩ | ⟨-,hcreate,hsold,-⟩
    · obtain ⟨j,hj,hany⟩ := h.made k t₁ hold
      exact ⟨j,(hinv ▸ howner ▸ hj).later _,any_later hany _⟩
    · refine ⟨i,hsold.later _,?_⟩
      rw [Function.update_self,List.any_cons,Bool.or_eq_true]
      exact .inl hcreate
  · intro k k' t t' ht ht' hinv
    -- a run that creates a ticket has not created one before, and nobody else has sold the seat
    have hfirst : ∀ k₁ t₁ u, TicketCreated w₀ w k₁ t₁ → SoldTo t₁.inventoryId u (past i) →
        (past i).any isCreateTicket ≠ false := by
      intro k₁ t₁ u hnew hsold
      obtain ⟨j,hj,hany⟩ := h.made k₁ t₁ hnew
      obtain ⟨rfl,-⟩ := h.one j i _ _ _ hj hsold
      simp [hany]
    rcases newTicket_cases hok ht with ⟨t₁,hold,h₁,-⟩ | ⟨hk,-,hsold,hnone⟩
    · rcases newTicket_cases hok ht' with ⟨t₂,hold',h₂,-⟩ | ⟨-,-,hsold',hnone'⟩
      · exact h.single k k' t₁ t₂ hold hold' (by rw [h₁,hinv,h₂])
      · rw [← hinv,← h₁] at hsold'
        exact absurd hnone' (hfirst k t₁ _ hold hsold')
    · rcases newTicket_cases hok ht' with ⟨t₂,hold',h₂,-⟩ | ⟨hk',-,-,-⟩
      · rw [hinv,← h₂] at hsold
        exact absurd hnone (hfirst k' t₂ _ hold' hsold)
      · rw [hk,hk']

/-- The seat is sold, and no run knows of a sale to anybody but `u`. -/
def SoldOnlyTo (inventoryId : InventoryId) (u : UserId) (w : World)
    (past : ι → List (Entry Platform)) : Prop :=
  Sold w inventoryId ∧ ∀ j v, SoldTo inventoryId v (past j) → v = u

theorem soldOnlyTo_kept (inventoryId : InventoryId) (u : UserId) :
    Keeps (World.server cfg ι) Config.anyStep (fun _ => TicketBySale) (fun _ _ _ _ => True)
      (SoldOnlyTo inventoryId u) := by
  intro w past i e q ⟨hsold,honly⟩ _ _ _
  refine ⟨trivial,hsold.perform q,fun j v hj => ?_⟩
  rcases soldTo_cases hj with hold | ⟨-,token,heq⟩
  · exact honly j v hold
  · obtain ⟨⟨r,hr,hheld,-⟩,-⟩ := sale_reported heq
    exact absurd hheld (hsold.not_held hr)

/-- The runs of the requests on the seats. -/
abbrev PurchaseConfig (ι : Type) := Config ι Platform Unhandled Answer World

abbrev PurchaseRuns (cfg : SeatConfig) : PurchaseConfig ι → PurchaseConfig ι → Prop :=
  Config.Reach (World.server cfg ι) Config.anyStep

omit [DecidableEq ι] in
theorem saleInv_start (holdSeconds : Int) (requests : ι → Request) (w₀ : World) :
    (Config.start w₀ (fun i => (requests i).handler holdSeconds)).Disciplined
      (fun _ => TicketBySale) (fun _ _ _ _ => True) (fun _ _ _ => True) (fun _ _ _ => True)
      (SaleInv w₀) := by
  refine Config.disciplined_start ⟨fun _ h => h,?_,?_,?_,?_⟩ fun i =>
    handler_bySale holdSeconds (requests i)
  · rintro i inventoryId u ⟨token,hmem⟩; cases hmem
  · rintro i j inventoryId u v ⟨token,hmem⟩; cases hmem
  · rintro k t ⟨hk,hnew⟩; cases hnew.symm.trans hk
  · rintro k k' t t' ⟨hk,hnew⟩; cases hnew.symm.trans hk

/-- The step that sells a seat is a sale with the user of its hold. -/
theorem sold_step {c d : PurchaseConfig ι} (hc : SaleInv w₀ c.shared c.past)
    (hstep : Config.Step (World.server cfg ι) Config.anyStep c d) {inventoryId : InventoryId}
    (hno : ¬Sold c.shared inventoryId) (hsold : Sold d.shared inventoryId) :
    ∃ r u, c.shared.inventory.lookup inventoryId = some r ∧ r.heldByUserId = some u ∧
      SoldOnlyTo inventoryId u d.shared d.past := by
  obtain ⟨i,e,hadv,-⟩ := hstep
  obtain ⟨q,k,-,-,rfl⟩ := Config.advance_cases hadv
  obtain ⟨r',hr',hs⟩ := hsold
  rcases perform_sells hr' hs with hsame | ⟨req,r,rfl,hr,hm⟩
  · exact absurd ⟨r',hsame,hs⟩ hno
  · refine ⟨r,req.userId,hr,(holdMatches_iff.mp hm).2.1,⟨r',hr',hs⟩,fun j v hj => ?_⟩
    rw [Config.past_update] at hj
    rcases soldTo_cases hj with hold | ⟨-,token,heq⟩
    · exact absurd (hc.sold j inventoryId v hold).1 hno
    · have hreq := congrArg Sigma.fst heq
      cases hreq
      rfl

/-- However many requests run side by side and whatever replies are lost: a seat gets at most one
ticket, only if it was sold meanwhile, and the ticket belongs to the user whose hold was sold. -/
theorem one_ticket_per_seat (cfg : SeatConfig) (holdSeconds : Int) (requests : ι → Request)
    (w₀ : World) {c : PurchaseConfig ι}
    (hc : PurchaseRuns cfg (.start w₀ (fun i => (requests i).handler holdSeconds)) c) :
    (∀ k k' t t', TicketCreated w₀ c.shared k t → TicketCreated w₀ c.shared k' t' →
      t.inventoryId = t'.inventoryId → k = k') ∧
    (∀ k t, TicketCreated w₀ c.shared k t →
      Sold c.shared t.inventoryId ∧ ¬Sold w₀ t.inventoryId) ∧
    ∀ a b, PurchaseRuns cfg (.start w₀ (fun i => (requests i).handler holdSeconds)) a →
      Config.Step (World.server cfg ι) Config.anyStep a b → PurchaseRuns cfg b c →
      ∀ inventoryId, ¬Sold a.shared inventoryId → Sold b.shared inventoryId →
      ∃ r, a.shared.inventory.lookup inventoryId = some r ∧
        ∀ k t, TicketCreated w₀ c.shared k t → t.inventoryId = inventoryId →
          r.heldByUserId = some t.ownerId := by
  have hstart := saleInv_start holdSeconds requests w₀
  have hcD := hstart.reach saleInv_kept hc
  refine ⟨hcD.1.single,?_,?_⟩
  · intro k t ht
    obtain ⟨i,hi,-⟩ := hcD.1.made k t ht
    exact hcD.1.sold i _ _ hi
  · intro a b ha hab hbc inventoryId hno hsold
    have haD := hstart.reach saleInv_kept ha
    have hbD := haD.step saleInv_kept hab
    obtain ⟨r,u,hr,hu,honly⟩ := sold_step haD.1 hab hno hsold
    have hbD' : b.Disciplined (fun _ => TicketBySale) (fun _ _ _ _ => True) (fun _ _ _ => True)
        (fun _ _ _ => True) (SoldOnlyTo inventoryId u) := ⟨honly,hbD.2⟩
    have hlast := (hbD'.reach (soldOnlyTo_kept inventoryId u) hbc).1.2
    refine ⟨r,hr,fun k t ht hinv => ?_⟩
    obtain ⟨i,hi,-⟩ := hcD.1.made k t ht
    exact hu.trans (congrArg some (hlast i _ (hinv ▸ hi)).symm)

end Runs

section SameHoldTwice

/-- One hold confirmed by two requests at once. -/
def confirmTwice (_ : Bool) : Request := .confirmPurchase heldSeatRequest

def twoConfirmations : PurchaseConfig Bool :=
  .start heldSeatWorld (fun i => (confirmTwice i).handler 300)

def moves (i : Bool) (n : Nat) (fault : Option Fault) : List (Bool × Env) :=
  List.replicate n (i,⟨seconds 10,9,9,true,true,fault⟩)

/-- Both requests see the hold; one sells the seat, and does not get the answer of
ticket-service. -/
def replyLost : PurchaseConfig Bool :=
  twoConfirmations.schedule (World.server ⟨3,3,false⟩ Bool) (fun _ _ _ _ _ => true)
    (moves true 5 none ++ moves false 6 none ++ moves true 1 none ++
      moves false 1 (some ⟨true,some "SERVICE_UNAVAILABLE"⟩) ++ moves false 1 none)

def ticketOfSale : Ticket :=
  ⟨1,7,1,1,30,.active,some (.uuidHex 9),some (seconds 10),seconds 10⟩

theorem one_ticket_per_seat_replyLost : replyLost.ended true ∧ replyLost.ended false ∧
    TicketCreated heldSeatWorld replyLost.shared 9 ticketOfSale ∧
    ∀ k t, TicketCreated heldSeatWorld replyLost.shared k t → t.inventoryId = 1 → k = 9 := by
  have hnew : TicketCreated heldSeatWorld replyLost.shared 9 ticketOfSale :=
    ⟨by decide +kernel,by decide +kernel⟩
  refine ⟨by decide +kernel,by decide +kernel,hnew,fun k t ht hinv => ?_⟩
  exact (one_ticket_per_seat ⟨3,3,false⟩ 300 confirmTwice heldSeatWorld
    (Config.reach_schedule (fun _ _ _ _ _ _ => trivial) _ _)).1 k 9 t ticketOfSale ht hnew hinv

end SameHoldTwice

end TicketRemaster.Purchase
