import TicketRemaster.SeatInventory.ReleaseRecords
import TicketRemaster.Services.Rules
import TicketRemaster.Services.SeatRpc
set_option autoImplicit false

/-! What any call of the orchestrators does to one seat: to its row and to the answers of
`ReleaseSeat` that are kept for it. -/

namespace TicketRemaster

open Resumption SeatInventory

/-- The settings of an undisturbed statement at this instant. -/
def Env.seat (e : Env) : SeatEnv := ⟨e.time,e.uuid,e.redisUp,none⟩

namespace World

/-- The answers that are kept for a seat. -/
def answers (w : World) (inventoryId : InventoryId) : Answers :=
  (w.released.lookup inventoryId).getD ∅

section Calls

variable {cfg : SeatConfig} {e : Env} {w : World} {inventoryId j : InventoryId}

theorem setSeatDb_answers (w : World) (i : InventoryId) (db : SeatDb Unit) :
    (w.setSeatDb i db).answers i = db.idempotent := by
  simp [answers,setSeatDb]

theorem seatRpc_answers_ne {call : SeatCall} (hj : j ≠ inventoryId) :
    (w.seatRpc cfg e inventoryId call).2.answers j = w.answers j := by
  simp only [answers,seatRpc,setSeatDb]
  rw [AList.lookup_insert_ne hj]

/-- Only `ReleaseSeat` changes the answers. -/
theorem seatRpc_answers (cfg : SeatConfig) (e : Env) (w : World) (i : InventoryId)
    {call : SeatCall} (hcall : ∀ req, call ≠ .releaseSeat req) :
    (w.seatRpc cfg e i call).2.answers i = w.answers i := by
  simp only [seatRpc]
  rw [setSeatDb_answers]
  exact exec_answers (prog_silent cfg hcall) _ _ _

/-- `ReleaseSeat` answers, and does, as `releaseRow` says. -/
theorem seatRpc_releaseRow (cfg : SeatConfig) (e : Env) (w : World) (inventoryId : InventoryId)
    (req : SpendHoldRequest) :
    ∃ success, (w.seatRpc cfg e inventoryId (.releaseSeat req)).1 = some (.spend success) ∧
      (success,(w.seatRpc cfg e inventoryId (.releaseSeat req)).2.inventory.lookup inventoryId,
        (w.seatRpc cfg e inventoryId (.releaseSeat req)).2.answers inventoryId) =
          releaseRow e.seat req (w.inventory.lookup inventoryId) (w.answers inventoryId) := by
  have halone : SeatProg.AloneWith e.seat (releaseSeat cfg req) _ (w.inventory.lookup inventoryId)
      (w.inventory.lookup inventoryId) (w.answers inventoryId) := releaseSeat_aloneWith cfg req rfl
  have hreleased := with_map (f := SeatReply.spend) halone
  have hrun := (hreleased [] (w.seatDb e inventoryId) ⟨⟨rfl,rfl⟩,rfl⟩).exec
    (fun _ => e.seat) (fun _ => rfl)
  obtain ⟨reply,hfinal,success,rfl,hrow⟩ := hrun.returns
  refine ⟨success,?_,?_⟩
  · simp only [seatRpc]
    rw [show (SeatCall.releaseSeat req).prog cfg = .spend <$> SeatInventory.releaseSeat cfg req
      from rfl,show (⟨e.time,e.uuid,e.redisUp,none⟩ : SeatEnv) = e.seat from rfl,hfinal]
  · simp only [seatRpc,setSeatDb_inventory,setSeatDb_answers]
    exact hrow

/-- The token of a hold that was granted is the one drawn in the call. -/
theorem seatRpc_holdSeat_token {req : HoldSeatRequest} {resp : HoldSeatResponse}
    (hreply : (w.seatRpc cfg e inventoryId (.holdSeat req)).1 = some (.hold resp))
    (hsuccess : resp.success = true) : resp.holdToken = .uuid e.uuid := by
  cases hn : cfg.maxDeadlockRetries with
  | zero =>
    have hprog : (SeatCall.holdSeat req).prog cfg = .raise .runtimeError := by
      simp only [SeatCall.prog,SeatInventory.holdSeat,hn]
      rfl
    simp [seatRpc,hprog,Prog.exec] at hreply
  | succ n =>
    obtain ⟨_,ha,reply,rfl,hrow⟩ := seatRpc_alone cfg e w inventoryId (.holdSeat req)
      (alone_map (by unfold SeatInventory.holdSeat; rw [hn]; exact holdSeat_alone cfg req rfl n))
    obtain rfl : resp = reply := by simpa using hreply.symm.trans ha
    have hresp := congrArg Prod.fst hrow
    unfold holdRow at hresp
    split at hresp
    · split at hresp
      · simp only at hresp
        rw [hresp]
      · simp only at hresp
        rw [hresp] at hsuccess
        cases hsuccess
    · simp only at hresp
      rw [hresp] at hsuccess
      cases hsuccess

end Calls

end World

/-- The row of a seat and the answers kept for it. -/
abbrev SeatView := Option SeatInventory × Answers

/-- What a call may do to a seat. -/
inductive SeatStep (e : Env) (inventoryId : InventoryId) : Call → SeatView → SeatView → Prop where
  | same (q : Call) (v : SeatView) : SeatStep e inventoryId q v v
  | hold (req : HoldSeatRequest) (r : SeatInventory) (answers : Answers) :
      SeatStep e inventoryId (.seatRpc inventoryId (.holdSeat req)) (some r,answers)
        (some (heldFor r req.userId (.uuid e.uuid) (e.time+seconds (holdSeconds req))),answers)
  | sell (req : SpendHoldRequest) (r : SeatInventory) (answers : Answers)
      (hr : holdMatches r req) :
      SeatStep e inventoryId (.seatRpc inventoryId (.sellSeat req)) (some r,answers)
        (some (markSold r),answers)
  | expire (r : SeatInventory) (answers : Answers) (hr : holdHasExpired r e.time) :
      SeatStep e inventoryId (.seatRpc inventoryId .getSeatStatus) (some r,answers)
        (some (clearHold r),answers)
  | refuse (req : SpendHoldRequest) (row : Option SeatInventory) (answers : Answers)
      (hkept : keptAnswer e.seat answers req.holdToken = none)
      (hrow : row.filter (holdMatches · req) = none) :
      SeatStep e inventoryId (.seatRpc inventoryId (.releaseSeat req)) (row,answers)
        (row,storedAnswer e.seat answers req.holdToken false)
  | release (req : SpendHoldRequest) (r : SeatInventory) (answers : Answers)
      (hkept : keptAnswer e.seat answers req.holdToken = none) (hr : holdMatches r req) :
      SeatStep e inventoryId (.seatRpc inventoryId (.releaseSeat req)) (some r,answers)
        (some (clearHold r),storedAnswer e.seat answers req.holdToken true)

/-- A release leaves the row as it was, or ends the hold that it matches. -/
theorem SeatStep.release_cases {e : Env} {i j : InventoryId} {req : SpendHoldRequest}
    {v v' : SeatView} (h : SeatStep e i (.seatRpc j (.releaseSeat req)) v v') :
    v'.1 = v.1 ∨ ∃ r, v.1 = some r ∧ holdMatches r req ∧ v'.1 = some (clearHold r) := by
  cases h with
  | same => exact .inl rfl
  | refuse => exact .inl rfl
  | release req r answers hkept hr => exact .inr ⟨r,rfl,hr,rfl⟩

namespace World

variable {cfg : SeatConfig} {e : Env} {w : World} {inventoryId : InventoryId}

/-- The row of a seat and the answers kept for it. -/
def seatView (w : World) (inventoryId : InventoryId) : SeatView :=
  (w.inventory.lookup inventoryId,w.answers inventoryId)

theorem releaseRow_step (e : Env) (req : SpendHoldRequest) (inventoryId : InventoryId)
    (v : SeatView) : SeatStep e inventoryId (.seatRpc inventoryId (.releaseSeat req)) v
      (releaseRow e.seat req v.1 v.2).2 := by
  obtain ⟨row,answers⟩ := v
  unfold releaseRow
  split
  · exact .same _ _
  · rename_i hkept
    split
    · rename_i hrow
      exact .refuse req row answers hkept hrow
    · rename_i r hr
      obtain ⟨rfl,hm⟩ := Option.filter_eq_some_iff.mp hr
      exact .release req r answers hkept hm

theorem seatRpc_step (cfg : SeatConfig) (e : Env) (w : World) (i j : InventoryId)
    (call : SeatCall) : SeatStep e i (.seatRpc j call) (w.seatView i)
      ((w.seatRpc cfg e j call).2.seatView i) := by
  by_cases hj : i = j
  · subst hj
    cases call with
    | releaseSeat req =>
      obtain ⟨success,-,heq⟩ := seatRpc_releaseRow cfg e w i req
      rw [show (w.seatRpc cfg e i (.releaseSeat req)).2.seatView i =
        (releaseRow e.seat req (w.inventory.lookup i) (w.answers i)).2 by rw [← heq]; rfl]
      exact releaseRow_step e req i (w.seatView i)
    | holdSeat req =>
      have hanswers := seatRpc_answers cfg e w i
        (show ∀ r, SeatCall.holdSeat req ≠ .releaseSeat r by simp)
      simp only [seatView,hanswers]
      rcases seatRpc_holdSeat cfg e w i req with hsame | ⟨r,hr,-,hafter⟩
      · rw [hsame]
        exact .same _ _
      · rw [hr,hafter]
        exact .hold req r _
    | sellSeat req =>
      have hanswers := seatRpc_answers cfg e w i
        (show ∀ r, SeatCall.sellSeat req ≠ .releaseSeat r by simp)
      simp only [seatView,hanswers,(seatRpc_sellSeat req).2]
      cases w.inventory.lookup i with
      | none => exact .same _ _
      | some r =>
        simp only [sellRow]
        split
        · rename_i hm
          exact .sell req r _ hm
        · exact .same _ _
    | getSeatStatus =>
      have hanswers := seatRpc_answers cfg e w i
        (show ∀ r, SeatCall.getSeatStatus ≠ .releaseSeat r by simp)
      simp only [seatView,hanswers,seatRpc_getSeatStatus.2]
      cases w.inventory.lookup i with
      | none => exact .same _ _
      | some r =>
        simp only [queryRow]
        split
        · rename_i hexp
          exact .expire r _ hexp
        · exact .same _ _
  · simp only [seatView,seatRpc_inventory_ne _ _ _ _ _ hj,seatRpc_answers_ne hj]
    exact .same _ _

theorem serve_released (e : Env) (w : World) (q : Http) : (w.serve e q).2.released = w.released := by
  cases q with
  | createTicket data =>
    simp only [serve,createTicket]
    split
    · rfl
    · split <;> rfl
  | updateTicket ticketId data =>
    simp only [serve,updateTicket]
    split
    · rfl
    · split
      · rfl
      · split
        · rfl
        · split <;> rfl
  | createListing data => simp only [serve,createListing]; split <;> rfl
  | updateListing listingId status =>
    simp only [serve,updateListing]
    split
    · rfl
    · split <;> rfl
  | createTransfer data => simp only [serve,createTransfer]; split <;> rfl
  | getTransfer transferId =>
    simp only [serve,getTransfer]
    split
    · rfl
    · split <;> rfl
  | patchTransfer transferId data =>
    simp only [serve,patchTransfer]
    split
    · rfl
    · split
      · rfl
      · split
        · rfl
        · split <;> rfl
  | patchCredits userId creditBalance => simp only [serve,patchCredits]; split <;> rfl
  | retrievePaymentIntent p =>
    simp only [serve,retrievePaymentIntent]
    split
    · rfl
    · split <;> rfl
  | stripeWebhook d => simp only [serve,stripeWebhook]; split <;> rfl
  | _ => rfl

theorem perform_released (q : Call) (hq : ∀ i call, q ≠ .seatRpc i call) :
    (perform cfg e w q).2.released = w.released := by
  cases q with
  | http q =>
    rcases perform_http_cases cfg e w q with h | h
    · rw [h]
    · rw [h,serve_released]
  | seatRpc i call => exact absurd rfl (hq i call)
  | lockSet ticketId token ttl =>
    simp only [perform,lockSet]
    split
    · split <;> rfl
    · rfl
  | lockRelease ticketId token =>
    simp only [perform,lockRelease]
    split <;> rfl
  | _ => rfl

/-- The step of a call on a seat, whatever fails. -/
theorem perform_step (cfg : SeatConfig) (e : Env) (w : World) (q : Call) (i : InventoryId) :
    SeatStep e i q (w.seatView i) ((perform cfg e w q).2.seatView i) := by
  by_cases hq : ∃ j call, q = .seatRpc j call
  · obtain ⟨j,call,rfl⟩ := hq
    simp only [perform,faulty]
    split
    · split
      · exact seatRpc_step cfg e w i j call
      · exact .same _ _
    · exact seatRpc_step cfg e w i j call
  · have hrow : (perform cfg e w q).2.inventory = w.inventory := by
      refine (perform_frame q).inventory ?_
      cases q with
      | seatRpc j call => exact absurd ⟨j,call,rfl⟩ hq
      | http q => cases q <;> simp [Call.writes,Http.writes]
      | _ => simp [Call.writes]
    have hanswers : (perform cfg e w q).2.released = w.released :=
      perform_released q fun j call heq => hq ⟨j,call,heq⟩
    simp only [seatView,answers,hrow,hanswers]
    exact .same _ _

end World

end TicketRemaster
