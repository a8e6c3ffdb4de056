import TicketRemaster.Services.Platform
import TicketRemaster.SeatInventory.Atomic
set_option autoImplicit false

/-! A remote call to seat-inventory-service, as its caller sees it. -/

namespace TicketRemaster

open Resumption SeatInventory

namespace World

variable {cfg : SeatConfig} {e : Env} {w : World} {inventoryId : InventoryId}

/-- The run behind a remote call ends as its procedure does alone. -/
theorem seatRpc_alone (cfg : SeatConfig) (e : Env) (w : World) (inventoryId : InventoryId)
    (call : SeatCall) {Q : SeatReply → Option SeatInventory → Prop}
    (h : SeatProg.Alone ⟨e.time,e.uuid,e.redisUp,none⟩ (call.prog cfg) Q
      (w.inventory.lookup inventoryId) (w.inventory.lookup inventoryId)) :
    ∃ reply, (w.seatRpc cfg e inventoryId call).1 = some reply ∧
      Q reply ((w.seatRpc cfg e inventoryId call).2.inventory.lookup inventoryId) := by
  have hrun := (h [] (w.seatDb e inventoryId) ⟨rfl,rfl⟩).exec
    (fun _ => ⟨e.time,e.uuid,e.redisUp,none⟩) (fun _ => rfl)
  unfold Final.Meets at hrun
  simp only [seatRpc,setSeatDb]
  split at hrun
  · rename_i reply hr
    refine ⟨reply,by rw [hr],?_⟩
    split
    · rename_i r hrow; rw [hrow] at hrun; rwa [AList.lookup_insert]
    · rename_i hrow; rw [hrow] at hrun; rwa [AList.lookup_erase]
  · exact hrun.elim

section Frame

@[simp] theorem setSeatDb_inventory (w : World) (i : InventoryId) (db : SeatDb Unit) :
    (w.setSeatDb i db).inventory.lookup i = db.row := by
  simp only [setSeatDb]
  cases db.row with
  | none => exact AList.lookup_erase _ _
  | some r => exact AList.lookup_insert _

@[simp] theorem setSeatDb_holdCache (w : World) (i : InventoryId) (db : SeatDb Unit) :
    (w.setSeatDb i db).holdCache.lookup i = db.cache := by
  simp only [setSeatDb]
  cases db.cache with
  | none => exact AList.lookup_erase _ _
  | some v => exact AList.lookup_insert _

variable (cfg : SeatConfig) (e : Env) (w : World) (inventoryId : InventoryId) (call : SeatCall)

/-- A remote call leaves every other row of the inventory alone. -/
theorem seatRpc_inventory_ne {j : InventoryId} (hj : j ≠ inventoryId) :
    (w.seatRpc cfg e inventoryId call).2.inventory.lookup j = w.inventory.lookup j := by
  simp only [seatRpc,setSeatDb]
  split
  · exact AList.lookup_insert_ne hj
  · exact AList.lookup_erase_ne hj

end Frame

theorem seatRpc_sellSeat (req : SpendHoldRequest) :
    (w.seatRpc cfg e inventoryId (.sellSeat req)).1 =
        some (.spend (sellRow req (w.inventory.lookup inventoryId)).1) ∧
      (w.seatRpc cfg e inventoryId (.sellSeat req)).2.inventory.lookup inventoryId =
        (sellRow req (w.inventory.lookup inventoryId)).2 := by
  obtain ⟨_,ha,sold,rfl,hrow⟩ := seatRpc_alone cfg e w inventoryId (.sellSeat req)
    (alone_map (sellSeat_alone cfg req rfl))
  rw [← hrow]
  exact ⟨ha,rfl⟩

theorem seatRpc_getSeatStatus :
    (w.seatRpc cfg e inventoryId .getSeatStatus).1 =
        some (.status (queryRow e.time (w.inventory.lookup inventoryId)).1) ∧
      (w.seatRpc cfg e inventoryId .getSeatStatus).2.inventory.lookup inventoryId =
        (queryRow e.time (w.inventory.lookup inventoryId)).2 := by
  obtain ⟨_,ha,reply,rfl,hrow⟩ := seatRpc_alone cfg e w inventoryId .getSeatStatus
    (alone_map (getSeatStatus_alone cfg rfl))
  rw [← hrow]
  exact ⟨ha,rfl⟩

/-- A release leaves the row as it was, or frees the hold it matches. -/
theorem seatRpc_releaseSeat (cfg : SeatConfig) (e : Env) (w : World) (inventoryId : InventoryId)
    (req : SpendHoldRequest) :
    (w.seatRpc cfg e inventoryId (.releaseSeat req)).2.inventory.lookup inventoryId =
        w.inventory.lookup inventoryId ∨
      ∃ r, w.inventory.lookup inventoryId = some r ∧ holdMatches r req ∧
        (w.seatRpc cfg e inventoryId (.releaseSeat req)).2.inventory.lookup inventoryId =
          some (clearHold r) := by
  obtain ⟨_,ha,success,rfl,hrow⟩ := seatRpc_alone cfg e w inventoryId (.releaseSeat req)
    (alone_map (releaseSeat_alone cfg req rfl))
  exact hrow

/-- A hold leaves the row as it was, or takes it for its user. -/
theorem seatRpc_holdSeat (cfg : SeatConfig) (e : Env) (w : World) (inventoryId : InventoryId)
    (req : HoldSeatRequest) :
    (w.seatRpc cfg e inventoryId (.holdSeat req)).2.inventory.lookup inventoryId =
        w.inventory.lookup inventoryId ∨
      ∃ r, w.inventory.lookup inventoryId = some r ∧
        (r.status = .available ∨ holdHasExpired r e.time) ∧
        (w.seatRpc cfg e inventoryId (.holdSeat req)).2.inventory.lookup inventoryId =
          some (heldFor r req.userId (.uuid e.uuid) (e.time+seconds (holdSeconds req))) := by
  cases hn : cfg.maxDeadlockRetries with
  | zero =>
    left
    have hprog : (SeatCall.holdSeat req).prog cfg = .raise .runtimeError := by
      simp only [SeatCall.prog,holdSeat,hn]
      rfl
    simp only [seatRpc,hprog,Prog.exec,setSeatDb,seatDb]
    split
    · rename_i r hr; rw [AList.lookup_insert,hr]
    · rename_i hr; rw [AList.lookup_erase,hr]
  | succ n =>
    obtain ⟨_,-,reply,rfl,hrow⟩ := seatRpc_alone cfg e w inventoryId (.holdSeat req)
      (alone_map (by unfold holdSeat; rw [hn]; exact holdSeat_alone cfg req rfl n))
    cases hr : w.inventory.lookup inventoryId with
    | none =>
      rw [hr] at hrow
      exact .inl (congrArg Prod.snd hrow)
    | some r =>
      rw [hr,holdRow] at hrow
      split at hrow
      · rename_i hfree
        exact .inr ⟨r,rfl,hfree,congrArg Prod.snd hrow⟩
      · exact .inl (congrArg Prod.snd hrow)

/-- The row of a sold seat stays as it is. -/
theorem seatRpc_sold (cfg : SeatConfig) (e : Env) (w : World) (j : InventoryId) (call : SeatCall)
    {r : SeatInventory} (hr : w.inventory.lookup inventoryId = some r) (hs : r.status = .sold) :
    (w.seatRpc cfg e j call).2.inventory.lookup inventoryId = some r := by
  by_cases hj : inventoryId = j
  · subst hj
    cases call with
    | holdSeat req =>
      rcases seatRpc_holdSeat cfg e w inventoryId req with hsame | ⟨r',hr',hfree,-⟩
      · rw [hsame,hr]
      · obtain rfl := Option.some.inj (hr.symm.trans hr')
        rcases hfree with hfree | hexp
        · simp [hs] at hfree
        · exact absurd (hs.symm.trans (holdHasExpired_iff.mp hexp).1) (by decide)
    | releaseSeat req =>
      rcases seatRpc_releaseSeat cfg e w inventoryId req with hsame | ⟨r',hr',hm,-⟩
      · rw [hsame,hr]
      · obtain rfl := Option.some.inj (hr.symm.trans hr')
        exact absurd (hs.symm.trans (holdMatches_held hm)) (by decide)
    | sellSeat req =>
      rw [(seatRpc_sellSeat req).2,hr,sellRow,if_neg]
      intro hm
      exact absurd (hs.symm.trans (holdMatches_held hm)) (by decide)
    | getSeatStatus =>
      rw [seatRpc_getSeatStatus.2,hr,queryRow,if_neg]
      intro hexp
      exact absurd (hs.symm.trans (holdHasExpired_iff.mp hexp).1) (by decide)
  · rw [seatRpc_inventory_ne _ _ _ _ _ hj,hr]

/-- Only a sale with the user and the token of the hold sells a seat. -/
theorem seatRpc_sells (cfg : SeatConfig) (e : Env) (w : World) (j : InventoryId) (call : SeatCall)
    {r' : SeatInventory} (hr' : (w.seatRpc cfg e j call).2.inventory.lookup inventoryId = some r')
    (hs : r'.status = .sold) : w.inventory.lookup inventoryId = some r' ∨
      ∃ req r, j = inventoryId ∧ call = .sellSeat req ∧
        w.inventory.lookup inventoryId = some r ∧ holdMatches r req := by
  by_cases hj : inventoryId = j
  · subst hj
    cases call with
    | holdSeat req =>
      rcases seatRpc_holdSeat cfg e w inventoryId req with hsame | ⟨r,-,-,hafter⟩
      · exact .inl (hsame ▸ hr')
      · obtain rfl := Option.some.inj (hafter.symm.trans hr')
        cases hs
    | releaseSeat req =>
      rcases seatRpc_releaseSeat cfg e w inventoryId req with hsame | ⟨r,-,-,hafter⟩
      · exact .inl (hsame ▸ hr')
      · obtain rfl := Option.some.inj (hafter.symm.trans hr')
        cases hs
    | sellSeat req =>
      rw [(seatRpc_sellSeat req).2] at hr'
      cases hr : w.inventory.lookup inventoryId with
      | none => rw [hr] at hr'; cases hr'
      | some r =>
        rw [hr,sellRow] at hr'
        split at hr'
        · rename_i hm
          exact .inr ⟨req,r,rfl,rfl,rfl,hm⟩
        · exact .inl hr'
    | getSeatStatus =>
      rw [seatRpc_getSeatStatus.2] at hr'
      cases hr : w.inventory.lookup inventoryId with
      | none => rw [hr] at hr'; cases hr'
      | some r =>
        rw [hr,queryRow] at hr'
        split at hr'
        · obtain rfl := Option.some.inj hr'
          cases hs
        · exact .inl hr'
  · rw [seatRpc_inventory_ne _ _ _ _ _ hj] at hr'
    exact .inl hr'

end World

end TicketRemaster
