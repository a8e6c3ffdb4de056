import TicketRemaster.SeatInventory.Imported
import TicketRemaster.Services.SeatRpc
set_option autoImplicit false

/-! Who takes notice when a hold runs out: `HoldSeat` and `GetSeatStatus` do, the other three
readers of the row do not. -/

namespace TicketRemaster.SeatInventory

open Resumption

/-- A row as an accepted batch request creates it. -/
def Imported (r : SeatInventory) : Prop :=
  ∃ cols ids keys db db' body n i, createInventoryBatch cols ids keys db body = (.ok n,db') ∧
    db'.lookup i = some r ∧ db.lookup i = none

theorem Imported.unheld {r : SeatInventory} (h : Imported r) : Unheld r := by
  obtain ⟨cols,ids,keys,db,db',body,n,i,hbatch,hr,hnew⟩ := h
  exact createInventoryBatch_unheld hbatch hr hnew

/-- What some interleaving of calls makes of an imported row. -/
def ReachableRow (cfg : SeatConfig) (r : SeatInventory) : Prop :=
  ∃ (ι : Type) (_ : DecidableEq ι) (calls : ι → SeatCall) (db₀ : SeatDb ι) (r₀ : SeatInventory)
    (c : SeatRun ι), Imported r₀ ∧ db₀.row = some r₀ ∧ db₀.lock = none ∧
      Config.Reach (SeatDb.server ι) Config.anyStep (.start db₀ fun i => (calls i).prog cfg) c ∧
      c.shared.row = some r

theorem ReachableRow.sound {cfg : SeatConfig} {r : SeatInventory} (h : ReachableRow cfg r) :
    Sound r := by
  obtain ⟨ι,_,calls,db₀,r₀,c,himported,hrow,hlock,hrun,hr⟩ := h
  obtain ⟨⟨⟨r',hr',h'⟩,-⟩,-⟩ := rowsWithin_reach sound_preserved cfg calls
    (rowsWithin_start hrow hlock (.inr himported.unheld)) hrun
  rw [hr'] at hr
  cases hr
  exact h'

section Readers

variable (cfg : SeatConfig) (w : World) (i : InventoryId) (r : SeatInventory) (e : Env)

/-- The user and the token of the hold. -/
def HolderOf (req : SpendHoldRequest) : Prop :=
  r.heldByUserId = some req.userId ∧ r.holdToken = some req.holdToken

/-- All five take the seat to be free. -/
structure FreeEverywhere : Prop where
  sale (req : SpendHoldRequest) : HolderOf r req →
    (w.seatRpc cfg e i (.sellSeat req)).1 = some (.spend false)
  myHold (req : SpendHoldRequest) : HolderOf r req →
    getMyHold w.inventory r.eventId (some req.userId) =
      .error ⟨404,"NOT_FOUND","No active hold found."⟩
  list (items : List InventoryItem) : (w.listInventoryByEvent r.eventId).1 = .ok items →
    ⟨i,r.seatId,.available⟩ ∈ items
  status : (w.seatRpc cfg e i .getSeatStatus).1 = some (.status ⟨.available,none⟩)
  hold (req : HoldSeatRequest) :
    ∃ reply, (w.seatRpc cfg e i (.holdSeat req)).1 = some (.hold reply) ∧ reply.success

/-- All five take the seat to be held. -/
structure HeldEverywhere (heldUntil : Time) : Prop where
  sale (req : SpendHoldRequest) : HolderOf r req →
    (w.seatRpc cfg e i (.sellSeat req)).1 = some (.spend true)
  myHold (req : SpendHoldRequest) : HolderOf r req →
    ∃ hold, getMyHold w.inventory r.eventId (some req.userId) = .ok hold
  list (items : List InventoryItem) : (w.listInventoryByEvent r.eventId).1 = .ok items →
    ⟨i,r.seatId,.held⟩ ∈ items
  status : (w.seatRpc cfg e i .getSeatStatus).1 = some (.status ⟨.held,some heldUntil⟩)
  hold (req : HoldSeatRequest) (reply : HoldSeatResponse) :
    (w.seatRpc cfg e i (.holdSeat req)).1 = some (.hold reply) → ¬ reply.success

/-- The hold means the same to all of them, at this instant. -/
def ExpiryAgrees (heldUntil : Time) : Prop :=
  (heldUntil ≤ e.time → FreeEverywhere cfg w i r e) ∧
    (e.time < heldUntil → HeldEverywhere cfg w i r e heldUntil)

end Readers

section Readers

variable {cfg : SeatConfig} {w : World} {i : InventoryId} {r : SeatInventory} {e : Env}

/-- The holder buys the seat, whatever the clock says. -/
theorem sale_of_holder (hw : w.inventory.lookup i = some r) (hs : r.status = .held)
    {req : SpendHoldRequest} (hreq : HolderOf r req) :
    (w.seatRpc cfg e i (.sellSeat req)).1 = some (.spend true) := by
  have hm : holdMatches r req := holdMatches_iff.mpr ⟨hs,hreq⟩
  rw [(World.seatRpc_sellSeat req).1,hw]
  simp [sellRow,hm]

theorem myHold_of_holder (hw : w.inventory.lookup i = some r) (hs : r.status = .held)
    {req : SpendHoldRequest} (hreq : HolderOf r req) :
    ∃ hold, getMyHold w.inventory r.eventId (some req.userId) = .ok hold := by
  have hmem : (⟨i,r⟩ : (_ : InventoryId) × SeatInventory) ∈ w.inventory.entries :=
    AList.mem_lookup_iff.mp hw
  cases hfind : w.inventory.findRow fun _ r' =>
      r'.eventId = r.eventId && r'.heldByUserId = some req.userId && r'.status = .held with
  | some hold => exact ⟨hold,by simp only [getMyHold,hfind]⟩
  | none =>
    have hnone := List.find?_eq_none.mp (Option.map_eq_none_iff.mp hfind) ⟨i,r⟩ hmem
    simp [hreq.1,hs] at hnone

theorem list_of_row (hw : w.inventory.lookup i = some r) {items : List InventoryItem}
    (h : (w.listInventoryByEvent r.eventId).1 = .ok items) : ⟨i,r.seatId,r.status⟩ ∈ items := by
  have hmem : (⟨i,r⟩ : (_ : InventoryId) × SeatInventory) ∈ w.inventory.entries :=
    AList.mem_lookup_iff.mp hw
  cases h
  exact List.mem_map.mpr ⟨⟨i,r⟩,List.mem_filter.mpr ⟨hmem,by simp⟩,rfl⟩

theorem status_of_live (hw : w.inventory.lookup i = some r) (hexp : ¬ holdHasExpired r e.time) :
    (w.seatRpc cfg e i .getSeatStatus).1 = some (.status ⟨r.status,r.heldUntil⟩) := by
  rw [World.seatRpc_getSeatStatus.1,hw]
  simp [queryRow,hexp]

/-- A seat that is held and not expired cannot be held again. -/
theorem hold_of_live (hw : w.inventory.lookup i = some r) (hs : r.status = .held)
    (hexp : ¬ holdHasExpired r e.time) {req : HoldSeatRequest} {reply : HoldSeatResponse}
    (h : (w.seatRpc cfg e i (.holdSeat req)).1 = some (.hold reply)) : ¬ reply.success := by
  cases hn : cfg.maxDeadlockRetries with
  | zero =>
    have hprog : (SeatCall.holdSeat req).prog cfg = .raise .runtimeError := by
      simp only [SeatCall.prog,holdSeat,hn]
      rfl
    simp [World.seatRpc,hprog,Prog.exec] at h
  | succ n =>
    obtain ⟨_,hreply,reply',rfl,hrow⟩ := World.seatRpc_alone cfg e w i (.holdSeat req)
      (alone_map (by unfold holdSeat; rw [hn]; exact holdSeat_alone cfg req rfl n))
    rw [hreply] at h
    cases h
    rw [hw,holdRow,if_neg (by simp [hs,hexp])] at hrow
    obtain rfl : reply = _ := congrArg Prod.fst hrow
    simp [HoldSeatResponse.failed]

/-- For every row in a held state that calls have made of an imported seat: at any instant when no
other call runs, the five agree on the hold exactly as long as it has not run out. -/
theorem expiry_agrees_iff (cfg : SeatConfig) (r : SeatInventory) (hreach : ReachableRow cfg r)
    (hs : r.status = .held) (heldUntil : Time) (hu : r.heldUntil = some heldUntil) (w : World)
    (i : InventoryId) (hw : w.inventory.lookup i = some r) (e : Env) :
    ExpiryAgrees cfg w i r e heldUntil ↔ e.time < heldUntil := by
  have hheld : Held r := hreach.sound.resolve_right fun h => by simp [h.2.2] at hu
  obtain ⟨user,huser⟩ := Option.isSome_iff_exists.mp hheld.2.1
  obtain ⟨token,htoken⟩ := Option.isSome_iff_exists.mp hheld.2.2.1
  constructor
  · intro h
    by_contra hlate
    have hfree := (h.1 (le_of_not_gt hlate)).sale ⟨user,token⟩ ⟨huser,htoken⟩
    rw [sale_of_holder hw hs ⟨huser,htoken⟩] at hfree
    cases hfree
  · intro hlive
    have hexp : ¬ holdHasExpired r e.time := by
      intro h
      obtain ⟨-,u,hu',hle⟩ := holdHasExpired_iff.mp h
      rw [hu] at hu'
      cases hu'
      exact absurd hlive (not_lt_of_ge hle)
    refine ⟨fun hlate => absurd hlive (not_lt_of_ge hlate),fun _ => ?_⟩
    exact {
      sale := fun req hreq => sale_of_holder hw hs hreq
      myHold := fun req hreq => myHold_of_holder hw hs hreq
      list := fun items hitems => hs ▸ list_of_row hw hitems
      status := by rw [status_of_live hw hexp,hs,hu]
      hold := fun req reply => hold_of_live hw hs hexp }

end Readers

section LateSale

/-- The row after the only hold, of a minute, has been placed on the imported seat. -/
def heldRow : SeatInventory := ⟨1,2,.held,some 7,some (.uuid 9),some (seconds 60)⟩

theorem seat_imported : Imported ⟨1,2,.available,none,none,none⟩ :=
  ⟨.plain,twoIds,(· + 5),∅,(importedAs []).2,oneSeat [],1,5,by rfl,by decide +kernel,rfl⟩

theorem heldRow_reachable : ReachableRow ⟨3,3,false⟩ heldRow :=
  ⟨Unit,inferInstance,fun _ => .holdSeat ⟨7,60⟩,fresh ⟨1,2,.available,none,none,none⟩,
    ⟨1,2,.available,none,none,none⟩,onlyHold,seat_imported,rfl,rfl,
    Config.reach_schedule (fun _ _ _ _ _ _ => trivial) _ _,by decide +kernel⟩

/-- No other rows matter. -/
def heldWorld : World where
  users := ∅
  events := ∅
  venues := ∅
  seats := ∅
  inventory := AList.singleton 5 heldRow
  holdCache := ∅
  released := ∅
  tickets := ∅
  ticketLogs := []
  listings := ∅
  transfers := ∅
  credits := ∅
  creditTransactions := []
  paymentIntents := ∅
  scanLocks := ∅

def instant (t : Int) : Env := ⟨seconds t,0,0,true,true,none⟩

theorem expiry_agrees_in_time :
    ExpiryAgrees ⟨3,3,false⟩ heldWorld 5 heldRow (instant 59) (seconds 60) :=
  (expiry_agrees_iff ⟨3,3,false⟩ heldRow heldRow_reachable rfl (seconds 60) rfl heldWorld 5
    (by decide +kernel) (instant 59)).mpr (by decide +kernel)

/-- When the hold has run out, the holder still buys the seat, and still is its holder. -/
theorem late_sale : ReachableRow ⟨3,3,false⟩ heldRow ∧
    (heldWorld.seatRpc ⟨3,3,false⟩ (instant 60) 5 (.sellSeat ⟨7,.uuid 9⟩)).1 =
      some (.spend true) ∧
    (∃ hold, getMyHold heldWorld.inventory 1 (some 7) = .ok hold) ∧
    ¬ ExpiryAgrees ⟨3,3,false⟩ heldWorld 5 heldRow (instant 60) (seconds 60) := by
  have hrow : heldWorld.inventory.lookup 5 = some heldRow := by decide +kernel
  have hholder : HolderOf heldRow ⟨7,.uuid 9⟩ := ⟨rfl,rfl⟩
  refine ⟨heldRow_reachable,sale_of_holder hrow rfl hholder,myHold_of_holder hrow rfl hholder,?_⟩
  intro h
  have hrefused := (h.1 (by decide +kernel)).sale _ hholder
  rw [sale_of_holder hrow rfl hholder] at hrefused
  cases hrefused

end LateSale

end TicketRemaster.SeatInventory
