import TicketRemaster.Purchase.Atomicity
import TicketRemaster.SeatInventory.ExpiredHolds
import TicketRemaster.SeatInventory.CachedHolds
set_option autoImplicit false

/-! The hold check of a purchase, by the record in Redis and by `GetSeatStatus`: when the two come
to the same decision. -/

namespace TicketRemaster.Purchase

open Resumption SeatInventory

/-- The hold check lets the purchase go on. -/
def proceeds (cfg : SeatConfig) (w : World) (req : ConfirmRequest) (e : Env) : Bool :=
  match ((checkHold req).exec (World.server cfg Unit) () (fun _ => e) [] w).result with
  | .ok none => true
  | _ => false

/-- With Redis the hold check decides as it does without. -/
def Transparent (cfg : SeatConfig) (w : World) (req : ConfirmRequest) (e : Env) : Prop :=
  proceeds cfg w req { e with redisUp := true } = proceeds cfg w req { e with redisUp := false }

section Decisions

variable {cfg : SeatConfig} {w : World} {req : ConfirmRequest} {e : Env}
  {h : List (Entry Platform)} {b : Bool}

/-- In every run at this instant, the check comes to this decision. -/
abbrev Decides (cfg : SeatConfig) (e : Env) (b : Bool) (p : Handler (Option ConfirmResponse))
    (h : List (Entry Platform)) (w : World) : Prop :=
  Handler.Always cfg (fun _ e' => e' = e) (fun refusal _ _ => refusal.isNone = b)
    (fun _ _ _ => False) p h w

theorem Decides.proceeds (hd : Decides cfg e b (checkHold req) [] w) :
    proceeds cfg w req e = b := by
  have hrun := hd.exec (fun _ => e) (fun _ => rfl)
  unfold Final.Meets at hrun
  unfold Purchase.proceeds
  split at hrun
  · rename_i refusal hr
    rw [hr,← hrun]
    cases refusal <;> rfl
  · exact hrun.elim

theorem validateHoldState_decides {heldUntil : Time} :
    Decides cfg e (decide (e.time ≤ heldUntil)) (validateHoldState .held (.at heldUntil)) h w := by
  unfold validateHoldState
  rw [if_neg (not_not_intro rfl)]
  refine datetimeNow_always fun e' he => ?_
  subst he
  split
  · rename_i hlt
    simp [not_le_of_gt hlt]
  · rename_i hle
    simp [not_lt.mp hle]

theorem getCachedHold_decides {inventoryId : InventoryId}
    {f : Option CachedHold → Handler (Option ConfirmResponse)} {cached : Option CachedHold}
    (hc : (if e.redisUp then SeatDb.alive e.time (w.holdCache.lookup inventoryId) else none) =
      cached)
    (hf : Decides cfg e b (f cached) (⟨.getHoldCache inventoryId,cached⟩ :: h) w) :
    Decides cfg e b (getCachedHold inventoryId >>= f) h w := by
  rintro _ rfl
  subst hc
  exact hf

/-- Without a record, the purchase goes on before the hold runs out. -/
theorem proceeds_status {r : SeatInventory} (he : e.fault = none)
    (hmiss : (if e.redisUp then SeatDb.alive e.time (w.holdCache.lookup req.inventoryId)
      else none) = none)
    (hr : w.inventory.lookup req.inventoryId = some r) (hs : r.status = .held) {heldUntil : Time}
    (hu : r.heldUntil = some heldUntil) :
    proceeds cfg w req e = decide (e.time < heldUntil) := by
  refine Decides.proceeds (getCachedHold_decides hmiss ?_)
  refine getSeatStatus_always (fun e' w' he' hp => ?_) (fun e' he' => ?_)
  · subst he'
    simp only [World.perform,World.faulty,he,World.seatRpc_getSeatStatus.1] at hp
    cases hp
  · subst he'
    by_cases hexp : holdHasExpired r e'.time
    · obtain ⟨-,u,hu',hle⟩ := holdHasExpired_iff.mp hexp
      obtain rfl := Option.some.inj (hu.symm.trans hu')
      rw [hr,queryRow,if_pos hexp,decide_eq_false (not_lt_of_ge hle)]
      exact rfl
    · have hlt : e'.time < heldUntil :=
        not_le.mp fun hle => hexp (holdHasExpired_iff.mpr ⟨hs,heldUntil,hu,hle⟩)
      rw [hr,queryRow,if_neg hexp,hs,hu,decide_eq_true hlt,← decide_eq_true hlt.le]
      exact validateHoldState_decides

/-- With a record, it has to be that of the request's hold, which may be used up to its last
instant. -/
theorem proceeds_record (hup : e.redisUp = true) {x : DrawnHold}
    (hlive : SeatDb.alive e.time (w.holdCache.lookup req.inventoryId) = some x.record)
    (hreq : req.holdToken ≠ .empty) (hx : x.holdToken ≠ .empty) :
    proceeds cfg w req e = decide (x.userId = req.userId ∧ x.holdToken = req.holdToken ∧
      e.time ≤ x.heldUntil) := by
  refine Decides.proceeds (getCachedHold_decides (by rw [if_pos hup,hlive]) ?_)
  dsimp only
  split
  · rename_i huser
    have hne : x.userId ≠ req.userId := by simpa [DrawnHold.record] using huser
    rw [decide_eq_false fun h => hne h.1]
    exact rfl
  · rename_i huser
    have hsame : x.userId = req.userId := by simpa [DrawnHold.record] using huser
    split
    · rename_i htoken
      have hne : x.holdToken ≠ req.holdToken := by
        simpa [DrawnHold.record,hreq,hx] using htoken
      rw [decide_eq_false fun h => hne h.2.1]
      exact rfl
    · rename_i htoken
      have heq : x.holdToken = req.holdToken := by
        simpa [DrawnHold.record,hreq,hx] using htoken
      simp only [hsame,heq,true_and]
      exact validateHoldState_decides

end Decisions

/-- Any live record is that of the hold, and the hold does not run out at just this instant, or the
hold has run out. -/
def RecordAgrees (record : Option CachedHold) (r : SeatInventory) (now : Time) : Prop :=
  ∀ hold, record = some hold →
    if hold.holdToken = r.holdToken then r.heldUntil ≠ some now else holdHasExpired r now

theorem recordAgrees_some {hold : CachedHold} {r : SeatInventory} {now : Time} :
    RecordAgrees (some hold) r now ↔
      if hold.holdToken = r.holdToken then r.heldUntil ≠ some now else holdHasExpired r now := by
  simp [RecordAgrees]

section Runs

variable {cfg : SeatConfig} {w : World} {req : ConfirmRequest} {e : Env} {x : DrawnHold}
  {r : SeatInventory}

/-- The holder's check, where any live record is that of a drawn hold. -/
theorem transparent_iff (he : e.fault = none) (hw : w.inventory.lookup req.inventoryId = some r)
    (hx : r = heldFor r x.userId x.holdToken x.heldUntil) (hreq : HolderOf r req.spend)
    (hne : x.holdToken ≠ .empty)
    (hrecord : ∀ hold, SeatDb.alive e.time (w.holdCache.lookup req.inventoryId) = some hold →
      ∃ y : DrawnHold, hold = y.record ∧ y.holdToken ≠ .empty ∧
        (y.holdToken = x.holdToken → y = x)) :
    Transparent cfg w req e ↔
      RecordAgrees (SeatDb.alive e.time (w.holdCache.lookup req.inventoryId)) r e.time := by
  have hs : r.status = .held := by rw [hx]; rfl
  have hu : r.heldUntil = some x.heldUntil := by rw [hx]; rfl
  have htoken : r.holdToken = some x.holdToken := by rw [hx]; rfl
  have huser : r.heldByUserId = some x.userId := by rw [hx]; rfl
  have hxreq : x.userId = req.userId ∧ x.holdToken = req.holdToken :=
    ⟨Option.some.inj (huser.symm.trans hreq.1),Option.some.inj (htoken.symm.trans hreq.2)⟩
  have hstatus : ∀ up : Bool, (if up then SeatDb.alive e.time (w.holdCache.lookup req.inventoryId)
      else none) = none →
      proceeds cfg w req { e with redisUp := up } = decide (e.time < x.heldUntil) :=
    fun up hmiss => proceeds_status (e := { e with redisUp := up }) he hmiss hw hs hu
  unfold Transparent
  rw [hstatus false rfl]
  cases hc : SeatDb.alive e.time (w.holdCache.lookup req.inventoryId) with
  | none =>
    rw [hstatus true hc]
    exact ⟨fun _ hold hhold => (by cases hhold),fun _ => rfl⟩
  | some hold =>
    obtain ⟨y,rfl,hy,hsame⟩ := hrecord hold hc
    have hlive : holdHasExpired r e.time ↔ x.heldUntil ≤ e.time := by
      simp [holdHasExpired,hs,hu]
    have hcached : proceeds cfg w req { e with redisUp := true } = decide (y.userId = req.userId ∧
        y.holdToken = req.holdToken ∧ e.time ≤ y.heldUntil) :=
      proceeds_record rfl hc (hxreq.2 ▸ hne) hy
    rw [hcached,decide_eq_decide,recordAgrees_some,DrawnHold.record_holdToken]
    by_cases hxy : y.holdToken = x.holdToken
    · obtain rfl := hsame hxy
      rw [if_pos htoken.symm,hu]
      simp only [hxreq,true_and,ne_eq,Option.some.injEq]
      constructor
      · intro hiff heq
        exact absurd (hiff.mp heq.ge) (not_lt_of_ge heq.le)
      · exact fun hdiff => ⟨fun hle => lt_of_le_of_ne hle (Ne.symm hdiff),le_of_lt⟩
    · rw [if_neg fun h => hxy (Option.some.inj (h.trans htoken)),hlive,← hxreq.2]
      simp [hxy]

end Runs

/-- For every state that calls on an imported seat reach, and every instant: the hold check of the
holder decides by the record as it does by `GetSeatStatus` exactly if any live record is that of the
hold, before or after the instant at which the hold runs out, or the hold has run out. Where calls
keep the cache in step with the row, that instant is the only exception. -/
theorem hold_cache_transparent_iff (cfg : SeatConfig) {ι : Type} [DecidableEq ι]
    (calls : ι → SeatCall) (db₀ : SeatDb ι) (r₀ : SeatInventory) (himported : Imported r₀)
    (hrow : db₀.row = some r₀) (hlock : db₀.lock = none) (hcache : db₀.cache = none)
    (c : SeatRun ι) (hrun : Config.Reach (SeatDb.server ι) Config.anyStep
      (.start db₀ (fun i => (calls i).prog cfg)) c)
    (r : SeatInventory) (hr : c.shared.row = some r) (hs : r.status = .held)
    (req : ConfirmRequest) (hreq : HolderOf r req.spend) (w : World)
    (hw : w.inventory.lookup req.inventoryId = some r)
    (hwcache : w.holdCache.lookup req.inventoryId = c.shared.cache) (e : Env)
    (he : e.fault = none) :
    (Transparent cfg w req e ↔ RecordAgrees (SeatDb.alive e.time c.shared.cache) r e.time) ∧
    (Config.Reach (SeatDb.server ι) (keptInStep · · · · ·)
        (.start db₀ (fun i => (calls i).prog cfg)) c →
      c.shared.clock ≤ e.time → r.heldUntil ≠ some e.time → Transparent cfg w req e) := by
  have hrec := recorded_reach cfg calls hrow himported.unheld hlock hcache hrun
  obtain ⟨x,hx,hxr⟩ := hrec.carried hr hreq.1
  have hiff : Transparent cfg w req e ↔
      RecordAgrees (SeatDb.alive e.time c.shared.cache) r e.time := by
    rw [← hwcache]
    refine transparent_iff he hw hxr hreq (hrec.token_ne hx) fun hold hlive => ?_
    obtain ⟨y,hy,rfl⟩ := hrec.live (hwcache ▸ hlive)
    exact ⟨y,rfl,hrec.token_ne hy,hrec.unique y x hy hx⟩
  refine ⟨hiff,fun hstep hclock hne => hiff.mpr fun hold hlive => ?_⟩
  rw [if_pos (cacheInStep_reach cfg calls hcache hstep r hr hs e.time hold hclock hlive)]
  exact hne

/-- The seat as its service has it now. -/
def worldOf {ι : Type} (db : SeatDb ι) : World := heldWorld.setSeatDb 5 db.alone

def seatBefore (ι : Type) : SeatDb ι := ⟨some ⟨1,2,.available,none,none,none⟩,none,0,[],none,∅⟩

def slowStart : SeatRun Unit :=
  .start (seatBefore _) (fun _ => (SeatCall.holdSeat ⟨7,60⟩).prog ⟨3,3,false⟩)

/-- The record is written a microsecond after the clock has been read. -/
def slowEnd : SeatRun Unit :=
  slowStart.schedule (SeatDb.server _) keptInStep
    (List.replicate 6 ((),⟨0,0,true,none⟩) ++ List.replicate 2 ((),⟨1,0,true,none⟩))

theorem slowEnd_reach : Config.Reach (SeatDb.server _) (keptInStep · · · · ·) slowStart slowEnd :=
  Config.reach_schedule (fun _ _ _ _ _ h => h) _ _

theorem hold_cache_transparent_iff_beforeEnd :
    Transparent ⟨3,3,false⟩ (worldOf slowEnd.shared) ⟨7,5,some 1,.uuid 0⟩ (instant 59) := by
  have hrow : slowEnd.shared.row = some ⟨1,2,.held,some 7,some (.uuid 0),some (seconds 60)⟩ := by
    decide +kernel
  exact (hold_cache_transparent_iff ⟨3,3,false⟩ (fun _ => .holdSeat ⟨7,60⟩) (seatBefore Unit) _
    seat_imported rfl rfl rfl slowEnd (Config.reach_mono (fun _ _ _ _ _ _ => trivial) slowEnd_reach)
    _ hrow rfl ⟨7,5,some 1,.uuid 0⟩ ⟨rfl,rfl⟩ (worldOf slowEnd.shared)
    (by simp [worldOf,SeatDb.alone,hrow]) (by simp [worldOf,SeatDb.alone]) (instant 59) rfl).2
    slowEnd_reach (by decide +kernel) (by decide +kernel)

/-- A hold, its release, and holds of somebody else. -/
def staleCalls : Nat → SeatCall
  | 0 => .holdSeat ⟨7,60⟩
  | 1 => .releaseSeat ⟨7,.uuid 0⟩
  | _ => .holdSeat ⟨8,60⟩

def staleStart : SeatRun Nat :=
  .start (seatBefore _) (fun i => (staleCalls i).prog ⟨3,3,false⟩)

/-- Redis is out of reach from the release on, and then comes back. -/
def staleEnd : SeatRun Nat :=
  staleStart.schedule (SeatDb.server _) (fun _ _ _ _ _ => true)
    (List.replicate 8 (0,⟨0,0,true,none⟩) ++ List.replicate 7 (1,⟨seconds 1,1,false,none⟩) ++
      List.replicate 7 (2,⟨seconds 2,2,false,none⟩))

/-- The record of the released hold refuses the holder of a live hold; and the record of a hold
lets the purchase go on at the instant at which `GetSeatStatus` refuses it. -/
theorem record_decides_otherwise :
    (Config.Reach (SeatDb.server _) Config.anyStep staleStart staleEnd ∧
      staleEnd.shared.row = some ⟨1,2,.held,some 8,some (.uuid 2),some (seconds 62)⟩ ∧
      proceeds ⟨3,3,false⟩ (worldOf staleEnd.shared) ⟨8,5,some 1,.uuid 2⟩ (instant 30) = false ∧
      proceeds ⟨3,3,false⟩ (worldOf staleEnd.shared) ⟨8,5,some 1,.uuid 2⟩
        { instant 30 with redisUp := false } = true) ∧
    (Config.Reach (SeatDb.server _) Config.anyStep slowStart slowEnd ∧
      slowEnd.shared.row = some ⟨1,2,.held,some 7,some (.uuid 0),some (seconds 60)⟩ ∧
      proceeds ⟨3,3,false⟩ (worldOf slowEnd.shared) ⟨7,5,some 1,.uuid 0⟩ (instant 60) = true ∧
      proceeds ⟨3,3,false⟩ (worldOf slowEnd.shared) ⟨7,5,some 1,.uuid 0⟩
        { instant 60 with redisUp := false } = false) := by
  refine ⟨⟨Config.reach_schedule (fun _ _ _ _ _ _ => trivial) _ _,?_,?_,?_⟩,
    Config.reach_mono (fun _ _ _ _ _ _ => trivial) slowEnd_reach,?_,?_,?_⟩
  all_goals decide +kernel

end TicketRemaster.Purchase
