import TicketRemaster.SeatInventory.RowState
import TicketRemaster.SeatInventory.Atomic
import TicketRemaster.SeatInventory.Routes
set_option autoImplicit false

/-! What becomes of an imported seat: with one of the statuses the procedures know it always comes
back, with any other it is stuck. -/

namespace TicketRemaster.SeatInventory

open Resumption

/-- All columns of a hold are set, as they are while the seat is held. -/
def Held (r : SeatInventory) : Prop :=
  r.status = .held ∧ r.heldByUserId.isSome ∧ r.holdToken.isSome ∧ r.heldUntil.isSome

/-- The columns of a hold are all set, in a held row, or none is. -/
def Sound (r : SeatInventory) : Prop := Held r ∨ Unheld r

/-- Moreover, the status is one of the three, and says whether the columns are set. -/
def Lawful (r : SeatInventory) : Prop :=
  Held r ∨ (r.status = .available ∨ r.status = .sold) ∧ Unheld r

theorem Lawful.sound {r : SeatInventory} (h : Lawful r) : Sound r := h.imp_right And.right

/-- The hold of a row that expires, or that a request matches, is a proper one. -/
theorem Sound.held {r : SeatInventory} (h : Sound r)
    (hr : (∃ now, holdHasExpired r now) ∨ ∃ req, holdMatches r req) : Held r := by
  rcases h with hheld | ⟨huser,-,huntil⟩
  · exact hheld
  · rcases hr with ⟨now,hexp⟩ | ⟨req,hm⟩
    · obtain ⟨-,u,hu,-⟩ := holdHasExpired_iff.mp hexp
      rw [huntil] at hu
      cases hu
    · have hu := (holdMatches_iff.mp hm).2.1
      rw [huser] at hu
      cases hu

/-- As all four columns change, it makes no difference which row the flush meets. -/
theorem flush_clear {r : SeatInventory} (h : Held r) (r' : SeatInventory) :
    (changedColumns r (clearHold r)).apply r' = clearHold r' := by
  obtain ⟨hs,huser,htoken,huntil⟩ := h
  cases r
  simp_all [changedColumns,changedColumn,clearHold,RowChanges.apply,Option.isSome_iff_ne_none]

theorem flush_sold {r : SeatInventory} (h : Held r) (r' : SeatInventory) :
    (changedColumns r (markSold r)).apply r' = markSold r' := by
  obtain ⟨hs,huser,htoken,huntil⟩ := h
  cases r
  simp_all [changedColumns,changedColumn,clearHold,markSold,RowChanges.apply,
    Option.isSome_iff_ne_none]

theorem heldFor_held (r : SeatInventory) (userId : UserId) (holdToken : HoldToken)
    (heldUntil : Time) : Held (heldFor r userId holdToken heldUntil) := ⟨rfl,rfl,rfl,rfl⟩

theorem sound_preserved : Preserved Sound where
  clear r r' hr _ h := by
    rw [flush_clear (hr.held h)]
    exact .inr ⟨rfl,rfl,rfl⟩
  sell r r' req hr _ h := by
    rw [flush_sold (hr.held (.inr ⟨req,h⟩))]
    exact .inr ⟨rfl,rfl,rfl⟩
  hold r userId holdToken heldUntil _ _ := .inl (heldFor_held r userId holdToken heldUntil)

theorem lawful_preserved : Preserved Lawful where
  clear r r' hr _ h := by
    rw [flush_clear (hr.sound.held h)]
    exact .inr ⟨.inl rfl,rfl,rfl,rfl⟩
  sell r r' req hr _ h := by
    rw [flush_sold (hr.sound.held (.inr ⟨req,h⟩))]
    exact .inr ⟨.inr rfl,rfl,rfl,rfl⟩
  hold r userId holdToken heldUntil _ _ := .inl (heldFor_held r userId holdToken heldUntil)

/-- A row without a hold that is not available, either: nothing any call does meets it. -/
theorem stuck_preserved {r₀ : SeatInventory} (hu : Unheld r₀) (hs : r₀.status ≠ .available) :
    Preserved (· = r₀) where
  clear r r' hr _ h := by
    subst hr
    obtain ⟨-,huser,-,-⟩ := Sound.held (.inr hu) h
    simp [hu.1] at huser
  sell r r' req hr _ h := by
    subst hr
    obtain ⟨-,huser,-,-⟩ := Sound.held (.inr hu) (.inr ⟨req,h⟩)
    simp [hu.1] at huser
  hold r userId holdToken heldUntil hr h := by
    subst hr
    exact absurd h hs

section Hold

variable {ι : Type}

/-- The store, when no other call uses it. -/
def SeatDb.alone (db : SeatDb ι) : SeatDb Unit where
  row := db.row
  lock := none
  clock := db.clock
  issued := db.issued
  cache := db.cache
  idempotent := db.idempotent

/-- The answer of a `HoldSeat` that runs by itself. -/
def SeatDb.holdAlone (cfg : SeatConfig) (e : SeatEnv) (db : SeatDb ι) (req : HoldSeatRequest) :
    Except SeatExn HoldSeatResponse :=
  ((holdSeat cfg req).exec (SeatDb.server Unit) () (fun _ => e) [] db.alone).result

/-- The `HoldSeat` answers with a hold. -/
def HoldSucceeds (cfg : SeatConfig) (e : SeatEnv) (db : SeatDb ι) (req : HoldSeatRequest) : Prop :=
  ∃ reply, db.holdAlone cfg e req = .ok reply ∧ reply.success

theorem holdAlone_eq {cfg : SeatConfig} {e : SeatEnv} (hcfg : 0 < cfg.maxDeadlockRetries)
    (he : e.fault = none) (db : SeatDb ι) (req : HoldSeatRequest) :
    db.holdAlone cfg e req = .ok (holdRow e.time (.uuid e.uuid) req db.row).1 := by
  obtain ⟨n,hn⟩ : ∃ n, cfg.maxDeadlockRetries = n+1 := ⟨_,(Nat.succ_pred_eq_of_pos hcfg).symm⟩
  have halone : SeatProg.Alone e (holdSeatAttempts cfg req (n+1)) (fun reply row' =>
      (reply,row') = holdRow e.time (.uuid e.uuid) req db.row) db.row db.row :=
    holdSeat_alone cfg req he n
  have hrun := (halone [] db.alone ⟨rfl,rfl⟩).exec (fun _ => e) (fun _ => rfl)
  simp only [SeatDb.holdAlone,holdSeat,hn]
  unfold Final.Meets at hrun
  split at hrun
  · rename_i reply hreply
    rw [hreply,← hrun]
  · exact hrun.elim

theorem holdSucceeds_iff {cfg : SeatConfig} {e : SeatEnv} (hcfg : 0 < cfg.maxDeadlockRetries)
    (he : e.fault = none) {db : SeatDb ι} {r : SeatInventory} (hr : db.row = some r)
    (req : HoldSeatRequest) :
    HoldSucceeds cfg e db req ↔ r.status = .available ∨ holdHasExpired r e.time := by
  unfold HoldSucceeds
  rw [holdAlone_eq hcfg he,hr]
  by_cases hfree : r.status = .available ∨ holdHasExpired r e.time
  · simp [holdRow,hfree]
  · simp [holdRow,hfree,HoldSeatResponse.failed]

/-- A lawful row is free, sold, or a matter of time. -/
theorem Lawful.comes_back {cfg : SeatConfig} (hcfg : 0 < cfg.maxDeadlockRetries) {db : SeatDb ι}
    {r : SeatInventory} (hr : db.row = some r) (h : Lawful r) (hs : r.status ≠ .sold) :
    ∃ t, db.clock ≤ t ∧ ∀ e req, t ≤ e.time → e.fault = none → HoldSucceeds cfg e db req := by
  rcases h with ⟨hheld,-,-,huntil⟩ | ⟨hfree | hsold,-⟩
  · obtain ⟨u,hu⟩ := Option.isSome_iff_exists.mp huntil
    refine ⟨max db.clock u,le_max_left _ _,fun e req ht he => ?_⟩
    refine (holdSucceeds_iff hcfg he hr req).mpr (.inr (holdHasExpired_iff.mpr ⟨hheld,u,hu,?_⟩))
    exact le_trans (le_max_right _ _) ht
  · exact ⟨db.clock,le_rfl,fun e req _ he => (holdSucceeds_iff hcfg he hr req).mpr (.inl hfree)⟩
  · exact absurd hsold hs

end Hold

section Course

variable {ι : Type} [DecidableEq ι]

theorem Lawful.held_iff {r : SeatInventory} (h : Lawful r) :
    r.status = .held ↔ r.heldByUserId.isSome ∧ r.holdToken.isSome ∧ r.heldUntil.isSome := by
  rcases h with hheld | ⟨hs,huser,-,-⟩
  · exact ⟨fun _ => hheld.2,fun _ => hheld.1⟩
  · constructor
    · intro hh
      rcases hs with hs | hs <;> simp [hs] at hh
    · intro hset
      simp [huser] at hset

theorem Lawful.status {r : SeatInventory} (h : Lawful r) :
    r.status = .available ∨ r.status = .held ∨ r.status = .sold := by
  rcases h with hheld | ⟨hs | hs,-⟩
  · exact .inr (.inl hheld.1)
  · exact .inl hs
  · exact .inr (.inr hs)

omit [DecidableEq ι] in
theorem rowsWithin_start {P : SeatInventory → Prop} {db : SeatDb ι} {r : SeatInventory}
    (hrow : db.row = some r) (hlock : db.lock = none) (hr : P r) : RowsWithin P db :=
  ⟨⟨r,hrow,hr⟩,fun i w hl => by rw [hlock] at hl; cases hl⟩

/-- A seat that was imported as available or sold keeps to the statuses and comes back, unless it is
sold; a seat that was imported with another status keeps it for good, and nobody can hold it. -/
theorem imported_seat_course (cfg : SeatConfig) (hcfg : 0 < cfg.maxDeadlockRetries)
    (cols : Columns) (ids : IdColumns) (keys : Nat → InventoryId) (db db' : Inventory)
    (body : Json) (n : Nat) (hbatch : createInventoryBatch cols ids keys db body = (.ok n,db'))
    (i : InventoryId) (r : SeatInventory) (hr : db'.lookup i = some r) (hnew : db.lookup i = none)
    (calls : ι → SeatCall) (db₀ : SeatDb ι) (hrow : db₀.row = some r) (hlock : db₀.lock = none)
    (c : SeatRun ι) (hrun : Config.Reach (SeatDb.server ι) Config.anyStep
      (.start db₀ (fun i => (calls i).prog cfg)) c) :
    (r.status = .available ∨ r.status = .sold → ∃ r', c.shared.row = some r' ∧
      (r'.status = .available ∨ r'.status = .held ∨ r'.status = .sold) ∧
      (r'.status = .held ↔ r'.heldByUserId.isSome ∧ r'.holdToken.isSome ∧ r'.heldUntil.isSome) ∧
      ((∀ j, c.ended j) → c.shared.lock = none ∧ (r'.status ≠ .sold →
        ∃ t, c.shared.clock ≤ t ∧ ∀ e req, t ≤ e.time → e.fault = none →
          HoldSucceeds cfg e c.shared req))) ∧
    (¬ (r.status = .available ∨ r.status = .sold) → c.shared.row = some r ∧
      (∀ j reply, c.result j = some (.hold reply) → ¬ reply.success) ∧
      ∀ e req, e.fault = none → ¬ HoldSucceeds cfg e c.shared req) := by
  have hunheld := createInventoryBatch_unheld hbatch hr hnew
  constructor
  · intro hs
    have hlawful : Lawful r := .inr ⟨hs,hunheld⟩
    obtain ⟨⟨⟨r',hr',h'⟩,-⟩,-⟩ :=
      rowsWithin_reach lawful_preserved cfg calls (rowsWithin_start hrow hlock hlawful) hrun
    exact ⟨r',hr',h'.status,h'.held_iff,fun hended =>
      ⟨unlocked_of_ended cfg calls hlock hrun hended,h'.comes_back hcfg hr'⟩⟩
  · intro hs
    have havail : r.status ≠ .available := fun h => hs (.inl h)
    obtain ⟨⟨⟨r',hr',rfl⟩,-⟩,hreplies⟩ :=
      rowsWithin_reach (stuck_preserved hunheld havail) cfg calls
        (rowsWithin_start hrow hlock rfl) hrun
    have hfree : ∀ now, ¬ (r'.status = .available ∨ holdHasExpired r' now) := by
      rintro now (h | h)
      · exact havail h
      · obtain ⟨-,huser,-,-⟩ := Sound.held (.inr hunheld) (.inl ⟨now,h⟩)
        simp [hunheld.1] at huser
    refine ⟨hr',fun j reply hj hsuccess => ?_,fun e req he hh => ?_⟩
    · obtain ⟨_,now,rfl,hplaced⟩ := hreplies j _ hj hsuccess
      exact hfree now hplaced
    · exact hfree e.time ((holdSucceeds_iff hcfg he hr' req).mp hh)

end Course

section Batch

/-- Two names are in use as identifiers. -/
def twoIds : IdColumns where
  operand
    | .str s => some (if s = "evt" then 1 else if s = "A1" then 2 else 0)
    | _ => none
  stored
    | .str s => some (if s = "evt" then 1 else if s = "A1" then 2 else 0)
    | _ => none

def oneSeat (fields : List (String × Json)) : Json :=
  .obj [("eventId",.str "evt"),("seats",.arr [.obj (("seatId",.str "A1") :: fields)])]

/-- The table after the import of one seat under the key 5. -/
def importedAs (fields : List (String × Json)) : BatchAnswer :=
  createInventoryBatch .plain twoIds (· + 5) ∅ (oneSeat fields)

/-- The store of a seat that nobody has called for yet. -/
def fresh (r : SeatInventory) : SeatDb Unit := ⟨some r,none,0,[],none,∅⟩

def onlyHold : SeatRun Unit :=
  (Config.start (fresh ⟨1,2,.available,none,none,none⟩)
    (fun _ => (SeatCall.holdSeat ⟨7,60⟩).prog ⟨3,3,false⟩)).schedule (SeatDb.server Unit)
      (fun _ _ _ _ _ => true) (List.replicate 20 ((),⟨0,9,true,none⟩))

theorem imported_seat_course_held :
    importedAs [] = (.ok 1,(importedAs []).2) ∧
      onlyHold.shared.row.map (·.status) = some .held ∧ onlyHold.ended () ∧
      ∃ t, onlyHold.shared.clock ≤ t ∧ ∀ e req, t ≤ e.time → e.fault = none →
        HoldSucceeds ⟨3,3,false⟩ e onlyHold.shared req := by
  have hbatch : importedAs [] = (.ok 1,(importedAs []).2) := by rfl
  have hheld : onlyHold.shared.row.map (·.status) = some .held := by decide +kernel
  have hended : onlyHold.ended () := by decide +kernel
  refine ⟨hbatch,hheld,hended,?_⟩
  obtain ⟨r',hr',-,-,hback⟩ := (imported_seat_course ⟨3,3,false⟩ (by decide) .plain twoIds (· + 5)
    ∅ _ (oneSeat []) 1 hbatch 5 ⟨1,2,.available,none,none,none⟩ (by decide +kernel) rfl
    (fun _ => .holdSeat ⟨7,60⟩) (fresh ⟨1,2,.available,none,none,none⟩) rfl rfl onlyHold
    (Config.reach_schedule (fun _ _ _ _ _ _ => trivial) _ _)).1 (.inl rfl)
  refine (hback fun j => by cases j; exact hended).2 fun hsold => ?_
  rw [hr'] at hheld
  simp [hsold] at hheld

/-- A seat can be imported as held, and is then held by nobody, and for good; and without an attempt
allowed for deadlocks nobody can hold any seat. -/
theorem imported_as_held :
    importedAs [("status",.str "held")] = (.ok 1,(importedAs [("status",.str "held")]).2) ∧
      (importedAs [("status",.str "held")]).2.lookup 5 = some ⟨1,2,.held,none,none,none⟩ ∧
      (∀ e req, e.fault = none →
        ¬ HoldSucceeds ⟨3,3,false⟩ e (fresh ⟨1,2,.held,none,none,none⟩) req) ∧
      ∀ e req, ¬ HoldSucceeds ⟨0,3,false⟩ e (fresh ⟨1,2,.available,none,none,none⟩) req := by
  refine ⟨by rfl,by decide +kernel,fun e req he h => ?_,fun e req h => ?_⟩
  · have hfree := (holdSucceeds_iff (by decide) he rfl req).mp h
    simp [holdHasExpired] at hfree
  · obtain ⟨reply,hreply,-⟩ := h
    cases hreply

end Batch

end TicketRemaster.SeatInventory
