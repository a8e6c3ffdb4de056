import TicketRemaster.Resale.Consistency
import TicketRemaster.Transfer.Calls
set_option autoImplicit false

/-! The consumer of timeout messages against a cancellation by a party. Its PATCH has fields that
transfer-service does not support, so the transfer is never cancelled. -/

namespace TicketRemaster.Transfer

open Resumption SeatInventory Resale

/-- `_cancel_transfer`. The PATCH also sets `cancelledAt` and `cancelReason`; neither answer is
looked at, and an exception is logged only. -/
def cancelStuckTransfer (transferId : TransferId) (listingId : ListingId) : Handler Bool :=
  (do
    let _ ← callService (.patchTransfer transferId
      { status := some .cancelled, otherFields := true })
    let _ ← callService (.updateListing listingId .active)
    pure true : Handler Bool).handle fun _ => pure false

def isPending (s : TransferStatus) : Bool :=
  s ∈ [TransferStatus.pendingSellerAcceptance,.pendingBuyerOtp,.pendingSellerOtp]

/-- `on_timeout_message`; an exception leads to a `nack` without requeueing. -/
def onTimeoutMessage (transferId : TransferId) (listingId : ListingId) : Handler Unit := do
  match ← callService (.getTransfer transferId) with
  | .error _ => pure ()
  | .ok transfer =>
      if isPending transfer.status then
        let _ ← cancelStuckTransfer transferId listingId
        pure ()
      else pure ()

def statusOf (w : World) (i : TransferId) : Option TransferStatus :=
  (w.transfers.lookup i).map (·.status)

/-- The transfer, its listing and its ticket have the same statuses in both states. -/
structure SameStatuses (t : TicketRemaster.Transfer) (i : TransferId) (w w' : World) : Prop where
  transfer : statusOf w i = statusOf w' i
  listing : (w.listings.lookup t.listingId).map (·.status) =
    (w'.listings.lookup t.listingId).map (·.status)
  ticket (r : Listing) : w.listings.lookup t.listingId = some r →
    (w.tickets.lookup r.ticketId).map (·.status) = (w'.tickets.lookup r.ticketId).map (·.status)

section Runs

variable {cfg : SeatConfig} {w : World} {i : TransferId} {t : TicketRemaster.Transfer}
  {h : List (Entry Platform)}

/-- The status is among these. -/
def StatusIn (i : TransferId) (l : List TransferStatus) (w : World) : Prop :=
  ∃ s ∈ l, statusOf w i = some s

theorem statusIn_frame {w' : World} {T : Option TableName} {l : List TransferStatus}
    (hf : World.Frame T w w') (hT : T ≠ some .transfers) (hs : StatusIn i l w) :
    StatusIn i l w' := by
  obtain ⟨s,hmem,hstatus⟩ := hs
  exact ⟨s,hmem,by rw [statusOf,hf.transfers hT]; exact hstatus⟩

/-- Reading a transfer may expire it, unless it has ended. -/
theorem serve_getTransfer_status {e : Env} {j : TransferId} {s : TransferStatus}
    (hs : statusOf w i = some s) : statusOf (w.serve e (.getTransfer j)).2 i = some s ∨
      statusOf (w.serve e (.getTransfer j)).2 i = some .expired ∧
        s ∉ [TransferStatus.completed,.cancelled,.expired] := by
  simp only [World.serve,World.getTransfer]
  split
  · exact .inl hs
  · rename_i r hr
    split
    · rename_i hexpires
      by_cases hj : i = j
      · subst hj
        rw [statusOf,hr] at hs
        obtain rfl : r.status = s := Option.some.inj hs
        have hopen := (Bool.and_eq_true_iff.mp hexpires).2
        exact .inr ⟨by simp [statusOf,World.expire],of_decide_eq_true hopen⟩
      · rw [statusOf,AList.lookup_insert_ne hj]
        exact .inl hs
    · exact .inl hs

/-- The calls of the consumer: its PATCH is refused as a whole. -/
def ConsumerCall (q : Call) : Prop :=
  q.Reads ∨ q.writes = some .listings ∨ ∃ j p, p.otherFields ∧ q = .http (.patchTransfer j p)

theorem onTimeoutMessage_allowed {P : Call → Prop} {l : ListingId} (hr : ∀ q, Call.Reads q → P q)
    (hpatch : P (.http (.patchTransfer i { status := some .cancelled, otherFields := true })))
    (hlisting : P (.http (.updateListing l .active))) :
    (onTimeoutMessage i l).Calls P (fun _ => True) := by
  refine ask_calls (hr _ (.inr ⟨i,rfl⟩)) fun transfer => ?_
  cases transfer with
  | error code => trivial
  | ok t =>
    simp only
    split
    · refine Prog.calls_bind (Prog.calls_handle (S := fun _ => True) ?_ fun _ _ => trivial)
        fun _ => trivial
      exact ask_calls hpatch fun _ => ask_calls hlisting fun _ => trivial
    · trivial

theorem onTimeoutMessage_calls (i : TransferId) (l : ListingId) :
    (onTimeoutMessage i l).Calls ConsumerCall (fun _ => True) :=
  onTimeoutMessage_allowed (fun _ hq => .inl hq) (.inr (.inr ⟨_,_,rfl,rfl⟩)) (.inr (.inl rfl))

theorem refused_patch {e : Env} {j : TransferId} {p : TransferPatch} (hp : p.otherFields) :
    (w.serve e (.patchTransfer j p)).2 = w := by
  simp only [World.serve,World.patchTransfer]
  split
  · rfl
  · rfl

theorem statusIn_reads {q : Call} {e : Env} {l : List TransferStatus} (hq : q.Reads)
    (hl : ∀ s ∈ l, s ∉ [TransferStatus.completed,.cancelled,.expired] → .expired ∈ l)
    (hs : StatusIn i l w) : StatusIn i l (World.perform cfg e w q).2 := by
  rcases hq with hq | ⟨j,rfl⟩
  · exact statusIn_frame (World.perform_frame q) (by simp [hq]) hs
  · rcases World.perform_http_cases cfg e w (.getTransfer j) with hw | hw <;> rw [hw]
    · exact hs
    · obtain ⟨s,hmem,hstatus⟩ := hs
      rcases serve_getTransfer_status hstatus with hsame | ⟨hexpired,hopen⟩
      · exact ⟨s,hmem,hsame⟩
      · exact ⟨.expired,hl s hmem hopen,hexpired⟩

theorem onTimeoutMessage_always {E : List (Entry Platform) → Env → Prop} (l : ListingId)
    (ht : w.transfers.lookup i = some t) :
    Handler.Always cfg E (fun _ _ => StatusIn i [t.status,.expired])
      (fun _ _ => StatusIn i [t.status,.expired]) (onTimeoutMessage i l) h w := by
  have hstart : StatusIn i [t.status,.expired] w := ⟨t.status,by simp,by simp [statusOf,ht]⟩
  refine ((onTimeoutMessage_calls i l).always
    (J := fun _ => StatusIn i [t.status,.expired]) ?_ hstart).mono (fun _ _ _ hJ => hJ)
    (fun _ _ _ hJ => hJ.2)
  rintro q (hq | hq | ⟨j,p,hp,rfl⟩) h e w' - hs
  · exact statusIn_reads hq (by simp) hs
  · exact statusIn_frame (World.perform_frame q) (by simp [hq]) hs
  · have hw : (World.perform cfg e w' (.http (.patchTransfer j p))).2 = w' := by
      rcases World.perform_http_cases cfg e w' (.patchTransfer j p) with hw | hw
      · exact hw
      · rw [hw,refused_patch hp]
    show StatusIn i _ (World.perform cfg e w' (.http (.patchTransfer j p))).2
    rwa [hw]

/-- The calls that a cancellation makes once the transfer is cancelled. -/
def ClosingCall (q : Call) : Prop :=
  q.Reads ∨ q.writes = some .listings ∨ q.writes = some .tickets

theorem closing_always {E : List (Entry Platform) → Env → Prop} {α : Type} {p : Handler α}
    (hp : p.Calls ClosingCall (fun _ => True)) (hs : StatusIn i [.cancelled] w) :
    Handler.Always cfg E (fun _ _ => StatusIn i [.cancelled]) (fun _ _ => StatusIn i [.cancelled])
      p h w := by
  refine (hp.always (J := fun _ => StatusIn i [.cancelled]) ?_ hs).mono (fun _ _ _ hJ => hJ)
    (fun _ _ _ hJ => hJ.2)
  rintro q (hq | hq | hq) h e w' - hs
  · exact statusIn_reads hq (by simp) hs
  · exact statusIn_frame (World.perform_frame q) (by simp [hq]) hs
  · exact statusIn_frame (World.perform_frame q) (by simp [hq]) hs

/-- Everything is healthy, and the clock stays on one side of the expiry. -/
def OneSide (t : TicketRemaster.Transfer) (late : Bool) (_ : List (Entry Platform)) (e : Env) :
    Prop := e.fault = none ∧ World.isTransferExpired t e.time = late

theorem pending_open {s : TransferStatus} (hp : isPending s) :
    s ∉ [TransferStatus.completed,.cancelled,.expired] ∧ s ≠ .completed ∧ s ≠ .cancelled ∧
      s ≠ .failed := by
  cases s <;> simp_all [isPending]

/-- The row that reading a pending transfer shows and leaves. -/
def rowRead (t : TicketRemaster.Transfer) (late : Bool) : TicketRemaster.Transfer :=
  if late then World.expire t else t

theorem read_pending {e : Env} {late : Bool} (ht : w.transfers.lookup i = some t)
    (hp : isPending t.status) (he : OneSide t late h e) :
    ∃ w', World.perform cfg e w (.http (.getTransfer i)) = (.ok (rowRead t late),w') ∧
      w'.transfers.lookup i = some (rowRead t late) := by
  rw [healthy_perform he.1]
  simp only [World.serve,World.getTransfer,ht,World.autoExpires,he.2,(pending_open hp).1,rowRead]
  cases late
  · exact ⟨w,rfl,ht⟩
  · exact ⟨_,rfl,AList.lookup_insert _⟩

/-- A PATCH takes the row as it has just been read. -/
theorem patch_accepted {e : Env} {late : Bool} {p : TransferPatch} {s : TransferStatus}
    (ht : w.transfers.lookup i = some (rowRead t late)) (he : OneSide t late h e)
    (hs : p.status = some s) (hfields : p.otherFields = false) :
    ∃ v w', World.perform cfg e w (.http (.patchTransfer i p)) = (.ok v,w') ∧
      StatusIn i [s] w' := by
  have hlive : World.autoExpires (rowRead t late) e.time = false := by
    cases late
    · simp [World.autoExpires,rowRead,he.2]
    · simp [World.autoExpires,rowRead,World.expire]
  have hbody : p ≠ {} := fun hempty => by simp [hempty] at hs
  rw [healthy_perform he.1]
  simp only [World.serve,World.patchTransfer,hbody,hfields,ht,hlive]
  refine ⟨_,_,rfl,s,by simp,?_⟩
  simp [statusOf,World.setTransfer,hs]

theorem cancelTransfer_always {userId : UserId} {late : Bool} (ht : w.transfers.lookup i = some t)
    (hp : isPending t.status) (hparty : userId = t.buyerId ∨ userId = t.sellerId) :
    Handler.Always cfg (OneSide t late) (fun _ _ => StatusIn i [.cancelled])
      (fun _ _ => StatusIn i [.cancelled]) (cancelTransfer userId i) [] w := by
  have hbuyer : (rowRead t late).buyerId = t.buyerId := by cases late <;> rfl
  have hseller : (rowRead t late).sellerId = t.sellerId := by cases late <;> rfl
  have hopen : (rowRead t late).status ≠ .completed ∧ (rowRead t late).status ≠ .cancelled ∧
      (rowRead t late).status ≠ .failed := by
    cases late
    · exact (pending_open hp).2
    · simp [rowRead,World.expire]
  refine call_always fun e r w₁ he hr => ?_
  obtain ⟨w₁',hread,hrow⟩ : ∃ w', World.perform cfg e w (.http (.getTransfer i)) =
    (.ok (rowRead t late),w') ∧ w'.transfers.lookup i = some (rowRead t late) :=
      read_pending ht hp he
  obtain ⟨rfl,rfl⟩ := Prod.mk.inj (hr.symm.trans hread)
  show Handler.Always cfg _ _ _ (if userId ≠ (rowRead t late).buyerId ∧
    userId ≠ (rowRead t late).sellerId then _ else _) _ w₁
  rw [if_neg (by rw [hbuyer,hseller]; tauto),if_neg hopen.1,if_neg (by tauto)]
  refine call_always fun e' r' w₂ he' hr' => ?_
  obtain ⟨v,w₂',hpatch,hcancelled⟩ : ∃ v w', World.perform cfg e' w₁
    (.http (.patchTransfer i { status := some .cancelled })) = (.ok v,w') ∧
      StatusIn i [.cancelled] w' := patch_accepted hrow he' rfl rfl
  obtain ⟨rfl,rfl⟩ := Prod.mk.inj (hr'.symm.trans hpatch)
  refine Prog.always_bind.mpr (closing_always (reopen_calls ?_ ?_ ?_) hcancelled)
  · exact fun _ hq => .inl hq
  · exact .inr (.inl rfl)
  · exact fun _ => .inr (.inr rfl)

/-- The run of a handler that nothing interrupts. -/
def runAlone {α : Type} (cfg : SeatConfig) (p : Handler α) (ω : List (Entry Platform) → Env)
    (w : World) : Final Platform Unhandled α World := p.exec (World.server cfg Unit) () ω [] w

/-- Where every run of a handler ends, however it ends. -/
theorem runAlone_ends {α : Type} {E : List (Entry Platform) → Env → Prop} {J : World → Prop}
    {p : Handler α} {ω : List (Entry Platform) → Env}
    (hp : Handler.Always cfg E (fun _ _ => J) (fun _ _ => J) p [] w) (hω : ∀ h, E h (ω h)) :
    J (runAlone cfg p ω w).state := by
  have hmeets := Prog.Always.exec hp ω hω
  cases hr : (runAlone cfg p ω w).result with
  | ok r => exact hmeets.ok hr
  | error exc => exact hmeets.error hr

/-- In no state with a pending transfer does its timeout message have the effect of a cancellation
by a party: with all services healthy, the transfer is cancelled by the party only. -/
theorem timeout_unlike_cancellation (cfg : SeatConfig) (w : World) (i : TransferId)
    (t : TicketRemaster.Transfer) (l : ListingId) (userId : UserId) (late : Bool)
    (ω ω' : List (Entry Platform) → Env) (ht : w.transfers.lookup i = some t)
    (hp : isPending t.status) (hparty : userId = t.buyerId ∨ userId = t.sellerId)
    (hω : ∀ h, Healthy h (ω h)) (hω' : ∀ h, OneSide t late h (ω' h)) :
    ¬ SameStatuses t i (runAlone cfg (onTimeoutMessage i l) ω w).state
      (runAlone cfg (cancelTransfer userId i) ω' w).state := by
  have htimeout : StatusIn i [t.status,.expired] (runAlone cfg (onTimeoutMessage i l) ω w).state :=
    runAlone_ends (onTimeoutMessage_always l ht) hω
  have hcancel : StatusIn i [.cancelled] (runAlone cfg (cancelTransfer userId i) ω' w).state :=
    runAlone_ends (cancelTransfer_always ht hp hparty) hω'
  intro hsame
  obtain ⟨s,hs,hstatus⟩ := htimeout
  obtain ⟨s',hs',hstatus'⟩ := hcancel
  obtain rfl : s = s' := Option.some.inj (hstatus.symm.trans (hsame.transfer.trans hstatus'))
  obtain rfl : s = .cancelled := List.mem_singleton.mp hs'
  rcases List.mem_cons.mp hs with hpending | hexpired
  · rw [← hpending] at hp
    cases hp
  · cases List.mem_singleton.mp hexpired

end Runs

section Stuck

/-- The seller has withdrawn the listing of a pending transfer; then it times out. -/
def timedOut : World := (runAlone ⟨3,3,false⟩ (onTimeoutMessage 8 6) (calm 0) withdrawn).state

def cancelled : World := (runAlone ⟨3,3,false⟩ (cancelTransfer 2 8) (calm 0) withdrawn).state

def pendingTransfer : TicketRemaster.Transfer :=
  ⟨6,2,1,.pendingBuyerOtp,30,false,false,some 8,none,none,seconds 86400,0⟩

theorem timeout_unlike_cancellation_withdrawn :
    ¬ SameStatuses pendingTransfer 8 timedOut cancelled :=
  timeout_unlike_cancellation ⟨3,3,false⟩ withdrawn 8 pendingTransfer 6 2 false (calm 0) (calm 0)
    (by decide +kernel) rfl (.inl rfl) (calm_healthy 0) (fun _ => ⟨rfl,rfl⟩)

/-- The listing is active again, though the transfer is still pending. -/
theorem timeout_reactivates_pending :
    Reaches (fun _ _ _ => True) freshWorld withdrawn ∧
      statusOf withdrawn 8 = some .pendingBuyerOtp ∧
      (withdrawn.listings.lookup 6).map (·.status) = some .cancelled ∧
      statusOf timedOut 8 = some .pendingBuyerOtp ∧
      (timedOut.listings.lookup 6).map (·.status) = some .active ∧
      statusOf cancelled 8 = some .cancelled := by
  refine ⟨?_,by decide +kernel,by decide +kernel,by decide +kernel,by decide +kernel,
    by decide +kernel⟩
  exact ((Reaches.serve .refl (.listTicket 1 (some 5) none) 6 trivial).serve
    (.initiate 2 (some 6)) 8 trivial).serve (.delist 1 6) 0 trivial

end Stuck

end TicketRemaster.Transfer
