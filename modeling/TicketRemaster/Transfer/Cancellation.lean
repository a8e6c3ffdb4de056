import TicketRemaster.Transfer.Requests
set_option autoImplicit false

/-! A cancelled transfer stays cancelled, as long as no other request on it is under way when
the cancellation's PATCH arrives: nobody checks the status again before writing. -/

namespace TicketRemaster.Transfer

open Resumption SeatInventory

/-- The transfer is cancelled, and no credits, ledger entries or tickets have moved. -/
structure StaysCancelled (i : TransferId) (w₁ w : World) : Prop where
  status : statusOf w i = some .cancelled
  credits : w.credits = w₁.credits
  ledger : w.creditTransactions = w₁.creditTransactions
  owners (j : TicketId) :
    (w.tickets.lookup j).map (·.ownerId) = (w₁.tickets.lookup j).map (·.ownerId)

/-- A call that leaves a cancelled transfer cancelled, and moves nothing. -/
def LeavesCancelled (q : Call) : Prop :=
  q.Reads ∨ (∃ j p, p.status = none ∧ q = .http (.patchTransfer j p)) ∨
    (∃ l s, q = .http (.updateListing l s)) ∨
    ∃ j, q = .http (.updateTicket j { status := some .listed })

section Calls

variable {cfg : SeatConfig} {e : Env} {w w₁ : World} {i : TransferId} {q : Call}

theorem leavesCancelled_writes (hq : LeavesCancelled q) :
    q.writes ≠ some .credits ∧ q.writes ≠ some .creditTransactions := by
  rcases hq with (hq | ⟨i,rfl⟩) | ⟨j,p,-,rfl⟩ | ⟨l,s,rfl⟩ | ⟨j,rfl⟩
  · simp [hq]
  all_goals simp [Call.writes,Http.writes]

theorem leavesCancelled_status (hq : LeavesCancelled q) (hs : statusOf w i = some .cancelled) :
    statusOf (World.perform cfg e w q).2 i = some .cancelled := by
  have hchange := perform_change cfg e w i q
  obtain ⟨t,ht,hstatus⟩ := Option.map_eq_some_iff.mp hs
  rw [ht] at hchange
  unfold statusOf
  generalize (World.perform cfg e w q).2.transfers.lookup i = r at hchange
  cases hchange with
  | keep => simp [hstatus]
  | expire _ hexpires => simp [World.autoExpires,hstatus] at hexpires
  | patch _ p hp =>
    subst hp
    rcases hq with (hq | ⟨j,hq⟩) | ⟨j,p',hnone,hq⟩ | ⟨l,s,hq⟩ | ⟨j,hq⟩
    · simp [Call.writes,Http.writes] at hq
    · cases hq
    · cases hq
      simp [World.setTransfer,hnone,hstatus]
    · cases hq
    · cases hq

theorem updateTicket_owners {j : Option TicketId} {s : TicketStatus} (k : TicketId) :
    ((w.serve e (.updateTicket j { status := some s })).2.tickets.lookup k).map (·.ownerId) =
      (w.tickets.lookup k).map (·.ownerId) := by
  rcases World.serve_updateTicket_cases e j { status := some s } with hw | ⟨l,t,-,ht,hw⟩
  · rw [hw]
  · rw [hw]
    by_cases hk : k = l
    · subst hk
      simp [World.patchTicket,ht]
    · simp [AList.lookup_insert_ne hk]

theorem StaysCancelled.perform (h : StaysCancelled i w₁ w) (hq : LeavesCancelled q) :
    StaysCancelled i w₁ (World.perform cfg e w q).2 where
  status := leavesCancelled_status hq h.status
  credits := ((World.perform_frame q).credits (leavesCancelled_writes hq).1).trans h.credits
  ledger :=
    ((World.perform_frame q).creditTransactions (leavesCancelled_writes hq).2).trans h.ledger
  owners j := by
    rw [← h.owners j]
    by_cases hw : q.writes = some .tickets
    · rcases hq with (hq | ⟨i,rfl⟩) | ⟨j,p,-,rfl⟩ | ⟨l,s,rfl⟩ | ⟨j',rfl⟩
      · simp [hq] at hw
      · simp [Call.writes,Http.writes] at hw
      · simp [Call.writes,Http.writes] at hw
      · simp [Call.writes,Http.writes] at hw
      · rcases World.perform_http_cases cfg e w (.updateTicket j' { status := some .listed })
          with hp | hp <;> rw [hp]
        exact updateTicket_owners j
    · rw [(World.perform_frame q).tickets hw]

end Calls

section Requests

variable {α : Type} {h : List (Entry Platform)} {i : TransferId}

/-- Whoever reads the transfer now sees that it is cancelled. -/
def SeenCancelled (i : TransferId) (_ : List (Entry Platform)) : (q : Call) → q.Ans → Prop
  | .http (.getTransfer j), .ok t => j = i → t.status = .cancelled
  | _, _ => True

/-- From here on the program leaves a transfer that it sees cancelled alone, and ends as said. -/
abbrev LeavesAlone (i : TransferId) (p : Handler α) (h : List (Entry Platform))
    (fin : α → Prop := fun _ => True) : Prop :=
  p.Follows (fun _ => LeavesCancelled) (SeenCancelled i) (fun a _ => fin a) (fun _ _ => True) h

theorem calls_leaveAlone {p : Handler α} (hp : p.Calls LeavesCancelled (fun _ => True)) :
    LeavesAlone i p h :=
  (hp.follows (J := fun _ => True) (fun _ _ hq _ => hq) (fun _ _ _ _ _ => trivial)
    trivial).mono (fun _ _ _ => trivial) (fun _ _ _ => trivial)

/-- A request that begins with reading the transfer. -/
theorem read_leavesAlone {f : Except String TicketRemaster.Transfer → Handler α} {fin : α → Prop}
    (hok : ∀ t h, t.status = .cancelled → LeavesAlone i (f (.ok t)) h fin)
    (herr : ∀ code h, LeavesAlone i (f (.error code)) h fin) :
    LeavesAlone i (callService (.getTransfer i) >>= f) h fin := by
  refine ⟨.inl (.inr ⟨i,rfl⟩),fun a ha => ?_⟩
  cases a with
  | ok t => exact hok t _ (ha rfl)
  | error code => exact herr code _
  | raised => trivial

theorem buyerVerify_leavesAlone (u : UserId) (otp : Option Nat) :
    LeavesAlone i (buyerVerify u i otp) h := by
  cases otp with
  | none => trivial
  | some otp =>
    refine read_leavesAlone (fun t h ht => ?_) fun _ _ => trivial
    simp only [ht]
    split
    · trivial
    · split <;> trivial

theorem sellerAccept_leavesAlone (u : UserId) : LeavesAlone i (sellerAccept u i) h := by
  refine read_leavesAlone (fun t h ht => ?_) fun _ _ => trivial
  simp only [ht]
  split <;> trivial

theorem prepareSettlement_leavesAlone (u : UserId) (otp : Option Nat) :
    LeavesAlone i (prepareSettlement u i otp) h (fun r => ∃ answer, r = .error answer) := by
  cases otp with
  | none => exact ⟨_,rfl⟩
  | some otp =>
    refine read_leavesAlone (fun t h ht => ?_) fun _ _ => ⟨_,rfl⟩
    simp only [ht]
    split
    · exact ⟨_,rfl⟩
    · split
      · exact ⟨_,rfl⟩
      · exact ⟨_,rfl⟩

theorem sellerVerify_leavesAlone (u : UserId) (otp : Option Nat) :
    LeavesAlone i (sellerVerify u i otp) h := by
  refine Prog.follows_bind.mpr ((prepareSettlement_leavesAlone u otp).mono (fun r h' hr => ?_)
    (fun _ _ hx => hx))
  obtain ⟨answer,rfl⟩ := hr
  trivial

theorem resendOtp_leavesAlone (u : UserId) :
    (resendOtp u i).Calls LeavesCancelled (fun _ => True) :=
  resendOtp_calls (fun _ hq => .inl hq) (fun _ => .inr (.inl ⟨_,_,rfl,rfl⟩))
    (fun _ => .inr (.inl ⟨_,_,rfl,rfl⟩))

/-- The cancellation's PATCH is in the history. -/
def patched (i : TransferId) (h : List (Entry Platform)) : Bool :=
  h.any (fun x => x.1 = .http (.patchTransfer i { status := some .cancelled }))

/-- What a cancellation may call, before its PATCH and after. -/
def Cancels (i : TransferId) (h : List (Entry Platform)) (q : Call) : Prop :=
  patched i h → LeavesCancelled q

theorem calls_cancel {p : Handler α} (hp : p.Calls LeavesCancelled (fun _ => True)) :
    p.Follows (Cancels i) (fun _ _ _ => True) (fun _ _ => True) (fun _ _ => True) h := by
  have hfollows : p.Follows (Cancels i) (fun _ _ _ => True) (fun _ _ => True)
      (fun _ _ => True ∧ True) h :=
    hp.follows (J := fun _ => True) (fun _ _ hq _ => fun _ => hq) (fun _ _ _ _ _ => trivial) trivial
  exact hfollows.mono (fun _ _ _ => trivial) (fun _ _ _ => trivial)

theorem closeTransfer_cancels {t : TicketRemaster.Transfer} {eventType : String}
    (hh : patched i h = false) : (closeTransfer i t eventType).Follows (Cancels i)
      (fun _ _ _ => True) (fun _ _ => True) (fun _ _ => True) h := by
  refine ⟨fun hp => by simp [hh] at hp,fun a _ => ?_⟩
  have hread : ∀ q, Call.Reads q → LeavesCancelled q := fun _ hq => .inl hq
  cases a with
  | raised => trivial
  | _ =>
    refine calls_cancel (reopen_calls hread (.inr (.inr (.inl ⟨_,_,rfl⟩))) ?_)
    exact fun _ => .inr (.inr (.inr ⟨_,rfl⟩))

/-- After its PATCH a cancellation leaves the transfer cancelled. -/
theorem cancelTransfer_cancels (u : UserId) : (cancelTransfer u i).Follows (Cancels i)
    (fun _ _ _ => True) (fun _ _ => True) (fun _ _ => True) [] := by
  refine ⟨(by simp [Cancels,patched]),fun a _ => ?_⟩
  cases a with
  | raised => trivial
  | error code => trivial
  | ok t =>
    show (if u ≠ t.buyerId ∧ u ≠ t.sellerId then _ else _ : Handler _).Follows _ _ _ _ _
    split
    · trivial
    · split
      · trivial
      · split
        · trivial
        · refine Prog.follows_bind.mpr ((closeTransfer_cancels (by simp [patched])).mono ?_ ?_)
          · exact fun _ _ _ => trivial
          · exact fun _ _ hx => hx

end Requests

section Interleaved

variable {ι : Type} [DecidableEq ι] {cfg : SeatConfig} {i : TransferId} {w₁ : World}

/-- The requests that a cancellation competes with. -/
def Request.Competes (i : TransferId) : Request → Prop
  | .buyerVerify _ j _ | .sellerAccept _ j | .resendOtp _ j | .sellerVerify _ j _ => j = i
  | _ => False

def Request.resends : Request → Bool
  | .resendOtp _ _ => true
  | _ => false

/-- What a request may call up to the cancellation. -/
def Before (req : Request) (h : List (Entry Platform)) (q : Call) : Prop :=
  match req with
  | .cancelTransfer _ i => Cancels i h q
  | .resendOtp _ _ => LeavesCancelled q
  | _ => True

theorem handler_before (req : Request) : req.handler.Follows (Before req) (fun _ _ _ => True)
    (fun _ _ => True) (fun _ _ => True) [] := by
  cases req with
  | cancelTransfer u i =>
    exact Prog.follows_bind.mpr ((cancelTransfer_cancels u).mono (fun _ _ _ => trivial)
      (fun _ _ hx => hx))
  | resendOtp u i =>
    have hcalls : (resendOtp u i).Follows (fun _ => LeavesCancelled) (fun _ _ _ => True)
        (fun _ _ => True) (fun _ _ => True ∧ True) [] :=
      (resendOtp_leavesAlone u).follows (J := fun _ => True) (fun _ _ hq _ => hq)
        (fun _ _ _ _ _ => trivial) trivial
    exact Prog.follows_bind.mpr (hcalls.mono (fun _ _ _ => trivial) (fun _ _ _ => trivial))
  | _ =>
    refine ((Prog.calls_true _).follows (J := fun _ => True) ?_ ?_ trivial).mono
      (fun _ _ _ => trivial) (fun _ _ _ => trivial)
    · exact fun _ _ _ _ => trivial
    · exact fun _ _ _ _ _ => trivial

theorem handler_leavesAlone {req : Request} (hreq : req.Competes i) (h : List (Entry Platform)) :
    LeavesAlone i req.handler h := by
  cases req with
  | buyerVerify u j otp =>
    obtain rfl : j = i := hreq
    exact Prog.follows_bind.mpr (buyerVerify_leavesAlone u otp)
  | sellerAccept u j =>
    obtain rfl : j = i := hreq
    exact Prog.follows_bind.mpr (sellerAccept_leavesAlone u)
  | resendOtp u j =>
    obtain rfl : j = i := hreq
    exact Prog.follows_bind.mpr (calls_leaveAlone (resendOtp_leavesAlone u))
  | sellerVerify u j otp =>
    obtain rfl : j = i := hreq
    exact Prog.follows_bind.mpr (sellerVerify_leavesAlone u otp)
  | _ => exact absurd hreq id

theorem staysCancelled_keeps : Keeps (World.server cfg ι) Config.anyStep
    (fun _ _ => LeavesCancelled) (fun _ => SeenCancelled i)
    (fun w (_ : ι → List (Entry Platform)) => StaysCancelled i w₁ w) := by
  intro w past k e q hw _ _ hq
  have hafter : StaysCancelled i w₁ (World.perform cfg e w q).2 := hw.perform hq
  refine ⟨?_,hafter⟩
  simp only [World.server]
  generalize ha : (World.perform cfg e w q).1 = a
  cases q with
  | http q =>
    cases q with
    | getTransfer j =>
      cases a with
      | ok t =>
        rintro rfl
        have hrow := getTransfer_answer ha
        simpa [statusOf,hrow] using hafter.status
      | _ => trivial
    | _ => trivial
  | _ => trivial

/-- The next call of the participant is the cancellation's PATCH. -/
def AboutToCancel (c : Config ι Platform Unhandled (Option Nat) World) (k : ι) (i : TransferId) :
    Prop :=
  ∃ f, (c.thread k).rest = .call (.http (.patchTransfer i { status := some .cancelled })) f

/-- No other request, apart from resends, has read the transfer and still has a write to make. -/
def NoneUnderWay (requests : ι → Request) (c : Config ι Platform Unhandled (Option Nat) World)
    (k : ι) : Prop :=
  ∀ j, j ≠ k → (requests j).resends ∨ c.past j = [] ∨
    (c.thread j).rest.Calls Call.Reads (fun _ => True)

/-- After its PATCH, a cancellation leaves the transfer alone. -/
theorem cancelling_leavesAlone {req : Request} {u : UserId} {h : List (Entry Platform)} {q : Call}
    {f : Platform.Ans q → Handler (Option Nat)} (hcancel : req = .cancelTransfer u i)
    (hq : q = .http (.patchTransfer i { status := some .cancelled }))
    (hbefore : (Prog.call q f : Handler (Option Nat)).Follows (Before req) (fun _ _ _ => True)
      (fun _ _ => True) (fun _ _ => True) h)
    (a : Platform.Ans q) : LeavesAlone i (f a) (⟨q,a⟩ :: h) := by
  refine calls_leaveAlone ((hbefore.2 a trivial).calls_of (J := fun h => patched i h) ?_ ?_
    (by simp [patched,hq]))
  · intro h q hp hq
    simp only [Before,hcancel] at hq
    exact hq hp
  · intro h x hp
    simp only [patched,List.any_cons,Bool.or_eq_true]
    exact .inr hp

/-- A request that is not under way leaves a cancelled transfer alone. -/
theorem other_leavesAlone {w : World} {requests : ι → Request} {k j : ι}
    {c : Config ι Platform Unhandled (Option Nat) World}
    (hreach : Config.Reach (World.server cfg ι) Config.anyStep
      (Config.start w fun j => (requests j).handler) c)
    (hbefore : (c.thread j).rest.Follows (Before (requests j)) (fun _ _ _ => True)
      (fun _ _ => True) (fun _ _ => True) (c.past j))
    (hcompetes : (requests j).Competes i) (hquiet : NoneUnderWay requests c k) (hj : j ≠ k) :
    LeavesAlone i (c.thread j).rest (c.past j) := by
  rcases hquiet j hj with hresend | hunstarted | hreads
  · refine calls_leaveAlone (hbefore.calls_of (J := fun _ => True) ?_ ?_ trivial)
    · intro h q _ hq
      cases hreq : requests j <;> simp_all [Before,Request.resends]
    · exact fun _ _ _ => trivial
  · rw [Config.unstarted hreach hunstarted]
    exact handler_leavesAlone hcompetes _
  · exact calls_leaveAlone (hreads.mono (fun _ hq => .inl hq) (fun _ hR => hR))

/-- If no other request is under way when the cancellation's PATCH takes effect, the transfer
stays cancelled and nothing moves, however the run goes on. -/
theorem cancelled_stays_cancelled (cfg : SeatConfig) (w : World) (requests : ι → Request) (k : ι)
    (u : UserId) (i : TransferId) (c c' d : Config ι Platform Unhandled (Option Nat) World)
    (e : Env) (hcancel : requests k = .cancelTransfer u i)
    (hothers : ∀ j, j ≠ k → (requests j).Competes i)
    (hreach : Config.Reach (World.server cfg ι) Config.anyStep
      (Config.start w fun j => (requests j).handler) c)
    (hnext : AboutToCancel c k i) (hstep : c.advance (World.server cfg ι) k e = some c')
    (hcancelled : statusOf c'.shared i = some .cancelled) (hquiet : NoneUnderWay requests c k)
    (hlater : Config.Reach (World.server cfg ι) Config.anyStep c' d) :
    StaysCancelled i c'.shared d.shared := by
  have hbefore : c.Disciplined (fun j => Before (requests j)) (fun _ _ _ _ => True)
      (fun _ _ _ => True) (fun _ _ _ => True) (fun _ _ => True) :=
    (Config.disciplined_start trivial (fun j => handler_before (requests j))).reach
      (fun _ _ _ _ _ _ _ _ _ => ⟨trivial,trivial⟩) hreach
  have hafter : c'.Disciplined (fun _ _ => LeavesCancelled) (fun _ => SeenCancelled i)
      (fun _ _ _ => True) (fun _ _ _ => True) (fun w _ => StaysCancelled i c'.shared w) := by
    refine ⟨⟨hcancelled,rfl,rfl,fun _ => rfl⟩,fun j => ?_⟩
    obtain ⟨q,f,hr,-,rfl⟩ := Config.advance_cases hstep
    by_cases hj : j = k
    · subst hj
      obtain ⟨f',hr'⟩ := hnext
      cases hr.symm.trans hr'
      have hrest := hbefore.2 j
      rw [hr] at hrest
      simpa [Config.past] using cancelling_leavesAlone hcancel rfl hrest
        ((World.server cfg ι).serve j e c.shared _).1
    · simpa [Config.past,hj] using
        other_leavesAlone hreach (hbefore.2 j) (hothers j hj) hquiet hj
  exact (hafter.reach staysCancelled_keeps hlater).1

end Interleaved

section Rivals

/-- Three requests about one transfer. -/
inductive Rival
  | verifier | canceller | settler
  deriving DecidableEq

/-- The buyer verifies and cancels transfer 8, and its seller settles it. -/
def rivals : Rival → Request
  | .verifier => .buyerVerify 2 8 (some 5)
  | .canceller => .cancelTransfer 2 8
  | .settler => .sellerVerify 1 8 (some 5)

def rivalsStart : Config Rival Platform Unhandled (Option Nat) World :=
  Config.start Resale.offered fun k => (rivals k).handler

/-- Runs of the same request, each so many calls long. -/
def inTurns (c : Config Rival Platform Unhandled (Option Nat) World)
    (turns : List (Rival × Nat)) : Config Rival Platform Unhandled (Option Nat) World :=
  c.schedule (World.server ⟨3,3,false⟩ Rival) (fun _ _ _ _ _ => true)
    (turns.flatMap fun turn => List.replicate turn.2 (turn.1,Resale.calm 9 []))

theorem inTurns_reach (c : Config Rival Platform Unhandled (Option Nat) World)
    (turns : List (Rival × Nat)) :
    Config.Reach (World.server ⟨3,3,false⟩ Rival) Config.anyStep c (inTurns c turns) :=
  Config.reach_schedule (fun _ _ _ _ _ _ => trivial) _ _

/-- The cancellation has read the transfer, before anyone else has. -/
def alone : Config Rival Platform Unhandled (Option Nat) World :=
  inTurns rivalsStart [(.canceller,1)]

def aloneCancelled : Config Rival Platform Unhandled (Option Nat) World :=
  (alone.advance (World.server ⟨3,3,false⟩ Rival) .canceller (Resale.calm 9 [])).get
    (by decide +kernel)

theorem cancelled_stays_cancelled_alone :
    StaysCancelled 8 aloneCancelled.shared
      (inTurns aloneCancelled [(.verifier,1),(.canceller,6),(.settler,1)]).shared := by
  have hothers : ∀ j, j ≠ .canceller → (rivals j).Competes 8 ∧ alone.past j = [] := by
    intro j hj
    cases j with
    | verifier => exact ⟨rfl,rfl⟩
    | canceller => exact absurd rfl hj
    | settler => exact ⟨rfl,rfl⟩
  exact cancelled_stays_cancelled ⟨3,3,false⟩ Resale.offered rivals .canceller 2 8 alone
    aloneCancelled _ (Resale.calm 9 []) rfl (fun j hj => (hothers j hj).1) (inTurns_reach _ _)
    ⟨_,rfl⟩ (Option.some_get _).symm (by decide +kernel) (fun j hj => .inr (.inl (hothers j hj).2))
    (inTurns_reach _ _)

/-- The buyer's OTP is being checked when the PATCH of the cancellation takes effect. -/
def raced : Config Rival Platform Unhandled (Option Nat) World :=
  inTurns rivalsStart [(.verifier,3),(.canceller,2)]

def racedSettled : Config Rival Platform Unhandled (Option Nat) World :=
  inTurns raced [(.canceller,6),(.verifier,17),(.settler,35)]

/-- The cancellation has answered 200, and the transfer is settled all the same. -/
theorem cancelled_transfer_settles :
    Config.Reach (World.server ⟨3,3,false⟩ Rival) Config.anyStep rivalsStart raced ∧
      statusOf raced.shared 8 = some .cancelled ∧
      Config.Reach (World.server ⟨3,3,false⟩ Rival) Config.anyStep raced racedSettled ∧
      racedSettled.result .canceller = some (some 200) ∧
      statusOf racedSettled.shared 8 = some .completed ∧
      raced.shared.credits.lookup 1 = some 0 ∧ racedSettled.shared.credits.lookup 1 = some 30 ∧
      ¬ StaysCancelled 8 raced.shared racedSettled.shared := by
  have hsettled : statusOf racedSettled.shared 8 = some .completed := by decide +kernel
  refine ⟨inTurns_reach _ _,by decide +kernel,inTurns_reach _ _,by decide +kernel,hsettled,
    by decide +kernel,by decide +kernel,?_⟩
  intro hstays
  cases hsettled.symm.trans hstays.status

end Rivals

end TicketRemaster.Transfer
