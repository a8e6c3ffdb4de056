import TicketRemaster.Transfer.Completion
set_option autoImplicit false

/-! What a failed `POST /transfer/initiate` leaves behind. -/

namespace TicketRemaster.Transfer

open Resumption

section Leftovers

def creation : Entry Platform → Option CreatedTransfer
  | ⟨.http (.createTransfer _),.ok transfer⟩ => some transfer
  | _ => none

/-- The calls since the record was created, oldest first. -/
def afterCreation (h : List (Entry Platform)) : List (Entry Platform) :=
  (h.takeWhile fun x => (creation x).isNone).reverse

/-- The first call after the record was created, for the buyer, has failed, or the second one, for
the OTP. -/
def brokenOff (h : List (Entry Platform)) : Bool :=
  match afterCreation h with
  | ⟨.http (.getUser _),.error _⟩ :: _ => true
  | _ :: ⟨.http (.sendOtp _),.error _⟩ :: _ => true
  | _ => false

abbrev InitiateRun := Final Platform Unhandled (Response TransferAnswer) World

def isErrorAnswer {δ : Type} : Except Unhandled (Response δ) → Bool
  | .ok (.data _ _) => false
  | _ => true

/-- The transfer cannot be acted on any more, and is not completed. -/
def CalledOff (w : World) (transferId : TransferId) : Prop :=
  ∃ t, w.transfers.lookup transferId = some t ∧
    t.status ∈ [TransferStatus.cancelled,.failed,.expired]

/-- After an error answer, a transfer that the run has created is called off. -/
def LeavesNothing (f : InitiateRun) : Prop :=
  isErrorAnswer f.result → ∀ x ∈ f.past, ∀ transfer, creation x = some transfer →
    CalledOff f.state transfer.transferId

end Leftovers

section Run

variable {cfg : SeatInventory.SeatConfig} {E : List (Entry Platform) → Env → Prop}
  {h : List (Entry Platform)} {w : World}

/-- The run leaves nothing behind unless it was cut short, and raises nothing. -/
abbrev Tidy (cfg : SeatInventory.SeatConfig) (E : List (Entry Platform) → Env → Prop)
    (p : Handler (Response TransferAnswer)) (h : List (Entry Platform)) (w : World) : Prop :=
  Handler.Always cfg E (fun a h w => LeavesNothing ⟨.ok a,h,w⟩ ↔ ¬ brokenOff h) (fun _ _ _ => False)
    p h w

theorem nothing_created {f : InitiateRun} (hnone : ∀ x ∈ f.past, creation x = none)
    (hcut : brokenOff f.past = false) : LeavesNothing f ↔ ¬ brokenOff f.past := by
  refine iff_of_true (fun _ x hx transfer hcreated => ?_) (by simp [hcut])
  rw [hnone x hx] at hcreated
  cases hcreated

/-- The new row is where a run that is cut short leaves it. -/
theorem left_pending {f : InitiateRun} {x : Entry Platform} {transfer : CreatedTransfer}
    {t : TicketRemaster.Transfer} (herror : isErrorAnswer f.result) (hx : x ∈ f.past)
    (hcreated : creation x = some transfer)
    (hrow : f.state.transfers.lookup transfer.transferId = some t)
    (hstatus : t.status = .pendingSellerAcceptance) (hcut : brokenOff f.past) :
    LeavesNothing f ↔ ¬ brokenOff f.past := by
  refine iff_of_false (fun h => ?_) (fun hnot => hnot hcut)
  obtain ⟨t',hrow',hoff⟩ := h herror x hx transfer hcreated
  cases hrow.symm.trans hrow'
  rw [hstatus] at hoff
  exact absurd hoff (by decide)

/-- The buyer was found and the OTP sent. -/
def Started (h : List (Entry Platform)) : Prop :=
  ∃ userId buyer phoneNumber sid rest, afterCreation h =
    ⟨.http (.getUser userId),.ok buyer⟩ :: ⟨.http (.sendOtp phoneNumber),.ok sid⟩ :: rest

theorem Started.not_brokenOff (hs : Started h) : ¬ brokenOff h := by
  obtain ⟨userId,buyer,phoneNumber,sid,rest,hafter⟩ := hs
  simp [brokenOff,hafter]

theorem Started.cons (hs : Started h) {x : Entry Platform} (hx : creation x = none) :
    Started (x :: h) := by
  obtain ⟨userId,buyer,phoneNumber,sid,rest,hafter⟩ := hs
  refine ⟨userId,buyer,phoneNumber,sid,rest ++ [x],?_⟩
  unfold afterCreation at hafter ⊢
  rw [List.takeWhile_cons_of_pos (by simp [hx]),List.reverse_cons,hafter]
  rfl

/-- No answer to such a call creates a record. -/
def CreatesNothing (q : Call) : Prop := ∀ a, creation ⟨q,a⟩ = none

theorem reads_createNothing {q : Call} (hq : Call.Reads q) : CreatesNothing q := by
  intro a
  rcases hq with hq | ⟨i,rfl⟩
  · cases q with
    | http q => cases q <;> first | rfl | cases hq
    | _ => rfl
  · rfl

def NotRaised (_ : List (Entry Platform)) : (q : Call) → q.Ans → Prop
  | .http _, .raised => False
  | _, _ => True

theorem definite_answers {e : Env} (he : e.Definite) (h : List (Entry Platform)) (w : World)
    (q : Call) : NotRaised h q (World.perform cfg e w q).1 := by
  cases q with
  | http q =>
    have hne : (World.perform cfg e w (.http q)).1 ≠ .raised := definite_not_raised he
    generalize (World.perform cfg e w (.http q)).1 = reply at hne
    cases reply with
    | raised => exact absurd rfl hne
    | _ => trivial
  | _ => trivial

/-- Once the OTP is sent, nothing ends the request with an error. -/
theorem started_tidy (hE : ∀ h e, E h e → e.Definite) {p : Handler (Response TransferAnswer)}
    (hp : p.Follows (fun _ => CreatesNothing) NotRaised
      (fun answer _ => isErrorAnswer (.ok answer : Except Unhandled _) = false) (fun _ _ => False) h)
    (hs : Started h) : Tidy cfg E p h w := by
  induction p generalizing h w with
  | ret answer =>
    refine iff_of_true (fun herror => ?_) hs.not_brokenOff
    exact absurd (hp.symm.trans herror) (by decide)
  | raise e => exact hp.elim
  | call q k ih =>
    exact fun e he => ih _ (hp.2 _ (definite_answers (hE h e he) h w q)) (hs.cons (hp.1 _))

theorem reads_then {α β : Type} {p : Handler α} {f : α → Handler β}
    {fin : β → List (Entry Platform) → Prop} {exc : Unhandled → List (Entry Platform) → Prop}
    (hp : Handler.Reads p)
    (hf : ∀ a h, (f a).Follows (fun _ => CreatesNothing) NotRaised fin exc h) :
    (p >>= f).Follows (fun _ => CreatesNothing) NotRaised fin exc h := by
  refine Prog.follows_bind.mpr (((hp NotRaised (fun _ => False) h fun _ _ hf => hf).weaken
    fun _ _ hq => reads_createNothing hq).mono (fun a h' _ => hf a h') fun _ _ hf => hf.elim)

theorem patch_then {β : Type} {transferId : TransferId} {data : TransferPatch}
    {f : Except String TicketRemaster.Transfer → Handler β}
    {fin : β → List (Entry Platform) → Prop} {exc : Unhandled → List (Entry Platform) → Prop}
    (hf : ∀ a h, (f a).Follows (fun _ => CreatesNothing) NotRaised fin exc h) :
    (callService (.patchTransfer transferId data) >>= f).Follows (fun _ => CreatesNothing) NotRaised
      fin exc h := by
  refine Prog.follows_bind.mpr ⟨fun _ => rfl,fun reply hreply => ?_⟩
  cases reply with
  | raised => exact hreply.elim
  | ok v => exact hf _ _
  | error code => exact hf _ _

theorem openTransfer_tidy (hE : ∀ h e, E h e → e.Definite) (u : UserId) (l : ListingId)
    (listing : Listing) (hnone : ∀ x ∈ h, creation x = none)
    (hcut : ∀ x, creation x = none → brokenOff (x :: h) = false) :
    Tidy cfg E (openTransfer u l listing) h w := by
  refine callService_always (fun e transfer w' _ hp => ?_) (fun e code w' _ _ => ?_) ?_
  · obtain ⟨-,t,hrows,-,-,hstatus⟩ := createTransfer_row (World.perform_ok hp)
    have hrow : w'.transfers.lookup transfer.transferId = some t := by
      rw [hrows,AList.lookup_insert]
    refine callService_definite hE (by simp [Http.writes]) (fun e buyer w'' _ hs => ?_)
      fun code => ?_
    · have hsame : w'' = w' := by
        have hread := World.serve_read (w := w') (e := e) (q := .getUser u) rfl
        rw [hs] at hread
        exact hread
      rw [hsame]
      refine callService_definite hE (by simp [Http.writes]) (fun e sid w₃ _ _ => ?_) fun code => ?_
      · refine started_tidy hE ?_ ⟨u,buyer,buyer.phoneNumber,sid,[],rfl⟩
        refine patch_then fun _ _ => ?_
        refine reads_then (publishTransferTimeout_reads _ _ _ _) fun _ _ => ?_
        refine reads_then (broadcastTransferNotification_reads _ _) fun _ _ => ?_
        exact reads_then (enrichTransfer_reads _) fun _ _ => rfl
      · exact left_pending rfl (List.mem_cons_of_mem _ (List.mem_cons_of_mem _ List.mem_cons_self))
          rfl hrow hstatus rfl
    · exact left_pending rfl (List.mem_cons_of_mem _ List.mem_cons_self) rfl hrow hstatus rfl
  · exact nothing_created (fun x hx => by
      rcases List.mem_cons.mp hx with rfl | hx
      · rfl
      · exact hnone x hx) (hcut _ rfl)
  · exact fun e w' he hp => absurd (congrArg Prod.fst hp) (definite_not_raised (hE h e he))

theorem initiate_tidy (hE : ∀ h e, E h e → e.Definite) (u : UserId) (l : Option ListingId) :
    Tidy cfg E (initiate u l) [] w := by
  cases l with
  | none => exact nothing_created (fun x hx => by cases hx) rfl
  | some l =>
    have hone : ∀ y : Entry Platform, creation y = none → ∀ x ∈ [y], creation x = none := by
      intro y hy x hx
      rwa [List.mem_singleton.mp hx]
    have htwo : ∀ y z : Entry Platform, creation y = none → creation z = none →
        ∀ x ∈ [y,z], creation x = none := by
      intro y z hy hz x hx
      rcases List.mem_cons.mp hx with rfl | hx
      · exact hy
      · exact hone z hz x hx
    refine callService_definite hE (by simp [Http.writes]) (fun e listing w' _ _ => ?_)
      fun code => ?_
    · simp only
      split
      · exact nothing_created (hone _ rfl) rfl
      · split
        · exact nothing_created (hone _ rfl) rfl
        · refine callService_definite hE (by simp [Http.writes]) (fun e creditData w'' _ _ => ?_)
            fun code => ?_
          · simp only
            split
            · exact nothing_created (htwo _ _ rfl rfl) rfl
            · refine openTransfer_tidy hE u l listing (htwo _ _ rfl rfl) fun x hx => ?_
              unfold brokenOff afterCreation
              rw [List.takeWhile_cons_of_pos (by simp [hx])]
              rfl
          · exact nothing_created (htwo _ _ rfl rfl) rfl
    · simp only
      split <;> exact nothing_created (hone _ rfl) rfl

/-- A failed initiation leaves nothing behind exactly if it does not fail at the buyer's lookup or
at the OTP after it has created the record. -/
theorem initiation_tidy_iff (cfg : SeatInventory.SeatConfig) (w : World)
    (answers : List (Entry Platform) → Env) (hanswers : ∀ h, (answers h).Definite)
    (buyerId : UserId) (listingId : Option ListingId) :
    LeavesNothing (runAlone cfg (initiate buyerId listingId) answers w) ↔
      ¬ brokenOff (runAlone cfg (initiate buyerId listingId) answers w).past := by
  have hrun : Tidy cfg (fun _ e => e.Definite) (initiate buyerId listingId) [] w :=
    initiate_tidy (fun _ _ he => he) buyerId listingId
  have hmeets := hrun.exec answers hanswers
  unfold runAlone
  revert hmeets
  generalize (initiate buyerId listingId).exec (World.server cfg Unit) () answers [] w = f
  obtain ⟨result,past,state⟩ := f
  intro hmeets
  cases result with
  | ok answer => exact hmeets
  | error e => exact hmeets.elim

end Run

section OtpDown

/-- The call after the first `n` fails, and has no effect. -/
def failsAt (n : Nat) (h : List (Entry Platform)) : Env :=
  { Resale.calm 8 h with
    fault := if h.length = n then some ⟨false,some "SERVICE_UNAVAILABLE"⟩ else none }

theorem failsAt_definite (n : Nat) (h : List (Entry Platform)) : (failsAt n h).Definite := by
  intro f hf
  simp only [failsAt] at hf
  split at hf <;> cases hf
  exact ⟨rfl,rfl⟩

/-- User 2 initiates transfer 8 of the listing, and the `n`-th call after the first fails. -/
def initiating (n : Nat) : InitiateRun :=
  runAlone ⟨3,3,false⟩ (initiate 2 (some 6)) (failsAt n) listed

/-- The PATCH of the record fails. -/
theorem initiation_tidy_iff_patchFails :
    ((initiating 5).past.any fun x => (creation x).isSome) ∧ LeavesNothing (initiating 5) :=
  ⟨by decide +kernel,(initiation_tidy_iff ⟨3,3,false⟩ listed (failsAt 5) (failsAt_definite 5) 2
    (some 6)).mpr (by decide +kernel)⟩

/-- Without the OTP the buyer gets an error, and the transfer is there all the same: the seller
accepts it, and in the end it is settled. -/
theorem initiation_leaves_transfer :
    (∀ h, (failsAt 4 h).Definite) ∧ isErrorAnswer (initiating 4).result ∧
      ((initiating 4).state.transfers.lookup 8).map (·.status) = some .pendingSellerAcceptance ∧
      ¬ LeavesNothing (initiating 4) ∧
      ((serveAll ⟨3,3,false⟩
        [⟨.sellerAccept 1 8,Resale.calm 0⟩,⟨.buyerVerify 2 8 (some 5),Resale.calm 0⟩,
          ⟨.sellerVerify 1 8 (some 5),Resale.calm 0⟩] (initiating 4).state).transfers.lookup 8).map
            (·.status) = some .completed := by
  refine ⟨failsAt_definite 4,by decide +kernel,by decide +kernel,fun h => ?_,by decide +kernel⟩
  have hcreated : (initiating 4).past.any fun x => (creation x).isSome := by decide +kernel
  have hpending : ∀ e ∈ (initiating 4).state.transfers.entries,
      e.2.status = .pendingSellerAcceptance := by decide +kernel
  obtain ⟨x,hx,hsome⟩ := List.any_eq_true.mp hcreated
  obtain ⟨transfer,htransfer⟩ := Option.isSome_iff_exists.mp hsome
  obtain ⟨t,hrow,hoff⟩ := h (by decide +kernel) x hx transfer htransfer
  have hstatus := hpending ⟨_,t⟩ (AList.mem_lookup_iff.mp hrow)
  rw [hstatus] at hoff
  exact absurd hoff (by decide)

end OtpDown

end TicketRemaster.Transfer
