import TicketRemaster.Transfer.Requests
set_option autoImplicit false

/-! No settlement without both OTPs: whatever runs beside it and whatever fails, a saga starts
only after the OTP wrapper has confirmed both parties. -/

namespace TicketRemaster.Transfer

open Resumption SeatInventory

inductive Party where
  | buyer
  | seller
  deriving DecidableEq

def Party.userId : Party → TicketRemaster.Transfer → UserId
  | .buyer, t => t.buyerId
  | .seller, t => t.sellerId

def Party.verificationSid : Party → TicketRemaster.Transfer → Option Sid
  | .buyer, t => t.buyerVerificationSid
  | .seller, t => t.sellerVerificationSid

/-- In this run the OTP wrapper confirmed a check with the party's SID, as the run read it from
the transfer, and the phone number of user `u`, who is that party. -/
def OtpConfirmed (party : Party) (i : TransferId) (u : UserId) (h : List (Entry Platform)) : Prop :=
  ∃ t sid user otp, ⟨.http (.getTransfer i),.ok t⟩ ∈ h ∧ party.userId t = u ∧
    party.verificationSid t = some sid ∧ ⟨.http (.getUser u),.ok user⟩ ∈ h ∧
    ⟨.http (.verifyOtp sid otp user.phoneNumber),.ok true⟩ ∈ h

/-- The run read the transfer with the buyer's confirmation on it. -/
def SawBuyerVerified (i : TransferId) (u : UserId) (h : List (Entry Platform)) : Prop :=
  ∃ t, ⟨.http (.getTransfer i),.ok t⟩ ∈ h ∧ t.sellerId = u ∧ t.buyerOtpVerified

theorem OtpConfirmed.mono {party : Party} {i : TransferId} {u : UserId}
    {h h' : List (Entry Platform)} (hh : h ⊆ h') (hc : OtpConfirmed party i u h) :
    OtpConfirmed party i u h' := by
  obtain ⟨t,sid,user,otp,ht,hu,hsid,huser,hotp⟩ := hc
  exact ⟨t,sid,user,otp,hh ht,hu,hsid,hh huser,hh hotp⟩

theorem SawBuyerVerified.mono {i : TransferId} {u : UserId} {h h' : List (Entry Platform)}
    (hh : h ⊆ h') (hs : SawBuyerVerified i u h) : SawBuyerVerified i u h' := by
  obtain ⟨t,ht,hu,hflag⟩ := hs
  exact ⟨t,hh ht,hu,hflag⟩

/-- What a request has to have behind it before it marks the buyer as verified, or moves credits. -/
def Justified (req : Request) (h : List (Entry Platform)) : Call → Prop
  | .http (.patchCredits _ _) => ∃ u i otp, req = .sellerVerify u i otp ∧
      OtpConfirmed .seller i u h ∧ SawBuyerVerified i u h
  | .http (.patchTransfer i p) => p.buyerOtpVerified = some true →
      ∃ u otp, req = .buyerVerify u i otp ∧ OtpConfirmed .buyer i u h
  | _ => True

/-- A call that needs no justification. -/
def Unsuspicious : Call → Prop
  | .http (.patchCredits _ _) => False
  | .http (.patchTransfer _ p) => p.buyerOtpVerified ≠ some true
  | _ => True

section Discipline

variable {α : Type} {req : Request} {h : List (Entry Platform)}

theorem unsuspicious_reads (q : Call) (hq : q.Reads) : Unsuspicious q := by
  rcases hq with hq | ⟨i,rfl⟩
  · cases q with
    | http q => cases q <;> simp_all [Unsuspicious,Call.writes,Http.writes]
    | _ => trivial
  · trivial

theorem Unsuspicious.justified {q : Call} (hq : Unsuspicious q) : Justified req h q := by
  cases q with
  | http q =>
    cases q with
    | patchCredits u b => exact absurd hq id
    | patchTransfer i p => exact fun hflag => absurd hflag hq
    | _ => trivial
  | _ => trivial

abbrev Justifies (req : Request) (p : Handler α) (h : List (Entry Platform)) : Prop :=
  p.Follows (Justified req) (fun _ _ _ => True) (fun _ _ => True) (fun _ _ => True) h

theorem unsuspicious_justifies {p : Handler α}
    (hp : p.Calls Unsuspicious (fun _ => True)) : Justifies req p h :=
  (hp.follows (J := fun _ => True) (fun _ _ hq _ => hq.justified) (fun _ _ _ _ _ => trivial)
    trivial).mono (fun _ _ _ => trivial) (fun _ _ _ => trivial)

theorem ask_justifies {q : Http} {f : Except String q.Val → Handler α}
    {fin : α → List (Entry Platform) → Prop} (hq : Justified req h (.http q))
    (hok : ∀ v, (f (.ok v)).Follows (Justified req) (fun _ _ _ => True) fin (fun _ _ => True)
      (⟨.http q,.ok v⟩ :: h))
    (herr : ∀ code, (f (.error code)).Follows (Justified req) (fun _ _ _ => True) fin
      (fun _ _ => True) (⟨.http q,.error code⟩ :: h)) :
    (callService q >>= f).Follows (Justified req) (fun _ _ _ => True) fin (fun _ _ => True) h := by
  refine ⟨hq,fun a _ => ?_⟩
  cases a with
  | ok v => exact hok v
  | error code => exact herr code
  | raised => trivial

theorem buyerVerify_justifies (u : UserId) (i : TransferId) (otp : Option Nat) :
    Justifies (.buyerVerify u i otp) (buyerVerify u i otp) [] := by
  cases otp with
  | none => trivial
  | some otp =>
    refine ask_justifies trivial (fun t => ?_) fun _ => trivial
    simp only
    split
    · trivial
    · rename_i hbuyer
      split
      · trivial
      · rename_i sid hsid
        split
        · trivial
        · refine ask_justifies trivial (fun user => ?_) fun _ => trivial
          refine ask_justifies trivial (fun verified => ?_) fun _ => trivial
          cases verified with
          | false => trivial
          | true =>
            obtain rfl : t.buyerId = u := not_not.mp hbuyer
            have hconfirmed : OtpConfirmed .buyer i t.buyerId
                [⟨.http (.verifyOtp sid otp user.phoneNumber),.ok true⟩,
                  ⟨.http (.getUser t.buyerId),.ok user⟩,⟨.http (.getTransfer i),.ok t⟩] :=
              ⟨t,sid,user,otp,by simp,rfl,hsid,by simp,by simp⟩
            have hcalls : (askSeller t.buyerId i t).Calls
                (fun q : Call => Unsuspicious q ∨ ∃ p, q = .http (.patchTransfer i p))
                (fun _ => True) :=
              askSeller_calls (fun q hq => .inl (unsuspicious_reads q hq)) (.inr ⟨_,rfl⟩)
                (fun _ => .inr ⟨_,rfl⟩)
            refine (hcalls.follows (J := OtpConfirmed .buyer i t.buyerId) ?_ ?_ hconfirmed).mono
              (fun _ _ _ => trivial) (fun _ _ _ => trivial)
            · rintro h q (hq | ⟨p,rfl⟩) hJ
              · exact hq.justified
              · exact fun _ => ⟨_,_,rfl,hJ⟩
            · exact fun h q a _ hJ => hJ.mono (List.subset_cons_self _ _)

/-- What a seller's request has established when it gets to the saga. -/
def Established (u : UserId) (i : TransferId) (h : List (Entry Platform)) : Prop :=
  OtpConfirmed .seller i u h ∧ SawBuyerVerified i u h

theorem Established.cons {u : UserId} {i : TransferId} (he : Established u i h)
    (x : Entry Platform) : Established u i (x :: h) :=
  ⟨he.1.mono (List.subset_cons_self _ _),he.2.mono (List.subset_cons_self _ _)⟩

/-- From then on its calls are justified, as long as they concern its own transfer. -/
theorem established_follows {u : UserId} {i : TransferId} {otp : Option Nat} {p : Handler α}
    (hp : p.Calls (fun q : Call => Unsuspicious q ∨ ∃ u b, q = .http (.patchCredits u b))
      (fun _ => True))
    (he : Established u i h) :
    p.Follows (Justified (.sellerVerify u i otp)) (fun _ _ _ => True)
      (fun _ => Established u i) (fun _ _ => True) h := by
  refine (hp.follows (J := Established u i) ?_ (fun h q a _ hJ => hJ.cons _) he).mono
    (fun _ _ hJ => hJ) (fun _ _ _ => trivial)
  rintro h q (hq | ⟨v,b,rfl⟩) hJ
  · exact hq.justified
  · exact ⟨u,i,otp,rfl,hJ.1,hJ.2⟩

theorem prepareSettlement_follows (u : UserId) (i : TransferId) (otp : Option Nat) :
    (prepareSettlement u i otp).Follows (Justified (.sellerVerify u i otp)) (fun _ _ _ => True)
      (fun r h => ∀ x, r = .ok x → Established u i h) (fun _ _ => True) [] := by
  cases otp with
  | none => exact fun x hx => by cases hx
  | some otp =>
    refine ask_justifies trivial (fun t => ?_) fun _ x hx => by cases hx
    simp only
    split
    · exact fun x hx => by cases hx
    · rename_i hseller
      split
      · exact fun x hx => by cases hx
      · rename_i sid hsid
        split
        · exact fun x hx => by cases hx
        · rename_i hstate
          refine ask_justifies trivial (fun user => ?_) fun _ x hx => by cases hx
          refine ask_justifies trivial (fun verified => ?_) fun _ x hx => by cases hx
          cases verified with
          | false => exact fun x hx => by cases hx
          | true =>
            obtain rfl : t.sellerId = u := not_not.mp hseller
            have hflag : t.buyerOtpVerified := by
              simp only [not_or,not_not] at hstate
              exact hstate.2.2
            have he : Established t.sellerId i
                [⟨.http (.verifyOtp sid otp user.phoneNumber),.ok true⟩,
                  ⟨.http (.getUser t.sellerId),.ok user⟩,⟨.http (.getTransfer i),.ok t⟩] :=
              ⟨⟨t,sid,user,otp,by simp,rfl,hsid,by simp,by simp⟩,t,by simp,rfl,hflag⟩
            refine (established_follows (confirmSeller_follows (h := []) ?_ ?_ ?_).calls he).mono
              (fun _ _ hJ _ _ => hJ) (fun _ _ _ => trivial)
            · exact fun q hq => .inl (unsuspicious_reads q hq)
            · exact .inl (by simp [Unsuspicious])
            · exact .inl (by simp [Unsuspicious])

theorem sellerVerify_justifies (u : UserId) (i : TransferId) (otp : Option Nat) :
    Justifies (.sellerVerify u i otp) (sellerVerify u i otp) [] := by
  refine Prog.follows_bind.mpr ((prepareSettlement_follows u i otp).mono (fun r h he => ?_)
    (fun _ _ he => he))
  cases r with
  | error answer => trivial
  | ok x =>
    obtain ⟨t,a⟩ := x
    refine (established_follows (settle_calls ?_ ?_ ?_ ?_) (he _ rfl)).mono
      (fun _ _ _ => trivial) (fun _ _ _ => trivial)
    · exact fun q hq => .inl (unsuspicious_reads q hq)
    · intro now step
      cases step <;> simp [Saga.request,Unsuspicious]
    · intro c hc
      simp only [Saga.compensations,List.mem_cons,List.not_mem_nil,or_false] at hc
      rcases hc with rfl | rfl | rfl | rfl | rfl | rfl <;> simp [Unsuspicious]
    · exact .inl (by simp [Unsuspicious])

/-- Every request keeps to the discipline. -/
theorem handler_justifies (req : Request) : Justifies req req.handler [] := by
  have hdiscard : ∀ {β γ : Type} {p : Handler β} {f : β → γ}, Justifies req p [] →
      Justifies req (do return f (← p) : Handler γ) [] := by
    intro β γ p f hp
    exact Prog.follows_bind.mpr (hp.mono (fun _ _ _ => trivial) (fun _ _ _ => trivial))
  have hr := unsuspicious_reads
  cases req with
  | initiate u l =>
    exact hdiscard (unsuspicious_justifies (initiate_calls hr (fun _ => trivial)
      (fun _ _ => by simp [Unsuspicious])))
  | buyerVerify u i otp => exact hdiscard (buyerVerify_justifies u i otp)
  | sellerAccept u i =>
    exact hdiscard (unsuspicious_justifies (sellerAccept_calls hr
      (fun _ => by simp [Unsuspicious])))
  | sellerReject u i =>
    exact hdiscard (unsuspicious_justifies (sellerReject_calls hr (by simp [Unsuspicious])
      (fun _ => trivial) (fun _ => trivial)))
  | sellerVerify u i otp => exact hdiscard (sellerVerify_justifies u i otp)
  | resendOtp u i =>
    exact hdiscard (unsuspicious_justifies (resendOtp_calls hr (fun _ => by simp [Unsuspicious])
      (fun _ => by simp [Unsuspicious])))
  | cancelTransfer u i =>
    exact hdiscard (unsuspicious_justifies (cancelTransfer_calls hr (by simp [Unsuspicious])
      (fun _ => trivial) (fun _ => trivial)))
  | getTransfer u i =>
    exact hdiscard (unsuspicious_justifies (reads_calls (getTransfer_reads u i) hr))
  | timeoutMessage i l =>
    exact hdiscard (unsuspicious_justifies (onTimeoutMessage_allowed hr (by simp [Unsuspicious])
      trivial))

end Discipline

section Invariant

variable {ι : Type} {cfg : SeatConfig} {requests : ι → Request} {w : World}
  {past : ι → List (Entry Platform)}

/-- Some request by the buyer has had the buyer's OTP confirmed. -/
def BuyerConfirmed (requests : ι → Request) (past : ι → List (Entry Platform)) (i : TransferId)
    (u : UserId) : Prop :=
  ∃ j otp, requests j = .buyerVerify u i otp ∧ OtpConfirmed .buyer i u (past j)

/-- The flag on a transfer stands for a confirmation, also where a run has read it before, and
credits have only been moved with justification. -/
structure Confirmations (requests : ι → Request) (w : World)
    (past : ι → List (Entry Platform)) : Prop where
  flagged (i : TransferId) (t : TicketRemaster.Transfer) : w.transfers.lookup i = some t →
    t.buyerOtpVerified → BuyerConfirmed requests past i t.buyerId
  read (k : ι) (i : TransferId) (t : TicketRemaster.Transfer) :
    ⟨.http (.getTransfer i),.ok t⟩ ∈ past k → ∃ t', w.transfers.lookup i = some t' ∧
      SameDeal t t' ∧ (t.buyerOtpVerified → BuyerConfirmed requests past i t.buyerId)
  moved (k : ι) (u : UserId) (b : Credits) (a : Reply Unit) :
    ⟨.http (.patchCredits u b),a⟩ ∈ past k →
      Justified (requests k) (past k) (.http (.patchCredits u b))

/-- The flag of a row after a call was there before, or the call may set it. -/
theorem Confirmations.flag_after (hc : Confirmations requests w past) (k : ι) (e : Env) {q : Call}
    (hq : Justified (requests k) (past k) q) (i : TransferId) (t : TicketRemaster.Transfer)
    (ht : (World.perform cfg e w q).2.transfers.lookup i = some t) (hflag : t.buyerOtpVerified) :
    BuyerConfirmed requests past i t.buyerId := by
  have hchange := perform_change cfg e w i q
  rw [ht] at hchange
  generalize hr : w.transfers.lookup i = r at hchange
  cases hchange with
  | keep => exact hc.flagged i t hr hflag
  | expire t₀ => exact hc.flagged i t₀ hr hflag
  | create d t hqd hnew => simp [hnew] at hflag
  | patch t₀ p hqp =>
    subst hqp
    simp only [World.setTransfer] at hflag
    cases hp : p.buyerOtpVerified with
    | none => exact hc.flagged i t₀ hr (by simpa [hp] using hflag)
    | some b =>
      obtain rfl : b = true := by simpa [hp] using hflag
      obtain ⟨u,otp,hreq,hconfirmed⟩ := hq hp
      obtain ⟨t₁,_,_,_,hread,hbuyer,_⟩ := id hconfirmed
      obtain ⟨t₂,ht₂,hsame,-⟩ := hc.read k i t₁ hread
      obtain rfl : t₀ = t₂ := Option.some.inj (hr.symm.trans ht₂)
      obtain rfl : t₀.buyerId = u := hsame.buyer.trans hbuyer
      exact ⟨k,otp,hreq,hconfirmed⟩

theorem Justified.grow {req : Request} {h h' : List (Entry Platform)} {q : Call} (hh : h ⊆ h')
    (hq : Justified req h q) : Justified req h' q := by
  cases q with
  | http q =>
    cases q with
    | patchCredits u b =>
      obtain ⟨v,i,otp,hreq,hc,hs⟩ := hq
      exact ⟨v,i,otp,hreq,hc.mono hh,hs.mono hh⟩
    | patchTransfer i p =>
      intro hflag
      obtain ⟨v,otp,hreq,hc⟩ := hq hflag
      exact ⟨v,otp,hreq,hc.mono hh⟩
    | _ => trivial
  | _ => trivial

variable [DecidableEq ι]

/-- Histories only grow. -/
theorem past_grows (k j : ι) (x : Entry Platform) :
    past j ⊆ Function.update past k (x :: past k) j := by
  by_cases hj : j = k
  · subst hj
    simp
  · simp [hj]

theorem mem_grown {k j : ι} {x y : Entry Platform}
    (hy : y ∈ Function.update past k (x :: past k) j) : y ∈ past j ∨ j = k ∧ y = x := by
  by_cases hj : j = k
  · subst hj
    rw [Function.update_self] at hy
    rcases List.mem_cons.mp hy with rfl | hy
    · exact .inr ⟨rfl,rfl⟩
    · exact .inl hy
  · rw [Function.update_of_ne hj] at hy
    exact .inl hy

theorem BuyerConfirmed.grow {i : TransferId} {u : UserId} (h : BuyerConfirmed requests past i u)
    (k : ι) (x : Entry Platform) :
    BuyerConfirmed requests (Function.update past k (x :: past k)) i u := by
  obtain ⟨j,otp,hj,hc⟩ := h
  exact ⟨j,otp,hj,hc.mono (past_grows k j x)⟩

theorem confirmations_keep : Keeps (World.server cfg ι) Config.anyStep
    (fun k => Justified (requests k)) (fun _ _ _ _ => True) (Confirmations requests) := by
  intro w past k e q hc _ _ hq
  refine ⟨trivial,fun i t ht hflag => ?_,fun j i t ht => ?_,fun j u b a hmem => ?_⟩
  · exact (hc.flag_after k e hq i t ht hflag).grow k _
  · rcases mem_grown ht with hold | ⟨rfl,hnew⟩
    · obtain ⟨t₀,ht₀,hsame,hflag⟩ := hc.read j i t hold
      have hchange := perform_change cfg e w i q
      rw [ht₀] at hchange
      obtain ⟨t',ht',hdeal⟩ := hchange.lasts
      exact ⟨t',ht',hsame.trans hdeal,fun hf => (hflag hf).grow k _⟩
    · obtain ⟨rfl,hanswer⟩ := Sigma.mk.inj hnew
      have hrow : (World.perform cfg e w (.http (.getTransfer i))).2.transfers.lookup i = some t :=
        getTransfer_answer (eq_of_heq hanswer).symm
      exact ⟨t,hrow,.refl t,fun hf => (hc.flag_after j e hq i t hrow hf).grow j _⟩
  · rcases mem_grown hmem with hold | ⟨rfl,hnew⟩
    · exact (hc.moved j u b a hold).grow (past_grows k j _)
    · obtain ⟨rfl,-⟩ := Sigma.mk.inj hnew
      exact hq.grow (past_grows j j _)

end Invariant

/-- `_execute_saga` starts with a deduction, and no other code of the requests moves credits. -/
theorem executeSaga_starts (a : Saga) : ∃ f, executeSaga a =
    .call (.http (.patchCredits a.buyerId (a.buyerBalance-a.creditAmount))) f := ⟨_,rfl⟩

def movesCredits : Call → Bool
  | .http (.patchCredits _ _) => true
  | _ => false

section Settlement

variable {ι : Type} [DecidableEq ι]

/-- The request has invoked `_execute_saga`: it is about to move credits, or has done so. -/
def sagaInvoked {ε α σ : Type} (c : Config ι Platform ε α σ) (k : ι) : Bool :=
  (c.past k).any (fun x => movesCredits x.1) ||
    match (c.thread k).rest with
    | .call q _ => movesCredits q
    | _ => false

/-- Both parties of transfer `i` have been confirmed: the seller by request `k` itself. -/
structure BothConfirmed (requests : ι → Request) (past : ι → List (Entry Platform)) (k : ι)
    (i : TransferId) (t : TicketRemaster.Transfer) : Prop where
  request : ∃ otp, requests k = .sellerVerify t.sellerId i otp
  seller : OtpConfirmed .seller i t.sellerId (past k)
  buyer : BuyerConfirmed requests past i t.buyerId

/-- In every configuration reached, a saga has only been invoked with both OTPs confirmed. -/
theorem settlement_needs_both_otps (cfg : SeatConfig) (w : World) (requests : ι → Request)
    (c : Config ι Platform Unhandled (Option Nat) World) (k : ι)
    (hstart : ∀ i t, w.transfers.lookup i = some t → t.buyerOtpVerified = false)
    (hreach : Config.Reach (World.server cfg ι) Config.anyStep
      (Config.start w fun k => (requests k).handler) c)
    (hsaga : sagaInvoked c k) :
    ∃ i t, c.shared.transfers.lookup i = some t ∧ BothConfirmed requests c.past k i t := by
  have hc : c.Disciplined (fun k => Justified (requests k)) (fun _ _ _ _ => True)
      (fun _ _ _ => True) (fun _ _ _ => True) (Confirmations requests) := by
    refine (Config.disciplined_start ⟨fun i t ht hflag => ?_,by simp,by simp⟩
      (fun k => handler_justifies (requests k))).reach confirmations_keep hreach
    simp [hstart i t ht] at hflag
  have hjustified : ∃ u b, Justified (requests k) (c.past k) (.http (.patchCredits u b)) := by
    rcases Bool.or_eq_true_iff.mp hsaga with hpast | hnext
    · obtain ⟨⟨q,a⟩,hmem,hq⟩ := List.any_eq_true.mp hpast
      cases q with
      | http q =>
        cases q with
        | patchCredits u b => exact ⟨u,b,hc.1.moved k u b a hmem⟩
        | _ => cases hq
      | _ => cases hq
    · have hrest := hc.2 k
      split at hnext
      · rename_i q f hr
        rw [hr] at hrest
        cases q with
        | http q =>
          cases q with
          | patchCredits u b => exact ⟨u,b,hrest.1⟩
          | _ => cases hnext
        | _ => cases hnext
      · cases hnext
  obtain ⟨-,-,u,i,otp,hreq,hseller,t₀,ht₀,hu,hflag⟩ := hjustified
  obtain ⟨t,ht,hsame,hbuyer⟩ := hc.1.read k i t₀ ht₀
  obtain rfl : t.sellerId = u := hsame.seller.trans hu
  refine ⟨i,t,ht,⟨otp,hreq⟩,hseller,?_⟩
  rw [hsame.buyer]
  exact hbuyer hflag

section Example

/-- The seller settles transfer 8 after the buyer has verified. -/
def settling : Config Bool Platform Unhandled (Option Nat) World :=
  (Config.start Resale.offered fun k => Request.handler
    (if k then .sellerVerify 1 8 (some 5) else .buyerVerify 2 8 (some 5))).schedule
    (World.server ⟨3,3,false⟩ Bool) (fun _ _ _ _ _ => true)
    (List.replicate 20 (false,Resale.calm 9 []) ++ List.replicate 10 (true,Resale.calm 9 []))

theorem settlement_needs_both_otps_settling : sagaInvoked settling true ∧
    ∃ i t, settling.shared.transfers.lookup i = some t ∧
      BothConfirmed (fun k : Bool => if k then .sellerVerify 1 8 (some 5)
        else .buyerVerify 2 8 (some 5)) settling.past true i t := by
  have hsaga : sagaInvoked settling true := by decide +kernel
  refine ⟨hsaga,settlement_needs_both_otps ⟨3,3,false⟩ Resale.offered _ settling true ?_ ?_ hsaga⟩
  · intro i t ht
    have hentries : ∀ x ∈ Resale.offered.transfers.entries, x.2.buyerOtpVerified = false := by
      decide +kernel
    exact hentries ⟨i,t⟩ (List.of_mem_dlookup ht)
  · exact Config.reach_schedule (fun _ _ _ _ _ _ => trivial) _ _

end Example

end Settlement

end TicketRemaster.Transfer
