import TicketRemaster.Credits.Interleaved
set_option autoImplicit false

/-! The ledger against the balances, over sequences of complete requests in which no call fails. -/

namespace TicketRemaster.Credits

open Resumption SeatInventory
open scoped BigOperators

/-- A request from start to end, without any other in between. -/
def CreditRequest.run (cfg : SeatConfig) (req : CreditRequest) (ω : List (Entry Platform) → Env)
    (w : World) : Final Platform Unhandled CreditAnswer World :=
  req.handler.exec (World.server cfg Unit) () ω [] w

abbrev FailureFree {α : Type} (r : Final Platform Unhandled α World) : Prop :=
  r.past.any callFails = false

section Request

variable {cfg : SeatConfig} {w₀ w w' : World} {req : CreditRequest} {h : List (Entry Platform)}

/-- The databases in the middle of a request that began with `w₀`. -/
structure Follows (w₀ w : World) (h : List (Entry Platform)) : Prop where
  rooted : Rooted w₀ w
  balance (u : UserId) : w.credits.lookup u = (w₀.credits.lookup u).map (· + (account u h).moved)
  ledger (u : UserId) : ledgerSum w u = ledgerSum w₀ u + (account u h).logged
  asRead (u : UserId) : (account u h).wrote = false →
    ∀ r ∈ (account u h).reads, w.credits.lookup u = some r
  holder (u : UserId) : (account u h).moved ≠ 0 → (w₀.credits.lookup u).isSome

theorem follows_start (w : World) : Follows w w [] := by
  constructor
  · exact .refl w
  all_goals simp [account,Account.untouched]

theorem Follows.findsAsRead {q : Call} (hf : Follows w₀ w h) (hself : ¬ SelfTransfer w₀ req)
    (hq : Sound w₀ req h q) : findsAsRead w h q := by
  cases q with
  | http q =>
    cases q with
    | patchCredits i b =>
      have hunwritten : (account i h).wrote = false :=
        Bool.eq_false_iff.mpr fun hwrote => hself (hq.2.1 hwrote)
      simpa [Credits.findsAsRead] using hf.asRead i hunwritten
    | _ => rfl
  | _ => rfl

/-- A balance that moves is that of a user the credit service knows. -/
theorem Follows.moves {q : Call} (hf : Follows w₀ w h) (hself : ¬ SelfTransfer w₀ req)
    (hq : Sound w₀ req h q) {a : q.Ans} {u : UserId}
    (hm : (account u (⟨q,a⟩ :: h)).moved ≠ (account u h).moved) :
    (w₀.credits.lookup u).isSome := by
  by_cases hw : q.writes = some .credits
  · obtain ⟨i,b,rfl⟩ := writes_credits hw
    obtain ⟨r,rs,hreads⟩ := List.exists_cons_of_ne_nil hq.1
    have hstored := hf.findsAsRead hself hq
    simp only [Credits.findsAsRead,List.all_eq_true,decide_eq_true_eq] at hstored
    obtain rfl : i = u := by
      by_contra hu
      refine hm ?_
      cases a <;> simp [Account.after,hu]
    have hr : w.credits.lookup i = some r := hstored r (by simp [hreads])
    rw [hf.balance i,Option.map_eq_some_iff] at hr
    obtain ⟨b₀,hb₀,-⟩ := hr
    simp [hb₀]
  · exact absurd (moved_same hw a u) hm

theorem Follows.reads {q : Call} (hf : Follows w₀ w h) {e : Env} {u : UserId}
    (hs : callFails ⟨q,(World.perform cfg e w q).1⟩ = false)
    (hu : (account u (⟨q,(World.perform cfg e w q).1⟩ :: h)).wrote = false) :
    ∀ r ∈ (account u (⟨q,(World.perform cfg e w q).1⟩ :: h)).reads,
      (World.perform cfg e w q).2.credits.lookup u = some r := by
  have hframe : World.Frame q.writes w (World.perform cfg e w q).2 := World.perform_frame q
  by_cases hw : q.writes = some .credits
  · obtain ⟨i,b,rfl⟩ := writes_credits hw
    obtain ⟨hok,hcredits⟩ := patchCredits_succeeds hs
    rw [hok,account_write] at hu ⊢
    by_cases hi : i = u
    · simp [hi] at hu
    · rw [if_neg hi] at hu ⊢
      rw [hcredits,AList.lookup_insert_ne (Ne.symm hi)]
      exact hf.asRead u hu
  · rw [hframe.credits hw]
    generalize hp : World.perform cfg e w q = r at hu
    obtain ⟨a,w'⟩ := r
    cases q with
    | http q =>
      cases q with
      | getCredits i =>
        cases a with
        | ok data =>
          obtain ⟨-,b,hb,rfl⟩ := World.serve_getCredits_ok (World.perform_ok hp)
          rw [account_read] at hu ⊢
          by_cases hi : i = u
          · subst hi
            simpa [hb] using hf.asRead i (by simpa using hu)
          · rw [if_neg hi] at hu ⊢
            exact hf.asRead u hu
        | error code => exact hf.asRead u hu
        | raised => exact hf.asRead u hu
      | patchCredits i b => exact absurd rfl hw
      | createCreditTransaction d =>
        cases a with
        | ok v =>
          rw [account_log] at hu ⊢
          split at hu
          · rename_i hd; rw [if_pos hd]; exact hf.asRead u hu
          · rename_i hd; rw [if_neg hd]; exact hf.asRead u hu
        | error code => exact hf.asRead u hu
        | raised => exact hf.asRead u hu
      | _ => exact hf.asRead u hu
    | _ => exact hf.asRead u hu

/-- One call that does not fail. -/
theorem Follows.step {q : Call} (hf : Follows w₀ w h) (hself : ¬ SelfTransfer w₀ req)
    (hq : Sound w₀ req h q) {e : Env} (hs : callFails ⟨q,(World.perform cfg e w q).1⟩ = false) :
    Follows w₀ (World.perform cfg e w q).2 (⟨q,(World.perform cfg e w q).1⟩ :: h) := by
  constructor
  · exact hf.rooted.perform hq
  · intro u
    rw [perform_credits hq (hf.findsAsRead hself hq) hs u,hf.balance u,Option.map_map]
    congr 1
    funext b
    simp [add_assoc]
  · intro u
    rw [perform_ledger hs u,hf.ledger u]
    ring
  · exact fun u hu => hf.reads hs hu
  · intro u hm
    by_cases hsame : (account u (⟨q,(World.perform cfg e w q).1⟩ :: h)).moved = (account u h).moved
    · exact hf.holder u (by rwa [hsame] at hm)
    · exact hf.moves hself hq hsame

/-- What a complete request leaves: each balance, and the sum of the ledger entries of its user,
have changed by `f`. -/
structure Accounted (w₀ w : World) (f : UserId → Credits) : Prop where
  rooted : Rooted w₀ w
  balance (u : UserId) : w.credits.lookup u = (w₀.credits.lookup u).map (· + f u)
  ledger (u : UserId) : ledgerSum w u = ledgerSum w₀ u + f u
  holder (u : UserId) : f u ≠ 0 → (w₀.credits.lookup u).isSome

theorem Follows.accounted {f : UserId → Credits} (hf : Follows w₀ w h) (hm : Moved f h) :
    Accounted w₀ w f where
  rooted := hf.rooted
  balance u := by rw [hf.balance u,(hm u).1]
  ledger u := by rw [hf.ledger u,(hm u).2]
  holder u hu := hf.holder u (by rwa [(hm u).1])

/-- A complete request leaves the accounts as it reports, and keeps what each of its calls keeps. -/
theorem run_keeps {P : World → Prop} {ω : List (Entry Platform) → Env}
    (hself : ¬ SelfTransfer w req) (hfree : FailureFree (req.run cfg ω w)) (hw : P w)
    (hP : ∀ w' h e q, Follows w w' h → Sound w req h q → P w' → P (World.perform cfg e w' q).2) :
    Accounted w (req.run cfg ω w).state
        (fun u => delta w u req (req.run cfg ω w).result.toOption) ∧
      P (req.run cfg ω w).state := by
  have hkeeps : ∀ h w' e q, True → (Follows w w' h ∧ P w') → Sound w req h q →
      callFails ⟨q,(World.perform cfg e w' q).1⟩ ∨ Answers w h q (World.perform cfg e w' q).1 ∧
        Follows w (World.perform cfg e w' q).2 (⟨q,(World.perform cfg e w' q).1⟩ :: h) ∧
        P (World.perform cfg e w' q).2 := by
    rintro h w' e q - ⟨hf,hw'⟩ hq
    by_cases hs : callFails ⟨q,(World.perform cfg e w' q).1⟩
    · exact .inl hs
    · rw [Bool.not_eq_true] at hs
      exact .inr ⟨perform_answers hf.rooted (hf.findsAsRead hself hq) hs,hf.step hself hq hs,
        hP w' h e q hf hq hw'⟩
  have halways : Handler.Always cfg (fun _ _ => True) _ _ req.handler [] w :=
    (handler_sound w req).always hkeeps ⟨follows_start w,hw⟩
  have hmeets := halways.exec ω (fun _ => trivial)
  have hgood : ¬ (req.run cfg ω w).past.any callFails := Bool.eq_false_iff.mp hfree
  cases hr : (req.run cfg ω w).result with
  | ok answer =>
    obtain ⟨hreports,hf,hkept⟩ := (hmeets.ok hr).resolve_left hgood
    exact ⟨hf.accounted hreports,hkept⟩
  | error exc =>
    obtain ⟨hidle,hf,hkept⟩ := (hmeets.error hr).resolve_left hgood
    exact ⟨hf.accounted (Moved.congr hidle fun u => delta_none w u req),hkept⟩

theorem run_accounted {ω : List (Entry Platform) → Env} (hself : ¬ SelfTransfer w req)
    (hfree : FailureFree (req.run cfg ω w)) : Accounted w (req.run cfg ω w).state
      (fun u => delta w u req (req.run cfg ω w).result.toOption) :=
  (run_keeps (P := fun _ => True) hself hfree trivial (fun _ _ _ _ _ _ _ => trivial)).1

end Request

section Runs

open Relation

variable {cfg : SeatConfig} {w₀ w w' : World}

/-- A state follows another by a complete request in which no call fails. -/
def Completes (cfg : SeatConfig) (w w' : World) : Prop :=
  ∃ (req : CreditRequest) (ω : List (Entry Platform) → Env),
    FailureFree (req.run cfg ω w) ∧ (req.run cfg ω w).state = w'

/-- Nobody transfers to himself. -/
def DistinctParties (w : World) : Prop :=
  ∀ i t, w.transfers.lookup i = some t → t.buyerId ≠ t.sellerId

theorem DistinctParties.notSelf (hd : DistinctParties w) (req : CreditRequest) :
    ¬ SelfTransfer w req := by
  cases req with
  | sellerVerify sellerId i otp =>
    rintro ⟨t,ht,hself⟩
    exact hd i t ht hself
  | _ => exact not_false

theorem Rooted.distinct (hr : Rooted w w') (hd : DistinctParties w) : DistinctParties w' := by
  intro i t ht
  obtain ⟨t₀,ht₀,hterms⟩ := hr.terms i t ht
  rw [hterms.buyer,hterms.seller]
  exact hd i t₀ ht₀

theorem Completes.accounted (hd : DistinctParties w) (h : Completes cfg w w') :
    ∃ f, Accounted w w' f := by
  obtain ⟨req,ω,hfree,rfl⟩ := h
  exact ⟨_,run_accounted (hd.notSelf req) hfree⟩

theorem explained_run (hd : DistinctParties w₀) (hrun : ReflTransGen (Completes cfg) w₀ w) :
    DistinctParties w ∧ ∀ u, w.credits.lookup u =
      (w₀.credits.lookup u).map (· + (ledgerSum w u-ledgerSum w₀ u)) := by
  induction hrun with
  | refl => exact ⟨hd,fun u => by simp⟩
  | tail _ hs ih =>
    obtain ⟨hd',hexplained⟩ := ih
    obtain ⟨f,hf⟩ := hs.accounted hd'
    refine ⟨hf.rooted.distinct hd',fun u => ?_⟩
    rw [hf.balance u,hexplained u,Option.map_map,hf.ledger u]
    congr 1
    funext b
    simp only [Function.comp_apply]
    ring

def totalCredits (w : World) : Credits :=
  ∑ u ∈ w.credits.keys.toFinset, (w.credits.lookup u).getD 0

theorem mem_holders {u : UserId} : u ∈ w.credits.keys.toFinset ↔ (w.credits.lookup u).isSome := by
  rw [List.mem_toFinset,← AList.mem_keys,AList.lookup_isSome]

theorem Accounted.total {f : UserId → Credits} (hf : Accounted w w' f) :
    totalCredits w' = totalCredits w+∑ u ∈ w.credits.keys.toFinset, f u := by
  have hkeys : w'.credits.keys.toFinset = w.credits.keys.toFinset := by
    ext u
    rw [mem_holders,mem_holders,hf.balance u,Option.isSome_map]
  unfold totalCredits
  rw [hkeys,← Finset.sum_add_distrib]
  refine Finset.sum_congr rfl (fun u hu => ?_)
  obtain ⟨b,hb⟩ := Option.isSome_iff_exists.mp (mem_holders.mp hu)
  simp [hf.balance u,hb]

/-- What a transfer takes from the buyer it gives to the seller. -/
theorem sum_transferDelta {t : Transfer} (hne : t.buyerId ≠ t.sellerId) {s : Finset UserId}
    (hs : ∀ u, transferDelta t u ≠ 0 → u ∈ s) : ∑ u ∈ s, transferDelta t u = 0 := by
  by_cases hc : t.creditAmount = 0
  · exact Finset.sum_eq_zero fun u _ => by simp [transferDelta,hc]
  · have hbuyer : t.buyerId ∈ s := hs _ (by simp [transferDelta,hne,hc])
    have hseller : t.sellerId ∈ s := hs _ (by simp [transferDelta,Ne.symm hne,hc])
    simp only [transferDelta,Finset.sum_sub_distrib,Finset.sum_ite_eq',hbuyer,hseller,if_true,
      sub_self]

theorem delta_sellerVerify (w : World) (sellerId : UserId) (i : TransferId) (otp : Option Nat)
    (r : Option CreditAnswer) :
    (∀ u, delta w u (.sellerVerify sellerId i otp) r = 0) ∨
      ∃ t, w.transfers.lookup i = some t ∧
        ∀ u, delta w u (.sellerVerify sellerId i otp) r = transferDelta t u := by
  cases r with
  | none => exact .inl fun _ => rfl
  | some answer =>
    cases answer with
    | settlement r =>
      cases r with
      | error => exact .inl fun _ => rfl
      | data =>
        cases ht : w.transfers.lookup i with
        | none => exact .inl fun u => by simp [delta,ht]
        | some t => exact .inr ⟨t,rfl,fun u => by simp [delta,ht]⟩
    | _ => exact .inl fun _ => rfl

theorem settlement_total (hd : DistinctParties w) {sellerId : UserId} {i : TransferId}
    {otp : Option Nat} {ω : List (Entry Platform) → Env}
    (hfree : FailureFree ((CreditRequest.sellerVerify sellerId i otp).run cfg ω w)) :
    totalCredits ((CreditRequest.sellerVerify sellerId i otp).run cfg ω w).state =
      totalCredits w := by
  have hf := run_accounted (hd.notSelf (.sellerVerify sellerId i otp)) hfree
  rw [hf.total,add_eq_left]
  rcases delta_sellerVerify w sellerId i otp
    ((CreditRequest.sellerVerify sellerId i otp).run cfg ω w).result.toOption with
    hzero | ⟨t,ht,hdelta⟩
  · exact Finset.sum_eq_zero fun u _ => hzero u
  · simp only [hdelta] at hf ⊢
    exact sum_transferDelta (hd i t ht) fun u hu => mem_holders.mpr (hf.holder u hu)

/-- Over complete requests in which no call fails, each balance has changed by the sum of the
ledger entries made since, and thus by that of all entries where there were none; and a
settlement leaves the sum of all balances as it was. -/
theorem ledger_explains_balances (cfg : SeatConfig) (w₀ w : World) (hd : DistinctParties w₀)
    (hrun : ReflTransGen (Completes cfg) w₀ w) :
    (∀ u, w.credits.lookup u =
      (w₀.credits.lookup u).map (· + (ledgerSum w u-ledgerSum w₀ u))) ∧
    (w₀.creditTransactions = [] → ∀ u, w.credits.lookup u =
      (w₀.credits.lookup u).map (· + ledgerSum w u)) ∧
    ∀ sellerId i otp ω, FailureFree ((CreditRequest.sellerVerify sellerId i otp).run cfg ω w) →
      totalCredits ((CreditRequest.sellerVerify sellerId i otp).run cfg ω w).state =
        totalCredits w := by
  obtain ⟨hd',hexplained⟩ := explained_run hd hrun
  refine ⟨hexplained,fun hempty u => ?_,fun sellerId i otp ω hfree => settlement_total hd' hfree⟩
  rw [hexplained u,show ledgerSum w₀ u = 0 by simp [ledgerSum,hempty],sub_zero]

end Runs

section Settled

/-- User 1 sells to user 2, who has verified, for 30 credits. -/
def verifiedWorld : World where
  users := (AList.singleton 1 ⟨"a@x.io",11⟩).insert 2 ⟨"b@x.io",12⟩
  events := ∅
  venues := ∅
  seats := ∅
  inventory := ∅
  holdCache := ∅
  released := ∅
  tickets := AList.singleton 5 ⟨4,1,1,1,30,.listed,none,none,0⟩
  ticketLogs := []
  listings := AList.singleton 6 ⟨5,1,30,.active,0⟩
  transfers := AList.singleton 8
    ⟨6,2,1,.pendingSellerOtp,30,true,false,some 3,some 4,none,seconds 86400,0⟩
  credits := (AList.singleton 1 0).insert 2 100
  creditTransactions := []
  paymentIntents := AList.singleton 7 ⟨true,some (2,50)⟩
  scanLocks := ∅

def healthy (_ : List (Entry Platform)) : Env := ⟨0,9,9,true,true,none⟩

/-- User 2 tops up, and then the transfer is settled. -/
def toppedUp : World :=
  ((CreditRequest.confirmTopup 2 (some 7)).run ⟨3,3,false⟩ healthy verifiedWorld).state

def settledWorld : World :=
  ((CreditRequest.sellerVerify 1 8 (some 1)).run ⟨3,3,false⟩ healthy toppedUp).state

theorem verified_distinct : DistinctParties verifiedWorld := by
  have hparties : ∀ x ∈ verifiedWorld.transfers.entries, x.2.buyerId ≠ x.2.sellerId := by
    decide +kernel
  exact fun i t ht => hparties ⟨i,t⟩ (List.of_mem_dlookup ht)

theorem ledger_explains_balances_settled :
    settledWorld.credits.lookup 2 = some 120 ∧
      settledWorld.credits.lookup 2 =
        (verifiedWorld.credits.lookup 2).map (· + ledgerSum settledWorld 2) ∧
      totalCredits settledWorld = totalCredits toppedUp := by
  have htopup : Relation.ReflTransGen (Completes ⟨3,3,false⟩) verifiedWorld toppedUp :=
    .single ⟨.confirmTopup 2 (some 7),healthy,by decide +kernel,rfl⟩
  have hsettle : FailureFree ((CreditRequest.sellerVerify 1 8 (some 1)).run ⟨3,3,false⟩ healthy
      toppedUp) := by decide +kernel
  refine ⟨by decide +kernel,?_,?_⟩
  · exact (ledger_explains_balances ⟨3,3,false⟩ verifiedWorld settledWorld verified_distinct
      (htopup.tail ⟨_,_,hsettle,rfl⟩)).2.1 rfl 2
  · exact (ledger_explains_balances ⟨3,3,false⟩ verifiedWorld toppedUp verified_distinct
      htopup).2.2 1 8 (some 1) healthy hsettle

end Settled

end TicketRemaster.Credits
