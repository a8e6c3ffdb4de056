import TicketRemaster.Transfer.Charges
import TicketRemaster.Transfer.Lookups
import TicketRemaster.Credits.Effects
set_option autoImplicit false

/-! When the answer of `seller_verify` tells the truth about the credits. -/

namespace TicketRemaster.Transfer

open Resumption SeatInventory

/-- What `seller_verify` answers when anything in its `try` raises. -/
def noCreditsCharged : Response SettledTransfer :=
  .error "INTERNAL_ERROR" "Transfer failed — no credits were charged." 500

/-- A lookup has raised after the last step of the saga. -/
def unread : List (Entry Platform) → Bool
  | [] => false
  | x :: h => !completing x && (unreadable x && h.any completing || unread h)

section Verified

variable (cfg : SeatConfig) (sellerId : UserId) (transferId : TransferId) (otp : Option Nat)
  (w : World) (ω : List (Entry Platform) → Env)

def prepared : Final Platform Unhandled
    (Except (Response SettledTransfer) (TicketRemaster.Transfer × Saga)) World :=
  (prepareSettlement sellerId transferId otp).exec (World.server cfg Unit) () ω [] w

def verified : Final Platform Unhandled (Response SettledTransfer) World :=
  (sellerVerify sellerId transferId otp).exec (World.server cfg Unit) () ω [] w

/-- The request gets as far as its saga, and the saga returns. -/
def SagaReturned : Prop :=
  ∃ t a, (prepared cfg sellerId transferId otp w ω).result = .ok (.ok (t,a)) ∧
    ((executeSaga a).exec (World.server cfg Unit) () ω
      (prepared cfg sellerId transferId otp w ω).past
      (prepared cfg sellerId transferId otp w ω).state).result = .ok ()

structure TellsTruth : Prop where
  uncharged : (verified cfg sellerId transferId otp w ω).result = .ok noCreditsCharged →
    ∀ t, w.transfers.lookup transferId = some t →
      (verified cfg sellerId transferId otp w ω).state.credits.lookup t.buyerId =
          w.credits.lookup t.buyerId ∧
        (verified cfg sellerId transferId otp w ω).state.credits.lookup t.sellerId =
          w.credits.lookup t.sellerId
  settled : SagaReturned cfg sellerId transferId otp w ω →
    ∃ d, (verified cfg sellerId transferId otp w ω).result = .ok (.data 200 d)

/-- No lookup raises after the saga, and no failure leaves an account charged. -/
def Undisturbed (h : List (Entry Platform)) : Prop :=
  unread h = false ∧ ∀ t, w.transfers.lookup transferId = some t →
    t.creditAmount = 0 ∨ chargeLeft w t.buyerId ω h = false

end Verified

section Histories

variable {ω : List (Entry Platform) → Env} {h h' : List (Entry Platform)} {found : Bool}

theorem reads_neutral {q : Call} (hq : Call.Reads q) : Neutral q := by
  rcases hq with hq | ⟨i,rfl⟩
  · refine ⟨by rw [hq]; simp,fun w u e r => ?_⟩
    cases q with
    | http q => cases q <;> first | rfl | cases hq
    | _ => rfl
  · exact ⟨by simp [Call.writes,Http.writes],fun _ _ _ _ => rfl⟩

theorem reads_completing {q : Call} (hq : Call.Reads q) (r : q.Ans) :
    completing ⟨q,r⟩ = false := by
  rcases hq with hq | ⟨i,rfl⟩
  · cases q with
    | http q => cases q <;> first | rfl | cases hq
    | _ => rfl
  · rfl

theorem unread_incomplete (hh : h.any completing = false) : unread h = false := by
  induction h with
  | nil => rfl
  | cons x h ih =>
    obtain ⟨-,hrest⟩ := Bool.or_eq_false_iff.mp hh
    simp only [unread,ih hrest,hrest]
    simp

/-- Once the saga has taken its last step, what is unread is a lookup that raises. -/
theorem unread_grown (hc : h.any completing) (hh : GrownBy Call.Reads unreadable found h h') :
    unread h' = (found || unread h) ∧ h'.any completing := by
  obtain ⟨new,rfl,hnew,rfl⟩ := hh
  induction new with
  | nil => exact ⟨rfl,hc⟩
  | cons x new ih =>
    obtain ⟨ihread,ihdone⟩ := ih fun y hy => hnew y (List.mem_cons_of_mem _ hy)
    have hx : completing x = false := reads_completing (hnew x List.mem_cons_self) x.2
    refine ⟨?_,by simp [ihdone]⟩
    simp only [List.cons_append,unread,hx,ihdone,ihread,List.any_cons]
    cases unreadable x <;> simp

theorem chargeLeft_grown {w : World} {u : UserId}
    (hh : GrownBy Call.Reads unreadable found h h') :
    chargeLeft w u ω h' = chargeLeft w u ω h := by
  obtain ⟨new,rfl,hnew,-⟩ := hh
  induction new with
  | nil => rfl
  | cons x new ih =>
    have hx := (reads_neutral (hnew x List.mem_cons_self)).2 w u (ω (new ++ h)) x.2
    rw [List.cons_append,chargeLeft_cons,hx,ih fun y hy => hnew y (List.mem_cons_of_mem _ hy)]
    rfl

end Histories

section Preparation

variable {cfg : SeatConfig} {ω : List (Entry Platform) → Env} {h : List (Entry Platform)}
  {w₀ w : World} {i : TransferId} {u : UserId} {t t₀ : TicketRemaster.Transfer}

/-- Before the saga no balance has been written. -/
structure Preparing (w₀ : World) (ω : List (Entry Platform) → Env) (h : List (Entry Platform))
    (w : World) : Prop where
  left : ∀ u, chargeLeft w₀ u ω h = false
  incomplete : h.any completing = false
  credits : w.credits = w₀.credits

theorem Preparing.perform {e : Env} {q : Call} {r : q.Ans} {w' : World}
    (hh : Preparing w₀ ω h w) (hq : Neutral q) (hr : completing ⟨q,r⟩ = false)
    (hp : World.perform cfg e w q = (r,w')) : Preparing w₀ ω (⟨q,r⟩ :: h) w' where
  left u := by rw [chargeLeft_cons,hq.2,hh.left]; rfl
  incomplete := by rw [List.any_cons,hr,hh.incomplete]; rfl
  credits := by rw [(World.frame_of_perform hp).credits hq.1,hh.credits]

/-- What the preparation hands over: an answer of its own, or the arguments of the saga. -/
structure Handed (i : TransferId) (w₀ : World)
    (r : Except (Response SettledTransfer) (TicketRemaster.Transfer × Saga)) : Prop where
  answer : ∀ ans, r = .error ans → ans ≠ noCreditsCharged
  saga : ∀ x, r = .ok x → ∃ t₀, w₀.transfers.lookup i = some t₀ ∧ x.2.buyerId = t₀.buyerId ∧
    x.2.sellerId = t₀.sellerId ∧ x.2.creditAmount = t₀.creditAmount ∧ Opening x.2 w₀

theorem handed_error {code message : String} {status : Nat} (hs : status ≠ 500) :
    Handed i w₀ (.error (.error code message status)) := by
  refine ⟨?_,fun _ hx => by simp at hx⟩
  rintro ans heq rfl
  simp only [noCreditsCharged,Except.error.injEq,Response.error.injEq] at heq
  exact hs heq.2.2

abbrev Prepares (ω : List (Entry Platform) → Env) (i : TransferId) (w₀ : World) (cfg : SeatConfig)
    (p : Handler (Except (Response SettledTransfer) (TicketRemaster.Transfer × Saga)))
    (h : List (Entry Platform)) (w : World) : Prop :=
  Handler.Always cfg (AsChosen ω) (fun r h w => Preparing w₀ ω h w ∧ Handed i w₀ r)
    (fun _ h w => Preparing w₀ ω h w) p h w

theorem ask_prepares {q : Http}
    {f : Except String q.Val →
      Handler (Except (Response SettledTransfer) (TicketRemaster.Transfer × Saga))}
    (hh : Preparing w₀ ω h w) (hq : Neutral (.http q))
    (hc : ∀ r, completing ⟨.http q,r⟩ = false)
    (hok : ∀ e v h w', World.perform cfg e w (.http q) = (.ok v,w') → Preparing w₀ ω h w' →
      Prepares ω i w₀ cfg (f (.ok v)) h w')
    (herr : ∀ code h w', Preparing w₀ ω h w' → Prepares ω i w₀ cfg (f (.error code)) h w') :
    Prepares ω i w₀ cfg (callService q >>= f) h w :=
  callService_always (fun e v w' _ hp => hok e v _ w' hp (hh.perform hq (hc _) hp))
    (fun _ code w' _ hp => herr code _ w' (hh.perform hq (hc _) hp))
    (fun _ _ _ hp => hh.perform hq (hc _) hp)

theorem patched_neutral {p : TransferPatch} : Neutral (.http (.patchTransfer i p)) :=
  ⟨by simp [Call.writes,Http.writes],fun _ _ _ r => by cases r <;> rfl⟩

theorem patched_completing {p : TransferPatch} (hp : p.status ≠ some .completed)
    (r : Reply TicketRemaster.Transfer) : completing ⟨.http (.patchTransfer i p),r⟩ = false := by
  cases r <;> simp [completing,hp]

theorem readBalances_prepares {listing : Option Listing} (hh : Preparing w₀ ω h w)
    (ht₀ : w₀.transfers.lookup i = some t₀) (hterms : Credits.SameTerms t t₀) :
    Prepares ω i w₀ cfg (readBalances t.sellerId i t listing) h w := by
  have hlook : ∀ u, Call.Reads (.http (.getCredits u)) := fun u => .inl rfl
  refine ask_prepares hh (reads_neutral (hlook _)) (reads_completing (hlook _)) ?_ ?_
  · intro e buyerCredit h₁ w₁ hp hh₁
    obtain ⟨rfl,b,hb,rfl⟩ := World.serve_getCredits_ok (World.perform_ok hp)
    simp only
    split
    · exact ask_prepares hh₁ patched_neutral (patched_completing (by decide))
        (fun _ _ _ _ _ hh => ⟨hh,handed_error (by decide)⟩)
        (fun _ _ _ hh => ⟨hh,handed_error (by decide)⟩)
    · refine ask_prepares hh₁ (reads_neutral (hlook _)) (reads_completing (hlook _)) ?_ ?_
      · intro e sellerCredit h₂ w₂ hp hh₂
        obtain ⟨rfl,s,hs,rfl⟩ := World.serve_getCredits_ok (World.perform_ok hp)
        refine ⟨hh₂,fun _ hans => by simp at hans,fun x hx => ?_⟩
        obtain rfl := Except.ok.inj hx
        refine ⟨t₀,ht₀,hterms.buyer,hterms.seller,hterms.amount,?_,?_⟩
        · rw [← hh₂.credits]
          exact hb
        · rw [← hh₂.credits]
          exact hs
      · exact fun _ _ _ hh => ⟨hh,handed_error (by decide)⟩
  · intro code h₁ w₁ hh₁
    exact ask_prepares hh₁ patched_neutral (patched_completing (by decide))
      (fun _ _ _ _ _ hh => ⟨hh,handed_error (by decide)⟩)
      (fun _ _ _ hh => ⟨hh,handed_error (by decide)⟩)

theorem confirmSeller_prepares (hh : Preparing w₀ ω h w)
    (ht₀ : w₀.transfers.lookup i = some t₀) (hterms : Credits.SameTerms t t₀) :
    Prepares ω i w₀ cfg (confirmSeller t.sellerId i t) h w := by
  have hlisting : Call.Reads (.http (.getListing t.listingId)) := .inl rfl
  have hlook : ∀ {h w}, Preparing w₀ ω h w → Prepares ω i w₀ cfg (do
      let listing ← safeGet (.getListing t.listingId)
      readBalances t.sellerId i t listing) h w := by
    intro h w hh
    unfold safeGet
    rw [Prog.bind_assoc]
    exact ask_prepares hh (reads_neutral hlisting) (reads_completing hlisting)
      (fun _ _ _ _ _ hh => readBalances_prepares hh ht₀ hterms)
      (fun _ _ _ hh => readBalances_prepares hh ht₀ hterms)
  exact ask_prepares hh patched_neutral (patched_completing (by decide))
    (fun _ _ _ _ _ hh => hlook hh) (fun _ _ _ hh => hlook hh)

theorem prepareSettlement_prepares (cfg : SeatConfig) (sellerId : UserId) (i : TransferId)
    (otp : Option Nat) (w₀ : World) (ω : List (Entry Platform) → Env) :
    Prepares ω i w₀ cfg (prepareSettlement sellerId i otp) [] w₀ := by
  have hstart : Preparing w₀ ω [] w₀ := ⟨fun _ => rfl,rfl,rfl⟩
  cases otp with
  | none => exact ⟨hstart,handed_error (by decide)⟩
  | some otp =>
    have htransfer : Call.Reads (.http (.getTransfer i)) := .inr ⟨i,rfl⟩
    refine ask_prepares hstart (reads_neutral htransfer) (reads_completing htransfer) ?_
      (fun _ _ _ hh => ⟨hh,handed_error (by decide)⟩)
    intro e t h w hp hh
    obtain ⟨t₀,ht₀,hterms⟩ := Credits.serve_getTransfer_ok (World.perform_ok hp)
    simp only
    split
    · exact ⟨hh,handed_error (by decide)⟩
    · rename_i hseller
      obtain rfl : t.sellerId = sellerId := not_not.mp hseller
      split
      · exact ⟨hh,handed_error (by decide)⟩
      · split
        · exact ⟨hh,handed_error (by decide)⟩
        · have huser : Call.Reads (.http (.getUser t.sellerId)) := .inl rfl
          refine ask_prepares hh (reads_neutral huser) (reads_completing huser) ?_
            (fun _ _ _ hh => ⟨hh,handed_error (by decide)⟩)
          intro e seller h w _ hh
          have hotp : ∀ sid, Call.Reads (.http (.verifyOtp sid otp seller.phoneNumber)) :=
            fun sid => .inl rfl
          refine ask_prepares hh (reads_neutral (hotp _)) (reads_completing (hotp _)) ?_
            (fun _ _ _ hh => ⟨hh,handed_error (by decide)⟩)
          intro e right h w _ hh
          cases right with
          | false => exact ⟨hh,handed_error (by decide)⟩
          | true => exact confirmSeller_prepares hh ht₀ hterms

end Preparation

section Exits

variable {cfg : SeatConfig} {ω : List (Entry Platform) → Env} {h h' : List (Entry Platform)}
  {w w' : World} {t : TicketRemaster.Transfer} {a : Saga}

abbrev runFrom {α : Type} (cfg : SeatConfig) (ω : List (Entry Platform) → Env) (p : Handler α)
    (h : List (Entry Platform)) (w : World) : Final Platform Unhandled α World :=
  p.exec (World.server cfg Unit) () ω h w

section Ends

variable {α : Type} {p : Handler α} {E : List (Entry Platform) → Env → Prop}
  {Q : α → List (Entry Platform) → World → Prop}
  {X : Unhandled → List (Entry Platform) → World → Prop}

theorem ends_ok {r : α} (hp : Handler.Always cfg E Q X p h w) (hω : ∀ h, E h (ω h))
    (hr : runFrom cfg ω p h w = ⟨.ok r,h',w'⟩) : Q r h' w' := by
  have hends : (runFrom cfg ω p h w).Meets Q X := hp.exec ω hω
  rwa [hr] at hends

theorem ends_raised {exc : Unhandled} (hp : Handler.Always cfg E Q X p h w) (hω : ∀ h, E h (ω h))
    (hr : runFrom cfg ω p h w = ⟨.error exc,h',w'⟩) : X exc h' w' := by
  have hends : (runFrom cfg ω p h w).Meets Q X := hp.exec ω hω
  rwa [hr] at hends

end Ends

/-- Anything that raises in the `try` ends in the one message. -/
theorem settle_raised {exc : Unhandled} (hx : runFrom cfg ω (runSaga a) h w = ⟨.error exc,h',w'⟩) :
    runFrom cfg ω (settle t a) h w = ⟨.ok noCreditsCharged,h',w'⟩ := by
  have htried : runFrom cfg ω (do runSaga a; pure true : Handler Bool) h w =
      ⟨.error exc,h',w'⟩ := Prog.exec_bind_error hx
  unfold settle
  exact (Prog.exec_bind_ok (Prog.exec_handle_error htried)).trans rfl

/-- Otherwise the transfer is loaded once more for the answer. -/
theorem settle_returned (hr : runFrom cfg ω (runSaga a) h w = ⟨.ok (),h',w'⟩) :
    runFrom cfg ω (settle t a) h w = runFrom cfg ω (reportSettled t a) h' w' := by
  have htried : runFrom cfg ω (do runSaga a; pure true : Handler Bool) h w =
      ⟨.ok true,h',w'⟩ := Prog.exec_bind_ok hr
  unfold settle
  exact (Prog.exec_bind_ok (Prog.exec_handle_ok htried)).trans rfl

theorem reportSettled_returns (t : TicketRemaster.Transfer) (a : Saga) :
    Prog.Returns (fun r => ∃ d, r = .data 200 d) (reportSettled t a) :=
  Prog.returns_bind fun _ => Prog.returns_bind fun _ => ⟨_,rfl⟩

end Exits

section Truth

variable {cfg : SeatConfig} {sellerId : UserId} {i : TransferId} {otp : Option Nat}
  {w w₁ : World} {ω : List (Entry Platform) → Env} {h : List (Entry Platform)}
  {t t₀ : TicketRemaster.Transfer} {a : Saga}

theorem Preparing.undisturbed (hh : Preparing w ω h w₁) : Undisturbed i w ω h :=
  ⟨unread_incomplete hh.incomplete,fun _ _ => .inr (hh.left _)⟩

/-- A request that does not get as far as its saga promises nothing. -/
theorem truth_unsettled {result : Except Unhandled (Response SettledTransfer)}
    (hv : verified cfg sellerId i otp w ω = ⟨result,h,w₁⟩) (hres : result ≠ .ok noCreditsCharged)
    (hno : ¬ SagaReturned cfg sellerId i otp w ω) (hh : Preparing w ω h w₁) :
    TellsTruth cfg sellerId i otp w ω ↔
      Undisturbed i w ω (verified cfg sellerId i otp w ω).past := by
  rw [hv]
  refine iff_of_true ⟨fun hr => ?_,fun hs => absurd hs hno⟩ hh.undisturbed
  rw [hv] at hr
  exact absurd hr hres

/-- The arguments of the saga, and where it starts. -/
structure Starts (cfg : SeatConfig) (sellerId : UserId) (i : TransferId) (otp : Option Nat)
    (w : World) (ω : List (Entry Platform) → Env) (t₀ t : TicketRemaster.Transfer) (a : Saga)
    (h : List (Entry Platform)) (w₁ : World) : Prop where
  prepared : prepared cfg sellerId i otp w ω = ⟨.ok (.ok (t,a)),h,w₁⟩
  row : w.transfers.lookup i = some t₀
  buyer : a.buyerId = t₀.buyerId
  seller : a.sellerId = t₀.sellerId
  amount : a.creditAmount = t₀.creditAmount
  opening : Opening a w
  preparing : Preparing w ω h w₁

theorem Starts.verified (hs : Starts cfg sellerId i otp w ω t₀ t a h w₁) :
    verified cfg sellerId i otp w ω = runFrom cfg ω (settle t a) h w₁ :=
  Prog.exec_bind_ok hs.prepared

theorem Starts.opened (hs : Starts cfg sellerId i otp w ω t₀ t a h w₁) : Opening a w₁ :=
  ⟨hs.preparing.credits.symm ▸ hs.opening.buyer,hs.preparing.credits.symm ▸ hs.opening.seller⟩

theorem Starts.returned (hs : Starts cfg sellerId i otp w ω t₀ t a h w₁) :
    SagaReturned cfg sellerId i otp w ω ↔
      (runFrom cfg ω (executeSaga a) h w₁).result = .ok () := by
  unfold SagaReturned
  rw [hs.prepared]
  constructor
  · rintro ⟨t',a',heq,hr⟩
    cases heq
    exact hr
  · exact fun hr => ⟨t,a,rfl,hr⟩

theorem Starts.undisturbed_iff {h' : List (Entry Platform)}
    (hs : Starts cfg sellerId i otp w ω t₀ t a h w₁) : Undisturbed i w ω h' ↔
      unread h' = false ∧ (a.creditAmount = 0 ∨ chargeLeft w a.buyerId ω h' = false) := by
  unfold Undisturbed
  rw [hs.row,hs.amount,hs.buyer]
  simp

/-- The saga raises: the message is true if the balances are as they were. -/
theorem truth_raised {exc : Unhandled} {h' : List (Entry Platform)} {w' : World}
    (hω : ∀ h, (ω h).Announced) (hne : t₀.buyerId ≠ t₀.sellerId)
    (hs : Starts cfg sellerId i otp w ω t₀ t a h w₁)
    (hsaga : runFrom cfg ω (executeSaga a) h w₁ = ⟨.error exc,h',w'⟩) :
    TellsTruth cfg sellerId i otp w ω ↔
      Undisturbed i w ω (verified cfg sellerId i otp w ω).past := by
  have hv : verified cfg sellerId i otp w ω = ⟨.ok noCreditsCharged,h',w'⟩ := by
    rw [hs.verified]
    exact settle_raised (by rw [runSaga_eq]; exact Prog.exec_bind_error hsaga)
  have hresult : (runFrom cfg ω (executeSaga a) h w₁).result = .error exc := by rw [hsaga]
  have htruth : TellsTruth cfg sellerId i otp w ω ↔ Opening a w' := by
    have hopening := hs.opening
    constructor
    · intro htrue
      obtain ⟨hbuyer,hseller⟩ := htrue.uncharged (by rw [hv]) t₀ hs.row
      rw [hv,← hs.buyer] at hbuyer
      rw [hv,← hs.seller] at hseller
      exact ⟨hbuyer.trans hopening.buyer,hseller.trans hopening.seller⟩
    · refine fun ho => ⟨fun _ t' ht' => ?_,fun hr => ?_⟩
      · obtain rfl : t₀ = t' := Option.some.inj (hs.row.symm.trans ht')
        rw [hv,← hs.buyer,← hs.seller]
        exact ⟨ho.buyer.trans hopening.buyer.symm,ho.seller.trans hopening.seller.symm⟩
      · rw [hs.returned,hresult] at hr
        cases hr
  have hincomplete : h'.any completing = false :=
    ends_raised (executeSaga_completing (E := fun _ _ => True) hs.preparing.incomplete)
      (fun _ => trivial) hsaga
  rw [htruth,hv,hs.undisturbed_iff,unread_incomplete hincomplete]
  by_cases hc : a.creditAmount = 0
  · have hunmoved : Opening a w' :=
      ends_raised (executeSaga_unmoved (E := fun _ _ => True) hs.opened hc) (fun _ => trivial) hsaga
    exact iff_of_true hunmoved ⟨rfl,.inl hc⟩
  · have hsettled : Settled a w ω h' w' :=
      ends_raised (executeSaga_settled hs.opening (by rwa [hs.buyer,hs.seller]) hc
        (hs.preparing.left _) hs.opened) (fun h => ⟨rfl,hω h⟩) hsaga
    unfold Settled at hsettled
    rw [hsettled]
    simp [hc]

/-- The saga returns: the answer is 200 unless a lookup after it raises. -/
theorem truth_returned {h' : List (Entry Platform)} {w' : World}
    (hω : ∀ h, (ω h).Announced) (hne : t₀.buyerId ≠ t₀.sellerId)
    (hs : Starts cfg sellerId i otp w ω t₀ t a h w₁)
    (hsaga : runFrom cfg ω (executeSaga a) h w₁ = ⟨.ok (),h',w'⟩) :
    TellsTruth cfg sellerId i otp w ω ↔
      Undisturbed i w ω (verified cfg sellerId i otp w ω).past := by
  have hreturned : SagaReturned cfg sellerId i otp w ω := by rw [hs.returned,hsaga]
  obtain ⟨hdone,hread⟩ : h'.any completing ∧ unread h' = false := by
    obtain ⟨x,rest,rfl,hx⟩ := ends_ok (executeSaga_completing (E := fun _ _ => True)
      hs.preparing.incomplete) (fun _ => trivial) hsaga
    exact ⟨by simp [hx],by simp [unread,hx]⟩
  have hleft : a.creditAmount = 0 ∨ chargeLeft w a.buyerId ω h' = false := by
    by_cases hc : a.creditAmount = 0
    · exact .inl hc
    · exact .inr (ends_ok (executeSaga_settled hs.opening (by rwa [hs.buyer,hs.seller]) hc
        (hs.preparing.left _) hs.opened) (fun h => ⟨rfl,hω h⟩) hsaga)
  -- a lookup that raises keeps the answer from being 200
  have hraised : ∀ {result h'' w''}, verified cfg sellerId i otp w ω = ⟨result,h'',w''⟩ →
      (∀ d, result ≠ .ok (.data 200 d)) → unread h'' = true →
      (TellsTruth cfg sellerId i otp w ω ↔
        Undisturbed i w ω (verified cfg sellerId i otp w ω).past) := by
    intro result h'' w'' hv hno hunread
    refine iff_of_false (fun htrue => ?_) fun hun => ?_
    · obtain ⟨d,hd⟩ := htrue.settled hreturned
      rw [hv] at hd
      exact hno d hd
    · have hread := hun.1
      rw [hv,hunread] at hread
      cases hread
  cases hannounce : runFrom cfg ω (announceSettled a) h' w' with
  | mk result h₁ w₂ =>
    have hrun : runFrom cfg ω (runSaga a) h w₁ = ⟨result,h₁,w₂⟩ := by
      rw [← hannounce,runSaga_eq]
      exact Prog.exec_bind_ok hsaga
    cases result with
    | error exc =>
      have hgrown := ends_raised ((announceSettled_loud a).always (E := fun _ _ => True))
        (fun _ => trivial) hannounce
      exact hraised (hs.verified.trans (settle_raised hrun)) (by simp [noCreditsCharged])
        (unread_grown hdone hgrown).1
    | ok _ =>
      have hgrown₁ := ends_ok ((announceSettled_loud a).always (E := fun _ _ => True))
        (fun _ => trivial) hannounce
      obtain ⟨hread₁,hdone₁⟩ := unread_grown hdone hgrown₁
      have hv := hs.verified.trans (settle_returned (t := t) hrun)
      cases hreport : runFrom cfg ω (reportSettled t a) h₁ w₂ with
      | mk result h₂ w₃ =>
        rw [hreport] at hv
        cases result with
        | error exc =>
          have hgrown₂ := ends_raised ((reportSettled_loud t a).always (E := fun _ _ => True))
            (fun _ => trivial) hreport
          exact hraised hv (by simp) (unread_grown hdone₁ hgrown₂).1
        | ok answer =>
          have hgrown₂ := ends_ok ((reportSettled_loud t a).always (E := fun _ _ => True))
            (fun _ => trivial) hreport
          obtain ⟨d,rfl⟩ := ends_ok ((reportSettled_returns t a).always (E := fun _ _ => True))
            (fun _ => trivial) hreport
          refine iff_of_true ⟨fun hmessage => ?_,fun _ => ⟨d,by rw [hv]⟩⟩ ?_
          · rw [hv] at hmessage
            cases hmessage
          · rw [hv,hs.undisturbed_iff,chargeLeft_grown hgrown₂,chargeLeft_grown hgrown₁,
              (unread_grown hdone₁ hgrown₂).1,hread₁,hread]
            exact ⟨rfl,hleft⟩

end Truth

section BrokenLookup

/-- User 2 has verified, and user 1 is about to. -/
def awaitingSeller : World :=
  { listedTicketWorld with
    users := (AList.singleton 1 ⟨"a@x.io",11⟩).insert 2 ⟨"b@x.io",12⟩
    transfers := AList.singleton 8
      ⟨6,2,1,.pendingSellerOtp,30,true,false,some 3,some 4,none,seconds 86400,0⟩ }

theorem awaitingSeller_parties (t : TicketRemaster.Transfer)
    (ht : awaitingSeller.transfers.lookup 8 = some t) : t.buyerId ≠ t.sellerId := by
  cases ht
  decide

/-- marketplace-service does not complete the listing. -/
def refusedCompletion (h : List (Entry Platform)) : Env :=
  { healthyCall with
    fault := match h with
      | ⟨.http (.updateTicket _ p),.ok _⟩ :: _ =>
          if p.status = some .active then some ⟨false,some "SERVICE_UNAVAILABLE"⟩ else none
      | _ => none }

theorem refusedCompletion_announced (h : List (Entry Platform)) :
    (refusedCompletion h).Announced := by
  intro f code hf _
  simp only [refusedCompletion] at hf
  split at hf
  · split at hf
    · cases hf
      rfl
    · cases hf
  · cases hf

/-- The first lookup for the notification gets an answer that is no JSON. -/
def garbledLookup (h : List (Entry Platform)) : Env :=
  { healthyCall with fault := if h.head?.any completing then some ⟨true,none⟩ else none }

theorem garbledLookup_announced (h : List (Entry Platform)) : (garbledLookup h).Announced := by
  intro f code hf hcode
  simp only [garbledLookup] at hf
  split at hf
  · cases hf
    cases hcode
  · cases hf

end BrokenLookup

end TicketRemaster.Transfer
