import TicketRemaster.Transfer.Requests
set_option autoImplicit false

/-! What a request makes of the row of one transfer. A request that names another transfer can do
nothing to it but find it expired. -/

namespace TicketRemaster.Transfer

open Resumption SeatInventory

/-- Expiry does not end the condition on a row. -/
def OutlivesExpiry (R : Option TicketRemaster.Transfer → Prop) : Prop :=
  ∀ t now, World.autoExpires t now → R (some t) → R (some (World.expire t))

/-- The call does not end the condition on the row of transfer `i`. -/
def Leaves (cfg : SeatConfig) (i : TransferId) (R : Option TicketRemaster.Transfer → Prop)
    (q : Call) : Prop :=
  ∀ e w, R (w.transfers.lookup i) → R ((World.perform cfg e w q).2.transfers.lookup i)

/-- However the calls of the handler are answered, it ends with `R` true of the row. -/
abbrev Handler.EndsIn {α : Type} (cfg : SeatConfig) (E : List (Entry Platform) → Env → Prop)
    (i : TransferId) (R : Option TicketRemaster.Transfer → Prop) (p : Handler α)
    (h : List (Entry Platform)) (w : World) : Prop :=
  Handler.Always cfg E (fun _ _ w' => R (w'.transfers.lookup i))
    (fun _ _ w' => R (w'.transfers.lookup i)) p h w

section Rules

variable {cfg : SeatConfig} {i : TransferId} {R : Option TicketRemaster.Transfer → Prop}
  {α : Type} {E : List (Entry Platform) → Env → Prop} {h : List (Entry Platform)} {w : World}

theorem leaves_of_change {q : Call} (hR : OutlivesExpiry R)
    (hpatch : ∀ p t, q = .http (.patchTransfer i p) → R (some t) →
      R (some (World.setTransfer p t)))
    (hcreate : ∀ d t, q = .http (.createTransfer d) → t.buyerOtpVerified = false →
      t.sellerOtpVerified = false → t.status = .pendingSellerAcceptance → R none → R (some t)) :
    Leaves cfg i R q := by
  intro e w hr
  have hchange := perform_change cfg e w i q
  generalize (World.perform cfg e w q).2.transfers.lookup i = r' at hchange ⊢
  generalize w.transfers.lookup i = r at hchange hr
  cases hchange with
  | keep => exact hr
  | expire t hexpires => exact hR t e.time hexpires hr
  | patch t p hq => exact hpatch p t hq hr
  | create d t hq hbuyer hseller hstatus => exact hcreate d t hq hbuyer hseller hstatus hr

theorem leaves_reads (hR : OutlivesExpiry R) (q : Call) (hq : q.Reads) : Leaves cfg i R q := by
  refine leaves_of_change hR (fun p t hp => ?_) (fun d t hd => ?_)
  · subst hp
    rcases hq with hq | ⟨j,hq⟩ <;> cases hq
  · subst hd
    rcases hq with hq | ⟨j,hq⟩ <;> cases hq

theorem leaves_patch {j : TransferId} {p : TransferPatch} (hR : OutlivesExpiry R)
    (hp : j = i → ∀ t, R (some t) → R (some (World.setTransfer p t))) :
    Leaves cfg i R (.http (.patchTransfer j p)) := by
  refine leaves_of_change hR (fun p' t hq hr => ?_) (fun d t hq => by cases hq)
  cases hq
  exact hp rfl t hr

/-- A PATCH that transfer-service refuses as a whole. -/
theorem leaves_refused {j : TransferId} {p : TransferPatch} (hp : p.otherFields) :
    Leaves cfg i R (.http (.patchTransfer j p)) := by
  intro e w hr
  rcases World.perform_http_cases cfg e w (.patchTransfer j p) with hw | hw
  · rwa [hw]
  · rwa [hw,refused_patch hp]

theorem leaves_other {q : Call} (hq : q.writes ≠ some .transfers) : Leaves cfg i R q := by
  intro e w hr
  rwa [(World.perform_frame q).transfers hq]

theorem calls_endIn {p : Handler α} (hp : p.Calls (Leaves cfg i R) (fun _ => True))
    (hr : R (w.transfers.lookup i)) : Handler.EndsIn cfg E i R p h w := by
  refine (hp.always (J := fun _ w => R (w.transfers.lookup i)) ?_ hr).mono (fun _ _ _ hJ => hJ)
    (fun _ _ _ hJ => hJ.2)
  exact fun q hq _ e w _ hJ => hq e w hJ

theorem endsIn_mono {R' : Option TicketRemaster.Transfer → Prop} {p : Handler α}
    (hp : Handler.EndsIn cfg E i R p h w) (hR : ∀ r, R r → R' r) :
    Handler.EndsIn cfg E i R' p h w :=
  Prog.Always.mono hp (fun _ _ _ hr => hR _ hr) (fun _ _ _ hr => hR _ hr)

/-- What a request does with its answer makes no difference. -/
theorem endsIn_map {β : Type} {p : Handler α} {f : α → β} (hp : Handler.EndsIn cfg E i R p h w) :
    Handler.EndsIn cfg E i R (do return f (← p) : Handler β) h w :=
  Prog.always_bind.mpr hp

/-- A call that leaves the condition alone, whatever its answer is. -/
theorem ask_endsIn {q : Http} {f : Except String q.Val → Handler α}
    (hq : Leaves cfg i R (.http q)) (hr : R (w.transfers.lookup i))
    (hf : ∀ answer reply w', R (w'.transfers.lookup i) →
      Handler.EndsIn cfg E i R (f answer) (⟨.http q,reply⟩ :: h) w') :
    Handler.EndsIn cfg E i R (callService q >>= f) h w := by
  have hafter : ∀ e a w', World.perform cfg e w (.http q) = (a,w') →
      R (w'.transfers.lookup i) := by
    intro e a w' hp
    have hkept := hq e w hr
    rwa [hp] at hkept
  refine callService_always (fun e v w' _ hp => ?_) (fun e code w' _ hp => ?_)
    (fun e w' _ hp => hafter e _ w' hp)
  · exact hf _ _ w' (hafter e _ w' hp)
  · exact hf _ _ w' (hafter e _ w' hp)

/-- A handler that begins with reading the row finds the condition true of what it reads. -/
theorem readRow_always {f : Except String TicketRemaster.Transfer → Handler α}
    {Q : α → List (Entry Platform) → World → Prop}
    {X : Unhandled → List (Entry Platform) → World → Prop}
    (hR : OutlivesExpiry R) (hr : R (w.transfers.lookup i))
    (herr : ∀ code reply w', R (w'.transfers.lookup i) →
      Handler.Always cfg E Q X (f (.error code)) (⟨.http (.getTransfer i),reply⟩ :: h) w')
    (hok : ∀ t w', R (some t) → w'.transfers.lookup i = some t →
      World.Frame (some .transfers) w w' →
      Handler.Always cfg E Q X (f (.ok t)) (⟨.http (.getTransfer i),.ok t⟩ :: h) w')
    (hraised : ∀ h' w', R (w'.transfers.lookup i) → X .client h' w') :
    Handler.Always cfg E Q X (callService (.getTransfer i) >>= f) h w := by
  have hafter : ∀ e a w', World.perform cfg e w (.http (.getTransfer i)) = (a,w') →
      R (w'.transfers.lookup i) := by
    intro e a w' hp
    have hkept : R ((World.perform cfg e w (.http (.getTransfer i))).2.transfers.lookup i) :=
      leaves_reads hR _ (.inr ⟨i,rfl⟩) e w hr
    rwa [hp] at hkept
  refine callService_always (fun e t w' _ hp => ?_) (fun e code w' _ hp => ?_)
    (fun e w' _ hp => hraised _ w' (hafter e _ w' hp))
  · have hrow : w'.transfers.lookup i = some t := by
      have hread := getTransfer_answer (congrArg Prod.fst hp)
      rwa [hp] at hread
    have hr' := hafter e _ w' hp
    rw [hrow] at hr'
    exact hok t w' hr' hrow (World.frame_of_perform hp)
  · exact herr _ _ w' (hafter e _ w' hp)

end Rules

/-- The transfer that a request names. -/
def Request.names : Request → Option TransferId
  | .initiate _ _ => none
  | .buyerVerify _ transferId _ | .sellerAccept _ transferId | .sellerReject _ transferId
  | .sellerVerify _ transferId _ | .resendOtp _ transferId | .cancelTransfer _ transferId
  | .getTransfer _ transferId | .timeoutMessage transferId _ => some transferId

section Requests

variable {cfg : SeatConfig} {i : TransferId} {R : Option TicketRemaster.Transfer → Prop}
  {E : List (Entry Platform) → Env → Prop} {h : List (Entry Platform)} {w : World}

/-- What a request that names a transfer can call. -/
theorem handler_calls {P : Call → Prop} {req : Request} {j : TransferId}
    (hj : req.names = some j) (hr : ∀ q, Call.Reads q → P q)
    (hpatch : ∀ p, P (.http (.patchTransfer j p)))
    (hlisting : ∀ l s, P (.http (.updateListing l s)))
    (hticket : ∀ k p, P (.http (.updateTicket k p)))
    (hcredits : ∀ u b, P (.http (.patchCredits u b)))
    (hlog : ∀ d, P (.http (.createCreditTransaction d)))
    (hreverse : ∀ r, P (.http (.patchCreditTransactionByReference r))) :
    req.handler.Calls P (fun _ => True) := by
  have hreturn : ∀ {β γ : Type} {p : Handler β} {f : β → γ}, p.Calls P (fun _ => True) →
      (do return f (← p) : Handler γ).Calls P (fun _ => True) :=
    fun hp => Prog.calls_bind hp fun _ => trivial
  cases req with
  | initiate u l => cases hj
  | buyerVerify u k otp =>
    cases hj
    exact hreturn (buyerVerify_calls hr (hpatch _) fun _ => hpatch _)
  | sellerAccept u k =>
    cases hj
    exact hreturn (sellerAccept_calls hr fun _ => hpatch _)
  | sellerReject u k =>
    cases hj
    exact hreturn (sellerReject_calls hr (hpatch _) (fun _ => hlisting _ _) fun _ => hticket _ _)
  | sellerVerify u k otp =>
    cases hj
    refine hreturn (sellerVerify_calls hr (hpatch _) (hpatch _) (fun a ha now step => ?_)
      fun a c hc => ?_)
    · subst ha
      cases step with
      | buyerDeducted => exact hcredits _ _
      | sellerCredited => exact hcredits _ _
      | buyerTxnLogged => exact hlog _
      | sellerTxnLogged => exact hlog _
      | ticketTransferred => exact hticket _ _
      | listingCompleted => exact hlisting _ _
      | transferCompleted => exact hpatch _
    · simp only [Saga.compensations,List.mem_cons,List.not_mem_nil,or_false] at hc
      rcases hc with rfl | rfl | rfl | rfl | rfl | rfl
      · exact hlisting _ _
      · exact hticket _ _
      · exact hcredits _ _
      · exact hcredits _ _
      · exact hreverse _
      · exact hreverse _
  | resendOtp u k =>
    cases hj
    exact hreturn (resendOtp_calls hr (fun _ => hpatch _) fun _ => hpatch _)
  | cancelTransfer u k =>
    cases hj
    exact hreturn (cancelTransfer_calls hr (hpatch _) (fun _ => hlisting _ _) fun _ => hticket _ _)
  | getTransfer u k => exact hreturn (reads_calls (getTransfer_reads u k) hr)
  | timeoutMessage k l =>
    cases hj
    exact hreturn (onTimeoutMessage_allowed hr (hpatch _) (hlisting _ _))

/-- A request that names another transfer. -/
theorem elsewhere_leaves {req : Request} {j : TransferId} (hR : OutlivesExpiry R)
    (hj : req.names = some j) (hne : j ≠ i) :
    req.handler.Calls (Leaves cfg i R) (fun _ => True) := by
  refine handler_calls hj (leaves_reads hR) (fun p => leaves_patch hR fun hi => absurd hi hne)
    (fun l s => ?_) (fun k p => ?_) (fun u b => ?_) (fun d => ?_) (fun r => ?_)
  all_goals exact leaves_other (by simp [Call.writes,Http.writes])

theorem compensation_leaves {a : Saga} (c : SagaStep × Http × String) (hc : c ∈ a.compensations) :
    Leaves cfg i R (.http c.2.1) := by
  simp only [Saga.compensations,List.mem_cons,List.not_mem_nil,or_false] at hc
  rcases hc with rfl | rfl | rfl | rfl | rfl | rfl <;>
    exact leaves_other (by simp [Call.writes,Http.writes])

theorem createTransfer_row {e : Env} {d : NewTransfer} {v : CreatedTransfer} {w' : World}
    (hs : w.serve e (.createTransfer d) = (.ok v,w')) :
    w.transfers.lookup v.transferId = none ∧
      ∃ t, w'.transfers = w.transfers.insert v.transferId t ∧ t.buyerOtpVerified = false ∧
        t.sellerOtpVerified = false ∧ t.status = .pendingSellerAcceptance := by
  simp only [World.serve,World.createTransfer] at hs
  split at hs
  · cases hs
  · rename_i hnew
    cases hs
    exact ⟨Option.not_isSome_iff_eq_none.mp hnew,_,rfl,rfl,rfl,rfl⟩

/-- A new row has a new id, so opening a transfer acts on the row of transfer `i` only where
there was none before. -/
theorem openTransfer_endsIn {R' : Option TicketRemaster.Transfer → Prop} {u : UserId}
    {l : ListingId} {listing : Listing} (hR : OutlivesExpiry R) (hR' : OutlivesExpiry R')
    (hnew : ∀ t, t.buyerOtpVerified = false → t.sellerOtpVerified = false →
      t.status = .pendingSellerAcceptance → R none → R' (some t))
    (hpatch : ∀ sid t, R' (some t) → R' (some (World.setTransfer
      { buyerVerificationSid := some sid, status := some .pendingBuyerOtp } t)))
    (hsub : ∀ r, R' r → R r) (hr : R (w.transfers.lookup i)) :
    Handler.EndsIn cfg E i R (openTransfer u l listing) h w := by
  obtain ⟨f,hf,hafter⟩ := openTransfer_after u l listing
  have hcreate : ∀ d, Leaves cfg i R (.http (.createTransfer d)) := fun d =>
    leaves_of_change hR (fun p t hq => by cases hq)
      fun d t _ hbuyer hseller hstatus hnone => hsub _ (hnew t hbuyer hseller hstatus hnone)
  have hlater : ∀ e a w', World.perform cfg e w (.http (.createTransfer
      ⟨l,u,listing.sellerId,listing.price⟩)) = (a,w') → R (w'.transfers.lookup i) := by
    intro e a w' hp
    have hkept := hcreate ⟨l,u,listing.sellerId,listing.price⟩ e w hr
    rwa [hp] at hkept
  rw [hf]
  refine callService_always (fun e v w' _ hp => ?_) (fun e code w' _ hp => ?_)
    (fun e w' _ hp => hlater e _ w' hp)
  · obtain ⟨hnone,t,hw,hbuyer,hseller,hstatus⟩ := createTransfer_row (World.perform_ok hp)
    by_cases hi : v.transferId = i
    · subst hi
      rw [hnone] at hr
      refine endsIn_mono (calls_endIn (hafter _ _ (leaves_reads hR') fun v' hv sid => ?_) ?_) hsub
      · cases hv
        exact leaves_patch hR' fun _ => hpatch sid
      · rw [hw,AList.lookup_insert]
        exact hnew t hbuyer hseller hstatus hr
    · refine calls_endIn (hafter _ _ (leaves_reads hR) fun v' hv sid => ?_) (hlater e _ w' hp)
      cases hv
      exact leaves_patch hR fun hj => absurd hj hi
  · exact calls_endIn (hafter _ _ (leaves_reads hR) fun _ hv => by cases hv) (hlater e _ w' hp)

theorem initiate_endsIn {R' : Option TicketRemaster.Transfer → Prop} (u : UserId)
    (l : Option ListingId) (hR : OutlivesExpiry R) (hR' : OutlivesExpiry R')
    (hnew : ∀ t, t.buyerOtpVerified = false → t.sellerOtpVerified = false →
      t.status = .pendingSellerAcceptance → R none → R' (some t))
    (hpatch : ∀ sid t, R' (some t) → R' (some (World.setTransfer
      { buyerVerificationSid := some sid, status := some .pendingBuyerOtp } t)))
    (hsub : ∀ r, R' r → R r) (hr : R (w.transfers.lookup i)) :
    Handler.EndsIn cfg E i R (initiate u l) h w := by
  cases l with
  | none => exact hr
  | some l =>
    refine ask_endsIn (leaves_reads hR _ (.inl rfl)) hr fun listing reply w₁ hr₁ => ?_
    cases listing with
    | error code => simp only; split <;> exact hr₁
    | ok listing =>
      simp only
      split
      · exact hr₁
      · split
        · exact hr₁
        · refine ask_endsIn (leaves_reads hR _ (.inl rfl)) hr₁ fun creditData reply w₂ hr₂ => ?_
          cases creditData with
          | error code => exact hr₂
          | ok creditData =>
            simp only
            split
            · exact hr₂
            · exact openTransfer_endsIn hR hR' hnew hpatch hsub hr₂

end Requests

end TicketRemaster.Transfer
