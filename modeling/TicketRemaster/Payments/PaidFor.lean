import TicketRemaster.Credits.Accounts
import TicketRemaster.Credits.CreditedOnce
import TicketRemaster.Payments.Cashier
set_option autoImplicit false

/-! What a top-up adds to a balance and to the ledger has been asked for and paid, over every
interleaving and with any failures; and what has been paid can always be had, once. -/

namespace TicketRemaster.Payments

open Resumption SeatInventory Credits

inductive PaymentRequest where
  | confirm (userId : UserId) (paymentIntentId : Option PaymentIntentId)
  | webhook (event : Except String StripeEvent)

def PaymentRequest.handler (texts : UserTexts) : PaymentRequest → Handler CreditAnswer
  | .confirm userId paymentIntentId =>
      (CreditRequest.confirmTopup userId paymentIntentId).handler
  | .webhook event => (CreditRequest.stripeWebhook (texts.delivery event)).handler

/-- The request is about this payment, and lets this user have it. -/
def PaymentRequest.About (texts : UserTexts) (p : PaymentIntentId) (u : UserId) :
    PaymentRequest → Prop
  | .confirm userId paymentIntentId => paymentIntentId = some p ∧ userId = u
  | .webhook event => ∃ payment, (texts.delivery event).intent = some (p,payment)

section Discipline

/-- What a handler has been told about a payment. -/
inductive Learned (h : List (Entry Platform)) (p : PaymentIntentId) (u : UserId) (n : Nat) : Prop
  | retrieved (told : (⟨.http (.retrievePaymentIntent p),.ok (some (u,n))⟩ : Entry Platform) ∈ h)
  | delivered {d : StripeDelivery} (intent : d.intent = some (p,some (u,n)))
      (valid : d.signatureValid)
      (told : ∃ r, (⟨.http (.stripeWebhook d),.ok r⟩ : Entry Platform) ∈ h)

theorem Learned.cons {h : List (Entry Platform)} {p : PaymentIntentId} {u : UserId} {n : Nat}
    (hl : Learned h p u n) (x : Entry Platform) : Learned (x :: h) p u n := by
  cases hl with
  | retrieved told => exact .retrieved (List.mem_cons_of_mem _ told)
  | delivered intent valid told =>
    obtain ⟨r,told⟩ := told
    exact .delivered intent valid ⟨r,List.mem_cons_of_mem _ told⟩

/-- The balance is raised, and a top-up logged, only by what the handler has been told of. -/
def TopupOk (texts : UserTexts) (req : PaymentRequest) (h : List (Entry Platform)) : Call → Prop
  | .http (.patchCredits u b) => ∃ p n, ∃ data : CreditData, req.About texts p u ∧ Learned h p u n ∧
      (⟨.http (.getCredits u),.ok data⟩ : Entry Platform) ∈ h ∧ b = currentBalance data+n
  | .http (.createCreditTransaction d) => ∃ p n, req.About texts p d.userId ∧
      Learned h p d.userId n ∧ d = ⟨d.userId,n,.topup,some (.payment p)⟩
  | _ => True

/-- The wrapper verifies signatures, passes on what is signed, and names no event. -/
def TopupFeas : (q : Call) → q.Ans → Prop
  | .http (.stripeWebhook d), .ok r =>
      d.signatureValid ∧ r = ⟨d.intent.bind (·.2),d.intent.map (·.1),none⟩
  | _, _ => True

abbrev Handler.Topup {α : Type} (texts : UserTexts) (req : PaymentRequest) (prog : Handler α)
    (h : List (Entry Platform)) : Prop :=
  prog.Follows (TopupOk texts req) (fun _ => TopupFeas) (fun _ _ => True) (fun _ _ => True) h

variable {texts : UserTexts} {req : PaymentRequest} {h : List (Entry Platform)}
  {p : PaymentIntentId} {u : UserId} {n : Nat} {α : Type}

theorem callService_topup {q : Http} {f : Except String q.Val → Handler α}
    (hq : TopupOk texts req h (.http q))
    (hok : ∀ v, TopupFeas (.http q) (.ok v) →
      Handler.Topup texts req (f (.ok v)) (⟨.http q,.ok v⟩ :: h))
    (herr : ∀ code, Handler.Topup texts req (f (.error code)) (⟨.http q,.error code⟩ :: h)) :
    Handler.Topup texts req (callService q >>= f) h := by
  refine ⟨hq,fun a ha => ?_⟩
  cases a with
  | ok v => exact hok v ha
  | error code => exact herr code
  | raised => trivial

theorem creditUser_topup {δ : Type} {done : Credits → Response δ} (hreq : req.About texts p u)
    (hl : Learned h p u n) :
    Handler.Topup texts req (creditUser u n (.payment p) done) h := by
  refine callService_topup trivial (fun data _ => ?_) (fun _ => trivial)
  refine callService_topup ?_ (fun _ _ => ?_) (fun _ => trivial)
  · exact ⟨p,n,data,hreq,hl.cons _,by simp,rfl⟩
  · refine callService_topup ?_ (fun _ _ => trivial) (fun _ => trivial)
    exact ⟨p,n,hreq,(hl.cons _).cons _,rfl⟩

theorem alreadyLogged_topup {r : Reference} {f : Bool → Handler α}
    (hf : ∀ found x, Handler.Topup texts req (f found) (x :: h)) :
    Handler.Topup texts req (alreadyLogged r >>= f) h := by
  unfold alreadyLogged safeGet
  rw [Prog.bind_assoc,Prog.bind_assoc]
  exact callService_topup trivial (fun v _ => hf true _) (fun code => hf false _)

theorem confirmTopup_topup (userId : UserId) (paymentIntentId : Option PaymentIntentId) :
    Handler.Topup texts (.confirm userId paymentIntentId) (confirmTopup userId paymentIntentId) h := by
  cases paymentIntentId with
  | none => trivial
  | some p =>
    refine callService_topup trivial (fun metadata _ => ?_) (fun _ => trivial)
    cases metadata with
    | none => trivial
    | some payment =>
      obtain ⟨payer,n⟩ := payment
      simp only
      split
      · trivial
      · rename_i hpayer
        refine alreadyLogged_topup fun found x => ?_
        cases found with
        | true => trivial
        | false =>
          have hreq : PaymentRequest.About texts p payer (.confirm userId (some p)) :=
            ⟨rfl,(not_not.mp hpayer).symm⟩
          rw [if_neg Bool.false_ne_true]
          exact creditUser_topup hreq (.retrieved (List.mem_cons_of_mem _ List.mem_cons_self))

theorem stripeWebhook_topup (event : Except String StripeEvent) :
    Handler.Topup texts (.webhook event) (stripeWebhook (texts.delivery event)) h := by
  refine callService_topup trivial (fun result hr => ?_) (fun _ => trivial)
  obtain ⟨hvalid,rfl⟩ := hr
  cases hintent : (texts.delivery event).intent with
  | none => trivial
  | some intent =>
    obtain ⟨p,payment⟩ := intent
    cases payment with
    | none => trivial
    | some payment =>
      obtain ⟨u,n⟩ := payment
      refine alreadyLogged_topup fun found x => ?_
      cases found with
      | true => trivial
      | false =>
        have hreq : PaymentRequest.About texts p u (.webhook event) := ⟨_,hintent⟩
        rw [if_neg Bool.false_ne_true]
        refine creditUser_topup hreq ?_
        exact .delivered hintent hvalid ⟨_,List.mem_cons_of_mem _ List.mem_cons_self⟩

theorem PaymentRequest.follows (texts : UserTexts) (req : PaymentRequest) :
    Handler.Topup texts req (req.handler texts) [] := by
  cases req with
  | confirm userId paymentIntentId =>
    exact Prog.follows_map.mpr (confirmTopup_topup userId paymentIntentId)
  | webhook event => exact Prog.follows_map.mpr (stripeWebhook_topup event)

end Discipline

section Backed

variable (texts : UserTexts) (s : Cashier)

/-- The user has asked for this payment, for so many credits, and has paid it. -/
structure Backed (p : PaymentIntentId) (u : UserId) (n : Nat) : Prop where
  paid : ∃ intent, s.intents.lookup p = some intent ∧ intent.status = "succeeded" ∧
    intent.amount = n*100
  asked : ∃ a, (p,u,a) ∈ s.asked ∧ a.truncated = some (n : Int)
  some : 0 < n

/-- An intent that is none of the wrapper's, or one that a user has asked for. -/
def Written (p : PaymentIntentId) (intent : StripeIntent) : Prop :=
  intent.metadata = [] ∨ ∃ u a, ∃ n : Nat, (p,u,a) ∈ s.asked ∧ a.truncated = some (n : Int) ∧ 0 < n ∧
    intent.amount = (n : Int)*100 ∧
    intent.metadata = [("userId",texts.text u),("credits",(n : Int).repr)]

/-- The note and the intents that have succeeded are only added to. -/
structure Grows (s s' : Cashier) : Prop where
  asked : s.asked ⊆ s'.asked
  paid : ∀ p intent, s.intents.lookup p = some intent → intent.status = "succeeded" →
    s'.intents.lookup p = some intent

/-- Each intent is written by the wrapper or bare, and each note is about an intent of its own, which
is not bare. -/
structure Kept : Prop where
  written : ∀ p intent, s.intents.lookup p = some intent → Written texts s p intent
  stored : ∀ x ∈ s.asked, ∃ intent, s.intents.lookup x.1 = some intent ∧ intent.metadata ≠ []
  keys : (s.asked.map (·.1)).Nodup

variable {texts} {s s' : Cashier} {p : PaymentIntentId} {u : UserId} {n : Nat}

theorem Backed.mono (h : Backed s p u n) (hg : Grows s s') : Backed s' p u n := by
  obtain ⟨⟨intent,hp,hs,hamount⟩,⟨a,ha,hn⟩,hsome⟩ := h
  exact ⟨⟨intent,hg.paid p intent hp hs,hs,hamount⟩,⟨a,hg.asked ha,hn⟩,hsome⟩

theorem Written.mono {intent : StripeIntent} (h : Written texts s p intent)
    (hasked : s.asked ⊆ s'.asked) : Written texts s' p intent := by
  rcases h with hbare | ⟨u,a,n,ha,h⟩
  · exact .inl hbare
  · exact .inr ⟨u,a,n,hasked ha,h⟩

/-- What the texts of an intent that has succeeded say is so. -/
theorem Kept.backed (h : Kept texts s) {intent : StripeIntent}
    (hp : s.intents.lookup p = some intent) (hs : intent.status = "succeeded")
    (hpayment : texts.payment intent.metadata = some (u,n)) : Backed s p u n := by
  rcases h.written p intent hp with hbare | ⟨u',a,n',ha,htruncated,hsome,hamount,hmeta⟩
  · rw [hbare] at hpayment
    simp [UserTexts.payment,UserTexts.payer] at hpayment
  · rw [hmeta,texts.payment_written] at hpayment
    cases hpayment
    exact ⟨⟨intent,hp,hs,hamount⟩,⟨a,ha,htruncated⟩,hsome⟩

theorem Grows.insert {intent : StripeIntent}
    (h : ∀ old, s.intents.lookup p = some old → old.status = "succeeded" → old = intent)
    {asked : List (PaymentIntentId × UserId × Amount)} (hasked : s.asked ⊆ asked) :
    Grows s { s with intents := s.intents.insert p intent, asked := asked } where
  asked := hasked
  paid p' old hold hs := by
    by_cases hp : p' = p
    · subst hp
      simp [h old hold hs]
    · simpa [AList.lookup_insert_ne hp] using hold

/-- A new intent, of the wrapper's or bare, or an old one with its texts and its amount. -/
theorem Kept.insert (h : Kept texts s) {intent : StripeIntent}
    {asked : List (PaymentIntentId × UserId × Amount)} (hasked : s.asked ⊆ asked)
    (hkeys : (asked.map (·.1)).Nodup) (hnew : ∀ x ∈ asked, x ∈ s.asked ∨ x.1 = p)
    (hmeta : ∀ x ∈ asked, x.1 = p → intent.metadata ≠ [])
    (hw : Written texts { s with intents := s.intents.insert p intent, asked := asked } p intent) :
    Kept texts { s with intents := s.intents.insert p intent, asked := asked } where
  written p' old hold := by
    rcases Table.lookup_insert_cases hold with ⟨rfl,rfl⟩ | ⟨-,hold⟩
    · exact hw
    · exact (h.written p' old hold).mono hasked
  stored x hx := by
    by_cases hp : x.1 = p
    · rw [hp,AList.lookup_insert]
      exact ⟨intent,rfl,hmeta x hx hp⟩
    · have hmem := (hnew x hx).resolve_right hp
      simpa [AList.lookup_insert_ne hp] using h.stored x hmem
  keys := hkeys

/-- The intent that the wrapper makes for so many credits. -/
def writtenIntent (texts : UserTexts) (u : UserId) (n : Nat) (clientSecret : String) : StripeIntent :=
  ⟨n*100,"sgd","requires_payment_method",clientSecret,
    [("userId",texts.text u),("credits",(n : Int).repr)]⟩

/-- The only call of a top-up that is asked for makes an intent for the amount, or nothing. -/
theorem createServer_state (e : CreateEnv) (intents : Intents) (n : Int) :
    (createServer.serve () e intents (texts.text u,n)).2 = intents ∨ ∃ m : Nat, n = m ∧ 0 < m ∧
      (createServer.serve () e intents (texts.text u,n)).2 =
        intents.insert e.drawn (writtenIntent texts u m e.clientSecret) := by
  by_cases hn : n ≤ 0
  · left
    simp only [createServer,StripeWrapper.createPaymentIntent,if_pos hn]
    cases e.fault with
    | none => rfl
    | some f => simp
  · have hcast : ((n.toNat : Nat) : Int) = n := Int.toNat_of_nonneg (by omega)
    have hmade : (StripeWrapper.createPaymentIntent intents e.drawn e.clientSecret
        (some (texts.text u)) (.int n)).2 =
        intents.insert e.drawn (writtenIntent texts u n.toNat e.clientSecret) := by
      simp [StripeWrapper.createPaymentIntent,hn,writtenIntent,hcast]
    simp only [createServer,hmade]
    cases e.fault with
    | none => exact .inr ⟨n.toNat,hcast.symm,by omega,rfl⟩
    | some f =>
      by_cases ha : f.applied
      · exact .inr ⟨n.toNat,hcast.symm,by omega,by simp [ha]⟩
      · exact .inl (by simp [ha])

theorem initiateTopup_state (texts : UserTexts) (u : UserId) (amount : Amount) (e : CreateEnv) (intents : Intents) :
    ((initiateTopup (texts.text u) amount).exec createServer () (fun _ => e) [] intents).state =
        intents ∨
      ∃ m : Nat, amount.truncated = some (m : Int) ∧ 0 < m ∧
        ((initiateTopup (texts.text u) amount).exec createServer () (fun _ => e) [] intents).state =
          intents.insert e.drawn (writtenIntent texts u m e.clientSecret) := by
  unfold initiateTopup
  cases amount.positive with
  | false => exact .inl rfl
  | true =>
    cases hn : amount.truncated with
    | none => exact .inl rfl
    | some n =>
      have hends : ∀ (k : Reply CreatedIntent → Prog CreateIf Unit (Response InitiatedTopup)),
          (∀ a h s, ((k a).exec createServer () (fun _ => e) h s).state = s) →
          ((Prog.call (I := CreateIf) (texts.text u,n) k).exec createServer () (fun _ => e) []
            intents).state = (createServer.serve () e intents (texts.text u,n)).2 :=
        fun k hk => hk _ _ _
      simp only [if_true]
      rw [hends _ (by intro a h s; cases a <;> rfl)]
      rcases createServer_state e intents n with hsame | ⟨m,rfl,hm,hmade⟩
      · exact .inl hsame
      · exact .inr ⟨m,rfl,hm,hmade⟩

theorem Kept.notBare (h : Kept texts s) {intent : StripeIntent}
    (hp : s.intents.lookup p = some intent) :
    ∀ x ∈ s.asked, x.1 = p → intent.metadata ≠ [] := by
  intro x hx hxp
  obtain ⟨stored,hstored,hmeta⟩ := h.stored x hx
  rw [hxp,hp] at hstored
  cases hstored
  exact hmeta

/-- The texts of an intent that a user has asked for are about him, and the amount he has named. -/
theorem Kept.payment (h : Kept texts s) {intent : StripeIntent} {a : Amount}
    (hp : s.intents.lookup p = some intent) (ha : (p,u,a) ∈ s.asked) :
    ∃ n : Nat, texts.payment intent.metadata = some (u,n) ∧ a.truncated = some (n : Int) ∧
      intent.amount = (n : Int)*100 := by
  rcases h.written p intent hp with hbare | ⟨u',a',n,ha',htruncated,-,hamount,hmeta⟩
  · exact absurd hbare (h.notBare hp _ ha rfl)
  · have hsame := List.inj_on_of_nodup_map h.keys ha ha' rfl
    simp only [Prod.mk.injEq,true_and] at hsame
    obtain ⟨rfl,rfl⟩ := hsame
    exact ⟨n,by rw [hmeta,texts.payment_written],htruncated,hamount⟩

/-- A top-up that is asked for leads to an intent for the rounded amount, or to nothing. -/
theorem Cashier.initiate_cases (texts : UserTexts) (s : Cashier) (userId : UserId) (amount : Amount) (e : CreateEnv)
    (hfresh : s.intents.lookup e.drawn = none) :
    s.initiate texts userId amount e = s ∨ ∃ n : Nat, 0 < n ∧ amount.truncated = some (n : Int) ∧
      s.initiate texts userId amount e =
        { s with
          intents := s.intents.insert e.drawn (writtenIntent texts userId n e.clientSecret)
          asked := (e.drawn,userId,amount) :: s.asked } := by
  rcases initiateTopup_state texts userId amount e s.intents with
    hsame | ⟨n,hn,hsome,hmade⟩
  · exact .inl (by simp [initiate,hsame,hfresh])
  · exact .inr ⟨n,hsome,hn,by simp [initiate,hmade]⟩

theorem acts_sound {s s' : Cashier} (h : Cashier.Acts texts s s') (hk : Kept texts s) :
    Grows s s' ∧ Kept texts s' ∧ ∀ d ∈ s'.world.creditTransactions, d.reason = .topup →
      d ∈ s.world.creditTransactions := by
  cases h with
  | initiates userId amount e fresh =>
    rcases s.initiate_cases texts userId amount e fresh with hsame | ⟨n,hsome,hn,hmade⟩
    · rw [hsame]
      exact ⟨⟨List.Subset.refl _,fun _ _ h _ => h⟩,hk,fun _ hd _ => hd⟩
    · rw [hmade]
      have hnew : e.drawn ∉ s.asked.map (·.1) := by
        intro hmem
        obtain ⟨x,hx,hdrawn⟩ := List.mem_map.mp hmem
        obtain ⟨old,hold,-⟩ := hk.stored x hx
        rw [hdrawn,fresh] at hold
        cases hold
      refine ⟨.insert (fun old hold => ?_) (List.subset_cons_self _ _),
        hk.insert (List.subset_cons_self _ _) ?_ (fun x hx => ?_)
          (fun _ _ _ => List.cons_ne_nil _ _) ?_,fun _ hd _ => hd⟩
      · rw [fresh] at hold
        cases hold
      · exact List.nodup_cons.mpr ⟨hnew,hk.keys⟩
      · rcases List.mem_cons.mp hx with rfl | hx
        · exact .inr rfl
        · exact .inl hx
      · exact .inr ⟨userId,amount,n,List.mem_cons_self,hn,hsome,rfl,rfl⟩
  | pays found =>
    rename_i p intent
    have hmeta := hk.notBare found
    refine ⟨.insert (fun old hold hs => ?_) (List.Subset.refl _),
      hk.insert (List.Subset.refl _) hk.keys (fun _ hx => .inl hx) hmeta ?_,
      fun _ hd _ => hd⟩
    · obtain rfl := Option.some.inj (hold.symm.trans found)
      cases old
      simp_all
    · exact hk.written p intent found
  | proceeds status found unpaid other =>
    rename_i p intent
    have hmeta := hk.notBare found
    refine ⟨.insert (fun old hold hs => ?_) (List.Subset.refl _),
      hk.insert (List.Subset.refl _) hk.keys (fun _ hx => .inl hx) hmeta ?_,
      fun _ hd _ => hd⟩
    · obtain rfl := Option.some.inj (hold.symm.trans found)
      exact absurd hs unpaid
    · exact hk.written p intent found
  | foreign fresh bare =>
    refine ⟨.insert (fun old hold => ?_) (List.Subset.refl _),
      hk.insert (List.Subset.refl _) hk.keys (fun _ hx => .inl hx) (fun x hx hp => ?_) (.inl bare),
      fun _ hd _ => hd⟩
    · rw [fresh] at hold
      cases hold
    · obtain ⟨old,hold,-⟩ := hk.stored x hx
      rw [hp,fresh] at hold
      cases hold
  | elsewhere topups =>
    exact ⟨⟨List.Subset.refl _,fun _ _ h _ => h⟩,⟨hk.written,hk.stored,hk.keys⟩,topups⟩

end Backed

section Calls

variable {texts : UserTexts} {cfg : SeatConfig} {e : Env} {s : Cashier} {q : Call}
  {p : PaymentIntentId} {u : UserId} {n : Nat} {h : List (Entry Platform)}

/-- No call of a handler changes an intent. -/
theorem perform_intents (texts : UserTexts) (cfg : SeatConfig) (e : Env) (s : Cashier) (q : Call) :
    (s.perform texts cfg e q).2.intents = s.intents ∧
    (s.perform texts cfg e q).2.asked = s.asked := by
  cases q with
  | http q => cases q <;> exact ⟨rfl,rfl⟩
  | _ => exact ⟨rfl,rfl⟩

theorem perform_grows (q : Call) : Grows s (s.perform texts cfg e q).2 where
  asked := by rw [(perform_intents texts cfg e s q).2]; exact List.Subset.refl _
  paid p intent hp _ := by rw [(perform_intents texts cfg e s q).1]; exact hp

theorem Kept.perform (hk : Kept texts s) (q : Call) : Kept texts (s.perform texts cfg e q).2 := by
  obtain ⟨hintents,hasked⟩ := perform_intents texts cfg e s q
  constructor
  · intro p intent hp
    rw [hintents] at hp
    exact (hk.written p intent hp).mono (by rw [hasked]; exact List.Subset.refl _)
  · rw [hasked,hintents]; exact hk.stored
  · rw [hasked]; exact hk.keys

/-- A ledger entry is there before, or the call has logged it. -/
theorem perform_logged {d : CreditTransaction}
    (hd : d ∈ (s.perform texts cfg e q).2.world.creditTransactions) :
    d ∈ s.world.creditTransactions ∨ q = .http (.createCreditTransaction d) := by
  have hframe : q.writes ≠ some .creditTransactions →
      (World.perform cfg e s.world q).2.creditTransactions = s.world.creditTransactions :=
    (World.perform_frame q).creditTransactions
  cases q with
  | http q =>
    cases q with
    | createCreditTransaction d' =>
      have hcases := World.perform_http_cases cfg e s.world (.createCreditTransaction d')
      simp only [Cashier.perform] at hd
      rcases hcases with hsame | hsame
      · rw [hsame] at hd
        exact .inl hd
      · rw [hsame] at hd
        rcases List.mem_cons.mp hd with rfl | hold
        · exact .inr rfl
        · exact .inl hold
    | retrievePaymentIntent p =>
      simp only [Cashier.perform,World.faulty] at hd
      left
      cases he : e.fault with
      | none => simpa [he] using hd
      | some f => simpa [he] using hd
    | _ =>
      left
      simp only [Cashier.perform] at hd
      rwa [hframe (by simp [Call.writes,Http.writes])] at hd
  | _ =>
    left
    simp only [Cashier.perform] at hd
    rwa [hframe (by simp [Call.writes])] at hd

theorem perform_feas (q : Call) : TopupFeas q (s.perform texts cfg e q).1 := by
  cases q with
  | http q =>
    cases q with
    | stripeWebhook d =>
      generalize hr : World.perform cfg e s.world (.http (.stripeWebhook d)) = r
      obtain ⟨a,w⟩ := r
      have ha : (s.perform texts cfg e (.http (.stripeWebhook d))).1 = a := by
        simp only [Cashier.perform,hr]
      rw [ha]
      cases a with
      | ok v =>
        have hserve := World.perform_ok hr
        simp only [World.serve,World.stripeWebhook] at hserve
        by_cases hvalid : d.signatureValid
        · rw [if_pos hvalid] at hserve
          cases hserve
          exact ⟨hvalid,rfl⟩
        · rw [if_neg hvalid] at hserve
          cases hserve
      | error code => trivial
      | raised => trivial
    | _ => trivial
  | _ => trivial

/-- What the wrapper says about a payment is so. -/
theorem retrieve_backed (hk : Kept texts s)
    (ha : (s.perform texts cfg e (.http (.retrievePaymentIntent p))).1 = .ok (some (u,n))) :
    Backed s p u n := by
  simp only [Cashier.perform,World.faulty] at ha
  cases he : e.fault with
  | some f =>
    simp only [he,World.httpFault] at ha
    split at ha <;> cases ha
  | none =>
    simp only [he,StripeWrapper.retrievePaymentIntent] at ha
    cases hp : s.intents.lookup p with
    | none => simp [hp,World.httpReply,Except.map] at ha
    | some intent =>
      by_cases hs : intent.status = "succeeded"
      · simp only [hp,hs,ne_eq,not_true_eq_false,if_false,Except.map,World.httpReply,
          Reply.ok.injEq] at ha
        exact hk.backed hp hs ha
      · simp [hp,hs,World.httpReply,Except.map] at ha

end Calls


section Runs

variable {ι : Type} [DecidableEq ι] (texts : UserTexts) (cfg : SeatConfig)
  (requests : ι → PaymentRequest)

/-- The entry of the ledger is about a payment that its user has asked for, and has paid. -/
def Accounts (s : Cashier) (d : CreditTransaction) : Prop :=
  ∃ p n, d = ⟨d.userId,(n : Nat),.topup,some (.payment p)⟩ ∧ Backed s p d.userId n

/-- The balance written is the one read and the credits of such a payment. -/
def Raises (req : PaymentRequest) (s : Cashier) (h : List (Entry Platform)) (u : UserId)
    (b : Credits) : Prop :=
  ∃ p n, ∃ data : CreditData, req.About texts p u ∧ Backed s p u n ∧
    (⟨.http (.getCredits u),.ok data⟩ : Entry Platform) ∈ h ∧ b = currentBalance data+n

structure Paid (s : Cashier) (past : ι → List (Entry Platform)) : Prop where
  kept : Kept texts s
  logged : ∀ d ∈ s.world.creditTransactions, d.reason = .topup → Accounts s d
  learned : ∀ i p u n, Learned (past i) p u n → Backed s p u n
  raised : ∀ i u b a, (⟨.http (.patchCredits u b),a⟩ : Entry Platform) ∈ past i →
    Raises texts (requests i) s (past i) u b

variable {texts cfg requests} {s s' : Cashier} {past : ι → List (Entry Platform)}

omit [DecidableEq ι] in
theorem Paid.acts (h : Paid texts requests s past) (hacts : Cashier.Acts texts s s') :
    Paid texts requests s' past := by
  obtain ⟨hg,hk,hledger⟩ := acts_sound hacts h.kept
  refine ⟨hk,fun d hd hr => ?_,fun i p u n hl => (h.learned i p u n hl).mono hg,fun i u b a ha => ?_⟩
  · obtain ⟨p,n,hd',hb⟩ := h.logged d (hledger d hd hr) hr
    exact ⟨p,n,hd',hb.mono hg⟩
  · obtain ⟨p,n,data,hreq,hb,hread,hraised⟩ := h.raised i u b a ha
    exact ⟨p,n,data,hreq,hb.mono hg,hread,hraised⟩

omit [DecidableEq ι] in
/-- What a handler has learned with a call, it has learned before, or is so. -/
theorem Paid.learns (h : Paid texts requests s past) {i : ι} {e : Env} {q : Call}
    (hsigned : s.Signed texts past i e q) {p : PaymentIntentId} {u : UserId} {n : Nat}
    (hl : Learned (⟨q,(s.perform texts cfg e q).1⟩ :: past i) p u n) : Backed s p u n := by
  cases hl with
  | retrieved told =>
    rcases List.mem_cons.mp told with hnew | hold
    · obtain ⟨rfl,ha⟩ := Sigma.mk.inj hnew
      exact retrieve_backed h.kept (eq_of_heq ha).symm
    · exact h.learned i p u n (.retrieved hold)
  | delivered intent valid told =>
    obtain ⟨r,told⟩ := told
    rcases List.mem_cons.mp told with hnew | hold
    · obtain ⟨rfl,-⟩ := Sigma.mk.inj hnew
      obtain ⟨stored,hp,hs,hpayment⟩ := hsigned _ rfl valid p _ intent
      exact h.kept.backed hp hs hpayment
    · exact h.learned i p u n (.delivered intent valid ⟨r,hold⟩)

theorem paid_keeps : Keeps (Cashier.server texts cfg ι) (Cashier.Signed texts)
    (fun i => TopupOk texts (requests i)) (fun _ _ => TopupFeas) (Paid texts requests) := by
  intro s past i e q h _ hsigned hok
  have hg : Grows s (s.perform texts cfg e q).2 := perform_grows q
  refine ⟨perform_feas q,h.kept.perform q,fun d hd hr => ?_,fun j p u n hl => ?_,
    fun j u b a ha => ?_⟩
  · rcases perform_logged hd with hold | rfl
    · obtain ⟨p,n,hd',hb⟩ := h.logged d hold hr
      exact ⟨p,n,hd',hb.mono hg⟩
    · obtain ⟨p,n,-,hl,hd'⟩ := hok
      exact ⟨p,n,hd',(h.learned i p d.userId n hl).mono hg⟩
  · by_cases hj : j = i
    · subst hj
      rw [Function.update_self] at hl
      exact (h.learns hsigned hl).mono hg
    · rw [Function.update_of_ne hj] at hl
      exact (h.learned j p u n hl).mono hg
  · rcases mem_update ha with hold | ⟨rfl,hnew⟩
    · obtain ⟨p,n,data,hreq,hb,hread,hraised⟩ := h.raised j u b a hold
      exact ⟨p,n,data,hreq,hb.mono hg,mem_update_of_mem hread,hraised⟩
    · obtain ⟨rfl,-⟩ := Sigma.mk.inj hnew
      obtain ⟨p,n,data,hreq,hl,hread,hraised⟩ := hok
      exact ⟨p,n,data,hreq,(h.learned j p u n hl).mono hg,mem_update_of_mem hread,hraised⟩

abbrev PaymentConfig (ι : Type) : Type := Config ι Platform Unhandled CreditAnswer Cashier

variable (texts cfg requests)

/-- Nobody has topped up, and Stripe keeps no intents yet. -/
def PaymentRuns (w : World) (c : PaymentConfig ι) : Prop :=
  (∀ d ∈ w.creditTransactions, d.reason ≠ .topup) ∧
  Config.Runs (Cashier.server texts cfg ι) (Cashier.Signed texts) (Cashier.Acts texts)
    (.start ⟨w,∅,[]⟩ fun i => (requests i).handler texts) c

variable {texts cfg requests}

theorem paid_reached {w : World} {c : PaymentConfig ι}
    (h : PaymentRuns texts cfg requests w c) : Paid texts requests c.shared c.past := by
  have hstart : Paid texts requests ⟨w,∅,[]⟩ (fun _ : ι => []) := by
    refine ⟨⟨fun p intent hp => ?_,fun _ hx => ?_,List.nodup_nil⟩,fun d hd hr => absurd hr (h.1 d hd),
      fun i p u n hl => ?_,fun i u b a ha => ?_⟩
    · cases hp
    · cases hx
    · cases hl with
      | retrieved told => cases told
      | delivered _ _ told => cases told.choose_spec
    · cases ha
  have hdisciplined : (Config.start ⟨w,∅,[]⟩ fun i => (requests i).handler texts :
      PaymentConfig ι).Disciplined (fun i => TopupOk texts (requests i)) (fun _ _ => TopupFeas)
      (fun _ _ _ => True) (fun _ _ _ => True) (Paid texts requests) :=
    Config.disciplined_start hstart fun i => (requests i).follows texts
  exact (hdisciplined.runs paid_keeps (fun _ _ _ ha hp => hp.acts ha) h.2).1

/-- Whatever fails, and in whatever order users ask, pay and confirm and Stripe delivers its events:
each top-up in the ledger is one that its user has asked for, with the amount rounded to credits,
and has paid, a hundred cents a credit; a request raises the balance it has read by the credits of
such a payment, and a confirmation that of its own user; and no payment is asked for by two. -/
theorem topups_paid (texts : UserTexts) (cfg : SeatConfig) (requests : ι → PaymentRequest) (w : World)
    (c : PaymentConfig ι) (hrun : PaymentRuns texts cfg requests w c) :
    (∀ d ∈ c.shared.world.creditTransactions, d.reason = .topup → Accounts c.shared d) ∧
    (∀ i u b a, (⟨.http (.patchCredits u b),a⟩ : Entry Platform) ∈ c.past i →
      Raises texts (requests i) c.shared (c.past i) u b) ∧
    ∀ p u a u' a', (p,u,a) ∈ c.shared.asked → (p,u',a') ∈ c.shared.asked → u = u' ∧ a = a' := by
  have hpaid := paid_reached hrun
  refine ⟨hpaid.logged,hpaid.raised,fun p u a u' a' hu hu' => ?_⟩
  have hsame := List.inj_on_of_nodup_map hpaid.kept.keys hu hu' rfl
  simpa using hsame

end Runs

section Confirmed

/-- A user's id as a number of letters. -/
def unaryTexts : UserTexts where
  text u := String.ofList (List.replicate u 'u')
  named text := some text.length
  named_text u := by simp

/-- User 2 has a hundred credits. -/
def unpaidWorld : World := { Credits.paidWorld with paymentIntents := ∅ }

/-- He asks for 50.5, which makes an intent for 50 credits, and pays it. -/
def askedFor : Cashier :=
  (⟨unpaidWorld,∅,[]⟩ : Cashier).initiate unaryTexts 2 (.float (.finite (101*2^1073)))
    ⟨7,"secret",none⟩

def paidIntent : StripeIntent := { writtenIntent unaryTexts 2 50 "secret" with status := "succeeded" }

def paidUp : Cashier := { askedFor with intents := askedFor.intents.insert 7 paidIntent }

/-- He confirms it, and Stripe delivers its event. -/
def confirmAndDeliver : Bool → PaymentRequest
  | true => .confirm 2 (some 7)
  | false => .webhook (.ok ⟨"payment_intent.succeeded",7,paidIntent.metadata⟩)

def beforeRequests : PaymentConfig Bool :=
  ⟨paidUp,fun i => .start ((confirmAndDeliver i).handler unaryTexts)⟩

theorem beforeRequests_runs :
    PaymentRuns unaryTexts ⟨3,3,false⟩ confirmAndDeliver unpaidWorld beforeRequests := by
  have hfound : askedFor.intents.lookup 7 = some (writtenIntent unaryTexts 2 50 "secret") := by
    decide +kernel
  constructor
  · intro d hd
    cases hd
  refine .tail (.tail .refl (.inr ⟨askedFor,?_,rfl⟩)) (.inr ⟨paidUp,?_,rfl⟩)
  · exact .initiates 2 _ _ rfl
  · exact .pays hfound

/-- All calls of the confirmation. -/
def confirmedOnce : PaymentConfig Bool :=
  beforeRequests.schedule (Cashier.server unaryTexts ⟨3,3,false⟩ Bool)
    (fun _ _ _ _ q => match q with
      | .http (.stripeWebhook _) => false
      | _ => true)
    (List.replicate 5 (true,⟨0,0,0,true,true,none⟩))

theorem topups_paid_confirmedOnce :
    confirmedOnce.shared.world.creditTransactions = [⟨2,50,.topup,some (.payment 7)⟩] ∧
    (∀ d ∈ confirmedOnce.shared.world.creditTransactions, d.reason = .topup →
      Accounts confirmedOnce.shared d) ∧
    (∀ i u b a, (⟨.http (.patchCredits u b),a⟩ : Entry Platform) ∈ confirmedOnce.past i →
      Raises unaryTexts (confirmAndDeliver i) confirmedOnce.shared (confirmedOnce.past i) u b) ∧
    ∀ p u a u' a', (p,u,a) ∈ confirmedOnce.shared.asked → (p,u',a') ∈ confirmedOnce.shared.asked →
      u = u' ∧ a = a' := by
  have hreach : Config.Reach (Cashier.server unaryTexts ⟨3,3,false⟩ Bool)
      (Cashier.Signed unaryTexts) beforeRequests confirmedOnce := by
    refine Config.reach_schedule (fun s past i e q hq d hd => ?_) _ _
    subst hd
    cases hq
  have hruns := beforeRequests_runs.2.trans
    (Relation.ReflTransGen.mono (fun _ _ hstep => .inl hstep) _ _ hreach)
  exact ⟨by decide +kernel,topups_paid unaryTexts ⟨3,3,false⟩ confirmAndDeliver unpaidWorld _
    ⟨beforeRequests_runs.1,hruns⟩⟩

end Confirmed

end TicketRemaster.Payments
