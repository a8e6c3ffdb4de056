import Mathlib.Data.Fintype.Basic
import TicketRemaster.Credits.Handlers
import TicketRemaster.Lib.Interleaving
import TicketRemaster.Services.Rules
set_option autoImplicit false

/-! When a payment is credited once, over every interleaving of confirmations and webhooks for it:
as long as a lookup that comes after a credit finds it in the ledger, and no credit falls between
another request's lookup and its read of the balance. -/

namespace TicketRemaster.Credits

open Resumption SeatInventory

/-- A payment intent that has succeeded, with its metadata. -/
structure Payment where
  intent : PaymentIntentId
  payer : UserId
  credits : Nat
  deriving DecidableEq, Repr

def Payment.Succeeded (p : Payment) (w : World) : Prop :=
  w.paymentIntents.lookup p.intent = some ⟨true,some (p.payer,p.credits)⟩

/-- The requests for one payment: a confirmation by some user, or a delivery of its event. -/
inductive TopupRequest where
  | confirm (userId : UserId)
  | webhook (signatureValid : Bool)
  deriving DecidableEq, Repr

def TopupRequest.handler (p : Payment) : TopupRequest → Handler Unit
  | .confirm userId => do let _ ← confirmTopup userId (some p.intent)
  | .webhook signatureValid => do
      let _ ← stripeWebhook ⟨signatureValid,some (p.intent,some (p.payer,p.credits))⟩

/-- How far a request has come: whether it has passed the guard and not read the balance since,
and whether it has written the balance. -/
structure Crediting where
  cleared : Bool
  wrote : Bool
  deriving DecidableEq, Repr

def Crediting.after (s : Crediting) : (q : Call) → q.Ans → Crediting
  | .http (.getCreditTransactionByReference _), .error _ => { s with cleared := true }
  | .http (.getCredits _), _ => { s with cleared := false }
  | .http (.patchCredits _ _), _ => { s with wrote := true }
  | _, _ => s

def crediting : List (Entry Platform) → Crediting
  | [] => ⟨false,false⟩
  | entry :: h => (crediting h).after entry.1 entry.2

@[simp] theorem crediting_cons (entry : Entry Platform) (h : List (Entry Platform)) :
    crediting (entry :: h) = (crediting h).after entry.1 entry.2 := rfl

section Discipline

variable {p : Payment} {b₀ : Option Credits}

/-- A request looks up its own payment only, reads the balance after the lookup only, and writes
the starting balance plus the credits. -/
def Guards (p : Payment) (b₀ : Option Credits) (h : List (Entry Platform)) : Call → Prop
  | .http (.getCreditTransactionByReference r) => r = .payment p.intent
  | .http (.getCredits userId) => userId = p.payer ∧ (crediting h).cleared
  | .http (.patchCredits userId balance) =>
      userId = p.payer ∧ ¬ (crediting h).cleared ∧ ∃ b, b₀ = some b ∧ balance = b+p.credits
  | q => q.writes ≠ some .credits

/-- The answers while the starting balance `b₀` stands. -/
def Stands (p : Payment) (b₀ : Option Credits) (_ : List (Entry Platform)) :
    (q : Call) → q.Ans → Prop
  | .http (.getCredits _), .ok data => ∃ b, b₀ = some b ∧ data = ⟨some b,none,none⟩
  | .http (.retrievePaymentIntent i), .ok metadata =>
      i = p.intent → metadata = some (p.payer,p.credits)
  | .http (.stripeWebhook d), .ok result =>
      result = ⟨d.intent.bind (·.2),d.intent.map (·.1),none⟩
  | _, _ => True

abbrev Handler.Guarded {α : Type} (p : Payment) (b₀ : Option Credits) (prog : Handler α)
    (h : List (Entry Platform)) : Prop :=
  prog.Follows (Guards p b₀) (Stands p b₀) (fun _ _ => True) (fun _ _ => True) h

variable {α : Type} {h : List (Entry Platform)}

theorem callService_guarded {q : Http} {f : Except String q.Val → Handler α}
    (hq : Guards p b₀ h (.http q))
    (hok : ∀ v, Stands p b₀ h (.http q) (.ok v) →
      Handler.Guarded p b₀ (f (.ok v)) (⟨.http q,.ok v⟩ :: h))
    (herr : ∀ code, Handler.Guarded p b₀ (f (.error code)) (⟨.http q,.error code⟩ :: h)) :
    Handler.Guarded p b₀ (callService q >>= f) h := by
  refine ⟨hq,fun a ha => ?_⟩
  cases a with
  | ok v => exact hok v ha
  | error code => exact herr code
  | raised => trivial

theorem creditUser_guarded {δ : Type} {r : Reference} {done : Credits → Response δ}
    (hc : (crediting h).cleared) :
    Handler.Guarded p b₀ (creditUser p.payer p.credits r done) h := by
  refine callService_guarded ⟨rfl,hc⟩ (fun data hd => ?_) (fun _ => trivial)
  obtain ⟨b,hb,rfl⟩ := hd
  refine callService_guarded ⟨rfl,Bool.false_ne_true,b,hb,rfl⟩ (fun _ _ => ?_) (fun _ => trivial)
  refine callService_guarded ?_ (fun _ _ => trivial) (fun _ => trivial)
  simp [Guards,Call.writes,Http.writes]

/-- Only a lookup that found nothing lets a request past the guard. -/
theorem alreadyLogged_guarded {f : Bool → Handler α}
    (hfound : ∀ h', Handler.Guarded p b₀ (f true) h')
    (hnone : ∀ h', (crediting h').cleared → Handler.Guarded p b₀ (f false) h') :
    Handler.Guarded p b₀ (alreadyLogged (.payment p.intent) >>= f) h := by
  unfold alreadyLogged safeGet
  rw [Prog.bind_assoc,Prog.bind_assoc]
  refine callService_guarded rfl (fun entry _ => ?_) (fun code => ?_)
  · exact hfound _
  · exact hnone _ rfl

theorem confirmTopup_guarded (userId : UserId) :
    Handler.Guarded p b₀ (confirmTopup userId (some p.intent)) h := by
  refine callService_guarded ?_ (fun metadata hm => ?_) (fun _ => trivial)
  · simp [Guards,Call.writes,Http.writes]
  · obtain rfl := hm rfl
    simp only
    split
    · trivial
    · refine alreadyLogged_guarded (fun _ => trivial) fun h' hc => ?_
      rw [if_neg Bool.false_ne_true]
      exact creditUser_guarded hc

theorem stripeWebhook_guarded (signatureValid : Bool) :
    Handler.Guarded p b₀
      (stripeWebhook ⟨signatureValid,some (p.intent,some (p.payer,p.credits))⟩) h := by
  refine callService_guarded ?_ (fun result hr => ?_) (fun _ => trivial)
  · simp [Guards,Call.writes,Http.writes]
  · obtain rfl : result = ⟨some (p.payer,p.credits),some p.intent,none⟩ := hr
    refine alreadyLogged_guarded (fun _ => trivial) fun h' hc => ?_
    rw [if_neg Bool.false_ne_true]
    exact creditUser_guarded hc

theorem handler_guarded (req : TopupRequest) : Handler.Guarded p b₀ (req.handler p) [] := by
  cases req with
  | confirm userId =>
    exact Prog.follows_bind.mpr ((confirmTopup_guarded userId).mono (fun _ _ _ => trivial)
      (fun _ _ _ => trivial))
  | webhook signatureValid =>
    exact Prog.follows_bind.mpr ((stripeWebhook_guarded signatureValid).mono (fun _ _ _ => trivial)
      (fun _ _ _ => trivial))

end Discipline

section Runs

variable {ι : Type} {p : Payment} {w₀ : World}

/-- The balance is untouched or has been raised once, and nobody who is past the guard has missed
a raise. -/
structure Once (p : Payment) (w₀ w : World) (s : ι → Crediting) : Prop where
  intents : w.paymentIntents = w₀.paymentIntents
  balance : w.credits.lookup p.payer = w₀.credits.lookup p.payer ∨
    (∃ j, (s j).wrote) ∧ ∃ b, w₀.credits.lookup p.payer = some b ∧
      w.credits.lookup p.payer = some (b+p.credits)
  current (j k : ι) : (s j).cleared → ¬ (s k).wrote

theorem once_start (p : Payment) (w₀ : World) :
    Once p w₀ w₀ (crediting ∘ fun _ : ι => []) := by
  constructor <;> simp [crediting]

def looksUp : Call → Bool
  | .http (.getCreditTransactionByReference _) => true
  | _ => false

def writesBalance : Call → Bool
  | .http (.patchCredits _ _) => true
  | _ => false

/-- The lookup is sure to find an entry for the payment, unless it raises. -/
def seesEntry (p : Payment) (w : World) (e : Env) : Bool :=
  match e.fault with
  | none => (w.creditTransactions.find? (·.referenceId = some (.payment p.intent))).isSome
  | some f => f.code.isNone

/-- Once a request has written the balance, every lookup sees an entry for the payment; and no
request writes the balance while another has passed the guard and not read the balance yet. -/
structure Seen (p : Payment) (w : World) (past : ι → List (Entry Platform)) (k : ι) (e : Env)
    (q : Call) : Prop where
  lookups : looksUp q → (∃ j, (crediting (past j)).wrote) → seesEntry p w e
  writes : writesBalance q → ∀ j, j ≠ k → ¬ (crediting (past j)).cleared

instance [Fintype ι] [DecidableEq ι] (p : Payment) (w : World) (past : ι → List (Entry Platform))
    (k : ι) (e : Env) (q : Call) : Decidable (Seen p w past k e q) :=
  decidable_of_iff ((looksUp q → (∃ j, (crediting (past j)).wrote) → seesEntry p w e) ∧
      (writesBalance q → ∀ j, j ≠ k → ¬ (crediting (past j)).cleared))
    ⟨fun h => ⟨h.1,h.2⟩,fun h => ⟨h.lookups,h.writes⟩⟩

/-- While nobody has written the balance, it is read as it was at the start. -/
theorem Once.unwritten {w : World} {s : ι → Crediting} (ho : Once p w₀ w s)
    (hno : ∀ j, ¬ (s j).wrote) : w.credits.lookup p.payer = w₀.credits.lookup p.payer := by
  rcases ho.balance with h | ⟨⟨j,hj⟩,-⟩
  · exact h
  · exact absurd hj (hno j)

variable [DecidableEq ι] {cfg : SeatConfig} {w w' : World} {s : ι → Crediting} {k : ι}

theorem Once.same (ho : Once p w₀ w s) {s' : Crediting} (hs : s' = s k)
    (hi : w'.paymentIntents = w.paymentIntents) (hc : w'.credits = w.credits) :
    Once p w₀ w' (Function.update s k s') := by
  subst hs
  rw [Function.update_eq_self]
  exact ⟨hi.trans ho.intents,by rw [hc]; exact ho.balance,ho.current⟩

/-- A lookup that finds nothing comes before every write. -/
theorem Once.clears (ho : Once p w₀ w s) (hno : ∀ j, ¬ (s j).wrote) :
    Once p w₀ w (Function.update s k { s k with cleared := true }) := by
  obtain ⟨hi,hb,hcur⟩ := ho
  constructor <;> grind [Function.update_apply]

theorem Once.read (ho : Once p w₀ w s) :
    Once p w₀ w (Function.update s k { s k with cleared := false }) := by
  obtain ⟨hi,hb,hcur⟩ := ho
  refine ⟨hi,hb.imp_right ?_,?_⟩
  · rintro ⟨⟨j,hj⟩,hb⟩
    exact ⟨⟨j,by grind [Function.update_apply]⟩,hb⟩
  · grind [Function.update_apply]

theorem Once.written (ho : Once p w₀ w s) (hi : w'.paymentIntents = w.paymentIntents)
    (hno : ∀ j, j ≠ k → ¬ (s j).cleared) (hk : ¬ (s k).cleared) {b : Credits}
    (hb : w₀.credits.lookup p.payer = some b)
    (hw : w'.credits = w.credits ∨ w'.credits = w.credits.insert p.payer (b+p.credits)) :
    Once p w₀ w' (Function.update s k { s k with wrote := true }) := by
  have hwrote : (Function.update s k { s k with wrote := true } k).wrote := by simp
  refine ⟨hi.trans ho.intents,?_,?_⟩
  · rcases hw with hw | hw
    · rw [hw]
      exact ho.balance.imp_right fun h => ⟨⟨k,hwrote⟩,h.2⟩
    · refine .inr ⟨⟨k,hwrote⟩,b,hb,?_⟩
      rw [hw,AList.lookup_insert]
  · intro j j' hj
    by_cases hjk : j = k
    · subst hjk
      exact absurd (by simpa using hj) hk
    · rw [Function.update_of_ne hjk] at hj
      exact absurd hj (hno j hjk)

theorem lookup_found {e : Env} (hs : seesEntry p w e) (code : String) :
    (World.perform cfg e w (.http (.getCreditTransactionByReference (.payment p.intent)))).1 ≠
      .error code := by
  unfold seesEntry at hs
  simp only [World.perform,World.faulty,World.serve,World.getCreditTransactionByReference]
  split at hs
  · rename_i hf
    obtain ⟨entry,hfound⟩ := Option.isSome_iff_exists.mp hs
    simp [hf,hfound,World.found,World.httpReply]
  · rename_i f hf
    rw [Option.isNone_iff_eq_none] at hs
    simp [hf,World.httpFault,hs]

theorem serve_retrievePaymentIntent_ok {e : Env} {i : PaymentIntentId} {v : Option (UserId × Nat)}
    (h : w.serve e (.retrievePaymentIntent i) = (.ok v,w')) :
    ∃ intent, w.paymentIntents.lookup i = some intent ∧ v = intent.metadata := by
  simp only [World.serve,World.retrievePaymentIntent] at h
  split at h
  · cases h
  · rename_i intent hi
    split at h
    · cases h; exact ⟨intent,hi,rfl⟩
    · cases h

theorem serve_stripeWebhook_ok {e : Env} {d : StripeDelivery} {v : WebhookResult}
    (h : w.serve e (.stripeWebhook d) = (.ok v,w')) :
    v = ⟨d.intent.bind (·.2),d.intent.map (·.1),none⟩ := by
  simp only [World.serve,World.stripeWebhook] at h
  split at h
  · cases h; rfl
  · cases h

theorem once_keeps (hp : p.Succeeded w₀) :
    Keeps (World.server cfg ι) (Seen p) (fun _ => Guards p (w₀.credits.lookup p.payer))
      (fun _ => Stands p (w₀.credits.lookup p.payer))
      (fun w past => Once p w₀ w (crediting ∘ past)) := by
  intro w past k e q ho _ hc hg
  have hframe : World.Frame q.writes w (World.perform cfg e w q).2 := World.perform_frame q
  have hsame : ∀ {s' : Crediting}, s' = crediting (past k) → q.writes ≠ some .credits →
      Once p w₀ (World.perform cfg e w q).2 (Function.update (crediting ∘ past) k s') :=
    fun hs hq => ho.same hs hframe.paymentIntents (hframe.credits hq)
  simp only [World.server,Function.comp_update,crediting_cons]
  cases q with
  | http q =>
    have hread : q.writes = none → (World.perform cfg e w (.http q)).2 = w :=
      fun hq => World.perform_read hq (rfl : World.perform cfg e w (.http q) = _)
    generalize ha : (World.perform cfg e w (.http q)).1 = a
    have hok : ∀ v, a = .ok v → w.serve e q = (.ok v,(World.perform cfg e w (.http q)).2) :=
      fun v hv => World.perform_ok (Prod.ext (ha.trans hv) rfl)
    cases q with
    | getCreditTransactionByReference r =>
      obtain rfl : r = .payment p.intent := hg
      cases a with
      | ok v => exact ⟨trivial,hsame rfl (by simp [Call.writes,Http.writes])⟩
      | raised => exact ⟨trivial,hsame rfl (by simp [Call.writes,Http.writes])⟩
      | error code =>
        refine ⟨trivial,?_⟩
        rw [hread rfl]
        refine ho.clears fun j hj => ?_
        exact lookup_found (hc.lookups rfl ⟨j,hj⟩) code ha
    | getCredits userId =>
      obtain ⟨rfl,hcleared⟩ := hg
      have hkept : Once p w₀ (World.perform cfg e w (.http (.getCredits p.payer))).2
          (Function.update (crediting ∘ past) k { crediting (past k) with cleared := false }) := by
        rw [hread rfl]
        exact ho.read
      refine ⟨?_,hkept⟩
      cases a with
      | ok data =>
        obtain ⟨-,b,hb,rfl⟩ := World.serve_getCredits_ok (hok data rfl)
        rw [ho.unwritten (fun j => ho.current k j hcleared)] at hb
        exact ⟨b,hb,rfl⟩
      | error code => trivial
      | raised => trivial
    | patchCredits userId balance =>
      obtain ⟨rfl,hk,b,hb,rfl⟩ := hg
      refine ⟨trivial,ho.written hframe.paymentIntents ?_ hk hb ?_⟩
      · exact hc.writes rfl
      · rcases World.perform_patchCredits_cases cfg e w p.payer (b+p.credits) with
          hkeep | ⟨-,hset⟩
        · exact .inl (congrArg World.credits hkeep)
        · exact .inr (congrArg World.credits hset)
    | retrievePaymentIntent i =>
      refine ⟨?_,hsame rfl (by simp [Call.writes,Http.writes])⟩
      cases a with
      | ok v =>
        obtain ⟨intent,hi,rfl⟩ := serve_retrievePaymentIntent_ok (hok v rfl)
        rintro rfl
        rw [ho.intents,hp] at hi
        cases hi
        rfl
      | error code => trivial
      | raised => trivial
    | stripeWebhook d =>
      refine ⟨?_,hsame rfl (by simp [Call.writes,Http.writes])⟩
      cases a with
      | ok v => exact serve_stripeWebhook_ok (hok v rfl)
      | error code => trivial
      | raised => trivial
    | _ => exact ⟨trivial,hsame rfl hg⟩
  | _ => exact ⟨trivial,hsame rfl hg⟩

abbrev TopupConfig (ι : Type) : Type := Config ι Platform Unhandled Unit World

/-- The payer's balance has not changed, or has grown by the credits of the payment, once. -/
def CreditedAtMostOnce (p : Payment) (w₀ w : World) : Prop :=
  w.credits.lookup p.payer = w₀.credits.lookup p.payer ∨
    ∃ b, w₀.credits.lookup p.payer = some b ∧ w.credits.lookup p.payer = some (b+p.credits)

/-- Any number of confirmations and webhooks for one payment, side by side and with any failures:
if every lookup sees the credits before it, and no credit comes between a lookup and the read
after it, then the payment is credited once at most. -/
theorem payment_credited_once (cfg : SeatConfig) (p : Payment) (req : ι → TopupRequest)
    (w₀ : World) (hp : p.Succeeded w₀) (c : TopupConfig ι)
    (hrun : Config.Reach (World.server cfg ι) (Seen p)
      (Config.start w₀ (fun i => (req i).handler p)) c) : CreditedAtMostOnce p w₀ c.shared := by
  have hstart : (Config.start w₀ (fun i => (req i).handler p)).Disciplined
      (fun _ => Guards p (w₀.credits.lookup p.payer))
      (fun _ => Stands p (w₀.credits.lookup p.payer)) (fun _ _ _ => True) (fun _ _ _ => True)
      (fun w past => Once p w₀ w (crediting ∘ past)) :=
    Config.disciplined_start (once_start p w₀) (fun i => handler_guarded (req i))
  have hc := (hstart.reach (once_keeps hp) hrun).1
  exact hc.balance.imp_right And.right

end Runs

section Double

/-- User 2 has 100 credits and has paid for 50 more. -/
def paidWorld : World where
  users := ∅
  events := ∅
  venues := ∅
  seats := ∅
  inventory := ∅
  holdCache := ∅
  released := ∅
  tickets := ∅
  ticketLogs := []
  listings := ∅
  transfers := ∅
  credits := AList.singleton 2 100
  creditTransactions := []
  paymentIntents := AList.singleton 7 ⟨true,some (2,50)⟩
  scanLocks := ∅

def topup : Payment := ⟨7,2,50⟩

def confirmAndWebhook : Bool → TopupRequest
  | true => .confirm 2
  | false => .webhook true

def afterPayment : TopupConfig Bool :=
  .start paidWorld (fun i => (confirmAndWebhook i).handler topup)

def calls (i : Bool) (n : Nat) (fault : Option Fault) : List (Bool × Env) :=
  List.replicate n (i,⟨0,0,0,true,true,fault⟩)

/-- The webhook comes after the confirmation. -/
def oneAfterTheOther : TopupConfig Bool :=
  afterPayment.schedule (World.server ⟨3,3,false⟩ Bool)
    (fun w past k e q => decide (Seen topup w past k e q)) (calls true 5 none ++ calls false 2 none)

theorem payment_credited_once_webhookLater :
    oneAfterTheOther.shared.credits.lookup 2 = some 150 ∧ oneAfterTheOther.result false = some () ∧
      CreditedAtMostOnce topup paidWorld oneAfterTheOther.shared := by
  refine ⟨by decide +kernel,by decide +kernel,?_⟩
  exact payment_credited_once ⟨3,3,false⟩ topup confirmAndWebhook paidWorld rfl _
    (Config.reach_schedule (fun _ _ _ _ _ h => of_decide_eq_true h) _ _)

/-- Only calls to the ledger may fail. -/
def ledgerMayFail (_ : World) (_ : Bool → List (Entry Platform)) (_ : Bool) (e : Env) : Call → Bool
  | .http (.getCreditTransactionByReference _) | .http (.createCreditTransaction _) => true
  | _ => e.fault.isNone

/-- The ledger does not take the entry of the confirmation, and then the webhook comes. -/
def entryLost : TopupConfig Bool :=
  afterPayment.schedule (World.server ⟨3,3,false⟩ Bool) ledgerMayFail
    (calls true 4 none ++ calls true 1 (some ⟨false,some "SERVICE_UNAVAILABLE"⟩) ++
      calls false 5 none)

/-- Both requests look the payment up before either has logged it; nothing fails. -/
def bothLookUp : TopupConfig Bool :=
  afterPayment.schedule (World.server ⟨3,3,false⟩ Bool) ledgerMayFail
    (calls true 2 none ++ calls false 2 none ++ calls true 3 none ++ calls false 3 none)

theorem not_creditedAtMostOnce {w : World} (h : w.credits.lookup 2 = some 200) :
    ¬ CreditedAtMostOnce topup paidWorld w := by
  have h₀ : paidWorld.credits.lookup 2 = some 100 := by decide +kernel
  rintro (hw | ⟨b,hb,hw⟩)
  · rw [show topup.payer = 2 from rfl,h,h₀] at hw
    exact absurd hw (by decide +kernel)
  · obtain rfl : b = 100 := Option.some.inj (hb.symm.trans h₀)
    rw [show topup.payer = 2 from rfl,h] at hw
    exact absurd hw (by decide +kernel)

/-- Either way the payment is credited twice. -/
theorem payment_credited_twice : topup.Succeeded paidWorld ∧
    (Config.Reach (World.server ⟨3,3,false⟩ Bool) (fun w past k e q => ledgerMayFail w past k e q)
        afterPayment entryLost ∧ ¬ CreditedAtMostOnce topup paidWorld entryLost.shared) ∧
    Config.Reach (World.server ⟨3,3,false⟩ Bool) (fun w past k e q => ledgerMayFail w past k e q)
        afterPayment bothLookUp ∧ ¬ CreditedAtMostOnce topup paidWorld bothLookUp.shared := by
  refine ⟨rfl,⟨?_,?_⟩,?_,?_⟩
  · exact Config.reach_schedule (fun _ _ _ _ _ h => h) _ _
  · exact not_creditedAtMostOnce (by decide +kernel)
  · exact Config.reach_schedule (fun _ _ _ _ _ h => h) _ _
  · exact not_creditedAtMostOnce (by decide +kernel)

end Double

end TicketRemaster.Credits
