import Mathlib.Data.Prod.Lex
import TicketRemaster.Lib.Pages
import TicketRemaster.Credits.Ledger
set_option autoImplicit false

/-! A user's credit history: the pages of the ledger, read one after the other while other requests
go on. -/

namespace TicketRemaster.Credits

open Paging Resumption SeatInventory

/-- What the database adds to an entry, by the number of entries before it: an id that no other
has, and the time on the clock of the server. -/
structure Stamps where
  txnId : Nat → Nat
  createdAt : Nat → Time
  distinct : Function.Injective txnId

/-- A row of `credit_txns`. -/
structure LedgerRow where
  txnId : Nat
  createdAt : Time
  entry : CreditTransaction
  deriving DecidableEq

structure HistoryPage where
  transactions : List LedgerRow
  page : Int
  limit : Int
  total : Nat

/-- `createdAt` and then `txnId`, both descending. -/
def newestFirst (row : LedgerRow) : (Time ×ₗ Nat)ᵒᵈ :=
  OrderDual.toDual (toLex (row.createdAt,row.txnId))

section Routes

variable (stamps : Stamps)

def ledgerRows : List CreditTransaction → List LedgerRow
  | [] => []
  | d :: earlier =>
      ⟨stamps.txnId earlier.length,stamps.createdAt earlier.length,d⟩ :: ledgerRows earlier

def userRows (w : World) (userId : UserId) : List LedgerRow :=
  (ledgerRows stamps w.creditTransactions).filter (·.entry.userId = userId)

variable (order : ∀ rows, Arrangement newestFirst rows) (counted listed : World)

/-- `GET /credit-transactions/user/<user_id>`; a number that is missing or no integer is `none`.
The rows are counted and listed by two statements, and each sees what is committed by then. -/
def listCreditTransactionsByUser (userId : UserId) (page limit : Option Int) :
    Except ServiceError HistoryPage :=
  let page := page.getD 1
  let limit := limit.getD 20
  if page < 1 then
    .error (validationError "page must be an integer greater than or equal to 1")
  else if limit < 1 then
    .error (validationError "limit must be an integer greater than or equal to 1")
  else
    let limit := min limit 100
    let total := (userRows stamps counted userId).length
    let rows := (order (userRows stamps listed userId)).answer
    .ok ⟨Paging.page limit.toNat page.toNat rows,page,limit,total⟩

/-- `GET /credits/transactions`, with the fault of its call, if any. -/
def getTransactions (fault : Option Fault) (userId : UserId) (page limit : Option Int) :
    Except Unhandled (Response HistoryPage) :=
  let reply := match fault with
    | some f => World.httpFault f
    | none => World.httpReply
        (listCreditTransactionsByUser stamps order counted listed userId page limit)
  match reply with
  | .ok data => .ok (.data 200 data)
  | .error _ => .ok (.error "SERVICE_UNAVAILABLE" "Could not retrieve transactions." 503)
  | .raised => .error .client

end Routes

section Rows

variable (stamps : Stamps)

theorem ledgerRows_entries (ds : List CreditTransaction) :
    (ledgerRows stamps ds).map (·.entry) = ds := by
  induction ds with
  | nil => rfl
  | cons d ds ih => simp [ledgerRows,ih]

theorem ledgerRows_ids (ds : List CreditTransaction) :
    (ledgerRows stamps ds).map (·.txnId) = (List.range ds.length).reverse.map stamps.txnId := by
  induction ds with
  | nil => rfl
  | cons d ds ih => simp [ledgerRows,ih,List.range_succ]

theorem ledgerRows_suffix {old new : List CreditTransaction} (h : old <:+ new) :
    ledgerRows stamps old <:+ ledgerRows stamps new := by
  obtain ⟨added,rfl⟩ := h
  induction added with
  | nil => exact List.suffix_refl _
  | cons d added ih => exact ih.trans (List.suffix_cons _ _)

variable {w w' : World} (u : UserId)

/-- The rows have different places in the order of the pages. -/
theorem userRows_nodup : ((userRows stamps w u).map newestFirst).Nodup := by
  have hids : ((ledgerRows stamps w.creditTransactions).map (·.txnId)).Nodup := by
    rw [ledgerRows_ids]
    exact (List.nodup_reverse.mpr List.nodup_range).map stamps.distinct
  refine List.Nodup.map_on (fun a ha b hb hkey => ?_)
    ((hids.of_map).sublist List.filter_sublist)
  have hpair := toLex_inj.mp (OrderDual.toDual_inj.mp hkey)
  exact List.inj_on_of_nodup_map hids (List.mem_of_mem_filter ha) (List.mem_of_mem_filter hb)
    (Prod.mk.inj hpair).2

theorem userRows_sublist (h : w.creditTransactions <:+ w'.creditTransactions) :
    (userRows stamps w u).Sublist (userRows stamps w' u) :=
  (ledgerRows_suffix stamps h).sublist.filter _

theorem userRows_sum : ((userRows stamps w u).map (·.entry.delta)).sum = ledgerSum w u := by
  have hentries : (userRows stamps w u).map (·.entry) =
      w.creditTransactions.filter (·.userId = u) := by
    conv_rhs => rw [← ledgerRows_entries stamps w.creditTransactions,List.filter_map]
    rfl
  rw [ledgerSum,← hentries,List.map_map]
  rfl

end Rows

section Growth

variable {cfg : SeatConfig}

/-- A call adds an entry to the ledger, or leaves it. -/
theorem perform_ledger_suffix (e : Env) (w : World) (q : Call) :
    w.creditTransactions <:+ (World.perform cfg e w q).2.creditTransactions := by
  by_cases hq : q.writes = some .creditTransactions
  · obtain ⟨d,rfl⟩ := Transfer.logging_call hq
    rcases World.perform_http_cases cfg e w (.createCreditTransaction d) with h | h
    · rw [h]
    · rw [h]
      exact List.suffix_cons _ _
  · rw [(World.perform_frame q).creditTransactions hq]

variable {ι α : Type} [DecidableEq ι]

theorem reach_ledger_suffix {c d : Config ι Platform Unhandled α World}
    {C : World → (ι → List (Entry Platform)) → ι → Env → Call → Prop}
    (h : Config.Reach (World.server cfg ι) C c d) :
    c.shared.creditTransactions <:+ d.shared.creditTransactions :=
  @Config.reach_shared _ _ _ _ _ _ _ _ _ (fun w => c.shared.creditTransactions <:+
    w.creditTransactions) (fun w _ _ e q _ _ hw => hw.trans (perform_ledger_suffix e w q)) _ _
    (List.suffix_refl _) h

theorem completes_ledger_suffix {w w' : World} (h : Relation.ReflTransGen (Completes cfg) w w') :
    w.creditTransactions <:+ w'.creditTransactions := by
  induction h with
  | refl => exact List.suffix_refl _
  | tail _ hs ih =>
    obtain ⟨req,ω,-,rfl⟩ := hs
    refine Prog.exec_keeps (fun w'' : World => w.creditTransactions <:+ w''.creditTransactions) ?_
      req.handler ih
    exact fun e w'' q hw => hw.trans (perform_ledger_suffix e w'' q)

end Growth

section Pages

/-- From moment to moment the ledger only grows. Page `k` is counted at moment `2*k` and listed at
`2*k+1`. -/
def Growing (moments : Nat → World) : Prop :=
  ∀ j, (moments j).creditTransactions <:+ (moments (j+1)).creditTransactions

def rowsOf : Except Unhandled (Response HistoryPage) → List LedgerRow
  | .ok (.data _ page) => page.transactions
  | _ => []

def totalOf : Except Unhandled (Response HistoryPage) → Option Nat
  | .ok (.data _ page) => some page.total
  | _ => none

variable (stamps : Stamps) (orders : Nat → ∀ rows, Arrangement newestFirst rows)
  (moments : Nat → World) (u : UserId) (limit : Nat)

def pageAnswer (k : Nat) : Except Unhandled (Response HistoryPage) :=
  getTransactions stamps (orders k) (moments (2*k)) (moments (2*k+1)) none u (some k) (some limit)

/-- The rows on the pages 1 to `n`, as they were when each was read. -/
def shown (n : Nat) : List LedgerRow :=
  (List.range n).flatMap fun i => rowsOf (pageAnswer stamps orders moments u limit (i+1))

variable {stamps orders moments u limit} {n : Nat}

theorem pageAnswer_eq (hlimit : 1 ≤ limit ∧ limit ≤ 100) {k : Nat} (hk : 1 ≤ k) :
    pageAnswer stamps orders moments u limit k = .ok (.data 200
      ⟨Paging.page limit k (orders k (userRows stamps (moments (2*k+1)) u)).answer,k,limit,
        (userRows stamps (moments (2*k)) u).length⟩) := by
  have hpage : ¬ (k : Int) < 1 := by omega
  have hlow : ¬ (limit : Int) < 1 := by omega
  have hclamp : min (limit : Int) 100 = limit := by omega
  unfold pageAnswer getTransactions listCreditTransactionsByUser
  dsimp only [Option.getD_some]
  rw [if_neg hpage,if_neg hlow,hclamp]
  rfl

theorem shown_eq_pages (hlimit : 1 ≤ limit ∧ limit ≤ 100) :
    shown stamps orders moments u limit n = pages limit
      (fun k => (orders k (userRows stamps (moments (2*k+1)) u)).answer) n := by
  refine List.flatMap_congr fun i _ => ?_
  rw [pageAnswer_eq hlimit (by omega)]
  rfl

theorem Growing.sublist (hgrow : Growing moments) (stamps : Stamps) (u : UserId) {i j : Nat}
    (h : i ≤ j) : (userRows stamps (moments i) u).Sublist (userRows stamps (moments j) u) := by
  induction h with
  | refl => exact List.Sublist.refl _
  | step _ ih => exact ih.trans (userRows_sublist stamps u (hgrow _))

/-- Pages read up to one that is not full show every row there was at the first of them, and only
rows of the ledger; and if the total has not changed since, each row once, newest first. -/
theorem Growing.shown_whole (hgrow : Growing moments) (hlimit : 1 ≤ limit ∧ limit ≤ 100)
    (hn : 1 ≤ n) (hshort : (rowsOf (pageAnswer stamps orders moments u limit n)).length < limit) :
    (∀ row ∈ userRows stamps (moments 3) u, row ∈ shown stamps orders moments u limit n) ∧
    (∀ row ∈ shown stamps orders moments u limit n,
      row ∈ userRows stamps (moments (2*n+1)) u) ∧
    (totalOf (pageAnswer stamps orders moments u limit 1) =
        totalOf (pageAnswer stamps orders moments u limit (n+1)) →
      shown stamps orders moments u limit n =
        (orders n (userRows stamps (moments (2*n+1)) u)).answer) := by
  rw [pageAnswer_eq hlimit hn] at hshort
  have hlast : (userRows stamps (moments (2*n+1)) u).length ≤ n*limit := by
    rw [← (orders n _).perm.length_eq]
    exact length_of_short_page limit hn hshort
  rw [shown_eq_pages hlimit]
  refine ⟨fun row hrow => ?_,fun row hrow => ?_,fun htotal => ?_⟩
  · have hadded : ∀ k, (userRows stamps (moments (2*k+1)) u).Subperm
        (userRows stamps (moments (2*(k+1)+1)) u) :=
      fun k => (hgrow.sublist stamps u (by omega)).subperm
    exact pages_complete hadded (fun k => userRows_nodup stamps u) (fun k => orders k _) hn hlast
      hrow
  · obtain ⟨k,-,hk,hmem⟩ := mem_pages hrow
    exact (hgrow.sublist stamps u (by omega)).subset ((orders k _).perm.mem_iff.mp hmem)
  · rw [pageAnswer_eq hlimit le_rfl,pageAnswer_eq hlimit (by omega)] at htotal
    have hcount : (userRows stamps (moments 2) u).length =
      (userRows stamps (moments (2*(n+1))) u).length := Option.some.inj htotal
    have hsame : ∀ k, 1 ≤ k → k ≤ n → (orders k (userRows stamps (moments (2*k+1)) u)).answer =
        (orders n (userRows stamps (moments (2*n+1)) u)).answer := by
      intro k hk hkn
      have hrows : userRows stamps (moments (2*k+1)) u = userRows stamps (moments (2*n+1)) u := by
        refine (hgrow.sublist stamps u (by omega)).eq_of_length_le ?_
        have hfrom := (hgrow.sublist stamps u (show 2 ≤ 2*k+1 by omega)).length_le
        have hto := (hgrow.sublist stamps u (show 2*n+1 ≤ 2*(n+1) by omega)).length_le
        omega
      rw [hrows]
      exact Arrangement.answer_eq (fun a ha b hb hkey =>
        List.inj_on_of_nodup_map (userRows_nodup stamps u) ha hb hkey) _ _
    rw [pages_eq_take limit hsame]
    exact List.take_of_length_le (by rw [(orders n _).perm.length_eq]; exact hlast)

end Pages

section History

variable (stamps : Stamps) (orders : Nat → ∀ rows, Arrangement newestFirst rows) (u : UserId)
  {limit n : Nat}

/-- Whatever requests run between the pages of a credit history and between the two statements of
each, the pages up to one that is not full show every entry the user had at the first of them, and
entries of the user only; and where the total is still what it was, each of them once, newest
first. -/
theorem history_loses_nothing {ι α : Type} [DecidableEq ι] (cfg : SeatConfig)
    {C : World → (ι → List (Entry Platform)) → ι → Env → Call → Prop}
    (moments : Nat → Config ι Platform Unhandled α World)
    (hrun : ∀ j, Config.Reach (World.server cfg ι) C (moments j) (moments (j+1)))
    (hlimit : 1 ≤ limit ∧ limit ≤ 100) (hn : 1 ≤ n) (hshort : (rowsOf (pageAnswer stamps orders
      (fun j => (moments j).shared) u limit n)).length < limit) :
    (∀ row ∈ userRows stamps (moments 3).shared u,
      row ∈ shown stamps orders (fun j => (moments j).shared) u limit n) ∧
    (∀ row ∈ shown stamps orders (fun j => (moments j).shared) u limit n,
      row ∈ userRows stamps (moments (2*n+1)).shared u) ∧
    (totalOf (pageAnswer stamps orders (fun j => (moments j).shared) u limit 1) =
        totalOf (pageAnswer stamps orders (fun j => (moments j).shared) u limit (n+1)) →
      (shown stamps orders (fun j => (moments j).shared) u limit n).Perm
          (userRows stamps (moments (2*n+1)).shared u) ∧
        (shown stamps orders (fun j => (moments j).shared) u limit n).Pairwise
          fun a b => newestFirst a ≤ newestFirst b) := by
  have hgrow : Growing fun j => (moments j).shared := fun j => reach_ledger_suffix (hrun j)
  obtain ⟨hall,honly,hwhole⟩ := hgrow.shown_whole hlimit hn hshort
  refine ⟨hall,honly,fun htotal => ?_⟩
  rw [hwhole htotal]
  exact ⟨(orders n _).perm,(orders n _).sorted⟩

end History

section Read

/-- The clock goes a second on from entry to entry. -/
def byTheSecond : Stamps := ⟨id,fun i => seconds i,fun _ _ h => h⟩

def newest (_ : Nat) (rows : List LedgerRow) : Arrangement newestFirst rows :=
  .sort newestFirst rows

/-- User 2 has confirmed the first payment, and then the second one. -/
def onePaid : CreditConfig Bool :=
  afterPayments.schedule (World.server ⟨3,3,false⟩ Bool) (fun _ _ _ _ _ => true) (calls true 5 none)

def bothPaid : CreditConfig Bool :=
  onePaid.schedule (World.server ⟨3,3,false⟩ Bool) (fun _ _ _ _ _ => true) (calls false 5 none)

def bothPaidFrom (m j : Nat) : CreditConfig Bool := if j < m then onePaid else bothPaid

theorem bothPaidFrom_reach (m j : Nat) :
    Config.Reach (World.server ⟨3,3,false⟩ Bool) Config.anyStep (bothPaidFrom m j)
      (bothPaidFrom m (j+1)) := by
  have hpaid : Config.Reach (World.server ⟨3,3,false⟩ Bool) Config.anyStep onePaid bothPaid :=
    Config.reach_schedule (fun _ _ _ _ _ _ => trivial) _ _
  unfold bothPaidFrom
  split <;> split
  · exact .refl
  · exact hpaid
  · omega
  · exact .refl

def firstPayment : LedgerRow := ⟨0,0,⟨2,50,.topup,some (.payment 7)⟩⟩

/-- The second payment is confirmed between page 1 and page 2, and the first is shown twice. -/
theorem history_loses_nothing_betweenPages :
    shown byTheSecond newest (fun j => (bothPaidFrom 4 j).shared) 2 1 3 =
        [firstPayment,firstPayment] ∧
      ∀ row ∈ userRows byTheSecond (bothPaidFrom 4 3).shared 2,
        row ∈ shown byTheSecond newest (fun j => (bothPaidFrom 4 j).shared) 2 1 3 :=
  ⟨by decide +kernel,(history_loses_nothing byTheSecond newest 2 ⟨3,3,false⟩ (bothPaidFrom 4)
    (bothPaidFrom_reach 4) (by decide) (by decide) (by decide +kernel)).1⟩

/-- The total of a page does not tell whether it is the last one: when the second payment is
confirmed between the statements of page 1, that page shows it alone, and a total of one. -/
theorem total_misleads :
    totalOf (pageAnswer byTheSecond newest (fun j => (bothPaidFrom 3 j).shared) 2 1 1) = some 1 ∧
      firstPayment ∈ userRows byTheSecond (bothPaidFrom 3 2).shared 2 ∧
      firstPayment ∉ shown byTheSecond newest (fun j => (bothPaidFrom 3 j).shared) 2 1 1 := by
  decide +kernel

def settledFrom : Nat → World
  | 0 => verifiedWorld
  | 1 => toppedUp
  | _ => settledWorld

theorem settledFrom_completes (j : Nat) :
    Relation.ReflTransGen (Completes ⟨3,3,false⟩) (settledFrom j) (settledFrom (j+1)) := by
  cases j with
  | zero => exact .single ⟨.confirmTopup 2 (some 7),healthy,by decide +kernel,rfl⟩
  | succ j =>
    cases j with
    | zero => exact .single ⟨.sellerVerify 1 8 (some 1),healthy,by decide +kernel,rfl⟩
    | succ j => exact .refl

end Read

end TicketRemaster.Credits
