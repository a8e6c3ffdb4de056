import TicketRemaster.Credits.Settlement
import TicketRemaster.Credits.CreditedOnce
import TicketRemaster.Transfer.Compensation
set_option autoImplicit false

/-! What one call of such a request does to the databases: the stored balance follows what the
request moves, and the ledger what it logs. -/

namespace TicketRemaster.Credits

open Resumption SeatInventory

/-- The rows that requests refer to are those of `w₀`: payments as they were, transfers under the
same terms. -/
structure Rooted (w₀ w : World) : Prop where
  intents : w.paymentIntents = w₀.paymentIntents
  terms : ∀ i t, w.transfers.lookup i = some t →
    ∃ t₀, w₀.transfers.lookup i = some t₀ ∧ SameTerms t t₀

theorem Rooted.refl (w : World) : Rooted w w := ⟨rfl,fun _ t ht => ⟨t,ht,.refl t⟩⟩

/-- Every balance the request has read before it writes the balance is the one stored. -/
def findsAsRead (w : World) (h : List (Entry Platform)) : Call → Bool
  | .http (.patchCredits i _) => (account i h).reads.all (fun r => w.credits.lookup i = some r)
  | _ => true

/-- The sum of the ledger entries of a user. -/
def ledgerSum (w : World) (u : UserId) : Credits :=
  ((w.creditTransactions.filter (·.userId = u)).map (·.delta)).sum

section Effects

variable {cfg : SeatConfig} {e : Env} {w w' w₀ : World} {req : CreditRequest}
  {h : List (Entry Platform)} {q : Call} {a : q.Ans}

theorem sameTerms_expire (t : Transfer) : SameTerms (World.expire t) t := ⟨rfl,rfl,rfl⟩

theorem sameTerms_setTransfer (p : TransferPatch) (t : Transfer) :
    SameTerms (World.setTransfer p t) t := ⟨rfl,rfl,rfl⟩

theorem insert_terms {i j : TransferId} {t t' : Transfer} (ht : w.transfers.lookup i = some t)
    (hterms : SameTerms t' t) {r : Transfer}
    (hr : (w.transfers.insert i t').lookup j = some r) :
    ∃ r₀, w.transfers.lookup j = some r₀ ∧ SameTerms r r₀ := by
  rcases Table.lookup_insert_cases hr with ⟨rfl,rfl⟩ | ⟨-,hr⟩
  · exact ⟨t,ht,hterms⟩
  · exact ⟨r,hr,.refl r⟩

theorem serve_terms {q : Http} (hq : ∀ d, q ≠ .createTransfer d) {i : TransferId} {t : Transfer}
    (ht : (w.serve e q).2.transfers.lookup i = some t) :
    ∃ t₀, w.transfers.lookup i = some t₀ ∧ SameTerms t t₀ := by
  have hsame : q.writes ≠ some .transfers →
      ∃ t₀, w.transfers.lookup i = some t₀ ∧ SameTerms t t₀ := by
    intro hw
    rw [(World.serve_frame e w q).transfers hw] at ht
    exact ⟨t,ht,.refl t⟩
  cases q with
  | createTransfer d => exact absurd rfl (hq d)
  | getTransfer j =>
    simp only [World.serve,World.getTransfer] at ht
    split at ht
    · exact ⟨t,ht,.refl t⟩
    · rename_i r hr
      split at ht
      · exact insert_terms hr (sameTerms_expire r) ht
      · exact ⟨t,ht,.refl t⟩
  | patchTransfer j p =>
    simp only [World.serve,World.patchTransfer] at ht
    split at ht
    · exact ⟨t,ht,.refl t⟩
    · split at ht
      · exact ⟨t,ht,.refl t⟩
      · split at ht
        · exact ⟨t,ht,.refl t⟩
        · rename_i r hr
          split at ht
          · exact insert_terms hr (sameTerms_expire r) ht
          · exact insert_terms hr (sameTerms_setTransfer p r) ht
  | _ => exact hsame (by simp [Http.writes])

theorem Rooted.perform (hr : Rooted w₀ w) (hq : Sound w₀ req h q) :
    Rooted w₀ (World.perform cfg e w q).2 := by
  have hf : World.Frame q.writes w (World.perform cfg e w q).2 := World.perform_frame q
  refine ⟨hf.paymentIntents.trans hr.intents,fun i t ht => ?_⟩
  suffices hw : ∃ t₀, w.transfers.lookup i = some t₀ ∧ SameTerms t t₀ by
    obtain ⟨t₁,ht₁,hterms⟩ := hw
    obtain ⟨t₀,ht₀,hterms₀⟩ := hr.terms i t₁ ht₁
    exact ⟨t₀,ht₀,hterms.trans hterms₀⟩
  cases q with
  | http q =>
    rcases World.perform_http_cases cfg e w q with hw | hw <;> rw [hw] at ht
    · exact ⟨t,ht,.refl t⟩
    · exact serve_terms (fun d hd => by subst hd; exact hq) ht
  | _ =>
    rw [hf.transfers (by simp [Call.writes])] at ht
    exact ⟨t,ht,.refl t⟩

theorem serve_getTransfer_ok {i : TransferId} {t : Transfer}
    (hs : w.serve e (.getTransfer i) = (.ok t,w')) :
    ∃ t₀, w.transfers.lookup i = some t₀ ∧ SameTerms t t₀ := by
  simp only [World.serve,World.getTransfer] at hs
  split at hs
  · cases hs
  · rename_i r hr
    split at hs <;> cases hs
    · exact ⟨r,hr,sameTerms_expire r⟩
    · exact ⟨t,hr,.refl t⟩

/-- A call that does not fail gets a feasible answer. -/
theorem perform_answers (hr : Rooted w₀ w) (hq : findsAsRead w h q)
    (hs : callFails ⟨q,(World.perform cfg e w q).1⟩ = false) :
    Answers w₀ h q (World.perform cfg e w q).1 := by
  refine ⟨hs,?_⟩
  generalize hp : World.perform cfg e w q = r
  obtain ⟨a,w'⟩ := r
  cases q with
  | http q =>
    cases a with
    | ok v =>
      have hserve := World.perform_ok hp
      cases q with
      | getCredits i =>
        obtain ⟨-,b,-,rfl⟩ := World.serve_getCredits_ok hserve
        exact ⟨b,rfl⟩
      | patchCredits i b =>
        simp only [findsAsRead,List.all_eq_true,decide_eq_true_eq] at hq
        intro r hr r' hr'
        exact Option.some.inj ((hq r hr).symm.trans (hq r' hr'))
      | retrievePaymentIntent p =>
        obtain ⟨intent,hintent,rfl⟩ := serve_retrievePaymentIntent_ok hserve
        rw [hr.intents] at hintent
        exact ⟨intent,hintent,rfl⟩
      | getTransfer i =>
        obtain ⟨t₁,ht₁,hterms⟩ := serve_getTransfer_ok hserve
        obtain ⟨t₀,ht₀,hterms₀⟩ := hr.terms i t₁ ht₁
        exact ⟨t₀,ht₀,hterms.trans hterms₀⟩
      | _ => trivial
    | error code => cases q <;> trivial
    | raised => cases q <;> trivial
  | _ => trivial

theorem moved_same (hq : q.writes ≠ some .credits) (a : q.Ans) (u : UserId) :
    (account u (⟨q,a⟩ :: h)).moved = (account u h).moved := by
  rw [account_cons]
  cases q with
  | http q =>
    cases q with
    | patchCredits i b => exact absurd rfl hq
    | getCredits i =>
      cases a <;> simp only [Account.after]
      split <;> rfl
    | createCreditTransaction d =>
      cases a <;> simp only [Account.after]
      split <;> rfl
    | _ => rfl
  | _ => rfl

theorem logged_same (hq : q.writes ≠ some .creditTransactions) (a : q.Ans) (u : UserId) :
    (account u (⟨q,a⟩ :: h)).logged = (account u h).logged := by
  rw [account_cons]
  cases q with
  | http q =>
    cases q with
    | patchCredits i b =>
      cases a <;> simp only [Account.after]
      split <;> rfl
    | getCredits i =>
      cases a <;> simp only [Account.after]
      split <;> rfl
    | createCreditTransaction d => exact absurd rfl hq
    | _ => rfl
  | _ => rfl

theorem writes_credits (hq : q.writes = some .credits) : ∃ i b, q = .http (.patchCredits i b) := by
  cases q with
  | http r => cases r <;> simp_all [Call.writes,Http.writes]
  | _ => simp [Call.writes] at hq

/-- A write that does not fail stores the balance. -/
theorem patchCredits_succeeds {i : UserId} {b : Credits}
    (hs : callFails ⟨.http (.patchCredits i b),
      (World.perform cfg e w (.http (.patchCredits i b))).1⟩ = false) :
    (World.perform cfg e w (.http (.patchCredits i b))).1 = .ok () ∧
      (World.perform cfg e w (.http (.patchCredits i b))).2.credits = w.credits.insert i b := by
  generalize hp : World.perform cfg e w (.http (.patchCredits i b)) = r at hs
  obtain ⟨a,w'⟩ := r
  cases a with
  | ok v =>
    obtain ⟨-,rfl⟩ := World.serve_patchCredits_ok (World.perform_ok hp)
    exact ⟨rfl,rfl⟩
  | error code => simp [callFails,stores,Http.writes] at hs
  | raised => simp [callFails] at hs

/-- The stored balance moves by what the request moves. -/
theorem perform_credits (hq : Sound w₀ req h q) (hf : findsAsRead w h q)
    (hs : callFails ⟨q,(World.perform cfg e w q).1⟩ = false) (u : UserId) :
    (World.perform cfg e w q).2.credits.lookup u = (w.credits.lookup u).map
      (· + ((account u (⟨q,(World.perform cfg e w q).1⟩ :: h)).moved-(account u h).moved)) := by
  by_cases hw : q.writes = some .credits
  · obtain ⟨i,b,rfl⟩ := writes_credits hw
    obtain ⟨hok,hcredits⟩ := patchCredits_succeeds hs
    rw [hok,hcredits,account_write]
    by_cases hu : u = i
    · subst hu
      obtain ⟨r,rs,hreads⟩ := List.exists_cons_of_ne_nil hq.1
      simp only [findsAsRead,List.all_eq_true,decide_eq_true_eq] at hf
      rw [AList.lookup_insert,hf r (by simp [hreads]),hreads,if_pos rfl]
      simp
    · rw [AList.lookup_insert_ne hu,if_neg (Ne.symm hu)]
      simp
  · have hframe : World.Frame q.writes w (World.perform cfg e w q).2 := World.perform_frame q
    rw [hframe.credits hw,moved_same hw]
    simp

/-- The ledger grows by what the request logs. -/
theorem perform_ledger (hs : callFails ⟨q,(World.perform cfg e w q).1⟩ = false) (u : UserId) :
    ledgerSum (World.perform cfg e w q).2 u = ledgerSum w u +
      ((account u (⟨q,(World.perform cfg e w q).1⟩ :: h)).logged-(account u h).logged) := by
  by_cases hw : q.writes = some .creditTransactions
  · obtain ⟨d,rfl⟩ := Transfer.logging_call hw
    generalize hp : World.perform cfg e w (.http (.createCreditTransaction d)) = r at hs ⊢
    obtain ⟨a,w'⟩ := r
    cases a with
    | ok v =>
      have hserve := World.perform_ok hp
      cases hserve
      rw [account_log]
      by_cases hu : d.userId = u
      · simp [ledgerSum,hu,add_comm]
      · simp [ledgerSum,hu]
    | error code => simp [callFails,stores,Http.writes] at hs
    | raised => simp [callFails] at hs
  · have hframe : World.Frame q.writes w (World.perform cfg e w q).2 := World.perform_frame q
    simp only [ledgerSum,hframe.creditTransactions hw,logged_same hw]
    simp

end Effects

end TicketRemaster.Credits
