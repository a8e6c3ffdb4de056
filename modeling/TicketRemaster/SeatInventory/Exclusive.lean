import TicketRemaster.SeatInventory.LiveHolds
set_option autoImplicit false

/-! Holds, releases and sales of one row when their statements interleave: a hold ends by its own
release or by running out, and its token is spent once. -/

namespace TicketRemaster.SeatInventory

open Resumption

variable {ι : Type}

/-- A replacement of the committed row, and the call whose commit made it. -/
structure Change (ι : Type) where
  call : ι
  before : SeatInventory
  after : SeatInventory
  deriving DecidableEq

/-- The database with the changes of the committed row so far, newest first. -/
structure LoggedDb (ι : Type) where
  db : SeatDb ι
  changes : List (Change ι)

/-- A run of calls on one row, with the changes they made. -/
abbrev LoggedRun (ι : Type) := Config ι SeatStore SeatExn SeatReply (LoggedDb ι)

def noteChange (i : ι) (before after : Option SeatInventory) : List (Change ι) :=
  match before, after with
  | some b, some w => if w = b then [] else [⟨i,b,w⟩]
  | _, _ => []

@[simp] theorem noteChange_same (i : ι) (r : Option SeatInventory) : noteChange i r r = [] := by
  cases r <;> simp [noteChange]

def LoggedDb.server (ι : Type) [DecidableEq ι] : Server SeatStore ι SeatEnv (LoggedDb ι) where
  ready s i e q := SeatDb.ready s.db i e q
  serve i e s q :=
    let r := (SeatDb.server ι).serve i e s.db q
    (r.1,⟨r.2,noteChange i s.db.row r.2.row ++ s.changes⟩)

/-- Each change starts from the row that the one before it left; the newest left `row`. -/
def Chained : List (Change ι) → Option SeatInventory → Prop
  | [], _ => True
  | x :: xs, row => row = some x.after ∧ Chained xs (some x.before)

def readingsAfter (l : List Time) : (q : SeatOp) → q.Ans → List Time
  | .now, t => t :: l
  | _, _ => l

/-- The clock readings of a call, one for each attempt, newest first. -/
def clockReadings : List (Entry SeatStore) → List Time
  | [] => []
  | e :: h => readingsAfter (clockReadings h) e.1 e.2

/-- How a call may have made this change, with the clock readings in its history. -/
def Change.MadeBy (x : Change ι) (call : SeatCall) (h : List (Entry SeatStore)) : Prop :=
  match call with
  | .holdSeat req => ∃ now token, now ∈ clockReadings h ∧
      (x.before.status = .available ∨ holdHasExpired x.before now) ∧
      x.after = heldFor x.before req.userId token (now+seconds (holdSeconds req))
  | .releaseSeat req => holdMatches x.before req ∧ x.after = clearHold x.before
  | .sellSeat req => holdMatches x.before req ∧ x.after = markSold x.before
  | .getSeatStatus => False

def SeatCall.isHold : SeatCall → Bool
  | .holdSeat _ => true
  | _ => false

/-- The token that a call spends when it changes the row. -/
def SeatCall.spentToken : SeatCall → Option HoldToken
  | .releaseSeat req => some req.holdToken
  | .sellSeat req => some req.holdToken
  | _ => none

theorem Chained.suffix {xs ys : List (Change ι)} {row : Option SeatInventory}
    (h : Chained (xs ++ ys) row) : ∃ row', Chained ys row' := by
  induction xs generalizing row with
  | nil => exact ⟨row,h⟩
  | cons x xs ih => exact ih h.2

theorem Chained.next {xs older : List (Change ι)} {x a : Change ι} {row : Option SeatInventory}
    (h : Chained (xs ++ x :: a :: older) row) : x.before = a.after := by
  obtain ⟨row',hrow⟩ := h.suffix
  exact Option.some.inj hrow.2.1

theorem clockReadings_cons {h : List (Entry SeatStore)} {t : Time} (ht : t ∈ clockReadings h)
    (e : Entry SeatStore) : t ∈ clockReadings (e :: h) := by
  obtain ⟨q,a⟩ := e
  cases q with
  | now => exact List.mem_cons_of_mem _ ht
  | _ => exact ht

theorem Change.MadeBy.older {x : Change ι} {call : SeatCall} {h : List (Entry SeatStore)}
    (hx : x.MadeBy call h) (e : Entry SeatStore) : x.MadeBy call (e :: h) := by
  cases call with
  | holdSeat req =>
    obtain ⟨now,token,hnow,hfree,hafter⟩ := hx
    exact ⟨now,token,clockReadings_cons hnow e,hfree,hafter⟩
  | releaseSeat req => exact hx
  | sellSeat req => exact hx
  | getSeatStatus => exact hx

/-- Nothing follows a sale. -/
theorem Change.MadeBy.not_sold {x : Change ι} {call : SeatCall} {h : List (Entry SeatStore)}
    (hx : x.MadeBy call h) : x.before.status ≠ .sold := by
  intro hsold
  cases call with
  | holdSeat req =>
    obtain ⟨now,token,-,hfree | hexp,-⟩ := hx
    · simp [hsold] at hfree
    · have hheld := (holdHasExpired_iff.mp hexp).1
      simp [hsold] at hheld
  | releaseSeat req =>
    have hheld := holdMatches_held hx.1
    simp [hsold] at hheld
  | sellSeat req =>
    have hheld := holdMatches_held hx.1
    simp [hsold] at hheld
  | getSeatStatus => exact hx

section Tokens

variable (calls : ι → SeatCall)

def Change.spent (x : Change ι) : Option HoldToken := (calls x.call).spentToken

/-- The row carries the token, or it has been spent. -/
def Taken (s : LoggedDb ι) (t : HoldToken) : Prop :=
  (∃ r, s.db.row = some r ∧ r.holdToken = some t) ∨ ∃ x ∈ s.changes, x.spent calls = some t

/-- Where the tokens are: `drawn i` is the one that call `i` has drawn and not committed. -/
structure TokenInv (s : LoggedDb ι) (drawn : ι → Option HoldToken) : Prop where
  fresh : ∀ i t, drawn i = some t → (∃ n ∈ s.db.issued, t = .uuid n) ∧ ¬Taken calls s t
  apart : ∀ i j t, drawn i = some t → drawn j = some t → i = j
  issued : ∀ n, Taken calls s (.uuid n) → n ∈ s.db.issued
  live : ∀ r t, s.db.row = some r → r.status = .held → r.holdToken = some t →
    ∀ x ∈ s.changes, x.spent calls ≠ some t
  once : s.changes.Pairwise fun x y => ∀ t, x.spent calls = some t → y.spent calls ≠ some t

variable {calls} {s s' : LoggedDb ι} {drawn drawn' : ι → Option HoldToken}

theorem Taken.congr {t : HoldToken} (hrow : s'.db.row = s.db.row)
    (hchanges : s'.changes = s.changes) : Taken calls s' t ↔ Taken calls s t := by
  simp only [Taken,hrow,hchanges]

/-- Calls may forget the token that they have drawn. -/
theorem TokenInv.forget (h : TokenInv calls s drawn) (hrow : s'.db.row = s.db.row)
    (hchanges : s'.changes = s.changes) (hissued : s'.db.issued = s.db.issued)
    (hdrawn : ∀ i t, drawn' i = some t → drawn i = some t) : TokenInv calls s' drawn' where
  fresh i t ht := by
    rw [hissued,Taken.congr hrow hchanges]
    exact h.fresh i t (hdrawn i t ht)
  apart i j t hi hj := h.apart i j t (hdrawn i t hi) (hdrawn j t hj)
  issued n hn := by
    rw [hissued]
    exact h.issued n ((Taken.congr hrow hchanges).mp hn)
  live r t hr := by
    rw [hchanges]
    exact h.live r t (hrow ▸ hr)
  once := hchanges ▸ h.once

variable [DecidableEq ι]

/-- A token drawn for the first time is new to the row, to the changes and to the other calls. -/
theorem TokenInv.draw (h : TokenInv calls s drawn) {i : ι} {n : Nat} (hn : n ∉ s.db.issued)
    (hrow : s'.db.row = s.db.row) (hchanges : s'.changes = s.changes)
    (hissued : s'.db.issued = n :: s.db.issued) :
    TokenInv calls s' (Function.update drawn i (some (.uuid n))) where
  fresh j t ht := by
    rw [hissued,Taken.congr hrow hchanges]
    by_cases hj : j = i
    · subst hj
      obtain rfl : .uuid n = t := by simpa using ht
      exact ⟨⟨n,List.mem_cons_self,rfl⟩,fun htaken => hn (h.issued n htaken)⟩
    · rw [Function.update_of_ne hj] at ht
      obtain ⟨⟨m,hm,rfl⟩,hnew⟩ := h.fresh j t ht
      exact ⟨⟨m,List.mem_cons_of_mem _ hm,rfl⟩,hnew⟩
  apart j k t hj hk := by
    have hother : ∀ l, drawn l = some t → t ≠ .uuid n := by
      rintro l hl rfl
      obtain ⟨m,hm,heq⟩ := (h.fresh l _ hl).1
      exact hn (HoldToken.uuid.inj heq ▸ hm)
    by_cases hji : j = i <;> by_cases hki : k = i
    · rw [hji,hki]
    · subst hji
      rw [Function.update_of_ne hki] at hk
      exact absurd (by simpa using hj.symm) (hother k hk)
    · subst hki
      rw [Function.update_of_ne hji] at hj
      exact absurd (by simpa using hk.symm) (hother j hj)
    · rw [Function.update_of_ne hji] at hj
      rw [Function.update_of_ne hki] at hk
      exact h.apart j k t hj hk
  issued m hm := by
    rw [hissued]
    exact List.mem_cons_of_mem _ (h.issued m ((Taken.congr hrow hchanges).mp hm))
  live r t hr := by
    rw [hchanges]
    exact h.live r t (hrow ▸ hr)
  once := hchanges ▸ h.once

/-- A hold moves the token from the call that has drawn it to the row. -/
theorem TokenInv.hold (h : TokenInv calls s drawn) {i : ι} {x : Change ι} {t : HoldToken}
    (ht : drawn i = some t) (hspent : x.spent calls = none) (htoken : x.after.holdToken = some t)
    (hrow : s'.db.row = some x.after) (hchanges : s'.changes = x :: s.changes)
    (hissued : s'.db.issued = s.db.issued) :
    TokenInv calls s' (Function.update drawn i none) := by
  have htaken : ∀ t', Taken calls s' t' → t' = t ∨ Taken calls s t' := by
    rintro t' (⟨r,hr,hrt⟩ | ⟨y,hy,hyt⟩)
    · obtain rfl := Option.some.inj (hrow.symm.trans hr)
      exact .inl (Option.some.inj (hrt.symm.trans htoken))
    · rw [hchanges,List.mem_cons] at hy
      rcases hy with rfl | hy
      · cases hspent.symm.trans hyt
      · exact .inr (.inr ⟨y,hy,hyt⟩)
  obtain ⟨⟨n,hn,rfl⟩,hnew⟩ := h.fresh i t ht
  constructor
  · intro j t' hj
    by_cases hji : j = i
    · subst hji; simp at hj
    · rw [Function.update_of_ne hji] at hj
      obtain ⟨hm,hnot⟩ := h.fresh j t' hj
      refine ⟨hissued ▸ hm,fun htk => ?_⟩
      rcases htaken t' htk with rfl | htk
      · exact hji (h.apart j i _ hj ht)
      · exact hnot htk
  · intro j k t' hj hk
    by_cases hji : j = i
    · subst hji; simp at hj
    · by_cases hki : k = i
      · subst hki; simp at hk
      · rw [Function.update_of_ne hji] at hj
        rw [Function.update_of_ne hki] at hk
        exact h.apart j k t' hj hk
  · intro m hm
    rw [hissued]
    rcases htaken _ hm with heq | htk
    · exact HoldToken.uuid.inj heq ▸ hn
    · exact h.issued m htk
  · intro r t' hr _ hrt y hy hyt
    obtain rfl := Option.some.inj (hrow.symm.trans hr)
    obtain rfl := Option.some.inj (hrt.symm.trans htoken)
    rw [hchanges,List.mem_cons] at hy
    rcases hy with rfl | hy
    · cases hspent.symm.trans hyt
    · exact hnew (.inr ⟨y,hy,hyt⟩)
  · rw [hchanges]
    refine List.pairwise_cons.mpr ⟨fun y _ t' hxt => ?_,h.once⟩
    cases hspent.symm.trans hxt

/-- A release or a sale takes the token off the row. -/
theorem TokenInv.spend (h : TokenInv calls s drawn) {i : ι} {x : Change ι} {t : HoldToken}
    (hspent : x.spent calls = some t) (hheld : x.before.status = .held)
    (htoken : x.before.holdToken = some t) (hnone : x.after.holdToken = none)
    (hbefore : s.db.row = some x.before) (hrow : s'.db.row = some x.after)
    (hchanges : s'.changes = x :: s.changes) (hissued : s'.db.issued = s.db.issued) :
    TokenInv calls s' (Function.update drawn i none) := by
  have htaken : ∀ t', Taken calls s' t' → Taken calls s t' := by
    rintro t' (⟨r,hr,hrt⟩ | ⟨y,hy,hyt⟩)
    · obtain rfl := Option.some.inj (hrow.symm.trans hr)
      cases hnone.symm.trans hrt
    · rw [hchanges,List.mem_cons] at hy
      rcases hy with rfl | hy
      · obtain rfl := Option.some.inj (hspent.symm.trans hyt)
        exact .inl ⟨y.before,hbefore,htoken⟩
      · exact .inr ⟨y,hy,hyt⟩
  have hdrawn : ∀ j t', Function.update drawn i none j = some t' → drawn j = some t' := by
    intro j t' hj
    by_cases hji : j = i
    · subst hji; simp at hj
    · rwa [Function.update_of_ne hji] at hj
  constructor
  · intro j t' hj
    obtain ⟨hm,hnot⟩ := h.fresh j t' (hdrawn j t' hj)
    exact ⟨hissued ▸ hm,fun htk => hnot (htaken t' htk)⟩
  · intro j k t' hj hk
    exact h.apart j k t' (hdrawn j t' hj) (hdrawn k t' hk)
  · intro m hm
    exact hissued ▸ h.issued m (htaken _ hm)
  · intro r t' hr _ hrt
    obtain rfl := Option.some.inj (hrow.symm.trans hr)
    cases hnone.symm.trans hrt
  · rw [hchanges]
    refine List.pairwise_cons.mpr ⟨fun y hy t' hxt hyt => ?_,h.once⟩
    obtain rfl := Option.some.inj (hspent.symm.trans hxt)
    exact h.live _ _ hbefore hheld htoken y hy hyt

end Tokens

theorem lastNow_mem {h : List (Entry SeatStore)} {t : Time} (ht : lastNow h = some t) :
    t ∈ clockReadings h := by
  induction h with
  | nil => cases ht
  | cons e h ih =>
    obtain ⟨q,a⟩ := e
    cases q with
    | now => cases ht; exact List.mem_cons_self
    | _ => exact clockReadings_cons (ih ht) _

theorem Commits.made {call : SeatCall} {h : List (Entry SeatStore)} {x : Change ι}
    (hc : Commits call h x.before x.after) : x.MadeBy call h := by
  cases call with
  | holdSeat req =>
    obtain ⟨now,token,hnow,-,hfree,hafter⟩ := hc
    exact ⟨now,token,lastNow_mem hnow,hfree,hafter⟩
  | releaseSeat req => exact hc
  | sellSeat req => exact hc
  | getSeatStatus => exact hc

/-- What holds between the row, its changes and the histories of the calls. -/
structure Exclusive (calls : ι → SeatCall) (s : LoggedDb ι) (past : ι → List (Entry SeatStore)) :
    Prop where
  row : RowInv s.db past
  sighted : ∀ i, txView (past i) ≠ .blind
  chained : Chained s.changes s.db.row
  made : ∀ x ∈ s.changes, x.MadeBy (calls x.call) (past x.call)
  logged : ∀ i b w, (b,w) ∈ published (past i) → ⟨i,b,w⟩ ∈ s.changes
  tokens : TokenInv calls s fun i => drawnToken (past i)

/-- Only `GetSeatStatus` updates the row without having locked it. -/
theorem sighted_after {call : SeatCall} (hcall : call ≠ .getSeatStatus)
    {h : List (Entry SeatStore)} {q : SeatOp} (hok : Exact call h q) (hv : txView h ≠ .blind)
    (a : q.Ans) : txView (⟨q,a⟩ :: h) ≠ .blind := by
  cases q with
  | update c =>
    obtain ⟨b,w,hview⟩ := hok.resolve_left hcall
    cases a <;> simp [TxView.after,hview]
  | selectForUpdate => rcases a with e | _ | r <;> simp [TxView.after,hv]
  | select => cases a <;> simp [TxView.after,hv]
  | updateAvailable userId holdToken heldUntil =>
    obtain ⟨b,w,hview⟩ := hok
    cases a <;> simp [TxView.after,hview]
  | commit => simp [TxView.after]
  | rollback => simp [TxView.after]
  | _ => simpa [TxView.after] using hv

section Steps

variable [DecidableEq ι] {calls : ι → SeatCall} {s : LoggedDb ι}
  {past : ι → List (Entry SeatStore)} {i : ι} {e : SeatEnv} {q : SeatOp}

/-- A statement other than a commit leaves the row, so no change is noted. -/
theorem serve_row (hready : SeatDb.ready s.db i e q) (hq : q ≠ .commit) :
    ((LoggedDb.server ι).serve i e s q).2.db.row = s.db.row ∧
      ((LoggedDb.server ι).serve i e s q).2.changes = s.changes := by
  have hrow : (SeatDb.perform i e { s.db with clock := e.time } q).2.row = s.db.row :=
    (perform_row (ready_at_time hready)).resolve_right fun h => hq h.1
  refine ⟨hrow,?_⟩
  simp only [LoggedDb.server,server_serve,hrow,noteChange_same,List.nil_append]

theorem published_after {h : List (Entry SeatStore)} (hq : q ≠ .commit) (a : q.Ans) :
    published (⟨q,a⟩ :: h) = published h := by
  cases q with
  | commit => exact absurd rfl hq
  | _ => rfl

theorem drawn_after {h : List (Entry SeatStore)} (hq : q ≠ .uuid4) (a : q.Ans) {t : HoldToken}
    (ht : drawnToken (⟨q,a⟩ :: h) = some t) : drawnToken h = some t := by
  cases q with
  | uuid4 => exact absurd rfl hq
  | commit => cases ht
  | _ => exact ht

theorem drawn_update (q : SeatOp) (a : q.Ans) :
    (fun j => drawnToken (Function.update past i (⟨q,a⟩ :: past i) j)) =
      Function.update (fun j => drawnToken (past j)) i (tokenAfter (drawnToken (past i)) q a) := by
  funext j
  by_cases hj : j = i
  · subst hj; simp
  · simp [hj]

/-- A call that has the lock on a row puts its version in the place of it when it commits. -/
theorem perform_commit {db : SeatDb ι} (hfault : e.fault = none) {w : SeatInventory}
    (hlock : db.lock = some (i,w)) :
    SeatDb.perform i e db .commit = (.ok (),{ db with row := some w, lock := none }) := by
  simp [SeatDb.perform,SeatDb.statement,SeatDb.publish,hfault,hlock]

/-- Every commit of a version puts another row in the place of the locked one. -/
theorem Commits.changes {call : SeatCall} {h : List (Entry SeatStore)} {b w : SeatInventory}
    (hc : Commits call h b w) (hnew : ∀ t, drawnToken h = some t → b.holdToken ≠ some t) :
    w ≠ b := by
  rintro rfl
  cases call with
  | holdSeat req =>
    obtain ⟨now,token,-,htoken,-,hw⟩ := hc
    exact hnew token htoken (congrArg SeatInventory.holdToken hw)
  | releaseSeat req =>
    have hfree := congrArg SeatInventory.status hc.2
    simp [holdMatches_held hc.1,clearHold] at hfree
  | sellSeat req =>
    have hsold := congrArg SeatInventory.status hc.2
    simp [holdMatches_held hc.1,markSold] at hsold
  | getSeatStatus => exact hc

/-- A commit moves the token of the change from the call to the row, or takes it off the row. -/
theorem TokenInv.commit {drawn : ι → Option HoldToken} (h : TokenInv calls s drawn)
    {b w : SeatInventory} (hc : Commits (calls i) (past i) b w)
    (hdrawn : drawn i = drawnToken (past i)) (hbefore : s.db.row = some b) {s' : LoggedDb ι}
    (hrow : s'.db.row = some w) (hchanges : s'.changes = ⟨i,b,w⟩ :: s.changes)
    (hissued : s'.db.issued = s.db.issued) :
    TokenInv calls s' (Function.update drawn i none) := by
  cases hcall : calls i with
  | holdSeat req =>
    rw [hcall] at hc
    obtain ⟨now,token,-,htoken,-,rfl⟩ := hc
    exact h.hold (hdrawn.trans htoken) (by simp [Change.spent,hcall,SeatCall.spentToken]) rfl hrow
      hchanges hissued
  | releaseSeat req =>
    rw [hcall] at hc
    obtain ⟨hm,rfl⟩ := hc
    exact h.spend (by simp [Change.spent,hcall,SeatCall.spentToken]) (holdMatches_held hm)
      (holdMatches_iff.mp hm).2.2 rfl hbefore hrow hchanges hissued
  | sellSeat req =>
    rw [hcall] at hc
    obtain ⟨hm,rfl⟩ := hc
    exact h.spend (by simp [Change.spent,hcall,SeatCall.spentToken]) (holdMatches_held hm)
      (holdMatches_iff.mp hm).2.2 rfl hbefore hrow hchanges hissued
  | getSeatStatus =>
    rw [hcall] at hc
    exact hc.elim

theorem made_later {x : Change ι} (hx : x.MadeBy (calls x.call) (past x.call))
    (entry : Entry SeatStore) :
    x.MadeBy (calls x.call) (Function.update past i (entry :: past i) x.call) := by
  by_cases hi : x.call = i
  · rw [hi,Function.update_self]
    exact (hi ▸ hx).older entry
  · rwa [Function.update_of_ne hi]

/-- A step that leaves the row and publishes nothing. -/
theorem Exclusive.quiet (h : Exclusive calls s past) {s' : LoggedDb ι} {entry : Entry SeatStore}
    (hinv : RowInv s'.db (Function.update past i (entry :: past i)))
    (hsighted : txView (entry :: past i) ≠ .blind) (hrow : s'.db.row = s.db.row)
    (hchanges : s'.changes = s.changes) (hpub : published (entry :: past i) = published (past i))
    (htokens : TokenInv calls s'
      fun j => drawnToken (Function.update past i (entry :: past i) j)) :
    Exclusive calls s' (Function.update past i (entry :: past i)) where
  row := hinv
  sighted j := by
    by_cases hj : j = i
    · subst hj; rwa [Function.update_self]
    · rw [Function.update_of_ne hj]; exact h.sighted j
  chained := by rw [hchanges,hrow]; exact h.chained
  made x hx := made_later (h.made x (hchanges ▸ hx)) entry
  logged j b w hbw := by
    rw [hchanges]
    by_cases hj : j = i
    · subst hj
      rw [Function.update_self,hpub] at hbw
      exact h.logged _ b w hbw
    · rw [Function.update_of_ne hj] at hbw
      exact h.logged j b w hbw
  tokens := htokens

/-- A commit that publishes the version of the locked row. -/
theorem Exclusive.publish (h : Exclusive calls s past) {b w : SeatInventory}
    (hview : txView (past i) = .own b w) (hc : Commits (calls i) (past i) b w) {s' : LoggedDb ι}
    (hinv : RowInv s'.db (Function.update past i (⟨.commit,.ok ()⟩ :: past i)))
    (hrow : s'.db.row = some w) (hchanges : s'.changes = ⟨i,b,w⟩ :: s.changes)
    (hissued : s'.db.issued = s.db.issued) :
    Exclusive calls s' (Function.update past i (⟨.commit,.ok ()⟩ :: past i)) := by
  have hbefore : s.db.row = some b := by
    have hv := h.row.view i
    rw [hview] at hv
    exact hv.2
  refine ⟨hinv,fun j => ?_,?_,fun x hx => ?_,fun j b' w' hbw => ?_,?_⟩
  · by_cases hj : j = i
    · subst hj; rw [Function.update_self]; simp [TxView.after]
    · rw [Function.update_of_ne hj]; exact h.sighted j
  · rw [hchanges,hrow]
    exact ⟨rfl,hbefore ▸ h.chained⟩
  · rw [hchanges,List.mem_cons] at hx
    rcases hx with rfl | hx
    · exact made_later (x := ⟨i,b,w⟩) hc.made _
    · exact made_later (h.made x hx) _
  · rw [hchanges,List.mem_cons]
    by_cases hj : j = i
    · subst hj
      rw [Function.update_self,published_cons,hview] at hbw
      rcases List.mem_cons.mp hbw with heq | hbw
      · cases heq; exact .inl rfl
      · exact .inr (h.logged _ b' w' hbw)
    · rw [Function.update_of_ne hj] at hbw
      exact .inr (h.logged j b' w' hbw)
  · rw [drawn_update]
    exact h.tokens.commit hc rfl hbefore hrow hchanges hissued

/-- A commit that fails, or has nothing to publish, leaves the row and gives up the token. -/
theorem Exclusive.commitsNothing (h : Exclusive calls s past) {a : Except DbError Unit}
    {s' : LoggedDb ι} (hinv : RowInv s'.db (Function.update past i (⟨.commit,a⟩ :: past i)))
    (hrow : s'.db.row = s.db.row) (hchanges : s'.changes = s.changes)
    (hpub : published (⟨.commit,a⟩ :: past i) = published (past i))
    (hissued : s'.db.issued = s.db.issued) :
    Exclusive calls s' (Function.update past i (⟨.commit,a⟩ :: past i)) := by
  refine h.quiet hinv (by simp [TxView.after]) hrow hchanges hpub ?_
  rw [drawn_update]
  refine h.tokens.forget hrow hchanges hissued fun j t ht => ?_
  by_cases hj : j = i
  · subst hj; simp [tokenAfter] at ht
  · rwa [Function.update_of_ne hj] at ht

theorem exclusive_commit (h : Exclusive calls s past) (hready : SeatDb.ready s.db i e .commit)
    (hok : Exact (calls i) (past i) .commit)
    (hinv : RowInv ((LoggedDb.server ι).serve i e s .commit).2.db (Function.update past i
      (⟨.commit,((LoggedDb.server ι).serve i e s .commit).1⟩ :: past i))) :
    Exclusive calls ((LoggedDb.server ι).serve i e s .commit).2 (Function.update past i
      (⟨.commit,((LoggedDb.server ι).serve i e s .commit).1⟩ :: past i)) := by
  have hissued : ((LoggedDb.server ι).serve i e s .commit).2.db.issued = s.db.issued :=
    perform_issued _ (by simp)
  have hstill : ((LoggedDb.server ι).serve i e s .commit).2.db.row = s.db.row →
      ((LoggedDb.server ι).serve i e s .commit).2.changes = s.changes := by
    intro hrow
    change noteChange i s.db.row ((LoggedDb.server ι).serve i e s .commit).2.db.row ++ s.changes = _
    rw [hrow,noteChange_same,List.nil_append]
  have hview := h.row.view i
  cases hv : txView (past i) with
  | blind => exact absurd hv (h.sighted i)
  | idle =>
    rw [hv] at hview
    have hrow : ((LoggedDb.server ι).serve i e s .commit).2.db.row = s.db.row := by
      refine (perform_row (ready_at_time hready)).resolve_right ?_
      rintro ⟨-,w,hlock,-⟩
      exact hview w hlock
    refine h.commitsNothing hinv hrow (hstill hrow) ?_ hissued
    cases hans : ((LoggedDb.server ι).serve i e s .commit).1 <;> simp [publishedAfter,hv]
  | own b w =>
    rw [hv] at hview
    cases hfault : e.fault with
    | some err =>
      have hrow : ((LoggedDb.server ι).serve i e s .commit).2.db.row = s.db.row := by
        simp [LoggedDb.server,SeatDb.perform,SeatDb.statement,hfault,SeatDb.release_row]
      refine h.commitsNothing hinv hrow (hstill hrow) ?_ hissued
      simp [LoggedDb.server,SeatDb.perform,SeatDb.statement,hfault,publishedAfter]
    | none =>
      have hc := hok b w hv
      have hserve : (SeatDb.server ι).serve i e s.db .commit =
          (.ok (),{ s.db with clock := e.time, row := some w, lock := none }) := by
        rw [server_serve]
        exact perform_commit hfault hview.1
      have hne : w ≠ b := hc.changes fun t ht hb =>
        (h.tokens.fresh i t ht).2 (.inl ⟨b,hview.2,hb⟩)
      have hchanges : ((LoggedDb.server ι).serve i e s .commit).2.changes =
          ⟨i,b,w⟩ :: s.changes := by
        simp [LoggedDb.server,SeatDb.perform,SeatDb.statement,SeatDb.publish,hfault,hview.1,
          hview.2,noteChange,hne]
      have hans : ((LoggedDb.server ι).serve i e s .commit).1 = .ok () := congrArg Prod.fst hserve
      rw [hans] at hinv ⊢
      exact h.publish hv hc hinv (congrArg (fun r => r.2.row) hserve) hchanges hissued

theorem exclusive_kept (hcalls : ∀ i, calls i ≠ .getSeatStatus) :
    Keeps (LoggedDb.server ι) Config.anyStep (fun i => Exact (calls i)) (fun _ => anyAnswer)
      (Exclusive calls) := by
  intro s past i e q h hready _ hok
  have hlocked : FlushesReclaimable s.db past i e q := by
    intro hupdate hnone
    cases q with
    | update c =>
      obtain ⟨b,w,hview⟩ := hok.resolve_left (hcalls i)
      have hv := h.row.view i
      rw [hview] at hv
      cases hv.1.symm.trans hnone
    | _ => cases hupdate
  obtain ⟨-,hinv⟩ := rowInv_kept calls s.db past i e q h.row hready hlocked hok.allowed
  refine ⟨trivial,?_⟩
  have hsighted := sighted_after (hcalls i) hok (h.sighted i)
  by_cases hq : q = .commit
  · subst hq
    exact exclusive_commit h hready hok hinv
  · obtain ⟨hrow,hchanges⟩ := serve_row hready hq
    refine h.quiet hinv (hsighted _) hrow hchanges (published_after hq _) ?_
    rw [drawn_update]
    by_cases hu : q = .uuid4
    · subst hu
      have hnew : e.uuid ∉ s.db.issued := by
        simp only [LoggedDb.server,SeatDb.ready,Bool.and_eq_true,decide_eq_true_eq] at hready
        exact hready.2
      exact h.tokens.draw hnew hrow hchanges rfl
    · refine h.tokens.forget hrow hchanges (perform_issued _ hu) fun j t ht => ?_
      by_cases hj : j = i
      · subst hj
        rw [Function.update_self] at ht
        exact drawn_after hu _ ht
      · rwa [Function.update_of_ne hj] at ht

end Steps

section Runs

variable {calls : ι → SeatCall}

/-- A call that spends the token: a release that changes the row, or a successful sale. -/
def Spends (calls : ι → SeatCall) (c : LoggedRun ι) (token : HoldToken) (i : ι) : Prop :=
  (∃ req, calls i = .releaseSeat req ∧ req.holdToken = token ∧
    ∃ x ∈ c.shared.changes, x.call = i) ∨
  (∃ req, calls i = .sellSeat req ∧ req.holdToken = token ∧ c.result i = some (.spend true))

/-- Nothing changes the row after a sale. -/
theorem sale_last {newer older : List (Change ι)} {x : Change ι} {row : Option SeatInventory}
    {h : ι → List (Entry SeatStore)} (hchain : Chained (newer ++ x :: older) row)
    (hmade : ∀ y ∈ newer, y.MadeBy (calls y.call) (h y.call)) (hsold : x.after.status = .sold) :
    newer = [] := by
  rcases List.eq_nil_or_concat newer with hnil | ⟨first,y,rfl⟩
  · exact hnil
  · simp only [List.concat_eq_append,List.append_assoc,List.cons_append,List.nil_append] at hchain
    have hbefore := hchain.next
    exact absurd (hbefore ▸ hsold) (hmade y (by simp)).not_sold

/-- What ends a hold: its release, or a new hold made after it had run out. -/
theorem hold_ended {newer between older : List (Change ι)} {a b : Change ι}
    {row : Option SeatInventory} {h : ι → List (Entry SeatStore)}
    (hchain : Chained (newer ++ b :: (between ++ a :: older)) row)
    (hmade : ∀ x ∈ newer ++ b :: (between ++ a :: older), x.MadeBy (calls x.call) (h x.call))
    {ra rb : HoldSeatRequest} (ha : calls a.call = .holdSeat ra) (hb : calls b.call = .holdSeat rb)
    (hnone : ∀ x ∈ between, (calls x.call).isHold = false) :
    (∃ x ∈ between, ∃ req, calls x.call = .releaseSeat req ∧
      a.after.heldByUserId = some req.userId ∧ a.after.holdToken = some req.holdToken) ∨
    ∃ now ∈ clockReadings (h b.call),
      b.after.heldUntil = some (now+seconds (holdSeconds rb)) ∧
      ∃ u, a.after.heldUntil = some u ∧ u ≤ now := by
  have hmadeA := hmade a (by simp)
  rw [ha] at hmadeA
  obtain ⟨nowA,token,-,-,hafter⟩ := hmadeA
  rcases List.eq_nil_or_concat between with rfl | ⟨rest,x,rfl⟩
  -- the second hold is the first change after the first one
  · right
    have hbefore : b.before = a.after := hchain.next
    have hmadeB := hmade b (by simp)
    rw [hb] at hmadeB
    obtain ⟨now,_,hnow,hfree | hexp,hafterB⟩ := hmadeB
    · rw [hbefore,hafter] at hfree
      cases hfree
    · obtain ⟨-,u,hu,hle⟩ := holdHasExpired_iff.mp hexp
      exact ⟨now,hnow,by rw [hafterB]; rfl,u,hbefore ▸ hu,hle⟩
  · left
    simp only [List.concat_eq_append,List.append_assoc,List.cons_append,List.nil_append] at *
    have hsplit : newer ++ b :: (rest ++ x :: a :: older) =
        (newer ++ b :: rest) ++ x :: a :: older := by simp
    rw [hsplit] at hchain hmade
    have hbefore : x.before = a.after := hchain.next
    have hmadeX := hmade x (by simp)
    cases hx : calls x.call with
    | holdSeat req =>
      have hno := hnone x (by simp)
      rw [hx] at hno
      cases hno
    | releaseSeat req =>
      rw [hx] at hmadeX
      obtain ⟨-,huser,htoken⟩ := holdMatches_iff.mp (hbefore ▸ hmadeX.1)
      exact ⟨x,by simp,req,hx,huser,htoken⟩
    | sellSeat req =>
      rw [hx] at hmadeX
      have hsold : x.after.status = .sold := by rw [hmadeX.2]; rfl
      have hlast := sale_last hchain (fun y hy => hmade y (List.mem_append_left _ hy)) hsold
      simp at hlast
    | getSeatStatus =>
      rw [hx] at hmadeX
      exact hmadeX.elim

/-- The hold, if a successful answer reports one, is among the changes. -/
def HoldLogged (changes : List (Change ι)) (i : ι) (r : HoldSeatResponse) : Prop :=
  r.success → ∃ x ∈ changes, x.call = i ∧ x.after.holdToken = some r.holdToken ∧
    x.after.heldUntil = r.heldUntil

theorem Exclusive.spends {c : LoggedRun ι}
    (hc : c.Disciplined (fun i => Exact (calls i)) (fun _ => anyAnswer)
      (fun i => Ends (Reported (calls i))) (fun _ => Closed) (Exclusive calls))
    {token : HoldToken} {i : ι} (h : Spends calls c token i) :
    ∃ x ∈ c.shared.changes, x.call = i ∧ x.spent calls = some token := by
  rcases h with ⟨req,hcall,rfl,x,hx,rfl⟩ | ⟨req,hcall,rfl,hres⟩
  · exact ⟨x,hx,rfl,by simp [Change.spent,hcall,SeatCall.spentToken]⟩
  · obtain ⟨-,hrep⟩ := hc.result hres
    rw [hcall] at hrep
    obtain ⟨b,hb⟩ := hrep rfl
    exact ⟨_,hc.1.logged i b _ hb,rfl,by simp [Change.spent,hcall,SeatCall.spentToken]⟩

theorem exclusive_start (cfg : SeatConfig) (calls : ι → SeatCall) {db : SeatDb ι}
    (hlock : db.lock = none)
    (hfresh : ∀ r n, db.row = some r → r.holdToken = some (.uuid n) → n ∈ db.issued) :
    (Config.start (⟨db,[]⟩ : LoggedDb ι) (fun i => (calls i).prog cfg)).Disciplined
      (fun i => Exact (calls i)) (fun _ => anyAnswer) (fun i => Ends (Reported (calls i)))
      (fun _ => Closed) (Exclusive calls) := by
  refine Config.disciplined_start ⟨?_,?_,trivial,?_,?_,?_⟩ (fun i => prog_exact cfg (calls i))
  · exact ⟨fun i w => by simp [hlock],fun i t ht => by cases ht⟩
  · intro i hv; cases hv
  · intro x hx; cases hx
  · intro i b w hbw; cases hbw
  · refine ⟨fun i t ht => (by cases ht),fun i j t ht => (by cases ht),?_,?_,List.Pairwise.nil⟩
    · rintro n (⟨r,hr,hn⟩ | ⟨x,hx,-⟩)
      · exact hfresh r n hr hn
      · cases hx
    · intro r t _ _ _ x hx; cases hx

variable [DecidableEq ι]

/-- Between a hold and the next one, the first has been released by its user, or has run out by
the clock reading that the second one's deadline is computed from. -/
def HoldsExclusive (calls : ι → SeatCall) (c : LoggedRun ι) : Prop :=
  ∀ newer b between a older, c.shared.changes = newer ++ b :: (between ++ a :: older) →
    ∀ ra rb, calls a.call = .holdSeat ra → calls b.call = .holdSeat rb →
    (∀ x ∈ between, (calls x.call).isHold = false) →
    (∃ x ∈ between, ∃ req, calls x.call = .releaseSeat req ∧
      a.after.heldByUserId = some req.userId ∧ a.after.holdToken = some req.holdToken) ∨
    ∃ now ∈ clockReadings (c.past b.call),
      b.after.heldUntil = some (now+seconds (holdSeconds rb)) ∧
      ∃ u, a.after.heldUntil = some u ∧ u ≤ now

/-- Each hold ends before the next one, no token is spent by two calls, and every successful
`HoldSeat` has made its change. -/
theorem holds_exclusive (cfg : SeatConfig) (calls : ι → SeatCall)
    (hcalls : ∀ i, calls i ≠ .getSeatStatus) (db₀ : SeatDb ι) (hlock : db₀.lock = none)
    (hfresh : ∀ r n, db₀.row = some r → r.holdToken = some (.uuid n) → n ∈ db₀.issued)
    {c : LoggedRun ι} (hc : Config.Reach (LoggedDb.server ι) Config.anyStep
      (.start ⟨db₀,[]⟩ (fun i => (calls i).prog cfg)) c) :
    HoldsExclusive calls c ∧
    (∀ token i j, Spends calls c token i → Spends calls c token j → i = j) ∧
    ∀ i r, c.result i = some (.hold r) → HoldLogged c.shared.changes i r := by
  have hcD := (exclusive_start cfg calls hlock hfresh).reach (exclusive_kept hcalls) hc
  refine ⟨?_,?_,?_⟩
  · intro newer b between a older hchanges ra rb ha hb hnone
    have hchain := hcD.1.chained
    have hmade := hcD.1.made
    rw [hchanges] at hchain hmade
    exact hold_ended hchain hmade ha hb hnone
  · intro token i j hi hj
    obtain ⟨x,hx,rfl,hxt⟩ := Exclusive.spends hcD hi
    obtain ⟨y,hy,rfl,hyt⟩ := Exclusive.spends hcD hj
    by_contra hne
    have hsymm : Std.Symm fun x y : Change ι =>
        ∀ t, x.spent calls = some t → y.spent calls ≠ some t :=
      ⟨fun u v huv t hv hu => huv t hu hv⟩
    exact hcD.1.tokens.once.forall hx hy (fun h => hne (h ▸ rfl)) token hxt hyt
  · intro i r hres hsuccess
    obtain ⟨-,hrep⟩ := hcD.result hres
    cases hcall : calls i with
    | holdSeat req =>
      rw [hcall] at hrep
      obtain ⟨b,userId,heldUntil,hb,huntil⟩ := hrep hsuccess
      exact ⟨_,hcD.1.logged i b _ hb,rfl,rfl,huntil.symm⟩
    | _ => rw [hcall] at hrep; exact hrep.elim

end Runs

/-- Two holds of one second, a third that reclaims the first, and the release of the third. -/
def stalledCalls : Fin 4 → SeatCall
  | 0 => .holdSeat ⟨7,1⟩
  | 1 => .holdSeat ⟨8,1⟩
  | 2 => .holdSeat ⟨9,1⟩
  | 3 => .releaseSeat ⟨9,.uuid 2⟩

def stalledRow : SeatInventory := ⟨1,1,.available,none,none,none⟩

def stalledDb : SeatDb (Fin 4) where
  row := some stalledRow
  lock := none
  clock := 0
  issued := []
  cache := none
  idempotent := ∅

def stalledStart : LoggedRun (Fin 4) :=
  .start ⟨stalledDb,[]⟩ (fun i => (stalledCalls i).prog ⟨3,3,false⟩)

/-- Participant `i` makes `n` statements at time `t`, drawing its own number as a token. -/
def callsOf (i : Fin 4) (t : Time) (n : Nat) : List (Fin 4 × SeatEnv) :=
  List.replicate n (i,⟨t,i,false,none⟩)

/-- The second hold reads the clock while the first is live, and locks the row much later. -/
def stalledEnd : LoggedRun (Fin 4) :=
  stalledStart.schedule (LoggedDb.server _) (fun _ _ _ _ _ => true)
    (callsOf 0 0 7 ++ callsOf 1 500000 2 ++ callsOf 2 (seconds 1) 9 ++ callsOf 3 (seconds 1) 7 ++
      callsOf 1 (seconds 1) 5)

theorem stalledEnd_reach : Config.Reach (LoggedDb.server _) Config.anyStep stalledStart
    stalledEnd := Config.reach_schedule (fun _ _ _ _ _ _ => trivial) _ _

theorem holds_exclusive_stalled : stalledEnd.shared.changes.map (·.call) = [1,3,2,0] ∧
    HoldsExclusive stalledCalls stalledEnd ∧
    (∀ token i j, Spends stalledCalls stalledEnd token i → Spends stalledCalls stalledEnd token j →
      i = j) ∧
    ∀ i r, stalledEnd.result i = some (.hold r) → HoldLogged stalledEnd.shared.changes i r :=
  ⟨rfl,holds_exclusive ⟨3,3,false⟩ stalledCalls (by decide) stalledDb rfl
    (fun r n hr hn => by cases hr; cases hn) stalledEnd_reach⟩

/-- The second hold follows the first without a release of it and with a clock reading at which
it was live: the third one, in between, had reclaimed the seat. -/
theorem stalled_hold_succeeds : ∃ (c : LoggedRun (Fin 4)) (a b : Change (Fin 4)) (between : _),
    Config.Reach (LoggedDb.server _) Config.anyStep stalledStart c ∧
    c.shared.changes = b :: (between ++ [a]) ∧
    (∃ r, c.result a.call = some (.hold r) ∧ r.success) ∧
    (∃ r, c.result b.call = some (.hold r) ∧ r.success) ∧
    (∀ x ∈ between, ∀ req, stalledCalls x.call = .releaseSeat req →
      a.after.holdToken ≠ some req.holdToken) ∧
    ∀ now ∈ clockReadings (c.past b.call), ∃ u, a.after.heldUntil = some u ∧ now < u := by
  have hreadings : clockReadings (stalledEnd.past 1) = [500000] := rfl
  refine ⟨stalledEnd,⟨0,stalledRow,heldFor stalledRow 7 (.uuid 0) (seconds 1)⟩,
    ⟨1,stalledRow,heldFor stalledRow 8 (.uuid 1) 1500000⟩,
    [⟨3,heldFor stalledRow 9 (.uuid 2) (seconds 2),stalledRow⟩,
      ⟨2,heldFor stalledRow 7 (.uuid 0) (seconds 1),heldFor stalledRow 9 (.uuid 2) (seconds 2)⟩],
    stalledEnd_reach,rfl,⟨_,rfl,rfl⟩,⟨_,rfl,rfl⟩,?_,?_⟩
  · intro x hx req hreq
    simp only [List.mem_cons,List.not_mem_nil,or_false] at hx
    rcases hx with rfl | rfl
    · cases hreq; decide
    · cases hreq
  · rw [hreadings]
    intro now hnow
    obtain rfl := List.mem_singleton.mp hnow
    exact ⟨seconds 1,rfl,by decide⟩

end TicketRemaster.SeatInventory
