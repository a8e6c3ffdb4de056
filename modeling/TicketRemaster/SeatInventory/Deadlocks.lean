import TicketRemaster.SeatInventory.Exclusive
import TicketRemaster.SeatInventory.RowState
set_option autoImplicit false

/-! The retries of `HoldSeat`: what each attempt met, and what the caller gets for the last one. -/

namespace TicketRemaster.SeatInventory

open Resumption

variable {ι : Type}

section Attempts

def dbErrorOf : (q : SeatOp) → q.Ans → Option DbError
  | .selectForUpdate, .error e => some e
  | .select, .error e => some e
  | .update _, .error e => some e
  | .updateAvailable _ _ _, .error e => some e
  | .commit, .error e => some e
  | _, _ => none

def lockedRowOf : (q : SeatOp) → q.Ans → Option SeatInventory
  | .selectForUpdate, .ok row => row
  | _, _ => none

def rereadRowOf : (q : SeatOp) → q.Ans → Option SeatInventory
  | .select, .ok row => row
  | _, _ => none

/-- The database error among these statements, if any. -/
def dbError (h : List (Entry SeatStore)) : Option DbError := h.findSome? fun x => dbErrorOf x.1 x.2

def lockedRow (h : List (Entry SeatStore)) : Option SeatInventory :=
  h.findSome? fun x => lockedRowOf x.1 x.2

def rereadRow (h : List (Entry SeatStore)) : Option SeatInventory :=
  h.findSome? fun x => rereadRowOf x.1 x.2

/-- The attempts of a call, newest first. Each begins with a reading of the clock. -/
def attemptsOf : List (Entry SeatStore) → List (List (Entry SeatStore))
  | [] => []
  | x :: h =>
      if x.1 = .now then [x] :: attemptsOf h
      else match attemptsOf h with
        | [] => [[x]]
        | a :: earlier => (x :: a) :: earlier

/-- The refusal after the row was locked, and read once more if it was there. -/
def refusal : (locked reread : Option SeatInventory) → HoldSeatResponse
  | none, _ => .failed (.other "not_found") none "INVENTORY_NOT_FOUND"
  | some _, some latest => .failed latest.status latest.heldUntil "SEAT_NOT_AVAILABLE"
  | some _, none => .failed (.other "not_found") none "SEAT_NOT_AVAILABLE"

/-- The response that goes with what an attempt met. -/
def attemptAnswer (a : List (Entry SeatStore)) : HoldSeatResponse :=
  match dbError a, published a with
  | some .deadlock, _ => .failed (.other "error") none "DEADLOCK_FAILED"
  | some .operational, _ => .failed (.other "error") none "DATABASE_ERROR"
  | some .other, _ => .failed (.other "error") none "INTERNAL_ERROR"
  | none, (_,w) :: _ => ⟨true,w.status,w.heldUntil,"",w.holdToken.getD .empty⟩
  | none, [] => refusal (lockedRow a) (rereadRow a)

variable [DecidableEq ι]

def changesOf (c : LoggedRun ι) (i : ι) : List (Change ι) :=
  c.shared.changes.filter fun x => x.call = i

/-- The caller gets the response for the last attempt. All attempts before it have ended in a
deadlock, and it may have done so too only if there were `max` of them. The call has committed one
hold at most, the one that it reports, and none if it gave up. -/
structure SurvivesDeadlocks (max : Nat) (c : LoggedRun ι) (i : ι)
    (last : List (Entry SeatStore)) (earlier : List (List (Entry SeatStore))) : Prop where
  attempts : attemptsOf (c.past i) = last :: earlier
  deadlocks : ∀ a ∈ earlier, dbError a = some .deadlock
  gaveUp : dbError last = some .deadlock → earlier.length+1 = max ∧ changesOf c i = []
  answered : c.result i = some (.hold (attemptAnswer last))
  oneHold : (changesOf c i).length ≤ 1
  committed : (attemptAnswer last).success → ∃ b w, published (c.past i) = [(b,w)] ∧
    w.holdToken = some (attemptAnswer last).holdToken ∧ ∀ x ∈ changesOf c i, x.after = w

end Attempts

section Undisturbed

/-- The statements are those of one attempt, none of them has failed, and `n` of them at most have
committed. -/
structure Attempt (h : List (Entry SeatStore)) (locked reread : Option SeatInventory) (n : Nat) :
    Prop where
  one : attemptsOf h = [h]
  noError : dbError h = none
  lockedRow : lockedRow h = locked
  rereadRow : rereadRow h = reread
  commits : (published h).length ≤ n

/-- The row that a call has locked is still there when it reads it again. -/
def RowThere (h : List (Entry SeatStore)) : (q : SeatOp) → q.Ans → Prop
  | .select, .ok none => lockedRow h = none
  | _, _ => True

/-- Unless the program ends in a database error, `fin` holds when it returns. -/
abbrev SeatProg.Ending {α : Type} (p : SeatProg α) (fin : α → List (Entry SeatStore) → Prop)
    (h : List (Entry SeatStore)) : Prop :=
  Prog.Follows (fun _ _ => True) RowThere fin (fun _ h' => dbError h' ≠ none) p h

variable {α : Type} {h : List (Entry SeatStore)} {locked reread : Option SeatInventory} {n : Nat}

theorem attemptsOf_cons (hone : attemptsOf h = [h]) {x : Entry SeatStore} (hx : x.1 ≠ .now) :
    attemptsOf (x :: h) = [x :: h] := by
  simp [attemptsOf,hone,hx]

/-- A statement that neither reads the row nor commits. -/
theorem Attempt.quiet (ha : Attempt h locked reread n) {q : SeatOp} {a : q.Ans} (hq : q ≠ .now)
    (hcommit : q ≠ .commit) (herror : dbErrorOf q a = none) (hlocked : lockedRowOf q a = none)
    (hreread : rereadRowOf q a = none) : Attempt (⟨q,a⟩ :: h) locked reread n where
  one := attemptsOf_cons ha.one hq
  noError := by simpa [dbError,herror] using ha.noError
  lockedRow := by simpa [SeatInventory.lockedRow,hlocked] using ha.lockedRow
  rereadRow := by simpa [SeatInventory.rereadRow,hreread] using ha.rereadRow
  commits := by
    rw [published_after hcommit]
    exact ha.commits

theorem Attempt.rollback (ha : Attempt h locked reread n) (u : Unit) :
    Attempt (⟨.rollback,u⟩ :: h) locked reread n := ha.quiet nofun nofun rfl rfl rfl

theorem ending_off {p : SeatProg α} (hp : SeatProg.Off p) (ha : Attempt h locked reread n) :
    SeatProg.Ending p (fun _ h' => Attempt h' locked reread n) h := by
  refine (Prog.Calls.follows hp (fun _ _ _ _ => trivial) ?_ ha).mono (fun _ _ ha => ha)
    fun _ _ hf => hf.1.elim
  intro h' q a hq ha
  cases q with
  | redisPing | cacheSetex | cacheDelete | idempotentGet | idempotentSetex
  | publishInvalidationFailure => exact ha.quiet nofun nofun rfl rfl rfl
  | _ => exact hq.elim

theorem ending_withAppContext {body : SeatProg α} {fin : α → List (Entry SeatStore) → Prop}
    (hb : SeatProg.Ending body fin h) (hfin : ∀ a h' u, fin a h' → fin a (⟨.rollback,u⟩ :: h')) :
    SeatProg.Ending (withAppContext body) fin h := by
  refine Prog.follows_ensuring.mpr (hb.mono ?_ ?_)
  · exact fun a h' ha => ⟨trivial,fun u _ => hfin a h' u ha⟩
  · exact fun e h' he => ⟨trivial,fun _ _ => he⟩

theorem ending_rollback {f : Unit → SeatProg α} {fin : α → List (Entry SeatStore) → Prop}
    (hf : SeatProg.Ending (f ()) fin (⟨.rollback,()⟩ :: h)) :
    SeatProg.Ending (rollback >>= f) fin h := ⟨trivial,fun _ _ => hf⟩

theorem ending_selectForUpdate {f : Option SeatInventory → SeatProg α}
    {fin : α → List (Entry SeatStore) → Prop} (ha : Attempt h none reread n)
    (hf : ∀ row h', Attempt h' row reread n → SeatProg.Ending (f row) fin h') :
    SeatProg.Ending (selectForUpdate >>= f) fin h := by
  refine ⟨trivial,fun a _ => ?_⟩
  cases a with
  | error e => exact Option.some_ne_none e
  | ok row =>
    refine hf row _ ⟨attemptsOf_cons ha.one nofun,?_,?_,?_,?_⟩
    · exact ha.noError
    · cases row with
      | none => exact ha.lockedRow
      | some r => rfl
    · exact ha.rereadRow
    · exact ha.commits

/-- Reading the row again finds it, if it was there under the lock. -/
theorem ending_sessionGet {f : Option SeatInventory → SeatProg α}
    {fin : α → List (Entry SeatStore) → Prop} {r : SeatInventory} (ha : Attempt h (some r) none n)
    (hf : ∀ latest h', Attempt h' (some r) (some latest) n →
      SeatProg.Ending (f (some latest)) fin h') :
    SeatProg.Ending (sessionGet >>= f) fin h := by
  refine ⟨trivial,fun a hthere => ?_⟩
  cases a with
  | error e => exact Option.some_ne_none e
  | ok row =>
    cases row with
    | none => exact absurd (ha.lockedRow.symm.trans hthere) nofun
    | some latest =>
      exact hf latest _ ⟨attemptsOf_cons ha.one nofun,ha.noError,ha.lockedRow,rfl,ha.commits⟩

theorem ending_flush {c : RowChanges} {f : Unit → SeatProg α}
    {fin : α → List (Entry SeatStore) → Prop} (ha : Attempt h locked reread n)
    (hf : ∀ h', Attempt h' locked reread n → SeatProg.Ending (f ()) fin h') :
    SeatProg.Ending (flush c >>= f) fin h := by
  refine ⟨trivial,fun a _ => ?_⟩
  cases a with
  | error e => exact Option.some_ne_none e
  | ok u => exact hf _ (ha.quiet nofun nofun rfl rfl rfl)

theorem ending_updateAvailable {userId : UserId} {holdToken : HoldToken} {heldUntil : Time}
    {f : Nat → SeatProg α} {fin : α → List (Entry SeatStore) → Prop}
    (ha : Attempt h locked reread n)
    (hf : ∀ updated h', Attempt h' locked reread n → SeatProg.Ending (f updated) fin h') :
    SeatProg.Ending (updateAvailable userId holdToken heldUntil >>= f) fin h := by
  refine ⟨trivial,fun a _ => ?_⟩
  cases a with
  | error e => exact Option.some_ne_none e
  | ok updated => exact hf updated _ (ha.quiet nofun nofun rfl rfl rfl)

theorem ending_commit {f : Unit → SeatProg α} {fin : α → List (Entry SeatStore) → Prop}
    (ha : Attempt h locked reread n)
    (hf : ∀ h', Attempt h' locked reread (n+1) → SeatProg.Ending (f ()) fin h') :
    SeatProg.Ending (commit >>= f) fin h := by
  refine ⟨trivial,fun a _ => ?_⟩
  cases a with
  | error e => exact Option.some_ne_none e
  | ok u =>
    refine hf _ ⟨attemptsOf_cons ha.one nofun,ha.noError,ha.lockedRow,ha.rereadRow,?_⟩
    have hcommits := ha.commits
    rw [published_cons]
    cases txView h with
    | own b w => exact Nat.succ_le_succ hcommits
    | idle => exact hcommits.trans (Nat.le_succ n)
    | blind => exact hcommits.trans (Nat.le_succ n)

theorem ending_refresh {f : SeatInventory → SeatProg α} {fin : α → List (Entry SeatStore) → Prop}
    {r : SeatInventory} (ha : Attempt h (some r) none n)
    (hf : ∀ latest h', Attempt h' (some r) (some latest) n → SeatProg.Ending (f latest) fin h') :
    SeatProg.Ending (refresh >>= f) fin h :=
  Prog.follows_bind.mpr (ending_sessionGet ha fun latest h' hlatest => hf latest h' hlatest)

theorem ending_reclaim (cfg : SeatConfig) {r : SeatInventory} {now : Time}
    {f : SeatInventory → SeatProg α} {fin : α → List (Entry SeatStore) → Prop}
    (ha : Attempt h locked reread n)
    (hf : ∀ r' h', Attempt h' locked reread n → SeatProg.Ending (f r') fin h') :
    SeatProg.Ending (reclaim cfg r now >>= f) fin h := by
  refine Prog.follows_bind.mpr (Prog.follows_ite (fun _ => ?_) fun _ => hf r h ha)
  refine ending_flush ha fun h' ha => ?_
  refine Prog.follows_bind.mpr ((ending_off (deleteHoldCache_off cfg) ha).mono ?_ fun _ _ he => he)
  exact fun _ h' ha => hf _ h' ha

/-- How an attempt ends that no statement disturbs: it has committed a hold, or refuses one. -/
def Ended (r : HoldSeatResponse) (h : List (Entry SeatStore)) : Prop :=
  (r.success ∧ r.status = .held ∧ r.errorCode = "" ∧ ∃ locked, Attempt h locked none 1) ∨
    ∃ locked reread, Attempt h locked reread 0 ∧ r = refusal locked reread

theorem Ended.rollback {r : HoldSeatResponse} (hr : Ended r h) (u : Unit) :
    Ended r (⟨.rollback,u⟩ :: h) := by
  rcases hr with ⟨hsuccess,hstatus,hcode,locked,ha⟩ | ⟨locked,reread,ha,hr⟩
  · exact .inl ⟨hsuccess,hstatus,hcode,locked,ha.rollback u⟩
  · exact .inr ⟨locked,reread,ha.rollback u,hr⟩

theorem holdAttempt_ending (cfg : SeatConfig) (req : HoldSeatRequest) :
    SeatProg.Ending (holdAttempt cfg req) Ended [] := by
  refine ending_withAppContext ⟨trivial,fun now _ => ⟨trivial,fun token _ => ?_⟩⟩
    fun _ _ u hr => hr.rollback u
  have hstarted : Attempt [⟨.uuid4,token⟩,⟨.now,now⟩] none none 0 := ⟨rfl,rfl,rfl,rfl,le_rfl⟩
  refine ending_selectForUpdate hstarted fun row h ha => ?_
  cases row with
  | none => exact ending_rollback (.inr ⟨none,none,ha.rollback (),rfl⟩)
  | some r =>
    refine ending_reclaim cfg ha fun r' h ha => Prog.follows_ite (fun _ => ?_) fun _ => ?_
    · refine ending_rollback (ending_refresh (ha.rollback ()) fun latest h ha => ?_)
      exact .inr ⟨_,_,ha,rfl⟩
    · refine ending_updateAvailable ha fun updated h ha => ?_
      refine Prog.follows_ite (fun _ => ?_) fun _ => ?_
      · refine ending_rollback (ending_sessionGet (ha.rollback ()) fun latest h ha => ?_)
        exact .inr ⟨_,_,ha,rfl⟩
      · refine ending_commit ha fun h ha => Prog.follows_bind.mpr ?_
        refine (ending_off (writeHoldCache_off _ _ _ _) ha).mono ?_ fun _ _ he => he
        exact fun _ h ha => .inl ⟨rfl,rfl,rfl,_,ha⟩

/-- Outside of any application context, the handlers of the retry loop raise themselves. -/
theorem holdSeat_ending {cfg : SeatConfig} (houtside : cfg.enclosingContext = false)
    (req : HoldSeatRequest) : Prog.Follows (fun _ _ => True) RowThere
      (fun r h => 0 < cfg.maxDeadlockRetries ∧ Ended r h)
      (fun _ h => cfg.maxDeadlockRetries = 0 ∨ dbError h ≠ none) (holdSeat cfg req) [] := by
  unfold holdSeat
  cases hmax : cfg.maxDeadlockRetries with
  | zero => exact .inl rfl
  | succ k =>
    refine Prog.follows_handle.mpr ((holdAttempt_ending cfg req).mono ?_ ?_)
    · exact fun _ _ hr => ⟨Nat.succ_pos k,hr⟩
    · intro exc h he
      have hraised : ∀ p : SeatProg HoldSeatResponse, Prog.Follows (fun _ _ => True) RowThere
          (fun r h => 0 < k+1 ∧ Ended r h) (fun _ h => k+1 = 0 ∨ dbError h ≠ none)
          (do rollbackOutside cfg; p) h := by
        intro p
        unfold rollbackOutside
        rw [houtside]
        exact .inr he
      split
      · exact Prog.follows_ite (fun _ => hraised _) fun _ => hraised _
      · exact hraised _
      · exact hraised _

end Undisturbed

section Steps

variable {calls : ι → SeatCall}

def changesBy [DecidableEq ι] (s : LoggedDb ι) (i : ι) : List (SeatInventory × SeatInventory) :=
  (s.changes.filter fun x => x.call = i).map fun x => (x.before,x.after)

/-- What the histories say about the row, its lock and its changes. -/
structure Located [DecidableEq ι] (calls : ι → SeatCall) (s : LoggedDb ι)
    (past : ι → List (Entry SeatStore)) : Prop where
  view : ∀ i, txView (past i) ≠ .blind → Holds s.db i (txView (past i))
  sighted : ∀ i, calls i ≠ .getSeatStatus → txView (past i) ≠ .blind
  there : ∀ i, lockedRow (past i) ≠ none → s.db.row ≠ none
  logged : ∀ i, calls i ≠ .getSeatStatus → (changesBy s i).Sublist (published (past i))

variable [DecidableEq ι]

/-- Without the lock an `UPDATE` leaves a call blind, or without a transaction. -/
theorem update_unlocked {v : TxView} (hv : ∀ b w, v ≠ .own b w) {c : RowChanges}
    {a : Except DbError Unit} : v.after (.update c) a = .blind ∨ v.after (.update c) a = .idle := by
  cases a with
  | error e => exact .inr rfl
  | ok u =>
    cases v with
    | own b w => exact absurd rfl (hv b w)
    | idle => exact .inl rfl
    | blind => exact .inl rfl

/-- A call that is blind stays so to the end of its transaction. -/
theorem blind_after {call : SeatCall} {h : List (Entry SeatStore)} {q : SeatOp}
    (hv : txView h = .blind) (hok : Allowed call h q) (a : q.Ans) :
    (txView h).after q a = .blind ∨ (txView h).after q a = .idle := by
  rw [hv]
  cases q with
  | selectForUpdate => exact absurd (hv.symm.trans hok) nofun
  | updateAvailable userId holdToken heldUntil =>
    obtain ⟨b,w,hview⟩ := hok
    exact absurd (hv.symm.trans hview) nofun
  | update c => exact update_unlocked (v := .blind) fun _ _ => nofun
  | select =>
    cases a with
    | error e => exact .inr rfl
    | ok row => exact .inl rfl
  | commit | rollback => exact .inr rfl
  | _ => exact .inl rfl

/-- What a call knows after its own step, unless it has updated the row without the lock. -/
theorem seen_own {db : SeatDb ι} {i : ι} {e : SeatEnv} {q : SeatOp} {call : SeatCall}
    {h : List (Entry SeatStore)} (hv : txView h ≠ .blind → Holds db i (txView h))
    (hready : SeatDb.ready db i e q) (htime : db.clock = e.time) (hok : Allowed call h q)
    (hafter : (txView h).after q (SeatDb.perform i e db q).1 ≠ .blind) :
    Holds (SeatDb.perform i e db q).2 i ((txView h).after q (SeatDb.perform i e db q).1) := by
  by_cases hidle : (txView h).after q (SeatDb.perform i e db q).1 = .idle
  · rw [hidle]
    refine lockSeen_own (fun h => ?_) hok hidle
    rw [h] at hv
    exact hv nofun
  · have hsighted : txView h ≠ .blind := fun hblind =>
      (blind_after hblind hok _).elim hafter hidle
    refine perform_own (hv hsighted) hready htime (fun hupdate hlock => ?_) hok
    cases q with
    | update c =>
      cases hview : txView h with
      | own b w =>
        have hheld := hv hsighted
        rw [hview] at hheld
        exact absurd (hheld.1.symm.trans hlock) nofun
      | blind => exact absurd hview hsighted
      | idle =>
        rw [hview] at hafter hidle
        exact ((update_unlocked (v := .idle) fun _ _ => nofun).elim hafter hidle).elim
    | _ => cases hupdate

theorem select_finds {db : SeatDb ι} {i : ι} {e : SeatEnv}
    (h : (SeatDb.perform i e db .select).1 = .ok none) : db.row = none := by
  have hvisible : db.visible i = none := by
    simp only [SeatDb.perform,SeatDb.statement] at h
    split at h
    · cases h
    · exact Except.ok.inj h
  unfold SeatDb.visible at hvisible
  split at hvisible
  · split at hvisible
    · cases hvisible
    · exact hvisible
  · exact hvisible

theorem Located.rowThere {s : LoggedDb ι} {past : ι → List (Entry SeatStore)}
    (h : Located calls s past) (i : ι) (e : SeatEnv) (q : SeatOp) :
    RowThere (past i) q ((LoggedDb.server ι).serve i e s q).1 := by
  cases q with
  | select =>
    show RowThere (past i) .select (SeatDb.perform i e { s.db with clock := e.time } .select).1
    cases hanswer : (SeatDb.perform i e { s.db with clock := e.time } .select).1 with
    | error err => trivial
    | ok row =>
      cases row with
      | some r => trivial
      | none =>
        have hnone := select_finds hanswer
        by_contra hlocked
        exact h.there i hlocked hnone
  | _ => trivial

omit [DecidableEq ι] in
theorem noteChange_call {i : ι} {before after : Option SeatInventory} {x : Change ι}
    (hx : x ∈ noteChange i before after) : x.call = i := by
  unfold noteChange at hx
  split at hx
  · split at hx
    · cases hx
    · rw [List.mem_singleton.mp hx]
  · cases hx

theorem changesBy_other {s : LoggedDb ι} {i j : ι} (hj : j ≠ i) (e : SeatEnv) (q : SeatOp) :
    changesBy ((LoggedDb.server ι).serve i e s q).2 j = changesBy s j := by
  have hnone : ∀ before after, (noteChange i before after).filter (fun x => x.call = j) = [] :=
    fun _ _ => List.filter_eq_nil_iff.mpr fun x hx => by simp [noteChange_call hx,hj.symm]
  simp [changesBy,LoggedDb.server,List.filter_append,hnone]

/-- A commit adds no other change than the version that it publishes. -/
theorem changesBy_commit {s : LoggedDb ι} {i : ι} {e : SeatEnv} {h : List (Entry SeatStore)}
    (hview : Holds s.db i (txView h)) (hsighted : txView h ≠ .blind)
    (hready : SeatDb.ready s.db i e .commit) (hlogged : (changesBy s i).Sublist (published h)) :
    (changesBy ((LoggedDb.server ι).serve i e s .commit).2 i).Sublist
      (published (⟨.commit,((LoggedDb.server ι).serve i e s .commit).1⟩ :: h)) := by
  have hstill : ((LoggedDb.server ι).serve i e s .commit).2.db.row = s.db.row →
      changesBy ((LoggedDb.server ι).serve i e s .commit).2 i = changesBy s i := by
    intro hrow
    change ((noteChange i s.db.row ((LoggedDb.server ι).serve i e s .commit).2.db.row ++
      s.changes).filter _).map _ = _
    rw [hrow,noteChange_same]
    rfl
  rw [published_cons]
  cases hv : txView h with
  | blind => exact absurd hv hsighted
  | idle =>
    rw [hv] at hview
    rw [hstill ((perform_row (ready_at_time hready)).resolve_right fun ⟨_,w,hlock,_⟩ =>
      hview w hlock)]
    cases ((LoggedDb.server ι).serve i e s .commit).1 <;> exact hlogged
  | own b w =>
    rw [hv] at hview
    cases hfault : e.fault with
    | some err =>
      rw [hstill (by simp [LoggedDb.server,SeatDb.perform,SeatDb.statement,hfault,
        SeatDb.release_row])]
      simpa [LoggedDb.server,SeatDb.perform,SeatDb.statement,hfault,publishedAfter] using hlogged
    | none =>
      have hserve : (SeatDb.server ι).serve i e s.db .commit =
          (.ok (),{ s.db with clock := e.time, row := some w, lock := none }) := by
        rw [server_serve]
        exact perform_commit hfault hview.1
      have hanswer : ((LoggedDb.server ι).serve i e s .commit).1 = .ok () :=
        congrArg Prod.fst hserve
      have hchanges : ((LoggedDb.server ι).serve i e s .commit).2.changes =
          noteChange i (some b) (some w) ++ s.changes := by
        rw [← hview.2]
        exact congrArg (fun r => noteChange i s.db.row r.2.row ++ s.changes) hserve
      rw [hanswer]
      show (List.map _ (List.filter _ _)).Sublist ((b,w) :: published h)
      rw [hchanges]
      by_cases hsame : w = b
      · simpa [noteChange,hsame,changesBy] using hlogged.cons (b,w)
      · simpa [noteChange,hsame,changesBy] using hlogged.cons_cons (b,w)

/-- A row that is found under the lock is there. -/
theorem Located.found {s : LoggedDb ι} {past : ι → List (Entry SeatStore)}
    (h : Located calls s past) {i : ι} {e : SeatEnv} {q : SeatOp}
    (hready : SeatDb.ready s.db i e q) (hok : Exact (calls i) (past i) q)
    (hlocked : lockedRow (⟨q,((LoggedDb.server ι).serve i e s q).1⟩ :: past i) ≠ none) :
    s.db.row ≠ none := by
  intro hnone
  have hbefore : lockedRow (past i) = none := by
    by_contra hsome
    exact h.there i hsome hnone
  refine hlocked ?_
  cases q with
  | selectForUpdate =>
    have hidle : Holds { s.db with clock := e.time } i .idle := by
      have hview := h.view i (by rw [show txView (past i) = .idle from hok]; nofun)
      rw [show txView (past i) = .idle from hok] at hview
      exact hview.congr rfl rfl (clock_of_ready hready)
    show lockedRow (⟨.selectForUpdate,
      (SeatDb.perform i e { s.db with clock := e.time } .selectForUpdate).1⟩ :: past i) = none
    cases hanswer : (SeatDb.perform i e { s.db with clock := e.time } .selectForUpdate).1 with
    | error err => exact hbefore
    | ok row =>
      have hread := selectForUpdate_reads hidle (ready_at_time hready) hanswer
      obtain rfl : row = none := hread.trans hnone
      exact hbefore
  | _ => exact hbefore

theorem located_kept (calls : ι → SeatCall) : Keeps (LoggedDb.server ι) Config.anyStep
    (fun i => Exact (calls i)) (fun _ => RowThere) (Located calls) := by
  intro s past i e q hinv hready _ hok
  have hready : SeatDb.ready s.db i e q := hready
  have hview : ∀ j, txView (past j) ≠ .blind →
      Holds { s.db with clock := e.time } j (txView (past j)) :=
    fun j hj => (hinv.view j hj).congr rfl rfl (clock_of_ready hready)
  refine ⟨hinv.rowThere i e q,?_,?_,?_,?_⟩
  · intro j hj
    by_cases hji : j = i
    · subst hji
      rw [Function.update_self,txView_cons] at hj ⊢
      exact seen_own (hview j) (ready_at_time hready) rfl hok.allowed hj
    · rw [Function.update_of_ne hji] at hj ⊢
      exact perform_frame (hview j hj) hji (ready_at_time hready)
  · intro j hj
    by_cases hji : j = i
    · subst hji
      rw [Function.update_self]
      exact sighted_after hj hok (hinv.sighted j hj) _
    · rw [Function.update_of_ne hji]
      exact hinv.sighted j hj
  · intro j hj
    have hbefore : s.db.row ≠ none := by
      by_cases hji : j = i
      · subst hji
        rw [Function.update_self] at hj
        exact hinv.found hready hok hj
      · rw [Function.update_of_ne hji] at hj
        exact hinv.there j hj
    rcases perform_row (ready_at_time hready) with hrow | ⟨-,w,-,hrow⟩
    · exact fun hnone => hbefore (hrow.symm.trans hnone)
    · exact fun hnone => absurd (hrow.symm.trans hnone) nofun
  · intro j hj
    by_cases hji : j = i
    · subst hji
      rw [Function.update_self]
      by_cases hq : q = .commit
      · subst hq
        exact changesBy_commit (hinv.view j (hinv.sighted j hj)) (hinv.sighted j hj) hready
          (hinv.logged j hj)
      · rw [published_after hq]
        show (List.map _ (List.filter _ _)).Sublist _
        rw [(serve_row hready hq).2]
        exact hinv.logged j hj
    · rw [Function.update_of_ne hji,changesBy_other hji]
      exact hinv.logged j hj

end Steps

section Runs

theorem refusal_fails (locked reread : Option SeatInventory) :
    (refusal locked reread).success = false := by
  cases locked <;> cases reread <;> rfl

theorem Ended.noError {r : HoldSeatResponse} {h : List (Entry SeatStore)} (hr : Ended r h) :
    attemptsOf h = [h] ∧ dbError h = none := by
  rcases hr with ⟨-,-,-,_,ha⟩ | ⟨_,_,ha,-⟩
  · exact ⟨ha.one,ha.noError⟩
  · exact ⟨ha.one,ha.noError⟩

/-- The only hold that a successful attempt has committed is the one that it reports. -/
theorem Ended.committed {r : HoldSeatResponse} {h : List (Entry SeatStore)} (hr : Ended r h)
    (hrep : HoldReported r (published h)) (hsuccess : r.success) :
    ∃ b w, published h = [(b,w)] ∧ r = ⟨true,w.status,w.heldUntil,"",r.holdToken⟩ ∧
      w.holdToken = some r.holdToken := by
  rcases hr with ⟨-,hstatus,hcode,_,ha⟩ | ⟨locked,reread,-,rfl⟩
  · obtain ⟨b,userId,heldUntil,hmem,huntil⟩ := hrep hsuccess
    have hone : (published h).length = 1 :=
      Nat.le_antisymm ha.commits (List.length_pos_of_mem hmem)
    obtain ⟨p,hp⟩ := List.length_eq_one_iff.mp hone
    rw [hp] at hmem
    obtain rfl := List.mem_singleton.mp hmem
    refine ⟨b,_,hp,?_,rfl⟩
    obtain ⟨success,status,_,errorCode,token⟩ := r
    simp_all [heldFor]
  · rw [refusal_fails] at hsuccess
    cases hsuccess

theorem Ended.answer {r : HoldSeatResponse} {h : List (Entry SeatStore)} (hr : Ended r h)
    (hrep : HoldReported r (published h)) : attemptAnswer h = r := by
  by_cases hsuccess : r.success
  · obtain ⟨b,w,hp,hshape,htoken⟩ := hr.committed hrep hsuccess
    simp only [attemptAnswer,hr.noError.2,hp,htoken,Option.getD_some]
    exact hshape.symm
  · rcases hr with ⟨hheld,-⟩ | ⟨locked,reread,ha,rfl⟩
    · exact absurd hheld hsuccess
    · have hp : published h = [] := List.length_eq_zero_iff.mp (Nat.le_zero.mp ha.commits)
      simp only [attemptAnswer,ha.noError,hp,ha.lockedRow,ha.rereadRow]

theorem Ended.commits {r : HoldSeatResponse} {h : List (Entry SeatStore)} (hr : Ended r h) :
    (published h).length ≤ 1 := by
  rcases hr with ⟨-,-,-,_,ha⟩ | ⟨_,_,ha,-⟩
  · exact ha.commits
  · exact ha.commits.trans Nat.one_pos.le

/-- How the program of a `HoldSeat` ends, outside of any application context. -/
def HoldEnds (cfg : SeatConfig) (call : SeatCall) (reply : SeatReply) (h : List (Entry SeatStore)) :
    Prop :=
  ∀ req, call = .holdSeat req → 0 < cfg.maxDeadlockRetries ∧ ∃ r, reply = .hold r ∧ Ended r h

def HoldRaises (cfg : SeatConfig) (call : SeatCall) (_ : SeatExn) (h : List (Entry SeatStore)) :
    Prop :=
  ∀ req, call = .holdSeat req → cfg.maxDeadlockRetries = 0 ∨ dbError h ≠ none

theorem prog_ending {cfg : SeatConfig} (houtside : cfg.enclosingContext = false) (call : SeatCall) :
    Prog.Follows (Exact call) RowThere
      (fun reply h => Ends (Reported call) reply h ∧ HoldEnds cfg call reply h)
      (HoldRaises cfg call) (call.prog cfg) [] := by
  have hexact : Prog.Follows (Exact call) RowThere (Ends (Reported call)) Closed
      (call.prog cfg) [] := (prog_exact cfg call).restrict fun _ _ _ _ => trivial
  have hends : Prog.Follows (fun _ _ => True) RowThere (HoldEnds cfg call) (HoldRaises cfg call)
      (call.prog cfg) [] := by
    by_cases hcall : ∃ req, call = .holdSeat req
    · obtain ⟨req,rfl⟩ := hcall
      refine Prog.follows_map.mpr ((holdSeat_ending houtside req).mono ?_ ?_)
      · exact fun r h hr _ _ => ⟨hr.1,r,rfl,hr.2⟩
      · exact fun _ h he _ _ => he
    · refine (Prog.Calls.follows (J := fun _ => True) (Prog.calls_true _)
        (fun _ _ _ _ => trivial) (fun _ _ _ _ _ => trivial) trivial).mono ?_ ?_
      · exact fun _ _ _ req hreq => absurd ⟨req,hreq⟩ hcall
      · exact fun _ _ _ req hreq => absurd ⟨req,hreq⟩ hcall
  exact ((hexact.both hends).weaken fun _ _ hok => hok.1).mono (fun _ _ hr => hr) fun _ _ he => he.2

variable [DecidableEq ι]

/-- Called outside of any application context, `HoldSeat` keeps its promise exactly if none of its
statements ends in a database error, of whatever kind. -/
theorem holdSeat_survives_iff (cfg : SeatConfig) (houtside : cfg.enclosingContext = false)
    (calls : ι → SeatCall) (db₀ : SeatDb ι) (hlock : db₀.lock = none) {c : LoggedRun ι}
    (hc : Config.Reach (LoggedDb.server ι) Config.anyStep
      (.start ⟨db₀,[]⟩ fun i => (calls i).prog cfg) c)
    {i : ι} {req : HoldSeatRequest} (hi : calls i = .holdSeat req) (hended : c.ended i) :
    (∃ last earlier, SurvivesDeadlocks cfg.maxDeadlockRetries c i last earlier) ↔
      0 < cfg.maxDeadlockRetries ∧ dbError (c.past i) = none := by
  have hstart : (Config.start (⟨db₀,[]⟩ : LoggedDb ι) fun i => (calls i).prog cfg).Disciplined
      (fun i => Exact (calls i)) (fun _ => RowThere)
      (fun i reply h => Ends (Reported (calls i)) reply h ∧ HoldEnds cfg (calls i) reply h)
      (fun i => HoldRaises cfg (calls i)) (Located calls) := by
    refine Config.disciplined_start ⟨?_,?_,?_,?_⟩ fun i => prog_ending houtside (calls i)
    · exact fun i _ w => by simp [hlock]
    · exact fun _ _ => nofun
    · exact fun _ hfound => absurd rfl hfound
    · exact fun _ _ => List.Sublist.refl _
  have hreached := hstart.reach (located_kept calls) hc
  have hchanges := hreached.1.logged i (by rw [hi]; nofun)
  rcases hreached.ended hended with ⟨reply,hresult,⟨-,hrep⟩,hends⟩ | ⟨hresult,exc,hraises⟩
  · obtain ⟨hmax,r,rfl,hr⟩ := hends req hi
    rw [hi] at hrep
    have hanswer := hr.answer hrep
    refine iff_of_true ⟨c.past i,[],hr.noError.1,nofun,?_,?_,?_,?_⟩ ⟨hmax,hr.noError.2⟩
    · rw [hr.noError.2]
      nofun
    · rw [hanswer]
      exact hresult
    · have hlength := hchanges.length_le.trans hr.commits
      rwa [changesBy,List.length_map] at hlength
    · rw [hanswer]
      intro hsuccess
      obtain ⟨b,w,hp,-,htoken⟩ := hr.committed hrep hsuccess
      refine ⟨b,w,hp,htoken,fun x hx => ?_⟩
      have hmem := hchanges.subset (List.mem_map_of_mem hx)
      rw [hp] at hmem
      exact congrArg Prod.snd (List.mem_singleton.mp hmem)
  · refine iff_of_false ?_ ?_
    · rintro ⟨last,earlier,hsurvives⟩
      exact absurd (hresult.symm.trans hsurvives.answered) nofun
    · rintro ⟨hmax,hnone⟩
      exact (hraises req hi).elim hmax.ne' fun herror => herror hnone

end Runs

section Example

def oneHold (_ : Unit) : SeatCall := .holdSeat ⟨7,300⟩

def loneSeat : SeatDb Unit where
  row := some ⟨1,1,.available,none,none,none⟩
  lock := none
  clock := 0
  issued := []
  cache := none
  idempotent := ∅

/-- One hold, whose third statement, the locking read, ends in this error. -/
def lockingEnds (fault : Option DbError) (rest : Nat) : LoggedRun Unit :=
  Config.schedule (LoggedDb.server Unit) (fun _ _ _ _ _ => true)
    (.start ⟨loneSeat,[]⟩ fun i => (oneHold i).prog ⟨3,3,false⟩)
    (List.replicate 2 ((),⟨0,0,true,none⟩) ++ ((),⟨0,0,true,fault⟩) ::
      List.replicate rest ((),⟨1,1,true,none⟩))

theorem lockingEnds_reach (fault : Option DbError) (rest : Nat) :
    Config.Reach (LoggedDb.server Unit) Config.anyStep
      (.start ⟨loneSeat,[]⟩ fun i => (oneHold i).prog ⟨3,3,false⟩) (lockingEnds fault rest) :=
  Config.reach_schedule (fun _ _ _ _ _ _ => trivial) _ _

theorem holdSeat_survives_iff_undisturbed :
    (lockingEnds none 5).result () =
      some (.hold ⟨true,.held,some (seconds 300),"",.uuid 0⟩) ∧
    ∃ last earlier, SurvivesDeadlocks 3 (lockingEnds none 5) () last earlier :=
  ⟨by decide +kernel,(holdSeat_survives_iff ⟨3,3,false⟩ rfl oneHold loneSeat rfl
    (lockingEnds_reach none 5) rfl (by decide +kernel)).mpr (by decide +kernel)⟩

/-- A deadlock at the first locking read ends the call, though two more attempts were allowed. -/
theorem deadlock_ends_holdSeat : ∃ c : LoggedRun Unit,
    Config.Reach (LoggedDb.server Unit) Config.anyStep
      (.start ⟨loneSeat,[]⟩ fun i => (oneHold i).prog ⟨3,3,false⟩) c ∧
    c.ended () ∧ c.result () = none ∧ dbError (c.past ()) = some .deadlock ∧
    ¬ ∃ last earlier, SurvivesDeadlocks 3 c () last earlier := by
  have hnone : (lockingEnds (some .deadlock) 1).result () = none := by decide +kernel
  refine ⟨lockingEnds (some .deadlock) 1,lockingEnds_reach _ _,by decide +kernel,hnone,
    by decide +kernel,?_⟩
  rintro ⟨last,earlier,hsurvives⟩
  exact absurd (hnone.symm.trans hsurvives.answered) nofun

end Example

end TicketRemaster.SeatInventory
