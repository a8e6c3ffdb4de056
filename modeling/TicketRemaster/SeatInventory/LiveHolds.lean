import TicketRemaster.SeatInventory.RowLock
set_option autoImplicit false

/-! Sold seats stay sold and live holds stay held, in every interleaving in which no
`UPDATE` of `GetSeatStatus` lands on a row that another call has changed meanwhile. -/

namespace TicketRemaster.SeatInventory

open Resumption

variable {ι : Type}

/-- A configuration of any number of calls on one row. -/
abbrev SeatRun (ι : Type) := Config ι SeatStore SeatExn SeatReply (SeatDb ι)

/-- A `GetSeatStatus` may overwrite this row: it is not sold, and a hold in it has expired. -/
def Reclaimable (r : SeatInventory) (now : Time) : Prop :=
  r.status ≠ .sold ∧ (r.status = .held → holdHasExpired r now)

theorem Reclaimable.later {r : SeatInventory} {t t' : Time} (h : Reclaimable r t) (ht : t ≤ t') :
    Reclaimable r t' := ⟨h.1,fun hs => holdHasExpired_mono (h.2 hs) ht⟩

theorem Reclaimable.mayReplace {r w : SeatInventory} {now : Time} (h : Reclaimable r now)
    (call : SeatCall) : MayReplace call (some now) r w :=
  ⟨fun hs => absurd hs h.1,fun hs _ => .inl ⟨now,rfl,h.2 hs⟩⟩

/-- What the lock and the committed row have to be for a call to have this view. -/
def Holds (db : SeatDb ι) (i : ι) : TxView → Prop
  | .idle => ∀ w, db.lock ≠ some (i,w)
  | .own b w => db.lock = some (i,w) ∧ db.row = some b
  | .blind => ∃ b w, db.lock = some (i,w) ∧ db.row = some b ∧ Reclaimable b db.clock

structure RowInv (db : SeatDb ι) (past : ι → List (Entry SeatStore)) : Prop where
  view : ∀ i, Holds db i (txView (past i))
  clock : ∀ i t, lastNow (past i) = some t → t ≤ db.clock

def SeatOp.isUpdate : SeatOp → Bool
  | .update _ => true
  | _ => false

/-- The side condition: an `UPDATE` made without holding the lock finds a row that may be
reclaimed by now. -/
def FlushesReclaimable (db : SeatDb ι) (_ : ι → List (Entry SeatStore)) (_ : ι) (e : SeatEnv)
    (q : SeatOp) : Prop :=
  q.isUpdate → db.lock = none → ∀ r ∈ db.row, Reclaimable r e.time

instance (r : SeatInventory) (now : Time) : Decidable (Reclaimable r now) :=
  inferInstanceAs (Decidable (_ ∧ (_ → _)))

instance [DecidableEq ι] (db : SeatDb ι) (past : ι → List (Entry SeatStore)) (i : ι) (e : SeatEnv)
    (q : SeatOp) : Decidable (FlushesReclaimable db past i e q) :=
  inferInstanceAs (Decidable (_ → _ → ∀ r ∈ db.row, Reclaimable r e.time))

theorem Holds.congr {db db' : SeatDb ι} {i : ι} {v : TxView} (h : Holds db i v)
    (hl : db'.lock = db.lock) (hr : db'.row = db.row) (hc : db.clock ≤ db'.clock) :
    Holds db' i v := by
  cases v with
  | idle => simpa [Holds,hl] using h
  | own b w => simpa [Holds,hl,hr] using h
  | blind =>
    obtain ⟨b,w,hlock,hrow,hm⟩ := h
    exact ⟨b,w,hl.trans hlock,hr.trans hrow,hm.later hc⟩

variable [DecidableEq ι]

theorem Holds.locksOut {db : SeatDb ι} {i j : ι} {v : TxView} (h : Holds db j v) (hj : j ≠ i)
    (hi : db.locksOut i = false) : v = .idle := by
  cases v with
  | idle => rfl
  | own b w => simp [SeatDb.locksOut,h.1,hj] at hi
  | blind =>
    obtain ⟨b,w,hlock,-,-⟩ := h
    simp [SeatDb.locksOut,hlock,hj] at hi

theorem Holds.unlocked {db : SeatDb ι} {i : ι} (h : Holds db i .idle)
    (hi : db.locksOut i = false) : db.lock = none := by
  cases hlock : db.lock with
  | none => rfl
  | some l =>
    have hl : l.1 = i := by simpa [SeatDb.locksOut,hlock] using hi
    exact absurd (hlock.trans (by rw [← hl])) (h l.2)

theorem Holds.write {db : SeatDb ι} {i j : ι} {v : TxView} (h : Holds db j v) (hj : j ≠ i)
    (hi : db.locksOut i = false) (w : SeatInventory) : Holds (db.write i w) j v := by
  obtain rfl := h.locksOut hj hi
  intro w' hw
  simp only [SeatDb.write,Option.some.injEq,Prod.mk.injEq] at hw
  exact hj hw.1.symm

/-- Whoever held the lock and has let go of it, nobody else did. -/
theorem Holds.freed {db db' : SeatDb ι} {i j : ι} {v : TxView} (h : Holds db j v) (hj : j ≠ i)
    {w : SeatInventory} (hlock : db.lock = some (i,w)) (hfree : db'.lock = none) :
    Holds db' j v := by
  obtain rfl : v = .idle := h.locksOut hj (by simp [SeatDb.locksOut,hlock])
  intro w' hw
  rw [hfree] at hw
  cases hw

theorem Holds.release {db : SeatDb ι} {i j : ι} {v : TxView} (h : Holds db j v) (hj : j ≠ i) :
    Holds (db.release i) j v := by
  unfold SeatDb.release
  split
  · rename_i k w hlock
    by_cases hk : k = i
    · subst hk
      rw [if_pos rfl]
      exact h.freed hj hlock rfl
    · rwa [if_neg hk]
  · exact h

theorem Holds.publish {db : SeatDb ι} {i j : ι} {v : TxView} (h : Holds db j v) (hj : j ≠ i) :
    Holds (db.publish i) j v := by
  unfold SeatDb.publish
  split
  · rename_i k w hlock
    by_cases hk : k = i
    · subst hk
      rw [if_pos rfl]
      exact h.freed hj hlock rfl
    · rwa [if_neg hk]
  · exact h

/-- After letting go of the lock, in whatever way, the view is idle. -/
theorem release_idle (db : SeatDb ι) (i : ι) : Holds (db.release i) i .idle := by
  intro w
  unfold SeatDb.release
  split
  · rename_i k w' hlock
    by_cases hk : k = i
    · simp [hk]
    · simp [hk,hlock]
  · rename_i hlock
    simp [hlock]

theorem publish_idle (db : SeatDb ι) (i : ι) : Holds (db.publish i) i .idle := by
  intro w
  unfold SeatDb.publish
  split
  · rename_i k w' hlock
    by_cases hk : k = i
    · simp [hk]
    · simp [hk,hlock]
  · rename_i hlock
    simp [hlock]

theorem commit_idle (db : SeatDb ι) (i : ι) (e : SeatEnv) :
    Holds (SeatDb.perform i e db .commit).2 i .idle := by
  simp only [SeatDb.perform,SeatDb.statement]
  cases e.fault with
  | some err => exact release_idle db i
  | none => exact publish_idle db i

theorem publish_row (db : SeatDb ι) (i : ι) : (db.publish i).row = db.row ∨
    ∃ w, db.lock = some (i,w) ∧ (db.publish i).row = some w := by
  unfold SeatDb.publish
  split
  · rename_i k w hlock
    by_cases hk : k = i
    · subst hk; exact .inr ⟨w,hlock,by simp⟩
    · exact .inl (by simp [hk])
  · exact .inl rfl

theorem Holds.offRow {db : SeatDb ι} {i : ι} {v : TxView} (h : Holds db i v) {e : SeatEnv}
    {q : SeatOp} (hq : ¬ SeatDb.OnRow q) : Holds (SeatDb.perform i e db q).2 i v := by
  obtain ⟨hl,hr,hc⟩ := SeatDb.perform_offRow db i e hq
  exact h.congr hl hr hc.ge

theorem locksOut_of_ready {db : SeatDb ι} {i : ι} {e : SeatEnv} {q : SeatOp}
    (h : SeatDb.ready db i e q)
    (hq : match q with
      | .selectForUpdate | .update _ | .updateAvailable _ _ _ => True
      | _ => False) : db.locksOut i = false := by
  cases q with
  | selectForUpdate => simp [SeatDb.ready] at h; exact h.2
  | update c => simp [SeatDb.ready] at h; exact h.2
  | updateAvailable u t d => simp [SeatDb.ready] at h; exact h.2
  | _ => cases hq

theorem clock_of_ready {db : SeatDb ι} {i : ι} {e : SeatEnv} {q : SeatOp}
    (h : SeatDb.ready db i e q) : db.clock ≤ e.time := by
  simp only [SeatDb.ready,Bool.and_eq_true,decide_eq_true_eq] at h
  exact h.1

theorem ready_at_time {db : SeatDb ι} {i : ι} {e : SeatEnv} {q : SeatOp}
    (h : SeatDb.ready db i e q) : SeatDb.ready { db with clock := e.time } i e q := by
  simp only [SeatDb.ready,Bool.and_eq_true,decide_eq_true_eq] at h ⊢
  exact ⟨le_rfl,h.2⟩

/-- What a statement can do to the row, its lock and the clock. -/
theorem perform_cases {db : SeatDb ι} {i : ι} {e : SeatEnv} {q : SeatOp}
    (hready : SeatDb.ready db i e q) {db' : SeatDb ι} (h : (SeatDb.perform i e db q).2 = db') :
    (db'.lock = db.lock ∧ db'.row = db.row ∧ db'.clock = db.clock) ∨
    (∃ w, db' = db.write i w ∧ db.locksOut i = false) ∨ db' = db.release i ∨
    (db' = db.publish i ∧ q = .commit) := by
  subst h
  cases q with
  | selectForUpdate =>
    simp only [SeatDb.perform,SeatDb.statement]
    cases e.fault with
    | some err => exact .inr (.inr (.inl rfl))
    | none =>
      cases db.visible i with
      | some r => exact .inr (.inl ⟨r,rfl,locksOut_of_ready hready trivial⟩)
      | none => exact .inl ⟨rfl,rfl,rfl⟩
  | update c =>
    simp only [SeatDb.perform,SeatDb.statement]
    cases db.visible i with
    | none => exact .inr (.inr (.inl rfl))
    | some r =>
      cases e.fault with
      | some err => exact .inr (.inr (.inl rfl))
      | none => exact .inr (.inl ⟨_,rfl,locksOut_of_ready hready trivial⟩)
  | updateAvailable userId holdToken heldUntil =>
    simp only [SeatDb.perform,SeatDb.statement]
    cases e.fault with
    | some err => exact .inr (.inr (.inl rfl))
    | none =>
      cases db.visible i with
      | none => exact .inl ⟨rfl,rfl,rfl⟩
      | some r =>
        by_cases hs : r.status = .available
        · simp only [hs,if_true]
          exact .inr (.inl ⟨_,rfl,locksOut_of_ready hready trivial⟩)
        · exact .inl (by simp [hs])
  | select =>
    simp only [SeatDb.perform,SeatDb.statement]
    cases e.fault with
    | some err => exact .inr (.inr (.inl rfl))
    | none => exact .inl ⟨rfl,rfl,rfl⟩
  | commit =>
    simp only [SeatDb.perform,SeatDb.statement]
    cases e.fault with
    | some err => exact .inr (.inr (.inl rfl))
    | none => exact .inr (.inr (.inr ⟨rfl,trivial⟩))
  | rollback => exact .inr (.inr (.inl rfl))
  | _ => exact .inl (SeatDb.perform_offRow db i e id)

/-- A step of one call leaves what the others know about the row as it was. -/
theorem perform_frame {db : SeatDb ι} {i j : ι} {e : SeatEnv} {q : SeatOp} {v : TxView}
    (h : Holds db j v) (hj : j ≠ i) (hready : SeatDb.ready db i e q) :
    Holds (SeatDb.perform i e db q).2 j v := by
  rcases perform_cases hready rfl with ⟨hl,hr,hc⟩ | ⟨w,hw,hi⟩ | hrel | ⟨hpub,-⟩
  · exact h.congr hl hr (le_of_eq hc.symm)
  · rw [hw]; exact h.write hj hi w
  · rw [hrel]; exact h.release hj
  · rw [hpub]; exact h.publish hj

/-- The committed row changes only when the call that holds the lock commits. -/
theorem perform_row {db : SeatDb ι} {i : ι} {e : SeatEnv} {q : SeatOp}
    (hready : SeatDb.ready db i e q) :
    (SeatDb.perform i e db q).2.row = db.row ∨
      (q = .commit ∧ ∃ w, db.lock = some (i,w) ∧ (SeatDb.perform i e db q).2.row = some w) := by
  rcases perform_cases hready rfl with ⟨-,hr,-⟩ | ⟨w,hw,-⟩ | hrel | ⟨hpub,hq⟩
  · exact .inl hr
  · left; rw [hw]; rfl
  · left; rw [hrel]; exact SeatDb.release_row db i
  · rw [hpub]
    rcases publish_row db i with hr | hr
    · exact .inl hr
    · exact .inr ⟨hq,hr⟩

theorem perform_clock {db : SeatDb ι} {i : ι} {e : SeatEnv} {q : SeatOp}
    (hready : SeatDb.ready db i e q) : (SeatDb.perform i e db q).2.clock = db.clock := by
  rcases perform_cases hready rfl with ⟨-,-,hc⟩ | ⟨w,hw,-⟩ | hrel | ⟨hpub,-⟩
  · exact hc
  · rw [hw]; rfl
  · rw [hrel]; exact SeatDb.release_frame (f := SeatDb.clock) (fun _ _ _ => rfl) db i
  · rw [hpub]; exact SeatDb.publish_frame (f := SeatDb.clock) (fun _ _ _ => rfl) db i

/-- Only the drawing of a token adds to the tokens that are in use. -/
theorem perform_issued (db : SeatDb ι) {i : ι} {e : SeatEnv} {q : SeatOp} (hq : q ≠ .uuid4) :
    (SeatDb.perform i e db q).2.issued = db.issued := by
  cases q with
  | uuid4 => exact absurd rfl hq
  | cacheSetex payload ttl => simp only [SeatDb.perform]; split <;> rfl
  | cacheDelete => simp only [SeatDb.perform]; split <;> rfl
  | idempotentSetex holdToken success ttl => simp only [SeatDb.perform]; split <;> rfl
  | now | redisPing | idempotentGet | publishInvalidationFailure => rfl
  | _ => exact SeatDb.perform_frame_onRow (f := SeatDb.issued) (fun _ _ _ => rfl) db i trivial

/-- What a call knows after its own step. -/
theorem perform_own {db : SeatDb ι} {i : ι} {e : SeatEnv} {q : SeatOp} {call : SeatCall}
    {h : List (Entry SeatStore)} (hv : Holds db i (txView h)) (hready : SeatDb.ready db i e q)
    (htime : db.clock = e.time) (hC : FlushesReclaimable db (fun _ => h) i e q)
    (hok : Allowed call h q) :
    Holds (SeatDb.perform i e db q).2 i ((txView h).after q (SeatDb.perform i e db q).1) := by
  cases q with
  | selectForUpdate =>
    have hidle : txView h = .idle := hok
    rw [hidle] at hv ⊢
    have hlock := hv.unlocked (locksOut_of_ready hready trivial)
    simp only [SeatDb.perform,SeatDb.statement,SeatDb.visible,hlock]
    cases e.fault with
    | some err => exact release_idle db i
    | none =>
      cases hrow : db.row with
      | some r => exact ⟨rfl,hrow⟩
      | none => exact hv
  | update c =>
    simp only [SeatDb.perform,SeatDb.statement]
    cases hvis : db.visible i with
    | none => exact release_idle db i
    | some r =>
      cases e.fault with
      | some err => exact release_idle db i
      | none =>
        cases hview : txView h with
        | idle =>
          rw [hview] at hv
          have hlock := hv.unlocked (locksOut_of_ready hready trivial)
          have hrow : db.row = some r := by simpa [SeatDb.visible,hlock] using hvis
          exact ⟨r,_,rfl,hrow,htime ▸ hC rfl hlock r hrow⟩
        | own b w =>
          rw [hview] at hv
          have hr : r = w := by simpa [SeatDb.visible,hv.1,eq_comm] using hvis
          exact ⟨by rw [hr]; rfl,hv.2⟩
        | blind =>
          rw [hview] at hv
          obtain ⟨b,w,-,hrow,hm⟩ := hv
          exact ⟨b,_,rfl,hrow,hm⟩
  | updateAvailable userId holdToken heldUntil =>
    obtain ⟨b,w,hview⟩ := hok
    rw [hview] at hv ⊢
    have hvis : db.visible i = some w := by simp [SeatDb.visible,hv.1]
    simp only [SeatDb.perform,SeatDb.statement,hvis]
    cases e.fault with
    | some err => exact release_idle db i
    | none =>
      by_cases hs : w.status = .available
      · simp only [hs,if_true,TxView.after]; exact ⟨rfl,hv.2⟩
      · simp only [hs,if_false,TxView.after]; exact hv
  | select =>
    simp only [SeatDb.perform,SeatDb.statement]
    cases e.fault with
    | some err => exact release_idle db i
    | none => exact hv
  | commit => exact commit_idle db i e
  | rollback => exact release_idle db i
  | _ => exact hv.offRow id

/-- A locking read by a call without an open transaction reads the committed row. -/
theorem selectForUpdate_reads {db : SeatDb ι} {i : ι} {e : SeatEnv} {row : Option SeatInventory}
    (hidle : Holds db i .idle) (hready : SeatDb.ready db i e .selectForUpdate)
    (hrow : (SeatDb.perform i e db .selectForUpdate).1 = .ok row) : row = db.row := by
  have hlock : db.lock = none := hidle.unlocked (locksOut_of_ready hready trivial)
  simp only [SeatDb.perform,SeatDb.statement,SeatDb.visible,hlock] at hrow
  cases hfault : e.fault with
  | some err =>
    rw [hfault] at hrow
    cases hrow
  | none =>
    rw [hfault] at hrow
    cases hr : db.row <;> simp_all

theorem lastNow_perform {db : SeatDb ι} {i : ι} {e : SeatEnv} {q : SeatOp} {t t' : Option Time}
    (h : clockAfter t q (SeatDb.perform i e db q).1 = t') : t' = some e.time ∨ t' = t := by
  cases q <;> simp_all [clockAfter,SeatDb.perform]

@[simp] theorem server_serve (i : ι) (e : SeatEnv) (db : SeatDb ι) (q : SeatOp) :
    (SeatDb.server ι).serve i e db q = SeatDb.perform i e { db with clock := e.time } q := rfl

theorem rowInv_kept (calls : ι → SeatCall) : Keeps (SeatDb.server ι) FlushesReclaimable
    (fun i => Allowed (calls i)) (fun _ => anyAnswer) RowInv := by
  intro db past i e q hinv hready hC hok
  have hle := clock_of_ready hready
  have hready' := ready_at_time hready
  have hview : ∀ j, Holds { db with clock := e.time } j (txView (past j)) :=
    fun j => (hinv.view j).congr rfl rfl hle
  simp only [server_serve]
  refine ⟨trivial,fun j => ?_,fun j t ht => ?_⟩
  · by_cases hj : j = i
    · subst hj
      simpa using perform_own (hview j) hready' rfl hC hok
    · simpa [hj] using perform_frame (hview j) hj hready'
  · rw [perform_clock hready']
    by_cases hj : j = i
    · subst hj
      rw [Function.update_self,lastNow_cons] at ht
      rcases lastNow_perform ht with hnow | hlast
      · exact le_of_eq (Option.some.inj hnow)
      · exact (hinv.clock j t hlast.symm).trans hle
    · rw [Function.update_of_ne hj] at ht
      exact (hinv.clock j t ht).trans hle

omit [DecidableEq ι] in
theorem disciplined_start (cfg : SeatConfig) (calls : ι → SeatCall) {db : SeatDb ι}
    (hlock : db.lock = none) :
    (Config.start db (fun i => (calls i).prog cfg)).Disciplined (fun i => Allowed (calls i))
      (fun _ => anyAnswer) (fun _ => Closed) (fun _ => Closed) RowInv :=
  Config.disciplined_start ⟨fun i w => by simp [hlock],fun i t ht => by cases ht⟩
    (fun i => prog_follows cfg (calls i))

/-- One step of a run replaces the committed row only as its call may. -/
theorem step_mayReplace {calls : ι → SeatCall} {c d : SeatRun ι} {i : ι} {e : SeatEnv}
    (hc : c.Disciplined (fun i => Allowed (calls i)) (fun _ => anyAnswer) (fun _ => Closed)
      (fun _ => Closed) RowInv) (hstep : c.advance (SeatDb.server ι) i e = some d)
    {b : SeatInventory} (hb : c.shared.row = some b) :
    ∃ w, d.shared.row = some w ∧ MayReplace (calls i) (some e.time) b w := by
  obtain ⟨q,k,hr,hready,rfl⟩ := Config.advance_cases hstep
  have hle := clock_of_ready hready
  rcases perform_row (ready_at_time hready) with hrow | ⟨rfl,w,hlock,hrow⟩
  · exact ⟨b,hrow.trans hb,fun _ => rfl,fun _ hne => absurd rfl hne⟩
  · refine ⟨w,hrow,?_⟩
    have hfol := hc.2 i
    rw [hr] at hfol
    have hok : Allowed (calls i) (c.past i) .commit := hfol.1
    have hv := hc.1.view i
    cases hview : txView (c.past i) with
    | idle =>
      rw [hview] at hv
      exact absurd hlock (hv w)
    | own b' w' =>
      rw [hview] at hv
      obtain rfl : b' = b := Option.some.inj (hv.2.symm.trans hb)
      obtain rfl : w' = w := by simpa using hv.1.symm.trans hlock
      exact (hok b' w' hview).later (fun t ht => (hc.1.clock i t ht).trans hle)
    | blind =>
      rw [hview] at hv
      obtain ⟨b',w',-,hrow',hrec⟩ := hv
      obtain rfl : b' = b := Option.some.inj (hrow'.symm.trans hb)
      exact (hrec.later hle).mayReplace _

/-- A committed sale is final, and a live hold is only ended by a call that spends it, in
every run whose unlocked `UPDATE`s land on reclaimable rows. -/
theorem committed_row_guarded (cfg : SeatConfig) (calls : ι → SeatCall) (db₀ : SeatDb ι)
    (hlock : db₀.lock = none) {c d : SeatRun ι}
    (hc : Config.Reach (SeatDb.server ι) FlushesReclaimable
      (.start db₀ (fun i => (calls i).prog cfg)) c)
    (hd : Config.Reach (SeatDb.server ι) FlushesReclaimable c d) :
    (∀ r, c.shared.row = some r → r.status = .sold → d.shared.row = some r) ∧
    ∀ i e d', d.advance (SeatDb.server ι) i e = some d' → ∀ r, d.shared.row = some r →
      r.status = .held → d'.shared.row ≠ some r →
        holdHasExpired r e.time ∨ (calls i).spends r := by
  have hcD := (disciplined_start cfg calls hlock).reach (rowInv_kept calls) hc
  constructor
  · intro r hr hsold
    induction hd with
    | refl => exact hr
    | tail hcm hs ih =>
      obtain ⟨i,e,hadv,-⟩ := hs
      obtain ⟨w,hw,hmay⟩ := step_mayReplace (hcD.reach (rowInv_kept calls) hcm) hadv ih
      rw [hw,hmay.sold hsold]
  · intro i e d' hadv r hr hheld hne
    obtain ⟨w,hw,hmay⟩ := step_mayReplace (hcD.reach (rowInv_kept calls) hd) hadv hr
    have hwr : w ≠ r := fun h => hne (h ▸ hw)
    rcases hmay.held hheld hwr with ⟨t,ht,hexp⟩ | hsp
    · exact .inl (Option.some.inj ht ▸ hexp)
    · exact .inr hsp

/-- A hold of one second, a status query that arrives as it runs out, and a sale. -/
def lateQuery : Fin 3 → SeatCall
  | 0 => .holdSeat ⟨7,1⟩
  | 1 => .getSeatStatus
  | 2 => .sellSeat ⟨7,.uuid 5⟩

def freeSeat : SeatDb (Fin 3) where
  row := some ⟨1,1,.available,none,none,none⟩
  lock := none
  clock := 0
  issued := []
  cache := none
  idempotent := ∅

def lateQueryStart : SeatRun (Fin 3) := .start freeSeat (fun i => (lateQuery i).prog ⟨3,3,false⟩)

/-- Participant `i` makes `n` statements at time `t`, with Redis unreachable. -/
def statements (i : Fin 3) (t : Time) (n : Nat) : List (Fin 3 × SeatEnv) :=
  List.replicate n (i,⟨t,5,false,none⟩)

def statusAfter (c : SeatRun (Fin 3)) : Option SeatStatus := c.shared.row.map (·.status)

/-- The query reads the row as the hold runs out; then the sale commits. -/
def afterSale : SeatRun (Fin 3) :=
  lateQueryStart.schedule (SeatDb.server _)
    (fun db past i e q => decide (FlushesReclaimable db past i e q))
    (statements 0 0 7 ++ statements 1 (seconds 1) 2 ++ statements 2 (seconds 1) 5)

theorem afterSale_reach : Config.Reach (SeatDb.server _) FlushesReclaimable lateQueryStart
    afterSale := Config.reach_schedule (fun _ _ _ _ _ h => of_decide_eq_true h) _ _

theorem committed_row_guarded_afterSale : statusAfter afterSale = some .sold ∧
    (∀ r, afterSale.shared.row = some r → r.status = .sold → afterSale.shared.row = some r) ∧
    ∀ i e d', afterSale.advance (SeatDb.server _) i e = some d' → ∀ r,
      afterSale.shared.row = some r → r.status = .held → d'.shared.row ≠ some r →
        holdHasExpired r e.time ∨ (lateQuery i).spends r :=
  ⟨rfl,committed_row_guarded ⟨3,3,false⟩ lateQuery freeSeat rfl afterSale_reach .refl⟩

/-- The query's `UPDATE` frees the seat that has been sold since its `SELECT`. -/
theorem late_query_frees_sold_seat : ∃ c d : SeatRun (Fin 3),
    Config.Reach (SeatDb.server _) Config.anyStep lateQueryStart c ∧
    Config.Reach (SeatDb.server _) Config.anyStep c d ∧
    c.result 2 = some (.spend true) ∧ statusAfter c = some .sold ∧
    statusAfter d = some .available := by
  refine ⟨afterSale,afterSale.schedule (SeatDb.server _) (fun _ _ _ _ _ => true)
    (statements 1 (seconds 1) 2),?_,?_,?_,?_,?_⟩
  · exact Config.reach_mono (fun _ _ _ _ _ _ => trivial) afterSale_reach
  · exact Config.reach_schedule (fun _ _ _ _ _ _ => trivial) _ _
  · rfl
  · rfl
  · rfl

end TicketRemaster.SeatInventory
