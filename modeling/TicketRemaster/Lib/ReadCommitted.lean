import Mathlib.Data.List.Basic
set_option autoImplicit false

/-! Open transactions over one database: each sees what is committed and what it has written
itself, and its writes become everybody's when it commits. -/

namespace ReadCommitted

/-- The committed state, and what the open transactions have written, the oldest first. -/
structure Db (ι W σ : Type) where
  committed : σ
  pending : List (ι × W)

variable {ι W σ : Type} [DecidableEq ι]

namespace Db

/-- The uncommitted writes of a transaction. -/
def own (db : Db ι W σ) (i : ι) : List W := (db.pending.filter (·.1 = i)).map Prod.snd

/-- Another transaction has an uncommitted write of this kind. -/
def blocked (db : Db ι W σ) (i : ι) (p : W → Bool) : Bool :=
  db.pending.any fun e => e.1 ≠ i && p e.2

def write (db : Db ι W σ) (i : ι) (w : W) : Db ι W σ :=
  { db with pending := db.pending ++ [(i,w)] }

def rollback (db : Db ι W σ) (i : ι) : Db ι W σ :=
  { db with pending := db.pending.filter (·.1 ≠ i) }

variable (apply : σ → W → σ)

/-- What a statement of the transaction sees. -/
def view (db : Db ι W σ) (i : ι) : σ := (db.own i).foldl apply db.committed

def commit (db : Db ι W σ) (i : ι) : Db ι W σ :=
  ⟨db.view apply i,db.pending.filter (·.1 ≠ i)⟩

variable {apply} {db : Db ι W σ} {i j : ι} {w : W}

@[simp] theorem own_write_self : (db.write i w).own i = db.own i ++ [w] := by
  simp [own,write]

theorem own_write_ne (h : j ≠ i) : (db.write i w).own j = db.own j := by
  simp [own,write,h.symm]

theorem mem_own : w ∈ db.own i ↔ (i,w) ∈ db.pending := by
  simp [own]

@[simp] theorem own_rollback_self : (db.rollback i).own i = [] := by
  simp [own,rollback,List.filter_filter]

theorem own_rollback_ne (h : j ≠ i) : (db.rollback i).own j = db.own j := by
  simp only [own,rollback,List.filter_filter]
  congr 1
  refine List.filter_congr fun e _ => ?_
  by_cases he : e.1 = j
  · simp [he,h]
  · simp [he]

@[simp] theorem own_commit_self : (db.commit apply i).own i = [] := own_rollback_self

theorem own_commit_ne (h : j ≠ i) : (db.commit apply i).own j = db.own j := own_rollback_ne h

theorem mem_pending_rollback {e : ι × W} :
    e ∈ (db.rollback i).pending ↔ e ∈ db.pending ∧ e.1 ≠ i := by
  simp [rollback]

theorem mem_pending_commit {e : ι × W} :
    e ∈ (db.commit apply i).pending ↔ e ∈ db.pending ∧ e.1 ≠ i := mem_pending_rollback

/-- What is not blocked clashes with no other transaction. -/
theorem blocked_eq_false {p : W → Bool} :
    db.blocked i p = false ↔ ∀ e ∈ db.pending, e.1 ≠ i → p e.2 = false := by
  simp [blocked,List.any_eq_false]

/-- `inv` holds of the committed state, and every uncommitted write is one of `P`. -/
structure Keeping (inv : σ → Prop) (P : W → Prop) (db : Db ι W σ) : Prop where
  committed : inv db.committed
  pending : ∀ e ∈ db.pending, P e.2

variable {inv : σ → Prop} {P : W → Prop}

omit [DecidableEq ι] in
theorem Keeping.write (h : db.Keeping inv P) (hw : P w) : (db.write i w).Keeping inv P where
  committed := h.committed
  pending := by
    intro e he
    rcases List.mem_append.mp he with he | he
    · exact h.pending e he
    · rw [List.mem_singleton.mp he]
      exact hw

theorem Keeping.rollback (h : db.Keeping inv P) : (db.rollback i).Keeping inv P where
  committed := h.committed
  pending e he := h.pending e (mem_pending_rollback.mp he).1

/-- Writes that keep `inv` keep it when they are committed. -/
theorem Keeping.commit (h : db.Keeping inv P) (happly : ∀ s w, inv s → P w → inv (apply s w)) :
    (db.commit apply i).Keeping inv P where
  committed := by
    have hown : ∀ w ∈ db.own i, P w := fun w hw => h.pending _ (mem_own.mp hw)
    show inv ((db.own i).foldl apply db.committed)
    have hfold : ∀ (ws : List W) (s : σ), inv s → (∀ w ∈ ws, P w) → inv (ws.foldl apply s) := by
      intro ws
      induction ws with
      | nil => exact fun s hs _ => hs
      | cons w ws ih =>
        intro s hs hws
        exact ih _ (happly s w hs (hws w List.mem_cons_self))
          fun w' hw' => hws w' (List.mem_cons_of_mem _ hw')
    exact hfold _ _ h.committed hown
  pending e he := h.pending e (mem_pending_commit.mp he).1

end Db

end ReadCommitted
