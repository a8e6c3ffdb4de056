import TicketRemaster.Lib.Interleaving
import TicketRemaster.Lib.ReadCommitted
import TicketRemaster.SeatInventory.Routes
set_option autoImplicit false

/-! `POST /inventory/batch`, one database statement at a time: what any number of requests leave in
the table. -/

namespace TicketRemaster.SeatInventory

open Resumption ReadCommitted

inductive ImportStatement where
  | existing (eventId : Json)
  | insert (eventId : Json) (seat : Json × String)
  | commit
  | rollback

/-- The query answers `none`, and another statement `false`, where the database raises. -/
@[reducible] def ImportStatement.Ans : ImportStatement → Type
  | .existing _ => Option Bool
  | .insert _ _ => Bool
  | .commit => Bool
  | .rollback => Unit

@[reducible] def ImportDb : Interface := ⟨ImportStatement,ImportStatement.Ans⟩

abbrev ImportRoute := Prog ImportDb Unit (Except ServiceError Nat)

section Route

/-- The event and the seats of a request, if they pass validation. -/
def validateBatch (body : Json) : Except ServiceError (Json × List (Json × String)) :=
  match if body.truthy then body else .obj [] with
  | .obj fields =>
      let eventId := Json.get fields "eventId"
      let seats := (fields.lookup "seats").getD (.arr [])
      if ¬ eventId.truthy ∨ ¬ seats.truthy then
        .error (validationError "Missing required fields: eventId, seats")
      else match seats with
        | .arr entries => (entries.mapM normalizeSeat).map (eventId,·)
        | _ => .error (validationError "seats must be a non-empty list")
  | _ => .error unhandledError

/-- The rows are inserted one after the other, up to the first that fails. -/
def insertSeats (eventId : Json) : List (Json × String) → Prog ImportDb Unit Bool
  | [] => .ret true
  | seat :: rest => .call (.insert eventId seat) fun inserted =>
      if inserted then insertSeats eventId rest else .ret false

def importFailed : ImportRoute :=
  .call .rollback fun _ => .ret (.error ⟨500,"DB_ERROR","Could not create inventory records"⟩)

def importRoute (body : Json) : ImportRoute :=
  match validateBatch body with
  | .error e => .ret (.error e)
  | .ok (eventId,seats) =>
      .call (.existing eventId) fun
        | none => .ret (.error unhandledError)
        | some true =>
            .ret (.error ⟨409,"ALREADY_EXISTS","Inventory already exists for this event"⟩)
        | some false => do
            if ← insertSeats eventId seats then
              .call .commit fun done =>
                if done then .ret (.ok seats.length) else importFailed
            else importFailed

/-- The route that is served in one go validates its body in the same way. -/
theorem createInventoryBatch_validates (cols : Columns) (ids : IdColumns)
    (keys : Nat → InventoryId) (db : Inventory) (body : Json) :
    (∀ e, validateBatch body = .error e →
      createInventoryBatch cols ids keys db body = (.error e,db)) ∧
    ∀ eventId seats, validateBatch body = .ok (eventId,seats) →
      createInventoryBatch cols ids keys db body = createRows cols ids keys db eventId seats := by
  unfold createInventoryBatch validateBatch
  generalize (if body.truthy then body else Json.obj []) = data
  cases data with
  | obj fields =>
    dsimp only
    split
    · simp
    · generalize (fields.lookup "seats").getD (.arr []) = seats
      cases seats with
      | arr entries => cases hentries : entries.mapM normalizeSeat <;> simp_all [Except.map]
      | _ => simp
  | _ => simp

end Route

/-- The key that the next row would get, and whether the database gives the transaction up, as it
does to end a deadlock. -/
structure ImportEnv where
  key : InventoryId
  aborted : Bool

section Server

variable (ι : Type) [DecidableEq ι] (cols : Columns) (ids : IdColumns)

abbrev ImportState := Db ι (InventoryId × SeatInventory) Inventory

def addRow (t : Inventory) (row : InventoryId × SeatInventory) : Inventory := t.insert row.1 row.2

/-- The row that an insert makes, if the columns take its values. -/
def rowOf (eventId : Json) (seat : Json × String) : Option SeatInventory :=
  (ids.stored eventId).bind fun event => newRow cols ids event seat

/-- The two rows cannot both be in the table. -/
def clashes (row : InventoryId × SeatInventory) (key : InventoryId) (r : SeatInventory) : Bool :=
  row.1 = key || row.2.eventId = r.eventId && row.2.seatId = r.seatId

/-- An insert waits for a transaction that has inserted a clashing row. -/
def importReady (db : ImportState ι) (i : ι) (e : ImportEnv) : ImportStatement → Bool
  | .insert eventId seat =>
      match rowOf cols ids eventId seat with
      | some r => e.aborted || !db.blocked i (clashes · e.key r)
      | none => true
  | _ => true

def importServe (i : ι) (e : ImportEnv) (db : ImportState ι) :
    (q : ImportStatement) → q.Ans × ImportState ι
  | .existing eventId =>
      (if e.aborted then none
        else (ids.operand eventId).map fun event =>
          ((db.view addRow i).findRow fun _ r => r.eventId = event).isSome,db)
  | .insert eventId seat =>
      match rowOf cols ids eventId seat with
      | some r =>
          if e.aborted ∨ (Table.findRow (db.view addRow i) fun k r' =>
              clashes (k,r') e.key r).isSome then (false,db)
          else (true,db.write i (e.key,r))
      | none => (false,db)
  | .commit => if e.aborted then (false,db) else (true,db.commit addRow i)
  | .rollback => ((),db.rollback i)

def importServer : Server ImportDb ι ImportEnv (ImportState ι) where
  ready := importReady ι cols ids
  serve := importServe ι cols ids

end Server

section History

def insertedBy : Entry ImportDb → List (Json × String)
  | ⟨.insert _ seat,true⟩ => [seat]
  | _ => []

/-- The seats that a request has inserted, in their order. -/
def inserted (h : List (Entry ImportDb)) : List (Json × String) := h.reverse.flatMap insertedBy

@[simp] theorem inserted_nil : inserted [] = [] := rfl

@[simp] theorem inserted_cons (x : Entry ImportDb) (h : List (Entry ImportDb)) :
    inserted (x :: h) = inserted h ++ insertedBy x := by
  simp [inserted]

def isCommit : Entry ImportDb → Bool
  | ⟨.commit,true⟩ => true
  | _ => false

/-- The transaction has ended. -/
def closes : Entry ImportDb → Bool
  | ⟨.rollback,_⟩ => true
  | x => isCommit x

/-- The event and the seats of a request; those of a refused one do not matter. -/
def eventIdOf (body : Json) : Json :=
  match validateBatch body with
  | .ok p => p.1
  | .error _ => .null

def seatsOf (body : Json) : List (Json × String) :=
  match validateBatch body with
  | .ok p => p.2
  | .error _ => []

/-- What a request may ask for: its inserts are for its event, and it commits when all its seats
are in, and asks for nothing after that. -/
def ImportOk (body : Json) (h : List (Entry ImportDb)) (q : ImportStatement) : Prop :=
  h.any closes = false ∧
    match q with
    | .insert eventId _ => eventId = eventIdOf body
    | .commit => inserted h = seatsOf body ∧ seatsOf body ≠ []
    | .existing _ | .rollback => True

/-- A request succeeds if it has committed. -/
def ImportFin (a : Except ServiceError Nat) (h : List (Entry ImportDb)) : Prop :=
  h.any isCommit = a.isOk

variable {body : Json}

theorem seatsOf_ne_nil {eventId : Json} {seats : List (Json × String)}
    (h : validateBatch body = .ok (eventId,seats)) : seats ≠ [] := by
  unfold validateBatch at h
  split at h
  case h_2 => cases h
  dsimp only at h
  split at h
  · cases h
  rename_i hseats
  split at h
  case h_2 => cases h
  rename_i entries hentries
  rw [hentries] at hseats
  cases entries with
  | nil => simp [Json.truthy] at hseats
  | cons entry rest =>
    rw [List.mapM_cons] at h
    cases hentry : normalizeSeat entry with
    | error e => simp [hentry,Except.map,bind,Except.bind] at h
    | ok seat =>
      cases hrest : rest.mapM normalizeSeat with
      | error e => simp [hentry,hrest,Except.map,bind,Except.bind] at h
      | ok rest' =>
        simp only [hentry,hrest,Except.map,bind,Except.bind,pure,Except.pure] at h
        cases h
        simp

abbrev Prog.ImportFollows (body : Json) {α : Type} (p : Prog ImportDb Unit α)
    (fin : α → List (Entry ImportDb) → Prop) (h : List (Entry ImportDb)) : Prop :=
  p.Follows (ImportOk body) (fun _ _ _ => True) fin (fun _ _ => False) h

theorem importFailed_follows {h : List (Entry ImportDb)} (hopen : h.any closes = false)
    (hcommit : h.any isCommit = false) : Prog.ImportFollows body importFailed ImportFin h := by
  refine ⟨⟨hopen,trivial⟩,fun _ _ => ?_⟩
  simp only [Prog.follows_ret,ImportFin,List.any_cons,hcommit]
  rfl

theorem insertSeats_follows {rest : List (Json × String)} {h : List (Entry ImportDb)}
    (hopen : h.any closes = false) (hcommit : h.any isCommit = false)
    (hseats : inserted h ++ rest = seatsOf body) :
    Prog.ImportFollows body (insertSeats (eventIdOf body) rest)
      (fun done h => h.any closes = false ∧ h.any isCommit = false ∧
        (done → inserted h = seatsOf body)) h := by
  induction rest generalizing h with
  | nil => exact ⟨hopen,hcommit,fun _ => by rwa [List.append_nil] at hseats⟩
  | cons seat rest ih =>
    refine ⟨⟨hopen,rfl⟩,fun done _ => ?_⟩
    cases done with
    | false => exact ⟨by simpa [closes,isCommit] using hopen,by simpa [isCommit] using hcommit,
      by simp⟩
    | true =>
      refine ih (by simpa [closes,isCommit] using hopen) (by simpa [isCommit] using hcommit) ?_
      rw [inserted_cons,List.append_assoc]
      exact hseats

theorem importRoute_follows : Prog.ImportFollows body (importRoute body) ImportFin [] := by
  unfold importRoute
  cases hbody : validateBatch body with
  | error e => rfl
  | ok p =>
    obtain ⟨eventId,seats⟩ := p
    have hevent : eventIdOf body = eventId := by simp [eventIdOf,hbody]
    have hseats : seatsOf body = seats := by simp [seatsOf,hbody]
    refine ⟨⟨rfl,trivial⟩,fun found _ => ?_⟩
    rcases found with _ | found
    · rfl
    cases found with
    | true => rfl
    | false =>
      refine Prog.follows_bind.mpr ?_
      rw [← hevent,← hseats]
      refine (insertSeats_follows rfl rfl rfl).mono (fun done h hdone => ?_) (fun _ _ => id)
      obtain ⟨hopen,hcommit,hall⟩ := hdone
      cases done with
      | false => exact importFailed_follows hopen hcommit
      | true =>
        refine ⟨⟨hopen,hall rfl,by rw [hseats]; exact seatsOf_ne_nil hbody⟩,fun done _ => ?_⟩
        cases done with
        | false =>
          exact importFailed_follows (by simpa [closes,isCommit] using hopen)
            (by simpa [isCommit] using hcommit)
        | true =>
          simp only [if_true,Prog.follows_ret,ImportFin,List.any_cons,isCommit]
          rfl

end History

section Rows

variable {ws : List (InventoryId × SeatInventory)} {t : Inventory}

/-- The rows of an event. -/
def rowsOf (event : EventId) (t : Inventory) : List SeatInventory :=
  (t.entries.map Sigma.snd).filter (·.eventId = event)

theorem clashes_symm (a b : InventoryId × SeatInventory) :
    clashes a b.1 b.2 = clashes b a.1 a.2 := by
  simp [clashes,eq_comm]

/-- Rows with new keys come before those that were there. -/
theorem foldl_addRow_entries (hnew : ∀ w ∈ ws, t.lookup w.1 = none)
    (hkeys : ws.Pairwise fun a b => a.1 ≠ b.1) :
    (ws.foldl addRow t).entries = (ws.map fun w => ⟨w.1,w.2⟩).reverse ++ t.entries := by
  induction ws generalizing t with
  | nil => rfl
  | cons w ws ih =>
    obtain ⟨hw,hws⟩ := List.pairwise_cons.mp hkeys
    have hfree : w.1 ∉ t := AList.lookup_eq_none.mp (hnew w List.mem_cons_self)
    have hnew' : ∀ w' ∈ ws, (addRow t w).lookup w'.1 = none := by
      intro w' hw'
      rw [addRow,AList.lookup_insert_ne (hw w' hw').symm]
      exact hnew w' (List.mem_cons_of_mem _ hw')
    rw [List.foldl_cons,ih hnew' hws,addRow,AList.entries_insert_of_notMem hfree]
    simp

theorem rowsOf_foldl (event : EventId) (hnew : ∀ w ∈ ws, t.lookup w.1 = none)
    (hkeys : ws.Pairwise fun a b => a.1 ≠ b.1) :
    rowsOf event (ws.foldl addRow t) =
      ((ws.map Prod.snd).filter (·.eventId = event)).reverse ++ rowsOf event t := by
  simp [rowsOf,foldl_addRow_entries hnew hkeys,List.map_reverse,List.filter_reverse,
    Function.comp_def]

end Rows

section Invariant

variable {ι : Type} [DecidableEq ι] (cols : Columns) (ids : IdColumns) (bodies : ι → Json)

/-- The uncommitted rows are those of the seats that their requests have inserted, and clash neither
with each other nor with the table. -/
structure ImportInv (s : ImportState ι) (past : ι → List (Entry ImportDb)) : Prop where
  own : ∀ i, (past i).any closes = false → List.Forall₂
    (fun w seat => rowOf cols ids (eventIdOf (bodies i)) seat = some w.2) (s.own i)
      (inserted (past i))
  closed : ∀ i, (past i).any closes = true → s.own i = []
  fresh : ∀ e ∈ s.pending, ∀ k r, s.committed.lookup k = some r →
    clashes (k,r) e.2.1 e.2.2 = false
  apart : s.pending.Pairwise fun a b => clashes a.2 b.2.1 b.2.2 = false

variable {cols ids bodies} {s : ImportState ι} {past : ι → List (Entry ImportDb)}

omit [DecidableEq ι] in
theorem new_of_fresh {e : ι × (InventoryId × SeatInventory)}
    (h : ∀ k r, s.committed.lookup k = some r → clashes (k,r) e.2.1 e.2.2 = false) :
    s.committed.lookup e.2.1 = none := by
  cases hr : s.committed.lookup e.2.1 with
  | none => rfl
  | some r => simpa [clashes] using h _ r hr

theorem own_new (hfresh : ∀ e ∈ s.pending, ∀ k r, s.committed.lookup k = some r →
    clashes (k,r) e.2.1 e.2.2 = false) (i : ι) : ∀ w ∈ s.own i, s.committed.lookup w.1 = none :=
  fun w hw => new_of_fresh (e := (i,w)) (hfresh _ (Db.mem_own.mp hw))

theorem own_apart (hapart : s.pending.Pairwise fun a b => clashes a.2 b.2.1 b.2.2 = false) (i : ι) :
    (s.own i).Pairwise fun a b => clashes a b.1 b.2 = false :=
  List.pairwise_map.mpr (hapart.filter _)

theorem own_keys (hapart : s.pending.Pairwise fun a b => clashes a.2 b.2.1 b.2.2 = false) (i : ι) :
    (s.own i).Pairwise fun a b => a.1 ≠ b.1 := by
  refine (own_apart hapart i).imp fun h heq => ?_
  simp [clashes,heq] at h

/-- The rows that a statement of the transaction sees. -/
theorem mem_view (h : ImportInv cols ids bodies s past) (i : ι) {w : InventoryId × SeatInventory} :
    (s.view addRow i).lookup w.1 = some w.2 ↔ w ∈ s.own i ∨ s.committed.lookup w.1 = some w.2 := by
  rw [← Option.mem_def,AList.mem_lookup_iff,Db.view,
    foldl_addRow_entries (own_new h.fresh i) (own_keys h.apart i),List.mem_append,List.mem_reverse,
    ← AList.mem_lookup_iff,Option.mem_def]
  refine or_congr_left ⟨fun hw => ?_,fun hw => List.mem_map.mpr ⟨w,hw,rfl⟩⟩
  obtain ⟨w',hw',heq⟩ := List.mem_map.mp hw
  cases w
  cases w'
  simp only [Sigma.mk.injEq,heq_eq_eq] at heq
  rw [← heq.1,← heq.2]
  exact hw'

theorem not_clashes_of_findRow {t : Inventory} {key : InventoryId} {r : SeatInventory}
    (h : ¬ (t.findRow fun k r' => clashes (k,r') key r).isSome) {k : InventoryId}
    {r' : SeatInventory} (hr' : t.lookup k = some r') : clashes (k,r') key r = false := by
  have hnone : ∀ k r', ⟨k,r'⟩ ∈ t.entries → clashes (k,r') key r = false := by
    simpa [Table.findRow] using h
  exact hnone k r' (AList.mem_lookup_iff.mp hr')

/-- A step that neither inserts nor ends a transaction. -/
theorem ImportInv.quiet (h : ImportInv cols ids bodies s past) {i : ι} {x : Entry ImportDb}
    (hinserted : insertedBy x = []) (hcloses : closes x = false) :
    ImportInv cols ids bodies s (Function.update past i (x :: past i)) where
  own j hj := by
    by_cases hji : j = i
    · subst hji
      rw [Function.update_self] at hj ⊢
      rw [inserted_cons,hinserted,List.append_nil]
      exact h.own j (by simpa [hcloses] using hj)
    · rw [Function.update_of_ne hji] at hj ⊢
      exact h.own j hj
  closed j hj := by
    by_cases hji : j = i
    · subst hji
      rw [Function.update_self] at hj
      exact h.closed j (by simpa [hcloses] using hj)
    · rw [Function.update_of_ne hji] at hj
      exact h.closed j hj
  fresh := h.fresh
  apart := h.apart

theorem ImportInv.insert (h : ImportInv cols ids bodies s past) {i : ι} {key : InventoryId}
    {seat : Json × String} {r : SeatInventory} (hopen : (past i).any closes = false)
    (hrow : rowOf cols ids (eventIdOf (bodies i)) seat = some r)
    (hready : s.blocked i (clashes · key r) = false)
    (hview : ¬ ((s.view addRow i).findRow fun k r' => clashes (k,r') key r).isSome) :
    ImportInv cols ids bodies (s.write i (key,r)) (Function.update past i
      (⟨.insert (eventIdOf (bodies i)) seat,true⟩ :: past i)) where
  own j hj := by
    by_cases hji : j = i
    · subst hji
      rw [Function.update_self,inserted_cons,Db.own_write_self]
      exact List.rel_append (h.own j hopen) (.cons hrow .nil)
    · rw [Function.update_of_ne hji] at hj ⊢
      rw [Db.own_write_ne hji]
      exact h.own j hj
  closed j hj := by
    by_cases hji : j = i
    · subst hji
      rw [Function.update_self] at hj
      simp [closes,isCommit,hopen] at hj
    · rw [Function.update_of_ne hji] at hj
      rw [Db.own_write_ne hji]
      exact h.closed j hj
  fresh e he k r' hr' := by
    rcases List.mem_append.mp he with he | he
    · exact h.fresh e he k r' hr'
    · rw [List.mem_singleton.mp he]
      exact not_clashes_of_findRow hview ((mem_view h i (w := (k,r'))).mpr (.inr hr'))
  apart := by
    refine List.pairwise_append.mpr ⟨h.apart,List.pairwise_singleton _ _,fun e he e' he' => ?_⟩
    rw [List.mem_singleton.mp he']
    by_cases hei : e.1 = i
    · have hown : e.2 ∈ s.own i := Db.mem_own.mpr (hei ▸ he)
      exact not_clashes_of_findRow hview ((mem_view h i (w := e.2)).mpr (.inl hown))
    · exact Db.blocked_eq_false.mp hready e he hei

theorem ImportInv.rollback (h : ImportInv cols ids bodies s past) (i : ι) :
    ImportInv cols ids bodies (s.rollback i)
      (Function.update past i (⟨.rollback,()⟩ :: past i)) where
  own j hj := by
    by_cases hji : j = i
    · subst hji
      rw [Function.update_self] at hj
      simp [closes] at hj
    · rw [Function.update_of_ne hji] at hj ⊢
      rw [Db.own_rollback_ne hji]
      exact h.own j hj
  closed j hj := by
    by_cases hji : j = i
    · subst hji
      exact Db.own_rollback_self
    · rw [Function.update_of_ne hji] at hj
      rw [Db.own_rollback_ne hji]
      exact h.closed j hj
  fresh e he := h.fresh e (Db.mem_pending_rollback.mp he).1
  apart := h.apart.filter _

theorem ImportInv.commit (h : ImportInv cols ids bodies s past) (i : ι) :
    ImportInv cols ids bodies (s.commit addRow i)
      (Function.update past i (⟨.commit,true⟩ :: past i)) where
  own j hj := by
    by_cases hji : j = i
    · subst hji
      rw [Function.update_self] at hj
      simp [closes,isCommit] at hj
    · rw [Function.update_of_ne hji] at hj ⊢
      rw [Db.own_commit_ne hji]
      exact h.own j hj
  closed j hj := by
    by_cases hji : j = i
    · subst hji
      exact Db.own_commit_self
    · rw [Function.update_of_ne hji] at hj
      rw [Db.own_commit_ne hji]
      exact h.closed j hj
  fresh e he k r hr := by
    obtain ⟨hpending,hei⟩ := Db.mem_pending_commit.mp he
    rcases (mem_view h i (w := (k,r))).mp hr with hown | hold
    · have hsymm : Std.Symm fun a b : ι × (InventoryId × SeatInventory) =>
          clashes a.2 b.2.1 b.2.2 = false := ⟨fun a b hab => (clashes_symm b.2 a.2).trans hab⟩
      exact h.apart.forall (Db.mem_own.mp hown) hpending fun heq => hei (heq ▸ rfl)
    · exact h.fresh e hpending k r hold
  apart := h.apart.filter _

theorem importInv_keeps : Keeps (importServer ι cols ids) Config.anyStep
    (fun i => ImportOk (bodies i)) (fun _ _ _ _ => True) (ImportInv cols ids bodies) := by
  intro s past i e q h hready _ hok
  refine ⟨trivial,?_⟩
  obtain ⟨hopen,hq⟩ := hok
  cases q with
  | existing eventId => exact h.quiet rfl rfl
  | insert eventId seat =>
    cases hq
    cases hrow : rowOf cols ids (eventIdOf (bodies i)) seat with
    | none =>
      simp only [importServer,importServe,hrow]
      exact h.quiet rfl rfl
    | some r =>
      simp only [importServer,importReady,hrow,Bool.or_eq_true,Bool.not_eq_true'] at hready
      simp only [importServer,importServe,hrow]
      split
      · exact h.quiet rfl rfl
      · rename_i hgood
        rw [not_or] at hgood
        exact h.insert hopen hrow (hready.resolve_left hgood.1) hgood.2
  | commit =>
    simp only [importServer,importServe]
    split
    · exact h.quiet rfl rfl
    · exact h.commit i
  | rollback => exact h.rollback i

end Invariant

section Outcome

variable {ι : Type} (cols : Columns) (ids : IdColumns) (bodies : ι → Json)

/-- The event that a request stores its rows for. -/
def target (i : ι) : Option EventId := ids.stored (eventIdOf (bodies i))

/-- The rows that a request makes. -/
def requestRows (i : ι) : Option (List SeatInventory) :=
  (seatsOf (bodies i)).mapM (rowOf cols ids (eventIdOf (bodies i)))

def Done (past : ι → List (Entry ImportDb)) (i : ι) : Prop := (past i).any isCommit = true

/-- The rows of an event are those of the one request for it that has committed, or those that were
there before. -/
structure Outcome (start : Inventory) (t : Inventory) (done : ι → Prop) : Prop where
  once : ∀ i j event, done i → done j → target ids bodies i = some event →
    target ids bodies j = some event → i = j
  exact : ∀ i event, done i → target ids bodies i = some event →
    ∃ rows, requestRows cols ids bodies i = some rows ∧ rows ≠ [] ∧ (rowsOf event t).Perm rows ∧
      (rows.map (·.seatId)).Nodup
  others : ∀ event, (∀ i, done i → target ids bodies i ≠ some event) →
    rowsOf event t = rowsOf event start

/-- A request commits when nothing has been committed for its event. -/
def Unraced (s : ImportState ι) (_past : ι → List (Entry ImportDb)) (i : ι) (e : ImportEnv)
    (q : ImportStatement) : Prop :=
  q = .commit → e.aborted = false → ∀ event, target ids bodies i = some event →
    rowsOf event s.committed = []

variable {cols ids bodies}

theorem rowOf_event {eventId : Json} {seat : Json × String} {r : SeatInventory}
    (h : rowOf cols ids eventId seat = some r) : ids.stored eventId = some r.eventId := by
  obtain ⟨event,hevent,hrow⟩ := Option.bind_eq_some_iff.mp h
  obtain ⟨seatId,-,hrest⟩ := Option.bind_eq_some_iff.mp hrow
  obtain ⟨status,-,hr⟩ := Option.bind_eq_some_iff.mp hrest
  cases hr
  exact hevent

section Forall₂

variable {α β γ : Type} {f : α → Option γ} {ws : List (β × γ)} {xs : List α}

theorem mapM_of_forall₂ (h : List.Forall₂ (fun w x => f x = some w.2) ws xs) :
    xs.mapM f = some (ws.map Prod.snd) := by
  induction h with
  | nil => rfl
  | cons hx _ ih =>
    rw [List.mapM_cons,hx,ih]
    rfl

theorem source_of_forall₂ (h : List.Forall₂ (fun w x => f x = some w.2) ws xs) :
    ∀ w ∈ ws, ∃ x, f x = some w.2 := by
  induction h with
  | nil => simp
  | cons hx _ ih => exact List.forall_mem_cons.mpr ⟨⟨_,hx⟩,ih⟩

end Forall₂

theorem rowsOf_event {event : EventId} {t : Inventory} {r : SeatInventory}
    (h : r ∈ rowsOf event t) : r.eventId = event := by
  simpa using (List.mem_filter.mp h).2

variable [DecidableEq ι] {s : ImportState ι} {past : ι → List (Entry ImportDb)} {i : ι}

/-- The rows of a request that is about to commit. -/
structure Committing (cols : Columns) (ids : IdColumns) (bodies : ι → Json) (s : ImportState ι)
    (i : ι) : Prop where
  request : requestRows cols ids bodies i = some ((s.own i).map Prod.snd)
  nonempty : (s.own i).map Prod.snd ≠ []
  event : ∀ w ∈ s.own i, target ids bodies i = some w.2.eventId
  seats : (((s.own i).map Prod.snd).map (·.seatId)).Nodup

theorem committing (h : ImportInv cols ids bodies s past)
    (hok : ImportOk (bodies i) (past i) .commit) : Committing cols ids bodies s i := by
  obtain ⟨hopen,hall,hne⟩ := hok
  have hown := h.own i hopen
  rw [hall] at hown
  have hevent : ∀ w ∈ s.own i, target ids bodies i = some w.2.eventId := by
    intro w hw
    obtain ⟨seat,hseat⟩ := source_of_forall₂ hown w hw
    exact rowOf_event hseat
  refine ⟨mapM_of_forall₂ hown,fun hnil => ?_,hevent,?_⟩
  · rw [List.map_eq_nil_iff.mp hnil,List.forall₂_nil_left_iff] at hown
    exact hne hown
  · rw [List.map_map]
    refine List.pairwise_map.mpr ((own_apart h.apart i).imp_of_mem fun ha hb hab heq => ?_)
    have hsame := Option.some.inj ((hevent _ ha).symm.trans (hevent _ hb))
    simp only [Function.comp_apply] at heq
    simp [clashes,hsame,heq] at hab

/-- The rows of an event after a commit. -/
theorem rowsOf_commit (h : ImportInv cols ids bodies s past) (event : EventId) :
    rowsOf event (s.commit addRow i).committed =
      (((s.own i).map Prod.snd).filter (·.eventId = event)).reverse ++ rowsOf event s.committed :=
  rowsOf_foldl event (own_new h.fresh i) (own_keys h.apart i)

theorem Committing.rowsOf_target (hc : Committing cols ids bodies s i)
    (h : ImportInv cols ids bodies s past) {event : EventId}
    (hevent : target ids bodies i = some event) :
    rowsOf event (s.commit addRow i).committed =
      ((s.own i).map Prod.snd).reverse ++ rowsOf event s.committed := by
  rw [rowsOf_commit h]
  congr 2
  refine List.filter_eq_self.mpr fun r hr => ?_
  obtain ⟨w,hw,rfl⟩ := List.mem_map.mp hr
  have hsame := Option.some.inj ((hc.event w hw).symm.trans hevent)
  simpa using hsame

theorem Committing.rowsOf_other (hc : Committing cols ids bodies s i)
    (h : ImportInv cols ids bodies s past) {event : EventId}
    (hevent : target ids bodies i ≠ some event) :
    rowsOf event (s.commit addRow i).committed = rowsOf event s.committed := by
  rw [rowsOf_commit h]
  have hnone : ((s.own i).map Prod.snd).filter (·.eventId = event) = [] := by
    refine List.filter_eq_nil_iff.mpr fun r hr => ?_
    obtain ⟨w,hw,rfl⟩ := List.mem_map.mp hr
    intro hsame
    exact hevent ((hc.event w hw).trans (congrArg some (by simpa using hsame)))
  rw [hnone]
  rfl

variable {start : Inventory}

omit [DecidableEq ι] in
theorem Outcome.congr {t : Inventory} {done done' : ι → Prop}
    (h : Outcome cols ids bodies start t done) (hdone : ∀ j, done' j ↔ done j) :
    Outcome cols ids bodies start t done' where
  once i j event hi hj := h.once i j event ((hdone i).mp hi) ((hdone j).mp hj)
  exact i event hi := h.exact i event ((hdone i).mp hi)
  others event hno := h.others event fun i hi => hno i ((hdone i).mpr hi)

/-- One more request commits, with nothing committed for its event so far. -/
theorem Outcome.commit (ho : Outcome cols ids bodies start s.committed (Done past))
    (h : ImportInv cols ids bodies s past) (hc : Committing cols ids bodies s i)
    (hfree : ∀ event, target ids bodies i = some event → rowsOf event s.committed = []) :
    Outcome cols ids bodies start (s.commit addRow i).committed
      (fun j => j = i ∨ Done past j) := by
  have hnobody : ∀ j event, Done past j → target ids bodies j = some event →
      target ids bodies i ≠ some event := by
    intro j event hj hjevent hi
    obtain ⟨rows,-,hne,hperm,-⟩ := ho.exact j event hj hjevent
    rw [hfree event hi] at hperm
    exact hne hperm.nil_eq.symm
  constructor
  · rintro j k event (rfl | hj) (rfl | hk) hjevent hkevent
    · rfl
    · exact absurd hjevent (hnobody k event hk hkevent)
    · exact absurd hkevent (hnobody j event hj hjevent)
    · exact ho.once j k event hj hk hjevent hkevent
  · rintro j event (rfl | hj) hjevent
    · refine ⟨_,hc.request,hc.nonempty,?_,hc.seats⟩
      rw [hc.rowsOf_target h hjevent,hfree event hjevent,List.append_nil]
      exact List.reverse_perm _
    · rw [hc.rowsOf_other h (hnobody j event hj hjevent)]
      exact ho.exact j event hj hjevent
  · intro event hno
    rw [hc.rowsOf_other h (hno i (.inl rfl))]
    exact ho.others event fun j hj => hno j (.inr hj)

end Outcome

section Run

variable {ι : Type} [DecidableEq ι]

abbrev ImportRun (ι : Type) := Config ι ImportDb Unit (Except ServiceError Nat) (ImportState ι)

def startImports (db : Inventory) (bodies : ι → Json) : ImportRun ι :=
  .start ⟨db,[]⟩ fun i => importRoute (bodies i)

/-- The request has been answered with 201. -/
def Answered201 (c : ImportRun ι) (i : ι) : Prop := ∃ n, c.result i = some (.ok n)

abbrev ImportDisciplined (bodies : ι → Json)
    (inv : ImportState ι → (ι → List (Entry ImportDb)) → Prop) (c : ImportRun ι) : Prop :=
  c.Disciplined (fun i => ImportOk (bodies i)) (fun _ _ _ _ => True) (fun _ => ImportFin)
    (fun _ _ _ => False) inv

variable {cols : Columns} {ids : IdColumns} {bodies : ι → Json} {db : Inventory}
  {inv : ImportState ι → (ι → List (Entry ImportDb)) → Prop} {c d : ImportRun ι} {i : ι}

omit [DecidableEq ι] in
theorem closes_of_isCommit {x : Entry ImportDb} (h : isCommit x = true) : closes x = true := by
  unfold closes
  split
  · rfl
  · exact h

omit [DecidableEq ι] in
/-- The requests answered with 201 are those that have committed. -/
theorem imported_iff_done (hc : ImportDisciplined bodies inv c) :
    Answered201 c i ↔ Done c.past i := by
  constructor
  · rintro ⟨n,hn⟩
    exact hc.result hn
  · intro hdone
    have hfol := hc.2 i
    unfold Answered201 Config.result
    cases hr : (c.thread i).rest with
    | ret a =>
      rw [hr] at hfol
      have hok : a.isOk = true := hfol.symm.trans hdone
      cases a with
      | error e => cases hok
      | ok n => exact ⟨n,rfl⟩
    | raise e =>
      rw [hr] at hfol
      exact hfol.elim
    | call q k =>
      rw [hr] at hfol
      obtain ⟨x,hx,hcommit⟩ := List.any_eq_true.mp hdone
      have hclosed : (c.past i).any closes = true :=
        List.any_eq_true.mpr ⟨x,hx,closes_of_isCommit hcommit⟩
      have hopen : (c.past i).any closes = false := hfol.1.1
      rw [hclosed] at hopen
      cases hopen

theorem importInv_start : ImportInv cols ids bodies ⟨db,[]⟩ fun _ => [] where
  own _ _ := .nil
  closed _ _ := rfl
  fresh := by simp
  apart := .nil

omit [DecidableEq ι] in
theorem outcome_start : Outcome cols ids bodies db db (Done fun _ => []) where
  once i j event hi := by cases hi
  exact i event hi := by cases hi
  others _ _ := rfl

theorem done_quiet {past : ι → List (Entry ImportDb)} {x : Entry ImportDb}
    (hx : isCommit x = false) (j : ι) :
    Done (Function.update past i (x :: past i)) j ↔ Done past j := by
  by_cases hj : j = i
  · subst hj
    simp [Done,hx]
  · simp [Done,hj]

theorem done_commit {past : ι → List (Entry ImportDb)} {x : Entry ImportDb}
    (hx : isCommit x = true) (j : ι) :
    Done (Function.update past i (x :: past i)) j ↔ j = i ∨ Done past j := by
  by_cases hj : j = i
  · subst hj
    simp [Done,hx]
  · simp [Done,hj]

/-- What an unraced step keeps. -/
theorem outcome_keeps : Keeps (importServer ι cols ids) (Unraced ids bodies)
    (fun i => ImportOk (bodies i)) (fun _ _ _ _ => True)
    (fun s past => ImportInv cols ids bodies s past ∧
      Outcome cols ids bodies db s.committed (Done past)) := by
  rintro s past i e q ⟨hinv,ho⟩ hready hunraced hok
  obtain ⟨-,hinv'⟩ := importInv_keeps s past i e q hinv hready trivial hok
  refine ⟨trivial,hinv',?_⟩
  cases q with
  | existing eventId => exact ho.congr (done_quiet rfl)
  | insert eventId seat =>
    simp only [importServer,importServe]
    split
    · split <;> exact ho.congr (done_quiet rfl)
    · exact ho.congr (done_quiet rfl)
  | rollback => exact ho.congr (done_quiet rfl)
  | commit =>
    simp only [importServer,importServe]
    split
    · exact ho.congr (done_quiet rfl)
    · rename_i hgood
      exact (ho.commit hinv (committing hinv hok)
        (hunraced rfl (by simpa using hgood))).congr (done_commit rfl)

/-- The requests answered with 201, and what they have left in the table. -/
def ImportedOnce (cols : Columns) (ids : IdColumns) (bodies : ι → Json) (db : Inventory)
    (c : ImportRun ι) : Prop :=
  Outcome cols ids bodies db c.shared.committed (Answered201 c)

theorem importInv_reach
    (hc : Config.Reach (importServer ι cols ids) Config.anyStep (startImports db bodies) c) :
    ImportDisciplined bodies (ImportInv cols ids bodies) c :=
  (Config.disciplined_start importInv_start fun _ => importRoute_follows).reach importInv_keeps hc

/-- After a commit for an event that has rows, these are not the rows of one request. -/
theorem raced_commit
    (hc : Config.Reach (importServer ι cols ids) Config.anyStep (startImports db bodies) c)
    {e : ImportEnv} (hadv : c.advance (importServer ι cols ids) i e = some d)
    {q : ImportStatement} {k : q.Ans → ImportRoute} (hq : (c.thread i).rest = .call q k)
    (hraced : ¬ Unraced ids bodies c.shared c.past i e q) :
    ¬ ImportedOnce cols ids bodies db d := by
  intro ho
  unfold Unraced at hraced
  push Not at hraced
  obtain ⟨rfl,hgood,event,hevent,hrows⟩ := hraced
  have hdisc := importInv_reach hc
  have hok := hdisc.2 i
  rw [hq] at hok
  have hcommitting := committing hdisc.1 hok.1
  have hd := importInv_reach (hc.tail ⟨i,e,hadv,fun _ _ _ => trivial⟩)
  obtain ⟨q',k',hq',-,rfl⟩ := Config.advance_cases hadv
  cases hq.symm.trans hq'
  have hdone : Answered201 _ i := (imported_iff_done hd).mpr (by
    rw [Config.past_update]
    exact (done_commit (by simp [importServer,importServe,hgood,isCommit]) i).mpr (.inl rfl))
  obtain ⟨rows,hrequest,-,hperm,-⟩ := ho.exact i event hdone hevent
  rw [hcommitting.request] at hrequest
  cases hrequest
  simp only [importServer,importServe,hgood,Bool.false_eq_true,if_false] at hperm
  rw [hcommitting.rowsOf_target hdisc.1 hevent] at hperm
  have hlen := hperm.length_eq
  rw [List.length_append,List.length_reverse] at hlen
  exact hrows (List.eq_nil_of_length_eq_zero (by omega))

/-- Requests with a seat in common cannot both commit: the rows of the one would clash with those of
the other. -/
theorem unraced_of_overlap {s : ImportState ι} {past : ι → List (Entry ImportDb)} {e : ImportEnv}
    {q : ImportStatement} (hempty : ∀ i event, target ids bodies i = some event →
      rowsOf event db = [])
    (hoverlap : ∀ i j rows rows', i ≠ j → target ids bodies i = target ids bodies j →
      requestRows cols ids bodies i = some rows → requestRows cols ids bodies j = some rows' →
      ∃ r ∈ rows, ∃ r' ∈ rows', r.seatId = r'.seatId)
    (hinv : ImportInv cols ids bodies s past)
    (ho : Outcome cols ids bodies db s.committed (Done past))
    (hok : ImportOk (bodies i) (past i) q) : Unraced ids bodies s past i e q := by
  rintro rfl - event hevent
  have hc := committing hinv hok
  by_cases hdone : ∃ j, Done past j ∧ target ids bodies j = some event
  · obtain ⟨j,hj,hjevent⟩ := hdone
    have hij : i ≠ j := by
      rintro rfl
      obtain ⟨x,hx,hcommit⟩ := List.any_eq_true.mp hj
      have hopen := List.any_eq_false.mp hok.1 x hx
      exact absurd (closes_of_isCommit hcommit) hopen
    obtain ⟨rows,hrequest,-,hperm,-⟩ := ho.exact j event hj hjevent
    obtain ⟨r,hr,r',hr',hseat⟩ :=
      hoverlap i j _ rows hij (hevent.trans hjevent.symm) hc.request hrequest
    obtain ⟨w,hw,rfl⟩ := List.mem_map.mp hr
    have hstored := hperm.mem_iff.mpr hr'
    obtain ⟨entry,hentry,hrow⟩ := List.mem_map.mp (List.mem_filter.mp hstored).1
    have hclash := hinv.fresh _ (Db.mem_own.mp hw) entry.1 entry.2 (AList.mem_lookup_iff.mpr hentry)
    have hsame : entry.2.eventId = w.2.eventId := by
      rw [hrow,rowsOf_event hstored]
      exact Option.some.inj (hevent.symm.trans (hc.event w hw))
    rw [hrow] at hsame hclash
    simp [clashes,hsame,hseat] at hclash
  · rw [ho.others event fun j hj hjevent => hdone ⟨j,hj,hjevent⟩]
    exact hempty i event hevent

end Run

/-- In a run in which nobody commits for an event that has rows, the event has the rows of the one
request answered with 201; where somebody does, it has not. Nobody does among requests any two of
which have a seat in common. -/
theorem imported_once_iff {ι : Type} [DecidableEq ι] (cols : Columns) (ids : IdColumns)
    (bodies : ι → Json) (db : Inventory) :
    (∀ c, Config.Reach (importServer ι cols ids) (Unraced ids bodies) (startImports db bodies) c →
      ImportedOnce cols ids bodies db c) ∧
    (∀ c d i e q k,
      Config.Reach (importServer ι cols ids) Config.anyStep (startImports db bodies) c →
      c.advance (importServer ι cols ids) i e = some d → (c.thread i).rest = .call q k →
      ¬ Unraced ids bodies c.shared c.past i e q → ¬ ImportedOnce cols ids bodies db d) ∧
    ((∀ i event, target ids bodies i = some event → rowsOf event db = []) →
      (∀ i j rows rows', i ≠ j → target ids bodies i = target ids bodies j →
        requestRows cols ids bodies i = some rows → requestRows cols ids bodies j = some rows' →
        ∃ r ∈ rows, ∃ r' ∈ rows', r.seatId = r'.seatId) →
      ∀ c, Config.Reach (importServer ι cols ids) Config.anyStep (startImports db bodies) c →
        ImportedOnce cols ids bodies db c) := by
  have hstart : ImportDisciplined bodies (fun s past => ImportInv cols ids bodies s past ∧
      Outcome cols ids bodies db s.committed (Done past)) (startImports db bodies) :=
    Config.disciplined_start ⟨importInv_start,outcome_start⟩ fun _ => importRoute_follows
  refine ⟨fun c hc => ?_,fun c d i e q k hc hadv hq hraced => raced_commit hc hadv hq hraced,
    fun hempty hoverlap c hc => ?_⟩
  · have hd := hstart.reach outcome_keeps hc
    exact hd.1.2.congr fun j => imported_iff_done hd
  · have hd := hstart.reach (fun s past i e q hinv hready _ hok => outcome_keeps s past i e q hinv
      hready (unraced_of_overlap hempty hoverlap hinv.1 hinv.2 hok) hok) hc
    exact hd.1.2.congr fun j => imported_iff_done hd

section Raced

/-- Three names are in use as identifiers. -/
def importIds : IdColumns where
  operand
    | .str s => some (if s = "evt" then 1 else if s = "A1" then 2 else if s = "A2" then 3 else 0)
    | _ => none
  stored
    | .str s => some (if s = "evt" then 1 else if s = "A1" then 2 else if s = "A2" then 3 else 0)
    | _ => none

/-- Two requests for one event, with a seat each. -/
def disjoint : Bool → Json
  | first => .obj [("eventId",.str "evt"),
      ("seats",.arr [.obj [("seatId",.str (if first then "A1" else "A2"))]])]

def importEnv (first : Bool) : ImportEnv := ⟨if first then 5 else 6,false⟩

/-- Commits go to an empty table. -/
def intoEmpty (s : ImportState Bool) (_past : Bool → List (Entry ImportDb)) (_i : Bool)
    (_e : ImportEnv) : ImportStatement → Bool
  | .commit => s.committed.entries.isEmpty
  | _ => true

def oneAfterTheOther : ImportRun Bool :=
  (startImports ∅ disjoint).schedule (importServer Bool .plain importIds) intoEmpty
    ([true,true,true,false].map fun i => (i,importEnv i))

def sideBySide : ImportRun Bool :=
  (startImports ∅ disjoint).schedule (importServer Bool .plain importIds) (fun _ _ _ _ _ => true)
    ([true,false,true,false,true,false].map fun i => (i,importEnv i))

theorem imported_once_oneAfterTheOther :
    oneAfterTheOther.result true = some (.ok 1) ∧
      (∃ e, oneAfterTheOther.result false = some (.error e) ∧ e.status = 409) ∧
      ImportedOnce .plain importIds disjoint ∅ oneAfterTheOther := by
  refine ⟨by rfl,⟨_,by rfl,by rfl⟩,?_⟩
  refine (imported_once_iff .plain importIds disjoint ∅).1 _ (Config.reach_schedule ?_ _ _)
  rintro s past i e q hcheck rfl - event -
  have hempty : s.committed.entries = [] := by simpa [intoEmpty] using hcheck
  simp [rowsOf,hempty]

/-- Both requests find no row of the event, and both are answered with 201. -/
theorem disjoint_imports_both :
    sideBySide.result true = some (.ok 1) ∧ sideBySide.result false = some (.ok 1) ∧
      (rowsOf 1 sideBySide.shared.committed).map (·.seatId) = [3,2] ∧
      ¬ ImportedOnce .plain importIds disjoint ∅ sideBySide := by
  refine ⟨by rfl,by rfl,by decide +kernel,fun h => ?_⟩
  have hsame := h.once true false 1 ⟨1,by rfl⟩ ⟨1,by rfl⟩ (by rfl) (by rfl)
  cases hsame

end Raced

end TicketRemaster.SeatInventory
