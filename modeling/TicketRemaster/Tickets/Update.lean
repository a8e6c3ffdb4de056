import TicketRemaster.Services.Json
set_option autoImplicit false

/-! `PATCH /tickets/<ticket_id>` of ticket-service for bodies of any kind: all the fields of a body
are written, or nothing is. -/

namespace TicketRemaster.TicketService

/-- A row of `tickets`, without its key. -/
structure Ticket where
  inventoryId : String
  ownerId : String
  venueId : String
  eventId : String
  price : ℚ
  status : String
  qrHash : Option String
  qrTimestamp : Option Time
  createdAt : Time
  deriving DecidableEq

def UniqueQrHashes (rows : Table TicketId Ticket) : Prop :=
  ∀ i j t t' hash, rows.lookup i = some t → rows.lookup j = some t' →
    t.qrHash = some hash → t'.qrHash = some hash → i = j

/-- The table, under its uniqueness constraint. -/
structure Tickets where
  rows : Table TicketId Ticket
  unique : UniqueQrHashes rows

def updatableFields : List String := ["status","ownerId","qrHash","qrTimestamp"]

def allowedStatusValues : List String := ["active","listed","used","pending_transfer"]

variable (cols : Columns)

/-- The attributes that have been assigned to a row in the session. -/
structure Assigned where
  status : Option Json := none
  ownerId : Option Json := none
  qrHash : Option Json := none
  qrTimestamp : Option (Option Time) := none

/-- `parse_datetime` inside its `try`. -/
def parseTimestamp : Json → Except ServiceError (Option Time)
  | .null => .ok none
  | .str value =>
      match cols.fromisoformat (value.replace "Z" "+00:00") with
      | some t => .ok (some t)
      | none => .error ⟨400,"INVALID_DATETIME","Invalid datetime format"⟩
  | _ => .error unhandledError

def assignFields : List (String × Json) → Assigned → Except ServiceError Assigned
  | [], row => .ok row
  | (field,value) :: rest, row =>
      if field = "qrTimestamp" then
        match parseTimestamp cols value with
        | .error e => .error e
        | .ok t => assignFields rest { row with qrTimestamp := some t }
      else if field = "status" then assignFields rest { row with status := some value }
      else if field = "ownerId" then assignFields rest { row with ownerId := some value }
      else assignFields rest { row with qrHash := some value }

inductive CommitError where
  | integrityError
  | dataError

/-- The text for a column of at most `n` characters, if it takes the value. -/
def columnText (n : Nat) (old : Option String) : Option Json → Except CommitError (Option String)
  | none => .ok old
  | some .null => .ok none
  | some value =>
      match cols.varchar n value with
      | some text => .ok (some text)
      | none => .error .dataError

/-- The row as the database would have it after the update. -/
def Assigned.flush (row : Assigned) (old : Ticket) : Except CommitError Ticket := do
  let status ← columnText cols 20 (some old.status) row.status
  let ownerId ← columnText cols 36 (some old.ownerId) row.ownerId
  let qrHash ← columnText cols 64 old.qrHash row.qrHash
  match status, ownerId with
  | some status, some ownerId => .ok { old with
      status := status
      ownerId := ownerId
      qrHash := qrHash
      qrTimestamp := row.qrTimestamp.getD old.qrTimestamp }
  | _, _ => .error .integrityError

def taken (db : Tickets) (ticketId : TicketId) (new : Ticket) : Bool :=
  db.rows.entries.any fun e =>
    e.1 ≠ ticketId && new.qrHash.isSome && e.2.qrHash = new.qrHash

theorem unique_insert {db : Tickets} {ticketId : TicketId} {new : Ticket}
    (h : taken db ticketId new = false) : UniqueQrHashes (db.rows.insert ticketId new) := by
  have hother : ∀ i t hash, i ≠ ticketId → db.rows.lookup i = some t → t.qrHash = some hash →
      new.qrHash ≠ some hash := by
    intro i t hash hi ht hhash hnew
    have hmem := AList.mem_lookup_iff.mp ht
    have hfree := List.any_eq_false.mp h _ hmem
    simp [hi,hnew,hhash] at hfree
  intro i j t t' hash hi hj ht ht'
  rcases Table.lookup_insert_cases hi with ⟨hi',rfl⟩ | ⟨hi',hold⟩ <;>
    rcases Table.lookup_insert_cases hj with ⟨hj',rfl⟩ | ⟨hj',hold'⟩
  · rw [hi',hj']
  · exact absurd ht (hother j t' hash hj' hold' ht')
  · exact absurd ht' (hother i t hash hi' hold ht)
  · exact db.unique i j t t' hash hold hold' ht ht'

/-- The row is written, unless the uniqueness constraint forbids it. -/
def store (db : Tickets) (ticketId : TicketId) (new : Ticket) : Except CommitError Tickets :=
  if h : taken db ticketId new = false then .ok ⟨db.rows.insert ticketId new,unique_insert h⟩
  else .error .integrityError

abbrev Answered := Except ServiceError (TicketId × Ticket) × Tickets

def duplicateQrHash : ServiceError := ⟨409,"DUPLICATE_QR_HASH","QR hash already exists"⟩

/-- The test of the status, which raises for a value that has no hash. -/
def statusError (fields : List (String × Json)) : Option ServiceError :=
  match fields.lookup "status" with
  | none => none
  | some (.str status) =>
      if status ∈ allowedStatusValues then none else some (validationError "Invalid status value")
  | some (.arr _) | some (.obj _) => some unhandledError
  | some _ => some (validationError "Invalid status value")

/-- The commit of what has been assigned to a row. -/
def Assigned.commit (row : Assigned) (db : Tickets) (ticketId : TicketId) (old : Ticket) :
    Except CommitError (Ticket × Tickets) := do
  let new ← row.flush cols old
  let db' ← store db ticketId new
  pure (new,db')

/-- `PATCH /tickets/<ticket_id>`. -/
def updateTicket (db : Tickets) (ticketId : TicketId) (data : Json) : Answered :=
  if ¬ data.truthy then (.error (validationError "Request body is required"),db)
  else match data with
    | .obj fields =>
        if fields.any (·.1 ∉ updatableFields) then
          (.error (validationError "Request contains unsupported fields"),db)
        else match db.rows.lookup ticketId with
          | none => (.error ⟨404,"TICKET_NOT_FOUND","Ticket not found"⟩,db)
          | some ticket =>
              match statusError fields with
              | some e => (.error e,db)
              | none =>
                  match assignFields cols fields {} with
                  | .error e => (.error e,db)
                  | .ok row =>
                      match row.commit cols db ticketId ticket with
                      | .ok (new,db') => (.ok (ticketId,new),db')
                      | .error .integrityError => (.error duplicateQrHash,db)
                      | .error .dataError => (.error unhandledError,db)
    | _ => (.error unhandledError,db)

/-- What a column of texts holds after an update, given the value in the body, if any. -/
def TextGiven (n : Nat) (given : Option Json) (old new : Option String) : Prop :=
  match given with
  | none => new = old
  | some .null => new = none
  | some (.str s) => if s.length ≤ n then new = some s else cols.varchar n (.str s) = new
  | some value => cols.varchar n value = new

def TimestampGiven (given : Option Json) (old new : Option Time) : Prop :=
  match given with
  | none => new = old
  | some value => parseTimestamp cols value = .ok new

/-- Exactly the fields of the body have been written. -/
structure Updated (fields : List (String × Json)) (old new : Ticket) : Prop where
  status : TextGiven cols 20 (fields.lookup "status") (some old.status) (some new.status)
  ownerId : TextGiven cols 36 (fields.lookup "ownerId") (some old.ownerId) (some new.ownerId)
  qrHash : TextGiven cols 64 (fields.lookup "qrHash") old.qrHash new.qrHash
  qrTimestamp : TimestampGiven cols (fields.lookup "qrTimestamp") old.qrTimestamp new.qrTimestamp
  others : (new.inventoryId,new.venueId,new.eventId,new.price,new.createdAt) =
    (old.inventoryId,old.venueId,old.eventId,old.price,old.createdAt)

def DistinctKeys (fields : List (String × Json)) : Prop := (fields.map Prod.fst).Nodup

section Updated

variable {cols}

theorem columnText_some {n : Nat} {value : Json} {old new : Option String} (hvalue : value ≠ .null)
    (h : columnText cols n old (some value) = .ok new) : cols.varchar n value = new := by
  unfold columnText at h
  split at h
  · rename_i hnone
    cases hnone
  · rename_i hnull
    exact absurd (Option.some.inj hnull) hvalue
  · rename_i v hv
    cases hv
    split at h
    · rename_i text htext
      cases h
      exact htext
    · cases h

theorem columnText_given
    (hcols : ∀ n s t, s.length ≤ n → cols.varchar n (.str s) = some t → t = s)
    {n : Nat} {given : Option Json} {old new : Option String}
    (h : columnText cols n old given = .ok new) : TextGiven cols n given old new := by
  rcases given with _ | value
  · cases h
    rfl
  cases value with
  | null =>
    cases h
    rfl
  | str s =>
    have hstored : cols.varchar n (.str s) = new := columnText_some (by simp) h
    show if s.length ≤ n then new = some s else cols.varchar n (.str s) = new
    split
    · rename_i hfits
      cases new with
      | none => simp [columnText,hstored] at h
      | some t => rw [hcols n s t hfits hstored]
    · exact hstored
  | bool b => exact columnText_some (by simp) h
  | num q => exact columnText_some (by simp) h
  | arr items => exact columnText_some (by simp) h
  | obj fields => exact columnText_some (by simp) h

variable {fields : List (String × Json)}

theorem lookup_rest {field : String} {value : Json} {rest : List (String × Json)}
    (hkeys : DistinctKeys ((field,value) :: rest)) : rest.lookup field = none := by
  have hnew : field ∉ rest.map Prod.fst := (List.nodup_cons.mp hkeys).1
  rw [List.lookup_eq_none_iff]
  intro entry hentry
  simpa using fun heq : field = entry.1 => hnew (heq ▸ List.mem_map_of_mem hentry)

/-- What has been assigned is what the body has, and what had been before. -/
structure Assigns (cols : Columns) (fields : List (String × Json)) (row row' : Assigned) :
    Prop where
  status : row'.status = (fields.lookup "status").or row.status
  ownerId : row'.ownerId = (fields.lookup "ownerId").or row.ownerId
  qrHash : row'.qrHash = (fields.lookup "qrHash").or row.qrHash
  qrTimestamp : match fields.lookup "qrTimestamp" with
    | none => row'.qrTimestamp = row.qrTimestamp
    | some value => ∃ t, parseTimestamp cols value = .ok t ∧ row'.qrTimestamp = some t

theorem assignFields_assigns {row row' : Assigned} (hkeys : DistinctKeys fields)
    (hfields : ∀ entry ∈ fields, entry.1 ∈ updatableFields)
    (h : assignFields cols fields row = .ok row') : Assigns cols fields row row' := by
  induction fields generalizing row with
  | nil =>
    cases h
    exact ⟨rfl,rfl,rfl,rfl⟩
  | cons entry rest ih =>
    obtain ⟨field,value⟩ := entry
    have hnone := lookup_rest hkeys
    have ih' := fun row => @ih row (List.nodup_cons.mp hkeys).2
      (fun entry hentry => hfields entry (List.mem_cons_of_mem _ hentry))
    have hfield : field ∈ updatableFields := hfields _ List.mem_cons_self
    simp only [updatableFields,List.mem_cons,List.not_mem_nil,or_false] at hfield
    rcases hfield with rfl | rfl | rfl | rfl
    · obtain ⟨hstatus,howner,hhash,htime⟩ := ih' _ h
      rw [hnone] at hstatus
      exact ⟨hstatus,howner,hhash,htime⟩
    · obtain ⟨hstatus,howner,hhash,htime⟩ := ih' _ h
      rw [hnone] at howner
      exact ⟨hstatus,howner,hhash,htime⟩
    · obtain ⟨hstatus,howner,hhash,htime⟩ := ih' _ h
      rw [hnone] at hhash
      exact ⟨hstatus,howner,hhash,htime⟩
    · simp only [assignFields,if_true] at h
      cases hvalue : parseTimestamp cols value with
      | error e => simp [hvalue] at h
      | ok t =>
        rw [hvalue] at h
        obtain ⟨hstatus,howner,hhash,htime⟩ := ih' _ h
        rw [hnone] at htime
        exact ⟨hstatus,howner,hhash,t,hvalue,htime⟩

theorem flush_updated
    (hcols : ∀ n s t, s.length ≤ n → cols.varchar n (.str s) = some t → t = s) {row : Assigned}
    {old new : Ticket} (hrow : Assigns cols fields {} row)
    (h : row.flush cols old = .ok new) : Updated cols fields old new := by
  unfold Assigned.flush at h
  cases hstatus : columnText cols 20 (some old.status) row.status with
  | error e => simp [hstatus,bind,Except.bind] at h
  | ok status =>
  cases howner : columnText cols 36 (some old.ownerId) row.ownerId with
  | error e => simp [hstatus,howner,bind,Except.bind] at h
  | ok ownerId =>
  cases hhash : columnText cols 64 old.qrHash row.qrHash with
  | error e => simp [hstatus,howner,hhash,bind,Except.bind] at h
  | ok qrHash =>
  simp only [hstatus,howner,hhash,bind,Except.bind] at h
  cases status with
  | none => cases h
  | some status =>
  cases ownerId with
  | none => cases h
  | some ownerId =>
  cases h
  obtain ⟨hs,ho,hq,ht⟩ := hrow
  rw [Option.or_none] at hs ho hq
  rw [hs] at hstatus
  rw [ho] at howner
  rw [hq] at hhash
  refine ⟨columnText_given hcols hstatus,columnText_given hcols howner,
    columnText_given hcols hhash,?_,rfl⟩
  cases hgiven : fields.lookup "qrTimestamp" with
  | none =>
    rw [hgiven] at ht
    show row.qrTimestamp.getD old.qrTimestamp = old.qrTimestamp
    rw [ht]
    rfl
  | some value =>
    rw [hgiven] at ht
    obtain ⟨t,hparse,hassigned⟩ := ht
    show parseTimestamp cols value = .ok (row.qrTimestamp.getD old.qrTimestamp)
    rw [hparse,hassigned]
    rfl

end Updated

section Atomic

variable {cols} {db db' : Tickets} {ticketId : TicketId} {new : Ticket}

theorem store_ok (h : store db ticketId new = .ok db') :
    db'.rows = db.rows.insert ticketId new := by
  unfold store at h
  split at h
  · cases h
    rfl
  · cases h

theorem commit_ok {row : Assigned} {old : Ticket}
    (h : row.commit cols db ticketId old = .ok (new,db')) :
    row.flush cols old = .ok new ∧ db'.rows = db.rows.insert ticketId new := by
  unfold Assigned.commit at h
  cases hflush : row.flush cols old with
  | error e => simp [hflush,bind,Except.bind] at h
  | ok new' =>
  cases hstore : store db ticketId new' with
  | error e => simp [hflush,hstore,bind,Except.bind] at h
  | ok db'' =>
  simp only [hflush,hstore,bind,Except.bind,pure,Except.pure] at h
  cases h
  exact ⟨rfl,store_ok hstore⟩

/-- A success comes from a body whose fields have all been assigned and committed. -/
theorem updateTicket_ok {data : Json} {answer : TicketId × Ticket}
    (h : updateTicket cols db ticketId data = (.ok answer,db')) :
    ∃ fields old new row, data = .obj fields ∧ (∀ entry ∈ fields, entry.1 ∈ updatableFields) ∧
      db.rows.lookup ticketId = some old ∧ assignFields cols fields {} = .ok row ∧
      row.commit cols db ticketId old = .ok (new,db') ∧ answer = (ticketId,new) := by
  unfold updateTicket at h
  split at h
  · cases h
  split at h
  case h_2 => cases h
  rename_i fields _
  split at h
  · cases h
  rename_i hfields
  split at h
  · cases h
  rename_i old hold
  split at h
  · cases h
  split at h
  · cases h
  rename_i row hrow
  split at h
  case h_2 | h_3 => cases h
  rename_i new _ hcommit
  cases h
  refine ⟨fields,old,new,row,rfl,fun entry hentry => ?_,hold,hrow,hcommit,rfl⟩
  by_contra hbad
  exact hfields (List.any_eq_true.mpr ⟨entry,hentry,by simpa using hbad⟩)

theorem updateTicket_error {data : Json} {e : ServiceError}
    (h : updateTicket cols db ticketId data = (.error e,db')) : db' = db := by
  unfold updateTicket at h
  repeat' split at h
  all_goals cases h <;> rfl

end Atomic

section CheckedIn

def issuedTicket : Ticket := ⟨"inv_1","usr_1","ven_1","evt_1",80,"active",some "a1",some 0,0⟩

/-- A ticket and another one, without a code. -/
def twoTickets : Tickets where
  rows := (∅ : Table TicketId Ticket).insert 1 issuedTicket |>.insert 2
    { issuedTicket with qrHash := none, qrTimestamp := none }
  unique := by
    intro i j t t' hash hi hj ht ht'
    have hone : ∀ k s, ((∅ : Table TicketId Ticket).insert 1 issuedTicket |>.insert 2
        { issuedTicket with qrHash := none, qrTimestamp := none }).lookup k = some s →
        s.qrHash = some hash → k = 1 := by
      intro k s hk hs
      rcases Table.lookup_insert_cases hk with ⟨-,rfl⟩ | ⟨-,hold⟩
      · cases hs
      · rcases Table.lookup_insert_cases hold with ⟨rfl,-⟩ | ⟨-,hnone⟩
        · rfl
        · cases hnone
    rw [hone i t hi ht,hone j t' hj ht']

def checkIn : Json := .obj [("status",.str "used"),("qrHash",.null)]

end CheckedIn

end TicketRemaster.TicketService
