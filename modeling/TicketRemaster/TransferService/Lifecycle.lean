import TicketRemaster.TransferService.Routes
set_option autoImplicit false

/-! When the status of a transfer takes its course: final statuses stay, and a transfer that has
expired can only become `expired`. -/

namespace TicketRemaster.TransferService

def finalStatuses : List String := ["completed","cancelled","expired","failed"]

def Transfer.isFinal (t : Transfer) : Bool := t.status ∈ finalStatuses

/-- From any point of a run to any later one: a final status is the same, and if the transfer has
expired by the first request in between, its status is the same or `expired`. -/
def Lifecycle (cols : Columns) (db : Transfers) (reqs : List (Time × Request)) : Prop :=
  ∀ a b c, reqs = a ++ b ++ c → ∀ i t, (run cols db a).lookup i = some t →
    ∃ t', (run cols db (a ++ b)).lookup i = some t' ∧ (t.isFinal → t'.status = t.status) ∧
      (¬ t.isFinal → (∀ m ∈ b.head?, t.expiresAt < m.1) →
        t'.status = t.status ∨ t'.status = "expired")

section Conditions

variable (cols : Columns)

/-- The body of a PATCH gets past the checks made before the row is read. -/
def WellFormed (fields : List (String × Json)) : Prop :=
  fields ≠ [] ∧ ∀ entry ∈ fields, entry.1 ∈ updatableFields

/-- The database takes the value, whatever the row. -/
def accepts (entry : String × Json) : Bool :=
  if entry.1 = "status" then (cols.text 30 entry.2).isSome
  else if entry.1 = "buyerOtpVerified" ∨ entry.1 = "sellerOtpVerified" then
    (cols.boolean entry.2).isSome
  else if entry.1 = "buyerVerificationSid" ∨ entry.1 = "sellerVerificationSid" then
    (cols.nullableText 64 entry.2).isSome
  else (parseDatetime cols entry.2).isSome

/-- The status after a PATCH with these fields, all of which are accepted. -/
def patchedStatus (status : String) : List (String × Json) → String
  | [] => status
  | entry :: rest =>
      patchedStatus (if entry.1 = "status" then (cols.text 30 entry.2).getD status else status) rest

/-- The request leaves a final status alone, and does not cancel an expired transfer. -/
def Proper (db : Transfers) (m : Time × Request) : Prop :=
  match m.2 with
  | .get i => ∀ t, db.lookup i = some t → t.isFinal → ¬ autoExpires m.1 t
  | .patch i (.obj fields) => ∀ t, db.lookup i = some t → t.isFinal → WellFormed fields →
      ¬ autoExpires m.1 t ∧
        (fields.all (accepts cols) → patchedStatus cols t.status fields = t.status)
  | .cancel i => ∀ t, db.lookup i = some t → t.status ∉ closedStatuses →
      ¬ t.isFinal ∧ ¬ isTransferExpired m.1 t
  | .patch _ _ | .create _ _ | .list _ _ _ | .pending _ => True

/-- Every request of the run is proper when it comes in. -/
def ProperRun (db : Transfers) : List (Time × Request) → Prop
  | [] => True
  | m :: rest => Proper cols db m ∧ ProperRun (serve cols db m.1 m.2) rest

end Conditions

section Step

variable {cols : Columns} {now : Time} {db db' : Transfers}

/-- What may become of a row at some instant. -/
structure RowKept (now : Time) (t t' : Transfer) : Prop where
  final : t.isFinal → t'.status = t.status
  expired : ¬ t.isFinal → t.expiresAt < now → t'.status = t.status ∨ t'.status = "expired"

/-- Every row is still there, and related to what it was. -/
def Kept (R : Transfer → Transfer → Prop) (db db' : Transfers) : Prop :=
  ∀ i t, db.lookup i = some t → ∃ t', db'.lookup i = some t' ∧ R t t'

theorem rowKept_refl (now : Time) (t : Transfer) : RowKept now t t :=
  ⟨fun _ => rfl,fun _ _ => .inl rfl⟩

section Kept

variable {R : Transfer → Transfer → Prop} {i : TransferId} {t t' : Transfer}

theorem kept_refl (hR : ∀ t, R t t) (db : Transfers) : Kept R db db :=
  fun _ t ht => ⟨t,ht,hR t⟩

theorem kept_insert_new (hR : ∀ t, R t t) (hi : db.lookup i = none) :
    Kept R db (db.insert i t) := by
  intro j t' ht'
  have hne : j ≠ i := by
    rintro rfl
    rw [hi] at ht'
    cases ht'
  exact ⟨t',by rw [AList.lookup_insert_ne hne]; exact ht',hR t'⟩

theorem kept_insert_iff (hR : ∀ t, R t t) (hi : db.lookup i = some t) :
    Kept R db (db.insert i t') ↔ R t t' := by
  constructor
  · intro hk
    obtain ⟨t'',hl,hr⟩ := hk i t hi
    rw [AList.lookup_insert] at hl
    cases hl
    exact hr
  · intro hr j u hu
    by_cases hj : j = i
    · subst hj
      rw [hi] at hu
      cases hu
      exact ⟨t',AList.lookup_insert _,hr⟩
    · exact ⟨u,by rw [AList.lookup_insert_ne hj]; exact hu,hR u⟩

end Kept

theorem autoExpires_iff {t : Transfer} :
    autoExpires now t ↔ t.expiresAt < now ∧ t.status ∉ closedStatuses := by
  simp [autoExpires,isTransferExpired]

theorem isFinal_iff {t : Transfer} :
    t.isFinal ↔ t.status ∈ closedStatuses ∨ t.status = "failed" := by
  simp [Transfer.isFinal,finalStatuses,closedStatuses,or_assoc]

/-- Expiry is the right end of a transfer that was not final. -/
theorem rowKept_expire_iff {t : Transfer} (he : autoExpires now t) :
    RowKept now t { t with status := "expired" } ↔ ¬ t.isFinal := by
  constructor
  · intro hk hf
    have hsame := hk.final hf
    have hopen := (autoExpires_iff.mp he).2
    rw [← hsame] at hopen
    exact hopen (by simp [closedStatuses])
  · exact fun hf => ⟨fun hf' => absurd hf' hf,fun _ _ => .inr rfl⟩

theorem kept_get_iff {i : TransferId} :
    Kept (RowKept now) db (getTransfer db now i).2 ↔
      ∀ t, db.lookup i = some t → t.isFinal → ¬ autoExpires now t := by
  unfold getTransfer
  cases hi : db.lookup i with
  | none => simp [kept_refl (rowKept_refl now)]
  | some t =>
    simp only [Option.some.injEq,forall_eq']
    split
    · rename_i he
      rw [kept_insert_iff (rowKept_refl now) hi,rowKept_expire_iff he]
      simp [he]
    · rename_i he
      simp [kept_refl (rowKept_refl now),he]

theorem kept_cancel_iff {i : TransferId} :
    Kept (RowKept now) db (cancelTransfer db i).2 ↔ ∀ t, db.lookup i = some t →
      t.status ∉ closedStatuses → ¬ t.isFinal ∧ ¬ isTransferExpired now t := by
  unfold cancelTransfer
  cases hi : db.lookup i with
  | none => simp [kept_refl (rowKept_refl now)]
  | some t =>
    simp only [Option.some.injEq,forall_eq']
    split
    · rename_i hclosed
      exact ⟨fun _ hopen => absurd hclosed hopen,fun _ => kept_refl (rowKept_refl now) db⟩
    · rename_i hopen
      rw [kept_insert_iff (rowKept_refl now) hi]
      have hne : t.status ≠ "cancelled" := fun h => hopen (by simp [h,closedStatuses])
      constructor
      · intro hk _
        have hf : ¬ t.isFinal := fun hf => hne (hk.final hf).symm
        refine ⟨hf,fun he => ?_⟩
        have he' : t.expiresAt < now := by simpa [isTransferExpired] using he
        rcases hk.expired hf he' with h | h
        · exact hne h.symm
        · simp at h
      · intro hk
        obtain ⟨hf,he⟩ := hk hopen
        refine ⟨fun hf' => absurd hf' hf,fun _ he' => absurd ?_ he⟩
        simpa [isTransferExpired] using he'

theorem setField_isSome (cols : Columns) (t : Transfer) (entry : String × Json) :
    (setField cols t entry).isSome = accepts cols entry := by
  unfold setField accepts
  repeat' split
  all_goals simp_all

theorem setField_status {t t' : Transfer} {entry : String × Json}
    (h : setField cols t entry = some t') :
    t'.expiresAt = t.expiresAt ∧
      t'.status =
        if entry.1 = "status" then (cols.text 30 entry.2).getD t.status else t.status := by
  unfold setField at h
  split at h
  · obtain ⟨v,hv,rfl⟩ := Option.map_eq_some_iff.mp h
    simp [*]
  · repeat' split at h
    all_goals
      obtain ⟨v,-,rfl⟩ := Option.map_eq_some_iff.mp h
      simp [*]

theorem setFields_isSome (cols : Columns) (t : Transfer) (fields : List (String × Json)) :
    (fields.foldlM (setField cols) t).isSome = fields.all (accepts cols) := by
  induction fields generalizing t with
  | nil => rfl
  | cons entry rest ih =>
    rw [List.foldlM_cons,List.all_cons,← setField_isSome cols t]
    cases setField cols t entry with
    | none => rfl
    | some t' => simpa using ih t'

theorem setFields_status {t t' : Transfer} {fields : List (String × Json)}
    (h : fields.foldlM (setField cols) t = some t') :
    t'.expiresAt = t.expiresAt ∧ t'.status = patchedStatus cols t.status fields := by
  induction fields generalizing t with
  | nil =>
    cases h
    exact ⟨rfl,rfl⟩
  | cons entry rest ih =>
    rw [List.foldlM_cons] at h
    obtain ⟨t₁,ht₁,hrest⟩ := Option.bind_eq_some_iff.mp h
    obtain ⟨hexpires,hstatus⟩ := setField_status ht₁
    obtain ⟨hexpires',hstatus'⟩ := ih hrest
    exact ⟨hexpires'.trans hexpires,by rw [hstatus',hstatus]; rfl⟩

theorem badCompletedAt_refused {fields : List (String × Json)}
    (h : badCompletedAt cols fields) : ¬ fields.all (accepts cols) := by
  obtain ⟨entry,hmem,hbad⟩ := List.any_eq_true.mp h
  simp only [Bool.and_eq_true,decide_eq_true_eq] at hbad
  intro hall
  have haccepts := List.all_eq_true.mp hall entry hmem
  have hnone : parseDatetime cols entry.2 = none := by simpa using hbad.2
  simp [accepts,hbad.1,hnone] at haccepts

/-- A body that is empty, or names another field, changes nothing. -/
theorem patchTransfer_malformed {i : TransferId} {fields : List (String × Json)}
    (hw : ¬ WellFormed fields) : (patchTransfer cols db now i (.obj fields)).2 = db := by
  by_cases hempty : fields = []
  · subst hempty
    rfl
  · have hany : fields.any (·.1 ∉ updatableFields) = true := by simpa [WellFormed,hempty] using hw
    have htruthy : (Json.obj fields).truthy = true := by simpa [Json.truthy] using hempty
    simp only [patchTransfer,htruthy,not_true_eq_false,if_false,hany,if_true]

/-- Before expiry, only a final status that is changed is not kept. -/
theorem rowKept_fields_iff {t t' : Transfer} {fields : List (String × Json)}
    (he : ¬ autoExpires now t) (ht' : fields.foldlM (setField cols) t = some t') :
    RowKept now t t' ↔ (t.isFinal → patchedStatus cols t.status fields = t.status) := by
  have hstatus := (setFields_status ht').2
  constructor
  · exact fun hk hf => hstatus ▸ hk.final hf
  · intro h
    refine ⟨fun hf => hstatus.trans (h hf),fun hf hlate => ?_⟩
    exact absurd (autoExpires_iff.mpr ⟨hlate,fun hc => hf (isFinal_iff.mpr (.inl hc))⟩) he

theorem kept_patch_iff {i : TransferId} {fields : List (String × Json)} :
    Kept (RowKept now) db (patchTransfer cols db now i (.obj fields)).2 ↔
      ∀ t, db.lookup i = some t → t.isFinal → WellFormed fields → ¬ autoExpires now t ∧
        (fields.all (accepts cols) → patchedStatus cols t.status fields = t.status) := by
  by_cases hw : WellFormed fields
  case neg =>
    rw [patchTransfer_malformed hw]
    exact ⟨fun _ _ _ _ hw' => absurd hw' hw,fun _ => kept_refl (rowKept_refl now) db⟩
  case pos =>
    have htruthy : (Json.obj fields).truthy = true := by simpa [Json.truthy] using hw.1
    have hfields : fields.any (·.1 ∉ updatableFields) = false := by simpa using hw.2
    simp only [patchTransfer,htruthy,not_true_eq_false,if_false,hfields,Bool.false_eq_true]
    cases hi : db.lookup i with
    | none => simp [kept_refl (rowKept_refl now)]
    | some t =>
      simp only [Option.some.injEq,forall_eq']
      split
      · rename_i he
        rw [kept_insert_iff (rowKept_refl now) hi,rowKept_expire_iff he]
        simp [hw,he]
      · rename_i he
        split
        · rename_i hbad
          have hrefused := badCompletedAt_refused hbad
          simp [kept_refl (rowKept_refl now),he,hrefused]
        · have hsome := setFields_isSome cols t fields
          split
          · rename_i t' ht'
            rw [ht'] at hsome
            rw [kept_insert_iff (rowKept_refl now) hi,rowKept_fields_iff he ht']
            simp [hw,he,← hsome]
          · rename_i hnone
            rw [hnone] at hsome
            simp [kept_refl (rowKept_refl now),he,← hsome]

theorem kept_create {i : TransferId} {data : Json} :
    Kept (RowKept now) db (createTransfer cols db now i data).2 := by
  unfold createTransfer
  split
  · exact kept_refl (rowKept_refl now) db
  · split
    · exact kept_refl (rowKept_refl now) db
    · dsimp only
      split
      · rename_i hi
        exact kept_insert_new (rowKept_refl now) hi
      · exact kept_refl (rowKept_refl now) db
    · exact kept_refl (rowKept_refl now) db

theorem patchTransfer_other {i : TransferId} {data : Json} (h : ∀ fields, data ≠ .obj fields) :
    (patchTransfer cols db now i data).2 = db := by
  unfold patchTransfer
  split
  · rfl
  · split
    · exact absurd rfl (h _)
    · rfl

abbrev SameExpiry (t t' : Transfer) : Prop := t'.expiresAt = t.expiresAt

theorem kept_status {i : TransferId} {t : Transfer} (hi : db.lookup i = some t) (s : String) :
    Kept SameExpiry db (db.insert i { t with status := s }) := by
  refine (kept_insert_iff (R := SameExpiry) (fun _ => rfl) hi).mpr ?_
  rfl

theorem kept_expiresAt (cols : Columns) (m : Time × Request) :
    Kept SameExpiry db (serve cols db m.1 m.2) := by
  have hrefl : ∀ t, SameExpiry t t := fun _ => rfl
  obtain ⟨now,request⟩ := m
  cases request with
  | create i data =>
    simp only [serve,createTransfer]
    repeat' split
    all_goals first
      | exact kept_refl hrefl db
      | exact kept_insert_new hrefl ‹_›
  | get i =>
    simp only [serve,getTransfer]
    repeat' split
    all_goals first
      | exact kept_refl hrefl db
      | exact kept_status ‹_› _
  | patch i data =>
    simp only [serve,patchTransfer]
    repeat' split
    all_goals first
      | exact kept_refl hrefl db
      | exact kept_status ‹_› _
      | exact (kept_insert_iff hrefl ‹_›).mpr (setFields_status ‹_›).1
  | cancel i =>
    simp only [serve,cancelTransfer]
    repeat' split
    all_goals first
      | exact kept_refl hrefl db
      | exact kept_status ‹_› _
  | list _ _ _ => exact kept_refl hrefl db
  | pending _ => exact kept_refl hrefl db

/-- One request leaves every row as it should exactly if it is a proper one. -/
theorem kept_serve_iff (m : Time × Request) :
    Kept (RowKept m.1) db (serve cols db m.1 m.2) ↔ Proper cols db m := by
  obtain ⟨now,request⟩ := m
  cases request with
  | create i data => exact ⟨fun _ => trivial,fun _ => kept_create⟩
  | get i => exact kept_get_iff
  | patch i data =>
    cases data with
    | obj fields => exact kept_patch_iff
    | _ => exact ⟨fun _ => trivial,fun _ => by
        simp only [serve]
        rw [patchTransfer_other (by simp)]
        exact kept_refl (rowKept_refl now) db⟩
  | cancel i => exact kept_cancel_iff
  | list _ _ _ => exact ⟨fun _ => trivial,fun _ => kept_refl (rowKept_refl now) db⟩
  | pending _ => exact ⟨fun _ => trivial,fun _ => kept_refl (rowKept_refl now) db⟩

end Step

section Run

variable {cols : Columns} {db : Transfers}

theorem properRun_append {a b : List (Time × Request)} :
    ProperRun cols db (a ++ b) ↔ ProperRun cols db a ∧ ProperRun cols (run cols db a) b := by
  induction a generalizing db with
  | nil => simp [ProperRun,run]
  | cons m a ih =>
    simp only [List.cons_append,ProperRun,run,ih]
    exact and_assoc.symm

/-- A stretch of the run that consists of one request. -/
theorem proper_of_lifecycle {a b : List (Time × Request)} {m : Time × Request}
    (h : Lifecycle cols db (a ++ m :: b)) : Proper cols (run cols db a) m := by
  rw [← kept_serve_iff]
  intro i t ht
  obtain ⟨t',ht',hfinal,hexpired⟩ := h a [m] b (by simp) i t ht
  rw [run_append] at ht'
  exact ⟨t',ht',hfinal,fun hf hlate => hexpired hf (by simpa using hlate)⟩

theorem properRun_of_lifecycle {a b : List (Time × Request)} (h : Lifecycle cols db (a ++ b)) :
    ProperRun cols (run cols db a) b := by
  induction b generalizing a with
  | nil => trivial
  | cons m b ih =>
    refine ⟨proper_of_lifecycle h,?_⟩
    have hnext := ih (a := a ++ [m]) (by simpa using h)
    rwa [run_append] at hnext

/-- What becomes of a row over requests all of which are proper. -/
theorem kept_run {b : List (Time × Request)} (hclock : b.Pairwise fun m n => m.1 ≤ n.1)
    (hproper : ProperRun cols db b) {i : TransferId} {t : Transfer} (ht : db.lookup i = some t) :
    ∃ t', (run cols db b).lookup i = some t' ∧ (t.isFinal → t'.status = t.status) ∧
      (¬ t.isFinal → (∀ m ∈ b.head?, t.expiresAt < m.1) →
        t'.status = t.status ∨ t'.status = "expired") := by
  induction b generalizing db t with
  | nil => exact ⟨t,ht,fun _ => rfl,fun _ _ => .inl rfl⟩
  | cons m b ih =>
    obtain ⟨hm,hclock⟩ := List.pairwise_cons.mp hclock
    obtain ⟨t₁,ht₁,hrow⟩ := (kept_serve_iff m).mpr hproper.1 i t ht
    obtain ⟨t₁',ht₁',hexpires⟩ := kept_expiresAt cols m i t ht
    rw [ht₁] at ht₁'
    cases ht₁'
    obtain ⟨t',ht',hfinal,hexpired⟩ := ih hclock hproper.2 ht₁
    refine ⟨t',ht',fun hf => ?_,fun hf hlate => ?_⟩
    · have hsame := hrow.final hf
      have hf₁ : t₁.isFinal := by simpa [Transfer.isFinal,hsame] using hf
      rw [hfinal hf₁,hsame]
    · have hlate' : t.expiresAt < m.1 := hlate m rfl
      rcases hrow.expired hf hlate' with hsame | hexp
      · have hf₁ : ¬ t₁.isFinal := by simpa [Transfer.isFinal,hsame] using hf
        have hnext : ∀ n ∈ b.head?, t₁.expiresAt < n.1 := by
          intro n hn
          rw [hexpires]
          exact lt_of_lt_of_le hlate' (hm n (List.mem_of_mem_head? hn))
        rw [← hsame]
        exact hexpired hf₁ hnext
      · have hf₁ : t₁.isFinal := by simp [Transfer.isFinal,finalStatuses,hexp]
        exact .inr ((hfinal hf₁).trans hexp)

/-- On any table and for any requests in the order of the clock: the statuses take their course
exactly if every request is a proper one. -/
theorem lifecycle_iff (cols : Columns) (db : Transfers) (reqs : List (Time × Request))
    (hclock : reqs.Pairwise fun m n => m.1 ≤ n.1) :
    Lifecycle cols db reqs ↔ ProperRun cols db reqs := by
  refine ⟨fun h => properRun_of_lifecycle (a := []) h,fun h => ?_⟩
  rintro a b c rfl i t ht
  have hb : b.Pairwise fun m n => m.1 ≤ n.1 :=
    (List.pairwise_append.mp (List.pairwise_append.mp hclock).1).2.1
  rw [run_append]
  exact kept_run hb (properRun_append.mp (properRun_append.mp h).1).2 ht

end Run

section Corner

def newTransfer : Json :=
  .obj [("listingId",.str "l"),("buyerId",.str "b"),("sellerId",.str "s"),("creditAmount",.num 30)]

def patchStatus (s : String) : Request := .patch 1 (.obj [("status",.str s)])

/-- A transfer is made, settled and looked at when a day has passed. -/
def settled : List (Time × Request) :=
  [(0,.create 1 newTransfer),(seconds 1,patchStatus "completed"),(seconds 90000,.get 1)]

theorem lifecycle_iff_settled :
    ((run Columns.plain ∅ settled).lookup 1).map (·.status) = some "completed" ∧
      Lifecycle Columns.plain ∅ settled := by
  refine ⟨by decide +kernel,?_⟩
  refine (lifecycle_iff Columns.plain ∅ settled (by decide +kernel)).mpr ⟨trivial,?_,?_,trivial⟩
  · intro t ht hf
    have hopen : ((run Columns.plain ∅ (settled.take 1)).lookup 1).all (!·.isFinal) := by
      decide +kernel
    rw [show (run Columns.plain ∅ (settled.take 1)).lookup 1 = some t from ht] at hopen
    simp [hf] at hopen
  · intro t ht _
    have hstays : ((run Columns.plain ∅ (settled.take 2)).lookup 1).all
        (!autoExpires (seconds 90000) ·) := by decide +kernel
    rw [show (run Columns.plain ∅ (settled.take 2)).lookup 1 = some t from ht] at hstays
    simpa using hstays

/-- A settled transfer is cancelled by a PATCH, and an expired one by a cancellation. -/
theorem final_status_changes :
    ¬ Lifecycle Columns.plain ∅ (settled.take 2 ++ [(seconds 2,patchStatus "cancelled")]) ∧
      ¬ Lifecycle Columns.plain ∅ (settled.take 1 ++ [(seconds 90000,.cancel 1)]) := by
  constructor
  · intro h
    have hrow : ((run Columns.plain ∅ (settled.take 2)).lookup 1).map (·.status) =
        some "completed" := by decide +kernel
    obtain ⟨t,ht,hs⟩ := Option.map_eq_some_iff.mp hrow
    have hfinal : t.isFinal := by simp [Transfer.isFinal,hs,finalStatuses]
    have hbody : WellFormed [("status",.str "cancelled")] := by simp [WellFormed,updatableFields]
    have hsame := (proper_of_lifecycle h t ht hfinal hbody).2 (by decide +kernel)
    rw [hs] at hsame
    exact absurd hsame (by decide +kernel)
  · intro h
    have hrow : ((run Columns.plain ∅ (settled.take 1)).lookup 1).map
        (fun t => (t.status,isTransferExpired (seconds 90000) t)) =
          some ("pending_seller_acceptance",true) := by decide +kernel
    obtain ⟨t,ht,hs⟩ := Option.map_eq_some_iff.mp hrow
    have hopen : t.status ∉ closedStatuses := by
      rw [(Prod.mk.inj hs).1]
      decide
    exact (proper_of_lifecycle h t ht hopen).2 (Prod.mk.inj hs).2

end Corner

end TicketRemaster.TransferService
