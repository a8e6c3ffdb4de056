import TicketRemaster.Events.Routes
set_option autoImplicit false

/-! The pages of a list of events are that list, unless a page may end among events that the order
does not tell apart; the upcoming events are never listed. -/

namespace TicketRemaster.EventService

open Paging

/-- The events of an answer; an error has none. -/
def eventsOf : Except ServiceError EventPage → List EventSummary
  | .ok page => page.events
  | .error _ => []

/-- The answers for the pages 1, 2, … show every one of the rows exactly once, and each counts
them. -/
def Partitions (answer : Nat → Except ServiceError EventPage) (rows : List EventRow)
    (limit : Nat) : Prop :=
  (∀ k, 1 ≤ k → (answer k).map (·.total) = .ok rows.length) ∧
  ∀ n, rows.length ≤ n*limit →
    ((List.range n).flatMap fun i => eventsOf (answer (i+1))).Perm (rows.map summary)

section Summaries

theorem rowsWhere_ids (db : Events) (p : Event → Bool) :
    ((rowsWhere db p).map Prod.fst).Nodup := by
  have hkeys : ((db.entries.map fun e => (e.1,e.2)).map Prod.fst).Nodup := by
    rw [List.map_map]
    exact db.nodupKeys
  exact hkeys.sublist (List.filter_sublist.map Prod.fst)

theorem rowsWhere_summaries (db : Events) (p : Event → Bool) :
    ((rowsWhere db p).map summary).Nodup := by
  refine List.Nodup.of_map EventSummary.eventId ?_
  rw [List.map_map]
  exact rowsWhere_ids db p

end Summaries

section Answers

variable {κ : Type} [LinearOrder κ] {key : EventRow → κ} {rows : List EventRow}

/-- Answers that are pages of what the database returns partition the rows exactly when no page may
end among rows with one key. -/
theorem partitions_iff (hrows : (rows.map summary).Nodup) {limit : Nat} (hlimit : 0 < limit)
    {order : Type} {arranged : order → Arrangement key rows}
    (hsurj : ∀ a : Arrangement key rows, ∃ o, arranged o = a)
    {answer : order → Nat → Except ServiceError EventPage}
    (h : ∀ o k, 1 ≤ k → answer o k = .ok (answerPage (arranged o) k limit)) :
    (∀ orders : Nat → order, Partitions (fun k => answer (orders k) k) rows limit) ↔
      Determinate key rows limit := by
  have hjoined : ∀ (orders : Nat → order) n,
      ((List.range n).flatMap fun i => eventsOf (answer (orders (i+1)) (i+1))) =
        (pages limit (fun k => (arranged (orders k)).answer) n).map summary := by
    intro orders n
    rw [pages,List.map_flatMap]
    refine List.flatMap_congr fun i _ => ?_
    rw [h _ _ (by omega)]
    simp [eventsOf,answerPage]
  rw [← pages_partition_iff hrows hlimit]
  constructor
  · intro hpart answers n hn
    obtain ⟨orders,horders⟩ : ∃ orders : Nat → order, ∀ k, arranged (orders k) = answers k :=
      ⟨fun k => (hsurj (answers k)).choose,fun k => (hsurj (answers k)).choose_spec⟩
    have hperm := (hpart orders).2 n hn
    rw [hjoined] at hperm
    simpa only [horders] using hperm
  · intro hperm orders
    refine ⟨fun k hk => ?_,fun n hn => ?_⟩
    · show (answer (orders k) k).map _ = _
      rw [h _ _ hk]
      rfl
    · rw [hjoined]
      exact hperm (fun k => arranged (orders k)) n hn

end Answers

/-- Any answer for given rows is the database's answer in some order of answering. -/
theorem exists_order {κ : Type} [LinearOrder κ] {key : EventRow → κ} (rows : List EventRow)
    (a : Arrangement key rows) :
    ∃ order : ∀ rows, Arrangement key rows, order rows = a :=
  ⟨Function.update (fun rows => .sort key rows) rows a,Function.update_self ..⟩

variable (ilike : String → String → Bool) (db : Events)

theorem listEvents_eq (order : ∀ rows, Arrangement byDateAndCreation rows) (eventType : String)
    {k limit : Nat} (hk : 1 ≤ k) (hlimit : 1 ≤ limit ∧ limit ≤ 100) :
    listEvents ilike db order { page := some k, limit := some limit, type := eventType } =
      .ok (answerPage (order (rowsWhere db (hasType ilike eventType))) k limit) := by
  have hpage : ¬ (k : Int) < 1 := by omega
  have hpos : ¬ (limit : Int) < 1 := by omega
  have hclamp : min (limit : Int) 100 = limit := by omega
  unfold listEvents
  dsimp only [Option.getD_some]
  rw [if_neg hpage,if_neg hpos,hclamp]

theorem searchEvents_eq (order : ∀ rows, Arrangement byDate rows) {q : String} (hq : q ≠ "")
    {k limit : Nat} (hk : 1 ≤ k) (hlimit : 1 ≤ limit ∧ limit ≤ 100) :
    searchEvents ilike db order { page := some k, limit := some limit, q := q } =
      .ok (answerPage (order (rowsWhere db (matchesSearch ilike q))) k limit) := by
  have hpage : ¬ (k : Int) < 1 := by omega
  have hrange : ¬ ((limit : Int) < 1 ∨ (limit : Int) > 100) := by omega
  unfold searchEvents
  dsimp only [Option.getD_some]
  rw [if_neg hq,if_neg hpage,if_neg hrange]

/-- No valid request for the upcoming events is answered with them. -/
theorem listUpcomingEvents_error (clock : Time) (order : ∀ rows, Arrangement byDate rows)
    (eventType : String) {k limit : Nat} (hk : 1 ≤ k) (hlimit : 1 ≤ limit ∧ limit ≤ 100) :
    listUpcomingEvents ilike db clock order
      { page := some k, limit := some limit, type := eventType } = .error unhandledError := by
  have hpage : ¬ (k : Int) < 1 := by omega
  have hrange : ¬ ((limit : Int) < 1 ∨ (limit : Int) > 100) := by omega
  unfold listUpcomingEvents
  dsimp only [Option.getD_some]
  rw [if_neg hpage,if_neg hrange]
  rfl

section Tied

/-- Two events of one date and creation time. -/
def tied : Events :=
  let e : Event := ⟨"ven_1","Gala",0,none,"concert",none,10,none,0⟩
  (∅ : Events).insert 1 e |>.insert 2 e

/-- A database that answers every second query with ties the other way around. -/
def alternating (k : Nat) (rows : List EventRow) : Arrangement byDate rows :=
  if k % 2 = 0 then .sort byDate rows
  else
    let a := Arrangement.sort byDate rows.reverse
    ⟨a.answer,a.perm.trans rows.reverse_perm,a.sorted⟩

theorem tied_of_limit_two :
    Determinate byDate (rowsWhere tied (matchesSearch (fun _ _ => true) "a")) 2 := by
  rintro n ⟨r,hr,hlow,hupto⟩
  have hlen := hupto.trans_le List.countP_le_length
  have hrows : (rowsWhere tied (matchesSearch (fun _ _ => true) "a")).length = 2 := by decide
  omega

end Tied

end TicketRemaster.EventService
