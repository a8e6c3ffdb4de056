import Mathlib.Data.List.Count
import Mathlib.Data.List.Sort
import Mathlib.Data.List.Dedup
import Mathlib.Data.List.Perm.Basic
set_option autoImplicit false

/-! Pages of the answers to a query that sorts its rows by a key. Rows with one key come in any
order, and for another page in another one. -/

namespace Paging

section Pages

variable {α : Type}

/-- The rows on page `n`, counted from 1. -/
def page (limit n : Nat) (rows : List α) : List α := (rows.drop ((n-1)*limit)).take limit

/-- The pages 1 to `n`, joined, each of its own answer. -/
def pages (limit : Nat) (answers : Nat → List α) (n : Nat) : List α :=
  (List.range n).flatMap fun i => page limit (i+1) (answers (i+1))

variable (limit : Nat)

@[simp] theorem pages_zero (answers : Nat → List α) : pages limit answers 0 = [] := rfl

theorem pages_succ (answers : Nat → List α) (n : Nat) :
    pages limit answers (n+1) = pages limit answers n ++ page limit (n+1) (answers (n+1)) := by
  simp [pages,List.range_succ]

/-- The rows up to the end of a page are those up to its beginning, and its own. -/
theorem take_succ_page (rows : List α) (n : Nat) :
    rows.take ((n+1)*limit) = rows.take (n*limit) ++ page limit (n+1) rows := by
  rw [Nat.add_mul,Nat.one_mul,List.take_add]
  rfl

@[simp] theorem pages_same (rows : List α) (n : Nat) :
    pages limit (fun _ => rows) n = rows.take (n*limit) := by
  induction n with
  | zero => simp
  | succ n ih => rw [pages_succ,ih,take_succ_page]

/-- Pages of answers that are all the same. -/
theorem pages_eq_take {answers : Nat → List α} {rows : List α} {n : Nat}
    (h : ∀ k, 1 ≤ k → k ≤ n → answers k = rows) :
    pages limit answers n = rows.take (n*limit) := by
  rw [← pages_same]
  refine List.flatMap_congr fun i hi => ?_
  have hlt : i < n := List.mem_range.mp hi
  rw [h (i+1) (by omega) (by omega)]

/-- A page that is not full is the last one. -/
theorem length_of_short_page {rows : List α} {n : Nat} (hn : 1 ≤ n)
    (hshort : (page limit n rows).length < limit) : rows.length ≤ n*limit := by
  obtain ⟨m,rfl⟩ : ∃ m, n = m+1 := ⟨n-1,by omega⟩
  simp only [page,List.length_take,List.length_drop,Nat.add_sub_cancel] at hshort
  rw [Nat.add_mul,Nat.one_mul]
  omega

/-- What follows when the answer changes after page `n`. -/
theorem pages_switch (a b : List α) (n d : Nat) :
    pages limit (fun k => if k ≤ n then a else b) (n+d) =
      a.take (n*limit) ++ (b.drop (n*limit)).take (d*limit) := by
  induction d with
  | zero =>
    rw [Nat.add_zero,Nat.zero_mul,List.take_zero,List.append_nil,← pages_same limit a n]
    refine List.flatMap_congr fun i hi => ?_
    have hle : i+1 ≤ n := List.mem_range.mp hi
    simp [hle]
  | succ d ih =>
    have hlater : ¬ n+d+1 ≤ n := by omega
    rw [← Nat.add_assoc,pages_succ,ih,List.append_assoc,Nat.add_mul d 1,Nat.one_mul,
      List.take_add (l := b.drop (n*limit))]
    simp [page,hlater,List.drop_drop,Nat.add_mul]

end Pages

variable {α κ : Type} [LinearOrder κ]

/-- One order in which a database may return the rows. -/
structure Arrangement (key : α → κ) (rows : List α) where
  answer : List α
  perm : answer.Perm rows
  sorted : answer.Pairwise fun a b => key a ≤ key b

/-- Rows with one key lie on both sides of place `m`. -/
def Splits (key : α → κ) (rows : List α) (m : Nat) : Prop :=
  ∃ r ∈ rows, rows.countP (key · < key r) < m ∧ m < rows.countP (key · ≤ key r)

instance (key : α → κ) (rows : List α) (m : Nat) : Decidable (Splits key rows m) :=
  inferInstanceAs (Decidable (∃ r ∈ rows, _))

/-- No page ends among rows with one key. -/
def Determinate (key : α → κ) (rows : List α) (limit : Nat) : Prop :=
  ∀ n, ¬ Splits key rows (n*limit)

variable {key : α → κ} {rows : List α}

/-- The keys come in the same order in every answer. -/
theorem Arrangement.keys_eq (a b : Arrangement key rows) :
    a.answer.map key = b.answer.map key := by
  have hsorted : ∀ c : Arrangement key rows, (c.answer.map key).Pairwise (· ≤ ·) :=
    fun c => List.pairwise_map.mpr c.sorted
  exact ((a.perm.trans b.perm.symm).map key).eq_of_pairwise
    (fun _ _ _ _ h h' => le_antisymm h h') (hsorted a) (hsorted b)

section Sorted

variable {xs ys : List α} {r : α}

/-- In a sorted answer, smaller keys come before a row. -/
theorem countP_lt_le_length (h : (xs ++ r :: ys).Pairwise fun a b => key a ≤ key b) :
    (xs ++ r :: ys).countP (key · < key r) ≤ xs.length := by
  obtain ⟨-,hrest,-⟩ := List.pairwise_append.mp h
  have hnone : (r :: ys).countP (key · < key r) = 0 := by
    refine List.countP_eq_zero.mpr fun b hb => ?_
    rcases List.mem_cons.mp hb with rfl | hb
    · simp
    · simpa using (List.pairwise_cons.mp hrest).1 b hb
  rw [List.countP_append,hnone]
  exact List.countP_le_length

/-- With no more rows up to its key than those up to it, they are the same. -/
theorem filter_le_eq (h : (xs ++ r :: ys).Pairwise fun a b => key a ≤ key b)
    (hcount : (xs ++ r :: ys).countP (key · ≤ key r) ≤ xs.length+1) :
    (xs ++ r :: ys).filter (key · ≤ key r) = xs ++ [r] := by
  obtain ⟨-,-,hearlier⟩ := List.pairwise_append.mp h
  have hxs : xs.filter (key · ≤ key r) = xs :=
    List.filter_eq_self.mpr fun b hb => by simpa using hearlier b hb r List.mem_cons_self
  rw [List.countP_eq_length_filter] at hcount
  simp only [List.filter_append,hxs,le_refl,decide_true,List.filter_cons_of_pos,
    List.length_append,List.length_cons] at hcount ⊢
  have hys : ys.filter (key · ≤ key r) = [] := List.eq_nil_of_length_eq_zero (by omega)
  rw [hys]

end Sorted

/-- At a place that splits no key, the rows before it are those up to the last one's key. -/
theorem Arrangement.take_eq_filter (a : Arrangement key rows) {m : Nat} {r : α}
    (hr : a.answer[m]? = some r) (h : ¬ Splits key rows (m+1)) :
    a.answer.take (m+1) = a.answer.filter (key · ≤ key r) := by
  obtain ⟨hlt,hget⟩ := List.getElem?_eq_some_iff.mp hr
  have hsplit : a.answer = a.answer.take m ++ r :: a.answer.drop (m+1) := by
    rw [← hget,← List.drop_eq_getElem_cons hlt,List.take_append_drop]
  have hlen : (a.answer.take m).length = m := List.length_take_of_le (Nat.le_of_lt hlt)
  have hsorted := a.sorted
  have hbefore : rows.countP (key · < key r) < m+1 := by
    rw [← a.perm.countP_eq]
    rw [hsplit] at hsorted ⊢
    have hle := countP_lt_le_length hsorted
    omega
  have hupto : rows.countP (key · ≤ key r) ≤ m+1 := by
    by_contra hmore
    exact h ⟨r,a.perm.mem_iff.mp (List.mem_of_getElem? hr),hbefore,by omega⟩
  rw [← a.perm.countP_eq] at hupto
  rw [hsplit] at hsorted hupto
  rw [List.take_add_one,hr]
  conv_rhs => rw [hsplit,filter_le_eq hsorted (by omega)]
  rfl

/-- At such a place all answers have the same rows before it. -/
theorem Arrangement.take_perm (a b : Arrangement key rows) {m : Nat} (h : ¬ Splits key rows m) :
    (a.answer.take m).Perm (b.answer.take m) := by
  have hab : a.answer.Perm b.answer := a.perm.trans b.perm.symm
  cases m with
  | zero => simp
  | succ m =>
    cases hr : a.answer[m]? with
    | none =>
      have hlen : a.answer.length ≤ m := List.getElem?_eq_none_iff.mp hr
      rw [List.take_of_length_le (by omega),List.take_of_length_le (by rw [← hab.length_eq]; omega)]
      exact hab
    | some r =>
      have hkeys : (a.answer.map key)[m]? = (b.answer.map key)[m]? := by rw [a.keys_eq b]
      rw [List.getElem?_map,List.getElem?_map,hr] at hkeys
      obtain ⟨r',hr',hkey⟩ := Option.map_eq_some_iff.mp hkeys.symm
      rw [a.take_eq_filter hr h,b.take_eq_filter hr' h,hkey]
      exact hab.filter _

/-- The pages hold what one answer holds up to the end of the last of them. -/
theorem Determinate.pages_perm {limit : Nat} (h : Determinate key rows limit)
    (answers : Nat → Arrangement key rows) (b : Arrangement key rows) (n : Nat) :
    (pages limit (fun k => (answers k).answer) n).Perm (b.answer.take (n*limit)) := by
  induction n generalizing b with
  | zero => simp
  | succ n ih =>
    rw [pages_succ]
    refine ((ih (answers (n+1))).append_right _).trans ?_
    rw [← take_succ_page]
    exact (answers (n+1)).take_perm b (h (n+1))

/-- The rows can be sorted. -/
def Arrangement.sort (key : α → κ) (rows : List α) : Arrangement key rows where
  answer := rows.insertionSort fun a b => key a ≤ key b
  perm := List.perm_insertionSort _ _
  sorted := by
    have htotal : Std.Total fun a b => key a ≤ key b := ⟨fun a b => le_total (key a) (key b)⟩
    have htrans : IsTrans α fun a b => key a ≤ key b := ⟨fun _ _ _ h h' => le_trans h h'⟩
    exact List.pairwise_insertionSort _ rows

theorem filter_three_perm (k : κ) (rows : List α) :
    (rows.filter (key · < k) ++ (rows.filter (key · = k) ++ rows.filter (k < key ·))).Perm
      rows := by
  refine (List.Perm.append_left _ ?_).trans (List.filter_append_perm (key · < k) rows)
  refine List.Perm.trans (List.Perm.of_eq ?_)
    (List.filter_append_perm (key · = k) (rows.filter fun a => !decide (key a < k)))
  rw [List.filter_filter,List.filter_filter]
  congr 1 <;> refine List.filter_congr fun a _ => ?_
  · by_cases ha : key a = k <;> simp [ha]
  · rcases lt_trichotomy (key a) k with ha | ha | ha
    · simp [ha,ha.le]
    · simp [ha]
    · simp [ha,ha.ne',ha.le]

/-- An answer in which the rows with the key of `r` come in a given order. -/
def Arrangement.around (r : α) (tied : List α) (h : tied.Perm (rows.filter (key · = key r))) :
    Arrangement key rows where
  answer := (sort key (rows.filter (key · < key r))).answer ++
    (tied ++ (sort key (rows.filter (key r < key ·))).answer)
  perm := ((sort key _).perm.append (h.append (sort key _).perm)).trans (filter_three_perm _ rows)
  sorted := by
    have hlow : ∀ a ∈ (sort key (rows.filter (key · < key r))).answer, key a < key r :=
      fun a ha => by simpa using (List.mem_filter.mp ((sort key _).perm.mem_iff.mp ha)).2
    have htied : ∀ a ∈ tied, key a = key r :=
      fun a ha => by simpa using (List.mem_filter.mp (h.mem_iff.mp ha)).2
    have hhigh : ∀ a ∈ (sort key (rows.filter (key r < key ·))).answer, key r < key a :=
      fun a ha => by simpa using (List.mem_filter.mp ((sort key _).perm.mem_iff.mp ha)).2
    refine List.pairwise_append.mpr ⟨(sort key _).sorted,List.pairwise_append.mpr
      ⟨List.pairwise_of_forall_mem_list fun a ha b hb => ?_,(sort key _).sorted,?_⟩,?_⟩
    · rw [htied a ha,htied b hb]
    · intro a ha b hb
      rw [htied a ha]
      exact (hhigh b hb).le
    · intro a ha b hb
      rcases List.mem_append.mp hb with hb | hb
      · rw [htied b hb]
        exact (hlow a ha).le
      · exact ((hlow a ha).trans (hhigh b hb)).le

theorem countP_le_eq (k : κ) (rows : List α) :
    rows.countP (key · ≤ k) = rows.countP (key · < k) + rows.countP (key · = k) := by
  have hthree : (rows.filter (key · < k) ++
      (rows.filter (key · = k) ++ rows.filter (k < key ·))).Perm rows := filter_three_perm k rows
  rw [← hthree.countP_eq,List.countP_append,List.countP_append]
  have hhigh : (rows.filter (k < key ·)).countP (key · ≤ k) = 0 := by
    simp [List.countP_eq_zero]
  have hlow : (rows.filter (key · < k)).countP (key · ≤ k) = rows.countP (key · < k) := by
    rw [List.countP_eq_length_filter (p := (key · < k)),List.countP_eq_length]
    intro a ha
    simpa using (of_decide_eq_true (List.mem_filter.mp ha).2).le
  have htied : (rows.filter (key · = k)).countP (key · ≤ k) = rows.countP (key · = k) := by
    rw [List.countP_eq_length_filter (p := (key · = k)),List.countP_eq_length]
    intro a ha
    simpa using (of_decide_eq_true (List.mem_filter.mp ha).2).le
  omega

/-- Two answers between which a row crosses a place that splits its key. -/
theorem Splits.crossing {m : Nat} (h : Splits key rows m) :
    ∃ (a b : Arrangement key rows) (r : α), r ∈ a.answer.take m ∧ r ∈ b.answer.drop m := by
  obtain ⟨r,hr,hlow,hupto⟩ := h
  rw [countP_le_eq,List.countP_eq_length_filter (p := (key · = key r))] at hupto
  obtain ⟨first,others,htied⟩ : ∃ x xs, rows.filter (key · = key r) = x :: xs :=
    List.exists_cons_of_ne_nil (List.ne_nil_of_mem (List.mem_filter.mpr ⟨hr,by simp⟩))
  have hsmaller : (Arrangement.sort key (rows.filter (key · < key r))).answer.length =
      rows.countP (key · < key r) := by
    rw [(Arrangement.sort key _).perm.length_eq,List.countP_eq_length_filter]
  rw [htied,List.length_cons] at hupto
  refine ⟨.around r _ (List.Perm.refl _),.around r _ (List.reverse_perm _),first,?_,?_⟩
  · simp only [Arrangement.around,htied,List.take_append,List.cons_append]
    obtain ⟨k,hk⟩ : ∃ k, m-rows.countP (key · < key r) = k+1 := ⟨_,(Nat.succ_pred (by omega)).symm⟩
    simp [hsmaller,hk]
  · simp only [Arrangement.around,htied,List.reverse_cons,List.append_assoc,List.drop_append,
      hsmaller,List.length_reverse]
    have hzero : m-rows.countP (key · < key r)-others.length = 0 := by omega
    simp [hzero]

/-- Whatever the database answers, the pages together show the rows, exactly when no page ends among
rows with one key. -/
theorem pages_partition_iff {β : Type} {view : α → β} (hrows : (rows.map view).Nodup) {limit : Nat}
    (hlimit : 0 < limit) :
    (∀ (answers : Nat → Arrangement key rows) (n : Nat), rows.length ≤ n*limit →
      ((pages limit (fun k => (answers k).answer) n).map view).Perm (rows.map view)) ↔
      Determinate key rows limit := by
  constructor
  · intro h n hsplits
    obtain ⟨a,b,r,ha,hb⟩ := hsplits.crossing
    have hd : rows.length ≤ rows.length*limit := Nat.le_mul_of_pos_right _ hlimit
    have hperm := h (fun k => if k ≤ n then a else b) (n+rows.length) (by rw [Nat.add_mul]; omega)
    have happly : (fun k => (if k ≤ n then a else b).answer) =
        fun k => if k ≤ n then a.answer else b.answer := by
      funext k
      split <;> rfl
    rw [happly,pages_switch,List.take_of_length_le (l := b.answer.drop _)
      (by rw [List.length_drop,b.perm.length_eq]; omega)] at hperm
    have hnodup := (hperm.nodup_iff.mpr hrows).of_map
    exact (List.nodup_append.mp hnodup).2.2 r ha r hb rfl
  · intro h answers n hn
    refine ((h.pages_perm answers (answers 0) n).trans ?_).map view
    rw [List.take_of_length_le (by rw [(answers 0).perm.length_eq]; exact hn)]
    exact (answers 0).perm

/-- Rows with different keys have one order. -/
theorem Arrangement.answer_eq (hkey : ∀ a ∈ rows, ∀ b ∈ rows, key a = key b → a = b)
    (a b : Arrangement key rows) : a.answer = b.answer := by
  have hantisymm : ∀ x y, x ∈ a.answer → y ∈ b.answer → key x ≤ key y → key y ≤ key x → x = y :=
    fun x y hx hy h h' =>
      hkey x (a.perm.mem_iff.mp hx) y (b.perm.mem_iff.mp hy) (le_antisymm h h')
  exact (a.perm.trans b.perm.symm).eq_of_pairwise hantisymm a.sorted b.sorted

section Growing

/-- A row is on the page that its place is on. -/
theorem mem_page_of_place {rows : List α} {limit n i : Nat} {r : α} (hr : rows[i]? = some r)
    (hfrom : n*limit ≤ i) (hto : i < (n+1)*limit) : r ∈ page limit (n+1) rows := by
  rw [Nat.add_mul,Nat.one_mul] at hto
  refine List.mem_of_getElem? (i := i-n*limit) ?_
  rw [page,List.getElem?_take_of_lt (by omega),List.getElem?_drop,Nat.add_sub_cancel,
    Nat.add_sub_cancel' hfrom]
  exact hr

/-- Where keys differ, the place of a row is the number of rows with a smaller key. -/
theorem Arrangement.getElem?_place (a : Arrangement key rows) (hnodup : (rows.map key).Nodup)
    {r : α} (hr : r ∈ rows) : a.answer[rows.countP (key · < key r)]? = some r := by
  obtain ⟨xs,ys,hsplit⟩ := List.append_of_mem (a.perm.mem_iff.mpr hr)
  have hsorted : (xs ++ r :: ys).Pairwise fun a b => key a ≤ key b := hsplit ▸ a.sorted
  have hdistinct : ((xs ++ r :: ys).map key).Nodup :=
    hsplit ▸ (a.perm.map key).nodup_iff.mpr hnodup
  have hxs : xs.countP (key · < key r) = xs.length := by
    refine List.countP_eq_length.mpr fun b hb => ?_
    have hle : key b ≤ key r := (List.pairwise_append.mp hsorted).2.2 b hb r List.mem_cons_self
    rw [List.map_append,List.map_cons] at hdistinct
    have hne : key b ≠ key r :=
      (List.nodup_append.mp hdistinct).2.2 _ (List.mem_map_of_mem hb) _ List.mem_cons_self
    simpa using lt_of_le_of_ne hle hne
  have hplace : rows.countP (key · < key r) = xs.length := by
    rw [← a.perm.countP_eq,hsplit]
    refine le_antisymm (countP_lt_le_length hsorted) ?_
    rw [List.countP_append,hxs]
    exact Nat.le_add_right _ _
  rw [hplace,hsplit,List.getElem?_append_right le_rfl,Nat.sub_self,List.getElem?_cons_zero]

variable {table : Nat → List α}

theorem subperm_of_growing (hgrow : ∀ k, (table k).Subperm (table (k+1))) {m n : Nat}
    (h : m ≤ n) : (table m).Subperm (table n) := by
  induction h with
  | refl => exact List.Subperm.refl _
  | step _ ih => exact ih.trans (hgrow _)

/-- While rows are only added, a row moves towards the end, and so no page is read past it: the
pages show all rows there were at the first. -/
theorem pages_complete (hgrow : ∀ k, (table k).Subperm (table (k+1)))
    (hnodup : ∀ k, ((table k).map key).Nodup) (answers : ∀ k, Arrangement key (table k))
    {limit n : Nat} (hn : 1 ≤ n) (hlast : (table n).length ≤ n*limit) {r : α} (hr : r ∈ table 1) :
    r ∈ pages limit (fun k => (answers k).answer) n := by
  have hstep : ∀ m, r ∈ pages limit (fun k => (answers k).answer) m ∨
      m*limit ≤ (table m).countP (key · < key r) := by
    intro m
    induction m with
    | zero => exact .inr (by simp)
    | succ m ih =>
      rw [pages_succ]
      rcases ih with hshown | hlater
      · exact .inl (List.mem_append_left _ hshown)
      · have hmoved : m*limit ≤ (table (m+1)).countP (key · < key r) :=
          hlater.trans ((hgrow m).countP_le _)
        by_cases hto : (table (m+1)).countP (key · < key r) < (m+1)*limit
        · have hmem : r ∈ table (m+1) := (subperm_of_growing hgrow (by omega)).subset hr
          have hplace := (answers (m+1)).getElem?_place (hnodup (m+1)) hmem
          exact .inl (List.mem_append_right _ (mem_page_of_place hplace hmoved hto))
        · exact .inr (Nat.le_of_not_lt hto)
  rcases hstep n with hshown | hlater
  · exact hshown
  · have hmem : r ∈ table n := (subperm_of_growing hgrow hn).subset hr
    have hless : (table n).countP (key · < key r) < (table n).length :=
      List.countP_lt_length_iff.mpr ⟨r,hmem,by simp⟩
    omega

theorem mem_pages {limit n : Nat} {answers : Nat → List α} {r : α}
    (hr : r ∈ pages limit answers n) : ∃ k, 1 ≤ k ∧ k ≤ n ∧ r ∈ answers k := by
  obtain ⟨i,hi,hpage⟩ := List.mem_flatMap.mp hr
  have hlt : i < n := List.mem_range.mp hi
  exact ⟨i+1,by omega,by omega,List.mem_of_mem_drop (List.mem_of_mem_take hpage)⟩

end Growing

end Paging
