import Mathlib.Data.List.Defs
set_option autoImplicit false

/-! Dictionaries in insertion order, as association lists: what a lookup finds after assignments. -/

namespace Dict

variable {κ β : Type} [DecidableEq κ]

/-- An assignment keeps the place of a key that is there, and puts a new one last. -/
def set (k : κ) (v : β) : List (κ × β) → List (κ × β)
  | [] => [(k,v)]
  | (k',v') :: d => if k' = k then (k,v) :: d else (k',v') :: set k v d

/-- Assignments, the first one first. -/
def setAll (d entries : List (κ × β)) : List (κ × β) :=
  entries.foldl (fun d entry => set entry.1 entry.2 d) d

@[simp] theorem setAll_nil (d : List (κ × β)) : setAll d [] = d := rfl

@[simp] theorem setAll_cons (d : List (κ × β)) (entry : κ × β) (entries : List (κ × β)) :
    setAll d (entry :: entries) = setAll (set entry.1 entry.2 d) entries := rfl

theorem lookup_cons (k k' : κ) (v : β) (d : List (κ × β)) :
    ((k',v) :: d).lookup k = if k = k' then some v else d.lookup k := by
  by_cases hk : k = k'
  · subst hk
    simp
  · have hbeq : (k == k') = false := beq_eq_false_iff_ne.mpr hk
    simp [List.lookup_cons,hbeq,hk]

theorem mem_of_lookup {k : κ} {v : β} {d : List (κ × β)} (h : d.lookup k = some v) : (k,v) ∈ d := by
  obtain ⟨before,after,rfl,-⟩ := List.lookup_eq_some_iff.mp h
  simp

theorem lookup_set (k k' : κ) (v : β) (d : List (κ × β)) :
    (set k v d).lookup k' = if k' = k then some v else d.lookup k' := by
  induction d with
  | nil => rw [set,lookup_cons]
  | cons entry d ih =>
    obtain ⟨k'',v''⟩ := entry
    by_cases hk : k'' = k
    · subst hk
      by_cases hk' : k' = k''
      · simp [set,hk']
      · simp [set,lookup_cons,hk']
    · rw [set,if_neg hk,lookup_cons,lookup_cons,ih]
      by_cases hk' : k' = k''
      · subst hk'
        simp [hk]
      · simp [hk']

/-- A key that is not assigned keeps its value. -/
theorem lookup_setAll_of_not_mem {d entries : List (κ × β)} {k : κ}
    (h : ∀ v, (k,v) ∉ entries) : (setAll d entries).lookup k = d.lookup k := by
  induction entries generalizing d with
  | nil => rfl
  | cons entry entries ih =>
    have hk : k ≠ entry.1 := by
      rintro rfl
      exact h entry.2 List.mem_cons_self
    rw [setAll_cons,ih fun v hv => h v (List.mem_cons_of_mem _ hv),lookup_set,if_neg hk]

/-- A value is one that has been assigned, or was there before. -/
theorem mem_of_lookup_setAll {d entries : List (κ × β)} {k : κ} {v : β}
    (h : (setAll d entries).lookup k = some v) : (k,v) ∈ entries ∨ d.lookup k = some v := by
  induction entries generalizing d with
  | nil => exact .inr h
  | cons entry entries ih =>
    rcases ih h with hmem | hlookup
    · exact .inl (List.mem_cons_of_mem _ hmem)
    · rw [lookup_set] at hlookup
      split at hlookup
      · rename_i hk
        cases hlookup
        subst hk
        exact .inl List.mem_cons_self
      · exact .inr hlookup

/-- A key that is only ever assigned one value has it. -/
theorem lookup_setAll_of_mem {d entries : List (κ × β)} {k : κ} {v : β} (hmem : (k,v) ∈ entries)
    (honly : ∀ v', (k,v') ∈ entries → v' = v) : (setAll d entries).lookup k = some v := by
  induction entries generalizing d with
  | nil => cases hmem
  | cons entry entries ih =>
    by_cases hlater : ∃ v', (k,v') ∈ entries
    · obtain ⟨v',hv'⟩ := hlater
      obtain rfl := honly v' (List.mem_cons_of_mem _ hv')
      exact ih hv' fun w hw => honly w (List.mem_cons_of_mem _ hw)
    · rcases List.mem_cons.mp hmem with rfl | hlast
      · rw [setAll_cons,lookup_setAll_of_not_mem (not_exists.mp hlater),lookup_set,if_pos rfl]
      · exact absurd ⟨v,hlast⟩ hlater

end Dict
