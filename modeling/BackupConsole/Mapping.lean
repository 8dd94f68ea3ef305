set_option autoImplicit false

namespace BackupConsole.Mapping

variable {κ ν : Type}

def insert (same : κ → κ → Bool) : List (κ × ν) → κ → ν → List (κ × ν)
  | [], k, v => [(k, v)]
  | (j, w) :: rest, k, v => if same j k then (j, v) :: rest else (j, w) :: insert same rest k v

def ofPairs (same : κ → κ → Bool) (pairs : List (κ × ν)) : List (κ × ν) :=
  pairs.foldl (fun entries (k, v) => insert same entries k v) []

def lastValue? (same : κ → κ → Bool) (pairs : List (κ × ν)) (k : κ) : Option ν :=
  (pairs.reverse.find? fun (j, _) => same j k).map (·.2)

theorem lookup_cons_eq_ite [BEq κ] (entries : List (κ × ν)) (k j : κ) (v : ν) :
    ((k, v) :: entries).lookup j = if j == k then some v else entries.lookup j := by
  change (match j == k with | true => some v | false => entries.lookup j) = _
  cases j == k <;> rfl

theorem lookup_insert [BEq κ] [LawfulBEq κ] (entries : List (κ × ν)) (k j : κ) (v : ν) :
    (insert (· == ·) entries k v).lookup j = if j == k then some v else entries.lookup j := by
  induction entries with
  | nil => exact lookup_cons_eq_ite [] k j v
  | cons entry rest ih =>
    obtain ⟨i, w⟩ := entry
    by_cases same : i = k
    · subst same
      simp only [insert, beq_self_eq_true, if_true, lookup_cons_eq_ite]
      split <;> rfl
    · have differ : (i == k) = false := by simpa using same
      simp only [insert, differ, lookup_cons_eq_ite, Bool.false_eq_true, if_false, ih]
      by_cases h : j = i <;> simp_all

theorem lookup_foldl_insert [BEq κ] [LawfulBEq κ] (pairs before : List (κ × ν)) (k : κ) :
    (pairs.foldl (fun entries (k, v) => insert (· == ·) entries k v) before).lookup k =
      (lastValue? (· == ·) pairs k).or (before.lookup k) := by
  induction pairs generalizing before with
  | nil => simp [lastValue?]
  | cons pair rest ih =>
    obtain ⟨j, v⟩ := pair
    simp only [List.foldl_cons, ih, lookup_insert, lastValue?, List.reverse_cons, List.find?_append]
    by_cases h : k = j
    · cases hf : List.find? (fun x => x.1 == k) rest.reverse <;> simp_all
    · have h' : ¬ j = k := fun e => h e.symm
      cases hf : List.find? (fun x => x.1 == k) rest.reverse <;> simp_all

theorem lookup_ofPairs [BEq κ] [LawfulBEq κ] (pairs : List (κ × ν)) (k : κ) :
    (ofPairs (· == ·) pairs).lookup k = lastValue? (· == ·) pairs k := by
  simp [ofPairs, lookup_foldl_insert]

end BackupConsole.Mapping
