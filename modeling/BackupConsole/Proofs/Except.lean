import Mathlib.Data.List.Forall2

set_option autoImplicit false

namespace BackupConsole

variable {ε α β : Type}

theorem mapM_cons_of_ok {f : α → Except ε β} {a : α} {b : β}
    (first : f a = .ok b) (as : List α) :
    (a :: as).mapM f = (as.mapM f).map (b :: ·) := by
  rw [List.mapM_cons, first]
  cases as.mapM f <;> rfl

theorem mapM_eq_ok_iff {f : α → Except ε β} {as : List α} {bs : List β} :
    as.mapM f = .ok bs ↔ List.Forall₂ (fun a b => f a = .ok b) as bs := by
  constructor
  · intro done
    induction as generalizing bs with
    | nil =>
      cases done
      exact .nil
    | cons a as ih =>
      cases first : f a with
      | error e =>
        rw [List.mapM_cons, first] at done
        cases done
      | ok b =>
        rw [mapM_cons_of_ok first] at done
        cases others : as.mapM f with
        | error e =>
          rw [others] at done
          cases done
        | ok rest =>
          rw [others] at done
          cases done
          exact .cons first (ih others)
  · intro each
    induction each with
    | nil => rfl
    | cons first _ ih =>
      rw [mapM_cons_of_ok first, ih]
      rfl

theorem toOption_eq_some_iff {x : Except ε α} {a : α} : x.toOption = some a ↔ x = .ok a := by
  cases x <;> simp [Except.toOption]

theorem bind_eq_ok {x : Except ε α} {f : α → Except ε β} {b : β} (done : (x >>= f) = .ok b) :
    ∃ a, x = .ok a ∧ f a = .ok b := by
  cases x with
  | error e => cases done
  | ok a => exact ⟨a, rfl, done⟩

theorem bind_eq_error {x : Except ε α} {f : α → Except ε β} {e : ε}
    (failed : (x >>= f) = .error e) : x = .error e ∨ ∃ a, x = .ok a ∧ f a = .error e := by
  cases x with
  | error first =>
    cases failed
    exact .inl rfl
  | ok a => exact .inr ⟨a, rfl, failed⟩

theorem bind_eq_error_iff {x : Except ε α} {f : α → Except ε β} {e : ε} :
    (x >>= f) = .error e ↔ x = .error e ∨ ∃ a, x = .ok a ∧ f a = .error e := by
  refine ⟨bind_eq_error, ?_⟩
  rintro (failed | ⟨a, done, failed⟩)
  · rw [failed]
    rfl
  · rw [done]
    exact failed

theorem map_eq_ok {x : Except ε α} {f : α → β} {b : β} (done : x.map f = .ok b) :
    ∃ a, x = .ok a ∧ f a = b := by
  cases x with
  | error e => cases done
  | ok a => exact ⟨a, rfl, Except.ok.inj done⟩

theorem map_eq_error_iff {x : Except ε α} {f : α → β} {e : ε} :
    x.map f = .error e ↔ x = .error e := by
  cases x <;> simp [Except.map]

theorem map_eq_error {x : Except ε α} {f : α → β} {e : ε}
    (failed : x.map f = .error e) : x = .error e := map_eq_error_iff.1 failed

theorem mapM_eq_error {f : α → Except ε β} {as : List α} {e : ε}
    (failed : as.mapM f = .error e) : ∃ a ∈ as, f a = .error e := by
  induction as with
  | nil => cases failed
  | cons a as ih =>
    cases first : f a with
    | error other =>
      rw [List.mapM_cons, first] at failed
      cases failed
      exact ⟨a, List.mem_cons_self, first⟩
    | ok b =>
      rw [mapM_cons_of_ok first] at failed
      obtain ⟨later, member, fails⟩ := ih (map_eq_error failed)
      exact ⟨later, List.mem_cons_of_mem a member, fails⟩

theorem mapM_eq_error_iff_first {f : α → Except ε β} {as : List α} {e : ε} :
    as.mapM f = .error e ↔ ∃ before a after, as = before ++ a :: after ∧
      (∀ earlier ∈ before, ∃ b, f earlier = .ok b) ∧ f a = .error e := by
  constructor
  · intro failed
    induction as with
    | nil => cases failed
    | cons a as ih =>
      cases first : f a with
      | error other =>
        rw [List.mapM_cons, first] at failed
        cases failed
        exact ⟨[], a, as, rfl, nofun, first⟩
      | ok b =>
        rw [mapM_cons_of_ok first] at failed
        obtain ⟨before, later, after, rfl, done, fails⟩ := ih (map_eq_error failed)
        exact ⟨a :: before, later, after, rfl, List.forall_mem_cons.2 ⟨⟨b, first⟩, done⟩, fails⟩
  · rintro ⟨before, a, after, rfl, done, fails⟩
    induction before with
    | nil =>
      rw [List.nil_append, List.mapM_cons, fails]
      rfl
    | cons earlier before ih =>
      obtain ⟨⟨b, first⟩, done⟩ := List.forall_mem_cons.1 done
      rw [List.cons_append, mapM_cons_of_ok first, ih done]
      rfl

theorem ok_of_mapM_ok {f : α → Except ε β} {as : List α} {bs : List β}
    (done : as.mapM f = .ok bs) {a : α} (member : a ∈ as) : ∃ b, f a = .ok b := by
  have each := mapM_eq_ok_iff.1 done
  clear done
  induction each with
  | nil => cases member
  | cons first _ ih =>
    rcases List.mem_cons.1 member with rfl | later
    · exact ⟨_, first⟩
    · exact ih later

-- Where all failures are the same one, some element decides whether it comes to that.
theorem mapM_eq_error_iff {f : α → Except ε β} {as : List α} {sole e : ε} {Fails : α → Prop}
    (each : ∀ a ∈ as, ∀ e, f a = .error e ↔ e = sole ∧ Fails a) :
    as.mapM f = .error e ↔ e = sole ∧ ∃ a ∈ as, Fails a := by
  have blamed {e : ε} (failed : as.mapM f = .error e) : e = sole ∧ ∃ a ∈ as, Fails a := by
    obtain ⟨a, member, failed⟩ := mapM_eq_error failed
    obtain ⟨same, fails⟩ := (each a member e).1 failed
    exact ⟨same, a, member, fails⟩
  refine ⟨blamed, ?_⟩
  rintro ⟨rfl, a, member, fails⟩
  cases all : as.mapM f with
  | error other => rw [(blamed all).1]
  | ok bs =>
    obtain ⟨b, done⟩ := ok_of_mapM_ok all member
    cases done.symm.trans ((each a member e).2 ⟨rfl, fails⟩)

end BackupConsole
