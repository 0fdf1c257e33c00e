import AccessControl.Store.Reference

/-!
# Rows that do not clash

The rows of a table differ in their keys and in every other column that is
declared unique.  A search for a value of such a column then finds a row
exactly when the row is in the table and has the value: the order of the rows
plays no part.
-/

namespace AccessControl.Store

/-- A search finds a row exactly when the row has the property, if no two rows
of the list have it. -/
theorem find?_eq_some_iff_of_alone {α : Type} {property : α → Bool}
    {rows : List α}
    (alone : rows.Pairwise fun a b => ¬ (property a = true ∧ property b = true))
    {row : α} :
    rows.find? property = some row ↔ row ∈ rows ∧ property row = true := by
  induction rows with
  | nil => simp
  | cons first later induction =>
      obtain ⟨firstAlone, laterAlone⟩ := List.pairwise_cons.mp alone
      rw [List.find?_cons]
      cases holds : property first with
      | false =>
          have other : property row = true → row ≠ first := by
            rintro held rfl
            simp [held] at holds
          simp only [induction laterAlone, List.mem_cons]
          constructor
          · rintro ⟨member, held⟩
            exact ⟨.inr member, held⟩
          · rintro ⟨equal | member, held⟩
            · exact absurd equal (other held)
            · exact ⟨member, held⟩
      | true =>
          constructor
          · intro found
            obtain rfl : first = row := by simpa using found
            exact ⟨List.mem_cons_self, holds⟩
          · rintro ⟨member, held⟩
            rcases List.mem_cons.mp member with rfl | later
            · rfl
            · exact absurd ⟨holds, held⟩ (firstAlone row later)

namespace Tables

/-- No two rows of any table clash. -/
def Distinct (tables : Tables) : Prop :=
  ∀ table, (tables.rows table).Pairwise fun a b => Row.clashes a b = false

/-- The values of a column tell the rows of a table apart. -/
def Identifies {α : Type} (table : Table) (column : Row table → α) : Prop :=
  ∀ a b, column a = column b → Row.clashes a b = true

section

variable {α : Type} {table : Table} {column : Row table → α}

theorem Identifies.of_key
    (determines : ∀ a b, column a = column b → Row.key a = Row.key b) :
    Identifies table column := by
  intro a b same
  simp [Row.clashes, determines a b same]

theorem Identifies.of_unique
    (determines : ∀ a b, column a = column b → Row.sharesUnique a b = true) :
    Identifies table column := by
  intro a b same
  simp [Row.clashes, determines a b same]

variable {tables : Tables}

/-- At most one row has a property that fixes the value of such a column. -/
theorem Distinct.alone (distinct : tables.Distinct)
    (identifies : Identifies table column) {property : Row table → Bool}
    {value : α} (fixes : ∀ row, property row = true → column row = value) :
    (tables.rows table).Pairwise fun a b =>
      ¬ (property a = true ∧ property b = true) := by
  apply (distinct table).imp
  rintro a b apart ⟨left, right⟩
  have same : column a = column b := (fixes a left).trans (fixes b right).symm
  simp [identifies a b same] at apart

/-- Searching for a property that fixes the value of such a column. -/
theorem Distinct.find?_eq_some_iff (distinct : tables.Distinct)
    (identifies : Identifies table column) {property : Row table → Bool}
    {value : α} (fixes : ∀ row, property row = true → column row = value)
    {row : Row table} :
    (tables.rows table).find? property = some row ↔
      row ∈ tables.rows table ∧ property row = true :=
  find?_eq_some_iff_of_alone (distinct.alone identifies fixes)

/-- The rows may be searched in any order. -/
theorem Distinct.find?_eq_of_perm (distinct : tables.Distinct)
    (identifies : Identifies table column) {property : Row table → Bool}
    {value : α} (fixes : ∀ row, property row = true → column row = value)
    {rows : List (Row table)} (rearranged : rows.Perm (tables.rows table)) :
    rows.find? property = (tables.rows table).find? property := by
  have alone := distinct.alone identifies fixes
  have rearrangedAlone : rows.Pairwise fun a b =>
      ¬ (property a = true ∧ property b = true) :=
    (rearranged.pairwise_iff fun apart both => apart both.symm).mpr alone
  ext row
  rw [find?_eq_some_iff_of_alone rearrangedAlone,
    find?_eq_some_iff_of_alone alone, rearranged.mem_iff]

/-- Looking up the value of such a column. -/
theorem Distinct.find?_column_eq_some_iff [DecidableEq α]
    (distinct : tables.Distinct) (identifies : Identifies table column)
    {value : α} {row : Row table} :
    (tables.rows table).find? (fun found => column found == value) = some row ↔
      row ∈ tables.rows table ∧ column row = value := by
  rw [distinct.find?_eq_some_iff identifies fun _ => beq_iff_eq.mp, beq_iff_eq]

end

end Tables

end AccessControl.Store
