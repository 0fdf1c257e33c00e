import Mathlib.Algebra.Order.BigOperators.Group.List
import Mathlib.Algebra.Order.Group.Nat
import AccessControl.Proofs.Store.Balance

/-!
# Intact tables

In intact tables no rows clash and every reference names a row.  While
references are enforced, no statement that succeeds takes tables out of this
state, and a deletion succeeds exactly when it leaves them in it.
-/

namespace AccessControl.Store

namespace Tables

/-- Every reference names a row. -/
def Resolved (tables : Tables) : Prop :=
  ∀ table, ∀ row ∈ tables.rows table, ∀ reference ∈ Row.references row,
    tables.resolves reference = true

/-- Tables in which no rows clash and every reference names a row. -/
structure Intact (tables : Tables) : Prop where
  distinct : tables.Distinct
  resolved : tables.Resolved

theorem danglingCount_eq_zero_iff {tables : Tables} {table : Table}
    {row : Row table} :
    tables.danglingCount row = 0 ↔
      ∀ reference ∈ Row.references row, tables.resolves reference = true := by
  simp [danglingCount, List.countP_eq_zero]

theorem danglingTotal_eq_zero_iff {tables : Tables} :
    tables.danglingTotal = 0 ↔ tables.Resolved := by
  simp [danglingTotal, countReferences, List.countP_eq_zero, Resolved, mem_all]
  grind

theorem intact_empty : Intact {} where
  distinct table := by cases table <;> exact List.Pairwise.nil
  resolved table row member := by cases table <;> cases member

theorem Distinct.pairwise_key {tables : Tables} (distinct : tables.Distinct)
    (table : Table) :
    (tables.rows table).Pairwise fun a b => Row.key a ≠ Row.key b := by
  apply (distinct table).imp
  intro a b apart same
  simp [Row.clashes, same] at apart

theorem Distinct.eq_of_key {tables : Tables} (distinct : tables.Distinct)
    {table : Table} {row other : Row table} (member : row ∈ tables.rows table)
    (otherMember : other ∈ tables.rows table)
    (same : Row.key row = Row.key other) : row = other := by
  have identifies : Identifies table Row.key := .of_key fun _ _ same => same
  have found := (distinct.find?_column_eq_some_iff identifies).mpr
    ⟨member, same⟩
  have otherFound := (distinct.find?_column_eq_some_iff identifies).mpr
    ⟨otherMember, rfl⟩
  exact Option.some.inj (found.symm.trans otherFound)

section

variable {tables changed : Tables} {table : Table}

/-- A deletion takes the selected rows out of their table and no others. -/
theorem Distinct.rows_deleted_self (distinct : tables.Distinct)
    (selected : Row table → Bool) :
    (tables.deleted table selected).tables.rows table =
      (tables.rows table).filter fun row => !selected row := by
  unfold deleted
  rw [rows_foldl_deleteRow_self]
  apply List.filter_congr
  intro row member
  rw [Bool.eq_iff_iff, List.all_eq_true, Bool.not_eq_true']
  constructor
  · intro apart
    by_contra chosen
    have gone := apart row
      (List.mem_filter.mpr ⟨member, by simpa using chosen⟩)
    simp at gone
  · intro kept other otherMember
    obtain ⟨present, chosen⟩ := List.mem_filter.mp otherMember
    apply bne_iff_ne.mpr
    intro same
    rw [distinct.eq_of_key member present same, chosen] at kept
    cases kept

/-- Rows that no deleted row is named by stay as they are. -/
theorem rows_deleted_of_kept {other : Table} {selected : Row table → Bool}
    (different : other ≠ table)
    (kept : ∀ target ∈ tables.rows other, ∀ reference ∈ Row.references target,
      reference.onDelete ≠ .refuse → reference.table ≠ table) :
    (tables.deleted table selected).tables.rows other = tables.rows other := by
  apply rows_foldl_deleteRow_of_kept { tables } _ different
  intro target member row _
  cases found : (Row.references target).find? (fun reference =>
      reference.names table (Row.key row)) with
  | none =>
      apply Row.released_of_not_names
      simpa [List.find?_eq_none] using found
  | some reference =>
      have referenceMember := List.mem_of_find?_eq_some found
      have named : reference.names table (Row.key row) = true := by
        simpa using List.find?_some found
      rw [released_of_find found]
      cases action : reference.onDelete with
      | refuse => rfl
      | cascade | detach =>
          have elsewhere := kept target member reference referenceMember
            (by simp [action])
          simp [Reference.names, elsewhere] at named

/-- A deletion among intact tables succeeds exactly when it leaves no
reference without a row. -/
theorem Intact.deleteWhere_eq_ok_iff (intact : tables.Intact)
    {selected : Row table → Bool} :
    tables.deleteWhere true table selected = .ok changed ↔
      changed = (tables.deleted table selected).tables ∧ changed.Resolved := by
  have settled : (tables.deleted table selected).count =
      (tables.deleted table selected).tables.danglingTotal := by
    apply count_foldl_deleteRow { tables } _ intact.distinct
    · exact fun _ member => List.mem_of_mem_filter member
    · exact (intact.distinct.pairwise_key table).filter _
    · exact (danglingTotal_eq_zero_iff.mpr intact.resolved).symm
  constructor
  · intro success
    rcases deleteWhere_eq_ok success with ⟨_, zero, rfl⟩ | ⟨off, _⟩
    · exact ⟨rfl, danglingTotal_eq_zero_iff.mp (settled.symm.trans zero)⟩
    · cases off
  · rintro ⟨rfl, resolved⟩
    have zero : (tables.deleted table selected).count = 0 :=
      settled.trans (danglingTotal_eq_zero_iff.mpr resolved)
    exact if_pos zero

theorem Intact.deleteWhere (intact : tables.Intact)
    {selected : Row table → Bool}
    (success : tables.deleteWhere true table selected = .ok changed) :
    changed.Intact where
  distinct := intact.distinct.deleteWhere success
  resolved := (intact.deleteWhere_eq_ok_iff.mp success).2

/-! ## Insertions and updates -/

/-- No reference waits for the key of a row that clashes with none. -/
theorem Intact.countIn_eq_zero (intact : tables.Intact) {row : Row table}
    (absent : tables.contains table (Row.key row) = false) (other : Table) :
    tables.countIn (fun reference => reference.names table (Row.key row))
      other = 0 := by
  unfold countIn
  rw [List.countP_eq_zero]
  intro reference member named
  obtain ⟨target, targetMember, referenceMember⟩ := List.mem_flatMap.mp member
  have resolves :=
    intact.resolved other target targetMember reference referenceMember
  obtain ⟨rfl, same⟩ : reference.table = table ∧
      reference.key = Row.key row := by
    simpa [Reference.names] using named
  rw [Tables.resolves, same, absent] at resolves
  cases resolves

/-- Rows whose keys are new add up their own open references. -/
theorem Intact.foldl_countInserted (intact : tables.Intact)
    {rows : List (Row table)}
    (absent : ∀ row ∈ rows, tables.contains table (Row.key row) = false)
    (count : Int) :
    rows.foldl tables.countInserted count =
      count + ((rows.map tables.danglingCount).sum : Nat) := by
  induction rows generalizing count with
  | nil => simp
  | cons row later induction =>
      have nothing := intact.countIn_eq_zero (absent row List.mem_cons_self)
      have unchanged : (fun (count : Int) (_ : Table) =>
          if count = 0 then 0 else count) = fun count _ => count := by
        funext count _
        split <;> simp_all
      have step : tables.countInserted count row =
          count + tables.danglingCount row := by
        unfold countInserted
        simp only [nothing, Int.natCast_zero, Int.sub_zero, unchanged,
          List.foldl_fixed]
      rw [List.foldl_cons, step, induction]
      · simp [Int.add_assoc]
      · exact fun other member => absent other (List.mem_cons_of_mem row member)

/-- An insertion that is accepted among intact tables leaves no reference of
its rows open. -/
theorem Intact.resolves_of_inserted (intact : tables.Intact)
    {rows : List (Row table)}
    (success : tables.insert true table rows = .ok changed) :
    ∀ row ∈ rows, ∀ reference ∈ Row.references row,
      tables.resolves reference = true := by
  obtain ⟨appended, accepts, _⟩ := insert_eq_ok success
  have accepted := accepts rfl
  have apart :=
    pairwise_of_appendRows appended (intact.distinct table)
  have absent : ∀ row ∈ rows, tables.contains table (Row.key row) = false := by
    intro row member
    apply List.any_eq_false.mpr
    intro old oldMember same
    have clear := (List.pairwise_append.mp apart).2.2 old oldMember row member
    simp [Row.clashes, beq_iff_eq.mp same] at clear
  have total : (rows.map tables.danglingCount).sum = 0 := by
    unfold acceptsInserted at accepted
    split at accepted
    next row =>
        simpa using accepted
    next =>
        rw [intact.foldl_countInserted absent] at accepted
        have bounded := of_decide_eq_true accepted
        omega
  intro row member
  apply danglingCount_eq_zero_iff.mp
  exact List.sum_eq_zero_iff.mp total _ (List.mem_map_of_mem member)

theorem Intact.replace (intact : tables.Intact) {rows : List (Row table)}
    (apart : rows.Pairwise fun a b => Row.clashes a b = false)
    (kept : ∀ row ∈ tables.rows table,
      ∃ left ∈ rows, Row.key left = Row.key row)
    (closed : ∀ row ∈ rows, ∀ reference ∈ Row.references row,
      tables.resolves reference = true) :
    (tables.replace table rows).Intact where
  distinct := intact.distinct.replace apart
  resolved := by
    intro other row member reference referenceMember
    have before : tables.resolves reference = true := by
      by_cases same : other = table
      · subst same
        rw [rows_replace_self] at member
        exact closed row member reference referenceMember
      · rw [rows_replace_of_ne tables rows same] at member
        exact intact.resolved other row member reference referenceMember
    unfold resolves contains at *
    by_cases target : reference.table = table
    · obtain ⟨_, key, onDelete⟩ := reference
      cases target
      rw [rows_replace_self]
      obtain ⟨old, oldMember, oldKey⟩ := List.any_eq_true.mp before
      obtain ⟨left, leftMember, leftKey⟩ := kept old oldMember
      exact List.any_eq_true.mpr ⟨left, leftMember, by rw [leftKey, oldKey]⟩
    · rw [rows_replace_of_ne tables rows target]
      exact before

theorem Intact.insert (intact : tables.Intact) {rows : List (Row table)}
    (success : tables.insert true table rows = .ok changed) :
    changed.Intact := by
  have inserted := intact.resolves_of_inserted success
  obtain ⟨appended, _, rfl⟩ := insert_eq_ok success
  apply intact.replace (pairwise_of_appendRows appended (intact.distinct table))
  · intro row member
    exact ⟨row, List.mem_append_left rows member, rfl⟩
  · intro row member
    rcases List.mem_append.mp member with old | new
    · exact intact.resolved table row old
    · exact inserted row new

theorem Intact.update (intact : tables.Intact) {row : Row table}
    (success : tables.update true table row = .ok changed) :
    changed.Intact := by
  have distinct := intact.distinct.update success
  rcases update_eq_ok success with rfl | ⟨_, closed, rfl⟩
  · exact intact
  have apart := distinct table
  rw [rows_replace_self] at apart
  apply intact.replace apart
  · intro old member
    exact ⟨updated row old, List.mem_map_of_mem member, key_updated row old⟩
  · intro new member
    obtain ⟨old, oldMember, rfl⟩ := List.mem_map.mp member
    unfold updated
    split
    · exact danglingCount_eq_zero_iff.mp (closed rfl)
    · exact intact.resolved table old oldMember

/-- No statement that succeeds while references are enforced leaves a
reference without a row. -/
theorem Intact.run (intact : tables.Intact) {statement : Statement}
    (success : statement.run tables true = .ok changed) : changed.Intact := by
  cases statement with
  | insert => exact intact.insert success
  | update => exact intact.update success
  | delete => exact intact.deleteWhere success
  | deleteWhere => exact intact.deleteWhere success

end

end Tables

end AccessControl.Store
