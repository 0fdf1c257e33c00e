import Mathlib.Data.List.Basic
import AccessControl.Proofs.Store.Distinct
import AccessControl.Store.Migration

/-!
# What a statement does

Each kind of statement is opened once: when it succeeds, the checks that it
made have passed, and the tables are those before it with named changes.  Rows
that did not clash before do not clash afterwards, whether references are
enforced or not.
-/

namespace AccessControl.Store

/-! ## Rows that give way -/

namespace Row

variable {table : Table}

theorem clashes_comm (a b : Row table) : clashes a b = clashes b a := by
  have keys : (key a == key b) = (key b == key a) := BEq.comm
  have columns : sharesUnique a b = sharesUnique b a := by
    cases table <;> simp only [sharesUnique] <;> grind
  rw [clashes, clashes, keys, columns]

@[simp]
theorem key_detached (row : Row table) : key (detached row) = key row := by
  cases table <;> rfl

@[simp]
theorem detached_detached (row : Row table) :
    detached (detached row) = detached row := by
  cases table <;> rfl

@[simp]
theorem clashes_detached (a b : Row table) :
    clashes (detached a) b = clashes a b := by
  cases table <;> rfl

/-- What is left of a row is the row itself or the row detached. -/
theorem eq_or_eq_detached_of_released {deletedTable : Table} {deletedKey : Key}
    {row left : Row table}
    (remains : released deletedTable deletedKey row = some left) :
    left = row ∨ left = detached row := by
  unfold released at remains
  split at remains <;> simp_all

/-- Only the cluster of a view is a reference that can be given up. -/
theorem table_eq_cluster_of_detach {row : Row table} {reference : Reference}
    (member : reference ∈ references row)
    (detaches : reference.onDelete = .detach) : reference.table = .cluster := by
  cases table
  case view =>
    cases bound : (row : ViewRow).clusterId <;>
      simp [references, bound] at member <;> grind
  all_goals simp [references] at member <;> grind

/-- Rows stay whole when rows other than clusters go away. -/
theorem eq_of_released {deletedTable : Table} (other : deletedTable ≠ .cluster)
    {deletedKey : Key} {row left : Row table}
    (remains : released deletedTable deletedKey row = some left) :
    left = row := by
  unfold released at remains
  split at remains
  next => cases remains
  next found =>
      have named := List.find?_some found
      have cluster := table_eq_cluster_of_detach (List.mem_of_find?_eq_some found)
        rfl
      simp only [Reference.names, Bool.and_eq_true, beq_iff_eq] at named
      exact absurd (named.1.symm.trans cluster) other
  all_goals
    cases remains
    rfl

section

variable {deletedTable : Table} {deletedKey : Key} {a b left right : Row table}

theorem key_of_released
    (remains : released deletedTable deletedKey a = some left) :
    key left = key a := by
  rcases eq_or_eq_detached_of_released remains with rfl | rfl
  · rfl
  · exact key_detached a

theorem clashes_of_released
    (remains : released deletedTable deletedKey a = some left) :
    clashes left b = clashes a b := by
  rcases eq_or_eq_detached_of_released remains with rfl | rfl
  · rfl
  · exact clashes_detached a b

end

end Row

namespace Tables

variable {tables changed : Tables} {enforced : Bool} {table : Table}

/-! ## Insertion -/

theorem eq_append_of_appendRows {present rows all : List (Row table)}
    (appended : appendRows present rows = some all) : all = present ++ rows := by
  induction rows generalizing present with
  | nil =>
      cases appended
      exact (List.append_nil _).symm
  | cons row later induction =>
      unfold appendRows at appended
      split at appended
      · cases appended
      · simpa using induction appended

/-- Appended rows clash neither with the rows before them nor with each
other. -/
theorem pairwise_of_appendRows {present rows all : List (Row table)}
    (appended : appendRows present rows = some all)
    (apart : present.Pairwise fun a b => Row.clashes a b = false) :
    all.Pairwise fun a b => Row.clashes a b = false := by
  induction rows generalizing present with
  | nil =>
      cases appended
      exact apart
  | cons row later induction =>
      unfold appendRows at appended
      split at appended
      · cases appended
      next free =>
          apply induction appended
          apply List.pairwise_append.mpr
          refine ⟨apart, List.pairwise_singleton _ _, ?_⟩
          intro old oldMember new newMember
          rw [List.mem_singleton.mp newMember]
          have clear : ∀ other ∈ present, Row.clashes row other = false := by
            simpa using free
          rw [Row.clashes_comm]
          exact clear old oldMember

/-- An insertion that succeeds adds its rows at the end of their table. -/
theorem insert_eq_ok {rows : List (Row table)}
    (success : tables.insert enforced table rows = .ok changed) :
    appendRows (tables.rows table) rows = some (tables.rows table ++ rows) ∧
      (enforced = true → tables.acceptsInserted rows = true) ∧
        changed = tables.replace table (tables.rows table ++ rows) := by
  unfold insert at success
  split at success
  · cases success
  next all appended =>
      obtain rfl := eq_append_of_appendRows appended
      split at success
      · cases success
      next accepted =>
          cases success
          refine ⟨appended, ?_, rfl⟩
          intro on
          simpa [on] using accepted

theorem rows_of_insert {rows : List (Row table)}
    (success : tables.insert enforced table rows = .ok changed)
    (other : Table) : tables.rows other <+: changed.rows other := by
  obtain ⟨_, _, rfl⟩ := insert_eq_ok success
  by_cases same : other = table
  · subst same
    rw [rows_replace_self]
    exact List.prefix_append _ _
  · simp only [rows_replace_of_ne tables _ same, List.prefix_rfl]

/-! ## Update -/

/-- The row that has the key of a new row gives way to it. -/
def updated (row other : Row table) : Row table :=
  if Row.key other == Row.key row then row else other

@[simp]
theorem key_updated (row other : Row table) :
    Row.key (updated row other) = Row.key other := by
  unfold updated
  split
  next same => exact (beq_iff_eq.mp same).symm
  next => rfl

/-- An update that succeeds changes nothing in a table that is all key.  In
any other table it puts the new row in the place of the old one, agrees with no
other row in unique columns, and leaves no reference of the new row open while
references are enforced. -/
theorem update_eq_ok {row : Row table}
    (success : tables.update enforced table row = .ok changed) :
    changed = tables ∨
      (∀ other ∈ tables.rows table, Row.key other ≠ Row.key row →
        Row.sharesUnique row other = false) ∧
      (enforced = true → tables.danglingCount row = 0) ∧
        changed =
          tables.replace table ((tables.rows table).map (updated row)) := by
  simp only [update] at success
  split at success
  · cases success
  split at success
  · cases success
    exact .inl rfl
  split at success
  · cases success
  next free =>
    split at success
    · cases success
    next closed =>
        cases success
        refine .inr ⟨?_, ?_, rfl⟩
        · intro other member different
          by_contra shared
          apply free
          exact List.any_eq_true.mpr ⟨other, member, by simp_all⟩
        · intro on
          simpa [on] using closed

/-! ## Deletion -/

/-- The tables after the selected rows of a table were deleted one by one. -/
def deleted (tables : Tables) (table : Table) (selected : Row table → Bool) :
    Deletion :=
  ((tables.rows table).filter selected).foldl deleteRow { tables }

theorem deleteWhere_eq_ok {selected : Row table → Bool}
    (success : tables.deleteWhere enforced table selected = .ok changed) :
    enforced = true ∧ (tables.deleted table selected).count = 0 ∧
        changed = (tables.deleted table selected).tables ∨
      enforced = false ∧ changed =
        tables.replace table
          ((tables.rows table).filter fun row => !selected row) := by
  unfold deleteWhere at success
  cases enforced with
  | false =>
      cases success
      exact .inr ⟨rfl, rfl⟩
  | true =>
      simp only [if_true] at success
      split at success
      next settled =>
          cases success
          exact .inl ⟨rfl, settled, rfl⟩
      next => cases success

section

variable {keeps : Tables → Tables → Prop}
  (refl : ∀ tables, keeps tables tables)
  (trans : ∀ {first second third}, keeps first second → keeps second third →
    keeps first third)
  (filtered : ∀ (tables : Tables) (kept : Row table → Bool),
    keeps tables (tables.replace table ((tables.rows table).filter kept)))
  (released : ∀ (tables : Tables) (key : Key),
    keeps tables (tables.release table key))

include refl trans filtered released

theorem foldl_deleteRow_keeps (deletion : Deletion) (rows : List (Row table)) :
    keeps deletion.tables (rows.foldl deleteRow deletion).tables := by
  induction rows generalizing deletion with
  | nil => exact refl deletion.tables
  | cons row later induction =>
      have here : keeps deletion.tables (deleteRow deletion row).tables :=
        trans (filtered deletion.tables _) (released _ (Row.key row))
      exact trans here (induction _)

/-- What holds of dropping rows of a table and of releasing the rows that refer
to them holds of deleting them. -/
theorem deleteWhere_keeps {selected : Row table → Bool}
    (success : tables.deleteWhere enforced table selected = .ok changed) :
    keeps tables changed := by
  rcases deleteWhere_eq_ok success with ⟨_, _, rfl⟩ | ⟨_, rfl⟩
  · exact foldl_deleteRow_keeps refl trans filtered released { tables } _
  · exact filtered tables _

end

/-! ## Rows stay apart -/

namespace Distinct

theorem replace (distinct : tables.Distinct) {rows : List (Row table)}
    (apart : rows.Pairwise fun a b => Row.clashes a b = false) :
    (tables.replace table rows).Distinct := by
  intro other
  by_cases same : other = table
  · subst same
    rw [rows_replace_self]
    exact apart
  · rw [rows_replace_of_ne tables rows same]
    exact distinct other

theorem without (distinct : tables.Distinct) (key : Key) :
    (tables.without table key).Distinct :=
  distinct.replace ((distinct table).filter _)

theorem release (distinct : tables.Distinct) (table : Table) (key : Key) :
    (tables.release table key).Distinct := by
  intro other
  unfold Tables.release
  rw [rows_ofRows]
  apply (distinct other).filterMap
  intro a b apart left leftRemains right rightRemains
  rw [Row.clashes_of_released leftRemains, Row.clashes_comm,
    Row.clashes_of_released rightRemains, Row.clashes_comm]
  exact apart

theorem deleteRow {deletion : Deletion} (distinct : deletion.tables.Distinct)
    (row : Row table) : (Tables.deleteRow deletion row).tables.Distinct :=
  (distinct.without (Row.key row)).release table (Row.key row)

theorem insert (distinct : tables.Distinct) {rows : List (Row table)}
    (success : tables.insert enforced table rows = .ok changed) :
    changed.Distinct := by
  obtain ⟨appended, _, rfl⟩ := insert_eq_ok success
  exact distinct.replace (pairwise_of_appendRows appended (distinct table))

theorem update (distinct : tables.Distinct) {row : Row table}
    (success : tables.update enforced table row = .ok changed) :
    changed.Distinct := by
  rcases update_eq_ok success with rfl | ⟨unshared, _, rfl⟩
  · exact distinct
  have free : ∀ other ∈ tables.rows table, Row.key other ≠ Row.key row →
      Row.clashes row other = false := by
    intro other member different
    simp [Row.clashes, unshared other member different, different.symm]
  apply distinct.replace
  apply List.pairwise_map.mpr
  apply (distinct table).imp_of_mem
  intro a b aMember bMember apart
  have keys : Row.key a ≠ Row.key b := by
    intro same
    simp [Row.clashes, same] at apart
  unfold updated
  by_cases left : Row.key a = Row.key row
  · have right : Row.key b ≠ Row.key row := fun same =>
      keys (left.trans same.symm)
    simpa [left, right] using free b bMember right
  · by_cases right : Row.key b = Row.key row
    · rw [Row.clashes_comm]
      simpa [left, right] using free a aMember left
    · simpa [left, right] using apart

theorem deleteWhere (distinct : tables.Distinct) {selected : Row table → Bool}
    (success : tables.deleteWhere enforced table selected = .ok changed) :
    changed.Distinct := by
  let keeps := fun before after : Tables => before.Distinct → after.Distinct
  have kept : keeps tables changed := by
    apply deleteWhere_keeps _ _ _ _ success
    · exact fun _ => id
    · exact fun first second before => second (first before)
    · exact fun before kept apart => apart.replace ((apart table).filter kept)
    · exact fun before key apart => apart.release table key
  exact kept distinct

/-- No statement makes rows clash. -/
theorem run (distinct : tables.Distinct) {statement : Statement}
    (success : statement.run tables enforced = .ok changed) :
    changed.Distinct := by
  cases statement with
  | insert => exact distinct.insert success
  | update => exact distinct.update success
  | delete => exact distinct.deleteWhere success
  | deleteWhere => exact distinct.deleteWhere success

end Distinct

end Tables

/-- A statement that succeeds ran on the tables of an open store. -/
theorem execute_eq_ok {store changed : Store} {statement : Statement}
    (success : store.execute statement = .ok changed) :
    ∃ tables left filled, store.contents = .created tables filled ∧
      store.isOpen = true ∧ statement.run tables store.enforced = .ok left ∧
        changed = { store with contents := .created left filled } := by
  obtain ⟨contents, enforced, isOpen⟩ := store
  unfold execute Store.tables connected at success
  cases isOpen with
  | false => cases success
  | true =>
      cases contents with
      | blank => cases success
      | created tables filled =>
          cases ran : statement.run tables enforced with
          | error fault =>
              simp [bind, Except.bind, ran] at success
          | ok left =>
              simp [bind, Except.bind, ran, pure, Except.pure,
                withTables] at success
              exact ⟨tables, left, filled, rfl, rfl, ran, success.symm⟩

/-- A statement that succeeds on known tables leaves what it made of them. -/
theorem execute_created {store changed : Store} {statement : Statement}
    {tables : Tables} {filled : Bool}
    (present : store.contents = .created tables filled)
    (success : store.execute statement = .ok changed) :
    ∃ left, statement.run tables store.enforced = .ok left ∧
      store.isOpen = true ∧ changed.contents = .created left filled ∧
        changed.isOpen = true := by
  obtain ⟨before, left, _, contents, isOpen, ran, made⟩ := execute_eq_ok success
  rw [present] at contents
  cases contents
  exact ⟨left, ran, isOpen, by rw [made], by rw [made, isOpen]⟩

end AccessControl.Store
