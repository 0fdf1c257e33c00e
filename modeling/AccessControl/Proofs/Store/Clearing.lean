import AccessControl.Proofs.Store.Growth
import AccessControl.Proofs.Store.History

/-!
# Clearing the catalog

Seven deletions take the built-in catalog out of a store.  Whether they are
refused depends on what else is stored: among intact tables they all succeed
exactly when nothing is that they would not select, and then they leave no row
at all.
-/

namespace AccessControl.Store

/-- The tables whose rows may refer to a table. -/
def Table.referrers : Table → List Table
  | .resourceType => [.resource, .permission]
  | .resource => [.privilege, .cluster, .view]
  | .permission => [.permissionAuthorization, .privilege]
  | .authorization => [.permissionAuthorization]
  | .principalType => [.principal]
  | .principal => [.privilege, .user]
  | .cluster => [.view]
  | .permissionAuthorization | .privilege | .user | .view => []

theorem Row.mem_referrers {table : Table} {row : Row table}
    {reference : Reference} (member : reference ∈ Row.references row) :
    table ∈ reference.table.referrers := by
  cases table <;> simp only [Row.references] at member <;>
    grind [Table.referrers]

namespace Tables

theorem ext_rows {tables others : Tables}
    (same : ∀ table, tables.rows table = others.rows table) :
    tables = others := by
  rw [← ofRows_rows tables, ← ofRows_rows others]
  exact congrArg ofRows (funext same)

/-! ## Emptying a table -/

theorem rows_deleted_of_whole {tables : Tables} {table : Table}
    {selected : Row table → Bool}
    (whole : ∀ row ∈ tables.rows table, selected row = true) :
    (tables.deleted table selected).tables.rows table = [] := by
  unfold deleted
  rw [rows_foldl_deleteRow_self, List.filter_eq_self.mpr whole,
    List.filter_eq_nil_iff]
  intro row member
  have apart : ¬ ∀ other ∈ tables.rows table, Row.key row ≠ Row.key other :=
    fun apart => apart row member rfl
  simpa using apart

/-- No row refers to a table. -/
def Unreferenced (tables : Tables) (table : Table) : Prop :=
  ∀ other, ∀ row ∈ tables.rows other, ∀ reference ∈ Row.references row,
    reference.table ≠ table

namespace Unreferenced

variable {tables : Tables} {table : Table}

theorem of_referrers
    (empty : ∀ other ∈ table.referrers, tables.rows other = []) :
    tables.Unreferenced table := by
  rintro other row member reference referenceMember rfl
  rw [empty other (Row.mem_referrers referenceMember)] at member
  cases member

theorem of_within {smaller larger : Tables}
    (unreferenced : larger.Unreferenced table)
    (within : smaller.Within larger) : smaller.Unreferenced table := by
  intro other row member reference referenceMember
  obtain ⟨whole, wholeMember, rfl | rfl⟩ := within other row member
  · exact unreferenced other row wholeMember reference referenceMember
  · rw [Row.references_detached] at referenceMember
    exact unreferenced other whole wholeMember reference
      (List.mem_of_mem_filter referenceMember)

theorem countRefusing_eq_zero (unreferenced : tables.Unreferenced table)
    (key : Key) : tables.countRefusing table key = 0 := by
  unfold countRefusing countReferences
  rw [List.countP_eq_zero]
  intro reference member
  obtain ⟨other, _, inTable⟩ := List.mem_flatMap.mp member
  obtain ⟨row, rowMember, referenceMember⟩ := List.mem_flatMap.mp inTable
  have elsewhere := unreferenced other row rowMember reference referenceMember
  simp [Reference.names, elsewhere]

theorem count_foldl_deleteRow (deletion : Deletion)
    (unreferenced : deletion.tables.Unreferenced table)
    (settled : deletion.count = 0) (rows : List (Row table)) :
    (rows.foldl deleteRow deletion).count = 0 := by
  induction rows generalizing deletion with
  | nil => exact settled
  | cons row later induction =>
      have removed : (deletion.tables.without table (Row.key row)).Unreferenced
          table :=
        unreferenced.of_within (filter_within deletion.tables _)
      apply induction
      · exact removed.of_within (release_within _ table (Row.key row))
      · have refusing := removed.countRefusing_eq_zero (Row.key row)
        simp [deleteRow, settled, refusing]

/-- A table that nothing refers to can always be emptied. -/
theorem deleteWhere_eq (unreferenced : tables.Unreferenced table)
    {selected : Row table → Bool}
    (whole : ∀ row ∈ tables.rows table, selected row = true)
    (enforced : Bool) :
    tables.deleteWhere enforced table selected =
      .ok (tables.replace table []) := by
  have none : (tables.rows table).filter (fun row => !selected row) = [] := by
    rw [List.filter_eq_nil_iff]
    intro row member
    simp [whole row member]
  cases enforced with
  | false =>
      rw [← none]
      rfl
  | true =>
      have settled : (tables.deleted table selected).count = 0 :=
        count_foldl_deleteRow { tables } unreferenced rfl _
      have left : (tables.deleted table selected).tables =
          tables.replace table [] := by
        apply ext_rows
        intro other
        by_cases same : other = table
        · subst same
          rw [rows_replace_self]
          exact rows_deleted_of_whole whole
        · rw [rows_replace_of_ne tables _ same]
          apply rows_deleted_of_kept same
          intro target member reference referenceMember _
          exact unreferenced other target member reference referenceMember
      rw [← left]
      exact if_pos settled

end Unreferenced

/-- Rows with a reference to an empty table are gone, too. -/
theorem Resolved.rows_eq_nil {tables : Tables} (resolved : tables.Resolved)
    {table target : Table}
    (refers : ∀ row : Row table, ∃ reference ∈ Row.references row,
      reference.table = target)
    (empty : tables.rows target = []) : tables.rows table = [] := by
  apply List.eq_nil_iff_forall_not_mem.mpr
  intro row member
  obtain ⟨reference, referenceMember, rfl⟩ := refers row
  have resolves := resolved table row member reference referenceMember
  simp [Tables.resolves, contains, empty] at resolves

end Tables

/-! ## What a run of deletions leaves -/

namespace Statement

/-- A deletion that reaches the rows of a table only by selecting them. -/
def Plain (table : Table) : Statement → Prop
  | .deleteWhere target _ =>
      ∀ row : Row table, ∀ reference ∈ Row.references row,
        reference.onDelete ≠ .refuse → reference.table ≠ target
  | .insert .. | .update .. | .delete .. => False

/-- Whether a deletion does not select a row. -/
def spares {table : Table} (row : Row table) : Statement → Bool
  | .deleteWhere target selected =>
      if same : table = target then !selected (same ▸ row) else true
  | .insert .. | .update .. | .delete .. => true

theorem rows_run_of_plain {tables changed : Tables} (intact : tables.Intact)
    {table : Table} {statement : Statement} (plain : statement.Plain table)
    (success : statement.run tables true = .ok changed) :
    changed.rows table =
      (tables.rows table).filter fun row => statement.spares row := by
  cases statement with
  | insert => cases plain
  | update => cases plain
  | delete => cases plain
  | deleteWhere target selected =>
      rw [(intact.deleteWhere_eq_ok_iff.mp success).1]
      by_cases same : table = target
      · subst same
        rw [intact.distinct.rows_deleted_self]
        simp [spares]
      · rw [Tables.rows_deleted_of_kept same fun row _ => plain row]
        simp [spares, same]

theorem rows_runAll_of_plain {tables left : Tables} (intact : tables.Intact)
    {table : Table} {statements : List Statement}
    (plain : ∀ statement ∈ statements, statement.Plain table)
    (ran : runAll tables true statements = (left, .ok ())) :
    left.rows table =
      (tables.rows table).filter fun row => statements.all (spares row) := by
  induction statements generalizing tables with
  | nil =>
      cases ran
      simp
  | cons statement later induction =>
      obtain ⟨changed, here, there⟩ := runAll_cons_eq_ok_iff.mp ran
      have first :=
        rows_run_of_plain intact (plain statement List.mem_cons_self) here
      have rest := induction (intact.run here)
        (fun other member => plain other (List.mem_cons_of_mem statement member))
        there
      rw [rest, first, List.filter_filter]
      simp only [List.all_cons, Bool.and_comm]

end Statement

/-! ## The catalog is cleared -/

namespace Tables

/-- Nothing refers to the permissions, every principal stands for the holders
of one, and there is no resource but the administrative root. -/
structure OnlyCatalog (tables : Tables) : Prop where
  users : tables.users = []
  privileges : tables.privileges = []
  clusters : tables.clusters = []
  views : tables.views = []
  principals : ∀ row ∈ tables.principals, 3 ≤ row.typeId ∧ row.typeId ≤ 7
  resources : ∀ row ∈ tables.resources, row.id = 1

variable {tables left : Tables}

namespace Intact

/-- Privileges forbid the deletion of the permissions. -/
theorem privileges_eq_nil_of_cleared (intact : tables.Intact)
    (ran : Statement.runAll tables true (Catalog.clearing.take 2) =
      (left, .ok ())) : tables.privileges = [] := by
  have leftIntact : left.Intact := by
    have kept := intact.runAll (Catalog.clearing.take 2)
    rwa [ran] at kept
  have permissions : left.rows .permission = [] := by
    rw [Statement.rows_runAll_of_plain intact _ ran]
    · simp [Catalog.clearing, Statement.spares]
    · simp [Catalog.clearing, Statement.Plain, Row.references]
  have privileges : left.rows .privilege = tables.privileges := by
    rw [Statement.rows_runAll_of_plain intact _ ran]
    · simp [Catalog.clearing, Statement.spares, rows]
    · simp [Catalog.clearing, Statement.Plain, Row.references]
  rw [← privileges]
  apply leftIntact.resolved.rows_eq_nil _ permissions
  intro row
  exact ⟨_, List.mem_cons_self, rfl⟩

/-- No row of these tables leaves with a row of the catalog. -/
theorem rows_of_cleared (intact : tables.Intact)
    (ran : Statement.runAll tables true Catalog.clearing = (left, .ok ()))
    (table : Table)
    (steady : table ≠ .permissionAuthorization ∧ table ≠ .privilege) :
    left.rows table =
      (tables.rows table).filter fun row =>
        Catalog.clearing.all (Statement.spares row) := by
  apply Statement.rows_runAll_of_plain intact _ ran
  cases table <;>
    simp_all [Catalog.clearing, Statement.Plain, Row.references]
  grind

theorem eq_empty_of_cleared (intact : tables.Intact)
    (ran : Statement.runAll tables true Catalog.clearing = (left, .ok ())) :
    left = {} := by
  have resolved : left.Resolved := by
    have kept := intact.runAll Catalog.clearing
    rw [ran] at kept
    exact kept.resolved
  have resourceTypes : left.rows .resourceType = [] := by
    rw [intact.rows_of_cleared ran .resourceType (by decide)]
    simp [Catalog.clearing, Statement.spares]
  have principalTypes : left.rows .principalType = [] := by
    rw [intact.rows_of_cleared ran .principalType (by decide)]
    simp [Catalog.clearing, Statement.spares]
  have authorizations : left.rows .authorization = [] := by
    rw [intact.rows_of_cleared ran .authorization (by decide)]
    simp [Catalog.clearing, Statement.spares]
  -- What refers to an emptied table is gone, and so is what refers to that.
  have resources : left.rows .resource = [] :=
    resolved.rows_eq_nil (fun _ => ⟨_, List.mem_cons_self, rfl⟩) resourceTypes
  have permissions : left.rows .permission = [] :=
    resolved.rows_eq_nil (fun _ => ⟨_, List.mem_cons_self, rfl⟩) resourceTypes
  have principals : left.rows .principal = [] :=
    resolved.rows_eq_nil (fun _ => ⟨_, List.mem_cons_self, rfl⟩) principalTypes
  apply ext_rows
  intro table
  cases table with
  | resourceType => exact resourceTypes
  | resource => exact resources
  | permission => exact permissions
  | authorization => exact authorizations
  | principalType => exact principalTypes
  | principal => exact principals
  | permissionAuthorization | privilege =>
      exact resolved.rows_eq_nil (fun _ => ⟨_, List.mem_cons_self, rfl⟩)
        permissions
  | user =>
      exact resolved.rows_eq_nil (fun _ => ⟨_, List.mem_cons_self, rfl⟩)
        principals
  | cluster | view =>
      exact resolved.rows_eq_nil (fun _ => ⟨_, List.mem_cons_self, rfl⟩)
        resources

/-- What the deletions do not select must not have been there. -/
theorem onlyCatalog_of_cleared (intact : tables.Intact)
    (ran : Statement.runAll tables true Catalog.clearing = (left, .ok ())) :
    tables.OnlyCatalog := by
  obtain ⟨between, first, _⟩ := Statement.runAll_append_eq_ok_iff.mp
    (show Statement.runAll tables true
      (Catalog.clearing.take 2 ++ Catalog.clearing.drop 2) = _ from ran)
  have selected : ∀ table,
      table ≠ .permissionAuthorization ∧ table ≠ .privilege →
        ∀ row ∈ tables.rows table,
          ¬ Catalog.clearing.all (Statement.spares row) = true := by
    intro table steady
    have rows := intact.rows_of_cleared ran table steady
    rw [intact.eq_empty_of_cleared ran] at rows
    apply List.filter_eq_nil_iff.mp
    rw [← rows]
    cases table <;> rfl
  have absent : ∀ table,
      table ≠ .permissionAuthorization ∧ table ≠ .privilege →
        (∀ row : Row table,
          Catalog.clearing.all (Statement.spares row) = true) →
            tables.rows table = [] := by
    intro table steady spared
    apply List.eq_nil_iff_forall_not_mem.mpr
    intro row member
    exact selected table steady row member (spared row)
  constructor
  · exact absent .user (by decide) fun _ => rfl
  · exact intact.privileges_eq_nil_of_cleared first
  · exact absent .cluster (by decide) fun _ => rfl
  · exact absent .view (by decide) fun _ => rfl
  · intro row member
    simpa [Catalog.clearing, Statement.spares, Catalog.isInheritingType] using
      selected .principal (by decide) row member
  · intro row member
    simpa [Catalog.clearing, Statement.spares, Catalog.adminResource] using
      selected .resource (by decide) row member

end Intact

/-! ## Nothing stands in the way -/

/-- The first of the deletions always succeeds. -/
theorem deleteWhere_permissionAuthorization (tables : Tables)
    (enforced : Bool) :
    tables.deleteWhere enforced .permissionAuthorization (fun _ => true) =
      .ok { tables with permissionAuthorizations := [] } := by
  have unreferenced : tables.Unreferenced .permissionAuthorization :=
    .of_referrers (by simp [Table.referrers])
  exact unreferenced.deleteWhere_eq (fun _ _ => rfl) enforced

theorem runAll_emptying {table : Table} {selected : Row table → Bool}
    {enforced : Bool} {later : List Statement}
    (unreferenced : ∀ other ∈ table.referrers, tables.rows other = [])
    (whole : ∀ row ∈ tables.rows table, selected row = true) :
    Statement.runAll tables enforced (.deleteWhere table selected :: later) =
      Statement.runAll (tables.replace table []) enforced later :=
  Statement.runAll_cons_of_ok
    ((Unreferenced.of_referrers unreferenced).deleteWhere_eq whole enforced)

/-- Each deletion empties a table that nothing refers to any more. -/
theorem runAll_clearing_of_onlyCatalog (only : tables.OnlyCatalog)
    (enforced : Bool) :
    Statement.runAll tables enforced Catalog.clearing = ({}, .ok ()) := by
  obtain ⟨resourceTypes, resources, permissions, authorizations, recorded,
    principalTypes, principals, privileges, users, clusters, views⟩ := tables
  obtain ⟨rfl, rfl, rfl, rfl, inheriting, root⟩ := only
  have selectedPrincipals : ∀ row ∈ principals,
      Catalog.isInheritingType row.typeId = true := by
    intro row member
    simpa [Catalog.isInheritingType] using inheriting row member
  have selectedResources : ∀ row ∈ resources,
      (row.id == Catalog.adminResource.id) = true := by
    intro row member
    simpa [Catalog.adminResource] using root row member
  calc Statement.runAll _ enforced Catalog.clearing
    _ = Statement.runAll
          { resourceTypes, resources, permissions, authorizations,
            principalTypes, principals }
          enforced (Catalog.clearing.drop 1) :=
        runAll_emptying (by simp [Table.referrers]) fun _ _ => rfl
    _ = Statement.runAll
          { resourceTypes, resources, authorizations, principalTypes,
            principals }
          enforced (Catalog.clearing.drop 2) :=
        runAll_emptying (by simp [Table.referrers, rows]) fun _ _ => rfl
    _ = Statement.runAll
          { resourceTypes, resources, principalTypes, principals }
          enforced (Catalog.clearing.drop 3) :=
        runAll_emptying (by simp [Table.referrers, rows]) fun _ _ => rfl
    _ = Statement.runAll { resourceTypes, resources, principalTypes }
          enforced (Catalog.clearing.drop 4) :=
        runAll_emptying (by simp [Table.referrers, rows]) selectedPrincipals
    _ = Statement.runAll { resourceTypes, resources }
          enforced (Catalog.clearing.drop 5) :=
        runAll_emptying (by simp [Table.referrers, rows]) fun _ _ => rfl
    _ = Statement.runAll { resourceTypes } enforced (Catalog.clearing.drop 6) :=
        runAll_emptying (by simp [Table.referrers, rows]) selectedResources
    _ = ({}, .ok ()) :=
        runAll_emptying (by simp [Table.referrers, rows]) fun _ _ => rfl

/-- In intact tables the catalog can be cleared exactly when there is nothing
else. -/
theorem Intact.runAll_clearing_eq_ok_iff (intact : tables.Intact) :
    Statement.runAll tables true Catalog.clearing = (left, .ok ()) ↔
      tables.OnlyCatalog ∧ left = {} := by
  constructor
  · intro ran
    exact ⟨intact.onlyCatalog_of_cleared ran, intact.eq_empty_of_cleared ran⟩
  · rintro ⟨only, rfl⟩
    exact runAll_clearing_of_onlyCatalog only true

/-! ## A clearing that is refused -/

theorem deleteWhere_eq_error {enforced : Bool} {table : Table}
    {selected : Row table → Bool} {fault : StoreFault}
    (refused : tables.deleteWhere enforced table selected = .error fault) :
    fault = .foreignKey := by
  unfold deleteWhere at refused
  cases enforced with
  | false => cases refused
  | true =>
      simp only [if_true] at refused
      split at refused <;> cases refused
      rfl

/-- Privileges stop the clearing when the authorizations of all permissions
are already gone. -/
theorem Intact.runAll_clearing_of_privileges (intact : tables.Intact)
    (held : tables.privileges ≠ []) :
    Statement.runAll tables true Catalog.clearing =
      ({ tables with permissionAuthorizations := [] }, .error .foreignKey) := by
  have first : Statement.run tables true
      (.deleteWhere .permissionAuthorization fun _ => true) =
        .ok { tables with permissionAuthorizations := [] } :=
    tables.deleteWhere_permissionAuthorization true
  apply (Statement.runAll_cons_of_ok first).trans
  cases second : Statement.run { tables with permissionAuthorizations := [] }
      true (.deleteWhere .permission fun _ => true) with
  | ok changed =>
      have ran : Statement.runAll tables true (Catalog.clearing.take 2) =
          (changed, .ok ()) :=
        Statement.runAll_cons_eq_ok_iff.mpr ⟨_, first,
          Statement.runAll_cons_eq_ok_iff.mpr ⟨_, second, rfl⟩⟩
      exact absurd (intact.privileges_eq_nil_of_cleared ran) held
  | error fault =>
      obtain rfl := deleteWhere_eq_error second
      exact Statement.runAll_cons_of_error second

end Tables

end AccessControl.Store
