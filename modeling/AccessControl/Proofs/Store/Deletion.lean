import AccessControl.Proofs.Store.Clearing
import AccessControl.Proofs.Store.Registration

/-!
# Deleting one row

Among intact tables the deletion of one row is refused exactly when another row
refers to it and must not lose its reference.  Otherwise the rows that follow it
go away, and the rows that can give up their reference to it stay without it.
-/

namespace AccessControl.Store

/-- A view after its cluster is gone. -/
def ViewRow.unbound (cluster : Int64) (row : ViewRow) : ViewRow :=
  if row.clusterId = some cluster then { row with clusterId := none } else row

namespace Row

/-- What becomes of a row that refers once to the table of the deleted row. -/
theorem released_of_once {table target : Table} {row : Row table} {owner : Int64}
    {action : OnDelete}
    (once : (references row).filter (fun reference =>
      reference.table == target) = [⟨target, .id owner, action⟩]) (id : Int64) :
    released target (.id id) row =
      if owner = id then
        match action with
        | .cascade => none
        | .detach => some (detached row)
        | .refuse => some row
      else
        some row := by
  have found : (references row).find? (fun reference =>
      reference.names target (.id id)) =
        [⟨target, .id owner, action⟩].find? fun reference =>
          reference.key == .id id := by
    rw [← once, List.find?_filter]
    congr 1
    funext reference
    rw [Reference.names, Bool.decide_and, Bool.decide_eq_true,
      Bool.decide_eq_true]
  unfold released
  rw [found]
  by_cases same : owner = id
  · cases action <;> simp [same]
  · simp [same]

theorem released_view_of_cluster (id : Int64) (row : ViewRow) :
    @released .view .cluster (.id id) row = some (row.unbound id) := by
  obtain ⟨_, _, _, resource, cluster⟩ := row
  cases cluster with
  | none => simp [released, references, Reference.names, ViewRow.unbound]
  | some cluster =>
      by_cases same : cluster = id <;>
        simp [released, references, Reference.names, ViewRow.unbound, detached,
          same]

end Row

namespace Tables

section

variable {tables changed : Tables} {table : Table}

theorem Distinct.filter_key (distinct : tables.Distinct) {row : Row table}
    (member : row ∈ tables.rows table) :
    (tables.rows table).filter (fun other => Row.key other == Row.key row) =
      [row] := by
  have identifies : Identifies table Row.key := .of_key fun _ _ same => same
  have bound := distinct.length_filter_le_one identifies (Row.key row)
  have chosen : row ∈ (tables.rows table).filter fun other =>
      Row.key other == Row.key row :=
    List.mem_filter.mpr ⟨member, beq_self_eq_true _⟩
  cases rows : (tables.rows table).filter fun other =>
      Row.key other == Row.key row with
  | nil =>
      rw [rows] at chosen
      cases chosen
  | cons first later =>
      rw [rows] at chosen bound
      obtain rfl : later = [] := by simpa using bound
      rw [List.mem_singleton.mp chosen]

theorem Distinct.tables_deleted (distinct : tables.Distinct) {row : Row table}
    (member : row ∈ tables.rows table) :
    (tables.deleted table fun other => Row.key other == Row.key row).tables =
      (tables.without table (Row.key row)).release table (Row.key row) := by
  unfold deleted
  rw [distinct.filter_key member]
  rfl

/-- No reference to the row with a given key forbids its deletion. -/
def Deletable (tables : Tables) (table : Table) (key : Key) : Prop :=
  ∀ other, ∀ row ∈ tables.rows other, ∀ reference ∈ Row.references row,
    reference.names table key = true → reference.onDelete ≠ .refuse

theorem mem_of_mem_without {key : Key} {other : Table} {row : Row other}
    (left : row ∈ (tables.without table key).rows other) :
    row ∈ tables.rows other := by
  unfold without at left
  by_cases same : other = table
  · subst same
    rw [rows_replace_self] at left
    exact List.mem_of_mem_filter left
  · rwa [rows_replace_of_ne _ _ same] at left

theorem countRefusing_without_eq_zero_iff {key : Key} :
    (tables.without table key).countRefusing table key = 0 ↔
      tables.Deletable table key := by
  unfold countRefusing countReferences
  rw [List.countP_eq_zero]
  constructor
  · intro clear other row member reference referenceMember named refused
    have different : other ≠ table := by
      rintro rfl
      have elsewhere := Row.table_ne_of_mem_references referenceMember
      simp [Reference.names, elsewhere] at named
    have left : row ∈ (tables.without table key).rows other := by
      unfold without
      rwa [rows_replace_of_ne _ _ different]
    apply clear reference _ (by simp [named, refused])
    exact List.mem_flatMap.mpr ⟨other, mem_all other,
      List.mem_flatMap.mpr ⟨row, left, referenceMember⟩⟩
  · intro deletable reference member forbids
    obtain ⟨other, _, there⟩ := List.mem_flatMap.mp member
    obtain ⟨row, left, referenceMember⟩ := List.mem_flatMap.mp there
    obtain ⟨named, refused⟩ := Bool.and_eq_true_iff.mp forbids
    exact deletable other row (mem_of_mem_without left) reference
      referenceMember named (beq_iff_eq.mp refused)

theorem tally_eq_zero {weight : (table : Table) → Row table → Nat}
    (nothing : ∀ table, ∀ row ∈ tables.rows table, weight table row = 0) :
    tables.tally weight = 0 := by
  rw [tally_congr nothing]
  simp [tally]

/-- Of the references among intact tables, a deletion leaves only those
dangling that forbid it. -/
theorem Intact.resolved_release_without (intact : tables.Intact) {key : Key}
    (present : tables.contains table key = true) :
    ((tables.without table key).release table key).Resolved ↔
      tables.Deletable table key := by
  have resolved : ∀ other, ∀ row ∈ (tables.without table key).rows other,
      ∀ reference ∈ Row.references row, tables.resolves reference = true :=
    fun other row left => intact.resolved other row (mem_of_mem_without left)
  have freed : (tables.without table key).countFreed table key = 0 := by
    rw [countFreed_without]
    apply tally_eq_zero
    intro other row left
    split
    · rw [List.countP_eq_zero]
      intro reference member
      simp [resolved other row left reference member]
    · rfl
  have dangling : ((tables.without table key).tally fun _ row =>
      (Row.references row).countP fun reference =>
        !tables.resolves reference) = 0 := by
    apply tally_eq_zero
    intro other row left
    rw [List.countP_eq_zero]
    intro reference member
    simp [resolved other row left reference member]
  have balance := danglingTotal_add_countFreed present
  rw [freed, dangling, Nat.add_zero, Nat.zero_add] at balance
  rw [← danglingTotal_eq_zero_iff, balance, countRefusing_without_eq_zero_iff]

/-- The row that intact tables contain under a key can be deleted exactly when
no reference forbids it, and then all references to it are gone. -/
theorem Intact.delete_eq_ok_iff (intact : tables.Intact) {row : Row table}
    (member : row ∈ tables.rows table) :
    tables.delete true table (Row.key row) = .ok changed ↔
      changed = (tables.without table (Row.key row)).release table
          (Row.key row) ∧
        tables.Deletable table (Row.key row) := by
  have present : tables.contains table (Row.key row) = true :=
    List.any_eq_true.mpr ⟨row, member, beq_self_eq_true _⟩
  unfold delete
  rw [intact.deleteWhere_eq_ok_iff, intact.distinct.tables_deleted member]
  constructor
  · rintro ⟨rfl, resolved⟩
    exact ⟨rfl, (intact.resolved_release_without present).mp resolved⟩
  · rintro ⟨rfl, deletable⟩
    exact ⟨rfl, (intact.resolved_release_without present).mpr deletable⟩

end

/-! ## When a row can be deleted -/

theorem deletable_resource_iff {tables : Tables} {id : Int64} :
    tables.Deletable .resource (.id id) ↔
      (∀ cluster ∈ tables.clusters, cluster.resourceId ≠ id) ∧
        ∀ view ∈ tables.views, view.resourceId ≠ id := by
  constructor
  · intro deletable
    constructor
    · intro cluster member same
      exact deletable .cluster cluster member
        ⟨.resource, .id cluster.resourceId, .refuse⟩ (by simp [Row.references])
        (by simp [Reference.names, same]) rfl
    · intro view member same
      exact deletable .view view member
        ⟨.resource, .id view.resourceId, .refuse⟩ (by simp [Row.references])
        (by simp [Reference.names, same]) rfl
  · rintro ⟨clusters, views⟩ other row member ⟨target, key, action⟩ there
      named refused
    obtain ⟨rfl, rfl⟩ : target = .resource ∧ key = .id id := by
      simpa [Reference.names] using named
    cases refused
    cases other
    case cluster =>
      have same : (row : ClusterRow).resourceId = id := by
        simpa [Row.references, eq_comm] using there
      exact clusters row member same
    case view =>
      have same : (row : ViewRow).resourceId = id := by
        cases bound : (row : ViewRow).clusterId <;>
          simpa [Row.references, bound, eq_comm] using there
      exact views row member same
    all_goals simp [Row.references] at there

theorem deletable_principal_iff {tables : Tables} {id : Int64} :
    tables.Deletable .principal (.id id) ↔
      ∀ user ∈ tables.users, user.principalId ≠ id := by
  constructor
  · intro deletable user member same
    exact deletable .user user member
      ⟨.principal, .id user.principalId, .refuse⟩ (by simp [Row.references])
      (by simp [Reference.names, same]) rfl
  · rintro users other row member ⟨target, key, action⟩ there named refused
    obtain ⟨rfl, rfl⟩ : target = .principal ∧ key = .id id := by
      simpa [Reference.names] using named
    cases refused
    cases other
    case user =>
      have same : (row : UserRow).principalId = id := by
        simpa [Row.references, eq_comm] using there
      exact users row member same
    case view =>
      cases bound : (row : ViewRow).clusterId <;>
        simp [Row.references, bound] at there
    all_goals simp [Row.references] at there

theorem deletable_cluster (tables : Tables) (id : Int64) :
    tables.Deletable .cluster (.id id) := by
  rintro other row member ⟨target, key, action⟩ there named refused
  obtain ⟨rfl, rfl⟩ : target = .cluster ∧ key = .id id := by
    simpa [Reference.names] using named
  cases refused
  cases other
  case view =>
    cases bound : (row : ViewRow).clusterId <;>
      simp [Row.references, bound] at there
  all_goals simp [Row.references] at there

/-! ## What is left -/

section

variable {tables : Tables} {table other : Table} {key : Key}

theorem rows_release_without_self :
    ((tables.without table key).release table key).rows table =
      (tables.rows table).filter fun row => Row.key row != key := by
  have unchanged : Row.released table key = (some : Row table → _) :=
    funext fun row => Row.released_same_table row key
  unfold release without
  rw [rows_ofRows, rows_replace_self, unchanged, List.filterMap_some]

theorem rows_release_without_self_of_id {id : Int64} {column : Row table → Int64}
    (keys : ∀ row : Row table, Row.key row = .id (column row)) :
    ((tables.without table (.id id)).release table (.id id)).rows table =
      (tables.rows table).filter fun row => column row != id := by
  rw [rows_release_without_self]
  apply List.filter_congr
  intro row _
  rw [keys, Bool.eq_iff_iff]
  simp

theorem rows_release_without_of_ne (different : other ≠ table) :
    ((tables.without table key).release table key).rows other =
      (tables.rows other).filterMap (Row.released table key) := by
  unfold release without
  rw [rows_ofRows, rows_replace_of_ne _ _ different]

theorem rows_release_without_of_kept (different : other ≠ table)
    (kept : ∀ row : Row other, Row.released table key row = some row) :
    ((tables.without table key).release table key).rows other =
      tables.rows other := by
  rw [rows_release_without_of_ne different, funext kept, List.filterMap_some]

theorem rows_release_without_of_not_referrer (different : other ≠ table)
    (silent : other ∉ table.referrers) :
    ((tables.without table key).release table key).rows other =
      tables.rows other := by
  apply rows_release_without_of_kept different
  intro row
  apply Row.released_of_not_names
  intro reference member
  have elsewhere : reference.table ≠ table := by
    rintro rfl
    exact silent (Row.mem_referrers member)
  simp [Reference.names, elsewhere]

section

variable (table other) {id : Int64} {column : Row other → Int64}
  (different : other ≠ table)

include different

theorem rows_release_without_of_cascade
    (once : ∀ row : Row other, (Row.references row).filter (fun reference =>
      reference.table == table) = [⟨table, .id (column row), .cascade⟩]) :
    ((tables.without table (.id id)).release table (.id id)).rows other =
      (tables.rows other).filter fun row => column row != id := by
  have step (row : Row other) : Row.released table (.id id) row =
      if column row != id then some row else none := by
    rw [Row.released_of_once (once row)]
    by_cases same : column row = id <;> simp [same]
  rw [rows_release_without_of_ne different, funext step,
    ← List.filterMap_eq_filter]
  rfl

theorem rows_release_without_of_refuse
    (once : ∀ row : Row other, (Row.references row).filter (fun reference =>
      reference.table == table) = [⟨table, .id (column row), .refuse⟩]) :
    ((tables.without table (.id id)).release table (.id id)).rows other =
      tables.rows other := by
  apply rows_release_without_of_kept different
  intro row
  rw [Row.released_of_once (once row), ite_self]

end

end

/-- The tables without a resource and the privileges on it. -/
def withoutResource (tables : Tables) (id : Int64) : Tables :=
  { tables with
    resources := tables.resources.filter fun row => row.id != id
    privileges := tables.privileges.filter fun row => row.resourceId != id }

/-- The tables without a principal and its privileges. -/
def withoutPrincipal (tables : Tables) (id : Int64) : Tables :=
  { tables with
    principals := tables.principals.filter fun row => row.id != id
    privileges := tables.privileges.filter fun row => row.principalId != id }

/-- The tables without a cluster, whose views stand alone. -/
def withoutCluster (tables : Tables) (id : Int64) : Tables :=
  { tables with
    clusters := tables.clusters.filter fun row => row.id != id
    views := tables.views.map (ViewRow.unbound id) }

theorem release_without_resource (tables : Tables) (id : Int64) :
    (tables.without .resource (.id id)).release .resource (.id id) =
      tables.withoutResource id := by
  apply ext_rows
  intro table
  cases table
  case resource => exact rows_release_without_self_of_id fun _ => rfl
  case privilege =>
    exact rows_release_without_of_cascade .resource .privilege
      (by decide) fun _ => rfl
  case cluster =>
    exact rows_release_without_of_refuse .resource .cluster (by decide)
      fun _ => rfl
  case view =>
    have once (row : ViewRow) : (@Row.references .view row).filter
        (fun reference => reference.table == .resource) =
          [⟨.resource, .id row.resourceId, .refuse⟩] := by
      cases bound : row.clusterId <;> simp [Row.references, bound]
    exact rows_release_without_of_refuse .resource .view (by decide) once
  all_goals
    exact rows_release_without_of_not_referrer (by decide) (by decide)

theorem release_without_principal (tables : Tables) (id : Int64) :
    (tables.without .principal (.id id)).release .principal (.id id) =
      tables.withoutPrincipal id := by
  apply ext_rows
  intro table
  cases table
  case principal => exact rows_release_without_self_of_id fun _ => rfl
  case privilege =>
    exact rows_release_without_of_cascade .principal .privilege
      (by decide) fun _ => rfl
  case user =>
    exact rows_release_without_of_refuse .principal .user (by decide)
      fun _ => rfl
  all_goals
    exact rows_release_without_of_not_referrer (by decide) (by decide)

theorem release_without_cluster (tables : Tables) (id : Int64) :
    (tables.without .cluster (.id id)).release .cluster (.id id) =
      tables.withoutCluster id := by
  apply ext_rows
  intro table
  cases table
  case cluster => exact rows_release_without_self_of_id fun _ => rfl
  case view =>
    rw [rows_release_without_of_ne (by decide),
      funext (Row.released_view_of_cluster id)]
    exact congrFun List.filterMap_eq_map tables.views
  all_goals
    exact rows_release_without_of_not_referrer (by decide) (by decide)

end Tables

end AccessControl.Store
