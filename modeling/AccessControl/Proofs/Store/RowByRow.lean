import AccessControl.Proofs.Decision.Log
import AccessControl.Proofs.Store.Registration
import AccessControl.Proofs.Text.Bytes

/-!
# Batches and single rows

A batch of privilege rows gives what its rows give one by one, each in a batch
of its own.  Rows may share permissions, resources and principals, and any of
them may be missing: what one row becomes, and whether a warning is logged for
it, depends on no other privilege row.
-/

namespace AccessControl.Store

namespace Batch

theorem value_privileges_cons (batch : Batch) (row : PrivilegeRow)
    (later : List PrivilegeRow) :
    (batch.privileges (row :: later)).value =
      (batch.privilege? row).toList ++ (batch.privileges later).value := by
  cases resolved : batch.privilege? row <;> simp [privileges, resolved]

theorem events_privileges_cons (batch : Batch) (row : PrivilegeRow)
    (later : List PrivilegeRow) :
    (batch.privileges (row :: later)).events =
      (if (batch.privilege? row).isNone then [.danglingPrivilege row.id]
        else []) ++ (batch.privileges later).events := by
  cases resolved : batch.privilege? row <;> simp [privileges, resolved]

end Batch

namespace Tables

/-! ## What a single row gives -/

/-- A privilege row is loaded in a batch of its own. -/
def alone (tables : Tables) (row : PrivilegeRow) : Logged (List Privilege) :=
  (tables.fetchBatch [row]).privileges [row]

theorem value_alone (tables : Tables) (row : PrivilegeRow) :
    (tables.alone row).value = (tables.privilege? row).toList := by
  rw [alone, Batch.value_privileges_cons,
    tables.privilege?_fetchBatch List.mem_cons_self]
  exact List.append_nil _

theorem events_alone (tables : Tables) (row : PrivilegeRow) :
    (tables.alone row).events =
      if (tables.privilege? row).isNone then [.danglingPrivilege row.id]
        else [] := by
  rw [alone, Batch.events_privileges_cons,
    tables.privilege?_fetchBatch List.mem_cons_self]
  exact List.append_nil _

/-- A recorded authorization is shown under the name of its row, or under its
id when it has none. -/
def ShownAs (tables : Tables) (id name : String) : Prop :=
  (∃ known ∈ tables.authorizations, known.id = id ∧ known.name = name) ∨
    (∀ known ∈ tables.authorizations, known.id ≠ id) ∧ name = id

/-- The entitlements of a permission are the authorizations recorded on it,
each once, in the order of the bytes of their ids. -/
def RecordedAs (tables : Tables) (permission : Int64)
    (entitlements : List Entitlement) : Prop :=
  ∃ records : List PermissionAuthorizationRow,
    records.Perm (tables.permissionAuthorizations.filter fun row =>
      row.permissionId == permission) ∧
    (records.Pairwise fun a b =>
      Text.bytes a.authorizationId ≤ Text.bytes b.authorizationId) ∧
    List.Forall₂ (fun row entitlement =>
        entitlement.id = row.authorizationId ∧
          tables.ShownAs row.authorizationId entitlement.name)
      records entitlements

/-- What a privilege row gives is one privilege and no line of the log, or no
privilege and a warning with the id of the row. -/
inductive Gives (tables : Tables) (row : PrivilegeRow) :
    List Privilege → List LogLine → Prop where
  | complete {permission : PermissionRow} {resource : ResourceRow}
      {principal : PrincipalRow} {resourceType principalType : String}
      {entitlements : List Entitlement} :
      tables.Complete row permission resource principal →
      tables.ResourceTypeNamed resource resourceType →
      tables.PrincipalTypeNamed principal principalType →
      tables.RecordedAs permission.id entitlements →
      Gives tables row
        [{ id := row.id
           holder := ⟨principal.id, principalType⟩
           resource := ⟨resource.id, resourceType⟩
           permission := ⟨permission.id, permission.name, entitlements⟩ }]
        []
  | dangling :
      (∀ permission resource principal,
        ¬ tables.Complete row permission resource principal) →
      Gives tables row []
        [⟨.warn, "skipping privilege with dangling references",
          [("privilege_id", .number row.id.toInt)]⟩]

theorem shownAs_entitlement (tables : Tables)
    (row : PermissionAuthorizationRow) :
    tables.ShownAs row.authorizationId
      (entitlement tables.authorizations row).name := by
  unfold ShownAs entitlement
  dsimp only
  split
  next known found =>
      exact .inl ⟨known, List.mem_of_find?_eq_some found,
        by simpa using List.find?_some found, rfl⟩
  next absent => exact .inr ⟨by simpa using absent, rfl⟩

theorem recordedAs_permissionOf (tables : Tables)
    (permission : PermissionRow) :
    tables.RecordedAs permission.id
      (tables.permissionOf permission).entitlements := by
  refine ⟨tables.recordsOf permission.id, List.mergeSort_perm _ _, ?_, ?_⟩
  · have ascending : (tables.recordsOf permission.id).Pairwise fun a b =>
        decide (a.authorizationId ≤ b.authorizationId) = true := by
      apply List.pairwise_mergeSort
      · grind
      · grind
    apply ascending.imp
    intro a b ordered
    exact Text.bytes_le_iff.mpr (of_decide_eq_true ordered)
  · unfold permissionOf
    rw [List.forall₂_map_right_iff, List.forall₂_same]
    exact fun row _ => ⟨rfl, tables.shownAs_entitlement row⟩

theorem exists_complete_of_privilege? {tables : Tables} {row : PrivilegeRow}
    {privilege : Privilege}
    (resolved : tables.privilege? row = some privilege) :
    ∃ permission resource principal,
      tables.Complete row permission resource principal ∧
        privilege = tables.assemble row permission resource principal := by
  simp only [privilege?, Option.bind_eq_bind, Option.bind_eq_some_iff,
    Option.pure_def, Option.some.injEq] at resolved
  obtain ⟨permission, foundPermission, resource, foundResource, principal,
    foundPrincipal, rfl⟩ := resolved
  refine ⟨permission, resource, principal, ?_, rfl⟩
  exact {
    permission_mem := List.mem_of_find?_eq_some foundPermission
    permission_id := by simpa using List.find?_some foundPermission
    resource_mem := List.mem_of_find?_eq_some foundResource
    resource_id := by simpa using List.find?_some foundResource
    principal_mem := List.mem_of_find?_eq_some foundPrincipal
    principal_id := by simpa using List.find?_some foundPrincipal }

theorem not_complete_of_privilege? {tables : Tables} {row : PrivilegeRow}
    (unresolved : tables.privilege? row = none) (permission : PermissionRow)
    (resource : ResourceRow) (principal : PrincipalRow) :
    ¬ tables.Complete row permission resource principal := by
  intro complete
  have hasPermission : (tables.permissions.find? fun found =>
      found.id == row.permissionId).isSome := by
    rw [List.find?_isSome]
    exact ⟨permission, complete.permission_mem, by simp [complete.permission_id]⟩
  have hasResource : (tables.resources.find? fun found =>
      found.id == row.resourceId).isSome := by
    rw [List.find?_isSome]
    exact ⟨resource, complete.resource_mem, by simp [complete.resource_id]⟩
  have hasPrincipal : (tables.principals.find? fun found =>
      found.id == row.principalId).isSome := by
    rw [List.find?_isSome]
    exact ⟨principal, complete.principal_mem, by simp [complete.principal_id]⟩
  obtain ⟨_, foundPermission⟩ := Option.isSome_iff_exists.mp hasPermission
  obtain ⟨_, foundResource⟩ := Option.isSome_iff_exists.mp hasResource
  obtain ⟨_, foundPrincipal⟩ := Option.isSome_iff_exists.mp hasPrincipal
  simp [privilege?, foundPermission, foundResource, foundPrincipal]
    at unresolved

theorem gives_alone (tables : Tables) (row : PrivilegeRow) :
    tables.Gives row (tables.alone row).value
      (lines (tables.alone row).events) := by
  rw [value_alone, events_alone]
  cases resolved : tables.privilege? row with
  | none => exact .dangling (not_complete_of_privilege? resolved)
  | some privilege =>
      obtain ⟨permission, resource, principal, complete, rfl⟩ :=
        exists_complete_of_privilege? resolved
      exact .complete complete (storedName_storedName _ _ _ _)
        (storedName_storedName _ _ _ _)
        (tables.recordedAs_permissionOf permission)

section

variable {tables : Tables} (distinct : tables.Distinct)

include distinct

theorem Distinct.name_eq_of_shownAs {row : PermissionAuthorizationRow}
    {name : String} (shown : tables.ShownAs row.authorizationId name) :
    name = (entitlement tables.authorizations row).name := by
  have identifies : Identifies .authorization AuthorizationRow.id :=
    .of_key fun _ _ same => congrArg Key.word same
  unfold entitlement
  rcases shown with ⟨known, member, same, rfl⟩ | ⟨absent, rfl⟩
  · have found : tables.authorizations.find? (fun known =>
        known.id == row.authorizationId) = some known :=
      (distinct.find?_column_eq_some_iff identifies).mpr ⟨member, same⟩
    simp only [found]
  · have missing : tables.authorizations.find? (fun known =>
        known.id == row.authorizationId) = none := by
      simpa using absent
    simp only [missing]

theorem Distinct.eq_of_recordedAs {permission : PermissionRow}
    {entitlements : List Entitlement}
    (recorded : tables.RecordedAs permission.id entitlements) :
    entitlements = (tables.permissionOf permission).entitlements := by
  obtain ⟨records, rearranged, ascending, shown⟩ := recorded
  obtain ⟨others, otherRearranged, otherAscending, otherShown⟩ :=
    tables.recordedAs_permissionOf permission
  have equal : ∀ a b, a ∈ records → b ∈ others →
      Text.bytes a.authorizationId ≤ Text.bytes b.authorizationId →
      Text.bytes b.authorizationId ≤ Text.bytes a.authorizationId → a = b := by
    intro a b aMember bMember forward backward
    have aOn := (List.mem_filter.mp (rearranged.subset aMember)).2
    have bOn := (List.mem_filter.mp (otherRearranged.subset bMember)).2
    obtain ⟨aPermission, aAuthorization⟩ := a
    obtain ⟨bPermission, bAuthorization⟩ := b
    obtain rfl : aPermission = permission.id := by simpa using aOn
    obtain rfl : bPermission = permission.id := by simpa using bOn
    rw [Text.bytes_le_iff] at forward backward
    obtain rfl : aAuthorization = bAuthorization :=
      String.le_antisymm forward backward
    rfl
  obtain rfl : records = others :=
    List.Perm.eq_of_pairwise equal ascending otherAscending
      (rearranged.trans otherRearranged.symm)
  have functional : Relator.RightUnique fun
      (row : PermissionAuthorizationRow) (entitlement : Entitlement) =>
        entitlement.id = row.authorizationId ∧
          tables.ShownAs row.authorizationId entitlement.name := by
    rintro row ⟨_, _⟩ ⟨_, _⟩ ⟨rfl, firstShown⟩ ⟨rfl, secondShown⟩
    congr 1
    exact (distinct.name_eq_of_shownAs firstShown).trans
      (distinct.name_eq_of_shownAs secondShown).symm
  exact functional.forall₂ shown otherShown

/-- Where keys tell rows apart, a row gives nothing else. -/
theorem Distinct.eq_alone_of_gives {row : PrivilegeRow}
    {privileges : List Privilege} {log : List LogLine}
    (gives : tables.Gives row privileges log) :
    privileges = (tables.alone row).value ∧
      log = lines (tables.alone row).events := by
  rw [value_alone, events_alone]
  cases gives with
  | @complete permission resource principal _ _ entitlements complete
      resourceNamed principalNamed recorded =>
      have resolved := distinct.privilege?_eq_some_iff.mpr
        ⟨permission, resource, principal, complete, rfl⟩
      obtain rfl := (distinct.storedName_iff .resourceType fun _ => rfl).mp
        resourceNamed
      obtain rfl := (distinct.storedName_iff .principalType fun _ => rfl).mp
        principalNamed
      obtain rfl := distinct.eq_of_recordedAs recorded
      rw [resolved]
      exact ⟨rfl, rfl⟩
  | dangling incomplete =>
      have unresolved : tables.privilege? row = none := by
        rw [Option.eq_none_iff_forall_not_mem]
        intro privilege resolved
        obtain ⟨permission, resource, principal, complete, _⟩ :=
          exists_complete_of_privilege? resolved
        exact incomplete permission resource principal complete
      rw [unresolved]
      exact ⟨rfl, rfl⟩

end

/-! ## What a batch gives -/

theorem privileges_fetchBatch_eq (tables : Tables) {fetched : List PrivilegeRow}
    {rows : List PrivilegeRow} (within : rows ⊆ fetched) :
    (tables.fetchBatch fetched).privileges rows =
      ⟨rows.flatMap fun row => (tables.alone row).value,
        rows.flatMap fun row => (tables.alone row).events⟩ := by
  induction rows with
  | nil => rfl
  | cons row later induction =>
      have resolved := tables.privilege?_fetchBatch (within List.mem_cons_self)
      have rest := induction fun other member =>
        within (List.mem_cons_of_mem row member)
      have value := (tables.fetchBatch fetched).value_privileges_cons row later
      have events := (tables.fetchBatch fetched).events_privileges_cons row later
      rw [resolved, ← value_alone, rest] at value
      rw [resolved, ← events_alone, rest] at events
      exact congrArg₂ Logged.mk value events

theorem privilegesWhere_eq_alone (tables : Tables)
    (selected : PrivilegeRow → Bool) :
    tables.privilegesWhere selected =
      ⟨(tables.selection selected).flatMap fun row => (tables.alone row).value,
        (tables.selection selected).flatMap fun row =>
          (tables.alone row).events⟩ :=
  tables.privileges_fetchBatch_eq (List.Subset.refl _)

/-- The selected privilege rows, by ascending id, are loaded each on its own.
What each of them gives is fixed by the rows that it refers to, as far as keys
tell these apart. -/
def LoadsRowByRow (tables : Tables) (selected : PrivilegeRow → Bool)
    (loaded : Logged (Except StoreFault (List Privilege))) : Prop :=
  ∃ rows : List PrivilegeRow,
    rows.Perm (tables.privileges.filter selected) ∧
    (rows.Pairwise fun a b => a.id ≤ b.id) ∧
    loaded.value = .ok (rows.flatMap fun row => (tables.alone row).value) ∧
    loaded.events = (rows.flatMap fun row => (tables.alone row).events) ∧
    ∀ row ∈ rows,
      tables.Gives row (tables.alone row).value
        (lines (tables.alone row).events) ∧
      (tables.Distinct → ∀ privileges log, tables.Gives row privileges log →
        privileges = (tables.alone row).value ∧
          log = lines (tables.alone row).events)

theorem loadsRowByRow {store : Store} {tables : Tables} {first : Table}
    (loaded : store.tables first = .ok tables)
    (selected : PrivilegeRow → Bool) :
    tables.LoadsRowByRow selected
      (store.load first fun tables => tables.privilegesWhere selected) := by
  have load : (store.load first fun tables => tables.privilegesWhere selected) =
      ⟨.ok (tables.privilegesWhere selected).value,
        (tables.privilegesWhere selected).events ++ []⟩ := by
    unfold Store.load
    rw [loaded]
    rfl
  rw [load, tables.privilegesWhere_eq_alone, List.append_nil]
  exact ⟨tables.selection selected, List.mergeSort_perm _ _,
    tables.ascending_selection selected, rfl, rfl,
    fun row _ => ⟨tables.gives_alone row,
      fun distinct _ _ gives => distinct.eq_alone_of_gives gives⟩⟩

end Tables

/-- Loading the privileges of a principal or on a resource gives, for its
privilege rows by ascending id, what each of them gives in a batch of its own,
and logs what each of them logs.  A row with its permission, resource and
principal is one privilege, made of what is stored for these three, and any
other row is one warning. -/
theorem batches_row_by_row {store : Store} {tables : Tables} {filled : Bool}
    (present : store.contents = .created tables filled)
    (isOpen : store.isOpen = true) :
    (∀ principal, tables.LoadsRowByRow (fun row => row.principalId == principal)
      (store.privilegesOf principal)) ∧
    ∀ resource, tables.LoadsRowByRow (fun row => row.resourceId == resource)
      (store.privilegesOn resource) := by
  have loaded := tables_of_created present isOpen .privilege
  exact ⟨fun principal => Tables.loadsRowByRow loaded _,
    fun resource => Tables.loadsRowByRow loaded _⟩

namespace Patchy

/-- Two of the privileges share their permission, two their resource.  The
resource of the privilege under 3, the holder of the one under 4, the type of
the resource under 10 and the name of an authorization are missing. -/
def tables : Tables where
  resourceTypes := [⟨2, "CLUSTER"⟩]
  resources := [⟨3, 2⟩, ⟨10, 9⟩]
  permissions := [⟨2, "CLUSTER.USER", 2, none⟩, ⟨4, "VIEW.USER", 3, none⟩]
  authorizations := [⟨"CLUSTER.VIEW_METRICS", "View metrics"⟩]
  permissionAuthorizations :=
    [⟨2, "CLUSTER.VIEW_METRICS"⟩, ⟨4, "VIEW.USE"⟩, ⟨2, "CLUSTER.OPERATE"⟩]
  principalTypes := [⟨1, "USER"⟩]
  principals := [⟨100, 1⟩]
  privileges :=
    [⟨5, 2, 10, 100⟩, ⟨3, 2, 99, 100⟩, ⟨1, 2, 3, 100⟩, ⟨4, 4, 10, 101⟩]

def store : Store where
  contents := .created tables false
  enforced := false

/-- The permission that two privileges share. -/
def clusterUser : Permission :=
  ⟨2, "CLUSTER.USER", [⟨"CLUSTER.OPERATE", "CLUSTER.OPERATE"⟩,
    ⟨"CLUSTER.VIEW_METRICS", "View metrics"⟩]⟩

theorem selection_hundred :
    (tables.selection fun row => row.principalId == 100) =
      [⟨1, 2, 3, 100⟩, ⟨3, 2, 99, 100⟩, ⟨5, 2, 10, 100⟩] := by
  cbv

theorem permissionOf_two :
    tables.permissionOf ⟨2, "CLUSTER.USER", 2, none⟩ = clusterUser := by
  simp [Tables.permissionOf, Tables.recordsOf, Tables.entitlement, tables,
    clusterUser, List.mergeSort, List.MergeSort.Internal.splitInTwo]

theorem privilegesOf_hundred :
    tables.privilegesOf 100 =
      ⟨[⟨1, ⟨100, "USER"⟩, ⟨3, "CLUSTER"⟩, clusterUser⟩,
          ⟨5, ⟨100, "USER"⟩, ⟨10, ""⟩, clusterUser⟩],
        [.danglingPrivilege 3]⟩ := by
  rw [Tables.privilegesOf, Tables.privilegesWhere_eq_alone, selection_hundred]
  simp only [Tables.value_alone, Tables.events_alone]
  simp [Tables.privilege?, Tables.assemble, Tables.resourceOf, Tables.holderOf,
    Tables.resourceTypeName, Tables.principalTypeName, storedName, tables,
    ← permissionOf_two]

theorem rows_of_one_principal :
    store.contents = .created tables false ∧ store.isOpen = true ∧
      ((∀ principal,
          tables.LoadsRowByRow (fun row => row.principalId == principal)
            (store.privilegesOf principal)) ∧
        ∀ resource, tables.LoadsRowByRow (fun row => row.resourceId == resource)
          (store.privilegesOn resource)) ∧
      tables.privilegesOf 100 =
        ⟨[⟨1, ⟨100, "USER"⟩, ⟨3, "CLUSTER"⟩, clusterUser⟩,
            ⟨5, ⟨100, "USER"⟩, ⟨10, ""⟩, clusterUser⟩],
          [.danglingPrivilege 3]⟩ :=
  ⟨rfl, rfl, batches_row_by_row rfl rfl, privilegesOf_hundred⟩

end Patchy

end AccessControl.Store
