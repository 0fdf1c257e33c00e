import Mathlib.Data.List.Basic
import AccessControl.Store.Loading

/-!
# Loading resolves every row on its own

Privileges are loaded in a batch: what any of the rows refers to is fetched
once.  Here a privilege row is resolved against the tables without looking at
other privilege rows, and loading is shown to do that for every selected row.
Nothing of one row leaks into another.
-/

namespace AccessControl.Store

/-! ## The order of recorded authorizations -/

/-- Recorded authorizations in the order in which they are fetched. -/
def PermissionAuthorizationRow.precedes (a b : PermissionAuthorizationRow) :
    Bool :=
  Key.ascending (@Row.key .permissionAuthorization a)
    (@Row.key .permissionAuthorization b)

namespace PermissionAuthorizationRow

theorem precedes_iff {a b : PermissionAuthorizationRow} :
    a.precedes b = true ↔
      a.permissionId < b.permissionId ∨
        a.permissionId = b.permissionId ∧
          a.authorizationId ≤ b.authorizationId := by
  simp only [precedes, Key.ascending, Row.key, Bool.or_eq_true,
    Bool.and_eq_true, decide_eq_true_eq, beq_iff_eq, Bool.not_eq_true',
    decide_eq_false_iff_not, String.not_lt]

theorem precedes_trans (a b c : PermissionAuthorizationRow)
    (first : a.precedes b = true) (second : b.precedes c = true) :
    a.precedes c = true := by
  rw [precedes_iff] at *
  grind

theorem precedes_total (a b : PermissionAuthorizationRow) :
    (a.precedes b || b.precedes a) = true := by
  rw [Bool.or_eq_true, precedes_iff, precedes_iff]
  grind

theorem precedes_antisymm {a b : PermissionAuthorizationRow}
    (forward : a.precedes b = true) (backward : b.precedes a = true) : a = b := by
  obtain ⟨permission, authorization⟩ := a
  obtain ⟨otherPermission, otherAuthorization⟩ := b
  rw [precedes_iff] at *
  grind

end PermissionAuthorizationRow

/-! ## One row at a time -/

namespace Tables

/-- The authorizations recorded on a permission, by ascending id. -/
def recordsOf (tables : Tables) (permission : Int64) :
    List PermissionAuthorizationRow :=
  (tables.permissionAuthorizations.filter fun row =>
      row.permissionId == permission).mergeSort fun a b =>
    a.authorizationId ≤ b.authorizationId

/-- The permission of a row, with the authorizations recorded on it. -/
def permissionOf (tables : Tables) (row : PermissionRow) : Permission where
  id := row.id
  name := row.name
  entitlements :=
    (tables.recordsOf row.id).map (entitlement tables.authorizations)

/-- The resource of a row, with the name of its type. -/
def resourceOf (tables : Tables) (row : ResourceRow) : Resource where
  id := row.id
  typeName := tables.resourceTypeName row.typeId

/-- The holder of a row, with the name of its type. -/
def holderOf (tables : Tables) (row : PrincipalRow) : Holder where
  id := row.id
  typeName := tables.principalTypeName row.typeId

/-- The privilege that a row stands for, made of the rows that it refers to. -/
def assemble (tables : Tables) (row : PrivilegeRow) (permission : PermissionRow)
    (resource : ResourceRow) (principal : PrincipalRow) : Privilege where
  id := row.id
  holder := tables.holderOf principal
  resource := tables.resourceOf resource
  permission := tables.permissionOf permission

section

variable (tables : Tables) (row : PrivilegeRow) (permission : PermissionRow)
  (resource : ResourceRow) (principal : PrincipalRow)

@[simp]
theorem assemble_permission :
    (tables.assemble row permission resource principal).permission =
      tables.permissionOf permission :=
  rfl

@[simp]
theorem assemble_resource :
    (tables.assemble row permission resource principal).resource =
      tables.resourceOf resource :=
  rfl

@[simp]
theorem assemble_holder :
    (tables.assemble row permission resource principal).holder =
      tables.holderOf principal :=
  rfl

end

/-- The privilege that a row stands for, if all the rows that it refers to
exist. -/
def privilege? (tables : Tables) (row : PrivilegeRow) : Option Privilege := do
  let permission ← tables.permissions.find? fun found =>
    found.id == row.permissionId
  let resource ← tables.resources.find? fun found => found.id == row.resourceId
  let principal ← tables.principals.find? fun found =>
    found.id == row.principalId
  pure (tables.assemble row permission resource principal)

/-! ## What the batch holds -/

theorem mem_recordsOf {tables : Tables} {permission : Int64}
    {row : PermissionAuthorizationRow} :
    row ∈ tables.recordsOf permission ↔
      row ∈ tables.permissionAuthorizations ∧
        row.permissionId = permission := by
  simp [recordsOf]

theorem pairwise_recordsOf (tables : Tables) (permission : Int64) :
    (tables.recordsOf permission).Pairwise fun a b => a.precedes b = true := by
  have ascending : (tables.recordsOf permission).Pairwise fun a b =>
      decide (a.authorizationId ≤ b.authorizationId) = true := by
    apply List.pairwise_mergeSort
    · grind
    · grind
  apply ascending.imp_of_mem
  intro a b leftMember rightMember lessEqual
  have left := (mem_recordsOf.mp leftMember).2
  have right := (mem_recordsOf.mp rightMember).2
  exact PermissionAuthorizationRow.precedes_iff.mpr
    (.inr ⟨left.trans right.symm, of_decide_eq_true lessEqual⟩)

/-- The part of the fetched authorizations that belongs to one of the
permissions is what is recorded on that permission alone. -/
theorem filter_recordedOn (tables : Tables) {permissions : List Int64}
    {permission : Int64} (wanted : permission ∈ permissions) :
    (tables.recordedOn permissions).filter
        (fun row => row.permissionId == permission) =
      tables.recordsOf permission := by
  have sorted : (tables.recordedOn permissions).Pairwise fun a b =>
      a.precedes b = true :=
    List.pairwise_mergeSort PermissionAuthorizationRow.precedes_trans
      PermissionAuthorizationRow.precedes_total _
  have selected :
      (tables.permissionAuthorizations.filter fun row =>
          permissions.contains row.permissionId).filter
        (fun row => row.permissionId == permission) =
      tables.permissionAuthorizations.filter fun row =>
        row.permissionId == permission := by
    rw [List.filter_filter]
    apply List.filter_congr
    intro row _
    by_cases same : row.permissionId = permission
    · simp [same, wanted]
    · simp [same]
  -- The two sorts meet the rows in different lists, but both results are
  -- ordered and hold the same rows.
  apply List.Perm.eq_of_pairwise
    (fun _ _ _ _ => PermissionAuthorizationRow.precedes_antisymm)
    (sorted.filter _) (tables.pairwise_recordsOf permission)
  have fetched := (List.mergeSort_perm
    (tables.permissionAuthorizations.filter fun row =>
      permissions.contains row.permissionId)
    PermissionAuthorizationRow.precedes).filter
      (fun row => row.permissionId == permission)
  rw [selected] at fetched
  exact fetched.trans (List.mergeSort_perm _ _).symm

/-- Fetching only the authorizations that some record names changes no
entitlement of these records. -/
theorem entitlement_fetched (authorizations : List AuthorizationRow)
    {recorded : List PermissionAuthorizationRow}
    {row : PermissionAuthorizationRow} (member : row ∈ recorded) :
    entitlement
        (authorizations.filter fun known =>
          recorded.any fun entry => entry.authorizationId == known.id) row =
      entitlement authorizations row := by
  have narrowed : (fun known : AuthorizationRow =>
      decide ((recorded.any fun entry => entry.authorizationId == known.id) =
          true ∧
        (known.id == row.authorizationId) = true)) =
      fun known => known.id == row.authorizationId := by
    funext known
    by_cases same : known.id = row.authorizationId
    · have named : ∃ entry ∈ recorded,
          entry.authorizationId = row.authorizationId := ⟨row, member, rfl⟩
      simpa [same] using named
    · simp [same]
  unfold entitlement
  rw [List.find?_filter, narrowed]

/-- Searching among the fetched rows for a wanted id is searching the table. -/
theorem find?_fetched {α β : Type} (rows : List α) (rowId : α → Int64)
    (build : α → β) (builtId : β → Int64)
    (kept : ∀ row, builtId (build row) = rowId row) {ids : List Int64}
    {id : Int64} (wanted : id ∈ ids) :
    ((rows.filter fun row => ids.contains (rowId row)).map build).find?
        (fun built => builtId built == id) =
      (rows.find? fun row => rowId row == id).map build := by
  have narrowed : (fun row =>
      decide (ids.contains (rowId row) = true ∧
        (builtId (build row) == id) = true)) =
      fun row => rowId row == id := by
    funext row
    rw [kept]
    by_cases same : rowId row = id
    · simp [same, wanted]
    · simp [same]
  rw [List.find?_map, List.find?_filter, ← narrowed]
  rfl

theorem find?_fetchResources (tables : Tables) {ids : List Int64} {id : Int64}
    (wanted : id ∈ ids) :
    (tables.fetchResources ids).find? (fun found => found.id == id) =
      (tables.resources.find? fun row => row.id == id).map tables.resourceOf :=
  find?_fetched _ ResourceRow.id tables.resourceOf Resource.id
    (fun _ => rfl) wanted

theorem find?_fetchHolders (tables : Tables) {ids : List Int64} {id : Int64}
    (wanted : id ∈ ids) :
    (tables.fetchHolders ids).find? (fun found => found.id == id) =
      (tables.principals.find? fun row => row.id == id).map tables.holderOf :=
  find?_fetched _ PrincipalRow.id tables.holderOf Holder.id
    (fun _ => rfl) wanted

/-- A fetched permission carries what is recorded on it, whatever else was
fetched with it. -/
theorem fetchPermissions_eq (tables : Tables) (ids : List Int64) :
    tables.fetchPermissions ids =
      (tables.permissions.filter fun row => ids.contains row.id).map
        tables.permissionOf := by
  apply List.map_congr_left
  intro row member
  have wanted : row.id ∈ ids := by simpa using (List.mem_filter.mp member).2
  rw [permissionOf, ← filter_recordedOn tables wanted]
  congr 1
  apply List.map_congr_left
  intro entry recorded
  exact entitlement_fetched _ (List.mem_of_mem_filter recorded)

theorem find?_fetchPermissions (tables : Tables) {ids : List Int64}
    {id : Int64} (wanted : id ∈ ids) :
    (tables.fetchPermissions ids).find? (fun found => found.id == id) =
      (tables.permissions.find? fun row => row.id == id).map
        tables.permissionOf := by
  rw [fetchPermissions_eq]
  exact find?_fetched _ PermissionRow.id tables.permissionOf Permission.id
    (fun _ => rfl) wanted

end Tables

/-! ## Loading -/

theorem Tables.privilege?_fetchBatch (tables : Tables)
    {rows : List PrivilegeRow} {row : PrivilegeRow} (member : row ∈ rows) :
    (tables.fetchBatch rows).privilege? row = tables.privilege? row := by
  unfold Batch.privilege? fetchBatch privilege?
  simp only [tables.find?_fetchPermissions (List.mem_map_of_mem member),
    tables.find?_fetchResources (List.mem_map_of_mem member),
    tables.find?_fetchHolders (List.mem_map_of_mem member)]
  cases tables.permissions.find? fun found => found.id == row.permissionId with
  | none => rfl
  | some permission =>
      cases tables.resources.find? fun found => found.id == row.resourceId with
      | none => rfl
      | some resource =>
          cases tables.principals.find? fun found =>
              found.id == row.principalId with
          | none => rfl
          | some principal => rfl

theorem Batch.value_privileges (batch : Batch) (rows : List PrivilegeRow) :
    (batch.privileges rows).value = rows.filterMap batch.privilege? := by
  induction rows with
  | nil => rfl
  | cons row later induction =>
      cases resolved : batch.privilege? row with
      | none => simp [privileges, resolved, induction]
      | some privilege => simp [privileges, resolved, induction]

/-- Loading takes the selected rows by ascending id and resolves each on its
own. -/
theorem Tables.value_privilegesWhere (tables : Tables)
    (selected : PrivilegeRow → Bool) :
    (tables.privilegesWhere selected).value =
      ((tables.privileges.filter selected).mergeSort fun a b =>
        a.id ≤ b.id).filterMap tables.privilege? := by
  unfold privilegesWhere
  rw [Batch.value_privileges]
  apply List.filterMap_congr
  intro row member
  exact tables.privilege?_fetchBatch member

end AccessControl.Store
