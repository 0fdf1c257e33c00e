import Mathlib.Data.List.Basic
import Mathlib.Algebra.BigOperators.Group.List.Basic
import Mathlib.Algebra.GroupWithZero.Nat
import AccessControl.Proofs.Store.Effect

/-!
# The balance of a deletion

A deletion goes on from row to row and keeps one count: references that must
not be given up are added to it, references without a row that go away are
taken off.  Over rows that do not clash this count is exact.  It follows the
number of references in all tables that name no row, whether there were any
before or not.
-/

namespace AccessControl.Store

/-! ## What rows refer to -/

namespace Row

variable {table : Table}

/-- A row has at most one reference to each table. -/
theorem reference_unique {row : Row table} {first second : Reference}
    (firstMember : first ∈ references row)
    (secondMember : second ∈ references row)
    (same : first.table = second.table) : first = second := by
  cases table <;> simp only [references] at firstMember secondMember <;>
    grind

theorem detaching_unique {row : Row table} {first second : Reference}
    (firstMember : first ∈ references row)
    (secondMember : second ∈ references row)
    (firstDetaches : first.onDelete = .detach)
    (secondDetaches : second.onDelete = .detach) : first = second := by
  cases table <;> simp only [references] at firstMember secondMember <;>
    grind

theorem references_detached (row : Row table) :
    references (detached row) =
      (references row).filter fun reference =>
        reference.onDelete != .detach := by
  cases table <;> try rfl
  obtain ⟨id, viewName, name, resourceId, clusterId⟩ := row
  cases clusterId <;> rfl

/-- No row refers to its own table. -/
theorem table_ne_of_mem_references {row : Row table} {reference : Reference}
    (member : reference ∈ references row) : reference.table ≠ table := by
  cases table <;> simp only [references] at member <;> grind

/-- Rows that follow others out of the store are referred to by none. -/
theorem not_referred_of_cascade {row : Row table} {reference : Reference}
    (member : reference ∈ references row)
    (cascades : reference.onDelete = .cascade) {other : Table}
    {otherRow : Row other} {otherReference : Reference}
    (otherMember : otherReference ∈ references otherRow) :
    otherReference.table ≠ table := by
  cases table <;> simp only [references] at member <;>
    cases other <;> simp only [references] at otherMember <;> grind

/-- A row that holds no reference to a deleted row stays as it is. -/
theorem released_of_not_names {row : Row table} {deletedTable : Table}
    {deletedKey : Key}
    (unnamed : ∀ reference ∈ references row,
      reference.names deletedTable deletedKey = false) :
    released deletedTable deletedKey row = some row := by
  have absent : (references row).find? (fun reference =>
      reference.names deletedTable deletedKey) = none := by
    simpa [List.find?_eq_none] using unnamed
  unfold released
  rw [absent]

@[simp]
theorem released_same_table (row : Row table) (key : Key) :
    released table key row = some row := by
  apply released_of_not_names
  intro reference member
  simp [Reference.names, table_ne_of_mem_references member]

end Row

namespace Tables

/-! ## Sums over all rows -/

theorem countP_eq_add {α : Type} {items : List α}
    {whole first second : α → Bool}
    (split : ∀ item ∈ items, whole item = (first item || second item))
    (apart : ∀ item ∈ items, first item = true → second item = false) :
    items.countP whole = items.countP first + items.countP second := by
  induction items with
  | nil => rfl
  | cons item later induction =>
      have there := induction
        (fun other member => split other (List.mem_cons_of_mem item member))
        (fun other member => apart other (List.mem_cons_of_mem item member))
      have here := apart item List.mem_cons_self
      simp only [List.countP_cons, there, split item List.mem_cons_self]
      cases chosen : first item with
      | false => simp [Nat.add_assoc]
      | true =>
          simp [here chosen]
          omega

/-- The sum of a weight over the rows of all tables. -/
def tally (tables : Tables) (weight : (table : Table) → Row table → Nat) :
    Nat :=
  (Table.all.map fun table => ((tables.rows table).map (weight table)).sum).sum

theorem mem_all (table : Table) : table ∈ Table.all := by
  cases table <;> decide

theorem nodup_all : Table.all.Nodup := by
  decide

section

variable {tables : Tables}

theorem tally_congr {first second : (table : Table) → Row table → Nat}
    (same : ∀ table, ∀ row ∈ tables.rows table,
      first table row = second table row) :
    tables.tally first = tables.tally second := by
  unfold tally
  congr 1
  apply List.map_congr_left
  intro table _
  congr 1
  apply List.map_congr_left
  exact same table

theorem tally_add (first second : (table : Table) → Row table → Nat) :
    (tables.tally fun table row => first table row + second table row) =
      tables.tally first + tables.tally second := by
  simp only [tally, List.sum_map_add]

theorem countReferences_eq_tally (property : Reference → Bool) :
    tables.countReferences property =
      tables.tally fun _ row => (Row.references row).countP property := by
  simp only [countReferences, tally, List.countP_flatMap, Function.comp_def]

/-- Taking one row out of a list takes its weight out of the sum. -/
theorem sum_map_filter_ne {α β : Type} [DecidableEq β] {rows : List α}
    {key : α → β} (apart : rows.Pairwise fun a b => key a ≠ key b)
    (weight : α → Nat) {row : α} (member : row ∈ rows) :
    (rows.map weight).sum =
      ((rows.filter fun other => key other != key row).map weight).sum +
        weight row := by
  induction rows with
  | nil => cases member
  | cons first later induction =>
      obtain ⟨firstApart, laterApart⟩ := List.pairwise_cons.mp apart
      rcases List.mem_cons.mp member with rfl | there
      · have kept : later.filter (fun other => key other != key row) = later := by
          apply List.filter_eq_self.mpr
          intro other otherMember
          exact bne_iff_ne.mpr (firstApart other otherMember).symm
        simp [kept, Nat.add_comm]
      · have different : (key first != key row) = true :=
          bne_iff_ne.mpr (firstApart row there)
        simp only [List.map_cons, List.sum_cons, different, if_true,
          List.filter_cons, induction laterApart there]
        omega

theorem tally_without (distinct : tables.Distinct) {table : Table}
    {row : Row table} (member : row ∈ tables.rows table)
    (weight : (table : Table) → Row table → Nat) :
    tables.tally weight =
      (tables.without table (Row.key row)).tally weight + weight table row := by
  have keys : (tables.rows table).Pairwise fun a b => Row.key a ≠ Row.key b := by
    apply (distinct table).imp
    intro a b apart same
    simp [Row.clashes, same] at apart
  have here := sum_map_filter_ne keys (weight table) member
  have others : (Table.all.erase table).map
      (fun other => ((tables.rows other).map (weight other)).sum) =
      (Table.all.erase table).map fun other =>
        (((tables.without table (Row.key row)).rows other).map
          (weight other)).sum := by
    apply List.map_congr_left
    intro other otherMember
    have different : other ≠ table :=
      (nodup_all.mem_erase_iff.mp otherMember).1
    rw [without, rows_replace_of_ne tables _ different]
  unfold tally
  rw [← List.sum_map_erase _ (mem_all table), others,
    ← List.sum_map_erase _ (mem_all table), without, rows_replace_self, here]
  omega

theorem sum_map_filterMap {α β : Type} (rows : List α) (step : α → Option β)
    (weight : β → Nat) :
    ((rows.filterMap step).map weight).sum =
      (rows.map fun row => ((step row).map weight).getD 0).sum := by
  induction rows with
  | nil => rfl
  | cons row later induction =>
      cases found : step row <;> simp [found, induction]

theorem tally_release (table : Table) (key : Key)
    (weight : (table : Table) → Row table → Nat) :
    (tables.release table key).tally weight =
      tables.tally fun other row =>
        ((Row.released table key row).map (weight other)).getD 0 := by
  simp only [tally, release, rows_ofRows, sum_map_filterMap]

theorem countFreed_eq_tally (table : Table) (key : Key) :
    tables.countFreed table key =
      tables.tally fun _ row =>
        if follows table key row then
          (Row.references row).countP fun reference =>
            !reference.names table key && !tables.resolves reference
        else 0 := by
  simp only [countFreed, tally, List.countP_flatMap, Function.comp_def,
    ← List.filterMap_eq_filter, sum_map_filterMap]
  congr 1
  apply List.map_congr_left
  intro other _
  congr 1
  apply List.map_congr_left
  intro row _
  cases goes : follows table key row <;> simp [Option.guard, goes]

end

/-! ## The balance of a deleted row -/

/-- What happens to a row that refers to a deleted one is said by the
reference. -/
theorem released_of_find {table deletedTable : Table} {deletedKey : Key}
    {row : Row table} {reference : Reference}
    (found : (Row.references row).find? (fun reference =>
      reference.names deletedTable deletedKey) = some reference) :
    Row.released deletedTable deletedKey row =
      match reference.onDelete with
      | .cascade => none
      | .detach => some (Row.detached row)
      | .refuse => some row := by
  obtain ⟨target, key, onDelete⟩ := reference
  unfold Row.released
  rw [found]
  cases onDelete <;> rfl

/-- How many references of all rows name no row. -/
def danglingTotal (tables : Tables) : Nat :=
  tables.countReferences fun reference => !tables.resolves reference

section

variable {tables : Tables} {table : Table} {key : Key}

theorem resolves_without (reference : Reference) :
    (tables.without table key).resolves reference =
      (tables.resolves reference && !reference.names table key) := by
  unfold resolves contains without
  by_cases same : reference.table = table
  · obtain ⟨target, referenceKey, onDelete⟩ := reference
    cases same
    rw [rows_replace_self]
    rw [Bool.eq_iff_iff]
    simp [Reference.names]
    grind
  · rw [rows_replace_of_ne tables _ same]
    simp [Reference.names, same]

/-- The references of a surviving row are still answered as before. -/
theorem resolves_release {other : Table} {row : Row other}
    {reference : Reference} (member : reference ∈ Row.references row) :
    (tables.release table key).resolves reference = tables.resolves reference := by
  unfold resolves contains release
  rw [rows_ofRows, List.any_filterMap]
  congr 1
  funext target
  cases remains : Row.released table key target with
  | some left => simp [Row.key_of_released remains]
  | none =>
      -- A row that went away referred to the deleted one with a cascade.
      exfalso
      cases found : (Row.references target).find? (fun reference =>
          reference.names table key) with
      | none =>
          rw [Row.released_of_not_names] at remains
          · cases remains
          · simpa [List.find?_eq_none] using found
      | some cause =>
          rw [released_of_find found] at remains
          have cascades : cause.onDelete = .cascade := by
            cases action : cause.onDelete <;> simp_all
          exact Row.not_referred_of_cascade (List.mem_of_find?_eq_some found)
            cascades member rfl

/-- What a row is in debt of after a deletion, together with what it took away
unpaid, is what it was in debt of before and what it refuses to give up. -/
theorem row_balance (present : tables.contains table key = true)
    {other : Table} (row : Row other) :
    ((Row.released table key row).map fun left =>
        (Row.references left).countP fun reference =>
          reference.names table key || !tables.resolves reference).getD 0 +
      (if follows table key row then
          (Row.references row).countP fun reference =>
            !reference.names table key && !tables.resolves reference
        else 0) =
      ((Row.references row).countP fun reference =>
          !tables.resolves reference) +
        (Row.references row).countP fun reference =>
          reference.names table key && reference.onDelete == .refuse := by
  have resolved : ∀ reference : Reference, reference.names table key = true →
      tables.resolves reference = true := by
    rintro ⟨target, referenceKey, onDelete⟩ named
    obtain ⟨rfl, rfl⟩ : target = table ∧ referenceKey = key := by
      simpa [Reference.names] using named
    exact present
  unfold follows
  cases found : (Row.references row).find? (fun reference =>
      reference.names table key) with
  | none =>
      have unnamed : ∀ reference ∈ Row.references row,
          reference.names table key = false := by
        simpa [List.find?_eq_none] using found
      rw [Row.released_of_not_names unnamed]
      simp only [Option.map_some, Option.getD_some, Option.isNone_some,
        Bool.false_eq_true, if_false, Nat.add_zero]
      apply countP_eq_add
      · intro reference member
        simp [unnamed reference member]
      · intro reference member _
        simp [unnamed reference member]
  | some cause =>
      have member : cause ∈ Row.references row :=
        List.mem_of_find?_eq_some found
      have named : cause.names table key = true := by
        simpa using List.find?_some found
      have only : ∀ reference ∈ Row.references row,
          reference.names table key = true → reference = cause := by
        intro reference referenceMember referenceNamed
        apply Row.reference_unique referenceMember member
        simp only [Reference.names, Bool.and_eq_true, beq_iff_eq] at *
        exact referenceNamed.1.trans named.1.symm
      rw [released_of_find found]
      cases action : cause.onDelete with
      | refuse =>
          simp only [Option.map_some, Option.getD_some, Option.isNone_some,
            Bool.false_eq_true, if_false, Nat.add_zero]
          apply countP_eq_add
          · intro reference referenceMember
            have same := only reference referenceMember
            grind
          · intro reference referenceMember dangles
            have answered := resolved reference
            grind
      | cascade =>
          simp only [Option.map_none, Option.getD_none, Option.isNone_none,
            if_true, Nat.zero_add]
          apply countP_eq_add
          · intro reference referenceMember
            have same := only reference referenceMember
            have answered := resolved reference
            grind
          · intro reference referenceMember dangles
            have answered := resolved reference
            grind
      | detach =>
          simp only [Option.map_some, Option.getD_some, Option.isNone_some,
            Bool.false_eq_true, if_false, Nat.add_zero,
            Row.references_detached, List.countP_filter]
          apply countP_eq_add
          · intro reference referenceMember
            have same := only reference referenceMember
            have answered := resolved reference
            have alone := Row.detaching_unique referenceMember member
            grind
          · intro reference referenceMember dangles
            have answered := resolved reference
            grind

/-- The references without a row after a deletion, counted before it. -/
theorem danglingTotal_release_without :
    ((tables.without table key).release table key).danglingTotal =
      (tables.without table key).tally fun _ row =>
        ((Row.released table key row).map fun left =>
          (Row.references left).countP fun reference =>
            reference.names table key || !tables.resolves reference).getD 0 := by
  unfold danglingTotal
  rw [countReferences_eq_tally, tally_release]
  apply tally_congr
  intro other row _
  cases Row.released table key row with
  | none => rfl
  | some left =>
      apply List.countP_congr
      intro reference member
      rw [resolves_release member, resolves_without]
      cases tables.resolves reference <;> simp

theorem countFreed_without :
    (tables.without table key).countFreed table key =
      (tables.without table key).tally fun _ row =>
        if follows table key row then
          (Row.references row).countP fun reference =>
            !reference.names table key && !tables.resolves reference
        else 0 := by
  rw [countFreed_eq_tally]
  simp only [resolves_without]
  apply tally_congr
  intro other row _
  congr 2
  funext reference
  cases reference.names table key <;> simp

/-- The balance of all rows but the deleted one. -/
theorem danglingTotal_add_countFreed
    (present : tables.contains table key = true) :
    ((tables.without table key).release table key).danglingTotal +
        (tables.without table key).countFreed table key =
      ((tables.without table key).tally fun _ row =>
          (Row.references row).countP fun reference =>
            !tables.resolves reference) +
        (tables.without table key).countRefusing table key := by
  unfold countRefusing
  rw [danglingTotal_release_without, countFreed_without,
    countReferences_eq_tally, ← tally_add, ← tally_add]
  apply tally_congr
  intro other row _
  exact row_balance present row

end

/-- The count of a deletion follows the references that name no row. -/
theorem count_deleteRow {deletion : Deletion} {table : Table}
    (distinct : deletion.tables.Distinct) {row : Row table}
    (member : row ∈ deletion.tables.rows table)
    (counted : deletion.count = deletion.tables.danglingTotal) :
    (deleteRow deletion row).count =
      (deleteRow deletion row).tables.danglingTotal := by
  obtain ⟨tables, count⟩ := deletion
  obtain rfl : count = tables.danglingTotal := counted
  have present : tables.contains table (Row.key row) = true :=
    List.any_eq_true.mpr ⟨row, member, beq_self_eq_true _⟩
  have before : tables.danglingTotal =
      ((tables.without table (Row.key row)).tally fun _ other =>
          (Row.references other).countP fun reference =>
            !tables.resolves reference) +
        tables.danglingCount row := by
    unfold danglingTotal
    rw [countReferences_eq_tally]
    exact tally_without distinct member _
  have balance := danglingTotal_add_countFreed present
  change tables.danglingTotal - tables.danglingCount row +
      (tables.without table (Row.key row)).countRefusing table (Row.key row) -
        (tables.without table (Row.key row)).countFreed table (Row.key row) =
    ((tables.without table (Row.key row)).release table
      (Row.key row)).danglingTotal
  omega

/-! ## Deleting several rows -/

section

variable {table : Table}

theorem rows_deleteRow_self (deletion : Deletion) (row : Row table) :
    (deleteRow deletion row).tables.rows table =
      (deletion.tables.rows table).filter fun other =>
        Row.key other != Row.key row := by
  have unchanged : Row.released table (Row.key row) = (some : Row table → _) :=
    funext fun other => Row.released_same_table other (Row.key row)
  simp only [deleteRow, release, without, rows_ofRows, rows_replace_self,
    unchanged, List.filterMap_some]

theorem rows_foldl_deleteRow_self (deletion : Deletion)
    (rows : List (Row table)) :
    (rows.foldl deleteRow deletion).tables.rows table =
      (deletion.tables.rows table).filter fun other =>
        rows.all fun row => Row.key other != Row.key row := by
  induction rows generalizing deletion with
  | nil => simp
  | cons row later induction =>
      rw [List.foldl_cons, induction, rows_deleteRow_self, List.filter_filter]
      simp only [List.all_cons, Bool.and_comm]

/-- Rows that refer to none of the deleted ones stay as they are. -/
theorem rows_foldl_deleteRow_of_kept {other : Table} (deletion : Deletion)
    (rows : List (Row table)) (different : other ≠ table)
    (kept : ∀ target ∈ deletion.tables.rows other, ∀ row ∈ rows,
      Row.released table (Row.key row) target = some target) :
    (rows.foldl deleteRow deletion).tables.rows other =
      deletion.tables.rows other := by
  induction rows generalizing deletion with
  | nil => rfl
  | cons row later induction =>
      have here : (deleteRow deletion row).tables.rows other =
          deletion.tables.rows other := by
        simp only [deleteRow, release, without, rows_ofRows,
          rows_replace_of_ne _ _ different]
        have step : ∀ target ∈ deletion.tables.rows other,
            Row.released table (Row.key row) target = some target :=
          fun target member => kept target member row List.mem_cons_self
        rw [List.filterMap_congr step, List.filterMap_some]
      rw [List.foldl_cons, induction, here]
      rw [here]
      intro target member gone goneMember
      exact kept target member gone (List.mem_cons_of_mem row goneMember)

theorem count_foldl_deleteRow (deletion : Deletion) (rows : List (Row table))
    (distinct : deletion.tables.Distinct)
    (members : ∀ row ∈ rows, row ∈ deletion.tables.rows table)
    (keys : rows.Pairwise fun a b => Row.key a ≠ Row.key b)
    (counted : deletion.count = deletion.tables.danglingTotal) :
    (rows.foldl deleteRow deletion).count =
      (rows.foldl deleteRow deletion).tables.danglingTotal := by
  induction rows generalizing deletion with
  | nil => exact counted
  | cons row later induction =>
      obtain ⟨apart, laterKeys⟩ := List.pairwise_cons.mp keys
      have member := members row List.mem_cons_self
      apply induction _ (distinct.deleteRow row) _ laterKeys
        (count_deleteRow distinct member counted)
      intro other otherMember
      rw [rows_deleteRow_self]
      apply List.mem_filter.mpr
      exact ⟨members other (List.mem_cons_of_mem row otherMember),
        bne_iff_ne.mpr (apart other otherMember).symm⟩

end

end Tables

end AccessControl.Store
