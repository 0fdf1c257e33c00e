import Mathlib.Data.List.Sort
import AccessControl.Proofs.Decision.Meaning
import AccessControl.Proofs.Store.Registration

/-!
# Privileges listed twice

Of equal privileges a caller keeps the first one.  Privileges that differ in
anything are all kept, even under one id, so that no verdict changes.  The
privileges of one principal come from rows with different ids, and a caller who
is loaded from a store holds all of them.
-/

namespace AccessControl

namespace Caller

/-! ## First occurrences -/

/-- The privileges of a list, each of them once, in the order in which they
occur first. -/
structure FirstOccurrences (privileges kept : List Privilege) : Prop where
  members : ∀ privilege, privilege ∈ kept ↔ privilege ∈ privileges
  once : kept.Nodup
  ordered : kept.Pairwise fun a b =>
    privileges.idxOf a < privileges.idxOf b

theorem pairwise_idxOf_distinct (privileges : List Privilege) :
    (distinct privileges).Pairwise fun a b =>
      privileges.idxOf a < privileges.idxOf b := by
  induction privileges with
  | nil => exact .nil
  | cons first later induction =>
      have position {privilege : Privilege}
          (member : privilege ∈ (distinct later).filter (· != first)) :
          (first :: later).idxOf privilege = later.idxOf privilege + 1 := by
        have different : privilege ≠ first :=
          bne_iff_ne.mp (List.mem_filter.mp member).2
        exact List.idxOf_cons_ne later different.symm
      apply List.Pairwise.cons
      · intro privilege member
        rw [List.idxOf_cons_self, position member]
        exact Nat.succ_pos _
      · apply (induction.filter (· != first)).imp_of_mem
        intro a b aMember bMember before
        rw [position aMember, position bMember]
        exact Nat.succ_lt_succ before

theorem distinct_eq_iff {privileges kept : List Privilege} :
    distinct privileges = kept ↔ FirstOccurrences privileges kept := by
  have first : FirstOccurrences privileges (distinct privileges) :=
    ⟨fun _ => mem_distinct, distinct_nodup privileges,
      pairwise_idxOf_distinct privileges⟩
  constructor
  · intro same
    subst same
    exact first
  · intro occurrences
    have : Std.Asymm fun a b : Privilege =>
        privileges.idxOf a < privileges.idxOf b :=
      ⟨fun _ _ => Nat.lt_asymm⟩
    apply first.ordered.eq_of_mem_iff occurrences.ordered
    intro privilege
    rw [first.members, occurrences.members]

theorem distinct_of_nodup {privileges : List Privilege}
    (once : privileges.Nodup) : distinct privileges = privileges := by
  induction privileges with
  | nil => rfl
  | cons first later induction =>
      obtain ⟨fresh, laterOnce⟩ := List.nodup_cons.mp once
      rw [distinct, induction laterOnce]
      congr 1
      apply List.filter_eq_self.mpr
      intro other member
      rw [bne_iff_ne]
      intro same
      subst same
      exact fresh member

/-- One privilege joins those that are kept, unless it is among them. -/
def keep (kept : List Privilege) (privilege : Privilege) : List Privilege :=
  if kept.contains privilege then kept else kept ++ [privilege]

theorem foldl_keep (kept privileges : List Privilege) :
    privileges.foldl keep kept =
      kept ++ (distinct privileges).filter fun privilege =>
        !kept.contains privilege := by
  induction privileges generalizing kept with
  | nil => exact (List.append_nil kept).symm
  | cons first later induction =>
      rw [List.foldl_cons, induction, keep, distinct]
      by_cases member : first ∈ kept
      · rw [if_pos (List.contains_iff_mem.mpr member),
          List.filter_cons_of_neg (by simpa using member), List.filter_filter]
        congr 1
        apply List.filter_congr
        intro other _
        by_cases same : other = first <;> simp [same, member]
      · rw [if_neg (mt List.contains_iff_mem.mp member),
          List.filter_cons_of_pos (by simpa using member), List.filter_filter,
          List.append_assoc, List.singleton_append]
        congr 2
        apply List.filter_congr
        intro other _
        by_cases same : other = first <;> simp [same]

/-- Each privilege of a list is held once, and holding it more often would
change nothing. -/
structure HeldOnce (name : String) (privileges : List Privilege) : Prop where
  named : (holding name privileges).name = name
  kept : ∀ kept, (holding name privileges).privileges = kept ↔
    FirstOccurrences privileges kept
  /-- The privileges can be gone through from the first to the last. -/
  collected : privileges.foldl keep [] = (holding name privileges).privileges
  apart : ∀ a ∈ privileges, ∀ b ∈ privileges,
    (a.id ≠ b.id ∨ a.holder ≠ b.holder ∨ a.resource ≠ b.resource ∨
      a.permission ≠ b.permission) →
      [a, b].Subperm (holding name privileges).privileges
  repeated : holding name (holding name privileges).privileges =
    holding name privileges
  verdict : ∀ (lookup : PrivilegeLookup) query,
    lookup.isAuthorized (some (holding name privileges)) query =
      lookup.isAuthorized (some ⟨name, privileges⟩) query

theorem heldOnce (name : String) (privileges : List Privilege) :
    HeldOnce name privileges := by
  have once := distinct_nodup privileges
  constructor
  case named => rfl
  case kept => exact fun kept => distinct_eq_iff
  case collected =>
    rw [foldl_keep, List.nil_append]
    apply List.filter_eq_self.mpr
    intro privilege _
    rfl
  case apart =>
    intro a aMember b bMember differ
    have different : a ≠ b := by
      intro same
      subst same
      simp at differ
    apply List.subperm_of_subset
    · simpa using different
    · intro privilege member
      apply mem_distinct.mpr
      rcases List.mem_pair.mp member with same | same
      · rw [same]
        exact aMember
      · rw [same]
        exact bMember
  case repeated => exact congrArg (Caller.mk name) (distinct_of_nodup once)
  case verdict =>
    intro lookup query
    rw [Bool.eq_iff_iff, PrivilegeLookup.isAuthorized_iff,
      PrivilegeLookup.isAuthorized_iff]
    simp only [holding, Option.mem_some_iff, exists_eq_left',
      Query.settledBy_distinct, PrivilegeLookup.opens_distinct]

end Caller

namespace Store

namespace Tables

/-! ## The privileges of different rows -/

variable {tables : Tables}

/-- Sorted or not, rows keep different keys. -/
theorem Distinct.pairwise_key_sorted (distinct : tables.Distinct)
    (table : Table) (selected : Row table → Bool)
    (before : Row table → Row table → Bool) :
    (((tables.rows table).filter selected).mergeSort before).Pairwise
      fun a b => Row.key a ≠ Row.key b := by
  have apart := (distinct.pairwise_key table).filter selected
  have rearranged := List.mergeSort_perm
    ((tables.rows table).filter selected) before
  exact (rearranged.pairwise_iff fun different => different.symm).mpr apart

theorem Distinct.strictly_ascending_selection (distinct : tables.Distinct)
    (selected : PrivilegeRow → Bool) :
    (tables.selection selected).Pairwise fun a b => a.id < b.id := by
  have apart := distinct.pairwise_key_sorted .privilege selected
    fun a b => a.id ≤ b.id
  apply ((tables.ascending_selection selected).and apart).imp
  intro a b both
  obtain ⟨lessEqual, different⟩ := both
  have differentId : a.id ≠ b.id := fun same =>
    different (congrArg Key.id same)
  grind

theorem Distinct.id_of_privilege? (distinct : tables.Distinct)
    {row : PrivilegeRow} {privilege : Privilege}
    (resolved : tables.privilege? row = some privilege) :
    privilege.id = row.id := by
  obtain ⟨permission, resource, principal, _, made⟩ :=
    distinct.privilege?_eq_some_iff.mp resolved
  rw [← made]
  rfl

theorem Distinct.nodup_privilegesWhere (distinct : tables.Distinct)
    (selected : PrivilegeRow → Bool) :
    (tables.privilegesWhere selected).value.Nodup := by
  rw [value_privilegesWhere]
  apply List.pairwise_filterMap.mpr
  apply (distinct.strictly_ascending_selection selected).imp
  intro a b before privilege resolved other otherResolved same
  rw [← distinct.id_of_privilege? resolved, same,
    distinct.id_of_privilege? otherResolved] at before
  exact Int64.lt_irrefl before

theorem Distinct.holding_privilegesOf (distinct : tables.Distinct)
    (name : String) (principal : Int64) :
    Caller.holding name (tables.privilegesOf principal).value =
      ⟨name, (tables.privilegesOf principal).value⟩ :=
  congrArg (Caller.mk name)
    (Caller.distinct_of_nodup (distinct.nodup_privilegesWhere _))

theorem Distinct.caller?_eq (distinct : tables.Distinct) {user : UserRow}
    (member : user ∈ tables.users) (active : user.active = true) :
    tables.caller? user.name =
      (fun privileges => some ⟨user.name, privileges⟩) <$>
        tables.privilegesOf user.principalId := by
  have found := distinct.activeUser?_eq_some_iff.mpr ⟨member, rfl, active⟩
  unfold caller?
  rw [found]
  change Logged.andThen _ _ = Logged.andThen _ _
  simp only [Logged.andThen, distinct.holding_privilegesOf]
  rfl

end Tables

/-- Whoever is loaded from a store, with its tables, is an active user, and
every active user is loaded with the privileges that are loaded for the user's
principal. -/
structure LoadsWhole (store : Store) (tables : Tables) : Prop where
  listed : ∀ user ∈ tables.users, user.active = true →
    store.caller? user.name =
      (Except.map fun privileges => some ⟨user.name, privileges⟩) <$>
        store.privilegesOf user.principalId
  loaded : ∀ userName caller,
    (store.caller? userName).value = .ok (some caller) →
      ∃ user ∈ tables.users, user.name = userName ∧ user.active = true ∧
        (store.privilegesOf user.principalId).value = .ok caller.privileges

theorem load_map {α β : Type} {store : Store} {tables : Tables}
    {filled : Bool} (present : store.contents = .created tables filled)
    (first second : Table) {loading : Tables → Logged α}
    {other : Tables → Logged β} {f : α → β}
    (same : other tables = f <$> loading tables) :
    store.load first other = Except.map f <$> store.load second loading := by
  cases isOpen : store.isOpen with
  | false =>
      unfold load Store.tables connected
      rw [isOpen]
      rfl
  | true =>
      unfold load
      rw [tables_of_created present isOpen, tables_of_created present isOpen]
      change Logged.andThen (other tables) _ = _
      rw [same]
      rfl

theorem loadsWhole {store : Store} {tables : Tables} {filled : Bool}
    (present : store.contents = .created tables filled)
    (distinct : tables.Distinct) : store.LoadsWhole tables := by
  have listed : ∀ user ∈ tables.users, user.active = true →
      store.caller? user.name =
        (Except.map fun privileges => some ⟨user.name, privileges⟩) <$>
          store.privilegesOf user.principalId := by
    intro user member active
    exact load_map present .user .privilege (distinct.caller?_eq member active)
  constructor
  · exact listed
  · intro userName caller read
    cases isOpen : store.isOpen with
    | false =>
        unfold caller? load Store.tables connected at read
        rw [isOpen] at read
        cases read
    | true =>
        rw [value_caller?_of_created present isOpen, Tables.value_caller?]
          at read
        obtain ⟨user, found, made⟩ :=
          Option.map_eq_some_iff.mp (Except.ok.inj read)
        obtain ⟨member, named, active⟩ :=
          distinct.activeUser?_eq_some_iff.mp found
        subst named
        refine ⟨user, member, rfl, active, ?_⟩
        rw [← made, distinct.holding_privilegesOf]
        unfold privilegesOf load
        rw [tables_of_created present isOpen]
        rfl

/-- A list of privileges is held without its repetitions, to the same effect on
every verdict, and a list that was loaded has none. -/
theorem held_once_loaded_whole :
    (∀ name privileges, Caller.HeldOnce name privileges) ∧
      ∀ (store : Store) (tables : Tables) (filled : Bool),
        store.contents = .created tables filled → tables.Distinct →
          store.LoadsWhole tables := by
  constructor
  · exact Caller.heldOnce
  · intro store tables filled present distinct
    exact loadsWhole present distinct

namespace Crossed

/-- The second privilege of alice, on the resource under 3. -/
def clusterUser : Privilege where
  id := 2
  holder := ⟨100, "USER"⟩
  resource := ⟨3, "CLUSTER"⟩
  permission := ⟨2, "CLUSTER.USER",
    [⟨"CLUSTER.VIEW_METRICS", "CLUSTER.VIEW_METRICS"⟩]⟩

/-- A privilege with the same id on the view. -/
def viewUser : Privilege :=
  { clusterUser with resource := ⟨10, "FILES\x7b1.0.0\x7d"⟩ }

theorem both_held_one_loaded :
    tables.Distinct ∧
      Caller.HeldOnce "alice" [viewUser, clusterUser, viewUser] ∧
      (Caller.holding "alice" [viewUser, clusterUser, viewUser]).privileges =
        [viewUser, clusterUser] ∧
      store.LoadsWhole tables ∧
      (store.caller? "alice").value = .ok (some ⟨"alice", [clusterUser]⟩) := by
  have held := held_once_loaded_whole.1 "alice" [viewUser, clusterUser, viewUser]
  have loads := held_once_loaded_whole.2 store tables true rfl tables_distinct
  have computed : (store.caller? "alice").value =
      .ok (some ⟨"alice", [clusterUser]⟩) := by
    cbv
  exact ⟨tables_distinct, held, by decide, loads, computed⟩

end Crossed

end Store

end AccessControl
