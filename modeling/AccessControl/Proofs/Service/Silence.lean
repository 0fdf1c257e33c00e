import AccessControl.Service.Login
import AccessControl.Proofs.Decision.Silence
import AccessControl.Proofs.Store.Revocation

/-!
# A service without warnings

Everything that a decision may warn of starts with a name in the store: the
name of a resource type, or the id of an authorization.  As long as the
statements that run on a migrated store keep off these two tables, they hold
what the catalog migration wrote, and the references to them lead nowhere else.
So no login is resolved and no query is decided with a warning.
-/

namespace AccessControl

namespace Store

/-- The rows of a table, which are none while it does not exist. -/
def Contents.rows : Contents → (table : Table) → List (Row table)
  | .blank, _ => []
  | .created tables _, table => tables.rows table

/-- A statement touches no row of a table: it names another one, or it leaves
the rows as they are, be it because it is refused. -/
def Untouched (store : Store) (statement : Statement) (table : Table) : Prop :=
  statement.table ≠ table ∨
    (store.after (.execute statement)).contents.rows table =
      store.contents.rows table

/-- What a migrated store may become by statements that touch no resource type
and no authorization. -/
inductive InOperation : Store → Prop where
  | migrated : InOperation migrated
  | execute {store : Store} {statement : Statement} :
      InOperation store → store.Untouched statement .resourceType →
      store.Untouched statement .authorization →
      InOperation (store.after (.execute statement))

/-! ## One statement -/

/-- A statement that names another table changes no row that refers to
nothing. -/
theorem Tables.rows_run_of_ne {tables changed : Tables} {enforced : Bool}
    {statement : Statement} {table : Table}
    (plain : ∀ row : Row table, Row.references row = [])
    (different : statement.table ≠ table)
    (success : statement.run tables enforced = .ok changed) :
    changed.rows table = tables.rows table := by
  have elsewhere : table ≠ statement.table := different.symm
  -- Both kinds of deletion come down to this one, enforced or not.
  have deletion {target : Table} (apart : table ≠ target)
      {selected : Row target → Bool}
      (ran : tables.deleteWhere enforced target selected = .ok changed) :
      changed.rows table = tables.rows table := by
    rcases deleteWhere_eq_ok ran with ⟨_, _, rfl⟩ | ⟨_, rfl⟩
    · apply rows_deleted_of_kept apart
      intro row _ reference member
      rw [plain row] at member
      cases member
    · exact rows_replace_of_ne tables _ apart
  cases statement with
  | insert target rows =>
      obtain ⟨_, _, rfl⟩ := insert_eq_ok success
      exact rows_replace_of_ne tables _ elsewhere
  | update target row =>
      rcases update_eq_ok success with rfl | ⟨_, _, rfl⟩
      · rfl
      · exact rows_replace_of_ne tables _ elsewhere
  | delete target key => exact deletion elsewhere success
  | deleteWhere target selected => exact deletion elsewhere success

theorem Untouched.rows_eq {store : Store} {statement : Statement}
    {table : Table} (untouched : store.Untouched statement table)
    (plain : ∀ row : Row table, Row.references row = []) :
    (store.after (.execute statement)).contents.rows table =
      store.contents.rows table := by
  rcases untouched with different | same
  · cases outcome : store.execute statement with
    | error fault => simp only [after, outcome]
    | ok changed =>
        obtain ⟨tables, left, filled, present, _, ran, rfl⟩ :=
          execute_eq_ok outcome
        simp only [after, outcome, present, Contents.rows]
        exact Tables.rows_run_of_ne plain different ran
  · exact same

/-! ## Any number of statements -/

/-- A sound store that names what the catalog migration named. -/
structure Catalogued (store : Store) (tables : Tables) : Prop where
  sound : store.Sound
  present : store.contents = .created tables true
  resourceTypes : tables.resourceTypes = Catalog.resourceTypes
  authorizations : tables.authorizations = Catalog.authorizations

theorem exists_catalogued_migrated : ∃ tables, migrated.Catalogued tables := by
  have written : migrated.contents.applied = [.tables, .catalog] ∧
      migrated.contents.rows .resourceType = Catalog.resourceTypes ∧
        migrated.contents.rows .authorization = Catalog.authorizations := by
    decide +kernel
  cases contents : migrated.contents with
  | blank =>
      rw [contents] at written
      cases written.1
  | created tables filled =>
      rw [contents] at written
      obtain ⟨applied, types, authorizations⟩ := written
      cases filled with
      | false => cases applied
      | true => exact ⟨tables, sound_migrated, contents, types, authorizations⟩

theorem Catalogued.after {store : Store} {tables : Tables}
    (catalogued : store.Catalogued tables) {statement : Statement}
    (types : store.Untouched statement .resourceType)
    (authorizations : store.Untouched statement .authorization) :
    ∃ left, (store.after (.execute statement)).Catalogued left := by
  have sound := catalogued.sound.after (.execute statement)
  have sameTypes := types.rows_eq fun _ => rfl
  have sameAuthorizations := authorizations.rows_eq fun _ => rfl
  -- No statement drops the tables or undoes a migration.
  have created : ∃ left, (store.after (.execute statement)).contents =
      .created left true := by
    cases outcome : store.execute statement with
    | error fault =>
        simp only [Store.after, outcome]
        exact ⟨tables, catalogued.present⟩
    | ok changed =>
        obtain ⟨before, left, filled, present, _, _, rfl⟩ :=
          execute_eq_ok outcome
        rw [catalogued.present] at present
        cases present
        simp only [Store.after, outcome]
        exact ⟨left, rfl⟩
  obtain ⟨left, present⟩ := created
  rw [present, catalogued.present] at sameTypes sameAuthorizations
  exact ⟨left, sound, present, sameTypes.trans catalogued.resourceTypes,
    sameAuthorizations.trans catalogued.authorizations⟩

theorem InOperation.exists_catalogued {store : Store}
    (operated : store.InOperation) : ∃ tables, store.Catalogued tables := by
  induction operated with
  | migrated => exact exists_catalogued_migrated
  | execute _ types authorizations induction =>
      obtain ⟨tables, catalogued⟩ := induction
      exact catalogued.after types authorizations

/-- Statements that name neither table keep a store in operation. -/
theorem InOperation.afterAll {store : Store} (operated : store.InOperation)
    {statements : List Statement}
    (elsewhere : ∀ statement ∈ statements,
      statement.table ≠ .resourceType ∧ statement.table ≠ .authorization) :
    (store.afterAll (statements.map .execute)).InOperation := by
  induction statements generalizing store with
  | nil => exact operated
  | cons statement later induction =>
      obtain ⟨⟨type, authorization⟩, others⟩ :=
        List.forall_mem_cons.mp elsewhere
      exact induction (operated.execute (.inl type) (.inl authorization)) others

/-! ## Known names -/

theorem exists_eq_ok {α ε : Type} {outcome : Except ε α}
    (accepted : outcome.isOk = true) : ∃ value, outcome = .ok value := by
  cases outcome with
  | ok value => exact ⟨value, rfl⟩
  | error failure => cases accepted

theorem Catalog.ofName_eq_ok {row : ResourceTypeRow}
    (member : row ∈ resourceTypes) :
    ∃ type, ResourceType.ofName row.name = .ok type := by
  have known : ∀ row ∈ resourceTypes,
      (ResourceType.ofName row.name).isOk = true := by
    decide +kernel
  exact exists_eq_ok (known row member)

theorem Catalog.ofId_eq_ok {row : AuthorizationRow}
    (member : row ∈ authorizations) :
    ∃ authorization, Authorization.ofId row.id = .ok authorization := by
  have known : ∀ row ∈ authorizations,
      (Authorization.ofId row.id).isOk = true := by
    decide +kernel
  exact exists_eq_ok (known row member)

namespace Catalogued

variable {store : Store} {tables : Tables}
  (catalogued : store.Catalogued tables)

include catalogued

theorem intact : tables.Intact :=
  catalogued.sound.tables_intact catalogued.present

theorem ofName_eq_ok {row : ResourceTypeRow}
    (member : row ∈ tables.resourceTypes) :
    ∃ type, ResourceType.ofName row.name = .ok type := by
  rw [catalogued.resourceTypes] at member
  exact Catalog.ofName_eq_ok member

theorem ofId_eq_ok {row : AuthorizationRow}
    (member : row ∈ tables.authorizations) :
    ∃ authorization, Authorization.ofId row.id = .ok authorization := by
  rw [catalogued.authorizations] at member
  exact Catalog.ofId_eq_ok member

theorem type_eq_ok {resource : ResourceRow}
    (member : resource ∈ tables.resources) :
    ∃ type, (tables.resourceOf resource).type = .ok type := by
  obtain ⟨row, rowMember, _, read⟩ := catalogued.intact.resourceOf_eq member
  rw [read]
  exact catalogued.ofName_eq_ok rowMember

theorem recorded_eq_ok {recorded : PermissionAuthorizationRow}
    (member : recorded ∈ tables.permissionAuthorizations) :
    ∃ authorization,
      Authorization.ofId recorded.authorizationId = .ok authorization := by
  obtain ⟨row, rowMember, same, _⟩ :=
    catalogued.intact.shows_entitlement member
  rw [← same]
  exact catalogued.ofId_eq_ok rowMember

theorem known_of_shows {records : List PermissionAuthorizationRow}
    {entitlements : List Entitlement}
    (shown : List.Forall₂ tables.Shows records entitlements) :
    ∀ entitlement ∈ entitlements, entitlement.Known := by
  induction shown with
  | nil => exact List.forall_mem_nil _
  | cons shows _ induction =>
      obtain ⟨row, rowMember, _, rfl⟩ := shows
      exact List.forall_mem_cons.mpr
        ⟨catalogued.ofId_eq_ok rowMember, induction⟩

theorem known_of_tells {row : PrivilegeRow} {privilege : Privilege}
    (tells : tables.Tells row privilege) : privilege.Known where
  type := by
    obtain ⟨_, _, _, type, typeMember, _, read⟩ := tells.resource
    rw [read]
    exact catalogued.ofName_eq_ok typeMember
  entitlements := catalogued.known_of_shows tells.entitlements

theorem known_of_mem_privilegesWhere {selected : PrivilegeRow → Bool}
    {privilege : Privilege}
    (member : privilege ∈ (tables.privilegesWhere selected).value) :
    privilege.Known := by
  rw [Tables.value_privilegesWhere] at member
  obtain ⟨row, chosen, resolved⟩ := List.mem_filterMap.mp member
  obtain ⟨told, found, tells⟩ :=
    catalogued.intact.exists_privilege (Tables.mem_selection.mp chosen).1
  rw [resolved] at found
  obtain rfl := Option.some.inj found
  exact catalogued.known_of_tells tells

theorem answers : store.lookup.Answers where
  owner id := ⟨_, catalogued.sound.owningCluster_eq catalogued.present id⟩
  recorded id := by
    refine ⟨(tables.privilegesOn id).value, ?_⟩
    unfold lookup
    simp only [catalogued.sound.privilegesOn_eq catalogued.present]
    rfl

/-- A login is resolved without a warning, to a caller with known privileges
or to none. -/
theorem resolve_quietly (aliases : LoginAliases) (login : Option String) :
    ∃ caller, (Service.resolve ⟨store, aliases⟩ login).value = .ok caller ∧
      (∀ event ∈ (Service.resolve ⟨store, aliases⟩ login).events,
        event.level = .debug) ∧
      ∀ actor ∈ caller, ∀ privilege ∈ actor.privileges, privilege.Known := by
  cases login with
  | none => exact ⟨none, rfl, List.forall_mem_nil _, by simp⟩
  | some login =>
      have loaded := catalogued.sound.caller?_eq catalogued.present
        (aliases.resolve login)
      unfold Service.resolve
      simp only [loaded]
      cases tables.activeUser? (aliases.resolve login) with
      | none => exact ⟨none, rfl, by simp [Event.level], by simp⟩
      | some user =>
          refine ⟨_, rfl, by simp, ?_⟩
          intro actor present privilege member
          obtain rfl := Option.some.inj present
          exact catalogued.known_of_mem_privilegesWhere
            (Caller.mem_distinct.mp member)

end Catalogued

end Store

/-- While statements keep off the resource types and the authorizations, the
names that the store refers to are those of the catalog, the readers of the
store miss nothing, and neither the resolving of a login nor a decision warns
of anything. -/
theorem Service.no_warning_in_operation {store : Store}
    (operated : store.InOperation) :
    ∃ tables, store.contents = .created tables true ∧
      (∀ resource ∈ tables.resources, ∃ type,
        (tables.resourceOf resource).type = .ok type) ∧
      (∀ recorded ∈ tables.permissionAuthorizations, ∃ authorization,
        Authorization.ofId recorded.authorizationId = .ok authorization) ∧
      store.ReadsWhole tables ∧
      ∀ (aliases : LoginAliases) (login : Option String) (query : Query),
        ∃ caller, (resolve ⟨store, aliases⟩ login).value = .ok caller ∧
          ∀ event ∈ (resolve ⟨store, aliases⟩ login).events ++
              (decide ⟨store, aliases⟩ caller query).events,
            event.level ≠ .warn := by
  obtain ⟨tables, catalogued⟩ := operated.exists_catalogued
  refine ⟨tables, catalogued.present, fun _ => catalogued.type_eq_ok,
    fun _ => catalogued.recorded_eq_ok,
    catalogued.sound.readsWhole catalogued.present, ?_⟩
  intro aliases login query
  obtain ⟨caller, resolved, quiet, known⟩ :=
    catalogued.resolve_quietly aliases login
  have decided := catalogued.answers.level_decide known query
  refine ⟨caller, resolved, ?_⟩
  intro event member
  have debug : event.level = .debug :=
    (List.mem_append.mp member).elim (quiet event) (decided event)
  rw [debug]
  exact Level.noConfusion

namespace Service.Operated

/-- Alice uses the cluster `prod`, and the view that belongs to it is open to
everyone who does. -/
def statements : List Store.Statement :=
  [.insert .principal [⟨20, 1⟩],
    .insert .user [⟨1, "alice", 20, true⟩],
    .insert .resource [⟨2, 2⟩, ⟨10, 3⟩],
    .insert .cluster [⟨1, "prod", 2⟩],
    .insert .view [⟨1, "FILES", "files", 10, some 1⟩],
    .insert .privilege [⟨1, 2, 2, 20⟩, ⟨2, 4, 10, 7⟩]]

/-- The deletion of a resource type that is in use is refused. -/
def store : Store :=
  (Store.migrated.afterAll (statements.map .execute)).after
    (.execute (.delete .resourceType (.type 3)))

def service : Service where
  store := store
  aliases := { added := [⟨"alice@CORP", "alice"⟩] }

/-- Whether the view may be used. -/
def query : Query where
  resourceType := some .view
  resourceId := some 10
  required := .ofList [.viewUse]

theorem inOperation_store : store.InOperation := by
  have elsewhere : ∀ statement ∈ statements,
      statement.table ≠ .resourceType ∧ statement.table ≠ .authorization := by
    decide
  apply (Store.InOperation.migrated.afterAll elsewhere).execute
  · right
    decide +kernel
  · left
    decide

theorem alice_granted_quietly :
    store.InOperation ∧
      ∃ caller, (service.resolve (some "alice@CORP")).value = .ok caller ∧
        (service.decide caller query).value = true ∧
        ∀ event ∈ (service.resolve (some "alice@CORP")).events ++
            (service.decide caller query).events, event.level ≠ .warn := by
  have granted : (service.resolve (some "alice@CORP")).value.map
      (fun caller => (service.decide caller query).value) = .ok true := by
    decide +kernel
  obtain ⟨_, _, _, _, _, quiet⟩ := no_warning_in_operation inOperation_store
  obtain ⟨caller, resolved, silent⟩ :=
    quiet service.aliases (some "alice@CORP") query
  have found : (service.resolve (some "alice@CORP")).value = .ok caller :=
    resolved
  rw [found] at granted
  exact ⟨inOperation_store, caller, found, Except.ok.inj granted, silent⟩

end Service.Operated

end AccessControl
