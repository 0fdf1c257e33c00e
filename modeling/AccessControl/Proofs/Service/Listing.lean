import Mathlib.Data.Set.Card
import AccessControl.Proofs.Service.Answers
import AccessControl.Proofs.Store.Repetition
import AccessControl.Proofs.Store.RowByRow

/-!
# What callers are told about themselves

A caller that asks for itself is told its name and the authorizations it holds.
On the way to that answer privilege rows are resolved in a batch, equal
privileges are dropped, and the authorizations of each privilege are flattened
into one list of names.  In the end there is one name for every privilege row
of the caller together with an authorization recorded on its permission.
-/

namespace AccessControl

namespace Store

/-- An authorization held through a privilege: the privilege row and the record
of the authorization on its permission. -/
structure Grant where
  privilege : PrivilegeRow
  record : PermissionAuthorizationRow

/-- The order in which authorizations are listed. -/
def Grant.Precedes (a b : Grant) : Prop :=
  a.privilege.id < b.privilege.id ∨
    a.privilege.id = b.privilege.id ∧
      Text.bytes a.record.authorizationId < Text.bytes b.record.authorizationId

instance : Std.Asymm Grant.Precedes where
  asymm a b before := by
    unfold Grant.Precedes at before ⊢
    rw [Text.bytes_lt_iff] at before ⊢
    grind

namespace Tables

/-- All rows that a privilege row refers to exist. -/
def IsComplete (tables : Tables) (row : PrivilegeRow) : Prop :=
  ∃ permission resource principal,
    tables.Complete row permission resource principal

/-- The privilege row of a grant is a complete one of the given principal, and
the record is one on the permission of that row. -/
structure Holds (tables : Tables) (principal : Int64) (grant : Grant) :
    Prop where
  privilege_mem : grant.privilege ∈ tables.privileges
  principal_id : grant.privilege.principalId = principal
  complete : tables.IsComplete grant.privilege
  record_mem : grant.record ∈ tables.permissionAuthorizations
  permission_id : grant.record.permissionId = grant.privilege.permissionId

/-- Names stand for all grants of a principal, one name for each grant, by
ascending ids of the privileges and then by the bytes of the ids of the
authorizations. -/
def Lists (tables : Tables) (principal : Int64) (names : List String) : Prop :=
  ∃ grants : List Grant,
    (∀ grant, grant ∈ grants ↔ tables.Holds principal grant) ∧
    grants.Pairwise Grant.Precedes ∧
    List.Forall₂
      (fun grant name => tables.ShownAs grant.record.authorizationId name)
      grants names

/-! ## The grants of a principal -/

/-- The grants through one privilege row. -/
def grantsBy (tables : Tables) (row : PrivilegeRow) : List Grant :=
  if (tables.privilege? row).isSome then
    (tables.recordsOf row.permissionId).map (Grant.mk row)
  else
    []

/-- The grants of a principal, in the order in which they are listed. -/
def grantsOf (tables : Tables) (principal : Int64) : List Grant :=
  (tables.selection fun row => row.principalId == principal).flatMap
    tables.grantsBy

/-- The name under which a grant is listed. -/
def shown (tables : Tables) (grant : Grant) : String :=
  (entitlement tables.authorizations grant.record).name

section

variable {tables : Tables}

theorem isSome_privilege?_iff {row : PrivilegeRow} :
    (tables.privilege? row).isSome = true ↔ tables.IsComplete row := by
  constructor
  · intro resolved
    obtain ⟨privilege, found⟩ := Option.isSome_iff_exists.mp resolved
    obtain ⟨permission, resource, principal, complete, _⟩ :=
      exists_complete_of_privilege? found
    exact ⟨permission, resource, principal, complete⟩
  · intro complete
    obtain ⟨permission, resource, principal, refers⟩ := complete
    by_contra unresolved
    exact not_complete_of_privilege? (Option.not_isSome_iff_eq_none.mp unresolved)
      permission resource principal refers

theorem mem_grantsBy {row : PrivilegeRow} {grant : Grant} :
    grant ∈ tables.grantsBy row ↔
      grant.privilege = row ∧ tables.IsComplete row ∧
        grant.record ∈ tables.permissionAuthorizations ∧
          grant.record.permissionId = row.permissionId := by
  rw [← isSome_privilege?_iff, grantsBy]
  obtain ⟨privilege, record⟩ := grant
  by_cases resolved : (tables.privilege? row).isSome = true
  · rw [if_pos resolved, List.mem_map]
    simp only [Grant.mk.injEq, mem_recordsOf]
    grind
  · rw [if_neg resolved]
    simp [resolved]

theorem mem_grantsOf {principal : Int64} {grant : Grant} :
    grant ∈ tables.grantsOf principal ↔ tables.Holds principal grant := by
  simp only [grantsOf, List.mem_flatMap, mem_grantsBy, mem_selection]
  constructor
  · intro found
    obtain ⟨row, ⟨member, selected⟩, same, complete, recorded, permission⟩ :=
      found
    subst same
    exact ⟨member, beq_iff_eq.mp selected, complete, recorded, permission⟩
  · intro holds
    exact ⟨grant.privilege,
      ⟨holds.privilege_mem, beq_iff_eq.mpr holds.principal_id⟩, rfl,
      holds.complete, holds.record_mem, holds.permission_id⟩

theorem names_alone (row : PrivilegeRow) :
    ((tables.alone row).value.flatMap fun privilege =>
        privilege.permission.entitlements.map Entitlement.name) =
      (tables.grantsBy row).map tables.shown := by
  rw [value_alone, grantsBy]
  cases resolved : tables.privilege? row with
  | none => rfl
  | some privilege =>
      obtain ⟨permission, resource, principal, complete, made⟩ :=
        exists_complete_of_privilege? resolved
      rw [made, Option.toList_some, List.flatMap_singleton,
        assemble_permission, Option.isSome_some, if_pos rfl,
        ← complete.permission_id, List.map_map]
      exact List.map_map

/-- Batches and flattening keep one name for each grant. -/
theorem names_privilegesOf (principal : Int64) :
    ((tables.privilegesOf principal).value.flatMap fun privilege =>
        privilege.permission.entitlements.map Entitlement.name) =
      (tables.grantsOf principal).map tables.shown := by
  rw [privilegesOf, privilegesWhere_eq_alone, List.flatMap_assoc, grantsOf,
    List.map_flatMap]
  congr 1
  funext row
  exact names_alone row

theorem Lists.length_eq {principal : Int64} {names : List String}
    (lists : tables.Lists principal names) :
    names.length = {grant | tables.Holds principal grant}.ncard := by
  classical
  obtain ⟨grants, members, ordered, named⟩ := lists
  have same : {grant | tables.Holds principal grant} =
      (grants.toFinset : Set Grant) := by
    ext grant
    rw [Set.mem_ofPred_eq, ← members, Finset.mem_coe, List.mem_toFinset]
  rw [same, Set.ncard_coe_finset,
    List.toFinset_card_of_nodup ordered.nodup]
  exact named.length_eq.symm

end

namespace Distinct

variable {tables : Tables} (distinct : tables.Distinct)

include distinct

theorem strictly_ascending_records (permission : Int64) :
    (tables.recordsOf permission).Pairwise fun a b =>
      a.authorizationId < b.authorizationId := by
  have apart := distinct.pairwise_key_sorted .permissionAuthorization
    (fun row => row.permissionId == permission)
    fun a b => a.authorizationId ≤ b.authorizationId
  apply ((tables.pairwise_recordsOf permission).and apart).imp_of_mem
  intro a b aMember bMember both
  obtain ⟨precedes, different⟩ := both
  have samePermission : a.permissionId = b.permissionId :=
    (mem_recordsOf.mp aMember).2.trans (mem_recordsOf.mp bMember).2.symm
  have differentId : a.authorizationId ≠ b.authorizationId := by
    intro sameId
    exact different (congrArg₂ Key.pair samePermission sameId)
  rw [PermissionAuthorizationRow.precedes_iff] at precedes
  grind

theorem pairwise_grantsBy (row : PrivilegeRow) :
    (tables.grantsBy row).Pairwise Grant.Precedes := by
  unfold grantsBy
  split
  · apply List.Pairwise.map _ _ (distinct.strictly_ascending_records _)
    intro a b before
    exact .inr ⟨rfl, Text.bytes_lt_iff.mpr before⟩
  · exact .nil

theorem pairwise_grantsOf (principal : Int64) :
    (tables.grantsOf principal).Pairwise Grant.Precedes := by
  apply List.pairwise_flatMap.mpr
  constructor
  · intro row _
    exact distinct.pairwise_grantsBy row
  · apply (distinct.strictly_ascending_selection _).imp
    intro row other before grant member otherGrant otherMember
    have first := (mem_grantsBy.mp member).1
    have second := (mem_grantsBy.mp otherMember).1
    left
    rw [first, second]
    exact before

/-- There is one list for a principal, and it is the one that flattening the
loaded privileges gives. -/
theorem lists_iff {principal : Int64} {names : List String} :
    tables.Lists principal names ↔
      names = (tables.grantsOf principal).map tables.shown := by
  have ordered := distinct.pairwise_grantsOf principal
  constructor
  · intro lists
    obtain ⟨grants, members, otherOrdered, named⟩ := lists
    have same : grants = tables.grantsOf principal := by
      apply otherOrdered.eq_of_mem_iff ordered
      intro grant
      rw [members, mem_grantsOf]
    have shownNames : List.Forall₂ (fun name grant => name = tables.shown grant)
        names grants := by
      apply named.flip.imp
      intro name grant shownAs
      exact distinct.name_eq_of_shownAs shownAs
    rw [← same]
    exact List.forall₂_eq_eq_eq ▸ List.forall₂_map_right_iff.mpr shownNames
  · intro same
    subst same
    refine ⟨tables.grantsOf principal, fun _ => mem_grantsOf, ordered, ?_⟩
    rw [List.forall₂_map_right_iff, List.forall₂_same]
    intro grant _
    exact tables.shownAs_entitlement grant.record

theorem authorizationNames_holding (name : String) (principal : Int64) :
    (Caller.holding name
        (tables.privilegesOf principal).value).authorizationNames =
      (tables.grantsOf principal).map tables.shown := by
  rw [distinct.holding_privilegesOf]
  exact names_privilegesOf principal

end Distinct

end Tables

end Store

namespace Service

/-! ## The answer -/

/-- What is told to someone who acts under the name of a user: the name and the
authorizations of an active user, and nothing to anyone else. -/
inductive Describes (tables : Store.Tables) (userName : String) :
    Json → Prop where
  | unknown :
      (∀ user ∈ tables.users, user.name = userName → user.active = false) →
      Describes tables userName .null
  | active {user : Store.UserRow} {names : List String} :
      user ∈ tables.users → user.name = userName → user.active = true →
      tables.Lists user.principalId names →
      Describes tables userName
        (.object
          [("name", .text user.name),
            ("authorizations", .array (names.map Json.text))])

theorem describes_iff {tables : Store.Tables} (distinct : tables.Distinct)
    {userName : String} {document : Json} :
    Describes tables userName document ↔
      document =
        (((tables.caller? userName).value.map callerData).getD .null) := by
  rw [Store.Tables.value_caller?]
  constructor
  · intro describes
    cases describes with
    | unknown absent =>
        rw [activeUser?_eq_none_iff.mpr absent]
        rfl
    | @active user names member named active lists =>
        rw [distinct.activeUser?_eq_some_iff.mpr ⟨member, named, active⟩,
          distinct.lists_iff.mp lists,
          ← distinct.authorizationNames_holding user.name]
        rfl
  · intro same
    cases found : tables.activeUser? userName with
    | none =>
        rw [found] at same
        subst same
        exact .unknown (activeUser?_eq_none_iff.mp found)
    | some user =>
        obtain ⟨member, named, active⟩ :=
          distinct.activeUser?_eq_some_iff.mp found
        rw [found] at same
        subst same
        exact .active member named active
          (distinct.lists_iff.mpr
            (distinct.authorizationNames_holding user.name user.principalId))

/-- A request asks who its caller is. -/
structure Request.AsksWho (request : Request) : Prop where
  method : request.method = "POST"
  route : request.route = "/graphql"
  inquiry : request.inquiry? = some (.field .me)

theorem value_answer_of_asksWho {service : Service} {request : Request}
    (asks : request.AsksWho) {caller : Option Caller}
    (resolved : (service.resolve request.login).value = .ok caller) :
    (service.answer request).value =
      .ofJson (fieldData "me" ((caller.map callerData).getD .null)) := by
  have route : service.answer request =
      service.answerGraphQl request (some (.field .me)) := by
    unfold answer
    simp [asks.route, asks.method, asks.inquiry]
  rw [route, answerGraphQl, value_asCaller resolved]
  rfl

/-- Without a login there is nothing to tell.  With one, over an open store, the
answer is fixed by the rows of the user that the login stands for; a list of
authorizations is as long as there are grants. -/
structure TellsWho (service : Service) (tables : Store.Tables)
    (request : Request) : Prop where
  anonymous : request.login = none →
    (service.answer request).value = .ofJson (fieldData "me" .null)
  login : ∀ login, request.login = some login →
    service.store.isOpen = true → ∀ response,
      ((service.answer request).value = response ↔
        ∃ document,
          Describes tables (service.aliases.resolve login) document ∧
            response = .ofJson (fieldData "me" document))
  counted : ∀ principal names, tables.Lists principal names →
    names.length = {grant | tables.Holds principal grant}.ncard

/-- Whoever asks is told the name of the user that the login stands for, and
the authorizations of all complete privileges of that user, each of them as
often as it is held. -/
theorem tells_who {service : Service} {tables : Store.Tables} {filled : Bool}
    (present : service.store.contents = .created tables filled)
    (distinct : tables.Distinct) {request : Request}
    (asks : request.AsksWho) : service.TellsWho tables request := by
  constructor
  case anonymous =>
    intro absent
    have resolved : (service.resolve request.login).value = .ok none := by
      rw [absent]
      rfl
    exact value_answer_of_asksWho asks resolved
  case login =>
    intro login named isOpen response
    have resolved : (service.resolve request.login).value =
        .ok (tables.caller? (service.aliases.resolve login)).value := by
      rw [named]
      exact value_resolve_of_caller?
        (Store.value_caller?_of_created present isOpen _)
    rw [value_answer_of_asksWho asks resolved]
    simp only [describes_iff distinct, exists_eq_left]
    exact eq_comm
  case counted => exact fun _ _ lists => lists.length_eq

namespace Repeated

/-- Of the three privileges of alice, two share their permission and one is
dangling. -/
def tables : Store.Tables :=
  { Store.Patchy.tables with users := [⟨1, "alice", 100, true⟩] }

def service : Service where
  store := { contents := .created tables false, enforced := false }
  aliases := ⟨[⟨"al@C", "alice"⟩]⟩

def request : Request where
  target := "/graphql"
  user := some "al@C "
  contentType := some "application/json"
  body := "\x7b\"query\":\"" ++ Field.meQuery ++ "\"\x7d"

theorem tables_distinct : tables.Distinct := by
  intro table
  cases table <;> decide

theorem request_asksWho : request.AsksWho where
  method := rfl
  route := by decide +kernel
  inquiry := by decide +kernel

/-- Both authorizations of the shared permission, twice. -/
def names : List String :=
  ["CLUSTER.OPERATE", "View metrics", "CLUSTER.OPERATE", "View metrics"]

theorem lists_names : tables.Lists 100 names := by
  have same : tables.privilegesOf 100 = Store.Patchy.tables.privilegesOf 100 :=
    rfl
  rw [tables_distinct.lists_iff,
    ← tables_distinct.authorizationNames_holding "alice", same,
    Store.Patchy.privilegesOf_hundred]
  decide

/-- Alice, who comes as `al@C`, is told her own name and every repetition. -/
theorem alice_told_repetitions :
    (service.store.contents = .created tables false ∧ tables.Distinct ∧
      request.AsksWho) ∧
    request.login = some "al@C" ∧
    (service.answer request).value =
      .ofJson (fieldData "me" (.object
        [("name", .text "alice"),
          ("authorizations", .array (names.map Json.text))])) ∧
    {grant | tables.Holds 100 grant}.ncard = 4 ∧
    service.TellsWho tables request := by
  have login : request.login = some "al@C" := by decide +kernel
  have stands : service.aliases.resolve "al@C" = "alice" := by decide +kernel
  have tells : service.TellsWho tables request :=
    tells_who rfl tables_distinct request_asksWho
  have described : Describes tables (service.aliases.resolve "al@C")
      (.object
        [("name", .text "alice"),
          ("authorizations", .array (names.map Json.text))]) := by
    rw [stands]
    exact @Describes.active tables "alice" ⟨1, "alice", 100, true⟩ names
      List.mem_cons_self rfl rfl lists_names
  have answered := (tells.login "al@C" login rfl _).mpr ⟨_, described, rfl⟩
  have counted := (tells.counted 100 names lists_names).symm
  exact ⟨⟨rfl, tables_distinct, request_asksWho⟩, login, answered, counted,
    tells⟩

end Repeated

end Service

end AccessControl
