import AccessControl.Json.Document
import AccessControl.Question
import AccessControl.Settings

/-!
# The exchanged records

How the records of the library look as JSON documents.  A record is an object
with one member per field; only lists of authorizations, the scope of a
question and the settings of the database may be left out.
-/

namespace AccessControl

open Json

instance : Document ResourceType where
  schema := .choice (ResourceType.all.map ResourceType.code)
  encode type := .text type.code
  decode
    | .text word => ResourceType.ofCode? word
    | _ => none

instance : Document Authorization where
  schema := .word fun id => (Authorization.ofId id).toBool
  encode authorization := .text authorization.id
  decode
    | .text id => (Authorization.ofId id).toOption
    | _ => none

instance : Document ResourceRef where
  schema := .record <|
    .required "resource_type" ResourceType <| .required "id" Int64 <| .none
  encode target :=
    .object [("resource_type", Document.encode target.type),
      ("id", Document.encode target.id)]
  decode
    | .object [(_, type), (_, id)] => do
        pure ⟨← Document.decode type, ← Document.decode id⟩
    | _ => none

instance : Document Entitlement where
  schema := .record <|
    .required "id" String <| .required "name" String <| .none
  encode entitlement :=
    .object [("id", Document.encode entitlement.id),
      ("name", Document.encode entitlement.name)]
  decode
    | .object [(_, id), (_, name)] => do
        pure ⟨← Document.decode id, ← Document.decode name⟩
    | _ => none

instance : Document Permission where
  schema := .record <|
    .required "id" Int64 <| .required "name" String <|
    .defaulted "authorizations" ([] : List Entitlement) <| .none
  encode permission :=
    .object [("id", Document.encode permission.id),
      ("name", Document.encode permission.name),
      ("authorizations", Document.encode permission.entitlements)]
  decode
    | .object [(_, id), (_, name), (_, entitlements)] => do
        pure ⟨← Document.decode id, ← Document.decode name,
          ← Document.decode entitlements⟩
    | _ => none

instance : Document Resource where
  schema := .record <|
    .required "id" Int64 <| .required "type_name" String <| .none
  encode resource :=
    .object [("id", Document.encode resource.id),
      ("type_name", Document.encode resource.typeName)]
  decode
    | .object [(_, id), (_, typeName)] => do
        pure ⟨← Document.decode id, ← Document.decode typeName⟩
    | _ => none

instance : Document Holder where
  schema := .record <|
    .required "id" Int64 <| .required "type_name" String <| .none
  encode holder :=
    .object [("id", Document.encode holder.id),
      ("type_name", Document.encode holder.typeName)]
  decode
    | .object [(_, id), (_, typeName)] => do
        pure ⟨← Document.decode id, ← Document.decode typeName⟩
    | _ => none

instance : Document Privilege where
  schema := .record <|
    .required "id" Int64 <| .required "principal" Holder <|
    .required "resource" Resource <| .required "permission" Permission <| .none
  encode privilege :=
    .object [("id", Document.encode privilege.id),
      ("principal", Document.encode privilege.holder),
      ("resource", Document.encode privilege.resource),
      ("permission", Document.encode privilege.permission)]
  decode
    | .object [(_, id), (_, holder), (_, resource), (_, permission)] => do
        pure ⟨← Document.decode id, ← Document.decode holder,
          ← Document.decode resource, ← Document.decode permission⟩
    | _ => none

instance : Document Caller where
  schema := .record <|
    .required "name" String <| .required "privileges" (List Privilege) <| .none
  encode caller :=
    .object [("name", Document.encode caller.name),
      ("privileges", Document.encode caller.privileges)]
  decode
    | .object [(_, name), (_, privileges)] => do
        pure ⟨← Document.decode name, ← Document.decode privileges⟩
    | _ => none

instance : Document Question where
  schema := .record <|
    .defaulted "resource_type" (none : Option String) <|
    .defaulted "resource_id" (none : Option Int64) <|
    .defaulted "authorizations" ([] : List String) <| .none
  encode question :=
    .object [("resource_type", Document.encode question.resourceType),
      ("resource_id", Document.encode question.resourceId),
      ("authorizations", Document.encode question.authorizations)]
  decode
    | .object [(_, type), (_, id), (_, authorizations)] => do
        pure ⟨← Document.decode type, ← Document.decode id,
          ← Document.decode authorizations⟩
    | _ => none

instance : Document DatabaseSettings where
  schema := .record <|
    .defaulted "env_key" ({} : DatabaseSettings).urlKey <|
    .field "max_connections"
      (.integer 0 DatabaseSettings.maxConnectionsBound)
      (some (.integer ({} : DatabaseSettings).maxConnections)) <|
    .none
  encode settings :=
    .object [("env_key", Document.encode settings.urlKey),
      ("max_connections", .integer settings.maxConnections)]
  decode
    | .object [(_, urlKey), (_, .integer maxConnections)] => do
        pure ⟨← Document.decode urlKey, maxConnections.toNat⟩
    | _ => none

end AccessControl
