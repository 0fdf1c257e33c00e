import AccessControl.Event
import AccessControl.Store.Catalog

/-!
# The store and its migrations

A store starts without tables.  Two migrations bring it up: the first creates
the tables, the second fills in the built-in catalog.  They are rolled back in
the opposite order.

A migration is not one statement.  What its statements did before one was
refused stays, and the migration stays applied or pending as it was.  Creating
and dropping the tables cannot be refused, because every table is created after
those it refers to and dropped before them.

It is a premise of all that follows that only the migrations create and drop
tables and that only they record themselves: the tables exist, all of them,
exactly while the first migration is recorded as applied.  The store is SQLite,
whose migrations run outside of any transaction.
-/

namespace AccessControl.Store

/-- A step in setting up the store. -/
inductive Migration where
  | tables
  | catalog
deriving DecidableEq, Repr

namespace Migration

/-- The migrations in the order in which they are applied. -/
def all : List Migration :=
  [.tables, .catalog]

/-- The name under which a migration is recorded. -/
def name : Migration → String
  | .tables => "m20240101_000001_privilege_store"
  | .catalog => "m20240102_000002_seed_catalog"

end Migration

/-- What a store holds.  There is no store with only some of the tables, with
tables but no record of the first migration or with the record but no tables. -/
inductive Contents where
  /-- No table exists. -/
  | blank
  /-- All tables exist; `filled` says whether the catalog migration is
  applied. -/
  | created (tables : Tables) (filled : Bool)
deriving DecidableEq, Repr

namespace Contents

/-- The applied migrations, in order. -/
def applied : Contents → List Migration
  | .blank => []
  | .created _ false => [.tables]
  | .created _ true => [.tables, .catalog]

/-- The migrations still to be applied, in order. -/
def pending : Contents → List Migration
  | .blank => [.tables, .catalog]
  | .created _ false => [.catalog]
  | .created _ true => []

/-- The tables that exist. -/
def existing : Contents → List Table
  | .blank => []
  | .created _ _ => Table.all

/-- Apply the next pending migration, if there is one. -/
def stepUp (enforced : Bool) : Contents → Contents × Except StoreFault Unit
  | .blank => (.created {} false, .ok ())
  | .created tables false =>
      match Statement.runAll tables enforced Catalog.filling with
      | (tables, .ok ()) => (.created tables true, .ok ())
      | (tables, .error fault) => (.created tables false, .error fault)
  | .created tables true => (.created tables true, .ok ())

/-- Roll back the latest applied migration, if there is one. -/
def stepDown (enforced : Bool) : Contents → Contents × Except StoreFault Unit
  | .blank => (.blank, .ok ())
  | .created _ false => (.blank, .ok ())
  | .created tables true =>
      match Statement.runAll tables enforced Catalog.clearing with
      | (tables, .ok ()) => (.created tables false, .ok ())
      | (tables, .error fault) => (.created tables true, .error fault)

/-- Repeat a step up to a number of times, or until it fails. -/
def repeatStep (step : Contents → Contents × Except StoreFault Unit) :
    Nat → Contents → Contents × Except StoreFault Unit
  | 0, contents => (contents, .ok ())
  | count + 1, contents =>
      match step contents with
      | (contents, .ok ()) => repeatStep step count contents
      | (contents, .error fault) => (contents, .error fault)

end Contents

end AccessControl.Store

namespace AccessControl

open Store

/-- A store with its connection. -/
structure Store where
  contents : Contents := .blank
  /-- Whether references are enforced on this connection. -/
  enforced : Bool := true
  isOpen : Bool := true
deriving DecidableEq, Repr

namespace Store

/-- Changes to a store that may fail, and leave something behind when they
do. -/
abbrev Change (α : Type) := Store → Store × Except StoreFault α

/-- The contents, while the connection is open. -/
def connected (store : Store) : Except StoreFault Contents :=
  if store.isOpen then .ok store.contents else .error .closed

/-- The tables, for an operation that starts with the given one. -/
def tables (store : Store) (first : Table) : Except StoreFault Tables := do
  match ← store.connected with
  | .blank => .error (.noSuchTable first)
  | .created tables _ => .ok tables

/-- The store with other contents in the tables that exist. -/
def withTables (store : Store) (tables : Tables) : Store :=
  match store.contents with
  | .blank => store
  | .created _ filled => { store with contents := .created tables filled }

/-- Run a statement. -/
def execute (store : Store) (statement : Statement) : Except StoreFault Store := do
  let tables ← store.tables statement.table
  let changed ← statement.run tables store.enforced
  pure (store.withTables changed)

/-- The store with a closed connection.  The contents live as long as a
connection to them is open, so nothing is left of them. -/
def close (store : Store) : Store :=
  { store with contents := .blank, isOpen := false }

/-- A new connection to the same contents, with references enforced. -/
def reconnect (store : Store) : Store :=
  { contents := store.contents }

/-- The store after the contents were changed over a connection that is gone
again.  The changes last only if the connection of the store is open. -/
def adopt (store : Store) (contents : Contents) : Store :=
  if store.isOpen then { store with contents } else store

/-- Turn the enforcement of references on or off.  Rows that are present are
not checked. -/
def enforce (store : Store) (enforced : Bool) : Except StoreFault Store := do
  let _ ← store.connected
  pure { store with enforced }

/-- The migrations still to be applied. -/
def pending (store : Store) : Except StoreFault (List Migration) :=
  store.connected.map Contents.pending

/-- Run a change of the contents that may stop halfway. -/
def migrateBy (change : Contents → Contents × Except StoreFault Unit) :
    Change Unit := fun store =>
  match store.connected with
  | .error fault => (store, .error fault)
  | .ok contents =>
      let (contents, result) := change contents
      ({ store with contents }, result)

/-- Apply pending migrations, at most a given number of them. -/
def up (steps : Option Nat) : Change Unit := fun store =>
  migrateBy
    (Contents.repeatStep (Contents.stepUp store.enforced)
      (steps.getD Migration.all.length)) store

/-- Roll back applied migrations, at most a given number of them. -/
def down (steps : Option Nat) : Change Unit := fun store =>
  migrateBy
    (Contents.repeatStep (Contents.stepDown store.enforced)
      (steps.getD Migration.all.length)) store

/-- Apply all pending migrations and log the success. -/
def migrateUp (store : Store) : Logged (Store × Except StoreFault Unit) :=
  match up none store with
  | (store, .ok ()) => do
      Logged.emit .migrationsApplied
      pure (store, .ok ())
  | failed => pure failed

/-- Roll back the latest migration and log the success. -/
def migrateDown (store : Store) : Logged (Store × Except StoreFault Unit) :=
  match down (some 1) store with
  | (store, .ok ()) => do
      Logged.emit .migrationRolledBack
      pure (store, .ok ())
  | failed => pure failed

/-- The store after all migrations. -/
def migrated : Store :=
  (up none {}).1

/-- Why a server must not start. -/
inductive StartFault where
  | pendingMigrations
  | store (fault : StoreFault)
deriving DecidableEq, Repr

/-- The sentence that reports why a server must not start. -/
def StartFault.message : StartFault → String
  | .pendingMigrations =>
      "pending migrations detected; run `authz-server migrate up` or pass --allow-dirty"
  | .store fault => fault.message

/-- Check that no migration is pending, unless that is allowed. -/
def ensureMigrated (store : Store) (allowPending : Bool) :
    Except StartFault Unit :=
  match store.pending with
  | .error fault => .error (.store fault)
  | .ok pending =>
      if pending.isEmpty || allowPending then
        .ok ()
      else
        .error .pendingMigrations

end Store

end AccessControl
