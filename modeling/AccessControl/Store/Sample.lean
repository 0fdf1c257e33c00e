import AccessControl.Store.Migration

/-!
# A sample store

A small installation on top of the built-in catalog.

| user  | principal | privilege                                  |
|-------|-----------|--------------------------------------------|
| alice | 100       | CLUSTER.USER on the cluster `prod`         |
| bob   | 101       | VIEW.USER on the view that stands alone    |
| carol | 102       | CLUSTER.USER on `prod`, but not active     |
| admin | 103       | AMBARI.ADMINISTRATOR on the root           |

The view under resource 10 belongs to `prod` and lets CLUSTER.USER inherit;
the one under 12 belongs to `prod` and lets nothing inherit.
-/

namespace AccessControl.Store.Sample

/-- The rows of the sample, table by table. -/
def filling : List Statement :=
  [.insert .principal [⟨100, 1⟩, ⟨101, 1⟩, ⟨102, 1⟩, ⟨103, 1⟩],
    .insert .user
      [⟨1, "alice", 100, true⟩, ⟨2, "bob", 101, true⟩,
        ⟨3, "carol", 102, false⟩, ⟨4, "admin", 103, true⟩],
    .insert .resource [⟨2, 2⟩, ⟨10, 3⟩, ⟨11, 3⟩, ⟨12, 3⟩, ⟨13, 3⟩],
    .insert .cluster [⟨1, "prod", 2⟩],
    .insert .view
      [⟨1, "FILES\x7b1.0.0\x7d", "files", 10, some 1⟩,
        ⟨2, "HIVE\x7b2.0.0\x7d", "hive", 11, none⟩,
        ⟨3, "TEZ\x7b0.7.0\x7d", "tez", 12, some 1⟩],
    .insert .privilege
      [⟨1, 2, 2, 100⟩, ⟨2, 4, 10, 7⟩, ⟨3, 4, 11, 101⟩, ⟨4, 2, 2, 102⟩,
        ⟨5, 1, 1, 103⟩]]

/-- The tables of the sample. -/
def tables : Tables :=
  (Statement.runAll {} true (Catalog.filling ++ filling)).1

/-- The sample store. -/
def store : Store :=
  { contents := .created tables true }

/-- Run statements one after the other until one fails. -/
def executeAll (store : Store) : List Statement → Store × Except StoreFault Unit
  | [] => (store, .ok ())
  | statement :: later =>
      match store.execute statement with
      | .ok store => executeAll store later
      | .error fault => (store, .error fault)

/-- Add a view bound to a cluster that need not exist.  References are not
enforced meanwhile; a failure leaves them so. -/
def addUncheckedView (store : Store) (cluster : Int64) :
    Store × Except StoreFault Unit :=
  match store.enforce false with
  | .error fault => (store, .error fault)
  | .ok store =>
      match executeAll store
          [.insert .resource [⟨14, 3⟩],
            .insert .view
              [⟨4, "PIG\x7b0.1.0\x7d", "pig", 14, some cluster⟩]] with
      | (store, .ok ()) => ({ store with enforced := true }, .ok ())
      | (store, .error fault) => (store, .error fault)

end AccessControl.Store.Sample
