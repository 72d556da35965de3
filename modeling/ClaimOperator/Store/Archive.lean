import ClaimOperator.Store.Rows

/-! Rows as one document, for keeping them in a file. Reading takes back exactly what was written. -/

set_option autoImplicit false

namespace ClaimOperator

namespace Row

def document (row : Row) : Json :=
  .object
    [("kind", .string row.kind.text), ("namespace", .string row.key.space), ("name", .string row.key.name),
      ("version", .integer row.version), ("manifest", row.manifest)]

def ofDocument? (document : Json) : Option Row :=
  match document with
  | .object
      [("kind", .string kind), ("namespace", .string space), ("name", .string name),
        ("version", .integer (.ofNat version)), ("manifest", manifest)] =>
    (Kind.ofText? kind).map fun kind => ⟨kind, ⟨space, name⟩, version, manifest⟩
  | _ => none

theorem ofDocument?_document (row : Row) : ofDocument? row.document = some row := by
  obtain ⟨kind, key, version, manifest⟩ := row
  show (Kind.ofText? kind.text).map _ = _
  rw [show Kind.ofText? kind.text = some kind from Enumeration.ofText?_text kind]
  rfl

end Row

namespace Rows

def document (rows : Rows) : Json := .array (rows.map Row.document)

def ofDocument? : Json → Option Rows
  | .array items => items.mapM Row.ofDocument?
  | _ => none

theorem ofDocument?_document (rows : Rows) : ofDocument? rows.document = some rows := by
  show (rows.map Row.document).mapM Row.ofDocument? = some rows
  induction rows with
  | nil => rfl
  | cons row rest ih => simp [List.mapM_cons, Row.ofDocument?_document, ih]

end Rows

end ClaimOperator
