import SearchQuery.Toml.Statement

/-!
# TOML documents

A document is well formed if its text falls into tokens, its tokens into statements, and every
statement can be carried out on the table that the ones before it made.
-/

namespace SearchQuery.Toml

/-- A document that is being built: its table and the header whose table is open. -/
structure Document where
  entries : Entries
  opened : List String

namespace Document

/-- The document without a line. -/
def empty : Document :=
  ⟨[], []⟩

/-- Carries out one statement. -/
def perform (document : Document) : Statement → Option Document
  | .table path key =>
    (document.entries.alter (Entries.openTable key) path).map (⟨·, path ++ [key]⟩)
  | .arrayTable path key =>
    (document.entries.alter (Entries.openElement key) path).map (⟨·, path ++ [key]⟩)
  | .assign path key value =>
    (document.entries.alter (·.assign path key value) document.opened).map
      (⟨·, document.opened⟩)

end Document

/-- The table that a text writes, if it is a well-formed document. -/
def read? (text : String) : Option Entries := do
  let tokens ← tokens? text
  let statements ← statements? [] tokens
  let document ← statements.foldlM Document.perform Document.empty
  return document.entries

end SearchQuery.Toml
