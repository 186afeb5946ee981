import NameQuery.Toml.Statement

/-!
# TOML documents

The table that the statements of a text make. A header moves to the table that it names, and the
values after it go there; before the first header they go into the document itself. A statement that
gives a key a second time, or that goes where it may not, makes no document.
-/

set_option autoImplicit false

namespace NameQuery.Toml

/-- A document that is being made: its entries, and the path to the table that values go to. -/
structure Draft where
  entries : Entries
  path : List String

namespace Draft

/-- A draft after one more statement. -/
def add? (d : Draft) : Statement → Option Draft
  | .table key => (d.entries.openTable key).map fun entries => ⟨entries, key.path ++ [key.name]⟩
  | .element key => (d.entries.openElement key).map fun entries => ⟨entries, key.path ++ [key.name]⟩
  | .value key item =>
    (Entries.alter .header (fun origin es => es.put key item origin) d.path .header d.entries).map
      fun entries => { d with entries := entries }

end Draft

def Entries.ofStatements? (statements : List Statement) : Option Entries :=
  (statements.foldlM Draft.add? ⟨[], []⟩).map Draft.entries

def Entries.ofText? (text : String) : Option Entries :=
  (Statement.ofText? text).bind Entries.ofStatements?

end NameQuery.Toml
