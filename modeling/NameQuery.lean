import NameQuery.Json.Reader
import NameQuery.Main
import NameQuery.Proofs.Name.Account
import NameQuery.Proofs.Name.Canonical
import NameQuery.Proofs.Name.Derivation
import NameQuery.Proofs.Query.Clauses
import NameQuery.Proofs.Sql.Placeholders
import NameQuery.Resolver
import NameQuery.Table.Store
import NameQuery.Proofs.Name.Fields
import NameQuery.Proofs.Sql.Recorded
import NameQuery.Proofs.Text.Words
import NameQuery.Proofs.Sql.Vocabulary
import NameQuery.Proofs.Table.Columns
import NameQuery.Proofs.Number.Whole
import NameQuery.Proofs.Backend.Sheet
import NameQuery.Proofs.Backend.Agreement
import NameQuery.Proofs.Name.Spelling
import NameQuery.Proofs.Result
import NameQuery.Proofs.Sql.Refusals
import NameQuery.Proofs.Backend.Bindings
import NameQuery.Proofs.Backend.Dispatch
import NameQuery.Proofs.Sql.Counts
import NameQuery.Proofs.Sql.Tokens
import NameQuery.Proofs.Sql.Outline
import NameQuery.Proofs.Sql.Reading
import NameQuery.Proofs.Sql.Pages
import NameQuery.Proofs.Backend.Paging
import NameQuery.Proofs.Name.Continuation
import NameQuery.Proofs.Name.Prior
import NameQuery.Proofs.Table.Runs
import NameQuery.Proofs.Backend.One
import NameQuery.Proofs.Table.Arrangement
import NameQuery.Proofs.Table.Finding
import NameQuery.Proofs.Table.Integers
import NameQuery.Proofs.Number.Rational
import NameQuery.Proofs.Table.Matching
import NameQuery.Proofs.Table.Tied
import NameQuery.Proofs.Backend.Permuted
import NameQuery.Proofs.Sql.Identifiers
import NameQuery.Proofs.Sql.Numbering
import NameQuery.Proofs.Sql.Pasted
import NameQuery.Proofs.Name.Endings
import NameQuery.Proofs.Query.Form
import NameQuery.Proofs.Number.Rounding
import NameQuery.Proofs.Number.Decimals
import NameQuery.Proofs.Query.Arguments
import NameQuery.Proofs.Table.Preorder
import NameQuery.Proofs.Text.Bytes
import NameQuery.Proofs.Console.Tables
import NameQuery.Proofs.Text.Trimmed
import NameQuery.Proofs.Console.Actions
import NameQuery.Proofs.Console.Lines
import NameQuery.Proofs.Console.Dialogue
import NameQuery.Proofs.Name.Turns
