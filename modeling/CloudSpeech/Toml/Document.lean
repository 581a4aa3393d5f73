import CloudSpeech.Toml.Expression
/-!
# TOML documents

A document is a sequence of lines that assign values or open tables.  Its assignments are grouped
into sections, each under the header in front of it, and the sections are added one by one to the
root table.
-/

namespace CloudSpeech.Toml

inductive Header where
  | table (path : List String)
  /-- A further element of an array of tables. -/
  | element (path : List String)
  deriving DecidableEq, Repr

inductive Statement where
  | assign (path : List String) (value : Value)
  | header (header : Header)

/-- What stands between brackets at the start of a line; the opening bracket has been read. -/
def readHeader : List Char → Option (Header × List Char)
  | '[' :: rest =>
      match readPath rest with
      | some (path, ']' :: ']' :: rest) => some (.element path, rest)
      | _ => none
  | chars =>
      match readPath chars with
      | some (path, ']' :: rest) => some (.table path, rest)
      | _ => none

/-- What a line says that is not empty. -/
def readStatement (chars : List Char) : Option (Statement × List Char) :=
  match chars with
  | '[' :: rest => (readHeader rest).map fun (header, rest) => (.header header, rest)
  | chars =>
      (readAssignment (readValue maxDepth) chars).map fun ((path, value), rest) =>
        (.assign path value, rest)

/-- A line, which may say nothing, and the lines that follow. -/
def readLine (chars : List Char) : Option (Option Statement × List Char) :=
  match afterLine? chars with
  | some rest => some (none, rest)
  | none =>
      match readStatement (skipSpace chars) with
      | none => none
      | some (statement, rest) => (afterLine? rest).map fun rest => (some statement, rest)

def readLines (chars : List Char) : Option (List Statement) :=
  if chars = [] then some []
  else
    match readLine chars with
    | none => none
    | some (statement?, rest) =>
        if rest.length < chars.length then
          (readLines rest).map fun statements => statement?.toList ++ statements
        else none
termination_by chars.length

/-- A part of a document: assignments, and the header in front of them. -/
structure Section where
  header : Header
  assignments : List (List String × Value) := []

/-- The assignments in front of the first header, and the sections. -/
def sections : List Statement → List (List String × Value) × List Section
  | [] => ([], [])
  | .assign path value :: rest =>
      let (assignments, sections) := sections rest
      ((path, value) :: assignments, sections)
  | .header header :: rest =>
      let (assignments, sections) := sections rest
      ([], ⟨header, assignments⟩ :: sections)

/-- Adds a section to the root table.  A table may be named by one header only, after which
nothing but headers of tables inside it may lead through it. -/
def addSection? (root : Entries) (part : Section) : Option Entries :=
  match part.header with
  | .table path =>
      root.open? path fun
        | none => (Entries.assignAll? [] part.assignments).map (.table .header)
        | some (.table .within entries) =>
            (Entries.assignAll? entries part.assignments).map (.table .header)
        | some _ => none
  | .element path =>
      root.open? path fun
        | none => (Entries.assignAll? [] part.assignments).map fun entries => .tables [entries]
        | some (.tables elements) =>
            (Entries.assignAll? [] part.assignments).map fun entries =>
              .tables (elements ++ [entries])
        | some _ => none

def rootOf? (statements : List Statement) : Option Entries := do
  let (assignments, parts) := sections statements
  let root ← Entries.assignAll? [] assignments
  parts.foldlM addSection? root

/-- What follows the mark that may stand at the very start of a text. -/
def skipMark : List Char → List Char
  | '\ufeff' :: rest => rest
  | chars => chars

/-- The entries of the table that a text denotes, if it is TOML. -/
def read? (text : String) : Option (List (String × Value)) := do
  let statements ← readLines (skipMark text.toList)
  let root ← rootOf? statements
  pure (entryValues root)

end CloudSpeech.Toml
