import CloudSpeech.Toml.Value
/-!
# Tables in the making

A table is filled step by step: keys with dots lead through tables that they make on their way,
and headers open tables and arrays of tables.  What a step may add to depends on how a table came
about, so a table in the making remembers that.
-/

namespace CloudSpeech.Toml

/-- How a table came about. -/
inductive Origin where
  /-- A header names it. -/
  | header
  /-- A header names a table inside it. -/
  | within
  /-- A key with dots leads through it. -/
  | dotted
  deriving DecidableEq, Repr

/-- What stands under a key of a table in the making. -/
inductive Node where
  /-- A value, which nothing can be added to. -/
  | value (value : Value)
  | table (origin : Origin) (entries : List (String × Node))
  /-- An array of tables, each named by a header. -/
  | tables (elements : List (List (String × Node)))

/-- The entries of a table in the making, in the order of their keys. -/
abbrev Entries := List (String × Node)

mutual

def Node.toValue : Node → Value
  | .value value => value
  | .table _ entries => .table (entryValues entries)
  | .tables elements => .array (elementValues elements)

def entryValues : List (String × Node) → List (String × Value)
  | [] => []
  | (key, node) :: rest => (key, node.toValue) :: entryValues rest

def elementValues : List (List (String × Node)) → List Value
  | [] => []
  | entries :: rest => .table (entryValues entries) :: elementValues rest

end

namespace Entries

def find? (entries : Entries) (key : String) : Option Node := List.lookup key entries

/-- Puts a node under a key, in the place of the key if it is there and else at the end. -/
def set (entries : Entries) (key : String) (node : Node) : Entries :=
  match entries with
  | [] => [(key, node)]
  | (other, found) :: rest =>
      if other = key then (key, node) :: rest else (other, found) :: set rest key node

/-- Changes what stands under a key, if it may be changed. -/
def change? (entries : Entries) (key : String) (f : Option Node → Option Node) : Option Entries :=
  (f (find? entries key)).map (set entries key)

/-- Changes the last element of an array of tables. -/
def changeLast? (f : Entries → Option Entries) : List Entries → Option (List Entries)
  | [] => none
  | [entries] => (f entries).map ([·])
  | entries :: rest => (changeLast? f rest).map (entries :: ·)

/-- Puts a value under a path of keys.  The keys in front of the last lead through tables that no
header names, the last of them through one that keys with dots made; the last key is new. -/
def assign? (entries : Entries) (path : List String) (value : Value) : Option Entries :=
  match path with
  | [] => none
  | [key] =>
      change? entries key fun
        | none => some (.value value)
        | some _ => none
  | key :: next :: rest =>
      change? entries key fun
        | none => (assign? [] (next :: rest) value).map (.table .dotted)
        | some (.table origin inner) =>
            if origin = .header ∨ (rest = [] ∧ origin ≠ .dotted) then none
            else (assign? inner (next :: rest) value).map (.table origin)
        | some (.tables elements) =>
            if rest = [] then none
            else
              (changeLast? (fun inner => assign? inner (next :: rest) value) elements).map .tables
        | some (.value _) => none

/-- Changes what stands under a path of keys.  The keys in front of the last lead through tables
of any kind and into the last element of arrays of tables. -/
def open? (entries : Entries) (path : List String) (f : Option Node → Option Node) :
    Option Entries :=
  match path with
  | [] => none
  | [key] => change? entries key f
  | key :: next :: rest =>
      change? entries key fun
        | none => (open? [] (next :: rest) f).map (.table .within)
        | some (.table origin inner) => (open? inner (next :: rest) f).map (.table origin)
        | some (.tables elements) =>
            (changeLast? (fun inner => open? inner (next :: rest) f) elements).map .tables
        | some (.value _) => none

/-- Puts several values under their paths, one after the other. -/
def assignAll? (entries : Entries) (assignments : List (List String × Value)) : Option Entries :=
  assignments.foldlM (fun entries (path, value) => assign? entries path value) entries

end Entries

/-- The table that assignments between braces denote. -/
def Value.ofAssignments? (assignments : List (List String × Value)) : Option Value :=
  (Entries.assignAll? [] assignments).map fun entries => .table (entryValues entries)

end CloudSpeech.Toml
