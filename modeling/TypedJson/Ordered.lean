/-!
# Ascending lists of names and tables keyed by names

Sets of names and tables keyed by names are lists in ascending order of the names' characters,
without repetitions, so that equal sets are equal lists and reading a table from the left gives
its entries in key order.
-/

namespace TypedJson.Ordered

/-- Add a name to an ascending list, once. -/
def insert (name : String) : List String → List String
  | [] => [name]
  | other :: rest =>
    if name < other then name :: other :: rest
    else if name = other then other :: rest
    else other :: insert name rest

/-- The ascending list of the given names. -/
def ofList (names : List String) : List String :=
  names.foldl (fun set name => insert name set) []

variable {α : Type}

/-- Bind a key in an ascending table, in place of an earlier value. -/
def insertEntry (key : String) (value : α) : List (String × α) → List (String × α)
  | [] => [(key, value)]
  | (other, old) :: rest =>
    if key < other then (key, value) :: (other, old) :: rest
    else if key = other then (key, value) :: rest
    else (other, old) :: insertEntry key value rest

/-- The value of a key. -/
def find? (key : String) : List (String × α) → Option α
  | [] => none
  | (other, value) :: rest => if key = other then some value else find? key rest

/-- The table without a key. -/
def erase (key : String) (table : List (String × α)) : List (String × α) :=
  table.filter fun entry => entry.1 ≠ key

/-- The table of the given entries; of two for one key, the last one counts. -/
def ofEntries (entries : List (String × α)) : List (String × α) :=
  entries.foldl (fun table entry => insertEntry entry.1 entry.2 table) []

end TypedJson.Ordered
