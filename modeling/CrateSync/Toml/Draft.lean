/-
# A document in the making

The tables read so far, together with what may still be done to them.  A table with a header of its
own is *declared* and gets no second header; an array or inline table is *closed* and nothing may be
added at or below its key.  A table that a dotted key led through is declared too, but only from the
next header on.
-/
import CrateSync.Toml.Error

namespace CrateSync.Toml

/-! ## Changing a table behind a key -/

/-- What may go wrong, or the changed table. -/
abbrev Change := Except Cause Table

/-- Changes the table behind a key.  Tables on the way are made if they are missing; with
`throughArrays` the way leads through an array into its last table. -/
def Table.change (throughArrays : Bool) (f : Table → Change) : Key → Table → Change
  | [], t => f t
  | name :: key, t =>
    match t.get? name with
    | none => (change throughArrays f key []).map fun inner => t.put name (.table inner)
    | some (.table inner) =>
      (change throughArrays f key inner).map fun inner => t.put name (.table inner)
    | some (.array items) =>
      match throughArrays, items.getLast? with
      | true, some (.table inner) =>
        (change throughArrays f key inner).map fun inner =>
          t.put name (.array (items.dropLast ++ [.table inner]))
      | _, _ => .error .overwritesValue
    | some _ => .error .overwritesValue

/-- Adds an entry under a name that the table must not hold yet. -/
def Table.add (name : Text) (value : Value) (taken : Cause) (t : Table) : Change :=
  if (t.get? name).isSome then .error taken else .ok (t.put name value)

/-- Adds an empty table at the end of the array under a name, which is made if it is missing. -/
def Table.extend (name : Text) (t : Table) : Change :=
  match t.get? name with
  | none => .ok (t.put name (.array [.table []]))
  | some (.array items) => .ok (t.put name (.array (items ++ [.table []])))
  | some _ => .error .overwritesValue

/-! ## Sets of keys -/

/-- Whether a key lies at or below one of the closed keys. -/
def isClosed (closed : List Key) (key : Key) : Bool :=
  closed.any fun path => path.isPrefixOf key

/-- The keys of a set that do not lie at or below a key. -/
def keysOutside (key : Key) (keys : List Key) : List Key :=
  keys.filter fun path => !key.isPrefixOf path

/-- The beginnings of a key from one part up to all but the last, shortest first. -/
def properBeginnings : Key → List Key
  | [] => []
  | [_] => []
  | name :: next :: key => [name] :: (properBeginnings (next :: key)).map (name :: ·)

/-! ## The document -/

/-- A document while its statements are read. -/
structure Draft where
  /-- What has been read so far. -/
  root : Table
  /-- The keys that may not get a header any more. -/
  declared : List Key
  /-- The keys at and below which nothing may be added. -/
  closed : List Key
  /-- The keys that become declared at the next header. -/
  pending : List Key
  /-- The key of the header that entries now belong to. -/
  header : Key
  deriving Repr

namespace Draft

/-- A document of which nothing has been read. -/
def empty : Draft :=
  ⟨[], [], [], [], []⟩

/-- Declares the keys that were waiting for the next header. -/
def settle (d : Draft) : Draft :=
  { d with declared := d.declared ++ d.pending, pending := [] }

/-- Enters a table by its header. -/
def openTable (key : Key) (d : Draft) : Except Cause Draft :=
  if d.declared.contains key || isClosed d.closed key then .error (.declaredTwice key)
  else do
    let root ← d.root.change true .ok key
    return { d with root, declared := key :: d.declared, header := key }

/-- Enters a new table at the end of an array of tables by its header. -/
def extendArray (key : Key) (d : Draft) : Except Cause Draft :=
  if isClosed d.closed key then .error (.closedNamespace key)
  else do
    let root ← d.root.change true (Table.extend (key.getLastD [])) key.dropLast
    return { d with
      root
      declared := key :: keysOutside key d.declared
      closed := keysOutside key d.closed
      header := key }

/-- Enters a value under a key of the current table. -/
def assign (key : Key) (value : Value) (d : Draft) : Except Cause Draft :=
  let passed := (properBeginnings key).map (d.header ++ ·)
  let parent := d.header ++ key.dropLast
  match passed.find? d.declared.contains with
  | some path => .error (.redefinesNamespace path)
  | none =>
    if isClosed d.closed parent then .error (.closedNamespace parent)
    else do
      let root ← d.root.change true (Table.add (key.getLastD []) value .overwritesValue) parent
      return { d with
        root
        pending := d.pending ++ passed
        closed := if value.isContainer then (d.header ++ key) :: d.closed else d.closed }

end Draft

/-! ## Inline tables -/

/-- Adds an entry to an inline table; `closed` holds the keys of its entries that are containers
themselves. -/
def assignInline (key : Key) (value : Value) (closed : List Key) (t : Table) : Change :=
  if isClosed closed key then .error (.closedNamespace key)
  else
    let name := key.getLastD []
    t.change false (Table.add name value (.duplicateName name)) key.dropLast

end CrateSync.Toml
