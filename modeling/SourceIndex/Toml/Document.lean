import SourceIndex.Toml.Item
import SourceIndex.Toml.Fault

set_option autoImplicit false

namespace SourceIndex.Toml

def itemAt? (name : String) (entries : Entries) : Option Item :=
  (entries.find? fun entry => entry.1.name == name).map (·.2)

/-- Puts an item in the place of the one with its name, or at the end. -/
def putItem (key : Key) (item : Item) : Entries → Entries
  | [] => [(key, item)]
  | (other, held) :: later =>
    if other.name == key.name then (other, item) :: later
    else (other, held) :: putItem key item later

structure Table where
  form : TableForm := {}
  entries : Entries := []
deriving Inhabited

namespace Table

def item (table : Table) : Item := .table table.form table.entries

/-- A change of a table that gives a result. -/
abbrev Change (α : Type) := Table → Except Cause (α × Table)

/-- Changes the table that is reached from this one by the keys. Tables that are missing on the
way are made. `dotted` says that the keys stand before an equals sign, where they may not enter a
table that has a header or braces of its own; `walked` are the keys before. -/
def alter {α : Type} (dotted inBraces : Bool) (change : Change α) (walked : List String) :
    List Key → Change α
  | [], table => change table
  | key :: path, table => do
    let walked := walked ++ [key.raw]
    let (result, child) ← match itemAt? key.name table.entries with
      | none => do
        let fresh : Table := { form := { inBraces, implicit := true, dotted } }
        let (result, child) ← alter dotted inBraces change walked path fresh
        pure (result, child.item)
      | some (.table form entries) =>
        if form.inBraces && !inBraces then throw (.extendsOther walked "inline table")
        else if dotted && !form.implicit then throw (.duplicateKey key.name none)
        else do
          let (result, child) ← alter dotted inBraces change walked path ⟨form, entries⟩
          pure (result, child.item)
      | some (.tables items) =>
        match items.getLast? with
        | some (.table form entries) => do
          let (result, child) ← alter dotted inBraces change walked path ⟨form, entries⟩
          pure (result, .tables (items.dropLast ++ [child.item]))
        | _ => throw (.extendsOther walked "array of tables")
      | some other => throw (.extendsOther walked other.kind)
    return (result, { table with entries := putItem key child table.entries })

/-- Puts a value under its key into the table that the other keys lead to. `home` is how the table
is named if it has the key already. -/
def define (inBraces : Bool) (home : Option (List String)) (path : List Key) (key : Key)
    (value : Item) (table : Table) : Except Cause Table := do
  let change (table : Table) : Except Cause (Unit × Table) :=
    if table.form.dotted == path.isEmpty then .error (.duplicateKey key.name none)
    else if (itemAt? key.name table.entries).isSome then .error (.duplicateKey key.name home)
    else .ok ((), { table with entries := table.entries ++ [(key, value)] })
  return (← alter true inBraces change [] path table).2

end Table

/-- A document being read: the tables that are closed, and the one whose header came last. -/
structure Document where
  root : Table := {}
  current : Table := {}
  /-- The keys of the last header; none before the first. -/
  path : List Key := []
  /-- Whether the last header had double brackets. -/
  repeated : Bool := false
deriving Inhabited

namespace Document

def widen (form : TableForm) (value : Item) : TableForm :=
  match form.span, value.span? with
  | some span, some inner => { form with span := some ⟨span.first, inner.last⟩ }
  | _, _ => form

def define (document : Document) (path : List Key) (key : Key) (value : Item) :
    Except Cause Document := do
  let current := { document.current with form := widen document.current.form value }
  let home := document.path.map (·.raw)
  return { document with current := ← current.define false (some home) path key value }

def duplicate (path : List Key) (key : Key) : Cause :=
  .duplicateKey key.raw (some (path.map (·.raw)))

/-- Closes the current table: it is put where its header says. -/
def close (document : Document) : Except Cause Table :=
  match document.path.getLast? with
  | none => .ok document.current
  | some key => do
    let outer := document.path.dropLast
    let held := document.current.item
    let change (parent : Table) : Except Cause (Unit × Table) :=
      let put (item : Item) : Except Cause (Unit × Table) :=
        .ok ((), { parent with entries := putItem key item parent.entries })
      match itemAt? key.name parent.entries, document.repeated with
      | none, repeated => put (if repeated then .tables [held] else held)
      | some (.tables items), true => put (.tables (items ++ [held]))
      | some (.table form _), false =>
        if form.implicit then put held else .error (duplicate outer key)
      | some _, _ => .error (duplicate outer key)
    return (← Table.alter false false change [] outer document.root).2

/-- A header in single brackets. A table that was only part of longer names is taken up. -/
def openTable (document : Document) (path : List Key) (key : Key) (span : Span) :
    Except Cause Document := do
  let change (parent : Table) : Except Cause (Entries × Table) :=
    match itemAt? key.name parent.entries with
    | none => .ok ([], parent)
    | some (.table form entries) =>
      if form.implicit && !form.dotted && !form.inBraces then
        let others := parent.entries.filter fun entry => entry.1.name != key.name
        .ok (entries, { parent with entries := others })
      else .error (duplicate path key)
    | some _ => .error (duplicate path key)
  let (entries, root) ← Table.alter false false change [] path (← document.close)
  return {
    root
    current := { form := { span := some span }, entries }
    path := path ++ [key] }

def openRepeated (document : Document) (path : List Key) (key : Key) (span : Span) :
    Except Cause Document := do
  let change (parent : Table) : Except Cause (Unit × Table) :=
    match itemAt? key.name parent.entries with
    | none => .ok ((), { parent with entries := parent.entries ++ [(key, .tables [])] })
    | some (.tables _) => .ok ((), parent)
    | some _ => .error (duplicate path key)
  let ((), root) ← Table.alter false false change [] path (← document.close)
  return {
    root
    current := { form := { span := some span } }
    path := path ++ [key]
    repeated := true }

end Document

end SourceIndex.Toml
