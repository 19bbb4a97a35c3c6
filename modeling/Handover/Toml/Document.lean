/-
**Documents of settings.**

The statements of a file build a tree of tables.  A table that is only passed on the way to another
one is there by implication, and may still be opened once.  A key that has a value does not get
another one, except that a list may be replaced.  In a list of tables the last one is meant.

Main definitions:

* `Handover.Toml.Datum` — a value in the tree;
* `Handover.Toml.Document` — the tree, and the keys in the order in which they were written;
* `Handover.Toml.Document.ofBytes?` — the document of a file;
* `Handover.Toml.Path.spelling` — how messages spell a key.
-/

import Handover.Text.Hex
import Handover.Toml.Statement

set_option autoImplicit false

namespace Handover.Toml

/-! ### Trees -/

/-- A value in the tree.  What a list holds is not looked at. -/
inductive Datum where
  | text (s : String)
  | whole (n : Int)
  | other
  | array
  | table (entries : List (String × Datum))
  | tables (elements : List (List (String × Datum)))

/-- The entries of a table. -/
abbrev Entries := List (String × Datum)

namespace Entries

/-- Gives a key a value. -/
def put (t : Entries) (key : String) (d : Datum) : Entries :=
  if (t.lookup key).isSome then t.map fun (k, x) => if k = key then (k, d) else (k, x)
  else t ++ [(key, d)]

/-- Gives the key at the end of a path a value.  What stands on the way must be a table. -/
def putAt? (t : Entries) (key : String) (d : Datum) : Path → Option Entries
  | [] => some (t.put key d)
  | k :: ks =>
    match t.lookup k with
    | none => do return t.put k (.table (← putAt? [] key d ks))
    | some (.table u) => do return t.put k (.table (← putAt? u key d ks))
    | some _ => none

/-- The table that a path leads to. -/
def at? (t : Entries) : Path → Option Entries
  | [] => some t
  | k :: ks =>
    match t.lookup k with
    | some (.table u) => at? u ks
    | some (.tables us) => us.getLast?.bind fun u => at? u ks
    | _ => none

/-- Changes the table that a path leads to. -/
def alter (f : Entries → Entries) (t : Entries) : Path → Option Entries
  | [] => some (f t)
  | k :: ks =>
    match t.lookup k with
    | some (.table u) => do return t.put k (.table (← alter f u ks))
    | some (.tables us) => do
      return t.put k (.tables (us.dropLast ++ [← alter f (← us.getLast?) ks]))
    | _ => none

end Entries

/-! ### Building -/

/-- A document under construction. -/
structure Builder where
  root : Entries := []
  /-- The tables that are there by implication. -/
  implied : List Path := []
  /-- The keys whose latest value is a list. -/
  lists : List Path := []
  /-- The keys in the order in which they were written. -/
  keys : List Path := []
  /-- The table that is open. -/
  context : Path := []

/-- A step of building, which fails if the statements contradict each other. -/
abbrev Build := StateT Builder Option

namespace Build

/-- Marks a table as being there by implication, or not. -/
def setImplied (path : Path) (isImplied : Bool) : Build Unit :=
  modify fun b =>
    let others := b.implied.filter (· ≠ path)
    { b with implied := if isImplied then path :: others else others }

/-- Records whether the value of a key is a list.  An empty key stands for the table itself. -/
def setList (key : String) (isList : Bool) : Build Unit :=
  modify fun b =>
    let path := if key = "" then (if b.context.isEmpty then [""] else b.context)
      else b.context ++ [key]
    let others := b.lists.filter (· ≠ path)
    { b with lists := if isList then path :: others else others }

/-- Puts a value at a place. -/
def put (path : Path) (key : String) (d : Datum) : Build Unit := do
  let b ← get
  set { b with root := ← b.root.alter (·.put key d) path }

/-- Gives a key of the open table a value. -/
def setValue (key : String) (d : Datum) : Build Unit := do
  let b ← get
  let here ← b.root.at? b.context
  let path := b.context ++ [key]
  if (here.lookup key).isNone then put b.context key d
  else if path ∈ b.lists then
    setImplied path false
    put b.context key d
  else if path ∈ b.implied then setImplied path false
  else failure

/-- Makes sure that the tables on the way from `done` are there. -/
def pass (done : Path) : Path → Build Unit
  | [] => return
  | k :: ks => do
    let here ← (← get).root.at? done
    if (here.lookup k).isNone then
      setImplied (done ++ [k]) true
      put done k (.table [])
    let _ ← (← get).root.at? (done ++ [k])
    pass (done ++ [k]) ks

/-- Opens the table at a path; `isElement` adds an element to a list of tables. -/
def openTable (path : Path) (isElement : Bool) : Build Unit := do
  let last ← path.getLast?
  let parents := path.dropLast
  pass [] parents
  modify fun b => { b with context := parents }
  if isElement then
    let here ← (← get).root.at? parents
    match here.lookup last with
    | none => put parents last (.tables [[]])
    | some (.tables us) => put parents last (.tables (us ++ [[]]))
    | some _ => failure
  else setValue last (.table [])
  modify fun b => { b with context := path }

/-- Opens the tables that the parts of a dotted key but the last name. -/
def openParts : Path → Build Unit
  | [] => return
  | k :: ks => do
    let path := (← get).context ++ [k]
    setImplied path true
    openTable path false
    openParts ks

/-- Writes down a key of the open table. -/
def noteKey (key : String) : Build Unit :=
  modify fun b => { b with keys := b.keys ++ [b.context ++ [key]] }

/-- Whether a value is a list. -/
def isList : Literal → Bool
  | .array _ => true
  | _ => false

mutual

/-- The value of a key of the open table; `isItem` if it stands in a list. -/
def value (key : String) (isItem : Bool) : Literal → Build Datum
  | .text s => return .text s
  | .whole n => return .whole n
  | .other => return .other
  | .array items => do
    setList key true
    values key items
    return .array
  | .inline pairs => do
    let outer := (← get).context
    let here := outer ++ [key]
    setImplied here true
    openTable here isItem
    let entries ← assignAll here [] pairs
    modify fun b => { b with context := outer }
    return .table entries

/-- Goes through the values of a list. -/
def values (key : String) : List Literal → Build Unit
  | [] => return
  | x :: xs => do
    let _ ← value key true x
    values key xs

/-- Gives the keys of a table on one line their values; `entries` are those that it has already. -/
def assignAll (here : Path) (entries : Entries) : List (Path × Literal) → Build Entries
  | [] => return entries
  | (path, x) :: rest => do
    let key ← path.getLast?
    openParts path.dropLast
    noteKey key
    let d ← value key false x
    setValue key d
    setList key (isList x)
    modify fun b => { b with context := here }
    assignAll here (← entries.putAt? key d path.dropLast) rest

end

/-- Performs a statement. -/
def perform : Statement → Build Unit
  | .table path => do
    openTable path false
    setList "" false
    modify fun b => { b with keys := b.keys ++ [path] }
  | .element path => do
    openTable path true
    setList "" false
    modify fun b => { b with keys := b.keys ++ [path] }
  | .assign path x => do
    let outer := (← get).context
    let _ ← assignAll outer [] [(path, x)]

end Build

/-! ### Documents -/

/-- What a file of settings says. -/
structure Document where
  root : Entries
  /-- The keys and the opened tables, in the order in which they were written. -/
  keys : List Path

/-- The document of a file. -/
def Document.ofBytes? (bytes : Bytes) : Option Document := do
  let statements ← statements? bytes
  let ((), b) ← (statements.forM Build.perform).run {}
  return { root := b.root, keys := b.keys }

/-! ### Spelling of keys -/

/-- How a character stands between quotes. -/
def escapeChar (c : Char) : String :=
  match c with
  | '"' => "\\\""
  | '\\' => "\\\\"
  | '\x08' => "\\b"
  | '\t' => "\\t"
  | '\n' => "\\n"
  | '\x0c' => "\\f"
  | '\r' => "\\r"
  | _ => if c.toNat < 0x20 ∨ c.toNat = 0x7f then "\\u" ++ Text.hexPadded 4 c.toNat else c.toString

/-- The spelling of one part of a key: it is quoted if it is empty or not bare. -/
def spellPart (part : String) : String :=
  if part ≠ "" ∧ part.toList.all isBare then part
  else "\"" ++ String.join (part.toList.map escapeChar) ++ "\""

/-- The spelling of a key. -/
def Path.spelling (path : Path) : String := ".".intercalate (path.map spellPart)

end Handover.Toml
