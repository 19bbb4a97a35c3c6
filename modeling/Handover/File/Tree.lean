/-
**Files.**

A tree of directories and files, seen from a working directory.  A path is read component by
component: an empty component and a dot stay, two dots go up, and every component that is passed
must be a directory.  The root, the working directory and those above it are always there.  Names
and paths have a greatest length in bytes, and no path has a zero byte.

Main definitions:

* `Handover.File.Problem` — why an operation on a file failed;
* `Handover.File.Tree` — directories and files;
* `Tree.read`, `Tree.write`, `Tree.makeDirs` — the operations;
* `Handover.File.join` — the tidy path of a name in a directory.
-/

import Handover.Text.Utf8

set_option autoImplicit false

namespace Handover.File

/-! ### Problems -/

/-- What the system says about a path. -/
inductive Cause where
  | notFound
  | notDirectory
  | isDirectory
  | taken
  | tooLong
  | invalid
deriving DecidableEq, Repr

/-- The wording of a cause. -/
def Cause.message : Cause → String
  | notFound => "no such file or directory"
  | notDirectory => "not a directory"
  | isDirectory => "is a directory"
  | taken => "file exists"
  | tooLong => "file name too long"
  | invalid => "invalid argument"

/-- A failed operation on a path. -/
structure Problem where
  operation : String
  path : String
  cause : Cause
deriving DecidableEq, Repr

/-- The wording of a problem. -/
def Problem.message (p : Problem) : String :=
  p.operation ++ " " ++ p.path ++ ": " ++ p.cause.message

/-! ### Paths -/

/-- A place in the tree: the names on the way from the working directory, or from the root if the
first name is a slash.  Two dots stand only at the beginning, for the directories above. -/
abbrev Place := List String

/-- The most bytes that a name may have. -/
def nameLimit : Nat := 255

/-- The least number of bytes that is too many for a path. -/
def pathLimit : Nat := 4096

/-- What is wrong with a path before it is looked up. -/
def flaw? (path : String) : Option Cause :=
  if path.toList.contains '\x00' then some .invalid
  else if path = "" then some .notFound
  else if pathLimit ≤ path.utf8ByteSize then some .tooLong
  else none

/-- Whether a place is the working directory or one above it. -/
def Place.isAbove (p : Place) : Bool := p.all (· = "..")

/-- Whether a directory stands at a place in every tree. -/
def Place.isGiven (p : Place) : Bool := p.isAbove || p = ["/"]

/-- The path of a place. -/
def Place.path : Place → String
  | "/" :: names => "/" ++ "/".intercalate names
  | [] => "."
  | names => "/".intercalate names

/-- The components of a path.  A leading slash is a component of its own. -/
def components (path : String) : List String :=
  match path.splitOn "/" with
  | "" :: c :: cs => "/" :: c :: cs
  | cs => cs

/-- The place that is reached from a directory by one component. -/
def Place.follow (p : Place) (component : String) : Place :=
  if component = "" ∨ component = "." then p
  else if component = ".." then
    if p.isAbove then p ++ [".."] else if p.isGiven then p else p.dropLast
  else p ++ [component]

/-- Adds a component to a path in which nothing but leading steps upwards is left to resolve. -/
def tidyStep (isRooted : Bool) (done : List String) (component : String) : List String :=
  if component = "" ∨ component = "." then done
  else if component = ".." then
    match done.getLast? with
    | none => if isRooted then done else [".."]
    | some ".." => done ++ [".."]
    | some _ => done.dropLast
  else done ++ [component]

/-- The shortest spelling of a path that follows from the text alone. -/
def tidy (path : String) : String :=
  let isRooted := path.startsWith "/"
  let parts := (path.splitOn "/").foldl (tidyStep isRooted) []
  if isRooted then "/" ++ "/".intercalate parts
  else if parts.isEmpty then "." else "/".intercalate parts

/-- The tidy path of a name in a directory. -/
def join (dir name : String) : String := tidy (if dir = "" then name else dir ++ "/" ++ name)

/-! ### Trees -/

/-- What stands at a place. -/
inductive Node where
  | directory
  | file (content : Bytes)
deriving DecidableEq, Repr

/-- The directories and files that are known, earliest first.  The directories that stand in every
tree are not listed. -/
structure Tree where
  nodes : List (Place × Node) := []
deriving DecidableEq, Repr

namespace Tree

/-- What stands at a place. -/
def node? (t : Tree) (p : Place) : Option Node :=
  if p.isGiven then some .directory else t.nodes.lookup p

/-- Puts a node at a place. -/
def set (t : Tree) (p : Place) (n : Node) : Tree :=
  if (t.nodes.lookup p).isSome then
    { nodes := t.nodes.map fun (q, m) => if q = p then (q, n) else (q, m) }
  else { nodes := t.nodes ++ [(p, n)] }

/-- Puts a node at a place, and directories on the way to it where nothing stands yet. -/
def put (t : Tree) (p : Place) (n : Node) : Tree :=
  let parents := (List.range p.length).map p.take
  (parents.foldl (fun t q => if (t.node? q).isSome then t else t.set q .directory) t).set p n

/-- Accepts a place where a directory stands. -/
def directory (t : Tree) (p : Place) : Except Cause Unit :=
  match t.node? p with
  | none => .error .notFound
  | some (.file _) => .error .notDirectory
  | some .directory => .ok ()

/-- The place that components lead to.  Every place that is left must be a directory. -/
def walk (t : Tree) : Place → List String → Except Cause Place
  | p, [] => .ok p
  | p, c :: cs => do
    t.directory p
    if nameLimit < c.utf8ByteSize then .error .tooLong else t.walk (p.follow c) cs

/-- The place that a path leads to. -/
def find (t : Tree) (path : String) : Except Cause Place :=
  match flaw? path with
  | some e => .error e
  | none => t.walk [] (components path)

/-- What stands at the end of a path. -/
def look (t : Tree) (path : String) : Except Cause Node := do
  match t.node? (← t.find path) with
  | some n => .ok n
  | none => .error .notFound

/-- The places that a path passes and reaches, nearest first, whatever stands there. -/
def places (path : String) : List Place :=
  ((components path).foldl (fun (p, seen) c =>
    let next := p.follow c
    (next, if next.isGiven then seen else seen ++ [next])) (([], []) : Place × List Place)).2

/-- What stands in a tree and not in an earlier one, in the order in which it was made. -/
def since (t before : Tree) : List (Place × Node) :=
  t.nodes.filter fun (p, n) => before.node? p ≠ some n

/-! ### Operations -/

/-- The content of a file. -/
def read (t : Tree) (path : String) : Except Problem Bytes :=
  match t.look path with
  | .error e => .error ⟨"open", path, e⟩
  | .ok .directory => .error ⟨"read", path, .isDirectory⟩
  | .ok (.file content) => .ok content

/-- The place of a file that may be made.  A path that ends in a slash names a directory, whatever
stands there. -/
def fileAt (t : Tree) (path : String) : Except Cause Place := do
  if path.endsWith "/" then
    match flaw? path with
    | some e => throw e
    | none =>
      t.directory (← t.walk [] (components (path.dropEndWhile '/').toString).dropLast)
      throw .isDirectory
  else
    let p ← t.find path
    if t.node? p = some .directory then throw .isDirectory else return p

/-- Puts content into a file, which is made if it is not there. -/
def write (t : Tree) (path : String) (content : Bytes) : Except Problem Tree :=
  match t.fileAt path with
  | .error e => .error ⟨"open", path, e⟩
  | .ok p => .ok (t.set p (.file content))

/-- Makes one directory. -/
def makeDir (t : Tree) (path : String) : Except Cause Tree := do
  if let some e := flaw? path then throw e
  let p ← t.find (path.dropEndWhile '/').toString
  if (t.node? p).isSome then .error .taken else .ok (t.set p .directory)

/-- The path of the directory that a path lies in, if it names one. -/
def parent? (path : List Char) : Option (List Char) :=
  let rest := (path.reverse.dropWhile (· = '/')).dropWhile (· ≠ '/')
  if rest.length ≤ 1 then none else some rest.tail.reverse

theorem parent?_length {path dir : List Char} (h : parent? path = some dir) :
    dir.length < path.length := by
  have h₁ := (List.dropWhile_sublist (l := path.reverse) (· = '/')).length_le
  have h₂ := (List.dropWhile_sublist (l := path.reverse.dropWhile (· = '/')) (· ≠ '/')).length_le
  simp only [parent?] at h
  split at h
  · simp at h
  · simp only [Option.some.injEq] at h
    subst h
    simp at *
    omega

/-- Makes a directory and those on the way to it, where they are not there yet.  Those that were
made stay, also if a later one cannot be. -/
def makeDirsFor (t : Tree) (chars : List Char) : Tree × Option Problem :=
  let path := String.ofList chars
  match t.look path with
  | .ok .directory => (t, none)
  | .ok (.file _) => (t, some ⟨"mkdir", path, .notDirectory⟩)
  | .error _ =>
    let (t, problem) := match _h : parent? chars with
      | some dir => makeDirsFor t dir
      | none => (t, none)
    if problem.isSome then (t, problem)
    else match t.makeDir path, t.look path with
      | .ok t, _ => (t, none)
      | .error _, .ok .directory => (t, none)
      | .error e, _ => (t, some ⟨"mkdir", path, e⟩)
termination_by chars.length
decreasing_by exact parent?_length _h

/-- Makes a directory and those on the way to it, where they are not there yet. -/
def makeDirs (t : Tree) (path : String) : Tree × Option Problem := t.makeDirsFor path.toList

end Tree

end Handover.File
