/-
**Object types of a C header.**

An object type is an opaque struct that starts with a pointer to a table of function pointers,
together with one function for each method.

Main definitions:

* `Handover.CClass` — the struct, its table once it is known, and its functions;
* `Handover.CClass.code` — the declarations of a class;
* `Handover.HeaderFile` — a file name and what the file holds.
-/

import Handover.Failure
import Handover.Header.Code
import Handover.Header.CType

set_option autoImplicit false

namespace Handover

/-- The typedef of an opaque struct.  Struct names end in `_t`. -/
def structStub (name : String) : String :=
  "typedef struct " ++ Text.dropSuffix "_t" name ++ "_s " ++ name ++ ";"

/-- The typedef of an opaque struct, if the name is one. -/
def structStub? (name : String) : Except Failure String :=
  if Text.hasSuffix "_t" name then .ok (structStub name)
  else .error (.invalidInput .generate
    ("struct name " ++ Text.quote name ++ " must end in _t"))

/-- The typedef of an enumeration. -/
def enumLine (name : String) (values : List String) : String :=
  let upper (s : String) := s.map Text.toUpper
  let lead := upper (Text.dropSuffix "_t" name) ++ "_"
  "typedef enum \x7b " ++ ", ".intercalate (values.map fun v => lead ++ upper v) ++ " \x7d "
    ++ name ++ ";"

/-- An object type. -/
structure CClass where
  /-- The name of the struct. -/
  name : String
  /-- The slots of its table, once they are known. -/
  table : Option (List CSlot) := none
  functions : List CFunction := []
deriving DecidableEq, Repr

namespace CClass

/-- The name without its ending. -/
def stem (c : CClass) : String := Text.dropSuffix "_t" c.name

/-- The table of a class and the struct that points to it. -/
def tableCode (c : CClass) (slots : List CSlot) : Code :=
  .group <| [.line ("typedef struct " ++ c.stem ++ "_vtable_s \x7b")]
    ++ slots.map (fun s => .line s.line)
    ++ [.line ("\x7d " ++ c.stem ++ "_vtable_t;"),
      .line ("struct " ++ c.stem ++ "_s \x7b"),
      .line ("\tconst " ++ c.stem ++ "_vtable_t* vtable;"),
      .line "\x7d;"]

/-- The declarations of a class. -/
def code (c : CClass) : Code :=
  .group <| [.line (structStub c.name)]
    ++ (c.table.map c.tableCode).toList
    ++ c.functions.map fun f => .line f.line

end CClass

/-- A header and its name. -/
structure HeaderFile where
  name : String
  content : List Code

/-- The first line of every header. -/
def HeaderFile.banner : String := "// Code generated by sides header. DO NOT EDIT."

/-- The include guard. -/
def HeaderFile.guardLine : String := "#pragma once"

/-- The code of a header with some content. -/
def HeaderFile.codeOf (content : List Code) : Code :=
  .group (.line banner :: .line guardLine :: content)

/-- The code of a header. -/
def HeaderFile.code (f : HeaderFile) : Code := codeOf f.content

/-- The header that holds a class. -/
def CClass.file (c : CClass) : HeaderFile := ⟨c.stem ++ ".h", [c.code]⟩

end Handover
