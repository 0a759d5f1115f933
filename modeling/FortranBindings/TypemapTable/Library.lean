import FortranBindings.TypemapTable.Basic

/-!
# The built-in typemaps

The library covers builtin types, `void`, classes and enums, each by value and under the usual
declarators. In signatures the name `SWIGTYPE` stands for any class and `SWIGENUM` for any enum.
In the code, `$1` is the local variable of a bridge, `$input` its argument, `$result` what it
returns, `$imcall` the call of the bridge, and `$fclassname` the Fortran name of a class or enum.
-/

namespace FortranBindings

/-- The name in signatures that stands for any class. -/
def genericClass : String := "SWIGTYPE"

/-- The name in signatures that stands for any enum. -/
def genericEnumeration : String := "SWIGENUM"

namespace TypemapTable

/-- The Fortran type for each builtin that holds a value. -/
def scalarTypes : List (Builtin × String) := [
  (.bool, "logical(C_BOOL)"),
  (.char, "character(C_CHAR)"),
  (.signedChar, "integer(C_SIGNED_CHAR)"),
  (.unsignedChar, "integer(C_SIGNED_CHAR)"),
  (.short, "integer(C_SHORT)"),
  (.unsignedShort, "integer(C_SHORT)"),
  (.int, "integer(C_INT)"),
  (.unsignedInt, "integer(C_INT)"),
  (.long, "integer(C_LONG)"),
  (.unsignedLong, "integer(C_LONG)"),
  (.longLong, "integer(C_LONG_LONG)"),
  (.unsignedLongLong, "integer(C_LONG_LONG)"),
  (.sizeT, "integer(C_SIZE_T)"),
  (.float, "real(C_FLOAT)"),
  (.double, "real(C_DOUBLE)"),
  (.longDouble, "real(C_LONG_DOUBLE)")]

/-- Enter code for several operations on one type. -/
def codes (table : TypemapTable) (type : CxxType) (entries : List (String × String)) :
    TypemapTable :=
  entries.foldl (fun table entry => table.code entry.1 type entry.2) table

/-- The code that casts an argument to the type of the local variable. -/
def castInput : String := "$1 = ($1_ltype)$input;"

/-- The code for a builtin by value or by reference to a `const`. -/
def scalarValueCodes (cType fortranType : String) : List (String × String) := [
  ("ctype", cType),
  ("imtype", fortranType ++ ", value"),
  ("imtype:out", fortranType),
  ("ftype", fortranType ++ ", intent(in)"),
  ("ftype:out", fortranType),
  ("fin", "$input"),
  ("fout", "$result = $imcall")]

/-- The code for a builtin behind a pointer or reference. -/
def scalarPointerCodes (isConst : Bool) (cType fortranType : String) : List (String × String) := [
  ("ctype", (if isConst then "const " else "") ++ cType ++ " *"),
  ("imtype", "type(C_PTR), value"),
  ("imtype:out", "type(C_PTR)"),
  ("ftype", fortranType ++ ", target, intent(" ++ (if isConst then "in" else "inout") ++ ")"),
  ("ftype:out", "type(C_PTR)"),
  ("in", castInput),
  ("out", "$result = $1;"),
  ("fin", "c_loc($input)"),
  ("fout", "$result = $imcall")]

/-- Enter the typemaps of a builtin that holds a value. -/
def addScalar (table : TypemapTable) (scalar : Builtin × String) : TypemapTable :=
  let value := CxxType.builtin scalar.1
  let const := value.withConst true
  let cType := scalar.1.spelling
  let byValue := scalarValueCodes cType scalar.2
  let byPointer := scalarPointerCodes false cType scalar.2
  let byConstPointer := scalarPointerCodes true cType scalar.2
  table
    |>.codes value (byValue ++ [("in", castInput), ("out", "$result = $1;")])
    |>.codes (.lvalueReference const)
      (byValue ++ [("in", "$1 = &$input;"), ("out", "$result = *$1;")])
    |>.codes (.pointer value) byPointer
    |>.codes (.lvalueReference value) byPointer
    |>.codes (.pointer const) byConstPointer

/-- The code for a pointer without a type. -/
def voidPointerCodes (cType : String) : List (String × String) := [
  ("ctype", cType),
  ("imtype", "type(C_PTR), value"),
  ("imtype:out", "type(C_PTR)"),
  ("ftype", "type(C_PTR), intent(in)"),
  ("ftype:out", "type(C_PTR)"),
  ("in", castInput),
  ("out", "$result = $1;"),
  ("fin", "$input"),
  ("fout", "$result = $imcall")]

/-- Enter the typemaps of `void` and of pointers to it. -/
def addVoid (table : TypemapTable) : TypemapTable :=
  table
    |>.codes .void [("ctype", "void"), ("imtype:out", ""), ("ftype:out", ""), ("out", ""),
      ("fout", "call $imcall")]
    |>.codes (.pointer .void) (voidPointerCodes "void *")
    |>.codes (.pointer (CxxType.void.withConst true)) (voidPointerCodes "const void *")

/-- The code that all forms of a class share. -/
def classCodes : List (String × String) := [
  ("imtype", "type(C_PTR), value"),
  ("imtype:out", "type(C_PTR)"),
  ("ftype", "class($fclassname), intent(in)"),
  ("ftype:out", "type($fclassname)"),
  ("in", castInput),
  ("fin", "$input%swigptr"),
  ("fout", "$result%swigptr = $imcall")]

/-- Enter the typemaps of classes. -/
def addClasses (table : TypemapTable) : TypemapTable :=
  let value := CxxType.named genericClass
  let const := value.withConst true
  let mutableCodes := classCodes ++ [("ctype", "void *"), ("out", "$result = (void *)$1;")]
  let constCodes :=
    classCodes ++ [("ctype", "const void *"), ("out", "$result = (const void *)$1;")]
  table
    |>.codes value (classCodes ++ [("ctype", "const void *"), ("ctype:out", "void *"),
      ("out", "$result = new $1_basetype($1);"),
      ("fdata", "type(C_PTR), public :: swigptr = C_NULL_PTR")])
    |>.codes (.pointer value) (mutableCodes ++ [("fcreate", "self%swigptr = $imcall"),
      ("frelease", "call $imcall\nself%swigptr = C_NULL_PTR")])
    |>.codes (.pointer const) constCodes
    |>.codes (.lvalueReference value) mutableCodes
    |>.codes (.lvalueReference const) constCodes

/-- The code that all forms of an enum share. -/
def enumerationCodes : List (String × String) := [
  ("ctype", "int"),
  ("imtype", "integer(C_INT), value"),
  ("imtype:out", "integer(C_INT)"),
  ("ftype", "integer(kind($fclassname)), intent(in)"),
  ("ftype:out", "integer(kind($fclassname))"),
  ("fin", "$input"),
  ("fout", "$result = $imcall")]

/-- Enter the typemaps of enums. -/
def addEnumerations (table : TypemapTable) : TypemapTable :=
  let value := CxxType.named genericEnumeration
  table
    |>.codes value (enumerationCodes ++ [("in", castInput), ("out", "$result = (int)$1;")])
    |>.codes (.lvalueReference (value.withConst true))
      (enumerationCodes ++ [("in", "$1 = ($1_ltype)&$input;"), ("out", "$result = (int)*$1;")])

/-- The built-in typemaps for Fortran. -/
def fortran : TypemapTable :=
  scalarTypes.foldl addScalar {} |>.addVoid |>.addClasses |>.addEnumerations

end TypemapTable

end FortranBindings
