import FortranBindings.Declarations.Basic

/-!
# Typedefs and categories

The base of a type may be the name of a typedef. `resolve` replaces it by the type it stands for, as
often as needed, and keeps the declarators around it. A name that comes up again among the names
replaced so far never ends, so that at most as many replacements are made as there are typedefs.

`categorize` says what the base of a resolved type is: a builtin, a class, an enum or an unknown
name.
-/

namespace FortranBindings

/-- A typedef that resolves to itself. -/
structure RecursiveTypedef where
  name : String
  deriving DecidableEq, Repr

/-- What is reported for a recursive typedef. -/
def RecursiveTypedef.message (error : RecursiveTypedef) : String :=
  "Typedef \"" ++ error.name ++ "\" resolves to itself"

/-- What a type is built on. -/
inductive TypeCategory
  | void
  | builtin (kind : Builtin)
  | cls (cls : Class)
  | enumeration (enumeration : Enumeration)
  /-- A name without a declaration, taken for a class. -/
  | unknown (name : String)
  /-- A name spelled with `enum` and without a declaration. -/
  | unknownEnumeration (name : String)
  deriving DecidableEq

/-- Is the type built on a class or on an unknown name? -/
def TypeCategory.isClassLike : TypeCategory → Bool
  | cls _ | unknown _ => true
  | _ => false

namespace Declarations

/-- The typedef names that are not among the names `seen`. -/
def unseenTypedefs (decls : Declarations) (seen : List String) : List String :=
  (decls.typedefs.entries.map (·.1)).filter (· ∉ seen)

theorem mem_typedefs_of_find? {pairs : List (String × CxxType)} {name : String} {type : CxxType}
    (h : pairs.lookup name = some type) : name ∈ pairs.map (·.1) := by
  induction pairs with
  | nil => cases h
  | cons head rest ih =>
    obtain ⟨n, v⟩ := head
    rw [Dict.lookup_cons_eq_ite] at h
    split at h
    · next hn => simp [hn]
    · exact List.mem_map.2 (by simpa using Or.inr (List.mem_map.1 (ih h)))

theorem unseenTypedefs_cons (decls : Declarations) (seen : List String) (name : String) :
    decls.unseenTypedefs (name :: seen) = (decls.unseenTypedefs seen).filter (· ≠ name) := by
  simp only [unseenTypedefs, List.filter_filter]
  congr 1
  funext n
  by_cases h : n = name <;> simp [h]

theorem length_unseenTypedefs_lt {decls : Declarations} {seen : List String} {name : String}
    (hd : name ∈ decls.typedefs.entries.map (·.1)) (hs : name ∉ seen) :
    (decls.unseenTypedefs (name :: seen)).length < (decls.unseenTypedefs seen).length := by
  rw [unseenTypedefs_cons, List.length_filter_lt_length_iff_exists]
  exact ⟨name, List.mem_filter.2 ⟨hd, by simpa using hs⟩, by simp⟩

/-- Replace the base of a type as long as it is a typedef; `seen` are the names replaced so far. -/
def resolveFrom (decls : Declarations) (seen : List String) (type : CxxType) :
    Except RecursiveTypedef CxxType :=
  match type.baseName? with
  | none => .ok type
  | some name =>
    match _h : decls.typedefs.find? name with
    | none => .ok type
    | some underlying =>
      if _hs : name ∈ seen then .error ⟨name⟩
      else decls.resolveFrom (name :: seen) (type.replaceBase underlying)
termination_by (decls.unseenTypedefs seen).length
decreasing_by exact length_unseenTypedefs_lt (mem_typedefs_of_find? _h) _hs

/-- A type with the typedefs in its base replaced by what they stand for. -/
def resolve (decls : Declarations) (type : CxxType) : Except RecursiveTypedef CxxType :=
  decls.resolveFrom [] type

/-- A type with its typedefs resolved, or as it is if they never end. -/
def resolveOrKeep (decls : Declarations) (type : CxxType) : CxxType :=
  match decls.resolve type with
  | .ok resolved => resolved
  | .error _ => type

/-- What a base without typedefs is. -/
def categorizeBase (decls : Declarations) : CxxType.Base → TypeCategory
  | .builtin .void => .void
  | .builtin kind => .builtin kind
  | .named name =>
    match decls.getClass? name, decls.getEnumeration? name with
    | some cls, _ => .cls cls
    | none, some (_, enumeration) => .enumeration enumeration
    | none, none => .unknown name
  | .enumeration name =>
    match decls.getEnumeration? name with
    | some (_, enumeration) => .enumeration enumeration
    | none => .unknownEnumeration name

/-- What a type is built on once its typedefs are resolved. -/
def categorize (decls : Declarations) (type : CxxType) : Except RecursiveTypedef TypeCategory :=
  (decls.resolve type).map fun resolved => decls.categorizeBase resolved.root

end Declarations

end FortranBindings
