import FortranBindings.CxxType.Builtin
import FortranBindings.Text.Identifier

/-!
# C++ types

A C++ type is a base (a builtin, a name, or a name spelled with `enum`) under any number of
declarators: pointers and references. Every level can be `const`.

`signature` writes a type in its canonical spelling, which is also the key that code templates are
looked up with. `replaceBase` puts another type in place of the base and keeps the shape around it;
it is associative (`replaceBase_replaceBase`).
-/

namespace FortranBindings

namespace CxxType

/-- What a type is built on. -/
inductive Base
  | builtin (kind : Builtin)
  /-- A class, an enum or a typedef, told apart by the declarations only. -/
  | named (name : String)
  /-- A name spelled with the keyword `enum`, which is an enum even if it is not declared. -/
  | enumeration (name : String)
  deriving DecidableEq, Repr

/-- What can be put around a type. -/
inductive Declarator
  | pointer
  | lvalueReference
  | rvalueReference
  deriving DecidableEq, Repr

end CxxType

open CxxType in
/-- A C++ type: a base under declarators, each level with or without `const`. -/
inductive CxxType
  | base (isConst : Bool) (base : Base)
  | declared (isConst : Bool) (declarator : Declarator) (inner : CxxType)
  deriving DecidableEq, Repr

namespace CxxType

/-- A builtin without qualifiers. -/
def builtin (kind : Builtin) : CxxType := base false (.builtin kind)

/-- A name without qualifiers. -/
def named (name : String) : CxxType := base false (.named name)

/-- A pointer to a type. -/
def pointer (inner : CxxType) : CxxType := declared false .pointer inner

/-- An lvalue reference to a type. -/
def lvalueReference (inner : CxxType) : CxxType := declared false .lvalueReference inner

/-- The type `void`. -/
def void : CxxType := builtin .void

instance : Inhabited CxxType := ⟨void⟩

/-- Is the outermost level `const`? -/
def isConst : CxxType → Bool
  | base c _ => c
  | declared c _ _ => c

/-- The type with its outermost level made `const` or not. -/
def withConst (c : Bool) : CxxType → CxxType
  | base _ b => base c b
  | declared _ d inner => declared c d inner

/-- The type without the `const` of its outermost level. -/
def withoutQualifiers (type : CxxType) : CxxType := type.withConst false

/-- Is the type `void`, `const` or not? -/
def isVoid : CxxType → Bool
  | base _ b => b = .builtin .void
  | declared .. => false

/-- Is the outermost level a pointer? -/
def isPointer : CxxType → Bool
  | declared _ d _ => d = .pointer
  | base .. => false

/-- Is the outermost level a reference? -/
def isReference : CxxType → Bool
  | declared _ d _ => d ≠ .pointer
  | base .. => false

/-- What a pointer or reference refers to. -/
def pointee? : CxxType → Option CxxType
  | declared _ _ inner => some inner
  | base .. => none

/-- The type without its declarators; the `const` of the base is kept. -/
def innermost : CxxType → CxxType
  | declared _ _ inner => inner.innermost
  | base c b => base c b

/-- What the type is built on. -/
def root : CxxType → Base
  | declared _ _ inner => inner.root
  | base _ b => b

/-- The name a type is built on, unless it is a builtin or spelled with `enum`. -/
def baseName? (type : CxxType) : Option String :=
  match type.root with
  | .named name => some name
  | _ => none

/-- The base of the type without its declarators and without qualifiers. -/
def bare (type : CxxType) : CxxType := base false type.root

/-- The type with its base replaced by another type. Shape and qualifiers stay, and the new base is
`const` if it was so by itself or if the old one was. -/
def replaceBase : CxxType → CxxType → CxxType
  | declared c d inner, new => declared c d (inner.replaceBase new)
  | base c _, new => new.withConst (c || new.isConst)

/-- The spelling of a base. -/
def Base.spelling : Base → String
  | builtin kind => kind.spelling
  | named name => name
  | enumeration name => "enum " ++ name

/-- The canonical spelling of a type, such as `const Foo &` or `double *const`. -/
def signature : CxxType → String
  | base c b => (if c then "const " else "") ++ b.spelling
  | declared c .pointer inner => inner.signature ++ " *" ++ (if c then "const" else "")
  | declared _ .lvalueReference inner => inner.signature ++ " &"
  | declared _ .rvalueReference inner => inner.signature ++ " &&"

instance : ToString CxxType := ⟨signature⟩

/-- A base as part of an identifier. -/
def Base.mangle : Base → String
  | builtin kind => Text.sanitize kind.spelling
  | named name => Text.sanitize name
  | enumeration name => "enum_" ++ Text.sanitize name

/-- The mark of a declarator in an identifier. -/
def Declarator.mangle : Declarator → String
  | pointer => "p_"
  | lvalueReference => "r_"
  | rvalueReference => "rr_"

/-- A type as part of an identifier, such as `r_q_const__Foo` for `const Foo &`. -/
def mangle : CxxType → String
  | base c b => (if c then "q_const__" else "") ++ b.mangle
  | declared c d inner => (if c then "q_const__" else "") ++ d.mangle ++ inner.mangle

@[simp] theorem root_withConst (c : Bool) (type : CxxType) :
    (type.withConst c).root = type.root := by
  cases type <;> rfl

@[simp] theorem isConst_withConst (c : Bool) (type : CxxType) : (type.withConst c).isConst = c := by
  cases type <;> rfl

@[simp] theorem withConst_withConst (c d : Bool) (type : CxxType) :
    (type.withConst c).withConst d = type.withConst d := by
  cases type <;> rfl

/-- The new type is built on what the replacement is built on. -/
@[simp] theorem root_replaceBase (type new : CxxType) : (type.replaceBase new).root = new.root := by
  induction type with
  | base c b => simp [replaceBase]
  | declared c d inner ih => simpa [replaceBase, root] using ih

/-- Replacing the base twice is replacing it once by the replaced replacement. -/
theorem replaceBase_replaceBase (type new newer : CxxType) :
    (type.replaceBase new).replaceBase newer = type.replaceBase (new.replaceBase newer) := by
  induction type with
  | base c b =>
    cases new <;> cases newer <;> simp [replaceBase, withConst, isConst, Bool.or_assoc]
  | declared c d inner ih => simp [replaceBase, ih]

end CxxType

end FortranBindings
