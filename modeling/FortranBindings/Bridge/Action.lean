import FortranBindings.Decl.Class
import FortranBindings.GenerateError
import FortranBindings.Bridge.Held

/-!
# Actions

The action of a bridge is the C++ statement that invokes the declared entity. Where the declaration
does not give one it follows from the kind of the entity: the arguments are the local variables
`arg1`, `arg2`, …, the first of which is the object for members that have one, and a result goes to
the local variable `result`.
-/

namespace FortranBindings

/-- The local variable for the parameter with a number. -/
def localName (number : Nat) : String := "arg" ++ toString number

namespace Callable

/-- The values of the local variables behind the object, as expressions. -/
def argumentExpressions (callable : Callable) (helds : List Held) : List String :=
  ((helds.zipIdx 1).drop (if callable.kind.hasSelf then 1 else 0)).map fun (held, number) =>
    held.expression (localName number)

/-- A statement that calls something and keeps its result. -/
def callStatement (call : String) (result : CxxType) (held : Held) : String :=
  if result.isVoid then call ++ ";"
  else if held.isIndirect then "result = (" ++ held.type.signature ++ ") &" ++ call ++ ";"
  else "result = " ++ call ++ ";"

/-- The statement that invokes a callable. Only a constructor needs to know its class. -/
def defaultAction (callable : Callable) (owner : Option Class) (helds : List Held)
    (result : CxxType) (resultHeld : Held) : Except GenerateError String :=
  let arguments := callable.argumentExpressions helds
  let call (function : String) :=
    callStatement (function ++ "(" ++ ", ".intercalate arguments ++ ")") result resultHeld
  match callable.kind with
  | .freeFunction => .ok (call callable.name)
  | .constructor =>
    match owner with
    | some cls => .ok (call ("new " ++ cls.name))
    | none => .error (.memberOutsideClass callable.name)
  | .destructor => .ok "delete arg1;"
  | .method _ => .ok (call ("arg1->" ++ Text.unqualified callable.name))
  | .accessor field .get => .ok (callStatement ("arg1->" ++ field) result resultHeld)
  | .accessor field .set => .ok ("arg1->" ++ field ++ " = " ++ arguments.headD "" ++ ";")

end Callable

end FortranBindings
