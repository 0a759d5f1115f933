import FortranBindings.Proofs.Template.Filling

/-!
# Declarations without a `$`

Declarations are literal if no text in them that gets into a module has a `$`. The names and types
that are made of such declarations have no `$` either, so that the built-in templates can be filled
in with them (`Declarations.IsLiteral.isFillable`).
-/

namespace FortranBindings

open Text

/-- No text of the callable has a `$`, and no typemaps are attached to its parameters. The code for
exceptions may have the token `$action` and no other `$`. Names of parameters are not considered:
only those without a `$` are used. -/
structure Callable.IsLiteral (callable : Callable) : Prop where
  name : Text.IsLiteral callable.name
  symbol : ∀ symbol ∈ callable.symbol, Text.IsLiteral symbol
  rename : ∀ rename ∈ callable.rename, Text.IsLiteral rename
  field : ∀ field role, callable.kind = .accessor field role → Text.IsLiteral field
  types : ∀ parameter ∈ callable.parameters, Text.IsLiteral parameter.type.signature
  typemaps : ∀ parameter ∈ callable.parameters, parameter.typemaps = {}
  result : Text.IsLiteral callable.result.signature
  overload : ∀ overload ∈ callable.overload, Text.IsLiteral overload
  prepend : ∀ code ∈ callable.features.prepend, Text.IsLiteral code
  append : ∀ code ∈ callable.features.append, Text.IsLiteral code
  exception : ∀ code ∈ callable.features.exception, Fits ["$action"] code
  action : ∀ code ∈ callable.action, Text.IsLiteral code

/-- No name of the class has a `$`, and neither has a text of its members. -/
structure Class.IsLiteral (cls : Class) : Prop where
  name : Text.IsLiteral cls.name
  rename : ∀ rename ∈ cls.rename, Text.IsLiteral rename
  members : ∀ callable ∈ cls.members, callable.IsLiteral

/-- No name that is used for the enum has a `$`. -/
structure Enumeration.IsLiteral (e : Enumeration) : Prop where
  rename : ∀ rename ∈ e.rename, Text.IsLiteral rename
  variants : ∀ variant ∈ e.variants, Text.IsLiteral variant.1

/-- No text of the declarations has a `$`, except for `$action` in code for exceptions, and no
typemaps are attached. -/
structure Declarations.IsLiteral (decls : Declarations) : Prop where
  name : Text.IsLiteral decls.name
  includes : AllLiteral decls.includes
  init : AllLiteral decls.init
  typedefs : ∀ name underlying, decls.typedefs.find? name = some underlying →
    Text.IsLiteral underlying.signature
  functions : ∀ callable ∈ decls.functions, callable.IsLiteral
  classes : ∀ cls ∈ decls.classes, cls.IsLiteral
  enumerations : ∀ e ∈ decls.enumerations, e.IsLiteral

variable {decls : Declarations} {callable : Callable} {cls : Class} {owner : Option Class}

theorem Class.IsLiteral.isLiteral_publicName (h : cls.IsLiteral) :
    Text.IsLiteral cls.publicName :=
  Text.isLiteral_publicName h.rename

/-- A pointer to an object of the class is spelled without a `$`. -/
theorem Class.IsLiteral.isLiteral_handle (h : cls.IsLiteral) (isConst : Bool) :
    Text.IsLiteral (cls.handle isConst).signature :=
  CxxType.isLiteral_signature.2 h.name

theorem Enumeration.IsLiteral.isLiteral_marker {e : Enumeration} (h : e.IsLiteral) :
    ∀ marker ∈ e.marker?, Text.IsLiteral marker := by
  intro marker hmarker
  unfold marker? at hmarker
  split at hmarker
  · cases hmarker
  · cases hmarker
    cases hrename : e.rename with
    | none => exact isLiteral_sanitize _
    | some rename => exact h.rename rename hrename

theorem AccessorRole.isLiteral_word (role : AccessorRole) : Text.IsLiteral role.word := by
  cases role <;> simp [Text.IsLiteral, word]

namespace Callable.IsLiteral

theorem isLiteral_publicName (h : callable.IsLiteral) : Text.IsLiteral callable.publicName :=
  Text.isLiteral_publicName h.rename

theorem isLiteral_overload (h : callable.IsLiteral) :
    Text.IsLiteral (callable.overload.getD "") := by
  cases hoverload : callable.overload with
  | none => simp [Text.IsLiteral]
  | some overload => exact h.overload overload hoverload

/-- The symbol that the bridge is named after has no `$`. -/
theorem isLiteral_symbolIn (h : callable.IsLiteral) (howner : ∀ cls ∈ owner, cls.IsLiteral) :
    Text.IsLiteral (callable.symbolIn owner) := by
  have hcls : Text.IsLiteral (owner.elim "" Class.publicName) := by
    cases owner with
    | none => simp [Text.IsLiteral]
    | some cls => exact (howner cls rfl).isLiteral_publicName
  unfold symbolIn
  cases hsymbol : callable.symbol with
  | some symbol => exact h.symbol symbol hsymbol
  | none =>
    cases hkind : callable.kind with
    | freeFunction => exact h.isLiteral_publicName
    | constructor | destructor =>
      simp only [isLiteral_append, hcls, and_true]
      simp [Text.IsLiteral]
    | method isConst =>
      simp only [isLiteral_append, hcls, h.isLiteral_publicName, true_and, and_true]
      simp [Text.IsLiteral]
    | accessor field role =>
      simp only [isLiteral_append, hcls, h.field field role hkind, role.isLiteral_word, true_and,
        and_true]
      simp [Text.IsLiteral]

/-- The result of the bridge is spelled without a `$`. -/
theorem isLiteral_resultIn (h : callable.IsLiteral) (howner : ∀ cls ∈ owner, cls.IsLiteral) :
    Text.IsLiteral (callable.resultIn owner).signature := by
  unfold resultIn
  split
  · next cls _ =>
    split
    · exact (howner cls rfl).isLiteral_handle false
    · exact h.result
  · exact h.result

/-- The types of all parameters are spelled without a `$`, and nothing is attached to them. -/
theorem of_mem_parametersIn (h : callable.IsLiteral) (howner : ∀ cls ∈ owner, cls.IsLiteral)
    {parameter : Parameter} (hp : parameter ∈ callable.parametersIn owner) :
    Text.IsLiteral parameter.type.signature ∧ parameter.typemaps = {} := by
  unfold parametersIn at hp
  split at hp
  · next cls =>
    split at hp
    · rcases List.mem_cons.1 hp with rfl | hp
      · exact ⟨(howner cls rfl).isLiteral_handle _, rfl⟩
      · exact ⟨h.types parameter hp, h.typemaps parameter hp⟩
    · exact ⟨h.types parameter hp, h.typemaps parameter hp⟩
  · exact ⟨h.types parameter hp, h.typemaps parameter hp⟩

end Callable.IsLiteral

/-- **The built-in templates can be filled in** for declarations without a `$`. -/
theorem Declarations.IsLiteral.isFillable (h : decls.IsLiteral) :
    (Sources.builtin decls).IsFillable where
  classes cls hcls := (h.classes cls hcls).isLiteral_publicName
  enumerations e he := (h.enumerations e he).isLiteral_marker
  typedefs := h.typedefs
  store _ _ _ hstore := Sources.fillable_builtin hstore

end FortranBindings
