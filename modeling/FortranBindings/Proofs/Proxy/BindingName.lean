import FortranBindings.Decl.Class
import FortranBindings.Proofs.Text.Decimal
import FortranBindings.Proxy.Basic

/-!
# The names that members are bound under

Which name a member is bound under in its derived type depends on its kind: there is a rule for
constructors, one for destructors, two for accesses to a field and so on. What a name that follows a
fixed rule starts with tells the rule, also without regard to case (`NamingRule.toLower_stem_ne`).
Two members that follow the same rule have the same name only if their bridges are named after the
same symbol, given symbols and given names of accessors excepted
(`Callable.symbolIn_eq_of_memberName_eq`).
-/

namespace FortranBindings

/-- How the name is made that a member is bound under. -/
inductive NamingRule
  /-- Constructors are bound as `create`. -/
  | create
  /-- Destructors are bound as `release`. -/
  | release
  /-- An access to a field is bound under the name of the field behind what it does. -/
  | accessor (role : AccessorRole)
  /-- An access to a field is bound under the name that was given. -/
  | renamed
  /-- A method is bound under its public name. -/
  | method
  /-- A function without an object is bound under its public name. -/
  | function
  /-- One of several overloaded members is bound under its C++ name and what tells it apart. -/
  | variant
  deriving DecidableEq

namespace NamingRule

/-- What the names that follow a rule start with. -/
def stem : NamingRule → String
  | create => "create"
  | release => "release"
  | accessor role => role.word ++ "_"
  | _ => ""

/-- Does a name that follows the rule tell it by what it starts with? -/
def isFixed : NamingRule → Bool
  | create | release | accessor _ => true
  | _ => false

/-- The fixed rule for the names that start with a letter. -/
def ofInitial? : Char → Option NamingRule
  | 'c' => some create
  | 'r' => some release
  | 'g' => some (accessor .get)
  | 's' => some (accessor .set)
  | _ => none

theorem ofInitial?_stem {rule : NamingRule} (h : rule.isFixed = true) (rest : String) :
    (rule.stem ++ rest).toLower.toList.head?.bind ofInitial? = some rule := by
  rw [Text.toList_toLower, String.toList_append, List.map_append, List.head?_append]
  cases rule with
  | create => rfl
  | release => rfl
  | accessor role => cases role <;> rfl
  | _ => cases h

/-- Names that follow different fixed rules differ, also without regard to case. -/
theorem toLower_stem_ne {rule other : NamingRule} (h : rule.isFixed = true)
    (hother : other.isFixed = true) (hne : rule ≠ other) (rest rest' : String) :
    (rule.stem ++ rest).toLower ≠ (other.stem ++ rest').toLower := by
  intro heq
  have hrule := ofInitial?_stem h rest
  rw [heq, ofInitial?_stem hother rest'] at hrule
  exact hne (Option.some.inj hrule).symm

end NamingRule

namespace Callable

/-- The rule for the name that a member is called by. -/
def namingRule (callable : Callable) : NamingRule :=
  match callable.kind with
  | .freeFunction => .function
  | .constructor => .create
  | .destructor => .release
  | .method _ => .method
  | .accessor _ role => if callable.rename.isSome then .renamed else .accessor role

/-- The name that a member is called by, alone or together with others. -/
def memberName (callable : Callable) : String :=
  callable.bindingName (.ofKind callable.kind)

/-- The rule for the name of the procedure that is bound for a member. -/
def procedureRule (callable : Callable) : NamingRule :=
  match callable.isOverloaded, callable.namingRule with
  | false, rule => rule
  | true, .create => .create
  | true, .release => .release
  | true, _ => .variant

/-- The name of the procedure that is bound for a member: the one it is called by, unless it is
overloaded. -/
def procedureName (callable : Callable) : String :=
  match callable.overload with
  | some overload => callable.bindingBase (.ofKind callable.kind) ++ overload
  | none => callable.memberName

/-- The names that a member is bound under, with their rules: the one of its procedure and, if it is
overloaded, the generic one. -/
def boundAs (callable : Callable) : List (NamingRule × String) :=
  (callable.procedureRule, callable.procedureName) ::
    if callable.isOverloaded then [(callable.namingRule, callable.memberName)] else []

/-- The bridge of the callable is named after it alone: by a symbol that was not given, with nothing
to tell it from others behind it. -/
structure IsNamedAlone (callable : Callable) : Prop where
  plain : callable.isOverloaded = false
  symbol : callable.symbol = none

variable {callable other : Callable}

theorem procedureName_of_plain (h : callable.isOverloaded = false) :
    callable.procedureName = callable.memberName := by
  rw [procedureName, overload_eq_none h]

theorem procedureName_of_overload {overload : String} (h : callable.overload = some overload) :
    callable.procedureName = callable.bindingBase (.ofKind callable.kind) ++ overload := by
  rw [procedureName, h]

/-- Variants of one name differ if they are told apart. -/
theorem procedureName_ne_of_overload_ne (h : callable.isOverloaded = true)
    (hother : other.isOverloaded = true) (hbase : callable.bindingBase (.ofKind callable.kind) =
      other.bindingBase (.ofKind other.kind)) (hne : callable.overload ≠ other.overload) :
    callable.procedureName ≠ other.procedureName := by
  obtain ⟨overload, hoverload⟩ := Option.isSome_iff_exists.1 h
  obtain ⟨overload', hoverload'⟩ := Option.isSome_iff_exists.1 hother
  rw [procedureName_of_overload hoverload, procedureName_of_overload hoverload', hbase]
  intro heq
  apply hne
  rw [hoverload, hoverload', (String.append_right_inj _).1 heq]

/-! ## What names start with -/

theorem exists_memberName (callable : Callable) :
    ∃ rest, callable.memberName = callable.namingRule.stem ++ rest := by
  unfold memberName bindingName namingRule
  cases callable.kind with
  | freeFunction => exact ⟨_, String.empty_append.symm⟩
  | constructor => exact ⟨"", rfl⟩
  | destructor => exact ⟨"", rfl⟩
  | method isConst => exact ⟨_, String.empty_append.symm⟩
  | accessor field role =>
    cases callable.rename with
    | none => exact ⟨field, rfl⟩
    | some rename => exact ⟨rename, String.empty_append.symm⟩

theorem exists_procedureName (callable : Callable) :
    ∃ rest, callable.procedureName = callable.procedureRule.stem ++ rest := by
  cases hoverload : callable.overload with
  | none =>
    have hplain : callable.isOverloaded = false := by rw [isOverloaded, hoverload]; rfl
    rw [procedureName_of_plain hplain, procedureRule, hplain]
    exact callable.exists_memberName
  | some overload =>
    have hoverloaded : callable.isOverloaded = true := by rw [isOverloaded, hoverload]; rfl
    unfold procedureRule namingRule
    rw [procedureName_of_overload hoverload, hoverloaded]
    unfold bindingBase
    cases callable.kind with
    | constructor => exact ⟨overload, rfl⟩
    | destructor => exact ⟨overload, rfl⟩
    | accessor field role =>
      cases callable.rename with
      | none => exact ⟨_, String.empty_append.symm⟩
      | some rename => exact ⟨_, String.empty_append.symm⟩
    | freeFunction => exact ⟨_, String.empty_append.symm⟩
    | method isConst => exact ⟨_, String.empty_append.symm⟩

/-- Each name that a member is bound under follows its rule. -/
theorem exists_eq_stem_of_mem_boundAs {bound : NamingRule × String} (h : bound ∈ callable.boundAs) :
    ∃ rest, bound.2 = bound.1.stem ++ rest := by
  rcases List.mem_cons.1 h with rfl | hgeneric
  · exact callable.exists_procedureName
  · split at hgeneric
    · obtain rfl := List.mem_singleton.1 hgeneric
      exact callable.exists_memberName
    · cases hgeneric

/-- Members that are bound by different fixed rules have different names, also without regard to
case. -/
theorem toLower_ne_of_mem_boundAs {bound bound' : NamingRule × String}
    (hbound : bound ∈ callable.boundAs) (hbound' : bound' ∈ other.boundAs)
    (hfixed : bound.1.isFixed = true) (hfixed' : bound'.1.isFixed = true)
    (hne : bound.1 ≠ bound'.1) : bound.2.toLower ≠ bound'.2.toLower := by
  obtain ⟨rest, hrest⟩ := exists_eq_stem_of_mem_boundAs hbound
  obtain ⟨rest', hrest'⟩ := exists_eq_stem_of_mem_boundAs hbound'
  rw [hrest, hrest']
  exact NamingRule.toLower_stem_ne hfixed hfixed' hne rest rest'

/-! ## Names and symbols -/

/-- The members that follow a rule. -/
theorem kind_of_namingRule (callable : Callable) :
    match callable.namingRule with
    | .create => callable.kind = .constructor
    | .release => callable.kind = .destructor
    | .accessor role => ∃ field, callable.kind = .accessor field role ∧ callable.rename = none
    | .renamed => ∃ field role, callable.kind = .accessor field role
    | .method => ∃ isConst, callable.kind = .method isConst
    | .function => callable.kind = .freeFunction
    | .variant => False := by
  unfold namingRule
  cases hkind : callable.kind with
  | accessor field role =>
    cases hrename : callable.rename with
    | none => exact ⟨field, rfl, rfl⟩
    | some rename => exact ⟨field, role, rfl⟩
  | method isConst => exact ⟨isConst, rfl⟩
  | freeFunction => rfl
  | constructor => rfl
  | destructor => rfl

/-- Members that follow the same rule have the same name only if they have the same symbol, unless
the names or the symbols were given. -/
theorem symbolIn_eq_of_memberName_eq (hsymbol : callable.symbol = none)
    (hsymbol' : other.symbol = none) (hrule : callable.namingRule = other.namingRule)
    (hrenamed : callable.namingRule ≠ .renamed) (hname : callable.memberName = other.memberName)
    (owner : Option Class) : callable.symbolIn owner = other.symbolIn owner := by
  have hkind := callable.kind_of_namingRule
  have hkind' := other.kind_of_namingRule
  rw [← hrule] at hkind'
  unfold memberName bindingName at hname
  unfold symbolIn
  rw [hsymbol, hsymbol']
  cases hcase : callable.namingRule with rw [hcase] at hkind hkind'
  | create => rw [hkind, hkind']
  | release => rw [hkind, hkind']
  | accessor role =>
    obtain ⟨field, hkind, hnone⟩ := hkind
    obtain ⟨field', hkind', hnone'⟩ := hkind'
    rw [hkind, hkind', hnone, hnone'] at hname
    have hfield : field = field' := (String.append_right_inj _).1 hname
    rw [hkind, hkind', hfield]
  | renamed => exact absurd hcase hrenamed
  | method =>
    obtain ⟨isConst, hkind⟩ := hkind
    obtain ⟨isConst', hkind'⟩ := hkind'
    rw [hkind, hkind'] at hname ⊢
    exact congrArg (_ ++ "_" ++ ·) hname
  | function =>
    rw [hkind, hkind'] at hname ⊢
    exact hname
  | variant => exact hkind.elim

end Callable

end FortranBindings
