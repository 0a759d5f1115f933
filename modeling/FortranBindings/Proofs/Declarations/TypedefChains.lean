import Mathlib.Data.List.Nodup
import FortranBindings.Proofs.Declarations.Resolution

/-!
# Chains of typedefs

What a type is built on leads on to what that is a typedef of, and so on (`Declarations.chain`).
Resolving a type goes along this chain and makes one replacement for each typedef
(`Declarations.Resolves`). No name is replaced twice, so that there are at most as many replacements
as typedefs (`Declarations.resolveFrom_resolves`). Where the chain ends, the resolved type is built
on what it ends with (`Declarations.Resolves.last`); where it does not, it runs into a loop, and the
name at which the loop starts is reported (`Declarations.Resolves.isFirstRepeated`). So resolving is
exact (`Declarations.resolve_exact`).
-/

namespace FortranBindings.Declarations

variable {decls : Declarations} {type : CxxType}

/-- What a base is a typedef of is built on this; nothing if it is no typedef. -/
def next? (decls : Declarations) : CxxType.Base → Option CxxType.Base
  | .named name => (decls.typedefs.find? name).map CxxType.root
  | _ => none

/-- What stands at a position of the chain that starts with a base. There is nothing behind a base
that is no typedef. -/
def chain (decls : Declarations) (base : CxxType.Base) : Nat → Option CxxType.Base
  | 0 => some base
  | position + 1 => (decls.chain base position).bind decls.next?

/-- A chain goes on like the one that starts with its second base. -/
theorem chain_succ (decls : Declarations) (base : CxxType.Base) (position : Nat) :
    decls.chain base (position + 1) = (decls.next? base).bind (decls.chain · position) := by
  induction position with
  | zero => exact (Option.bind_some _ _).trans (Option.bind_fun_some _).symm
  | succ position ih => rw [chain, ih, Option.bind_assoc]; rfl

theorem next?_eq_none : decls.next? type.root = none ↔ decls.IsResolved type := by
  unfold IsResolved next?
  cases type.root <;> simp

theorem next?_of_find? {name : String} {underlying : CxxType}
    (h : decls.typedefs.find? name = some underlying) :
    decls.next? (.named name) = some underlying.root := by
  rw [next?, h, Option.map_some]

/-! ## Replacements -/

/-- Resolving a type comes to a result, where `seen` are the names that were replaced before; the
number counts the replacements that are made. -/
inductive Resolves (decls : Declarations) :
    List String → CxxType → Nat → Except RecursiveTypedef CxxType → Prop
  | resolved {seen : List String} {type : CxxType} (h : decls.IsResolved type) :
    Resolves decls seen type 0 (.ok type)
  | repeated {seen : List String} {type underlying : CxxType} {name : String}
    (hname : type.root = .named name) (hfind : decls.typedefs.find? name = some underlying)
    (hseen : name ∈ seen) : Resolves decls seen type 0 (.error ⟨name⟩)
  | replaced {seen : List String} {type underlying : CxxType} {name : String} {count : Nat}
    {result : Except RecursiveTypedef CxxType} (hname : type.root = .named name)
    (hfind : decls.typedefs.find? name = some underlying) (hseen : name ∉ seen)
    (h : Resolves decls (name :: seen) (type.replaceBase underlying) count result) :
    Resolves decls seen type (count + 1) result

/-- **Resolving comes to its result** after at most one replacement for each typedef that was not
replaced before. -/
theorem resolveFrom_resolves (decls : Declarations) (seen : List String) (type : CxxType) :
    ∃ count ≤ (decls.unseenTypedefs seen).length,
      decls.Resolves seen type count (decls.resolveFrom seen type) := by
  fun_induction resolveFrom decls seen type with
  | case1 seen type hname =>
    refine ⟨0, Nat.zero_le _, .resolved fun name hroot => ?_⟩
    cases hname.symm.trans (baseName?_eq_some.2 hroot)
  | case2 seen type name hname hfind =>
    refine ⟨0, Nat.zero_le _, .resolved fun other hroot => ?_⟩
    obtain rfl := Option.some.inj (hname.symm.trans (baseName?_eq_some.2 hroot))
    exact hfind
  | case3 seen type name hname underlying hfind hseen =>
    exact ⟨0, Nat.zero_le _, .repeated (baseName?_eq_some.1 hname) hfind hseen⟩
  | case4 seen type name hname underlying hfind hseen ih =>
    obtain ⟨count, hcount, hresolves⟩ := ih
    have hlt := length_unseenTypedefs_lt (mem_typedefs_of_find? hfind) hseen
    exact ⟨count + 1, by omega, .replaced (baseName?_eq_some.1 hname) hfind hseen hresolves⟩

/-- A type is resolved with at most one replacement for each typedef. -/
theorem resolve_resolves (decls : Declarations) (type : CxxType) :
    ∃ count ≤ decls.typedefs.size, decls.Resolves [] type count (decls.resolve type) := by
  obtain ⟨count, hcount, hresolves⟩ := resolveFrom_resolves decls [] type
  have hunseen : (decls.unseenTypedefs []).length ≤ decls.typedefs.size :=
    Nat.le_trans (List.length_filter_le _ _) (Nat.le_of_eq (List.length_map _))
  exact ⟨count, Nat.le_trans hcount hunseen, hresolves⟩

namespace Resolves

variable {seen : List String} {count : Nat}

/-- A resolved type is built on what the chain ends with. -/
theorem last {resolved : CxxType} (h : decls.Resolves seen type count (.ok resolved)) :
    decls.chain type.root count = some resolved.root ∧ decls.IsResolved resolved := by
  generalize hresult : Except.ok resolved = result at h
  induction h with
  | resolved h =>
    cases hresult
    exact ⟨rfl, h⟩
  | repeated => cases hresult
  | replaced hname hfind hseen h ih =>
    obtain ⟨hchain, hresolved⟩ := ih hresult
    rw [CxxType.root_replaceBase] at hchain
    refine ⟨?_, hresolved⟩
    rw [hname, chain_succ, next?_of_find? hfind]
    exact hchain

/-- What is reported is the name behind the replaced ones, which differ from each other and from
those that were replaced before; the name itself is one of all these. -/
theorem names {error : RecursiveTypedef} (h : decls.Resolves seen type count (.error error)) :
    ∃ names : List String, names.length = count ∧ names.Nodup ∧ (∀ name ∈ names, name ∉ seen) ∧
      (∀ position < count,
        decls.chain type.root position = names[position]?.map .named) ∧
      decls.chain type.root count = some (.named error.name) ∧
      (error.name ∈ seen ∨ error.name ∈ names) := by
  generalize hresult : Except.error error = result at h
  induction h with
  | resolved => cases hresult
  | repeated hname hfind hseen =>
    cases hresult
    exact ⟨[], rfl, .nil, nofun, nofun, congrArg some hname, .inl hseen⟩
  | @replaced seen type underlying name count result hname hfind hseen h ih =>
    obtain ⟨names, hlength, hnodup, hfresh, hnames, hlast, hmem⟩ := ih hresult
    rw [CxxType.root_replaceBase] at hnames hlast
    have hsucc : ∀ position, decls.chain type.root (position + 1) =
        decls.chain underlying.root position := fun position => by
      rw [hname, chain_succ, next?_of_find? hfind, Option.bind_some]
    refine ⟨name :: names, congrArg (· + 1) hlength, ?_, ?_, ?_, (hsucc count).trans hlast, ?_⟩
    · exact List.nodup_cons.2 ⟨fun hin => hfresh name hin List.mem_cons_self, hnodup⟩
    · refine List.forall_mem_cons.2 ⟨hseen, fun other hother hin => ?_⟩
      exact hfresh other hother (List.mem_cons_of_mem _ hin)
    · intro position hposition
      cases position with
      | zero => exact congrArg some hname
      | succ position =>
        rw [hsucc, hnames position (by omega), List.getElem?_cons_succ]
    · rcases hmem with hin | hin
      · rcases List.mem_cons.1 hin with heq | hin
        · exact .inr (heq ▸ List.mem_cons_self)
        · exact .inl hin
      · exact .inr (List.mem_cons_of_mem _ hin)

end Resolves

/-! ## Loops -/

/-- The name is the first one in the chain of a type that comes up again: it stands at the position
`first` and again at the position `again`, before which no base comes up twice, and no base in front
of it ever comes up again. -/
structure IsFirstRepeated (decls : Declarations) (type : CxxType) (name : String)
    (first again : Nat) : Prop where
  lt : first < again
  first_eq : decls.chain type.root first = some (.named name)
  again_eq : decls.chain type.root again = some (.named name)
  ne_before : ∀ later < again, ∀ earlier < later,
    decls.chain type.root earlier ≠ decls.chain type.root later
  ne_behind : ∀ earlier < first, ∀ later > earlier,
    decls.chain type.root earlier ≠ decls.chain type.root later

/-- A chain that comes back to a base stays in the loop. -/
theorem exists_in_loop {base : CxxType.Base} {first again : Nat} (hlt : first < again)
    (h : decls.chain base again = decls.chain base first) {position : Nat}
    (hposition : first ≤ position) :
    ∃ inside, first ≤ inside ∧ inside < again ∧
      decls.chain base position = decls.chain base inside := by
  induction hposition with
  | refl => exact ⟨first, Nat.le_refl _, hlt, rfl⟩
  | @step position _ ih =>
    obtain ⟨inside, hfirst, hinside, heq⟩ := ih
    have hnext : decls.chain base (position + 1) = decls.chain base (inside + 1) := by
      rw [chain, chain, heq]
    by_cases hagain : inside + 1 = again
    · exact ⟨first, Nat.le_refl _, hlt, hnext.trans (hagain ▸ h)⟩
    · exact ⟨inside + 1, by omega, by omega, hnext⟩

/-- **A reported name is the first one that comes up again**, at the position that is reached by the
replacements, and the chain never ends. -/
theorem Resolves.isFirstRepeated {error : RecursiveTypedef} {count : Nat}
    (h : decls.Resolves [] type count (.error error)) :
    (∃ first, decls.IsFirstRepeated type error.name first count) ∧
      ∀ position, decls.chain type.root position ≠ none := by
  obtain ⟨names, hlength, hnodup, -, hnames, hlast, hmem⟩ := h.names
  obtain ⟨first, hfirst, hget⟩ := List.getElem_of_mem (hmem.resolve_left List.not_mem_nil)
  rw [hlength] at hfirst
  have hstart : decls.chain type.root first = some (.named error.name) := by
    rw [hnames first hfirst, List.getElem?_eq_getElem (hlength ▸ hfirst), hget, Option.map_some]
  have hloop : decls.chain type.root count = decls.chain type.root first :=
    hlast.trans hstart.symm
  have hbefore : ∀ later < count, ∀ earlier < later,
      decls.chain type.root earlier ≠ decls.chain type.root later := by
    intro later hlater earlier hearlier heq
    have hearlier' : earlier < names.length := by omega
    have hlater' : later < names.length := by omega
    rw [hnames earlier (by omega), hnames later hlater, List.getElem?_eq_getElem hearlier',
      List.getElem?_eq_getElem hlater', Option.map_some, Option.map_some, Option.some_inj,
      CxxType.Base.named.injEq, hnodup.getElem_inj_iff] at heq
    omega
  refine ⟨⟨first, hfirst, hstart, hlast, hbefore, ?_⟩, fun position hnone => ?_⟩
  · intro earlier hearlier later hlater
    by_cases hinside : later < count
    · exact hbefore later hinside earlier hlater
    · -- Behind the loop's first round only its own bases come up.
      have hbehind : first ≤ later := by omega
      obtain ⟨inside, hle, hlt, heq⟩ := exists_in_loop hfirst hloop hbehind
      rw [heq]
      exact hbefore inside hlt earlier (by omega)
  · have hsome : ∀ inside < count, decls.chain type.root inside ≠ none := by
      intro inside hinside
      rw [hnames inside hinside, List.getElem?_eq_getElem (hlength ▸ hinside), Option.map_some]
      exact Option.some_ne_none _
    by_cases hinside : position < count
    · exact hsome position hinside hnone
    · have hbehind : first ≤ position := by omega
      obtain ⟨inside, -, hlt, heq⟩ := exists_in_loop hfirst hloop hbehind
      exact hsome inside hlt (heq.symm.trans hnone)

/-! ## Exactness -/

/-- **Resolving typedefs is exact.** It comes to its result after at most as many replacements as
there are typedefs. It gives a type exactly if the chain of the type ends. Then this type is built
on the last base of the chain, which is no typedef, and it resolves to itself. If the chain does not
end, the first name that comes up again is reported. -/
theorem resolve_exact (decls : Declarations) (type : CxxType) :
    ∃ count ≤ decls.typedefs.size, decls.Resolves [] type count (decls.resolve type) ∧
      ((∃ resolved, decls.resolve type = .ok resolved) ↔
        ∃ position, decls.chain type.root position = none) ∧
      (∀ resolved, decls.resolve type = .ok resolved →
        decls.chain type.root count = some resolved.root ∧
        decls.chain type.root (count + 1) = none ∧
        (∀ name, resolved.baseName? = some name → decls.typedefs.find? name = none) ∧
        decls.resolve resolved = .ok resolved) ∧
      ((∀ position, decls.chain type.root position ≠ none) →
        ∃ name first, decls.resolve type = .error ⟨name⟩ ∧
          decls.IsFirstRepeated type name first count) := by
  obtain ⟨count, hcount, hresolves⟩ := resolve_resolves decls type
  refine ⟨count, hcount, hresolves, ?_⟩
  cases hresult : decls.resolve type with
  | ok resolved =>
    obtain ⟨hlast, hresolved⟩ := (hresult ▸ hresolves).last
    have hend : decls.chain type.root (count + 1) = none := by
      rw [chain, hlast, Option.bind_some, next?_eq_none.2 hresolved]
    refine ⟨⟨fun _ => ⟨_, hend⟩, fun _ => ⟨_, rfl⟩⟩, ?_, fun hall => absurd hend (hall _)⟩
    rintro _ ⟨⟩
    exact ⟨hlast, hend, fun name hname => hresolved name (baseName?_eq_some.1 hname),
      resolve_of_isResolved hresolved⟩
  | error error =>
    obtain ⟨⟨first, hfirst⟩, hall⟩ := (hresult ▸ hresolves).isFirstRepeated
    refine ⟨⟨nofun, fun ⟨position, hnone⟩ => absurd hnone (hall position)⟩, nofun, fun _ => ?_⟩
    exact ⟨error.name, first, rfl, hfirst⟩

/-- The loop is named by the typedef at which it is entered. -/
example : ({ name := "loops"
             typedefs := Dict.ofList [("Handle", .named "Loop"), ("Loop", .pointer (.named "Next")),
               ("Next", .named "Loop")] } : Declarations).resolve (.named "Handle") =
    .error ⟨"Loop"⟩ := by
  cbv

end FortranBindings.Declarations
