import FortranBindings.Proofs.Template.Coverage
import FortranBindings.Proofs.Template.Requests
import FortranBindings.Proofs.Text.Filling
import FortranBindings.Proofs.TypemapTable.Interoperability

/-!
# Code that is found can be filled in

Each operation has its own tokens that values are put in for (`tokensOf`). A template of the
built-in table has either these tokens or the one for a class name, and no other ones
(`Sources.fillable_builtin`). So the code that is found for a request, with the class name put
in, has the tokens of its operation only (`Lookup.find_readyFor`), if the names of classes have no
`$` (`Sources.IsFillable`).
-/

namespace FortranBindings

open Text

variable {sources : Sources} {decls : Declarations} {request : Request} {state next : LookupState}
  {type : CxxType} {operation operation' code : String} {attachments : Attachments}

/-- The tokens that are replaced in the code for an operation. -/
def tokensOf : String → List String
  | "in" | "freearg" => ["$input", "$1", "$1_ltype", "$1_basetype"]
  | "check" | "argout" => ["$input", "$1", "$1_ltype", "$1_basetype", "$cleanup"]
  | "out" => ["$result", "$1", "$1_ltype", "$1_basetype", "$owner", "$cleanup"]
  | "fin" | "fpre" | "fpost" => ["$input"]
  | "fout" | "fcreate" | "frelease" => ["$result", "$imcall", "$owner"]
  | _ => []

/-- The code names no class and can be filled in for an operation. -/
def ReadyFor (operation code : String) : Prop :=
  Text.mentions code classToken = false ∧ Fits (tokensOf operation) code

/-- The code can be filled in for an operation as soon as it names no class. -/
def Fillable (operation code : String) : Prop :=
  (Text.mentions code classToken = true ∧ Fits [classToken] code) ∨ ReadyFor operation code

instance (operation code : String) : Decidable (ReadyFor operation code) :=
  inferInstanceAs (Decidable (_ ∧ _))

instance (operation code : String) : Decidable (Fillable operation code) :=
  inferInstanceAs (Decidable (_ ∨ _))

namespace ReadyFor

theorem of_isLiteral (h : IsLiteral code) : ReadyFor operation code :=
  ⟨TypemapTable.mentions_classToken h, .of_isLiteral h⟩

/-- What counts of an operation is the tokens. -/
theorem of_tokens_eq (h : ReadyFor operation code)
    (heq : tokensOf operation = tokensOf operation') :
    ReadyFor operation' code :=
  ⟨h.1, heq ▸ h.2⟩

theorem isLiteral (h : ReadyFor operation code) (hnone : tokensOf operation = []) :
    IsLiteral code :=
  Text.fits_nil.1 (hnone ▸ h.2)

/-- Code with values for all tokens of its operation has no `$` left. -/
theorem isLiteral_substitute (h : ReadyFor operation code) {replacements : Replacements}
    (htokens : replacements.map (·.1) = tokensOf operation)
    (hvalues : ∀ pair ∈ replacements, IsLiteral pair.2) :
    IsLiteral (substitute code replacements) :=
  Text.isLiteral_substitute (htokens ▸ h.2) hvalues

/-- The lines of the code that was found, filled in, have no `$`. -/
theorem allLiteral_elim {found : Option Typemap} {replacements : Replacements}
    (h : ∀ typemap ∈ found, ReadyFor operation typemap.code)
    (htokens : replacements.map (·.1) = tokensOf operation)
    (hvalues : ∀ pair ∈ replacements, IsLiteral pair.2) :
    AllLiteral (found.elim [] fun typemap => codeLines (substitute typemap.code replacements)) := by
  cases found with
  | none => exact allLiteral_nil
  | some typemap =>
    rw [Option.elim_some]
    exact allLiteral_codeLines ((h typemap rfl).isLiteral_substitute htokens hvalues)

end ReadyFor

theorem Fillable.of_isLiteral (h : IsLiteral code) : Fillable operation code :=
  .inr (.of_isLiteral h)

namespace TypemapTable

variable {cType fortranType : String}

theorem fillable_scalarValueCodes (hc : IsLiteral cType) (hfortran : IsLiteral fortranType) :
    ∀ entry ∈ scalarValueCodes cType fortranType, Fillable entry.1 entry.2 := by
  have hvalue : IsLiteral (fortranType ++ ", value") := isLiteral_append.2 ⟨hfortran, by decide⟩
  have hintent : IsLiteral (fortranType ++ ", intent(in)") :=
    isLiteral_append.2 ⟨hfortran, by decide⟩
  have hproxy : Fillable "fin" "$input" ∧ Fillable "fout" "$result = $imcall" := by decide
  simp only [scalarValueCodes, List.forall_mem_cons]
  exact ⟨.of_isLiteral hc, .of_isLiteral hvalue, .of_isLiteral hfortran, .of_isLiteral hintent,
    .of_isLiteral hfortran, hproxy.1, hproxy.2, List.forall_mem_nil _⟩

theorem fillable_scalarPointerCodes (isConst : Bool) (hc : IsLiteral cType)
    (hfortran : IsLiteral fortranType) :
    ∀ entry ∈ scalarPointerCodes isConst cType fortranType, Fillable entry.1 entry.2 := by
  have hconst : IsLiteral (if isConst then "const " else "") := by cases isConst <;> decide
  have hintent : IsLiteral (if isConst then "in" else "inout") := by cases isConst <;> decide
  have hctype : IsLiteral ((if isConst then "const " else "") ++ cType ++ " *") :=
    isLiteral_append.2 ⟨isLiteral_append.2 ⟨hconst, hc⟩, by decide⟩
  have hftype : IsLiteral
      (fortranType ++ ", target, intent(" ++ (if isConst then "in" else "inout") ++ ")") :=
    isLiteral_append.2
      ⟨isLiteral_append.2 ⟨isLiteral_append.2 ⟨hfortran, by decide⟩, hintent⟩, by decide⟩
  have hpointer : Fillable "imtype" "type(C_PTR), value" ∧ Fillable "imtype:out" "type(C_PTR)" ∧
      Fillable "ftype:out" "type(C_PTR)" := by
    decide
  have hbridge : Fillable "in" castInput ∧ Fillable "out" "$result = $1;" := by decide
  have hproxy : Fillable "fin" "c_loc($input)" ∧ Fillable "fout" "$result = $imcall" := by decide
  simp only [scalarPointerCodes, List.forall_mem_cons]
  exact ⟨.of_isLiteral hctype, hpointer.1, hpointer.2.1, .of_isLiteral hftype, hpointer.2.2,
    hbridge.1, hbridge.2, hproxy.1, hproxy.2, List.forall_mem_nil _⟩

/-- The blocks of a scalar can be filled in if its types have no `$`. -/
theorem fillable_scalarBlocks {scalar : Builtin × String} (hc : IsLiteral scalar.1.spelling)
    (hfortran : IsLiteral scalar.2) :
    ∀ block ∈ scalarBlocks scalar, ∀ entry ∈ block.entries, Fillable entry.1 entry.2 := by
  have hvalue := fillable_scalarValueCodes hc hfortran
  have hpointer (isConst : Bool) := fillable_scalarPointerCodes isConst hc hfortran
  have hin : Fillable "in" castInput ∧ Fillable "in" "$1 = &$input;" := by decide
  have hout : Fillable "out" "$result = $1;" ∧ Fillable "out" "$result = *$1;" := by decide
  simp only [scalarBlocks, List.forall_mem_cons, List.forall_mem_append]
  exact ⟨⟨hvalue, hin.1, hout.1, List.forall_mem_nil _⟩,
    ⟨hvalue, hin.2, hout.2, List.forall_mem_nil _⟩,
    hpointer false, hpointer false, hpointer true, List.forall_mem_nil _⟩

theorem isLiteral_scalarTypes :
    ∀ scalar ∈ scalarTypes, IsLiteral scalar.1.spelling ∧ IsLiteral scalar.2 := by
  decide +kernel

theorem fillable_of_mem_blocks :
    ∀ block ∈ blocks, ∀ entry ∈ block.entries, Fillable entry.1 entry.2 := by
  have hrest : ∀ block ∈ voidBlocks ++ classBlocks ++ enumerationBlocks,
      ∀ entry ∈ block.entries, Fillable entry.1 entry.2 := by
    decide +kernel
  intro block hblock
  rw [blocks, List.append_assoc, List.append_assoc, List.mem_append, List.mem_flatMap,
    ← List.append_assoc] at hblock
  rcases hblock with ⟨scalar, hscalar, hblock⟩ | hblock
  · obtain ⟨hc, hfortran⟩ := isLiteral_scalarTypes scalar hscalar
    exact fillable_scalarBlocks hc hfortran block hblock
  · exact hrest block hblock

end TypemapTable

/-- **The built-in templates can be filled in.** -/
theorem Sources.fillable_builtin {signature : String} {typemap : Typemap}
    (h : (builtin decls).store operation signature = some typemap) :
    Fillable operation typemap.code := by
  rw [store_builtin] at h
  obtain ⟨block, hblock, hentry⟩ := Option.bind_eq_some_iff.1 h
  obtain ⟨code, hlookup, rfl⟩ := Option.map_eq_some_iff.1 hentry
  obtain ⟨before, after, hentries, -⟩ := List.lookup_eq_some_iff.1 hlookup
  have hmem : (operation, code) ∈ block.entries := by
    rw [hentries]
    exact List.mem_append_right _ List.mem_cons_self
  exact TypemapTable.fillable_of_mem_blocks block (TypemapTable.mem_of_blockOf? hblock).1 _ hmem

/-! ## Types and their names -/

namespace CxxType

/-- A type is spelled without a `$` if and only if what it is built on is. -/
theorem isLiteral_signature : IsLiteral type.signature ↔ IsLiteral type.root.spelling := by
  induction type with
  | base c b =>
    have hconst : IsLiteral "const " := by decide
    have hempty : IsLiteral "" := by decide
    rw [signature, isLiteral_append, root]
    cases c <;> simp [hconst, hempty]
  | declared c d inner ih =>
    have hpointer : IsLiteral " *" ∧ IsLiteral "const" ∧ IsLiteral "" := by decide
    have hreference : IsLiteral " &" ∧ IsLiteral " &&" := by decide
    cases d with
    | pointer => cases c <;> simp [signature, root, ih, hpointer]
    | lvalueReference => simp [signature, root, ih, hreference]
    | rvalueReference => simp [signature, root, ih, hreference]

theorem isLiteral_bare : IsLiteral type.bare.signature ↔ IsLiteral type.signature :=
  Iff.trans isLiteral_signature (Iff.symm isLiteral_signature)

/-- An identifier that is made of a type has no `$`. -/
theorem isLiteral_mangle (type : CxxType) : IsLiteral type.mangle := by
  have hconst : ∀ c : Bool, IsLiteral (if c then "q_const__" else "") := by decide
  have henum : IsLiteral "enum_" := by decide
  have hmark : ∀ d : Declarator, IsLiteral d.mangle := by
    intro d
    cases d <;> decide
  induction type with
  | base c b =>
    have hbase : IsLiteral b.mangle := by
      cases b with
      | builtin kind => exact isLiteral_sanitize _
      | named name => exact isLiteral_sanitize _
      | enumeration name => exact isLiteral_append.2 ⟨henum, isLiteral_sanitize _⟩
    exact isLiteral_append.2 ⟨hconst c, hbase⟩
  | declared c d inner ih =>
    exact isLiteral_append.2 ⟨isLiteral_append.2 ⟨hconst c, hmark d⟩, ih⟩

end CxxType

theorem isLiteral_placeholderName (type : CxxType) : IsLiteral (placeholderName type) :=
  isLiteral_append.2 ⟨by decide, type.isLiteral_mangle⟩

/-- No name that templates are filled in with has a `$`, and all templates can be filled in. -/
structure Sources.IsFillable (sources : Sources) : Prop where
  classes : ∀ cls ∈ sources.decls.classes, IsLiteral cls.publicName
  enumerations : ∀ e ∈ sources.decls.enumerations, ∀ marker ∈ e.marker?, IsLiteral marker
  typedefs : ∀ name underlying, sources.decls.typedefs.find? name = some underlying →
    IsLiteral underlying.signature
  store : ∀ operation signature typemap, sources.store operation signature = some typemap →
    Fillable operation typemap.code

namespace Sources.IsFillable

/-- The name that is put in for the class of a type has no `$`. -/
theorem isLiteral_classNameOf (h : sources.IsFillable) (type : CxxType) :
    IsLiteral (Lookup.classNameOf sources type) := by
  have hfallback : IsLiteral fallbackEnumerationKind := by decide
  unfold Lookup.classNameOf fortranName?
  cases hcategory : sources.decls.categorize (sources.decls.resolveOrKeep type).bare with
  | error cycle => exact isLiteral_placeholderName _
  | ok category =>
    obtain ⟨hclass, henum⟩ := Declarations.mem_of_categorize hcategory
    cases category with
    | cls cls => exact h.classes cls (hclass cls rfl)
    | enumeration e =>
      cases hmarker : e.marker? with
      | none => simpa [hmarker] using hfallback
      | some marker => simpa [hmarker] using h.enumerations e (henum e rfl) marker hmarker
    | unknownEnumeration name => exact hfallback
    | void | builtin | unknown => exact isLiteral_placeholderName _

/-- The type that a type resolves to is spelled without a `$` as well. -/
theorem isLiteral_resolveOrKeep (h : sources.IsFillable) (htype : IsLiteral type.signature) :
    IsLiteral (sources.decls.resolveOrKeep type).signature := by
  rw [CxxType.isLiteral_signature] at htype ⊢
  let Spelled (base : CxxType.Base) : Prop := IsLiteral base.spelling
  have htypedefs : ∀ name underlying, sources.decls.typedefs.find? name = some underlying →
      Spelled underlying.root := fun name underlying hfind =>
    CxxType.isLiteral_signature.1 (h.typedefs name underlying hfind)
  exact Declarations.root_resolveOrKeep htypedefs htype

/-- A template with the class name put in can be filled in. -/
theorem readyFor_named (h : sources.IsFillable) {typemap : Typemap}
    (htypemap : Fillable operation typemap.code) (type : CxxType) :
    ReadyFor operation (Lookup.named sources type typemap).code := by
  unfold Lookup.named
  rcases htypemap with ⟨hmentions, hfits⟩ | hready
  · rw [if_pos hmentions]
    refine .of_isLiteral (Text.isLiteral_substitute hfits fun pair hpair => ?_)
    obtain rfl := List.mem_singleton.1 hpair
    exact h.isLiteral_classNameOf type
  · rw [if_neg (Bool.eq_false_iff.1 hready.1)]
    exact hready

end Sources.IsFillable

/-! ## Requests -/

/-- All attached typemaps can be filled in. -/
def Attachments.IsReady (attachments : Attachments) : Prop :=
  ∀ operation typemap, attachments.find? operation = some typemap →
    ReadyFor operation typemap.code

theorem Attachments.isReady_empty : Attachments.IsReady {} := nofun

/-- All variants of the operation have the same tokens, and the attached typemaps can be filled
in. -/
structure Request.IsFillable (request : Request) : Prop where
  tokens : ∀ operation ∈ request.operations,
    tokensOf operation = tokensOf request.mainOperation
  attached : request.attached.IsReady

namespace Request.IsFillable

theorem of_operation {need : Need} {location : Location} (h : attachments.IsReady) :
    Request.IsFillable { operation, type, attached := attachments, need, location } where
  tokens other hother := by
    obtain rfl := List.mem_singleton.1 hother
    rfl
  attached := h

theorem of_suffix {suffix : String} {need : Need} {location : Location}
    (htokens : tokensOf operation = tokensOf (operation ++ ":" ++ suffix))
    (h : attachments.IsReady) :
    Request.IsFillable
      { operation, suffix := some suffix, type, attached := attachments, need, location } where
  tokens other hother := by
    rcases List.mem_cons.1 hother with rfl | hother
    · rfl
    · obtain rfl := List.mem_singleton.1 hother
      exact htokens
  attached := h

theorem of_attached? (h : request.IsFillable) {typemap : Typemap}
    (htypemap : request.attached? = some typemap) :
    ReadyFor request.mainOperation typemap.code := by
  obtain ⟨operation, hoperation, hfind⟩ := List.exists_of_findSome?_eq_some htypemap
  exact (h.attached operation typemap hfind).of_tokens_eq (h.tokens operation hoperation)

end Request.IsFillable

/-- The typemap of an answer. -/
def Answer.typemap : Answer → Typemap
  | found typemap => typemap
  | placeholder typemap => typemap

/-- All answers that are kept can be filled in. -/
def LookupState.IsReady (state : LookupState) : Prop :=
  ∀ (request : Request) answer, state.kept? request = some answer →
    ReadyFor request.mainOperation answer.typemap.code

namespace Lookup

/-- What is kept for a request that was not asked before can be filled in. -/
theorem readyFor_stored (hs : sources.IsFillable) (hr : request.IsFillable) :
    ReadyFor request.mainOperation (stored sources request).typemap.code := by
  unfold stored
  cases hfound : sources.search? request.operations request.type with
  | none => exact .of_isLiteral (isLiteral_placeholderName _)
  | some typemap =>
    obtain ⟨operation, hoperation, hsome⟩ := List.exists_of_findSome?_eq_some hfound
    obtain ⟨signature, -, hstore⟩ := List.exists_of_findSome?_eq_some hsome
    have hready : ReadyFor operation (named sources request.type typemap).code :=
      hs.readyFor_named (hs.store operation signature typemap hstore) _
    exact hready.of_tokens_eq (hr.tokens operation hoperation)

/-- The answer to a request and what is kept for it can be filled in if that holds of what was
kept before. -/
theorem readyFor_respond (hs : sources.IsFillable) (hr : request.IsFillable) {kept : Option Answer}
    (hkept : ∀ answer ∈ kept, ReadyFor request.mainOperation answer.typemap.code) :
    (∀ typemap ∈ (respond sources request kept).1,
      ReadyFor request.mainOperation typemap.code) ∧
    ∀ answer ∈ (respond sources request kept).2,
      ReadyFor request.mainOperation answer.typemap.code := by
  unfold respond
  cases hattached : request.attached? with
  | some typemap =>
    refine ⟨fun found hfound => ?_, hkept⟩
    cases hfound
    exact hs.readyFor_named (.inr (hr.of_attached? hattached)) _
  | none =>
    cases kept with
    | some answer =>
      have hanswer := hkept answer rfl
      cases answer with
      | found typemap => exact ⟨fun found hfound => by cases hfound; exact hanswer, hkept⟩
      | placeholder typemap =>
        cases request.need with
        | optional => exact ⟨nofun, hkept⟩
        | required => exact ⟨fun found hfound => by cases hfound; exact hanswer, hkept⟩
    | none =>
      have hstored := readyFor_stored hs hr
      cases hanswer : stored sources request with
      | found typemap =>
        rw [hanswer] at hstored
        exact ⟨fun found hfound => by cases hfound; exact hstored,
          fun answer hanswer => by cases hanswer; exact hstored⟩
      | placeholder typemap =>
        rw [hanswer] at hstored
        cases request.need with
        | optional => exact ⟨nofun, nofun⟩
        | required =>
          exact ⟨fun found hfound => by cases hfound; exact hstored,
            fun answer hanswer => by cases hanswer; exact hstored⟩

/-- **Code that is found can be filled in.** -/
theorem find_readyFor (hs : sources.IsFillable) (hr : request.IsFillable) :
    Ensures LookupState.IsReady (find sources request) fun found =>
      ∀ typemap ∈ found, ReadyFor request.mainOperation typemap.code := by
  intro state hstate
  obtain ⟨next, hrun, hnext⟩ := find_respond sources request state
  obtain ⟨hfound, hkept⟩ := readyFor_respond hs hr fun answer hanswer =>
    hstate request answer hanswer
  rw [hrun]
  refine ⟨hfound, fun other answer hanswer => ?_⟩
  rw [hnext other] at hanswer
  split at hanswer
  · next hkey =>
    have hoperation : other.mainOperation = request.mainOperation := congrArg Prod.fst hkey
    rw [hoperation]
    exact hkept answer hanswer
  · exact hstate other answer hanswer

theorem code_readyFor (hs : sources.IsFillable) (hr : request.IsFillable) :
    Ensures LookupState.IsReady (Lookup.code sources request)
      (ReadyFor request.mainOperation) := by
  refine (find_readyFor hs hr).bind fun found hfound => .pure ?_
  cases found with
  | none => exact .of_isLiteral (by decide)
  | some typemap => exact hfound typemap rfl

/-- With the typemap that is found for an operation the typemaps of a parameter still can be filled
in. -/
theorem attach_isReady (hs : sources.IsFillable) {parameter : Parameter}
    (h : parameter.typemaps.IsReady) (operation : String) (need : Need) (location : Location) :
    Ensures LookupState.IsReady (attach sources operation need location parameter)
      Attachments.IsReady := by
  unfold attach
  split
  · exact .pure h
  · have hr : Request.IsFillable { operation, type := parameter.type, need, location } :=
      .of_operation Attachments.isReady_empty
    refine (find_readyFor hs hr).bind fun found hfound => ?_
    cases found with
    | none => exact .pure h
    | some typemap =>
      refine .pure fun other attached hattached => ?_
      rw [Dict.find?_insert] at hattached
      split at hattached
      · next heq =>
        cases hattached
        exact heq ▸ hfound typemap rfl
      · exact h other attached hattached

end Lookup

end FortranBindings
