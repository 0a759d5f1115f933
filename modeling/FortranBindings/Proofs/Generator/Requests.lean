import FortranBindings.Bridge.Make
import FortranBindings.Proofs.Bridge.Arguments
import FortranBindings.Proofs.Proxy.Arguments
import FortranBindings.Proofs.Template.Requests
import FortranBindings.Proxy.Make

/-!
# Which templates are asked for

Making a bridge asks for templates of the parameters and of the result (`Bridge.Asked`,
`Bridge.make_asks`), and so does making a proxy (`Proxy.Asked`, `Proxy.make_asks`). What a finalizer
needs is asked for the handle of its class (`Proxy.makeFinalizer_asks`). Together with the requests
for the data of derived types these are all that an item asks (`Item.Asked`).
-/

namespace FortranBindings

variable {sources : Sources} {sort : Request → Prop}

namespace Bridge

/-- A request that making the bridge of a declaration asks. -/
inductive Asked (callable : Callable) (owner : Option Class) : Request → Prop
  | parameter {parameter : Parameter} {operation : String}
    (hparameter : parameter ∈ callable.parametersIn owner)
    (hop : operation ∈ ["in", "ctype", "imtype"]) (attached : Attachments) (location : Location) :
    Asked callable owner
      { operation, type := parameter.type, attached, need := .required, location }
  /-- Code for a parameter that there may be none of. -/
  | option {parameter : Parameter} {operation : String}
    (hparameter : parameter ∈ callable.parametersIn owner)
    (hop : operation ∈ ["freearg", "check", "argout"]) (attached : Attachments)
    (location : Location) :
    Asked callable owner
      { operation, type := parameter.type, attached, need := .optional, location }
  | result {operation : String} {suffix : Option String}
    (hop : (operation, suffix) ∈ [("ctype", some "out"), ("imtype", some "out"), ("out", none)])
    (location : Location) :
    Asked callable owner
      { operation, suffix, type := callable.resultIn owner, need := .required, location }

/-- The types that making a bridge looks templates up for. -/
def askedTypes (callable : Callable) (owner : Option Class) : List CxxType :=
  callable.resultIn owner :: (callable.parametersIn owner).map Parameter.type

section

variable {callable : Callable} {owner : Option Class} {slot : Slot}

theorem Asked.type_mem {request : Request} (h : Asked callable owner request) :
    request.type ∈ askedTypes callable owner := by
  cases h with
  | parameter hparameter => exact List.mem_cons_of_mem _ (List.mem_map_of_mem hparameter)
  | option hparameter => exact List.mem_cons_of_mem _ (List.mem_map_of_mem hparameter)
  | result => exact List.mem_cons_self

theorem Asked.colon_notMem {request : Request} (h : Asked callable owner request) :
    ':' ∉ request.operation.toList := by
  cases h with
  | parameter _ hop =>
    have hall : ∀ operation ∈ ["in", "ctype", "imtype"], ':' ∉ operation.toList := by decide
    exact hall _ hop
  | option _ hop =>
    have hall : ∀ operation ∈ ["freearg", "check", "argout"], ':' ∉ operation.toList := by decide
    exact hall _ hop
  | result hop =>
    have hall : ∀ pair ∈ [("ctype", some "out"), ("imtype", some "out"), ("out", none)],
        ':' ∉ pair.1.toList := by decide
    exact hall _ hop

theorem attach_asks {parameter : Parameter} (h : parameter ∈ callable.parametersIn owner)
    (location : Location) : Lookup.Asks sources (Asked callable owner)
      (Lookup.attach sources "in" .required location parameter) := by
  unfold Lookup.attach
  split
  · exact .pure _
  · refine (Lookup.Asks.find (.parameter h (by decide) _ _)).bind fun found => ?_
    cases found <;> exact .pure _

theorem Slot.optionalLines_asks (h : slot.parameter ∈ callable.parametersIn owner)
    (location : Location) (replacements : Text.Replacements) {operation : String}
    (hop : operation ∈ ["freearg", "check", "argout"]) :
    Lookup.Asks sources (Asked callable owner)
      (slot.optionalLines sources location replacements operation) := by
  refine (Lookup.Asks.find (.option h hop _ _)).bind fun found => ?_
  cases found <;> exact .pure _

theorem Slot.argument_asks (h : slot.parameter ∈ callable.parametersIn owner)
    (location : Location) (input : Option Typemap) :
    Lookup.Asks sources (Asked callable owner) (slot.argument sources location input) := by
  unfold argument
  split
  · exact .pure _
  · refine (Lookup.Asks.code (.parameter h (by decide) _ _)).bind fun cType => ?_
    exact (Lookup.Asks.code (.parameter h (by decide) _ _)).bind fun fortranType => .pure _

theorem fragments_asks (h : slot.parameter ∈ callable.parametersIn owner) (location : Location)
    (cleanup : List String) :
    Lookup.Asks sources (Asked callable owner) (fragments sources location cleanup slot) := by
  refine (Lookup.Asks.find (.parameter h (by decide) _ _)).bind fun template => ?_
  refine (slot.argument_asks h _ _).bind fun argument => ?_
  refine (slot.optionalLines_asks h _ _ (by decide)).bind fun check => ?_
  exact (slot.optionalLines_asks h _ _ (by decide)).bind fun argout => .pure _

theorem outputLines_asks (held : Held) (cleanup : List String) :
    Lookup.Asks sources (Asked callable owner)
      (outputLines sources callable (callable.resultIn owner) held cleanup) := by
  unfold outputLines
  split
  · exact .pure _
  · exact (Lookup.Asks.code (.result (by decide) _)).bind fun template => .pure _

theorem fortranResult_asks (wrapper : Wrapper) (location : Location) :
    Lookup.Asks sources (Asked callable owner) (wrapper.fortranResult sources
      { operation := "imtype", suffix := some "out", type := callable.resultIn owner,
        need := .required, location }) := by
  unfold Wrapper.fortranResult
  split
  · exact .pure _
  · exact (Lookup.Asks.code (.result (by decide) _)).bind fun type => .pure _

end

/-- Making a bridge asks for templates of its parameters and of its result. -/
theorem make_asks (callable : Callable) (owner : Option Class) (name : String) :
    Lookup.Asks sources (Asked callable owner) (make sources callable owner name).run := by
  unfold make
  refine .run_bind (.run_lift (.code (.result (by decide) _))) fun returnType => ?_
  refine .run_bind (.run_lift (.mapM fun p hp => attach_asks hp _)) fun attachments => ?_
  refine .run_bind (.run_lift (.mapM fun slot hs => ?_)) fun cleanups => ?_
  · exact slot.optionalLines_asks (parameter_mem_of_mem_slotsOf hs) _ _ (by decide)
  refine .run_bind (.run_lift (.mapM fun slot hs => ?_)) fun parts => ?_
  · exact fragments_asks (parameter_mem_of_mem_slotsOf hs) _ _
  refine .run_bind (.run_liftExcept _) fun action => ?_
  refine .run_bind (.run_lift (outputLines_asks _ _)) fun output => ?_
  exact .run_bind (.run_lift (fortranResult_asks _ _)) fun fortranResult => .pure _

end Bridge

namespace Proxy

/-- A request that making the proxy of a bridge asks. -/
inductive Asked (bridge : Bridge) (mode : ProxyMode) : Request → Prop
  | parameter {parameter : Parameter} {operation : String}
    (hparameter : parameter ∈ bridge.parameters)
    (hop : operation ∈ ["ftype", "fin"]) (attached : Attachments) (location : Location) :
    Asked bridge mode { operation, type := parameter.type, attached, need := .required, location }
  /-- Code for a parameter that there may be none of. -/
  | option {parameter : Parameter} {operation : String} (hparameter : parameter ∈ bridge.parameters)
    (hop : operation ∈ ["fpre", "fpost"]) (attached : Attachments) (location : Location) :
    Asked bridge mode { operation, type := parameter.type, attached, need := .optional, location }
  | result (hmode : mode = .function) (location : Location) :
    Asked bridge mode
      { operation := "ftype", suffix := some "out", type := bridge.result, need := .required,
        location }
  | body (location : Location) :
    Asked bridge mode
      { operation := (bodyOperation bridge mode).1, type := (bodyOperation bridge mode).2,
        need := .required, location }

theorem fragments_asks {bridge : Bridge} {slot : Slot} (h : slot.parameter ∈ bridge.parameters)
    (location : Location) (mode : ProxyMode) (className : Option String) (name : String) :
    Lookup.Asks sources (Asked bridge mode)
      (fragments sources location mode className slot name) := by
  have hlines : ∀ operation ∈ ["fpre", "fpost"], Lookup.Asks sources (Asked bridge mode) (do
      let typemap ← Lookup.find sources
        { operation, type := slot.parameter.type, attached := slot.attachments,
          need := .optional, location }
      return typemap.elim [] fun t =>
        Text.codeLines (Text.substitute t.code [("$input", name)])) :=
    fun operation hop => (Lookup.Asks.find (.option h hop _ _)).bind fun found => .pure _
  have htype : Lookup.Asks sources (Asked bridge mode) (dummyType sources mode className
      { operation := "ftype", type := slot.parameter.type, attached := slot.attachments,
        need := .required, location } slot.number) := by
    unfold dummyType
    split
    · exact .pure _
    · exact .code (.parameter h (by decide) _ _)
  unfold fragments
  refine htype.bind fun type => ?_
  refine (Lookup.Asks.code (.parameter h (by decide) _ _)).bind fun argument => ?_
  refine (hlines "fpre" (by decide)).bind fun pre => ?_
  exact (hlines "fpost" (by decide)).bind fun post => .pure _

theorem resultDeclaration_asks (bridge : Bridge) (mode : ProxyMode) (location : Location) :
    Lookup.Asks sources (Asked bridge mode)
      (resultDeclaration sources bridge location (mode ≠ .function || bridge.isSubroutine)) := by
  unfold resultDeclaration
  split
  · exact .pure _
  · next hfunction =>
    have hmode : mode = .function := by
      by_contra hne
      exact hfunction (by simp [hne])
    exact (Lookup.Asks.code (.result hmode _)).bind fun type => .pure _

/-- Making a proxy asks for templates of the parameters of its bridge, of its result and of what it
does. -/
theorem make_asks (config : Config) (callable : Callable) (mode : ProxyMode) (bridge : Bridge)
    (owner : Option (Class × String)) : Lookup.Asks sources (Asked bridge mode)
      (make sources config callable mode bridge owner) := by
  unfold make
  refine (resultDeclaration_asks _ _ _).bind fun result => ?_
  refine .bind (.mapM fun pair hp => ?_) fun parts => ?_
  · have hslot := getElem?_of_mem_slots (List.of_mem_zip hp).1
    exact fragments_asks (List.mem_of_getElem? hslot.1) _ _ _ _
  · exact (Lookup.Asks.code (.body _)).bind fun template => .pure _

/-- A request that making the finalizer of a class asks. -/
inductive AskedByFinalizer (cls : Class) : Request → Prop
  | intro {operation : String} (hop : operation ∈ ["fin", "frelease"]) (location : Location) :
    AskedByFinalizer cls { operation, type := cls.handle false, need := .required, location }

theorem makeFinalizer_asks (config : Config) (cls : Class) (className : String)
    (bridge : Bridge) : Lookup.Asks sources (AskedByFinalizer cls)
      (makeFinalizer sources config cls className bridge) := by
  refine (Lookup.Asks.code (.intro (by decide) _)).bind fun argument => ?_
  exact (Lookup.Asks.code (.intro (by decide) _)).bind fun template => .pure _

end Proxy

/-- A request that generating a declaration asks, as a member of a class if there is one. -/
inductive Callable.Asked (callable : Callable) (owner : Option Class) : Request → Prop
  | bridge {request : Request} (h : Bridge.Asked callable owner request) :
    Asked callable owner request
  | proxy {request : Request} {bridge : Bridge}
    (hparameters : bridge.parameters = callable.parametersIn owner)
    (hresult : bridge.result = callable.resultIn owner)
    (h : Proxy.Asked bridge (.ofKind callable.kind) request) : Asked callable owner request
  | finalizer {request : Request} {cls : Class} (howner : owner = some cls)
    (h : Proxy.AskedByFinalizer cls request) : Asked callable owner request

/-- The request for the data of a derived type. -/
def dataRequest (className : String) (location : Location) : Request where
  operation := "fdata"
  type := .named className
  need := .required
  location := location

/-- A request that generating a class asks. -/
inductive Class.Asked (cls : Class) : Request → Prop
  | member {request : Request} {callable : Callable} (hmember : callable ∈ cls.members)
    (h : callable.Asked (some cls) request) : Asked cls request
  | data (location : Location) : Asked cls (dataRequest cls.name location)

/-- A request that generating an item asks. -/
def Item.Asked : Item → Request → Prop
  | function callable => callable.Asked none
  | cls c => c.Asked
  | enumeration _ => fun _ => False

end FortranBindings
