import FortranBindings.Proofs.Generator.Description

/-!
# The names of a module

A Fortran module declares types, enumerators, groups of overloads and proxies, and its names stand
in one scope. They come from tables that are not compared with each other: the derived types of
classes, the wrappers that proxies are made from, the groups and the placeholders. So entities of
one kind have different names, enumerators and the proxies of overloaded callables excepted
(`Generate.moduleNames_apart`). Entities of different kinds may share a name, except for a shell and
a proxy with a prefix (`Generate.moduleNames_meet`).
-/

namespace FortranBindings

/-- What a name in a Fortran module stands for. -/
inductive EntityKind
  /-- The derived type of a class. -/
  | derivedType
  /-- The derived type that stands for a class which is not known. -/
  | shell
  /-- The marker or a value of an enum. -/
  | enumerator
  /-- A group of overloaded functions. -/
  | generic
  /-- The proxy of a function that is not overloaded. -/
  | function
  /-- The proxy of a member that is not overloaded. -/
  | member
  /-- The proxy of an overloaded callable. -/
  | overloaded
  deriving DecidableEq

namespace EntityKind

/-- Is an entity of this kind a type or a part of one? -/
def isType : EntityKind → Bool
  | derivedType | shell | enumerator => true
  | _ => false

/-- Is an entity of this kind a proxy? -/
def isProxy : EntityKind → Bool
  | function | member | overloaded => true
  | _ => false

/-- Are names given once among the entities of this kind? -/
def isUnique : EntityKind → Bool
  | derivedType | shell | generic | function | member => true
  | enumerator | overloaded => false

/-- Do the names of this kind start with the prefix of proxies? -/
def isPrefixed : EntityKind → Bool
  | member | overloaded => true
  | _ => false

/-- Do entities of the two kinds always have different names? -/
def apart (kind other : EntityKind) : Bool :=
  kind = other && kind.isUnique || kind = shell && other.isPrefixed ||
    other = shell && kind.isPrefixed

/-- The kind of the proxy of a callable. -/
def ofCallable (callable : Callable) (owner : Option Class) : EntityKind :=
  if callable.isOverloaded then overloaded else if owner.isSome then member else function

theorem isProxy_eq_false_of_isType {kind : EntityKind} :
    kind.isType = true → kind.isProxy = false := by
  cases kind <;> decide

theorem isProxy_of_isPrefixed {kind : EntityKind} :
    kind.isPrefixed = true → kind.isProxy = true := by
  cases kind <;> decide

theorem isProxy_ofCallable (callable : Callable) (owner : Option Class) :
    (ofCallable callable owner).isProxy = true := by
  unfold ofCallable
  split
  · rfl
  · split <;> rfl

theorem isOverloaded_of_isUnique {callable : Callable} {owner : Option Class}
    (h : (ofCallable callable owner).isUnique = true) : callable.isOverloaded = false := by
  unfold ofCallable at h
  cases hoverloaded : callable.isOverloaded with
  | true =>
    rw [hoverloaded] at h
    cases h
  | false => rfl

theorem ofCallable_eq_of_plain {callable : Callable} (h : callable.isOverloaded = false)
    (owner : Option Class) :
    ofCallable callable owner = if owner.isSome then member else function := by
  rw [ofCallable, h]
  rfl

end EntityKind

/-- The entities that the definition of a type declares. -/
def TypeBlock.entities : TypeBlock → List (EntityKind × String)
  | enumeration enumerators => enumerators.map fun e => (.enumerator, e.1)
  | derived cls _ => [(.derivedType, cls.name)]
  | shell name _ => [(.shell, name)]

theorem TypeBlock.isType_of_mem_entities {block : TypeBlock} {entity : EntityKind × String}
    (h : entity ∈ block.entities) : entity.1.isType = true := by
  cases block with
  | enumeration enumerators =>
    obtain ⟨e, -, rfl⟩ := List.mem_map.1 h
    rfl
  | derived cls data =>
    obtain rfl := List.mem_singleton.1 h
    rfl
  | shell name data =>
    obtain rfl := List.mem_singleton.1 h
    rfl

/-- An entity of a type that has its name for itself is a derived type. -/
theorem TypeBlock.name_of_mem_entities {block : TypeBlock} {entity : EntityKind × String}
    (h : entity ∈ block.entities) (hunique : entity.1.isUnique = true) :
    (entity.1 = .derivedType ∧ block.derivedName? = some entity.2) ∨
      (entity.1 = .shell ∧ block.shellName? = some entity.2) := by
  cases block with
  | enumeration enumerators =>
    obtain ⟨e, -, rfl⟩ := List.mem_map.1 h
    cases hunique
  | derived cls data =>
    obtain rfl := List.mem_singleton.1 h
    exact .inl ⟨rfl, rfl⟩
  | shell name data =>
    obtain rfl := List.mem_singleton.1 h
    exact .inr ⟨rfl, rfl⟩

/-- The names that a module declares: those of types, of groups of overloads and of routines. -/
def ModuleParts.entityNames (parts : ModuleParts) : List String :=
  (parts.types.flatMap TypeBlock.entities).map (·.2) ++ parts.overloads.names ++
    parts.routines.map Routine.name

namespace Generate

/-- The entities that a module declares, with their kinds. -/
def entities (setup : Setup) : List (EntityKind × String) :=
  (finalState setup).parts.types.flatMap TypeBlock.entities ++
    (finalState setup).parts.overloads.names.map (.generic, ·) ++
    (Ledger.callables setup setup.sources.decls.entries).map fun c =>
      (.ofCallable c.1 c.2, Proxy.routineName setup.config c.1 c.2)

variable {setup : Setup} {entries : List Entry} {openNames shells : List String}
  {state : GeneratorState}

/-! ## Types -/

theorem pairwise_typeEntities (h : Describes setup entries [] shells state)
    (hproxies : setup.config.proxyClasses = true) (hshells : shells.Nodup) :
    (state.parts.types.flatMap TypeBlock.entities).Pairwise fun a b =>
      a.1 = b.1 → a.1.isUnique = true → a.2 ≠ b.2 := by
  have hderived : (state.parts.types.filterMap TypeBlock.derivedName?).Nodup := by
    rw [← List.append_nil (state.parts.types.filterMap _), h.holds.derivedNames hproxies]
    exact Ledger.nodup_publicNames_classes setup entries
  rw [← h.holds.shellNames] at hshells
  rw [List.Nodup, List.pairwise_filterMap] at hderived hshells
  rw [List.pairwise_flatMap]
  refine ⟨fun block _ => ?_, (hderived.and hshells).imp fun hne a ha b hb hsame hunique => ?_⟩
  · cases block with
    | enumeration enumerators =>
      exact List.pairwise_map.2 (List.pairwise_of_forall fun _ _ _ hunique => nomatch hunique)
    | derived => exact List.pairwise_singleton ..
    | shell => exact List.pairwise_singleton ..
  · rcases TypeBlock.name_of_mem_entities ha hunique with ⟨hkind, hname⟩ | ⟨hkind, hname⟩ <;>
      rcases TypeBlock.name_of_mem_entities hb (hsame ▸ hunique) with
        ⟨hkind', hname'⟩ | ⟨hkind', hname'⟩
    · exact hne.1 _ hname _ hname'
    · cases hkind.symm.trans (hsame.trans hkind')
    · cases hkind.symm.trans (hsame.trans hkind')
    · exact hne.2 _ hname _ hname'

/-! ## Proxies -/

theorem routineName_of_function (config : Config) {f : Callable} (h : f.isOverloaded = false) :
    Proxy.routineName config f none = f.symbolIn none :=
  if_pos ⟨rfl, by rw [h]; rfl⟩

theorem routineName_of_prefixed (config : Config) {f : Callable} {owner : Option Class}
    (h : (EntityKind.ofCallable f owner).isPrefixed = true) :
    Proxy.routineName config f owner =
      config.proxyPrefix ++ f.symbolIn owner ++ f.overload.getD "" := by
  refine if_neg fun ⟨hnone, hplain⟩ => ?_
  rw [EntityKind.ofCallable, if_neg (by simpa using hplain), Option.isNone_iff_eq_none.1 hnone] at h
  cases h

theorem symbolIn_eq_of_routineName_eq {config : Config} {f f' : Callable}
    {owner owner' : Option Class} (hplain : f.isOverloaded = false)
    (hplain' : f'.isOverloaded = false)
    (hkind : EntityKind.ofCallable f owner = EntityKind.ofCallable f' owner')
    (h : Proxy.routineName config f owner = Proxy.routineName config f' owner') :
    f.symbolIn owner = f'.symbolIn owner' := by
  have hof := EntityKind.ofCallable_eq_of_plain hplain owner
  have hof' := EntityKind.ofCallable_eq_of_plain hplain' owner'
  cases owner with
  | none =>
    cases owner' with
    | none =>
      rwa [routineName_of_function config hplain, routineName_of_function config hplain'] at h
    | some cls' => cases hof.symm.trans (hkind.trans hof')
  | some cls =>
    cases owner' with
    | none => cases hof.symm.trans (hkind.trans hof')
    | some cls' =>
      rw [routineName_of_prefixed config (by rw [hof]; rfl),
        routineName_of_prefixed config (by rw [hof']; rfl), Callable.overload_eq_none hplain,
        Callable.overload_eq_none hplain'] at h
      exact (String.append_right_inj _).1 ((String.append_left_inj _).1 h)

/-- Two proxies of one kind share their name only if the callables share the name of their wrapper,
and no two that are not overloaded do. -/
theorem pairwise_proxyEntities (setup : Setup) (entries : List Entry) :
    ((Ledger.callables setup entries).map fun c => (EntityKind.ofCallable c.1 c.2,
      Proxy.routineName setup.config c.1 c.2)).Pairwise fun a b =>
        a.1 = b.1 → a.1.isUnique = true → a.2 ≠ b.2 := by
  rw [List.pairwise_map]
  refine (Ledger.pairwise_callables setup entries).imp fun {a b} hne hkind hunique heq => ?_
  have hplain := EntityKind.isOverloaded_of_isUnique hunique
  have hplain' := EntityKind.isOverloaded_of_isUnique (hkind ▸ hunique)
  refine hne hplain hplain' ?_
  rw [wrapperName, wrapperName, symbolIn_eq_of_routineName_eq hplain hplain' hkind heq,
    Callable.overload_eq_none hplain, Callable.overload_eq_none hplain']

/-- A placeholder and a name with the prefix of proxies differ, also without regard to case. -/
theorem toLower_placeholderName_ne (type : CxxType) (text : String) :
    (placeholderName type).toLower ≠ ("swigf_" ++ text).toLower := by
  have hfirst : ("SWIGTYPE_".toList.map Char.toLower).take 5 ≠
      ("swigf_".toList.map Char.toLower).take 5 := by
    decide
  exact Text.toLower_append_ne (by decide) hfirst _ text

/-! ## Modules -/

theorem map_snd_entities (hconfig : setup.config = {})
    (h : Describes setup setup.sources.decls.entries [] shells (finalState setup)) :
    (entities setup).map (·.2) = (finalState setup).parts.entityNames := by
  have hnames : (finalState setup).parts.routines.map Routine.name =
      (Ledger.callables setup setup.sources.decls.entries).map fun c =>
        Proxy.routineName setup.config c.1 c.2 := by
    rw [h.holds.routines (by rw [hconfig])]
    simp [proxyName?, hconfig]
  simp [entities, ModuleParts.entityNames, hnames, Function.comp_def]

/-- An entity is a type, a group of overloads or a proxy. -/
theorem mem_entities {entity : EntityKind × String} (h : entity ∈ entities setup) :
    (∃ block ∈ (finalState setup).parts.types, entity ∈ block.entities) ∨
      entity.1 = .generic ∨
      ∃ callable owner, entity =
        (.ofCallable callable owner, Proxy.routineName setup.config callable owner) := by
  rcases List.mem_append.1 h with h | h
  · rcases List.mem_append.1 h with h | h
    · exact .inl (List.mem_flatMap.1 h)
    · obtain ⟨name, -, rfl⟩ := List.mem_map.1 h
      exact .inr (.inl rfl)
  · obtain ⟨⟨callable, owner⟩, -, rfl⟩ := List.mem_map.1 h
    exact .inr (.inr ⟨callable, owner, rfl⟩)

theorem pairwise_entities (hproxies : setup.config.proxyClasses = true) (hshells : shells.Nodup)
    (h : Describes setup setup.sources.decls.entries [] shells (finalState setup)) :
    (entities setup).Pairwise fun a b => a.1 = b.1 → a.1.isUnique = true → a.2 ≠ b.2 := by
  refine List.pairwise_append.2 ⟨List.pairwise_append.2
    ⟨pairwise_typeEntities h hproxies hshells, ?_, ?_⟩, pairwise_proxyEntities setup _, ?_⟩
  · exact List.pairwise_map.2 (h.holds.nodup_overloads.imp fun hne _ _ => hne)
  · intro a ha b hb hkind
    obtain ⟨block, -, hblock⟩ := List.mem_flatMap.1 ha
    obtain ⟨name, -, rfl⟩ := List.mem_map.1 hb
    have htype := TypeBlock.isType_of_mem_entities hblock
    rw [hkind] at htype
    cases htype
  · intro a ha b hb hkind
    obtain ⟨c, -, rfl⟩ := List.mem_map.1 hb
    have hproxy : a.1.isProxy = true := hkind ▸ EntityKind.isProxy_ofCallable c.1 c.2
    rcases List.mem_append.1 ha with ha | ha
    · obtain ⟨block, -, hblock⟩ := List.mem_flatMap.1 ha
      have htype := TypeBlock.isType_of_mem_entities hblock
      cases hproxy.symm.trans (EntityKind.isProxy_eq_false_of_isType htype)
    · obtain ⟨name, -, rfl⟩ := List.mem_map.1 ha
      cases hproxy

/-- The name of a shell is a placeholder. -/
theorem exists_eq_placeholderName
    (hplaceholders : ∀ name ∈ shells, ∃ type, name = placeholderName type)
    (h : Describes setup setup.sources.decls.entries [] shells (finalState setup))
    {name : String} (hname : (.shell, name) ∈ entities setup) :
    ∃ type, name = placeholderName type := by
  rcases mem_entities hname with ⟨block, hmem, hblock⟩ | hgeneric | ⟨callable, owner, heq⟩
  · rcases TypeBlock.name_of_mem_entities hblock rfl with ⟨hkind, -⟩ | ⟨-, hshell⟩
    · cases hkind
    · refine hplaceholders name ?_
      rw [← h.holds.shellNames]
      exact List.mem_filterMap.2 ⟨block, hmem, hshell⟩
  · cases hgeneric
  · have hproxy := EntityKind.isProxy_ofCallable callable owner
    obtain ⟨hkind, -⟩ := Prod.mk.inj heq
    rw [← hkind] at hproxy
    cases hproxy

/-- A name of a kind with a prefix starts with the prefix. -/
theorem exists_eq_proxyPrefix {kind : EntityKind} {name : String}
    (hname : (kind, name) ∈ entities setup) (hprefixed : kind.isPrefixed = true) :
    ∃ text, name = setup.config.proxyPrefix ++ text := by
  have hproxy := EntityKind.isProxy_of_isPrefixed hprefixed
  rcases mem_entities hname with ⟨block, -, hblock⟩ | hgeneric | ⟨callable, owner, heq⟩
  · have htype := TypeBlock.isType_of_mem_entities hblock
    cases hproxy.symm.trans (EntityKind.isProxy_eq_false_of_isType htype)
  · obtain rfl : kind = .generic := hgeneric
    cases hproxy
  · obtain ⟨rfl, rfl⟩ := Prod.mk.inj heq
    rw [routineName_of_prefixed setup.config hprefixed, String.append_assoc]
    exact ⟨_, rfl⟩

/-- **Entities of one kind have names of their own.** In a module with the default configuration two
entities of one kind have different names, unless they are enumerators or proxies of overloaded
callables. There are no entities but those listed, and a shell has another name than a proxy with a
prefix, also if case is disregarded. -/
theorem moduleNames_apart {module : GeneratedModule} (hconfig : setup.config = {})
    (h : generate setup = .ok module) :
    module.fortranSource =
      (finalState setup).parts.fortranSource setup.config setup.moduleName ∧
    (entities setup).map (·.2) = (finalState setup).parts.entityNames ∧
    ((entities setup).Pairwise fun a b => a.1 = b.1 → a.1.isUnique = true → a.2 ≠ b.2) ∧
    ∀ shell proxy kind, (.shell, shell) ∈ entities setup → (kind, proxy) ∈ entities setup →
      kind.isPrefixed = true → shell.toLower ≠ proxy.toLower := by
  obtain ⟨shells, hgenerate, hstate, hshells, hplaceholders⟩ :=
    generate_describes (freeFunction_of_generate h)
  obtain rfl := Except.ok.inj (hgenerate.symm.trans h)
  have hproxies : setup.config.proxyClasses = true := by rw [hconfig]
  refine ⟨rfl, map_snd_entities hconfig hstate, pairwise_entities hproxies hshells hstate, ?_⟩
  intro shell proxy kind hshell hproxy hprefixed
  obtain ⟨type, rfl⟩ := exists_eq_placeholderName hplaceholders hstate hshell
  obtain ⟨text, rfl⟩ := exists_eq_proxyPrefix hproxy hprefixed
  rw [hconfig]
  exact toLower_placeholderName_ne type text

/-- A library in which names of all kinds meet: the one of a placeholder, which is noted for a
parameter of the class `Gadget`, and the one of the proxy of a method. Other names differ from them
in their case only. -/
def meetingSetup : Setup where
  sources := ⟨
    { name := "meeting"
      items := [
        .cls { name := "Color", members := [method "mix", method "Mix"] },
        .cls { name := "COLOR" },
        variant "Color" "_mix" [gadget "Gadget"],
        variant "Color" "_mix" [gadget "GADGET"],
        variant "COLOR" "_1" [],
        .cls { name := "SWIGTYPE_Gadget" },
        .enumeration { name := "SWIGTYPE_Gadget", variants := [("SWIGTYPE_Gadget", 0)] },
        .function { name := "SWIGTYPE_Gadget", kind := .freeFunction },
        variant "SWIGTYPE_Gadget" "_1" [],
        .cls { name := "swigf_Color_mix" },
        .enumeration { name := "swigf_Color_mix", variants := [] },
        .function { name := "swigf_Color_mix", kind := .freeFunction },
        .function { name := "swigf_color_mix", kind := .freeFunction },
        variant "swigf_Color_mix" "_1" []] },
    fun _ _ => none⟩
  config := {}
where
  method (name : String) : Callable := { name, kind := .method true }
  variant (name overload : String) (parameters : List Parameter) : Item :=
    .function { name, kind := .freeFunction, overload := some overload, parameters }
  gadget (name : String) : Parameter :=
    { type := .pointer (.named name)
      typemaps := Dict.ofList [("ftype", { code := "type($fclassname)" })] }

theorem freeFunction_of_meeting :
    ∀ f ∈ meetingSetup.sources.decls.functions, f.kind = .freeFunction := by
  decide

theorem entities_meetingSetup : entities meetingSetup = [
    (.derivedType, "Color"), (.derivedType, "COLOR"), (.derivedType, "SWIGTYPE_Gadget"),
    (.enumerator, "SWIGTYPE_Gadget"), (.enumerator, "SWIGTYPE_Gadget"),
    (.derivedType, "swigf_Color_mix"), (.enumerator, "swigf_Color_mix"),
    (.shell, "SWIGTYPE_Gadget"), (.shell, "SWIGTYPE_GADGET"),
    (.generic, "Color"), (.generic, "COLOR"), (.generic, "SWIGTYPE_Gadget"),
    (.generic, "swigf_Color_mix"),
    (.member, "swigf_Color_mix"), (.member, "swigf_Color_Mix"),
    (.overloaded, "swigf_Color_mix"), (.overloaded, "swigf_Color_mix"),
    (.overloaded, "swigf_COLOR_1"), (.function, "SWIGTYPE_Gadget"),
    (.overloaded, "swigf_SWIGTYPE_Gadget_1"), (.function, "swigf_Color_mix"),
    (.function, "swigf_color_mix"), (.overloaded, "swigf_swigf_Color_mix_1")] := by
  decide +kernel

section

variable {α β : Type}

/-- Entities of two kinds share a name, up to what `key` makes of it. -/
def Meet (key : String → α) (kind other : EntityKind) (entities : List (EntityKind × String)) :
    Prop :=
  ¬entities.Pairwise fun a b =>
    (a.1 = kind ∧ b.1 = other) ∨ (a.1 = other ∧ b.1 = kind) → key a.2 ≠ key b.2

instance [DecidableEq α] (key : String → α) (kind other : EntityKind)
    (entities : List (EntityKind × String)) : Decidable (Meet key kind other entities) :=
  inferInstanceAs (Decidable (¬_))

theorem Meet.mono {key : String → α} {key' : String → β} {kind other : EntityKind}
    {entities : List (EntityKind × String)} (h : Meet key kind other entities)
    (hkeys : ∀ name name', key name = key name' → key' name = key' name') :
    Meet key' kind other entities :=
  mt (fun hapart => hapart.imp fun hne hkinds heq => hne hkinds (hkeys _ _ heq)) h

end

/-- **Entities may share a name** in a module without errors: of any two kinds that are not kept
apart, and, if case is disregarded, of any kind. -/
theorem moduleNames_meet : ∃ module, generate meetingSetup = .ok module ∧
    meetingSetup.config = {} ∧ module.hasErrors = false ∧
    ¬((finalState meetingSetup).parts.entityNames.map String.toLower).Nodup ∧
    (∀ kind other, kind.apart other = false → Meet id kind other (entities meetingSetup)) ∧
    ∀ kind, Meet String.toLower kind kind (entities meetingSetup) := by
  obtain ⟨shells, hgenerate, hstate, -, -⟩ := generate_describes freeFunction_of_meeting
  refine ⟨_, hgenerate, rfl, ?_, ?_, ?_, ?_⟩
  · decide +kernel
  · rw [← map_snd_entities rfl hstate, entities_meetingSetup]
    exact fun hnodup => absurd hnodup.of_map (by decide +kernel)
  · rw [entities_meetingSetup]
    intro kind other
    cases kind <;> cases other <;> decide +kernel
  · intro kind
    have hmeet : Meet (fun name => name.toList.map Char.toLower) kind kind
        (entities meetingSetup) := by
      rw [entities_meetingSetup]
      cases kind <;> decide +kernel
    exact hmeet.mono fun _ _ => Text.toLower_eq_of_map

theorem moduleNames_apart_meeting : ∃ module, generate meetingSetup = .ok module ∧
    (finalState meetingSetup).parts.entityNames.length = 23 ∧
    ((entities meetingSetup).Pairwise fun a b => a.1 = b.1 → a.1.isUnique = true → a.2 ≠ b.2) ∧
    "SWIGTYPE_Gadget".toLower ≠ "swigf_Color_mix".toLower := by
  obtain ⟨shells, hgenerate, -, -, -⟩ := generate_describes freeFunction_of_meeting
  obtain ⟨-, hnames, hapart, hshells⟩ := moduleNames_apart rfl hgenerate
  refine ⟨_, hgenerate, ?_, hapart, hshells _ _ .member ?_ ?_ rfl⟩
  · rw [← hnames, entities_meetingSetup]
    rfl
  · rw [entities_meetingSetup]
    decide +kernel
  · rw [entities_meetingSetup]
    decide +kernel

end Generate

end FortranBindings
