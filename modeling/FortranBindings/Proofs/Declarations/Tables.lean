import Mathlib.Data.List.Induction
import FortranBindings.Declarations.Tables
import FortranBindings.Proofs.Declarations.ClassLookups
import FortranBindings.Proofs.Registry.Indexed

/-!
# The numbers of classes and enums

Tables that are filled step by step keep the declarations that the same steps make
(`DeclarationTables.Keeps.run`): the registries have the classes and the enums, and each item stands
for what was declared in its place. Whatever is declared later, the number that comes with a class
or an enum stands for it, and so does the item that was added for it
(`DeclarationTables.item?_run`).
-/

namespace FortranBindings

/-- What is added to declarations in one step. -/
inductive DeclarationStep
  | item (item : Item)
  | typedef (typedef : Typedef)
  | header (name : String)
  | init (code : String)

/-- The declarations with one more of them. -/
def Declarations.add (decls : Declarations) : DeclarationStep → Declarations
  | .item (.function callable) => decls.addFunction callable
  | .item (.cls cls) => decls.addClass cls
  | .item (.enumeration enumeration) => decls.addEnumeration enumeration
  | .typedef typedef => decls.addTypedef typedef
  | .header name => { decls with includes := decls.includes ++ [name] }
  | .init code => { decls with init := decls.init ++ [code] }

theorem Declarations.add_item (decls : Declarations) (item : Item) :
    decls.add (.item item) = { decls with items := decls.items ++ [item] } := by
  cases item <;> rfl

/-- Declaring something that is not a class leaves the registry of the classes. -/
theorem Declarations.classRegistry_add (decls : Declarations) {item : Item}
    (h : item.class? = none) : (decls.add (.item item)).classRegistry = decls.classRegistry := by
  rw [add_item, classRegistry, classes, List.filterMap_append]
  simp [h, classRegistry, classes]

/-- The enums, each one under the name that it answers to. -/
def Declarations.enumerationRegistry (decls : Declarations) : Registry Enumeration where
  entries := decls.keyedEnumerations.map (·.2)

/-- Declaring an enum adds it to the registry. -/
theorem Declarations.enumerationRegistry_addEnumeration (decls : Declarations) (e : Enumeration) :
    (decls.addEnumeration e).enumerationRegistry =
      decls.enumerationRegistry.insert (enumerationKey decls.enumerationRegistry.size e) e := by
  simp [enumerationRegistry, keyedEnumerations, enumerations, addEnumeration, Item.enumeration?,
    Registry.insert, Registry.size, List.zipIdx_append]

/-- Searching the numbered pairs from the end finds the last one of a name. -/
theorem Registry.findRev?_zipIdx {α : Type} (pairs : List (String × α)) (name : String) :
    pairs.zipIdx.findRev? (·.1.1 = name) =
      (lastIndex? name pairs).bind fun id => pairs[id]?.map (·, id) := by
  induction pairs using List.reverseRecOn with
  | nil => rfl
  | append_singleton pairs pair ih =>
    rw [List.findRev?_eq_find?_reverse] at ih
    rw [lastIndex?_concat, List.zipIdx_append, List.zipIdx_singleton, Nat.zero_add,
      List.findRev?_eq_find?_reverse, List.reverse_concat, List.find?_cons, ih]
    by_cases hname : pair.1 = name
    · simp [hname]
    · rw [if_neg hname, decide_eq_false hname]
      refine Option.bind_congr fun id hid => ?_
      obtain ⟨value, hvalue⟩ := getElem?_of_lastIndex? hid
      rw [List.getElem?_append_left (List.getElem?_eq_some_iff.1 hvalue).1]

/-- The enum that a name stands for is the one in the registry, with its number. -/
theorem Declarations.getEnumeration?_eq (decls : Declarations) (name : String) :
    decls.getEnumeration? name = (decls.enumerationRegistry.idOf? name).bind fun id =>
      (decls.enumerationRegistry.at? id).map (id, ·) := by
  have hkeyed : decls.keyedEnumerations =
      decls.enumerationRegistry.entries.zipIdx.map fun entry => (entry.2, entry.1) := by
    refine List.ext_getElem? fun i => ?_
    simp only [enumerationRegistry, keyedEnumerations, List.getElem?_map, List.getElem?_zipIdx]
    cases decls.enumerations[i]? <;> simp
  have hfind := Registry.findRev?_zipIdx decls.enumerationRegistry.entries name
  rw [List.findRev?_eq_find?_reverse] at hfind
  rw [getEnumeration?, hkeyed, List.findRev?_eq_find?_reverse, ← List.map_reverse, List.find?_map]
  simp only [Function.comp_def, hfind, Option.map_map, Option.map_bind, Registry.idOf?,
    Registry.at?]

/-- Declaring something that is not an enum leaves the registry of the enums. -/
theorem Declarations.enumerationRegistry_add (decls : Declarations) {item : Item}
    (h : item.enumeration? = none) :
    (decls.add (.item item)).enumerationRegistry = decls.enumerationRegistry := by
  rw [add_item, enumerationRegistry, keyedEnumerations, enumerations, List.filterMap_append]
  simp [h, enumerationRegistry, keyedEnumerations, enumerations]

namespace IndexedRegistry

variable {α : Type} {registry : IndexedRegistry α} {value : α} {id : Nat}

/-- What has a number keeps it when more is added. -/
theorem at?_insert (h : registry.at? id = some value) (name : String) (added : α) :
    (registry.insert name added).at? id = some value :=
  (List.getElem?_append_left (List.getElem?_eq_some_iff.1 h).1).trans h

/-- The number of what is added is the size before. -/
theorem at?_insert_size (registry : IndexedRegistry α) (name : String) (added : α) :
    (registry.insert name added).at? registry.size = some added :=
  List.getElem?_concat_length

end IndexedRegistry

namespace DeclarationTables

variable {tables : DeclarationTables} {decls : Declarations} {numbered : NumberedItem} {item : Item}

/-- The tables with one more declaration. -/
def add (tables : DeclarationTables) : DeclarationStep → DeclarationTables
  | .item item => tables.addItem item
  | .typedef typedef => tables.addTypedef typedef
  | .header name => { tables with includes := tables.includes ++ [name] }
  | .init code => { tables with init := tables.init ++ [code] }

theorem item?_addClass (tables : DeclarationTables) (cls : Class) :
    (tables.addClass cls).2.item? (.cls (tables.addClass cls).1) = some (.cls cls) :=
  congrArg (Option.map Item.cls) (tables.classes.at?_insert_size cls.name cls)

theorem item?_addEnumeration (tables : DeclarationTables) (e : Enumeration) :
    (tables.addEnumeration e).2.item? (.enumeration (tables.addEnumeration e).1) =
      some (.enumeration e) :=
  congrArg (Option.map Item.enumeration) (tables.enumerations.at?_insert_size _ e)

/-! ## Numbers stay -/

/-- What an item stands for, it stands for when more is declared. -/
theorem item?_add (h : tables.item? numbered = some item) (step : DeclarationStep) :
    (tables.add step).item? numbered = some item := by
  have hclass : ∀ cls, (tables.addClass cls).2.item? numbered = some item := by
    intro cls
    cases numbered with
    | cls id =>
      obtain ⟨found, hfound, rfl⟩ := Option.map_eq_some_iff.1 h
      exact Option.map_eq_some_iff.2 ⟨found, IndexedRegistry.at?_insert hfound _ _, rfl⟩
    | function | enumeration => exact h
  have henum : ∀ e, (tables.addEnumeration e).2.item? numbered = some item := by
    intro e
    cases numbered with
    | enumeration id =>
      obtain ⟨found, hfound, rfl⟩ := Option.map_eq_some_iff.1 h
      exact Option.map_eq_some_iff.2 ⟨found, IndexedRegistry.at?_insert hfound _ _, rfl⟩
    | function | cls => exact h
  cases step with
  | item added =>
    cases added with
    | function callable => exact h
    | cls cls => exact hclass cls
    | enumeration e => exact henum e
  | typedef | header | init => exact h

/-- The item that is added for a declaration, if one is added. -/
def added? (tables : DeclarationTables) : DeclarationStep → Option NumberedItem
  | .item (.function callable) => some (.function callable)
  | .item (.cls cls) => some (.cls (tables.addClass cls).1)
  | .item (.enumeration e) => some (.enumeration (tables.addEnumeration e).1)
  | _ => none

theorem items_add (tables : DeclarationTables) (step : DeclarationStep) :
    (tables.add step).items = tables.items ++ (tables.added? step).toList := by
  cases step with
  | item item => cases item <;> rfl
  | typedef | header | init => exact (List.append_nil _).symm

/-- What an item stands for, it stands for after any further steps. -/
theorem item?_run (h : tables.item? numbered = some item) (steps : List DeclarationStep) :
    (steps.foldl add tables).item? numbered = some item := by
  induction steps generalizing tables with
  | nil => exact h
  | cons step steps ih => exact ih (item?_add h step)

theorem items_run (tables : DeclarationTables) (steps : List DeclarationStep) :
    tables.items <+: (steps.foldl add tables).items := by
  induction steps generalizing tables with
  | nil => exact List.prefix_rfl
  | cons step steps ih =>
    have hstep : tables.items <+: (tables.add step).items := by
      rw [items_add]
      exact List.prefix_append _ _
    exact hstep.trans (ih (tables.add step))

/-- What is declared has an item, which stands for it after any further steps. -/
theorem item?_add_run (step : DeclarationStep) (h : tables.added? step = some numbered)
    (hitem : (tables.add step).item? numbered = some item) (steps : List DeclarationStep) :
    (steps.foldl add (tables.add step)).items[tables.items.length]? = some numbered ∧
      (steps.foldl add (tables.add step)).item? numbered = some item := by
  refine ⟨?_, item?_run hitem steps⟩
  obtain ⟨later, hlater⟩ := items_run (tables.add step) steps
  rw [← hlater, items_add, h, List.append_assoc, List.getElem?_append_right (Nat.le_refl _),
    Nat.sub_self]
  rfl

/-- **The number that comes with a class** stands for it, and so does its item. -/
theorem addClass_run (tables : DeclarationTables) (cls : Class) (steps : List DeclarationStep) :
    (steps.foldl add (tables.addClass cls).2).items[tables.items.length]? =
        some (.cls (tables.addClass cls).1) ∧
      (steps.foldl add (tables.addClass cls).2).classes.at? (tables.addClass cls).1 = some cls := by
  obtain ⟨hat, hitem⟩ := item?_add_run (.item (.cls cls)) rfl (item?_addClass tables cls) steps
  obtain ⟨found, hfound, heq⟩ := Option.map_eq_some_iff.1 hitem
  cases heq
  exact ⟨hat, hfound⟩

/-- **The number that comes with an enum** stands for it, and so does its item. -/
theorem addEnumeration_run (tables : DeclarationTables) (e : Enumeration)
    (steps : List DeclarationStep) :
    (steps.foldl add (tables.addEnumeration e).2).items[tables.items.length]? =
        some (.enumeration (tables.addEnumeration e).1) ∧
      (steps.foldl add (tables.addEnumeration e).2).enumerations.at? (tables.addEnumeration e).1 =
        some e := by
  obtain ⟨hat, hitem⟩ := item?_add_run (.item (.enumeration e)) rfl
    (item?_addEnumeration tables e) steps
  obtain ⟨found, hfound, heq⟩ := Option.map_eq_some_iff.1 hitem
  cases heq
  exact ⟨hat, hfound⟩

/-! ## What the tables keep -/

/-- The tables have what is declared, and each item stands for the declaration in its place. -/
structure Keeps (tables : DeclarationTables) (decls : Declarations) : Prop where
  name_eq : tables.name = decls.name
  includes_eq : tables.includes = decls.includes
  init_eq : tables.init = decls.init
  typedefs_eq : tables.typedefs = decls.typedefs
  classes_aligned : tables.classes.IsAligned
  classes_eq : tables.classes.toRegistry = decls.classRegistry
  enumerations_aligned : tables.enumerations.IsAligned
  enumerations_eq : tables.enumerations.toRegistry = decls.enumerationRegistry
  items_eq : tables.items.map tables.item? = decls.items.map some

namespace Keeps

/-- Tables to which nothing was added. -/
theorem of_items_eq_nil (decls : Declarations) (h : decls.items = []) :
    (ofDeclarations decls).Keeps decls := by
  have hclasses : decls.classRegistry = {} := by
    simp [Declarations.classRegistry, Declarations.classes, h]
  have henums : decls.enumerationRegistry = {} := by
    simp [Declarations.enumerationRegistry, Declarations.keyedEnumerations,
      Declarations.enumerations, h]
  rw [ofDeclarations, h]
  exact {
    name_eq := rfl
    includes_eq := rfl
    init_eq := rfl
    typedefs_eq := rfl
    classes_aligned := IndexedRegistry.isAligned_empty
    classes_eq := hclasses.symm
    enumerations_aligned := IndexedRegistry.isAligned_empty
    enumerations_eq := henums.symm
    items_eq := (congrArg (List.map some) h).symm }

/-- The items of before stand for what they stood for, and the new one for what is declared. -/
theorem items_eq_add (h : tables.Keeps decls) (step : DeclarationStep)
    (hadded : tables.added? step = some numbered)
    (hitem : (tables.add step).item? numbered = some item) :
    (tables.add step).items.map (tables.add step).item? = (decls.items ++ [item]).map some := by
  have hold : tables.items.map (tables.add step).item? = decls.items.map some := by
    rw [← h.items_eq]
    refine List.map_congr_left fun numbered hnumbered => ?_
    have hmem : tables.item? numbered ∈ decls.items.map some :=
      h.items_eq ▸ List.mem_map_of_mem hnumbered
    obtain ⟨item, -, hitem⟩ := List.mem_map.1 hmem
    rw [← hitem]
    exact item?_add hitem.symm step
  rw [items_add, hadded, Option.toList_some, List.map_append, List.map_append, hold,
    List.map_singleton, List.map_singleton, hitem]

/-- One more declaration. -/
theorem add (h : tables.Keeps decls) (step : DeclarationStep) :
    (tables.add step).Keeps (decls.add step) := by
  cases step with
  | item item =>
    cases item with
    | function callable =>
      exact { h with
        classes_eq := h.classes_eq.trans (decls.classRegistry_add rfl).symm
        enumerations_eq := h.enumerations_eq.trans (decls.enumerationRegistry_add rfl).symm
        items_eq := h.items_eq_add (.item (.function callable)) rfl rfl }
    | cls cls =>
      have hclasses : (tables.classes.insert cls.name cls).toRegistry =
          (decls.addClass cls).classRegistry := by
        rw [h.classes_aligned.toRegistry_insert, h.classes_eq, Declarations.classRegistry_addClass]
      exact { h with
        classes_aligned := h.classes_aligned.insert cls.name cls
        classes_eq := hclasses
        enumerations_eq := h.enumerations_eq.trans (decls.enumerationRegistry_add rfl).symm
        items_eq := h.items_eq_add (.item (.cls cls)) rfl (item?_addClass tables cls) }
    | enumeration e =>
      have henums : (tables.addEnumeration e).2.enumerations.toRegistry =
          (decls.addEnumeration e).enumerationRegistry := by
        rw [addEnumeration, h.enumerations_aligned.toRegistry_insert,
          ← h.enumerations_aligned.size_toRegistry, h.enumerations_eq,
          Declarations.enumerationRegistry_addEnumeration]
      exact { h with
        classes_eq := h.classes_eq.trans (decls.classRegistry_add rfl).symm
        enumerations_aligned := h.enumerations_aligned.insert _ e
        enumerations_eq := henums
        items_eq := h.items_eq_add (.item (.enumeration e)) rfl (item?_addEnumeration tables e) }
  | typedef typedef =>
    exact { h with
      typedefs_eq := congrArg (·.insert typedef.name typedef.underlying) h.typedefs_eq }
  | header name => exact { h with includes_eq := congrArg (· ++ [name]) h.includes_eq }
  | init code => exact { h with init_eq := congrArg (· ++ [code]) h.init_eq }

/-- **Tables keep the declarations that the same steps make.** -/
theorem run (h : tables.Keeps decls) (steps : List DeclarationStep) :
    (steps.foldl DeclarationTables.add tables).Keeps (steps.foldl Declarations.add decls) := by
  induction steps generalizing tables decls with
  | nil => exact h
  | cons step steps ih => exact ih (h.add step)

/-- The declarations of a library are kept by the tables that they are put into. -/
theorem ofDeclarations (decls : Declarations) : (ofDeclarations decls).Keeps decls := by
  have htables (items : List Item) (tables : DeclarationTables) :
      (items.map DeclarationStep.item).foldl DeclarationTables.add tables =
        items.foldl addItem tables := List.foldl_map
  have hdecls (items : List Item) (decls : Declarations) :
      (items.map DeclarationStep.item).foldl Declarations.add decls =
        { decls with items := decls.items ++ items } := by
    induction items generalizing decls with
    | nil => simp
    | cons item items ih =>
      rw [List.map_cons, List.foldl_cons, ih, Declarations.add_item]
      simp
  have hkept := (of_items_eq_nil { decls with items := [] } rfl).run
    (decls.items.map .item)
  rw [htables, hdecls] at hkept
  exact hkept

variable (h : tables.Keeps decls)

include h in
/-- Looking up a class in the tables. -/
theorem find?_classes (name : String) : tables.classes.find? name = decls.getClass? name := by
  rw [← h.classes_aligned.find?_toRegistry, h.classes_eq, Declarations.find?_classRegistry]

include h in
/-- Looking up an enum in the tables, where it is found with its number. -/
theorem find?_enumerations (name : String) :
    ((tables.enumerations.idOf? name).bind fun id => (tables.enumerations.at? id).map (id, ·)) =
      decls.getEnumeration? name := by
  rw [Declarations.getEnumeration?_eq, h.enumerations_aligned.idOf?_eq, h.enumerations_eq]
  simp only [← h.enumerations_aligned.at?_toRegistry, h.enumerations_eq]

end Keeps

/-- **Numbers are exact.** A registry with an index does what a list of named values does that only
grows and whose last value of a name answers to it. Its parts stay aligned, so a name has the number
of its last position, or none if it was never added, and all that was added is listed in its order.
A number stands for one name and one value for good, and getting a value to change it shadows and
moves nothing.

So in tables that are filled in any way, the lookups are those of the declarations, each item stands
for the declaration in its place, and the number that comes with a class or an enum stands for it
whatever is declared later. -/
theorem numbers_exact {α : Type} (steps : List (RegistryStep α)) (registry : IndexedRegistry α)
    (hrun : ({} : IndexedRegistry α).run? steps = some registry) (decls : Declarations)
    (declared : List DeclarationStep) :
    (({} : Registry α).run? steps = some registry.toRegistry ∧
      ∀ more, (registry.run? more).map IndexedRegistry.toRegistry =
        registry.toRegistry.run? more) ∧
    (registry.names.length = registry.values.length ∧
      registry.entries.map Prod.fst = registry.names ∧
      registry.entries.map Prod.snd = registry.values) ∧
    (∀ name, (∀ id, registry.idOf? name = some id → id < registry.size) ∧
      (∀ id, registry.idOf? name = some id ↔ registry.names[id]? = some name ∧
        ∀ later > id, registry.names[later]? ≠ some name) ∧
      (registry.idOf? name = none ↔ name ∉ registry.names)) ∧
    (∀ name value, let next := registry.insert name value
      next.names[registry.size]? = some name ∧ next.at? registry.size = some value) ∧
    (∀ more last, registry.run? more = some last → ∀ id < registry.size,
      last.names[id]? = registry.names[id]? ∧
        last.at? id = (registry.at? id).map (registry.changesOf id more)) ∧
    (∀ name value change, ∃ next, registry.upsert? name value change = some next ∧
      next.names = registry.names ++ (if name ∈ registry.names then [] else [name]) ∧
      (∀ other ∈ registry.names, next.idOf? other = registry.idOf? other) ∧
      next.find? name = some (change ((registry.find? name).getD value))) ∧
    let tables := declared.foldl add (ofDeclarations decls)
    let all := declared.foldl Declarations.add decls
    (∀ name, tables.classes.find? name = all.getClass? name ∧
      ((tables.enumerations.idOf? name).bind fun id => (tables.enumerations.at? id).map (id, ·)) =
        all.getEnumeration? name) ∧
    tables.items.map tables.item? = all.items.map some ∧
    (∀ cls (later : List DeclarationStep), let last := later.foldl add (tables.addClass cls).2
      last.items[tables.items.length]? = some (.cls (tables.addClass cls).1) ∧
        last.classes.at? (tables.addClass cls).1 = some cls) ∧
    ∀ e (later : List DeclarationStep), let last := later.foldl add (tables.addEnumeration e).2
      last.items[tables.items.length]? = some (.enumeration (tables.addEnumeration e).1) ∧
        last.enumerations.at? (tables.addEnumeration e).1 = some e := by
  have haligned : registry.IsAligned := IndexedRegistry.isAligned_empty.run? hrun
  have hrefines := IndexedRegistry.isAligned_empty.map_toRegistry_run? steps
  rw [hrun, Option.map_some] at hrefines
  have hlength := haligned.length_names
  refine ⟨⟨hrefines.symm, haligned.map_toRegistry_run?⟩,
    ⟨hlength, List.map_fst_zip hlength.le, List.map_snd_zip hlength.ge⟩,
    fun name => ⟨fun id => haligned.lt_size, fun id => haligned.idOf?_eq_some_iff,
      haligned.idOf?_eq_none_iff⟩,
    fun name value => ⟨?_, registry.at?_insert_size name value⟩,
    fun more last hmore id => haligned.at?_run? hmore, haligned.upsert?_exact, ?_⟩
  · rw [IndexedRegistry.insert, IndexedRegistry.size, ← hlength]
    exact List.getElem?_concat_length
  · intro tables all
    have hkept : tables.Keeps all := (Keeps.ofDeclarations decls).run declared
    exact ⟨fun name => ⟨hkept.find?_classes name, hkept.find?_enumerations name⟩, hkept.items_eq,
      tables.addClass_run, tables.addEnumeration_run⟩

/-- Steps that shadow a name and change values by their name and by their number. -/
def shadowingSteps : List (RegistryStep String) :=
  [.insert "alpha" "first", .insert "beta" "second", .insert "alpha" "third",
    .modifyAt 0 (· ++ "!"), .upsert "alpha" "" (· ++ "?"), .upsert "gamma" "fourth" (· ++ ".")]

/-- A name that is shadowed keeps its place, its number and its value. -/
theorem numbers_exact_shadowingSteps :
    ∃ registry, ({} : IndexedRegistry String).run? shadowingSteps = some registry ∧
      registry.names = ["alpha", "beta", "alpha", "gamma"] ∧
      registry.entries.map Prod.snd = ["first!", "second", "third?", "fourth."] ∧
      registry.idOf? "alpha" = some 2 ∧ registry.idOf? "delta" = none ∧
      ∀ decls cls (later : List DeclarationStep),
        (later.foldl add ((ofDeclarations decls).addClass cls).2).classes.at?
          ((ofDeclarations decls).addClass cls).1 = some cls := by
  obtain ⟨registry, hrun⟩ := Option.isSome_iff_exists.1
    (show (({} : IndexedRegistry String).run? shadowingSteps).isSome by decide)
  have hexact := numbers_exact shadowingSteps registry hrun { name := "" } []
  have hnames : registry.names = ["alpha", "beta", "alpha", "gamma"] := by
    cases hrun
    rfl
  have hlast : ∀ later > 2, registry.names[later]? ≠ some "alpha" := by
    intro later hlater
    obtain rfl | hlater : later = 3 ∨ 4 ≤ later := by omega
    · simp [hnames]
    · rw [hnames, List.getElem?_eq_none hlater]
      simp
  refine ⟨registry, hrun, hnames, hexact.2.1.2.2.trans ?_,
    ((hexact.2.2.1 "alpha").2.1 2).2 ⟨hnames ▸ rfl, hlast⟩,
    (hexact.2.2.1 "delta").2.2.2 (by simp [hnames]), fun decls cls later =>
      ((numbers_exact shadowingSteps registry hrun decls []).2.2.2.2.2.2.2.2.1 cls later).2⟩
  cases hrun
  decide

end DeclarationTables

end FortranBindings
