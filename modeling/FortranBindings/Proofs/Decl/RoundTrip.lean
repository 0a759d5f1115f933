import FortranBindings.Config
import FortranBindings.Decl.Class
import FortranBindings.Decl.Enumeration
import FortranBindings.Proofs.CxxType.Signature
import FortranBindings.Proofs.Json.Record

/-!
# Documents of declarations are read back

What is written for a type, a location, a typemap, a declaration or a configuration that was read
from a document is read back as the same value (`Json.documents_roundTrip`). A record is read back
if its parts are, and the parts of a record that was read are ones that were read themselves or the
initial ones. So each record has a lemma that it is read back and one about its parts.
-/

namespace FortranBindings

open Json

/-! ## Types and locations -/

theorem CxxType.WellSpelled.restores {type : CxxType} (h : type.WellSpelled) :
    asType (string type.signature) = .ok type := by
  change (ofSpelling type.signature).mapError _ = _
  exact Except.mapError_eq_ok.2 (ofSpelling_signature h)

theorem CxxType.wellSpelled_of_asType {document : Json} {type : CxxType}
    (h : asType document = .ok type) : type.WellSpelled := by
  obtain ⟨spelling, -, hspelling⟩ := Except.bind_eq_ok.1 h
  exact wellSpelled_of_ofSpelling (Except.mapError_eq_ok.1 hspelling)

theorem Location.restores {location : Location} (h : location.line < Nat.pow 2 32) :
    Restores ofJson toJson location := by
  have hread := Record.read_object record (by decide)
    [string location.file, natural location.line] (Nat.le_refl 2)
  refine hread.trans ?_
  rw [record, Record.ofElements_cons_of_ok (asString_string _),
    Record.ofElements_cons_of_ok (asNatural_natural h)]
  rfl

theorem Location.line_lt_of_ofJson {document : Json} {location : Location}
    (h : ofJson document = .ok location) : location.line < Nat.pow 2 32 := by
  refine Record.read_induct (fun l => l.line < Nat.pow 2 32) ?_ (by decide) h
  simp only [record, List.forall_mem_cons]
  refine ⟨Field.keeps_of fun _ _ _ _ hvalue => hvalue,
    Field.keeps_of fun _ _ hread _ _ => lt_of_asNatural hread, nofun⟩

/-! ## Typemaps -/

theorem Typemap.ofJson_object {fields : List (String × Json)} (h : readableFields fields = true) :
    ofJson (object fields) = (record.ofFields (fun _ => true) fields).map (·.1) :=
  if_pos h

theorem Typemap.restores {typemap : Typemap}
    (h : ∀ n ∈ typemap.numInputs, n < Nat.pow 2 64) : Restores ofJson toJson typemap := by
  obtain ⟨code, numInputs⟩ := typemap
  cases numInputs with
  | none =>
    have hread := Record.ofFields_eq_ofElements record (fun _ => true) (by decide)
      [string code] (by decide : 1 ≤ 2)
    have hobject : toJson ⟨code, none⟩ =
        object ((record.fields.map Field.key).zip [string code]) := rfl
    rw [Restores, hobject, ofJson_object rfl, hread, record,
      Record.ofElements_cons_of_ok (asString_string _), Record.ofElements_nil]
    rfl
  | some n =>
    have hne : natural n ≠ null := Json.noConfusion
    have hnumber : asOption (asNatural 64) (natural n) = .ok (some n) :=
      asOption_of_ne_null hne (asNatural_natural (h n rfl))
    have hread := Record.ofFields_eq_ofElements record (fun _ => true) (by decide)
      [string code, natural n] (Nat.le_refl 2)
    have hobject : toJson ⟨code, some n⟩ =
        object ((record.fields.map Field.key).zip [string code, natural n]) := rfl
    rw [Restores, hobject, ofJson_object rfl, hread, record,
      Record.ofElements_cons_of_ok (asString_string _), Record.ofElements_cons_of_ok hnumber]
    rfl

theorem Typemap.numInputs_lt_of_ofJson {document : Json} {typemap : Typemap}
    (h : ofJson document = .ok typemap) : ∀ n ∈ typemap.numInputs, n < Nat.pow 2 64 := by
  unfold ofJson at h
  split at h
  · cases h
    exact nofun
  · split at h
    · obtain ⟨⟨other, others⟩, hfields, rfl⟩ := Except.map_eq_ok.1 h
      have hinitial : ∀ n ∈ record.initial.numInputs, n < Nat.pow 2 64 := by
        rintro n ⟨⟩
      refine Record.inv_of_ofFields (fun t => ∀ n ∈ t.numInputs, n < Nat.pow 2 64) ?_ hinitial
        hfields
      simp only [record, List.forall_mem_cons]
      refine ⟨Field.keeps_of fun _ _ _ _ hvalue => hvalue, Field.keeps_of ?_, nofun⟩
      intro element numInputs hread value _ n hn
      exact lt_of_asNatural (exists_of_mem_asOption hread n hn)
    · cases h
  · cases h

/-- Typemaps that were all read are read back together. -/
theorem Attachments.restores {attachments : Attachments}
    (h : ∀ entry ∈ attachments.entries, Restores Typemap.ofJson Typemap.toJson entry.2) :
    Restores ofJson toJson attachments := by
  have hfold : ∀ (entries : List (String × Typemap)) (dict : Attachments),
      (∀ entry ∈ entries, Restores Typemap.ofJson Typemap.toJson entry.2) →
      (entries.map fun entry => (entry.1, entry.2.toJson)).foldlM
        (fun dict field => (Typemap.ofJson field.2).map (dict.insert field.1)) dict =
          .ok (dict.insertMany entries) := by
    intro entries
    induction entries with
    | nil => exact fun dict _ => rfl
    | cons entry entries ih =>
      intro dict hentries
      obtain ⟨hentry, hrest⟩ := List.forall_mem_cons.1 hentries
      rw [List.map_cons, List.foldlM_cons, hentry]
      exact ih (dict.insert entry.1 entry.2) hrest
  refine (hfold attachments.entries {} h).trans ?_
  exact congrArg Except.ok attachments.ofList_entries

theorem Attachments.restores_of_ofJson {document : Json} {attachments : Attachments}
    (h : ofJson document = .ok attachments) :
    ∀ entry ∈ attachments.entries, Restores Typemap.ofJson Typemap.toJson entry.2 := by
  have hfold : ∀ (fields : List (String × Json)) (dict last : Attachments),
      (∀ entry ∈ dict.entries, Restores Typemap.ofJson Typemap.toJson entry.2) →
      fields.foldlM (fun dict field => (Typemap.ofJson field.2).map (dict.insert field.1)) dict =
        .ok last →
      ∀ entry ∈ last.entries, Restores Typemap.ofJson Typemap.toJson entry.2 := by
    intro fields
    induction fields with
    | nil =>
      rintro dict _ hdict ⟨⟩
      exact hdict
    | cons field fields ih =>
      intro dict last hdict hlast
      rw [List.foldlM_cons] at hlast
      obtain ⟨next, hnext, hrest⟩ := Except.bind_eq_ok.1 hlast
      obtain ⟨typemap, htypemap, rfl⟩ := Except.map_eq_ok.1 hnext
      refine ih _ last (fun entry hentry => ?_) hrest
      rcases Dict.mem_insertPair hentry with rfl | hentry
      · exact Typemap.restores (Typemap.numInputs_lt_of_ofJson htypemap)
      · exact hdict entry hentry
  unfold ofJson asDict at h
  split at h
  · exact hfold _ {} attachments nofun h
  · cases h

/-! ## Parameters, features and kinds -/

theorem Parameter.restores {parameter : Parameter} (htype : parameter.type.WellSpelled)
    (htypemaps : Restores Attachments.ofJson Attachments.toJson parameter.typemaps) :
    Restores ofJson toJson parameter := by
  obtain ⟨name, type, typemaps⟩ := parameter
  by_cases hempty : typemaps.entries = []
  · obtain rfl : typemaps = {} := Dict.ext hempty
    have hread := Record.read_object record (by decide)
      [string name, string type.signature] (by decide : 2 ≤ 3)
    refine hread.trans ?_
    rw [record, Record.ofElements_cons_of_ok (asString_string _),
      Record.ofElements_cons_of_ok htype.restores, Record.ofElements_nil]
    rfl
  · have hread := Record.read_object record (by decide)
      [string name, string type.signature, typemaps.toJson] (Nat.le_refl 3)
    have hobject : toJson ⟨name, type, typemaps⟩ = object ((record.fields.map Field.key).zip
        [string name, string type.signature, typemaps.toJson]) := by
      rw [toJson, if_neg hempty]
      rfl
    rw [Restores, hobject]
    refine hread.trans ?_
    rw [record, Record.ofElements_cons_of_ok (asString_string _),
      Record.ofElements_cons_of_ok htype.restores, Record.ofElements_cons_of_ok htypemaps]
    rfl

theorem Parameter.restores_of_ofJson {document : Json} {parameter : Parameter}
    (h : ofJson document = .ok parameter) : Restores ofJson toJson parameter := by
  let inv (p : Parameter) : Prop :=
    p.type.WellSpelled ∧ Restores Attachments.ofJson Attachments.toJson p.typemaps
  have hinitial : inv record.initial := ⟨trivial, rfl⟩
  have hparts : inv parameter := by
    refine Record.read_induct inv ?_ hinitial h
    simp only [record, List.forall_mem_cons]
    refine ⟨Field.keeps_of fun _ _ _ _ hvalue => hvalue,
      Field.keeps_of fun _ _ hread _ hvalue => ⟨CxxType.wellSpelled_of_asType hread, hvalue.2⟩,
      Field.keeps_of fun _ _ hread _ hvalue => ⟨hvalue.1, ?_⟩, nofun⟩
    exact Attachments.restores (Attachments.restores_of_ofJson hread)
  exact restores hparts.1 hparts.2

theorem Features.restores (features : Features) : Restores ofJson toJson features := by
  have hread := Record.read_object record (by decide)
    [bool features.newObject, optional features.prepend, optional features.append,
      optional features.exception] (Nat.le_refl 4)
  refine hread.trans ?_
  rw [record, Record.ofElements_cons_of_ok (asBool_bool _),
    Record.ofElements_cons_of_ok (asOption_optional _),
    Record.ofElements_cons_of_ok (asOption_optional _),
    Record.ofElements_cons_of_ok (asOption_optional _)]
  rfl

theorem AccessorRole.restores (role : AccessorRole) : Restores ofJson toJson role := by
  cases role <;> rfl

theorem CallableKind.ofFields_toFields (kind : CallableKind) :
    ofFields kind.toFields = .ok kind := by
  cases kind with
  | freeFunction => rfl
  | constructor => rfl
  | destructor => rfl
  | method isConst => rfl
  | accessor field role => cases role <;> rfl

theorem CallableKind.restores (kind : CallableKind) : Restores ofJson toJson kind := by
  cases kind with
  | freeFunction => rfl
  | constructor => rfl
  | destructor => rfl
  | method isConst => rfl
  | accessor field role => cases role <;> rfl

/-! ## Callables and classes -/

/-- The parts of a callable that are not read back whatever they are. -/
structure Callable.HasRestored (callable : Callable) : Prop where
  parameters : ∀ parameter ∈ callable.parameters,
    Restores Parameter.ofJson Parameter.toJson parameter
  result : callable.result.WellSpelled
  location : callable.location.line < Nat.pow 2 32

/-- The fields of a callable's document but for those of its kind. -/
def Callable.ownValues (callable : Callable) : List Json := [
  string callable.name, optional callable.symbol, optional callable.rename,
  array (callable.parameters.map Parameter.toJson), string callable.result.signature,
  optional callable.overload, callable.features.toJson, optional callable.action,
  callable.location.toJson]

theorem Callable.ofElements_ownValues {callable : Callable} (h : callable.HasRestored) :
    Record.ofElements record.fields callable.ownValues record.initial =
      .ok { callable with kind := .freeFunction } := by
  have hparameters : asList Parameter.ofJson (array (callable.parameters.map Parameter.toJson)) =
      .ok callable.parameters := asList_array h.parameters
  have hfeatures : Features.ofJson callable.features.toJson = .ok callable.features :=
    callable.features.restores
  have hlocation : Location.ofJson callable.location.toJson = .ok callable.location :=
    Location.restores h.location
  rw [record, ownValues, Record.ofElements_cons_of_ok (asString_string _),
    Record.ofElements_cons_of_ok (asOption_optional _),
    Record.ofElements_cons_of_ok (asOption_optional _),
    Record.ofElements_cons_of_ok hparameters, Record.ofElements_cons_of_ok h.result.restores,
    Record.ofElements_cons_of_ok (asOption_optional _), Record.ofElements_cons_of_ok hfeatures,
    Record.ofElements_cons_of_ok (asOption_optional _), Record.ofElements_cons_of_ok hlocation]
  rfl

/-- The fields of a kind are those that a callable does not know, and they can be read. -/
theorem CallableKind.not_knows_of_mem_toFields {kind : CallableKind} {field : String × Json}
    (h : field ∈ kind.toFields) :
    Callable.record.knows field = false ∧ field.2.readable = true := by
  cases kind with
  | freeFunction | constructor | destructor =>
    obtain rfl := List.mem_singleton.1 h
    exact ⟨rfl, rfl⟩
  | method isConst =>
    simp only [toFields, List.mem_cons, List.not_mem_nil, or_false] at h
    rcases h with rfl | rfl <;> exact ⟨rfl, rfl⟩
  | accessor name role =>
    simp only [toFields, List.mem_cons, List.not_mem_nil, or_false] at h
    rcases h with rfl | rfl | rfl <;> exact ⟨rfl, rfl⟩

/-- The fields of a callable's document are its own, with those of its kind behind the first
three. -/
theorem Callable.ofFields_toJson {callable : Callable} (h : callable.HasRestored) :
    ∃ fields, callable.toJson = object fields ∧ record.ofFields readable fields =
      .ok ({ callable with kind := .freeFunction }, callable.kind.toFields) := by
  let own := (record.fields.map Field.key).zip callable.ownValues
  refine ⟨own.take 3 ++ callable.kind.toFields ++ own.drop 3, rfl, ?_⟩
  have hkind := fun field (hfield : field ∈ callable.kind.toFields) =>
    CallableKind.not_knows_of_mem_toFields hfield
  have hdropped : ∀ fields ⊆ own, fields.filter (!record.knows ·) = [] := fun fields hfields =>
    List.filter_eq_nil_iff.2 fun field hfield => by
      simp [Record.knows_of_mem_zip (hfields hfield)]
  have hkept : ∀ fields ⊆ own, fields.filter record.knows = fields := fun fields hfields =>
    List.filter_eq_self.2 fun field hfield => Record.knows_of_mem_zip (hfields hfield)
  have hknown : (own.take 3 ++ callable.kind.toFields ++ own.drop 3).filter record.knows = own := by
    have hno : callable.kind.toFields.filter record.knows = [] :=
      List.filter_eq_nil_iff.2 fun field hfield => by simp [hkind field hfield]
    rw [List.filter_append, List.filter_append, hno, hkept _ (List.take_subset 3 own),
      hkept _ (List.drop_subset 3 own), List.append_nil, List.take_append_drop]
  have hothers : (own.take 3 ++ callable.kind.toFields ++ own.drop 3).filter (!record.knows ·) =
      callable.kind.toFields := by
    have hall : callable.kind.toFields.filter (!record.knows ·) = callable.kind.toFields :=
      List.filter_eq_self.2 fun field hfield => by simp [hkind field hfield]
    rw [List.filter_append, List.filter_append, hall, hdropped _ (List.take_subset 3 own),
      hdropped _ (List.drop_subset 3 own), List.nil_append, List.append_nil]
  have hread := Record.ofFields_eq_ofElements record readable (by decide)
      callable.ownValues (Nat.le_refl 9)
  rw [Record.ofFields_eq_filter, hknown, hothers, hread, ofElements_ownValues h]
  · rfl
  · intro field hfield hunknown
    have hmem : field ∈ callable.kind.toFields :=
      hothers ▸ List.mem_filter.2 ⟨hfield, by simp [hunknown]⟩
    exact (hkind field hmem).2

theorem Callable.restores {callable : Callable} (h : callable.HasRestored) :
    Restores ofJson toJson callable := by
  obtain ⟨fields, hfields, hread⟩ := ofFields_toJson h
  rw [Restores, hfields, ofJson, hread]
  have hkind := CallableKind.ofFields_toFields callable.kind
  change (do return { callable with kind := ← CallableKind.ofFields callable.kind.toFields }) = _
  rw [hkind]
  rfl

theorem Callable.restores_of_ofJson {document : Json} {callable : Callable}
    (h : ofJson document = .ok callable) : Restores ofJson toJson callable := by
  unfold ofJson at h
  split at h
  · obtain ⟨⟨read, others⟩, hfields, h⟩ := Except.bind_eq_ok.1 h
    obtain ⟨kind, -, hcallable⟩ := Except.bind_eq_ok.1 h
    cases hcallable
    have hinitial : record.initial.HasRestored :=
      ⟨fun _ hmem => absurd hmem List.not_mem_nil, trivial, by decide⟩
    have hread : read.HasRestored := by
      refine Record.inv_of_ofFields HasRestored ?_ hinitial hfields
      simp only [record, List.forall_mem_cons]
      have hother {β : Type} {key : String} {required : Bool} {decoder : Decoder β}
          {put : β → Callable → Callable} (hput : ∀ b c, (put b c).parameters = c.parameters ∧
            (put b c).result = c.result ∧ (put b c).location = c.location) :
          (Field.of key required decoder put).Keeps HasRestored :=
        Field.keeps_of fun _ b _ c hc => by
          obtain ⟨hparameters, hresult, hlocation⟩ := hput b c
          exact ⟨hparameters ▸ hc.parameters, hresult ▸ hc.result, hlocation ▸ hc.location⟩
      refine ⟨hother fun _ _ => ⟨rfl, rfl, rfl⟩, hother fun _ _ => ⟨rfl, rfl, rfl⟩,
        hother fun _ _ => ⟨rfl, rfl, rfl⟩, Field.keeps_of fun _ _ hread _ hvalue => ?_,
        Field.keeps_of fun _ _ hread _ hvalue => ?_, hother fun _ _ => ⟨rfl, rfl, rfl⟩,
        hother fun _ _ => ⟨rfl, rfl, rfl⟩, hother fun _ _ => ⟨rfl, rfl, rfl⟩,
        Field.keeps_of fun _ _ hread _ hvalue => ?_, nofun⟩
      · refine { hvalue with parameters := fun parameter hparameter => ?_ }
        obtain ⟨element, helement⟩ := exists_of_mem_asList hread parameter hparameter
        exact Parameter.restores_of_ofJson helement
      · exact { hvalue with result := CxxType.wellSpelled_of_asType hread }
      · exact { hvalue with location := Location.line_lt_of_ofJson hread }
    exact restores { hread with }
  · cases h

theorem Class.restores {cls : Class}
    (hmembers : ∀ member ∈ cls.members, Restores Callable.ofJson Callable.toJson member)
    (hlocation : cls.location.line < Nat.pow 2 32) : Restores ofJson toJson cls := by
  have hread := Record.read_object record (by decide)
    [string cls.name, optional cls.rename, strings cls.bases,
      array (cls.members.map Callable.toJson), cls.location.toJson] (Nat.le_refl 5)
  refine hread.trans ?_
  rw [record, Record.ofElements_cons_of_ok (asString_string _),
    Record.ofElements_cons_of_ok (asOption_optional _),
    Record.ofElements_cons_of_ok (asList_strings _),
    Record.ofElements_cons_of_ok (asList_array hmembers),
    Record.ofElements_cons_of_ok (Location.restores hlocation)]
  rfl

theorem Class.restores_of_ofJson {document : Json} {cls : Class}
    (h : ofJson document = .ok cls) : Restores ofJson toJson cls := by
  let inv (c : Class) : Prop := (∀ member ∈ c.members, Restores Callable.ofJson Callable.toJson
    member) ∧ c.location.line < Nat.pow 2 32
  have hinitial : inv record.initial := ⟨fun _ hmem => absurd hmem List.not_mem_nil, by decide⟩
  have hparts : inv cls := by
    refine Record.read_induct inv ?_ hinitial h
    simp only [record, List.forall_mem_cons]
    refine ⟨Field.keeps_of fun _ _ _ _ hvalue => hvalue,
      Field.keeps_of fun _ _ _ _ hvalue => hvalue, Field.keeps_of fun _ _ _ _ hvalue => hvalue,
      Field.keeps_of fun _ _ hread _ hvalue => ⟨fun member hmember => ?_, hvalue.2⟩,
      Field.keeps_of fun _ _ hread _ hvalue => ⟨hvalue.1, Location.line_lt_of_ofJson hread⟩, nofun⟩
    obtain ⟨element, helement⟩ := exists_of_mem_asList hread member hmember
    exact Callable.restores_of_ofJson helement
  exact restores hparts.1 hparts.2

/-! ## Enums, typedefs and configurations -/

namespace Enumeration

/-- The document of a variant. -/
def variantToJson (variant : String × Int) : Json := array [string variant.1, integer variant.2]

theorem restores_of_variantOfJson {document : Json} {variant : String × Int}
    (h : variantOfJson document = .ok variant) : Restores variantOfJson variantToJson variant := by
  unfold variantOfJson at h
  split at h
  · next name value =>
    obtain ⟨text, htext, h⟩ := Except.bind_eq_ok.1 h
    obtain ⟨n, hn, h⟩ := Except.bind_eq_ok.1 h
    cases h
    have hvalue : value = integer n := by
      unfold asInteger at hn
      split at hn
      · split at hn
        · cases hn
          rfl
        · cases hn
      · cases hn
    rw [hvalue] at hn
    change (do return (← asString (string text), ← asInteger _ _ (integer n))) = _
    rw [hn]
    rfl
  · cases h

theorem restores {enumeration : Enumeration}
    (hvariants : ∀ variant ∈ enumeration.variants, Restores variantOfJson variantToJson variant)
    (hlocation : enumeration.location.line < Nat.pow 2 32) :
    Restores ofJson toJson enumeration := by
  have hread := Record.read_object record (by decide)
    [string enumeration.name, optional enumeration.rename,
      array (enumeration.variants.map variantToJson), enumeration.location.toJson] (Nat.le_refl 4)
  refine hread.trans ?_
  rw [record, Record.ofElements_cons_of_ok (asString_string _),
    Record.ofElements_cons_of_ok (asOption_optional _),
    Record.ofElements_cons_of_ok (asList_array hvariants),
    Record.ofElements_cons_of_ok (Location.restores hlocation)]
  rfl

theorem restores_of_ofJson {document : Json} {enumeration : Enumeration}
    (h : ofJson document = .ok enumeration) : Restores ofJson toJson enumeration := by
  let inv (e : Enumeration) : Prop := (∀ variant ∈ e.variants, Restores variantOfJson variantToJson
    variant) ∧ e.location.line < Nat.pow 2 32
  have hinitial : inv record.initial := ⟨fun _ hmem => absurd hmem List.not_mem_nil, by decide⟩
  have hparts : inv enumeration := by
    refine Record.read_induct inv ?_ hinitial h
    simp only [record, List.forall_mem_cons]
    refine ⟨Field.keeps_of fun _ _ _ _ hvalue => hvalue,
      Field.keeps_of fun _ _ _ _ hvalue => hvalue,
      Field.keeps_of fun _ _ hread _ hvalue => ⟨fun variant hvariant => ?_, hvalue.2⟩,
      Field.keeps_of fun _ _ hread _ hvalue => ⟨hvalue.1, Location.line_lt_of_ofJson hread⟩, nofun⟩
    obtain ⟨element, helement⟩ := exists_of_mem_asList hread variant hvariant
    exact restores_of_variantOfJson helement
  exact restores hparts.1 hparts.2

end Enumeration

theorem Typedef.restores {typedef : Typedef} (h : typedef.underlying.WellSpelled) :
    Restores ofJson toJson typedef := by
  have hread := Record.read_object record (by decide)
    [string typedef.name, string typedef.underlying.signature] (Nat.le_refl 2)
  refine hread.trans ?_
  rw [record, Record.ofElements_cons_of_ok (asString_string _),
    Record.ofElements_cons_of_ok h.restores]
  rfl

theorem Typedef.restores_of_ofJson {document : Json} {typedef : Typedef}
    (h : ofJson document = .ok typedef) : Restores ofJson toJson typedef := by
  refine restores (Record.read_induct (fun t => t.underlying.WellSpelled) ?_ trivial h)
  simp only [record, List.forall_mem_cons]
  exact ⟨Field.keeps_of fun _ _ _ _ hvalue => hvalue,
    Field.keeps_of fun _ _ hread _ _ => CxxType.wellSpelled_of_asType hread, nofun⟩

theorem Config.restores (config : Config) : Restores ofJson toJson config := by
  have hread := Record.read_object record (by decide)
    [string config.moduleName, bool config.proxyClasses, bool config.finalizers,
      string config.wrapperPrefix, string config.proxyPrefix, strings config.imports]
    (Nat.le_refl 6)
  refine hread.trans ?_
  rw [record, Record.ofElements_cons_of_ok (asString_string _),
    Record.ofElements_cons_of_ok (asBool_bool _), Record.ofElements_cons_of_ok (asBool_bool _),
    Record.ofElements_cons_of_ok (asString_string _),
    Record.ofElements_cons_of_ok (asString_string _),
    Record.ofElements_cons_of_ok (asList_strings _)]
  rfl

/-- **Documents are read back.** A value of any kind that is read from a document is read back from
what is written for it, so that different values are written differently and writing again what was
read back changes nothing. -/
theorem Json.documents_roundTrip :
    RoundTrips Callable.ofJson Callable.toJson ∧ RoundTrips Class.ofJson Class.toJson ∧
    RoundTrips Enumeration.ofJson Enumeration.toJson ∧ RoundTrips Typedef.ofJson Typedef.toJson ∧
    RoundTrips Parameter.ofJson Parameter.toJson ∧ RoundTrips Typemap.ofJson Typemap.toJson ∧
    RoundTrips Attachments.ofJson Attachments.toJson ∧ RoundTrips Features.ofJson Features.toJson ∧
    RoundTrips CallableKind.ofJson CallableKind.toJson ∧
    RoundTrips AccessorRole.ofJson AccessorRole.toJson ∧
    RoundTrips Location.ofJson Location.toJson ∧
    RoundTrips asType (fun type => string type.signature) ∧
    RoundTrips Config.ofJson Config.toJson where
  left := .of_restores fun _ _ => Callable.restores_of_ofJson
  right := ⟨.of_restores fun _ _ => Class.restores_of_ofJson,
    .of_restores fun _ _ => Enumeration.restores_of_ofJson,
    .of_restores fun _ _ => Typedef.restores_of_ofJson,
    .of_restores fun _ _ => Parameter.restores_of_ofJson,
    .of_restores fun _ _ h => Typemap.restores (Typemap.numInputs_lt_of_ofJson h),
    .of_restores fun _ _ h => Attachments.restores (Attachments.restores_of_ofJson h),
    .of_restores fun _ features _ => features.restores,
    .of_restores fun _ kind _ => kind.restores, .of_restores fun _ role _ => role.restores,
    .of_restores fun _ _ h => Location.restores (Location.line_lt_of_ofJson h),
    .of_restores fun _ _ h => (CxxType.wellSpelled_of_asType h).restores,
    .of_restores fun _ config _ => config.restores⟩

end FortranBindings
