import FortranBindings.Json.Record
import FortranBindings.Proofs.Except

/-!
# Reading records

An object whose keys are those of a record, in the declared order, is read as the array of its
values (`Json.Record.ofFields_eq_ofElements`), and fields that the record does not know change
nothing about it (`Json.Record.ofFields_eq_filter`). What holds of the initial record and is kept by
every field holds of each record that is read (`Json.Record.read_induct`).

`Json.RoundTrips` says of a reader and a writer that the values which the reader gives are written
so that they are read back.
-/

namespace FortranBindings

namespace Json

variable {α β : Type}

/-! ## Values that are read back -/

/-- The value is read back from what is written for it. -/
def Restores (read : Decoder α) (write : α → Json) (value : α) : Prop :=
  read (write value) = .ok value

/-- Every value that is read from a document is read back from what is written for it. So different
values are written differently, and writing again what was read back changes nothing. -/
structure RoundTrips (read : Decoder α) (write : α → Json) : Prop where
  restores : ∀ document value, read document = .ok value → read (write value) = .ok value
  injective : ∀ document value document' value', read document = .ok value →
    read document' = .ok value' → write value = write value' → value = value'
  stable : ∀ document value, read document = .ok value →
    (read (write value)).map write = .ok (write value)

/-- Reading back what is written is all there is to it. -/
theorem RoundTrips.of_restores {read : Decoder α} {write : α → Json}
    (h : ∀ document value, read document = .ok value → Restores read write value) :
    RoundTrips read write where
  restores := h
  injective document value document' value' hread hread' hwrite := by
    have hvalue := h document value hread
    rw [Restores, hwrite, h document' value' hread'] at hvalue
    exact (Except.ok.inj hvalue).symm
  stable document value hread := Except.map_eq_ok.2 ⟨value, h document value hread, rfl⟩

@[simp] theorem asString_string (text : String) : asString (string text) = .ok text := rfl

@[simp] theorem asBool_bool (b : Bool) : asBool (bool b) = .ok b := rfl

@[simp] theorem asOption_optional (text : Option String) :
    asOption asString (optional text) = .ok text := by
  cases text <;> rfl

theorem asOption_of_ne_null {read : Decoder α} {value : Json} {a : α} (hvalue : value ≠ null)
    (h : read value = .ok a) : asOption read value = .ok (some a) := by
  unfold asOption
  split
  · exact absurd rfl hvalue
  · rw [h]
    rfl

theorem asNatural_natural {bits n : Nat} (h : n < Nat.pow 2 bits) :
    asNatural bits (natural n) = .ok n := by
  unfold asNatural natural
  dsimp only
  rw [if_pos ⟨Int.natCast_nonneg n, Int.ofNat_lt.2 h⟩]
  rfl

theorem lt_of_asNatural {bits n : Nat} {value : Json} (h : asNatural bits value = .ok n) :
    n < Nat.pow 2 bits := by
  unfold asNatural at h
  split at h
  · split at h
    · next hrange =>
      cases h
      exact (Int.toNat_lt hrange.1).2 hrange.2
    · cases h
  · cases h

theorem mapM_map_of_restores {read : Decoder α} {write : α → Json} {values : List α}
    (h : ∀ value ∈ values, Restores read write value) :
    (values.map write).mapM read = .ok values := by
  induction values with
  | nil => rfl
  | cons value values ih =>
    have hvalue : read (write value) = .ok value := h value List.mem_cons_self
    have hvalues := ih fun other hother => h other (List.mem_cons_of_mem _ hother)
    rw [List.map_cons, List.mapM_cons, hvalue]
    exact congrArg (Except.map (value :: ·)) hvalues

/-- A list is read back if its elements are. -/
theorem asList_array {read : Decoder α} {write : α → Json} {values : List α}
    (h : ∀ value ∈ values, Restores read write value) :
    asList read (array (values.map write)) = .ok values :=
  mapM_map_of_restores h

@[simp] theorem asList_strings (texts : List String) :
    asList asString (strings texts) = .ok texts :=
  asList_array fun text _ => asString_string text

theorem exists_of_mem_mapM {read : Decoder α} {elements : List Json} {values : List α}
    (h : elements.mapM read = .ok values) :
    ∀ value ∈ values, ∃ element, read element = .ok value := by
  induction elements generalizing values with
  | nil =>
    cases h
    exact nofun
  | cons element elements ih =>
    rw [List.mapM_cons] at h
    obtain ⟨value, hvalue, h⟩ := Except.bind_eq_ok.1 h
    obtain ⟨rest, hrest, h⟩ := Except.bind_eq_ok.1 h
    cases h
    exact List.forall_mem_cons.2 ⟨⟨element, hvalue⟩, ih hrest⟩

/-- The elements of a list that is read are read. -/
theorem exists_of_mem_asList {read : Decoder α} {document : Json} {values : List α}
    (h : asList read document = .ok values) :
    ∀ value ∈ values, ∃ element, read element = .ok value := by
  unfold asList at h
  split at h
  · exact exists_of_mem_mapM h
  · cases h

/-- The value of an option that is read is read. -/
theorem exists_of_mem_asOption {read : Decoder α} {document : Json} {value : Option α}
    (h : asOption read document = .ok value) : ∀ a ∈ value, read document = .ok a := by
  unfold asOption at h
  split at h
  · cases h
    exact nofun
  · obtain ⟨a, ha, rfl⟩ := Except.map_eq_ok.1 h
    rintro _ ⟨⟩
    exact ha

/-! ## Fields in their order -/

/-- What holds of a record holds after the field was set. -/
def Field.Keeps (inv : α → Prop) (field : Field α) : Prop :=
  ∀ element value next, inv value → field.set element value = .ok next → inv next

theorem Field.keeps_of {inv : α → Prop} {key : String} {required : Bool} {read : Decoder β}
    {put : β → α → α}
    (h : ∀ element b, read element = .ok b → ∀ value, inv value → inv (put b value)) :
    (Field.of key required read put).Keeps inv := by
  intro element value next hvalue hset
  obtain ⟨b, hb, rfl⟩ := Except.map_eq_ok.1 hset
  exact h element b hb value hvalue

namespace Record

/-- An array may end where no required field is left. -/
theorem ofElements_nil (fields : List (Field α)) (value : α) :
    ofElements fields [] value =
      if fields.any (·.required) then .error .malformed else .ok value := by
  cases fields <;> simp [ofElements]

/-- A field of an array is set from its element. -/
theorem ofElements_cons_of_ok {key : String} {required : Bool} {read : Decoder β}
    {put : β → α → α} {fields : List (Field α)} {element : Json} {elements : List Json} {value : α}
    {b : β} (h : read element = .ok b) :
    ofElements (.of key required read put :: fields) (element :: elements) value =
      ofElements fields elements (put b value) := by
  have hset : (Field.of key required read put).set element value = .ok (put b value) :=
    congrArg (Except.map (put · value)) h
  rw [ofElements, hset]
  rfl

variable {record : Record α} {accept : Json → Bool}

/-- The fields that are required and were not met are those behind the ones that were met. -/
theorem all_seen {past fields : List (Field α)} {seen : List String}
    (hseen : ∀ key, key ∈ seen ↔ key ∈ past.map Field.key)
    (hnodup : ((past ++ fields).map Field.key).Nodup) :
    ((past ++ fields).all fun field => !field.required || seen.contains field.key) =
      !fields.any (·.required) := by
  have hdisjoint : ∀ field ∈ fields, field.key ∉ seen := by
    intro field hfield hmem
    rw [List.map_append] at hnodup
    exact (List.nodup_append.1 hnodup).2.2 _ ((hseen _).1 hmem) _ (List.mem_map_of_mem hfield) rfl
  rw [Bool.eq_iff_iff]
  simp only [List.all_append, List.all_eq_true, Bool.and_eq_true, Bool.or_eq_true,
    Bool.not_eq_true', List.contains_eq_mem, decide_eq_true_eq, List.any_eq_false]
  refine ⟨fun h field hfield => ?_, fun h => ⟨fun field hfield => ?_, fun field hfield => ?_⟩⟩
  · have := (h.2 field hfield).resolve_right (hdisjoint field hfield)
    simp [this]
  · exact .inr ((hseen _).2 (List.mem_map_of_mem hfield))
  · exact .inl (by simpa using h field hfield)

/-- Keys that are met in the declared order are read as the elements of an array. -/
theorem ofFields_from (past : List (Field α)) {fields : List (Field α)} {values : List Json}
    {value : α} {seen : List String} {others : List (String × Json)}
    (hfields : record.fields = past ++ fields)
    (hnodup : (record.fields.map Field.key).Nodup)
    (hseen : ∀ key, key ∈ seen ↔ key ∈ past.map Field.key)
    (hlength : values.length ≤ fields.length) :
    (((fields.map Field.key).zip values).foldlM (record.take accept) ⟨value, seen, others⟩ >>=
      fun state =>
        if record.fields.all fun field => !field.required || state.seen.contains field.key then
          pure (state.value, state.others.reverse)
        else throw .malformed) =
      (ofElements fields values value).map (·, others.reverse) := by
  induction fields generalizing past values value seen with
  | nil =>
    obtain rfl := List.length_eq_zero_iff.1 (Nat.le_zero.1 hlength)
    have hall := all_seen hseen (hfields ▸ hnodup)
    simp only [List.map_nil, List.zip_nil_left, List.foldlM_nil, pure_bind]
    rw [hfields, hall]
    rfl
  | cons field fields ih =>
    cases values with
    | nil =>
      have hall := all_seen hseen (hfields ▸ hnodup)
      simp only [List.map_cons, List.zip_nil_right, List.foldlM_nil, pure_bind]
      rw [hfields, hall, ofElements_nil]
      cases (field :: fields).any (·.required) <;> rfl
    | cons element values =>
      have hkey : field.key ∉ past.map Field.key := by
        rw [hfields, List.map_append, List.map_cons] at hnodup
        intro hmem
        exact (List.nodup_append.1 hnodup).2.2 _ hmem _ List.mem_cons_self rfl
      have hfind : record.fields.find? (·.key = field.key) = some field := by
        rw [hfields, List.find?_append, List.find?_eq_none.2]
        · simp
        · intro other hother heq
          exact hkey (of_decide_eq_true heq ▸ List.mem_map_of_mem hother)
      have htake : record.take accept ⟨value, seen, others⟩ (field.key, element) =
          (field.set element value).map (⟨·, field.key :: seen, others⟩) := by
        unfold take
        dsimp only
        rw [hfind]
        dsimp only
        rw [if_neg fun hmem => hkey ((hseen _).1 hmem)]
        rfl
      simp only [List.map_cons, List.zip_cons_cons, List.foldlM_cons, htake, ofElements]
      cases hset : field.set element value with
      | error error => rfl
      | ok next =>
        refine ih (past ++ [field]) (by rw [hfields, List.append_cons]) ?_ ?_
        · intro key
          rw [List.map_append, List.mem_append, List.mem_cons, hseen, List.map_singleton,
            List.mem_singleton, or_comm]
        · exact Nat.le_of_succ_le_succ hlength

/-- **An object with the fields of a record in the declared order** is read as the array of its
values. Fields may be missing at the end. -/
theorem ofFields_eq_ofElements (record : Record α) (accept : Json → Bool)
    (hnodup : (record.fields.map Field.key).Nodup) (values : List Json)
    (hlength : values.length ≤ record.fields.length) :
    record.ofFields accept ((record.fields.map Field.key).zip values) =
      (ofElements record.fields values record.initial).map (·, []) :=
  ofFields_from [] rfl hnodup (fun _ => Iff.rfl) hlength

theorem read_object (record : Record α) (hnodup : (record.fields.map Field.key).Nodup)
    (values : List Json) (hlength : values.length ≤ record.fields.length) :
    record.read (object ((record.fields.map Field.key).zip values)) =
      ofElements record.fields values record.initial := by
  rw [read, ofFields_eq_ofElements record _ hnodup values hlength]
  cases ofElements record.fields values record.initial <;> rfl

/-! ## Fields that a record does not know -/

/-- Does the record have a field of this key? -/
def knows (record : Record α) (field : String × Json) : Bool :=
  (record.fields.find? (·.key = field.1)).isSome

theorem find?_of_not_knows {field : String × Json} (h : record.knows field = false) :
    record.fields.find? (·.key = field.1) = none :=
  Option.isNone_iff_eq_none.1 (Option.isSome_eq_false_iff.1 h)

theorem knows_of_mem_zip {values : List Json} {field : String × Json}
    (h : field ∈ (record.fields.map Field.key).zip values) : record.knows field = true := by
  obtain ⟨known, hknown, hkey⟩ := List.mem_map.1 (List.of_mem_zip h).1
  rw [knows, List.find?_isSome]
  exact ⟨known, hknown, decide_eq_true hkey⟩

/-- Taking known fields leaves the others as they are. -/
theorem foldlM_take_known {fields : List (String × Json)}
    (h : ∀ field ∈ fields, record.knows field = true) (state : Partial α)
    (others : List (String × Json)) :
    fields.foldlM (record.take accept) { state with others } =
      (fields.foldlM (record.take accept) state).map ({ · with others }) := by
  induction fields generalizing state with
  | nil => rfl
  | cons field fields ih =>
    obtain ⟨hfield, hrest⟩ := List.forall_mem_cons.1 h
    obtain ⟨known, hknown⟩ := Option.isSome_iff_exists.1 hfield
    have htake : record.take accept { state with others } field =
        (record.take accept state field).map ({ · with others }) := by
      unfold take
      rw [hknown]
      dsimp only
      split
      · rfl
      · cases known.set field.2 state.value <;> rfl
    rw [List.foldlM_cons, List.foldlM_cons, htake]
    cases record.take accept state field with
    | error error => rfl
    | ok next => exact ih hrest next

/-- Taking fields of which the unknown ones are accepted comes to taking the known ones. -/
theorem foldlM_take_filter {fields : List (String × Json)}
    (h : ∀ field ∈ fields, record.knows field = false → accept field.2 = true)
    (state : Partial α) :
    fields.foldlM (record.take accept) state =
      ((fields.filter record.knows).foldlM (record.take accept) state).map
        ({ · with others := (fields.filter (!record.knows ·)).reverse ++
          state.others }) := by
  induction fields generalizing state with
  | nil => rfl
  | cons field fields ih =>
    obtain ⟨hfield, hrest⟩ := List.forall_mem_cons.1 h
    rw [List.foldlM_cons]
    cases hknows : record.knows field with
    | true =>
      obtain ⟨known, hknown⟩ := Option.isSome_iff_exists.1 hknows
      simp only [List.filter_cons, hknows, if_true, Bool.not_true, Bool.false_eq_true, if_false,
        List.foldlM_cons]
      cases htake : record.take accept state field with
      | error error => rfl
      | ok next =>
        have hothers : next.others = state.others := by
          unfold take at htake
          rw [hknown] at htake
          dsimp only at htake
          split at htake
          · cases htake
          · obtain ⟨value, -, hnext⟩ := Except.bind_eq_ok.1 htake
            cases hnext
            rfl
        exact hothers ▸ ih hrest next
    | false =>
      have htake : record.take accept state field =
          .ok { state with others := field :: state.others } := by
        unfold take
        rw [find?_of_not_knows hknows]
        exact if_pos (hfield hknows)
      have hknown : ∀ other ∈ fields.filter record.knows,
          record.knows other = true := fun other hother => (List.mem_filter.1 hother).2
      simp only [List.filter_cons, hknows, Bool.false_eq_true, if_false, Bool.not_false, if_true,
        htake, List.reverse_cons, List.append_assoc]
      refine (ih hrest _).trans ?_
      rw [foldlM_take_known hknown]
      cases (fields.filter record.knows).foldlM (record.take accept) state <;>
        rfl

/-- **Fields that a record does not know** are given back, and what is read is what the known ones
give. -/
theorem ofFields_eq_filter {fields : List (String × Json)}
    (h : ∀ field ∈ fields, record.knows field = false → accept field.2 = true) :
    record.ofFields accept fields =
      (record.ofFields accept (fields.filter record.knows)).map
        fun read => (read.1, fields.filter (!record.knows ·)) := by
  unfold ofFields
  rw [foldlM_take_filter h]
  cases (fields.filter record.knows).foldlM (record.take accept)
    ⟨record.initial, [], []⟩ with
  | error error => rfl
  | ok last =>
    simp only [Except.map, bind, Except.bind, List.append_nil, List.reverse_reverse]
    split <;> rfl

/-! ## What holds of records that are read -/

section

variable {inv : α → Prop}

theorem inv_of_ofElements {fields : List (Field α)} {elements : List Json} {value last : α}
    (hkeeps : ∀ field ∈ fields, field.Keeps inv) (hvalue : inv value)
    (h : ofElements fields elements value = .ok last) : inv last := by
  induction fields generalizing elements value with
  | nil =>
    cases elements with
    | nil =>
      cases h
      exact hvalue
    | cons => cases h
  | cons field fields ih =>
    obtain ⟨hfield, hfields⟩ := List.forall_mem_cons.1 hkeeps
    cases elements with
    | nil =>
      rw [ofElements_nil] at h
      split at h
      · cases h
      · cases h
        exact hvalue
    | cons element elements =>
      obtain ⟨next, hset, hrest⟩ := Except.bind_eq_ok.1 h
      exact ih hfields (hfield element value next hvalue hset) hrest

theorem inv_of_foldlM_take {fields : List (String × Json)} {state last : Partial α}
    (hkeeps : ∀ field ∈ record.fields, field.Keeps inv) (hvalue : inv state.value)
    (h : fields.foldlM (record.take accept) state = .ok last) : inv last.value := by
  induction fields generalizing state with
  | nil =>
    cases h
    exact hvalue
  | cons field fields ih =>
    rw [List.foldlM_cons] at h
    obtain ⟨next, htake, hrest⟩ := Except.bind_eq_ok.1 h
    refine ih ?_ hrest
    unfold take at htake
    split at htake
    · next known hknown =>
      split at htake
      · cases htake
      · obtain ⟨value, hset, hnext⟩ := Except.bind_eq_ok.1 htake
        cases hnext
        exact hkeeps known (List.mem_of_find?_eq_some hknown) _ _ _ hvalue hset
    · split at htake
      · cases htake
        exact hvalue
      · cases htake

theorem inv_of_ofFields (inv : α → Prop) {fields others : List (String × Json)} {value : α}
    (hkeeps : ∀ field ∈ record.fields, field.Keeps inv) (hinitial : inv record.initial)
    (h : record.ofFields accept fields = .ok (value, others)) : inv value := by
  obtain ⟨last, hfold, hlast⟩ := Except.bind_eq_ok.1 h
  split at hlast
  · cases hlast
    exact inv_of_foldlM_take hkeeps hinitial hfold
  · cases hlast

/-- **What every field keeps** and the initial record has holds of each record that is read. -/
theorem read_induct (inv : α → Prop) {document : Json} {value : α}
    (hkeeps : ∀ field ∈ record.fields, field.Keeps inv) (hinitial : inv record.initial)
    (h : record.read document = .ok value) : inv value := by
  unfold read at h
  split at h
  · obtain ⟨⟨other, others⟩, hfields, rfl⟩ := Except.map_eq_ok.1 h
    exact inv_of_ofFields inv hkeeps hinitial hfields
  · exact inv_of_ofElements hkeeps hinitial h
  · cases h

end

end Record

end Json

end FortranBindings
