import FortranBindings.Json.Record
import FortranBindings.Proofs.CxxType.Words

/-!
# Signatures are read back

The types that spellings name are those that are `WellSpelled`: their names are single words which
stand for nothing else, and only bases and pointers are `const`. The signature of such a type is a
spelling of the type (`ofSpelling_signature`), and every type that is read is of this form
(`wellSpelled_of_ofSpelling`). So signatures tell types apart (`IsSpelled.eq_of_signature_eq`).
-/

namespace FortranBindings

/-- The words that spell a builtin. -/
def Builtin.words : Builtin → List String
  | signedChar => ["signed", "char"]
  | unsignedChar => ["unsigned", "char"]
  | unsignedShort => ["unsigned", "short"]
  | unsignedInt => ["unsigned", "int"]
  | unsignedLong => ["unsigned", "long"]
  | longLong => ["long", "long"]
  | unsignedLongLong => ["unsigned", "long", "long"]
  | longDouble => ["long", "double"]
  | kind => [kind.spelling]

theorem Builtin.spelling_eq_intercalate (kind : Builtin) :
    kind.spelling = " ".intercalate kind.words := by
  cases kind <;> rfl

theorem Builtin.words_ne_nil (kind : Builtin) : kind.words ≠ [] := by
  cases kind <;> exact List.cons_ne_nil _ _

namespace CxxType

/-- The words that spell a base. -/
def Base.words : Base → List String
  | builtin kind => kind.words
  | named name => [name]
  | enumeration name => ["enum", name]

/-- The words in front of the declarators. -/
def specifiers (isConst : Bool) (base : Base) : List String :=
  (if isConst then ["const"] else []) ++ base.words

/-- Names are single words, and one without `enum` names no builtin. -/
def Base.WellSpelled : Base → Prop
  | builtin _ => True
  | named name => IsWord name.toList ∧ name ∉ keywords ∧ Builtin.ofWords? [name] = none
  | enumeration name => IsWord name.toList ∧ name ∉ keywords

/-- The types that have a spelling: only a base or a pointer can be `const`. -/
def WellSpelled : CxxType → Prop
  | base _ b => b.WellSpelled
  | declared isConst declarator inner =>
    (isConst = true → declarator = .pointer) ∧ inner.WellSpelled

/-- The token of a declarator. -/
def Declarator.token : Declarator → Token
  | pointer => .star
  | lvalueReference => .amp
  | rvalueReference => .ampAmp

/-- The characters of a declarator. -/
def Declarator.mark : Declarator → List Char
  | pointer => ['*']
  | lvalueReference => ['&']
  | rvalueReference => ['&', '&']

/-- The tokens behind the base. -/
def marks : CxxType → List Token
  | base .. => []
  | declared isConst declarator inner =>
    inner.marks ++ declarator.token :: if isConst then [.word "const"] else []

/-- The tokens of the signature. -/
def tokens (type : CxxType) : List Token :=
  (specifiers type.innermost.isConst type.root).map .word ++ type.marks

/-! ## From the signature to its tokens -/

theorem isWord_const : IsWord "const".toList := by decide

theorem isWord_enum : IsWord "enum".toList := by decide

theorem Base.spelling_eq_intercalate (b : Base) : b.spelling = " ".intercalate b.words := by
  cases b with
  | builtin kind => exact kind.spelling_eq_intercalate
  | named name => simp [Base.spelling, Base.words]
  | enumeration name => simp [Base.spelling, Base.words]

theorem Base.words_ne_nil (b : Base) : b.words ≠ [] := by
  cases b with
  | builtin kind => exact kind.words_ne_nil
  | named name => simp [Base.words]
  | enumeration name => simp [Base.words]

theorem specifiers_ne_nil (isConst : Bool) (b : Base) : specifiers isConst b ≠ [] := by
  simp [specifiers, b.words_ne_nil]

theorem signature_base (isConst : Bool) (b : Base) :
    (base isConst b).signature = " ".intercalate (specifiers isConst b) := by
  rw [signature, specifiers, b.spelling_eq_intercalate]
  cases isConst with
  | false => simp
  | true => simp [String.intercalate_cons_of_ne_nil b.words_ne_nil]

theorem isWord_of_mem_specifiers {isConst : Bool} {b : Base} (h : b.WellSpelled) :
    ∀ w ∈ specifiers isConst b, IsWord w.toList := by
  have hb : ∀ w ∈ b.words, IsWord w.toList := by
    cases b with
    | builtin kind => cases kind <;> decide
    | named name => simpa [Base.words] using h.1
    | enumeration name => simpa [Base.words] using ⟨isWord_enum, h.1⟩
  intro w hw
  cases isConst with
  | false => exact hb w hw
  | true =>
    rcases List.mem_cons.1 hw with rfl | hw
    · exact isWord_const
    · exact hb w hw

theorem tokens_declared (c : Bool) (d : Declarator) (inner : CxxType) :
    (declared c d inner).tokens =
      inner.tokens ++ d.token :: if c then [.word "const"] else [] := by
  simp [tokens, marks, innermost, root]

theorem toList_signature_declared {c : Bool} {d : Declarator} (hc : c = true → d = .pointer)
    (inner : CxxType) :
    (declared c d inner).signature.toList =
      inner.signature.toList ++ ' ' :: (d.mark ++ if c then "const".toList else []) := by
  cases d with
  | pointer => cases c <;> simp [signature, Declarator.mark]
  | lvalueReference | rvalueReference =>
    obtain rfl : c = false := by simpa using hc
    simp [signature, Declarator.mark]

/-- The mark of a declarator is scanned into its token, and `const` behind a pointer too. -/
theorem scan_mark {c : Bool} {d : Declarator} (hc : c = true → d = .pointer) {rest : List Char}
    (hr : EndsWord rest) :
    Token.scan (d.mark ++ ((if c then "const".toList else []) ++ rest)) =
      (Token.scan rest).map (d.token :: (if c then [.word "const"] else []) ++ ·) := by
  cases c with
  | false =>
    cases d with
    | pointer => simp [Declarator.mark, Declarator.token]
    | lvalueReference => simp [Declarator.mark, Declarator.token, Token.scan_amp hr.head?_ne_amp]
    | rvalueReference => simp [Declarator.mark, Declarator.token]
  | true =>
    obtain rfl := hc rfl
    rw [if_pos rfl, Declarator.mark, List.singleton_append, Token.scan_star,
      Token.scan_append_of_isWord isWord_const (Token.stopsWord_of_endsWord hr),
      String.ofList_toList]
    cases Token.scan rest <;> rfl

/-- The signature of a type is scanned into its tokens. -/
theorem scan_signature {type : CxxType} (h : type.WellSpelled) {rest : List Char}
    (hr : EndsWord rest) :
    Token.scan (type.signature.toList ++ rest) = (Token.scan rest).map (type.tokens ++ ·) := by
  -- The rest is general because the mark of a declarator stands behind the inner type.
  induction type generalizing rest with
  | base c b =>
    rw [signature_base, Token.scan_intercalate (specifiers_ne_nil c b)
      (isWord_of_mem_specifiers h) hr]
    simp [tokens, marks, innermost, root, isConst]
  | declared c d inner ih =>
    obtain ⟨hc, hinner⟩ := h
    rw [toList_signature_declared hc, List.append_assoc, List.cons_append, List.append_assoc,
      ih hinner (endsWord_blank _), Token.scan_blank, scan_mark hc hr, tokens_declared]
    cases Token.scan rest <;> simp [Except.map]

/-! ## From the tokens to the type -/

theorem ofSpecifiers_specifiers (isConst : Bool) {b : Base} (h : b.WellSpelled) :
    ofSpecifiers (specifiers isConst b) = .ok (base isConst b) := by
  cases b with
  | builtin kind => cases kind <;> cases isConst <;> rfl
  | named name =>
    obtain ⟨-, hk, hb⟩ := h
    have hconst : "const" ≠ name := by rintro rfl; exact hk (by decide)
    have henum : "enum" ≠ name := by rintro rfl; exact hk (by decide)
    have hfilter : (specifiers isConst (.named name)).filter (· ∉ keywords) = [name] := by
      cases isConst <;> simpa [specifiers, Base.words, keywords] using hk
    rw [ofSpecifiers, hfilter]
    cases isConst <;> simp [specifiers, Base.words, Base.ofWords, hb, hconst, henum]
  | enumeration name =>
    obtain ⟨-, hk⟩ := h
    have hconst : "const" ≠ name := by rintro rfl; exact hk (by decide)
    have hfilter : (specifiers isConst (.enumeration name)).filter (· ∉ keywords) = [name] := by
      cases isConst <;> simpa [specifiers, Base.words, keywords] using hk
    rw [ofSpecifiers, hfilter]
    cases isConst <;> simp [specifiers, Base.words, Base.ofWords, hconst]

theorem foldlM_marks (type : CxxType) (h : type.WellSpelled) :
    type.marks.foldlM declare (base type.innermost.isConst type.root) = .ok type := by
  induction type with
  | base c b => rfl
  | declared c d inner ih =>
    obtain ⟨hc, hinner⟩ := h
    simp only [marks, List.foldlM_append, innermost, root, ih hinner]
    cases c with
    | false => cases d <;> rfl
    | true =>
      obtain rfl := hc rfl
      rfl

theorem WellSpelled.root {type : CxxType} (h : type.WellSpelled) : type.root.WellSpelled := by
  induction type with
  | base c b => exact h
  | declared c d inner ih => exact ih h.2

/-- The first token behind the base is a declarator. -/
theorem word?_of_mem_head?_marks (type : CxxType) : ∀ t ∈ type.marks.head?, t.word? = none := by
  induction type with
  | base c b => simp [marks]
  | declared c d inner ih =>
    cases hm : inner.marks with
    | nil => cases d <;> simp [marks, hm, Declarator.token, Token.word?]
    | cons t ts => simpa [marks, hm] using ih

/-- The tokens of a well-spelled type name the type. -/
theorem ofTokens_tokens {type : CxxType} (h : type.WellSpelled) :
    ofTokens type.tokens = .ok type := by
  set words := specifiers type.innermost.isConst type.root
  have hwords : ∀ t ∈ words.map Token.word, t.word?.isSome = true := by simp [Token.word?]
  have hmarks := word?_of_mem_head?_marks type
  have htake : type.marks.takeWhile (fun t => t.word?.isSome) = [] := by
    cases hm : type.marks <;> simp_all
  have hdrop : type.marks.dropWhile (fun t => t.word?.isSome) = type.marks := by
    cases hm : type.marks <;> simp_all
  have hback : (words.map Token.word).filterMap Token.word? = words := by
    simp [List.filterMap_map, Function.comp_def, Token.word?]
  simp only [ofTokens, tokens]
  rw [List.takeWhile_append_of_pos hwords, List.dropWhile_append_of_pos hwords, htake, hdrop,
    List.append_nil, hback, ofSpecifiers_specifiers _ h.root]
  exact foldlM_marks type h

/-- **The signature of a well-spelled type is a spelling of it.** -/
theorem ofSpelling_signature {type : CxxType} (h : type.WellSpelled) :
    ofSpelling type.signature = .ok type := by
  have hscan : Token.scan type.signature.toList = .ok type.tokens := by
    simpa [Except.map] using scan_signature h endsWord_nil
  simp only [ofSpelling, ofChars, hscan]
  exact Except.mapError_eq_ok.2 (ofTokens_tokens h)

/-! ## Every type that is read is well spelled -/

theorem wellSpelled_of_ofWords {isEnum : Bool} {words : List String} {b : Base}
    (hw : ∀ w ∈ words, IsWord w.toList ∧ w ∉ keywords) (h : Base.ofWords isEnum words = .ok b) :
    b.WellSpelled := by
  cases words with
  | nil => cases h
  | cons w others =>
    cases isEnum with
    | true =>
      cases others with
      | nil => cases h; exact hw w List.mem_cons_self
      | cons => cases h
    | false =>
      simp only [Base.ofWords, Bool.false_eq_true, if_false] at h
      split at h
      · cases h; trivial
      · next hb he =>
        cases he
        cases h
        exact ⟨(hw w List.mem_cons_self).1, (hw w List.mem_cons_self).2, hb⟩
      · cases h

theorem wellSpelled_of_ofSpecifiers {words : List String} {type : CxxType}
    (hw : ∀ w ∈ words, IsWord w.toList) (h : ofSpecifiers words = .ok type) :
    type.WellSpelled := by
  obtain ⟨b, hb, he⟩ := Except.bind_eq_ok.1 h
  cases he
  refine wellSpelled_of_ofWords (fun w hm => ?_) hb
  obtain ⟨hm, hk⟩ := List.mem_filter.1 hm
  exact ⟨hw w hm, by simpa using hk⟩

/-- Declarators keep a type well spelled: what becomes `const` is a pointer. -/
theorem WellSpelled.declare {type next : CxxType} {token : Token} (ht : type.WellSpelled)
    (h : declare type token = .ok next) : next.WellSpelled := by
  unfold CxxType.declare at h
  split at h
  · cases h; exact ⟨fun _ => rfl, ht⟩
  · cases h; exact ⟨nofun, ht⟩
  · cases h; exact ⟨nofun, ht⟩
  · cases h
    split
    · next hp =>
      cases type with
      | base c b => cases hp
      | declared c d inner => exact ⟨fun _ => by simpa [isPointer] using hp, ht.2⟩
    · exact ht
  · cases h; exact ht
  · cases h

theorem WellSpelled.foldlM_declare {type next : CxxType} {tokens : List Token}
    (ht : type.WellSpelled) (h : tokens.foldlM CxxType.declare type = .ok next) :
    next.WellSpelled := by
  induction tokens generalizing type with
  | nil => cases h; exact ht
  | cons token tokens ih =>
    rw [List.foldlM_cons] at h
    obtain ⟨declared, hd, h⟩ := Except.bind_eq_ok.1 h
    exact ih (ht.declare hd) h

/-- Every type that a spelling names is well spelled. -/
theorem wellSpelled_of_ofSpelling {spelling : String} {type : CxxType}
    (h : ofSpelling spelling = .ok type) : type.WellSpelled := by
  obtain ⟨tokens, hscan, h⟩ := Except.bind_eq_ok.1 (Except.mapError_eq_ok.1 h)
  have hscan := Except.mapError_eq_ok.1 hscan
  obtain ⟨inner, hinner, h⟩ := Except.bind_eq_ok.1 h
  refine WellSpelled.foldlM_declare (wellSpelled_of_ofSpecifiers (fun w hw => ?_) hinner) h
  obtain ⟨token, ht, hword⟩ := List.mem_filterMap.1 hw
  cases token with
  | word text =>
    cases hword
    exact Token.isWord_of_mem_scan hscan (List.takeWhile_subset _ ht)
  | _ => cases hword

/-- Can the type be read from some spelling? -/
def IsSpelled (type : CxxType) : Prop :=
  ∃ spelling, ofSpelling spelling = .ok type

/-- The types that spellings name are the well-spelled ones. -/
theorem isSpelled_iff {type : CxxType} : type.IsSpelled ↔ type.WellSpelled :=
  ⟨fun ⟨_, h⟩ => wellSpelled_of_ofSpelling h, fun h => ⟨_, ofSpelling_signature h⟩⟩

/-- Signatures tell types apart that can be read. -/
theorem IsSpelled.eq_of_signature_eq {type other : CxxType} (ht : type.IsSpelled)
    (ho : other.IsSpelled) (h : type.signature = other.signature) : type = other := by
  have heq := ofSpelling_signature (isSpelled_iff.1 ht)
  rw [h, ofSpelling_signature (isSpelled_iff.1 ho)] at heq
  exact (Except.ok.inj heq).symm

/-! ## References that are `const` -/

/-- The type without the `const` of references, which a typedef can bring there and which a
signature does not show. -/
def normal : CxxType → CxxType
  | base c b => base c b
  | declared c d inner => declared (c && d = .pointer) d inner.normal

theorem signature_normal (type : CxxType) : type.normal.signature = type.signature := by
  induction type with
  | base c b => rfl
  | declared c d inner ih => cases d <;> simp [normal, signature, ih]

theorem wellSpelled_normal {type : CxxType} (h : type.root.WellSpelled) :
    type.normal.WellSpelled := by
  induction type with
  | base c b => exact h
  | declared c d inner ih =>
    refine ⟨fun hc => ?_, ih h⟩
    simpa using And.right (Bool.and_eq_true_iff.1 hc)

/-- A signature tells a type that is built on a name or builtin by itself from every other type. -/
theorem eq_base_of_signature_eq {type : CxxType} {isConst : Bool} {b : Base}
    (ht : type.root.WellSpelled) (hb : b.WellSpelled)
    (h : type.signature = (base isConst b).signature) : type = base isConst b := by
  have hbase : (base isConst b).WellSpelled := hb
  have hnormal : type.normal = base isConst b :=
    IsSpelled.eq_of_signature_eq (isSpelled_iff.2 (wellSpelled_normal ht))
      (isSpelled_iff.2 hbase) ((signature_normal type).trans h)
  cases type with
  | base c b => exact hnormal
  | declared => cases hnormal

/-- **Signatures are faithful.** The signature of a type that was read names this type and no other
type that can be read, and a document with the signature is read as the type. -/
theorem signature_faithful {spelling : String} {type : CxxType}
    (h : ofSpelling spelling = .ok type) :
    ofSpelling type.signature = .ok type ∧
      (∀ other otherType, ofSpelling other = .ok otherType →
        otherType.signature = type.signature → otherType = type) ∧
      Json.asType (.string type.signature) = .ok type := by
  have hread := ofSpelling_signature (wellSpelled_of_ofSpelling h)
  refine ⟨hread, fun other otherType ho hs => ?_, ?_⟩
  · exact IsSpelled.eq_of_signature_eq ⟨other, ho⟩ ⟨spelling, h⟩ hs
  · change (ofSpelling type.signature).mapError _ = _
    exact Except.mapError_eq_ok.2 hread

theorem signature_faithful_nested :
    ofSpelling "std::pair<int*,é> const volatile *const*&& &" = .ok
        (.lvalueReference (.declared false .rvalueReference
          (.pointer (.declared true .pointer (.base true (.named "std::pair<int*,é>")))))) ∧
      ofSpelling "const std::pair<int*,é> *const * && &" = .ok
        (.lvalueReference (.declared false .rvalueReference
          (.pointer (.declared true .pointer (.base true (.named "std::pair<int*,é>")))))) := by
  have h : ofSpelling "std::pair<int*,é> const volatile *const*&& &" = .ok
        (.lvalueReference (.declared false .rvalueReference
          (.pointer (.declared true .pointer (.base true (.named "std::pair<int*,é>")))))) := by
    simp [ofSpelling, ofChars, Token.scan, Token.scanWord, Token.isSpace, Token.isWordChar]
    rfl
  exact ⟨h, (signature_faithful h).1⟩

end CxxType

end FortranBindings
