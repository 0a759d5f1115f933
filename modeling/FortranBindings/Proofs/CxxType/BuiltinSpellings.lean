import Mathlib.Data.List.Count
import FortranBindings.Proofs.CxxType.Specifiers

/-!
# Spellings of builtins

C++ has a few spellings of each builtin, whose words may stand in any order
(`Builtin.cxxSpellings`). All of them are read as this builtin (`Builtin.ofWords?_of_isSpelledBy`).
What is read as a builtin beside them has such a spelling within it, and further sign and length
words that are forgotten (`Builtin.isSpelledWithin_of_ofWords?`). So the builtins have their C++
spellings and no others, except where a word is forgotten (`builtinSpelling_exact`).
-/

namespace FortranBindings

namespace Builtin

variable {words : List String} {kind : Builtin}

/-- The words that C++ spells a builtin with, up to their order. -/
def cxxSpellings : Builtin → List (List String)
  | void => [["void"]]
  | bool => [["bool"]]
  | char => [["char"]]
  | signedChar => [["signed", "char"]]
  | unsignedChar => [["unsigned", "char"]]
  | short => [["short"], ["short", "int"], ["signed", "short"], ["signed", "short", "int"]]
  | unsignedShort => [["unsigned", "short"], ["unsigned", "short", "int"]]
  | int => [["int"], ["signed"], ["signed", "int"]]
  | unsignedInt => [["unsigned"], ["unsigned", "int"]]
  | long => [["long"], ["long", "int"], ["signed", "long"], ["signed", "long", "int"]]
  | unsignedLong => [["unsigned", "long"], ["unsigned", "long", "int"]]
  | longLong => [["long", "long"], ["long", "long", "int"], ["signed", "long", "long"],
      ["signed", "long", "long", "int"]]
  | unsignedLongLong => [["unsigned", "long", "long"], ["unsigned", "long", "long", "int"]]
  | float => [["float"]]
  | double => [["double"]]
  | longDouble => [["long", "double"]]
  | sizeT => [["size_t"], ["std::size_t"]]

/-- The words that spellings of builtins are made of. -/
def vocabulary : List String :=
  ["unsigned", "signed", "long", "short", "int", "void", "bool", "char", "float", "double",
    "size_t", "std::size_t"]

/-- The words are a C++ spelling of the builtin, in some order. -/
def IsSpelledBy (kind : Builtin) (words : List String) : Prop :=
  ∃ spelling ∈ kind.cxxSpellings, words.Perm spelling

/-- The words are a C++ spelling of the builtin and further sign and length words, in some order. -/
def IsSpelledWithin (kind : Builtin) (words : List String) : Prop :=
  ∃ spelling ∈ kind.cxxSpellings, ∃ others, words.Perm (spelling ++ others) ∧
    ∀ word ∈ others, word ∈ modifierWords

theorem mem_vocabulary_of_ofCoreWord? {word : String} {core : Builtin}
    (h : ofCoreWord? word = some core) : word ∈ vocabulary ∧ [word] ∈ core.cxxSpellings := by
  unfold ofCoreWord? at h
  split at h <;> cases h <;> decide

theorem isWord_iff {word : String} : isWord word = true ↔ word ∈ vocabulary := by
  constructor
  · intro h
    rw [isWord, Bool.or_eq_true, decide_eq_true_eq, Option.isSome_iff_exists] at h
    obtain h | ⟨core, hcore⟩ := h
    · exact List.mem_append_left (vocabulary.drop 5) h
    · exact (mem_vocabulary_of_ofCoreWord? hcore).1
  · revert word
    decide

theorem mem_modifierWords_iff {word : String} (h : word ∈ vocabulary) :
    word ∈ modifierWords ↔ ofCoreWord? word = none := by
  revert word
  decide

/-- A C++ spelling has words, all of them in the vocabulary, and at most one core word. -/
theorem of_mem_cxxSpellings {spelling : List String} (h : spelling ∈ kind.cxxSpellings) :
    spelling ≠ [] ∧ (∀ word ∈ spelling, word ∈ vocabulary) ∧
      (spelling.filterMap ofCoreWord?).length ≤ 1 := by
  revert spelling
  cases kind <;> decide

theorem ofWords?_cxxSpellings {spelling : List String} (h : spelling ∈ kind.cxxSpellings) :
    ofWords? spelling = some kind := by
  revert spelling
  cases kind <;> decide

/-- **The C++ spellings of a builtin** are read as the builtin, in any order. -/
theorem ofWords?_of_isSpelledBy (h : kind.IsSpelledBy words) : ofWords? words = some kind := by
  obtain ⟨spelling, hspelling, hperm⟩ := h
  rw [ofWords?_of_perm hperm, ofWords?_cxxSpellings hspelling]

/-! ## What is forgotten -/

/-- If the words of a C++ spelling are there often enough, together with all the core words, then
the others are sign and length words. -/
theorem isSpelledWithin_of_count (hwords : ∀ word ∈ words, word ∈ vocabulary)
    {spelling : List String} (hspelling : spelling ∈ kind.cxxSpellings)
    (hcount : ∀ word ∈ spelling, spelling.count word ≤ words.count word)
    (hcores : (words.filterMap ofCoreWord?).length ≤ (spelling.filterMap ofCoreWord?).length) :
    kind.IsSpelledWithin words := by
  have hperm := (List.subperm_append_diff_self_of_count_le hcount).symm
  refine ⟨spelling, hspelling, words.diff spelling, hperm, fun word hword => ?_⟩
  have hlength := (hperm.filterMap ofCoreWord?).length_eq
  rw [List.filterMap_append, List.length_append] at hlength
  have hnone : (words.diff spelling).filterMap ofCoreWord? = [] :=
    List.eq_nil_of_length_eq_zero (by omega)
  refine (mem_modifierWords_iff (hwords word ?_)).2 (List.filterMap_eq_nil_iff.1 hnone word hword)
  exact hperm.mem_iff.2 (List.mem_append_right _ hword)

theorem isSpelledWithin_of_ofModifiers? (hwords : ∀ word ∈ words, word ∈ vocabulary)
    (hcores : words.filterMap ofCoreWord? = []) (h : ofModifiers? words = some kind) :
    kind.IsSpelledWithin words := by
  have hwithin (spelling : List String) (hspelling : spelling ∈ kind.cxxSpellings)
      (hcount : ∀ word ∈ spelling, spelling.count word ≤ words.count word) :
      kind.IsSpelledWithin words := by
    refine isSpelledWithin_of_count hwords hspelling hcount ?_
    rw [hcores]
    exact Nat.zero_le _
  unfold ofModifiers? at h
  split at h
  · next hshort =>
    split at h <;> cases h
    · next hunsigned =>
      exact hwithin ["unsigned", "short"] (by decide) (by simp [hunsigned, hshort])
    · exact hwithin ["short"] (by decide) (by simp [hshort])
  split at h
  · next hlong =>
    split at h <;> cases h
    · next hunsigned =>
      exact hwithin ["unsigned", "long", "long"] (by decide) (by simp [hunsigned, hlong])
    · exact hwithin ["long", "long"] (by decide) (by simp [hlong])
  split at h
  · next hone =>
    have hlong : "long" ∈ words := List.count_pos_iff.1 (by omega)
    split at h <;> cases h
    · next hunsigned =>
      exact hwithin ["unsigned", "long"] (by decide) (by simp [hunsigned, hlong])
    · exact hwithin ["long"] (by decide) (by simp [hlong])
  split at h
  · next hunsigned =>
    cases h
    exact hwithin ["unsigned"] (by decide) (by simp [hunsigned])
  split at h
  · next hplain =>
    cases h
    obtain hint | hsigned := hplain
    · exact hwithin ["int"] (by decide) (by simp [hint])
    · exact hwithin ["signed"] (by decide) (by simp [hsigned])
  · cases h

theorem isSpelledWithin_ofCore {core : Builtin} (hwords : ∀ word ∈ words, word ∈ vocabulary)
    (hcores : words.filterMap ofCoreWord? = [core]) :
    (ofCore words core).IsSpelledWithin words := by
  obtain ⟨word, hmem, hword⟩ : ∃ word ∈ words, ofCoreWord? word = some core :=
    List.mem_filterMap.1 (hcores ▸ List.mem_singleton_self core)
  have hsingle := (mem_vocabulary_of_ofCoreWord? hword).2
  have hwithin {kind : Builtin} (spelling : List String)
      (hspelling : spelling ∈ kind.cxxSpellings)
      (hcount : ∀ word ∈ spelling, spelling.count word ≤ words.count word)
      (hlength : spelling.filterMap ofCoreWord? ≠ []) : kind.IsSpelledWithin words := by
    refine isSpelledWithin_of_count hwords hspelling hcount ?_
    rw [hcores]
    exact List.length_pos_iff.2 hlength
  have halone : core.IsSpelledWithin words :=
    hwithin [word] hsingle (by simp [hmem]) (by simp [hword])
  cases core with
  | double =>
    obtain rfl : word = "double" := by simpa [cxxSpellings] using hsingle
    rw [ofCore]
    split
    · next hone =>
      have hlong : "long" ∈ words := List.count_pos_iff.1 (by omega)
      exact hwithin ["long", "double"] (by decide) (by simp [hlong, hmem]) (by decide)
    · exact halone
  | char =>
    obtain rfl : word = "char" := by simpa [cxxSpellings] using hsingle
    rw [ofCore]
    split
    · next hunsigned =>
      exact hwithin ["unsigned", "char"] (by decide) (by simp [hunsigned, hmem]) (by decide)
    split
    · next hsigned =>
      exact hwithin ["signed", "char"] (by decide) (by simp [hsigned, hmem]) (by decide)
    · exact halone
  | _ => exact halone

/-- **What is forgotten.** The words that are read as a builtin are a C++ spelling of it and further
sign and length words. -/
theorem isSpelledWithin_of_ofWords? (h : ofWords? words = some kind) :
    words.count "int" ≤ 1 ∧ kind.IsSpelledWithin words := by
  unfold ofWords? at h
  split at h
  · next hall =>
    have hwords : ∀ word ∈ words, word ∈ vocabulary := fun word hword =>
      isWord_iff.1 (List.all_eq_true.1 hall.1 word hword)
    refine ⟨hall.2, ?_⟩
    split at h
    · next hcores => exact isSpelledWithin_of_ofModifiers? hwords hcores h
    · next core hcores =>
      cases h
      exact isSpelledWithin_ofCore hwords hcores
    · cases h
  · cases h

/-- Sign and length words name an integer type if there are any. -/
theorem notMem_of_ofModifiers? (h : ofModifiers? words = none) {word : String}
    (hword : word ∈ modifierWords) : word ∉ words := by
  unfold ofModifiers? at h
  split at h
  · cases h
  next hshort =>
  split at h
  · cases h
  next hmany =>
  split at h
  · cases h
  next hone =>
  split at h
  · cases h
  next hunsigned =>
  split at h
  · cases h
  next hplain =>
  rw [not_or] at hplain
  have hlong : "long" ∉ words := List.count_eq_zero.1 (by omega)
  simp only [modifierWords, List.mem_cons, List.not_mem_nil, or_false] at hword
  obtain rfl | rfl | rfl | rfl | rfl := hword
  · exact hunsigned
  · exact hplain.2
  · exact hlong
  · exact hshort
  · exact hplain.1

/-- Words of the vocabulary are read as some builtin if there are any, at most one of them is a core
word, and `int` is not repeated. -/
theorem exists_ofWords? (hwords : ∀ word ∈ words, word ∈ vocabulary) (hne : words ≠ [])
    (hint : words.count "int" ≤ 1) (hcores : (words.filterMap ofCoreWord?).length ≤ 1) :
    ∃ kind, ofWords? words = some kind := by
  have hall : words.all isWord = true :=
    List.all_eq_true.2 fun word hword => isWord_iff.2 (hwords word hword)
  rw [ofWords?, if_pos ⟨hall, hint⟩]
  cases hfound : words.filterMap ofCoreWord? with
  | nil =>
    obtain ⟨word, hword⟩ := List.exists_mem_of_ne_nil words hne
    have hmodifier : word ∈ modifierWords :=
      (mem_modifierWords_iff (hwords word hword)).2 (List.filterMap_eq_nil_iff.1 hfound word hword)
    refine Option.ne_none_iff_exists'.1 fun hnone => ?_
    exact notMem_of_ofModifiers? hnone hmodifier hword
  | cons core more =>
    rw [hfound, List.length_cons] at hcores
    obtain rfl : more = [] := List.eq_nil_of_length_eq_zero (by omega)
    exact ⟨_, rfl⟩

theorem IsSpelledWithin.exists_ofWords? (h : kind.IsSpelledWithin words)
    (hint : words.count "int" ≤ 1) : ∃ kind, ofWords? words = some kind := by
  obtain ⟨spelling, hspelling, others, hperm, hothers⟩ := h
  obtain ⟨hne, hvocabulary, hone⟩ := of_mem_cxxSpellings hspelling
  have hmodifiers : ∀ word ∈ others, word ∈ vocabulary := fun word hword =>
    List.mem_append_left (vocabulary.drop 5) (hothers word hword)
  have hnone : others.filterMap ofCoreWord? = [] := List.filterMap_eq_nil_iff.2 fun word hword =>
    (mem_modifierWords_iff (hmodifiers word hword)).1 (hothers word hword)
  rw [ofWords?_of_perm hperm]
  refine Builtin.exists_ofWords? (fun word hword => ?_) (by simp [hne]) ?_ ?_
  · exact (List.mem_append.1 hword).elim (hvocabulary word) (hmodifiers word)
  · rwa [← hperm.count_eq]
  · rwa [List.filterMap_append, hnone, List.append_nil]

end Builtin

namespace CxxType

variable {words : List String}

/-- Words of the vocabulary spell no base but a builtin. -/
theorem Base.ofWords_eq_ok_iff {b : Base} (hwords : ∀ word ∈ words, word ∈ Builtin.vocabulary) :
    Base.ofWords false words = .ok b ↔
      ∃ kind, Builtin.ofWords? words = some kind ∧ b = .builtin kind := by
  cases hread : Builtin.ofWords? words with
  | some kind =>
    cases words with
    | nil => cases hread
    | cons word more => simp [Base.ofWords, hread, eq_comm]
  | none =>
    cases words with
    | nil => simp [Base.ofWords]
    | cons first more =>
      cases more with
      | nil =>
        obtain ⟨kind, hkind⟩ := Builtin.exists_ofWords? hwords (List.cons_ne_nil _ _)
          List.count_le_length (List.length_filterMap_le _ _)
        cases hread.symm.trans hkind
      | cons second more => simp [Base.ofWords, hread]

/-! ## What stands behind the base -/

/-- No other word than `const` and `volatile` stands among the tokens. -/
def OnlyQualifiers (tokens : List Token) : Prop :=
  ∀ word, .word word ∈ tokens → word = "const" ∨ word = "volatile"

theorem exists_declare_iff (type : CxxType) {token : Token} :
    (∃ next, declare type token = .ok next) ↔
      ∀ word, token = .word word → word = "const" ∨ word = "volatile" := by
  unfold declare
  split <;> simp_all

theorem root_innermost (type : CxxType) : type.innermost.root = type.root := by
  induction type with
  | base c b => rfl
  | declared c d inner ih => exact ih

theorem innermost_declare {type next : CxxType} {token : Token}
    (h : declare type token = .ok next) : next.innermost = type.innermost := by
  unfold declare at h
  split at h
  · cases h; rfl
  · cases h; rfl
  · cases h; rfl
  · cases h
    split
    · next hpointer =>
      cases type with
      | base c b => cases hpointer
      | declared c d inner => rfl
    · rfl
  · cases h; rfl
  · cases h

/-- Tokens can stand behind a type exactly if there are no other words among them. -/
theorem exists_foldlM_declare_iff {tokens : List Token} {type : CxxType} :
    (∃ next, tokens.foldlM declare type = .ok next) ↔ OnlyQualifiers tokens := by
  induction tokens generalizing type with
  | nil => exact ⟨fun _ => nofun, fun _ => ⟨type, rfl⟩⟩
  | cons token tokens ih =>
    have hcons : OnlyQualifiers (token :: tokens) ↔
        (∀ word, token = .word word → word = "const" ∨ word = "volatile") ∧
          OnlyQualifiers tokens := by
      simp only [OnlyQualifiers, List.mem_cons, or_imp, forall_and, eq_comm]
    rw [hcons, ← exists_declare_iff type]
    simp only [List.foldlM_cons, Except.bind_eq_ok]
    constructor
    · rintro ⟨last, next, hnext, hlast⟩
      exact ⟨⟨next, hnext⟩, ih.1 ⟨last, hlast⟩⟩
    · rintro ⟨⟨next, hnext⟩, hrest⟩
      obtain ⟨last, hlast⟩ := ih.2 hrest
      exact ⟨last, next, hnext, hlast⟩

/-- What stands behind a type does not change what it is built on. -/
theorem innermost_foldlM_declare {tokens : List Token} {type last : CxxType}
    (h : tokens.foldlM declare type = .ok last) : last.innermost = type.innermost := by
  induction tokens generalizing type with
  | nil => cases h; rfl
  | cons token tokens ih =>
    rw [List.foldlM_cons] at h
    obtain ⟨next, hnext, hlast⟩ := Except.bind_eq_ok.1 h
    exact (ih hlast).trans (innermost_declare hnext)

/-! ## Spellings -/

/-- The words in front of the first declarator that spell the base. -/
def baseWords (tokens : List Token) : List String :=
  (specifierWords tokens).filter (· ∉ keywords)

section Spelling

variable {spelling : String} {tokens : List Token}
  (hscan : Token.scan spelling.toList = .ok tokens) (henum : "enum" ∉ specifierWords tokens)
  (hwords : ∀ word ∈ baseWords tokens, word ∈ Builtin.vocabulary)

include hscan henum hwords

/-- A spelling whose base words are of the vocabulary names a type that is built on what the words
are read as. -/
theorem ofSpelling_eq_ok_iff {type : CxxType} : ofSpelling spelling = .ok type ↔
    ∃ kind, Builtin.ofWords? (baseWords tokens) = some kind ∧
      (declaratorTokens tokens).foldlM declare
        (.base ("const" ∈ specifierWords tokens) (.builtin kind)) = .ok type := by
  have hroot {b : Base} : Base.ofWords ("enum" ∈ specifierWords tokens) (baseWords tokens) = .ok b ↔
      ∃ kind, Builtin.ofWords? (baseWords tokens) = some kind ∧ b = .builtin kind := by
    rw [decide_eq_false henum]
    exact Base.ofWords_eq_ok_iff hwords
  rw [ofSpelling_of_scan hscan, Except.mapError_eq_ok, ofTokens_eq, Except.bind_eq_ok]
  constructor
  · rintro ⟨inner, hinner, htype⟩
    obtain ⟨b, hb, hbase⟩ := Except.bind_eq_ok.1 hinner
    obtain ⟨kind, hkind, rfl⟩ := hroot.1 hb
    cases hbase
    exact ⟨kind, hkind, htype⟩
  · rintro ⟨kind, hkind, htype⟩
    exact ⟨_, Except.bind_eq_ok.2 ⟨_, hroot.2 ⟨kind, hkind, rfl⟩, rfl⟩, htype⟩

/-- Which spellings of the vocabulary name a type. -/
theorem exists_ofSpelling_iff : (∃ type, ofSpelling spelling = .ok type) ↔
    OnlyQualifiers (declaratorTokens tokens) ∧ (baseWords tokens).count "int" ≤ 1 ∧
      ∃ kind : Builtin, kind.IsSpelledWithin (baseWords tokens) := by
  simp only [ofSpelling_eq_ok_iff hscan henum hwords]
  constructor
  · rintro ⟨type, kind, hkind, htype⟩
    obtain ⟨hint, hwithin⟩ := Builtin.isSpelledWithin_of_ofWords? hkind
    exact ⟨exists_foldlM_declare_iff.1 ⟨type, htype⟩, hint, kind, hwithin⟩
  · rintro ⟨hmarks, hint, kind, hwithin⟩
    obtain ⟨kind', hkind'⟩ := hwithin.exists_ofWords? hint
    obtain ⟨type, htype⟩ := exists_foldlM_declare_iff.2 hmarks
    exact ⟨type, kind', hkind', htype⟩

end Spelling

/-- The words are a C++ spelling exactly if the spelling names a type, which is built on the builtin
that the words spell then. -/
structure FollowsCxx (spelling : String) (words : List String) : Prop where
  isSpelled_iff : (∃ type, ofSpelling spelling = .ok type) ↔
    ∃ kind : Builtin, kind.IsSpelledBy words
  root_eq : ∀ type kind, ofSpelling spelling = .ok type → Builtin.IsSpelledBy kind words →
    type.root = .builtin kind

/-- The words are no C++ spelling of a builtin, but would be one without some of the words that say
something of sign or length; `int` is not repeated. -/
structure ForgetsWords (words : List String) : Prop where
  count_int : words.count "int" ≤ 1
  isSpelledWithin : ∃ kind : Builtin, kind.IsSpelledWithin words
  not_isSpelledBy : ∀ kind : Builtin, ¬kind.IsSpelledBy words

/-- **Spellings of builtins.** Take a spelling without `enum`, whose words in front of the first
declarator are of the vocabulary of builtins apart from those that are no part of the base. It names
a type exactly if no other word than a qualifier stands behind the declarators, `int` is not
repeated, and a C++ spelling of a builtin is within the words, besides which there are only sign and
length words. Then the type is built on a builtin with such a spelling, and on the very builtin that
the words spell if they are a C++ spelling. So the spellings of builtins are the C++ spellings
exactly where no word is forgotten. -/
theorem builtinSpelling_exact {spelling : String} {tokens : List Token}
    (hscan : Token.scan spelling.toList = .ok tokens) (henum : "enum" ∉ specifierWords tokens)
    (hwords : ∀ word ∈ baseWords tokens, word ∈ Builtin.vocabulary) :
    ((∃ type, ofSpelling spelling = .ok type) ↔
      OnlyQualifiers (declaratorTokens tokens) ∧ (baseWords tokens).count "int" ≤ 1 ∧
        ∃ kind : Builtin, kind.IsSpelledWithin (baseWords tokens)) ∧
    (∀ type, ofSpelling spelling = .ok type → ∃ kind : Builtin,
      type.innermost = .base ("const" ∈ specifierWords tokens) (.builtin kind) ∧
        kind.IsSpelledWithin (baseWords tokens) ∧
          ∀ other : Builtin, other.IsSpelledBy (baseWords tokens) → other = kind) ∧
    (OnlyQualifiers (declaratorTokens tokens) →
      (FollowsCxx spelling (baseWords tokens) ↔ ¬ForgetsWords (baseWords tokens))) := by
  have hok := exists_ofSpelling_iff hscan henum hwords
  have hkinds : ∀ type, ofSpelling spelling = .ok type → ∃ kind : Builtin,
      type.innermost = .base ("const" ∈ specifierWords tokens) (.builtin kind) ∧
        kind.IsSpelledWithin (baseWords tokens) ∧
          ∀ other : Builtin, other.IsSpelledBy (baseWords tokens) → other = kind := by
    intro type htype
    obtain ⟨kind, hkind, hdeclared⟩ := (ofSpelling_eq_ok_iff hscan henum hwords).1 htype
    refine ⟨kind, innermost_foldlM_declare hdeclared,
      (Builtin.isSpelledWithin_of_ofWords? hkind).2, fun other hother => ?_⟩
    exact Option.some.inj ((Builtin.ofWords?_of_isSpelledBy hother).symm.trans hkind)
  refine ⟨hok, hkinds, fun hmarks => ⟨fun hfollows hforgets => ?_, fun hremembers => ?_⟩⟩
  · obtain ⟨kind, hkind⟩ := hfollows.isSpelled_iff.1
      (hok.2 ⟨hmarks, hforgets.count_int, hforgets.isSpelledWithin⟩)
    exact hforgets.not_isSpelledBy kind hkind
  · refine ⟨⟨fun hread => ?_, ?_⟩, ?_⟩
    · obtain ⟨-, hint, hwithin⟩ := hok.1 hread
      by_contra hnone
      exact hremembers ⟨hint, hwithin, not_exists.1 hnone⟩
    · rintro ⟨kind, hkind⟩
      obtain ⟨hint, hwithin⟩ :=
        Builtin.isSpelledWithin_of_ofWords? (Builtin.ofWords?_of_isSpelledBy hkind)
      exact hok.2 ⟨hmarks, hint, kind, hwithin⟩
    · intro type kind htype hkind
      obtain ⟨kind', hinnermost, -, hsame⟩ := hkinds type htype
      rw [hsame kind hkind, ← root_innermost, hinnermost]
      rfl

theorem builtinSpelling_of_pointer : ∃ type,
    ofSpelling "long unsigned const int long *" = .ok type ∧
      type.innermost = .base true (.builtin .unsignedLongLong) := by
  have hscan : Token.scan "long unsigned const int long *".toList =
      .ok [.word "long", .word "unsigned", .word "const", .word "int", .word "long", .star] := by
    decide +kernel
  obtain ⟨hok, hkinds, -⟩ := builtinSpelling_exact hscan (by decide) (by decide)
  have hspelled : Builtin.unsignedLongLong.IsSpelledBy ["long", "unsigned", "int", "long"] :=
    ⟨["unsigned", "long", "long", "int"], by decide, by decide⟩
  obtain ⟨hint, hwithin⟩ :=
    Builtin.isSpelledWithin_of_ofWords? (Builtin.ofWords?_of_isSpelledBy hspelled)
  obtain ⟨type, htype⟩ := hok.2 ⟨nofun, hint, _, hwithin⟩
  obtain ⟨kind, hinnermost, -, hsame⟩ := hkinds type htype
  rw [← hsame _ hspelled] at hinnermost
  exact ⟨type, htype, hinnermost⟩

/-- Not every spelling of the vocabulary that names a type is a C++ spelling. -/
theorem not_followsCxx : ¬∀ (spelling : String) (tokens : List Token),
    Token.scan spelling.toList = .ok tokens → "enum" ∉ specifierWords tokens →
      (∀ word ∈ baseWords tokens, word ∈ Builtin.vocabulary) →
        OnlyQualifiers (declaratorTokens tokens) → FollowsCxx spelling (baseWords tokens) := by
  intro hall
  have hread : ofSpelling "unsigned void" = .ok .void := by decide +kernel
  obtain ⟨kind, spelling, hspelling, hperm⟩ :=
    (hall "unsigned void" [.word "unsigned", .word "void"] (by decide +kernel) (by decide)
      (by decide) nofun).isSpelled_iff.1 ⟨_, hread⟩
  revert spelling
  cases kind <;> decide

end CxxType

end FortranBindings
