import FortranBindings.Proofs.CxxType.Signature
import FortranBindings.Proofs.CxxType.Spacing

/-!
# The order of specifiers

The type that a spelling names goes by the words in front of the first declarator only through what
is said of them without their order: which words there are and how often. So it does not matter in
which order they stand, how often `const` is among them, and whether one of the words that mean
nothing here is (`Respelled.ofSpecifiers_eq`). Two spellings that differ in no more than this, and
in their spacing, name the same type, or are refused for the same reason (`specifiers_unordered`).
-/

namespace FortranBindings

variable {words others : List String}

/-- Two orders of a list differ only where there is more than one element. -/
theorem eq_or_exists_cons_cons_of_perm {α : Type} {list other : List α} (h : list.Perm other) :
    list = other ∨ ∃ first second rest first' second' rest',
      list = first :: second :: rest ∧ other = first' :: second' :: rest' :=
  match list, other, h.length_eq with
  | [], [], _ => .inl rfl
  | [_], [_], _ => .inl (List.singleton_perm.1 h)
  | _ :: _ :: _, _ :: _ :: _, _ => .inr ⟨_, _, _, _, _, _, rfl, rfl⟩

namespace Builtin

theorem ofModifiers?_of_perm (h : words.Perm others) :
    ofModifiers? words = ofModifiers? others := by
  simp only [ofModifiers?, h.mem_iff, h.count_eq]

theorem ofCore_of_perm (h : words.Perm others) (core : Builtin) :
    ofCore words core = ofCore others core := by
  cases core <;> simp only [ofCore, h.mem_iff, h.count_eq]

/-- The words of a builtin may stand in any order. -/
theorem ofWords?_of_perm (h : words.Perm others) : ofWords? words = ofWords? others := by
  rw [ofWords?, ofWords?, h.all_eq, h.count_eq]
  obtain heq | ⟨first, second, rest, first', second', rest', hwords, hothers⟩ :=
    eq_or_exists_cons_cons_of_perm (h.filterMap ofCoreWord?)
  · rw [heq]
    simp only [ofModifiers?_of_perm h, ofCore_of_perm h]
  · -- With more than one core word among them, both are refused.
    rw [hwords, hothers]

end Builtin

namespace CxxType

/-- The words of a spelling in front of its first declarator. -/
def specifierWords (tokens : List Token) : List String :=
  (tokens.takeWhile (·.word?.isSome)).filterMap Token.word?

/-- The first declarator of a spelling and what stands behind it. -/
def declaratorTokens (tokens : List Token) : List Token :=
  tokens.dropWhile (·.word?.isSome)

/-- The words in front of the first declarator name a type, which the others build upon. -/
theorem ofTokens_eq (tokens : List Token) :
    ofTokens tokens =
      ofSpecifiers (specifierWords tokens) >>= (declaratorTokens tokens).foldlM declare :=
  rfl

theorem ofSpelling_of_scan {spelling : String} {tokens : List Token}
    (h : Token.scan spelling.toList = .ok tokens) :
    ofSpelling spelling = (ofTokens tokens).mapError fun fault => ⟨spelling, fault⟩ := by
  rw [ofSpelling, ofChars, h]
  rfl

theorem Base.ofWords_of_perm (h : words.Perm others) (isEnum : Bool) :
    Base.ofWords isEnum words = Base.ofWords isEnum others := by
  obtain rfl | ⟨first, second, rest, first', second', rest', rfl, rfl⟩ :=
    eq_or_exists_cons_cons_of_perm h
  · rfl
  · simp only [Base.ofWords, Builtin.ofWords?_of_perm h]
    cases Builtin.ofWords? (first' :: second' :: rest') <;> rfl

/-- **What specifiers say** is said by the words of the base, in any order, and by whether `enum`
and `const` are there. -/
theorem ofSpecifiers_congr
    (hbase : (words.filter (· ∉ keywords)).Perm (others.filter (· ∉ keywords)))
    (henum : "enum" ∈ words ↔ "enum" ∈ others) (hconst : "const" ∈ words ↔ "const" ∈ others) :
    ofSpecifiers words = ofSpecifiers others := by
  simp only [ofSpecifiers, henum, hconst, Base.ofWords_of_perm hbase]

/-- The specifiers differ in what does not matter: their order, how often `const` is repeated, and
which of the words are there that mean nothing. -/
inductive Respelled : List String → List String → Prop
  | reordered {words others : List String} (h : words.Perm others) : Respelled words others
  | repeated {words : List String} (h : "const" ∈ words) : Respelled words ("const" :: words)
  | added {word : String} (words : List String) (h : word ∈ ["volatile", "struct", "class"]) :
    Respelled words (word :: words)
  | symm {words others : List String} (h : Respelled words others) : Respelled others words
  | trans {words others more : List String} (h : Respelled words others)
    (h' : Respelled others more) : Respelled words more

/-- Respelled specifiers name the same type, or are refused for the same reason. -/
theorem Respelled.ofSpecifiers_eq (h : Respelled words others) :
    ofSpecifiers words = ofSpecifiers others := by
  induction h with
  | reordered h => exact ofSpecifiers_congr (h.filter _) h.mem_iff h.mem_iff
  | @repeated words h =>
    refine ofSpecifiers_congr (.of_eq ?_) ?_ ?_
    · simp [keywords]
    · simp
    · simp [h]
  | added words h =>
    simp only [List.mem_cons, List.not_mem_nil, or_false] at h
    refine ofSpecifiers_congr (.of_eq ?_) ?_ ?_ <;>
      obtain rfl | rfl | rfl := h <;> simp [keywords]
  | symm _ ih => exact ih.symm
  | trans _ _ ih ih' => exact ih.trans ih'

/-- Both spellings name the same type, or both are refused for the same reason. -/
def ReadAlike (spelling other : String) : Prop :=
  (∀ type, ofSpelling spelling = .ok type ↔ ofSpelling other = .ok type) ∧
    ∀ fault, ofSpelling spelling = .error ⟨spelling, fault⟩ ↔
      ofSpelling other = .error ⟨other, fault⟩

theorem readAlike_of_ofTokens_eq {spelling other : String} {tokens otherTokens : List Token}
    (hscan : Token.scan spelling.toList = .ok tokens)
    (hother : Token.scan other.toList = .ok otherTokens)
    (h : ofTokens tokens = ofTokens otherTokens) : ReadAlike spelling other := by
  rw [ReadAlike, ofSpelling_of_scan hscan, ofSpelling_of_scan hother, h]
  cases ofTokens otherTokens <;> simp [Except.mapError]

theorem Respelled.readAlike {spelling other : String} {tokens otherTokens : List Token}
    (hscan : Token.scan spelling.toList = .ok tokens)
    (hother : Token.scan other.toList = .ok otherTokens)
    (hwords : Respelled (specifierWords tokens) (specifierWords otherTokens))
    (hmarks : declaratorTokens tokens = declaratorTokens otherTokens) :
    ReadAlike spelling other :=
  readAlike_of_ofTokens_eq hscan hother (by
    rw [ofTokens_eq, ofTokens_eq, hwords.ofSpecifiers_eq, hmarks])

section Reference

variable {name : String} (hname : IsWord name.toList)

include hname

/-- A `const` behind a name. -/
theorem spells_name_const :
    Token.Spells [.word name, .word "const", .amp] (name ++ " const &").toList := by
  have hmark : Token.Spells [.amp] " &".toList := .space rfl (.amp nofun .nil)
  have hconst : Token.Spells [.word "const", .amp] " const &".toList :=
    .space rfl (.word isWord_const (Token.stopsWord_of_endsWord (endsWord_blank _)) hmark)
  rw [String.toList_append]
  exact .word hname (Token.stopsWord_of_endsWord (endsWord_blank _)) hconst

/-- A `const` in front of a name, with or without a blank behind the name. -/
theorem spells_const_name {mark : String} (hmark : Token.Spells [.amp] mark.toList)
    (hstops : Token.StopsWord mark.toList) :
    Token.Spells [.word "const", .word name, .amp] ("const " ++ name ++ mark).toList := by
  have hbehind : Token.Spells [.word name, .amp] (' ' :: (name.toList ++ mark.toList)) :=
    .space rfl (.word hname hstops hmark)
  have hconst := Token.Spells.word isWord_const
    (Token.stopsWord_of_endsWord (endsWord_blank _)) hbehind
  simpa using hconst

end Reference

/-- **The order of specifiers and the spacing do not matter.** Two spellings with the same
declarators behind respelled specifiers name the same type, or are refused for the same reason. So a
reference to something `const` is the same type with `const` in front of the name and behind it, and
with or without a blank. -/
theorem specifiers_unordered :
    (∀ spelling other tokens otherTokens, Token.scan spelling.toList = .ok tokens →
      Token.scan other.toList = .ok otherTokens →
        Respelled (specifierWords tokens) (specifierWords otherTokens) →
          declaratorTokens tokens = declaratorTokens otherTokens → ReadAlike spelling other) ∧
    ∀ name : String, IsWord name.toList →
      ReadAlike (name ++ " const &") ("const " ++ name ++ " &") ∧
        ReadAlike ("const " ++ name ++ "&") ("const " ++ name ++ " &") := by
  refine ⟨fun _ _ _ _ => Respelled.readAlike, fun name hname => ?_⟩
  have hspaced : Token.Spells [.amp] " &".toList := .space rfl (.amp nofun .nil)
  have htight : Token.Spells [.amp] "&".toList := .amp nofun .nil
  have hstops : Token.StopsWord "&".toList := by
    rintro c ⟨⟩
    rfl
  have hfront := (spells_const_name hname hspaced
    (Token.stopsWord_of_endsWord (endsWord_blank _))).scan_eq
  constructor
  · exact Respelled.readAlike (spells_name_const hname).scan_eq hfront
      (.reordered (.swap _ _ _)) rfl
  · exact readAlike_of_ofTokens_eq (spells_const_name hname htight hstops).scan_eq hfront rfl

theorem specifiers_unordered_of_pointer :
    ofSpelling "long const volatile unsigned*const" =
        .ok (.declared true .pointer (.base true (.builtin .unsignedLong))) ∧
      ofSpelling "unsigned const const long * const" =
        .ok (.declared true .pointer (.base true (.builtin .unsignedLong))) := by
  have hfirst : ofSpelling "long const volatile unsigned*const" =
      .ok (.declared true .pointer (.base true (.builtin .unsignedLong))) := by
    decide +kernel
  have hrespelled : Respelled ["long", "const", "volatile", "unsigned"]
      ["unsigned", "const", "const", "long"] := by
    have hadded : Respelled ["long", "const", "unsigned"]
        ["volatile", "long", "const", "unsigned"] := .added _ (by decide)
    have hrepeated : Respelled ["long", "const", "unsigned"]
        ["const", "long", "const", "unsigned"] := .repeated (by decide)
    have hfront : Respelled ["long", "const", "volatile", "unsigned"]
        ["volatile", "long", "const", "unsigned"] := .reordered (by decide)
    exact (hfront.trans hadded.symm).trans (hrepeated.trans (.reordered (by decide)))
  have halike := specifiers_unordered.1 "long const volatile unsigned*const"
    "unsigned const const long * const"
    [.word "long", .word "const", .word "volatile", .word "unsigned", .star, .word "const"]
    [.word "unsigned", .word "const", .word "const", .word "long", .star, .word "const"]
    (by decide +kernel) (by decide +kernel) hrespelled rfl
  exact ⟨hfirst, (halike.1 _).1 hfirst⟩

end CxxType

end FortranBindings
