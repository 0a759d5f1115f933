import Mathlib.Logic.Function.Basic

/-!
# Numbers and case in names

The decimal digits of a number determine it, and they do not change in lower case. Names that start
in different ways differ also without regard to case (`Text.toLower_append_ne`).
-/

namespace FortranBindings.Text

theorem toString_injective : Function.Injective fun k : Nat => toString k := by
  intro k l h
  have hdigits : Nat.toDigits 10 k = Nat.toDigits 10 l := by
    have hlist := congrArg String.toList h
    simpa [Nat.toString_eq_ofList_toDigits] using hlist
  have hvalue := congrArg (Nat.ofDigitChars 10 · 0) hdigits
  simpa using hvalue

theorem toLower_of_isDigit {c : Char} (h : c.isDigit = true) : c.toLower = c := by
  unfold Char.toLower
  refine dif_neg fun hupper => ?_
  have hdigit : c.val ≤ '9'.val := by
    simp only [Char.isDigit, Bool.and_eq_true, decide_eq_true_eq] at h
    exact h.2
  have hlt : '9'.val < 'A'.val := by decide
  exact UInt32.lt_irrefl _ (UInt32.lt_of_lt_of_le hlt (UInt32.le_trans hupper.1 hdigit))

theorem map_toLower_toString (k : Nat) :
    (toString k).toList.map Char.toLower = (toString k).toList := by
  refine (List.map_congr_left fun c hc => ?_).trans (List.map_id _)
  have hc : c ∈ Nat.toDigits 10 k := by simpa [Nat.toString_eq_ofList_toDigits] using hc
  exact toLower_of_isDigit (Nat.isDigit_of_mem_toDigits (by decide) (by decide) hc)

theorem toList_toLower (text : String) : text.toLower.toList = text.toList.map Char.toLower :=
  String.toList_map

theorem toLower_eq_self {text : String}
    (h : text.toList.map Char.toLower = text.toList) : text.toLower = text := by
  rw [← String.toList_inj, toList_toLower, h]

theorem toLower_eq_of_map {text other : String}
    (h : text.toList.map Char.toLower = other.toList.map Char.toLower) :
    text.toLower = other.toLower := by
  rw [← String.toList_inj, toList_toLower, toList_toLower, h]

/-- Names whose first characters differ in lower case differ in lower case. -/
theorem toLower_append_ne {first first' : String} {n : Nat}
    (hn : n ≤ first.toList.length ∧ n ≤ first'.toList.length)
    (h : (first.toList.map Char.toLower).take n ≠ (first'.toList.map Char.toLower).take n)
    (text text' : String) : (first ++ text).toLower ≠ (first' ++ text').toLower := by
  intro heq
  have hlist := congrArg (List.take n) (congrArg String.toList heq)
  rw [toList_toLower, toList_toLower, String.toList_append, String.toList_append, List.map_append,
    List.map_append, List.take_append_of_le_length (by simpa using hn.1),
    List.take_append_of_le_length (by simpa using hn.2)] at hlist
  exact h hlist

end FortranBindings.Text
