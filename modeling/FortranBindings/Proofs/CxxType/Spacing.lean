import FortranBindings.Proofs.CxxType.Words

/-!
# Spacing of a type spelling

`Token.Spells` says which texts spell some tokens: between the tokens there may be any ASCII
whitespace, which is needed only where a word or a mark would go on otherwise. Scanning gives the
tokens of a text for exactly these texts (`Token.scan_eq_ok_iff`), so that two texts which differ in
their spacing are told apart by nothing that goes by tokens.
-/

namespace FortranBindings.CxxType.Token

/-- The text spells the tokens, with any whitespace between them. -/
inductive Spells : List Token → List Char → Prop
  | nil : Spells [] []
  | space {c : Char} {tokens : List Token} {text : List Char} (hc : isSpace c = true)
    (h : Spells tokens text) : Spells tokens (c :: text)
  | star {tokens : List Token} {text : List Char} (h : Spells tokens text) :
    Spells (star :: tokens) ('*' :: text)
  | ampAmp {tokens : List Token} {text : List Char} (h : Spells tokens text) :
    Spells (ampAmp :: tokens) ('&' :: '&' :: text)
  /-- Another `&` right behind would belong to the mark. -/
  | amp {tokens : List Token} {text : List Char} (hnext : text.head? ≠ some '&')
    (h : Spells tokens text) : Spells (amp :: tokens) ('&' :: text)
  | word {name : String} {tokens : List Token} {text : List Char} (hname : IsWord name.toList)
    (hnext : StopsWord text) (h : Spells tokens text) :
    Spells (word name :: tokens) (name.toList ++ text)

theorem scan_space {c : Char} (hc : isSpace c = true) (rest : List Char) :
    scan (c :: rest) = scan rest := by
  have hstar : c ≠ '*' := by rintro rfl; exact absurd hc (by decide)
  have hamp : c ≠ '&' := by rintro rfl; exact absurd hc (by decide)
  rw [scan]
  · rw [if_pos hc]
  · exact hstar
  · exact fun _ h => absurd h hamp
  · exact hamp

/-- A text that spells some tokens is scanned into them. -/
theorem Spells.scan_eq {tokens : List Token} {text : List Char} (h : Spells tokens text) :
    scan text = .ok tokens := by
  induction h with
  | nil => exact scan_nil
  | space hc _ ih => rw [scan_space hc, ih]
  | star _ ih => rw [scan_star, ih]; rfl
  | ampAmp _ ih => rw [scan_ampAmp, ih]; rfl
  | amp hnext _ ih => rw [scan_amp hnext, ih]; rfl
  | word hname hnext _ ih =>
    rw [scan_append_of_isWord hname hnext, ih, String.ofList_toList]
    rfl

/-- A text that is scanned into some tokens spells them. -/
theorem spells_of_scan {tokens : List Token} {text : List Char} (h : scan text = .ok tokens) :
    Spells tokens text := by
  fun_induction scan text generalizing tokens with
  | case1 => cases h; exact .nil
  | case2 rest ih =>
    obtain ⟨others, hrest, rfl⟩ := Except.map_eq_ok.1 h
    exact .star (ih hrest)
  | case3 rest ih =>
    obtain ⟨others, hrest, rfl⟩ := Except.map_eq_ok.1 h
    exact .ampAmp (ih hrest)
  | case4 rest hnext ih =>
    obtain ⟨others, hrest, rfl⟩ := Except.map_eq_ok.1 h
    refine .amp (fun hhead => ?_) (ih hrest)
    obtain ⟨tail, rfl⟩ := List.head?_eq_some_iff.1 hhead
    exact hnext tail rfl
  | case5 c rest _ _ _ hc ih => exact .space hc (ih h)
  | case6 c rest _ _ _ _ hc tail after hscan ih =>
    obtain ⟨others, hafter, rfl⟩ := Except.map_eq_ok.1 h
    have hword : IsWord (String.ofList (c :: tail)).toList :=
      ⟨c, tail, String.toList_ofList, hc, scanWord_run hscan⟩
    have hspells := Spells.word hword (stopsWord_of_scanWord hscan) (ih hafter)
    rwa [String.toList_ofList, List.cons_append, scanWord_append hscan] at hspells
  | case7 => cases h
  | case8 => cases h

/-- **Spacing does not matter.** A text is scanned into the tokens that it spells, whatever
whitespace stands between them, and into no others. -/
theorem scan_eq_ok_iff {tokens : List Token} {text : List Char} :
    scan text = .ok tokens ↔ Spells tokens text :=
  ⟨spells_of_scan, Spells.scan_eq⟩

end FortranBindings.CxxType.Token
