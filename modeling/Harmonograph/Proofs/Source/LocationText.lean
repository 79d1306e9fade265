import Harmonograph.Source.LocationText
import Mathlib.Algebra.Group.Nat.Defs
import Mathlib.Data.List.TakeDrop

/-!
Which texts are places. The last two colons of the text of a place part the name of its file from
its two numbers, whatever colons the name has of its own, so that a place is read back from its
text.
-/

namespace Harmonograph

/-- Decimal digits that spell the number `n`, which fits in 64 bits. -/
def IsNumeral (ds : List Char) (n : Nat) : Prop :=
  ds ≠ [] ∧ (∀ d ∈ ds, d.isDigit) ∧ Nat.ofDigitChars 10 ds 0 = n ∧ n < 2 ^ 64

/-- A numeral, with a plus sign in front of it or without. -/
def SpellsCount (cs : List Char) (n : Nat) : Prop :=
  ∃ ds, (cs = ds ∨ cs = '+' :: ds) ∧ IsNumeral ds n

variable {cs ds front back : List Char} {n : Nat}

theorem isNumeral_toDigits (h : n < 2 ^ 64) : IsNumeral (Nat.toDigits 10 n) n :=
  ⟨Nat.toDigits_ne_nil, fun _ hd ↦ Nat.isDigit_of_mem_toDigits (by decide) (by decide) hd,
    Nat.ofDigitChars_ten_toDigits, h⟩

theorem not_mem_of_isNumeral {c : Char} (hc : c.isDigit = false) (h : IsNumeral ds n) : c ∉ ds := by
  intro hmem
  rw [h.2.1 c hmem] at hc
  cases hc

theorem isNumeral_iff : IsNumeral ds n ↔
    (if ds.isEmpty || !ds.all Char.isDigit then none
      else if Digits.value ds ≤ Count.limit then some (Digits.value ds) else none) = some n := by
  have hlimit : Digits.value ds ≤ Count.limit ↔ Nat.ofDigitChars 10 ds 0 < 2 ^ 64 :=
    Nat.le_sub_one_iff_lt (Nat.two_pow_pos 64)
  rw [IsNumeral]
  constructor
  · rintro ⟨hne, hdigit, rfl, hlt⟩
    rw [if_neg (by simpa [hne] using hdigit), if_pos (hlimit.2 hlt)]
    rfl
  · intro h
    split at h
    · cases h
    case isFalse hds =>
      split at h
      case isFalse => cases h
      case isTrue hle =>
        simp only [Bool.or_eq_true, not_or, Bool.not_eq_true, Bool.not_eq_false', List.all_eq_true,
          List.isEmpty_eq_false_iff] at hds
        obtain rfl := Option.some.inj h
        exact ⟨hds.1, hds.2, rfl, hlimit.1 hle⟩

theorem readCount?_eq_some_iff : readCount? cs = some n ↔ SpellsCount cs n := by
  simp only [readCount?]
  split
  case h_1 ds =>
    rw [← isNumeral_iff]
    constructor
    · exact fun h ↦ ⟨ds, .inr rfl, h⟩
    · rintro ⟨es, hes | hes, h⟩
      · exact absurd (hes ▸ List.mem_cons_self) (not_mem_of_isNumeral (by decide) h)
      · exact (List.cons.inj hes).2 ▸ h
  case h_2 hplus =>
    rw [← isNumeral_iff]
    constructor
    · exact fun h ↦ ⟨cs, .inl rfl, h⟩
    · rintro ⟨es, rfl | rfl, h⟩
      · exact h
      · exact absurd rfl (hplus es)

theorem splitLastColon_eq_some_iff :
    splitLastColon cs = some (front, back) ↔ cs = front ++ ':' :: back ∧ ':' ∉ back := by
  constructor
  · intro h
    have hcs := List.takeWhile_append_dropWhile (p := fun c ↦ decide (c ≠ ':')) (l := cs.reverse)
    have hhead := List.head?_dropWhile_not (fun c ↦ decide (c ≠ ':')) cs.reverse
    have hback := List.all_takeWhile (p := fun c ↦ decide (c ≠ ':')) (l := cs.reverse)
    rw [splitLastColon, List.span_eq_takeWhile_dropWhile] at h
    cases hrest : cs.reverse.dropWhile fun c ↦ decide (c ≠ ':') with
    | nil =>
      rw [hrest] at h
      cases h
    | cons c before =>
      rw [hrest] at h hcs hhead
      obtain ⟨rfl, rfl⟩ := Prod.mk.inj (Option.some.inj h)
      obtain rfl : c = ':' := by simpa using hhead
      refine ⟨?_, fun hmem ↦ ?_⟩
      · exact List.reverse_inj.1 (hcs.symm.trans (by simp))
      · simpa using List.all_eq_true.1 hback _ (List.mem_reverse.1 hmem)
  · rintro ⟨rfl, hback⟩
    have hpos : ∀ c ∈ back.reverse, decide (c ≠ ':') = true := by
      intro c hc
      have hne : c ≠ ':' := fun he ↦ hback (he ▸ List.mem_reverse.1 hc)
      exact decide_eq_true hne
    have hcs : (front ++ ':' :: back).reverse = back.reverse ++ ':' :: front.reverse := by simp
    rw [splitLastColon, List.span_eq_takeWhile_dropWhile, hcs, List.takeWhile_append_of_pos hpos,
      List.dropWhile_append_of_pos hpos]
    simp

namespace Location

theorem textParts?_eq_some_iff {file line column : List Char} :
    textParts? cs = some (file, line, column) ↔
      cs = file ++ ':' :: line ++ ':' :: column ∧ file ≠ [] ∧ ':' ∉ line ∧ ':' ∉ column := by
  simp only [textParts?, Option.bind_eq_bind, Option.bind_eq_some_iff, Prod.exists,
    splitLastColon_eq_some_iff]
  constructor
  · rintro ⟨front, column, ⟨rfl, hcolumn⟩, file, line, ⟨rfl, hline⟩, h⟩
    split at h
    · cases h
    case isFalse hfile =>
      obtain ⟨rfl, rfl, rfl⟩ := by simpa using h
      exact ⟨rfl, by simpa using hfile, hline, hcolumn⟩
  · rintro ⟨rfl, hfile, hline, hcolumn⟩
    exact ⟨_, column, ⟨rfl, hcolumn⟩, file, line, ⟨rfl, hline⟩, if_neg (by simpa using hfile)⟩

theorem read_eq_ok_iff {l : Location} : read cs = .ok l ↔ ∃ line column,
    textParts? cs = some (l.file.toList, line, column) ∧ SpellsCount line l.line ∧
      SpellsCount column l.column := by
  simp only [← readCount?_eq_some_iff, read]
  cases hparts : textParts? cs with
  | none => simp
  | some parts =>
    obtain ⟨file, line, column⟩ := parts
    obtain ⟨name, m, k⟩ := l
    cases hline : readCount? line with
    | none => simp [hline]
    | some m' =>
      cases hcolumn : readCount? column with
      | none => simp [hline, hcolumn]
      | some k' =>
        have hfile : String.ofList file = name ↔ file = name.toList := by
          rw [← String.toList_inj, String.toList_ofList]
        simp [hline, hcolumn, hfile]

theorem toList_text (l : Location) : l.text.toList =
    l.file.toList ++ ':' :: Nat.toDigits 10 l.line ++ ':' :: Nat.toDigits 10 l.column := by
  simp [text]

/-- A text is read as a place just if it is the name of a file, which is not empty, and the texts of
two counts with a colon in front of each. So a place in a file with a name is read back from its
text. -/
theorem read_inverts_text :
    (∀ (cs : List Char) (l : Location), read cs = .ok l ↔ ∃ line column,
      cs = l.file.toList ++ ':' :: line ++ ':' :: column ∧ l.file ≠ "" ∧ ':' ∉ line ∧ ':' ∉ column ∧
      SpellsCount line l.line ∧ SpellsCount column l.column) ∧
    ∀ l : Location, l.file ≠ "" → l.line < 2 ^ 64 → l.column < 2 ^ 64 →
      read l.text.toList = .ok l := by
  have hread : ∀ (cs : List Char) (l : Location), read cs = .ok l ↔ ∃ line column,
      cs = l.file.toList ++ ':' :: line ++ ':' :: column ∧ l.file ≠ "" ∧ ':' ∉ line ∧ ':' ∉ column ∧
      SpellsCount line l.line ∧ SpellsCount column l.column := by
    intro cs l
    simp only [read_eq_ok_iff, textParts?_eq_some_iff, ne_eq, String.toList_eq_nil_iff, and_assoc]
  refine ⟨hread, fun l hfile hline hcolumn ↦ ?_⟩
  have hl := isNumeral_toDigits hline
  have hc := isNumeral_toDigits hcolumn
  exact (hread _ l).2 ⟨_, _, l.toList_text, hfile, not_mem_of_isNumeral (by decide) hl,
    not_mem_of_isNumeral (by decide) hc, ⟨_, .inl rfl, hl⟩, ⟨_, .inl rfl, hc⟩⟩

theorem read_text_with_drive :
    let l : Location := ⟨"C:/art/scene.hg", 10, 0⟩
    l.file ≠ "" ∧ l.line < 2 ^ 64 ∧ l.column < 2 ^ 64 ∧ l.text = "C:/art/scene.hg:10:0" ∧
      read l.text.toList = .ok l := by
  intro l
  have hfile : l.file ≠ "" := by decide
  have hline : l.line < 2 ^ 64 := by decide
  have hcolumn : l.column < 2 ^ 64 := by decide
  exact ⟨hfile, hline, hcolumn, by decide, read_inverts_text.2 l hfile hline hcolumn⟩

end Location

end Harmonograph
