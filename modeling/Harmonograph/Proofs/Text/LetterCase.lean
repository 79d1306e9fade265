import Harmonograph.Lexicon.Scanner
import Harmonograph.Number.Literal
import Mathlib.Data.List.TakeDrop

/-!
Letter case of the ASCII letters. Of the two letters of a pair both belong to a class of characters
or neither does, so words and lines end in the same places in both cases, and a number is spelled by
both.
-/

namespace Harmonograph

section Characters

/-- What a character `c` and its small letter `d` have in common. -/
@[mk_iff]
structure SmallLetter (c d : Char) : Prop where
  toLower : d.toLower = d
  foldCase : foldCase d = foldCase c
  isBlank : isBlank d = isBlank c
  isAlphanumeric : isAlphanumeric d = isAlphanumeric c
  isNumberChar : Scanner.isNumberChar d = Scanner.isNumberChar c
  isDigit : d.isDigit = c.isDigit
  isExponent : (decide (d = 'e') || decide (d = 'E')) = (decide (c = 'e') || decide (c = 'E'))
  eq_of_not_alphanumeric : Harmonograph.isAlphanumeric c = false → d = c
  eq_of_isDigit : c.isDigit = true → d = c

instance (c d : Char) : Decidable (SmallLetter c d) :=
  decidable_of_iff _ (smallLetter_iff c d).symm

theorem toLower_of_le {c : Char} (h : 128 ≤ c.toNat) : c.toLower = c := by
  unfold Char.toLower
  rw [dif_neg]
  rintro ⟨-, hle⟩
  have hZ : c.toNat ≤ 'Z'.toNat := UInt32.le_iff_toNat_le.1 hle
  have hlast : 'Z'.toNat < 128 := by decide
  omega

theorem smallLetter_ascii : ∀ n < 128, SmallLetter (Char.ofNat n) (Char.ofNat n).toLower := by
  decide +kernel

theorem smallLetter_toLower (c : Char) : SmallLetter c c.toLower := by
  by_cases hc : c.toNat < 128
  · have h := smallLetter_ascii c.toNat hc
    rwa [Char.ofNat_toNat] at h
  · have hself := toLower_of_le (Nat.not_lt.1 hc)
    rw [hself]
    exact ⟨hself, rfl, rfl, rfl, rfl, rfl, rfl, fun _ ↦ rfl, fun _ ↦ rfl⟩

/-- Only letters have two cases. -/
theorem toLower_of_not_alphanumeric {c : Char} (h : isAlphanumeric c = false) : c.toLower = c :=
  (smallLetter_toLower c).eq_of_not_alphanumeric h

/-- A character that is no letter is the small letter of no other. -/
theorem toLower_eq_iff {c d : Char} (hd : isAlphanumeric d = false) : c.toLower = d ↔ c = d := by
  constructor
  · intro h
    have hc : isAlphanumeric c = false := by
      rw [← (smallLetter_toLower c).isAlphanumeric, h, hd]
    rw [← h, toLower_of_not_alphanumeric hc]
  · intro h
    rw [h, toLower_of_not_alphanumeric hd]

end Characters

section Texts

variable (cs : List Char)

theorem toList_toLower (s : String) : s.toLower.toList = s.toList.map Char.toLower :=
  String.toList_map

theorem takeWhile_map_toLower {p : Char → Bool} (hp : ∀ c, p c.toLower = p c) :
    (cs.map Char.toLower).takeWhile p = (cs.takeWhile p).map Char.toLower := by
  have hcomp : p ∘ Char.toLower = p := funext hp
  rw [List.takeWhile_map, hcomp]

theorem dropWhile_map_toLower {p : Char → Bool} (hp : ∀ c, p c.toLower = p c) :
    (cs.map Char.toLower).dropWhile p = (cs.dropWhile p).map Char.toLower := by
  have hcomp : p ∘ Char.toLower = p := funext hp
  rw [List.dropWhile_map, hcomp]

theorem count_newline_map_toLower : (cs.map Char.toLower).count '\n' = cs.count '\n' := by
  rw [List.count_eq_countP, List.count_eq_countP, List.countP_map]
  congr 1
  funext c
  exact Bool.eq_iff_iff.2 (by simpa using toLower_eq_iff (by decide))

theorem length_lastLine_map_toLower :
    (lastLine (cs.map Char.toLower)).length = (lastLine cs).length := by
  have hp : ∀ c : Char, (c.toLower != '\n') = (c != '\n') := fun c ↦
    Bool.eq_iff_iff.2 (by simpa using not_congr (toLower_eq_iff (by decide)))
  rw [lastLine, lastLine, ← List.map_reverse, takeWhile_map_toLower _ hp, List.length_reverse,
    List.length_reverse, List.length_map]

/-- The place after a text is the same in both cases. -/
theorem Location.advance_map_toLower (l : Location) :
    l.advance (cs.map Char.toLower) = l.advance cs := by
  have hmem : '\n' ∈ cs.map Char.toLower ↔ '\n' ∈ cs := by
    rw [← List.count_pos_iff, count_newline_map_toLower, List.count_pos_iff]
  by_cases h : '\n' ∈ cs
  · rw [advance_of_mem l h, advance_of_mem l (hmem.2 h), count_newline_map_toLower,
      length_lastLine_map_toLower]
  · rw [advance_of_not_mem l h, advance_of_not_mem l (mt hmem.1 h), List.length_map]

end Texts

namespace Literal

variable (cs : List Char)

theorem map_toLower_of_isDigit {cs : List Char} (h : cs.all Char.isDigit = true) :
    cs.map Char.toLower = cs := by
  rw [List.map_congr_left fun c hc ↦
    (smallLetter_toLower c).eq_of_isDigit (List.all_eq_true.1 h c hc),
    List.map_id']

theorem sign_map_toLower :
    sign (cs.map Char.toLower) = ((sign cs).1, (sign cs).2.map Char.toLower) := by
  have hcons : ∀ (c : Char) (cs : List Char), sign (c :: cs) =
      if c = '-' then (true, cs) else if c = '+' then (false, cs) else (false, c :: cs) := by
    intro c cs
    unfold sign
    split <;> simp_all
  cases cs with
  | nil => rfl
  | cons c cs =>
    have hminus : c.toLower = '-' ↔ c = '-' := toLower_eq_iff (by decide)
    have hplus : c.toLower = '+' ↔ c = '+' := toLower_eq_iff (by decide)
    simp only [List.map_cons, hcons, hminus, hplus]
    split
    · rfl
    · split
      · rfl
      · rfl

theorem span_map_toLower : (cs.map Char.toLower).span Char.isDigit =
    ((cs.span Char.isDigit).1, (cs.span Char.isDigit).2.map Char.toLower) := by
  rw [List.span_eq_takeWhile_dropWhile, List.span_eq_takeWhile_dropWhile,
    takeWhile_map_toLower _ fun c ↦ (smallLetter_toLower c).isDigit,
    dropWhile_map_toLower _ fun c ↦ (smallLetter_toLower c).isDigit,
    map_toLower_of_isDigit List.all_takeWhile]

theorem afterPoint_map_toLower : afterPoint (cs.map Char.toLower) =
    ((afterPoint cs).1, (afterPoint cs).2.map Char.toLower) := by
  have hcons : ∀ (c : Char) (cs : List Char), afterPoint (c :: cs) =
      if c = '.' then cs.span Char.isDigit else ([], c :: cs) := by
    intro c cs
    unfold afterPoint
    split <;> simp_all
  cases cs with
  | nil => rfl
  | cons c cs =>
    have hpoint : c.toLower = '.' ↔ c = '.' := toLower_eq_iff (by decide)
    simp only [List.map_cons, hcons, hpoint]
    split
    · exact span_map_toLower cs
    · rfl

theorem power_map_toLower : power (cs.map Char.toLower) = power cs := by
  have hmark : ∀ c : Char, (decide (c.toLower = 'e') || decide (c.toLower = 'E')) =
      (decide (c = 'e') || decide (c = 'E')) := fun c ↦ (smallLetter_toLower c).isExponent
  cases cs with
  | nil => rfl
  | cons c cs =>
    have hall : ∀ cs : List Char, (cs.map Char.toLower).all Char.isDigit = cs.all Char.isDigit := by
      intro cs
      rw [List.all_map]
      exact congrArg cs.all (funext fun c ↦ (smallLetter_toLower c).isDigit)
    simp only [List.map_cons, power, sign_map_toLower, hmark, hall, List.isEmpty_map]
    cases hdigits : (sign cs).2.all Char.isDigit
    · simp
    · rw [map_toLower_of_isDigit hdigits]

theorem ofDigits_map_toLower (negative : Bool) :
    ofDigits negative (cs.map Char.toLower) = ofDigits negative cs := by
  simp only [ofDigits, span_map_toLower, afterPoint_map_toLower, power_map_toLower]

theorem read?_map_toLower : read? (cs.map Char.toLower) = read? cs := by
  have hword : ∀ cs : List Char, (cs.map Char.toLower).map Char.toLower = cs.map Char.toLower := by
    intro cs
    rw [List.map_map]
    exact List.map_congr_left fun c _ ↦ (smallLetter_toLower c).toLower
  simp only [read?, sign_map_toLower, hword, ofDigits_map_toLower]

end Literal

theorem readNumber?_map_toLower (cs : List Char) :
    readNumber? (cs.map Char.toLower) = readNumber? cs := by
  rw [readNumber?, readFloat?, Literal.read?_map_toLower]
  rfl

end Harmonograph
