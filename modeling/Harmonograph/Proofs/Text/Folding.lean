import Harmonograph.Text.Folding

/-!
A folded character is folded already: no small letter is the capital of another letter. Almost all
that is folded to an ASCII character is one.
-/

namespace Harmonograph

namespace CaseRun

/-- No small letter of `r` is a capital of `r'`. Runs of every other code point may lie across each
other when one takes the odd places and the other the even ones. -/
def misses (r r' : CaseRun) : Bool :=
  Nat.blt (r.small + (r.last - r.first)) r'.first || Nat.blt r'.last r.small ||
    r'.stride == 2 && (r.stride == 2 || r.first == r.last) && (r.small + r'.first) % 2 == 1

theorem covers_iff {r : CaseRun} {n : Nat} :
    r.covers n = true ↔ r.first ≤ n ∧ n ≤ r.last ∧ (n - r.first) % r.stride = 0 := by
  simp only [covers, Bool.and_eq_true, decide_eq_true_eq, beq_iff_eq, and_assoc]

theorem covers_fold_eq_false {r r' : CaseRun} {n : Nat} (h : r.misses r' = true)
    (hn : r.covers n = true) : r'.covers (r.fold n) = false := by
  obtain ⟨hfirst, hlast, hstride⟩ := covers_iff.1 hn
  simp only [misses, Bool.or_eq_true, Bool.and_eq_true, Nat.blt_eq, beq_iff_eq] at h
  rw [Bool.eq_false_iff]
  intro hc
  obtain ⟨hfirst', hlast', hstride'⟩ := covers_iff.1 hc
  unfold fold at hfirst' hlast' hstride'
  rcases h with (h | h) | ⟨⟨hr', hr | hr⟩, hodd⟩
  · omega
  · omega
  · rw [hr'] at hstride'
    rw [hr] at hstride
    omega
  · rw [hr'] at hstride'
    omega

end CaseRun

theorem wideCapitals_misses {r r' : CaseRun} (hr : r ∈ wideCapitals) (hr' : r' ∈ wideCapitals) :
    r.misses r' = true := by
  have hall : wideCapitals.all (fun r ↦ wideCapitals.all r.misses) = true := by decide +kernel
  exact List.all_eq_true.1 (List.all_eq_true.1 hall r hr) r' hr'

/-- Small letters are characters, and none of them is an ASCII capital. -/
theorem toNat_ofNat_fold {r : CaseRun} {n : Nat} (hr : r ∈ wideCapitals) (hn : r.covers n = true) :
    (Char.ofNat (r.fold n)).toNat = r.fold n ∧ 'Z'.toNat < r.fold n := by
  have hall : ∀ r ∈ wideCapitals, 'Z'.toNat < r.small ∧ (r.small + (r.last - r.first) < 0xd800 ∨
      0xdfff < r.small ∧ r.small + (r.last - r.first) < 0x110000) := by
    decide +kernel
  obtain ⟨hZ, hrange⟩ := hall r hr
  obtain ⟨-, hlast, -⟩ := CaseRun.covers_iff.1 hn
  have hvalid : (r.fold n).isValidChar := by
    unfold Nat.isValidChar CaseRun.fold
    omega
  refine ⟨?_, ?_⟩
  · rw [Char.ofNat, dif_pos hvalid]
    rfl
  · unfold CaseRun.fold
    omega

theorem foldCase_foldCase (c : Char) : foldCase (foldCase c) = foldCase c := by
  have hascii : ∀ n < 128, foldCase (Char.ofNat n).toLower = (Char.ofNat n).toLower ∧
      ('Z'.toNat < n → foldCase (Char.ofNat n) = Char.ofNat n) := by
    decide +kernel
  by_cases hc : c.toNat < 128
  · have h := (hascii c.toNat hc).1
    rwa [Char.ofNat_toNat, ← foldCase_eq_toLower hc] at h
  · cases hr : wideCapitals.find? (·.covers c.toNat) with
    | none =>
      have hself : foldCase c = c := by simp only [foldCase, if_neg hc, hr]
      rw [hself, hself]
    | some r =>
      have hmem := List.mem_of_find?_eq_some hr
      have hcovers : r.covers c.toNat = true :=
        List.find?_some (p := fun r ↦ CaseRun.covers r c.toNat) hr
      have hfold : foldCase c = Char.ofNat (r.fold c.toNat) := by
        simp only [foldCase, if_neg hc, hr]
      obtain ⟨hnat, hZ⟩ := toNat_ofNat_fold hmem hcovers
      rw [hfold]
      by_cases hlt : r.fold c.toNat < 128
      · exact (hascii _ hlt).2 hZ
      · have hnone : wideCapitals.find? (·.covers (r.fold c.toNat)) = none := by
          rw [List.find?_eq_none]
          intro r' hr'
          rw [CaseRun.covers_fold_eq_false (wideCapitals_misses hmem hr') hcovers]
          simp
        simp only [foldCase, hnat, if_neg hlt, hnone]

set_option maxRecDepth 2000 in
/-- Beyond ASCII only two characters are folded into it, the capital I with a dot above and the
Kelvin sign. -/
theorem toNat_lt_or_of_foldCase_eq {c d : Char} (h : foldCase c = d) (hd : d.toNat < 128) :
    c.toNat < 128 ∨ c = '\u0130' ∧ d = 'i' ∨ c = '\u212a' ∧ d = 'k' := by
  have hall : ∀ r ∈ wideCapitals, 128 ≤ r.small ∨ r.first = r.last ∧
      (r.first = 0x130 ∧ r.small = 0x69 ∨ r.first = 0x212a ∧ r.small = 0x6b) := by
    decide
  by_cases hc : c.toNat < 128
  · exact .inl hc
  right
  unfold foldCase at h
  rw [if_neg hc] at h
  split at h
  case h_1 r hr =>
    have hmem := List.mem_of_find?_eq_some hr
    have hcovers : r.covers c.toNat = true :=
      List.find?_some (p := fun r ↦ CaseRun.covers r c.toNat) hr
    obtain ⟨hfirst, hlast, -⟩ := CaseRun.covers_iff.1 hcovers
    have hfold := (toNat_ofNat_fold hmem hcovers).1
    rw [h] at hfold
    have hle : r.small ≤ r.fold c.toNat := Nat.le_add_right _ _
    rcases hall r hmem with hwide | ⟨hone, hsmall⟩
    · omega
    · have hnat : c.toNat = r.first := by omega
      have heq : r.fold c.toNat = r.small := by
        unfold CaseRun.fold
        omega
      have hc' : c = Char.ofNat r.first := by rw [← hnat, Char.ofNat_toNat]
      rw [heq] at h
      rcases hsmall with ⟨hI, hi⟩ | ⟨hK, hk⟩
      · rw [hI] at hc'
        rw [hi] at h
        exact .inl ⟨hc', h.symm⟩
      · rw [hK] at hc'
        rw [hk] at h
        exact .inr ⟨hc', h.symm⟩
  case h_2 => exact absurd (h ▸ hd) hc

theorem map_foldCase_map_foldCase (cs : List Char) :
    (cs.map foldCase).map foldCase = cs.map foldCase := by
  rw [List.map_map]
  exact List.map_congr_left fun c _ ↦ foldCase_foldCase c

end Harmonograph
