import Harmonograph.Proofs.Lexicon.Tracking
import Harmonograph.Proofs.Text.First
import Harmonograph.Reading.Block

/-!
Where a comment ends. The symbols inside of a comment are read and passed over, and a slash and a
star are the symbol that begins a comment. So a comment ends with the first star and slash that do
not follow a slash, and a comment all of whose stars and slashes follow a slash has no end.
-/

namespace Harmonograph

/-- A star and a slash end a comment, but not where the star follows a slash. -/
def EndsComment (w : List Char) : Prop := ['*', '/'] <:+ w ∧ ¬ ['/', '*', '/'] <:+ w

instance (w : List Char) : Decidable (EndsComment w) := inferInstanceAs (Decidable (_ ∧ _))

theorem endsComment_concat_concat {v : List Char} {c d : Char} :
    EndsComment (v ++ [d] ++ [c]) ↔ c = '/' ∧ d = '*' ∧ ¬ ['/'] <:+ v := by
  have hend : ['*', '/'] <:+ v ++ [d] ++ [c] ↔ d = '*' ∧ c = '/' := by
    have h := @List.suffix_append_inj_of_length_eq _ [] v ['*', '/'] [d, c] rfl
    simpa [eq_comm] using h
  have hslash : ['/', '*', '/'] <:+ v ++ [d] ++ [c] ↔ ['/'] <:+ v ∧ d = '*' ∧ c = '/' := by
    have h := @List.suffix_append_inj_of_length_eq _ ['/'] v ['*', '/'] [d, c] rfl
    simpa [eq_comm] using h
  unfold EndsComment
  rw [hend, hslash]
  tauto

namespace Lexicon

/-- A walk from the state `s` along `w` comes to the end of a comment. -/
def Closes (s : Nat) (w : List Char) : Prop :=
  lexicon.kind? (w.foldl lexicon.step s) = some .commentEnd

variable {s : Nat} (h : lexicon.kind? s = some .commentBegin)
include h

theorem walk_of_commentBegin : s ≠ slash ∧ s ≠ star ∧ ¬ Closes s [] ∧
    ∀ w : List Char, w.foldl lexicon.step s < lexicon.size := by
  obtain ⟨-, ⟨-, -, hslash, hstar⟩, -⟩ := table
  refine ⟨?_, ?_, ?_, lexicon.foldl_step_lt (lt_size_of_kind? h).1⟩
  · intro he
    rw [he, hslash] at h
    cases h
  · intro he
    rw [he, hstar] at h
    cases h
  · intro hc
    rw [Closes, List.foldl_nil, h] at hc
    cases hc

theorem closes_concat_iff {v : List Char} {c : Char} :
    Closes s (v ++ [c]) ↔ c = '/' ∧ v.foldl lexicon.step s = star := by
  rw [Closes, List.foldl_concat, kind?_step_iff ((walk_of_commentBegin h).2.2.2 v)]

/-- Inside of a comment a slash is always the last character of its state. -/
theorem foldl_eq_slash_iff {w : List Char} (hopen : ∀ v, v <+: w → ¬ Closes s v) :
    w.foldl lexicon.step s = slash ↔ ['/'] <:+ w := by
  obtain ⟨hslash, -, -, hlt⟩ := walk_of_commentBegin h
  rcases List.eq_nil_or_concat' w with rfl | ⟨v, c, rfl⟩
  · exact iff_of_false hslash (by decide)
  · have hclosed := hopen (v ++ [c]) List.prefix_rfl
    rw [closes_concat_iff h] at hclosed
    have hlast : ['/'] <:+ v ++ [c] ↔ c = '/' := by simp [eq_comm]
    rw [List.foldl_concat, step_eq_slash_iff (hlt v), hlast]
    exact ⟨fun hc ↦ hc.1, fun hc ↦ ⟨hc, fun hs ↦ hclosed ⟨hc, hs⟩⟩⟩

/-- The first end of a comment for the lexicon is the first one in the text. -/
theorem closes_iff {w : List Char} (hopen : ∀ v, v <+: w → v ≠ w → ¬ Closes s v) :
    Closes s w ↔ EndsComment w := by
  obtain ⟨-, hstar, hnil, hlt⟩ := walk_of_commentBegin h
  rcases List.eq_nil_or_concat' w with rfl | ⟨u, c, rfl⟩
  · exact iff_of_false hnil (by decide)
  · rw [closes_concat_iff h]
    rcases List.eq_nil_or_concat' u with rfl | ⟨v, d, rfl⟩
    · refine iff_of_false (fun hc ↦ hstar hc.2) fun hc ↦ ?_
      have hlen := hc.1.length_le
      simp at hlen
    · have hfront : ∀ u, u <+: v → ¬ Closes s u := by
        intro u hu
        have hlen := hu.length_le
        refine hopen u (hu.trans (by simp [List.append_assoc])) fun he ↦ ?_
        rw [he, List.length_append, List.length_append, List.length_singleton] at hlen
        omega
      have hv := hfront v List.prefix_rfl
      rw [endsComment_concat_concat, List.foldl_concat, step_eq_star_iff (hlt v),
        ← foldl_eq_slash_iff h hfront]
      exact and_congr_right fun _ ↦ and_congr_right fun _ ↦ and_iff_left hv

theorem not_closes_of_not_endsComment {w : List Char}
    (hopen : ∀ v, v <+: w → ¬ EndsComment v) : ∀ v, v <+: w → ¬ Closes s v := by
  intro v hv
  induction hn : v.length using Nat.strongRecOn generalizing v with
  | ind n ih =>
    have hbefore : ∀ u, u <+: v → u ≠ v → ¬ Closes s u := by
      intro u hu hne
      have hle := hu.length_le
      have hlen : u.length ≠ v.length := fun he ↦ hne (hu.eq_of_length he)
      exact ih u.length (by omega) u (hu.trans hv) rfl
    rw [closes_iff h hbefore]
    exact hopen v hv

theorem isFirst_closes {w r : List Char} (hw : IsFirst EndsComment w r) :
    IsFirst (Closes s) w r := by
  have hbefore : ∀ v, v <+: w → v ≠ w → ¬ Closes s v := by
    intro v hv hne
    refine not_closes_of_not_endsComment h (fun u hu hends ↦ hne ?_) v List.prefix_rfl
    obtain rfl := hw.eq_of_holds u (hu.trans hv) hends
    exact hv.eq_of_length_le hu.length_le
  refine ⟨hw.front, (closes_iff h hbefore).2 hw.holds, fun v hv hc ↦ ?_⟩
  by_contra hne
  exact hbefore v hv hne hc

end Lexicon

namespace Reading

/-- The comment that `p` is in ends with `w`. -/
def CommentEnds (p : Progress) (w : List Char) : Prop :=
  ∃ q, comment p = (.ok (), q) ∧ p.scanner.Reads w q.scanner

/-- The comment that `p` is in does not end, and all that is left is read in search of its end. -/
def CommentOpen (p : Progress) : Prop :=
  ∃ q, comment p = (.error ⟨.unterminatedComment, q.scanner.location⟩, q) ∧
    p.scanner.Reads p.scanner.unread.rest q.scanner

open Lexicon

variable {p : Progress}

theorem foldl_text_next (p : Progress) :
    p.scanner.next.1.text.foldl lexicon.step p.scanner.state = p.next.2.scanner.state :=
  lexicon.foldl_text_read _ _

theorem closes_text_next_iff (h : ¬ Closes p.scanner.state []) :
    Closes p.scanner.state p.scanner.next.1.text ↔ p.next.1 = .commentEnd := by
  constructor
  · intro hc
    have ht : p.scanner.next.1.text ≠ [] := fun ht ↦ h (ht ▸ hc)
    rw [Closes, foldl_text_next] at hc
    exact (Scanner.next_of_read (s := p.scanner) rfl ht hc).1
  · intro he
    have hne : p.scanner.next.1.symbol ≠ .endOfInput := by
      rw [show p.scanner.next.1.symbol = .commentEnd from he]
      decide
    rw [Closes, foldl_text_next, ← he]
    exact (Scanner.kind?_next hne).2

/-- A comment can only end where the next token ends, or behind it. -/
theorem prefix_of_closes {v : List Char} (h : ¬ Closes p.scanner.state [])
    (hv : v <+: p.scanner.unread.rest) (hc : Closes p.scanner.state v) :
    p.scanner.next.1.text <+: v := by
  have hreads := p.scanner.reads_next.rest
  rcases List.prefix_or_prefix_of_prefix ⟨_, hreads⟩ hv with ht | ht
  · exact ht
  · by_cases he : v = p.scanner.next.1.text
    · rw [he]
    · have hne : v ≠ [] := fun hn ↦ h (hn ▸ hc)
      rw [Closes, lexicon.kind?_of_prefix_read ht hne he] at hc
      cases hc

theorem closes_text_append_iff {v : List Char} :
    Closes p.scanner.state (p.scanner.next.1.text ++ v) ↔ Closes p.next.2.scanner.state v := by
  rw [Closes, List.foldl_append, foldl_text_next]
  rfl

theorem exists_text_append {v : List Char} (h : ¬ Closes p.scanner.state [])
    (hv : v <+: p.scanner.unread.rest) (hc : Closes p.scanner.state v) :
    ∃ u, v = p.scanner.next.1.text ++ u ∧ u <+: p.next.2.scanner.unread.rest ∧
      Closes p.next.2.scanner.state u := by
  obtain ⟨u, rfl⟩ := prefix_of_closes h hv hc
  rw [← p.scanner.reads_next.rest, List.prefix_append_right_inj] at hv
  exact ⟨u, rfl, hv, closes_text_append_iff.1 hc⟩

theorem isFirst_text_append {w : List Char} (h : ¬ Closes p.scanner.state [])
    (hw : IsFirst (Closes p.next.2.scanner.state) w p.next.2.scanner.unread.rest) :
    IsFirst (Closes p.scanner.state) (p.scanner.next.1.text ++ w) p.scanner.unread.rest := by
  have hfront : p.scanner.next.1.text ++ w <+: p.scanner.unread.rest := by
    rw [← p.scanner.reads_next.rest, List.prefix_append_right_inj]
    exact hw.front
  refine ⟨hfront, closes_text_append_iff.2 hw.holds, fun v hv hc ↦ ?_⟩
  obtain ⟨u, rfl, -, hu⟩ := exists_text_append h (hv.trans hfront) hc
  rw [hw.eq_of_holds u ((List.prefix_append_right_inj _).1 hv) hu]

/-- A comment ends with its first end for the lexicon, and stays open without one. -/
theorem comment_cases (h : ¬ Closes p.scanner.state []) :
    (∃ w, IsFirst (Closes p.scanner.state) w p.scanner.unread.rest ∧ CommentEnds p w) ∨
    (∀ v, v <+: p.scanner.unread.rest → ¬ Closes p.scanner.state v) ∧ CommentOpen p := by
  unfold CommentEnds CommentOpen
  fun_induction comment p with
  | case1 p r he =>
    have hreads := p.scanner.reads_next
    have hc := (closes_text_next_iff h).2 he
    refine .inl ⟨p.scanner.next.1.text, ⟨⟨_, hreads.rest⟩, hc, ?_⟩, r.2, rfl, hreads⟩
    intro v hv hc
    have ht := prefix_of_closes h (hv.trans ⟨_, hreads.rest⟩) hc
    exact hv.eq_of_length_le ht.length_le
  | case2 p r he he' =>
    have hreads := p.scanner.reads_next
    have hrest := hreads.rest
    rw [p.scanner.rest_next_eq_nil he', List.append_nil] at hrest
    refine .inr ⟨fun v hv hc ↦ ?_, r.2, rfl, hrest ▸ hreads⟩
    have ht := prefix_of_closes h hv hc
    obtain rfl := ht.eq_of_length_le (hrest ▸ hv.length_le)
    exact he ((closes_text_next_iff h).1 hc)
  | case3 p r he he' ih =>
    have hreads := p.scanner.reads_next
    have hnext : ¬ Closes r.2.scanner.state [] := by
      rw [← closes_text_append_iff, List.append_nil, closes_text_next_iff h]
      exact he
    rcases ih hnext with ⟨w, hw, q, hq, hwq⟩ | ⟨hnone, q, hq, hrq⟩
    · exact .inl ⟨_, isFirst_text_append h hw, q, hq, hreads.trans hwq⟩
    · refine .inr ⟨fun v hv hc ↦ ?_, q, hq, hreads.rest ▸ hreads.trans hrq⟩
      obtain ⟨u, -, hu, hc'⟩ := exists_text_append h hv hc
      exact hnone u hu hc'

theorem CommentEnds.eq {v w : List Char} (hv : CommentEnds p v) (hw : CommentEnds p w) : v = w := by
  obtain ⟨q, hq, hreads⟩ := hv
  obtain ⟨q', hq', hreads'⟩ := hw
  obtain rfl : q = q' := congrArg Prod.snd (hq.symm.trans hq')
  exact List.append_cancel_right (hreads.rest.trans hreads'.rest.symm)

theorem CommentEnds.not_open {w : List Char} (hw : CommentEnds p w) : ¬ CommentOpen p := by
  rintro ⟨q, hq, -⟩
  obtain ⟨q', hq', -⟩ := hw
  cases congrArg Prod.fst (hq.symm.trans hq')

section CommentBegin

variable (h : lexicon.kind? p.scanner.state = some .commentBegin)
include h

theorem comment_ends_or_open :
    (∃ w, IsFirst EndsComment w p.scanner.unread.rest ∧ CommentEnds p w) ∨
    (∀ v, v <+: p.scanner.unread.rest → ¬ EndsComment v) ∧ CommentOpen p := by
  have hcases := comment_cases (walk_of_commentBegin h).2.2.1
  by_cases hnone : ∀ v, v <+: p.scanner.unread.rest → ¬ EndsComment v
  · rcases hcases with ⟨v, hv, -⟩ | ⟨-, hopen⟩
    · exact absurd hv.holds (not_closes_of_not_endsComment h hnone v hv.front)
    · exact .inr ⟨hnone, hopen⟩
  · push Not at hnone
    obtain ⟨u, hu, hends⟩ := hnone
    obtain ⟨w, hw⟩ := exists_isFirst hu hends
    have hfirst := isFirst_closes h hw
    rcases hcases with ⟨v, hv, hends⟩ | ⟨hno, -⟩
    · exact .inl ⟨w, hw, hv.eq hfirst ▸ hends⟩
    · exact absurd hfirst.holds (hno w hfirst.front)

theorem commentEnds_iff {w : List Char} :
    CommentEnds p w ↔ IsFirst EndsComment w p.scanner.unread.rest := by
  rcases comment_ends_or_open h with ⟨v, hv, hends⟩ | ⟨hnone, hopen⟩
  · exact ⟨fun hw ↦ hends.eq hw ▸ hv, fun hw ↦ hv.eq hw ▸ hends⟩
  · exact iff_of_false (fun hw ↦ hw.not_open hopen) fun hw ↦ hnone w hw.front hw.holds

theorem commentOpen_iff :
    CommentOpen p ↔ ∀ v, v <+: p.scanner.unread.rest → ¬ EndsComment v := by
  rcases comment_ends_or_open h with ⟨v, hv, hends⟩ | ⟨hnone, hopen⟩
  · exact iff_of_false hends.not_open fun hno ↦ hno v hv.front hv.holds
  · exact iff_of_true hopen hnone

end CommentBegin

theorem kind?_of_next {s : Symbol} (h : p.next.1 = s) (hs : s ≠ .endOfInput) :
    lexicon.kind? p.next.2.scanner.state = some s := by
  subst h
  exact (Scanner.kind?_next hs).2

/-- A comment ends with the first star and slash that do not follow a slash, and stays open to the
end of the input where there are none. So the first star and slash in the text end it just when they
do not follow a slash, and without any star and slash it stays open. -/
theorem comment_outcome (p : Progress) (h : p.next.1 = .commentBegin) :
    let q := p.next.2
    let r := q.scanner.unread.rest
    (∀ w, CommentEnds q w ↔ IsFirst EndsComment w r) ∧
    (CommentOpen q ↔ ∀ v, v <+: r → ¬ EndsComment v) ∧
    (∀ w, IsFirst (['*', '/'] <:+ ·) w r → (CommentEnds q w ↔ ¬ ['/', '*', '/'] <:+ w)) ∧
    (¬ ['*', '/'] <:+: r → CommentOpen q) := by
  intro q r
  have hk : lexicon.kind? q.scanner.state = some .commentBegin := kind?_of_next h (by decide)
  refine ⟨fun w ↦ commentEnds_iff hk, commentOpen_iff hk, ?_, ?_⟩
  · intro w hw
    rw [commentEnds_iff hk]
    constructor
    · exact fun hfirst ↦ hfirst.holds.2
    · intro hslash
      refine ⟨hw.front, ⟨hw.holds, hslash⟩, fun v hv hends ↦ ?_⟩
      exact hw.eq_of_holds v hv hends.1
  · intro hno
    refine (commentOpen_iff hk).2 fun v hv hends ↦ hno ?_
    exact hends.1.isInfix.trans hv.isInfix

/-- A file may begin with a comment. -/
theorem next_ofText_comment (file : String) {cs r : List Char} (h : cs = '/' :: '*' :: r) :
    (Progress.ofText file cs).next.1 = .commentBegin ∧
      (Progress.ofText file cs).next.2.scanner.unread.rest = r := by
  have hgap : ∀ c ∈ ([] : List Char), isBlank c = true := fun c hc ↦ absurd hc List.not_mem_nil
  have hr : (Scanner.ofText file cs).unread.rest = [] ++ (['/', '*'] ++ r) := h
  obtain ⟨hs, hrest, -⟩ :=
    Scanner.next_of_spells (y := .commentBegin) hr hgap (.inr rfl) ⟨"/*", rfl, rfl⟩
  exact ⟨hs, hrest⟩

/-- The comment holds a keyword, a brace and the beginning of another comment. -/
theorem comment_ends_after_nested :
    let p := Progress.ofText "" "/* name: \x7b /* */ */".toList
    p.next.1 = .commentBegin ∧ CommentEnds p.next.2 " name: \x7b /* */".toList := by
  intro p
  have hcs : "/* name: \x7b /* */ */".toList = '/' :: '*' :: " name: \x7b /* */ */".toList := rfl
  obtain ⟨hs, hrest⟩ := next_ofText_comment "" hcs
  refine ⟨hs, ((comment_outcome p hs).1 _).2 ?_⟩
  rw [hrest]
  decide

/-- The first star and slash in this comment follow a slash, and the comment stays open. -/
theorem comment_open_past_star_slash :
    let p := Progress.ofText "" "/* a /*/ b".toList
    p.next.1 = .commentBegin ∧
      IsFirst (['*', '/'] <:+ ·) " a /*/".toList p.next.2.scanner.unread.rest ∧
      ¬ CommentEnds p.next.2 " a /*/".toList ∧ CommentOpen p.next.2 := by
  intro p
  have hcs : "/* a /*/ b".toList = '/' :: '*' :: " a /*/ b".toList := rfl
  obtain ⟨hs, hrest⟩ := next_ofText_comment "" hcs
  have hopen : CommentOpen p.next.2 := by
    refine (commentOpen_iff (kind?_of_next hs (by decide))).2 fun v hv ↦ ?_
    rw [hrest, ← List.mem_inits] at hv
    have hall : ∀ v ∈ " a /*/ b".toList.inits, ¬ EndsComment v := by decide
    exact hall v hv
  refine ⟨hs, ?_, fun hends ↦ hends.not_open hopen, hopen⟩
  rw [hrest]
  decide

end Reading

end Harmonograph
