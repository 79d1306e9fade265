import Harmonograph.Proofs.Document.Description
import Harmonograph.Proofs.Document.Values
import Harmonograph.Proofs.Reading.Comment
import Harmonograph.Proofs.Reading.Loops

/-!
Reading the comments and blocks of a document. A block whose generator breaks no rule is read as
that generator, and any other is refused for the rules that it breaks.
-/

namespace Harmonograph.Reading

/-- A comment ends where its body does, if there is no slash in the body. -/
theorem isFirst_endsComment {body : List Char} (h : '/' ∉ body) (cs : List Char) :
    IsFirst EndsComment (body ++ ['*'] ++ ['/']) (body ++ ['*'] ++ ['/'] ++ cs) where
  front := ⟨cs, rfl⟩
  holds := endsComment_concat_concat.2 ⟨rfl, rfl, fun hs ↦ h (hs.subset List.mem_cons_self)⟩
  eq_of_holds := by
    intro v hv hends
    have hslash : '/' ∈ v := hends.1.subset (by simp)
    refine hv.eq_of_length_le (Nat.le_of_not_lt fun hlt ↦ ?_)
    have hfront : v <+: body ++ ['*'] := by
      refine List.prefix_of_prefix_length_le hv ⟨_, rfl⟩ ?_
      rw [List.length_append, List.length_singleton] at hlt
      exact Nat.le_of_lt_succ hlt
    have hmem := hfront.subset hslash
    simp [h] at hmem

/-- The word of a comment opens a comment, which is read to its end. -/
theorem next_at_comment {p : Progress} {w : List Char} {ws : List (List Char)}
    (hw : CommentWord w) (hp : p.At (w :: ws)) :
    p.next.1 = .commentBegin ∧ ∃ q, comment p.next.2 = (.ok (), q) ∧ q.At ws := by
  obtain ⟨body, -, hslash, rfl⟩ := hw
  obtain ⟨gap, cs, hr, hb, hg, hcs⟩ := hp.exists_gap
  have hr' : p.scanner.unread.rest = gap ++ (['/', '*'] ++ (body ++ ['*'] ++ ['/'] ++ cs)) := by
    rw [hr]
    simp
  obtain ⟨hs, hrest, -⟩ := Scanner.next_of_spells (y := .commentBegin) hr' hb hg ⟨"/*", rfl, rfl⟩
  have hk := kind?_of_next (p := p) hs (by decide)
  have hrest' : p.next.2.scanner.unread.rest = body ++ ['*'] ++ ['/'] ++ cs := hrest
  have hends : CommentEnds p.next.2 (body ++ ['*'] ++ ['/']) := by
    rw [commentEnds_iff hk, hrest']
    exact isFirst_endsComment hslash cs
  obtain ⟨q, hq, hreads⟩ := hends
  have hq' : q.scanner.unread.rest = cs := List.append_cancel_left (hreads.rest.trans hrest')
  exact ⟨hs, q, hq, .of_parted (hq' ▸ hcs)⟩

/-- The keyword of a field opens the field. -/
theorem blockItem?_of_words {f : GeneratorField} {us : List (List Char)} (h : GeneratorWords f us) :
    ∃ k vs s m, us = k :: vs ∧ Symbol.Spells s k ∧ blockItem? s = some m ∧
      m.Takes vs (BlockItem.field f) := by
  cases h with
  | motion hk hw => exact ⟨_, _, _, _, rfl, hk, rfl, ((takes_motion hw).map _).map _⟩
  | name hk hw => exact ⟨_, _, _, _, rfl, hk, rfl, ((takes_identifier hw).map _).map _⟩
  | center hk hw => exact ⟨_, _, _, _, rfl, hk, rfl, ((takes_point hw).map _).map _⟩
  | direction hk hw => exact ⟨_, _, _, _, rfl, hk, rfl, ((takes_point hw).map _).map _⟩
  | frequency hk hw => exact ⟨_, _, _, _, rfl, hk, rfl, ((takes_number hw).map _).map _⟩
  | startPhase hk hw => exact ⟨_, _, _, _, rfl, hk, rfl, ((takes_number hw).map _).map _⟩
  | amplitude hk hw => exact ⟨_, _, _, _, rfl, hk, rfl, ((takes_number hw).map _).map _⟩
  | colour hk hw => exact ⟨_, _, _, _, rfl, hk, rfl, ((takes_colour hw).map _).map _⟩

theorem next_at_symbol {p : Progress} {s : Symbol} {w : List Char} {ws : List (List Char)}
    (hw : s.Spells w) (hp : p.At (w :: ws)) : p.next.1 = s ∧ p.next.2.At ws := by
  obtain ⟨q, hq, hq'⟩ := takes_next hw p ws hp
  simp only [next, Prod.mk.injEq, Except.ok.injEq] at hq
  obtain ⟨hs, rfl⟩ := hq
  exact ⟨hs, hq'⟩

/-- The items of a block are taken in from left to right, up to its closing brace. -/
theorem takes_blockItems {items : List BlockItem} {us : List (List Char)} (h : BlockWords items us)
    (g : Generator) :
    Takes (blockItems g) (us ++ [['\x7d']]) ((Document.blockFields items).foldl .assign g) := by
  intro p ws hp
  induction h generalizing g p with
  | nil =>
    obtain ⟨hs, hq⟩ := next_at_symbol (s := .entityEnd) ⟨"\x7d", rfl, rfl⟩ hp
    exact ⟨p.next.2, blockItems_of_end hs, hq⟩
  | comment hw hws ih =>
    obtain ⟨hs, q, hq, hq'⟩ := next_at_comment hw hp
    obtain ⟨r, hr, hr'⟩ := ih g q hq'
    refine ⟨r, ?_, hr'⟩
    rw [blockItems_of_item (m := (fun _ ↦ .comment) <$> (comment : Reading Unit)) (by rw [hs]; rfl)]
    simp only [Functor.map, hq]
    exact hr
  | field hf hws ih =>
    obtain ⟨k, vs, s, m, rfl, hk, hm, ht⟩ := blockItem?_of_words hf
    simp only [List.cons_append, List.append_assoc] at hp ih
    obtain ⟨hs, hq⟩ := next_at_symbol hk hp
    obtain ⟨q, hmq, hq'⟩ := ht _ _ hq
    obtain ⟨r, hr, hr'⟩ := ih (g.assign _) q hq'
    refine ⟨r, ?_, hr'⟩
    rw [blockItems_of_item (hs ▸ hm), hmq]
    exact hr

end Harmonograph.Reading
