import Harmonograph.Proofs.Lexicon.Sharing
import Harmonograph.Proofs.Reading.Steps

/-!
What reading a file asks its scanner for. A word is asked for only behind a field keyword or a
comma, and of those the lexicon keeps nothing. So the symbols behind a word are found as if the
lexicon began anew.
-/

namespace Harmonograph

namespace Scanner

/-- The scanner with the lexicon back at the root. -/
def restart (s : Scanner) : Scanner := { s with state := 0 }

/-- A symbol has just been read of which the lexicon keeps nothing. -/
def Settled (s : Scanner) : Prop := ∃ y, lexicon.kind? s.state = some y ∧ y.kept = []

/-- What is said of the tokens found on a list of requests. -/
def reports (s : Scanner) : List Request → List Notice
  | [] => []
  | .next :: rs =>
    let r := s.next
    .token r.2.state r.1.text r.1.symbol r.2.location :: (s.after .next).reports rs
  | .identifier :: rs => (s.after .identifier).reports rs
  | .numberText :: rs => (s.after .numberText).reports rs

/-- Words are asked for only where the scanner has settled. -/
def AsksSettled (s : Scanner) : List Request → Prop
  | [] => True
  | r :: rs => (r ≠ .next → s.Settled) ∧ (s.after r).AsksSettled rs

variable {s : Scanner}

theorem run_append (s : Scanner) (rs rs' : List Request) :
    (s.run (rs ++ rs')).2 = ((s.run rs).2.run rs').2 := by
  induction rs generalizing s with
  | nil => rfl
  | cons r rs ih => exact ih (s.after r)

theorem reports_append (s : Scanner) (rs rs' : List Request) :
    s.reports (rs ++ rs') = s.reports rs ++ (s.run rs).2.reports rs' := by
  induction rs generalizing s with
  | nil => rfl
  | cons r rs ih =>
    cases r with
    | next => exact congrArg (_ :: ·) (ih _)
    | identifier => exact ih _
    | numberText => exact ih _

theorem AsksSettled.append {rs rs' : List Request} (h : s.AsksSettled rs)
    (h' : (s.run rs).2.AsksSettled rs') : s.AsksSettled (rs ++ rs') := by
  induction rs generalizing s with
  | nil => exact h'
  | cons r rs ih => exact ⟨h.1, ih h.2 h'⟩

theorem AsksSettled.settled {front back : List Request} {r : Request}
    (h : s.AsksSettled (front ++ r :: back)) (hr : r ≠ .next) : (s.run front).2.Settled := by
  induction front generalizing s with
  | nil => exact h.1 hr
  | cons q front ih => exact ih h.2

/-- A word has no part in what the lexicon has recognized. -/
theorem Settled.after {r : Request} (h : s.Settled) (hr : r ≠ .next) : (s.after r).Settled := by
  cases r with
  | next => exact absurd rfl hr
  | identifier => exact h
  | numberText => exact h

theorem settled_next {y : Symbol} (h : s.next.1.symbol = y) (hy : y ≠ .endOfInput)
    (hkept : y.kept = []) : s.next.2.Settled :=
  ⟨y, h ▸ (kind?_next (h ▸ hy)).2, hkept⟩

/-- Where nothing is left, only the end of the input is found. -/
theorem tokens_of_rest_eq_nil (h : s.unread.rest = []) (rs : List Request) :
    s.tokens rs = List.replicate (rs.count .next) ⟨.endOfInput, []⟩ := by
  induction rs generalizing s with
  | nil => rfl
  | cons r rs ih =>
    have hrest : (s.after r).unread.rest = [] := ((s.reads_after r).eq_nil h).2.1
    cases r with
    | next =>
      have hnext : s.next.1 = ⟨.endOfInput, []⟩ := (s.run_of_rest_eq_nil h []).1
      rw [tokens, hnext, ih hrest, List.count_cons_self, List.replicate_succ]
    | identifier => exact ih hrest
    | numberText => exact ih hrest

theorem Settled.next_restart (h : s.Settled) (hrest : s.unread.rest ≠ []) :
    s.restart.next = s.next := by
  obtain ⟨y, hy, hkept⟩ := h
  obtain ⟨hs, hleaf, -, hfallback⟩ := Lexicon.node_of_kind? hy
  have hlt := (Lexicon.lt_size_of_kind? hy).1
  have hroot : (lexicon.node s.state).fallback = 0 :=
    Lexicon.spelled.text_injective
      (Nat.lt_trans (lexicon.fallback_node_lt (Nat.pos_of_ne_zero hs)) hlt) lexicon.nonempty
      (hfallback.trans (hkept.trans Lexicon.spelled.text_root.symm))
  have hread := lexicon.read_of_leaf hs hleaf hrest
  rw [hroot] at hread
  simp only [next, hread]
  rfl

/-- Of a symbol of which nothing is kept, the lexicon might as well have known nothing. -/
theorem Settled.tokens_restart (h : s.Settled) (rs : List Request) :
    s.tokens (.next :: rs) = s.restart.tokens (.next :: rs) := by
  by_cases hrest : s.unread.rest = []
  · rw [tokens_of_rest_eq_nil hrest, tokens_of_rest_eq_nil (s := s.restart) hrest]
  · rw [tokens, tokens, Scanner.after, Scanner.after, h.next_restart hrest]

/-- Found from the root, a symbol stands complete at the end of the text of its token. -/
theorem literal_suffix_restart {l : String} (h : s.restart.next.1.symbol.literal? = some l) :
    l.toList <:+ s.restart.next.1.text.map foldCase := by
  have hsymbol : s.restart.next.1.symbol ≠ .endOfInput := by
    intro he
    rw [he] at h
    cases h
  have hsuffix := Lexicon.literal_suffix_read (kind?_next hsymbol).2
  rw [h, Option.getD_some] at hsuffix
  rwa [show s.restart.state = 0 from rfl, Lexicon.spelled.text_root, List.nil_append] at hsuffix

end Scanner

/-- What has been said of symbols. -/
def Progress.tokenNotices (p : Progress) : List Notice := p.notices.toList.filter Notice.isToken

namespace Reading

open Scanner

variable {α β : Type}

/-- Reading on from `p` is to put these requests to the scanner. -/
structure Asks (p : Progress) (rs : List Request) (r : Except Failure α × Progress) : Prop where
  scanner : r.2.scanner = (p.scanner.run rs).2
  tokens : r.2.tokenNotices = p.tokenNotices ++ p.scanner.reports rs
  settled : p.scanner.AsksSettled rs

namespace Asks

variable {p q : Progress} {rs rs' : List Request} {a : α} {e : Failure}
    {r : Except Failure β × Progress}

theorem nil {r : Except Failure α × Progress} (hscanner : r.2.scanner = p.scanner)
    (htokens : r.2.tokenNotices = p.tokenNotices) : Asks p [] r :=
  ⟨hscanner, htokens.trans (List.append_nil _).symm, trivial⟩

theorem trans (h : Asks p rs ((.ok a, q) : Except Failure α × Progress)) (h' : Asks q rs' r) :
    Asks p (rs ++ rs') r where
  scanner := by rw [run_append, ← h.scanner, h'.scanner]
  tokens := by rw [h'.tokens, h.tokens, reports_append, ← h.scanner, List.append_assoc]
  settled := h.settled.append (h.scanner ▸ h'.settled)

theorem error (h : Asks p rs ((.error e, q) : Except Failure α × Progress)) :
    Asks p rs ((.error e, q) : Except Failure β × Progress) := ⟨h.scanner, h.tokens, h.settled⟩

end Asks

/-- Reading on from `p` is to put requests to the scanner. -/
def Asked (p : Progress) (r : Except Failure α × Progress) : Prop := ∃ rs, Asks p rs r

section Steps

variable {p : Progress}

theorem asked_refl {r : Except Failure α × Progress} (h : r.2 = p) : Asked p r :=
  ⟨[], .nil (congrArg _ h) (congrArg _ h)⟩

theorem Asked.bind {m : Reading α} {f : α → Reading β} (hm : Asked p (m p))
    (hf : ∀ a q, m p = (.ok a, q) → Asked q (f a q)) : Asked p ((m >>= f) p) := by
  obtain ⟨rs, hrs⟩ := hm
  simp only [Bind.bind]
  rcases hr : m p with ⟨e | a, q⟩
  · rw [hr] at hrs
    exact ⟨rs, hrs.error⟩
  · rw [hr] at hrs
    obtain ⟨rs', hrs'⟩ := hf a q hr
    exact ⟨rs ++ rs', hrs.trans hrs'⟩

theorem Asked.map {m : Reading α} (f : α → β) (hm : Asked p (m p)) : Asked p ((f <$> m) p) :=
  hm.bind fun _ _ _ ↦ asked_refl rfl

theorem asked_ite {c : Prop} [Decidable c] {m n : Reading α} (hm : Asked p (m p))
    (hn : Asked p (n p)) : Asked p ((if c then m else n) p) := by
  split
  · exact hm
  · exact hn

/-- A notice that is not of a symbol leaves no trace. -/
theorem asked_say {n : Notice} (hn : n.isToken = false) (p : Progress) : Asked p (say n p) := by
  refine ⟨[], .nil rfl ?_⟩
  simp [say, Progress.say, Progress.tokenNotices, hn]

theorem asked_location (p : Progress) : Asked p (location p) := asked_refl rfl

theorem asks_next (p : Progress) :
    Asks p [.next] ((.ok p.next.1, p.next.2) : Except Failure Symbol × Progress) where
  scanner := rfl
  tokens := by
    simp only [Progress.next, Progress.say, Progress.tokenNotices, Array.toList_push,
      List.filter_append]
    rfl
  settled := ⟨fun h ↦ absurd rfl h, trivial⟩

theorem asked_found_fail (fault : String → Fault) (p : Progress) :
    Asked p ((found >>= fun s ↦ (fail (fault s) : Reading α)) p) := by
  simp only [found, Bind.bind, peek?]
  cases p.scanner.unread.peek?
  · exact asked_refl rfl
  · exact asked_refl rfl

end Steps

section Values

variable {p : Progress} (h : p.scanner.Settled)
include h

theorem asks_identifier : Asks p [.identifier] (scan Scanner.identifier p) :=
  ⟨rfl, (List.append_nil _).symm, fun _ ↦ h, trivial⟩

theorem asks_numberText : Asks p [.numberText] (scan Scanner.numberText p) :=
  ⟨rfl, (List.append_nil _).symm, fun _ ↦ h, trivial⟩

theorem asked_identifier (field : Symbol) : Asked p (identifier field p) :=
  Asked.bind ⟨_, asks_identifier h⟩ fun _ q _ ↦ asked_ite (asked_found_fail _ q) (asked_refl rfl)

theorem asked_number : Asked p (number p) :=
  Asked.bind ⟨_, asks_numberText h⟩ fun cs q _ ↦ asked_ite (asked_found_fail _ q) (by
    cases readNumber? cs
    · exact asked_refl rfl
    · exact asked_refl rfl)

theorem asked_motion : Asked p (motion p) :=
  Asked.bind ⟨_, asks_identifier h⟩ fun cs q _ ↦ by
    cases Motion.ofName? cs
    · exact asked_refl rfl
    · exact asked_refl rfl

omit h in
theorem asked_separator (p : Progress) : Asked p (separator p) :=
  Asked.bind ⟨_, asks_next p⟩ fun _ _ _ ↦ asked_ite (asked_refl rfl) (asked_refl rfl)

omit h in
/-- Behind a separator the scanner has settled. -/
theorem settled_separator {u : Unit} {q : Progress} (hq : separator p = (.ok u, q)) :
    q.scanner.Settled := by
  simp only [separator, Bind.bind, next] at hq
  split at hq
  case isTrue hs =>
    obtain ⟨-, rfl⟩ := Prod.mk.inj hq
    exact settled_next hs (by decide) rfl
  case isFalse => cases hq

omit h in
theorem asked_number_behind_separator {u : Unit} {q : Progress} (hq : separator p = (.ok u, q)) :
    Asked q (number q) := asked_number (settled_separator hq)

theorem asked_point : Asked p (point p) :=
  (asked_number h).bind fun _ q _ ↦ (asked_separator q).bind fun _ _ hq ↦
    (asked_number_behind_separator hq).map _

theorem asked_colour : Asked p (colour p) :=
  (asked_number h).bind fun _ q _ ↦ (asked_separator q).bind fun _ _ hq ↦
  (asked_number_behind_separator hq).bind fun _ q _ ↦ (asked_separator q).bind fun _ _ hq ↦
  (asked_number_behind_separator hq).bind fun _ q _ ↦ (asked_separator q).bind fun _ _ hq ↦
    (asked_number_behind_separator hq).map _

end Values

/-- The symbols inside of a comment are asked for and passed over. -/
theorem asked_comment (p : Progress) : Asked p (comment p) := by
  fun_induction comment p with
  | case1 p r he => exact ⟨_, (asks_next p).trans (.nil rfl rfl)⟩
  | case2 p r he he' => exact ⟨_, (asks_next p).trans (.nil rfl rfl)⟩
  | case3 p r he he' ih =>
    obtain ⟨rs, hrs⟩ := ih
    exact ⟨_, (asks_next p).trans hrs⟩

theorem kind?_progress_next {p : Progress} (h : p.next.1 ≠ .endOfInput) :
    lexicon.kind? p.next.2.scanner.state = some p.next.1 := (kind?_next h).2

/-- The value that a keyword opens is asked for where the keyword has been read. -/
theorem asked_blockItem {s : Symbol} {m : Reading BlockItem} (hm : blockItem? s = some m)
    {p : Progress} (hs : lexicon.kind? p.scanner.state = some s) : Asked p (m p) := by
  have hsettled : s.kept = [] → p.scanner.Settled := fun hkept ↦ ⟨s, hs, hkept⟩
  cases s <;> simp only [blockItem?, Option.some.injEq, reduceCtorEq] at hm <;> subst hm
  case amplitude => exact ((asked_number (hsettled rfl)).map _).map _
  case center => exact ((asked_point (hsettled rfl)).map _).map _
  case color => exact ((asked_colour (hsettled rfl)).map _).map _
  case direction => exact ((asked_point (hsettled rfl)).map _).map _
  case frequency => exact ((asked_number (hsettled rfl)).map _).map _
  case name => exact ((asked_identifier (hsettled rfl) _).map _).map _
  case startPhase => exact ((asked_number (hsettled rfl)).map _).map _
  case type => exact ((asked_motion (hsettled rfl)).map _).map _
  case commentBegin => exact (asked_comment p).map _

theorem asked_blockItems (g : Generator) (p : Progress) : Asked p (blockItems g p) := by
  fun_induction blockItems g p with
  | case1 g p r he => exact ⟨_, (asks_next p).trans (.nil rfl rfl)⟩
  | case2 g p r he he' => exact ⟨_, (asks_next p).trans (.nil rfl rfl)⟩
  | case3 g p r he he' hm => exact ⟨_, (asks_next p).trans (.nil rfl rfl)⟩
  | case4 g p r he he' m hm e q hq =>
    obtain ⟨rs, hrs⟩ := asked_blockItem hm (kind?_progress_next he')
    rw [hq] at hrs
    exact ⟨_, (asks_next p).trans hrs.error⟩
  | case5 g p r he he' m hm item q hq ih =>
    obtain ⟨rs, hrs⟩ := asked_blockItem hm (kind?_progress_next he')
    obtain ⟨rs', hrs'⟩ := ih
    rw [hq] at hrs
    exact ⟨_, ((asks_next p).trans hrs).trans hrs'⟩

section Sheets

variable (timeStep : Float)

theorem asked_block (p : Progress) : Asked p (block timeStep p) :=
  (asked_location p).bind fun _ q _ ↦ (asked_blockItems _ q).bind fun _ q _ ↦
    asked_ite (asked_refl rfl) <| (asked_location q).bind fun _ q _ ↦
      (asked_say rfl q).bind fun _ q _ ↦ (asked_say rfl q).bind fun _ _ _ ↦ asked_refl rfl

theorem asked_sheetItem {s : Symbol} {m : Reading SheetItem} (hm : sheetItem? timeStep s = some m)
    {p : Progress} (hs : lexicon.kind? p.scanner.state = some s) : Asked p (m p) := by
  have hsettled : s.kept = [] → p.scanner.Settled := fun hkept ↦ ⟨s, hs, hkept⟩
  cases s <;> simp only [sheetItem?, Option.some.injEq, reduceCtorEq] at hm <;> subst hm
  case center => exact ((asked_point (hsettled rfl)).map _).map _
  case color => exact ((asked_colour (hsettled rfl)).map _).map _
  case cycles => exact ((asked_number (hsettled rfl)).map _).map _
  case name => exact ((asked_identifier (hsettled rfl) _).map _).map _
  case commentBegin => exact (asked_comment p).map _
  case entityBegin => exact (asked_block timeStep p).map _

theorem asked_sheetItems (d : SheetDraft) (p : Progress) : Asked p (sheetItems timeStep d p) := by
  fun_induction sheetItems timeStep d p with
  | case1 d p r he => exact ⟨_, (asks_next p).trans (.nil rfl rfl)⟩
  | case2 d p r he hm => exact ⟨_, (asks_next p).trans (.nil rfl rfl)⟩
  | case3 d p r he m hm e q hq =>
    obtain ⟨rs, hrs⟩ := asked_sheetItem timeStep hm (kind?_progress_next he)
    rw [hq] at hrs
    exact ⟨_, (asks_next p).trans hrs.error⟩
  | case4 d p r he m hm item q hq ih =>
    obtain ⟨rs, hrs⟩ := asked_sheetItem timeStep hm (kind?_progress_next he)
    obtain ⟨rs', hrs'⟩ := ih
    rw [hq] at hrs
    exact ⟨_, ((asks_next p).trans hrs).trans hrs'⟩

theorem asked_sheet (d : Drawing) (p : Progress) : Asked p (sheet timeStep d p) :=
  (asked_location p).bind fun _ q _ ↦ (asked_sheetItems timeStep _ q).bind fun s q _ ↦ by
    have hrest : ∀ extent : Extent, ∀ q : Progress, Asked q ((do
        say (.located s.finish.name extent)
        say (.group s.finish)
        return s.drawing.define (.group s.finish) extent : Reading Drawing) q) := fun extent q ↦
      (asked_say rfl q).bind fun _ q _ ↦ (asked_say rfl q).bind fun _ _ _ ↦ asked_refl rfl
    refine asked_ite ?_ ?_
    · exact (asked_say rfl q).bind fun _ q _ ↦ (asked_location q).bind fun _ q _ ↦ hrest _ q
    · exact (asked_location q).bind fun _ q _ ↦ hrest _ q

/-- All symbols that are said to be read in a file are found on some requests to a scanner of its
text, at the same places and in the same states. Behind a word the next symbol, and whatever is
found after it, are what they are with the lexicon back at the root. So no character in front of a
word has a part in a symbol behind it. -/
theorem tokens_behind_word (before : Drawing) (file : String) (cs : List Char) :
    let start := Scanner.ofText file cs
    ∃ rs, (readSheet timeStep before file cs).2.filter Notice.isToken = start.reports rs ∧
      (sheet timeStep before (.ofText file cs)).2.scanner = (start.run rs).2 ∧
      ∀ front word back, rs = front ++ word :: .next :: back → word ≠ .next →
        let s := (start.run (front ++ [word])).2
        (∀ more, s.tokens (.next :: more) = s.restart.tokens (.next :: more)) ∧
        ∀ l, s.next.1.symbol.literal? = some l → l.toList <:+ s.next.1.text.map foldCase := by
  intro start
  obtain ⟨rs, hrs⟩ := asked_sheet timeStep before (.ofText file cs)
  refine ⟨rs, hrs.tokens, hrs.scanner, fun front word back heq hword ↦ ?_⟩
  intro s
  have hsettled : s.Settled := by
    have hfront := AsksSettled.settled (heq ▸ hrs.settled) hword
    have hs : s = (start.run front).2.after word := run_concat _ _ _
    exact hs ▸ hfront.after hword
  have htokens := hsettled.tokens_restart
  refine ⟨htokens, fun l hl ↦ ?_⟩
  have hnext : s.next.1 = s.restart.next.1 := (List.cons.inj (htokens [])).1
  rw [hnext] at hl ⊢
  exact literal_suffix_restart hl

end Sheets

end Reading

end Harmonograph
