import Harmonograph.Lexicon.Table
import Harmonograph.Source.Location
import Harmonograph.Source.Unread
import Harmonograph.Text.Alphanumeric

/-!
Reading symbols and values from the text of one file. Symbols are recognized by the lexicon, whose
state is kept from one to the next; values are read from the text itself.
-/

namespace Harmonograph

structure Scanner where
  /-- The state of the lexicon. -/
  state : Nat
  unread : Unread
  location : Location
  deriving DecidableEq, Repr

/-- A recognized symbol and all the text read to reach it. -/
structure Token where
  symbol : Symbol
  text : List Char
  deriving DecidableEq, Repr

namespace Scanner

def ofText (file : String) (cs : List Char) : Scanner := ⟨0, .ofText cs, .start file⟩

/-- How many characters are unread. -/
def remaining (s : Scanner) : Nat := s.unread.rest.length

/-- Reads on to the next symbol. The input ends where nothing is left, or nothing but text in which
no symbol ends. -/
def next (s : Scanner) : Token × Scanner :=
  let r := lexicon.read s.state s.unread.rest
  let symbol := if r.text.isEmpty then .endOfInput else (lexicon.kind? r.state).getD .endOfInput
  (⟨symbol, r.text⟩, ⟨r.state, ⟨s.unread.position + r.text.length, r.rest⟩,
    s.location.advance r.text⟩)

/-- Reads the longest run of characters that satisfy `p`. -/
def takeWhile (s : Scanner) (p : Char → Bool) : List Char × Scanner :=
  let r := s.unread.takeWhile p
  (r.1, { s with unread := r.2, location := s.location.advance r.1 })

/-- Reads past blanks, and then the longest run of characters that satisfy `p`. -/
def word (s : Scanner) (p : Char → Bool) : List Char × Scanner :=
  (s.takeWhile isBlank).2.takeWhile p

def isNumberChar (c : Char) : Bool := isAlphanumeric c || c == '.' || c == '+' || c == '-'

def identifier (s : Scanner) : List Char × Scanner := s.word isAlphanumeric

/-- The longest text that could spell a number. -/
def numberText (s : Scanner) : List Char × Scanner := s.word isNumberChar

variable (s : Scanner)

theorem remaining_next_le : s.next.2.remaining ≤ s.remaining := by
  have h := lexicon.read_text_append_rest s.state s.unread.rest
  have h' := congrArg List.length h
  rw [List.length_append] at h'
  simp only [next, remaining]
  omega

theorem remaining_next_lt (h : s.next.1.symbol ≠ .endOfInput) :
    s.next.2.remaining < s.remaining := by
  have ht : (lexicon.read s.state s.unread.rest).text ≠ [] := by
    intro ht
    exact h (by simp [next, ht])
  have hp : 0 < (lexicon.read s.state s.unread.rest).text.length := List.length_pos_iff.2 ht
  have h' := congrArg List.length (lexicon.read_text_append_rest s.state s.unread.rest)
  rw [List.length_append] at h'
  simp only [next, remaining]
  omega

theorem remaining_takeWhile_le (p : Char → Bool) : (s.takeWhile p).2.remaining ≤ s.remaining :=
  (List.dropWhile_sublist _).length_le

theorem remaining_word_le (p : Char → Bool) : (s.word p).2.remaining ≤ s.remaining :=
  Nat.le_trans (remaining_takeWhile_le _ _) (remaining_takeWhile_le _ _)

end Scanner

end Harmonograph
