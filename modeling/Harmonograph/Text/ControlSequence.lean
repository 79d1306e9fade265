/-!
Control sequences: characters that a terminal takes as a command and does not show. Of a text only
what is shown can be kept.
-/

namespace Harmonograph

/-- A control sequence that has begun. -/
inductive ControlSequence
  /-- The escape character alone. -/
  | escape
  /-- An escape character and what stands between it and the final character. -/
  | intermediate
  /-- A command with parameters. -/
  | control
  /-- A string for the device, before its parameters. -/
  | deviceEntry
  | deviceParameter
  | deviceIntermediate
  /-- A string that the system takes up to a bell. -/
  | command
  /-- A string that is taken up to a terminator. -/
  | string
  deriving DecidableEq, Repr

/-- White space among the controls. -/
def isLayout (c : Char) : Bool := c = '\t' || c = '\n' || c = '\x0c' || c = '\r'

namespace ControlSequence

def isIntermediate (c : Char) : Bool := ' ' ≤ c && c ≤ '/'

def isParameter (c : Char) : Bool := '0' ≤ c && c ≤ '?'

def isFinal (c : Char) : Bool := '@' ≤ c && c ≤ '~'

/-- Whether the string terminator is among the bytes of a character. -/
def holdsTerminator (c : Char) : Bool := (String.utf8EncodeChar c).contains 0x9c

/-- What is left to read of a sequence after its next character, if it does not end there. -/
def next? (s : ControlSequence) (c : Char) : Option ControlSequence :=
  match s with
  | escape =>
    if c = '[' then some control
    else if c = ']' then some command
    else if c = 'P' then some deviceEntry
    else if c = 'X' || c = '^' || c = '_' then some string
    else if isIntermediate c then some intermediate
    else if isParameter c || isFinal c then none
    else some escape
  | intermediate => if isParameter c || isFinal c then none else some intermediate
  | control => if isFinal c then none else some control
  | deviceEntry =>
    if isIntermediate c then some deviceIntermediate
    else if isParameter c then some deviceParameter
    else if isFinal c then some string
    else some deviceEntry
  | deviceParameter =>
    if isIntermediate c then some deviceIntermediate
    else if isFinal c || '<' ≤ c && c ≤ '?' then some string
    else some deviceParameter
  | deviceIntermediate =>
    if isParameter c || isFinal c then some string else some deviceIntermediate
  | command => if c = '\x07' then none else some command
  | string => if holdsTerminator c then none else some string

/-- Whether white space in the middle of the sequence is shown. -/
def showsLayout : ControlSequence → Bool
  | escape | intermediate | control => true
  | _ => false

end ControlSequence

/-- Where a reader is that tells what is shown from what is not. -/
inductive Passage
  | text
  | inside (s : ControlSequence)
  /-- White space has put the sequence off until the next control character. -/
  | paused (s : ControlSequence)
  deriving DecidableEq, Repr

namespace Passage

def isShown : Passage → Char → Bool
  | inside s, c => s.showsLayout && isLayout c
  | _, c => isLayout c || ' ' ≤ c && c ≠ '\x7f'

/-- An escape character begins a sequence wherever it stands, and two controls end any. -/
def next (p : Passage) (c : Char) : Passage :=
  if c = '\x1b' then inside .escape
  else if c = '\x18' || c = '\x1a' then text
  else match p with
    | text => text
    | inside s => if p.isShown c then paused s else (s.next? c).elim text inside
    | paused s => if '\x7f' < c then text else if p.isShown c then paused s else inside s

def shown : Passage → List Char → List Char
  | _, [] => []
  | p, c :: cs => if p.isShown c then c :: shown (p.next c) cs else shown (p.next c) cs

theorem shown_sublist (p : Passage) (cs : List Char) : (p.shown cs).Sublist cs := by
  induction cs generalizing p with
  | nil => exact .slnil
  | cons c cs ih =>
    rw [shown]
    split
    · exact (ih _).cons_cons c
    · exact (ih _).cons c

theorem next_text {c : Char} (h : text.isShown c = true) : text.next c = text := by
  have hc : c ≠ '\x1b' := by
    rintro rfl
    simp [isShown, isLayout] at h
  simp [next, hc]

theorem shown_text {cs : List Char} (h : ∀ c ∈ cs, text.isShown c = true) : text.shown cs = cs := by
  induction cs with
  | nil => rfl
  | cons c cs ih =>
    have hc := h c (by simp)
    rw [shown, if_pos hc, next_text hc, ih (fun d hd ↦ h d (by simp [hd]))]

end Passage

/-- What is shown of a text. -/
def shownText (s : String) : String := String.ofList (Passage.text.shown s.toList)

example : shownText "a\x1b[31mb\x07\tc" = "ab\tc" ∧
    shownText "x\x1bPq#0\x1b\\y\x1b(Bz" = "xyz" := by
  decide +kernel

example : shownText "a\x1b[\n31m\x07bc" = "a\n31mc" := by decide +kernel

end Harmonograph
