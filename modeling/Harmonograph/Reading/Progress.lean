import Harmonograph.Lexicon.Scanner
import Harmonograph.Reading.Fault
import Harmonograph.Reading.Notice

/-!
Steps of reading one file. A step gives a value or fails, and either way leaves the file read some
way further; no step gives anything back.
-/

namespace Harmonograph

/-- How far a file has been read, and what has been said about it. -/
structure Progress where
  scanner : Scanner
  notices : Array Notice

namespace Progress

def ofText (file : String) (cs : List Char) : Progress := ⟨.ofText file cs, #[]⟩

/-- How many characters are unread. -/
def remaining (p : Progress) : Nat := p.scanner.remaining

def say (p : Progress) (n : Notice) : Progress := { p with notices := p.notices.push n }

/-- Reads on to the next symbol, and says so. -/
def next (p : Progress) : Symbol × Progress :=
  let r := p.scanner.next
  (r.1.symbol,
    { p with scanner := r.2 }.say (.token r.2.state r.1.text r.1.symbol r.2.location))

@[simp]
theorem remaining_say (p : Progress) (n : Notice) : (p.say n).remaining = p.remaining := rfl

theorem remaining_next_le (p : Progress) : p.next.2.remaining ≤ p.remaining :=
  p.scanner.remaining_next_le

theorem remaining_next_lt (p : Progress) (h : p.next.1 ≠ .endOfInput) :
    p.next.2.remaining < p.remaining := p.scanner.remaining_next_lt h

end Progress

/-- A step of reading. -/
def Reading (α : Type) := Progress → Except Failure α × Progress

namespace Reading

variable {α β : Type}

instance : Monad Reading where
  pure a := fun p ↦ (.ok a, p)
  bind m f := fun p ↦
    match m p with
    | (.ok a, q) => f a q
    | (.error e, q) => (.error e, q)

/-- Fails where reading has come to. -/
def fail (fault : Fault) : Reading α := fun p ↦ (.error ⟨fault, p.scanner.location⟩, p)

def say (n : Notice) : Reading Unit := fun p ↦ (.ok (), p.say n)

def location : Reading Location := fun p ↦ (.ok p.scanner.location, p)

def peek? : Reading (Option Char) := fun p ↦ (.ok p.scanner.unread.peek?, p)

/-- The next symbol. -/
def next : Reading Symbol := fun p ↦ (.ok p.next.1, p.next.2)

/-- The text that `read` takes from the file. -/
def scan (read : Scanner → List Char × Scanner) : Reading (List Char) := fun p ↦
  let r := read p.scanner
  (.ok r.1, { p with scanner := r.2 })

/-- No step gives back what has been read. -/
def Advances (m : Reading α) : Prop := ∀ p, (m p).2.remaining ≤ p.remaining

theorem Advances.pure (a : α) : Advances (Pure.pure a : Reading α) := fun _ ↦ Nat.le_refl _

theorem Advances.bind {m : Reading α} {f : α → Reading β} (hm : m.Advances)
    (hf : ∀ a, (f a).Advances) : Advances (m >>= f) := fun p ↦ by
  have h := hm p
  simp only [Bind.bind]
  split
  case h_1 a q hq => exact Nat.le_trans (hf a q) (by rwa [hq] at h)
  case h_2 e q hq => rwa [hq] at h

theorem Advances.map {m : Reading α} (f : α → β) (hm : m.Advances) : Advances (f <$> m) :=
  hm.bind fun a ↦ .pure (f a)

theorem Advances.ite {c : Prop} [Decidable c] {m n : Reading α} (hm : m.Advances)
    (hn : n.Advances) : Advances (if c then m else n) := by
  split
  · exact hm
  · exact hn

theorem advances_fail (fault : Fault) : Advances (fail fault : Reading α) := fun _ ↦ Nat.le_refl _

theorem advances_say (n : Notice) : Advances (say n) := fun _ ↦ Nat.le_refl _

theorem advances_location : Advances location := fun _ ↦ Nat.le_refl _

theorem advances_peek? : Advances peek? := fun _ ↦ Nat.le_refl _

theorem advances_next : Advances next := fun p ↦ p.remaining_next_le

theorem advances_scan {read : Scanner → List Char × Scanner}
    (h : ∀ s, (read s).2.remaining ≤ s.remaining) : Advances (scan read) := fun p ↦ h p.scanner

end Reading

end Harmonograph
