import Harmonograph.Proofs.Lexicon.Recognition
import Harmonograph.Reading.Sheet

/-!
Documents of the figure language: how they are written, word by word.
-/

namespace Harmonograph

open Reading (BlockItem)

def Blank (cs : List Char) : Prop := ∀ c ∈ cs, isBlank c = true

instance (cs : List Char) : Decidable (Blank cs) :=
  decidable_of_iff (cs.all isBlank = true) List.all_eq_true

/-- The text `cs` is the words `ws`, each with at least one blank before it, and then blanks. -/
inductive Parted : List (List Char) → List Char → Prop
  | nil {gap : List Char} : Blank gap → Parted [] gap
  | cons {gap w cs : List Char} {ws : List (List Char)} :
      Blank gap → gap ≠ [] → Parted ws cs → Parted (w :: ws) (gap ++ (w ++ cs))

/-- The text `cs` is the words `ws` with at least one blank between any two of them. Before the
first and after the last there may be none. -/
inductive Spaced : List (List Char) → List Char → Prop
  | nil {gap : List Char} : Blank gap → Spaced [] gap
  | cons {gap w cs : List Char} {ws : List (List Char)} :
      Blank gap → Parted ws cs → Spaced (w :: ws) (gap ++ (w ++ cs))

theorem parted_join (ws : List (List Char)) : Parted ws (ws.flatMap (' ' :: ·)) := by
  induction ws with
  | nil => exact .nil (fun _ hc ↦ absurd hc List.not_mem_nil)
  | cons w ws ih =>
    have hb : Blank [' '] := by
      intro c hc
      obtain rfl := List.mem_singleton.1 hc
      decide
    exact .cons hb (List.cons_ne_nil _ _) ih

/-- One space between any two words is enough. -/
theorem spaced_join (w : List Char) (ws : List (List Char)) :
    Spaced (w :: ws) (w ++ ws.flatMap (' ' :: ·)) :=
  have hb : Blank [] := fun _ hc ↦ absurd hc List.not_mem_nil
  .cons hb (parted_join ws)

section Values

def NameWord (s : String) (w : List Char) : Prop :=
  w ≠ [] ∧ (∀ c ∈ w, isAlphanumeric c = true) ∧ s = String.ofList w

/-- `w` is the name of a motion in some letter case. -/
def MotionWord (m : Motion) (w : List Char) : Prop :=
  m ≠ .invalid ∧ w.map Char.toLower = m.text.toList

def NumberWord (x : Float) (w : List Char) : Prop := readNumber? w = some x

instance (x : Float) (w : List Char) : Decidable (NumberWord x w) :=
  inferInstanceAs (Decidable (_ = _))

def PointWords (p : Point) (ws : List (List Char)) : Prop :=
  ∃ u v, NumberWord p.x u ∧ NumberWord p.y v ∧ ws = [u, [','], v]

def ColourWords (c : Colour) (ws : List (List Char)) : Prop :=
  ∃ r g b a, NumberWord c.red r ∧ NumberWord c.green g ∧ NumberWord c.blue b ∧
    NumberWord c.alpha a ∧ ws = [r, [','], g, [','], b, [','], a]

/-- A comment without stars and slashes inside. It counts as one word. -/
def CommentWord (w : List Char) : Prop :=
  ∃ body, '*' ∉ body ∧ '/' ∉ body ∧ w = '/' :: '*' :: (body ++ ['*', '/'])

end Values

section Items

/-- The words of a field of a generator. -/
inductive GeneratorWords : GeneratorField → List (List Char) → Prop
  | motion {k w : List Char} {m : Motion} :
      Symbol.type.Spells k → MotionWord m w → GeneratorWords (.motion m) [k, w]
  | name {k w : List Char} {s : String} :
      Symbol.name.Spells k → NameWord s w → GeneratorWords (.name s) [k, w]
  | center {k : List Char} {p : Point} {ws : List (List Char)} :
      Symbol.center.Spells k → PointWords p ws → GeneratorWords (.center p) (k :: ws)
  | direction {k : List Char} {p : Point} {ws : List (List Char)} :
      Symbol.direction.Spells k → PointWords p ws → GeneratorWords (.direction p) (k :: ws)
  | frequency {k w : List Char} {x : Float} :
      Symbol.frequency.Spells k → NumberWord x w → GeneratorWords (.frequency x) [k, w]
  | startPhase {k w : List Char} {x : Float} :
      Symbol.startPhase.Spells k → NumberWord x w → GeneratorWords (.startPhase x) [k, w]
  | amplitude {k w : List Char} {x : Float} :
      Symbol.amplitude.Spells k → NumberWord x w → GeneratorWords (.amplitude x) [k, w]
  | colour {k : List Char} {c : Colour} {ws : List (List Char)} :
      Symbol.color.Spells k → ColourWords c ws → GeneratorWords (.colour c) (k :: ws)

/-- The words of a field of a group. -/
inductive GroupWords : GroupField → List (List Char) → Prop
  | name {k w : List Char} {s : String} :
      Symbol.name.Spells k → NameWord s w → GroupWords (.name s) [k, w]
  | center {k : List Char} {p : Point} {ws : List (List Char)} :
      Symbol.center.Spells k → PointWords p ws → GroupWords (.center p) (k :: ws)
  | colour {k : List Char} {c : Colour} {ws : List (List Char)} :
      Symbol.color.Spells k → ColourWords c ws → GroupWords (.colour c) (k :: ws)
  | cycles {k w : List Char} {x : Float} :
      Symbol.cycles.Spells k → NumberWord x w → GroupWords (.cycles x) [k, w]

/-- The words between the braces of a block. -/
inductive BlockWords : List BlockItem → List (List Char) → Prop
  | nil : BlockWords [] []
  | comment {w : List Char} {items : List BlockItem} {ws : List (List Char)} :
      CommentWord w → BlockWords items ws → BlockWords (.comment :: items) (w :: ws)
  | field {f : GeneratorField} {items : List BlockItem} {us ws : List (List Char)} :
      GeneratorWords f us → BlockWords items ws → BlockWords (.field f :: items) (us ++ ws)

/-- What may stand in a document. -/
inductive DocumentItem
  | comment
  | field (f : GroupField)
  | block (items : List BlockItem)

/-- The words of a document. -/
inductive DocumentWords : List DocumentItem → List (List Char) → Prop
  | nil : DocumentWords [] []
  | comment {w : List Char} {doc : List DocumentItem} {ws : List (List Char)} :
      CommentWord w → DocumentWords doc ws → DocumentWords (.comment :: doc) (w :: ws)
  | field {f : GroupField} {doc : List DocumentItem} {us ws : List (List Char)} :
      GroupWords f us → DocumentWords doc ws → DocumentWords (.field f :: doc) (us ++ ws)
  | block {items : List BlockItem} {doc : List DocumentItem} {us ws : List (List Char)} :
      BlockWords items us → DocumentWords doc ws →
      DocumentWords (.block items :: doc) (['\x7b'] :: (us ++ ['\x7d'] :: ws))

end Items

end Harmonograph
