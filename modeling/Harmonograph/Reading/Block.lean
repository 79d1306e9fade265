import Harmonograph.Reading.Value

/-!
Reading a block: the fields of one generator between braces, in any order, with comments between
them.
-/

namespace Harmonograph.Reading

/-- Reads past the end of a comment. Comments do not nest. -/
def comment (p : Progress) : Except Failure Unit × Progress :=
  let r := p.next
  if r.1 = .commentEnd then (.ok (), r.2)
  else if _ : r.1 = .endOfInput then fail .unterminatedComment r.2
  else comment r.2
termination_by p.remaining
decreasing_by exact p.remaining_next_lt ‹_›

theorem advances_comment : Advances comment := fun p ↦ by
  fun_induction comment p with
  | case1 p r h => exact p.remaining_next_le
  | case2 p r h h' => exact p.remaining_next_le
  | case3 p r h h' ih => exact Nat.le_trans ih p.remaining_next_le

/-- What may stand in a block. -/
inductive BlockItem
  | comment
  | field (f : GeneratorField)

/-- The item that a symbol opens. -/
def blockItem? : Symbol → Option (Reading BlockItem)
  | .type => some (.field <$> .motion <$> motion)
  | .name => some (.field <$> .name <$> identifier .name)
  | .center => some (.field <$> .center <$> point)
  | .direction => some (.field <$> .direction <$> point)
  | .frequency => some (.field <$> .frequency <$> number)
  | .startPhase => some (.field <$> .startPhase <$> number)
  | .amplitude => some (.field <$> .amplitude <$> number)
  | .color => some (.field <$> .colour <$> colour)
  | .commentBegin => some ((fun _ ↦ .comment) <$> (comment : Reading Unit))
  | _ => none

/-- A generator with one more item of its block taken in. -/
def takeBlockItem (g : Generator) : BlockItem → Generator
  | .comment => g
  | .field f => g.assign f

theorem advances_blockItem {s : Symbol} {m : Reading BlockItem} (h : blockItem? s = some m) :
    Advances m := by
  cases s <;> simp only [blockItem?, Option.some.injEq, reduceCtorEq] at h <;> subst h
  case amplitude => exact (advances_number.map _).map _
  case center => exact (advances_point.map _).map _
  case color => exact (advances_colour.map _).map _
  case direction => exact (advances_point.map _).map _
  case frequency => exact (advances_number.map _).map _
  case name => exact ((advances_identifier _).map _).map _
  case startPhase => exact (advances_number.map _).map _
  case type => exact (advances_motion.map _).map _
  case commentBegin => exact advances_comment.map _

/-- Reads the items of a block, to its closing brace, into `g`. -/
def blockItems (g : Generator) (p : Progress) : Except Failure Generator × Progress :=
  let r := p.next
  if r.1 = .entityEnd then (.ok g, r.2)
  else if _ : r.1 = .endOfInput then fail .unexpectedEnd r.2
  else match _ : blockItem? r.1 with
    | none => fail (.unexpectedSymbol r.1 "an entity field, '/*' or '\x7d'") r.2
    | some m =>
      match _ : m r.2 with
      | (.error e, q) => (.error e, q)
      | (.ok item, q) => blockItems (takeBlockItem g item) q
termination_by p.remaining
decreasing_by
  have h₁ := p.remaining_next_lt ‹_›
  have h₂ := advances_blockItem ‹_› r.2
  rw [‹m r.2 = _›] at h₂
  exact Nat.lt_of_le_of_lt h₂ h₁

theorem advances_blockItems (g : Generator) : Advances (blockItems g) := fun p ↦ by
  fun_induction blockItems g p with
  | case1 g p r h => exact p.remaining_next_le
  | case2 g p r h h' => exact p.remaining_next_le
  | case3 g p r h h' hm => exact p.remaining_next_le
  | case4 g p r h h' m hm e q hq =>
    have h₂ := advances_blockItem hm r.2
    rw [hq] at h₂
    exact Nat.le_trans h₂ p.remaining_next_le
  | case5 g p r h h' m hm item q hq ih =>
    have h₂ := advances_blockItem hm r.2
    rw [hq] at h₂
    exact Nat.le_trans ih (Nat.le_trans h₂ p.remaining_next_le)

/-- Reads a block after its opening brace: a generator that breaks no rule, and its extent, which
runs from behind the one brace to behind the other. -/
def block (timeStep : Float) : Reading (Generator × Extent) := do
  let start ← location
  let g ← (blockItems .blank : Reading Generator)
  if !g.isValid then fail (.invalidGenerator g.name g.flaws)
  else
    let g := g.withBuffer timeStep
    let extent := ⟨start, ← location⟩
    say (.located g.name extent)
    say (.generator g)
    return (g, extent)

theorem advances_block (timeStep : Float) : Advances (block timeStep) :=
  advances_location.bind fun _ ↦ (advances_blockItems _).bind fun _ ↦
    .ite (advances_fail _) (advances_location.bind fun _ ↦ (advances_say _).bind fun _ ↦
      (advances_say _).bind fun _ ↦ .pure _)

end Harmonograph.Reading
