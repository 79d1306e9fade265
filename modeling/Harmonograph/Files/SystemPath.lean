import Harmonograph.Text.Utf8

/-!
Paths and their names. A path is shown, and recorded in what is read from its file, by a name, which
does not always tell it from other paths.
-/

namespace Harmonograph

/-- Paths of some kind, each with the name that it is shown by. -/
class PathLike (π : Type) where
  shown : π → String

/-- A path that is a text is its own name. -/
instance : PathLike String := ⟨id⟩

/-- A path as a system has it: bytes, which need not be a text. -/
structure SystemPath where
  bytes : List UInt8
  deriving DecidableEq, Repr

namespace SystemPath

instance : PathLike SystemPath := ⟨fun path ↦ String.ofList (Utf8.shown path.bytes)⟩

def ofText (s : String) : SystemPath := ⟨s.toList.flatMap String.utf8EncodeChar⟩

theorem shown_ofText (s : String) : PathLike.shown (ofText s) = s := by
  rw [PathLike.shown, instPathLike, ofText]
  dsimp only
  rw [Utf8.shown_flatMap, String.ofList_toList]

/-- So paths that are texts differ in their names. -/
theorem ofText_injective_shown {s t : String}
    (h : PathLike.shown (ofText s) = PathLike.shown (ofText t)) : s = t := by
  rwa [shown_ofText, shown_ofText] at h

end SystemPath

end Harmonograph
