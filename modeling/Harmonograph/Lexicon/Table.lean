import Harmonograph.Lexicon.Symbol
import Harmonograph.Trie.Listing

/-!
The trie of all symbols of the figure language.
-/

namespace Harmonograph

/-- Symbols enter in the order of their list, which decides their fallbacks. -/
def lexicon : Trie Symbol :=
  .ofLiterals (Symbol.spelled.map fun s ↦ ((s.literal?.getD "").toList, s))

end Harmonograph
