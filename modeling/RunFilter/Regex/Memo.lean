import RunFilter.Regex

/-!
# Searching with a memory

One statement asks for the same regular expression at every row. A memory of the last expression
spares reading it again.
-/

set_option autoImplicit false

namespace RunFilter.Regex

/-- The expression of the last search, unless it was none. -/
structure Memo where
  last : Option Regex := none

namespace Memo

/-- The expression of a source: the remembered one if it has that source. -/
def regex? (memo : Memo) (source : String) : Option Regex :=
  match memo.last with
  | some regex => if regex.source = source then some regex else ofString? source
  | none => ofString? source

/-- **One search** and the memory after it. A source that is no regular expression leaves nothing
to remember. -/
def search? (memo : Memo) (source text : String) : Option Bool × Memo :=
  let regex := memo.regex? source
  (regex.map (·.isFoundIn text), ⟨regex⟩)

end Memo

end RunFilter.Regex
