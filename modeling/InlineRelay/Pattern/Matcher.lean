import InlineRelay.Pattern.Reader
import InlineRelay.Pattern.Search
import InlineRelay.Selection

/-! The matcher selectors are written for: patterns, found anywhere in a text. -/
namespace InlineRelay

def Pattern.matcher : Matcher where
  compile selector :=
    (Pattern.ofText? selector.toList).map fun p text => p.occursIn text.toList

end InlineRelay
