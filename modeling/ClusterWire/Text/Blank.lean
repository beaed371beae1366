/-! White space, by the character standard's property of that name. -/
namespace ClusterWire.Text

def blankRuns : List (Char × Char) :=
  [('\t', '\x0d'), (' ', ' '), ('\u0085', '\u0085'), ('\u00A0', '\u00A0'), ('\u1680', '\u1680'),
   ('\u2000', '\u200A'), ('\u2028', '\u2029'), ('\u202F', '\u202F'), ('\u205F', '\u205F'),
   ('\u3000', '\u3000')]

def isBlank (c : Char) : Bool := blankRuns.any fun run => run.1 ≤ c && c ≤ run.2

/-- Nothing is left of such a text when white space is cut off its ends. -/
def isBlankText (s : String) : Bool := s.toList.all isBlank

end ClusterWire.Text
