import Interpose.Text.Blank

namespace Interpose.Source

inductive Place where
  | outside
  | quoted
  -- Behind a backslash in a text.
  | escaped
  deriving DecidableEq, Repr

def Place.behind (c : Char) : Place → Place
  | outside => if c = '"' then quoted else outside
  | quoted => if c = '"' then outside else if c = '\\' then escaped else quoted
  | escaped => quoted

def compactFrom : Place → List Char → List Char
  | _, [] => []
  | place, c :: rest =>
    if place = .outside && Text.isBlank c then compactFrom .outside rest
    else c :: compactFrom (place.behind c) rest

-- White space is dropped, except inside texts in quotes.
def compact (s : String) : String := String.ofList (compactFrom .outside s.toList)

end Interpose.Source
