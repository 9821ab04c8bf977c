/-! # Splitting text -/

namespace BearerAuth.Text

/-- The parts of the text between separators; always one part more than there are separators. -/
def split (separator : Char) : List Char → List (List Char)
  | [] => [[]]
  | c :: rest =>
    if c = separator then [] :: split separator rest
    else
      match split separator rest with
      | [] => [[c]]
      | part :: parts => (c :: part) :: parts

end BearerAuth.Text
