/-!
# Texts divided by marks

`fields` divides a text at every mark of one kind.  There is always one field more than there are
marks, so nothing is lost and empty fields count.
-/

set_option autoImplicit false

namespace EmojiLint
namespace Text

/-- The texts between the marks. -/
def fields (mark : Char) : List Char → List (List Char)
  | [] => [[]]
  | c :: cs =>
    if c = mark then [] :: fields mark cs
    else
      match fields mark cs with
      | [] => [[c]]
      | f :: fs => (c :: f) :: fs

end Text
end EmojiLint
