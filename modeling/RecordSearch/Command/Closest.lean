import RecordSearch.Text.Likeness
import RecordSearch.Text.Quoted

/-! The names that a wrong name was probably meant to be. -/
namespace RecordSearch.Command

/-- Whether a name comes before another in the order of their likeness to a third; of equals the one
that stands later in the order of code points comes first. -/
def isCloser (left right : Likeness × Text) : Bool :=
  left.1.exceeds right.1 || (!right.1.exceeds left.1 && Text.le right.2 left.2)

/-- The names that are like a word by six tenths or more, at most the three closest, in the order of
code points. -/
def closest (word : Text) (names : List Text) : List Text :=
  let close := (names.map fun name => (Text.blockLikeness name word, name)).filter
    fun scored => scored.1.reaches 6
  (((close.mergeSort isCloser).take 3).map Prod.snd).mergeSort Text.le

def meantText : List Text → Text
  | [] => []
  | [name] => " Did you mean ".toList ++ Text.quoted name ++ ['?']
  | names =>
    " (Did you mean one of: ".toList ++ Text.join ", ".toList (names.map Text.quoted) ++ "?)".toList

end RecordSearch.Command
