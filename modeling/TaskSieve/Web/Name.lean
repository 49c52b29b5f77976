import TaskSieve.Text.Direction
import TaskSieve.Text.Fold
import TaskSieve.Text.Joining
import TaskSieve.Text.Mark
import TaskSieve.Text.Script
import TaskSieve.Text.Split
import TaskSieve.Web.Punycode

set_option autoImplicit false

/-! # Domain names

A domain name consists of labels. A label may have characters of any script; it is sent in ASCII,
and then it starts with a mark. A name is folded first, so that names that look the same are the
same, and refused if one of its labels would be ambiguous. -/

namespace TaskSieve.Web.Name

open Text (splitAtAll)

/-- What a label in ASCII starts with if it stands for one that is not. -/
def codedMark : List Char := "xn--".toList

/-- The most characters of a label that can be coded. -/
def longestLabel : Nat := 1000

/-- The most characters of a coded label. -/
def longestCoded : Nat := 2000

/-- Whether all characters are ASCII. -/
def isAscii (cs : List Char) : Bool := cs.all fun c => c.toNat < 128

/-- The characters of a coded label, which is given after its mark. They must be folded already, and
there must be one that had to be coded. -/
def decoded? (cs : List Char) : Option (List Char) :=
  if cs.length ≤ longestCoded then
    (Punycode.decode? cs).filter fun label =>
      !isAscii label && label.all Text.isPlain && Text.composed label == label
  else none

/-- A label as it is shown. -/
def shown? (label : List Char) : Option (List Char) :=
  if codedMark.isPrefixOf label then decoded? (label.drop codedMark.length) else some label

/-- Whether a label that is shown can be told from others: it does not start with a mark, and signs
that join or part have their place. -/
def isClear (label : List Char) : Bool :=
  isAscii label || (!label.head?.any Text.isMark && Text.joinsRight [] label)

/-- A label in ASCII. -/
def coded? (label : List Char) : Option (List Char) :=
  if isAscii label then some label
  else if label.length ≤ longestLabel then some (codedMark ++ Punycode.encode label)
  else none

/-- A name in ASCII and in lower case. -/
def ascii? (name : List Char) : Option (List Char) := do
  let folded ← Text.foldText? name
  let labels ← (splitAtAll (· == '.') (Text.composed folded)).mapM shown?
  let oneWay := !labels.any Text.hasFromRight || labels.all Text.isOneWay
  if oneWay && labels.all isClear then
    return ['.'].intercalate (← labels.mapM coded?)
  else none

/-! ## Showing

A name whose first label is coded is shown in its own script, which is possible only if all of its
labels are words of some script. -/

/-- Whether hyphens stand where they cannot be taken for a mark. -/
def hasPlainHyphens (label : List Char) : Bool :=
  label.head? != some '-' && label.getLast? != some '-' && (label.drop 2).take 2 != ['-', '-']

/-- Whether a label can be shown. -/
def isShowable (label : List Char) : Bool :=
  match shown? label with
  | some label =>
    !label.isEmpty && label.all Text.isPlain && hasPlainHyphens label && isClear label &&
      Text.isWord label && (!Text.hasFromRight label || Text.isOneWay label)
  | none => false

/-- Whether a name in ASCII can be shown: only one whose first label is coded can fail. An empty
label may stand at its end. -/
def canBeShown (name : List Char) : Bool :=
  let labels := splitAtAll (· == '.') name
  !codedMark.isPrefixOf name ||
    (if labels.getLast? = some [] then labels.dropLast else labels).all isShowable

end TaskSieve.Web.Name
