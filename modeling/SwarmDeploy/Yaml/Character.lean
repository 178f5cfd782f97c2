/-! The characters of YAML: which ones a document may hold, blanks, line breaks and indicators. -/

namespace SwarmDeploy.Yaml

def isAllowed (c : Char) : Bool :=
  let n := c.toNat
  n == 0x09 || n == 0x0A || n == 0x0D || (0x20 ≤ n && n ≤ 0x7E) || n == 0x85 ||
    (0xA0 ≤ n && n ≤ 0xD7FF) || (0xE000 ≤ n && n ≤ 0xFFFD) || 0x10000 ≤ n

def byteOrderMark : Char := Char.ofNat 0xFEFF

def isSpace (c : Char) : Bool :=
  c == ' ' || c == '\t'

/-- The separators of lines and of paragraphs, which are kept as they are. -/
def isSeparator (c : Char) : Bool :=
  c.toNat == 0x2028 || c.toNat == 0x2029

def isBreak (c : Char) : Bool :=
  c == '\n' || c == '\r' || c.toNat == 0x85 || isSeparator c

def readBreak (c : Char) : Char :=
  if isSeparator c then c else '\n'

def atBlank : List Char → Bool
  | [] => true
  | c :: _ => isSpace c || isBreak c

def isFlowIndicator (c : Char) : Bool :=
  c == ',' || c == '[' || c == ']' || c == '\x7b' || c == '\x7d'

/-- Whether a line starts with three times the same sign and a blank: a document starts with
hyphens and ends with dots. -/
def startsWithMark (sign : Char) : List Char → Bool
  | a :: b :: c :: rest => a == sign && b == sign && c == sign && atBlank rest
  | _ => false

def atDocumentMark (cs : List Char) : Bool :=
  startsWithMark '-' cs || startsWithMark '.' cs

/-- A break of two characters, which counts once: only its second one is read. -/
def startsLongBreak (c : Char) (rest : List Char) : Bool :=
  c == '\r' && rest.head? == some '\n'

end SwarmDeploy.Yaml
