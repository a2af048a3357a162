set_option autoImplicit false

namespace NumScript

inductive TokenKind where
  | declare
  | print
  | equals
  | plus
  | minus
  | star
  | slash
  | leftParen
  | rightParen
  | semicolon
  | identifier
  | number
  | endOfFile
  deriving DecidableEq

namespace TokenKind

def all : List TokenKind :=
  [declare, print, equals, plus, minus, star, slash, leftParen, rightParen, semicolon, identifier,
    number, endOfFile]

theorem mem_all (kind : TokenKind) : kind ∈ all := by
  cases kind <;> simp [all]

def name : TokenKind -> String
  | declare => "Declare"
  | print => "Print"
  | equals => "Equals"
  | plus => "Plus"
  | minus => "Minus"
  | star => "Star"
  | slash => "Slash"
  | leftParen => "LParen"
  | rightParen => "RParen"
  | semicolon => "Semicolon"
  | identifier => "Identifier"
  | number => "Number"
  | endOfFile => "Eof"

def ofName? (name : String) : Option TokenKind :=
  all.find? (fun kind => kind.name == name)

theorem ofName?_name (kind : TokenKind) : ofName? kind.name = some kind := by
  cases kind <;> decide

def spelling? : TokenKind -> Option String
  | declare => some "declarar"
  | print => some "imprimir"
  | equals => some "="
  | plus => some "+"
  | minus => some "-"
  | star => some "*"
  | slash => some "/"
  | leftParen => some "("
  | rightParen => some ")"
  | semicolon => some ";"
  | identifier | number | endOfFile => none

def keyword? (word : String) : Option TokenKind :=
  [declare, print].find? (fun kind => kind.spelling? == some word)

theorem keyword?_eq_some_iff {word : String} {kind : TokenKind} :
    keyword? word = some kind ↔
      (kind = declare ∨ kind = print) ∧ kind.spelling? = some word := by
  by_cases first : word = "declarar"
  · subst first
    cases kind <;> decide
  · by_cases second : word = "imprimir"
    · subst second
      cases kind <;> decide
    · cases kind <;> simp [keyword?, spelling?, Ne.symm first, Ne.symm second]

def mark? : Char -> Option TokenKind
  | '(' => some leftParen
  | ')' => some rightParen
  | ';' => some semicolon
  | '=' => some equals
  | '+' => some plus
  | '-' => some minus
  | '*' => some star
  | '/' => some slash
  | _ => none

theorem spelling?_of_mark? {character : Char} {kind : TokenKind}
    (found : mark? character = some kind) :
    kind.spelling? = some (String.singleton character) := by
  unfold mark? at found
  split at found <;> simp at found <;> subst found <;> decide

def describe : TokenKind -> String
  | identifier => "identifier"
  | number => "number"
  | endOfFile => "end of file"
  | kind => "'" ++ kind.spelling?.getD "" ++ "'"

def startsStatement (kind : TokenKind) : Bool :=
  -- An expression may begin a statement too, but it may also stand in the middle of one.
  kind = declare || kind = print

end TokenKind

structure Token where
  kind : TokenKind
  text : String
  line : Nat
  deriving DecidableEq

def Token.describe (token : Token) : String :=
  match token.kind with
  | .identifier => "identifier '" ++ token.text ++ "'"
  | .number => "number " ++ token.text
  | kind => kind.describe

end NumScript
