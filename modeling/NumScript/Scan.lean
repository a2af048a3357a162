import NumScript.Lexeme

set_option autoImplicit false

namespace NumScript

structure LexError where
  character : Char
  line : Nat
  deriving DecidableEq

def LexError.message (error : LexError) : String :=
  "[line " ++ toString error.line ++ "] Error: Unexpected character '" ++
    String.singleton error.character ++ "'."

def newlines (text : List Char) : Nat :=
  text.count '\n'

@[simp] theorem newlines_append (first second : List Char) :
    newlines (first ++ second) = newlines first + newlines second :=
  List.count_append

def Lexeme.tokens (line : Nat) : List Lexeme -> List Token
  | [] => []
  | lexeme :: rest =>
      (lexeme.kind.map (fun kind => ⟨kind, String.ofList lexeme.text, line⟩)).toList ++
        tokens (line + newlines lexeme.text) rest

@[simp] theorem Lexeme.tokens_append (line : Nat) (first second : List Lexeme) :
    tokens line (first ++ second) =
      tokens line first ++ tokens (line + newlines (first.flatMap Lexeme.text)) second := by
  induction first generalizing line with
  | nil => simp [tokens, newlines]
  | cons lexeme rest ih => simp [tokens, ih, Nat.add_assoc]

structure Scan where
  tokens : List Token
  line : Nat
  unread : List Char

def Scan.ofSource (source : String) : Scan :=
  let (lexemes, unread) := Lexeme.split source.toList
  { tokens := Lexeme.tokens 1 lexemes
    line := 1 + newlines (lexemes.flatMap Lexeme.text)
    unread }

def Scan.finish (scan : Scan) : Except LexError (List Token) :=
  match scan.unread with
  | [] => .ok (scan.tokens ++ [⟨.endOfFile, "", scan.line⟩])
  | character :: _ => .error ⟨character, scan.line⟩

def tokenize (source : String) : Except LexError (List Token) :=
  (Scan.ofSource source).finish

end NumScript
