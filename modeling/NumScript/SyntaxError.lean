import NumScript.Token

set_option autoImplicit false

namespace NumScript

inductive SyntaxFault where
  | expectedName
  | expectedEquals
  | expectedDeclarationEnd
  | expectedOpening
  | expectedClosing
  | expectedPrintEnd
  | expectedAssignmentEnd
  | expectedExpressionEnd
  | expectedExpression
  | invalidNumber
  | invalidTarget
  deriving DecidableEq

def SyntaxFault.message : SyntaxFault -> String
  | expectedName => "Expected variable name."
  | expectedEquals => "Expected '=' after variable name."
  | expectedDeclarationEnd => "Expected ';' after declaration."
  | expectedOpening => "Expected '(' after 'imprimir'."
  | expectedClosing => "Expected ')' after expression."
  | expectedPrintEnd => "Expected ';' after print statement."
  | expectedAssignmentEnd => "Expected ';' after assignment."
  | expectedExpressionEnd => "Expected ';' after expression."
  | expectedExpression => "Expected expression."
  | invalidNumber => "Invalid number literal."
  | invalidTarget => "Invalid assignment target."

structure SyntaxError where
  line : Nat
  lexeme : String
  message : String
  deriving DecidableEq

def SyntaxError.render (error : SyntaxError) : String :=
  -- Only the end of the file has no text of its own.
  let place := if error.lexeme = "" then "end" else "'" ++ error.lexeme ++ "'"
  "[line " ++ toString error.line ++ "] Error at " ++ place ++ ": " ++ error.message

def SyntaxError.renderAll (errors : List SyntaxError) : String :=
  "\n".intercalate (errors.map render)

end NumScript
