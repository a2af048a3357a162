import NumScript.PartialStmt

set_option autoImplicit false

namespace NumScript

inductive Attempt where
  | parsed (statement : Stmt) (unread : List Token)
  | refused (fault : SyntaxFault) (blamed : Token) (unread : List Token)

namespace Attempt

/--
Reads on from a partial statement; `last` is blamed where the tokens end too early. An unexpected
token is left unread, an invalid one is not.
-/
def read (last : Token) (state : PartialStmt) : List Token -> Attempt
  | [] => .refused state.missing last []
  | token :: rest =>
      match state.step token with
      | .next state => read last state rest
      | .done statement => .parsed statement rest
      | .unexpected => .refused state.missing token (token :: rest)
      | .invalid fault => .refused fault token rest

def atStatement (tokens : List Token) : Bool :=
  tokens.head?.any (fun token => token.kind.startsStatement)

def resume : List Token -> List Token
  | [] => []
  | token :: rest =>
      if token.kind = .semicolon ∨ atStatement rest then rest else resume rest

def remaining : Attempt -> List Token
  | parsed _ unread => unread
  | refused _ _ unread => resume unread

def statement? : Attempt -> Option Stmt
  | parsed statement _ => some statement
  | refused _ _ _ => none

def error? : Attempt -> Option SyntaxError
  | parsed _ _ => none
  | refused fault blamed _ => some ⟨blamed.line, blamed.text, fault.message⟩

theorem length_resume (token : Token) (rest : List Token) :
    (resume (token :: rest)).length ≤ rest.length := by
  induction rest generalizing token with
  | nil => simp [resume]
  | cons second rest ih =>
      rw [resume]
      split
      · exact Nat.le_refl _
      · exact Nat.le_succ_of_le (ih second)

theorem length_resume_le (tokens : List Token) : (resume tokens).length ≤ tokens.length := by
  cases tokens with
  | nil => simp [resume]
  | cons token rest => exact Nat.le_succ_of_le (length_resume token rest)

theorem length_remaining_read (last : Token) (state : PartialStmt) (token : Token)
    (rest : List Token) : (read last state (token :: rest)).remaining.length ≤ rest.length := by
  induction rest generalizing state token with
  | nil =>
      rw [read]
      split
      · simp [read, remaining, resume]
      · simp [remaining]
      · exact length_resume token []
      · simp [remaining, resume]
  | cons second rest ih =>
      rw [read]
      split
      · exact Nat.le_succ_of_le (ih _ second)
      · simp [remaining]
      · exact length_resume token (second :: rest)
      · exact length_resume_le (second :: rest)

end Attempt

def attempts (last : Token) : List Token -> List Attempt
  | [] => []
  | token :: rest =>
      let attempt := Attempt.read last .start (token :: rest)
      have := Attempt.length_remaining_read last .start token rest
      attempt :: attempts last attempt.remaining
termination_by tokens => tokens.length
decreasing_by simp only [List.length_cons]; omega

def body (tokens : List Token) : List Token :=
  tokens.takeWhile (fun token => token.kind != .endOfFile)

def closing (tokens : List Token) : Token :=
  -- Where the end of the file is missing, it is taken to be on the last line.
  (tokens.find? (fun token => token.kind = .endOfFile)).getD
    ⟨.endOfFile, "", (tokens.getLast?.map Token.line).getD 1⟩

def parse (tokens : List Token) : Except (List SyntaxError) Program :=
  let ends := attempts (closing tokens) (body tokens)
  match ends.filterMap Attempt.error? with
  | [] => .ok (ends.filterMap Attempt.statement?)
  | errors => .error errors

end NumScript
