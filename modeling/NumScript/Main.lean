import NumScript.Command

set_option autoImplicit false

namespace NumScript

def systemNumber (code : UInt32) : Nat :=
  -- The number may come negated.
  min code.toNat (0 - code).toNat

def faultOfError : IO.Error -> ReadFault
  | .noFileOrDirectory .. => .missing
  | .inappropriateType _ code details =>
      match systemNumber code with
      | 20 => .notDirectory
      | 21 => .directory
      | _ => .other details
  | .permissionDenied _ code _ =>
      .other ("Permission denied (os error " ++ toString (systemNumber code) ++ ")")
  | error => .other (toString error)

def readContent (path : String) : IO (Except ReadFault ByteArray) := do
  try
    return .ok (← IO.FS.readBinFile path)
  catch error =>
    return .error (faultOfError error)

def Request.content : Request -> IO (Except ReadFault ByteArray)
  | run path _ => readContent path
  | _ => return .error .missing

end NumScript

def main (arguments : List String) : IO UInt32 := do
  let request := NumScript.Request.ofArguments arguments
  let content ← request.content
  let response := request.respond (fun _ => content)
  (← IO.getStdout).putStr response.output
  (← IO.getStderr).putStr response.notes
  return response.status.toUInt32
