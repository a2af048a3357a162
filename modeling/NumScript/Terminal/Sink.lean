import NumScript.Terminal

set_option autoImplicit false

namespace NumScript

inductive FullAnswer where
  | zero
  | error
  deriving DecidableEq

structure SinkLimits where
  capacity : Nat := 2 ^ 30
  chunk : Nat := 2 ^ 30
  whenFull : FullAnswer := .zero
  failingFlush : Option Nat := none

structure Sink where
  written : List UInt8 := []
  flushes : Nat := 0

namespace Sink

def room (limits : SinkLimits) (sink : Sink) : Nat :=
  min limits.chunk (limits.capacity - sink.written.length)

def noRoomCause (limits : SinkLimits) (sink : Sink) : String :=
  if limits.whenFull = .error ∧ limits.capacity ≤ sink.written.length then "sink is full"
  else "failed to write whole buffer"

def append (sink : Sink) (bytes : List UInt8) : Sink :=
  { sink with written := sink.written ++ bytes }

def write (limits : SinkLimits) (sink : Sink) (bytes : List UInt8) : Reply × Sink :=
  if bytes = [] then (.accepted, sink)
  else if sink.room limits = 0 then (.refused (sink.noRoomCause limits), sink)
  else
    write limits (sink.append (bytes.take (sink.room limits))) (bytes.drop (sink.room limits))
termination_by bytes.length
decreasing_by
  have := List.length_pos_iff.2 ‹bytes ≠ []›
  simp only [List.length_drop]
  omega

def flush (limits : SinkLimits) (sink : Sink) : Reply × Sink :=
  let flushed := { sink with flushes := sink.flushes + 1 }
  if limits.failingFlush = some flushed.flushes then (.refused "flush refused", flushed)
  else (.accepted, flushed)

end Sink

def utf8 (text : String) : List UInt8 :=
  text.toUTF8.data.toList

def Terminal.writer (limits : SinkLimits) : Terminal Sink where
  print line sink :=
    match sink.write limits (utf8 line.text ++ utf8 "\n") with
    | (.accepted, sink) => sink.flush limits
    -- What was taken before a write failed is not flushed.
    | failed => failed

end NumScript
