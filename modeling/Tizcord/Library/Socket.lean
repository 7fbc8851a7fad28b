/-
This file is a library for stream sockets as a C program sees them. The peer's
bytes form one stream; how they are cut is decided by a script with one entry
for each `recv` call. An entry lets some of the bytes through, or makes the call
fail with `EINTR`, `EAGAIN` or another error. A call past the end of the script
finds nothing to read. Sending is described by a script in the same way.
-/

import Mathlib.Data.List.Basic

namespace CModel

/-- The values of `errno` a program tells apart. -/
inductive Errno where
  | clear
  | again
  | connectionReset
  | protocol
  | other (code : Nat)
  deriving DecidableEq, Repr

/-! ### Receiving -/

/-- What the kernel does with one `recv` call. `count more` lets up to `more + 1` bytes through,
or reports the end of the stream when no byte is left. -/
inductive RecvResult where
  | interrupted
  | again
  | failed (errno : Errno)
  | count (more : Nat)
  deriving DecidableEq, Repr

/-- What the caller of `recv` sees. -/
inductive RecvOutcome where
  | interrupted
  | again
  | failed (errno : Errno)
  | closed
  | data (bytes : List UInt8)

/-- One `recv` of at most `requested` bytes. -/
def recv (result : RecvResult) (stream : List UInt8) (requested : Nat) : RecvOutcome :=
  match result with
  | .interrupted => .interrupted
  | .again => .again
  | .failed errno => .failed errno
  | .count more => if stream = [] then .closed else .data (stream.take (min (more + 1) requested))

/-- The receiving side of a connected socket: the bytes not yet read, and the script. -/
structure Socket where
  stream : List UInt8
  script : List RecvResult

/-- The script entries that can come up on a connection that does not break. -/
def RecvResult.Orderly : RecvResult → Prop
  | .failed _ => False
  | _ => True

instance (result : RecvResult) : Decidable result.Orderly := by
  cases result <;> unfold RecvResult.Orderly <;> infer_instance

/-- The script entries of an orderly connection whose reader waits for data. -/
def RecvResult.Blocking : RecvResult → Prop
  | .interrupted | .count _ => True
  | _ => False

instance (result : RecvResult) : Decidable result.Blocking := by
  cases result <;> unfold RecvResult.Blocking <;> infer_instance

/-- The entries that let data through. -/
def RecvResult.isCount : RecvResult → Bool
  | .count _ => true
  | _ => false

/-! ### Sending -/

/-- What the kernel does with one `send` call: `count more` accepts up to `more + 1` bytes. -/
inductive SendResult where
  | interrupted
  | failed
  | zero
  | count (more : Nat)
  deriving DecidableEq, Repr

/-- The script entries of a `send` that neither fails nor accepts nothing. -/
def SendResult.Positive : SendResult → Prop
  | .interrupted | .count _ => True
  | _ => False

instance (result : SendResult) : Decidable result.Positive := by
  cases result <;> unfold SendResult.Positive <;> infer_instance

end CModel
