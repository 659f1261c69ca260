import Funnel.Fault.Basic
import Funnel.Http.Token

/-!
A byte stream whose other end follows a script: what it sends, in pieces, whether it then closes or
stays silent, whether it waits for something to be written first, and how it takes what is written.
-/

namespace Funnel

open Http

/-- What the other end will do. -/
structure Wire.Script where
  /-- Pieces to be read, and faults that reading runs into. -/
  reads : List (Except Fault Bytes)
  /-- The other end closes after that. -/
  eof : Bool
  /-- Nothing can be read before the first write. -/
  gated : Bool
  /-- The first write runs into this. -/
  writeFault : Option Fault
  /-- The most bytes that one write takes. -/
  writeCap : Option Nat
  /-- Several buffers can be written at once. -/
  vectored : Bool

/-- An open stream: what is left of the script, and whether anything was written. -/
structure Wire where
  script : Wire.Script
  written : Bool

namespace Wire

def Script.silent : Script := ⟨[], false, true, none, none, false⟩

def ofScript (s : Script) : Wire := ⟨s, false⟩

/-- What one attempt to read yields. -/
inductive Read where
  | bytes (b : Bytes)
  | eof
  /-- Nothing is there yet. -/
  | pending
  | fault (f : Fault)

/-- Reads at most `size` bytes of the next piece. -/
def read (w : Wire) (size : Nat) : Read × Wire :=
  if w.script.gated && !w.written then (.pending, w)
  else if size = 0 then (.bytes [], w)
  else match w.script.reads with
    | [] => (if w.script.eof then .eof else .pending, w)
    | .error f :: rest => (.fault f.asIo, { w with script := { w.script with reads := rest } })
    | .ok b :: rest =>
      let left := b.drop size
      let rest := if left = [] then rest else .ok left :: rest
      (.bytes (b.take size), { w with script := { w.script with reads := rest } })

/-- Writes bytes and says how many were taken. The first write runs into the script's fault, if
there is one. -/
def write (w : Wire) (count : Nat) : Except Fault Nat × Wire :=
  match w.script.writeFault with
  | some f => (.error f.asIo, { w with script := { w.script with writeFault := none } })
  | none => (.ok (min count (w.script.writeCap.getD count)), { w with written := true })

end Wire

end Funnel
