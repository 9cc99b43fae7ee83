import NativeBoundary.Crossing
import NativeBoundary.Failure
import NativeBoundary.Surface

/-!
# The guard

Before any other export is called, the hash that the library reports is compared
with the expected one.  A library that reports another hash is refused.
-/

namespace NativeBoundary.Guard

open NativeBoundary.Log

variable {W : Type}

def judge (actual : UInt64) : Except InitError Unit :=
  if actual = Surface.expectedHash then .ok ()
  else .error (.mismatch Surface.expectedHash actual)

def acceptedRecord (actual : UInt64) : Record :=
  Source.guard.record .info "native API verified" [("hash", .shown (hashText actual))]

def refusedRecord (actual : UInt64) : Record :=
  Source.guard.record .error "native API mismatch, refusing to bind"
    [("expected", .shown (hashText Surface.expectedHash)), ("actual", .shown (hashText actual))]

def record (actual : UInt64) : Record :=
  if actual = Surface.expectedHash then acceptedRecord actual else refusedRecord actual

/-- Compare a reported hash with the expected one and tell about it. -/
def verify (actual : UInt64) : Crossing W (Except InitError Unit) := do
  Crossing.raise (record actual)
  pure (judge actual)

end NativeBoundary.Guard
