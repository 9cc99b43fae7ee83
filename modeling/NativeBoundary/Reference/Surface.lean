import NativeBoundary.Surface

/-!
# The surface that the reference library reports

The reference library hashes the bytes of its own declaration: every entry
followed by a line feed, as one stream.
-/

namespace NativeBoundary.Reference

/-- The bytes of a declaration, each entry closed by a line feed. -/
def stream (surface : List String) : List UInt8 :=
  surface.flatMap fun entry => Text.bytes entry ++ [10]

/-- The 64-bit FNV-1a hash of a stream of bytes. -/
def hashStream (bytes : List UInt8) : UInt64 :=
  bytes.foldl (fun hash byte => (hash ^^^ byte.toUInt64) * 0x00000100000001b3)
    0xcbf29ce484222325

def fingerprint (surface : List String) : UInt64 :=
  hashStream (stream surface)

/-- The reference library declares what its callers were written against. -/
def declared : List String := Surface.declared

def declaredHash : UInt64 := fingerprint declared

end NativeBoundary.Reference
