import NativeBoundary.Loading.Opened

/-!
# Hosts

A host is what calls libraries.  It keeps the libraries that it has opened beside
the private state of those libraries, and each part can be worked on without a
look at the other.
-/

namespace NativeBoundary

/-- A host: what it has opened, and the private state of the libraries. -/
structure Host (W : Type) where
  opened : OpenedLibraries
  memory : W

namespace Host

variable {W α : Type}

def fresh (memory : W) : Host W := ⟨.none, memory⟩

def onOpened (body : Crossing OpenedLibraries α) : Crossing (Host W) α :=
  body.focus (·.opened) fun opened host => { host with opened }

/-- Work on the private state of the libraries. -/
def onMemory (body : Crossing W α) : Crossing (Host W) α :=
  body.focus (·.memory) fun memory host => { host with memory }

end Host

end NativeBoundary
