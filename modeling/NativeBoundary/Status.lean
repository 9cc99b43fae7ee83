/-!
# Statuses and the errors of a call

A fallible export reports a status of 32 bits, of which zero alone is success.
A call that cannot be answered fails for one of three causes, and only the
first of them carries a status.
-/

namespace NativeBoundary

/-- What a fallible export reports. -/
structure Status where
  code : Int32
deriving DecidableEq, Repr, Inhabited

namespace Status

def ok : Status := ⟨0⟩

/-- A required pointer was null. -/
def null : Status := ⟨100⟩

/-- The library caught a panic of its own. -/
def panicked : Status := ⟨200⟩

/-- Any other failure that the library reports of itself. -/
def failed : Status := ⟨300⟩

/-- Zero alone is success. -/
def isOk (status : Status) : Bool :=
  status == ok

def codeText (status : Status) : String :=
  toString status.code.toInt

/-- The four known statuses have names; any other shows its number. -/
def render (status : Status) : String :=
  if status = ok then "OK"
  else if status = null then "NULL"
  else if status = panicked then "PANIC"
  else if status = failed then "FAIL"
  else "UNKNOWN(" ++ status.codeText ++ ")"

end Status

/-- Why a call has no answer. -/
inductive CallError
  /-- The library reported a status other than success. -/
  | callFailed (status : Status)
  /-- A text holds a zero byte and so cannot be handed over. -/
  | zeroByte (position : Nat)
  /-- The library reported a discriminant that names no case. -/
  | invalidDiscriminant (typeName : String) (value : UInt32)
deriving DecidableEq, Repr

namespace CallError

/-- The status that the library reported, if the error came from one. -/
def status? : CallError → Option Status
  | .callFailed status => some status
  | .zeroByte _ => none
  | .invalidDiscriminant _ _ => none

def message : CallError → String
  | .callFailed status =>
    "native call failed with status " ++ status.render ++ " (" ++ status.codeText ++ ")"
  | .zeroByte position =>
    "Invalid string: String contains null byte at position " ++ toString position
  | .invalidDiscriminant typeName value =>
    "library returned unknown " ++ typeName ++ " discriminant " ++ toString value.toNat

end CallError

abbrev CallResult (α : Type) := Except CallError α

namespace Status

/-- Success is the empty answer; any other status is an error that carries it. -/
def toResult (status : Status) : CallResult Unit :=
  if status.isOk then .ok () else .error (.callFailed status)

@[simp]
theorem toResult_ok : ok.toResult = .ok () := rfl

theorem toResult_eq_ok_iff (status : Status) :
    status.toResult = .ok () ↔ status = ok := by
  simp only [toResult, isOk, beq_iff_eq]
  split <;> simp_all

end Status

end NativeBoundary
