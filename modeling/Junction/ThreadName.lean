/-!
# Names of threads

The host keeps the name of a thread as bytes that end with a zero, so a name with a zero byte in it
is refused: no thread is started, and whoever asked for it panics.

## Main definitions

* `ThreadName.bytes` — the bytes of a name
* `ThreadName.isAllowed` — whether a thread can have a name
* `ThreadName.refusal` — the message of the panic over a name that no thread can have
-/

namespace Junction.ThreadName

/-- The bytes of a name. -/
def bytes (name : String) : List UInt8 := name.toList.flatMap String.utf8EncodeChar

/-- Whether a thread can have a name: no byte of it is zero. -/
def isAllowed (name : String) : Bool := !(bytes name).contains 0

/-- The message of the panic over a refused name, with the place of its first zero byte and all its
bytes. -/
def refusal (name : String) : String :=
  let place := (bytes name).idxOf 0
  let listed := ", ".intercalate ((bytes name).map fun b => toString b.toNat)
  s!"thread name may not contain interior null bytes: NulError({place}, [{listed}])"

end Junction.ThreadName
