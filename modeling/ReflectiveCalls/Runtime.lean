import ReflectiveCalls.Json.Reader
import ReflectiveCalls.Octets.Encoding

/-!
# Runtime — what a program finds on its machine besides files

Two things that reading depends on differ from one installation to the next: the encodings that go
by a name, and the depth to which the values of a file may be nested.  Of the encodings nothing is
assumed but what each of them promises, `Octets.Codec.flushes`, and of the depth nothing but that an
exported index is not too deep.

- `Runtime`: the encodings and the depth.
- `Runtime.usual`: no further encodings, and the usual depth.
- `Runtime.encodingOf`: the encoding of a name, whether it is always there or installed.
-/

namespace ReflectiveCalls

/-- What a program finds on its machine besides files. -/
structure Runtime where
  /-- The installed encoding of a name, or what is said if there is none for texts. -/
  codec : String → Except String Octets.Codec
  /-- The depth to which arrays and objects may be nested. -/
  nesting : Nat
  /-- An index is an object of objects of arrays. -/
  roomy : 3 ≤ nesting

/-- A runtime with no encodings besides those that have a name here. -/
def Runtime.usual : Runtime :=
  ⟨fun name => .error s!"unknown encoding: {name}", Json.maxDepth, by decide⟩

/-- The encoding of a name: one of those that are always there, or an installed one. -/
def Runtime.encodingOf (runtime : Runtime) (name : String) : Except String Octets.Encoding :=
  match Octets.Encoding.ofName? name with
  | some encoding => .ok encoding
  | none => (runtime.codec name).map fun codec => .installed codec codec.fresh

end ReflectiveCalls
