/-!
# Equality of bytes

Two sequences of bytes are equal exactly if they hold the same bytes in the same order, and that is how equality
is decided, so that values which hold bytes can be compared by evaluation.
-/

namespace BrokerSession

/-- Whether two sequences of bytes are equal is found by comparing their bytes. -/
instance decidableEqBytes : DecidableEq ByteArray := fun _ _ =>
  decidable_of_iff _ ByteArray.ext_iff.symm

end BrokerSession
