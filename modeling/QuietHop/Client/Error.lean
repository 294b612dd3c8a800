import QuietHop.Registry.Document
import QuietHop.Wire.Layer

namespace QuietHop
namespace Client

open Wire

/-!
# Client errors

One type carries the errors of token issuance, path selection and circuits, as in
the client crate.  The variants that only HTTP, TLS and socket code produces are
not listed, apart from the ones an issuance can end with.
-/

/-- Why no path could be built. -/
inductive NoPathReason where
  | registryUnusable
  | registryTooLarge
  | invalidRegistryEntry
  | insufficientRelays
  | diversityUnsatisfiable
  deriving DecidableEq, Repr

/-- The errors of the modelled client functions. -/
inductive ClientError where
  | http (text : String)
  | authorityStatus (code : Nat) (text : String)
  | missingField (name : String)
  | invalidResponse (text : String)
  | invalidPubkey (text : String)
  | blindVerifyFailed
  | blindOversized
  | registry (error : Registry.RegistryError)
  | noPath (reason : NoPathReason)
  | layer (error : LayerError)
  | cell (error : CellError)
  | unexpectedCell (cellType : CellType)
  deriving DecidableEq, Repr

end Client
end QuietHop
