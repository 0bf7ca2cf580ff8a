import TrustPath.Base64
import TrustPath.Hash.Sha2

/-!
# Fingerprints

Encoded certificates and revocation lists are identified by the Base64 form of their SHA-256
digest.
-/

namespace TrustPath

def fingerprint (der : Octets) : String := Base64.encode (Sha2.sha256 der)

end TrustPath
