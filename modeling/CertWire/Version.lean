/-! Versions: that of the structure the records follow, and that of this program. -/

namespace CertWire

def structureVersion : String := "0.9.24"

def version : String := "0.9.24.1"

end CertWire
