import CertWire.FileTree

/-! What a run of the command line may look at besides its arguments. -/

namespace CertWire.CommandLine

structure Surroundings where
  /-- The log level that the environment sets. -/
  logLevel : Option Text.Points
  /-- Whether a person types the standard input. -/
  terminal : Bool
  standardInput : Octets
  openFile : Text.Points → Except OpenFault Octets

/-- Why a run ends without an outcome of its own. -/
inductive Escape
  /-- The file named on the command line cannot be opened. -/
  | cannotOpen (fault : OpenFault) (path : Text.Points)
  /-- Hexadecimal text was asked for with a separator in its place. -/
  | noHexText
  /-- A certificate was to be written whose kind was given as a separator. -/
  | noKind
  /-- A certificate was to be written whose length was given as a separator. -/
  | noLength
deriving DecidableEq, Repr

end CertWire.CommandLine
