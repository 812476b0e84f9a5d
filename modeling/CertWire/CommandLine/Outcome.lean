import CertWire.Text.Points

/-! What a run of a program leaves behind: its exit status, its output, and what it told the
person at the terminal. -/

namespace CertWire.CommandLine

/-- One thing written to the error stream. -/
inductive Notice
  /-- Says that the program waits for input from a terminal. -/
  | prompt
  /-- The log line of one format warning. -/
  | formatWarning
  | message (text : Text.Points)
deriving DecidableEq, Repr

/-- The text of a notice; log lines begin with a time stamp. -/
def Notice.text (stamp : String) : Notice → Text.Points
  | prompt => "i2pcert: reading from stdin (Ctrl-D to end)...\n"
  | formatWarning => .ofString (stamp ++ " [WARNING] i2pcert: certificate format warning\n")
  | message text => text

structure Outcome where
  status : Nat
  output : Text.Points
  notices : List Notice
deriving DecidableEq, Repr

/-- All that was written to the error stream. -/
def Outcome.errorText (outcome : Outcome) (stamp : String) : Text.Points :=
  outcome.notices.flatMap (Notice.text stamp)

/-- A program, or a command of one, as its help and its errors present it. -/
structure Program where
  name : String
  usage : String
  /-- The help text below the usage. -/
  details : String

namespace Program

def help (program : Program) : String := program.usage ++ "\n" ++ program.details

def showHelp (program : Program) (status : Nat) : Outcome := ⟨status, program.help, []⟩

/-- Refuses the command line. -/
def refuse (program : Program) (reason : Text.Points) : Outcome :=
  ⟨2, [], [.message (.ofString (program.usage ++ program.name ++ ": error: ") ++ reason ++ "\n")]⟩

end Program
end CertWire.CommandLine
