import FleetHealth.CommandLine.Level

namespace FleetHealth.CommandLine

structure Exit where
  code : Nat
  output : String
  errors : String
  deriving DecidableEq

namespace Exit

def success (output : String) : Exit := { code := 0, output, errors := "" }

def failure (message : String) : Exit :=
  { code := 1, output := "", errors := "Error: " ++ message ++ "\n" }

def ofHalt (name version usage : String) : Halt → Exit
  | .version => success (name ++ " " ++ version ++ "\n")
  | .help => success usage
  | _ => { code := 2, output := "", errors := usage }

end Exit

def version : String := "0.1.0"

end FleetHealth.CommandLine
