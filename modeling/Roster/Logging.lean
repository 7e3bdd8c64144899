/-! How a program that uses an account logs: the presets, and the one subscriber a program may
install. -/

namespace Roster

structure Logging where
  level : String := "INFO"
  json : Bool := false
  spanEvents : Bool := false
  fileLine : Bool := true
  threadNames : Bool := false
  testWriter : Bool := false
  deriving DecidableEq, Repr

namespace Logging

def default : Logging := {}

/-- For local runs. -/
def development : Logging := { level := "DEBUG", spanEvents := true, threadNames := true }

/-- Without source locations. -/
def production : Logging := { json := true, fileLine := false }

/-- Captured test by test. -/
def testing : Logging := { level := "DEBUG", testWriter := true }

/-- A second subscriber is refused; the first one stays. -/
inductive InstallFault
  | alreadyInstalled
  deriving DecidableEq, Repr

def InstallFault.message : InstallFault → String
  | alreadyInstalled => "Tracing subscriber already initialized"

/-- Installs a subscriber where there is none. -/
def install (installed : Option Logging) (logging : Logging) :
    Except InstallFault (Option Logging) :=
  match installed with
  | some _ => .error .alreadyInstalled
  | none => .ok (some logging)

end Logging

end Roster
