import PackageRollup.Record.Basic

/-!
# Events

What a run has to say while it goes on. An event has a level and a message; debug events are shown
only on request.
-/

namespace PackageRollup

inductive Level where
  | debug
  | info
  | warning
  | error
deriving DecidableEq

/-- Something that happened in a run. -/
inductive Event where
  | skipped (r : Record.Rejection)
  | grouped (bases packages edges : Nat)
  | reported (external inner : Nat)
  | reading (input : Text)
  | read (lines records dropped packages edges : Nat)
  | writing (format path : Text)
  | written (path : Text)
  | unreadableSettings (path reason : Text)
  | ignoredNames (key shown : Text)
  | ignoredFormat (shown : Text)
  /-- A warning that could not be put together. The log says so in its place, and also where in the
  program that was, which is left out here. -/
  | unshown (reason : Text)
  | failed (message : Text)

namespace Event

def level : Event → Level
  | grouped .. | reported .. | unreadableSettings .. => .debug
  | reading _ | read .. | writing .. | written _ => .info
  | skipped _ | ignoredNames .. | ignoredFormat _ | unshown _ => .warning
  | failed _ => .error

def message : Event → Text
  | skipped r => r.warning
  | grouped bases packages edges =>
    "Base packages: " ++ Text.ofNat bases ++ " (from " ++ Text.ofNat packages
      ++ " packages), base edges: " ++ Text.ofNat edges
  | reported external inner =>
    "Report: " ++ Text.ofNat external ++ " external, " ++ Text.ofNat inner
      ++ " internal base packages"
  | reading input => "Parsing dependencies from " ++ input ++ "..."
  | read lines records dropped packages edges =>
    "Read " ++ Text.ofNat lines ++ " lines: " ++ Text.ofNat records ++ " records, "
      ++ Text.ofNat dropped ++ " skipped; " ++ Text.ofNat packages ++ " packages, "
      ++ Text.ofNat edges ++ " package edges"
  | writing format path => "Generating " ++ format ++ " output to " ++ path ++ "..."
  | written path => "Report written to " ++ path
  | unreadableSettings path reason => "Could not read " ++ path ++ ": " ++ reason
  | ignoredNames key shown => "Ignoring invalid " ++ key ++ " value " ++ shown ++ " in config"
  | ignoredFormat shown => "Ignoring unknown output format " ++ shown ++ " in config"
  | unshown reason =>
    "--- Logging error ---\nTraceback (most recent call last):\n" ++ reason ++ "\nCall stack:\n"
      ++ "Unable to print the message and arguments - possible formatting error.\n"
      ++ "Use the traceback above to help find the error."
  | failed message => "Error: " ++ message

end Event

end PackageRollup
