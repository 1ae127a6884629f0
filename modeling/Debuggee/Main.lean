import Debuggee.CommandLine

def main (words : List String) : IO UInt32 := do
  let outcome := Debuggee.Outcome.ofCommandLine words
  (← IO.getStdout).putStr outcome.output
  if let some error := outcome.error then (← IO.getStderr).putStrLn error
  return .ofNat outcome.exit
