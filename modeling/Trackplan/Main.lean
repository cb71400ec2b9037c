import Trackplan.CommandLine.Run

/-! The program: writes the outcome of its arguments. -/
open Trackplan

def main (arguments : List String) : IO UInt32 := do
  let result := CommandLine.outcome arguments
  (← IO.getStdout).putStr result.output
  (← IO.getStderr).putStr result.remarks
  return result.code.toUInt32
