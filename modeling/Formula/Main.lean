import Formula.CommandLine
set_option autoImplicit false

/-!
# The program

Prints what a run of the command line leaves behind and ends with its code.
-/

def main (arguments : List String) : IO UInt32 := do
  let transcript := Formula.CommandLine.run .plain arguments
  (← IO.getStdout).putStr transcript.output
  (← IO.getStderr).putStr transcript.errors
  match transcript.code with
  | none => return 0
  | some code => return UInt32.ofNat code.toNat
