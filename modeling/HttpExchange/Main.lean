import HttpExchange.Example.Basic

/-! # The example program

    Prints the three examples, each after its title. -/

open HttpExchange

/-- The reading of the clock that the examples see; what they print does not
    depend on it. -/
def exampleClock : Float := 0.0

/-- Print the examples. -/
def main : IO UInt32 := do
  match Examples.run exampleClock "*" with
  | .ok text => IO.print text; return 0
  | .error failure => IO.eprintln failure.message; return 1
